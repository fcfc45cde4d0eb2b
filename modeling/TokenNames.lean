import TokenNames.Cache.Reader
import TokenNames.CommandLine
import TokenNames.Expected
import TokenNames.Main
import TokenNames.Proofs.Cache.RoundTrip
import TokenNames.Proofs.TokensFile.Canonical
import TokenNames.Proofs.TokensFile.Observation
import TokenNames.Proofs.Vocabulary.ReverseLookup
import TokenNames.Proofs.CommandLine.Outcomes
import TokenNames.Proofs.TokensFile.Export
import TokenNames.Proofs.FileSystem.Replacement
import TokenNames.Proofs.TokensFile.Saving
import TokenNames.Proofs.TokensFile.Refusals
import TokenNames.Proofs.Numeral.Checking
import TokenNames.Proofs.TokensFile.TypeField
import TokenNames.Proofs.TokensFile.Concatenation
import TokenNames.Proofs.TokensFile.Reordering
import TokenNames.Proofs.TokensFile.Layout
import TokenNames.Proofs.Vocabulary.Resolution
import TokenNames.Proofs.Listing.Alignment
import TokenNames.Proofs.Table.Precedence
import TokenNames.Proofs.Vocabulary.Expectation
import TokenNames.Proofs.TokensFile.Replay
import TokenNames.Proofs.Listing.Questions
import TokenNames.Proofs.Table.Construction
