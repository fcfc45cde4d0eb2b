import TokenNames.Listing
import TokenNames.TokensFile.Storage

/-!
# The command line

## Commands

The program shows the vocabulary of one tokens file.  Its first argument names a
command, the second one the file, and the arguments after that are the questions.  A
command line is understood as a whole before any file is read: a missing argument, an
unknown command or a question that is no token type is a misuse.
-/

namespace TokenNames

namespace CommandLine

inductive Inquiry where
  | listing
  | displayNames (types : List TokenType)
  | lookup (names : List String)
deriving DecidableEq

inductive Misuse where
  | listingArguments
  | displayNamesArguments
  | lookupArguments
  | notATokenType (error : NotATokenType)
  | unknown (command : String)
deriving DecidableEq

inductive Command where
  | inquire (path : String) (inquiry : Inquiry)
  | help
  | version
  | misuse (reason : Misuse)
deriving DecidableEq

/-- The command that lists every type.  Arguments after the file have no meaning. -/
def listingCommand : List String → Command
  | path :: _ => .inquire path .listing
  | [] => .misuse .listingArguments

def displayNamesCommand : List String → Command
  | path :: first :: rest =>
      match TokenType.ofTexts (first :: rest) with
      | .ok types => .inquire path (.displayNames types)
      | .error error => .misuse (.notATokenType error)
  | _ => .misuse .displayNamesArguments

def lookupCommand : List String → Command
  | path :: first :: rest => .inquire path (.lookup (first :: rest))
  | _ => .misuse .lookupArguments

def Command.ofArguments : List String → Command
  | [] => .help
  | command :: rest =>
      match command with
      | "show" => listingCommand rest
      | "name" => displayNamesCommand rest
      | "lookup" => lookupCommand rest
      | "help" | "--help" | "-h" => .help
      | "version" | "--version" | "-V" => .version
      | _ => .misuse (.unknown command)

/-!
# Outcomes

The program writes its whole answer or none of it.  When something fails it writes the
reasons as errors instead, and its exit code is one.

There is one exception.  The title of a listing is written before the listing is made, and
a listing that is too wide for the formatter ends the program in between.
-/

structure Outcome where
  code : UInt32
  stdout : String
  stderr : String
deriving DecidableEq

namespace Outcome

def success (stdout : String) : Outcome :=
  { code := 0, stdout, stderr := "" }

def failure (stderr : String) : Outcome :=
  { code := 1, stdout := "", stderr }

/-- The end of a program that breaks off.  What it had written stays written, and the
system adds to the reason where in the program it arose. -/
def crash (stdout reason : String) : Outcome :=
  { code := 101, stdout, stderr := reason ++ "\n" }

end Outcome

def helpText : String :=
  String.join [
    "Lexis (token vocabulary inspector)\n",
    "\n",
    "Usage: lexis <command> [options]\n",
    "\n",
    "Commands:\n",
    "  show <file.tokens>             List every token type with its names\n",
    "  name <file.tokens> <type>...   Show the display name of token types\n",
    "  lookup <file.tokens> <name>... Resolve literal or symbolic names to types\n",
    "  help                           Show this help message\n",
    "  version                        Show version information\n",
    "\n",
    "Set RUST_LOG (e.g. RUST_LOG=lexis_tokens=debug) for trace output.\n"]

def versionText : String :=
  "lexis 0.1.0\n"

def Misuse.outcome : Misuse → Outcome
  | .listingArguments => .failure "Usage: lexis show <file.tokens>\n"
  | .displayNamesArguments =>
      .failure ("Usage: lexis name <file.tokens> <type>...\n" ++
        "Example: lexis name Expr.tokens 1 2 -1\n")
  | .lookupArguments =>
      .failure ("Usage: lexis lookup <file.tokens> <name>...\n" ++
        "Example: lexis lookup Expr.tokens PLUS \"'+'\" EOF\n")
  | .notATokenType error => .failure ("error: " ++ error.message ++ "\n")
  | .unknown command =>
      { code := 1, stdout := helpText, stderr := "Unknown command: " ++ command ++ "\n\n" }

def errorReport (path : String) (e : TokensFile.LoadError) : String :=
  "error: " ++ e.message ++ "\n" ++
    String.join (e.causes.map fun cause => "  caused by: " ++ cause ++ "\n") ++
    if e.line?.isSome then "  in '" ++ path ++ "'\n" else ""

def title (path : String) (table : Table) : String :=
  "Vocabulary for '" ++ path ++ "' (max token type " ++ table.maxTokenType.text ++ "):\n"

def listingOutcome (path : String) (table : Table) : Outcome :=
  if Listing.fits table.vocabulary then
    .success (title path table ++ Listing.table table.vocabulary)
  else
    .crash (title path table) "Formatting argument out of range"

def Inquiry.outcome (path : String) (table : Table) : Inquiry → Logged Outcome
  | .listing => return listingOutcome path table
  | .displayNames types => return .success (Listing.displayNames table.vocabulary types)
  | .lookup names => return .success (← Listing.lookupLogged table.names names)

def Inquiry.run (readText : String → Except FileFault String) (path : String)
    (inquiry : Inquiry) : Logged Outcome := do
  match ← TokensFile.load readText path with
  | .error e => return .failure (errorReport path e)
  | .ok table =>
      Logged.emit (.loadedVocabulary path table.maxTokenType)
      inquiry.outcome path table

def Command.run (readText : String → Except FileFault String) : Command → Logged Outcome
  | .inquire path inquiry => inquiry.run readText path
  | .help => return .success helpText
  | .version => return .success versionText
  | .misuse reason => return reason.outcome

def run (readText : String → Except FileFault String) (arguments : List String) :
    Logged Outcome :=
  (Command.ofArguments arguments).run readText

end CommandLine
end TokenNames
