import TokenNames.CommandLine
import TokenNames.Proofs.Listing.Alignment
import TokenNames.Proofs.Listing.Answers
import TokenNames.Proofs.TokenType.Numerals
import TokenNames.Proofs.TokensFile.Messages
import TokenNames.Proofs.TokensFile.Representation

/-!
# Outcomes of the command line

## All or nothing

A command about a file answers in full, or it reports why it cannot and answers nothing.
Which of the two happens depends on its arguments and on what the file gives, and nothing
is written before both are known.

A listing with a very long name is the exception.  Its title is written before the formatter
refuses the width of a column, so the listing is cut off behind the title.
-/

namespace TokenNames
namespace CommandLine

/-!
# Errors and answers

An error is reported line by line, and an answer is what the listing of the table says.
-/

def Reports (outcome : Outcome) (lines : List String) : Prop :=
  outcome =
    { code := 1
      stdout := ""
      stderr := String.join (lines.map fun line => line ++ "\n") }

/-- An outcome that reports what is wrong with a file: that it cannot be read and why, or
which of its lines is at fault and why. -/
structure ReportsFaults (outcome : Outcome) (path : String)
    (file : Except FileFault String) : Prop where
  unreadable : forall fault, file = .error fault ->
    exists cause, fault.Says cause ∧
      Reports outcome
        ["error: cannot read '" ++ path ++ "'", "  caused by: " ++ cause]
  malformed : forall source e, file = .ok source ->
    TokensFile.parse source = .error e ->
      exists text causes, e.fault.Says text causes ∧
        Reports outcome
          (("error: line " ++ Numeral.write e.line ++ ": " ++ text) ::
            causes.map (fun cause => "  caused by: " ++ cause) ++
            ["  in '" ++ path ++ "'"])

/-- An outcome that depends on what a file gives: the answer for its table, or the report on
what is wrong with it. -/
structure Resolves (outcome : Outcome) (path : String)
    (file : Except FileFault String) (answer : Table -> String) : Prop
    extends ReportsFaults outcome path file where
  code_eq_zero_iff : outcome.code = 0 ↔
    exists source table, file = .ok source ∧
      TokensFile.parse source = .ok table
  answered : forall source table, file = .ok source ->
    TokensFile.parse source = .ok table ->
      outcome = { code := 0, stdout := answer table, stderr := "" }

/-- The outcome of a listing.  It is cut off behind its title when a name is too long. -/
structure Lists (outcome : Outcome) (path : String)
    (file : Except FileFault String) : Prop
    extends ReportsFaults outcome path file where
  code_eq_zero_iff : outcome.code = 0 ↔
    exists source table, file = .ok source ∧
      TokensFile.parse source = .ok table ∧ Listing.Narrow table.vocabulary
  answered : forall source table, file = .ok source ->
    TokensFile.parse source = .ok table ->
    Listing.Narrow table.vocabulary ->
      outcome =
        { code := 0
          stdout := "Vocabulary for '" ++ path ++ "' (max token type " ++
            table.maxTokenType.text ++ "):\n" ++
            Listing.table table.vocabulary
          stderr := "" }
  cut_off : forall source table, file = .ok source ->
    TokensFile.parse source = .ok table ->
    ¬ Listing.Narrow table.vocabulary ->
      outcome.code = 101 ∧
        outcome.stdout = "Vocabulary for '" ++ path ++
          "' (max token type " ++ table.maxTokenType.text ++ "):\n"

/-!
# Reports
-/

theorem reports_of_says (path : String) {e : TokensFile.LoadError}
    {text : String} {causes : List String} (h : e.Says text causes) :
    Reports (.failure (errorReport path e))
      (("error: " ++ text) ::
        causes.map (fun cause => "  caused by: " ++ cause) ++
        if e.line?.isSome then ["  in '" ++ path ++ "'"] else []) := by
  rcases TokensFile.LoadError.says_iff.mp h with ⟨htext, hcauses⟩
  rw [htext, hcauses]
  apply congrArg Outcome.failure
  unfold errorReport
  split <;> simp [String.append_assoc, Function.comp_def]

theorem error_append {before after : String}
    (h : after = "error: " ++ before) (text rest : String) :
    after ++ text ++ rest = "error: " ++ (before ++ text ++ rest) := by
  rw [h, String.append_assoc, String.append_assoc, String.append_assoc]

theorem reports_of_unreadable (path : String) {fault : FileFault}
    {cause : String} (h : fault.Says cause) :
    Reports (.failure (errorReport path (.unreadable path fault)))
      ["error: cannot read '" ++ path ++ "'", "  caused by: " ++ cause] := by
  have hfirst : "error: cannot read '" = "error: " ++ "cannot read '" := rfl
  rw [error_append hfirst]
  exact reports_of_says path (.unreadable path h)

theorem reports_of_malformed (path : String) {e : TokensFile.ParseError}
    {text : String} {causes : List String} (h : e.fault.Says text causes) :
    Reports (.failure (errorReport path (.malformed e)))
      (("error: line " ++ Numeral.write e.line ++ ": " ++ text) ::
        causes.map (fun cause => "  caused by: " ++ cause) ++
        ["  in '" ++ path ++ "'"]) := by
  have hfirst : "error: line " = "error: " ++ "line " := rfl
  rw [error_append hfirst, String.append_assoc]
  exact reports_of_says path (.malformed h)

theorem reports_of_no_type (text : String) :
    Reports (.failure
        ("error: " ++ NotATokenType.message { text } ++ "\n"))
      ["error: '" ++ text ++ "' is not a token type"] := by
  have hfirst : "error: '" = "error: " ++ "'" := rfl
  rw [error_append hfirst]
  apply congrArg Outcome.failure
  show _ = "" ++ _
  rw [String.empty_append]
  rfl

/-!
# Inquiries

A table is answered for, and everything else is a report.
-/

section Inquiries

variable {readText : String -> Except FileFault String} {path : String}
variable (inquiry : Inquiry)

theorem value_run_inquiry :
    (inquiry.run readText path).value =
      match (TokensFile.load readText path).value with
      | .error e => .failure (errorReport path e)
      | .ok table => (inquiry.outcome path table).value := by
  unfold Inquiry.run
  show (Logged.value (match (TokensFile.load readText path).value with
    | .error e => _
    | .ok table => _)) = _
  cases (TokensFile.load readText path).value <;> rfl

theorem value_run_of_unreadable {fault : FileFault}
    (hfile : readText path = .error fault) :
    (inquiry.run readText path).value =
      .failure (errorReport path (.unreadable path fault)) := by
  rw [value_run_inquiry, TokensFile.load_of_unreadable hfile]

theorem value_run_of_malformed {source : String} {e : TokensFile.ParseError}
    (hfile : readText path = .ok source)
    (hparse : TokensFile.parse source = .error e) :
    (inquiry.run readText path).value =
      .failure (errorReport path (.malformed e)) := by
  rw [value_run_inquiry, TokensFile.load_of_readable hfile, hparse]
  rfl

theorem value_run_of_table {source : String} {table : Table}
    (hfile : readText path = .ok source)
    (hparse : TokensFile.parse source = .ok table) :
    (inquiry.run readText path).value =
      (inquiry.outcome path table).value := by
  rw [value_run_inquiry, TokensFile.load_of_readable hfile, hparse]
  rfl

theorem reportsFaults_inquiry :
    ReportsFaults (inquiry.run readText path).value path
      (readText path) where
  unreadable := by
    intro fault hfile
    rw [value_run_of_unreadable inquiry hfile]
    have hcause := FileFault.says_iff.mpr (Eq.refl fault.message)
    exact ⟨_, hcause, reports_of_unreadable path hcause⟩
  malformed := by
    intro source e hfile hparse
    rw [value_run_of_malformed inquiry hfile hparse]
    have hfault := TokensFile.LineFault.says_message e.line e.fault
    exact ⟨_, _, hfault, reports_of_malformed path hfault⟩

theorem code_run_inquiry_eq_zero_iff :
    (inquiry.run readText path).value.code = 0 ↔
      exists source table, readText path = .ok source ∧
        TokensFile.parse source = .ok table ∧
          (inquiry.outcome path table).value.code = 0 := by
  have hone : (1 : UInt32) ≠ 0 := by decide
  cases hfile : readText path with
  | error fault =>
      rw [value_run_of_unreadable inquiry hfile]
      simp [Outcome.failure]
  | ok source =>
      cases hparse : TokensFile.parse source with
      | error e =>
          rw [value_run_of_malformed inquiry hfile hparse]
          simp [Outcome.failure, hparse]
      | ok table =>
          rw [value_run_of_table inquiry hfile hparse]
          simp [hparse]

theorem resolves_of_outcome {answer : Table -> String}
    (h : forall table,
      (inquiry.outcome path table).value = .success (answer table)) :
    Resolves (inquiry.run readText path).value path (readText path)
      answer where
  toReportsFaults := reportsFaults_inquiry inquiry
  code_eq_zero_iff := by
    rw [code_run_inquiry_eq_zero_iff]
    simp only [h, Outcome.success, and_true]
  answered := by
    intro source table hfile hparse
    rw [value_run_of_table inquiry hfile hparse, h]
    rfl

theorem listingOutcome_of_narrow {table : Table}
    (h : Listing.Narrow table.vocabulary) (path : String) :
    listingOutcome path table =
      .success (title path table ++ Listing.table table.vocabulary) := by
  unfold listingOutcome
  rw [if_pos (Listing.fits_iff.mpr h)]

theorem listingOutcome_of_wide {table : Table}
    (h : ¬ Listing.Narrow table.vocabulary) (path : String) :
    listingOutcome path table =
      .crash (title path table) "Formatting argument out of range" := by
  unfold listingOutcome
  rw [if_neg (mt Listing.fits_iff.mp h)]

theorem code_listingOutcome_eq_zero_iff (path : String) (table : Table) :
    (listingOutcome path table).code = 0 ↔
      Listing.Narrow table.vocabulary := by
  have hcrash : (101 : UInt32) ≠ 0 := by decide
  by_cases h : Listing.Narrow table.vocabulary
  · rw [listingOutcome_of_narrow h]
    exact ⟨fun _ => h, fun _ => rfl⟩
  · rw [listingOutcome_of_wide h]
    exact ⟨fun hcode => absurd hcode hcrash, fun hnarrow => absurd hnarrow h⟩

theorem lists_listing :
    Lists (Inquiry.listing.run readText path).value path
      (readText path) where
  toReportsFaults := reportsFaults_inquiry .listing
  code_eq_zero_iff := by
    rw [code_run_inquiry_eq_zero_iff]
    simp only [← code_listingOutcome_eq_zero_iff path]
    rfl
  answered := by
    intro source table hfile hparse hnarrow
    rw [value_run_of_table .listing hfile hparse]
    exact listingOutcome_of_narrow hnarrow path
  cut_off := by
    intro source table hfile hparse hwide
    rw [value_run_of_table .listing hfile hparse]
    show (listingOutcome path table).code = 101 ∧
      (listingOutcome path table).stdout = _
    rw [listingOutcome_of_wide hwide]
    exact ⟨rfl, rfl⟩

end Inquiries

/-!
# Commands

The arguments are understood before the file is touched, so a text that is no type is
reported whatever the file holds.
-/

section Commands

variable (readText : String -> Except FileFault String) (path : String)

theorem run_show (extra : List String) :
    run readText ("show" :: path :: extra) =
      Inquiry.run readText path .listing := rfl

theorem run_lookup {names : List String} (h : names ≠ []) :
    run readText ("lookup" :: path :: names) =
      Inquiry.run readText path (.lookup names) := by
  cases names with
  | nil => exact absurd rfl h
  | cons first rest => rfl

theorem run_name {texts : List String} (h : texts ≠ []) :
    run readText ("name" :: path :: texts) =
      match TokenType.ofTexts texts with
      | .ok types => Inquiry.run readText path (.displayNames types)
      | .error e => pure (.failure ("error: " ++ e.message ++ "\n")) := by
  cases texts with
  | nil => exact absurd rfl h
  | cons first rest =>
      show Command.run readText (displayNamesCommand (path :: first :: rest)) = _
      unfold displayNamesCommand
      dsimp only
      cases TokenType.ofTexts (first :: rest) <;> rfl

theorem run_name_of_spells {texts : List String}
    {types : List TokenType} (h : texts ≠ [])
    (htypes : List.Forall₂ TokenType.Spells texts types) :
    run readText ("name" :: path :: texts) =
      Inquiry.run readText path (.displayNames types) := by
  rw [run_name readText path h, TokenType.ofTexts_eq_ok_iff.mpr htypes]

theorem run_name_of_first {before : List String} {bad : String}
    (hbefore : forall text, text ∈ before ->
      exists t, TokenType.Spells text t)
    (hbad : ¬ exists t, TokenType.Spells bad t) (after : List String) :
    run readText ("name" :: path :: (before ++ bad :: after)) =
      pure (.failure
        ("error: " ++ NotATokenType.message { text := bad } ++ "\n")) := by
  rw [run_name readText path (by simp),
    TokenType.ofTexts_of_first hbefore hbad]

theorem code_run_name_eq_zero_iff {texts : List String} (h : texts ≠ []) :
    (run readText ("name" :: path :: texts)).value.code = 0 ↔
      (exists source table, readText path = .ok source ∧
        TokensFile.parse source = .ok table) ∧
      forall text, text ∈ texts -> exists t, TokenType.Spells text t := by
  cases hread : TokenType.ofTexts texts with
  | ok types =>
      have htypes := TokenType.ofTexts_eq_ok_iff.mp hread
      rw [run_name_of_spells readText path h htypes,
        (resolves_of_outcome (.displayNames types) fun _ => rfl).code_eq_zero_iff]
      constructor
      · intro hfile
        exact ⟨hfile, TokenType.exists_of_spells htypes⟩
      · intro hboth
        exact hboth.left
  | error e =>
      rcases TokenType.ofTexts_eq_error_iff.mp hread with
        ⟨before, after, hsplit, hbefore, hbad⟩
      rw [hsplit, run_name_of_first readText path hbefore hbad]
      constructor
      · intro hcode
        have hone : (1 : UInt32) ≠ 0 := by decide
        exact absurd hcode hone
      · intro hboth
        exact absurd (hboth.right e.text (by simp)) hbad

end Commands

/-- A command about a file ends in one of two ways.  It answers in full, with exit code zero
and no errors; this happens exactly when the file is a tokens file and, for names of types,
every argument after the file is the numeral of a type.  Otherwise it reports the reason,
with exit code one and no answer: the first argument that is no numeral before any fault of
the file, then a fault of the file with its causes, and with the path where a line is at
fault.  A listing needs one thing more, that no name has more than 65535 bytes; with a
longer one nothing but the title is written. -/
theorem run_answers_or_reports (readText : String -> Except FileFault String)
    (path : String) :
    (forall extra,
      Lists (run readText ("show" :: path :: extra)).value path
        (readText path) ∧
      run readText ("show" :: path :: extra) =
        run readText ["show", path]) ∧
    (forall names, names ≠ [] ->
      Resolves (run readText ("lookup" :: path :: names)).value path
        (readText path) fun table => Listing.lookup table.names names) ∧
    (forall texts types, texts ≠ [] ->
      List.Forall₂ TokenType.Spells texts types ->
        Resolves (run readText ("name" :: path :: texts)).value path
          (readText path) fun table =>
            Listing.displayNames table.vocabulary types) ∧
    (forall texts, texts ≠ [] ->
      ((run readText ("name" :: path :: texts)).value.code = 0 ↔
        (exists source table, readText path = .ok source ∧
          TokensFile.parse source = .ok table) ∧
        forall text, text ∈ texts -> exists t, TokenType.Spells text t)) ∧
    (forall before bad after,
      (forall text, text ∈ before -> exists t, TokenType.Spells text t) ->
      (¬ exists t, TokenType.Spells bad t) ->
        Reports
          (run readText ("name" :: path :: (before ++ bad :: after))).value
          ["error: '" ++ bad ++ "' is not a token type"] ∧
        (run readText
          ("name" :: path :: (before ++ bad :: after))).events = []) ∧
    (forall arguments,
      arguments ∈
        [["show"], ["name"], ["name", path], ["lookup"], ["lookup", path]] ->
      (run readText arguments).value.code = 1 ∧
        (run readText arguments).value.stdout = "") ∧
    (forall v names, exists lines,
      List.Forall₂ (Listing.AnswersName v) names lines ∧
        Listing.lookup v names = String.join lines) ∧
    forall v types,
      Listing.displayNames v types =
        String.join (types.map fun t =>
          t.text ++ "\t" ++ v.displayName t ++ "\n") := by
  refine ⟨?_, ?_, ?_, ?_, ?_, ?_, Listing.exists_lines_lookup,
    fun _ _ => rfl⟩
  · intro extra
    rw [run_show readText path extra, run_show readText path []]
    exact ⟨lists_listing, rfl⟩
  · intro names hnames
    rw [run_lookup readText path hnames]
    exact resolves_of_outcome (.lookup names) fun _ => rfl
  · intro texts types htexts htypes
    rw [run_name_of_spells readText path htexts htypes]
    exact resolves_of_outcome (.displayNames types) fun _ => rfl
  · intro texts htexts
    exact code_run_name_eq_zero_iff readText path htexts
  · intro before bad after hbefore hbad
    rw [run_name_of_first readText path hbefore hbad]
    exact ⟨reports_of_no_type bad, rfl⟩
  · intro arguments harguments
    simp only [List.mem_cons, List.not_mem_nil, or_false] at harguments
    rcases harguments with h | h | h | h | h <;> rw [h] <;> exact ⟨rfl, rfl⟩

theorem run_answers_or_reports_display_names :
    (run (fun _ => .error .notFound)
        ["name", "f", "-1", "+07", "x", "1"]).value =
      { code := 1, stdout := "", stderr := "error: 'x' is not a token type\n" } ∧
    (run (fun _ => .ok "A=7\n") ["name", "f", "+07", "-1"]).value =
      { code := 0, stdout := "7\tA\n-1\tEOF\n", stderr := "" } ∧
    (run (fun _ => .ok "A=7\nB=x\n") ["name", "f", "+07", "-1"]).value =
      { code := 1
        stdout := ""
        stderr := "error: line 2: invalid token type `x`\n" ++
          "  caused by: invalid digit found in string\n  in 'f'\n" } := by
  have hseven : TokenType.Spells "+07" 7 :=
    TokenType.ofText_eq_ok_iff.mp (by decide)
  have heof : TokenType.Spells "-1" (-1) :=
    TokenType.ofText_eq_ok_iff.mp (by decide)
  have htypes : List.Forall₂ TokenType.Spells ["+07", "-1"] [7, -1] :=
    List.Forall₂.cons hseven (List.Forall₂.cons heof List.Forall₂.nil)
  refine ⟨?_, ?_, ?_⟩
  · have hbefore : forall text, text ∈ ["-1", "+07"] ->
        exists t, TokenType.Spells text t := by
      simpa using ⟨⟨_, heof⟩, ⟨_, hseven⟩⟩
    have hbad : ¬ exists t, TokenType.Spells "x" t := by
      intro hspells
      rcases hspells with ⟨t, ht⟩
      have hread := TokenType.ofText_of_spells ht
      have herror : TokenType.ofText "x" = .error { text := "x" } := by decide
      rw [herror] at hread
      cases hread
    rcases run_answers_or_reports (fun _ => .error .notFound) "f" with
      ⟨_, _, _, _, hreports, _⟩
    exact (hreports ["-1", "+07"] "x" ["1"] hbefore hbad).left
  · have hparse : TokensFile.parse "A=7\n" = .ok
        { symbolicNames :=
            #[none, none, none, none, none, none, none, some "A"] } := by
      decide +kernel
    rcases run_answers_or_reports (fun _ => .ok "A=7\n") "f" with
      ⟨_, _, hanswers, _⟩
    have hresolves := hanswers ["+07", "-1"] [7, -1] (by simp) htypes
    rw [hresolves.answered _ _ rfl hparse]
    decide +kernel
  · have hparse : TokensFile.parse "A=7\nB=x\n" = .error
        { line := 2, fault := .invalidType "x" .invalidDigit } := by
      decide +kernel
    rcases run_answers_or_reports (fun _ => .ok "A=7\nB=x\n") "f" with
      ⟨_, _, hanswers, _⟩
    have hresolves := hanswers ["+07", "-1"] [7, -1] (by simp) htypes
    rcases hresolves.malformed _ _ rfl hparse with
      ⟨text, causes, hfault, hreport⟩
    cases hfault
    rw [hreport]
    decide +kernel

/-!
# Long names

A file may hold a name of any length.  With a name that is too long for the formatter a
listing is cut off, although the file is a tokens file.
-/

def entryOfName (name : String) : TokensFile.Entry where
  kind := Kind.ofName name
  type := 0
  name := name

theorem writable_entryOfName {name : String}
    (h : TokensFile.FitsLine name) :
    TokensFile.Writable (entryOfName name) where
  fits := show Int32.toInt 0 ≤ 65535 by decide
  fitsLine := h
  kind_eq := rfl
  nonneg := show 0 ≤ Int32.toInt 0 by decide

theorem textOf_entryOfName (name : String) :
    TokensFile.textOf [entryOfName name] = name ++ "=0\n" := by
  have hzero : TokenType.text 0 = "0" := by decide +kernel
  have hend : "=0\n" = "=" ++ ("0" ++ "\n") := rfl
  show "" ++ (name ++ "=" ++ TokenType.text 0 ++ "\n") = name ++ "=0\n"
  rw [hzero, hend, String.empty_append, String.append_assoc,
    String.append_assoc]

theorem exists_table_of_name {name : String}
    (h : TokensFile.FitsLine name) :
    exists table, TokensFile.parse (name ++ "=0\n") = .ok table ∧
      table.names.name (Kind.ofName name) 0 = some name := by
  have hwritable : forall e, e ∈ [entryOfName name] ->
      TokensFile.Writable e :=
    List.forall_mem_singleton.mpr (writable_entryOfName h)
  rcases TokensFile.exists_table_of_textOf hwritable with
    ⟨table, hparse, hrepresents⟩
  rw [textOf_entryOfName] at hparse
  refine ⟨table, hparse, ?_⟩
  have hname := (hrepresents.fills (entryOfName name).assignment.kind).name
    (entryOfName name).assignment.type.toNat
  rw [List.map_singleton, TokensFile.Draft.ofKind_of_eq,
    TokensFile.lastName_of_eq] at hname
  rw [table.name_of_nonneg _ (by decide)]
  exact hname

def longName (letters : Nat) : String :=
  String.ofList (List.replicate letters 'A')

theorem fitsLine_longName {letters : Nat} (h : 0 < letters) :
    TokensFile.FitsLine (longName letters) := by
  have hmem : forall c, c ∈ (longName letters).toList -> c = 'A' := by
    intro c hc
    rw [longName, String.toList_ofList] at hc
    exact List.eq_of_mem_replicate hc
  have hvisible : Text.isBlank 'A' = false := by decide
  constructor
  · intro hempty
    have hlength := congrArg String.length hempty
    rw [longName, String.length_ofList, List.length_replicate] at hlength
    exact Nat.ne_of_gt h hlength
  · apply Text.trim_eq_self_iff.mpr
    constructor
    · intro c hc
      rw [hmem c (List.mem_of_mem_head? hc)]
      exact hvisible
    · intro c hc
      rw [hmem c (List.mem_of_mem_getLast? hc)]
      exact hvisible
  · intro hfeed
    cases hmem _ hfeed

theorem run_show_of_long_name
    (readText : String -> Except FileFault String) (path : String)
    {letters : Nat} (h : 65535 < letters)
    (hfile : readText path = .ok (longName letters ++ "=0\n")) :
    exists table,
      TokensFile.parse (longName letters ++ "=0\n") = .ok table ∧
      (run readText ["show", path]).value =
        .crash (title path table) "Formatting argument out of range" := by
  have hfits := fitsLine_longName (Nat.zero_lt_of_lt h)
  rcases exists_table_of_name hfits with ⟨table, hparse, hname⟩
  refine ⟨table, hparse, ?_⟩
  rw [run_show, value_run_of_table .listing hfile hparse]
  apply listingOutcome_of_wide
  intro hnarrow
  -- The name is listed, and no text has fewer bytes than characters.
  have hbytes := hnarrow _ 0 _ (by decide)
    (Table.le_maxTokenType_of_name hname) hname
  have hlength := length_le_utf8ByteSize (longName letters)
  rw [longName, String.length_ofList, List.length_replicate] at hlength
  exact absurd (Nat.le_trans hlength hbytes) (Nat.not_le.mpr h)

/-- A tokens file whose listing ends behind the title, with an exit code that is not zero. -/
theorem listing_cut_off_by_long_name :
    exists table,
      TokensFile.parse (longName 65536 ++ "=0\n") = .ok table ∧
      (run (fun _ => .ok (longName 65536 ++ "=0\n"))
        ["show", "f"]).value.code = 101 ∧
      (run (fun _ => .ok (longName 65536 ++ "=0\n"))
        ["show", "f"]).value.stdout =
          "Vocabulary for 'f' (max token type " ++
            table.maxTokenType.text ++ "):\n" := by
  rcases run_show_of_long_name
    (fun _ => .ok (longName 65536 ++ "=0\n")) "f" (by decide) rfl with
    ⟨table, hparse, hrun⟩
  rw [hrun]
  exact ⟨table, hparse, rfl, rfl⟩

end CommandLine
end TokenNames
