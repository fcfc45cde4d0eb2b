import TokenNames.Proofs.TokensFile.Grammar
import TokenNames.TokensFile.Parse

/-!
# Which texts are tokens files

## The first faulty line

A text is a tokens file exactly when all its lines are good.  Any other text is refused
for its first line that is not good: neither the number nor the fault that is reported
depends on a later line.

Reading is a loop over the lines that carries a draft of the columns.  The draft has no
influence on where the loop ends, so the facts of this module hold for every draft and
every number of the first line.
-/

namespace TokenNames
namespace TokensFile

namespace Draft

/-!
# One line

What the loop does with the first of the lines, by the three kinds of lines.
-/

theorem readLines_cons_of_blank (d : Draft) (n : Nat) {line : List Char}
    (h : Text.trim line = []) (rest : List (List Char)) :
    d.readLines n (line :: rest) = d.readLines (n + 1) rest := by
  rw [readLines, readLine_eq_none_iff.mpr h]

theorem readLines_cons_of_assigns (d : Draft) (n : Nat) {line : List Char}
    {a : Assignment} (h : Assigns line a) (rest : List (List Char)) :
    d.readLines n (line :: rest) =
      ((d.enter a).report n a).readLines (n + 1) rest := by
  rw [readLines, readLine_of_assigns h]

theorem readLines_cons_of_offends (d : Draft) (n : Nat) {line : List Char}
    {fault : LineFault} (h : Offends line fault) (rest : List (List Char)) :
    d.readLines n (line :: rest) = (d, some { line := n, fault }) := by
  rw [readLines, readLine_of_offends h]

theorem readLines_cons_of_good (d : Draft) (n : Nat) {line : List Char}
    (h : Good line) (rest : List (List Char)) :
    exists d' : Draft,
      d.readLines n (line :: rest) = d'.readLines (n + 1) rest := by
  rcases good_iff.mp h with hblank | ⟨a, hassigns⟩
  · exact ⟨d, readLines_cons_of_blank d n hblank rest⟩
  · exact ⟨_, readLines_cons_of_assigns d n hassigns rest⟩

/-!
# All lines
-/

theorem readLines_append_of_good (d : Draft) (n : Nat)
    {before : List (List Char)}
    (h : forall line, line ∈ before -> Good line) (rest : List (List Char)) :
    exists d' : Draft,
      d.readLines n (before ++ rest) =
        d'.readLines (n + before.length) rest := by
  induction before generalizing d n with
  | nil => exact ⟨d, rfl⟩
  | cons line before ih =>
      rcases List.forall_mem_cons.mp h with ⟨hline, hlater⟩
      rcases readLines_cons_of_good d n hline (before ++ rest) with
        ⟨d₁, hfirst⟩
      rcases ih d₁ (n + 1) hlater with ⟨d₂, hrest⟩
      exists d₂
      rw [List.cons_append, hfirst, hrest, List.length_cons,
        Nat.add_right_comm, Nat.add_assoc]

theorem readLines_error_of_good (d : Draft) (n : Nat)
    {lines : List (List Char)}
    (h : forall line, line ∈ lines -> Good line) :
    (d.readLines n lines).2 = none := by
  rcases readLines_append_of_good d n h [] with ⟨d', hall⟩
  rw [List.append_nil] at hall
  rw [hall]
  rfl

theorem readLines_error_of_first (d : Draft) (n : Nat)
    {before : List (List Char)}
    (h : forall line, line ∈ before -> Good line) {line : List Char}
    {fault : LineFault} (hfault : Offends line fault)
    (after : List (List Char)) :
    (d.readLines n (before ++ line :: after)).2 =
      some { line := n + before.length, fault } := by
  rcases readLines_append_of_good d n h (line :: after) with ⟨d', hfront⟩
  rw [hfront, readLines_cons_of_offends d' _ hfault after]

end Draft

/-!
# Texts

Either all lines of a text are good or there is a first one that is not, so the two
outcomes of the loop leave no third case.
-/

theorem all_good_or_first (lines : List (List Char)) :
    (forall line, line ∈ lines -> Good line) ∨
      exists before line after, lines = before ++ line :: after ∧
        (forall l, l ∈ before -> Good l) ∧ ¬ Good line := by
  induction lines with
  | nil =>
      left
      exact List.forall_mem_nil Good
  | cons line lines ih =>
      by_cases hgood : Good line
      · rcases ih with hall | ⟨before, bad, after, hsplit, hbefore, hbad⟩
        · left
          exact List.forall_mem_cons.mpr ⟨hgood, hall⟩
        · right
          refine ⟨line :: before, bad, after, ?_,
            List.forall_mem_cons.mpr ⟨hgood, hbefore⟩, hbad⟩
          rw [hsplit]
          rfl
      · right
        exact ⟨[], line, lines, rfl, List.forall_mem_nil Good, hgood⟩

theorem parseLogged_of_error {source : String} {e : ParseError}
    (h : (Draft.readLines {} 1 (Text.lines source.toList)).2 = some e) :
    parseLogged source =
      { value := .error e
        events := (Draft.readLines {} 1
          (Text.lines source.toList)).1.reports.toList } := by
  unfold parseLogged
  split
  · next hread =>
      rw [hread] at h
      cases h
      rw [hread]
  · next hread =>
      rw [hread] at h
      cases h

theorem parseLogged_of_no_error {source : String}
    (h : (Draft.readLines {} 1 (Text.lines source.toList)).2 = none) :
    parseLogged source =
      { value :=
          .ok (Draft.readLines {} 1 (Text.lines source.toList)).1.table
        events :=
          (Draft.readLines {} 1
            (Text.lines source.toList)).1.reports.toList ++
          [.parsedTokensFile
            (Draft.readLines {} 1
              (Text.lines source.toList)).1.literalNames.count
            (Draft.readLines {} 1
              (Text.lines source.toList)).1.symbolicNames.count] } := by
  unfold parseLogged
  split
  · next hread =>
      rw [hread] at h
      cases h
  · next hread => rw [hread]

theorem parse_of_error {source : String} {e : ParseError}
    (h : (Draft.readLines {} 1 (Text.lines source.toList)).2 = some e) :
    parse source = .error e := by
  rw [parse, parseLogged_of_error h]

theorem parse_of_no_error {source : String}
    (h : (Draft.readLines {} 1 (Text.lines source.toList)).2 = none) :
    parse source =
      .ok (Draft.readLines {} 1 (Text.lines source.toList)).1.table := by
  rw [parse, parseLogged_of_no_error h]

theorem parse_of_good {source : String}
    (h : forall line, line ∈ Text.lines source.toList -> Good line) :
    parse source =
      .ok (Draft.readLines {} 1 (Text.lines source.toList)).1.table :=
  parse_of_no_error (Draft.readLines_error_of_good {} 1 h)

theorem parse_of_first {source : String} {before after : List (List Char)}
    {line : List Char} {fault : LineFault}
    (hsplit : Text.lines source.toList = before ++ line :: after)
    (hbefore : forall l, l ∈ before -> Good l)
    (hfault : Offends line fault) :
    parse source = .error { line := before.length + 1, fault } := by
  apply parse_of_error
  rw [hsplit, Draft.readLines_error_of_first {} 1 hbefore hfault,
    Nat.add_comm 1]

theorem good_of_parse {source : String} {table : Table}
    (h : parse source = .ok table) :
    forall line, line ∈ Text.lines source.toList -> Good line := by
  rcases all_good_or_first (Text.lines source.toList) with
    hall | ⟨before, line, after, hsplit, hbefore, hbad⟩
  · exact hall
  · rcases not_good_iff.mp hbad with ⟨fault, hfault⟩
    rw [parse_of_first hsplit hbefore hfault] at h
    cases h

theorem first_of_parse {source : String} {e : ParseError}
    (h : parse source = .error e) :
    exists before line after,
      Text.lines source.toList = before ++ line :: after ∧
        (forall l, l ∈ before -> Good l) ∧ ¬ Good line ∧
        Offends line e.fault ∧ e.line = before.length + 1 := by
  rcases all_good_or_first (Text.lines source.toList) with
    hall | ⟨before, line, after, hsplit, hbefore, hbad⟩
  · rw [parse_of_good hall] at h
    cases h
  · rcases not_good_iff.mp hbad with ⟨fault, hfault⟩
    rw [parse_of_first hsplit hbefore hfault] at h
    cases h
    exact ⟨before, line, after, hsplit, hbefore, hbad, hfault, rfl⟩

/-- The texts that are accepted, and the error of any other text: it names the first line
that is not good and the only fault of that line. -/
theorem parse_accepts_or_names_first_fault (source : String) :
    ((exists table, parse source = .ok table) ↔
      forall line, line ∈ Text.lines source.toList -> Good line) ∧
    (forall e, parse source = .error e ↔
      exists before line after,
        Text.lines source.toList = before ++ line :: after ∧
          (forall l, l ∈ before -> Good l) ∧ ¬ Good line ∧
          Offends line e.fault ∧ e.line = before.length + 1) ∧
    (forall line, ¬ Good line ->
      exists fault, Offends line fault ∧
        forall other, Offends line other -> other = fault) ∧
    (forall lines, Text.SplitsInto source.toList lines ↔
      Text.lines source.toList = lines) ∧
    forall c, Text.isBlank c = true ↔ Text.IsWhiteSpace c.toNat := by
  refine ⟨⟨?_, ?_⟩, ?_, ?_, fun _ => Text.splitsInto_iff, Text.isBlank_iff⟩
  · intro haccepted
    rcases haccepted with ⟨table, hparse⟩
    exact good_of_parse hparse
  · intro hgood
    exact ⟨_, parse_of_good hgood⟩
  · intro e
    constructor
    · exact first_of_parse
    · intro hfirst
      rcases hfirst with
        ⟨before, line, after, hsplit, hbefore, _, hfault, hnumber⟩
      rw [parse_of_first hsplit hbefore hfault, ← hnumber]
  · intro line hbad
    rcases not_good_iff.mp hbad with ⟨fault, hfault⟩
    exact ⟨fault, hfault, fun other hother => hother.unique hfault⟩

theorem parse_names_fault_of_third_line :
    parse "A=1\n\n=x\r\nB" = .error { line := 3, fault := .emptyName } ∧
      ¬ forall line, line ∈ Text.lines "A=1\n\n=x\r\nB".toList ->
        Good line := by
  have herror : parse "A=1\n\n=x\r\nB" =
      .error { line := 3, fault := .emptyName } := by
    decide +kernel
  refine ⟨herror, ?_⟩
  intro hgood
  rcases (parse_accepts_or_names_first_fault _).1.mpr hgood with ⟨table, hok⟩
  rw [herror] at hok
  cases hok

end TokensFile
end TokenNames
