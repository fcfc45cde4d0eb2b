import Mathlib.Logic.Relation
import TokenNames.Proofs.TokensFile.Contents

/-!
# The layout of a tokens file

## Blanks and line ends that say nothing

Blanks around a line and around the last separator of a line are no part of its name, its
type or its fault, and neither is the form of a line end.  What comes after the last line
that is not blank says nothing either.  Reading tells no text from another one that differs
from it in this way only: neither the tables, nor the errors, nor even the reports differ.

A blank line in the middle is not of this kind, since it is counted: it moves the faults
behind it by one line.
-/

namespace TokenNames
namespace TokensFile

/-!
# Edits
-/

/-- Blanks are put into a line at a place where they have no meaning. -/
inductive Spaces (blanks : List Char) : List Char -> List Char -> Prop where
  | front {line : List Char} : Spaces blanks line (blanks ++ line)
  | back {line : List Char} : Spaces blanks line (line ++ blanks)
  | beforeSeparator {name value : List Char} : '=' ∉ value ->
      Spaces blanks (name ++ '=' :: value) (name ++ blanks ++ '=' :: value)
  | afterSeparator {name value : List Char} : '=' ∉ value ->
      Spaces blanks (name ++ '=' :: value) (name ++ '=' :: (blanks ++ value))

def BeginsAtLineEnd (cs : List Char) : Prop :=
  cs = [] ∨ exists rest, cs = '\n' :: rest ∨ cs = '\r' :: '\n' :: rest

def withReturns (cs : List Char) : List Char :=
  cs.flatMap fun c => if c = '\n' then ['\r', '\n'] else [c]

/-- Something is put into a text that makes no difference to what it says. -/
inductive Pads : List Char -> List Char -> Prop where
  | line {before line line' after blanks : List Char} :
      Text.EndsLine before -> '\n' ∉ line -> BeginsAtLineEnd after ->
      Text.AllBlank blanks -> '\n' ∉ blanks -> Spaces blanks line line' ->
      Pads (before ++ line ++ after) (before ++ line' ++ after)
  | returns (cs : List Char) : Pads cs (withReturns cs)
  | finish (cs : List Char) {blanks : List Char} :
      Text.AllBlank blanks -> Pads cs (cs ++ blanks)

/-- Texts that say the same in another layout. -/
def SameContent : List Char -> List Char -> Prop :=
  Relation.EqvGen Pads

/-!
# One line

A line is read after it is trimmed, and so is each of its sides.
-/

theorem readLine_congr {line line' : List Char}
    (h : Text.trim line = Text.trim line') : readLine line = readLine line' := by
  unfold readLine
  rw [h]

theorem isBlank_separator : Text.isBlank '=' = false := by decide +kernel

theorem isBlank_return : Text.isBlank '\r' = true := by decide +kernel

theorem sides_of_separator {name value : List Char} (h : '=' ∉ value) :
    Sides (name ++ '=' :: value) (Text.trim name) (Text.trim value) := by
  refine ⟨Text.trimStart name, Text.trimEnd value,
    Text.trim_append_mark isBlank_separator name value, ?_,
    (Text.trim_trimStart name).symm, (Text.trim_trimEnd value).symm⟩
  intro hmem
  exact h ((Text.isPrefix_trimEnd value).subset hmem)

theorem readLine_of_separator {name value : List Char} (h : '=' ∉ value) :
    readLine (name ++ '=' :: value) =
      some (readSides (Text.trim name) (Text.trim value)) :=
  readLine_of_sides (sides_of_separator h)

theorem separator_not_mem_blanks {blanks : List Char}
    (h : Text.AllBlank blanks) : '=' ∉ blanks := by
  intro hmem
  have hblank := h.isBlank _ hmem
  rw [isBlank_separator] at hblank
  cases hblank

theorem Spaces.readLine_eq {blanks line line' : List Char}
    (h : Spaces blanks line line') (hblanks : Text.AllBlank blanks) :
    readLine line' = readLine line := by
  cases h with
  | front => exact readLine_congr (Text.trim_blanks_append hblanks line)
  | back => exact readLine_congr (Text.trim_append_blanks hblanks line)
  | beforeSeparator hvalue =>
      rw [readLine_of_separator hvalue, readLine_of_separator hvalue,
        Text.trim_append_blanks hblanks]
  | afterSeparator hvalue =>
      have hvalue' : '=' ∉ blanks ++ _ :=
        List.not_mem_append (separator_not_mem_blanks hblanks) hvalue
      rw [readLine_of_separator hvalue, readLine_of_separator hvalue',
        Text.trim_blanks_append hblanks]

theorem Spaces.newline_not_mem {blanks line line' : List Char}
    (h : Spaces blanks line line') (hblanks : '\n' ∉ blanks)
    (hline : '\n' ∉ line) : '\n' ∉ line' := by
  cases h <;> simp_all

theorem readLine_append_return (line : List Char) :
    readLine (line ++ ['\r']) = readLine line := by
  apply readLine_congr
  apply Text.trim_append_blanks
  intro c hc
  rw [List.mem_singleton.mp hc]
  exact (Text.isBlank_iff _).mp isBlank_return

theorem readLine_of_allBlank {line : List Char} (h : Text.AllBlank line) :
    readLine line = none :=
  readLine_eq_none_iff.mpr (Text.trim_of_allBlank h)

/-!
# Lines that read alike

Reading sees no more of a line than its outcome, and nothing of the blank lines at the
end.
-/

/-- Lines that cannot be told from one another by reading, whatever has been read before
them. -/
def ReadAlike (ls ms : List (List Char)) : Prop :=
  forall (d : Draft) (n : Nat), d.readLines n ls = d.readLines n ms

namespace ReadAlike

theorem refl (ls : List (List Char)) : ReadAlike ls ls :=
  fun _ _ => rfl

theorem symm {ls ms : List (List Char)} (h : ReadAlike ls ms) :
    ReadAlike ms ls :=
  fun d n => (h d n).symm

theorem trans {ls ms ks : List (List Char)} (h : ReadAlike ls ms)
    (h' : ReadAlike ms ks) : ReadAlike ls ks :=
  fun d n => (h d n).trans (h' d n)

theorem cons {line line' : List Char} {ls ms : List (List Char)}
    (hline : readLine line = readLine line') (h : ReadAlike ls ms) :
    ReadAlike (line :: ls) (line' :: ms) := by
  intro d n
  rw [Draft.readLines, Draft.readLines, hline]
  cases readLine line' with
  | none => exact h d (n + 1)
  | some outcome =>
      cases outcome with
      | error fault => rfl
      | ok a => exact h _ (n + 1)

theorem append_left (ls : List (List Char)) {ms ks : List (List Char)}
    (h : ReadAlike ms ks) : ReadAlike (ls ++ ms) (ls ++ ks) := by
  induction ls with
  | nil => exact h
  | cons line ls ih => exact cons rfl ih

theorem of_blank {ls : List (List Char)}
    (h : forall line, line ∈ ls -> readLine line = none) :
    ReadAlike ls [] := by
  induction ls with
  | nil => exact refl []
  | cons line ls ih =>
      rcases List.forall_mem_cons.mp h with ⟨hline, hlater⟩
      intro d n
      rw [Draft.readLines_cons_of_blank d n (readLine_eq_none_iff.mp hline)]
      exact ih hlater d (n + 1)

end ReadAlike

theorem parseLogged_of_readAlike {source source' : String}
    (h : ReadAlike (Text.lines source'.toList) (Text.lines source.toList)) :
    parseLogged source' = parseLogged source := by
  unfold parseLogged
  rw [h {} 1]

/-!
# Texts that read alike

An edit touches one line of a text, every line end, or what follows the last line.
-/

theorem readAlike_line {line : List Char} (h : '\n' ∉ line) :
    ReadAlike (Text.lines line) [line] := by
  by_cases hnil : line = []
  · rw [hnil]
    exact (ReadAlike.of_blank (List.forall_mem_singleton.mpr rfl)).symm
  · rw [Text.lines_of_newline_not_mem h hnil]
    exact ReadAlike.refl _

theorem readAlike_newline {line : List Char} (h : '\n' ∉ line)
    (rest : List Char) :
    ReadAlike (Text.lines (line ++ '\n' :: rest))
      (line :: Text.lines rest) := by
  rcases Text.exists_line_of_newline h rest with ⟨first, hlines, hfirst⟩
  rw [hlines]
  apply ReadAlike.cons _ (ReadAlike.refl _)
  rcases hfirst with hwhole | hreturn
  · rw [hwhole]
  · rw [hreturn, readLine_append_return]

/-- What stands in a line has an influence on the outcome of that line only. -/
theorem exists_readAlike {before after : List Char}
    (hbefore : Text.EndsLine before) (hafter : BeginsAtLineEnd after) :
    exists ls ms, forall line, '\n' ∉ line ->
      ReadAlike (Text.lines (before ++ line ++ after)) (ls ++ line :: ms) := by
  rcases hafter with hnil | ⟨rest, hfeed | hreturn⟩
  · refine ⟨Text.lines before, [], ?_⟩
    intro line hline
    rw [hnil, List.append_nil, Text.lines_append hbefore]
    exact ReadAlike.append_left _ (readAlike_line hline)
  · refine ⟨Text.lines before, Text.lines rest, ?_⟩
    intro line hline
    rw [hfeed, List.append_assoc, Text.lines_append hbefore]
    exact ReadAlike.append_left _ (readAlike_newline hline rest)
  · refine ⟨Text.lines before, Text.lines rest, ?_⟩
    intro line hline
    rw [hreturn, List.append_assoc, Text.lines_append hbefore,
      Text.lines_append_return_newline hline]
    exact ReadAlike.refl _

theorem withReturns_append (cs ds : List Char) :
    withReturns (cs ++ ds) = withReturns cs ++ withReturns ds :=
  List.flatMap_append

theorem withReturns_of_newline_not_mem {cs : List Char} (h : '\n' ∉ cs) :
    withReturns cs = cs := by
  induction cs with
  | nil => rfl
  | cons c cs ih =>
      rw [List.mem_cons, not_or] at h
      have hc : withReturns [c] = [c] := by
        simp [withReturns, Ne.symm h.left]
      rw [← List.singleton_append, withReturns_append, hc, ih h.right]

theorem withReturns_newline {line : List Char} (h : '\n' ∉ line)
    (rest : List Char) :
    withReturns (line ++ '\n' :: rest) =
      line ++ '\r' :: '\n' :: withReturns rest := by
  rw [withReturns_append, withReturns_of_newline_not_mem h]
  rfl

theorem readAlike_withReturns (cs : List Char) :
    ReadAlike (Text.lines (withReturns cs)) (Text.lines cs) := by
  rcases Text.exists_splitsInto cs with ⟨ls, hcs⟩
  rw [Text.lines_of_splitsInto hcs]
  induction hcs with
  | nil => exact ReadAlike.refl _
  | last hline hne =>
      rw [withReturns_of_newline_not_mem hline,
        Text.lines_of_newline_not_mem hline hne]
      exact ReadAlike.refl _
  | newline hline _ _ ih =>
      rw [withReturns_newline hline, Text.lines_append_return_newline hline]
      exact ReadAlike.cons rfl ih
  | @returnNewline line rest ls hline _ ih =>
      -- The carriage return of the text becomes a part of the line.
      have hline' : '\n' ∉ line ++ ['\r'] := by
        simpa using hline
      rw [List.append_cons, withReturns_newline hline',
        Text.lines_append_return_newline hline']
      exact ReadAlike.cons (readLine_append_return line) ih

theorem readAlike_of_blanks_after {line blanks : List Char}
    (hline : '\n' ∉ line) (hblanks : Text.AllBlank blanks) :
    ReadAlike (Text.lines (line ++ blanks)) (Text.lines line) := by
  have hback : forall front : List Char, Text.AllBlank front ->
      ReadAlike [line ++ front] (Text.lines line) := by
    intro front hfront
    have hread := readLine_congr (Text.trim_append_blanks hfront line)
    exact (ReadAlike.cons hread (ReadAlike.refl [])).trans
      (readAlike_line hline).symm
  by_cases hfeed : '\n' ∈ blanks
  · rcases List.eq_append_cons_of_mem hfeed with ⟨front, rest, hsplit, hfront⟩
    rw [hsplit] at hblanks ⊢
    have hrest : forall l, l ∈ Text.lines rest -> readLine l = none := by
      intro l hl
      apply readLine_of_allBlank
      intro c hc
      apply hblanks
      exact List.mem_append_right _
        (List.mem_cons_of_mem _ (Text.mem_of_mem_lines hl hc))
    rw [← List.append_assoc]
    refine (readAlike_newline (List.not_mem_append hline hfront) rest).trans ?_
    refine (ReadAlike.cons rfl (ReadAlike.of_blank hrest)).trans (hback front ?_)
    intro c hc
    exact hblanks c (List.mem_append_left _ hc)
  · exact (readAlike_line (List.not_mem_append hline hfeed)).trans
      (hback blanks hblanks)

theorem readAlike_finish (cs : List Char) {blanks : List Char}
    (h : Text.AllBlank blanks) :
    ReadAlike (Text.lines (cs ++ blanks)) (Text.lines cs) := by
  rcases Text.exists_open_line cs with ⟨before, line, hcs, hbefore, hline⟩
  rw [hcs, List.append_assoc, Text.lines_append hbefore,
    Text.lines_append hbefore]
  exact ReadAlike.append_left _ (readAlike_of_blanks_after hline h)

theorem Pads.readAlike {cs ds : List Char} (h : Pads cs ds) :
    ReadAlike (Text.lines ds) (Text.lines cs) := by
  cases h with
  | line hbefore hline hafter hblanks hone hspaces =>
      rcases exists_readAlike hbefore hafter with ⟨ls, ms, hread⟩
      have hline' := hspaces.newline_not_mem hone hline
      have houtcome := hspaces.readLine_eq hblanks
      refine (hread _ hline').trans (ReadAlike.trans ?_ (hread _ hline).symm)
      exact ReadAlike.append_left ls
        (ReadAlike.cons houtcome (ReadAlike.refl ms))
  | returns => exact readAlike_withReturns cs
  | finish _ hblanks => exact readAlike_finish cs hblanks

theorem SameContent.readAlike {cs ds : List Char} (h : SameContent cs ds) :
    ReadAlike (Text.lines ds) (Text.lines cs) := by
  induction h with
  | rel _ _ hpads => exact hpads.readAlike
  | refl _ => exact ReadAlike.refl _
  | symm _ _ _ ih => exact ih.symm
  | trans _ _ _ _ _ ih ih' => exact ih'.trans ih

/-!
# A blank line in the middle

A blank line says nothing, but it has a number.
-/

def ParseError.moved (number : Nat) (e : ParseError) : ParseError :=
  if number ≤ e.line then { e with line := e.line + 1 } else e

theorem AssignmentsOf.insert_blank {front back : List (List Char)}
    {as : List Assignment} (h : AssignmentsOf (front ++ back) as)
    {blank : List Char} (hblank : Text.trim blank = []) :
    AssignmentsOf (front ++ blank :: back) as := by
  induction front generalizing as with
  | nil => exact AssignmentsOf.blank hblank h
  | cons line front ih =>
      cases h with
      | blank hline hrest => exact AssignmentsOf.blank hline (ih hrest)
      | assignment hassigns hrest =>
          exact AssignmentsOf.assignment hassigns (ih hrest)

section Insertion

variable {source source' : String} {front back : List (List Char)}
  {blank : List Char}
  (hlines : Text.lines source.toList = front ++ back)
  (hlines' : Text.lines source'.toList = front ++ blank :: back)

include hlines hlines'

theorem parse_insert_blank_of_earlier
    (hbad : exists line, line ∈ front ∧ ¬ Good line) :
    exists e, e.line ≤ front.length ∧ parse source = .error e ∧
      parse source' = .error e := by
  rcases all_good_or_first front with
    hall | ⟨before, line, after, hfront, hbefore, hline⟩
  · rcases hbad with ⟨line, hmem, hline⟩
    exact absurd (hall line hmem) hline
  · rcases not_good_iff.mp hline with ⟨fault, hfault⟩
    rw [hfront, List.append_assoc, List.cons_append] at hlines hlines'
    refine ⟨_, ?_, parse_of_first hlines hbefore hfault,
      parse_of_first hlines' hbefore hfault⟩
    show before.length + 1 ≤ front.length
    rw [hfront, List.length_append, List.length_cons]
    omega

theorem parse_insert_blank_of_later (hblank : Text.trim blank = [])
    (hgood : forall line, line ∈ front -> Good line)
    (hbad : exists line, line ∈ back ∧ ¬ Good line) :
    exists e, front.length < e.line ∧ parse source = .error e ∧
      parse source' = .error { e with line := e.line + 1 } := by
  rcases all_good_or_first back with
    hall | ⟨before, line, after, hback, hbefore, hline⟩
  · rcases hbad with ⟨line, hmem, hline⟩
    exact absurd (hall line hmem) hline
  · rcases not_good_iff.mp hline with ⟨fault, hfault⟩
    rw [hback, ← List.append_assoc] at hlines
    rw [hback, ← List.cons_append, ← List.append_assoc] at hlines'
    have hfirst : forall l, l ∈ front ++ before -> Good l :=
      List.forall_mem_append.mpr ⟨hgood, hbefore⟩
    have hfirst' : forall l, l ∈ front ++ blank :: before -> Good l :=
      List.forall_mem_append.mpr
        ⟨hgood, List.forall_mem_cons.mpr ⟨good_of_blank hblank, hbefore⟩⟩
    refine ⟨_, ?_, parse_of_first hlines hfirst hfault, ?_⟩
    · show front.length < (front ++ before).length + 1
      rw [List.length_append]
      omega
    · have hlength : (front ++ blank :: before).length =
          (front ++ before).length + 1 := by
        rw [List.length_append, List.length_append, List.length_cons,
          Nat.add_assoc]
      rw [parse_of_first hlines' hfirst' hfault, hlength]

theorem parse_insert_blank_of_good (hblank : Text.trim blank = [])
    (hgood : forall line, line ∈ front ++ back -> Good line) :
    exists table, parse source = .ok table ∧ parse source' = .ok table := by
  rw [← hlines] at hgood
  rcases exists_represents_of_good hgood with ⟨table, as, hparse, has, hrep⟩
  refine ⟨table, hparse, parse_eq_ok_iff.mpr ⟨as, ?_, hrep⟩⟩
  rw [hlines] at has
  rw [hlines']
  exact has.insert_blank hblank

theorem parse_insert_blank (hblank : Text.trim blank = []) :
    parse source' =
      (parse source).mapError (ParseError.moved (front.length + 1)) := by
  by_cases hfront : forall line, line ∈ front -> Good line
  · by_cases hback : forall line, line ∈ back -> Good line
    · rcases parse_insert_blank_of_good hlines hlines' hblank
        (List.forall_mem_append.mpr ⟨hfront, hback⟩) with
        ⟨table, hparse, hparse'⟩
      rw [hparse, hparse']
      rfl
    · rcases parse_insert_blank_of_later hlines hlines' hblank hfront
        (by simpa using hback) with ⟨e, hline, hparse, hparse'⟩
      rw [hparse, hparse', Except.mapError, ParseError.moved,
        if_pos (Nat.succ_le_of_lt hline)]
  · rcases parse_insert_blank_of_earlier hlines hlines' (by simpa using hfront)
      with ⟨e, hline, hparse, hparse'⟩
    rw [hparse, hparse', Except.mapError, ParseError.moved,
      if_neg (Nat.not_le.mpr (Nat.lt_succ_of_le hline))]

end Insertion

theorem lines_insert {before blank : String}
    (hbefore : Text.EndsLine before.toList)
    (hblank : Text.AllBlank blank.toList) (hone : '\n' ∉ blank.toList)
    (after : String) :
    exists line, Text.trim line = [] ∧
      Text.lines (before ++ after).toList =
        Text.lines before.toList ++ Text.lines after.toList ∧
      Text.lines (before ++ (blank ++ "\n" ++ after)).toList =
        Text.lines before.toList ++ line :: Text.lines after.toList := by
  rcases Text.exists_line_of_newline hone after.toList with
    ⟨line, hlines, hline⟩
  have htext : (blank ++ "\n" ++ after).toList =
      blank.toList ++ '\n' :: after.toList := by
    simp
  refine ⟨line, ?_, ?_, ?_⟩
  · apply Text.trim_of_allBlank
    intro c hc
    apply hblank
    rcases hline with hwhole | hreturn
    · rw [hwhole]
      exact hc
    · rw [hreturn]
      exact List.mem_append_left _ hc
  · rw [String.toList_append, Text.lines_append hbefore]
  · rw [String.toList_append, Text.lines_append hbefore, htext, hlines]

/-- Texts that differ in their layout only give the same table or the same error.  A blank
line in the middle adds one to the number of an error behind it, and changes nothing
else. -/
theorem parse_up_to_layout :
    (forall source source' : String,
      SameContent source.toList source'.toList ->
        parse source' = parse source) ∧
    forall before blank after : String, Text.EndsLine before.toList ->
      Text.AllBlank blank.toList -> '\n' ∉ blank.toList ->
        parse (before ++ (blank ++ "\n" ++ after)) =
          (parse (before ++ after)).mapError
            (ParseError.moved (before.toList.count '\n' + 1)) := by
  constructor
  · intro source source' h
    unfold parse
    rw [parseLogged_of_readAlike h.readAlike]
  · intro before blank after hbefore hblank hone
    rcases lines_insert hbefore hblank hone after with
      ⟨line, hline, hlines, hlines'⟩
    rw [parse_insert_blank hlines hlines' hline, Text.length_lines hbefore]

theorem parse_up_to_layout_of_fault :
    SameContent "A=1\nB=7x".toList "A=1\r\nB=\t7x\r\n \r\n".toList ∧
      parse "A=1\r\nB=\t7x\r\n \r\n" =
        .error { line := 2, fault := .invalidType "7x" .invalidDigit } ∧
      parse ("A=1\n" ++ (" \r" ++ "\n" ++ "B=7x")) =
        .error { line := 3, fault := .invalidType "7x" .invalidDigit } := by
  have hend : Text.EndsLine "A=1\n".toList := Or.inr (by decide +kernel)
  have hparse : parse "A=1\nB=7x" =
      .error { line := 2, fault := .invalidType "7x" .invalidDigit } := by
    decide +kernel
  have hspaces : Spaces ['\t'] "B=7x".toList "B=\t7x".toList :=
    @Spaces.afterSeparator ['\t'] ['B'] ['7', 'x'] (by decide)
  have htype : Pads "A=1\nB=7x".toList "A=1\nB=\t7x".toList :=
    @Pads.line _ _ _ [] _ hend (by decide +kernel) (Or.inl rfl)
      (by decide +kernel) (by decide) hspaces
  have hfinish : Pads "A=1\nB=\t7x".toList "A=1\nB=\t7x\n \n".toList :=
    @Pads.finish _ "\n \n".toList (by decide +kernel)
  have hreturns : Pads "A=1\nB=\t7x\n \n".toList
      "A=1\r\nB=\t7x\r\n \r\n".toList :=
    Pads.returns _
  have hsame := ((Relation.EqvGen.rel _ _ htype).trans _ _ _
    (Relation.EqvGen.rel _ _ hfinish)).trans _ _ _
      (Relation.EqvGen.rel _ _ hreturns)
  refine ⟨hsame, ?_, ?_⟩
  · rw [parse_up_to_layout.1 _ _ hsame, hparse]
  · rw [parse_up_to_layout.2 _ _ _ hend (by decide +kernel) (by decide +kernel)]
    decide +kernel

end TokensFile
end TokenNames
