import TokenNames.Proofs.Numeral.Reading
import TokenNames.Proofs.Text.Splitting
import TokenNames.Proofs.Text.Trimming
import TokenNames.TokensFile.Assignment

/-!
# The grammar of a line

## Blank lines, assignments and faults

A line of a tokens file is blank, or it is an assignment, or it has a fault.  The three
cases are stated here without the reader, in terms of how the line is spelled, and the
reader is shown to tell them apart.
-/

namespace TokenNames
namespace TokensFile

/-- The sides of a line: what stands before and after its last separator, without the
blanks around the line and around either side. -/
def Sides (line name value : List Char) : Prop :=
  exists before after, Text.trim line = before ++ '=' :: after ∧
    '=' ∉ after ∧ name = Text.trim before ∧ value = Text.trim after

def Assigns (line : List Char) (a : Assignment) : Prop :=
  exists name value, Sides line name value ∧ name ≠ [] ∧
    a.name = String.ofList name ∧ Numeral.Denotes value a.type.toNat

/-- A line that a tokens file can have: nothing, or a name and a number of 16 bits. -/
def Good (line : List Char) : Prop :=
  Text.trim line = [] ∨
    exists name value i, Sides line name value ∧ name ≠ [] ∧
      Numeral.Denotes value i ∧ 0 ≤ i ∧ i ≤ 65535

def Fits64 (i : Int) : Prop :=
  -9223372036854775808 ≤ i ∧ i ≤ 9223372036854775807

/-- The faults of a type.  The digits at the start of a text are looked at before the
characters after them, but only digits beyond 64 bits outweigh those characters. -/
inductive TypeFault (value : List Char) : LineFault -> Prop where
  | empty : value = [] ->
      TypeFault value (.invalidType (String.ofList value) .empty)
  | noNumeral {sign : Numeral.Sign} {ds rest : List Char} :
      value ≠ [] -> Numeral.Begins value sign ds rest ->
      Fits64 (sign.factor * Numeral.magnitude ds) -> ds = [] ∨ rest ≠ [] ->
      TypeFault value (.invalidType (String.ofList value) .invalidDigit)
  | beyond64 {sign : Numeral.Sign} {ds rest : List Char} :
      Numeral.Begins value sign ds rest ->
      ¬ Fits64 (sign.factor * Numeral.magnitude ds) ->
      TypeFault value (.outOfRange (String.ofList value))
  | beyond16 {i : Int} :
      Numeral.Denotes value i -> ¬ (0 ≤ i ∧ i ≤ 65535) ->
      TypeFault value (.outOfRange (String.ofList value))

/-- The faults of a line, in the order in which they are looked for. -/
inductive Offends (line : List Char) : LineFault -> Prop where
  | missingAssignment : Text.trim line ≠ [] -> '=' ∉ Text.trim line ->
      Offends line (.missingAssignment (String.ofList (Text.trim line)))
  | emptyName {value : List Char} : Sides line [] value ->
      Offends line .emptyName
  | badType {name value : List Char} {fault : LineFault} :
      Sides line name value -> name ≠ [] -> TypeFault value fault ->
      Offends line fault

/-!
# Types

The reader works with the bounds of 64 bits and checks those of the format afterwards.
-/

theorem int64_minValue :
    Int64.minValue.toInt = -9223372036854775808 := by decide

theorem int64_maxValue :
    Int64.maxValue.toInt = 9223372036854775807 := by decide

theorem maxFile_toInt : TokenType.maxFile.toInt = 65535 := by decide

theorem fits64_iff (i : Int) :
    Fits64 i ↔ Int64.minValue.toInt ≤ i ∧ i ≤ Int64.maxValue.toInt := by
  rw [int64_minValue, int64_maxValue, Fits64]

theorem readChars64_eq_ok_iff {value : List Char} {i : Int} :
    Numeral.readChars Int64.minValue.toInt Int64.maxValue.toInt value = .ok i ↔
      Numeral.Denotes value i ∧ Fits64 i := by
  rw [Numeral.readChars_eq_ok_iff (by decide) (by decide), fits64_iff]

theorem readChars64_of_beyond {value ds rest : List Char}
    {sign : Numeral.Sign} (h : Numeral.Begins value sign ds rest)
    (hbeyond : ¬ Fits64 (sign.factor * Numeral.magnitude ds)) :
    Numeral.readChars Int64.minValue.toInt Int64.maxValue.toInt value =
      .error .overflow := by
  rw [fits64_iff] at hbeyond
  rw [Numeral.readChars_eq_outcome (by decide) (by decide) h,
    Numeral.outcome, if_neg hbeyond]

theorem readChars64_of_noNumeral {value ds rest : List Char}
    {sign : Numeral.Sign} (h : Numeral.Begins value sign ds rest)
    (hfits : Fits64 (sign.factor * Numeral.magnitude ds))
    (hrest : ds = [] ∨ rest ≠ []) (hne : value ≠ []) :
    Numeral.readChars Int64.minValue.toInt Int64.maxValue.toInt value =
      .error (.malformed .invalidDigit) := by
  have hpartial : ¬ (ds ≠ [] ∧ rest = []) := by
    intro hboth
    rcases hboth with ⟨hds, hnil⟩
    rcases hrest with hleft | hright
    · exact hds hleft
    · exact hright hnil
  have hmark : sign.mark ++ rest ≠ [] := by
    intro hnil
    rcases List.append_eq_nil_iff.mp hnil with ⟨hsign, hright⟩
    apply hne
    rw [h.eq_nil_iff]
    refine ⟨hsign, ?_, hright⟩
    exact hrest.resolve_right (fun hno => hno hright)
  rw [fits64_iff] at hfits
  rw [Numeral.readChars_eq_outcome (by decide) (by decide) h,
    Numeral.outcome, if_pos hfits, if_neg hpartial, if_neg hmark]

theorem toNat_ofNat_toNat {i : Int} (h : 0 ≤ i ∧ i ≤ 65535) :
    ((UInt16.ofNat i.toNat).toNat : Int) = i := by
  rw [UInt16.toNat_ofNat']
  omega

theorem readType_of_read {value : List Char} {i : Int}
    (h : Numeral.readChars Int64.minValue.toInt Int64.maxValue.toInt value =
      .ok i) :
    readType value =
      if 0 ≤ i ∧ i ≤ 65535 then .ok (UInt16.ofNat i.toNat)
      else .error (.outOfRange (String.ofList value)) := by
  unfold readType
  rw [h, ← maxFile_toInt]

theorem readType_eq_ok_iff {value : List Char} {n : UInt16} :
    readType value = .ok n ↔ Numeral.Denotes value n.toNat := by
  constructor
  · intro h
    cases hread : Numeral.readChars Int64.minValue.toInt
        Int64.maxValue.toInt value with
    | error fault =>
        unfold readType at h
        rw [hread] at h
        cases fault <;> cases h
    | ok i =>
        rw [readType_of_read hread] at h
        split at h
        · next hin =>
            cases h
            rw [toNat_ofNat_toNat hin]
            exact (readChars64_eq_ok_iff.mp hread).left
        · cases h
  · intro h
    have hsmall : n.toNat < 65536 := n.toNat_lt
    have hfits : Fits64 n.toNat := by
      constructor <;> omega
    rw [readType_of_read (readChars64_eq_ok_iff.mpr ⟨h, hfits⟩),
      if_pos (by omega), Int.toNat_natCast, UInt16.ofNat_toNat]

theorem typeFault_of_readType {value : List Char} {fault : LineFault}
    (h : readType value = .error fault) : TypeFault value fault := by
  rcases Numeral.exists_begins value with ⟨sign, ds, rest, hbegins⟩
  by_cases hfits : Fits64 (sign.factor * Numeral.magnitude ds)
  · by_cases hrest : ds = [] ∨ rest ≠ []
    · by_cases hnil : value = []
      · rw [hnil] at h ⊢
        cases h
        exact TypeFault.empty rfl
      · unfold readType at h
        rw [readChars64_of_noNumeral hbegins hfits hrest hnil] at h
        cases h
        exact TypeFault.noNumeral hnil hbegins hfits hrest
    · rw [not_or, not_not] at hrest
      rcases hrest with ⟨hds, hwhole⟩
      have hdenotes : Numeral.Denotes value
          (sign.factor * Numeral.magnitude ds) := by
        refine ⟨sign, ds, ?_, hds, hbegins.digits, rfl⟩
        rw [hbegins.text_eq, hwhole, List.append_nil]
      rw [readType_of_read (readChars64_eq_ok_iff.mpr ⟨hdenotes, hfits⟩)] at h
      split at h
      · cases h
      · next hout =>
          cases h
          exact TypeFault.beyond16 hdenotes hout
  · unfold readType at h
    rw [readChars64_of_beyond hbegins hfits] at h
    cases h
    exact TypeFault.beyond64 hbegins hfits

theorem readType_of_typeFault {value : List Char} {fault : LineFault}
    (h : TypeFault value fault) : readType value = .error fault := by
  cases h with
  | empty hnil =>
      rw [hnil]
      rfl
  | noNumeral hne hbegins hfits hrest =>
      unfold readType
      rw [readChars64_of_noNumeral hbegins hfits hrest hne]
  | beyond64 hbegins hbeyond =>
      unfold readType
      rw [readChars64_of_beyond hbegins hbeyond]
  | beyond16 hdenotes hout =>
      rename_i i
      by_cases hfits : Fits64 i
      · rw [readType_of_read (readChars64_eq_ok_iff.mpr ⟨hdenotes, hfits⟩),
          if_neg hout]
      · rcases Numeral.begins_of_denotes hdenotes with
          ⟨sign, ds, hbegins, _, hi⟩
        rw [hi] at hfits
        unfold readType
        rw [readChars64_of_beyond hbegins hfits]

theorem readType_eq_error_iff {value : List Char} {fault : LineFault} :
    readType value = .error fault ↔ TypeFault value fault :=
  ⟨typeFault_of_readType, readType_of_typeFault⟩

/-!
# Lines

The reader cuts a line where its sides are, and the sides are determined by the line.
-/

theorem sides_iff_cutAtLast {line name value : List Char} :
    Sides line name value ↔
      exists before after,
        Text.cutAtLast '=' (Text.trim line) = some (before, after) ∧
          name = Text.trim before ∧ value = Text.trim after := by
  constructor
  · intro hsides
    rcases hsides with ⟨before, after, hline, hfree, hname, hvalue⟩
    exact ⟨before, after, Text.cutAtLast_eq_some_iff.mpr ⟨hline, hfree⟩,
      hname, hvalue⟩
  · intro hparts
    rcases hparts with ⟨before, after, hcut, hname, hvalue⟩
    rcases Text.cutAtLast_eq_some_iff.mp hcut with ⟨hline, hfree⟩
    exact ⟨before, after, hline, hfree, hname, hvalue⟩

theorem readAssignment_of_sides {line name value : List Char}
    (h : Sides line name value) :
    readAssignment (Text.trim line) = readSides name value := by
  rcases sides_iff_cutAtLast.mp h with ⟨before, after, hcut, hname, hvalue⟩
  unfold readAssignment
  rw [hcut, hname, hvalue]

theorem trim_ne_nil_of_sides {line name value : List Char}
    (h : Sides line name value) : Text.trim line ≠ [] := by
  rcases h with ⟨before, after, hline, _⟩
  rw [hline]
  simp

theorem trim_ne_nil_of_assigns {line : List Char} {a : Assignment}
    (h : Assigns line a) : Text.trim line ≠ [] := by
  rcases h with ⟨name, value, hsides, _⟩
  exact trim_ne_nil_of_sides hsides

theorem readLine_of_sides {line name value : List Char}
    (h : Sides line name value) :
    readLine line = some (readSides name value) := by
  unfold readLine
  rw [if_neg (trim_ne_nil_of_sides h), readAssignment_of_sides h]

theorem readLine_of_no_separator {line : List Char}
    (hne : Text.trim line ≠ []) (h : '=' ∉ Text.trim line) :
    readLine line =
      some (.error (.missingAssignment (String.ofList (Text.trim line)))) := by
  unfold readLine readAssignment
  rw [if_neg hne, Text.cutAtLast_eq_none_iff.mpr h]

theorem readLine_eq_none_iff {line : List Char} :
    readLine line = none ↔ Text.trim line = [] := by
  unfold readLine
  split
  · next hblank => exact ⟨fun _ => hblank, fun _ => rfl⟩
  · next hline =>
      constructor
      · intro h
        cases h
      · intro hblank
        exact absurd hblank hline

theorem exists_sides_or_no_separator (line : List Char) :
    (exists name value, Sides line name value) ∨ '=' ∉ Text.trim line := by
  by_cases h : '=' ∈ Text.trim line
  · rcases Text.exists_last_of_mem h with ⟨before, after, hline, hfree⟩
    exact Or.inl ⟨_, _, before, after, hline, hfree, rfl, rfl⟩
  · exact Or.inr h

theorem readSides_nil (value : List Char) :
    readSides [] value = .error .emptyName := rfl

theorem readSides_of_name {name : List Char} (hname : name ≠ [])
    (value : List Char) :
    readSides name value =
      (readType value).map fun type =>
        { name := String.ofList name, type } := by
  unfold readSides
  rw [if_neg hname]

theorem readLine_cases (line : List Char) :
    Text.trim line = [] ∨
      (Text.trim line ≠ [] ∧ '=' ∉ Text.trim line) ∨
        (exists value, Sides line [] value) ∨
          exists name value, Sides line name value ∧ name ≠ [] := by
  by_cases hblank : Text.trim line = []
  · exact Or.inl hblank
  · rcases exists_sides_or_no_separator line with hsides | hno
    · rcases hsides with ⟨name, value, hsides⟩
      by_cases hname : name = []
      · rw [hname] at hsides
        exact Or.inr (Or.inr (Or.inl ⟨value, hsides⟩))
      · exact Or.inr (Or.inr (Or.inr ⟨name, value, hsides, hname⟩))
    · exact Or.inr (Or.inl ⟨hblank, hno⟩)

theorem readLine_of_name {line name value : List Char}
    (h : Sides line name value) (hname : name ≠ []) :
    readLine line =
      some ((readType value).map fun type =>
        { name := String.ofList name, type }) := by
  rw [readLine_of_sides h, readSides_of_name hname]

theorem assigns_of_readLine {line : List Char} {a : Assignment}
    (h : readLine line = some (.ok a)) : Assigns line a := by
  rcases readLine_cases line with hblank | hmissing | hempty | hname
  · rw [readLine_eq_none_iff.mpr hblank] at h
    cases h
  · rw [readLine_of_no_separator hmissing.left hmissing.right] at h
    cases h
  · rcases hempty with ⟨value, hsides⟩
    rw [readLine_of_sides hsides, readSides_nil] at h
    cases h
  · rcases hname with ⟨name, value, hsides, hne⟩
    rw [readLine_of_name hsides hne] at h
    cases htype : readType value with
    | error fault =>
        rw [htype] at h
        cases h
    | ok n =>
        rw [htype] at h
        cases h
        exact ⟨name, value, hsides, hne, rfl, readType_eq_ok_iff.mp htype⟩

theorem readLine_of_assigns {line : List Char} {a : Assignment}
    (h : Assigns line a) : readLine line = some (.ok a) := by
  rcases h with ⟨name, value, hsides, hne, hname, hdenotes⟩
  rw [readLine_of_name hsides hne, readType_eq_ok_iff.mpr hdenotes]
  cases a
  cases hname
  rfl

theorem readLine_eq_ok_iff {line : List Char} {a : Assignment} :
    readLine line = some (.ok a) ↔ Assigns line a :=
  ⟨assigns_of_readLine, readLine_of_assigns⟩

theorem offends_of_readLine {line : List Char} {fault : LineFault}
    (h : readLine line = some (.error fault)) : Offends line fault := by
  rcases readLine_cases line with hblank | hmissing | hempty | hname
  · rw [readLine_eq_none_iff.mpr hblank] at h
    cases h
  · rw [readLine_of_no_separator hmissing.left hmissing.right] at h
    cases h
    exact Offends.missingAssignment hmissing.left hmissing.right
  · rcases hempty with ⟨value, hsides⟩
    rw [readLine_of_sides hsides, readSides_nil] at h
    cases h
    exact Offends.emptyName hsides
  · rcases hname with ⟨name, value, hsides, hne⟩
    rw [readLine_of_name hsides hne] at h
    cases htype : readType value with
    | error typeFault =>
        rw [htype] at h
        cases h
        exact Offends.badType hsides hne
          (readType_eq_error_iff.mp htype)
    | ok n =>
        rw [htype] at h
        cases h

theorem readLine_of_offends {line : List Char} {fault : LineFault}
    (h : Offends line fault) : readLine line = some (.error fault) := by
  cases h with
  | missingAssignment hne hno => exact readLine_of_no_separator hne hno
  | emptyName hsides =>
      rw [readLine_of_sides hsides, readSides_nil]
  | badType hsides hne hfault =>
      rw [readLine_of_name hsides hne, readType_eq_error_iff.mpr hfault]
      rfl

theorem readLine_eq_error_iff {line : List Char} {fault : LineFault} :
    readLine line = some (.error fault) ↔ Offends line fault :=
  ⟨offends_of_readLine, readLine_of_offends⟩

/-!
# Good lines

A line is good exactly when the reader finds no fault in it, and a line that is not good
has exactly one fault.
-/

theorem good_iff {line : List Char} :
    Good line ↔ Text.trim line = [] ∨ exists a, Assigns line a := by
  constructor
  · intro hgood
    rcases hgood with
      hblank | ⟨name, value, i, hsides, hne, hdenotes, hin⟩
    · exact Or.inl hblank
    · right
      refine ⟨{ name := String.ofList name, type := UInt16.ofNat i.toNat },
        name, value, hsides, hne, rfl, ?_⟩
      rw [toNat_ofNat_toNat hin]
      exact hdenotes
  · intro hcases
    rcases hcases with
      hblank | ⟨a, name, value, hsides, hne, _, hdenotes⟩
    · exact Or.inl hblank
    · have hsmall : a.type.toNat < 65536 := a.type.toNat_lt
      exact Or.inr ⟨name, value, a.type.toNat, hsides, hne, hdenotes,
        by omega, by omega⟩

theorem good_of_blank {line : List Char} (h : Text.trim line = []) :
    Good line :=
  Or.inl h

theorem good_of_assigns {line : List Char} {a : Assignment}
    (h : Assigns line a) : Good line :=
  good_iff.mpr (Or.inr ⟨a, h⟩)

theorem not_good_iff {line : List Char} :
    ¬ Good line ↔ exists fault, Offends line fault := by
  rw [good_iff, ← readLine_eq_none_iff]
  simp only [← readLine_eq_ok_iff, ← readLine_eq_error_iff]
  cases readLine line with
  | none => simp
  | some result => cases result <;> simp

theorem Offends.unique {line : List Char} {fault fault' : LineFault}
    (h : Offends line fault) (h' : Offends line fault') : fault = fault' := by
  have hread := readLine_of_offends h
  rw [readLine_of_offends h'] at hread
  cases hread
  rfl

theorem Assigns.unique {line : List Char} {a b : Assignment}
    (ha : Assigns line a) (hb : Assigns line b) : a = b := by
  have hread := readLine_of_assigns ha
  rw [readLine_of_assigns hb] at hread
  cases hread
  rfl

end TokensFile
end TokenNames
