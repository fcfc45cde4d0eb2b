import TokenNames.Proofs.Numeral.Writing
import TokenNames.Proofs.Table.Lookup
import TokenNames.Proofs.Vocabulary.Naming

/-!
# Precedence of names

## The first name that says something

Every type has a name that messages show: the first of several candidates that is there and
is not empty.  The last candidate is the numeral of the type, so there always is one.  A
column is a partial function on all integers here, and what is out of its range is simply
not there, like an absent entry.
-/

namespace TokenNames

def Column.nameAt (names : Column) : Int -> Option String
  | .ofNat n => names[n]?.join
  | .negSucc _ => none

/-- A name is the first of some candidates that is there and is not empty. -/
def IsFirstProper (candidates : List (Option String)) (name : String) : Prop :=
  exists before after, candidates = before ++ some name :: after ∧ name ≠ "" ∧
    forall candidate, candidate ∈ before ->
      candidate = none ∨ candidate = some ""

/-!
# Candidates

A candidate that says nothing leaves the choice to the candidates after it.
-/

section Candidates

variable {candidates : List (Option String)} {candidate : Option String}
  {name : String}

theorem isFirstProper_iff :
    IsFirstProper candidates name ↔
      candidates.findSome? proper = some name := by
  rw [List.findSome?_eq_some_iff]
  unfold IsFirstProper
  constructor
  · intro h
    rcases h with ⟨before, after, hsplit, hname, hbefore⟩
    refine ⟨before, some name, after, hsplit,
      proper_eq_some_iff.mpr ⟨rfl, hname⟩, ?_⟩
    intro candidate hcandidate
    exact proper_eq_none_iff.mpr (hbefore candidate hcandidate)
  · intro h
    rcases h with ⟨before, chosen, after, hsplit, hchosen, hbefore⟩
    rcases proper_eq_some_iff.mp hchosen with ⟨hname, hne⟩
    rw [hname] at hsplit
    refine ⟨before, after, hsplit, hne, ?_⟩
    intro candidate hcandidate
    exact proper_eq_none_iff.mp (hbefore candidate hcandidate)

theorem isFirstProper_head (h : name ≠ "") (rest : List (Option String)) :
    IsFirstProper (some name :: rest) name :=
  ⟨[], rest, rfl, h, List.forall_mem_nil _⟩

theorem isFirstProper_none_iff :
    IsFirstProper (none :: candidates) name ↔
      IsFirstProper candidates name := by
  rw [isFirstProper_iff, isFirstProper_iff]
  rfl

namespace IsFirstProper

theorem cons (h : IsFirstProper candidates name) (candidate : Option String) :
    IsFirstProper (candidate :: candidates)
      ((proper candidate).getD name) := by
  rw [isFirstProper_iff] at h ⊢
  rw [List.findSome?_cons]
  cases proper candidate with
  | some chosen => rfl
  | none => exact h

theorem ne_empty (h : IsFirstProper candidates name) : name ≠ "" := by
  rcases h with ⟨_, _, _, hname, _⟩
  exact hname

theorem eq_iff (h : IsFirstProper candidates name) (other : String) :
    name = other ↔ IsFirstProper candidates other := by
  rw [isFirstProper_iff] at h ⊢
  rw [h, Option.some_inj]

end IsFirstProper

end Candidates

/-!
# Names of types

Every type has a numeral, and numerals are not empty.
-/

theorem text_ne_empty (t : TokenType) : t.text ≠ "" := by
  intro hempty
  apply Numeral.chars_ne_nil t.toInt
  rw [← TokenType.toList_text, hempty]
  rfl

theorem isFirstProper_derivedName (v : Names) (t : TokenType) :
    IsFirstProper [v.literalName t, v.symbolicName t, some t.text]
      (v.derivedName t) := by
  rw [v.derivedName_eq]
  exact ((isFirstProper_head (text_ne_empty t) []).cons _).cons _

/-!
# Names of columns
-/

namespace Column

variable {names : Column} {t : TokenType}

theorem nameAt_of_nonneg (names : Column) (h : 0 ≤ t) :
    names.nameAt t.toInt = names[t.toInt.toNat]?.join := by
  rw [← TokenType.natCast_index h]
  rfl

theorem nameAt_of_neg (names : Column) (h : t < 0) :
    names.nameAt t.toInt = none := by
  rw [TokenType.neg_iff] at h
  cases hindex : t.toInt with
  | ofNat n =>
      rw [hindex] at h
      exact absurd h (Int.not_lt.mpr (Int.natCast_nonneg n))
  | negSucc n => rfl

theorem name?_eq_nameAt (names : Column) (t : TokenType) :
    names.name? t = names.nameAt t.toInt := by
  by_cases hnonneg : 0 ≤ t
  · rw [name?, names.entry?_of_nonneg hnonneg, nameAt_of_nonneg names hnonneg]
  · have hneg : t < 0 := Int32.not_le.mp hnonneg
    rw [name?, names.entry?_of_neg hneg, nameAt_of_neg names hneg]
    rfl

end Column

/-!
# Names of tables
-/

namespace Table

variable {table : Table} {t : TokenType}

theorem symbolicName_of_ne_eof (table : Table) (h : t ≠ TokenType.eof) :
    table.symbolicName t = table.symbolicNames.nameAt t.toInt := by
  rw [← Column.name?_eq_nameAt, Column.name?, symbolicName]
  cases table.symbolicNames.entry? t with
  | none => rw [if_neg h]; rfl
  | some entry => rfl

theorem symbolicName_eof (table : Table) :
    table.symbolicName TokenType.eof = some "EOF" := by
  have hneg : TokenType.eof < 0 := by decide
  exact table.name_of_neg .symbolic hneg

/-- The candidates for the name of a type in the order in which they are looked at. -/
def candidates (table : Table) (t : TokenType) : List (Option String) :=
  [table.displayNames.nameAt t.toInt, table.literalNames.nameAt t.toInt,
    table.symbolicNames.nameAt t.toInt,
    if t = TokenType.eof then some "EOF" else none, some t.text]

theorem isFirstProper_symbolicName (table : Table) (t : TokenType) :
    IsFirstProper
      [table.symbolicNames.nameAt t.toInt,
        if t = TokenType.eof then some "EOF" else none, some t.text]
      ((proper (table.symbolicName t)).getD t.text) := by
  by_cases heof : t = TokenType.eof
  · have hneg : TokenType.eof < 0 := by decide
    rw [heof, symbolicName_eof, Column.nameAt_of_neg _ hneg, if_pos rfl,
      isFirstProper_none_iff]
    exact isFirstProper_head (by decide) _
  · rw [table.symbolicName_of_ne_eof heof, if_neg heof]
    apply IsFirstProper.cons
    rw [isFirstProper_none_iff]
    exact isFirstProper_head (text_ne_empty t) _

theorem isFirstProper_displayName (table : Table) (t : TokenType) :
    IsFirstProper (table.candidates t) (table.displayName t) := by
  have hliteral : table.names.literalName t =
      table.literalNames.nameAt t.toInt := Column.name?_eq_nameAt _ t
  rw [displayName, Names.derivedName_eq, Column.name?_eq_nameAt, hliteral]
  exact ((table.isFirstProper_symbolicName t).cons _).cons _

theorem range_of_nameAt {names : Column} {name : String}
    (hsize : names.size ≤ table.length)
    (h : names.nameAt t.toInt = some name) :
    0 ≤ t ∧ t ≤ table.maxTokenType := by
  have hnonneg : 0 ≤ t := by
    rw [← Int32.not_lt]
    intro hneg
    rw [names.nameAt_of_neg hneg] at h
    cases h
  refine ⟨hnonneg, ?_⟩
  rw [names.nameAt_of_nonneg hnonneg, Option.join_eq_some_iff,
    Array.getElem?_eq_some_iff] at h
  rcases h with ⟨hindex, _⟩
  have hupper := Int32.toInt_lt t
  have hcast := TokenType.natCast_index hnonneg
  rw [Int32.le_iff_toInt_le, toInt_maxTokenType]
  omega

theorem nameAt_of_outside {names : Column}
    (hsize : names.size ≤ table.length)
    (h : t < 0 ∨ table.maxTokenType < t) : names.nameAt t.toInt = none := by
  cases hname : names.nameAt t.toInt with
  | none => rfl
  | some name =>
      rcases range_of_nameAt hsize hname with ⟨hnonneg, hle⟩
      rcases h with hneg | hbeyond
      · exact absurd hneg (Int32.not_lt.mpr hnonneg)
      · exact absurd hbeyond (Int32.not_lt.mpr hle)

theorem size_displayNames_le (table : Table) :
    table.displayNames.size ≤ table.length :=
  Nat.le_max_right _ _

theorem candidates_of_outside (h : t < 0 ∨ table.maxTokenType < t) :
    table.candidates t = [none, none, none,
      if t = TokenType.eof then some "EOF" else none, some t.text] := by
  have hliteral : table.literalNames.nameAt t.toInt = none :=
    nameAt_of_outside (table.size_column_le .literal) h
  have hsymbolic : table.symbolicNames.nameAt t.toInt = none :=
    nameAt_of_outside (table.size_column_le .symbolic) h
  rw [candidates, hliteral, hsymbolic,
    nameAt_of_outside table.size_displayNames_le h]

theorem displayName_of_outside (h : t < 0 ∨ table.maxTokenType < t) :
    table.displayName t =
      if t = TokenType.eof then "EOF" else t.text := by
  apply ((table.isFirstProper_displayName t).eq_iff _).mpr
  rw [candidates_of_outside h, isFirstProper_none_iff, isFirstProper_none_iff,
    isFirstProper_none_iff]
  split
  · exact isFirstProper_head (by decide) _
  · exact isFirstProper_none_iff.mpr (isFirstProper_head (text_ne_empty t) _)

theorem literalName_of_outside (h : t < 0 ∨ table.maxTokenType < t) :
    table.literalName t = none := by
  rw [literalName, Column.name?_eq_nameAt]
  exact nameAt_of_outside (table.size_column_le .literal) h

theorem symbolicName_of_outside (h : t < 0 ∨ table.maxTokenType < t) :
    table.symbolicName t =
      if t = TokenType.eof then some "EOF" else none := by
  split
  · next heof => rw [heof, symbolicName_eof]
  · next hne =>
      rw [table.symbolicName_of_ne_eof hne]
      exact nameAt_of_outside (table.size_column_le .symbolic) h

/-- The name that a table shows for a type is the first that says something among the
entries of the third, the literal and the symbolic column, the name of the end of the
input and the numeral of the type; names without a third column are shown in the same way.
Outside the range of a table only the end of the input has a name, and every entry that is
there lies inside. -/
theorem displayName_takes_first (table : Table) (t : TokenType) :
    ((forall name, table.displayName t = name ↔
        IsFirstProper
          [table.displayNames.nameAt t.toInt,
            table.literalNames.nameAt t.toInt,
            table.symbolicNames.nameAt t.toInt,
            if t = -1 then some "EOF" else none, some t.text] name) ∧
      table.displayName t ≠ "") ∧
    (forall v : Names,
      (forall name, Vocabulary.displayName { toNames := v } t = name ↔
        IsFirstProper [v.literalName t, v.symbolicName t, some t.text] name) ∧
      Vocabulary.displayName { toNames := v } t ≠ "") ∧
    (t < 0 ∨ table.maxTokenType < t ->
      table.literalName t = none ∧
      table.symbolicName t = (if t = -1 then some "EOF" else none) ∧
      table.displayName t = if t = -1 then "EOF" else t.text) ∧
    forall names,
      names ∈ [table.literalNames, table.symbolicNames, table.displayNames] ->
        forall name, names.nameAt t.toInt = some name ->
          0 ≤ t ∧ t ≤ table.maxTokenType := by
  have hshown := table.isFirstProper_displayName t
  refine ⟨⟨hshown.eq_iff, hshown.ne_empty⟩, ?_, ?_, ?_⟩
  · intro v
    have hderived := isFirstProper_derivedName v t
    exact ⟨hderived.eq_iff, hderived.ne_empty⟩
  · intro houtside
    exact ⟨literalName_of_outside houtside, symbolicName_of_outside houtside,
      displayName_of_outside houtside⟩
  · intro names hnames name hname
    apply range_of_nameAt _ hname
    simp only [List.mem_cons, List.not_mem_nil, or_false] at hnames
    rcases hnames with hliteral | hsymbolic | hdisplay
    · rw [hliteral]
      exact table.size_column_le .literal
    · rw [hsymbolic]
      exact table.size_column_le .symbolic
    · rw [hdisplay]
      exact table.size_displayNames_le

theorem displayName_takes_first_past_empty :
    Table.displayName
        { symbolicNames := #[none, some "A"]
          displayNames := #[some "zero", some "", none] } 1 = "A" ∧
      Table.maxTokenType
        { symbolicNames := #[none, some "A"]
          displayNames := #[some "zero", some "", none] } < 3 ∧
      Table.displayName
        { symbolicNames := #[none, some "A"]
          displayNames := #[some "zero", some "", none] } 3 = "3" := by
  have hbeyond : Table.maxTokenType
      { symbolicNames := #[none, some "A"]
        displayNames := #[some "zero", some "", none] } < 3 := by
    decide
  refine ⟨?_, hbeyond, ?_⟩
  · apply ((displayName_takes_first _ 1).1.1 "A").mpr
    refine ⟨[some "", none], [none, some "1"], by decide +kernel, by decide, ?_⟩
    simp
  · rw [((displayName_takes_first _ 3).2.2.1 (Or.inr hbeyond)).2.2]
    decide +kernel

end Table

end TokenNames
