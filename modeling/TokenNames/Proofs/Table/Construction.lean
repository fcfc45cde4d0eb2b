import TokenNames.Proofs.Cache.RoundTrip
import TokenNames.Proofs.TokensFile.Acceptance

/-!
# Ways to make a table

## Lists and the greatest type

A table comes from three lists of names, from nothing, from a single list, from the text of a
file, or from the document of a table that was made before.  The greatest type is found in a
different way each time: it is written down for the table without names, worked out from the
lengths of the lists for the others, and worked out once more when a document is read.  In the
end it is the same function of the three lists, and so the lists alone tell tables apart.
-/

namespace TokenNames

/-!
# Counting in 32 bits

The length of a list can be greater than any type.  A length is first converted to a 32-bit
number, and only what is left after that is decreased by one.
-/

namespace TokenType

def ofLength? (length : Nat) : Option TokenType :=
  if length ≤ 2147483647 then some (Int32.ofNat length) else none

/-- The greatest type among `length` types that start at zero, by 32-bit arithmetic.  It is the
greatest of all types for a length that is no 32-bit number. -/
def lastOfChecked (length : Nat) : TokenType :=
  (ofLength? length).elim Int32.maxValue fun n => n - 1

theorem ofLength?_eq_some_iff {length : Nat} {n : TokenType} :
    ofLength? length = some n ↔ n.toInt = length := by
  unfold ofLength?
  split
  · next hle =>
      rw [Option.some_inj, ← Int32.toInt_inj,
        toInt_ofNat_index (Nat.lt_succ_of_le hle), eq_comm]
  · next hgt =>
      constructor
      · intro h
        cases h
      · intro h
        have hupper := Int32.toInt_lt n
        omega

theorem toInt_sub_one {n : TokenType} (h : 0 ≤ n.toInt) :
    (n - 1).toInt = n.toInt - 1 := by
  have hupper := Int32.toInt_lt n
  rw [Int32.toInt_sub, Int32.toInt_one, Int.bmod_eq_of_le]
  · omega
  · omega

theorem lastOfChecked_eq (length : Nat) :
    lastOfChecked length = lastOf length := by
  rw [← Int32.toInt_inj, toInt_lastOf, Int32.toInt_maxValue, lastOfChecked]
  cases hlength : ofLength? length with
  | some n =>
      have hn := ofLength?_eq_some_iff.mp hlength
      have hupper := Int32.toInt_lt n
      rw [Option.elim_some, toInt_sub_one (by omega), hn]
      omega
  | none =>
      have hbeyond : ¬ length ≤ 2147483647 := by
        intro hle
        rw [ofLength?, if_pos hle] at hlength
        cases hlength
      rw [Option.elim_none, Int32.toInt_maxValue]
      omega

end TokenType

/-!
# Equal lists
-/

/-- Two columns have the same length and the same entry at every index.  An absent entry is
not the same as an empty name. -/
def Column.SameEntries (names names' : Column) : Prop :=
  names.size = names'.size ∧
    forall i : Nat, i < names.size -> names[i]? = names'[i]?

theorem Column.sameEntries_iff {names names' : Column} :
    SameEntries names names' ↔ names = names' := by
  constructor
  · intro h
    rcases h with ⟨hsize, hentry⟩
    apply Array.ext hsize
    intro i hi hi'
    have hsome := hentry i hi
    rw [Array.getElem?_eq_getElem hi, Array.getElem?_eq_getElem hi',
      Option.some_inj] at hsome
    exact hsome
  · intro h
    rw [h]
    exact ⟨rfl, fun _ _ => rfl⟩

theorem Column.replicate_eq_empty_iff {n : Nat} {entry : Option String} :
    Array.replicate n entry = #[] ↔ n = 0 := by
  rw [← Array.size_eq_zero_iff, Array.size_replicate]

namespace TokensFile

def collected (source : String) : Draft :=
  (Draft.readLines {} 1 (Text.lines source.toList)).1

theorem eq_collected_of_parse {source : String} {table : Table}
    (h : parse source = .ok table) : table = (collected source).table := by
  rw [parse_of_good (good_of_parse h)] at h
  cases h
  rfl

end TokensFile

namespace Table

def longest (literal symbolic display : Column) : Nat :=
  max (max literal.size symbolic.size) display.size

/-- A table that is made by a chain of ways to make tables, and the three lists of names that
the chain begins with. -/
inductive MadeFrom : Table -> Column -> Column -> Column -> Prop where
  | lists (literal symbolic display : Column) :
      MadeFrom
        { literalNames := literal
          symbolicNames := symbolic
          displayNames := display } literal symbolic display
  | empty : MadeFrom Table.empty #[] #[] #[]
  | default : MadeFrom default #[] #[] #[]
  | tokenNames (names : Column) :
      MadeFrom (ofTokenNames names) (names.map (·.filter isQuoted))
        (names.map (·.filter isCapitalized)) names
  | file {source : String} {table : Table} :
      TokensFile.parse source = .ok table ->
      MadeFrom table (TokensFile.collected source).literalNames
        (TokensFile.collected source).symbolicNames #[]
  | cached {table table' : Table} {literal symbolic display : Column} :
      MadeFrom table literal symbolic display ->
      Cache.read (Cache.write table) = .ok table' ->
      MadeFrom table' literal symbolic display

structure Holds (table : Table) (literal symbolic display : Column) :
    Prop where
  literal : table.literalNames = literal
  symbolic : table.symbolicNames = symbolic
  display : table.displayNames = display

variable {table table' : Table} {literal symbolic display : Column}
  {literal' symbolic' display' : Column}

/-!
# Chains

Every way to make a table puts the lists into its columns, and a table that comes back from a
document still has them.
-/

theorem holds_empty : Holds Table.empty #[] #[] #[] :=
  ⟨rfl, rfl, rfl⟩

theorem MadeFrom.holds (h : MadeFrom table literal symbolic display) :
    Holds table literal symbolic display := by
  induction h with
  | lists literal symbolic display => exact ⟨rfl, rfl, rfl⟩
  | empty => exact holds_empty
  | default => exact holds_empty
  | tokenNames names => exact ⟨rfl, rfl, rfl⟩
  | file hparse =>
      rw [TokensFile.eq_collected_of_parse hparse]
      exact ⟨rfl, rfl, rfl⟩
  | cached _ hread ih =>
      -- A document holds the columns of its table, so what comes back is the same table.
      rw [(Cache.document_write _).read, Cache.tableOf_toList] at hread
      cases hread
      exact ih

/-!
# Tables with given lists
-/

namespace Holds

theorem length_eq (h : Holds table literal symbolic display) :
    table.length = longest literal symbolic display := by
  rw [length, h.literal, h.symbolic, h.display, longest]

theorem eq_iff (h : Holds table literal symbolic display)
    (h' : Holds table' literal' symbolic' display') :
    table = table' ↔
      literal = literal' ∧ symbolic = symbolic' ∧ display = display' := by
  rw [← h.literal, ← h.symbolic, ← h.display, ← h'.literal, ← h'.symbolic,
    ← h'.display]
  constructor
  · intro heq
    rw [heq]
    exact ⟨rfl, rfl, rfl⟩
  · intro hlists
    rcases hlists with ⟨hliteral, hsymbolic, hdisplay⟩
    apply eq_of_columns _ hdisplay
    intro kind
    cases kind
    · exact hliteral
    · exact hsymbolic

theorem isEmpty_iff (h : Holds table literal symbolic display) :
    table.isEmpty = true ↔ literal = #[] ∧ symbolic = #[] ∧ display = #[] := by
  rw [← Array.size_eq_zero_iff, ← Array.size_eq_zero_iff,
    ← Array.size_eq_zero_iff, isEmpty, decide_eq_true_iff, TokenType.neg_iff,
    toInt_maxTokenType, h.length_eq, longest]
  omega

end Holds

/-- The lists that a chain begins with determine the table that it makes.  The greatest type is
one less than the length of the longest list, or the greatest of all types if there is no
such type; the 32-bit arithmetic that finds it does not overflow.  Two tables are equal exactly
when their lists have the same lengths and entries, a table is empty exactly when it has no
entries, and then it is the table without names.  Absent entries are entries. -/
theorem madeFrom_determined_by_lists :
    (forall table literal symbolic display,
      MadeFrom table literal symbolic display ->
        (table.literalNames = literal ∧ table.symbolicNames = symbolic ∧
          table.displayNames = display) ∧
        (table.maxTokenType =
            TokenType.lastOfChecked (longest literal symbolic display) ∧
          table.maxTokenType.toInt =
            min ((longest literal symbolic display : Int) - 1) 2147483647) ∧
        (table.isEmpty = true ↔
          literal = #[] ∧ symbolic = #[] ∧ display = #[]) ∧
        (table.isEmpty = true ↔ (table == Table.empty) = true)) ∧
    (forall table table' literal symbolic display literal' symbolic' display',
      MadeFrom table literal symbolic display ->
        MadeFrom table' literal' symbolic' display' ->
          ((table == table') = true ↔ literal.SameEntries literal' ∧
            symbolic.SameEntries symbolic' ∧ display.SameEntries display')) ∧
    (forall table literal symbolic display,
      MadeFrom table (Array.replicate literal none)
          (Array.replicate symbolic none) (Array.replicate display none) ->
        0 < literal + symbolic + display -> table.isEmpty = false) ∧
    forall length n, TokenType.ofLength? length = some n ->
      n.toInt = length ∧ (n - 1).toInt = n.toInt - 1 := by
  refine ⟨?_, ?_, ?_, ?_⟩
  · intro table literal symbolic display hmade
    have hholds := hmade.holds
    refine ⟨⟨hholds.literal, hholds.symbolic, hholds.display⟩, ⟨?_, ?_⟩,
      hholds.isEmpty_iff, ?_⟩
    · rw [TokenType.lastOfChecked_eq, ← hholds.length_eq]
      exact table.maxTokenType_eq
    · rw [table.toInt_maxTokenType, hholds.length_eq]
    · rw [beq_iff_eq, hholds.eq_iff holds_empty, hholds.isEmpty_iff]
  · intro table table' literal symbolic display literal' symbolic' display'
      hmade hmade'
    rw [beq_iff_eq, hmade.holds.eq_iff hmade'.holds, Column.sameEntries_iff,
      Column.sameEntries_iff, Column.sameEntries_iff]
  · intro table literal symbolic display hmade hsome
    rw [← Bool.not_eq_true, hmade.holds.isEmpty_iff,
      Column.replicate_eq_empty_iff, Column.replicate_eq_empty_iff,
      Column.replicate_eq_empty_iff]
    omega
  · intro length n h
    have hn := TokenType.ofLength?_eq_some_iff.mp h
    refine ⟨hn, TokenType.toInt_sub_one ?_⟩
    rw [hn]
    exact Int.natCast_nonneg length

/-- A list of absent entries that is too long for a 32-bit number of entries makes a table with
the greatest of all types, also after it was cached.  A table with an absent entry differs from
one with an empty name there. -/
theorem madeFrom_determined_by_lists_at_limit :
    (exists table,
      MadeFrom table (Array.replicate 2147483648 none)
          (Array.replicate 0 none) (Array.replicate 0 none) ∧
        table.maxTokenType.toInt = 2147483647 ∧ table.isEmpty = false) ∧
    (exists table table', MadeFrom table #[none] #[] #[] ∧
      MadeFrom table' #[some ""] #[] #[] ∧ (table == table') = false) ∧
    TokenType.ofLength? 2147483647 = some 2147483647 ∧
      ((2147483647 : TokenType) - 1).toInt = 2147483646 := by
  rcases madeFrom_determined_by_lists with ⟨hlists, hequal, habsent, hbefore⟩
  refine ⟨?_, ?_, ?_⟩
  · have hlong := MadeFrom.cached
      (MadeFrom.lists (Array.replicate 2147483648 none)
        (Array.replicate 0 none) (Array.replicate 0 none))
      (Cache.document_write _).read
    rcases hlists _ _ _ _ hlong with ⟨_, ⟨_, hmax⟩, _⟩
    refine ⟨_, hlong, ?_, habsent _ _ _ _ hlong (Nat.zero_lt_succ _)⟩
    rw [hmax, longest, Array.size_replicate, Array.size_replicate,
      Nat.max_zero, Nat.max_zero]
    rfl
  · have hnone := MadeFrom.lists #[none] #[] #[]
    have hempty := MadeFrom.lists #[some ""] #[] #[]
    refine ⟨_, _, hnone, hempty, ?_⟩
    rw [← Bool.not_eq_true, hequal _ _ _ _ _ _ _ _ hnone hempty]
    intro hsame
    cases hsame.left.right 0 Nat.zero_lt_one
  · have hlength : TokenType.ofLength? 2147483647 = some 2147483647 := rfl
    exact ⟨hlength, (hbefore _ _ hlength).right⟩

end Table
end TokenNames
