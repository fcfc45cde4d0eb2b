import Mathlib.Data.Int.Order.Basic
import TokenNames.Proofs.Table.Lookup
import TokenNames.TokensFile.Assignment

/-!
# Columns filled by assignments

## The last assignment to each type

Assignments are entered one after the other, in any order of their types.  What a column
holds in the end is said here without that process: it is as long as the greatest type
requires, and it holds for each type the name that was assigned last.
-/

namespace TokenNames
namespace TokensFile

def ofKind (kind : Kind) (as : List Assignment) : List Assignment :=
  as.filter fun a => a.kind = kind

def lastName (as : List Assignment) (t : Nat) : Option String :=
  ((as.filter fun a => a.type.toNat = t).getLast?).map fun a => a.name

/-- The greatest type to which a name was assigned, or `-1`. -/
def greatestType (as : List Assignment) : Int :=
  as.foldr (fun a greatest => max (a.type.toNat : Int) greatest) (-1)

/-- A column holds what assignments of its kind leave behind. -/
structure Fills (names : Column) (as : List Assignment) : Prop where
  size : (names.size : Int) = greatestType as + 1
  name : forall t, names[t]?.join = lastName as t

theorem mem_ofKind {kind : Kind} {as : List Assignment} {a : Assignment} :
    a ∈ ofKind kind as ↔ a ∈ as ∧ a.kind = kind := by
  rw [ofKind, List.mem_filter, decide_eq_true_eq]

theorem Assignment.toInt_type (a : Assignment) :
    (Int32.ofNat a.type.toNat).toInt = a.type.toNat := by
  have hsmall : a.type.toNat < 65536 := a.type.toNat_lt
  exact TokenType.toInt_ofNat_index (Nat.lt_trans hsmall (by simp))

theorem ofKind_append (kind : Kind) (as bs : List Assignment) :
    ofKind kind (as ++ bs) = ofKind kind as ++ ofKind kind bs :=
  List.filter_append as bs

/-!
# The last name

The last name of a type is in the later of two lists, unless that list has no name for it.
-/

theorem lastName_append (as bs : List Assignment) (t : Nat) :
    lastName (as ++ bs) t = (lastName bs t).or (lastName as t) := by
  unfold lastName
  rw [List.filter_append, List.getLast?_append, Option.map_or]

theorem lastName_of_eq (a : Assignment) :
    lastName [a] a.type.toNat = some a.name := by
  simp [lastName]

theorem lastName_of_ne {a : Assignment} {t : Nat} (h : a.type.toNat ≠ t) :
    lastName [a] t = none := by
  simp [lastName, h]

theorem exists_of_lastName {as : List Assignment} {t : Nat} {name : String}
    (h : lastName as t = some name) :
    exists a, a ∈ as ∧ a.type.toNat = t ∧ a.name = name := by
  rcases Option.map_eq_some_iff.mp h with ⟨a, hlast, hname⟩
  rcases List.mem_filter.mp (List.mem_of_getLast? hlast) with ⟨hmem, htype⟩
  exact ⟨a, hmem, of_decide_eq_true htype, hname⟩

theorem lastName_ne_none {as : List Assignment} {a : Assignment}
    (h : a ∈ as) : lastName as a.type.toNat ≠ none := by
  intro hnone
  have hnil := List.getLast?_eq_none_iff.mp (Option.map_eq_none_iff.mp hnone)
  have hmem : a ∈ as.filter fun b => b.type.toNat = a.type.toNat :=
    List.mem_filter.mpr ⟨h, decide_eq_true rfl⟩
  rw [hnil] at hmem
  cases hmem

theorem lastName_eq_of_agrees {as : List Assignment}
    {naming : Nat -> Option String}
    (hagree : forall a, a ∈ as -> naming a.type.toNat = some a.name)
    (hcover : forall t name, naming t = some name ->
      exists a, a ∈ as ∧ a.type.toNat = t) (t : Nat) :
    lastName as t = naming t := by
  cases hlast : lastName as t with
  | some name =>
      rcases exists_of_lastName hlast with ⟨a, hmem, htype, hname⟩
      rw [← htype, hagree a hmem, hname]
  | none =>
      cases hnaming : naming t with
      | none => rfl
      | some name =>
          rcases hcover t name hnaming with ⟨a, hmem, htype⟩
          rw [← htype] at hlast
          exact absurd hlast (lastName_ne_none hmem)

/-!
# The greatest type
-/

theorem greatestType_cons (a : Assignment) (as : List Assignment) :
    greatestType (a :: as) = max (a.type.toNat : Int) (greatestType as) := rfl

theorem le_greatestType {as : List Assignment} {a : Assignment}
    (h : a ∈ as) : (a.type.toNat : Int) ≤ greatestType as := by
  induction as with
  | nil => cases h
  | cons b as ih =>
      rw [greatestType_cons]
      rcases List.mem_cons.mp h with hfirst | hlater
      · rw [hfirst]
        exact le_max_left _ _
      · exact le_trans (ih hlater) (le_max_right _ _)

theorem greatestType_eq_or_mem (as : List Assignment) :
    (as = [] ∧ greatestType as = -1) ∨
      exists a, a ∈ as ∧ (a.type.toNat : Int) = greatestType as := by
  induction as with
  | nil => exact Or.inl ⟨rfl, rfl⟩
  | cons b as ih =>
      right
      rw [greatestType_cons]
      rcases le_total (greatestType as) (b.type.toNat : Int) with hle | hle
      · exact ⟨b, List.mem_cons_self, (max_eq_left hle).symm⟩
      · rcases ih with ⟨_, hempty⟩ | ⟨a, hmem, htype⟩
        · rw [hempty] at hle
          omega
        · exists a
          rw [max_eq_right hle]
          exact ⟨List.mem_cons_of_mem b hmem, htype⟩

theorem neg_one_le_greatestType (as : List Assignment) :
    -1 ≤ greatestType as := by
  rcases greatestType_eq_or_mem as with ⟨_, hempty⟩ | ⟨a, _, htype⟩ <;> omega

theorem greatestType_le {as : List Assignment} {bound : Int}
    (hbound : -1 ≤ bound)
    (h : forall a, a ∈ as -> (a.type.toNat : Int) ≤ bound) :
    greatestType as ≤ bound := by
  rcases greatestType_eq_or_mem as with ⟨_, hempty⟩ | ⟨a, hmem, htype⟩
  · rw [hempty]
    exact hbound
  · rw [← htype]
    exact h a hmem

theorem greatestType_congr {as bs : List Assignment}
    (h : forall a, a ∈ as ↔ a ∈ bs) : greatestType as = greatestType bs := by
  apply le_antisymm
  · apply greatestType_le (neg_one_le_greatestType bs)
    intro a ha
    exact le_greatestType ((h a).mp ha)
  · apply greatestType_le (neg_one_le_greatestType as)
    intro a ha
    exact le_greatestType ((h a).mpr ha)

theorem greatestType_le_max (as : List Assignment) :
    greatestType as ≤ 65535 := by
  apply greatestType_le (by decide)
  intro a _
  have hsmall : a.type.toNat < 65536 := a.type.toNat_lt
  omega

theorem greatestType_append (as bs : List Assignment) :
    greatestType (as ++ bs) = max (greatestType as) (greatestType bs) := by
  induction as with
  | nil => exact (max_eq_right (neg_one_le_greatestType bs)).symm
  | cons a as ih =>
      rw [List.cons_append, greatestType_cons, greatestType_cons, ih, max_assoc]

theorem greatestType_ofKind_le (kind : Kind) (as : List Assignment) :
    greatestType (ofKind kind as) ≤ greatestType as := by
  apply greatestType_le (neg_one_le_greatestType as)
  intro a ha
  exact le_greatestType (mem_ofKind.mp ha).left

theorem greatestType_ofKind (as : List Assignment) :
    max (greatestType (ofKind .literal as)) (greatestType (ofKind .symbolic as)) =
      greatestType as := by
  apply le_antisymm
  · exact max_le (greatestType_ofKind_le _ as) (greatestType_ofKind_le _ as)
  · apply greatestType_le
    · exact le_trans (neg_one_le_greatestType _) (le_max_left _ _)
    · intro a ha
      cases hkind : a.kind with
      | literal =>
          have hmem := mem_ofKind.mpr ⟨ha, hkind⟩
          exact le_trans (le_greatestType hmem) (le_max_left _ _)
      | symbolic =>
          have hmem := mem_ofKind.mpr ⟨ha, hkind⟩
          exact le_trans (le_greatestType hmem) (le_max_right _ _)

/-!
# Filling a column

A name may be entered below the end of a column, where it replaces what was there, or
beyond it, where the column grows.  Either way one more assignment has been made.
-/

theorem fills_nil : Fills #[] [] where
  size := rfl
  name := by
    intro t
    rfl

theorem Fills.place {names : Column} {as : List Assignment}
    (h : Fills names as) (a : Assignment) :
    Fills (names.place a.type.toNat a.name) (as ++ [a]) where
  size := by
    have hsize := h.size
    have hone : greatestType [a] = (a.type.toNat : Int) :=
      max_eq_left (by rw [List.foldr_nil]; omega)
    rw [Column.size_place, greatestType_append, hone]
    omega
  name := by
    intro t
    by_cases ht : a.type.toNat = t
    · rw [← ht, Column.getElem?_place_self, lastName_append, lastName_of_eq]
      rfl
    · rw [Column.join_getElem?_place_of_ne names a.name (Ne.symm ht),
        h.name, lastName_append, lastName_of_ne ht]
      rfl

theorem Fills.unique {names names' : Column} {as : List Assignment}
    (h : Fills names as) (h' : Fills names' as) : names = names' := by
  apply Column.eq_of_names
  · have hsize := h.size
    have hsize' := h'.size
    omega
  · intro t
    rw [h.name, h'.name]

theorem Fills.entry_of_assignment {names : Column} {as : List Assignment}
    (h : Fills names as) {a : Assignment} (ha : a ∈ as) :
    exists name, names[a.type.toNat]? = some (some name) := by
  have hname := h.name a.type.toNat
  cases hlast : lastName as a.type.toNat with
  | none => exact absurd hlast (lastName_ne_none ha)
  | some name =>
      rw [hlast] at hname
      exact ⟨name, Option.join_eq_some_iff.mp hname⟩

theorem Fills.back {names : Column} {as : List Assignment}
    (h : Fills names as) :
    names = #[] ∨ exists name, names.back? = some (some name) := by
  have hsize := h.size
  rcases greatestType_eq_or_mem as with ⟨_, hempty⟩ | ⟨a, hmem, htype⟩
  · left
    apply Array.eq_empty_of_size_eq_zero
    omega
  · right
    rcases h.entry_of_assignment hmem with ⟨name, hentry⟩
    exists name
    rw [Array.back?_eq_getElem?, show names.size - 1 = a.type.toNat by omega]
    exact hentry

end TokensFile
end TokenNames
