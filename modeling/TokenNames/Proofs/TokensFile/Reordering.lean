import Mathlib.Data.List.FinRange
import Mathlib.Logic.Equiv.Fin.Rotate
import TokenNames.Proofs.TokensFile.Contents

/-!
# Assignments in another order

## Slots

A name goes to a slot, which is a type together with a kind.  What a slot holds in the end
depends on the assignments to this slot alone, in their order.  So the lines of a tokens
file can be put in another order as long as no two lines of the same slot pass each other,
and the blank lines do not count.
-/

namespace TokenNames

/-!
# Lists in another order
-/

/-- The items of a list in another order, in which tied items do not pass each other. -/
def Reorders {α : Type} (tied : α -> α -> Prop) (xs ys : List α) : Prop :=
  exists place : Fin xs.length ≃ Fin ys.length,
    (forall i, ys.get (place i) = xs.get i) ∧
      forall i j, i < j -> tied (xs.get i) (xs.get j) -> place i < place j

section Order

variable {α : Type} {tied : α -> α -> Prop} {xs ys : List α}

theorem Reorders.mono {looser : α -> α -> Prop} (h : Reorders tied xs ys)
    (hties : forall x y, looser x y -> tied x y) : Reorders looser xs ys := by
  rcases h with ⟨place, hitem, horder⟩
  refine ⟨place, hitem, ?_⟩
  intro i j hlt htied
  exact horder i j hlt (hties _ _ htied)

theorem Reorders.mem_iff (h : Reorders tied xs ys) (x : α) :
    x ∈ ys ↔ x ∈ xs := by
  rcases h with ⟨place, hitem, _⟩
  rw [List.mem_iff_get, List.mem_iff_get]
  constructor
  · intro hmem
    rcases hmem with ⟨j, hj⟩
    exists place.symm j
    rw [← hitem, place.apply_symm_apply, hj]
  · intro hmem
    rcases hmem with ⟨i, hi⟩
    exists place i
    rw [hitem, hi]

def positions (p : α -> Bool) (xs : List α) : List (Fin xs.length) :=
  (List.finRange xs.length).filter fun i => p (xs.get i)

theorem mem_positions_iff {p : α -> Bool} {i : Fin xs.length} :
    i ∈ positions p xs ↔ p (xs.get i) = true := by
  simp [positions]

theorem pairwise_positions (p : α -> Bool) (xs : List α) :
    (positions p xs).Pairwise fun i j => i < j :=
  (List.pairwise_lt_finRange xs.length).filter _

theorem map_get_positions (p : α -> Bool) (xs : List α) :
    (positions p xs).map xs.get = xs.filter p := by
  conv_rhs => rw [← List.map_get_finRange xs]
  rw [List.filter_map]
  rfl

theorem Reorders.filter_eq (h : Reorders tied xs ys) {p : α -> Bool}
    (hties : forall x y, p x = true -> p y = true -> tied x y) :
    ys.filter p = xs.filter p := by
  rcases h with ⟨place, hitem, horder⟩
  -- The placement keeps the order of tied items, so it takes one ascending list of
  -- positions to the other.
  have hplaced : (positions p xs).map place = positions p ys := by
    have hascend : ((positions p xs).map place).Pairwise fun i j => i < j := by
      rw [List.pairwise_map]
      refine (pairwise_positions p xs).imp_of_mem ?_
      intro i j hi hj hlt
      exact horder i j hlt
        (hties _ _ (mem_positions_iff.mp hi) (mem_positions_iff.mp hj))
    have hmem : forall j,
        j ∈ (positions p xs).map place ↔ j ∈ positions p ys := by
      intro j
      rw [List.mem_map, mem_positions_iff]
      constructor
      · intro himage
        rcases himage with ⟨i, hi, hij⟩
        rw [← hij, hitem]
        exact mem_positions_iff.mp hi
      · intro hj
        refine ⟨place.symm j, mem_positions_iff.mpr ?_, place.apply_symm_apply j⟩
        rw [← hitem, place.apply_symm_apply]
        exact hj
    have hperm := (List.perm_ext_iff_of_nodup
      (hascend.imp fun hlt => ne_of_lt hlt)
      ((pairwise_positions p ys).imp fun hlt => ne_of_lt hlt)).mpr hmem
    exact hperm.eq_of_pairwise
      (fun _ _ _ _ hij hji => absurd hji (lt_asymm hij)) hascend
      (pairwise_positions p ys)
  rw [← map_get_positions p ys, ← hplaced, List.map_map,
    ← map_get_positions p xs]
  apply List.map_congr_left
  intro i _
  exact hitem i

theorem filter_eq_of_perm_of_untied (h : ys.Perm xs) {p : α -> Bool}
    (hties : forall x y, p x = true -> p y = true -> tied x y)
    (huntied : xs.Pairwise fun x y => ¬ tied x y) :
    ys.filter p = xs.filter p := by
  have hperm : (ys.filter p).Perm (xs.filter p) := h.filter p
  have hfew : (xs.filter p).Pairwise fun x y => ¬ tied x y := huntied.filter p
  cases hxs : xs.filter p with
  | nil =>
      rw [hxs] at hperm
      exact List.perm_nil.mp hperm
  | cons x rest =>
      cases rest with
      | nil =>
          rw [hxs] at hperm
          exact List.perm_singleton.mp hperm
      | cons y rest =>
          rw [hxs] at hfew
          have hx : x ∈ xs.filter p := by
            rw [hxs]
            exact List.mem_cons_self
          have hy : y ∈ xs.filter p := by
            rw [hxs]
            exact List.mem_cons_of_mem _ List.mem_cons_self
          have htied := hties x y (List.mem_filter.mp hx).right
            (List.mem_filter.mp hy).right
          exact absurd htied ((List.pairwise_cons.mp hfew).left y List.mem_cons_self)

end Order

namespace TokensFile

/-!
# Lines and their slots
-/

def contentLines (source : String) : List (List Char) :=
  (Text.lines source.toList).filter fun line => Text.trim line ≠ []

def SameKind (line line' : List Char) : Prop :=
  exists a b, Assigns line a ∧ Assigns line' b ∧ a.kind = b.kind

/-- Two lines give names of the same kind to the same type. -/
def SameSlot (line line' : List Char) : Prop :=
  exists a b, Assigns line a ∧ Assigns line' b ∧ a.kind = b.kind ∧
    a.type = b.type

theorem SameSlot.sameKind {line line' : List Char} (h : SameSlot line line') :
    SameKind line line' := by
  rcases h with ⟨a, b, ha, hb, hkind, _⟩
  exact ⟨a, b, ha, hb, hkind⟩

def slot? (line : List Char) : Option (Kind × Nat) :=
  match readLine line with
  | some (.ok a) => some (a.kind, a.type.toNat)
  | _ => none

theorem slot?_of_assigns {line : List Char} {a : Assignment}
    (h : Assigns line a) : slot? line = some (a.kind, a.type.toNat) := by
  unfold slot?
  rw [readLine_of_assigns h]

theorem exists_assigns_of_slot? {line : List Char} {slot : Kind × Nat}
    (h : slot? line = some slot) :
    exists a, Assigns line a ∧ (a.kind, a.type.toNat) = slot := by
  unfold slot? at h
  split at h
  · next a hread => exact ⟨a, assigns_of_readLine hread, Option.some.inj h⟩
  · cases h

theorem sameSlot_iff {line line' : List Char} :
    SameSlot line line' ↔ slot? line ≠ none ∧ slot? line = slot? line' := by
  constructor
  · intro h
    rcases h with ⟨a, b, ha, hb, hkind, htype⟩
    rw [slot?_of_assigns ha, slot?_of_assigns hb, hkind, htype]
    exact ⟨Option.some_ne_none _, rfl⟩
  · intro h
    rcases h with ⟨hsome, hsame⟩
    rcases Option.ne_none_iff_exists'.mp hsome with ⟨slot, hslot⟩
    rcases exists_assigns_of_slot? hslot with ⟨a, ha, haslot⟩
    rcases exists_assigns_of_slot? (hsame ▸ hslot) with ⟨b, hb, hbslot⟩
    rcases Prod.mk.inj (haslot.trans hbslot.symm) with ⟨hkind, htype⟩
    exact ⟨a, b, ha, hb, hkind, UInt16.toNat_inj.mp htype⟩

instance (line line' : List Char) : Decidable (SameSlot line line') :=
  decidable_of_iff _ sameSlot_iff.symm

def linesOf (slot : Kind × Nat) (lines : List (List Char)) :
    List (List Char) :=
  lines.filter fun line => slot? line = some slot

theorem sameSlot_of_slot? {slot : Kind × Nat} (line line' : List Char)
    (h : decide (slot? line = some slot) = true)
    (h' : decide (slot? line' = some slot) = true) :
    SameSlot line line' := by
  rw [decide_eq_true_eq] at h h'
  rw [sameSlot_iff, h, h']
  exact ⟨Option.some_ne_none _, rfl⟩

/-!
# Assignments and their slots

A table is determined by the assignments to each slot, whatever stands between them.
-/

def ofSlot (slot : Kind × Nat) (as : List Assignment) : List Assignment :=
  as.filter fun a => (a.kind, a.type.toNat) = slot

theorem mem_ofSlot_self {as : List Assignment} {a : Assignment} :
    a ∈ ofSlot (a.kind, a.type.toNat) as ↔ a ∈ as := by
  simp [ofSlot]

theorem lastName_ofKind (kind : Kind) (t : Nat) (as : List Assignment) :
    lastName (ofKind kind as) t =
      ((ofSlot (kind, t) as).getLast?).map fun a => a.name := by
  unfold lastName ofKind ofSlot
  rw [List.filter_filter]
  simp only [Prod.mk.injEq, Bool.decide_and, Bool.and_comm]

theorem Represents.of_slots {table : Table} {as bs : List Assignment}
    (h : Represents table as)
    (hslots : forall slot, ofSlot slot bs = ofSlot slot as) :
    Represents table bs where
  fills := by
    intro kind
    have hmem : forall a, a ∈ ofKind kind bs ↔ a ∈ ofKind kind as := by
      intro a
      rw [mem_ofKind, mem_ofKind, ← @mem_ofSlot_self bs, hslots,
        mem_ofSlot_self]
    constructor
    · rw [greatestType_congr hmem]
      exact (h.fills kind).size
    · intro t
      rw [lastName_ofKind, hslots, ← lastName_ofKind]
      exact (h.fills kind).name t
  display := h.display

theorem AssignmentsOf.ofSlot {lines : List (List Char)}
    {as : List Assignment} (h : AssignmentsOf lines as) (slot : Kind × Nat) :
    AssignmentsOf (linesOf slot lines) (TokensFile.ofSlot slot as) := by
  unfold linesOf TokensFile.ofSlot
  induction h with
  | nil => exact AssignmentsOf.nil
  | blank hblank _ ih =>
      rw [List.filter_cons]
      split
      · exact AssignmentsOf.blank hblank ih
      · exact ih
  | assignment hassigns _ ih =>
      rw [List.filter_cons, List.filter_cons, slot?_of_assigns hassigns]
      simp only [Option.some.injEq, decide_eq_true_eq]
      split
      · exact AssignmentsOf.assignment hassigns ih
      · exact ih

theorem AssignmentsOf.without_blanks {lines : List (List Char)}
    {as : List Assignment} (h : AssignmentsOf lines as) :
    AssignmentsOf (lines.filter fun line => Text.trim line ≠ []) as := by
  induction h with
  | nil => exact AssignmentsOf.nil
  | blank hblank _ ih =>
      rw [List.filter_cons_of_neg (by simpa using hblank)]
      exact ih
  | assignment hassigns _ ih =>
      rw [List.filter_cons_of_pos
        (by simpa using trim_ne_nil_of_assigns hassigns)]
      exact AssignmentsOf.assignment hassigns ih

theorem good_of_contentLines {source : String}
    (h : forall line, line ∈ contentLines source -> Good line) :
    forall line, line ∈ Text.lines source.toList -> Good line := by
  intro line hline
  by_cases hblank : Text.trim line = []
  · exact good_of_blank hblank
  · exact h line (List.mem_filter.mpr ⟨hline, decide_eq_true hblank⟩)

/-!
# Texts with the same lines in each slot
-/

variable {source source' : String} {table : Table}

theorem parse_of_slots (h : parse source = .ok table)
    (hlines : forall line,
      line ∈ contentLines source' -> line ∈ contentLines source)
    (hslots : forall slot, linesOf slot (contentLines source') =
      linesOf slot (contentLines source)) :
    parse source' = .ok table := by
  have hgood : forall line, line ∈ Text.lines source'.toList -> Good line := by
    apply good_of_contentLines
    intro line hline
    exact good_of_parse h line (List.mem_of_mem_filter (hlines line hline))
  rcases parse_eq_ok_iff.mp h with ⟨as, has, hrepresents⟩
  rcases exists_represents_of_good hgood with ⟨_, bs, _, hbs, _⟩
  refine parse_eq_ok_iff.mpr ⟨bs, hbs, hrepresents.of_slots ?_⟩
  intro slot
  have hbs' : AssignmentsOf (linesOf slot (contentLines source'))
      (ofSlot slot bs) := hbs.without_blanks.ofSlot slot
  rw [hslots] at hbs'
  exact hbs'.unique (has.without_blanks.ofSlot slot)

theorem parse_of_reorders (h : parse source = .ok table)
    (horder : Reorders SameSlot (contentLines source) (contentLines source')) :
    parse source' = .ok table := by
  apply parse_of_slots h
  · intro line hline
    exact (horder.mem_iff line).mp hline
  · intro slot
    exact horder.filter_eq sameSlot_of_slot?

theorem parse_of_perm (h : parse source = .ok table)
    (hperm : (contentLines source').Perm (contentLines source))
    (honce : (contentLines source).Pairwise
      fun line line' => ¬ SameSlot line line') :
    parse source' = .ok table := by
  apply parse_of_slots h
  · intro line hline
    exact hperm.mem_iff.mp hline
  · intro slot
    exact filter_eq_of_perm_of_untied hperm sameSlot_of_slot? honce

/-- The lines of an accepted text in another order give the same table, as long as two
lines of the same slot do not pass each other.  So lines of different kinds can pass each
other anywhere, and if no slot has two lines, any order will do. -/
theorem parse_of_reordered_lines (h : parse source = .ok table) :
    (Reorders SameSlot (contentLines source) (contentLines source') ->
      parse source' = .ok table) ∧
    (Reorders SameKind (contentLines source) (contentLines source') ->
      parse source' = .ok table) ∧
    ((contentLines source').Perm (contentLines source) ->
      (contentLines source).Pairwise
        (fun line line' => ¬ SameSlot line line') ->
      parse source' = .ok table) := by
  refine ⟨parse_of_reorders h, ?_, parse_of_perm h⟩
  intro horder
  exact parse_of_reorders h
    (horder.mono fun _ _ hslot => hslot.sameKind)

theorem parse_of_reordered_lines_last_first :
    Reorders SameSlot (contentLines "A=1\n\n'x'=2\nB=1\r\nC=2")
        (contentLines "C=2\nA=1\n'x'=2\n \nB=1\n") ∧
      parse "C=2\nA=1\n'x'=2\n \nB=1\n" = .ok
        { literalNames := #[none, none, some "'x'"]
          symbolicNames := #[none, some "B", some "C"] } := by
  have hparse : parse "A=1\n\n'x'=2\nB=1\r\nC=2" = .ok
      { literalNames := #[none, none, some "'x'"]
        symbolicNames := #[none, some "B", some "C"] } := by
    decide +kernel
  have hlines : contentLines "A=1\n\n'x'=2\nB=1\r\nC=2" =
      ["A=1".toList, "'x'=2".toList, "B=1".toList, "C=2".toList] := by
    decide +kernel
  have hlines' : contentLines "C=2\nA=1\n'x'=2\n \nB=1\n" =
      ["C=2".toList, "A=1".toList, "'x'=2".toList, "B=1".toList] := by
    decide +kernel
  have horder : Reorders SameSlot (contentLines "A=1\n\n'x'=2\nB=1\r\nC=2")
      (contentLines "C=2\nA=1\n'x'=2\n \nB=1\n") := by
    rw [hlines, hlines']
    exact ⟨finRotate 4, by decide +kernel, by decide +kernel⟩
  exact ⟨horder, (parse_of_reordered_lines hparse).1 horder⟩

end TokensFile
end TokenNames
