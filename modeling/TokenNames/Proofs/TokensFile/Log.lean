import Mathlib.Data.List.Dedup
import TokenNames.Table

/-!
# Logs of assignments

## What the reports amount to

The events of a log report assignments, one after the other.  Whoever makes them again
starts with nothing and gets a table in which later assignments have replaced earlier
ones.  How many names that table has depends on the slots alone, which are the pairs of
a kind and a type.
-/

namespace TokenNames

def Event.slot? : Event -> Option (Kind × TokenType)
  | .tokenAssignment _ token type => some (Kind.ofName token, type)
  | _ => none

/-- An event reports an assignment, and one to a type that can be an index. -/
def Event.Assigning (event : Event) : Prop :=
  exists kind type, event.slot? = some (kind, type) ∧ 0 ≤ type.toInt

namespace TokensFile

def put (name : String) : Nat -> List (Option String) -> List (Option String)
  | 0, [] => [some name]
  | 0, _ :: entries => some name :: entries
  | n + 1, [] => none :: put name n []
  | n + 1, entry :: entries => entry :: put name n entries

def replay (kind : Kind) :
    List (Option String) -> List Event -> List (Option String)
  | entries, [] => entries
  | entries, .tokenAssignment _ token type :: events =>
      if Kind.ofName token = kind then
        replay kind (put token type.toInt.toNat entries) events
      else replay kind entries events
  | entries, _ :: events => replay kind entries events

/-- The table of a log: what its assignments make of two empty lists. -/
def replayedTable (events : List Event) : Table where
  literalNames := (replay .literal [] events).toArray
  symbolicNames := (replay .symbolic [] events).toArray

def typesOf (kind : Kind) (events : List Event) : List TokenType :=
  ((events.filterMap Event.slot?).filter fun slot => slot.1 = kind).map
    Prod.snd

/-!
# Lists that grow

A list that grows does what a column does when a name is entered.  Afterwards it has a
name at one more index, unless there was one already.
-/

theorem toList_place (names : Column) (index : Nat) (name : String) :
    (names.place index name).toList = put name index names.toList := by
  rw [Column.place, Array.toList_setIfInBounds, Array.toList_append,
    Array.toList_replicate, ← Array.length_toList]
  generalize names.toList = entries
  induction index generalizing entries with
  | zero =>
      cases entries with
      | nil => rfl
      | cons entry entries => simp [put]
  | succ index ih =>
      cases entries with
      | nil =>
          have hrest := ih []
          simp only [List.length_nil, Nat.sub_zero, List.nil_append] at hrest ⊢
          rw [List.replicate_succ, List.set_cons_succ, hrest]
          rfl
      | cons entry entries =>
          rw [List.length_cons, Nat.add_sub_add_right, List.cons_append,
            List.set_cons_succ, ih]
          rfl

def namedIndices (entries : List (Option String)) : List Nat :=
  entries.findIdxs Option.isSome

theorem length_namedIndices (entries : List (Option String)) :
    (namedIndices entries).length = entries.countP Option.isSome :=
  List.length_findIdxs

theorem nodup_namedIndices (entries : List (Option String)) :
    (namedIndices entries).Nodup :=
  List.nodup_findIdxs

theorem mem_namedIndices_iff {entries : List (Option String)} {t : Nat} :
    t ∈ namedIndices entries ↔ exists name, entries[t]? = some (some name) := by
  rw [namedIndices, List.mem_findIdxs_iff_exists_getElem_pos]
  simp only [List.getElem?_eq_some_iff, Option.isSome_iff_exists]
  constructor
  · intro h
    rcases h with ⟨hlt, name, hname⟩
    exact ⟨name, hlt, hname⟩
  · intro h
    rcases h with ⟨name, hlt, hname⟩
    exact ⟨hlt, name, hname⟩

theorem mem_namedIndices_put {entries : List (Option String)} {name : String}
    {n t : Nat} :
    t ∈ namedIndices (put name n entries) ↔
      n = t ∨ t ∈ namedIndices entries := by
  simp only [mem_namedIndices_iff]
  induction n generalizing entries t with
  | zero => cases entries <;> cases t <;> simp [put]
  | succ n ih =>
      cases t with
      | zero => cases entries <;> simp [put]
      | succ t =>
          cases entries with
          | nil => simpa [put] using @ih [] t
          | cons entry entries => simpa [put] using @ih entries t

/-!
# Making the assignments again

The names of one kind stand at the indices to which an event assigned a name of that
kind, and nowhere else.
-/

theorem replay_append (kind : Kind) (entries : List (Option String))
    (events later : List Event) :
    replay kind entries (events ++ later) =
      replay kind (replay kind entries events) later := by
  induction events generalizing entries with
  | nil => rfl
  | cons event events ih =>
      cases event with
      | tokenAssignment line token type =>
          rw [List.cons_append, replay, replay]
          split
          · exact ih _
          · exact ih _
      | _ => exact ih entries

theorem replayedTable_append_parsed (reports : List Event)
    (literals symbolics : Nat) :
    replayedTable (reports ++ [.parsedTokensFile literals symbolics]) =
      replayedTable reports := by
  simp only [replayedTable, replay_append]
  rfl

theorem typesOf_cons_of_slot {kind : Kind} {event : Event} {type : TokenType}
    (h : event.slot? = some (kind, type)) (events : List Event) :
    typesOf kind (event :: events) = type :: typesOf kind events := by
  simp [typesOf, h]

theorem typesOf_cons_of_no_slot {kind : Kind} {event : Event}
    (h : forall type, event.slot? ≠ some (kind, type)) (events : List Event) :
    typesOf kind (event :: events) = typesOf kind events := by
  unfold typesOf
  cases hslot : event.slot? with
  | none => rw [List.filterMap_cons_none hslot]
  | some slot =>
      have hkind : slot.1 ≠ kind := by
        intro hkind
        rw [← hkind] at h
        exact h slot.2 hslot
      rw [List.filterMap_cons_some hslot, List.filter_cons_of_neg (by simpa)]

theorem typesOf_cons_of_other {kind other : Kind} {event : Event}
    {type : TokenType} (h : event.slot? = some (kind, type))
    (hother : other ≠ kind) (events : List Event) :
    typesOf other (event :: events) = typesOf other events := by
  apply typesOf_cons_of_no_slot
  intro type' hslot
  rw [h] at hslot
  cases hslot
  exact hother rfl

theorem mem_typesOf_iff {kind : Kind} {events : List Event}
    {type : TokenType} :
    type ∈ typesOf kind events ↔
      exists event, event ∈ events ∧ event.slot? = some (kind, type) := by
  simp [typesOf]

theorem mem_namedIndices_replay {kind : Kind}
    {entries : List (Option String)} {events : List Event} {t : Nat} :
    t ∈ namedIndices (replay kind entries events) ↔
      t ∈ namedIndices entries ∨
        exists type, type ∈ typesOf kind events ∧ type.toInt.toNat = t := by
  induction events generalizing entries with
  | nil => simp [replay, typesOf]
  | cons event events ih =>
      cases event with
      | tokenAssignment line token type =>
          by_cases hkind : Kind.ofName token = kind
          · have hslot : (Event.tokenAssignment line token type).slot? =
                some (kind, type) := by
              rw [Event.slot?, hkind]
            rw [replay, if_pos hkind, ih, mem_namedIndices_put,
              typesOf_cons_of_slot hslot, List.exists_mem_cons_iff, or_assoc,
              or_left_comm]
          · rw [replay, if_neg hkind, ih, typesOf_cons_of_no_slot]
            intro type' hslot
            cases hslot
            exact hkind rfl
      | _ => exact ih

theorem message_of_assigning {event : Event} (h : event.Assigning) :
    event.message = "token assignment" := by
  rcases h with ⟨kind, type, hslot, _⟩
  cases event with
  | tokenAssignment line token type => rfl
  | _ => cases hslot

/-!
# Counting slots

The names that a log leaves behind are counted by the slots it has.  Two events with one
slot leave one name, so the count tells whether there are such events.
-/

section Counting

variable {events : List Event}

theorem nodup_indices (h : forall event, event ∈ events -> event.Assigning)
    (kind : Kind) :
    ((typesOf kind events).dedup.map fun type => type.toInt.toNat).Nodup := by
  have hnonneg : forall type, type ∈ (typesOf kind events).dedup ->
      0 ≤ type.toInt := by
    intro type htype
    rcases mem_typesOf_iff.mp (List.mem_dedup.mp htype) with
      ⟨event, hevent, hslot⟩
    rcases h event hevent with ⟨_, _, hslot', hindex⟩
    rw [hslot] at hslot'
    cases hslot'
    exact hindex
  apply (List.nodup_dedup _).map_on
  intro type htype type' htype' heq
  have hleft := hnonneg type htype
  have hright := hnonneg type' htype'
  apply Int32.toInt_inj.mp
  omega

/-- As many names are left as there are different types to which one was assigned. -/
theorem countP_replay (h : forall event, event ∈ events -> event.Assigning)
    (kind : Kind) :
    (replay kind [] events).countP Option.isSome =
      (typesOf kind events).dedup.length := by
  -- Neither list has a member twice, so it is enough to compare their members.
  have hperm : (namedIndices (replay kind [] events)).Perm
      ((typesOf kind events).dedup.map fun type => type.toInt.toNat) := by
    apply (List.perm_ext_iff_of_nodup (nodup_namedIndices _)
      (nodup_indices h kind)).mpr
    intro t
    have hnil : t ∉ namedIndices [] := List.not_mem_nil
    simp only [mem_namedIndices_replay, hnil, false_or, List.mem_map,
      List.mem_dedup]
  rw [← length_namedIndices, hperm.length_eq, List.length_map]

theorem length_typesOf (h : forall event, event ∈ events -> event.Assigning) :
    (typesOf .literal events).length + (typesOf .symbolic events).length =
      events.length := by
  induction events with
  | nil => rfl
  | cons event events ih =>
      rcases List.forall_mem_cons.mp h with ⟨⟨kind, type, hslot, _⟩, hlater⟩
      have hrest := ih hlater
      have hself := typesOf_cons_of_slot hslot events
      have hothers : forall other, other ≠ kind ->
          typesOf other (event :: events) = typesOf other events :=
        fun _ hother => typesOf_cons_of_other hslot hother events
      cases kind with
      | literal =>
          rw [hself, hothers .symbolic (by decide), List.length_cons,
            List.length_cons]
          omega
      | symbolic =>
          rw [hself, hothers .literal (by decide), List.length_cons,
            List.length_cons]
          omega

theorem nodup_typesOf_cons_iff {kind : Kind} {event : Event}
    {type : TokenType} (h : event.slot? = some (kind, type)) :
    (forall other, (typesOf other (event :: events)).Nodup) ↔
      type ∉ typesOf kind events ∧
        forall other, (typesOf other events).Nodup := by
  have hself := typesOf_cons_of_slot h events
  constructor
  · intro hnodup
    have hkind := hnodup kind
    rw [hself] at hkind
    refine ⟨(List.nodup_cons.mp hkind).left, ?_⟩
    intro other
    by_cases hother : other = kind
    · rw [hother]
      exact hkind.of_cons
    · rw [← typesOf_cons_of_other h hother events]
      exact hnodup other
  · intro hboth other
    rcases hboth with ⟨hnot, hnodup⟩
    by_cases hother : other = kind
    · rw [hother, hself]
      exact List.nodup_cons.mpr ⟨hnot, hnodup kind⟩
    · rw [typesOf_cons_of_other h hother events]
      exact hnodup other

theorem not_mem_typesOf_iff {kind : Kind} {event : Event} {type : TokenType}
    (h : event.slot? = some (kind, type)) :
    type ∉ typesOf kind events ↔
      forall later, later ∈ events -> event.slot? ≠ later.slot? := by
  rw [mem_typesOf_iff, h]
  constructor
  · intro hno later hmem heq
    exact hno ⟨later, hmem, heq.symm⟩
  · intro hall hsome
    rcases hsome with ⟨later, hmem, heq⟩
    exact hall later hmem heq.symm

theorem nodup_typesOf_iff
    (h : forall event, event ∈ events -> event.Assigning) :
    (forall kind, (typesOf kind events).Nodup) ↔
      events.Pairwise fun earlier later => earlier.slot? ≠ later.slot? := by
  induction events with
  | nil => simp [typesOf]
  | cons event events ih =>
      rcases List.forall_mem_cons.mp h with ⟨⟨kind, type, hslot, _⟩, hlater⟩
      rw [nodup_typesOf_cons_iff hslot, List.pairwise_cons,
        not_mem_typesOf_iff hslot, ih hlater]

theorem length_dedup_le_and_eq_iff (types : List TokenType) :
    types.dedup.length ≤ types.length ∧
      (types.dedup.length = types.length ↔ types.Nodup) := by
  have hsublist := List.dedup_sublist types
  exact ⟨hsublist.length_le,
    hsublist.length_eq.trans List.dedup_eq_self⟩

theorem distinct_le_length
    (h : forall event, event ∈ events -> event.Assigning) :
    (typesOf .literal events).dedup.length +
        (typesOf .symbolic events).dedup.length ≤ events.length ∧
      ((typesOf .literal events).dedup.length +
          (typesOf .symbolic events).dedup.length = events.length ↔
        events.Pairwise fun earlier later =>
          earlier.slot? ≠ later.slot?) := by
  rcases length_dedup_le_and_eq_iff (typesOf .literal events) with
    ⟨hliteral, hliteral_iff⟩
  rcases length_dedup_le_and_eq_iff (typesOf .symbolic events) with
    ⟨hsymbolic, hsymbolic_iff⟩
  have hlength := length_typesOf h
  constructor
  · omega
  · rw [← nodup_typesOf_iff h]
    constructor
    · intro hsum kind
      cases kind with
      | literal => exact hliteral_iff.mp (by omega)
      | symbolic => exact hsymbolic_iff.mp (by omega)
    · intro hnodup
      have hleft := hliteral_iff.mpr (hnodup .literal)
      have hright := hsymbolic_iff.mpr (hnodup .symbolic)
      omega

end Counting

end TokensFile
end TokenNames
