import TokenNames.Proofs.TokensFile.Writing

/-!
# Reading what was rendered

## The same names

The text of a vocabulary reads back as a table with the names that say something and no
others.  The table need not be the vocabulary: empty names become absent, and the
greatest type is the greatest one with a name.
-/

namespace TokenNames
namespace TokensFile

/-!
# The names of the table

A name reads back at the index of its type.  The types of a vocabulary are its indices,
up to the greatest one.
-/

/-- The name of an index in a vocabulary, if it says something. -/
def properName (v : Names) (kind : Kind) (t : Nat) : Option String :=
  if (t : Int) ≤ v.maxTokenType.toInt then
    proper (v.name kind (Int32.ofNat t))
  else none

theorem properName_of_le {v : Names} (kind : Kind) {t : TokenType}
    (hnonneg : 0 ≤ t) (hle : t ≤ v.maxTokenType) :
    properName v kind t.toInt.toNat = proper (v.name kind t) := by
  rw [Int32.le_iff_toInt_le, ← TokenType.natCast_index hnonneg] at hle
  unfold properName
  rw [if_pos hle, TokenType.ofNat_index hnonneg]

theorem properName_of_beyond {v : Names} (kind : Kind) {t : TokenType}
    (hnonneg : 0 ≤ t) (hbeyond : v.maxTokenType < t) :
    properName v kind t.toInt.toNat = none := by
  rw [Int32.lt_iff_toInt_lt, ← TokenType.natCast_index hnonneg] at hbeyond
  unfold properName
  rw [if_neg (Int.not_le.mpr hbeyond)]

theorem properName_of_mem {v : Names} {e : Entry} (he : e ∈ entries v) :
    properName v e.kind e.type.toInt.toNat = some e.name := by
  rcases mem_entries_iff.mp he with ⟨⟨hnonneg, hle⟩, hname⟩
  rw [properName_of_le e.kind hnonneg hle, hname]

theorem exists_entry_of_index {v : Names} {kind : Kind} {t : Nat}
    {name : String} (hle : (t : Int) ≤ v.maxTokenType.toInt)
    (hname : proper (v.name kind (Int32.ofNat t)) = some name) :
    exists e, e ∈ entries v ∧ e.kind = kind ∧ e.type.toInt = t ∧
      e.name = name := by
  have hupper := Int32.toInt_lt v.maxTokenType
  have hbound : t < 2147483648 := by omega
  have hindex : (Int32.ofNat t).toInt = t := TokenType.toInt_ofNat_index hbound
  refine ⟨{ kind, type := Int32.ofNat t, name },
    mem_entries_iff.mpr ⟨⟨?_, ?_⟩, hname⟩, rfl, hindex, rfl⟩
  · exact TokenType.nonneg_ofNat_index hbound
  · rw [Int32.le_iff_toInt_le, hindex]
    exact hle

theorem exists_entry_of_properName {v : Names} {kind : Kind} {t : Nat}
    {name : String} (h : properName v kind t = some name) :
    exists e, e ∈ entries v ∧ e.kind = kind ∧ e.type.toInt = t ∧
      e.name = name := by
  unfold properName at h
  split at h
  · next hle => exact exists_entry_of_index hle h
  · cases h

theorem Writable.kind_assignment {e : Entry} (h : Writable e) :
    e.assignment.kind = e.kind :=
  h.kind_eq

theorem Writable.index_assignment {e : Entry} (h : Writable e) :
    e.assignment.type.toNat = e.type.toInt.toNat := by
  have htype := h.type_eq
  omega

theorem lastName_assignments {v : Names}
    (h : forall e, e ∈ entries v -> Writable e) (kind : Kind) (t : Nat) :
    lastName (ofKind kind ((entries v).map Entry.assignment)) t =
      properName v kind t := by
  apply lastName_eq_of_agrees
  · intro a ha
    rcases mem_ofKind.mp ha with ⟨hmem, hkind⟩
    rcases List.mem_map.mp hmem with ⟨e, he, hassignment⟩
    have hwritable := h e he
    rw [← hassignment] at hkind ⊢
    rw [← hkind, hwritable.kind_assignment, hwritable.index_assignment]
    exact properName_of_mem he
  · intro t name hname
    rcases exists_entry_of_properName hname with ⟨e, he, hkind, htype, _⟩
    have hwritable := h e he
    refine ⟨e.assignment, mem_ofKind.mpr ⟨List.mem_map_of_mem he, ?_⟩, ?_⟩
    · rw [hwritable.kind_assignment, hkind]
    · rw [hwritable.index_assignment, htype, Int.toNat_natCast]

theorem name_eq_properName {v : Names} {table : Table}
    (h : forall e, e ∈ entries v -> Writable e)
    (hrepresents : Represents table ((entries v).map Entry.assignment))
    (kind : Kind) {t : TokenType} (hnonneg : 0 ≤ t) :
    table.names.name kind t = properName v kind t.toInt.toNat := by
  rw [table.name_of_nonneg kind hnonneg, (hrepresents.fills kind).name,
    lastName_assignments h]

/-!
# The greatest type of the table
-/

def Named (v : Names) (t : TokenType) : Prop :=
  (0 ≤ t ∧ t ≤ v.maxTokenType) ∧ v.namesAt t ≠ []

def IsGreatestNamed (v : Names) (t : TokenType) : Prop :=
  (t = -1 ∧ forall u, ¬ Named v u) ∨
    (Named v t ∧ forall u, Named v u -> u ≤ t)

theorem named_iff {v : Names} {t : TokenType} :
    Named v t ↔ exists e, e ∈ entries v ∧ e.type = t := by
  unfold Named
  rw [Names.namesAt_ne_nil_iff]
  constructor
  · intro hnamed
    rcases hnamed with ⟨hrange, kind, name, hname⟩
    exact ⟨{ kind, type := t, name }, mem_entries_iff.mpr ⟨hrange, hname⟩, rfl⟩
  · intro hentry
    rcases hentry with ⟨e, he, htype⟩
    rcases mem_entries_iff.mp he with ⟨hrange, hname⟩
    rw [← htype]
    exact ⟨hrange, e.kind, e.name, hname⟩

theorem isGreatestNamed_maxTokenType {v : Names} {table : Table}
    (h : forall e, e ∈ entries v -> Writable e)
    (hrepresents : Represents table ((entries v).map Entry.assignment)) :
    IsGreatestNamed v table.maxTokenType := by
  have hmax := hrepresents.maxTokenType
  rcases greatestType_eq_or_mem ((entries v).map Entry.assignment) with
    ⟨hnil, hnone⟩ | ⟨a, ha, htype⟩
  · left
    constructor
    · apply Int32.toInt_inj.mp
      rw [hmax, hnone]
      rfl
    · intro t ht
      rcases named_iff.mp ht with ⟨e, he, _⟩
      rw [List.map_eq_nil_iff.mp hnil] at he
      cases he
  · right
    rcases List.mem_map.mp ha with ⟨e, he, hassignment⟩
    rw [← hassignment, (h e he).type_eq] at htype
    constructor
    · rw [named_iff]
      exists e
      constructor
      · exact he
      · apply Int32.toInt_inj.mp
        rw [htype, hmax]
    · intro t ht
      rcases named_iff.mp ht with ⟨f, hf, hft⟩
      have hle := le_greatestType (List.mem_map_of_mem (f := Entry.assignment) hf)
      rw [(h f hf).type_eq] at hle
      rw [← hft, Int32.le_iff_toInt_le, hmax]
      exact hle

/-!
# The round trip
-/

/-- The text of a vocabulary reads back as a table with the same names, except that a
name that says nothing is absent. -/
theorem parse_of_render {v : Names} {text : String}
    (h : render v = .ok text) :
    exists table, parse text = .ok table ∧
      (forall kind t, 0 ≤ t -> t ≤ v.maxTokenType ->
        table.names.name kind t = proper (v.name kind t)) ∧
      (forall kind t, 0 ≤ t -> v.maxTokenType < t ->
        table.names.name kind t = none) ∧
      table.displayNames = #[] ∧
      IsGreatestNamed v table.maxTokenType ∧
      forall source : Table, v = source.names ->
        forall kind t,
          table.names.name kind t = proper (source.names.name kind t) := by
  have hwritable := writable_of_render h
  rcases exists_table_of_textOf hwritable with ⟨table, hparse, hrepresents⟩
  have hwithin : forall kind t, 0 ≤ t -> t ≤ v.maxTokenType ->
      table.names.name kind t = proper (v.name kind t) := by
    intro kind t hnonneg hle
    rw [name_eq_properName hwritable hrepresents kind hnonneg,
      properName_of_le kind hnonneg hle]
  have hbeyond : forall kind t, 0 ≤ t -> v.maxTokenType < t ->
      table.names.name kind t = none := by
    intro kind t hnonneg hlt
    rw [name_eq_properName hwritable hrepresents kind hnonneg,
      properName_of_beyond kind hnonneg hlt]
  refine ⟨table, ?_, hwithin, hbeyond, hrepresents.display,
    isGreatestNamed_maxTokenType hwritable hrepresents, ?_⟩
  · rw [(render_eq_ok_iff.mp h).right]
    exact hparse
  · intro source hsource kind t
    by_cases hnonneg : 0 ≤ t
    · by_cases hle : t ≤ v.maxTokenType
      · rw [hwithin kind t hnonneg hle, hsource]
      · have hlt : v.maxTokenType < t := Int32.not_le.mp hle
        rw [hbeyond kind t hnonneg hlt]
        rw [hsource] at hlt
        rw [source.name_of_beyond kind hlt]
        rfl
    · have hneg : t < 0 := Int32.not_le.mp hnonneg
      rw [table.name_of_neg kind hneg, source.name_of_neg kind hneg]
      split <;> rfl

theorem parse_of_render_separators :
    render (Table.names
        { literalNames := #[none, some "'"]
          symbolicNames := #[some "=A="] }) = .ok "=A==0\n'=1\n" ∧
      exists table, parse "=A==0\n'=1\n" = .ok table ∧
        table.names.name .symbolic 0 = some "=A=" ∧
        table.names.name .literal 1 = some "'" := by
  have htext : render (Table.names
      { literalNames := #[none, some "'"]
        symbolicNames := #[some "=A="] }) = .ok "=A==0\n'=1\n" := by
    decide +kernel
  rcases parse_of_render htext with ⟨table, hparse, hname, _⟩
  refine ⟨htext, table, hparse, ?_, ?_⟩
  · rw [hname .symbolic 0 (by decide) (by decide)]
    rfl
  · rw [hname .literal 1 (by decide) (by decide)]
    rfl

end TokensFile
end TokenNames
