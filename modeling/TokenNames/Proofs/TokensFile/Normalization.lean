import TokenNames.Proofs.TokensFile.RoundTrip

/-!
# Rewriting a tokens file

## Texts that were read once

A table that was read from a text holds only names that fit a line, each in the column
of its kind and at a type of the format.  Rendering refuses such a name for one reason
only: the carriage return, which may stand inside a line but not in a rendered name.
Without it the rendered text reads back as the same table, lengths of columns included.
-/

namespace TokenNames
namespace TokensFile

/-- A table that holds what lines can assign. -/
structure Recorded (table : Table) (as : List Assignment) : Prop where
  represents : Represents table as
  fitsLine : forall a, a ∈ as -> FitsLine a.name

theorem recorded_of_parse {source : String} {table : Table}
    (h : parse source = .ok table) : exists as, Recorded table as := by
  rcases parse_eq_ok_iff.mp h with ⟨as, has, hrepresents⟩
  exact ⟨as, hrepresents, fun _ ha => fitsLine_of_mem has ha⟩

/-!
# The entries of a table
-/

section Recorded

variable {table : Table} {as : List Assignment}

theorem entry_of_mem {e : Entry}
    (he : e ∈ entries table.names) :
    (table.column e.kind)[e.type.toInt.toNat]? = some (some e.name) := by
  rcases mem_entries_iff.mp he with ⟨⟨hnonneg, _⟩, hname⟩
  have hentry := (proper_eq_some_iff.mp hname).left
  rw [table.name_of_nonneg e.kind hnonneg] at hentry
  exact Option.join_eq_some_iff.mp hentry

theorem Recorded.settled (h : Recorded table as) {e : Entry}
    (he : e ∈ entries table.names) : Settled e := by
  have hentry := entry_of_mem he
  rcases exists_assignment_of_entry h.represents
    (Array.mem_iff_getElem?.mpr ⟨_, hentry⟩) with ⟨a, ha, hkind, hname⟩
  rcases mem_entries_iff.mp he with ⟨⟨_, hle⟩, _⟩
  constructor
  · have hmax := greatestType_le_max as
    rw [← h.represents.maxTokenType] at hmax
    exact le_trans (Int32.le_iff_toInt_le.mp hle) hmax
  · rw [← hname]
    exact h.fitsLine a ha
  · rw [← hname]
    exact hkind

theorem Recorded.ne_empty (h : Recorded table as) {kind : Kind}
    {name : String} (hname : some name ∈ table.column kind) : name ≠ "" := by
  rcases exists_assignment_of_entry h.represents hname with
    ⟨a, ha, _, haname⟩
  rw [← haname]
  exact (h.fitsLine a ha).ne_empty

theorem Recorded.exists_entry (h : Recorded table as) {kind : Kind} {t : Nat}
    {name : String} (hname : (table.column kind)[t]? = some (some name)) :
    exists e, e ∈ entries table.names ∧ e.kind = kind ∧
      e.type.toInt.toNat = t ∧ e.name = name := by
  rcases Array.getElem?_eq_some_iff.mp hname with ⟨hbound, _⟩
  have hne := h.ne_empty (Array.mem_iff_getElem?.mpr ⟨t, hname⟩)
  have hsize := (h.represents.fills kind).size
  have hmax := h.represents.maxTokenType
  have hlimit := greatestType_le_max as
  have hkind := greatestType_ofKind_le kind as
  have hle : (t : Int) ≤ table.names.maxTokenType.toInt := by
    show (t : Int) ≤ table.maxTokenType.toInt
    omega
  have hproper : proper (table.names.name kind (Int32.ofNat t)) =
      some name := by
    rw [table.name_of_index kind (by omega), hname]
    exact proper_eq_some_iff.mpr ⟨rfl, hne⟩
  rcases exists_entry_of_index hle hproper with
    ⟨e, he, hkind, htype, hename⟩
  refine ⟨e, he, hkind, ?_, hename⟩
  rw [htype, Int.toNat_natCast]

end Recorded

/-!
# The carriage return
-/

theorem Settled.staysWhole_iff_no_return {e : Entry} (h : Settled e) :
    staysWhole e.name = true ↔ '\r' ∉ e.name.toList := by
  rw [staysWhole_iff]
  constructor
  · intro hwhole
    exact hwhole.right.right
  · intro hreturn
    exact ⟨h.fitsLine.trimmed, h.fitsLine.one_line, hreturn⟩

theorem Settled.refusal?_eq_none_iff {e : Entry} (h : Settled e) :
    refusal? e = none ↔ '\r' ∉ e.name.toList := by
  rw [TokensFile.refusal?_eq_none_iff, h.staysWhole_iff_no_return]
  constructor
  · intro haccepted
    exact haccepted.right.left
  · intro hreturn
    exact ⟨h.fits, hreturn, h.kind_eq⟩

theorem Settled.of_refusal {e : Entry} (h : Settled e) {r : Refusal}
    (hrefusal : refusal? e = some r) :
    r = .unwritableName e.type e.name ∧ '\r' ∈ e.name.toList := by
  cases hwhole : staysWhole e.name with
  | true =>
      have hnone := h.refusal?_eq_none_iff.mpr
        (h.staysWhole_iff_no_return.mp hwhole)
      rw [hnone] at hrefusal
      cases hrefusal
  | false =>
      rw [refusal?_of_torn h.fits hwhole] at hrefusal
      cases hrefusal
      refine ⟨rfl, ?_⟩
      apply Decidable.byContradiction
      intro hreturn
      rw [h.staysWhole_iff_no_return.mpr hreturn] at hwhole
      cases hwhole

/-!
# The same table again

The entries of a table leave the same last names behind as the assignments from which it
was filled.  Since no column ends in an absent entry, the last names fix the lengths.
-/

theorem greatestType_le_of_lastName {as bs : List Assignment}
    (h : forall t, lastName as t = lastName bs t) :
    greatestType as ≤ greatestType bs := by
  apply greatestType_le (neg_one_le_greatestType bs)
  intro a ha
  cases hlast : lastName bs a.type.toNat with
  | none =>
      rw [← h] at hlast
      exact absurd hlast (lastName_ne_none ha)
  | some name =>
      rcases exists_of_lastName hlast with ⟨b, hb, htype, _⟩
      rw [← htype]
      exact le_greatestType hb

theorem Fills.congr {names : Column} {as bs : List Assignment}
    (hfills : Fills names as) (h : forall t, lastName as t = lastName bs t) :
    Fills names bs where
  size := by
    rw [hfills.size]
    have hle := greatestType_le_of_lastName h
    have hge := greatestType_le_of_lastName fun t => (h t).symm
    omega
  name := by
    intro t
    rw [hfills.name, h]

section Recorded

variable {table : Table} {as : List Assignment}

theorem Recorded.properName_eq (h : Recorded table as) (kind : Kind)
    (t : Nat) :
    properName table.names kind t = lastName (ofKind kind as) t := by
  have hjoin := (h.represents.fills kind).name t
  cases hlast : lastName (ofKind kind as) t with
  | some name =>
      rw [hlast] at hjoin
      rcases h.exists_entry (Option.join_eq_some_iff.mp hjoin) with
        ⟨e, he, hkind, htype, hname⟩
      rw [← hkind, ← htype, ← hname]
      exact properName_of_mem he
  | none =>
      cases hproper : properName table.names kind t with
      | none => rfl
      | some name =>
          rcases exists_entry_of_properName hproper with
            ⟨e, he, hkind, htype, _⟩
          have hentry := entry_of_mem he
          rw [hkind, htype, Int.toNat_natCast] at hentry
          rw [hentry, hlast] at hjoin
          cases hjoin

theorem Recorded.represents_assignments (h : Recorded table as)
    (hwritable : forall e, e ∈ entries table.names -> Writable e) :
    Represents table ((entries table.names).map Entry.assignment) where
  fills := by
    intro kind
    apply (h.represents.fills kind).congr
    intro t
    rw [lastName_assignments hwritable, h.properName_eq]
  display := h.represents.display

theorem Recorded.parse_rendered (h : Recorded table as) {text : String}
    (hrender : render table.names = .ok text) : parse text = .ok table := by
  have hwritable := writable_of_render hrender
  rw [(render_eq_ok_iff.mp hrender).right, parse_eq_ok_iff]
  exact ⟨_, assignmentsOf_textOf hwritable, h.represents_assignments hwritable⟩

/-!
# Reading and rendering
-/

theorem Recorded.render_isOk_iff (h : Recorded table as) :
    (exists text, render table.names = .ok text) ↔
      forall kind name, some name ∈ table.column kind ->
        '\r' ∉ name.toList := by
  constructor
  · intro hok kind name hname
    rcases hok with ⟨text, htext⟩
    rcases Array.mem_iff_getElem?.mp hname with ⟨t, ht⟩
    rcases h.exists_entry ht with ⟨e, he, _, _, hename⟩
    rw [← hename]
    exact (h.settled he).refusal?_eq_none_iff.mp
      ((render_eq_ok_iff.mp htext).left e he)
  · intro hreturn
    refine ⟨_, render_eq_ok_iff.mpr ⟨?_, rfl⟩⟩
    intro e he
    apply (h.settled he).refusal?_eq_none_iff.mpr
    exact hreturn e.kind e.name
      (Array.mem_iff_getElem?.mpr ⟨_, entry_of_mem he⟩)

end Recorded

/-- A table that was read is refused only for a carriage return in one of its names, and
otherwise its text reads back as the table itself. -/
theorem render_of_parse {source : String} {table : Table}
    (h : parse source = .ok table) :
    ((exists text, render table.names = .ok text) ↔
      forall kind name, some name ∈ table.column kind ->
        '\r' ∉ name.toList) ∧
    table.displayNames = #[] ∧
    (forall text, render table.names = .ok text ->
      parse text = .ok table ∧
        forall table', parse text = .ok table' ->
          render table'.names = .ok text) ∧
    forall r, render table.names = .error r ->
      exists kind type name, r = .unwritableName type name ∧ 0 ≤ type ∧
        (table.column kind)[type.toInt.toNat]? = some (some name) ∧
        '\r' ∈ name.toList := by
  rcases recorded_of_parse h with ⟨as, hrecorded⟩
  refine ⟨hrecorded.render_isOk_iff, hrecorded.represents.display, ?_, ?_⟩
  · intro text htext
    have hparse := hrecorded.parse_rendered htext
    constructor
    · exact hparse
    · intro table' hparse'
      rw [hparse] at hparse'
      cases hparse'
      exact htext
  · intro r hr
    rw [render_eq_error_iff] at hr
    rcases List.exists_of_findSome?_eq_some hr with ⟨e, he, hrefusal⟩
    rcases (hrecorded.settled he).of_refusal hrefusal with
      ⟨hname, hreturn⟩
    rcases mem_entries_iff.mp he with ⟨⟨hnonneg, _⟩, _⟩
    exact ⟨e.kind, e.type, e.name, hname, hnonneg, entry_of_mem he, hreturn⟩

theorem render_of_parse_unsorted :
    exists table, parse "'x'= +1\n\nA =01\r\n" = .ok table ∧
      render table.names = .ok "A=1\n'x'=1\n" ∧
      parse "A=1\n'x'=1\n" = .ok table := by
  have hparse : parse "'x'= +1\n\nA =01\r\n" = .ok
      { literalNames := #[none, some "'x'"]
        symbolicNames := #[none, some "A"] } := by
    decide +kernel
  have htext : render (Table.names
      { literalNames := #[none, some "'x'"]
        symbolicNames := #[none, some "A"] }) = .ok "A=1\n'x'=1\n" := by
    decide +kernel
  exact ⟨_, hparse, htext, ((render_of_parse hparse).2.2.1 _ htext).1⟩

end TokensFile
end TokenNames
