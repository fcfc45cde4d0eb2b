import TokenNames.Proofs.TokensFile.Normalization

/-!
# Vocabularies that a text can spell

## The reach of the format

Some vocabularies are the names of no text at all, and these have to be refused.  A text
spells the names of a vocabulary when it reads as a table that has them and no others.
Such a text exists exactly when each name could have been read from a line: it fits a
line, its type fits the format and a quote at its start tells its kind.

Rendering asks for one thing more.  A carriage return inside a name is read like any other
character, but it counts as a line break when the name is rendered.  So the vocabularies
that are refused are those that no text spells, and besides them those whose only flaw is
a carriage return.
-/

namespace TokenNames
namespace TokensFile

/-- A table has the names of a vocabulary that say something and no others, at every type
that is not negative. -/
structure Mirrors (table : Table) (v : Names) : Prop where
  within : forall kind t, 0 ≤ t -> t ≤ v.maxTokenType ->
    table.names.name kind t = proper (v.name kind t)
  beyond : forall kind t, 0 ≤ t -> v.maxTokenType < t ->
    table.names.name kind t = none
  display : table.displayNames = #[]

/-- A text reads as a table whose names are those of a vocabulary that say something, as
far as the types of the vocabulary go. -/
def Spells (source : String) (v : Names) : Prop :=
  exists table, parse source = .ok table ∧
    forall kind t, 0 ≤ t -> t ≤ v.maxTokenType ->
      table.names.name kind t = proper (v.name kind t)

/-!
# From a text to the names

What a text spells was read from its lines.
-/

theorem mem_entries_of_name {table : Table} {e : Entry}
    (hnonneg : 0 ≤ e.type) (hne : e.name ≠ "")
    (hname : table.names.name e.kind e.type = some e.name) :
    e ∈ entries table.names := by
  have hle : e.type ≤ table.maxTokenType :=
    Table.le_maxTokenType_of_name hname
  refine mem_entries_iff.mpr ⟨⟨hnonneg, hle⟩, ?_⟩
  rw [hname]
  exact proper_eq_some_iff.mpr ⟨rfl, hne⟩

theorem Spells.settled {source : String} {v : Names} (h : Spells source v)
    {e : Entry} (he : e ∈ entries v) : Settled e := by
  rcases h with ⟨table, hparse, hnames⟩
  rcases recorded_of_parse hparse with ⟨as, hrecorded⟩
  rcases mem_entries_iff.mp he with ⟨⟨hnonneg, hle⟩, hproper⟩
  apply hrecorded.settled
  apply mem_entries_of_name hnonneg (proper_eq_some_iff.mp hproper).right
  rw [hnames e.kind e.type hnonneg hle, hproper]

theorem spells_of_parse {source : String} {table : Table}
    (h : parse source = .ok table) : Spells source table.names := by
  rcases recorded_of_parse h with ⟨as, hrecorded⟩
  refine ⟨table, h, ?_⟩
  intro kind t hnonneg _
  cases hname : table.names.name kind t with
  | none => rfl
  | some name =>
      rw [table.name_of_nonneg kind hnonneg] at hname
      have hmem := Array.mem_iff_getElem?.mpr
        ⟨_, Option.join_eq_some_iff.mp hname⟩
      exact (proper_eq_some_iff.mpr ⟨rfl, hrecorded.ne_empty hmem⟩).symm

/-!
# From the names to a text

The lines of the entries are a text that spells them, whether or not rendering would have
refused one.
-/

theorem exists_mirror {v : Names}
    (h : forall e, e ∈ entries v -> Writable e) :
    exists table, parse (textOf (entries v)) = .ok table ∧
      Mirrors table v := by
  rcases exists_table_of_textOf h with ⟨table, hparse, hrepresents⟩
  refine ⟨table, hparse, ?_, ?_, hrepresents.display⟩
  · intro kind t hnonneg hle
    rw [name_eq_properName h hrepresents kind hnonneg,
      properName_of_le kind hnonneg hle]
  · intro kind t hnonneg hlt
    rw [name_eq_properName h hrepresents kind hnonneg,
      properName_of_beyond kind hnonneg hlt]

theorem spells_textOf {v : Names}
    (h : forall e, e ∈ entries v -> Settled e) :
    Spells (textOf (entries v)) v := by
  have hwritable : forall e, e ∈ entries v -> Writable e := by
    intro e he
    rcases mem_entries_iff.mp he with ⟨⟨hnonneg, _⟩, _⟩
    exact ⟨h e he, (TokenType.nonneg_iff e.type).mp hnonneg⟩
  rcases exists_mirror hwritable with ⟨table, hparse, hmirrors⟩
  exact ⟨table, hparse, hmirrors.within⟩

theorem exists_spells_iff {v : Names} :
    (exists source, Spells source v) ↔
      forall e, e ∈ entries v -> Settled e := by
  constructor
  · intro hspells
    rcases hspells with ⟨source, hsource⟩
    intro e he
    exact hsource.settled he
  · intro hsettled
    exact ⟨_, spells_textOf hsettled⟩

theorem forall_settled_iff {v : Names} :
    (forall e, e ∈ entries v -> Settled e) ↔
      forall kind t name, 0 ≤ t -> t ≤ v.maxTokenType ->
        proper (v.name kind t) = some name ->
          t ≤ TokenType.maxFile ∧ FitsLine name ∧ Kind.ofName name = kind := by
  constructor
  · intro h kind t name hnonneg hle hname
    have he : { kind, type := t, name } ∈ entries v :=
      mem_entries_iff.mpr ⟨⟨hnonneg, hle⟩, hname⟩
    have hsettled := h _ he
    refine ⟨?_, hsettled.fitsLine, hsettled.kind_eq⟩
    rw [Int32.le_iff_toInt_le, maxFile_toInt]
    exact hsettled.fits
  · intro h e he
    rcases mem_entries_iff.mp he with ⟨⟨hnonneg, hle⟩, hname⟩
    rcases h e.kind e.type e.name hnonneg hle hname with
      ⟨hfits, hfitsLine, hkind⟩
    rw [Int32.le_iff_toInt_le, maxFile_toInt] at hfits
    exact ⟨hfits, hfitsLine, hkind⟩

/-!
# Refused vocabularies
-/

/-- A refused vocabulary that a text spells all the same: the name cannot be rendered for
the carriage return inside it, although a line can hold it. -/
theorem refused_and_spelled :
    render (Table.names { symbolicNames := #[some "A\rB"] }) =
        .error (.unwritableName 0 "A\rB") ∧
      Spells "A\rB=0\n" (Table.names { symbolicNames := #[some "A\rB"] }) := by
  have hrefused : render (Table.names
      { symbolicNames := #[some "A\rB"] }) =
        .error (.unwritableName 0 "A\rB") := by
    decide +kernel
  have hparse : parse "A\rB=0\n" = .ok
      { symbolicNames := #[some "A\rB"] } := by
    decide +kernel
  exact ⟨hrefused, spells_of_parse hparse⟩

/-- No text spells a refused vocabulary, unless a carriage return is all that is wrong
with its names. -/
theorem spelled_iff_of_refused {v : Names} {r : Refusal}
    (h : render v = .error r) :
    ((exists source, Spells source v) ↔
      forall kind t name, 0 ≤ t -> t ≤ v.maxTokenType ->
        proper (v.name kind t) = some name ->
          t ≤ TokenType.maxFile ∧ FitsLine name ∧ Kind.ofName name = kind) ∧
    ((exists source, Spells source v) ->
      exists kind t name, r = .unwritableName t name ∧
        (0 ≤ t ∧ t ≤ v.maxTokenType) ∧
        proper (v.name kind t) = some name ∧ '\r' ∈ name.toList) := by
  constructor
  · rw [exists_spells_iff, forall_settled_iff]
  · intro hspells
    rw [exists_spells_iff] at hspells
    rw [render_eq_error_iff] at h
    rcases List.exists_of_findSome?_eq_some h with ⟨e, he, hrefusal⟩
    rcases (hspells e he).of_refusal hrefusal with ⟨hname, hreturn⟩
    rcases mem_entries_iff.mp he with ⟨hrange, hproper⟩
    exact ⟨e.kind, e.type, e.name, hname, hrange, hproper, hreturn⟩

theorem spelled_iff_of_refused_leading_blank :
    render (Table.names { symbolicNames := #[some " A\rB"] }) =
        .error (.unwritableName 0 " A\rB") ∧
      ¬ exists source,
        Spells source (Table.names { symbolicNames := #[some " A\rB"] }) := by
  have hrefused : render (Table.names
      { symbolicNames := #[some " A\rB"] }) =
        .error (.unwritableName 0 " A\rB") := by
    decide +kernel
  refine ⟨hrefused, ?_⟩
  intro hspells
  rcases (spelled_iff_of_refused hrefused).1.mp hspells .symbolic 0 " A\rB"
    (by simp) (by decide) (by decide) with ⟨_, hfits, _⟩
  exact absurd hfits.trimmed (by decide +kernel)

end TokensFile
end TokenNames
