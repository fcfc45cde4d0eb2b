import TokenNames.Proofs.Vocabulary.ReverseLookup

/-!
# From a type to its name and back

## Shown names in the type map

Messages show one name of a type, and the type map leads from a name to one type.  A type
that has a name is shown by one of its own names, so the type map knows what is shown.  It
need not lead back to the same type, as another type can carry the name too, but it does
if the names of a vocabulary are distinct.
-/

namespace TokenNames

namespace Names

/-!
# Shown names

The name that is derived for a type is one of the names that it carries, if there are any.
-/

/-- No two types share a name, and no type is called like the end of the input. -/
structure Distinct (v : Names) : Prop where
  unique : forall name t u, v.Carries t name -> v.Carries u name -> t = u
  no_eof : forall t, ¬ v.Carries t "EOF"

section Carried

variable {v : Names} {t : TokenType} {name : String}

theorem distinct_iff :
    v.Distinct ↔ forall p, p ∈ v.namedTypes -> p.1 ≠ "EOF" ∧
      forall q, q ∈ v.namedTypes -> p.1 = q.1 -> p.2 = q.2 := by
  constructor
  · intro h p hp
    rw [mem_namedTypes_iff] at hp
    constructor
    · intro heof
      rw [heof] at hp
      exact h.no_eof p.2 hp
    · intro q hq hname
      rw [mem_namedTypes_iff, ← hname] at hq
      exact h.unique p.1 p.2 q.2 hp hq
  · intro h
    simp only [Prod.forall, mem_namedTypes_iff] at h
    constructor
    · intro name t u ht hu
      exact (h name t ht).right name u hu rfl
    · intro t ht
      exact (h "EOF" t ht).left rfl

instance (v : Names) : Decidable v.Distinct :=
  decidable_of_iff _ distinct_iff.symm

theorem carries_iff_mem_namesAt :
    v.Carries t name ↔
      (0 ≤ t ∧ t ≤ v.maxTokenType) ∧ name ∈ v.namesAt t := by
  rw [mem_namesAt_iff]
  simp only [proper_eq_some_iff, exists_and_right]
  exact and_congr_right fun _ => and_comm

theorem Carries.derivedName (h : v.Carries t name) :
    v.Carries t (v.derivedName t) := by
  rcases carries_iff_mem_namesAt.mp h with ⟨hrange, hmem⟩
  apply carries_iff_mem_namesAt.mpr
  refine ⟨hrange, ?_⟩
  unfold Names.derivedName
  cases hnames : v.namesAt t with
  | nil =>
      rw [hnames] at hmem
      cases hmem
  | cons first rest => exact List.mem_cons_self

theorem Distinct.typeMap_of_carries (h : v.Distinct)
    (hcarries : v.Carries t name) : v.typeMap[name]? = some t := by
  have hname : name ≠ "EOF" := by
    intro heof
    rw [heof] at hcarries
    exact h.no_eof t hcarries
  apply (getElem?_typeMap_iff hname).mpr
  refine ⟨hcarries, ?_⟩
  intro u hu
  rw [h.unique name u t hu hcarries]
  exact Int32.le_refl t

theorem exists_greatest_of_carries (h : v.Carries t name)
    (hname : name ≠ "EOF") :
    exists u, v.typeMap[name]? = some u ∧ t ≤ u ∧ v.Carries u name ∧
      forall w, v.Carries w name -> w ≤ u := by
  rcases exists_getElem?_typeMap hname h with ⟨u, hu, hle⟩
  rcases (getElem?_typeMap_iff hname).mp hu with ⟨hcarries, hall⟩
  exact ⟨u, hu, hle, hcarries, hall⟩

end Carried

end Names

/-!
# Tables

The end of the input has its name in every table, and this is the only name that the type
map has beside those that types carry.
-/

namespace Table

variable {table : Table}

theorem derivedName_eof (table : Table) :
    table.names.derivedName TokenType.eof = "EOF" := by
  have hneg : TokenType.eof < 0 := by decide
  have hname : proper (table.names.name .symbolic TokenType.eof) =
      some "EOF" := by
    rw [table.name_of_neg .symbolic hneg]
    decide
  apply Names.derivedName_of_only hname
  intro other hother
  rw [table.name_of_neg other hneg, if_neg fun h => hother h.left]
  rfl

section Silent

variable (hsilent : forall name, some name ∈ table.displayNames -> name = "")

include hsilent

theorem carries_displayName {t : TokenType} {name : String}
    (h : table.names.Carries t name) :
    table.names.Carries t (table.displayName t) := by
  rw [displayName_of_silent hsilent]
  exact h.derivedName

theorem typeMap_displayName_of_value (hdistinct : table.names.Distinct)
    {name : String} {t : TokenType}
    (h : table.names.typeMap[name]? = some t) :
    table.names.typeMap[table.displayName t]? = some t := by
  by_cases hname : name = "EOF"
  · rw [hname, Names.typeMap_eof] at h
    cases h
    rw [displayName_of_silent hsilent, derivedName_eof, Names.typeMap_eof]
  · rcases (Names.getElem?_typeMap_iff hname).mp h with ⟨hcarries, _⟩
    exact hdistinct.typeMap_of_carries (carries_displayName hsilent hcarries)

/-- What messages show for a type is a name that the type map knows.  It leads to the end
of the input or to the greatest type of this name, and for distinct names it leads back
to the type.  Every other name that the type map knows is a name of its type. -/
theorem typeMap_of_shown_name :
    (forall t, (exists name, table.names.Carries t name) ->
      table.displayName t ∈ table.names.typeMap ∧
      (table.displayName t = "EOF" ->
        table.names.typeMap[table.displayName t]? = some TokenType.eof) ∧
      (table.displayName t ≠ "EOF" ->
        exists u, table.names.typeMap[table.displayName t]? = some u ∧ t ≤ u ∧
          table.names.Carries u (table.displayName t) ∧
          forall w, table.names.Carries w (table.displayName t) -> w ≤ u)) ∧
    (table.names.Distinct ->
      (forall t, (exists name, table.names.Carries t name) ->
        table.names.typeMap[table.displayName t]? = some t) ∧
      (forall t name, table.names.Carries t name ->
        table.names.typeMap[name]? = some t) ∧
      forall (name : String) t, table.names.typeMap[name]? = some t ->
        table.names.typeMap[table.displayName t]? = some t) ∧
    forall (name : String) t, name ≠ "EOF" -> table.names.typeMap[name]? = some t ->
      exists kind, table.names.name kind t = some name := by
  refine ⟨?_, ?_, ?_⟩
  · intro t hnamed
    rcases hnamed with ⟨name, hname⟩
    have hcarries := carries_displayName hsilent hname
    refine ⟨Names.mem_typeMap_iff.mpr (Or.inr ⟨t, hcarries⟩), ?_, ?_⟩
    · intro heof
      rw [heof]
      exact Names.typeMap_eof _
    · exact Names.exists_greatest_of_carries hcarries
  · intro hdistinct
    refine ⟨?_, ?_, ?_⟩
    · intro t hnamed
      rcases hnamed with ⟨name, hname⟩
      exact hdistinct.typeMap_of_carries (carries_displayName hsilent hname)
    · intro t name hcarries
      exact hdistinct.typeMap_of_carries hcarries
    · intro name t h
      exact typeMap_displayName_of_value hsilent hdistinct h
  · intro name t hname h
    exact ((Names.getElem?_typeMap_iff hname).mp h).left.right.right

end Silent

theorem typeMap_of_shown_name_distinct :
    (Table.names
        { literalNames := #[some "'+'", some ""]
          symbolicNames := #[some "PLUS", some "INT"]
          displayNames := #[none, some "", none] }).Distinct ∧
      (Table.names
        { literalNames := #[some "'+'", some ""]
          symbolicNames := #[some "PLUS", some "INT"]
          displayNames := #[none, some "", none] }).typeMap["INT"]? =
        some 1 ∧
      (Table.names
        { literalNames := #[some "'+'", some ""]
          symbolicNames := #[some "PLUS", some "INT"]
          displayNames := #[none, some "", none] }).typeMap["PLUS"]? =
        some 0 := by
  have hdistinct : (Table.names
      { literalNames := #[some "'+'", some ""]
        symbolicNames := #[some "PLUS", some "INT"]
        displayNames := #[none, some "", none] }).Distinct := by
    decide +kernel
  have hsilent : forall name,
      some name ∈ #[none, some "", none] -> name = "" := by
    simp
  rcases (typeMap_of_shown_name hsilent).2.1 hdistinct with
    ⟨hshown, hcarried, _⟩
  refine ⟨hdistinct, ?_, ?_⟩
  · exact hshown 1 ⟨"INT", by decide, by decide, Kind.symbolic, by decide⟩
  · exact hcarried 0 "PLUS" ⟨by decide, by decide, Kind.symbolic, by decide⟩

end Table
end TokenNames
