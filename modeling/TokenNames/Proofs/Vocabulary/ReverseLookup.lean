import Std.Data.TreeMap.Lemmas
import TokenNames.Proofs.Vocabulary.Observers

/-!
# From names to types

## What the type map holds

A type carries a name when the name is its literal or its symbolic name, says something,
and the type lies in the range of the vocabulary.  The type map turns this relation
around.  Several types can carry a name, and the map leads to the greatest of them; only
`EOF` leads to the end of the input, whichever types carry it.
-/

namespace TokenNames

/-!
# Scanning

The map is filled from a list of names and types in which the types never descend.  What
it holds after a part of the list is said by that part alone: each name leads to the
greatest type that stands with it.
-/

/-- A map leads from each name of a list to the greatest type that stands with it. -/
structure Reverses (m : TypeMap) (named : List (String × TokenType)) :
    Prop where
  greatest : forall name t, m[name]? = some t ->
    (name, t) ∈ named ∧ forall u, (name, u) ∈ named -> u ≤ t
  covered : forall name t, (name, t) ∈ named -> exists u, m[name]? = some u

theorem reverses_empty : Reverses ∅ [] where
  greatest := by
    intro name t hname
    rw [Std.TreeMap.getElem?_emptyc] at hname
    cases hname
  covered := by
    intro name t hmem
    cases hmem

theorem getElem?_insert_of_ne {m : TypeMap} {name other : String}
    (h : name ≠ other) (t : TokenType) :
    (m.insert name t)[other]? = m[other]? := by
  rw [Std.TreeMap.getElem?_insert, if_neg]
  rw [Std.LawfulEqCmp.compare_eq_iff_eq]
  exact h

theorem mem_append_singleton_of_ne {named : List (String × TokenType)}
    {name other : String} {t u : TokenType} (h : name ≠ other) :
    (other, u) ∈ named ++ [(name, t)] ↔ (other, u) ∈ named := by
  simp [Ne.symm h]

theorem Reverses.insert {m : TypeMap} {named : List (String × TokenType)}
    (h : Reverses m named) (name : String) {t : TokenType}
    (hlast : forall p, p ∈ named -> p.2 ≤ t) :
    Reverses (m.insert name t) (named ++ [(name, t)]) where
  greatest := by
    intro other u hu
    by_cases hname : name = other
    · rw [← hname, Std.TreeMap.getElem?_insert_self] at hu
      cases hu
      rw [← hname]
      constructor
      · exact List.mem_append_right _ List.mem_cons_self
      · intro w hw
        rcases List.mem_append.mp hw with hearlier | hnew
        · exact hlast _ hearlier
        · cases List.mem_singleton.mp hnew
          exact Int32.le_refl _
    · rw [getElem?_insert_of_ne hname] at hu
      simp only [mem_append_singleton_of_ne hname]
      exact h.greatest other u hu
  covered := by
    intro other u hmem
    by_cases hname : name = other
    · rw [← hname, Std.TreeMap.getElem?_insert_self]
      exact ⟨t, rfl⟩
    · rw [getElem?_insert_of_ne hname]
      exact h.covered other u ((mem_append_singleton_of_ne hname).mp hmem)

theorem Reverses.foldl {m : TypeMap}
    {before after : List (String × TokenType)} (h : Reverses m before)
    (hascend : (before ++ after).Pairwise fun p q => p.2 ≤ q.2) :
    Reverses (after.foldl (fun m p => m.insert p.1 p.2) m)
      (before ++ after) := by
  -- The pairs that have been inserted grow with the map, so both stay general.
  induction after generalizing m before with
  | nil =>
      rw [List.append_nil]
      exact h
  | cons p after ih =>
      have hlast : forall q, q ∈ before -> q.2 ≤ p.2 := by
        intro q hq
        exact (List.pairwise_append.mp hascend).2.2 q hq p List.mem_cons_self
      rw [List.append_cons] at hascend ⊢
      exact ih (h.insert p.1 hlast) hascend

namespace Names

/-!
# The names of a vocabulary
-/

/-- A type in the range of a vocabulary has a name that says something. -/
def Carries (v : Names) (t : TokenType) (name : String) : Prop :=
  (0 ≤ t ∧ t ≤ v.maxTokenType) ∧ name ≠ "" ∧
    exists kind, v.name kind t = some name

theorem mem_namedTypes_iff {v : Names} {name : String} {t : TokenType} :
    (name, t) ∈ v.namedTypes ↔ v.Carries t name := by
  unfold namedTypes Carries
  rw [List.mem_flatMap]
  constructor
  · intro hmem
    rcases hmem with ⟨u, hu, hpair⟩
    rcases List.mem_map.mp hpair with ⟨n, hn, heq⟩
    cases heq
    rcases mem_namesAt_iff.mp hn with ⟨kind, hproper⟩
    rcases proper_eq_some_iff.mp hproper with ⟨hname, hne⟩
    exact ⟨TokenType.mem_upTo.mp hu, hne, kind, hname⟩
  · intro hcarries
    rcases hcarries with ⟨hrange, hne, kind, hname⟩
    have hproper := proper_eq_some_iff.mpr ⟨hname, hne⟩
    refine ⟨t, TokenType.mem_upTo.mpr hrange, List.mem_map.mpr ⟨name, ?_, rfl⟩⟩
    exact mem_namesAt_iff.mpr ⟨kind, hproper⟩

theorem pairwise_namedTypes (v : Names) :
    v.namedTypes.Pairwise fun p q => p.2 ≤ q.2 := by
  rw [namedTypes, List.pairwise_flatMap]
  constructor
  · intro t _
    rw [List.pairwise_map]
    exact List.pairwise_of_forall fun _ _ => Int32.le_refl t
  · refine (TokenType.pairwise_upTo v.maxTokenType).imp ?_
    intro t u hlt p hp q hq
    rcases List.mem_map.mp hp with ⟨_, _, hp⟩
    rcases List.mem_map.mp hq with ⟨_, _, hq⟩
    rw [← hp, ← hq]
    exact Int32.le_of_lt hlt

/-!
# Looking up names
-/

theorem typeMap_eof (v : Names) :
    v.typeMap["EOF"]? = some TokenType.eof :=
  Std.TreeMap.getElem?_insert_self

theorem exists_reverses (v : Names) :
    exists m, Reverses m v.namedTypes ∧
      forall name, name ≠ "EOF" -> v.typeMap[name]? = m[name]? := by
  refine ⟨_, reverses_empty.foldl v.pairwise_namedTypes, ?_⟩
  intro name hname
  exact getElem?_insert_of_ne (Ne.symm hname) _

theorem getElem?_typeMap_iff {v : Names} {name : String}
    (hname : name ≠ "EOF") {t : TokenType} :
    v.typeMap[name]? = some t ↔
      v.Carries t name ∧ forall u, v.Carries u name -> u ≤ t := by
  rcases v.exists_reverses with ⟨m, hreverses, hmap⟩
  simp only [hmap name hname, ← mem_namedTypes_iff]
  constructor
  · exact hreverses.greatest name t
  · intro hgreatest
    rcases hgreatest with ⟨hmem, hall⟩
    rcases hreverses.covered name t hmem with ⟨u, hu⟩
    rcases hreverses.greatest name u hu with ⟨hmem', hall'⟩
    rw [hu, Int32.le_antisymm (hall u hmem') (hall' t hmem)]

theorem exists_getElem?_typeMap {v : Names} {name : String} {t : TokenType}
    (hname : name ≠ "EOF") (hcarries : v.Carries t name) :
    exists u, v.typeMap[name]? = some u ∧ t ≤ u := by
  rcases v.exists_reverses with ⟨m, hreverses, hmap⟩
  rw [← mem_namedTypes_iff] at hcarries
  rcases hreverses.covered name t hcarries with ⟨u, hu⟩
  rw [hmap name hname]
  exact ⟨u, hu, (hreverses.greatest name u hu).right t hcarries⟩

theorem mem_typeMap_iff {v : Names} {name : String} :
    name ∈ v.typeMap ↔ name = "EOF" ∨ exists t, v.Carries t name := by
  rw [Std.TreeMap.mem_iff_isSome_getElem?, Option.isSome_iff_exists]
  by_cases hname : name = "EOF"
  · rw [hname, typeMap_eof]
    simp
  · constructor
    · intro hkey
      rcases hkey with ⟨t, ht⟩
      exact Or.inr ⟨t, ((getElem?_typeMap_iff hname).mp ht).left⟩
    · intro hcarried
      rcases hcarried.resolve_left hname with ⟨t, ht⟩
      rcases exists_getElem?_typeMap hname ht with ⟨u, hu, _⟩
      exact ⟨u, hu⟩

theorem exists_size_typeMap (v : Names) :
    exists names : List String, names.Nodup ∧
      (forall name, name ∈ names ↔
        name ≠ "EOF" ∧ exists t, v.Carries t name) ∧
      v.typeMap.size = names.length + 1 := by
  have heof : "EOF" ∈ v.typeMap.keys := by
    rw [Std.TreeMap.mem_keys, mem_typeMap_iff]
    exact Or.inl rfl
  have hpos := List.length_pos_of_mem heof
  refine ⟨v.typeMap.keys.erase "EOF", Std.TreeMap.nodup_keys.erase _, ?_, ?_⟩
  · intro name
    rw [Std.TreeMap.nodup_keys.mem_erase_iff, Std.TreeMap.mem_keys,
      mem_typeMap_iff]
    constructor
    · intro hkey
      rcases hkey with ⟨hne, hkey⟩
      exact ⟨hne, hkey.resolve_left hne⟩
    · intro hcarried
      rcases hcarried with ⟨hne, hcarried⟩
      exact ⟨hne, Or.inr hcarried⟩
  · rw [List.length_erase_of_mem heof, ← Std.TreeMap.length_keys]
    omega

theorem getElem?_typeMap_of_shared {v : Names} {name : String}
    {t u : TokenType} (hname : name ≠ "EOF") (ht : v.Carries t name)
    (hu : v.Carries u name)
    (hothers : forall w, v.Carries w name -> w = t ∨ w = u) :
    exists w, v.typeMap[name]? = some w ∧ t ≤ w ∧ u ≤ w ∧
      (w = t ∨ w = u) := by
  rcases exists_getElem?_typeMap hname ht with ⟨w, hw, htw⟩
  rcases (getElem?_typeMap_iff hname).mp hw with ⟨hcarries, hall⟩
  exact ⟨w, hw, htw, hall u hu, hothers w hcarries⟩

end Names

/-!
# Tables

The range of a table covers its columns, whatever their lengths, as far as there are types
at all.  The third column can widen the range but adds no name.
-/

namespace Table

theorem carries_of_entry {table : Table} {kind : Kind} {t : Nat}
    {name : String} (ht : t < 2147483648)
    (hentry : (table.column kind)[t]? = some (some name))
    (hne : name ≠ "") : table.names.Carries (Int32.ofNat t) name := by
  rcases Array.getElem?_eq_some_iff.mp hentry with ⟨hbound, _⟩
  have hsize := table.size_column_le kind
  have hmax := table.toInt_maxTokenType
  refine ⟨⟨TokenType.nonneg_ofNat_index ht, ?_⟩, hne, kind, ?_⟩
  · show Int32.ofNat t ≤ table.maxTokenType
    rw [Int32.le_iff_toInt_le, TokenType.toInt_ofNat_index ht]
    omega
  · rw [table.name_of_index kind ht, hentry]
    rfl

theorem typeMap_of_columns {table table' : Table}
    (h : forall kind, table'.column kind = table.column kind) :
    table'.names.typeMap = table.names.typeMap := by
  apply Names.typeMap_congr
  intro t hnonneg
  rw [table'.namesWithin_eq_namesAt, table.namesWithin_eq_namesAt]
  apply Names.namesAt_congr
  intro kind
  rw [table'.name_of_nonneg kind hnonneg, table.name_of_nonneg kind hnonneg,
    h kind]

end Table

namespace Names

/-- The type map leads from each name to the greatest type that carries it, from `EOF` to
the end of the input, and from nothing else anywhere.  It has an entry for each name and
one for `EOF`.  No name of a table is missed, and the names for messages do not count. -/
theorem typeMap_reverses_names (v : Names) :
    v.typeMap["EOF"]? = some TokenType.eof ∧
    (forall name t, name ≠ "EOF" ->
      (v.typeMap[name]? = some t ↔
        v.Carries t name ∧ forall u, v.Carries u name -> u ≤ t)) ∧
    (forall name, name ∈ v.typeMap ↔
      name = "EOF" ∨ exists t, v.Carries t name) ∧
    (forall name t u, name ≠ "EOF" ->
      v.Carries t name -> v.literalName t = some name ->
      v.Carries u name -> v.symbolicName u = some name ->
      (forall w, v.Carries w name -> w = t ∨ w = u) ->
        exists w, v.typeMap[name]? = some w ∧ t ≤ w ∧ u ≤ w ∧
          (w = t ∨ w = u)) ∧
    (exists names : List String, names.Nodup ∧
      (forall name, name ∈ names ↔
        name ≠ "EOF" ∧ exists t, v.Carries t name) ∧
      v.typeMap.size = names.length + 1) ∧
    forall table : Table, v = table.names ->
      (forall kind t name, t < 2147483648 -> name ≠ "" -> name ≠ "EOF" ->
        (table.column kind)[t]? = some (some name) ->
          exists u, v.typeMap[name]? = some u ∧ Int32.ofNat t ≤ u) ∧
      forall table' : Table,
        (forall kind, table'.column kind = table.column kind) ->
          table'.names.typeMap = v.typeMap := by
  refine ⟨v.typeMap_eof, ?_, fun _ => mem_typeMap_iff, ?_,
    v.exists_size_typeMap, ?_⟩
  · intro name t hname
    exact getElem?_typeMap_iff hname
  · intro name t u hname ht _ hu _ hothers
    exact getElem?_typeMap_of_shared hname ht hu hothers
  · intro table hv
    rw [hv]
    constructor
    · intro kind t name ht hne hname hentry
      exact exists_getElem?_typeMap hname
        (table.carries_of_entry ht hentry hne)
    · intro table' hcolumns
      exact Table.typeMap_of_columns hcolumns

theorem typeMap_reverses_names_across_kinds :
    (Table.names
        { literalNames := #[none, none, some "A"]
          symbolicNames := #[some "EOF", some "A"] }).typeMap["A"]? = some 2 ∧
      (Table.names
        { literalNames := #[none, none, some "A"]
          symbolicNames := #[some "EOF", some "A"] }).typeMap["EOF"]? =
        some (-1) := by
  rcases typeMap_reverses_names (Table.names
    { literalNames := #[none, none, some "A"]
      symbolicNames := #[some "EOF", some "A"] }) with ⟨heof, hname, _⟩
  refine ⟨(hname "A" 2 (by decide)).mpr ⟨?_, ?_⟩, heof⟩
  · exact ⟨by decide, by decide, Kind.literal, by decide⟩
  · intro u hcarries
    exact hcarries.left.right

end Names

end TokenNames
