import TokenNames.Proofs.Table.Sorting
import TokenNames.Proofs.TokensFile.Observation

/-!
# Rendering a single list of names

## Three looks at the first character

The first character of a name is looked at three times on the way from a list of names to
a table that was read: when the list is sorted, when an entry could be refused for its
kind, and when its line is read.  All three agree on the names that were sorted, so that
none of them is refused for its kind.  Names that tell no kind leave no line, and nothing
moves into their place.
-/

namespace TokenNames
namespace TokensFile

/-!
# Refusals
-/

theorem kind_respected_of_refusal {e : Entry} {r : Refusal}
    (hkind : Kind.ofName e.name = e.kind) (h : refusal? e = some r) :
    r = .unwritableType e.type ∨ r = .unwritableName e.type e.name := by
  by_cases hfits : e.type.toInt ≤ 65535
  · cases hwhole : staysWhole e.name with
    | true =>
        rw [refusal?_eq_none_iff.mpr ⟨hfits, hwhole, hkind⟩] at h
        cases h
    | false =>
        rw [refusal?_of_torn hfits hwhole] at h
        cases h
        exact Or.inr rfl
  · rw [refusal?_of_beyond (Int.not_le.mp hfits)] at h
    cases h
    exact Or.inl rfl

/-!
# The entries of a list
-/

variable {tokenNames : Column}

theorem mem_entries_ofTokenNames_iff {e : Entry} :
    e ∈ entries (Table.ofTokenNames tokenNames).names ↔
      tokenNames.name? e.type = some e.name ∧ TellsKind e.name e.kind := by
  constructor
  · intro he
    rcases mem_entries_iff.mp he with ⟨⟨hnonneg, _⟩, hproper⟩
    exact (Table.name_ofTokenNames_iff hnonneg).mp
      (proper_eq_some_iff.mp hproper).left
  · intro h
    rcases h with ⟨hname, htells⟩
    exact mem_entries_of_name (Table.nonneg_of_name? hname) htells.ne_empty
      (Table.name_ofTokenNames_of_tells hname htells)

theorem refusal?_ofTokenNames_eq_none_iff {e : Entry}
    (he : e ∈ entries (Table.ofTokenNames tokenNames).names) :
    refusal? e = none ↔ e.type.toInt ≤ 65535 ∧ Storable e.name := by
  have hkind := (mem_entries_ofTokenNames_iff.mp he).right.kind_eq
  rw [refusal?_eq_none_iff, staysWhole_iff_storable]
  constructor
  · intro h
    exact ⟨h.left, h.right.left⟩
  · intro h
    exact ⟨h.left, h.right, hkind⟩

theorem kind_respected_of_render {r : Refusal}
    (h : render (Table.ofTokenNames tokenNames).names = .error r) :
    (exists t, r = .unwritableType t) ∨
      exists t name, r = .unwritableName t name := by
  rw [render_eq_error_iff] at h
  rcases List.exists_of_findSome?_eq_some h with ⟨e, he, hrefusal⟩
  have hkind := (mem_entries_ofTokenNames_iff.mp he).right.kind_eq
  rcases kind_respected_of_refusal hkind hrefusal with htype | hname
  · exact Or.inl ⟨e.type, htype⟩
  · exact Or.inr ⟨e.type, e.name, hname⟩

theorem render_ofTokenNames_isOk_iff :
    (exists text, render (Table.ofTokenNames tokenNames).names = .ok text) ↔
      forall (i : Nat) (name : String) (kind : Kind), i < 2147483648 ->
        tokenNames[i]? = some (some name) -> TellsKind name kind ->
          i ≤ 65535 ∧ Storable name := by
  have hrender : (exists text,
      render (Table.ofTokenNames tokenNames).names = .ok text) ↔
      forall e, e ∈ entries (Table.ofTokenNames tokenNames).names ->
        refusal? e = none := by
    simp [render_eq_ok_iff]
  rw [hrender]
  constructor
  · intro h i name kind hreach hentry htells
    have hname : tokenNames.name? (Int32.ofNat i) = some name := by
      rw [Table.name?_of_nonneg _ (TokenType.nonneg_ofNat_index hreach),
        TokenType.toInt_ofNat_index hreach, Int.toNat_natCast, hentry]
      rfl
    have he : { kind, type := Int32.ofNat i, name } ∈
        entries (Table.ofTokenNames tokenNames).names :=
      mem_entries_ofTokenNames_iff.mpr ⟨hname, htells⟩
    rcases (refusal?_ofTokenNames_eq_none_iff he).mp (h _ he) with
      ⟨hfits, hstorable⟩
    have hindex := TokenType.toInt_ofNat_index hreach
    refine ⟨?_, hstorable⟩
    simp only at hfits
    omega
  · intro h e he
    rcases mem_entries_ofTokenNames_iff.mp he with ⟨hname, htells⟩
    have hnonneg := Table.nonneg_of_name? hname
    have hindex := TokenType.natCast_index hnonneg
    have hupper := Int32.toInt_lt e.type
    rw [Table.name?_of_nonneg _ hnonneg] at hname
    rcases h _ e.name e.kind (by omega) (Option.join_eq_some_iff.mp hname)
      htells with ⟨hfits, hstorable⟩
    exact (refusal?_ofTokenNames_eq_none_iff he).mpr ⟨by omega, hstorable⟩

/-!
# Out of reach

A type is a 32-bit number, so a list can be longer than the types reach.  What stands
behind the last type is not looked at.
-/

def behind (places : Nat) (name : String) : Column :=
  (Array.replicate places none).push (some name)

theorem getElem?_behind (places : Nat) (name : String) (i : Nat) :
    (behind places name)[i]? =
      if i = places then some (some name)
      else if i < places then some none else none := by
  rw [behind, Array.getElem?_push, Array.size_replicate,
    Array.getElem?_replicate]

theorem render_ofTokenNames_behind {places : Nat}
    (h : 2147483648 ≤ places) (name : String) :
    exists text,
      render (Table.ofTokenNames (behind places name)).names = .ok text := by
  apply render_ofTokenNames_isOk_iff.mpr
  intro i other kind hreach hentry _
  rw [getElem?_behind, if_neg (by omega), if_pos (by omega)] at hentry
  cases hentry

/-- The list with one capitalized name behind all types is rendered, although the place of
that name is no type of a file. -/
theorem rendered_out_of_reach :
    (exists text,
      render (Table.ofTokenNames (behind 2147483648 "A")).names = .ok text) ∧
    ¬ forall (i : Nat) (name : String) (kind : Kind),
      (behind 2147483648 "A")[i]? = some (some name) ->
        TellsKind name kind -> i ≤ 65535 ∧ Storable name := by
  refine ⟨render_ofTokenNames_behind (Nat.le_refl _) "A", ?_⟩
  intro hall
  have hentry : (behind 2147483648 "A")[2147483648]? = some (some "A") := by
    rw [getElem?_behind, if_pos rfl]
  have htells : TellsKind "A" .symbolic :=
    isCapitalized_iff.mp (by decide +kernel)
  rcases hall _ "A" .symbolic hentry htells with ⟨hfits, _⟩
  omega

/-!
# Messages

The table that was read has no third column, so it shows the derived names of the list.
-/

/-- A list of names is never refused for a kind, and it is rendered exactly when the names
that tell a kind can be stored.  What is read from its text has the same names of both
kinds, and messages show them; every other type is shown as its numeral. -/
theorem render_ofTokenNames (tokenNames : Column) :
    (forall t name,
      render (Table.ofTokenNames tokenNames).names ≠
          .error (.unquotedLiteral t name) ∧
        render (Table.ofTokenNames tokenNames).names ≠
          .error (.quotedSymbolic t name)) ∧
    ((exists text, render (Table.ofTokenNames tokenNames).names = .ok text) ↔
      forall (i : Nat) (name : String) (kind : Kind), i < 2147483648 ->
        tokenNames[i]? = some (some name) -> TellsKind name kind ->
          i ≤ 65535 ∧ Storable name) ∧
    (tokenNames.size ≤ 2147483648 ->
      ((exists text, render (Table.ofTokenNames tokenNames).names = .ok text) ↔
        forall (i : Nat) (name : String) (kind : Kind),
          tokenNames[i]? = some (some name) -> TellsKind name kind ->
            i ≤ 65535 ∧ Storable name)) ∧
    forall text, render (Table.ofTokenNames tokenNames).names = .ok text ->
      exists table, parse text = .ok table ∧
        (forall kind t, table.names.name kind t =
          (Table.ofTokenNames tokenNames).names.name kind t) ∧
        (forall t name kind, tokenNames.name? t = some name ->
          TellsKind name kind ->
            table.displayName t =
              (Table.ofTokenNames tokenNames).displayName t) ∧
        forall t, t ≠ TokenType.eof ->
          (forall name kind, tokenNames.name? t = some name ->
            ¬ TellsKind name kind) ->
            table.displayName t = t.text := by
  refine ⟨?_, render_ofTokenNames_isOk_iff, ?_, ?_⟩
  · intro t name
    constructor
    · intro h
      rcases kind_respected_of_render h with ⟨_, hr⟩ | ⟨_, _, hr⟩ <;> cases hr
    · intro h
      rcases kind_respected_of_render h with ⟨_, hr⟩ | ⟨_, _, hr⟩ <;> cases hr
  · intro hsize
    rw [render_ofTokenNames_isOk_iff]
    constructor
    · intro h i name kind hentry
      rcases Array.getElem?_eq_some_iff.mp hentry with ⟨hi, _⟩
      exact h i name kind (Nat.lt_of_lt_of_le hi hsize) hentry
    · intro h i name kind _
      exact h i name kind
  · intro text h
    rcases exists_mirror (writable_of_render h) with ⟨table, hparse, hmirrors⟩
    rw [← (render_eq_ok_iff.mp h).right] at hparse
    refine ⟨table, hparse, ?_, ?_, ?_⟩
    · intro kind t
      rw [hmirrors.name_eq_proper, Table.proper_name_ofTokenNames]
    · intro t name kind hname htells
      rw [hmirrors.displayName_eq_derivedName,
        Table.derivedName_ofTokenNames_of_tells hname htells,
        Table.displayName_ofTokenNames hname htells.ne_empty]
    · intro t hend huntold
      rw [hmirrors.displayName_eq_derivedName,
        Table.derivedName_ofTokenNames_of_untold hend huntold]

theorem render_ofTokenNames_mixed :
    render (Table.ofTokenNames
        #[some "'x'", none, some "", some "id", some "Ä"]).names =
        .ok "Ä=4\n'x'=0\n" ∧
      exists table, parse "Ä=4\n'x'=0\n" = .ok table ∧
        table.displayName 0 = "'x'" ∧ table.displayName 3 = "3" := by
  have htext : render (Table.ofTokenNames
      #[some "'x'", none, some "", some "id", some "Ä"]).names =
        .ok "Ä=4\n'x'=0\n" := by
    decide +kernel
  rcases (render_ofTokenNames
    #[some "'x'", none, some "", some "id", some "Ä"]).2.2.2 _ htext with
    ⟨table, hparse, _, htold, huntold⟩
  refine ⟨htext, table, hparse, ?_, ?_⟩
  · rw [htold 0 "'x'" .literal rfl (TellsKind.quote rfl)]
    rfl
  · rw [huntold 3 (by decide)]
    · decide +kernel
    · intro name kind hname htells
      cases hname
      cases kind with
      | literal => exact absurd (isQuoted_iff.mpr htells) (by decide)
      | symbolic =>
          exact absurd (isCapitalized_iff.mpr htells) (by decide +kernel)

end TokensFile
end TokenNames
