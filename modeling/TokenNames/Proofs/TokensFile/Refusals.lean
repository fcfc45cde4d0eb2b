import TokenNames.Proofs.TokensFile.Canonical

/-!
# Refused names

## The first name that cannot be written

Each name of a vocabulary that says something can be refused for one of four reasons.  Which
of them counts depends on the name, its kind and its type, and not on the other names.
Rendering fails exactly when some name is refused, and the first one in the order of the
lines decides how: a symbolic name of a great type comes before a literal name of a small
one.
-/

namespace TokenNames
namespace TokensFile

/-- A vocabulary has a name that says something, of a kind and at a type in its range. -/
def Includes (v : Names) (e : Entry) : Prop :=
  (0 ≤ e.type ∧ e.type ≤ v.maxTokenType) ∧
    v.name e.kind e.type = some e.name ∧ e.name ≠ ""

def Quoted (name : String) : Prop :=
  exists rest, name.toList = '\'' :: rest

def Refused (e : Entry) : Prop :=
  65535 < e.type.toInt ∨ ¬ Storable e.name ∨
    (e.kind = .symbolic ∧ Quoted e.name) ∨
    (e.kind = .literal ∧ ¬ Quoted e.name)

/-- The reasons to refuse a name, in the order in which they are looked for. -/
inductive RefusedFor (e : Entry) : Refusal -> Prop where
  | type : 65535 < e.type.toInt -> RefusedFor e (.unwritableType e.type)
  | name : e.type.toInt ≤ 65535 -> ¬ Storable e.name ->
      RefusedFor e (.unwritableName e.type e.name)
  | symbolic : e.type.toInt ≤ 65535 -> Storable e.name ->
      e.kind = .symbolic -> Quoted e.name ->
      RefusedFor e (.quotedSymbolic e.type e.name)
  | literal : e.type.toInt ≤ 65535 -> Storable e.name ->
      e.kind = .literal -> ¬ Quoted e.name ->
      RefusedFor e (.unquotedLiteral e.type e.name)

/-!
# One name

The quote at the start of a name decides to which kind the reader would count it, so the
last two reasons are one: the name would be read as one of the other kind.
-/

theorem isQuoted_iff_quoted {name : String} :
    isQuoted name = true ↔ Quoted name := by
  unfold isQuoted Quoted
  rw [beq_iff_eq, List.head?_eq_some_iff]

theorem ofName_of_quoted {name : String} (h : Quoted name) :
    Kind.ofName name = .literal := by
  unfold Kind.ofName
  rw [if_pos (isQuoted_iff_quoted.mpr h)]

theorem ofName_of_not_quoted {name : String} (h : ¬ Quoted name) :
    Kind.ofName name = .symbolic := by
  unfold Kind.ofName
  rw [if_neg (fun hquoted => h (isQuoted_iff_quoted.mp hquoted))]

theorem ofName_eq_kind_iff {e : Entry} :
    Kind.ofName e.name = e.kind ↔
      ¬ (e.kind = .symbolic ∧ Quoted e.name) ∧
        ¬ (e.kind = .literal ∧ ¬ Quoted e.name) := by
  by_cases hquoted : Quoted e.name
  · rw [ofName_of_quoted hquoted]
    cases e.kind <;> simp [hquoted]
  · rw [ofName_of_not_quoted hquoted]
    cases e.kind <;> simp [hquoted]

theorem refusal?_eq_none_iff_not_refused {e : Entry} :
    refusal? e = none ↔ ¬ Refused e := by
  rw [refusal?_eq_none_iff, staysWhole_iff_storable, ofName_eq_kind_iff]
  unfold Refused
  rw [not_or, not_or, not_or, Int.not_lt, not_not]

theorem refusal?_of_refusedFor {e : Entry} {r : Refusal}
    (h : RefusedFor e r) : refusal? e = some r := by
  cases h with
  | type hbeyond => exact refusal?_of_beyond hbeyond
  | name hfits htorn =>
      apply refusal?_of_torn hfits
      rw [Bool.eq_false_iff]
      intro hwhole
      exact htorn (staysWhole_iff_storable.mp hwhole)
  | symbolic hfits hname hkind hquoted =>
      rw [refusal?_of_whole hfits (staysWhole_iff_storable.mpr hname), hkind,
        ofName_of_quoted hquoted]
  | literal hfits hname hkind hquoted =>
      rw [refusal?_of_whole hfits (staysWhole_iff_storable.mpr hname), hkind,
        ofName_of_not_quoted hquoted]

theorem refused_iff_exists_refusedFor {e : Entry} :
    Refused e ↔ exists r, RefusedFor e r := by
  constructor
  · intro h
    by_cases hfits : e.type.toInt ≤ 65535
    · by_cases hname : Storable e.name
      · rcases h with hbeyond | htorn | ⟨hkind, hquoted⟩ | ⟨hkind, hquoted⟩
        · exact absurd hfits (Int.not_le.mpr hbeyond)
        · exact absurd hname htorn
        · exact ⟨_, RefusedFor.symbolic hfits hname hkind hquoted⟩
        · exact ⟨_, RefusedFor.literal hfits hname hkind hquoted⟩
      · exact ⟨_, RefusedFor.name hfits hname⟩
    · exact ⟨_, RefusedFor.type (Int.not_le.mp hfits)⟩
  · intro h
    rcases h with ⟨r, hr⟩
    cases hr with
    | type hbeyond => exact Or.inl hbeyond
    | name _ htorn => exact Or.inr (Or.inl htorn)
    | symbolic _ _ hkind hquoted =>
        exact Or.inr (Or.inr (Or.inl ⟨hkind, hquoted⟩))
    | literal _ _ hkind hquoted =>
        exact Or.inr (Or.inr (Or.inr ⟨hkind, hquoted⟩))

theorem refusal?_eq_some_iff {e : Entry} {r : Refusal} :
    refusal? e = some r ↔ RefusedFor e r := by
  constructor
  · intro h
    by_cases hrefused : Refused e
    · rcases refused_iff_exists_refusedFor.mp hrefused with ⟨r', hr'⟩
      rw [refusal?_of_refusedFor hr'] at h
      cases h
      exact hr'
    · rw [refusal?_eq_none_iff_not_refused.mpr hrefused] at h
      cases h
  · exact refusal?_of_refusedFor

/-!
# All names

The entries of a vocabulary are its names in the order of their lines, so the first entry
that is refused is the first name that is.
-/

theorem mem_entries_iff_includes {v : Names} {e : Entry} :
    e ∈ entries v ↔ Includes v e := by
  rw [mem_entries_iff, proper_eq_some_iff, Includes]

theorem mem_front_iff {front back : List Entry} {e f : Entry}
    (h : (front ++ e :: back).Pairwise Entry.Before) :
    f ∈ front ↔ f ∈ front ++ e :: back ∧ f.Before e := by
  rw [List.pairwise_append] at h
  rcases h with ⟨_, hback, hacross⟩
  constructor
  · intro hf
    exact ⟨List.mem_append_left _ hf, hacross f hf e List.mem_cons_self⟩
  · intro h
    rcases h with ⟨hmem, hbefore⟩
    rcases List.mem_append.mp hmem with hfront | hrest
    · exact hfront
    · rcases List.mem_cons.mp hrest with hsame | hlater
      · rw [hsame] at hbefore
        exact absurd rfl (hbefore.type_ne rfl)
      · have hafter := (List.pairwise_cons.mp hback).left f hlater
        exact absurd hbefore hafter.asymm

theorem render_isOk_iff {v : Names} :
    (exists text, render v = .ok text) ↔
      forall e, Includes v e -> ¬ Refused e := by
  simp only [render_eq_ok_iff, exists_and_left, exists_eq, and_true,
    mem_entries_iff_includes, refusal?_eq_none_iff_not_refused]

theorem render_eq_error_iff_first {v : Names} {r : Refusal} :
    render v = .error r ↔
      exists e, Includes v e ∧ RefusedFor e r ∧
        forall f, Includes v f -> f.Before e -> ¬ Refused f := by
  rw [render_eq_error_iff, List.findSome?_eq_some_iff]
  simp only [← mem_entries_iff_includes, ← refusal?_eq_some_iff,
    ← refusal?_eq_none_iff_not_refused]
  constructor
  · intro h
    rcases h with ⟨front, e, back, hentries, hrefusal, hfront⟩
    have hbefore := pairwise_before_entries v
    rw [hentries] at hbefore ⊢
    refine ⟨e, by simp, hrefusal, ?_⟩
    intro f hf hfe
    exact hfront f ((mem_front_iff hbefore).mpr ⟨hf, hfe⟩)
  · intro h
    rcases h with ⟨e, he, hrefusal, hfirst⟩
    rcases List.append_of_mem he with ⟨front, back, hentries⟩
    have hbefore := pairwise_before_entries v
    rw [hentries] at hbefore hfirst
    refine ⟨front, e, back, hentries, hrefusal, ?_⟩
    intro f hf
    rcases (mem_front_iff hbefore).mp hf with ⟨hmem, hfe⟩
    exact hfirst f hmem hfe

/-!
# What has no influence

Only the names that say something matter, and they determine the entries, since there is
one order for them.
-/

theorem render_congr {v w : Names}
    (h : forall e, Includes w e ↔ Includes v e) : render w = render v := by
  have hentries : entries w = entries v := by
    apply List.Pairwise.eq_of_mem_iff (pairwise_before_entries w)
      (pairwise_before_entries v)
    intro e
    rw [mem_entries_iff_includes, mem_entries_iff_includes, h]
  rw [render_eq, render_eq, hentries]

theorem includes_table_iff {table : Table} {e : Entry} :
    Includes table.names e ↔
      0 ≤ e.type ∧ e.name ≠ "" ∧
        (table.column e.kind)[e.type.toInt.toNat]?.join = some e.name := by
  constructor
  · intro h
    rcases h with ⟨⟨hnonneg, _⟩, hname, hne⟩
    rw [table.name_of_nonneg e.kind hnonneg] at hname
    exact ⟨hnonneg, hne, hname⟩
  · intro h
    rcases h with ⟨hnonneg, hne, hname⟩
    rw [← table.name_of_nonneg e.kind hnonneg] at hname
    exact mem_entries_iff_includes.mp (mem_entries_of_name hnonneg hne hname)

theorem render_of_columns {table table' : Table}
    (h : forall kind, table'.column kind = table.column kind) :
    render table'.names = render table.names := by
  apply render_congr
  intro e
  rw [includes_table_iff, includes_table_iff, h]

/-- Rendering fails exactly when a name is refused, and then for the first refused name and
its first reason.  Nothing but the names that say something has an influence. -/
theorem render_refuses_first_name (v : Names) :
    ((exists text, render v = .ok text) ↔
      forall e, Includes v e -> ¬ Refused e) ∧
    (forall r, render v = .error r ↔
      exists e, Includes v e ∧ RefusedFor e r ∧
        forall f, Includes v f -> f.Before e -> ¬ Refused f) ∧
    (forall e, Refused e ↔ exists r, RefusedFor e r) ∧
    (forall w, (forall e, Includes w e ↔ Includes v e) ->
      render w = render v) ∧
    forall table table' : Table,
      (forall kind, table'.column kind = table.column kind) ->
        render table'.names = render table.names := by
  refine ⟨render_isOk_iff, ?_, ?_, ?_, ?_⟩
  · intro r
    exact render_eq_error_iff_first
  · intro e
    exact refused_iff_exists_refusedFor
  · intro w hsame
    exact render_congr hsame
  · intro table table' hcolumn
    exact render_of_columns hcolumn

theorem render_refuses_first_name_symbolic :
    Refused { kind := .literal, type := 1, name := "x" } ∧
    (exists e, RefusedFor e (.quotedSymbolic 3 "'Q") ∧
      Includes (Table.names
        { literalNames := #[none, some "x"]
          symbolicNames := #[some "", none, some "A", some "'Q"] }) e) ∧
    render (Table.names
      { literalNames := #[none, some "x"]
        symbolicNames := #[some "", none, some "A", some "'Q"]
        displayNames := #[none, none, none, none, some " ", some "\n"] }) =
      .error (.quotedSymbolic 3 "'Q") := by
  have hrefused : render (Table.names
      { literalNames := #[none, some "x"]
        symbolicNames := #[some "", none, some "A", some "'Q"] }) =
      .error (.quotedSymbolic 3 "'Q") := by
    decide +kernel
  rcases (render_refuses_first_name _).2.1 _ |>.mp hrefused with
    ⟨e, he, hreason, _⟩
  refine ⟨?_, ⟨e, hreason, he⟩, ?_⟩
  · rw [(render_refuses_first_name (Table.names {})).2.2.1]
    refine ⟨_, RefusedFor.literal (by decide) ?_ rfl ?_⟩
    · exact staysWhole_iff_storable.mp (by decide +kernel)
    · rw [← isQuoted_iff_quoted]
      decide
  · rw [← hrefused]
    apply (render_refuses_first_name (Table.names {})).2.2.2.2
    intro kind
    cases kind <;> rfl

end TokensFile
end TokenNames
