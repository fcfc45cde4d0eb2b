import TokenNames.Vocabulary

/-!
# Names that say something

## Proper names and the types that carry them

An empty name counts for nothing, wherever names are looked at.  What is left are the
proper names, of which a type has at most one of each kind.
-/

namespace TokenNames

theorem proper_eq_some_iff {name : Option String} {n : String} :
    proper name = some n ↔ name = some n ∧ n ≠ "" := by
  unfold proper
  rw [Option.filter_eq_some_iff, decide_eq_true_eq]

theorem proper_eq_none_iff {name : Option String} :
    proper name = none ↔ name = none ∨ name = some "" := by
  cases name <;> simp [proper]

theorem proper_proper (name : Option String) :
    proper (proper name) = proper name := by
  simp [proper]

namespace Names

theorem mem_namesAt_iff {v : Names} {t : TokenType} {name : String} :
    name ∈ v.namesAt t ↔ exists kind, proper (v.name kind t) = some name := by
  unfold namesAt
  rw [List.mem_filterMap]
  constructor
  · intro hmem
    rcases hmem with ⟨entry, hentry, hname⟩
    rcases List.mem_cons.mp hentry with hliteral | hother
    · rw [hliteral] at hname
      exact ⟨Kind.literal, hname⟩
    · rw [List.mem_singleton.mp hother] at hname
      exact ⟨Kind.symbolic, hname⟩
  · intro hproper
    rcases hproper with ⟨kind, hname⟩
    cases kind with
    | literal => exact ⟨_, List.mem_cons_self, hname⟩
    | symbolic =>
        exact ⟨_, List.mem_cons_of_mem _ List.mem_cons_self, hname⟩

theorem namesAt_ne_nil_iff {v : Names} {t : TokenType} :
    v.namesAt t ≠ [] ↔
      exists kind name, proper (v.name kind t) = some name := by
  constructor
  · intro hne
    rcases List.exists_mem_of_ne_nil _ hne with ⟨name, hmem⟩
    rcases mem_namesAt_iff.mp hmem with ⟨kind, hname⟩
    exact ⟨kind, name, hname⟩
  · intro hproper
    rcases hproper with ⟨kind, name, hname⟩
    exact List.ne_nil_of_mem (mem_namesAt_iff.mpr ⟨kind, hname⟩)

theorem namesAt_congr {v w : Names} {t : TokenType}
    (h : forall kind, proper (w.name kind t) = proper (v.name kind t)) :
    w.namesAt t = v.namesAt t := by
  have hliteral : proper (w.literalName t) = proper (v.literalName t) :=
    h .literal
  have hsymbolic : proper (w.symbolicName t) = proper (v.symbolicName t) :=
    h .symbolic
  simp only [namesAt, List.filterMap_cons, hliteral, hsymbolic]

theorem derivedName_eq (v : Names) (t : TokenType) :
    v.derivedName t =
      (proper (v.literalName t)).getD
        ((proper (v.symbolicName t)).getD t.text) := by
  unfold derivedName namesAt
  cases hliteral : proper (v.literalName t) <;>
    cases hsymbolic : proper (v.symbolicName t) <;>
      simp [hliteral, hsymbolic]

theorem derivedName_congr {v w : Names} {t : TokenType}
    (h : w.namesAt t = v.namesAt t) : w.derivedName t = v.derivedName t := by
  rw [derivedName, derivedName, h]

theorem derivedName_of_none {v : Names} {t : TokenType}
    (h : forall kind, proper (v.name kind t) = none) :
    v.derivedName t = t.text := by
  have hliteral : proper (v.literalName t) = none := h .literal
  have hsymbolic : proper (v.symbolicName t) = none := h .symbolic
  rw [derivedName_eq, hliteral, hsymbolic]
  rfl

theorem derivedName_of_only {v : Names} {t : TokenType} {kind : Kind}
    {name : String} (hname : proper (v.name kind t) = some name)
    (honly : forall other, other ≠ kind -> proper (v.name other t) = none) :
    v.derivedName t = name := by
  cases kind with
  | literal =>
      have hliteral : proper (v.literalName t) = some name := hname
      rw [derivedName_eq, hliteral]
      rfl
  | symbolic =>
      have hliteral : proper (v.literalName t) = none :=
        honly .literal (by decide)
      have hsymbolic : proper (v.symbolicName t) = some name := hname
      rw [derivedName_eq, hliteral, hsymbolic]
      rfl

end Names

end TokenNames
