import TokenNames.Proofs.Table.Lookup
import TokenNames.Proofs.Vocabulary.Naming

/-!
# Sorting names by kind

## The table of a single list

The first character of a name tells its kind, or tells nothing.  Sorting keeps every name
at its place: a name of the list that tells a kind is the name of that kind for the type at
its place, and there are no other names of either kind.
-/

namespace TokenNames

/-- The first character of a name tells its kind. -/
inductive TellsKind (name : String) : Kind -> Prop where
  | quote {rest : List Char} : name.toList = '\'' :: rest ->
      TellsKind name .literal
  | capital {first : Char} {rest : List Char} : name.toList = first :: rest ->
      Text.isUppercase first = true -> TellsKind name .symbolic

/-!
# Kinds of names
-/

theorem isQuoted_iff {name : String} :
    isQuoted name = true ↔ TellsKind name .literal := by
  unfold isQuoted
  rw [beq_iff_eq, List.head?_eq_some_iff]
  constructor
  · intro h
    rcases h with ⟨rest, hname⟩
    exact TellsKind.quote hname
  · intro h
    cases h with
    | quote hname => exact ⟨_, hname⟩

theorem isCapitalized_iff {name : String} :
    Table.isCapitalized name = true ↔ TellsKind name .symbolic := by
  unfold Table.isCapitalized
  constructor
  · intro h
    cases hname : name.toList with
    | nil =>
        rw [hname] at h
        cases h
    | cons first rest =>
        rw [hname] at h
        exact TellsKind.capital hname h
  · intro h
    cases h with
    | capital hname hupper =>
        rw [hname]
        exact hupper

theorem not_isUppercase_quote : Text.isUppercase '\'' = false := by
  decide +kernel

namespace TellsKind

theorem unique {name : String} {kind kind' : Kind}
    (h : TellsKind name kind) (h' : TellsKind name kind') :
    kind = kind' := by
  cases h with
  | quote hname =>
      cases h' with
      | quote _ => rfl
      | capital hname' hupper =>
          rw [hname] at hname'
          cases hname'
          rw [not_isUppercase_quote] at hupper
          cases hupper
  | capital hname hupper =>
      cases h' with
      | quote hname' =>
          rw [hname] at hname'
          cases hname'
          rw [not_isUppercase_quote] at hupper
          cases hupper
      | capital _ _ => rfl

theorem ne_empty {name : String} {kind : Kind} (h : TellsKind name kind) :
    name ≠ "" := by
  intro hempty
  rw [hempty] at h
  cases h with
  | quote hname => cases hname
  | capital hname _ => cases hname

theorem kind_eq {name : String} {kind : Kind} (h : TellsKind name kind) :
    Kind.ofName name = kind := by
  unfold Kind.ofName
  split
  · next hquoted => exact (isQuoted_iff.mp hquoted).unique h
  · next hquoted =>
      cases kind with
      | literal => exact absurd (isQuoted_iff.mpr h) hquoted
      | symbolic => rfl

end TellsKind

/-!
# Names of the table
-/

namespace Table

def isOfKind : Kind -> String -> Bool
  | .literal => isQuoted
  | .symbolic => isCapitalized

theorem isOfKind_iff {kind : Kind} {name : String} :
    isOfKind kind name = true ↔ TellsKind name kind := by
  cases kind with
  | literal => exact isQuoted_iff
  | symbolic => exact isCapitalized_iff

variable {tokenNames : Column} {kind : Kind} {t : TokenType} {name : String}

theorem column_ofTokenNames (tokenNames : Column) (kind : Kind) :
    (ofTokenNames tokenNames).column kind =
      tokenNames.map (·.filter (isOfKind kind)) := by
  cases kind <;> rfl

theorem nonneg_of_name? (h : tokenNames.name? t = some name) : 0 ≤ t := by
  rw [← Int32.not_lt]
  intro hneg
  rw [Column.name?, Column.entry?_of_neg _ hneg] at h
  cases h

theorem name?_of_nonneg (tokenNames : Column) (h : 0 ≤ t) :
    tokenNames.name? t = tokenNames[t.toInt.toNat]?.join := by
  rw [Column.name?, Column.entry?_of_nonneg _ h]

theorem name_ofTokenNames_of_nonneg (tokenNames : Column) (kind : Kind)
    (h : 0 ≤ t) :
    (ofTokenNames tokenNames).names.name kind t =
      (tokenNames.name? t).filter (isOfKind kind) := by
  rw [name_of_nonneg _ kind h, column_ofTokenNames, name?_of_nonneg _ h,
    Array.getElem?_map]
  cases tokenNames[t.toInt.toNat]? with
  | none => rfl
  | some entry => rfl

theorem name_ofTokenNames_iff (h : 0 ≤ t) :
    (ofTokenNames tokenNames).names.name kind t = some name ↔
      tokenNames.name? t = some name ∧ TellsKind name kind := by
  rw [name_ofTokenNames_of_nonneg tokenNames kind h,
    Option.filter_eq_some_iff, isOfKind_iff]

theorem name_ofTokenNames_of_tells (hname : tokenNames.name? t = some name)
    (htells : TellsKind name kind) :
    (ofTokenNames tokenNames).names.name kind t = some name :=
  (name_ofTokenNames_iff (nonneg_of_name? hname)).mpr ⟨hname, htells⟩

theorem name_ofTokenNames_of_other (hname : tokenNames.name? t = some name)
    (h : ¬ TellsKind name kind) :
    (ofTokenNames tokenNames).names.name kind t = none := by
  cases hother : (ofTokenNames tokenNames).names.name kind t with
  | none => rfl
  | some other =>
      rcases (name_ofTokenNames_iff (nonneg_of_name? hname)).mp hother with
        ⟨hname', htells⟩
      rw [hname] at hname'
      cases hname'
      exact absurd htells h

theorem proper_name_ofTokenNames (tokenNames : Column) (kind : Kind)
    (t : TokenType) :
    proper ((ofTokenNames tokenNames).names.name kind t) =
      (ofTokenNames tokenNames).names.name kind t := by
  cases hname : (ofTokenNames tokenNames).names.name kind t with
  | none => rfl
  | some name =>
      rw [proper_eq_some_iff]
      refine ⟨rfl, ?_⟩
      by_cases hnonneg : 0 ≤ t
      · exact ((name_ofTokenNames_iff hnonneg).mp hname).right.ne_empty
      · rw [name_of_neg _ kind (Int32.not_le.mp hnonneg)] at hname
        split at hname
        · cases hname
          decide
        · cases hname

theorem name_ofTokenNames_of_one_kind (tokenNames : Column) (h : 0 ≤ t) :
    (ofTokenNames tokenNames).literalName t = none ∨
      (ofTokenNames tokenNames).symbolicName t = none := by
  by_cases hliteral : (ofTokenNames tokenNames).literalName t = none
  · exact Or.inl hliteral
  · right
    rcases Option.ne_none_iff_exists'.mp hliteral with ⟨name, hname⟩
    rcases (@name_ofTokenNames_iff _ .literal _ _ h).mp hname with
      ⟨hlisted, htells⟩
    apply @name_ofTokenNames_of_other _ .symbolic _ _ hlisted
    intro htells'
    cases htells.unique htells'

theorem displayName_ofTokenNames (hname : tokenNames.name? t = some name)
    (hne : name ≠ "") : (ofTokenNames tokenNames).displayName t = name := by
  have hproper : proper ((ofTokenNames tokenNames).displayNames.name? t) =
      some name :=
    proper_eq_some_iff.mpr ⟨hname, hne⟩
  rw [displayName, hproper]
  rfl

/-!
# Shown names

The derived name of a type is the name of the list if that tells a kind, and the numeral
otherwise.  The list itself is the third column, so a name that tells no kind is shown too.
-/

theorem derivedName_ofTokenNames_of_tells (hname : tokenNames.name? t = some name)
    (htells : TellsKind name kind) :
    (ofTokenNames tokenNames).names.derivedName t = name := by
  have hproper : proper ((ofTokenNames tokenNames).names.name kind t) =
      some name := by
    rw [name_ofTokenNames_of_tells hname htells]
    exact proper_eq_some_iff.mpr ⟨rfl, htells.ne_empty⟩
  apply Names.derivedName_of_only hproper
  intro other hother
  have huntold : ¬ TellsKind name other := fun htells' =>
    hother (htells'.unique htells)
  rw [name_ofTokenNames_of_other hname huntold]
  rfl

theorem derivedName_ofTokenNames_of_untold
    (hend : t ≠ TokenType.eof)
    (huntold : forall name kind, tokenNames.name? t = some name ->
      ¬ TellsKind name kind) :
    (ofTokenNames tokenNames).names.derivedName t = t.text := by
  apply Names.derivedName_of_none
  intro kind
  cases hname : (ofTokenNames tokenNames).names.name kind t with
  | none => rfl
  | some name =>
      by_cases hnonneg : 0 ≤ t
      · rcases (name_ofTokenNames_iff hnonneg).mp hname with
          ⟨hlisted, htells⟩
        exact absurd htells (huntold name kind hlisted)
      · rw [name_of_neg _ kind (Int32.not_le.mp hnonneg),
          if_neg (fun h => hend h.right)] at hname
        cases hname

theorem derivedName_ofTokenNames_or (tokenNames : Column) (h : 0 ≤ t) :
    (ofTokenNames tokenNames).names.derivedName t = t.text ∨
      tokenNames.name? t =
        some ((ofTokenNames tokenNames).names.derivedName t) := by
  by_cases htold : exists name kind,
      tokenNames.name? t = some name ∧ TellsKind name kind
  · rcases htold with ⟨name, kind, hname, htells⟩
    right
    rw [derivedName_ofTokenNames_of_tells hname htells, hname]
  · left
    apply derivedName_ofTokenNames_of_untold (TokenType.ne_eof_of_nonneg h)
    intro name kind hname htells
    exact htold ⟨name, kind, hname, htells⟩

theorem displayName_ofTokenNames_of_unnamed (h : 0 ≤ t)
    (hunnamed : proper (tokenNames.name? t) = none) :
    (ofTokenNames tokenNames).displayName t = t.text := by
  have hderived : (ofTokenNames tokenNames).names.derivedName t = t.text := by
    apply derivedName_ofTokenNames_of_untold (TokenType.ne_eof_of_nonneg h)
    intro name kind hname htells
    rw [proper_eq_some_iff.mpr ⟨hname, htells.ne_empty⟩] at hunnamed
    cases hunnamed
  have hdisplay : proper ((ofTokenNames tokenNames).displayNames.name? t) =
      none := hunnamed
  rw [displayName, hdisplay, hderived]
  rfl

/-!
# Other types

A type to which the list does not reach is looked up as if there were no list.
-/

theorem name?_of_outside (h : t < 0 ∨ (tokenNames.size : Int) ≤ t.toInt) :
    tokenNames.name? t = none := by
  rcases h with hneg | hbeyond
  · rw [Column.name?, Column.entry?_of_neg _ hneg]
    rfl
  · have hnonneg : 0 ≤ t := by
      rw [TokenType.nonneg_iff]
      omega
    rw [name?_of_nonneg _ hnonneg, Array.getElem?_eq_none (by omega)]
    rfl

theorem name_ofTokenNames_of_outside
    (h : t < 0 ∨ (tokenNames.size : Int) ≤ t.toInt) :
    (ofTokenNames tokenNames).names.name kind t =
      empty.names.name kind t := by
  by_cases hneg : t < 0
  · rw [name_of_neg _ kind hneg, name_of_neg _ kind hneg]
  · have hnonneg : 0 ≤ t := Int32.not_lt.mp hneg
    rw [name_ofTokenNames_of_nonneg _ kind hnonneg, name?_of_outside h,
      name_of_nonneg _ kind hnonneg]
    cases kind <;> rfl

theorem derivedName_ofTokenNames_of_outside
    (h : t < 0 ∨ (tokenNames.size : Int) ≤ t.toInt) :
    (ofTokenNames tokenNames).names.derivedName t =
      empty.names.derivedName t := by
  apply Names.derivedName_congr
  apply Names.namesAt_congr
  intro kind
  rw [name_ofTokenNames_of_outside h]

theorem displayName_ofTokenNames_of_outside
    (h : t < 0 ∨ (tokenNames.size : Int) ≤ t.toInt) :
    (ofTokenNames tokenNames).displayName t = empty.displayName t := by
  have hlist : (ofTokenNames tokenNames).displayNames.name? t = none :=
    name?_of_outside h
  have hempty : empty.displayNames.name? t = none := by
    apply name?_of_outside
    rcases h with hneg | hbeyond
    · exact Or.inl hneg
    · exact Or.inr (Int.le_trans (Int.natCast_nonneg _) hbeyond)
  rw [displayName, displayName, hlist, hempty,
    derivedName_ofTokenNames_of_outside h]

theorem length_ofTokenNames (tokenNames : Column) :
    (ofTokenNames tokenNames).length = tokenNames.size := by
  simp [length, ofTokenNames]

theorem ofTokenNames_empty : ofTokenNames #[] = empty := by
  apply eq_of_columns
  · intro kind
    rw [column_ofTokenNames, Array.map_empty]
    cases kind <;> rfl
  · rfl

/-- Each entry of the list is a name of the kind that it tells, if it tells one, and of no
other kind; it is shown as it stands, unless it is absent or empty.  All other types are
looked up as in the empty table, and the greatest type is the last place of the list. -/
theorem ofTokenNames_keeps_places (tokenNames : Column) :
    (forall (t : TokenType) (i : Nat) (entry : Option String),
      t.toInt = i -> tokenNames[i]? = some entry ->
        (forall kind name,
          (ofTokenNames tokenNames).names.name kind t = some name ↔
            entry = some name ∧ TellsKind name kind) ∧
        ((ofTokenNames tokenNames).literalName t = none ∨
          (ofTokenNames tokenNames).symbolicName t = none) ∧
        (forall name, entry = some name -> name ≠ "" ->
          (ofTokenNames tokenNames).displayName t = name) ∧
        (entry = none ∨ entry = some "" ->
          (ofTokenNames tokenNames).displayName t = t.text) ∧
        ((ofTokenNames tokenNames).names.derivedName t = t.text ∨
          entry = some ((ofTokenNames tokenNames).names.derivedName t))) ∧
    (forall t : TokenType, t < 0 ∨ (tokenNames.size : Int) ≤ t.toInt ->
      (forall kind, (ofTokenNames tokenNames).names.name kind t =
        empty.names.name kind t) ∧
      (ofTokenNames tokenNames).displayName t = empty.displayName t ∧
      (ofTokenNames tokenNames).names.derivedName t =
        empty.names.derivedName t) ∧
    (ofTokenNames tokenNames).maxTokenType.toInt =
      min ((tokenNames.size : Int) - 1) 2147483647 ∧
    ofTokenNames #[] = empty := by
  refine ⟨?_, ?_, ?_, ofTokenNames_empty⟩
  · intro t i entry hindex hentry
    have hnonneg : 0 ≤ t := by
      rw [TokenType.nonneg_iff, hindex]
      exact Int.natCast_nonneg i
    have hname : tokenNames.name? t = entry := by
      rw [name?_of_nonneg _ hnonneg, hindex, Int.toNat_natCast, hentry]
      rfl
    rw [← hname]
    refine ⟨fun kind name => name_ofTokenNames_iff hnonneg,
      name_ofTokenNames_of_one_kind tokenNames hnonneg,
      fun name => displayName_ofTokenNames, ?_,
      derivedName_ofTokenNames_or tokenNames hnonneg⟩
    intro hunnamed
    apply displayName_ofTokenNames_of_unnamed hnonneg
    rcases hunnamed with hnone | hempty
    · rw [hnone]
      rfl
    · rw [hempty]
      rfl
  · intro t h
    exact ⟨fun kind => name_ofTokenNames_of_outside h,
      displayName_ofTokenNames_of_outside h,
      derivedName_ofTokenNames_of_outside h⟩
  · rw [toInt_maxTokenType, length_ofTokenNames]

theorem ofTokenNames_keeps_places_mixed :
    (ofTokenNames #[some "'x'", none, some "id", some "", some "Ä"]).displayName
        2 = "id" ∧
      (ofTokenNames
        #[some "'x'", none, some "id", some "", some "Ä"]).displayName 3 =
        "3" ∧
      (ofTokenNames
        #[some "'x'", none, some "id", some "", some "Ä"]).symbolicName 4 =
        some "Ä" ∧
      (ofTokenNames
        #[some "'x'", none, some "id", some "", some "Ä"]).displayName (-1) =
        "EOF" := by
  rcases ofTokenNames_keeps_places
    #[some "'x'", none, some "id", some "", some "Ä"] with
    ⟨hplace, hother, _, _⟩
  refine ⟨?_, ?_, ?_, ?_⟩
  · exact (hplace 2 2 _ rfl rfl).2.2.1 "id" rfl (by decide)
  · rw [(hplace 3 3 _ rfl rfl).2.2.2.1 (Or.inr rfl)]
    decide +kernel
  · exact ((hplace 4 4 _ rfl rfl).1 .symbolic "Ä").mpr
      ⟨rfl, isCapitalized_iff.mp (by decide +kernel)⟩
  · rw [(hother (-1) (Or.inl (by decide))).2.1]
    decide +kernel

end Table
end TokenNames
