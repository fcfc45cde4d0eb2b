import Mathlib.Data.List.Forall2
import TokenNames.Proofs.Numeral.Writing
import TokenNames.TokenType.Text

/-!
# Numerals of token types

## Reading types

A text is a numeral of a token type when it denotes the number of the type.  Reading
accepts exactly these texts, and it reads a list of texts when every one of them is such a
numeral; otherwise the first one that is not is reported.
-/

namespace TokenNames
namespace TokenType

/-- A text is an optional sign with digits after it, and denotes the number of a type. -/
def Spells (text : String) (t : TokenType) : Prop :=
  Numeral.Denotes text.toList t.toInt

/-!
# One text
-/

theorem int32_minValue : Int32.minValue.toInt = -2147483648 := by decide

theorem int32_maxValue : Int32.maxValue.toInt = 2147483647 := by decide

theorem ofText_of_spells {text : String} {t : TokenType}
    (h : Spells text t) : ofText text = .ok t := by
  have hread : Numeral.read Int32.minValue.toInt Int32.maxValue.toInt text =
      .ok t.toInt :=
    (Numeral.readChars_eq_ok_iff (by decide) (by decide)).mpr
      ⟨h, Int32.minValue_le_toInt t, Int32.toInt_le t⟩
  unfold ofText
  rw [hread]
  exact congrArg Except.ok (Int32.ofInt_toInt t)

theorem ofText_eq_ok_iff {text : String} {t : TokenType} :
    ofText text = .ok t ↔ Spells text t := by
  constructor
  · intro h
    unfold ofText at h
    split at h
    · next i hread =>
        cases h
        rcases (Numeral.readChars_eq_ok_iff (by decide) (by decide)).mp hread
          with ⟨hdenotes, hlo, hhi⟩
        unfold Spells
        rw [int32_minValue] at hlo
        rw [int32_maxValue] at hhi
        rw [Int32.toInt_ofInt_of_le (by omega) (by omega)]
        exact hdenotes
    · cases h
  · exact ofText_of_spells

theorem ofText_of_not_spells {text : String}
    (h : ¬ exists t, Spells text t) : ofText text = .error { text } := by
  cases hread : ofText text with
  | ok t => exact absurd ⟨t, ofText_eq_ok_iff.mp hread⟩ h
  | error e =>
      unfold ofText at hread
      split at hread
      · cases hread
      · exact hread.symm

/-!
# Lists of texts
-/

theorem ofTexts_cons_of_spells {text : String} {t : TokenType}
    (h : Spells text t) (texts : List String) :
    ofTexts (text :: texts) = (ofTexts texts).map (t :: ·) := by
  unfold ofTexts
  rw [List.mapM_cons, ofText_of_spells h]
  cases texts.mapM ofText <;> rfl

theorem ofTexts_cons_of_not_spells {text : String}
    (h : ¬ exists t, Spells text t) (texts : List String) :
    ofTexts (text :: texts) = .error { text } := by
  unfold ofTexts
  rw [List.mapM_cons, ofText_of_not_spells h]
  rfl

theorem ofTexts_eq_ok_iff {texts : List String} {types : List TokenType} :
    ofTexts texts = .ok types ↔ List.Forall₂ Spells texts types := by
  constructor
  · intro h
    induction texts generalizing types with
    | nil =>
        cases h
        exact List.Forall₂.nil
    | cons text texts ih =>
        by_cases hspells : exists t, Spells text t
        · rcases hspells with ⟨t, ht⟩
          rw [ofTexts_cons_of_spells ht] at h
          cases hrest : ofTexts texts with
          | error e =>
              rw [hrest] at h
              cases h
          | ok rest =>
              rw [hrest] at h
              cases h
              exact List.Forall₂.cons ht (ih hrest)
        · rw [ofTexts_cons_of_not_spells hspells] at h
          cases h
  · intro h
    induction h with
    | nil => rfl
    | cons hfirst _ ih =>
        rw [ofTexts_cons_of_spells hfirst, ih]
        rfl

theorem exists_of_spells {texts : List String} {types : List TokenType}
    (h : List.Forall₂ Spells texts types) :
    forall text, text ∈ texts -> exists t, Spells text t := by
  have hboth : List.Forall₂
      (fun text t => (exists u, Spells text u) ∧ Spells text t) texts types :=
    h.imp fun text t ht => ⟨⟨t, ht⟩, ht⟩
  exact ((List.forall₂_and_left _ _).mp hboth).left

theorem ofTexts_of_first {before : List String}
    (h : forall text, text ∈ before -> exists t, Spells text t)
    {text : String} (hbad : ¬ exists t, Spells text t)
    (after : List String) :
    ofTexts (before ++ text :: after) = .error { text } := by
  induction before with
  | nil => exact ofTexts_cons_of_not_spells hbad after
  | cons first before ih =>
      rcases List.forall_mem_cons.mp h with ⟨⟨t, hfirst⟩, hlater⟩
      rw [List.cons_append, ofTexts_cons_of_spells hfirst, ih hlater]
      rfl

theorem ofTexts_eq_error_iff {texts : List String} {e : NotATokenType} :
    ofTexts texts = .error e ↔
      exists before after, texts = before ++ e.text :: after ∧
        (forall text, text ∈ before -> exists t, Spells text t) ∧
        ¬ exists t, Spells e.text t := by
  constructor
  · intro h
    induction texts with
    | nil => cases h
    | cons text texts ih =>
        by_cases hspells : exists t, Spells text t
        · rcases hspells with ⟨t, ht⟩
          rw [ofTexts_cons_of_spells ht] at h
          cases hrest : ofTexts texts with
          | ok types =>
              rw [hrest] at h
              cases h
          | error e' =>
              rw [hrest] at h
              cases h
              rcases ih hrest with ⟨before, after, hsplit, hbefore, hbad⟩
              refine ⟨text :: before, after, ?_,
                List.forall_mem_cons.mpr ⟨⟨t, ht⟩, hbefore⟩, hbad⟩
              rw [hsplit]
              rfl
        · rw [ofTexts_cons_of_not_spells hspells] at h
          cases h
          exact ⟨[], texts, rfl, List.forall_mem_nil _, hspells⟩
  · intro h
    rcases h with ⟨before, after, hsplit, hbefore, hbad⟩
    rw [hsplit, ofTexts_of_first hbefore hbad]

/-!
# Written types

The numeral that is written for a type is one of the numerals that are read as the type.
-/

theorem spells_text (t : TokenType) : Spells t.text t := by
  unfold Spells
  rw [toList_text]
  exact Numeral.denotes_chars t.toInt

theorem ofTexts_map_text (types : List TokenType) :
    ofTexts (types.map text) = .ok types := by
  rw [ofTexts_eq_ok_iff, List.forall₂_map_left_iff, List.forall₂_same]
  intro t _
  exact spells_text t

theorem not_mem_text {c : Char} (hdigit : ¬ Numeral.IsDigit c)
    (hminus : c ≠ '-') (t : TokenType) : c ∉ t.text.toList := by
  rw [toList_text]
  exact Numeral.not_mem_chars hdigit hminus t.toInt

/-!
# Numbers of 32 bits
-/

def IsNumeral (text : String) : Prop :=
  exists i, Numeral.Denotes text.toList i ∧ -2147483648 ≤ i ∧ i ≤ 2147483647

theorem isNumeral_iff {text : String} :
    IsNumeral text ↔ exists t, Spells text t := by
  constructor
  · intro h
    rcases h with ⟨i, hdenotes, hlo, hhi⟩
    exists Int32.ofInt i
    unfold Spells
    rw [Int32.toInt_ofInt_of_le hlo (Int.lt_add_one_of_le hhi)]
    exact hdenotes
  · intro h
    rcases h with ⟨t, ht⟩
    exact ⟨t.toInt, ht, Int32.le_toInt t,
      Int.le_of_lt_add_one (Int32.toInt_lt t)⟩

theorem exists_first_of_error {texts : List String} {e : NotATokenType}
    (h : ofTexts texts = .error e) :
    exists before after, texts = before ++ e.text :: after ∧
      (forall text, text ∈ before -> IsNumeral text) ∧
      ¬ IsNumeral e.text := by
  rcases ofTexts_eq_error_iff.mp h with ⟨before, after, hsplit, hbefore, hbad⟩
  refine ⟨before, after, hsplit, ?_, ?_⟩
  · intro text htext
    exact isNumeral_iff.mpr (hbefore text htext)
  · rw [isNumeral_iff]
    exact hbad

theorem exists_ofTexts_iff {texts : List String} :
    (exists types, ofTexts texts = .ok types) ↔
      forall text, text ∈ texts -> IsNumeral text := by
  constructor
  · intro h text htext
    rcases h with ⟨types, htypes⟩
    exact isNumeral_iff.mpr
      (exists_of_spells (ofTexts_eq_ok_iff.mp htypes) text htext)
  · intro h
    cases hread : ofTexts texts with
    | ok types => exact ⟨types, rfl⟩
    | error e =>
        rcases exists_first_of_error hread with ⟨before, after, hsplit, _, hbad⟩
        have hmem : e.text ∈ texts := by
          rw [hsplit]
          exact List.mem_append_right _ List.mem_cons_self
        exact absurd (h e.text hmem) hbad

end TokenType
end TokenNames
