import Mathlib.Data.List.DropRight
import TokenNames.Text.Blank

/-!
# Trimming

## Texts without blanks at their ends

A trimmed text is one that neither begins nor ends with a blank.  Trimming gives such a
text and leaves it alone when it has one already.
-/

namespace TokenNames
namespace Text

/-!
# The blanks

The table of blanks is the Unicode property `White_Space`, spelled out by code points.
-/

/-- The code points with the Unicode property `White_Space`. -/
def IsWhiteSpace (code : Nat) : Prop :=
  (0x9 ≤ code ∧ code ≤ 0xD) ∨ code = 0x20 ∨ code = 0x85 ∨ code = 0xA0 ∨
    code = 0x1680 ∨ (0x2000 ≤ code ∧ code ≤ 0x200A) ∨ code = 0x2028 ∨
    code = 0x2029 ∨ code = 0x202F ∨ code = 0x205F ∨ code = 0x3000

theorem isBlank_iff (c : Char) :
    isBlank c = true ↔ IsWhiteSpace c.toNat := by
  simp only [isBlank, blanks, CharSet.ofIntervals, CharSet.contains,
    Run.contains, List.map_cons, List.map_nil, List.any_cons, List.any_nil,
    Bool.or_false, Bool.or_eq_true, Bool.and_eq_true, decide_eq_true_eq,
    beq_iff_eq, Nat.mod_one, and_true, IsWhiteSpace]
  omega

/-!
# Ends of a trimmed text
-/

theorem trimEnd_eq_rdropWhile (cs : List Char) :
    trimEnd cs = cs.rdropWhile isBlank := rfl

theorem isSuffix_trimStart (cs : List Char) : trimStart cs <:+ cs :=
  List.dropWhile_suffix isBlank

theorem isPrefix_trimEnd (cs : List Char) : trimEnd cs <+: cs := by
  rw [trimEnd_eq_rdropWhile]
  exact List.rdropWhile_prefix isBlank cs

theorem trim_sublist (cs : List Char) : (trim cs).Sublist cs :=
  (isPrefix_trimEnd (trimStart cs)).sublist.trans (isSuffix_trimStart cs).sublist

theorem mem_of_mem_trim {c : Char} {cs : List Char} (hc : c ∈ trim cs) :
    c ∈ cs :=
  (trim_sublist cs).subset hc

theorem not_blank_of_mem_head?_trim {c : Char} {cs : List Char}
    (hc : c ∈ (trim cs).head?) : isBlank c = false := by
  have hpref : trim cs <+: trimStart cs := isPrefix_trimEnd (trimStart cs)
  have hhead : (trimStart cs).head? = some c := by
    rcases hpref with ⟨tail, htail⟩
    rw [← htail]
    exact List.mem_head?_append_of_mem_head? hc
  have hfirst := List.head?_dropWhile_not isBlank cs
  rw [show cs.dropWhile isBlank = trimStart cs from rfl, hhead] at hfirst
  exact hfirst

theorem not_blank_of_mem_getLast?_trim {c : Char} {cs : List Char}
    (hc : c ∈ (trim cs).getLast?) : isBlank c = false := by
  have hne : trim cs ≠ [] := by
    intro hnil
    rw [hnil] at hc
    cases hc
  have hlast : ¬ isBlank ((trim cs).getLast hne) = true :=
    List.rdropWhile_last_not isBlank (trimStart cs) hne
  rw [List.getLast?_eq_getLast_of_ne_nil hne] at hc
  cases hc
  simpa using hlast

theorem trim_eq_self_iff {cs : List Char} :
    trim cs = cs ↔
      (forall c, c ∈ cs.head? -> isBlank c = false) ∧
        forall c, c ∈ cs.getLast? -> isBlank c = false := by
  constructor
  · intro h
    constructor
    · intro c hc
      rw [← h] at hc
      exact not_blank_of_mem_head?_trim hc
    · intro c hc
      rw [← h] at hc
      exact not_blank_of_mem_getLast?_trim hc
  · intro h
    rcases h with ⟨hhead, hlast⟩
    have hstart : trimStart cs = cs := by
      cases cs with
      | nil => rfl
      | cons c rest =>
          exact List.dropWhile_cons_of_neg (by simpa using hhead c rfl)
    have hend : trimEnd cs = cs := by
      apply List.rdropWhile_eq_self_iff.mpr
      intro hne
      have hmem : cs.getLast hne ∈ cs.getLast? :=
        List.getLast?_eq_getLast_of_ne_nil hne
      simpa using hlast _ hmem
    rw [trim, hstart, hend]

theorem trim_trim (cs : List Char) : trim (trim cs) = trim cs := by
  apply trim_eq_self_iff.mpr
  constructor
  · intro c hc
    exact not_blank_of_mem_head?_trim hc
  · intro c hc
    exact not_blank_of_mem_getLast?_trim hc

/-!
# Blanks at the ends

Blanks that are put at an end of a text are trimmed off again, whatever the text is.
-/

def AllBlank (cs : List Char) : Prop :=
  forall c, c ∈ cs -> IsWhiteSpace c.toNat

theorem AllBlank.isBlank {cs : List Char} (h : AllBlank cs) :
    forall c, c ∈ cs -> isBlank c = true := by
  intro c hc
  exact (isBlank_iff c).mpr (h c hc)

theorem allBlank_iff {cs : List Char} :
    AllBlank cs ↔ cs.all Text.isBlank = true := by
  rw [List.all_eq_true]
  constructor
  · exact AllBlank.isBlank
  · intro h c hc
    exact (isBlank_iff c).mp (h c hc)

instance (cs : List Char) : Decidable (AllBlank cs) :=
  decidable_of_iff _ allBlank_iff.symm

theorem trimStart_blanks_append {blanks : List Char} (h : AllBlank blanks)
    (cs : List Char) : trimStart (blanks ++ cs) = trimStart cs :=
  List.dropWhile_append_of_pos h.isBlank

theorem trimEnd_append_blanks {blanks : List Char} (h : AllBlank blanks)
    (cs : List Char) : trimEnd (cs ++ blanks) = trimEnd cs := by
  have hreverse : AllBlank blanks.reverse := by
    intro c hc
    exact h c (List.mem_reverse.mp hc)
  rw [trimEnd, List.reverse_append, trimStart_blanks_append hreverse]
  rfl

theorem trim_blanks_append {blanks : List Char} (h : AllBlank blanks)
    (cs : List Char) : trim (blanks ++ cs) = trim cs := by
  rw [trim, trimStart_blanks_append h]
  rfl

theorem trim_of_allBlank {cs : List Char} (h : AllBlank cs) : trim cs = [] := by
  rw [← List.append_nil cs, trim_blanks_append h]
  rfl

theorem trim_append_blanks {blanks : List Char} (h : AllBlank blanks)
    (cs : List Char) : trim (cs ++ blanks) = trim cs := by
  unfold trim
  rw [trimStart, List.dropWhile_append]
  split
  · next hnone =>
      -- Nothing of the text is left in front of the new blanks.
      have hcs : trimStart cs = [] := List.isEmpty_iff.mp hnone
      rw [hcs]
      exact trim_of_allBlank h
  · exact trimEnd_append_blanks h _

theorem trim_trimStart (cs : List Char) : trim (trimStart cs) = trim cs := by
  rw [trim, trim, trimStart, trimStart, List.dropWhile_idempotent]

theorem trim_trimEnd (cs : List Char) : trim (trimEnd cs) = trim cs := by
  have hcs : trimEnd cs ++ cs.rtakeWhile isBlank = cs :=
    List.rdropWhile_append_rtakeWhile
  have hblank : AllBlank (cs.rtakeWhile isBlank) := by
    intro c hc
    exact (isBlank_iff c).mp (List.mem_rtakeWhile_imp hc)
  conv_rhs => rw [← hcs, trim_append_blanks hblank]

/-!
# Blanks inside

A character that is no blank stops the trimming from either side, so what is trimmed off
a text in front of this character does not depend on what stands behind it.
-/

section Mark

variable {mark : Char} (h : isBlank mark = false)

include h

theorem trimStart_append_mark (before after : List Char) :
    trimStart (before ++ mark :: after) = trimStart before ++ mark :: after := by
  induction before with
  | nil => exact List.dropWhile_cons_of_neg (by simp [h])
  | cons c before ih =>
      unfold trimStart at ih ⊢
      rw [List.cons_append, List.dropWhile_cons, List.dropWhile_cons]
      split
      · exact ih
      · rfl

theorem trimEnd_append_mark (before after : List Char) :
    trimEnd (before ++ mark :: after) = before ++ mark :: trimEnd after := by
  have hreverse : (before ++ mark :: after).reverse =
      after.reverse ++ mark :: before.reverse := by
    simp
  rw [trimEnd, hreverse, trimStart_append_mark h]
  simp [trimEnd]

theorem trim_append_mark (before after : List Char) :
    trim (before ++ mark :: after) =
      trimStart before ++ mark :: trimEnd after := by
  rw [trim, trimStart_append_mark h, trimEnd_append_mark h]

end Mark

end Text
end TokenNames
