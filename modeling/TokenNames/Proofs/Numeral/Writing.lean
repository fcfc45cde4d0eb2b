import Mathlib.Algebra.Group.Nat.Defs
import TokenNames.Proofs.Numeral.Reading

/-!
# Writing numerals

## The numeral of an integer

The numeral that is written for an integer denotes that integer.  It consists of digits
and at most one minus sign, so it never contains a character with a meaning of its own
in the text around it.
-/

namespace TokenNames
namespace Numeral

/-!
# Digits
-/

theorem isDigit_digit {value : Nat} (h : value < 10) :
    IsDigit (digit value) := by
  have hall : forall v, v < 10 -> IsDigit (digit v) := by decide
  exact hall value h

theorem toNat_digit {value : Nat} (h : value < 10) :
    (digit value).toNat - '0'.toNat = value := by
  have hall : forall v, v < 10 -> (digit v).toNat - '0'.toNat = v := by
    decide
  exact hall value h

theorem extend_append (n : Nat) (ds es : List Char) :
    extend n (ds ++ es) = extend (extend n ds) es :=
  List.foldl_append

theorem extend_digit (n : Nat) {value : Nat} (h : value < 10) :
    extend n [digit value] = 10 * n + value := by
  show 10 * n + ((digit value).toNat - '0'.toNat) = 10 * n + value
  rw [toNat_digit h]

theorem digits_ne_nil (n : Nat) : digits n ≠ [] := by
  rw [digits]
  split
  · exact List.cons_ne_nil _ _
  · intro hnil
    exact List.cons_ne_nil _ _ (List.append_eq_nil_iff.mp hnil).right

theorem isDigit_of_mem_digits {n : Nat} {c : Char} (hc : c ∈ digits n) :
    IsDigit c := by
  induction n using digits.induct with
  | case1 n hn =>
      rw [digits, if_pos hn] at hc
      rw [List.mem_singleton.mp hc]
      exact isDigit_digit hn
  | case2 n hn ih =>
      rw [digits, if_neg hn] at hc
      rcases List.mem_append.mp hc with hfront | hlast
      · exact ih hfront
      · rw [List.mem_singleton.mp hlast]
        exact isDigit_digit (Nat.mod_lt n (by decide))

theorem length_digits_le {n : Nat} (k : Nat) (h : n < 10 ^ (k + 1)) :
    (digits n).length ≤ k + 1 := by
  induction k generalizing n with
  | zero =>
      have hten : n < 10 := h
      rw [digits, if_pos hten]
      exact Nat.le_refl 1
  | succ k ih =>
      rw [digits]
      split
      · exact Nat.le_add_left 1 _
      · rw [Nat.pow_succ, Nat.mul_comm] at h
        have hfront := ih (Nat.div_lt_of_lt_mul h)
        rw [List.length_append, List.length_singleton]
        omega

theorem magnitude_digits (n : Nat) : magnitude (digits n) = n := by
  induction n using digits.induct with
  | case1 n hn =>
      rw [digits, if_pos hn, magnitude, extend_digit 0 hn, Nat.mul_zero,
        Nat.zero_add]
  | case2 n hn ih =>
      rw [digits, if_neg hn, magnitude, extend_append,
        show extend 0 (digits (n / 10)) = n / 10 from ih,
        extend_digit (n / 10) (Nat.mod_lt n (by decide))]
      exact Nat.div_add_mod n 10

/-!
# Numerals
-/

theorem denotes_chars (i : Int) : Denotes (chars i) i := by
  cases i with
  | ofNat n =>
      refine ⟨Sign.absent, digits n, rfl, digits_ne_nil n, ?_, ?_⟩
      · intro c hc
        exact isDigit_of_mem_digits hc
      · rw [magnitude_digits, Sign.factor, Int.one_mul]
        rfl
  | negSucc n =>
      refine ⟨Sign.minus, digits (n + 1), rfl, digits_ne_nil (n + 1), ?_, ?_⟩
      · intro c hc
        exact isDigit_of_mem_digits hc
      · rw [magnitude_digits, Sign.factor, Int.neg_one_mul]
        rfl

theorem chars_ne_nil (i : Int) : chars i ≠ [] := by
  cases i with
  | ofNat n => exact digits_ne_nil n
  | negSucc n => exact List.cons_ne_nil _ _

theorem length_chars_le {i : Int} (k : Nat) (h : i.natAbs < 10 ^ (k + 1)) :
    (chars i).length ≤ k + 2 := by
  cases i with
  | ofNat n => exact Nat.le_succ_of_le (length_digits_le k h)
  | negSucc n => exact Nat.succ_le_succ (length_digits_le k h)

theorem isDigit_or_minus_of_mem_chars {i : Int} {c : Char}
    (hc : c ∈ chars i) : IsDigit c ∨ c = '-' := by
  cases i with
  | ofNat n => exact Or.inl (isDigit_of_mem_digits hc)
  | negSucc n =>
      rcases List.mem_cons.mp hc with hsign | hdigit
      · exact Or.inr hsign
      · exact Or.inl (isDigit_of_mem_digits hdigit)

theorem not_mem_chars {c : Char} (hdigit : ¬ IsDigit c) (hminus : c ≠ '-')
    (i : Int) : c ∉ chars i := by
  intro hc
  rcases isDigit_or_minus_of_mem_chars hc with h | h
  · exact hdigit h
  · exact hminus h

end Numeral
end TokenNames
