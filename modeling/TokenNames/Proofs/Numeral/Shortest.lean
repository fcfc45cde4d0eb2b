import Mathlib.Data.List.Basic
import Mathlib.Data.List.Induction
import TokenNames.Proofs.Numeral.Writing

/-!
# Shortest numerals

## One numeral for each number

A number has many numerals, since leading zeros do not change what a numeral denotes.
Without a sign and without leading zeros there is only one, and it is the one that is
written.
-/

namespace TokenNames
namespace Numeral

/-- A numeral of a natural number, without a sign and without leading zeros. -/
structure IsShortest (ds : List Char) (n : Nat) : Prop where
  ne_nil : ds ≠ []
  isDigit : forall c, c ∈ ds -> IsDigit c
  no_leading_zero : '0' ∈ ds.head? -> ds = ['0']
  denotes : magnitude ds = n

/-!
# The numeral that is written
-/

theorem digits_of_lt {n : Nat} (hn : n < 10) : digits n = [digit n] := by
  rw [digits, if_pos hn]

theorem digits_concat {m value : Nat} (hm : m ≠ 0) (hvalue : value < 10) :
    digits (10 * m + value) = digits m ++ [digit value] := by
  rw [digits, if_neg (by omega), show (10 * m + value) / 10 = m by omega,
    show (10 * m + value) % 10 = value by omega]

theorem eq_zero_of_head?_digits {n : Nat} (h : '0' ∈ (digits n).head?) :
    n = 0 := by
  induction n using digits.induct with
  | case1 n hn =>
      have hzero : digit n = '0' := by
        simpa [digits_of_lt hn] using h
      rw [← toNat_digit hn, hzero, Nat.sub_self]
  | case2 n hn ih =>
      have hfront : '0' ∈ (digits (n / 10)).head? := by
        rw [digits, if_neg hn, List.head?_append_of_ne_nil _ (digits_ne_nil _)] at h
        exact h
      have hsmall := ih hfront
      omega

theorem isShortest_digits (n : Nat) : IsShortest (digits n) n where
  ne_nil := digits_ne_nil n
  isDigit := fun _ hc => isDigit_of_mem_digits hc
  no_leading_zero := by
    intro hhead
    rw [eq_zero_of_head?_digits hhead, digits_of_lt (by simp)]
    rfl
  denotes := magnitude_digits n

/-!
# No other numeral
-/

theorem digit_value {c : Char} (hc : IsDigit c) :
    digit (c.toNat - '0'.toNat) = c := by
  have hle : '0'.toNat ≤ c.toNat := hc.left
  rw [digit, Nat.add_sub_cancel' hle, Char.ofNat_toNat]

theorem value_lt_ten {c : Char} (hc : IsDigit c) :
    c.toNat - '0'.toNat < 10 := by
  have hle : c.toNat ≤ 57 := hc.right
  show c.toNat - 48 < 10
  omega

theorem magnitude_concat (ds : List Char) (c : Char) :
    magnitude (ds ++ [c]) = 10 * magnitude ds + (c.toNat - '0'.toNat) :=
  extend_append 0 ds [c]

theorem IsShortest.eq_digits {ds : List Char} {n : Nat}
    (h : IsShortest ds n) : ds = digits n := by
  induction ds using List.reverseRecOn generalizing n with
  | nil => exact absurd rfl h.ne_nil
  | append_singleton front c ih =>
      have hc : IsDigit c := h.isDigit c (by simp)
      rw [← h.denotes, magnitude_concat]
      by_cases hfront : front = []
      · rw [hfront]
        show [c] = digits (0 + (c.toNat - '0'.toNat))
        rw [Nat.zero_add, digits_of_lt (value_lt_ten hc), digit_value hc]
      · -- The front is a shortest numeral too, and not the zero.
        have hhead : '0' ∉ front.head? := by
          intro hzero
          have hwhole := h.no_leading_zero
            (List.mem_head?_append_of_mem_head? hzero)
          rcases List.append_eq_singleton_iff.mp hwhole with
            ⟨hnil, _⟩ | ⟨_, hnil⟩
          · exact hfront hnil
          · cases hnil
        have hshortest : IsShortest front (magnitude front) :=
          { ne_nil := hfront
            isDigit := fun d hd => h.isDigit d (List.mem_append_left _ hd)
            no_leading_zero := fun hzero => absurd hzero hhead
            denotes := rfl }
        have hdigits := ih hshortest
        have hne : magnitude front ≠ 0 := by
          intro hzero
          rw [hzero, digits_of_lt (by simp)] at hdigits
          rw [hdigits] at hhead
          exact hhead rfl
        rw [digits_concat hne (value_lt_ten hc), ← hdigits, digit_value hc]

theorem isShortest_iff {ds : List Char} {n : Nat} :
    IsShortest ds n ↔ ds = digits n := by
  constructor
  · exact IsShortest.eq_digits
  · intro h
    rw [h]
    exact isShortest_digits n

end Numeral
end TokenNames
