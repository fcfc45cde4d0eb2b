import TokenNames.Proofs.Numeral.Reading

/-!
# Checking each operation

## One check or two

A machine number can overflow twice for each digit: when the number so far is multiplied by
ten, and when the digit is added or subtracted.  A reader that works with machine numbers
multiplies before it looks at the character, but it reports a product that is too great only
after that.  Reading digits with a single check of the result comes to the same, since a
product that leaves the bounds is not brought back by the digit.
-/

namespace TokenNames
namespace Numeral

def checked (lo hi i : Int) : Option Int :=
  if lo ≤ i ∧ i ≤ hi then some i else none

/-- Reads digits after a prefix that denotes `acc` and checks the product and the sum.  The
character decides before the product does. -/
def readCheckedDigits (lo hi sign : Int) :
    Int -> List Char -> Except Fault Int
  | acc, [] => .ok acc
  | acc, c :: cs =>
      match value? c, checked lo hi (10 * acc) with
      | none, _ => .error (.malformed .invalidDigit)
      | some _, none => .error .overflow
      | some d, some product =>
          match checked lo hi (product + sign * d) with
          | none => .error .overflow
          | some next => readCheckedDigits lo hi sign next cs

theorem checked_of_within {lo hi i : Int} (h : lo ≤ i ∧ i ≤ hi) :
    checked lo hi i = some i :=
  if_pos h

theorem checked_of_beyond {lo hi i : Int} (h : ¬ (lo ≤ i ∧ i ≤ hi)) :
    checked lo hi i = none :=
  if_neg h

/-- A digit takes a number away from zero, so a sum within the bounds has its product
within them. -/
theorem product_within_of_sum {lo hi : Int} (hlo : lo ≤ 0) (hhi : 0 ≤ hi)
    (sign : Sign) {n d : Nat}
    (h : lo ≤ 10 * (sign.factor * n) + sign.factor * d ∧
      10 * (sign.factor * n) + sign.factor * d ≤ hi) :
    lo ≤ 10 * (sign.factor * n) ∧ 10 * (sign.factor * n) ≤ hi := by
  cases sign <;> simp only [Sign.factor] at h ⊢ <;> omega

theorem readCheckedDigits_eq {lo hi : Int} (hlo : lo ≤ 0) (hhi : 0 ≤ hi)
    (sign : Sign) (n : Nat) (cs : List Char) :
    readCheckedDigits lo hi sign.factor (sign.factor * n) cs =
      readDigits lo hi sign.factor (sign.factor * n) cs := by
  induction cs generalizing n with
  | nil => rfl
  | cons c cs ih =>
      rw [readCheckedDigits, readDigits]
      cases hc : value? c with
      | none => rfl
      | some d =>
          by_cases hsum : lo ≤ 10 * (sign.factor * n) + sign.factor * d ∧
              10 * (sign.factor * n) + sign.factor * d ≤ hi
          · -- The product lies between zero and the sum, so its check adds nothing.
            have hproduct := product_within_of_sum hlo hhi sign hsum
            rw [checked_of_within hproduct]
            simp only [checked_of_within hsum, if_pos hsum]
            rw [sign.factor_extend]
            exact ih (10 * n + d)
          · simp only [if_neg hsum]
            by_cases hproduct : lo ≤ 10 * (sign.factor * n) ∧
                10 * (sign.factor * n) ≤ hi
            · rw [checked_of_within hproduct]
              simp only [checked_of_beyond hsum]
            · rw [checked_of_beyond hproduct]

end Numeral
end TokenNames
