import TokenNames.Cache.Lexeme

/-!
# Numbers of a cached document

## Scanning

No part of a table is a number, but a document may hold numbers where they are skipped,
and a number in the place of a name has to be read before it can be refused.  A number
has an integer part without leading zeros, then an optional fraction and an optional
exponent, each with at least one digit.
-/

namespace TokenNames
namespace Cache

def leadingDigits (s : List Char) : List Char :=
  s.takeWhile Char.isDigit

def afterDigits (s : List Char) : List Char :=
  s.dropWhile Char.isDigit

theorem afterDigits_length_le (s : List Char) : (afterDigits s).length ≤ s.length :=
  (List.dropWhile_suffix Char.isDigit).length_le

theorem afterDigits_length_lt {s : List Char} (h : leadingDigits s ≠ []) :
    (afterDigits s).length < s.length := by
  cases s with
  | nil => exact absurd rfl h
  | cons c s =>
      cases hdigit : c.isDigit with
      | false =>
          have hnone : leadingDigits (c :: s) = [] := by
            simp [leadingDigits, hdigit]
          exact absurd hnone h
      | true =>
          rw [afterDigits, List.dropWhile_cons, if_pos hdigit]
          exact Nat.lt_succ_of_le (afterDigits_length_le s)

def scanDigits (s : List Char) : Except Fault (List Char × List Char) :=
  if leadingDigits s ≠ [] then .ok (leadingDigits s, afterDigits s)
  else if s = [] then .error .truncated
  else .error .malformed

theorem scanDigits_length_lt {s digits rest : List Char}
    (h : scanDigits s = .ok (digits, rest)) : rest.length < s.length := by
  unfold scanDigits at h
  split at h
  · next hsome =>
      cases h
      exact afterDigits_length_lt hsome
  · split at h <;> cases h

def scanWhole : List Char → Except Fault (List Char × List Char)
  | '0' :: s => if leadingDigits s = [] then .ok (['0'], s) else .error .malformed
  | s => scanDigits s

theorem scanWhole_length_lt {s digits rest : List Char}
    (h : scanWhole s = .ok (digits, rest)) : rest.length < s.length := by
  unfold scanWhole at h
  split at h
  · split at h
    · cases h
      exact Nat.lt_succ_self _
    · cases h
  · exact scanDigits_length_lt h

def scanFraction : List Char → Except Fault (List Char × List Char)
  | '.' :: s => scanDigits s
  | s => .ok ([], s)

theorem scanFraction_length_le {s digits rest : List Char}
    (h : scanFraction s = .ok (digits, rest)) : rest.length ≤ s.length := by
  unfold scanFraction at h
  split at h
  · exact Nat.le_succ_of_le (Nat.le_of_lt (scanDigits_length_lt h))
  · cases h
    exact Nat.le_refl _

structure Power where
  negative : Bool := false
  digits : List Char := []

def scanPower (negative : Bool) (s : List Char) : Except Fault (Power × List Char) :=
  match scanDigits s with
  | .error fault => .error fault
  | .ok (digits, rest) => .ok ({ negative, digits }, rest)

theorem scanPower_length_lt {negative : Bool} {p : Power} {s rest : List Char}
    (h : scanPower negative s = .ok (p, rest)) : rest.length < s.length := by
  unfold scanPower at h
  split at h
  · cases h
  · next hscan =>
      cases h
      exact scanDigits_length_lt hscan

def scanSignedPower : List Char → Except Fault (Power × List Char)
  | '+' :: s => scanPower false s
  | '-' :: s => scanPower true s
  | s => scanPower false s

theorem scanSignedPower_length_lt {p : Power} {s rest : List Char}
    (h : scanSignedPower s = .ok (p, rest)) : rest.length < s.length := by
  unfold scanSignedPower at h
  split at h
  · exact Nat.lt_succ_of_lt (scanPower_length_lt h)
  · exact Nat.lt_succ_of_lt (scanPower_length_lt h)
  · exact scanPower_length_lt h

def scanExponent : List Char → Except Fault (Power × List Char)
  | 'e' :: s => scanSignedPower s
  | 'E' :: s => scanSignedPower s
  | s => .ok ({}, s)

theorem scanExponent_length_le {p : Power} {s rest : List Char}
    (h : scanExponent s = .ok (p, rest)) : rest.length ≤ s.length := by
  unfold scanExponent at h
  split at h
  · exact Nat.le_succ_of_le (Nat.le_of_lt (scanSignedPower_length_lt h))
  · exact Nat.le_succ_of_le (Nat.le_of_lt (scanSignedPower_length_lt h))
  · cases h
    exact Nat.le_refl _

structure Magnitude where
  whole : List Char
  fraction : List Char
  power : Power

def scanMagnitude (s : List Char) : Except Fault (Magnitude × List Char) :=
  match scanWhole s with
  | .error fault => .error fault
  | .ok (whole, s) =>
      match scanFraction s with
      | .error fault => .error fault
      | .ok (fraction, s) =>
          match scanExponent s with
          | .error fault => .error fault
          | .ok (power, s) => .ok ({ whole, fraction, power }, s)

theorem scanMagnitude_length_lt {s rest : List Char} {m : Magnitude}
    (h : scanMagnitude s = .ok (m, rest)) : rest.length < s.length := by
  unfold scanMagnitude at h
  split at h
  · cases h
  · next hwhole =>
      split at h
      · cases h
      · next hfraction =>
          split at h
          · cases h
          · next hpower =>
              cases h
              calc
                _ ≤ _ := scanExponent_length_le hpower
                _ ≤ _ := scanFraction_length_le hfraction
                _ < _ := scanWhole_length_lt hwhole

/-!
# Size

A number that is read has to fit the range of 64-bit floating point, and so its digits
are gathered in a 64-bit significand.  The first digit that no longer fits ends the
gathering: it and the digits after it are dropped, and each dropped digit of the integer
part counts as a power of ten.
-/

/-- Appends digits to a significand as long as it fits 64 bits.  The result comes with
the digits that were taken in and those that were not. -/
def gather (significand taken : Nat) : List Char → Nat × Nat × List Char
  | [] => (significand, taken, [])
  | c :: cs =>
      let next := 10 * significand + (Numeral.value? c).getD 0
      if next < 2 ^ 64 then gather next (taken + 1) cs
      else (significand, taken, c :: cs)

def Power.exponent (p : Power) : Int :=
  let n := p.digits.foldl (fun n c => 10 * n + (Numeral.value? c).getD 0) 0
  if p.negative then -(n : Int) else n

def Magnitude.isHuge (m : Magnitude) : Bool :=
  let (whole, _, dropped) := gather 0 0 m.whole
  let (significand, places, _) := gather whole 0 m.fraction
  let exponent := m.power.exponent + dropped.length - places
  if exponent ≤ 0 then false
  else if 308 < exponent then significand ≠ 0
  else (Float.ofNat significand * Float.ofScientific 1 false exponent.toNat).isInf

def numberFault (s : List Char) : Fault :=
  match scanMagnitude s with
  | .error fault => fault
  | .ok (m, _) => if m.isHuge then .malformed else .mismatched

/-- The characters after a number that is skipped, given without its sign.  Its size
does not matter, but it may not break off at the end of the document. -/
def skipNumber (s : List Char) : Except Fault (List Char) :=
  match scanMagnitude s with
  | .error _ => .error .malformed
  | .ok (_, rest) => .ok rest

theorem skipNumber_length_lt {s rest : List Char} (h : skipNumber s = .ok rest) :
    rest.length < s.length := by
  unfold skipNumber at h
  split at h
  · cases h
  · next hscan =>
      cases h
      exact scanMagnitude_length_lt hscan

end Cache
end TokenNames
