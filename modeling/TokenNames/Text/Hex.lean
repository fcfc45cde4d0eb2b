import TokenNames.Numeral

/-!
# Hexadecimal numbers

## Digits

Numbers in base sixteen are written with lowercase letters and read with letters of
either case.
-/

namespace TokenNames
namespace Text

def hexDigit (value : Nat) : Char :=
  if value < 10 then Numeral.digit value else Char.ofNat ('a'.toNat + (value - 10))

def hexDigits (n : Nat) : List Char :=
  if n < 16 then [hexDigit n] else hexDigits (n / 16) ++ [hexDigit (n % 16)]

def hexValue? (c : Char) : Option Nat :=
  if '0' ≤ c ∧ c ≤ '9' then some (c.toNat - '0'.toNat)
  else if 'a' ≤ c ∧ c ≤ 'f' then some (c.toNat - 'a'.toNat + 10)
  else if 'A' ≤ c ∧ c ≤ 'F' then some (c.toNat - 'A'.toNat + 10)
  else none

theorem hexValue?_hexDigit {value : Nat} (h : value < 16) :
    hexValue? (hexDigit value) = some value := by
  have hall : forall v, v < 16 -> hexValue? (hexDigit v) = some v := by
    decide
  exact hall value h

end Text
end TokenNames
