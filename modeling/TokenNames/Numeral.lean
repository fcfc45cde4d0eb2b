/-!
# Decimal numerals

## Writing and reading

A numeral is an optional sign before one or more ASCII digits.  `Numeral.write` gives
the shortest numeral of an integer: a minus sign for a negative number, no leading
zeros.  `Numeral.read` gives the integer that a numeral denotes, as long as every
prefix of it stays inside the bounds that the caller fixes.

The reader works digit by digit and reports the first thing that goes wrong.  It looks
at a character before it looks at the size of the number, so a stray character is
reported as such unless an earlier digit already left the bounds.
-/

namespace TokenNames
namespace Numeral

def digit (value : Nat) : Char :=
  Char.ofNat ('0'.toNat + value)

def value? (c : Char) : Option Nat :=
  if '0' ≤ c ∧ c ≤ '9' then some (c.toNat - '0'.toNat) else none

def digits (n : Nat) : List Char :=
  if n < 10 then [digit n] else digits (n / 10) ++ [digit (n % 10)]

def chars : Int → List Char
  | .ofNat n => digits n
  | .negSucc n => '-' :: digits (n + 1)

def write (i : Int) : String :=
  String.ofList (chars i)

/-!
# Reading

The sign is carried as a factor, so that the digits of a negative number are subtracted
one after the other.  This is what makes the least number of a range readable: its
absolute value may lie outside the range.
-/

inductive Malformation where
  | empty
  | invalidDigit
deriving DecidableEq

inductive Fault where
  | malformed (reason : Malformation)
  | overflow
deriving DecidableEq

def Malformation.message : Malformation → String
  | .empty => "cannot parse integer from empty string"
  | .invalidDigit => "invalid digit found in string"

/-- Reads digits after a prefix that denotes `acc`.  `sign` is `1` or `-1`. -/
def readDigits (lo hi sign : Int) : Int → List Char → Except Fault Int
  | acc, [] => .ok acc
  | acc, c :: cs =>
      match value? c with
      | none => .error (.malformed .invalidDigit)
      | some d =>
          let next := 10 * acc + sign * d
          if lo ≤ next ∧ next ≤ hi then readDigits lo hi sign next cs
          else .error .overflow

def readChars (lo hi : Int) : List Char → Except Fault Int
  | [] => .error (.malformed .empty)
  | ['+'] => .error (.malformed .invalidDigit)
  | ['-'] => .error (.malformed .invalidDigit)
  | '+' :: cs => readDigits lo hi 1 0 cs
  | '-' :: cs => readDigits lo hi (-1) 0 cs
  | cs => readDigits lo hi 1 0 cs

def read (lo hi : Int) (text : String) : Except Fault Int :=
  readChars lo hi text.toList

end Numeral

end TokenNames
