/-!
# Token types

## Numbers that stand for tokens

A grammar tool numbers the tokens of a grammar.  The numbers are signed 32-bit
integers: a few values are reserved, and the types that a grammar itself declares
start at `minUser`.  This module fixes the reserved values and the range of types
that a vocabulary covers.
-/

namespace TokenNames

abbrev TokenType := Int32

namespace TokenType

def eof : TokenType := -1

/-- The empty word, which a grammar may expect but never reads. -/
def epsilon : TokenType := -2

def invalid : TokenType := 0

def minUser : TokenType := 1

/-- The greatest type that a tokens file can assign. -/
def maxFile : TokenType := 65535

/-!
# Ranges of types

A vocabulary names the types from zero up to its greatest type.  A negative greatest
type leaves the range empty.
-/

def upTo (max : TokenType) : List TokenType :=
  (List.range (max.toInt + 1).toNat).map Int32.ofNat

/-- The greatest type among `count` consecutive types that start at zero.  A count
beyond the 32-bit range stops at the greatest 32-bit number. -/
def lastOf (count : Nat) : TokenType :=
  Int32.ofInt (min ((count : Int) - 1) Int32.maxValue.toInt)

theorem mem_upTo {max t : TokenType} : t ∈ upTo max ↔ 0 ≤ t ∧ t ≤ max := by
  have hupper := Int32.toInt_lt max
  have hupper' := Int32.toInt_lt t
  have hzero : Int32.toInt 0 = 0 := by decide
  rw [upTo, List.mem_map, Int32.le_iff_toInt_le, Int32.le_iff_toInt_le, hzero]
  constructor
  · intro hmem
    rcases hmem with ⟨n, hn, ht⟩
    rw [List.mem_range] at hn
    rw [← ht, Int32.toInt_ofNat_of_lt (by omega)]
    omega
  · intro hrange
    rcases hrange with ⟨hnonneg, hle⟩
    refine ⟨t.toInt.toNat, List.mem_range.mpr (by omega), ?_⟩
    apply Int32.toInt_inj.mp
    rw [Int32.toInt_ofNat_of_lt (by omega)]
    omega

theorem toInt_lastOf (count : Nat) :
    (lastOf count).toInt = min ((count : Int) - 1) Int32.maxValue.toInt := by
  have hlimit : Int32.maxValue.toInt = 2147483647 := by decide
  unfold lastOf
  rw [Int32.toInt_ofInt_of_le] <;> omega

end TokenType

end TokenNames
