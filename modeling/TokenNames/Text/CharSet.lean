/-!
# Sets of characters

## Runs of code points

A property of characters is a set of code points, and such a set is a short list of
runs.  A run goes from its first to its last member in equal steps: step one gives an
interval, step two every other code point of one, which is how the two cases of a
letter alternate in most alphabets.
-/

namespace TokenNames
namespace Text

/-- The code points `first, first + step, …` up to `last`. -/
structure Run where
  first : Nat
  last : Nat
  step : Nat
deriving DecidableEq

def Run.contains (r : Run) (code : Nat) : Bool :=
  r.first ≤ code && code ≤ r.last && (code - r.first) % r.step == 0

abbrev CharSet := List Run

namespace CharSet

def ofIntervals (intervals : List (Nat × Nat)) : CharSet :=
  intervals.map fun (first, last) => { first, last, step := 1 }

def contains (s : CharSet) (c : Char) : Bool :=
  s.any (·.contains c.toNat)

end CharSet

end Text
end TokenNames
