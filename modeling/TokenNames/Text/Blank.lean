import TokenNames.Text.CharSet

/-!
# Blank characters

## Blanks and trimming

A blank is a character with the Unicode property `White_Space`.  This is more than the
ASCII blanks: next line, the no-break space, the spaces of typography and the
ideographic space belong to it, while the zero-width space and the byte order mark do
not.  Trimming removes the blanks at both ends of a text and none inside.
-/

namespace TokenNames
namespace Text

/-- The characters with the Unicode property `White_Space`. -/
def blanks : CharSet :=
  CharSet.ofIntervals [
    (0x0009, 0x000D), (0x0020, 0x0020), (0x0085, 0x0085), (0x00A0, 0x00A0), (0x1680, 0x1680),
    (0x2000, 0x200A), (0x2028, 0x2029), (0x202F, 0x202F), (0x205F, 0x205F), (0x3000, 0x3000)]

def isBlank (c : Char) : Bool :=
  blanks.contains c

def trimStart (cs : List Char) : List Char :=
  cs.dropWhile isBlank

def trimEnd (cs : List Char) : List Char :=
  (trimStart cs.reverse).reverse

def trim (cs : List Char) : List Char :=
  trimEnd (trimStart cs)

end Text
end TokenNames
