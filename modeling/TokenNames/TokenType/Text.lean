import TokenNames.Numeral
import TokenNames.TokenType

/-!
# Numerals of token types

## Types in texts

Files, messages and command lines write a token type as a decimal numeral.  Every type
has one numeral that is written, while a numeral that is read may also have a plus sign
or leading zeros, as long as it denotes a 32-bit number.
-/

namespace TokenNames

structure NotATokenType where
  text : String
deriving DecidableEq

def NotATokenType.message (e : NotATokenType) : String :=
  "'" ++ e.text ++ "' is not a token type"

namespace TokenType

def text (t : TokenType) : String :=
  Numeral.write t.toInt

theorem toList_text (t : TokenType) : t.text.toList = Numeral.chars t.toInt :=
  String.toList_ofList

def ofText (text : String) : Except NotATokenType TokenType :=
  match Numeral.read Int32.minValue.toInt Int32.maxValue.toInt text with
  | .ok i => .ok (Int32.ofInt i)
  | .error _ => .error { text }

/-- Reads the numerals of several token types.  The first text that is none decides. -/
def ofTexts (texts : List String) : Except NotATokenType (List TokenType) :=
  texts.mapM ofText

end TokenType

end TokenNames
