import TokenNames.Vocabulary

/-!
# Expected tokens

## Naming what a parser expected

When the input does not fit, a message lists the tokens that would have fitted.  Each
stands between back quotes; the last of several is set off by `or`, with a comma before
it from three on.  A type that is listed twice is named once, at its first place, while
two types with the same name are both named.
-/

namespace TokenNames
namespace Vocabulary

def elementName (v : Vocabulary) (t : TokenType) : String :=
  if t = TokenType.eof then "<EOF>"
  else if t = TokenType.epsilon then "<EPSILON>"
  else v.displayName t

def backQuoted (name : String) : String :=
  "`" ++ name ++ "`"

def alternatives : List String → String
  | [] => "nothing"
  | [name] => backQuoted name
  | [first, second] => backQuoted first ++ " or " ++ backQuoted second
  | names =>
      ", ".intercalate (names.dropLast.map backQuoted) ++ ", or " ++
        backQuoted (names.getLastD "")

/-- The expected types as part of a sentence. -/
def formatExpected (v : Vocabulary) (expected : List TokenType) : String :=
  alternatives (expected.eraseDups.map v.elementName)

end Vocabulary
end TokenNames
