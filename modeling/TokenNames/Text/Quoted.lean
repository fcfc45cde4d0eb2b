import TokenNames.Text.Hex
import TokenNames.Text.Printable

/-!
# Quoted texts

## Showing a text in a message

A text in a message stands between double quotes.  The double quote and the backslash
are escaped, the usual controls have an escape of one letter, and a character that
would not stand for itself is written by its code point in braces, in lowercase
hexadecimal without padding.
-/

namespace TokenNames
namespace Text

def showChar (c : Char) : List Char :=
  match c with
  | '"' => ['\\', '"']
  | '\\' => ['\\', '\\']
  | '\n' => ['\\', 'n']
  | '\r' => ['\\', 'r']
  | '\t' => ['\\', 't']
  | '\x00' => ['\\', '0']
  | _ =>
      if isPlain c then [c]
      else ['\\', 'u', '\x7b'] ++ hexDigits c.toNat ++ ['\x7d']

def quoted (text : String) : String :=
  String.ofList ('"' :: text.toList.flatMap showChar ++ ['"'])

end Text
end TokenNames
