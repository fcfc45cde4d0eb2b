import TokenNames.Table
import TokenNames.Text.Hex

/-!
# Writing cached tables

## The document of a table

A table is cached as a JSON document: an object with one list of names for each column,
without any space between its parts.  An absent entry is `null`.  The greatest type is
not written, since it follows from the lengths of the lists.

Inside a string the double quote, the backslash and the control characters are
escaped, and every other character stands for itself.
-/

namespace TokenNames
namespace Cache

def escape (c : Char) : List Char :=
  match c with
  | '"' => ['\\', '"']
  | '\\' => ['\\', '\\']
  | '\x08' => ['\\', 'b']
  | '\x0c' => ['\\', 'f']
  | '\n' => ['\\', 'n']
  | '\r' => ['\\', 'r']
  | '\t' => ['\\', 't']
  | _ =>
      if c < ' ' then
        ['\\', 'u', '0', '0', Text.hexDigit (c.toNat / 16), Text.hexDigit (c.toNat % 16)]
      else [c]

def writeString (text : List Char) : List Char :=
  '"' :: text.flatMap escape ++ ['"']

def writeEntry : Option String → List Char
  | none => ['n', 'u', 'l', 'l']
  | some name => writeString name.toList

def writeEntries : List (Option String) → List Char
  | [] => ['[', ']']
  | entry :: rest =>
      '[' :: writeEntry entry ++ (rest.flatMap fun e => ',' :: writeEntry e) ++ [']']

inductive Field where
  | literal
  | symbolic
  | display
deriving DecidableEq

def Field.key : Field → String
  | .literal => "literal_names"
  | .symbolic => "symbolic_names"
  | .display => "display_names"

def writeField (field : Field) (names : Column) : List Char :=
  writeString field.key.toList ++ ':' :: writeEntries names.toList

def writeTable (table : Table) : List Char :=
  '\x7b' :: writeField .literal table.literalNames ++
    ',' :: writeField .symbolic table.symbolicNames ++
    ',' :: writeField .display table.displayNames ++ ['\x7d']

def write (table : Table) : String :=
  String.ofList (writeTable table)

end Cache
end TokenNames
