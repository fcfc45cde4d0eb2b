import TokenNames.TypeMap

/-!
# Listings

## A table with four columns

A listing shows each type of a vocabulary on a row of its own: the numeral of the type,
its literal and its symbolic name, and the name that messages show.  The first three
columns have a common width; the last one is as long as its cells.

The width of a column is the greatest number of UTF-8 bytes in a cell, while a cell is
filled up by characters.  No cell has more characters than bytes, so a column is always
wide enough, and with names beyond ASCII it is wider than it would have to be.

The formatter that fills the cells up takes widths of 16 bits only.  A listing is defined
for all widths, and `fits` says whether the formatter can write it.
-/

namespace TokenNames
namespace Listing

structure Row where
  type : String
  literal : String
  symbolic : String
  display : String
deriving DecidableEq

def header : Row where
  type := "TYPE"
  literal := "LITERAL"
  symbolic := "SYMBOLIC"
  display := "DISPLAY"

def rowOf (v : Vocabulary) (t : TokenType) : Row where
  type := t.text
  literal := (v.literalName t).getD "-"
  symbolic := (v.symbolicName t).getD "-"
  display := v.displayName t

def rows (v : Vocabulary) : List Row :=
  header :: v.types.map (rowOf v)

/-- The greatest number of bytes in the cells of a column. -/
def width (cell : Row → String) (rows : List Row) : Nat :=
  rows.foldl (fun w row => max w (cell row).utf8ByteSize) 0

/-- A cell filled up with spaces to a number of characters. -/
def fill (width : Nat) (cell : String) : String :=
  cell ++ String.ofList (List.replicate (width - cell.length) ' ')

def Row.line (row : Row) (type literal symbolic : Nat) : String :=
  fill type row.type ++ "  " ++ fill literal row.literal ++ "  " ++
    fill symbolic row.symbolic ++ "  " ++ row.display ++ "\n"

def table (v : Vocabulary) : String :=
  let rows := rows v
  let type := width Row.type rows
  let literal := width Row.literal rows
  let symbolic := width Row.symbolic rows
  String.join (rows.map fun row => row.line type literal symbolic)

/-- The greatest width that the formatter takes. -/
def maxWidth : Nat := 65535

def fits (v : Vocabulary) : Bool :=
  [Row.type, Row.literal, Row.symbolic].all fun cell => width cell (rows v) ≤ maxWidth

/-!
# Answers to questions

A question about types is answered by their names, and a question about names by their
types.  Each answer is a line that repeats the question before a tab.
-/

def displayNames (v : Vocabulary) (types : List TokenType) : String :=
  String.join (types.map fun t => t.text ++ "\t" ++ v.displayName t ++ "\n")

def answer (m : TypeMap) (name : String) : String :=
  match m[name]? with
  | some t => t.text
  | none => "<unknown>"

def lookup (v : Names) (names : List String) : String :=
  let m := v.typeMap
  String.join (names.map fun name => name ++ "\t" ++ answer m name ++ "\n")

def lookupLogged (v : Names) (names : List String) : Logged String := do
  let _ ← v.typeMapLogged
  return lookup v names

end Listing
end TokenNames
