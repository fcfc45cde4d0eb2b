import TokenNames.Text.Blank
import TokenNames.Text.Lines
import TokenNames.Vocabulary

/-!
# Assignments of a tokens file

## One line

A tokens file gives names to token types, one assignment `name=type` on a line.  Blanks
around the line, the name and the type have no meaning, and a blank line assigns
nothing.  The last `=` of the line separates the name from the type, so a name can
contain that character.  A name that begins with a single quote is a literal name and
any other a symbolic one.

A line that is neither blank nor an assignment has exactly one fault.  The name is
looked at before the type.
-/

namespace TokenNames
namespace TokensFile

/-- A name for a type.  The format has 16 bits for a type. -/
structure Assignment where
  /-- The name, without blanks at its ends. -/
  name : String
  type : UInt16
deriving DecidableEq

def Assignment.kind (a : Assignment) : Kind :=
  Kind.ofName a.name

inductive LineFault where
  | missingAssignment (text : String)
  | emptyName
  | invalidType (value : String) (cause : Numeral.Malformation)
  | outOfRange (value : String)
deriving DecidableEq

def LineFault.message : LineFault → String
  | .missingAssignment text => "expected `name=type`, found `" ++ text ++ "`"
  | .emptyName => "token name is empty"
  | .invalidType value _ => "invalid token type `" ++ value ++ "`"
  | .outOfRange value =>
      "token type " ++ value ++ " is outside 0..=" ++ TokenType.maxFile.text

/-!
# Reading a line

The numeral of a type is read as a 64-bit number before its range is checked.  A
numeral that leaves even the 64-bit range is out of range as soon as it does, whatever
characters follow.
-/

def readType (value : List Char) : Except LineFault UInt16 :=
  match Numeral.readChars Int64.minValue.toInt Int64.maxValue.toInt value with
  | .error (.malformed cause) => .error (.invalidType (String.ofList value) cause)
  | .error .overflow => .error (.outOfRange (String.ofList value))
  | .ok type =>
      if 0 ≤ type ∧ type ≤ TokenType.maxFile.toInt then .ok (UInt16.ofNat type.toNat)
      else .error (.outOfRange (String.ofList value))

def readSides (name value : List Char) : Except LineFault Assignment :=
  if name = [] then .error .emptyName
  else (readType value).map fun type => { name := String.ofList name, type }

def readAssignment (text : List Char) : Except LineFault Assignment :=
  match Text.cutAtLast '=' text with
  | none => .error (.missingAssignment (String.ofList text))
  | some (name, value) => readSides (Text.trim name) (Text.trim value)

/-- Reads a line; a blank line has no outcome. -/
def readLine (line : List Char) : Option (Except LineFault Assignment) :=
  if Text.trim line = [] then none else some (readAssignment (Text.trim line))

end TokensFile
end TokenNames
