import TokenNames.Table
import TokenNames.TokensFile.Assignment

/-!
# Parsing tokens files

## The table of a file

The lines of a file are numbered from one, blank lines included.  A file is accepted
when no line has a fault, and otherwise refused for the fault of its first faulty line.
The assignments of an accepted file fill one column for each kind of name: a later
assignment to a type replaces an earlier one of the same kind, and types without an
assignment below the greatest one stay absent.  No file fills the third column.
-/

namespace TokenNames
namespace TokensFile

structure ParseError where
  line : Nat
  fault : LineFault
deriving DecidableEq

def ParseError.message (e : ParseError) : String :=
  "line " ++ Numeral.write e.line ++ ": " ++ e.fault.message

def ParseError.causes (e : ParseError) : List String :=
  match e.fault with
  | .invalidType _ cause => [cause.message]
  | _ => []

/-!
# Filling the columns

The lines are read from the first to the last, and each assignment is entered in the
column of its kind and reported.  The first faulty line ends the reading.
-/

/-- What the lines that were read so far have given. -/
structure Draft where
  literalNames : Column := #[]
  symbolicNames : Column := #[]
  reports : Array Event := #[]

def assignmentEvent (line : Nat) (a : Assignment) : Event :=
  .tokenAssignment line a.name (Int32.ofNat a.type.toNat)

namespace Draft

def enter (d : Draft) (a : Assignment) : Draft :=
  match a.kind with
  | .literal => { d with literalNames := d.literalNames.place a.type.toNat a.name }
  | .symbolic => { d with symbolicNames := d.symbolicNames.place a.type.toNat a.name }

def report (d : Draft) (line : Nat) (a : Assignment) : Draft :=
  { d with reports := d.reports.push (assignmentEvent line a) }

/-- Reads lines, the first of which has the number `line`. -/
def readLines (d : Draft) (line : Nat) : List (List Char) → Draft × Option ParseError
  | [] => (d, none)
  | l :: rest =>
      match readLine l with
      | none => d.readLines (line + 1) rest
      | some (.error fault) => (d, some { line, fault })
      | some (.ok a) => ((d.enter a).report line a).readLines (line + 1) rest

def table (d : Draft) : Table where
  literalNames := d.literalNames
  symbolicNames := d.symbolicNames

end Draft

/-!
# Reading a file

The report on the whole file comes last, and only for a file that is accepted.
-/

def parseLogged (source : String) : Logged (Except ParseError Table) :=
  match Draft.readLines {} 1 (Text.lines source.toList) with
  | (d, some e) => { value := .error e, events := d.reports.toList }
  | (d, none) =>
      { value := .ok d.table
        events := d.reports.toList ++
          [.parsedTokensFile d.literalNames.count d.symbolicNames.count] }

def parse (source : String) : Except ParseError Table :=
  (parseLogged source).value

end TokensFile
end TokenNames
