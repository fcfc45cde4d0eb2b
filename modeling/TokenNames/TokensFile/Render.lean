import TokenNames.Text.Blank
import TokenNames.Text.Quoted
import TokenNames.Vocabulary

/-!
# Rendering tokens files

## The text of a vocabulary

The text of a vocabulary has a line `name=type` for every name that says something: the
symbolic names by ascending type, then the literal names by ascending type.

A name that would not read back the same is refused.  Its type has to fit the format,
it must not begin or end with a blank or contain a line break, and a quote at its start
has to tell its kind.  The first refused name decides, and no text results.
-/

namespace TokenNames
namespace TokensFile

structure Entry where
  kind : Kind
  type : TokenType
  name : String
deriving DecidableEq

inductive Refusal where
  | unwritableType (type : TokenType)
  | unwritableName (type : TokenType) (name : String)
  | quotedSymbolic (type : TokenType) (name : String)
  | unquotedLiteral (type : TokenType) (name : String)
deriving DecidableEq

def Refusal.message : Refusal → String
  | .unwritableType type =>
      "token type " ++ type.text ++ " has names but is outside 0..=" ++ TokenType.maxFile.text
  | .unwritableName type name =>
      "token type " ++ type.text ++ ": name " ++ Text.quoted name ++
        " has surrounding whitespace or a line break"
  | .quotedSymbolic type name =>
      "token type " ++ type.text ++ ": symbolic name `" ++ name ++ "` starts with `'`"
  | .unquotedLiteral type name =>
      "token type " ++ type.text ++ ": literal name `" ++ name ++ "` does not start with `'`"

/-- Whether a name stays the same on a line of its own: it has no blank at an end and no
line break inside. -/
def staysWhole (name : String) : Bool :=
  Text.trim name.toList = name.toList && !name.toList.contains '\n' && !name.toList.contains '\r'

def refusal? (e : Entry) : Option Refusal :=
  if TokenType.maxFile < e.type then some (.unwritableType e.type)
  else if !staysWhole e.name then some (.unwritableName e.type e.name)
  else match e.kind, Kind.ofName e.name with
    | .symbolic, .literal => some (.quotedSymbolic e.type e.name)
    | .literal, .symbolic => some (.unquotedLiteral e.type e.name)
    | .symbolic, .symbolic | .literal, .literal => none

def Entry.line (e : Entry) : String :=
  e.name ++ "=" ++ e.type.text ++ "\n"

/-!
# Writing

The types are visited twice in ascending order, once for each kind of name.  Types
without a name of that kind leave no trace, and the first refused name ends the writing.
-/

def writeType (v : Names) (kind : Kind) (text : String) (type : TokenType) :
    Except Refusal String :=
  match proper (v.name kind type) with
  | none => .ok text
  | some name =>
      let e : Entry := { kind, type, name }
      match refusal? e with
      | some r => .error r
      | none => .ok (text ++ e.line)

def writeKind (v : Names) (kind : Kind) (text : String) : Except Refusal String :=
  v.types.foldlM (writeType v kind) text

def render (v : Names) : Except Refusal String := do
  let text ← writeKind v .symbolic ""
  writeKind v .literal text

end TokensFile
end TokenNames
