import TokenNames.TokenType.Text

/-!
# Vocabularies

## Names of token types

A token type can have two names.  Its literal name is the text of the token as the
grammar writes it, in single quotes; its symbolic name is an identifier.  Either can be
absent, and an empty name says nothing more than an absent one.

`Names` holds the two lookups and the greatest type that they cover.  The name that a
message shows is derived from them; a `Vocabulary` can replace it by a name of its own.
-/

namespace TokenNames

structure Names where
  maxTokenType : TokenType
  literalName : TokenType → Option String
  symbolicName : TokenType → Option String

/-- A name that says something: present and not empty. -/
def proper (name : Option String) : Option String :=
  name.filter (· ≠ "")

inductive Kind where
  | literal
  | symbolic
deriving DecidableEq

def isQuoted (name : String) : Bool :=
  name.toList.head? == some '\''

def Kind.ofName (name : String) : Kind :=
  if isQuoted name then .literal else .symbolic

namespace Names

def name (v : Names) : Kind → TokenType → Option String
  | .literal => v.literalName
  | .symbolic => v.symbolicName

def types (v : Names) : List TokenType :=
  TokenType.upTo v.maxTokenType

def namesAt (v : Names) (t : TokenType) : List String :=
  [v.literalName t, v.symbolicName t].filterMap proper

/-- The first of the names of a type, or its numeral when it has none. -/
def derivedName (v : Names) (t : TokenType) : String :=
  (v.namesAt t).headD t.text

end Names

/-- Names together with the name that messages show for each type. -/
structure Vocabulary extends Names where
  displayName : TokenType → String := toNames.derivedName

end TokenNames
