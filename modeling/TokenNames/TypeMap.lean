import Std.Data.TreeMap.Basic
import TokenNames.Event
import TokenNames.Vocabulary

/-!
# Types of names

## From a name back to its type

The type map of a vocabulary sends every name to a type that carries it.  Names are
entered in ascending order of their types, the literal name of a type before its
symbolic name, and a later entry replaces an earlier one; so a name that several types
share leads to the greatest of them.  `EOF` always stands for the end of the input,
whatever the vocabulary says.
-/

namespace TokenNames

abbrev TypeMap := Std.TreeMap String TokenType compare

namespace Names

/-- Every name that says something with its type, by ascending type. -/
def namedTypes (v : Names) : List (String × TokenType) :=
  v.types.flatMap fun t => (v.namesAt t).map fun name => (name, t)

def typeMap (v : Names) : TypeMap :=
  (v.namedTypes.foldl (fun (m : TypeMap) (name, t) => m.insert name t) ∅).insert "EOF" TokenType.eof

def typeMapLogged (v : Names) : Logged TypeMap := do
  Logged.emit (.builtTypeMap v.typeMap.size v.maxTokenType)
  return v.typeMap

end Names

end TokenNames
