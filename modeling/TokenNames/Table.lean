import TokenNames.Event
import TokenNames.Text.Uppercase
import TokenNames.Vocabulary

/-!
# Tables

## Columns of names

A table is a vocabulary kept in three columns, one for each kind of name.  The entry at
index `t` of a column is the name of type `t`.  The columns may differ in length; a
type beyond the end of a column has no entry there, which is not the same as an entry
that is absent.
-/

namespace TokenNames

abbrev Column := Array (Option String)

namespace Column

def entry? (names : Column) (t : TokenType) : Option (Option String) :=
  if t < 0 then none else names[t.toInt.toNat]?

def name? (names : Column) (t : TokenType) : Option String :=
  (names.entry? t).join

def count (names : Column) : Nat :=
  names.countP (·.isSome)

/-- Enters a name at an index.  A column that is too short grows by absent entries. -/
def place (names : Column) (index : Nat) (name : String) : Column :=
  (names ++ Array.replicate (index + 1 - names.size) none).setIfInBounds index (some name)

theorem size_place (names : Column) (index : Nat) (name : String) :
    (names.place index name).size = max names.size (index + 1) := by
  simp only [place, Array.size_setIfInBounds, Array.size_append, Array.size_replicate]
  omega

theorem getElem?_place_self (names : Column) (index : Nat) (name : String) :
    (names.place index name)[index]? = some (some name) := by
  have hindex :
      index < (names ++ Array.replicate (index + 1 - names.size) (none : Option String)).size := by
    simp only [Array.size_append, Array.size_replicate]
    omega
  simp only [place, Array.getElem?_setIfInBounds_self, if_pos hindex]

theorem join_getElem?_place_of_ne (names : Column) {index i : Nat} (name : String) (h : i ≠ index) :
    (names.place index name)[i]?.join = names[i]?.join := by
  rw [place, Array.getElem?_setIfInBounds_ne (Ne.symm h), Array.getElem?_append]
  split
  · rfl
  · next past =>
      rw [Array.getElem?_replicate, Array.getElem?_eq_none (Nat.le_of_not_lt past)]
      split <;> rfl

end Column

/-!
# The table

A table knows the greatest type that its columns reach.  That type is determined by the
lengths of the columns, so two tables are equal exactly when their columns are.
-/

structure Table where
  literalNames : Column := #[]
  symbolicNames : Column := #[]
  displayNames : Column := #[]
  maxTokenType : TokenType :=
    TokenType.lastOf (max (max literalNames.size symbolicNames.size) displayNames.size)
  maxTokenType_eq : maxTokenType =
    TokenType.lastOf (max (max literalNames.size symbolicNames.size) displayNames.size) := by rfl
deriving DecidableEq

namespace Table

def empty : Table where
  maxTokenType := -1
  maxTokenType_eq := by decide

instance : Inhabited Table := ⟨empty⟩

def length (table : Table) : Nat :=
  max (max table.literalNames.size table.symbolicNames.size) table.displayNames.size

def isEmpty (table : Table) : Bool :=
  table.maxTokenType < 0

def literalName (table : Table) (t : TokenType) : Option String :=
  table.literalNames.name? t

/-- The symbolic name of a type.  The end of the input is `EOF` in every table. -/
def symbolicName (table : Table) (t : TokenType) : Option String :=
  match table.symbolicNames.entry? t with
  | some name => name
  | none => if t = TokenType.eof then some "EOF" else none

def names (table : Table) : Names where
  maxTokenType := table.maxTokenType
  literalName := table.literalName
  symbolicName := table.symbolicName

/-- The name that a message shows: the entry of the third column if it says something,
otherwise the derived name. -/
def displayName (table : Table) (t : TokenType) : String :=
  (proper (table.displayNames.name? t)).getD (table.names.derivedName t)

def vocabulary (table : Table) : Vocabulary where
  toNames := table.names
  displayName := table.displayName

/-!
# Tables from a single list of names

Older grammar tools keep one list that holds literal and symbolic names alike.  The
first character of a name tells its kind: a single quote begins a literal name and an
uppercase character a symbolic one.  Any other name is neither, but messages still show
it, since the list itself becomes the third column.
-/

def isCapitalized (name : String) : Bool :=
  name.toList.head?.any Text.isUppercase

def ofTokenNames (tokenNames : Column) : Table where
  literalNames := tokenNames.map (·.filter isQuoted)
  symbolicNames := tokenNames.map (·.filter isCapitalized)
  displayNames := tokenNames

/-- Sorts the names of one list into a table and reports how many of each kind there
are.  The empty list is not worth a report. -/
def ofTokenNamesLogged (tokenNames : Column) : Logged Table := do
  let table := ofTokenNames tokenNames
  if tokenNames.size ≠ 0 then
    Logged.emit (.splitTokenNames tokenNames.size table.literalNames.count
      table.symbolicNames.count)
  return table

end Table

end TokenNames
