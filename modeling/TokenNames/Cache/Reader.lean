import TokenNames.Cache.Skip
import TokenNames.Cache.Writer

/-!
# Reading cached tables

## Documents that hold a table

A document holds a table in one of two forms: an object with a list of names under the
key of each column, or a list of two or three such lists.  The list for messages can be
missing in both.  An object may have its keys in any order and may have other keys,
whose values are skipped, but none of the three keys twice.

A list of names holds strings and `null`.  Whatever else the document says about a table
is ignored: the greatest type follows from the lists alone.
-/

namespace TokenNames
namespace Cache

def mismatch (s : List Char) : Fault :=
  match s with
  | [] => .truncated
  | c :: rest =>
      if c = 'n' then faultOr (readWord ['u', 'l', 'l'] rest)
      else if c = 't' then faultOr (readWord ['r', 'u', 'e'] rest)
      else if c = 'f' then faultOr (readWord ['a', 'l', 's', 'e'] rest)
      else if c = '"' then faultOr (readString [] rest)
      else if c = '[' ∨ c = '\x7b' then .mismatched
      else if c = '-' then numberFault rest
      else if c.isDigit then numberFault (c :: rest)
      else .malformed

def readEntry (s : List Char) : Except Fault (Option String × List Char) :=
  match skipSpace s with
  | [] => .error .truncated
  | c :: rest =>
      if c = 'n' then (readWord ['u', 'l', 'l'] rest).map fun rest => (none, rest)
      else if c = '"' then
        (readString [] rest).map fun (text, rest) => (some (String.ofList text), rest)
      else .error (mismatch (c :: rest))

theorem readEntry_length_lt {s rest : List Char} {entry : Option String}
    (h : readEntry s = .ok (entry, rest)) : rest.length < s.length := by
  unfold readEntry at h
  split at h
  · cases h
  · next c inner hspace =>
      have hlength := length_lt_of_skipSpace hspace
      split at h
      · cases hword : readWord ['u', 'l', 'l'] inner with
        | error fault =>
            rw [hword] at h
            cases h
        | ok rest =>
            rw [hword] at h
            cases h
            exact Nat.lt_of_le_of_lt (readWord_length_le hword) hlength
      split at h
      · cases hstring : readString [] inner with
        | error fault =>
            rw [hstring] at h
            cases h
        | ok result =>
            rw [hstring] at h
            cases h
            exact Nat.lt_trans (readString_length_lt hstring) hlength
      · cases h

/-- Reads the entries of a list of names up to its closing bracket.  `done` holds the
entries already read, the last one first. -/
def readEntries (done : List (Option String)) (s : List Char) :
    Except Fault (List (Option String) × List Char) :=
  match h : readEntry s with
  | .error fault => .error fault
  | .ok (entry, s') =>
      match h' : skipSpace s' with
      | [] => .error .truncated
      | c :: rest =>
          if c = ']' then .ok ((entry :: done).reverse, rest)
          else if c = ',' then
            have : rest.length < s.length :=
              Nat.lt_trans (length_lt_of_skipSpace h') (readEntry_length_lt h)
            readEntries (entry :: done) rest
          else .error .malformed
termination_by s.length

def readNames (s : List Char) : Except Fault (List (Option String) × List Char) :=
  match skipSpace s with
  | [] => .error .truncated
  | c :: rest =>
      if c = '[' then
        match skipSpace rest with
        | ']' :: rest => .ok ([], rest)
        | rest => readEntries [] rest
      else .error (mismatch (c :: rest))

theorem readEntries_length_lt {done entries : List (Option String)} {s rest : List Char}
    (h : readEntries done s = .ok (entries, rest)) : rest.length < s.length := by
  fun_induction readEntries done s with
  | case1 => cases h
  | case2 => cases h
  | case3 done s entry s' hread rest' hspace =>
      cases h
      exact Nat.lt_trans (length_lt_of_skipSpace hspace)
        (readEntry_length_lt hread)
  | case4 done s entry s' hread rest' hspace _ hlength ih =>
      exact Nat.lt_trans (ih h) hlength
  | case5 => cases h

theorem readNames_length_lt {entries : List (Option String)} {s rest : List Char}
    (h : readNames s = .ok (entries, rest)) : rest.length < s.length := by
  unfold readNames at h
  split at h
  · cases h
  · next c inner hspace =>
      have hlength := length_lt_of_skipSpace hspace
      split at h
      · split at h
        · next hempty =>
            cases h
            exact Nat.lt_trans (length_lt_of_skipSpace hempty) hlength
        · calc
            rest.length < _ := readEntries_length_lt h
            _ ≤ inner.length := skipSpace_length_le inner
            _ < s.length := hlength
      · cases h

/-!
# Objects

The lists that have been read so far are kept by column.  A key that comes twice is
refused as soon as it has been read, before its value.
-/

structure Lists where
  literal : Option (List (Option String)) := none
  symbolic : Option (List (Option String)) := none
  display : Option (List (Option String)) := none

namespace Lists

def get? (lists : Lists) : Field → Option (List (Option String))
  | .literal => lists.literal
  | .symbolic => lists.symbolic
  | .display => lists.display

def put (lists : Lists) (names : List (Option String)) : Field → Lists
  | .literal => { lists with literal := some names }
  | .symbolic => { lists with symbolic := some names }
  | .display => { lists with display := some names }

/-- The table of the lists, once the two that it needs are there. -/
def table? (lists : Lists) : Option Table :=
  match lists.literal, lists.symbolic with
  | some literal, some symbolic =>
      some {
        literalNames := literal.toArray
        symbolicNames := symbolic.toArray
        displayNames := (lists.display.getD []).toArray }
  | _, _ => none

end Lists

def Field.ofKey? (key : List Char) : Option Field :=
  [Field.literal, .symbolic, .display].find? fun field => field.key.toList == key

def readValue (lists : Lists) (key s : List Char) : Except Fault (Lists × List Char) :=
  match Field.ofKey? key with
  | some field =>
      if (lists.get? field).isSome then .error .mismatched
      else
        match skipColon s with
        | .error fault => .error fault
        | .ok s => (readNames s).map fun (names, rest) => (lists.put names field, rest)
  | none =>
      match skipColon s with
      | .error fault => .error fault
      | .ok s => (skipValue s).map fun rest => (lists, rest)

theorem readValue_length_lt {lists lists' : Lists} {key s rest : List Char}
    (h : readValue lists key s = .ok (lists', rest)) : rest.length < s.length := by
  unfold readValue at h
  split at h
  · split at h
    · cases h
    · split at h
      · cases h
      · next s' hcolon =>
          cases hnames : readNames s' with
          | error fault =>
              rw [hnames] at h
              cases h
          | ok result =>
              rw [hnames] at h
              cases h
              exact Nat.lt_trans (readNames_length_lt hnames)
                (skipColon_length_lt hcolon)
  · split at h
    · cases h
    · next s' hcolon =>
        cases hvalue : skipValue s' with
        | error fault =>
            rw [hvalue] at h
            cases h
        | ok rest' =>
            rw [hvalue] at h
            cases h
            exact Nat.lt_trans (skipValue_length_lt hvalue)
              (skipColon_length_lt hcolon)

def readMember (lists : Lists) (s : List Char) : Except Fault (Lists × List Char) :=
  match skipSpace s with
  | [] => .error .truncated
  | c :: rest =>
      if c = '"' then
        match readString [] rest with
        | .error fault => .error fault
        | .ok (key, rest) => readValue lists key rest
      else .error .malformed

theorem readMember_length_lt {lists lists' : Lists} {s rest : List Char}
    (h : readMember lists s = .ok (lists', rest)) : rest.length < s.length := by
  unfold readMember at h
  split at h
  · cases h
  · next hspace =>
      split at h
      · split at h
        · cases h
        · next hkey =>
            calc
              rest.length < _ := readValue_length_lt h
              _ < _ := readString_length_lt hkey
              _ < s.length := length_lt_of_skipSpace hspace
      · cases h

def readMembers (lists : Lists) (s : List Char) : Except Fault (Lists × List Char) :=
  match h : readMember lists s with
  | .error fault => .error fault
  | .ok (lists', s') =>
      match h' : skipSpace s' with
      | [] => .error .truncated
      | c :: rest =>
          if c = '\x7d' then .ok (lists', rest)
          else if c = ',' then
            have : rest.length < s.length :=
              Nat.lt_trans (length_lt_of_skipSpace h') (readMember_length_lt h)
            readMembers lists' rest
          else .error .malformed
termination_by s.length

def readObject (s : List Char) : Except Fault (Lists × List Char) :=
  match skipSpace s with
  | '\x7d' :: rest => .ok ({}, rest)
  | rest => readMembers {} rest

/-!
# Lists

The lists of names stand in the order literal, symbolic, display.  A list that ends
before its second item is no table; one that goes on after its third is malformed.
-/

inductive Continuation where
  | item (rest : List Char)
  | close (rest : List Char)

def readContinuation (s : List Char) : Except Fault Continuation :=
  match skipSpace s with
  | [] => .error .truncated
  | c :: rest =>
      if c = ']' then .ok (.close rest)
      else if c = ',' then .ok (.item rest)
      else .error .malformed

def readDisplay (lists : Lists) (s : List Char) : Except Fault (Lists × List Char) :=
  match readNames s with
  | .error fault => .error fault
  | .ok (names, s) =>
      match readContinuation s with
      | .error fault => .error fault
      | .ok (.item _) => .error .malformed
      | .ok (.close rest) => .ok (lists.put names .display, rest)

def readSymbolic (lists : Lists) (s : List Char) : Except Fault (Lists × List Char) :=
  match readNames s with
  | .error fault => .error fault
  | .ok (names, s) =>
      match readContinuation s with
      | .error fault => .error fault
      | .ok (.item rest) => readDisplay (lists.put names .symbolic) rest
      | .ok (.close rest) => .ok (lists.put names .symbolic, rest)

def readArray (s : List Char) : Except Fault (Lists × List Char) :=
  match skipSpace s with
  | ']' :: _ => .error .mismatched
  | s =>
      match readNames s with
      | .error fault => .error fault
      | .ok (names, s) =>
          match readContinuation s with
          | .error fault => .error fault
          | .ok (.item rest) => readSymbolic (({} : Lists).put names .literal) rest
          | .ok (.close _) => .error .mismatched

/-!
# Documents
-/

def readLists (s : List Char) : Except Fault (Lists × List Char) :=
  match skipSpace s with
  | [] => .error .truncated
  | c :: rest =>
      if c = '\x7b' then readObject rest
      else if c = '[' then readArray rest
      else .error (mismatch (c :: rest))

def readTable (s : List Char) : Except Fault Table :=
  match readLists s with
  | .error fault => .error fault
  | .ok (lists, rest) =>
      match lists.table? with
      | none => .error .mismatched
      | some table => if skipSpace rest = [] then .ok table else .error .malformed

def read (document : String) : Except Fault Table :=
  readTable document.toList

end Cache
end TokenNames
