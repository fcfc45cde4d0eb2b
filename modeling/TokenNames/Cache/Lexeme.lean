import TokenNames.Text.Hex

/-!
# Parts of a cached document

## Words, strings and numbers

A cached document is read from left to right, and the first thing that is wrong with it
decides.  Every function here takes the characters that are left and gives back the
characters that are left after it, which are never more.

A document can be wrong in three ways.  It is malformed when it breaks the grammar of
JSON, truncated when it ends where the grammar wants more, and mismatched when a value
is no part of a table.
-/

namespace TokenNames
namespace Cache

inductive Fault where
  | malformed
  | truncated
  /-- A value of the document has no place in a table. -/
  | mismatched
deriving DecidableEq

/-- The fault that stops the reading of a value which has no place in a table: one
inside the value comes first. -/
def faultOr {α : Type} : Except Fault α → Fault
  | .error fault => fault
  | .ok _ => .mismatched

def isSpace (c : Char) : Bool :=
  c == ' ' || c == '\n' || c == '\t' || c == '\r'

def skipSpace (s : List Char) : List Char :=
  s.dropWhile isSpace

theorem skipSpace_length_le (s : List Char) : (skipSpace s).length ≤ s.length :=
  (List.dropWhile_suffix isSpace).length_le

theorem length_lt_of_skipSpace {s rest : List Char} {c : Char}
    (h : skipSpace s = c :: rest) : rest.length < s.length := by
  have hlength := skipSpace_length_le s
  rw [h, List.length_cons] at hlength
  exact hlength

def readWord : List Char → List Char → Except Fault (List Char)
  | [], s => .ok s
  | _ :: _, [] => .error .truncated
  | w :: word, c :: s => if c = w then readWord word s else .error .malformed

theorem readWord_length_le {word s rest : List Char} (h : readWord word s = .ok rest) :
    rest.length ≤ s.length := by
  induction word generalizing s with
  | nil =>
      cases h
      exact Nat.le_refl _
  | cons w word ih =>
      cases s with
      | nil => cases h
      | cons c s =>
          rw [readWord] at h
          split at h
          · exact Nat.le_succ_of_le (ih h)
          · cases h

/-!
# Strings

A backslash begins an escape.  An escape by number has exactly four hexadecimal digits
and stands for a 16-bit unit; a unit of the leading range needs one of the trailing
range after it, and both together stand for one character.  A string that is only
skipped keeps the rules for escapes, but its units need not go together.
-/

def shortEscape? (c : Char) : Option Char :=
  match c with
  | '"' => some '"'
  | '\\' => some '\\'
  | '/' => some '/'
  | 'b' => some '\x08'
  | 'f' => some '\x0c'
  | 'n' => some '\n'
  | 'r' => some '\r'
  | 't' => some '\t'
  | _ => none

/-- Reads the four digits of a unit.  The document is truncated when fewer than four
bytes are left. -/
def readUnit : List Char → Except Fault (Nat × List Char)
  | a :: b :: c :: d :: rest =>
      match Text.hexValue? a, Text.hexValue? b, Text.hexValue? c, Text.hexValue? d with
      | some a, some b, some c, some d => .ok (((a * 16 + b) * 16 + c) * 16 + d, rest)
      | _, _, _, _ => .error .malformed
  | s =>
      if (String.ofList s).utf8ByteSize < 4 then .error .truncated else .error .malformed

theorem readUnit_length_lt {s rest : List Char} {n : Nat} (h : readUnit s = .ok (n, rest)) :
    rest.length < s.length := by
  unfold readUnit at h
  split at h
  · split at h
    · cases h
      simp only [List.length_cons]
      omega
    · cases h
  · split at h <;> cases h

def isLeading (n : Nat) : Bool :=
  0xD800 ≤ n && n ≤ 0xDBFF

def isTrailing (n : Nat) : Bool :=
  0xDC00 ≤ n && n ≤ 0xDFFF

def readTrailing (leading : Nat) : List Char → Except Fault (Char × List Char)
  | [] | ['\\'] => .error .truncated
  | '\\' :: 'u' :: s =>
      match readUnit s with
      | .error fault => .error fault
      | .ok (n, rest) =>
          if isTrailing n then
            .ok (Char.ofNat (0x10000 + (leading - 0xD800) * 0x400 + (n - 0xDC00)), rest)
          else .error .malformed
  | _ => .error .malformed

theorem readTrailing_length_lt {leading : Nat} {s rest : List Char} {c : Char}
    (h : readTrailing leading s = .ok (c, rest)) : rest.length < s.length := by
  unfold readTrailing at h
  split at h
  · cases h
  · cases h
  · split at h
    · cases h
    · next hunit =>
        have hlength := readUnit_length_lt hunit
        split at h
        · rcases Prod.mk.inj (Except.ok.inj h) with ⟨_, hrest⟩
          rw [← hrest]
          simp only [List.length_cons]
          omega
        · cases h
  · cases h

def readEscape : List Char → Except Fault (Char × List Char)
  | [] => .error .truncated
  | 'u' :: s =>
      match readUnit s with
      | .error fault => .error fault
      | .ok (n, rest) =>
          if isTrailing n then .error .malformed
          else if isLeading n then readTrailing n rest
          else .ok (Char.ofNat n, rest)
  | c :: rest =>
      match shortEscape? c with
      | none => .error .malformed
      | some c => .ok (c, rest)

theorem readEscape_length_lt {s rest : List Char} {c : Char}
    (h : readEscape s = .ok (c, rest)) : rest.length < s.length := by
  unfold readEscape at h
  split at h
  · cases h
  · split at h
    · cases h
    · next hunit =>
        have hlength := readUnit_length_lt hunit
        split at h
        · cases h
        · split at h
          · have hrest := readTrailing_length_lt h
            simp only [List.length_cons]
            omega
          · cases h
            simp only [List.length_cons]
            omega
  · split at h
    · cases h
    · cases h
      simp only [List.length_cons]
      omega

/-- Reads a string after its opening quote.  `done` holds the characters already read,
the last one first. -/
def readString (done : List Char) : List Char → Except Fault (List Char × List Char)
  | [] => .error .truncated
  | c :: s =>
      if c = '"' then .ok (done.reverse, s)
      else if c = '\\' then
        match h : readEscape s with
        | .error fault => .error fault
        | .ok (c, rest) =>
            have := readEscape_length_lt h
            readString (c :: done) rest
      else if c < ' ' then .error .malformed
      else readString (c :: done) s
termination_by s => s.length

theorem readString_length_lt {done s text rest : List Char}
    (h : readString done s = .ok (text, rest)) : rest.length < s.length := by
  fun_induction readString done s with
  | case1 => cases h
  | case2 =>
      cases h
      exact Nat.lt_succ_self _
  | case3 => cases h
  | case4 done s c rest' hescape hshorter _ ih =>
      have hlength := ih h
      simp only [List.length_cons]
      omega
  | case5 => cases h
  | case6 done c s _ _ _ ih =>
      have hlength := ih h
      simp only [List.length_cons]
      omega

def skipEscape : List Char → Except Fault (List Char)
  | [] => .error .truncated
  | 'u' :: s => (readUnit s).map (·.2)
  | c :: rest => if (shortEscape? c).isSome then .ok rest else .error .malformed

theorem skipEscape_length_lt {s rest : List Char} (h : skipEscape s = .ok rest) :
    rest.length < s.length := by
  unfold skipEscape at h
  split at h
  · cases h
  · next s =>
      cases hunit : readUnit s with
      | error fault =>
          rw [hunit] at h
          cases h
      | ok result =>
          rw [hunit] at h
          cases h
          have hlength := readUnit_length_lt hunit
          simp only [List.length_cons]
          omega
  · split at h
    · cases h
      exact Nat.lt_succ_self _
    · cases h

def skipString : List Char → Except Fault (List Char)
  | [] => .error .truncated
  | c :: s =>
      if c = '"' then .ok s
      else if c = '\\' then
        match h : skipEscape s with
        | .error fault => .error fault
        | .ok rest =>
            have := skipEscape_length_lt h
            skipString rest
      else if c < ' ' then .error .malformed
      else skipString s
termination_by s => s.length

theorem skipString_length_lt {s rest : List Char} (h : skipString s = .ok rest) :
    rest.length < s.length := by
  fun_induction skipString s with
  | case1 => cases h
  | case2 =>
      cases h
      exact Nat.lt_succ_self _
  | case3 => cases h
  | case4 s rest' hescape hshorter _ ih =>
      have hlength := ih h
      simp only [List.length_cons]
      omega
  | case5 => cases h
  | case6 c s _ _ _ ih =>
      have hlength := ih h
      simp only [List.length_cons]
      omega

end Cache
end TokenNames
