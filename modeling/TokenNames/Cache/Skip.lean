import TokenNames.Cache.Number

/-!
# Skipping values of a cached document

## Values under unknown keys

A document may hold values under keys that mean nothing to a table.  Such a value is
skipped: its grammar is checked and its content ignored, to any depth of nesting.

The brackets that are open form a stack.  Skipping goes from one place where a value is
due to the next; between two such places lie the end of a value, the brackets that close
after it and, in an object, the next key.
-/

namespace TokenNames
namespace Cache

inductive Frame where
  | list
  | object
deriving DecidableEq

def Frame.close : Frame → Char
  | .list => ']'
  | .object => '\x7d'

/-- The next place where a value is due, or the end of the value that is skipped. -/
inductive Progress where
  | done (rest : List Char)
  | due (frames : List Frame) (rest : List Char)

def Progress.rest : Progress → List Char
  | .done rest => rest
  | .due _ rest => rest

def skipColon (s : List Char) : Except Fault (List Char) :=
  match skipSpace s with
  | [] => .error .truncated
  | c :: rest => if c = ':' then .ok rest else .error .malformed

theorem skipColon_length_lt {s rest : List Char} (h : skipColon s = .ok rest) :
    rest.length < s.length := by
  unfold skipColon at h
  split at h
  · cases h
  · next hspace =>
      split at h
      · cases h
        exact length_lt_of_skipSpace hspace
      · cases h

def startItem (frame : Frame) (outer : List Frame) (s : List Char) : Except Fault Progress :=
  match frame with
  | .list => .ok (.due (frame :: outer) s)
  | .object =>
      match skipSpace s with
      | [] => .error .truncated
      | c :: rest =>
          if c = '"' then
            match skipString rest with
            | .error fault => .error fault
            | .ok rest => (skipColon rest).map (.due (frame :: outer))
          else .error .malformed

theorem startItem_length_le {frame : Frame} {outer : List Frame} {s : List Char} {p : Progress}
    (h : startItem frame outer s = .ok p) : p.rest.length ≤ s.length := by
  unfold startItem at h
  split at h
  · cases h
    exact Nat.le_refl _
  · split at h
    · cases h
    · next hspace =>
        split at h
        · split at h
          · cases h
          · next inner hstring =>
              cases hcolon : skipColon inner with
              | error fault =>
                  rw [hcolon] at h
                  cases h
              | ok rest =>
                  rw [hcolon] at h
                  cases h
                  apply Nat.le_of_lt
                  calc
                    rest.length < _ := skipColon_length_lt hcolon
                    _ < _ := skipString_length_lt hstring
                    _ < _ := length_lt_of_skipSpace hspace
        · cases h

/-- Goes on after a value: closes frames until one of them has a further item. -/
def finishValue : List Frame → List Char → Except Fault Progress
  | [], s => .ok (.done s)
  | frame :: outer, s =>
      match skipSpace s with
      | [] => .error .truncated
      | c :: rest =>
          if c = ',' then startItem frame outer rest
          else if c = frame.close then finishValue outer rest
          else .error .malformed

theorem finishValue_length_le {frames : List Frame} {s : List Char} {p : Progress}
    (h : finishValue frames s = .ok p) : p.rest.length ≤ s.length := by
  induction frames generalizing s with
  | nil =>
      cases h
      exact Nat.le_refl _
  | cons frame outer ih =>
      unfold finishValue at h
      split at h
      · cases h
      · next hspace =>
          have hlength := Nat.le_of_lt (length_lt_of_skipSpace hspace)
          split at h
          · exact Nat.le_trans (startItem_length_le h) hlength
          · split at h
            · exact Nat.le_trans (ih h) hlength
            · cases h

def openFrame (frame : Frame) (outer : List Frame) (s : List Char) : Except Fault Progress :=
  match skipSpace s with
  | [] => .error .truncated
  | c :: rest =>
      if c = frame.close then finishValue outer rest
      else startItem frame outer (c :: rest)

theorem openFrame_length_le {frame : Frame} {outer : List Frame} {s : List Char} {p : Progress}
    (h : openFrame frame outer s = .ok p) : p.rest.length ≤ s.length := by
  unfold openFrame at h
  split at h
  · cases h
  · next hspace =>
      have hlength := length_lt_of_skipSpace hspace
      split at h
      · exact Nat.le_trans (finishValue_length_le h) (Nat.le_of_lt hlength)
      · exact Nat.le_trans (startItem_length_le h) hlength

def skipScalar (c : Char) (s : List Char) : Except Fault (List Char) :=
  if c = 'n' then readWord ['u', 'l', 'l'] s
  else if c = 't' then readWord ['r', 'u', 'e'] s
  else if c = 'f' then readWord ['a', 'l', 's', 'e'] s
  else if c = '"' then skipString s
  else if c = '-' then skipNumber s
  else if c.isDigit then skipNumber (c :: s)
  else .error .malformed

theorem skipScalar_length_le {c : Char} {s rest : List Char} (h : skipScalar c s = .ok rest) :
    rest.length ≤ s.length := by
  unfold skipScalar at h
  split at h
  · exact readWord_length_le h
  split at h
  · exact readWord_length_le h
  split at h
  · exact readWord_length_le h
  split at h
  · exact Nat.le_of_lt (skipString_length_lt h)
  split at h
  · exact Nat.le_of_lt (skipNumber_length_lt h)
  split at h
  · exact Nat.le_of_lt_succ (skipNumber_length_lt h)
  · cases h

def advance (frames : List Frame) (s : List Char) : Except Fault Progress :=
  match skipSpace s with
  | [] => .error .truncated
  | c :: rest =>
      if c = '[' then openFrame .list frames rest
      else if c = '\x7b' then openFrame .object frames rest
      else
        match skipScalar c rest with
        | .error fault => .error fault
        | .ok rest => finishValue frames rest

theorem advance_length_lt {frames : List Frame} {s : List Char} {p : Progress}
    (h : advance frames s = .ok p) : p.rest.length < s.length := by
  unfold advance at h
  split at h
  · cases h
  · next hspace =>
      have hlength := length_lt_of_skipSpace hspace
      split at h
      · exact Nat.lt_of_le_of_lt (openFrame_length_le h) hlength
      split at h
      · exact Nat.lt_of_le_of_lt (openFrame_length_le h) hlength
      split at h
      · cases h
      · next hscalar =>
          calc
            p.rest.length ≤ _ := finishValue_length_le h
            _ ≤ _ := skipScalar_length_le hscalar
            _ < _ := hlength

def skipValues (frames : List Frame) (s : List Char) : Except Fault (List Char) :=
  match h : advance frames s with
  | .error fault => .error fault
  | .ok (.done rest) => .ok rest
  | .ok (.due frames rest) =>
      have := advance_length_lt h
      skipValues frames rest
termination_by s.length

def skipValue (s : List Char) : Except Fault (List Char) :=
  skipValues [] s

theorem skipValues_length_lt {frames : List Frame} {s rest : List Char}
    (h : skipValues frames s = .ok rest) : rest.length < s.length := by
  fun_induction skipValues frames s with
  | case1 => cases h
  | case2 frames s rest' hstep =>
      cases h
      exact advance_length_lt hstep
  | case3 frames s frames' rest' hstep hlength ih =>
      exact Nat.lt_trans (ih h) hlength

theorem skipValue_length_lt {s rest : List Char} (h : skipValue s = .ok rest) :
    rest.length < s.length :=
  skipValues_length_lt h

end Cache
end TokenNames
