/-!
# Lines

## Splitting a text into lines

A line feed ends a line, and a carriage return right before it belongs to the end of
the line.  A text that ends with a line feed has no further line after it, so the empty
text has no lines, and a missing line feed at the end of the last line makes no
difference.  Any other carriage return stays in its line.
-/

namespace TokenNames
namespace Text

def consPiece (c : Char) (ps : List (List Char)) : List (List Char) :=
  if c = '\n' then [c] :: ps
  else match ps with
    | [] => [[c]]
    | p :: rest => (c :: p) :: rest

/-- The pieces of a text.  Each piece but the last one ends with a line feed. -/
def pieces (cs : List Char) : List (List Char) :=
  cs.foldr consPiece []

def dropLineEnd (piece : List Char) : List Char :=
  match piece.reverse with
  | '\n' :: '\r' :: rest => rest.reverse
  | '\n' :: rest => rest.reverse
  | _ => piece

def lines (cs : List Char) : List (List Char) :=
  (pieces cs).map dropLineEnd

theorem pieces_nil : pieces [] = [] := rfl

theorem pieces_cons (c : Char) (cs : List Char) :
    pieces (c :: cs) = consPiece c (pieces cs) := rfl

/-!
# Cutting a line in two

The last occurrence of a character separates the parts of a line: the part after it
does not contain that character, while the part before it can.
-/

/-- Cuts a text at the last occurrence of `mark` and drops that occurrence. -/
def cutAtLast (mark : Char) (cs : List Char) : Option (List Char × List Char) :=
  match cs.reverse.dropWhile (· != mark) with
  | [] => none
  | _ :: before => some (before.reverse, (cs.reverse.takeWhile (· != mark)).reverse)

theorem dropWhile_ne_append {mark : Char} {after : List Char} (h : mark ∉ after)
    (before : List Char) :
    (after ++ mark :: before).dropWhile (· != mark) = mark :: before := by
  induction after with
  | nil => simp
  | cons c after ih =>
      rw [List.mem_cons, not_or] at h
      rw [List.cons_append, List.dropWhile_cons, if_pos (by simpa using Ne.symm h.1), ih h.2]

theorem takeWhile_ne_append {mark : Char} {after : List Char} (h : mark ∉ after)
    (before : List Char) :
    (after ++ mark :: before).takeWhile (· != mark) = after := by
  induction after with
  | nil => simp
  | cons c after ih =>
      rw [List.mem_cons, not_or] at h
      rw [List.cons_append, List.takeWhile_cons, if_pos (by simpa using Ne.symm h.1), ih h.2]

theorem dropWhile_ne_eq_nil {mark : Char} {cs : List Char} (h : mark ∉ cs) :
    cs.dropWhile (· != mark) = [] := by
  induction cs with
  | nil => rfl
  | cons c cs ih =>
      rw [List.mem_cons, not_or] at h
      rw [List.dropWhile_cons, if_pos (by simpa using Ne.symm h.1), ih h.2]

theorem cutAtLast_append {mark : Char} {after : List Char} (h : mark ∉ after)
    (before : List Char) :
    cutAtLast mark (before ++ mark :: after) = some (before, after) := by
  have reversed : (before ++ mark :: after).reverse = after.reverse ++ mark :: before.reverse := by
    simp
  have free : mark ∉ after.reverse := by simpa using h
  unfold cutAtLast
  rw [reversed, dropWhile_ne_append free, takeWhile_ne_append free]
  simp

theorem cutAtLast_eq_none {mark : Char} {cs : List Char} (h : mark ∉ cs) :
    cutAtLast mark cs = none := by
  have free : mark ∉ cs.reverse := by simpa using h
  unfold cutAtLast
  rw [dropWhile_ne_eq_nil free]

end Text
end TokenNames
