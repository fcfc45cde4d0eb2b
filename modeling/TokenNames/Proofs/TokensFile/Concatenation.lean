import TokenNames.Proofs.TokensFile.Contents

/-!
# Tokens files one after the other

## The later text goes over the earlier one

Two texts make one tokens file when the first one stops where a line ends.  The lines of
the second text are read as if they stood alone: only their numbers go on from those of
the first text, and their names replace the earlier names of the same types.
-/

namespace TokenNames

/-!
# Columns one over the other

An entry that is absent hides nothing, whether the upper column reaches it or not.
-/

/-- A column as long as the longer of two, in which the names of `above` hide those of
`below`. -/
def Column.overlay (below above : Column) : Column :=
  Array.ofFn fun t : Fin (max below.size above.size) =>
    above[t.val]?.join.or below[t.val]?.join

def Table.overlay (below above : Table) : Table where
  literalNames := below.literalNames.overlay above.literalNames
  symbolicNames := below.symbolicNames.overlay above.symbolicNames
  displayNames := below.displayNames.overlay above.displayNames

theorem Column.size_overlay (below above : Column) :
    (below.overlay above).size = max below.size above.size :=
  Array.size_ofFn

theorem Column.join_getElem?_overlay (below above : Column) (t : Nat) :
    (below.overlay above)[t]?.join = above[t]?.join.or below[t]?.join := by
  unfold overlay
  rw [Array.getElem?_ofFn]
  split
  · rfl
  · next hbeyond =>
      have habove : above.size ≤ t :=
        Nat.le_trans (Nat.le_max_right _ _) (Nat.le_of_not_lt hbeyond)
      have hbelow : below.size ≤ t :=
        Nat.le_trans (Nat.le_max_left _ _) (Nat.le_of_not_lt hbeyond)
      rw [Array.getElem?_eq_none habove, Array.getElem?_eq_none hbelow]
      rfl

theorem Table.column_overlay (below above : Table) (kind : Kind) :
    (below.overlay above).column kind =
      (below.column kind).overlay (above.column kind) := by
  cases kind <;> rfl

namespace TokensFile

/-!
# Assignments one after the other

What the assignments of both texts leave behind, made in one go.
-/

theorem Fills.overlay {below above : Column} {as bs : List Assignment}
    (hbelow : Fills below as) (habove : Fills above bs) :
    Fills (below.overlay above) (as ++ bs) where
  size := by
    have has := hbelow.size
    have hbs := habove.size
    rw [Column.size_overlay, greatestType_append]
    omega
  name := by
    intro t
    rw [Column.join_getElem?_overlay, hbelow.name, habove.name,
      lastName_append]

theorem Represents.overlay {below above : Table} {as bs : List Assignment}
    (hbelow : Represents below as) (habove : Represents above bs) :
    Represents (below.overlay above) (as ++ bs) where
  fills := by
    intro kind
    rw [Table.column_overlay, ofKind_append]
    exact (hbelow.fills kind).overlay (habove.fills kind)
  display := by
    show below.displayNames.overlay above.displayNames = #[]
    rw [hbelow.display, habove.display]
    rfl

theorem AssignmentsOf.append {lines lines' : List (List Char)}
    {as bs : List Assignment} (has : AssignmentsOf lines as)
    (hbs : AssignmentsOf lines' bs) :
    AssignmentsOf (lines ++ lines') (as ++ bs) := by
  induction has with
  | nil => exact hbs
  | blank hblank _ ih => exact AssignmentsOf.blank hblank ih
  | assignment hassigns _ ih => exact AssignmentsOf.assignment hassigns ih

/-!
# Texts one after the other

A fault of the first text is met before the second one begins.  A fault of the second text
is the first one of all, as the lines in front of it are good.
-/

section Texts

variable {a b : String}

theorem lines_append (h : Text.EndsLine a.toList) (b : String) :
    Text.lines (a ++ b).toList =
      Text.lines a.toList ++ Text.lines b.toList := by
  rw [String.toList_append, Text.lines_append h]

theorem parse_append_of_error (hend : Text.EndsLine a.toList) {e : ParseError}
    (ha : parse a = .error e) (b : String) : parse (a ++ b) = .error e := by
  rcases first_of_parse ha with
    ⟨before, line, after, hsplit, hbefore, _, hfault, hnumber⟩
  have hlines : Text.lines (a ++ b).toList =
      before ++ line :: (after ++ Text.lines b.toList) := by
    rw [lines_append hend, hsplit, List.append_assoc, List.cons_append]
  rw [parse_of_first hlines hbefore hfault, ← hnumber]

theorem parse_append_of_later_error (hend : Text.EndsLine a.toList)
    {below : Table} {e : ParseError} (ha : parse a = .ok below)
    (hb : parse b = .error e) :
    parse (a ++ b) =
      .error { e with line := e.line + a.toList.count '\n' } := by
  rcases first_of_parse hb with
    ⟨before, line, after, hsplit, hbefore, _, hfault, hnumber⟩
  have hlines : Text.lines (a ++ b).toList =
      (Text.lines a.toList ++ before) ++ line :: after := by
    rw [lines_append hend, hsplit, List.append_assoc]
  -- The lines of the first text are all good, so they are only counted.
  have hgood : forall l, l ∈ Text.lines a.toList ++ before -> Good l := by
    intro l hl
    rcases List.mem_append.mp hl with hearlier | hlater
    · exact good_of_parse ha l hearlier
    · exact hbefore l hlater
  have hcount : (Text.lines a.toList ++ before).length + 1 =
      e.line + a.toList.count '\n' := by
    rw [List.length_append, Text.length_lines hend, hnumber]
    omega
  rw [parse_of_first hlines hgood hfault, hcount]

theorem parse_append_of_ok (hend : Text.EndsLine a.toList)
    {below above : Table} (ha : parse a = .ok below)
    (hb : parse b = .ok above) :
    parse (a ++ b) = .ok (below.overlay above) := by
  rcases parse_eq_ok_iff.mp ha with ⟨as, has, hbelow⟩
  rcases parse_eq_ok_iff.mp hb with ⟨bs, hbs, habove⟩
  rw [parse_eq_ok_iff, lines_append hend]
  exact ⟨as ++ bs, has.append hbs, hbelow.overlay habove⟩

end Texts

/-- Reading two texts as one.  The first fault of all is reported, its line counted from
the start of the first text, and otherwise the table of the second text goes over that of
the first one. -/
theorem parse_append {a : String} (hend : Text.EndsLine a.toList) (b : String) :
    (forall e, parse a = .error e -> parse (a ++ b) = .error e) ∧
    (forall below e, parse a = .ok below -> parse b = .error e ->
      parse (a ++ b) =
        .error { line := e.line + a.toList.count '\n', fault := e.fault }) ∧
    forall below above, parse a = .ok below -> parse b = .ok above ->
      parse (a ++ b) = .ok (below.overlay above) := by
  refine ⟨?_, ?_, ?_⟩
  · intro e ha
    exact parse_append_of_error hend ha b
  · intro below e ha hb
    exact parse_append_of_later_error hend ha hb
  · intro below above ha hb
    exact parse_append_of_ok hend ha hb

theorem parse_append_replacing :
    parse ("A=1\r\n\n'x'=0\nC=3\r\n" ++ "'y'=2\nB=1") = .ok
        { literalNames := #[some "'x'", none, some "'y'"]
          symbolicNames := #[none, some "B", none, some "C"] } ∧
      parse ("A=1\r\n\n'x'=0\nC=3\r\n" ++ "\r\nB=\nD") =
        .error { line := 6, fault := .invalidType "" .empty } ∧
      parse ("A=1\r\n\n=0\n" ++ "D") = .error { line := 3, fault := .emptyName } := by
  have hend : Text.EndsLine "A=1\r\n\n'x'=0\nC=3\r\n".toList :=
    Or.inr (by decide +kernel)
  have hfirst : parse "A=1\r\n\n'x'=0\nC=3\r\n" = .ok
      { literalNames := #[some "'x'"]
        symbolicNames := #[none, some "A", none, some "C"] } := by
    decide +kernel
  refine ⟨?_, ?_, ?_⟩
  · have hsecond : parse "'y'=2\nB=1" = .ok
        { literalNames := #[none, none, some "'y'"]
          symbolicNames := #[none, some "B"] } := by
      decide +kernel
    rw [(parse_append hend _).2.2 _ _ hfirst hsecond]
    decide +kernel
  · have hsecond : parse "\r\nB=\nD" =
        .error { line := 2, fault := .invalidType "" .empty } := by
      decide +kernel
    rw [(parse_append hend _).2.1 _ _ hfirst hsecond]
    decide +kernel
  · have hfault : parse "A=1\r\n\n=0\n" =
        .error { line := 3, fault := .emptyName } := by
      decide +kernel
    exact (parse_append (Or.inr (by decide +kernel)) "D").1 _ hfault

end TokensFile
end TokenNames
