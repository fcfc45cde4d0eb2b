import Mathlib.Data.List.DropRight
import TokenNames.Listing
import TokenNames.Proofs.Table.Lookup
import TokenNames.Proofs.TokenType.Numerals

/-!
# Aligned listings

## Offsets of columns

A listing has a line for its header and one for each type, and all of them have their
columns at the same offsets.  Offsets count characters while widths count bytes, so this
rests on the fact that no cell has more characters than the widest cell of its column has
bytes.  Cells are never cut off: a reader who knows the widths gets every cell back, but
for spaces at the end of a cell that is not in the last column.
-/

namespace TokenNames

/-!
# Characters and bytes
-/

theorem length_le_utf8ByteSize_ofList (cs : List Char) :
    cs.length ≤ (String.ofList cs).utf8ByteSize := by
  induction cs with
  | nil => exact Nat.zero_le _
  | cons c cs ih =>
      have hpos := c.utf8Size_pos
      rw [String.ofList_cons, String.utf8ByteSize_append,
        String.utf8ByteSize_singleton, List.length_cons]
      omega

theorem utf8ByteSize_ofList_le (cs : List Char) :
    (String.ofList cs).utf8ByteSize ≤ 4 * cs.length := by
  induction cs with
  | nil => exact Nat.zero_le _
  | cons c cs ih =>
      have hsize := c.utf8Size_le_four
      rw [String.ofList_cons, String.utf8ByteSize_append,
        String.utf8ByteSize_singleton, List.length_cons]
      omega

theorem TokenType.utf8ByteSize_text_le (t : TokenType) :
    t.text.utf8ByteSize ≤ 44 := by
  have hlower := Int32.le_toInt t
  have hupper := Int32.toInt_lt t
  have hlength : (Numeral.chars t.toInt).length ≤ 9 + 2 :=
    Numeral.length_chars_le 9 (by omega)
  have hsize := utf8ByteSize_ofList_le (Numeral.chars t.toInt)
  unfold text Numeral.write
  omega

theorem length_le_utf8ByteSize (text : String) :
    text.length ≤ text.utf8ByteSize := by
  have h := length_le_utf8ByteSize_ofList text.toList
  rw [String.ofList_toList, String.length_toList] at h
  exact h

namespace Listing

def IsWidest (cells : List String) (width : Nat) : Prop :=
  (forall cell, cell ∈ cells -> cell.utf8ByteSize ≤ width) ∧
    exists cell, cell ∈ cells ∧ cell.utf8ByteSize = width

/-- From one offset of a line up to another stands a whole cell, and after it only
spaces. -/
def FieldAt (line : List Char) (start stop : Nat) (cell : String) : Prop :=
  stop ≤ line.length ∧
    exists spaces, (line.take stop).drop start =
      cell.toList ++ List.replicate spaces ' '

/-- A line with the cells of a row, whose columns start where three widths and the two
spaces after each of them lead to. -/
structure Aligned (type literal symbolic : Nat) (row : Row)
    (line : List Char) : Prop where
  typeCell : FieldAt line 0 (type + 2) row.type
  literalCell :
    FieldAt line (type + 2) (type + literal + 4) row.literal
  symbolicCell :
    FieldAt line (type + literal + 4) (type + literal + symbolic + 6)
      row.symbolic
  displayCell :
    line.drop (type + literal + symbolic + 6) = row.display.toList

def withoutSpaces (cs : List Char) : List Char :=
  cs.rdropWhile fun c => c == ' '

def readCells (type literal symbolic : Nat) (line : List Char) :
    List (List Char) :=
  [withoutSpaces (line.take (type + 2)),
    withoutSpaces ((line.take (type + literal + 4)).drop (type + 2)),
    withoutSpaces
      ((line.take (type + literal + symbolic + 6)).drop (type + literal + 4)),
    line.drop (type + literal + symbolic + 6)]

def OneLine (v : Vocabulary) : Prop :=
  forall t, 0 ≤ t -> t ≤ v.maxTokenType ->
    (forall kind name, v.name kind t = some name -> '\n' ∉ name.toList) ∧
      '\n' ∉ (v.displayName t).toList

/-- No name that a listing fills up has more bytes than the formatter takes. -/
def Narrow (v : Vocabulary) : Prop :=
  forall kind t name, 0 ≤ t -> t ≤ v.maxTokenType ->
    v.name kind t = some name -> name.utf8ByteSize ≤ 65535

/-!
# Widths

The width of a column is a maximum that is accumulated over its cells.
-/

section Widths

variable {cell : Row -> String} {rows : List Row}

theorem foldl_max_spec {start w : Nat}
    (h : rows.foldl (fun w row => max w (cell row).utf8ByteSize) start = w) :
    start ≤ w ∧
      (forall row, row ∈ rows -> (cell row).utf8ByteSize ≤ w) ∧
      (w = start ∨
        exists row, row ∈ rows ∧ (cell row).utf8ByteSize = w) := by
  induction rows generalizing start with
  | nil => exact ⟨Nat.le_of_eq h, List.forall_mem_nil _, Or.inl h.symm⟩
  | cons first rows ih =>
      rcases @ih (max start (cell first).utf8ByteSize) h with
        ⟨hstart, hrows, hreached⟩
      refine ⟨by omega, List.forall_mem_cons.mpr ⟨by omega, hrows⟩, ?_⟩
      rcases hreached with hsame | ⟨row, hrow, hwidth⟩
      · rcases Nat.le_total (cell first).utf8ByteSize start with hle | hle
        · exact Or.inl (hsame.trans (Nat.max_eq_left hle))
        · right
          rw [hsame, Nat.max_eq_right hle]
          exact ⟨first, List.mem_cons_self, rfl⟩
      · exact Or.inr ⟨row, List.mem_cons_of_mem _ hrow, hwidth⟩

theorem isWidest_width (hrows : rows ≠ []) :
    IsWidest (rows.map cell) (width cell rows) := by
  rcases @foldl_max_spec cell rows 0 _ rfl with ⟨_, hall, hreached⟩
  constructor
  · intro text htext
    rcases List.mem_map.mp htext with ⟨row, hrow, htext⟩
    rw [← htext]
    exact hall row hrow
  · rcases hreached with hzero | ⟨row, hrow, hwidth⟩
    · rcases List.exists_mem_of_ne_nil rows hrows with ⟨row, hrow⟩
      have hle := hall row hrow
      refine ⟨cell row, List.mem_map_of_mem hrow, ?_⟩
      rw [width]
      omega
    · exact ⟨cell row, List.mem_map_of_mem hrow, hwidth⟩

theorem IsWidest.unique {cells : List String} {width width' : Nat}
    (h : IsWidest cells width) (h' : IsWidest cells width') :
    width = width' := by
  rcases h with ⟨hall, cell, hcell, hwidth⟩
  rcases h' with ⟨hall', cell', hcell', hwidth'⟩
  have hle := hall cell' hcell'
  have hge := hall' cell hcell
  omega

theorem width_le_iff {w : Nat} :
    width cell rows ≤ w ↔
      forall row, row ∈ rows -> (cell row).utf8ByteSize ≤ w := by
  rcases @foldl_max_spec cell rows 0 _ rfl with ⟨_, hall, hreached⟩
  constructor
  · intro hwidth row hrow
    exact Nat.le_trans (hall row hrow) hwidth
  · intro hrows
    rcases hreached with hzero | ⟨row, hrow, hsize⟩
    · rw [width, hzero]
      exact Nat.zero_le w
    · rw [width, ← hsize]
      exact hrows row hrow

theorem length_le_width {row : Row} (h : row ∈ rows) :
    (cell row).length ≤ width cell rows := by
  rcases @foldl_max_spec cell rows 0 _ rfl with ⟨_, hall, _⟩
  exact Nat.le_trans (length_le_utf8ByteSize _) (hall row h)

end Widths

/-!
# Lines

A cell that is filled up to its width is followed by two spaces, and then comes the next
cell.
-/

section Lines

variable {type literal symbolic : Nat} {row : Row} {line : List Char}

theorem toList_fill (width : Nat) (cell : String) :
    (fill width cell).toList =
      cell.toList ++ List.replicate (width - cell.length) ' ' := by
  rw [fill, String.toList_append, String.toList_ofList]

theorem length_fill {width : Nat} {cell : String} (h : cell.length ≤ width) :
    (fill width cell).toList.length = width := by
  rw [toList_fill, List.length_append, List.length_replicate,
    String.length_toList]
  omega

def Row.body (row : Row) (type literal symbolic : Nat) : List Char :=
  (fill type row.type).toList ++ [' ', ' '] ++
    ((fill literal row.literal).toList ++ [' ', ' ']) ++
      ((fill symbolic row.symbolic).toList ++ [' ', ' ']) ++
        row.display.toList

theorem Row.toList_line (row : Row) (type literal symbolic : Nat) :
    (row.line type literal symbolic).toList =
      row.body type literal symbolic ++ ['\n'] := by
  have hgap : "  ".toList = [' ', ' '] := rfl
  have hfeed : "\n".toList = ['\n'] := rfl
  simp only [Row.line, Row.body, String.toList_append, hgap, hfeed,
    List.append_assoc]

theorem fieldAt_of_append (before : List Char) {after : List Char}
    {width start stop : Nat} {cell : String} (h : cell.length ≤ width)
    (hline : line =
      before ++ ((fill width cell).toList ++ [' ', ' ']) ++ after)
    (hstart : before.length = start) (hstop : start + width + 2 = stop) :
    FieldAt line start stop cell := by
  have hlength : (before ++ ((fill width cell).toList ++ [' ', ' '])).length =
      stop := by
    rw [List.length_append, List.length_append, length_fill h, hstart,
      ← hstop]
    rfl
  constructor
  · rw [hline, List.length_append, hlength]
    exact Nat.le_add_right _ _
  · exists width - cell.length + 2
    rw [hline, ← hlength, List.take_left, ← hstart, List.drop_left,
      toList_fill, List.append_assoc, List.replicate_add]
    rfl

theorem length_field {width : Nat} {cell : String}
    (h : cell.length ≤ width) :
    ((fill width cell).toList ++ [' ', ' ']).length = width + 2 := by
  rw [List.length_append, length_fill h]
  rfl

theorem aligned_body (htype : row.type.length ≤ type)
    (hliteral : row.literal.length ≤ literal)
    (hsymbolic : row.symbolic.length ≤ symbolic) :
    Aligned type literal symbolic row (row.body type literal symbolic) where
  typeCell := by
    apply fieldAt_of_append [] htype
    · unfold Row.body
      rw [List.nil_append, List.append_assoc, List.append_assoc]
    · rfl
    · rw [Nat.zero_add]
  literalCell := by
    apply fieldAt_of_append _ hliteral
    · unfold Row.body
      rw [List.append_assoc _ _ row.display.toList]
    · exact length_field htype
    · omega
  symbolicCell := by
    apply fieldAt_of_append _ hsymbolic rfl
    · rw [List.length_append, length_field htype, length_field hliteral]
      omega
    · omega
  displayCell := by
    apply List.drop_left'
    rw [List.length_append, List.length_append, length_field htype,
      length_field hliteral, length_field hsymbolic]
    omega

theorem withoutSpaces_append (cs : List Char) (spaces : Nat) :
    withoutSpaces (cs ++ List.replicate spaces ' ') = withoutSpaces cs := by
  induction spaces with
  | zero => rw [List.replicate_zero, List.append_nil]
  | succ spaces ih =>
      rw [List.replicate_succ', ← List.append_assoc, withoutSpaces,
        List.rdropWhile_concat, if_pos (beq_self_eq_true ' ')]
      exact ih

theorem FieldAt.withoutSpaces_eq {start stop : Nat} {cell : String}
    (h : FieldAt line start stop cell) :
    withoutSpaces ((line.take stop).drop start) =
      withoutSpaces cell.toList := by
  rcases h with ⟨_, spaces, hfield⟩
  rw [hfield, withoutSpaces_append]

theorem Aligned.readCells_eq (h : Aligned type literal symbolic row line) :
    readCells type literal symbolic line =
      [withoutSpaces row.type.toList, withoutSpaces row.literal.toList,
        withoutSpaces row.symbolic.toList, row.display.toList] := by
  have htype := h.typeCell.withoutSpaces_eq
  rw [List.drop_zero] at htype
  rw [readCells, htype, h.literalCell.withoutSpaces_eq,
    h.symbolicCell.withoutSpaces_eq, h.displayCell]

theorem newline_not_mem_fill {cell : String} (h : '\n' ∉ cell.toList)
    (width : Nat) : '\n' ∉ (fill width cell).toList := by
  rw [toList_fill, List.mem_append, not_or]
  refine ⟨h, ?_⟩
  intro hmem
  exact absurd (List.eq_of_mem_replicate hmem) (by decide)

theorem newline_not_mem_body (htype : '\n' ∉ row.type.toList)
    (hliteral : '\n' ∉ row.literal.toList)
    (hsymbolic : '\n' ∉ row.symbolic.toList)
    (hdisplay : '\n' ∉ row.display.toList) :
    '\n' ∉ row.body type literal symbolic := by
  have hgap : '\n' ∉ [' ', ' '] := by decide
  simp only [Row.body, List.mem_append, not_or]
  exact ⟨⟨⟨⟨newline_not_mem_fill htype _, hgap⟩,
    newline_not_mem_fill hliteral _, hgap⟩,
    newline_not_mem_fill hsymbolic _, hgap⟩, hdisplay⟩

end Lines

/-!
# The whole listing

The rows come in the order of their types, the header first.
-/

section Table

variable {v : Vocabulary} {t : TokenType}

def lines (v : Vocabulary) : List (List Char) :=
  (rows v).map fun row => row.body (width Row.type (rows v))
    (width Row.literal (rows v)) (width Row.symbolic (rows v))

theorem toList_table (v : Vocabulary) :
    (table v).toList = (lines v).flatMap fun line => line ++ ['\n'] := by
  rw [table, lines, String.toList_join, List.flatMap_map, List.flatMap_map]
  apply List.flatMap_congr
  intro row _
  exact row.toList_line _ _ _

theorem length_lines (v : Vocabulary) :
    (lines v).length = (v.maxTokenType.toInt + 1).toNat + 1 := by
  rw [lines, List.length_map, rows, List.length_cons, List.length_map,
    Names.types, TokenType.upTo, List.length_map, List.length_range]

theorem getElem?_rows (hnonneg : 0 ≤ t) (hle : t ≤ v.maxTokenType) :
    (rows v)[t.toInt.toNat + 1]? = some (rowOf v t) := by
  have hindex := TokenType.natCast_index hnonneg
  rw [Int32.le_iff_toInt_le] at hle
  rw [rows, List.getElem?_cons_succ, List.getElem?_map, Names.types,
    TokenType.upTo, List.getElem?_map, List.getElem?_range (by omega),
    Option.map_some, Option.map_some, TokenType.ofNat_index hnonneg]

theorem isWidest_column (v : Vocabulary) (cell : Row -> String) :
    IsWidest (cell header :: v.types.map fun t => cell (rowOf v t))
      (width cell (rows v)) := by
  have hwidest := @isWidest_width cell (rows v) (List.cons_ne_nil _ _)
  rw [rows, List.map_cons, List.map_map] at hwidest
  exact hwidest

theorem aligned_of_mem {row : Row} (h : row ∈ rows v) :
    Aligned (width Row.type (rows v)) (width Row.literal (rows v))
      (width Row.symbolic (rows v)) row
      (row.body (width Row.type (rows v)) (width Row.literal (rows v))
        (width Row.symbolic (rows v))) :=
  aligned_body (length_le_width h) (length_le_width h) (length_le_width h)

theorem width_rows_le_iff (v : Vocabulary) (cell : Row -> String) {w : Nat}
    (hheader : (cell header).utf8ByteSize ≤ w) :
    width cell (rows v) ≤ w ↔
      forall t, 0 ≤ t -> t ≤ v.maxTokenType ->
        (cell (rowOf v t)).utf8ByteSize ≤ w := by
  rw [width_le_iff, rows, List.forall_mem_cons, List.forall_mem_map]
  constructor
  · intro h t hnonneg hle
    exact h.right t (TokenType.mem_upTo.mpr ⟨hnonneg, hle⟩)
  · intro h
    refine ⟨hheader, ?_⟩
    intro t ht
    rcases TokenType.mem_upTo.mp ht with ⟨hnonneg, hle⟩
    exact h t hnonneg hle

theorem utf8ByteSize_getD_le_iff {name : Option String} {w : Nat}
    (hdash : 1 ≤ w) :
    (name.getD "-").utf8ByteSize ≤ w ↔
      forall n, name = some n -> n.utf8ByteSize ≤ w := by
  cases name with
  | none => simp [show "-".utf8ByteSize = 1 from rfl, hdash]
  | some n => simp

/-- The formatter can write a listing exactly when no name in it is too long. -/
theorem fits_iff : fits v = true ↔ Narrow v := by
  have htype : width Row.type (rows v) ≤ maxWidth := by
    apply (width_rows_le_iff v Row.type (by decide)).mpr
    intro t _ _
    exact Nat.le_trans t.utf8ByteSize_text_le (by decide)
  have hliteral := width_rows_le_iff v Row.literal (w := maxWidth) (by decide)
  have hsymbolic :=
    width_rows_le_iff v Row.symbolic (w := maxWidth) (by decide)
  simp only [rowOf, utf8ByteSize_getD_le_iff (w := maxWidth) (by decide)]
    at hliteral hsymbolic
  unfold fits Narrow
  simp only [List.all_cons, List.all_nil, Bool.and_true, Bool.and_eq_true,
    decide_eq_true_eq, hliteral, hsymbolic]
  constructor
  · intro h kind t name hnonneg hle hname
    cases kind with
    | literal => exact h.2.1 t hnonneg hle name hname
    | symbolic => exact h.2.2 t hnonneg hle name hname
  · intro h
    refine ⟨htype, ?_, ?_⟩
    · intro t hnonneg hle name hname
      exact h .literal t name hnonneg hle hname
    · intro t hnonneg hle name hname
      exact h .symbolic t name hnonneg hle hname

theorem newline_not_mem_getD {name : Option String}
    (h : forall n, name = some n -> '\n' ∉ n.toList) :
    '\n' ∉ (name.getD "-").toList := by
  cases name with
  | none => decide
  | some n => exact h n rfl

theorem newline_not_mem_of_mem (h : OneLine v) {row : Row}
    (hrow : row ∈ rows v) (type literal symbolic : Nat) :
    '\n' ∉ row.body type literal symbolic := by
  rcases List.mem_cons.mp hrow with hheader | hlater
  · rw [hheader]
    apply newline_not_mem_body <;> decide
  · rcases List.mem_map.mp hlater with ⟨t, ht, hrow⟩
    rcases TokenType.mem_upTo.mp ht with ⟨hnonneg, hle⟩
    rcases h t hnonneg hle with ⟨hnames, hdisplay⟩
    rw [← hrow]
    exact newline_not_mem_body
      (TokenType.not_mem_text (by decide) (by decide) t)
      (newline_not_mem_getD (hnames .literal))
      (newline_not_mem_getD (hnames .symbolic)) hdisplay

end Table

/-- A listing is a header and one line for each type, in the order of the types.  With the
widths of the first three columns in bytes, each line has its columns at the offsets that
the widths lead to, counted in characters; the cells are whole and can be read off there. -/
theorem table_is_aligned {v : Vocabulary} (h : OneLine v) :
    exists (lines : List (List Char)) (type literal symbolic : Nat),
      ((table v).toList = lines.flatMap (fun line => line ++ ['\n']) ∧
        (forall line, line ∈ lines -> '\n' ∉ line) ∧
        lines.length = (v.maxTokenType.toInt + 1).toNat + 1) ∧
      (IsWidest ("TYPE" :: v.types.map TokenType.text) type ∧
        IsWidest ("LITERAL" ::
          v.types.map fun t => (v.literalName t).getD "-") literal ∧
        IsWidest ("SYMBOLIC" ::
          v.types.map fun t => (v.symbolicName t).getD "-") symbolic) ∧
      (exists line, lines[0]? = some line ∧
        Aligned type literal symbolic
          { type := "TYPE", literal := "LITERAL", symbolic := "SYMBOLIC",
            display := "DISPLAY" } line) ∧
      (forall t, 0 ≤ t -> t ≤ v.maxTokenType ->
        exists line, lines[t.toInt.toNat + 1]? = some line ∧
          Aligned type literal symbolic
            { type := t.text
              literal := (v.literalName t).getD "-"
              symbolic := (v.symbolicName t).getD "-"
              display := v.displayName t } line) ∧
      forall row line, Aligned type literal symbolic row line ->
        readCells type literal symbolic line =
          [withoutSpaces row.type.toList, withoutSpaces row.literal.toList,
            withoutSpaces row.symbolic.toList, row.display.toList] := by
  refine ⟨lines v, width Row.type (rows v), width Row.literal (rows v),
    width Row.symbolic (rows v), ⟨toList_table v, ?_, length_lines v⟩,
    ⟨?_, ?_, ?_⟩, ?_, ?_, ?_⟩
  · intro line hline
    rcases List.mem_map.mp hline with ⟨row, hrow, hbody⟩
    rw [← hbody]
    exact newline_not_mem_of_mem h hrow _ _ _
  · exact isWidest_column v Row.type
  · exact isWidest_column v Row.literal
  · exact isWidest_column v Row.symbolic
  · exact ⟨_, rfl, aligned_of_mem List.mem_cons_self⟩
  · intro t hnonneg hle
    have hrow := getElem?_rows hnonneg hle
    refine ⟨_, ?_, aligned_of_mem (List.mem_of_getElem? hrow)⟩
    rw [lines, List.getElem?_map, hrow]
    rfl
  · intro row line haligned
    exact haligned.readCells_eq

theorem table_is_aligned_beyond_ascii :
    OneLine (Table.vocabulary
        { literalNames := #[some "'→→'"]
          symbolicNames := #[none, some "ID "] }) ∧
      exists (lines : List (List Char)) (line : List Char),
        (table (Table.vocabulary
          { literalNames := #[some "'→→'"]
            symbolicNames := #[none, some "ID "] })).toList =
          lines.flatMap (fun line => line ++ ['\n']) ∧
        lines.length = 3 ∧ lines[1]? = some line ∧
        readCells 4 8 8 line =
          ["0".toList, "'→→'".toList, "-".toList, "'→→'".toList] := by
  have hone : OneLine (Table.vocabulary
      { literalNames := #[some "'→→'"]
        symbolicNames := #[none, some "ID "] }) := by
    intro t hnonneg hle
    have hmem : t ∈ [0, 1] := TokenType.mem_upTo.mpr ⟨hnonneg, hle⟩
    rcases List.mem_cons.mp hmem with hfirst | hsecond
    · rw [hfirst]
      refine ⟨?_, by decide +kernel⟩
      intro kind name hname
      cases kind <;> cases hname
      decide
    · rw [List.mem_singleton.mp hsecond]
      refine ⟨?_, by decide +kernel⟩
      intro kind name hname
      cases kind <;> cases hname
      decide
  rcases table_is_aligned hone with
    ⟨lines, type, literal, symbolic, ⟨htable, _, hlength⟩,
      ⟨htype, hliteral, hsymbolic⟩, _, hlines, hread⟩
  rcases hlines 0 (by decide) (by decide) with ⟨line, hline, haligned⟩
  have hfour : type = 4 :=
    htype.unique ⟨by decide +kernel, by decide +kernel⟩
  have height : literal = 8 :=
    hliteral.unique ⟨by decide +kernel, by decide +kernel⟩
  have height' : symbolic = 8 :=
    hsymbolic.unique ⟨by decide +kernel, by decide +kernel⟩
  have hcells := hread _ line haligned
  rw [hfour, height, height'] at hcells
  refine ⟨hone, lines, line, htable, hlength, hline, ?_⟩
  rw [hcells]
  decide +kernel

end Listing
end TokenNames
