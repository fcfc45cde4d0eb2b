import TokenNames.Proofs.TokensFile.Acceptance
import TokenNames.Proofs.TokensFile.Filling

/-!
# What a tokens file says

## The table of an accepted text

The assignments of a text are those of its lines that are not blank, in order.  An
accepted text has exactly one such list, and its table is the one that the list fills:
reading is determined by the assignments alone.
-/

namespace TokenNames
namespace TokensFile

/-- The assignments of lines, one for each line that is not blank. -/
inductive AssignmentsOf : List (List Char) -> List Assignment -> Prop where
  | nil : AssignmentsOf [] []
  | blank {line : List Char} {lines : List (List Char)}
      {as : List Assignment} :
      Text.trim line = [] -> AssignmentsOf lines as ->
      AssignmentsOf (line :: lines) as
  | assignment {line : List Char} {lines : List (List Char)}
      {a : Assignment} {as : List Assignment} :
      Assigns line a -> AssignmentsOf lines as ->
      AssignmentsOf (line :: lines) (a :: as)

/-- A table holds what assignments of both kinds leave behind. -/
structure Represents (table : Table) (as : List Assignment) : Prop where
  fills : forall kind, Fills (table.column kind) (ofKind kind as)
  display : table.displayNames = #[]

namespace Draft

def column (d : Draft) : Kind -> Column
  | .literal => d.literalNames
  | .symbolic => d.symbolicNames

def Holds (d : Draft) (as : List Assignment) : Prop :=
  forall kind, Fills (d.column kind) (ofKind kind as)

/-!
# The invariant of the loop

An assignment is entered in the column of its kind and leaves the other one alone, so a
draft that holds the assignments so far holds the next one too.
-/

theorem holds_empty : Holds {} [] := by
  intro kind
  cases kind <;> exact fills_nil

theorem column_enter_self (d : Draft) (a : Assignment) :
    (d.enter a).column a.kind =
      (d.column a.kind).place a.type.toNat a.name := by
  unfold enter
  cases a.kind <;> rfl

theorem column_enter_of_ne (d : Draft) (a : Assignment) {kind : Kind}
    (h : a.kind ≠ kind) : (d.enter a).column kind = d.column kind := by
  unfold enter
  cases hkind : a.kind <;> cases kind <;>
    first
    | rfl
    | exact absurd hkind h

theorem column_report (d : Draft) (n : Nat) (a : Assignment) (kind : Kind) :
    (d.report n a).column kind = d.column kind := by
  cases kind <;> rfl

theorem ofKind_of_eq (a : Assignment) : ofKind a.kind [a] = [a] := by
  simp [ofKind]

theorem ofKind_of_ne {a : Assignment} {kind : Kind} (h : a.kind ≠ kind) :
    ofKind kind [a] = [] := by
  simp [ofKind, h]

theorem Holds.enter {d : Draft} {as : List Assignment} (h : d.Holds as)
    (n : Nat) (a : Assignment) :
    ((d.enter a).report n a).Holds (as ++ [a]) := by
  intro kind
  rw [column_report, ofKind_append]
  by_cases hkind : a.kind = kind
  · rw [← hkind, column_enter_self, ofKind_of_eq]
    exact (h a.kind).place a
  · rw [column_enter_of_ne d a hkind, ofKind_of_ne hkind, List.append_nil]
    exact h kind

theorem Holds.readLines {d : Draft} {as : List Assignment} (h : d.Holds as)
    (n : Nat) {lines : List (List Char)}
    (hgood : forall line, line ∈ lines -> Good line) :
    exists bs, AssignmentsOf lines bs ∧
      (d.readLines n lines).1.Holds (as ++ bs) := by
  -- Each line changes the draft and what it holds, so both stay general.
  induction lines generalizing d n as with
  | nil =>
      exists []
      rw [List.append_nil]
      exact ⟨AssignmentsOf.nil, h⟩
  | cons line lines ih =>
      rcases List.forall_mem_cons.mp hgood with ⟨hline, hlater⟩
      rcases good_iff.mp hline with hblank | ⟨a, hassigns⟩
      · rw [readLines_cons_of_blank d n hblank lines]
        rcases ih h (n + 1) hlater with ⟨bs, hbs, hholds⟩
        exact ⟨bs, AssignmentsOf.blank hblank hbs, hholds⟩
      · rw [readLines_cons_of_assigns d n hassigns lines]
        rcases ih (h.enter n a) (n + 1) hlater with ⟨bs, hbs, hholds⟩
        rw [List.append_assoc] at hholds
        exact ⟨a :: bs, AssignmentsOf.assignment hassigns hbs, hholds⟩

theorem Holds.table {d : Draft} {as : List Assignment} (h : d.Holds as) :
    Represents d.table as where
  fills := by
    intro kind
    cases kind
    · exact h .literal
    · exact h .symbolic
  display := rfl

end Draft

/-!
# The assignments of a text

The list of assignments is determined by the lines, and a text has one exactly when it
is accepted.
-/

theorem AssignmentsOf.unique {lines : List (List Char)}
    {as bs : List Assignment} (has : AssignmentsOf lines as)
    (hbs : AssignmentsOf lines bs) : as = bs := by
  induction has generalizing bs with
  | nil =>
      cases hbs
      rfl
  | blank hblank _ ih =>
      cases hbs with
      | blank _ hrest => exact ih hrest
      | assignment hassigns _ =>
          exact absurd hblank (trim_ne_nil_of_assigns hassigns)
  | assignment hassigns _ ih =>
      cases hbs with
      | blank hblank _ =>
          exact absurd hblank (trim_ne_nil_of_assigns hassigns)
      | assignment hassigns' hrest =>
          rw [hassigns.unique hassigns', ih hrest]

theorem AssignmentsOf.exists_line {lines : List (List Char)}
    {as : List Assignment} (h : AssignmentsOf lines as) {a : Assignment}
    (ha : a ∈ as) : exists line, line ∈ lines ∧ Assigns line a := by
  induction h with
  | nil => cases ha
  | blank _ _ ih =>
      rcases ih ha with ⟨line, hline, hassigns⟩
      exact ⟨line, List.mem_cons_of_mem _ hline, hassigns⟩
  | assignment hfirst _ ih =>
      rcases List.mem_cons.mp ha with hhead | hlater
      · rw [hhead]
        exact ⟨_, List.mem_cons_self, hfirst⟩
      · rcases ih hlater with ⟨line, hline, hassigns⟩
        exact ⟨line, List.mem_cons_of_mem _ hline, hassigns⟩

theorem AssignmentsOf.good {lines : List (List Char)}
    {as : List Assignment} (h : AssignmentsOf lines as) :
    forall line, line ∈ lines -> Good line := by
  induction h with
  | nil => exact List.forall_mem_nil Good
  | blank hblank _ ih =>
      exact List.forall_mem_cons.mpr ⟨good_of_blank hblank, ih⟩
  | assignment hassigns _ ih =>
      exact List.forall_mem_cons.mpr ⟨good_of_assigns hassigns, ih⟩

theorem exists_represents_of_good {source : String}
    (h : forall line, line ∈ Text.lines source.toList -> Good line) :
    exists table as, parse source = .ok table ∧
      AssignmentsOf (Text.lines source.toList) as ∧ Represents table as := by
  rcases Draft.holds_empty.readLines 1 h with ⟨as, has, hholds⟩
  exact ⟨_, as, parse_of_good h, has, hholds.table⟩

/-!
# The table of a list

A table is determined by the assignments that fill it, its greatest type included.
-/

theorem Represents.unique {table table' : Table} {as : List Assignment}
    (h : Represents table as) (h' : Represents table' as) :
    table = table' := by
  apply Table.eq_of_columns
  · intro kind
    exact (h.fills kind).unique (h'.fills kind)
  · rw [h.display, h'.display]

theorem parse_eq_ok_iff {source : String} {table : Table} :
    parse source = .ok table ↔
      exists as, AssignmentsOf (Text.lines source.toList) as ∧
        Represents table as := by
  constructor
  · intro h
    rcases exists_represents_of_good (good_of_parse h) with
      ⟨table', as, hparse, has, hrepresents⟩
    rw [h] at hparse
    cases hparse
    exact ⟨as, has, hrepresents⟩
  · intro hfilled
    rcases hfilled with ⟨as, has, hrepresents⟩
    rcases exists_represents_of_good has.good with
      ⟨table', as', hparse, has', hrepresents'⟩
    rw [has.unique has'] at hrepresents
    rw [hparse, hrepresents.unique hrepresents']

theorem Represents.maxTokenType {table : Table} {as : List Assignment}
    (h : Represents table as) :
    table.maxTokenType.toInt = greatestType as := by
  have hliteral : (table.literalNames.size : Int) =
      greatestType (ofKind .literal as) + 1 := (h.fills .literal).size
  have hsymbolic : (table.symbolicNames.size : Int) =
      greatestType (ofKind .symbolic as) + 1 := (h.fills .symbolic).size
  have hboth := greatestType_ofKind as
  have hmax := greatestType_le_max as
  rw [table.toInt_maxTokenType, Table.length, h.display,
    show (#[] : Column).size = 0 from rfl]
  omega

/-!
# Names of assignments
-/

/-- A name that a line can give: not empty, without blanks at its ends and in one line. -/
structure FitsLine (name : String) : Prop where
  ne_empty : name ≠ ""
  trimmed : Text.trim name.toList = name.toList
  one_line : '\n' ∉ name.toList

theorem fitsLine_of_assigns {line : List Char} {a : Assignment}
    (h : Assigns line a) (hline : '\n' ∉ line) : FitsLine a.name := by
  rcases h with ⟨name, value, hsides, hne, hname, _⟩
  rcases hsides with ⟨before, after, hcut, _, hbefore, _⟩
  rw [hname]
  constructor
  · intro hempty
    apply hne
    rw [← String.toList_ofList (l := name), hempty]
    rfl
  · rw [String.toList_ofList, hbefore, Text.trim_trim]
  · rw [String.toList_ofList, hbefore]
    intro hmem
    apply hline
    apply Text.mem_of_mem_trim
    rw [hcut]
    exact List.mem_append_left _ (Text.mem_of_mem_trim hmem)

theorem fitsLine_of_mem {source : String} {as : List Assignment}
    (h : AssignmentsOf (Text.lines source.toList) as) {a : Assignment}
    (ha : a ∈ as) : FitsLine a.name := by
  rcases h.exists_line ha with ⟨line, hline, hassigns⟩
  exact fitsLine_of_assigns hassigns (Text.newline_not_mem_of_mem_lines hline)

theorem isQuoted_iff_kind (a : Assignment) :
    isQuoted a.name = true ↔ a.kind = .literal := by
  unfold Assignment.kind Kind.ofName
  split
  · next h => exact ⟨fun _ => rfl, fun _ => h⟩
  · next h =>
      constructor
      · intro hquoted
        exact absurd hquoted h
      · intro hkind
        cases hkind

theorem exists_assignment_of_entry {table : Table} {as : List Assignment}
    (h : Represents table as) {kind : Kind} {name : String}
    (hentry : some name ∈ table.column kind) :
    exists a, a ∈ as ∧ a.kind = kind ∧ a.name = name := by
  rcases Array.mem_iff_getElem?.mp hentry with ⟨t, ht⟩
  have hname := (h.fills kind).name t
  rw [ht] at hname
  rcases exists_of_lastName hname.symm with ⟨a, ha, _, haname⟩
  rcases mem_ofKind.mp ha with ⟨hmem, hkind⟩
  exact ⟨a, hmem, hkind, haname⟩

/-- The table of an accepted text, column by column, and the names in it. -/
theorem parse_fills_columns {source : String} {table : Table}
    (h : parse source = .ok table) :
    (exists as, AssignmentsOf (Text.lines source.toList) as) ∧
    forall as, AssignmentsOf (Text.lines source.toList) as ->
      (forall kind t,
        (table.column kind)[t]?.join = lastName (ofKind kind as) t) ∧
      (forall kind, ((table.column kind).size : Int) =
        greatestType (ofKind kind as) + 1) ∧
      (forall kind, table.column kind = #[] ∨
        exists name, (table.column kind).back? = some (some name)) ∧
      table.displayNames = #[] ∧
      table.maxTokenType.toInt = greatestType as ∧
      table.maxTokenType.toInt ≤ 65535 ∧
      forall kind name, some name ∈ table.column kind ->
        FitsLine name ∧ (isQuoted name = true ↔ kind = .literal) := by
  rcases parse_eq_ok_iff.mp h with ⟨bs, hbs, hrepresents⟩
  constructor
  · exact ⟨bs, hbs⟩
  · intro as has
    rw [← has.unique hbs] at hrepresents
    refine ⟨?_, ?_, ?_, hrepresents.display, hrepresents.maxTokenType, ?_, ?_⟩
    · intro kind t
      exact (hrepresents.fills kind).name t
    · intro kind
      exact (hrepresents.fills kind).size
    · intro kind
      exact (hrepresents.fills kind).back
    · rw [hrepresents.maxTokenType]
      exact greatestType_le_max as
    · intro kind name hentry
      rcases exists_assignment_of_entry hrepresents hentry with
        ⟨a, ha, hkind, hname⟩
      rw [← hname, ← hkind]
      exact ⟨fitsLine_of_mem has ha, isQuoted_iff_kind a⟩

theorem parse_fills_columns_out_of_order :
    parse "C=2\nA=1\r\n'x'=0\nB=2\n" = .ok
        { literalNames := #[some "'x'"]
          symbolicNames := #[none, some "A", some "B"] } ∧
      exists as,
        AssignmentsOf (Text.lines "C=2\nA=1\r\n'x'=0\nB=2\n".toList) as ∧
          lastName (ofKind .symbolic as) 2 = some "B" ∧
          greatestType as = 2 := by
  have hparse : parse "C=2\nA=1\r\n'x'=0\nB=2\n" = .ok
      { literalNames := #[some "'x'"]
        symbolicNames := #[none, some "A", some "B"] } := by
    decide +kernel
  rcases parse_fills_columns hparse with ⟨⟨as, has⟩, hall⟩
  rcases hall as has with ⟨hname, _, _, _, hmax, _⟩
  refine ⟨hparse, as, has, ?_, ?_⟩
  · rw [← hname .symbolic 2]
    rfl
  · rw [← hmax]
    rfl

end TokensFile
end TokenNames
