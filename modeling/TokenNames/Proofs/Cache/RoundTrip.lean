import TokenNames.Proofs.Cache.Documents
import TokenNames.Proofs.Table.Lookup

/-!
# Reading what was cached

## A table and its document

The document of a table reads back as the table.  Each part that is written is text of
the grammar for the part that it was written for, without any space around it, and so the
document is an object with the three columns of the table.
-/

namespace TokenNames
namespace Cache

/-!
# Lists of names
-/

theorem entryText_writeEntry (entry : Option String) :
    EntryText (writeEntry entry) entry := by
  cases entry with
  | none => exact EntryText.null
  | some name =>
      have hentry := EntryText.name (denotes_flatMap_escape name.toList)
      rw [String.ofList_toList] at hentry
      exact hentry

theorem separated_writeEntry (entry : Option String)
    (entries : List (Option String)) :
    Separated EntryText
      (writeEntry entry ++ entries.flatMap fun e => ',' :: writeEntry e)
      (entry :: entries) := by
  induction entries generalizing entry with
  | nil =>
      exact Separated.last gap_nil (entryText_writeEntry entry) gap_nil
  | cons next entries ih =>
      exact Separated.more gap_nil (entryText_writeEntry entry) gap_nil
        (ih next)

theorem namesText_writeEntries (entries : List (Option String)) :
    NamesText (writeEntries entries) entries := by
  cases entries with
  | nil => exact Bracketed.empty gap_nil
  | cons entry entries =>
      exact Bracketed.items (separated_writeEntry entry entries)

/-!
# The object

Each list stands under the key of its column, and no key comes twice.
-/

theorem memberText_writeField (field : Field) (names : Column) :
    MemberText (writeField field names) (.column field names.toList) := by
  have hmember := MemberText.mk (denotes_flatMap_escape field.key.toList)
    gap_nil gap_nil
    (ValueText.column (namesText_writeEntries names.toList))
  simpa [writeField, writeString] using hmember

def membersOf (table : Table) : List Member :=
  [.column .literal table.literalNames.toList,
    .column .symbolic table.symbolicNames.toList,
    .column .display table.displayNames.toList]

theorem bracketed_writeTable (table : Table) :
    Bracketed .object MemberText (writeTable table) (membersOf table) := by
  have hmembers : Separated MemberText _ (membersOf table) :=
    Separated.more gap_nil (memberText_writeField _ _) gap_nil
      (Separated.more gap_nil (memberText_writeField _ _) gap_nil
        (Separated.last gap_nil (memberText_writeField _ _) gap_nil))
  have hobject : Bracketed .object MemberText _ (membersOf table) :=
    Bracketed.items hmembers
  simpa [writeTable, Frame.start, Frame.close] using hobject

/-!
# Documents
-/

def listsOf (table : Table) : Lists where
  literal := some table.literalNames.toList
  symbolic := some table.symbolicNames.toList
  display := some table.displayNames.toList

theorem readLists_writeTable (table : Table) (rest : List Char) :
    readLists (writeTable table ++ rest) = .ok (listsOf table, rest) :=
  readLists_of_object gap_nil (bracketed_writeTable table) rest

theorem table?_listsOf (table : Table) :
    (listsOf table).table? = some table := by
  apply congrArg some
  apply Table.eq_of_columns
  · intro kind
    cases kind <;> exact Array.toArray_toList
  · exact Array.toArray_toList

theorem provides_membersOf (table : Table) :
    Provides (columnsOf (membersOf table)) table.literalNames.toList
      table.symbolicNames.toList table.displayNames.toList where
  distinct := by
    have hfields : (columnsOf (membersOf table)).map Prod.fst =
        [.literal, .symbolic, .display] := rfl
    rw [hfields]
    decide
  literal_mem := List.mem_cons_self
  symbolic_mem := List.mem_cons_of_mem _ List.mem_cons_self
  display_mem :=
    Or.inl (List.mem_cons_of_mem _ (List.mem_cons_of_mem _ List.mem_cons_self))

theorem document_write (table : Table) :
    Document (write table) table.literalNames.toList
      table.symbolicNames.toList table.displayNames.toList := by
  refine ⟨[], writeTable table, [], gap_nil,
    ListsText.object (bracketed_writeTable table) (provides_membersOf table),
    gap_nil, ?_⟩
  rw [write, String.toList_ofList, List.append_nil, List.nil_append]

theorem tableOf_toList (table : Table) :
    tableOf table.literalNames.toList table.symbolicNames.toList
      table.displayNames.toList = table :=
  Option.some_inj.mp (table?_listsOf table)

/-- A table reads back from its document: all three columns, with their absent and empty
entries, and the greatest type, although the document does not mention it. -/
theorem read_of_write (table : Table) : read (write table) = .ok table := by
  have hlists := readLists_writeTable table []
  rw [List.append_nil] at hlists
  rw [read, write, String.toList_ofList, readTable]
  simp [hlists, table?_listsOf, skipSpace]

end Cache
end TokenNames
