import Mathlib.Data.List.Nodup
import TokenNames.Proofs.Cache.Forms

/-!
# The text of a document

## Documents and their lists

A document holds the lists of a table as the members of an object or as the items of a
list.  The two forms, the order of the members, the space between the parts and the
members that belong to no column all disappear in reading: what is read is the table of
the lists, and its greatest type follows from them.
-/

namespace TokenNames
namespace Cache

/-- The columns of an object are those of a table: none comes twice, and only the names
for messages can be missing. -/
structure Provides (columns : List (Field × List (Option String)))
    (literal symbolic display : List (Option String)) : Prop where
  distinct : (columns.map Prod.fst).Nodup
  literal_mem : (.literal, literal) ∈ columns
  symbolic_mem : (.symbolic, symbolic) ∈ columns
  display_mem : (.display, display) ∈ columns ∨
    (display = [] ∧ forall names, (.display, names) ∉ columns)

inductive ListsText : List Char -> List (Option String) ->
    List (Option String) -> List (Option String) -> Prop where
  | object {text : List Char} {ms : List Member}
      {literal symbolic display : List (Option String)} :
      Bracketed .object MemberText text ms ->
      Provides (columnsOf ms) literal symbolic display ->
      ListsText text literal symbolic display
  | pair {text : List Char} {literal symbolic : List (Option String)} :
      Bracketed .list NamesText text [literal, symbolic] ->
      ListsText text literal symbolic []
  | triple {text : List Char}
      {literal symbolic display : List (Option String)} :
      Bracketed .list NamesText text [literal, symbolic, display] ->
      ListsText text literal symbolic display

def Alone (Item : List Char -> Prop) (document : String) : Prop :=
  exists before text after, Gap before ∧ Item text ∧ Gap after ∧
    document.toList = before ++ (text ++ after)

/-- A document that holds the lists of a table. -/
def Document (document : String)
    (literal symbolic display : List (Option String)) : Prop :=
  Alone (fun text => ListsText text literal symbolic display) document

def ObjectDocument (document : String) (ms : List Member) : Prop :=
  Alone (fun text => Bracketed .object MemberText text ms) document

def tableOf (literal symbolic display : List (Option String)) : Table where
  literalNames := literal.toArray
  symbolicNames := symbolic.toArray
  displayNames := display.toArray

/-!
# Columns of an object
-/

theorem table?_eq_some_iff {lists : Lists} {table : Table} :
    lists.table? = some table ↔
      exists literal symbolic, lists.literal = some literal ∧
        lists.symbolic = some symbolic ∧
        table = tableOf literal symbolic (lists.display.getD []) := by
  unfold Lists.table?
  split
  · next literal symbolic hliteral hsymbolic =>
      rw [Option.some_inj]
      constructor
      · intro h
        exact ⟨literal, symbolic, hliteral, hsymbolic, h.symm⟩
      · intro h
        rcases h with ⟨literal', symbolic', hliteral', hsymbolic', h⟩
        rw [hliteral] at hliteral'
        rw [hsymbolic] at hsymbolic'
        cases hliteral'
        cases hsymbolic'
        exact h.symm
  · next hnone =>
      constructor
      · intro h
        cases h
      · intro h
        rcases h with ⟨literal, symbolic, hliteral, hsymbolic, _⟩
        exact absurd hsymbolic (hnone literal symbolic hliteral)

namespace Provides

variable {columns columns' : List (Field × List (Option String))}
  {literal symbolic display : List (Option String)}

theorem perm (h : Provides columns literal symbolic display)
    (hperm : columns.Perm columns') :
    Provides columns' literal symbolic display where
  distinct := (hperm.map Prod.fst).nodup_iff.mp h.distinct
  literal_mem := hperm.mem_iff.mp h.literal_mem
  symbolic_mem := hperm.mem_iff.mp h.symbolic_mem
  display_mem := by
    rcases h.display_mem with hdisplay | ⟨hnil, hnone⟩
    · exact Or.inl (hperm.mem_iff.mp hdisplay)
    · refine Or.inr ⟨hnil, ?_⟩
      intro names hnames
      exact hnone names (hperm.mem_iff.mpr hnames)

theorem eq_of_mem (h : Provides columns literal symbolic display)
    {field : Field} {names names' : List (Option String)}
    (hnames : (field, names) ∈ columns) (hnames' : (field, names') ∈ columns) :
    names = names' :=
  congrArg Prod.snd
    (List.inj_on_of_nodup_map h.distinct hnames hnames' rfl)

theorem exists_gathers (h : Provides columns literal symbolic display) :
    exists lists, Lists.Gathers {} columns lists ∧
      lists.table? = some (tableOf literal symbolic display) := by
  -- The order in which the columns were gathered is gone, so membership is all to show.
  have hgathers : forall lists : Lists,
      (forall field names, lists.get? field = some names ↔
        (field, names) ∈ columns) -> Lists.Gathers {} columns lists := by
    intro lists hiff
    refine ⟨?_, h.distinct, ?_⟩
    · intro c _
      cases c.1 <;> rfl
    · intro field names
      rw [hiff]
      cases field <;> simp [Lists.get?]
  have hunique : forall {field names names'}, (field, names) ∈ columns ->
      (some names = some names' ↔ (field, names') ∈ columns) := by
    intro field names names' hnames
    constructor
    · intro heq
      cases heq
      exact hnames
    · intro hnames'
      rw [h.eq_of_mem hnames hnames']
  rcases h.display_mem with hdisplay | ⟨hnil, hnone⟩
  · refine ⟨
      { literal := some literal
        symbolic := some symbolic
        display := some display }, hgathers _ ?_, rfl⟩
    intro field names
    cases field with
    | literal => exact hunique h.literal_mem
    | symbolic => exact hunique h.symbolic_mem
    | display => exact hunique hdisplay
  · refine ⟨
      { literal := some literal
        symbolic := some symbolic }, hgathers _ ?_, by rw [hnil]; rfl⟩
    intro field names
    cases field with
    | literal => exact hunique h.literal_mem
    | symbolic => exact hunique h.symbolic_mem
    | display => simp [Lists.get?, hnone]

end Provides

theorem provides_of_gathers
    {columns : List (Field × List (Option String))} {lists : Lists}
    {table : Table} (h : Lists.Gathers {} columns lists)
    (htable : lists.table? = some table) :
    exists literal symbolic display,
      Provides columns literal symbolic display ∧
        table = tableOf literal symbolic display := by
  have hmem : forall field names,
      lists.get? field = some names ↔ (field, names) ∈ columns := by
    intro field names
    rw [h.get?_iff]
    cases field <;> simp [Lists.get?]
  rcases table?_eq_some_iff.mp htable with
    ⟨literal, symbolic, hliteral, hsymbolic, heq⟩
  refine ⟨literal, symbolic, _, ⟨h.distinct, (hmem _ _).mp hliteral,
    (hmem _ _).mp hsymbolic, ?_⟩, heq⟩
  cases hdisplay : lists.display with
  | some display => exact Or.inl ((hmem .display display).mp hdisplay)
  | none =>
      refine Or.inr ⟨rfl, ?_⟩
      intro names hnames
      have hget : lists.display = some names := (hmem _ _).mpr hnames
      rw [hdisplay] at hget
      cases hget

/-!
# Reading
-/

theorem readTable_eq_ok_iff {s : List Char} {table : Table} :
    readTable s = .ok table ↔
      exists lists rest, readLists s = .ok (lists, rest) ∧
        lists.table? = some table ∧ Gap rest := by
  constructor
  · intro h
    unfold readTable at h
    split at h
    · cases h
    · next lists rest hlists =>
        split at h
        · cases h
        · next htable =>
            split at h
            · next hspace =>
                cases h
                exact ⟨lists, rest, hlists, htable,
                  skipSpace_eq_nil_iff.mp hspace⟩
            · cases h
  · intro h
    rcases h with ⟨lists, rest, hlists, htable, hgap⟩
    rw [readTable, hlists]
    simp only [htable, skipSpace_eq_nil_iff.mpr hgap, if_true]

theorem ObjectDocument.read_eq_ok_iff {document : String} {ms : List Member}
    (h : ObjectDocument document ms) {table : Table} :
    read document = .ok table ↔
      exists literal symbolic display,
        Provides (columnsOf ms) literal symbolic display ∧
          table = tableOf literal symbolic display := by
  rcases h with ⟨before, text, after, hbefore, htext, hafter, hdocument⟩
  have hlists := readLists_of_object hbefore htext after
  rw [read, hdocument, readTable_eq_ok_iff]
  constructor
  · intro htable
    rcases htable with ⟨lists, rest, hread, htable, _⟩
    rw [hlists, kept_eq_ok_iff] at hread
    exact provides_of_gathers (Lists.foldlM_keep?_iff.mp hread.left) htable
  · intro hprovides
    rcases hprovides with ⟨literal, symbolic, display, hprovides, htable⟩
    rcases hprovides.exists_gathers with ⟨lists, hgathers, hlists'⟩
    rw [htable]
    refine ⟨lists, after, ?_, hlists', hafter⟩
    rw [hlists, kept_eq_ok_iff]
    exact ⟨Lists.foldlM_keep?_iff.mpr hgathers, rfl⟩

theorem read_of_list {document : String}
    {items : List (List (Option String))} {lists : Lists} {table : Table}
    (h : Alone (fun text => Bracketed .list NamesText text items) document)
    (horder : InOrder items lists) (htable : lists.table? = some table) :
    read document = .ok table := by
  rcases h with ⟨before, text, after, hbefore, htext, hafter, hdocument⟩
  rw [read, hdocument, readTable_eq_ok_iff]
  exact ⟨lists, after, readLists_of_list hbefore htext horder after, htable,
    hafter⟩

theorem Document.read {document : String}
    {literal symbolic display : List (Option String)}
    (h : Document document literal symbolic display) :
    read document = .ok (tableOf literal symbolic display) := by
  rcases h with ⟨before, text, after, hbefore, htext, hafter, hdocument⟩
  cases htext with
  | object hobject hprovides =>
      have halone : ObjectDocument document _ :=
        ⟨before, text, after, hbefore, hobject, hafter, hdocument⟩
      exact halone.read_eq_ok_iff.mpr ⟨_, _, _, hprovides, rfl⟩
  | pair hlist =>
      exact read_of_list
        ⟨before, text, after, hbefore, hlist, hafter, hdocument⟩
        InOrder.pair rfl
  | triple hlist =>
      exact read_of_list
        ⟨before, text, after, hbefore, hlist, hafter, hdocument⟩
        InOrder.triple rfl

theorem Document.unique {document : String}
    {literal symbolic display : List (Option String)}
    {literal' symbolic' display' : List (Option String)}
    (h : Document document literal symbolic display)
    (h' : Document document literal' symbolic' display') :
    literal = literal' ∧ symbolic = symbolic' ∧ display = display' := by
  have heq := h.read
  rw [h'.read, Except.ok.injEq] at heq
  have hliteral := congrArg Table.literalNames heq
  have hsymbolic := congrArg Table.symbolicNames heq
  have hdisplay := congrArg Table.displayNames heq
  exact ⟨(List.toArray_inj hliteral).symm, (List.toArray_inj hsymbolic).symm,
    (List.toArray_inj hdisplay).symm⟩

theorem exists_document_of_read {document : String} {table : Table}
    (h : read document = .ok table) :
    exists literal symbolic display,
      Document document literal symbolic display ∧
        table = tableOf literal symbolic display := by
  rw [Cache.read, readTable_eq_ok_iff] at h
  rcases h with ⟨lists, rest, hlists, htable, hrest⟩
  rcases text_of_readLists hlists with
    ⟨before, text, hbefore, hdocument, hobject | hlist⟩
  · rcases hobject with ⟨ms, htext, hms⟩
    rcases provides_of_gathers (Lists.foldlM_keep?_iff.mp hms) htable with
      ⟨literal, symbolic, display, hprovides, heq⟩
    exact ⟨literal, symbolic, display, ⟨before, text, rest, hbefore,
      ListsText.object htext hprovides, hrest, hdocument⟩, heq⟩
  · rcases hlist with ⟨items, htext, horder⟩
    cases horder with
    | @pair literal symbolic =>
        cases htable
        exact ⟨literal, symbolic, [], ⟨before, text, rest, hbefore,
          ListsText.pair htext, hrest, hdocument⟩, rfl⟩
    | @triple literal symbolic display =>
        cases htable
        exact ⟨literal, symbolic, display, ⟨before, text, rest, hbefore,
          ListsText.triple htext, hrest, hdocument⟩, rfl⟩

/-- Reading gives the table of the lists that a document holds, and a document holds one
list of each kind.  The greatest type follows from the lengths of the lists, all documents
with the same lists give the same table, and in an object neither the order of the members
matters nor what stands under other keys. -/
theorem read_determined_by_lists :
    (forall document table, read document = .ok table ↔
      exists literal symbolic display,
        Document document literal symbolic display ∧
          table = tableOf literal symbolic display) ∧
    (forall literal symbolic display,
      (tableOf literal symbolic display).maxTokenType =
        TokenType.lastOf
          (max (max literal.length symbolic.length) display.length)) ∧
    (forall document literal symbolic display literal' symbolic' display',
      Document document literal symbolic display ->
        Document document literal' symbolic' display' ->
          literal = literal' ∧ symbolic = symbolic' ∧ display = display') ∧
    (forall document document' literal symbolic display,
      Document document literal symbolic display ->
        Document document' literal symbolic display ->
          read document = read document') ∧
    forall document document' ms ms', ObjectDocument document ms ->
      ObjectDocument document' ms' -> (columnsOf ms).Perm (columnsOf ms') ->
        forall table, read document = .ok table ->
          read document' = .ok table := by
  refine ⟨?_, ?_, ?_, ?_, ?_⟩
  · intro document table
    constructor
    · exact exists_document_of_read
    · intro h
      rcases h with ⟨literal, symbolic, display, hdocument, htable⟩
      rw [htable]
      exact hdocument.read
  · intro literal symbolic display
    rw [Table.maxTokenType_eq]
    rfl
  · intro _ _ _ _ _ _ _ h h'
    exact h.unique h'
  · intro document document' literal symbolic display h h'
    rw [h.read, h'.read]
  · intro document document' ms ms' h h' hperm table htable
    rcases h.read_eq_ok_iff.mp htable with
      ⟨literal, symbolic, display, hprovides, heq⟩
    exact h'.read_eq_ok_iff.mpr
      ⟨literal, symbolic, display, hprovides.perm hperm, heq⟩

theorem read_determined_by_lists_reordered :
    Document "[[],[\"A\"]]" [] [some "A"] [] ∧
    Document "\x7b\"literal_names\":[],\"symbolic_names\":[\"A\"]\x7d"
      [] [some "A"] [] ∧
    ObjectDocument "\x7b\"literal_names\":[],\"symbolic_names\":[\"A\"]\x7d"
      [.column .literal [], .column .symbolic [some "A"]] ∧
    ObjectDocument
      "\x7b\"symbolic_names\":[\"A\"],\"max_token_type\":[ 7],\"literal_names\":[]\x7d"
      [.column .symbolic [some "A"], .other "max_token_type".toList,
        .column .literal []] ∧
    read "[[],[\"A\"]]" = .ok (tableOf [] [some "A"] []) ∧
    read "\x7b\"literal_names\":[],\"symbolic_names\":[\"A\"]\x7d" =
      .ok (tableOf [] [some "A"] []) ∧
    read
      "\x7b\"symbolic_names\":[\"A\"],\"max_token_type\":[ 7],\"literal_names\":[]\x7d" =
      .ok (tableOf [] [some "A"] []) := by
  rcases read_determined_by_lists with ⟨haccepted, _, _, hsame, hmembers⟩
  have hempty : NamesText _ [] := Bracketed.empty gap_nil
  have hsingle : NamesText _ [some "A"] :=
    Bracketed.items (Separated.last gap_nil
      (EntryText.name (denotes_flatMap_escape ['A'])) gap_nil)
  have hliteral : MemberText _ (.column .literal []) :=
    MemberText.mk (denotes_flatMap_escape Field.literal.key.toList)
      gap_nil gap_nil (ValueText.column hempty)
  have hsymbolic : MemberText _ (.column .symbolic [some "A"]) :=
    MemberText.mk (denotes_flatMap_escape Field.symbolic.key.toList)
      gap_nil gap_nil (ValueText.column hsingle)
  have hdigit : Whole ['7'] :=
    Whole.digits ⟨by simp, by simp⟩ (by simp)
  have hseven : Json .value ['7'] :=
    Json.scalar (Scalar.number
      (Unsigned.parts hdigit Fraction.absent Exponent.absent))
  have hblank : Gap [' '] := by simp [Gap, isSpace]
  have hkey : forall field : Field,
      "max_token_type".toList ≠ field.key.toList := by
    intro field
    cases field <;> decide +kernel
  have hother : MemberText _ (.other "max_token_type".toList) :=
    MemberText.mk (denotes_flatMap_escape "max_token_type".toList)
      gap_nil gap_nil (ValueText.other
        hkey (Json.nested (Json.last Label.list hblank hseven gap_nil)))
  have hlist : Document "[[],[\"A\"]]" [] [some "A"] [] :=
    ⟨[], _, [], gap_nil,
      ListsText.pair (Bracketed.items
        (Separated.more gap_nil hempty gap_nil
          (Separated.last gap_nil hsingle gap_nil))),
      gap_nil, by decide +kernel⟩
  have hobject : ObjectDocument
      "\x7b\"literal_names\":[],\"symbolic_names\":[\"A\"]\x7d"
      [.column .literal [], .column .symbolic [some "A"]] :=
    ⟨[], _, [], gap_nil,
      Bracketed.items (Separated.more gap_nil hliteral gap_nil
        (Separated.last gap_nil hsymbolic gap_nil)),
      gap_nil, by decide +kernel⟩
  have hobject' : ObjectDocument
      "\x7b\"symbolic_names\":[\"A\"],\"max_token_type\":[ 7],\"literal_names\":[]\x7d"
      [.column .symbolic [some "A"], .other "max_token_type".toList,
        .column .literal []] :=
    ⟨[], _, [], gap_nil,
      Bracketed.items (Separated.more gap_nil hsymbolic gap_nil
        (Separated.more gap_nil hother gap_nil
          (Separated.last gap_nil hliteral gap_nil))),
      gap_nil, by decide +kernel⟩
  have hperm : (columnsOf [.column .literal [], .column .symbolic [some "A"]]).Perm
      (columnsOf [.column .symbolic [some "A"], .other "max_token_type".toList,
        .column .literal []]) :=
    List.Perm.swap _ _ _
  have hdocument : Document
      "\x7b\"literal_names\":[],\"symbolic_names\":[\"A\"]\x7d"
      [] [some "A"] [] := by
    rcases hobject with ⟨before, text, after, hbefore, htext, hafter, htoList⟩
    refine ⟨before, text, after, hbefore, ListsText.object htext ?_, hafter,
      htoList⟩
    exact {
      distinct := by decide
      literal_mem := by decide
      symbolic_mem := by decide
      display_mem := Or.inr ⟨rfl, by simp [columnsOf, Member.column?]⟩ }
  have hread := (haccepted "[[],[\"A\"]]" (tableOf [] [some "A"] [])).mpr
    ⟨_, _, _, hlist, rfl⟩
  have hread' := (hsame _ _ _ _ _ hlist hdocument).symm.trans hread
  exact ⟨hlist, hdocument, hobject, hobject', hread, hread',
    hmembers _ _ _ _ hobject hobject' hperm _ hread'⟩

end Cache
end TokenNames
