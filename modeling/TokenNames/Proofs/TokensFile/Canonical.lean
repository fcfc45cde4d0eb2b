import Mathlib.Data.List.Pairwise
import Mathlib.Data.List.Sort
import TokenNames.Proofs.Numeral.Shortest
import TokenNames.Proofs.TokensFile.Representation

/-!
# Canonical texts

## Texts that rewriting leaves alone

Many texts give the same table, and rendering the table gives one of them.  That text is
canonical: it has no blanks around its names, no signs and no leading zeros, its symbolic
names come before its literal names, and the types of each kind ascend, so that no name is
assigned in vain.  These properties of the spelling alone say which texts rendering can
produce, and which texts come back unchanged when they are read and rendered.
-/

namespace TokenNames
namespace TokensFile

/-- Lines that assign names of one kind to ascending types, all of them above a bound. -/
inductive Block (kind : Kind) : Int -> List Char -> Prop where
  | nil {bound : Int} : Block kind bound []
  | line {bound : Int} {a : Assignment} {numeral rest : List Char} :
      bound < a.type.toNat -> a.kind = kind -> FitsLine a.name ->
      '\r' ∉ a.name.toList -> Numeral.IsShortest numeral a.type.toNat ->
      Block kind a.type.toNat rest ->
      Block kind bound (a.name.toList ++ '=' :: (numeral ++ '\n' :: rest))

/-- A text with a block for the symbolic names and a block for the literal names after
it. -/
def Canonical (text : String) : Prop :=
  exists symbolics literals, text.toList = symbolics ++ literals ∧
    Block .symbolic (-1) symbolics ∧ Block .literal (-1) literals

/-!
# The order of entries

The lines of a canonical text come in a strict order, so there is only one way to arrange
the entries that they give.
-/

/-- The order in which the names of a vocabulary are rendered. -/
def Entry.Before (e f : Entry) : Prop :=
  (e.kind = .symbolic ∧ f.kind = .literal) ∨
    (e.kind = f.kind ∧ e.type < f.type)

theorem Entry.Before.type_ne {e f : Entry} (h : e.Before f)
    (hkind : e.kind = f.kind) : e.type ≠ f.type := by
  intro htype
  rcases h with ⟨hsymbolic, hliteral⟩ | ⟨_, hlt⟩
  · rw [hsymbolic, hliteral] at hkind
    cases hkind
  · rw [htype] at hlt
    exact Int32.lt_irrefl hlt

theorem Entry.Before.asymm {e f : Entry} (h : e.Before f) : ¬ f.Before e := by
  intro h'
  rcases h with ⟨hsymbolic, hliteral⟩ | ⟨hkind, hlt⟩
  · rcases h' with ⟨hsymbolic', _⟩ | ⟨hkind', _⟩
    · rw [hliteral] at hsymbolic'
      cases hsymbolic'
    · rw [hsymbolic, hliteral] at hkind'
      cases hkind'
  · rcases h' with ⟨hsymbolic', hliteral'⟩ | ⟨_, hlt'⟩
    · rw [hsymbolic', hliteral'] at hkind
      cases hkind
    · exact Int32.lt_asymm hlt hlt'

instance : Std.Irrefl Entry.Before where
  irrefl _ h := h.type_ne rfl rfl

instance : Std.Antisymm Entry.Before where
  antisymm _ _ h h' := absurd h' h.asymm

theorem eq_of_pairwise_before {es : List Entry}
    (hbefore : es.Pairwise Entry.Before) {e f : Entry} (he : e ∈ es)
    (hf : f ∈ es) (hkind : e.kind = f.kind) (htype : e.type = f.type) :
    e = f := by
  have hsymm : Std.Symm fun e f : Entry =>
      e.kind = f.kind -> e.type ≠ f.type :=
    { symm := fun _ _ h hkind htype => h hkind.symm htype.symm }
  have hdistinct : es.Pairwise fun e f =>
      e.kind = f.kind -> e.type ≠ f.type :=
    hbefore.imp Entry.Before.type_ne
  apply Decidable.byContradiction
  intro hne
  exact hdistinct.forall he hf hne hkind htype

/-!
# Entries of one kind

Each block of a canonical text corresponds to entries of one kind by ascending type.
-/

/-- Entries of one kind by ascending type, all of them above a bound. -/
structure Ascends (kind : Kind) (bound : Int) (es : List Entry) : Prop where
  kind_eq : forall e, e ∈ es -> e.kind = kind
  above : forall e, e ∈ es -> bound < e.type.toInt
  pairwise : es.Pairwise fun e f => e.type < f.type

theorem ascends_nil (kind : Kind) (bound : Int) : Ascends kind bound [] where
  kind_eq := by simp
  above := by simp
  pairwise := List.Pairwise.nil

theorem ascends_cons_iff {kind : Kind} {bound : Int} {e : Entry}
    {es : List Entry} :
    Ascends kind bound (e :: es) ↔
      e.kind = kind ∧ bound < e.type.toInt ∧ Ascends kind e.type.toInt es := by
  constructor
  · intro h
    rcases List.forall_mem_cons.mp h.kind_eq with ⟨hkind, hkinds⟩
    rcases List.forall_mem_cons.mp h.above with ⟨habove, _⟩
    rcases List.pairwise_cons.mp h.pairwise with ⟨hfirst, hpairwise⟩
    refine ⟨hkind, habove, hkinds, ?_, hpairwise⟩
    intro f hf
    exact Int32.lt_iff_toInt_lt.mp (hfirst f hf)
  · intro h
    rcases h with ⟨hkind, habove, hrest⟩
    constructor
    · exact List.forall_mem_cons.mpr ⟨hkind, hrest.kind_eq⟩
    · refine List.forall_mem_cons.mpr ⟨habove, ?_⟩
      intro f hf
      exact Int.lt_trans habove (hrest.above f hf)
    · refine List.pairwise_cons.mpr ⟨?_, hrest.pairwise⟩
      intro f hf
      exact Int32.lt_iff_toInt_lt.mpr (hrest.above f hf)

theorem Ascends.pairwise_before {kind : Kind} {bound : Int} {es : List Entry}
    (h : Ascends kind bound es) : es.Pairwise Entry.Before := by
  refine List.Pairwise.imp_of_mem ?_ h.pairwise
  intro e f he hf hlt
  right
  rw [h.kind_eq e he, h.kind_eq f hf]
  exact ⟨rfl, hlt⟩

theorem pairwise_before_append {bound bound' : Int}
    {symbolics literals : List Entry}
    (hsymbolics : Ascends .symbolic bound symbolics)
    (hliterals : Ascends .literal bound' literals) :
    (symbolics ++ literals).Pairwise Entry.Before := by
  apply List.pairwise_append.mpr
  refine ⟨hsymbolics.pairwise_before, hliterals.pairwise_before, ?_⟩
  intro e he f hf
  left
  exact ⟨hsymbolics.kind_eq e he, hliterals.kind_eq f hf⟩

theorem ascends_entriesOf (v : Names) (kind : Kind) :
    Ascends kind (-1) (entriesOf v kind) where
  kind_eq := by
    intro e he
    exact (mem_entriesOf_iff.mp he).left
  above := by
    intro e he
    rcases mem_entriesOf_iff.mp he with ⟨_, ⟨hnonneg, _⟩, _⟩
    rw [TokenType.nonneg_iff] at hnonneg
    exact Int.lt_of_lt_of_le (by simp) hnonneg
  pairwise := by
    apply List.Pairwise.filterMap _ _ (TokenType.pairwise_upTo _)
    intro t u hlt e he f hf
    rcases Option.map_eq_some_iff.mp he with ⟨_, _, he⟩
    rcases Option.map_eq_some_iff.mp hf with ⟨_, _, hf⟩
    rw [← he, ← hf]
    exact hlt

theorem pairwise_before_entries (v : Names) :
    (entries v).Pairwise Entry.Before :=
  pairwise_before_append (ascends_entriesOf v .symbolic)
    (ascends_entriesOf v .literal)

/-!
# Blocks of lines

A block is the text of ascending entries, each of which can be rendered.
-/

structure Renderable (e : Entry) : Prop extends Writable e where
  no_return : '\r' ∉ e.name.toList

theorem Renderable.accepted {e : Entry} (h : Renderable e) :
    refusal? e = none :=
  h.toSettled.refusal?_eq_none_iff.mpr h.no_return

theorem renderable_of_render {v : Names} {text : String}
    (h : render v = .ok text) : forall e, e ∈ entries v -> Renderable e := by
  intro e he
  have hwritable := writable_of_render h e he
  have haccepted := (render_eq_ok_iff.mp h).left e he
  exact ⟨hwritable, hwritable.toSettled.refusal?_eq_none_iff.mp haccepted⟩

theorem Writable.isShortest_chars {e : Entry} (h : Writable e) :
    Numeral.IsShortest (Numeral.chars e.type.toInt)
      e.assignment.type.toNat := by
  rw [← h.type_eq]
  exact Numeral.isShortest_digits _

theorem Ascends.block {kind : Kind} {bound : Int} {es : List Entry}
    (h : Ascends kind bound es)
    (hrenderable : forall e, e ∈ es -> Renderable e) :
    Block kind bound (textOf es).toList := by
  induction es generalizing bound with
  | nil => exact Block.nil
  | cons e es ih =>
      rcases ascends_cons_iff.mp h with ⟨hkind, habove, hrest⟩
      rcases List.forall_mem_cons.mp hrenderable with ⟨he, hes⟩
      have hblock := ih hrest hes
      rw [← he.type_eq] at habove hblock
      rw [toList_textOf_cons, Entry.body, List.append_assoc, List.cons_append]
      apply Block.line habove _ he.fitsLine he.no_return
        he.isShortest_chars hblock
      exact he.kind_assignment.trans hkind

def Assignment.entry (a : Assignment) : Entry where
  kind := a.kind
  type := Int32.ofNat a.type.toNat
  name := a.name

theorem Assignment.toInt_entry (a : Assignment) :
    a.entry.type.toInt = a.type.toNat :=
  a.toInt_type

theorem renderable_entry {a : Assignment} (hfits : FitsLine a.name)
    (hreturn : '\r' ∉ a.name.toList) : Renderable a.entry where
  fits := by
    have hsmall : a.type.toNat < 65536 := a.type.toNat_lt
    rw [a.toInt_entry]
    omega
  fitsLine := hfits
  kind_eq := rfl
  nonneg := by
    rw [a.toInt_entry]
    exact Int.natCast_nonneg _
  no_return := hreturn

theorem Block.exists_entries {kind : Kind} {bound : Int} {text : List Char}
    (h : Block kind bound text) :
    exists es, text = (textOf es).toList ∧ Ascends kind bound es ∧
      forall e, e ∈ es -> Renderable e := by
  induction h with
  | nil => exact ⟨[], rfl, ascends_nil _ _, List.forall_mem_nil _⟩
  | @line _ a _ _ habove hkind hfits hreturn hnumeral _ ih =>
      rcases ih with ⟨es, hrest, hascends, hrenderable⟩
      rw [← a.toInt_entry] at habove hascends
      refine ⟨a.entry :: es, ?_, ascends_cons_iff.mpr ⟨hkind, habove, hascends⟩,
        List.forall_mem_cons.mpr ⟨renderable_entry hfits hreturn, hrenderable⟩⟩
      rw [toList_textOf_cons, Entry.body, a.toInt_entry,
        Numeral.isShortest_iff.mp hnumeral, hrest, List.append_assoc]
      rfl

/-!
# Canonical texts and entries
-/

theorem canonical_of_render {v : Names} {text : String}
    (h : render v = .ok text) : Canonical text := by
  have hrenderable := renderable_of_render h
  refine ⟨(textOf (entriesOf v .symbolic)).toList,
    (textOf (entriesOf v .literal)).toList, ?_, ?_, ?_⟩
  · rw [(render_eq_ok_iff.mp h).right, entries, textOf_append,
      String.toList_append]
  · apply (ascends_entriesOf v .symbolic).block
    intro e he
    exact hrenderable e (List.mem_append_left _ he)
  · apply (ascends_entriesOf v .literal).block
    intro e he
    exact hrenderable e (List.mem_append_right _ he)

theorem Canonical.exists_entries {text : String} (h : Canonical text) :
    exists es, text = textOf es ∧ es.Pairwise Entry.Before ∧
      forall e, e ∈ es -> Renderable e := by
  rcases h with ⟨symbolics, literals, htext, hsymbolics, hliterals⟩
  rcases hsymbolics.exists_entries with ⟨es, hes, hascends, hrenderable⟩
  rcases hliterals.exists_entries with ⟨fs, hfs, hascends', hrenderable'⟩
  refine ⟨es ++ fs, ?_, pairwise_before_append hascends hascends',
    List.forall_mem_append.mpr ⟨hrenderable, hrenderable'⟩⟩
  apply String.toList_inj.mp
  rw [htext, hes, hfs, textOf_append, String.toList_append]

/-!
# The table of a canonical text

No two entries of a canonical text have the same kind and type, so each of them is the
last one for its slot and the table keeps them all.
-/

section Represents

variable {table : Table} {es : List Entry}

theorem exists_entry_of_lastName {kind : Kind} {t : Nat} {name : String}
    (hwritable : forall e, e ∈ es -> Writable e)
    (h : lastName (ofKind kind (es.map Entry.assignment)) t = some name) :
    exists e, e ∈ es ∧ e.kind = kind ∧ e.type.toInt.toNat = t ∧
      e.name = name := by
  rcases exists_of_lastName h with ⟨a, ha, htype, hname⟩
  rcases mem_ofKind.mp ha with ⟨hmem, hkind⟩
  rcases List.mem_map.mp hmem with ⟨e, he, hassignment⟩
  rw [← hassignment] at htype hname hkind
  rw [(hwritable e he).index_assignment] at htype
  rw [(hwritable e he).kind_assignment] at hkind
  exact ⟨e, he, hkind, htype, hname⟩

theorem mem_of_mem_entries
    (hwritable : forall e, e ∈ es -> Writable e)
    (hrepresents : Represents table (es.map Entry.assignment)) {e : Entry}
    (he : e ∈ entries table.names) : e ∈ es := by
  have hlast := (hrepresents.fills e.kind).name e.type.toInt.toNat
  rw [entry_of_mem he] at hlast
  rcases exists_entry_of_lastName hwritable hlast.symm with
    ⟨f, hf, hkind, hindex, hname⟩
  rcases mem_entries_iff.mp he with ⟨⟨hnonneg, _⟩, _⟩
  have htype := TokenType.eq_of_index (hwritable f hf).nonneg_type hnonneg hindex
  cases e
  cases f
  cases hkind
  cases htype
  cases hname
  exact hf

theorem mem_entries_of_mem
    (hwritable : forall e, e ∈ es -> Writable e)
    (hbefore : es.Pairwise Entry.Before)
    (hrepresents : Represents table (es.map Entry.assignment)) {e : Entry}
    (he : e ∈ es) : e ∈ entries table.names := by
  have hnonneg := (hwritable e he).nonneg_type
  have hmem : e.assignment ∈ ofKind e.kind (es.map Entry.assignment) :=
    mem_ofKind.mpr ⟨List.mem_map_of_mem he, (hwritable e he).kind_assignment⟩
  rcases Option.ne_none_iff_exists'.mp (lastName_ne_none hmem) with
    ⟨name, hlast⟩
  rw [(hwritable e he).index_assignment] at hlast
  rcases exists_entry_of_lastName hwritable hlast with
    ⟨f, hf, hkind, hindex, hname⟩
  have htype := TokenType.eq_of_index (hwritable f hf).nonneg_type hnonneg hindex
  have hsame := eq_of_pairwise_before hbefore hf he hkind htype
  apply mem_entries_of_name hnonneg (hwritable e he).fitsLine.ne_empty
  rw [table.name_of_nonneg e.kind hnonneg, (hrepresents.fills e.kind).name,
    hlast, ← hname, hsame]

theorem entries_eq_of_represents
    (hwritable : forall e, e ∈ es -> Writable e)
    (hbefore : es.Pairwise Entry.Before)
    (hrepresents : Represents table (es.map Entry.assignment)) :
    entries table.names = es := by
  -- Both lists are in the order of lines, so it is enough that they have the same members.
  apply List.Pairwise.eq_of_mem_iff (pairwise_before_entries _) hbefore
  intro e
  constructor
  · exact mem_of_mem_entries hwritable hrepresents
  · exact mem_entries_of_mem hwritable hbefore hrepresents

end Represents

theorem Canonical.unchanged {text : String} (h : Canonical text) :
    exists table, parse text = .ok table ∧
      render table.names = .ok text := by
  rcases h.exists_entries with ⟨es, htext, hbefore, hrenderable⟩
  have hwritable : forall e, e ∈ es -> Writable e :=
    fun e he => (hrenderable e he).toWritable
  rcases exists_table_of_textOf hwritable with ⟨table, hparse, hrepresents⟩
  have hentries := entries_eq_of_represents hwritable hbefore hrepresents
  rw [htext]
  refine ⟨table, hparse, render_eq_ok_iff.mpr ⟨?_, ?_⟩⟩
  · intro e he
    rw [hentries] at he
    exact (hrenderable e he).accepted
  · rw [hentries]

/-- The canonical texts are those that reading and rendering leave unchanged, and also
those that rendering gives for any vocabulary at all. -/
theorem canonical_iff (text : String) :
    ((exists table, parse text = .ok table ∧
        render table.names = .ok text) ↔ Canonical text) ∧
    ((exists v, render v = .ok text) ↔ Canonical text) := by
  constructor
  · constructor
    · intro hunchanged
      rcases hunchanged with ⟨table, _, hrender⟩
      exact canonical_of_render hrender
    · exact Canonical.unchanged
  · constructor
    · intro hrendered
      rcases hrendered with ⟨v, hrender⟩
      exact canonical_of_render hrender
    · intro hcanonical
      rcases hcanonical.unchanged with ⟨table, _, hrender⟩
      exact ⟨table.names, hrender⟩

end TokensFile
end TokenNames
