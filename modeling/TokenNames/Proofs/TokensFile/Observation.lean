import TokenNames.Proofs.TokensFile.Representation
import TokenNames.Proofs.Vocabulary.Observers

/-!
# A vocabulary and its text

## What a text preserves

A vocabulary and the table of its text are different values: the table has no empty
names, its columns end with a name, and its greatest type can be smaller.  Nothing of this
can be seen.  Names lead to the same types, and a table that shows no names of its own in
messages is shown the same before and after.
-/

namespace TokenNames
namespace TokensFile

namespace Mirrors

/-!
# The type map
-/

theorem namesWithin_eq {v : Names} {table : Table} (h : Mirrors table v)
    {t : TokenType} (hnonneg : 0 ≤ t) :
    table.names.namesWithin t = v.namesWithin t := by
  rw [table.namesWithin_eq_namesAt]
  unfold Names.namesWithin
  split
  · next hle =>
      apply Names.namesAt_congr
      intro kind
      rw [h.within kind t hnonneg hle, proper_proper]
  · next hbeyond =>
      have hnone : forall kind, table.names.name kind t = none := by
        intro kind
        exact h.beyond kind t hnonneg (Int32.not_le.mp hbeyond)
      apply Decidable.byContradiction
      intro hne
      rcases Names.namesAt_ne_nil_iff.mp hne with ⟨kind, name, hname⟩
      rw [hnone kind] at hname
      cases hname

/-!
# Messages

Two tables also agree beyond the greatest types and at the negative types, where neither
has an entry and the end of the input has its name.
-/

section Messages

variable {source table : Table} (h : Mirrors table source.names)
include h

theorem name_eq_proper (kind : Kind) (t : TokenType) :
    table.names.name kind t = proper (source.names.name kind t) := by
  by_cases hnonneg : 0 ≤ t
  · by_cases hle : t ≤ source.maxTokenType
    · exact h.within kind t hnonneg hle
    · have hlt : source.maxTokenType < t := Int32.not_le.mp hle
      rw [h.beyond kind t hnonneg hlt, source.name_of_beyond kind hlt]
      rfl
  · have hneg : t < 0 := Int32.not_le.mp hnonneg
    rw [table.name_of_neg kind hneg, source.name_of_neg kind hneg]
    split <;> rfl

theorem displayName_eq_derivedName (t : TokenType) :
    table.displayName t = source.names.derivedName t := by
  have hempty : forall name, some name ∈ table.displayNames -> name = "" := by
    intro name hname
    rw [h.display] at hname
    simp at hname
  rw [Table.displayName_of_silent hempty]
  apply Names.derivedName_congr
  apply Names.namesAt_congr
  intro kind
  rw [h.name_eq_proper kind t, proper_proper]

theorem displayName_eq
    (hsilent : forall name, some name ∈ source.displayNames -> name = "")
    (t : TokenType) : table.displayName t = source.displayName t := by
  rw [h.displayName_eq_derivedName, Table.displayName_of_silent hsilent]

end Messages

end Mirrors

/-- A vocabulary cannot be told from the table of its text: names lead to the same types,
and if the vocabulary is a table without names of its own for messages, every message is
the same. -/
theorem parse_of_render_observed {v : Names} {text : String}
    (h : render v = .ok text) :
    exists table, parse text = .ok table ∧
      table.names.typeMap = v.typeMap ∧
      (forall names,
        Listing.lookup table.names names = Listing.lookup v names) ∧
      forall source : Table, v = source.names ->
        (forall name, some name ∈ source.displayNames -> name = "") ->
          (forall t, table.displayName t = source.displayName t) ∧
          (forall t, table.vocabulary.elementName t =
            source.vocabulary.elementName t) ∧
          (forall ts, table.vocabulary.formatExpected ts =
            source.vocabulary.formatExpected ts) ∧
          forall ts, Listing.displayNames table.vocabulary ts =
            Listing.displayNames source.vocabulary ts := by
  rcases exists_mirror (writable_of_render h) with ⟨table, hparse, hmirrors⟩
  rw [← (render_eq_ok_iff.mp h).right] at hparse
  have hmap : table.names.typeMap = v.typeMap :=
    Names.typeMap_congr fun _ hnonneg => hmirrors.namesWithin_eq hnonneg
  refine ⟨table, hparse, hmap, Listing.lookup_congr hmap, ?_⟩
  intro source hsource hsilent
  rw [hsource] at hmirrors
  have hdisplay := hmirrors.displayName_eq hsilent
  exact ⟨hdisplay, Vocabulary.elementName_congr hdisplay,
    Vocabulary.formatExpected_congr hdisplay,
    Listing.displayNames_congr hdisplay⟩

/-- Empty names and entries at the end of a column are lost, and the greatest type shrinks
from 3 to 1.  The name of type 3 is its numeral all the same. -/
theorem parse_of_render_observed_trailing :
    render (Table.names
        { literalNames := #[some "", some "'x'"]
          symbolicNames := #[none, some "X", some "", none]
          displayNames := #[none, some ""] }) = .ok "X=1\n'x'=1\n" ∧
      exists table, parse "X=1\n'x'=1\n" = .ok table ∧
        table.displayName 1 = "'x'" ∧ table.displayName 3 = "3" := by
  have htext : render (Table.names
      { literalNames := #[some "", some "'x'"]
        symbolicNames := #[none, some "X", some "", none]
        displayNames := #[none, some ""] }) = .ok "X=1\n'x'=1\n" := by
    decide +kernel
  rcases parse_of_render_observed htext with ⟨table, hparse, _, _, hseen⟩
  rcases hseen _ rfl (by simp) with ⟨hdisplay, _⟩
  refine ⟨htext, table, hparse, ?_, ?_⟩
  · rw [hdisplay]
    decide +kernel
  · rw [hdisplay]
    decide +kernel

end TokensFile
end TokenNames
