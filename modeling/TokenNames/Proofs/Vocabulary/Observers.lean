import Mathlib.Data.List.Basic
import TokenNames.Expected
import TokenNames.Listing
import TokenNames.Proofs.Table.Lookup
import TokenNames.Proofs.Vocabulary.Naming

/-!
# What can be seen of a vocabulary

## Observers and the names they look at

A vocabulary is seen through its type map and through the names in messages.  Neither
looks at everything: an empty name counts for nothing, and the type map looks at no type
beyond the greatest one.  Vocabularies that agree on what is looked at are seen the same.
-/

namespace TokenNames

namespace Names

/-!
# The type map

The type map is built over the types up to the greatest one.  Going further would add
nothing, so two vocabularies with different greatest types can be compared over the
greater of both ranges.
-/

def namesWithin (v : Names) (t : TokenType) : List String :=
  if t ≤ v.maxTokenType then v.namesAt t else []

theorem namedTypes_eq_of_le {v : Names} {max : TokenType}
    (h : v.maxTokenType ≤ max) :
    v.namedTypes = (TokenType.upTo max).flatMap fun t =>
      (v.namesWithin t).map fun name => (name, t) := by
  rcases TokenType.upTo_append h with ⟨rest, hrange, hbeyond⟩
  have hrest : (rest.flatMap fun t =>
      (v.namesWithin t).map fun name => (name, t)) = [] := by
    rw [List.flatMap_eq_nil_iff]
    intro t ht
    rw [namesWithin, if_neg (Int32.not_le.mpr (hbeyond t ht)), List.map_nil]
  rw [hrange, List.flatMap_append, hrest, List.append_nil]
  apply List.flatMap_congr
  intro t ht
  rw [namesWithin, if_pos (TokenType.mem_upTo.mp ht).right]

theorem namedTypes_congr {v w : Names}
    (h : forall t, 0 ≤ t -> w.namesWithin t = v.namesWithin t) :
    w.namedTypes = v.namedTypes := by
  have hcommon : exists max, w.maxTokenType ≤ max ∧ v.maxTokenType ≤ max := by
    rcases Int32.le_total w.maxTokenType v.maxTokenType with hle | hle
    · exact ⟨_, hle, Int32.le_refl _⟩
    · exact ⟨_, Int32.le_refl _, hle⟩
  rcases hcommon with ⟨max, hw, hv⟩
  rw [namedTypes_eq_of_le hw, namedTypes_eq_of_le hv]
  apply List.flatMap_congr
  intro t ht
  rw [h t (TokenType.mem_upTo.mp ht).left]

theorem typeMap_congr {v w : Names}
    (h : forall t, 0 ≤ t -> w.namesWithin t = v.namesWithin t) :
    w.typeMap = v.typeMap := by
  rw [typeMap, typeMap, namedTypes_congr h]

end Names

theorem Listing.lookup_congr {v w : Names} (h : w.typeMap = v.typeMap)
    (names : List String) : lookup w names = lookup v names := by
  rw [lookup, lookup, h]

/-!
# Messages

Messages look at the name that a vocabulary shows for each type, and at nothing else.
-/

section Messages

variable {v w : Vocabulary}

theorem Vocabulary.elementName_congr
    (h : forall t, w.displayName t = v.displayName t) (t : TokenType) :
    w.elementName t = v.elementName t := by
  rw [elementName, elementName, h]

theorem Vocabulary.formatExpected_congr
    (h : forall t, w.displayName t = v.displayName t)
    (expected : List TokenType) :
    w.formatExpected expected = v.formatExpected expected := by
  have hnames : w.elementName = v.elementName :=
    funext (elementName_congr h)
  rw [formatExpected, formatExpected, hnames]

theorem Listing.displayNames_congr
    (h : forall t, w.displayName t = v.displayName t)
    (types : List TokenType) :
    displayNames w types = displayNames v types := by
  simp only [displayNames, h]

end Messages

/-!
# Tables

A table whose third column says nothing shows the derived name of every type.
-/

namespace Table

theorem namesAt_of_beyond (table : Table) {t : TokenType}
    (h : table.maxTokenType < t) : table.names.namesAt t = [] := by
  have hliteral : table.names.literalName t = none :=
    table.name_of_beyond .literal h
  have hsymbolic : table.names.symbolicName t = none :=
    table.name_of_beyond .symbolic h
  rw [Names.namesAt, hliteral, hsymbolic]
  rfl

theorem namesWithin_eq_namesAt (table : Table) (t : TokenType) :
    table.names.namesWithin t = table.names.namesAt t := by
  unfold Names.namesWithin
  split
  · rfl
  · next hbeyond =>
      exact (table.namesAt_of_beyond (Int32.not_le.mp hbeyond)).symm

theorem displayName_of_silent {table : Table}
    (h : forall name, some name ∈ table.displayNames -> name = "")
    (t : TokenType) : table.displayName t = table.names.derivedName t := by
  have hsilent : proper (table.displayNames.name? t) = none := by
    cases hname : table.displayNames.name? t with
    | none => rfl
    | some name =>
        rw [h name (Column.mem_of_name? hname)]
        rfl
  rw [displayName, hsilent]
  rfl

end Table
end TokenNames
