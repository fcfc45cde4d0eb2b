import Mathlib.Data.Int.Order.Basic
import TokenNames.TokensFile.Render

/-!
# The entries of a rendered vocabulary

## Entries and their text

Rendering visits the types twice.  Without the visits, a rendered vocabulary is a list of
entries: the symbolic names by ascending type, then the literal names by ascending type.
The text is the lines of the entries, and there is a text exactly when no entry is
refused.
-/

namespace TokenNames
namespace TokensFile

def entriesOf (v : Names) (kind : Kind) : List Entry :=
  v.types.filterMap fun type =>
    (proper (v.name kind type)).map fun name => { kind, type, name }

def entries (v : Names) : List Entry :=
  entriesOf v .symbolic ++ entriesOf v .literal

def textOf (es : List Entry) : String :=
  String.join (es.map Entry.line)

def renderEntries (es : List Entry) (text : String) : Except Refusal String :=
  match es.findSome? refusal? with
  | some r => .error r
  | none => .ok (text ++ textOf es)

/-!
# One entry
-/

theorem renderEntries_nil (text : String) :
    renderEntries [] text = .ok text := by
  show Except.ok (text ++ "") = .ok text
  rw [String.append_empty]

theorem renderEntries_cons_of_refused {e : Entry} {r : Refusal}
    (h : refusal? e = some r) (es : List Entry) (text : String) :
    renderEntries (e :: es) text = .error r := by
  unfold renderEntries
  rw [List.findSome?_cons, h]

theorem renderEntries_cons_of_accepted {e : Entry}
    (h : refusal? e = none) (es : List Entry) (text : String) :
    renderEntries (e :: es) text = renderEntries es (text ++ e.line) := by
  unfold renderEntries
  rw [List.findSome?_cons, h]
  simp only [textOf, List.map_cons, String.join_cons, String.append_assoc]

theorem renderEntries_append (es fs : List Entry) (text : String) :
    renderEntries (es ++ fs) text =
      (renderEntries es text).bind (renderEntries fs) := by
  induction es generalizing text with
  | nil =>
      rw [renderEntries_nil]
      rfl
  | cons e es ih =>
      cases h : refusal? e with
      | some r =>
          rw [List.cons_append, renderEntries_cons_of_refused h,
            renderEntries_cons_of_refused h]
          rfl
      | none =>
          rw [List.cons_append, renderEntries_cons_of_accepted h,
            renderEntries_cons_of_accepted h, ih]

/-!
# The visits
-/

theorem writeType_of_none {v : Names} {kind : Kind} {type : TokenType}
    (h : proper (v.name kind type) = none) (text : String) :
    writeType v kind text type = .ok text := by
  unfold writeType
  rw [h]

theorem writeType_of_some {v : Names} {kind : Kind} {type : TokenType}
    {name : String} (h : proper (v.name kind type) = some name)
    (text : String) :
    writeType v kind text type =
      renderEntries [{ kind, type, name }] text := by
  unfold writeType
  rw [h]
  cases hrefusal : refusal? { kind, type, name } with
  | some r =>
      rw [renderEntries_cons_of_refused hrefusal]
      simp only [hrefusal]
  | none =>
      rw [renderEntries_cons_of_accepted hrefusal, renderEntries_nil]
      simp only [hrefusal]

theorem foldlM_writeType (v : Names) (kind : Kind) (types : List TokenType)
    (text : String) :
    types.foldlM (writeType v kind) text =
      renderEntries (types.filterMap fun type =>
        (proper (v.name kind type)).map fun name => { kind, type, name })
        text := by
  induction types generalizing text with
  | nil => exact (renderEntries_nil text).symm
  | cons type types ih =>
      cases h : proper (v.name kind type) with
      | none =>
          rw [List.foldlM_cons, writeType_of_none h,
            List.filterMap_cons_none (by rw [h]; rfl)]
          exact ih text
      | some name =>
          rw [List.foldlM_cons, writeType_of_some h,
            List.filterMap_cons_some (by rw [h]; rfl)]
          refine Eq.trans ?_
            (renderEntries_append [{ kind, type, name }] _ text).symm
          cases renderEntries [{ kind, type, name }] text with
          | error r => rfl
          | ok text' => exact ih text'

theorem writeKind_eq (v : Names) (kind : Kind) (text : String) :
    writeKind v kind text = renderEntries (entriesOf v kind) text :=
  foldlM_writeType v kind v.types text

theorem render_eq (v : Names) : render v = renderEntries (entries v) "" := by
  rw [entries, renderEntries_append, ← writeKind_eq]
  unfold render
  cases writeKind v .symbolic "" with
  | error r => rfl
  | ok text => exact writeKind_eq v .literal text

/-!
# Rendering
-/

theorem render_eq_ok_iff {v : Names} {text : String} :
    render v = .ok text ↔
      (forall e, e ∈ entries v -> refusal? e = none) ∧
        text = textOf (entries v) := by
  rw [render_eq, renderEntries, ← List.findSome?_eq_none_iff]
  cases (entries v).findSome? refusal? with
  | some r => simp
  | none => simp [eq_comm]

theorem render_eq_error_iff {v : Names} {r : Refusal} :
    render v = .error r ↔ (entries v).findSome? refusal? = some r := by
  rw [render_eq, renderEntries]
  cases (entries v).findSome? refusal? with
  | some r' => simp
  | none => simp

theorem mem_entriesOf_iff {v : Names} {kind : Kind} {e : Entry} :
    e ∈ entriesOf v kind ↔
      e.kind = kind ∧ (0 ≤ e.type ∧ e.type ≤ v.maxTokenType) ∧
        proper (v.name e.kind e.type) = some e.name := by
  rw [entriesOf, List.mem_filterMap]
  constructor
  · intro hmem
    rcases hmem with ⟨type, htype, hentry⟩
    rcases Option.map_eq_some_iff.mp hentry with ⟨name, hname, he⟩
    rw [← he]
    exact ⟨rfl, TokenType.mem_upTo.mp htype, hname⟩
  · intro hentry
    rcases hentry with ⟨hkind, htype, hname⟩
    exists e.type
    rw [← hkind, hname]
    exact ⟨TokenType.mem_upTo.mpr htype, rfl⟩

theorem mem_entries_iff {v : Names} {e : Entry} :
    e ∈ entries v ↔
      (0 ≤ e.type ∧ e.type ≤ v.maxTokenType) ∧
        proper (v.name e.kind e.type) = some e.name := by
  rw [entries, List.mem_append, mem_entriesOf_iff, mem_entriesOf_iff]
  cases e.kind <;> simp

end TokensFile
end TokenNames
