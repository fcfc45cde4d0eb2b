import TokenNames.Proofs.Numeral.Writing
import TokenNames.Proofs.TokensFile.Contents
import TokenNames.Proofs.TokensFile.Entries
import TokenNames.Proofs.Vocabulary.Naming

/-!
# The line of an entry

## From entries to assignments

The line of an entry that is not refused is an assignment of the same name to the same
type, of the same kind.  So the text of entries is accepted, and its assignments are the
entries in their order.
-/

namespace TokenNames
namespace TokensFile

/-- What holds of the entries of a table that was read. -/
structure Settled (e : Entry) : Prop where
  fits : e.type.toInt ≤ 65535
  fitsLine : FitsLine e.name
  kind_eq : Kind.ofName e.name = e.kind

/-- An entry that keeps its name, its type and its kind on a line of its own.  A carriage
return inside the name does not hinder that. -/
structure Writable (e : Entry) : Prop extends Settled e where
  nonneg : 0 ≤ e.type.toInt

structure Storable (name : String) : Prop where
  trimmed : Text.trim name.toList = name.toList
  one_line : '\n' ∉ name.toList
  no_return : '\r' ∉ name.toList

def Entry.assignment (e : Entry) : Assignment where
  name := e.name
  type := UInt16.ofNat e.type.toInt.toNat

/-!
# Refusals
-/

theorem staysWhole_iff {name : String} :
    staysWhole name = true ↔
      Text.trim name.toList = name.toList ∧ '\n' ∉ name.toList ∧
        '\r' ∉ name.toList := by
  simp [staysWhole, and_assoc]

theorem staysWhole_iff_storable {name : String} :
    staysWhole name = true ↔ Storable name := by
  rw [staysWhole_iff]
  constructor
  · intro h
    rcases h with ⟨htrimmed, hline, hreturn⟩
    exact ⟨htrimmed, hline, hreturn⟩
  · intro h
    exact ⟨h.trimmed, h.one_line, h.no_return⟩

theorem maxFile_lt_iff (t : TokenType) :
    TokenType.maxFile < t ↔ 65535 < t.toInt := by
  rw [Int32.lt_iff_toInt_lt, maxFile_toInt]

theorem refusal?_of_beyond {e : Entry} (hbeyond : 65535 < e.type.toInt) :
    refusal? e = some (.unwritableType e.type) := by
  unfold refusal?
  exact if_pos ((maxFile_lt_iff e.type).mpr hbeyond)

theorem refusal?_of_torn {e : Entry} (hfits : e.type.toInt ≤ 65535)
    (htorn : staysWhole e.name = false) :
    refusal? e = some (.unwritableName e.type e.name) := by
  unfold refusal?
  rw [if_neg, if_pos]
  · rw [htorn]
    rfl
  · rw [maxFile_lt_iff]
    omega

theorem refusal?_of_whole {e : Entry} (hfits : e.type.toInt ≤ 65535)
    (hwhole : staysWhole e.name = true) :
    refusal? e =
      match e.kind, Kind.ofName e.name with
      | .symbolic, .literal => some (.quotedSymbolic e.type e.name)
      | .literal, .symbolic => some (.unquotedLiteral e.type e.name)
      | .symbolic, .symbolic | .literal, .literal => none := by
  have hwithin : ¬ TokenType.maxFile < e.type := by
    rw [maxFile_lt_iff]
    exact Int.not_lt.mpr hfits
  have hkept : ¬ (!staysWhole e.name) = true := by
    rw [hwhole]
    exact Bool.false_ne_true
  unfold refusal?
  exact Eq.trans (if_neg hwithin) (if_neg hkept)

theorem refusal?_eq_none_iff {e : Entry} :
    refusal? e = none ↔
      e.type.toInt ≤ 65535 ∧ staysWhole e.name = true ∧
        Kind.ofName e.name = e.kind := by
  by_cases hfits : e.type.toInt ≤ 65535
  · cases hwhole : staysWhole e.name with
    | true =>
        rw [refusal?_of_whole hfits hwhole]
        cases e.kind <;> cases Kind.ofName e.name <;> simp [hfits]
    | false => simp [refusal?_of_torn hfits hwhole]
  · simp [refusal?_of_beyond (Int.not_le.mp hfits), hfits]

theorem writable_of_mem {v : Names} {e : Entry} (he : e ∈ entries v)
    (h : refusal? e = none) : Writable e := by
  rcases mem_entries_iff.mp he with ⟨⟨hnonneg, _⟩, hname⟩
  rcases refusal?_eq_none_iff.mp h with ⟨hfits, hwhole, hkind⟩
  rcases staysWhole_iff.mp hwhole with ⟨htrimmed, hnewline, _⟩
  exact
    { nonneg := (TokenType.nonneg_iff e.type).mp hnonneg
      fits := hfits
      fitsLine :=
        { ne_empty := (proper_eq_some_iff.mp hname).right
          trimmed := htrimmed
          one_line := hnewline }
      kind_eq := hkind }

/-!
# The line of an entry
-/

def Entry.body (e : Entry) : List Char :=
  e.name.toList ++ '=' :: Numeral.chars e.type.toInt

theorem Entry.toList_line (e : Entry) :
    e.line.toList = e.body ++ ['\n'] := by
  simp only [line, body, String.toList_append, TokenType.toList_text,
    List.append_assoc]
  rfl

theorem not_blank_of_mem_chars {i : Int} {c : Char}
    (hc : c ∈ Numeral.chars i) : Text.isBlank c = false := by
  rw [Bool.eq_false_iff]
  intro hblank
  rw [Text.isBlank_iff, Text.IsWhiteSpace] at hblank
  rcases Numeral.isDigit_or_minus_of_mem_chars hc with ⟨hlow, hhigh⟩ | hminus
  · have hlow : 48 ≤ c.toNat := hlow
    have hhigh : c.toNat ≤ 57 := hhigh
    omega
  · rw [hminus] at hblank
    revert hblank
    decide

theorem trim_chars (i : Int) : Text.trim (Numeral.chars i) = Numeral.chars i := by
  apply Text.trim_eq_self_iff.mpr
  constructor
  · intro c hc
    exact not_blank_of_mem_chars (List.mem_of_mem_head? hc)
  · intro c hc
    exact not_blank_of_mem_chars (List.mem_of_mem_getLast? hc)

theorem getLast?_body {e : Entry} {c : Char} (hc : c ∈ e.body.getLast?) :
    c ∈ Numeral.chars e.type.toInt := by
  have hne := Numeral.chars_ne_nil e.type.toInt
  rw [Entry.body, List.getLast?_append, List.getLast?_cons,
    List.getLast?_eq_getLast_of_ne_nil hne] at hc
  cases hc
  exact List.getLast_mem hne

namespace Writable

variable {e : Entry}

theorem nonneg_type (h : Writable e) : 0 ≤ e.type :=
  (TokenType.nonneg_iff e.type).mpr h.nonneg

theorem newline_not_mem_body (h : Writable e) : '\n' ∉ e.body := by
  intro hmem
  rcases List.mem_append.mp hmem with hname | hrest
  · exact h.fitsLine.one_line hname
  · rcases List.mem_cons.mp hrest with hmark | htype
    · cases hmark
    · exact Numeral.not_mem_chars (by decide) (by decide) _ htype

theorem return_not_last (_ : Writable e) : '\r' ∉ e.body.getLast? := by
  intro hmem
  exact Numeral.not_mem_chars (by decide) (by decide) _ (getLast?_body hmem)

theorem trim_body (h : Writable e) : Text.trim e.body = e.body := by
  rcases Text.trim_eq_self_iff.mp h.fitsLine.trimmed with ⟨hhead, _⟩
  apply Text.trim_eq_self_iff.mpr
  constructor
  · intro c hc
    apply hhead
    cases hname : e.name.toList with
    | nil =>
        exact absurd (String.toList_eq_nil_iff.mp hname) h.fitsLine.ne_empty
    | cons d rest =>
        rw [Entry.body, hname] at hc
        exact hc
  · intro c hc
    exact not_blank_of_mem_chars (getLast?_body hc)

theorem sides (h : Writable e) :
    Sides e.body e.name.toList (Numeral.chars e.type.toInt) := by
  refine ⟨e.name.toList, Numeral.chars e.type.toInt, h.trim_body, ?_,
    h.fitsLine.trimmed.symm, (trim_chars e.type.toInt).symm⟩
  exact Numeral.not_mem_chars (by decide) (by decide) _

theorem type_eq (h : Writable e) :
    (e.assignment.type.toNat : Int) = e.type.toInt :=
  toNat_ofNat_toNat ⟨h.nonneg, h.fits⟩

theorem assigns (h : Writable e) : Assigns e.body e.assignment := by
  refine ⟨e.name.toList, Numeral.chars e.type.toInt, h.sides, ?_, ?_, ?_⟩
  · intro hnil
    exact h.fitsLine.ne_empty (String.toList_eq_nil_iff.mp hnil)
  · exact String.ofList_toList.symm
  · rw [h.type_eq]
    exact Numeral.denotes_chars e.type.toInt

end Writable

/-!
# The text of entries
-/

theorem toList_textOf_cons (e : Entry) (es : List Entry) :
    (textOf (e :: es)).toList = e.body ++ '\n' :: (textOf es).toList := by
  rw [textOf, List.map_cons, String.join_cons, String.toList_append,
    Entry.toList_line, List.append_assoc]
  rfl

theorem textOf_append (es fs : List Entry) :
    textOf (es ++ fs) = textOf es ++ textOf fs := by
  rw [textOf, List.map_append, String.join_append]
  rfl

theorem lines_textOf {es : List Entry}
    (h : forall e, e ∈ es -> Writable e) :
    Text.lines (textOf es).toList = es.map Entry.body := by
  induction es with
  | nil => rfl
  | cons e es ih =>
      rcases List.forall_mem_cons.mp h with ⟨he, hes⟩
      rw [toList_textOf_cons, Text.lines_append_newline he.newline_not_mem_body
        he.return_not_last, ih hes, List.map_cons]

theorem assignmentsOf_textOf {es : List Entry}
    (h : forall e, e ∈ es -> Writable e) :
    AssignmentsOf (Text.lines (textOf es).toList)
      (es.map Entry.assignment) := by
  rw [lines_textOf h]
  induction es with
  | nil => exact AssignmentsOf.nil
  | cons e es ih =>
      rcases List.forall_mem_cons.mp h with ⟨he, hes⟩
      exact AssignmentsOf.assignment he.assigns (ih hes)

theorem writable_of_render {v : Names} {text : String}
    (h : render v = .ok text) : forall e, e ∈ entries v -> Writable e := by
  intro e he
  exact writable_of_mem he ((render_eq_ok_iff.mp h).left e he)

theorem exists_table_of_textOf {es : List Entry}
    (h : forall e, e ∈ es -> Writable e) :
    exists table, parse (textOf es) = .ok table ∧
      Represents table (es.map Entry.assignment) := by
  have has := assignmentsOf_textOf h
  rcases exists_represents_of_good has.good with
    ⟨table, as, hparse, has', hrepresents⟩
  rw [has'.unique has] at hrepresents
  exact ⟨table, hparse, hrepresents⟩

end TokensFile
end TokenNames
