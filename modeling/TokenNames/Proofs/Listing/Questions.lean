import TokenNames.Listing
import TokenNames.Proofs.Text.Splitting
import TokenNames.Proofs.TokenType.Numerals

/-!
# Questions about types

## Numerals in, numerals out

A question about types is a list of numerals.  Its answer has a line for each of them, and
the line begins with the numeral of the type and a tab.  Both lists of numerals are read as
the same types, although the answer writes each type in one way only, while a question may
write it in many.
-/

namespace TokenNames
namespace Listing

/-- The text in front of the first tab of a line. -/
def question (line : List Char) : String :=
  String.ofList (line.takeWhile (· != '\t'))

def questions (answer : String) : List String :=
  (Text.lines answer.toList).map question

/-!
# Lines

Neither a tab in a name nor a carriage return at its end has an influence on what stands in
front of the first tab.
-/

theorem question_of_tab {cs : List Char} (h : '\t' ∉ cs)
    (rest : List Char) : question (cs ++ '\t' :: rest) = String.ofList cs := by
  unfold question
  rw [Text.takeWhile_ne_append h]

theorem question_append_of_mem {line : List Char} (h : '\t' ∈ line)
    (rest : List Char) : question (line ++ rest) = question line := by
  rcases List.eq_append_cons_of_mem h with ⟨before, after, hline, hfree⟩
  rw [hline, question_of_tab hfree, List.append_assoc, List.cons_append,
    question_of_tab hfree]

theorem question_of_line_end {line first : List Char} (htab : '\t' ∈ line)
    (h : line = first ∨ line = first ++ ['\r']) :
    question first = question line := by
  rcases h with hwhole | hreturn
  · rw [hwhole]
  · rw [hreturn, List.mem_append] at htab
    rcases htab with hfirst | hlast
    · rw [hreturn, question_append_of_mem hfirst]
    · cases List.mem_singleton.mp hlast

theorem question_of_type (t : TokenType) (name : List Char) :
    question (t.text.toList ++ '\t' :: name) = t.text := by
  have htab : '\t' ∉ t.text.toList :=
    TokenType.not_mem_text (by decide) (by decide) t
  rw [question_of_tab htab, String.ofList_toList]

theorem exists_line_of_type (t : TokenType) {name : List Char}
    (h : '\n' ∉ name) (rest : List Char) :
    exists line, question line = t.text ∧
      Text.lines (t.text.toList ++ '\t' :: name ++ '\n' :: rest) =
        line :: Text.lines rest := by
  have hfeed : '\n' ∉ t.text.toList ++ '\t' :: name := by
    rw [List.mem_append, List.mem_cons]
    rintro (hnumeral | hmark | hname)
    · exact TokenType.not_mem_text (by decide) (by decide) t hnumeral
    · cases hmark
    · exact h hname
  have hmem : '\t' ∈ t.text.toList ++ '\t' :: name :=
    List.mem_append_right _ List.mem_cons_self
  -- A carriage return at the end of the name is lost with the line end.
  rcases Text.exists_line_of_newline hfeed rest with ⟨line, hlines, hend⟩
  refine ⟨line, ?_, hlines⟩
  rw [question_of_line_end hmem hend, question_of_type]

/-!
# Answers
-/

theorem toList_displayNames_cons (v : Vocabulary) (t : TokenType)
    (types : List TokenType) :
    (displayNames v (t :: types)).toList =
      t.text.toList ++ '\t' :: (v.displayName t).toList ++
        '\n' :: (displayNames v types).toList := by
  have htab : "\t".toList = ['\t'] := rfl
  have hfeed : "\n".toList = ['\n'] := rfl
  simp only [displayNames, List.map_cons, String.join_cons,
    String.toList_append, htab, hfeed, List.append_assoc, List.cons_append,
    List.nil_append]

theorem questions_displayNames {v : Vocabulary} {types : List TokenType}
    (h : forall t, t ∈ types -> '\n' ∉ (v.displayName t).toList) :
    questions (displayNames v types) = types.map TokenType.text := by
  induction types with
  | nil => rfl
  | cons t types ih =>
      rcases List.forall_mem_cons.mp h with ⟨hname, hlater⟩
      rcases exists_line_of_type t hname (displayNames v types).toList with
        ⟨line, hquestion, hlines⟩
      rw [questions, toList_displayNames_cons, hlines, List.map_cons,
        hquestion, List.map_cons, ← ih hlater, questions]

end Listing

namespace TokenType

/-- Reading a list of texts succeeds exactly when every one of them is a numeral of a 32-bit
number, and then it gives the numbers of the texts in their order.  Otherwise it reports the
first text that is no such numeral.  The numerals that are written for types, and those that
stand in front of the first tab of each line of an answer, are read back as the types. -/
theorem ofTexts_accepts_or_names_first_text :
    (forall texts, (exists types, ofTexts texts = .ok types) ↔
      forall text, text ∈ texts -> IsNumeral text) ∧
    (forall texts types, ofTexts texts = .ok types ↔
      texts.length = types.length ∧
        forall (i : Nat) (h : i < texts.length) (h' : i < types.length),
          Numeral.Denotes texts[i].toList types[i].toInt) ∧
    (forall texts, ¬ (forall text, text ∈ texts -> IsNumeral text) ->
      exists before bad after, texts = before ++ bad :: after ∧
        (forall text, text ∈ before -> IsNumeral text) ∧ ¬ IsNumeral bad ∧
        exists e, ofTexts texts = .error e ∧
          e.message = "'" ++ bad ++ "' is not a token type") ∧
    (forall types : List TokenType,
      ofTexts (types.map text) = .ok types) ∧
    forall (v : Vocabulary) types,
      (forall t, t ∈ types -> '\n' ∉ (v.displayName t).toList) ->
        ofTexts (Listing.questions (Listing.displayNames v types)) =
          .ok types := by
  refine ⟨?_, ?_, ?_, ofTexts_map_text, ?_⟩
  · intro texts
    exact exists_ofTexts_iff
  · intro texts types
    rw [ofTexts_eq_ok_iff]
    exact List.forall₂_iff_get
  · intro texts hnone
    cases hread : ofTexts texts with
    | ok types => exact absurd (exists_ofTexts_iff.mp ⟨types, hread⟩) hnone
    | error e =>
        rcases exists_first_of_error hread with
          ⟨before, after, hsplit, hbefore, hbad⟩
        exact ⟨before, e.text, after, hsplit, hbefore, hbad, e, rfl, rfl⟩
  · intro v types hnames
    rw [Listing.questions_displayNames hnames]
    exact ofTexts_map_text types

theorem ofTexts_accepts_or_names_first_text_at_bounds :
    (¬ forall text,
        text ∈ ["+0002147483647", "2147483648", "x"] -> IsNumeral text) ∧
    ofTexts ["+0002147483647", "2147483648", "x"] =
      .error { text := "2147483648" } ∧
    (exists before bad after,
      ["+0002147483647", "2147483648", "x"] = before ++ bad :: after ∧
        (forall text, text ∈ before -> IsNumeral text) ∧ ¬ IsNumeral bad ∧
        exists e,
          ofTexts ["+0002147483647", "2147483648", "x"] = .error e ∧
            e.message = "'" ++ bad ++ "' is not a token type") ∧
    '\n' ∉ "a\tb\r".toList ∧
    ofTexts (Listing.questions (Listing.displayNames
        { maxTokenType := -1
          literalName := fun _ => none
          symbolicName := fun _ => none
          displayName := fun _ => "a\tb\r" } [-2147483648, 2147483647])) =
      .ok [-2147483648, 2147483647] := by
  rcases ofTexts_accepts_or_names_first_text with
    ⟨haccepted, _, hrefused, _, hanswer⟩
  have herror : ofTexts ["+0002147483647", "2147483648", "x"] =
      .error { text := "2147483648" } := by
    decide
  have hnone : ¬ forall text,
      text ∈ ["+0002147483647", "2147483648", "x"] -> IsNumeral text := by
    intro hall
    rcases (haccepted _).mpr hall with ⟨types, htypes⟩
    rw [herror] at htypes
    cases htypes
  have hfree : '\n' ∉ "a\tb\r".toList := by decide
  exact ⟨hnone, herror, hrefused _ hnone, hfree,
    hanswer _ _ fun _ _ => hfree⟩

end TokenType
end TokenNames
