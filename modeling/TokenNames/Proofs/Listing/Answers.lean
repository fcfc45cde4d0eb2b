import Mathlib.Data.List.Forall2
import TokenNames.Proofs.Vocabulary.ReverseLookup

/-!
# Questions about names

## A line for each name

A question about names is answered by a line for each name, in the order of the names.  The
line repeats the name before a tab and goes on with the greatest type that carries it, or
says that there is none.
-/

namespace TokenNames
namespace Listing

/-- The line that answers a question about a name. -/
inductive AnswersName (v : Names) : String -> String -> Prop where
  | endOfInput : AnswersName v "EOF" "EOF\t-1\n"
  | known {name : String} {t : TokenType} : name ≠ "EOF" ->
      v.Carries t name -> (forall u, v.Carries u name -> u ≤ t) ->
      AnswersName v name (name ++ "\t" ++ t.text ++ "\n")
  | unknown {name : String} : name ≠ "EOF" ->
      (forall t, ¬ v.Carries t name) ->
      AnswersName v name (name ++ "\t<unknown>\n")

/-!
# One name
-/

variable {v : Names} {name line : String}

theorem answer_eof (v : Names) : answer v.typeMap "EOF" = "-1" := by
  have htext : TokenType.eof.text = "-1" := by decide +kernel
  rw [answer, v.typeMap_eof]
  exact htext

theorem answer_of_carries {t : TokenType} (hname : name ≠ "EOF")
    (hcarries : v.Carries t name)
    (hgreatest : forall u, v.Carries u name -> u ≤ t) :
    answer v.typeMap name = t.text := by
  have htype : v.typeMap[name]? = some t :=
    (Names.getElem?_typeMap_iff hname).mpr ⟨hcarries, hgreatest⟩
  rw [answer, htype]

theorem answer_of_not_carries (hname : name ≠ "EOF")
    (hnone : forall t, ¬ v.Carries t name) :
    answer v.typeMap name = "<unknown>" := by
  have hmissing : v.typeMap[name]? = none := by
    cases htype : v.typeMap[name]? with
    | none => rfl
    | some t =>
        exact absurd ((Names.getElem?_typeMap_iff hname).mp htype).left
          (hnone t)
  rw [answer, hmissing]

theorem line_of_answersName (h : AnswersName v name line) :
    line = name ++ "\t" ++ answer v.typeMap name ++ "\n" := by
  cases h with
  | endOfInput =>
      rw [answer_eof]
      rfl
  | known hname hcarries hgreatest =>
      rw [answer_of_carries hname hcarries hgreatest]
  | unknown hname hnone =>
      have hline : "\t<unknown>\n" = "\t" ++ ("<unknown>" ++ "\n") := rfl
      rw [answer_of_not_carries hname hnone, hline, String.append_assoc,
        String.append_assoc]

theorem answersName_answer (v : Names) (name : String) :
    AnswersName v name (name ++ "\t" ++ answer v.typeMap name ++ "\n") := by
  -- One of the three answers is due, and it is the one that is written.
  have hsome : exists line, AnswersName v name line := by
    by_cases hname : name = "EOF"
    · rw [hname]
      exact ⟨_, AnswersName.endOfInput⟩
    · cases htype : v.typeMap[name]? with
      | some t =>
          rcases (Names.getElem?_typeMap_iff hname).mp htype with
            ⟨hcarries, hgreatest⟩
          exact ⟨_, AnswersName.known hname hcarries hgreatest⟩
      | none =>
          refine ⟨_, AnswersName.unknown hname ?_⟩
          intro t hcarries
          rcases Names.exists_getElem?_typeMap hname hcarries with ⟨u, hu, _⟩
          rw [htype] at hu
          cases hu
  rcases hsome with ⟨line, hline⟩
  rw [← line_of_answersName hline]
  exact hline

/-!
# All names
-/

theorem lookup_of_lines {names lines : List String}
    (h : List.Forall₂ (AnswersName v) names lines) :
    lookup v names = String.join lines := by
  rw [lookup]
  induction h with
  | nil => rfl
  | cons hline _ ih =>
      rw [List.map_cons, String.join_cons, ih, ← line_of_answersName hline,
        String.join_cons]

/-- Every name gets its line, in the order of the names, and there are no other lines. -/
theorem exists_lines_lookup (v : Names) (names : List String) :
    exists lines, List.Forall₂ (AnswersName v) names lines ∧
      lookup v names = String.join lines := by
  have hlines : List.Forall₂ (AnswersName v) names
      (names.map fun name => name ++ "\t" ++ answer v.typeMap name ++ "\n") := by
    rw [List.forall₂_map_right_iff, List.forall₂_same]
    intro name _
    exact answersName_answer v name
  exact ⟨_, hlines, lookup_of_lines hlines⟩

end Listing
end TokenNames
