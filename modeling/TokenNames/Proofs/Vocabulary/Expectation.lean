import Mathlib.Data.List.Basic
import Mathlib.Data.List.Induction
import TokenNames.Expected
import TokenNames.Table

/-!
# Lists of expected tokens

## What can be read off a message

A message about expected tokens names each type once, in the order in which the types
occur first.  The names stand between back quotes, so they can be read off again if none
of them has a back quote in it: they are what remains at every second place when the
message is split at the back quotes, and the places between them hold the punctuation.
-/

namespace TokenNames

/-- The types of a list, each of them once, in the order in which they occur first. -/
structure ListsFirsts (xs ds : List TokenType) : Prop where
  mem_iff : forall t, t ∈ ds ↔ t ∈ xs
  ascends : ds.Pairwise fun t u => xs.idxOf t < xs.idxOf u

/-!
# First occurrences

A type that is listed after others is new or a repetition.
-/

section Firsts

variable {xs ds ds' : List TokenType} {t : TokenType}

theorem ListsFirsts.nodup (h : ListsFirsts xs ds) : ds.Nodup := by
  refine h.ascends.imp ?_
  intro t u hlt heq
  rw [heq] at hlt
  exact Nat.lt_irrefl _ hlt

theorem ListsFirsts.unique (h : ListsFirsts xs ds) (h' : ListsFirsts xs ds') :
    ds = ds' := by
  have hmem : forall t, t ∈ ds ↔ t ∈ ds' := by
    intro t
    rw [h.mem_iff, h'.mem_iff]
  have hperm := (List.perm_ext_iff_of_nodup h.nodup h'.nodup).mpr hmem
  refine hperm.eq_of_pairwise ?_ h.ascends h'.ascends
  intro t u _ _ hlt hgt
  exact absurd hgt (Nat.lt_asymm hlt)

theorem eraseDups_concat_of_mem (h : t ∈ xs) :
    (xs ++ [t]).eraseDups = xs.eraseDups := by
  simp [List.eraseDups_append, List.removeAll, h]

theorem eraseDups_concat_of_not_mem (h : t ∉ xs) :
    (xs ++ [t]).eraseDups = xs.eraseDups ++ [t] := by
  simp [List.eraseDups_append, List.removeAll, List.eraseDups_cons, h]

theorem listsFirsts_eraseDups (xs : List TokenType) :
    ListsFirsts xs xs.eraseDups := by
  constructor
  · intro t
    exact List.mem_eraseDups
  · induction xs using List.reverseRecOn with
    | nil => exact List.Pairwise.nil
    | append_singleton xs t ih =>
        have hfront : xs.eraseDups.Pairwise fun u w =>
            (xs ++ [t]).idxOf u < (xs ++ [t]).idxOf w := by
          refine ih.imp_of_mem ?_
          intro u w hu hw hlt
          rw [List.mem_eraseDups] at hu hw
          rw [List.idxOf_append_of_mem hu, List.idxOf_append_of_mem hw]
          exact hlt
        by_cases ht : t ∈ xs
        · rw [eraseDups_concat_of_mem ht]
          exact hfront
        · rw [eraseDups_concat_of_not_mem ht, List.pairwise_append]
          refine ⟨hfront, List.pairwise_singleton _ _, ?_⟩
          intro u hu w hw
          rw [List.mem_eraseDups] at hu
          rw [List.mem_singleton.mp hw, List.idxOf_append_of_mem hu,
            List.idxOf_append_of_notMem ht]
          exact Nat.lt_of_lt_of_le (List.idxOf_lt_length_of_mem hu)
            (Nat.le_add_right _ _)

theorem eraseDups_insert_of_mem {before : List TokenType} (h : t ∈ before)
    (after : List TokenType) :
    (before ++ t :: after).eraseDups = (before ++ after).eraseDups := by
  rw [List.eraseDups_append, List.eraseDups_append, List.cons_removeAll,
    if_neg]
  simpa using h

theorem eraseDups_of_nodup (h : xs.Nodup) : xs.eraseDups = xs := by
  induction xs using List.reverseRecOn with
  | nil => rfl
  | append_singleton xs t ih =>
      rcases List.nodup_append.mp h with ⟨hxs, _, hnew⟩
      have ht : t ∉ xs := fun hmem => hnew t hmem t List.mem_cons_self rfl
      rw [eraseDups_concat_of_not_mem ht, ih hxs]

end Firsts

namespace Vocabulary

/-!
# Names between back quotes

Split at its back quotes, a message alternates between punctuation and names.
-/

def backQuote : Char := '\x60'

/-- Texts and names by turns, the texts at the even places. -/
def alternate : List String -> List String -> List (List Char)
  | text :: texts, name :: names =>
      text.toList :: name.toList :: alternate texts names
  | texts, _ => texts.map String.toList

/-- What stands before, between and after a number of names. -/
def punctuation : Nat -> List String
  | 0 => ["nothing"]
  | 1 => ["", ""]
  | 2 => ["", " or ", ""]
  | n + 3 => "" :: (List.replicate (n + 1) ", " ++ [", or ", ""])

theorem toList_backQuoted (name : String) :
    (backQuoted name).toList = backQuote :: name.toList ++ [backQuote] := by
  rw [backQuoted, String.toList_append, String.toList_append]
  rfl

theorem alternate_nil (texts : List String) :
    alternate texts [] = texts.map String.toList := by
  cases texts <;> rfl

theorem intercalate_alternate {texts : List String} (h : texts ≠ [])
    (text name : String) (names : List String) :
    [backQuote].intercalate (alternate (text :: texts) (name :: names)) =
      text.toList ++ (backQuoted name).toList ++
        [backQuote].intercalate (alternate texts names) := by
  have hrest : exists first rest, alternate texts names = first :: rest := by
    cases texts with
    | nil => exact absurd rfl h
    | cons text texts => cases names <;> exact ⟨_, _, rfl⟩
  rcases hrest with ⟨first, rest, hrest⟩
  rw [alternate, hrest, List.intercalate_cons_cons,
    List.intercalate_cons_cons, toList_backQuoted]
  simp

theorem intercalate_last (text name : String) :
    [backQuote].intercalate (alternate [text, ""] [name]) =
      text.toList ++ (backQuoted name).toList := by
  rw [intercalate_alternate (List.cons_ne_nil _ _)]
  simp [alternate]

theorem intercalate_middle (middle : List String) (text last : String) :
    [backQuote].intercalate
        (alternate (List.replicate middle.length ", " ++ [text, ""])
          (middle ++ [last])) =
      (middle.flatMap fun name => ", ".toList ++ (backQuoted name).toList) ++
        text.toList ++ (backQuoted last).toList := by
  induction middle with
  | nil => exact intercalate_last text last
  | cons name middle ih =>
      rw [List.length_cons, List.replicate_succ, List.cons_append,
        List.cons_append, intercalate_alternate (by simp), ih,
        List.flatMap_cons]
      simp only [List.append_assoc]

theorem toList_joined (first : String) (middle : List String) :
    (", ".intercalate ((first :: middle).map backQuoted)).toList =
      (backQuoted first).toList ++
        middle.flatMap fun name => ", ".toList ++ (backQuoted name).toList := by
  rw [String.toList_intercalate]
  induction middle generalizing first with
  | nil => simp
  | cons name middle ih =>
      have hrest := ih name
      simp only [List.map_cons] at hrest ⊢
      rw [List.intercalate_cons_cons, hrest, List.flatMap_cons]
      simp only [List.append_assoc]

theorem alternatives_of_three (first second third : String)
    (rest : List String) :
    alternatives (first :: second :: third :: rest) =
      ", ".intercalate
          ((first :: second :: third :: rest).dropLast.map backQuoted) ++
        ", or " ++ backQuoted ((first :: second :: third :: rest).getLastD "") :=
  rfl

theorem alternatives_of_many (first second : String) (middle : List String)
    (last : String) :
    alternatives (first :: second :: (middle ++ [last])) =
      ", ".intercalate ((first :: second :: middle).map backQuoted) ++
        ", or " ++ backQuoted last := by
  cases middle with
  | nil => rfl
  | cons third middle =>
      have hnames : first :: second :: third :: (middle ++ [last]) =
          (first :: second :: third :: middle) ++ [last] := rfl
      rw [List.cons_append, alternatives_of_three, hnames,
        List.dropLast_concat, List.getLastD_concat]

theorem toList_alternatives (names : List String) :
    (alternatives names).toList =
      [backQuote].intercalate (alternate (punctuation names.length) names) := by
  match names with
  | [] => simp [alternatives, alternate, punctuation]
  | [name] => exact (intercalate_last "" name).symm
  | [first, second] =>
      show (backQuoted first ++ " or " ++ backQuoted second).toList =
        [backQuote].intercalate
          (alternate ["", " or ", ""] [first, second])
      rw [intercalate_alternate (List.cons_ne_nil _ _), intercalate_last]
      simp
  | first :: second :: third :: rest =>
      rcases List.eq_nil_or_concat' (third :: rest) with
        hnil | ⟨middle, last, hconcat⟩
      · cases hnil
      · have hlength : rest.length = middle.length := by
          simpa using congrArg List.length hconcat
        have hpunctuation :
            punctuation (first :: second :: third :: rest).length =
              "" :: (List.replicate (second :: middle).length ", " ++
                [", or ", ""]) := by
          simp only [List.length_cons, hlength, punctuation]
        rw [hpunctuation, hconcat, alternatives_of_many,
          intercalate_alternate (by simp), ← List.cons_append,
          intercalate_middle, String.toList_append, String.toList_append,
          toList_joined]
        simp

/-!
# Reading a message

No punctuation has a back quote in it, so the back quotes of a message are those around
its names as long as the names have none either.
-/

section Reading

variable {texts names : List String}

theorem length_punctuation (n : Nat) : (punctuation n).length = n + 1 := by
  match n with
  | 0 | 1 | 2 => rfl
  | n + 3 => simp [punctuation]

theorem mem_punctuation {n : Nat} {text : String}
    (h : text ∈ punctuation n) :
    text = "nothing" ∨ text = "" ∨ text = " or " ∨ text = ", " ∨
      text = ", or " := by
  match n with
  | 0 | 1 | 2 =>
      simp only [punctuation, List.mem_cons, List.not_mem_nil, or_false] at h
      grind
  | n + 3 =>
      simp only [punctuation, List.mem_cons, List.mem_append,
        List.mem_replicate, List.not_mem_nil, or_false] at h
      grind

theorem backQuote_not_mem_punctuation {n : Nat} {text : String}
    (h : text ∈ punctuation n) : backQuote ∉ text.toList := by
  rcases mem_punctuation h with h | h | h | h | h <;> rw [h] <;> decide

theorem backQuote_not_mem_alternate
    (htexts : forall text, text ∈ texts -> backQuote ∉ text.toList)
    (hnames : forall name, name ∈ names -> backQuote ∉ name.toList) :
    forall part, part ∈ alternate texts names -> backQuote ∉ part := by
  induction texts generalizing names with
  | nil => exact List.forall_mem_nil _
  | cons text texts ih =>
      cases names with
      | nil =>
          intro part hpart
          rcases List.mem_map.mp hpart with ⟨text', hmem, hpart⟩
          rw [← hpart]
          exact htexts text' hmem
      | cons name names =>
          rcases List.forall_mem_cons.mp htexts with ⟨htext, htexts⟩
          rcases List.forall_mem_cons.mp hnames with ⟨hname, hnames⟩
          rw [alternate, List.forall_mem_cons, List.forall_mem_cons]
          exact ⟨htext, hname, ih htexts hnames⟩

theorem length_alternate (h : texts.length = names.length + 1) :
    (alternate texts names).length = 2 * names.length + 1 := by
  induction texts generalizing names with
  | nil => cases h
  | cons text texts ih =>
      cases names with
      | nil =>
          rw [alternate_nil, List.length_map, h]
          rfl
      | cons name names =>
          rw [alternate, List.length_cons, List.length_cons,
            ih (Nat.succ.inj h), List.length_cons]
          omega

theorem getElem?_alternate (h : texts.length = names.length + 1) (i : Nat) :
    (alternate texts names)[2 * i + 1]? = names[i]?.map String.toList := by
  induction texts generalizing names i with
  | nil => cases h
  | cons text texts ih =>
      cases names with
      | nil =>
          rw [alternate_nil, List.getElem?_eq_none]
          · rfl
          · rw [List.length_map, h, List.length_nil]
            omega
      | cons name names =>
          cases i with
          | zero => rfl
          | succ i => exact ih (Nat.succ.inj h) i

theorem count_intercalate {parts : List (List Char)} (hne : parts ≠ [])
    (h : forall part, part ∈ parts -> backQuote ∉ part) :
    ([backQuote].intercalate parts).count backQuote + 1 = parts.length := by
  induction parts with
  | nil => exact absurd rfl hne
  | cons part parts ih =>
      rcases List.forall_mem_cons.mp h with ⟨hpart, hparts⟩
      cases parts with
      | nil =>
          rw [List.intercalate_singleton, List.count_eq_zero.mpr hpart]
          rfl
      | cons next parts =>
          rw [List.intercalate_cons_cons, List.count_append,
            List.count_append, List.count_eq_zero.mpr hpart, Nat.add_assoc,
            List.count_singleton_self, ih (List.cons_ne_nil _ _) hparts]
          simp only [List.length_cons]
          omega

theorem free_of_backQuote
    (h : forall name, name ∈ names -> backQuote ∉ name.toList) :
    forall part, part ∈ alternate (punctuation names.length) names ->
      backQuote ∉ part :=
  backQuote_not_mem_alternate (fun _ => backQuote_not_mem_punctuation) h

theorem alternate_punctuation_ne_nil (names : List String) :
    alternate (punctuation names.length) names ≠ [] := by
  rw [← List.length_pos_iff, length_alternate (length_punctuation _)]
  exact Nat.succ_pos _

theorem splitOn_alternatives
    (h : forall name, name ∈ names -> backQuote ∉ name.toList) :
    (alternatives names).toList.splitOn backQuote =
      alternate (punctuation names.length) names := by
  rw [toList_alternatives]
  exact List.splitOn_intercalate _ (free_of_backQuote h)
    (alternate_punctuation_ne_nil names)

theorem count_alternatives
    (h : forall name, name ∈ names -> backQuote ∉ name.toList) :
    (alternatives names).toList.count backQuote = 2 * names.length := by
  have hcount := count_intercalate (alternate_punctuation_ne_nil names)
    (free_of_backQuote h)
  rw [← toList_alternatives, length_alternate (length_punctuation _)] at hcount
  exact Nat.succ.inj hcount

theorem punctuation_succ (n : Nat) :
    exists texts, texts ≠ [] ∧ punctuation (n + 1) = "" :: texts := by
  match n with
  | 0 | 1 => exact ⟨_, List.cons_ne_nil _ _, rfl⟩
  | n + 2 => exact ⟨_, by simp, rfl⟩

theorem backQuote_mem_alternatives (h : names ≠ []) :
    backQuote ∈ (alternatives names).toList := by
  cases names with
  | nil => exact absurd rfl h
  | cons name rest =>
      rcases punctuation_succ rest.length with ⟨texts, htexts, hfirst⟩
      rw [toList_alternatives, List.length_cons, hfirst,
        intercalate_alternate htexts, toList_backQuoted]
      simp

end Reading

section Messages

variable {v : Vocabulary} {xs : List TokenType}

theorem backQuote_mem_formatExpected (h : xs ≠ []) :
    backQuote ∈ (v.formatExpected xs).toList := by
  rcases List.exists_mem_of_ne_nil xs h with ⟨t, ht⟩
  apply backQuote_mem_alternatives
  apply List.ne_nil_of_mem
  exact List.mem_map_of_mem (List.mem_eraseDups.mpr ht)

theorem backQuote_not_mem_formatExpected_iff :
    backQuote ∉ (v.formatExpected xs).toList ↔ xs = [] := by
  constructor
  · intro hfree
    apply Decidable.byContradiction
    intro hne
    exact hfree (backQuote_mem_formatExpected hne)
  · intro hnil
    rw [hnil]
    show backQuote ∉ "nothing".toList
    decide

theorem formatExpected_eq_nothing_iff :
    v.formatExpected xs = "nothing" ↔ xs = [] := by
  rw [← @backQuote_not_mem_formatExpected_iff v xs]
  constructor
  · intro hnothing
    rw [hnothing]
    decide
  · intro hfree
    rw [backQuote_not_mem_formatExpected_iff.mp hfree]
    rfl

theorem formatExpected_insert_of_mem {before : List TokenType} {t : TokenType}
    (h : t ∈ before) (after : List TokenType) :
    v.formatExpected (before ++ t :: after) =
      v.formatExpected (before ++ after) := by
  rw [formatExpected, formatExpected, eraseDups_insert_of_mem h]

end Messages

/-- A message lists each type once, in the order in which the types occur first, and a
repetition makes no difference.  It is without a back quote only if nothing is expected.
If the names have no back quotes in them, the message falls apart at its back quotes into
punctuation and names by turns, a name for each type. -/
theorem formatExpected_lists_firsts (v : Vocabulary) (xs : List TokenType) :
    exists ds, ListsFirsts xs ds ∧
      (forall other, ListsFirsts xs other -> other = ds) ∧
      v.formatExpected xs = v.formatExpected ds ∧
      (forall before t after, xs = before ++ t :: after -> t ∈ before ->
        v.formatExpected xs = v.formatExpected (before ++ after)) ∧
      (v.formatExpected xs = "nothing" ↔ xs = []) ∧
      (backQuote ∉ (v.formatExpected xs).toList ↔ xs = []) ∧
      ((forall t, t ∈ ds -> backQuote ∉ (v.elementName t).toList) ->
        (v.formatExpected xs).toList.count backQuote = 2 * ds.length ∧
        (v.formatExpected xs).toList.splitOn backQuote =
          alternate (punctuation ds.length) (ds.map v.elementName) ∧
        (forall i,
          ((v.formatExpected xs).toList.splitOn backQuote)[2 * i + 1]? =
            ds[i]?.map fun t => (v.elementName t).toList) ∧
        forall t u, t ∈ xs -> u ∈ xs -> t ≠ u -> exists i j, i ≠ j ∧
          ((v.formatExpected xs).toList.splitOn backQuote)[2 * i + 1]? =
            some (v.elementName t).toList ∧
          ((v.formatExpected xs).toList.splitOn backQuote)[2 * j + 1]? =
            some (v.elementName u).toList) := by
  have hfirsts := listsFirsts_eraseDups xs
  refine ⟨xs.eraseDups, hfirsts, fun other hother => hother.unique hfirsts,
    ?_, ?_, formatExpected_eq_nothing_iff,
    backQuote_not_mem_formatExpected_iff, ?_⟩
  · rw [formatExpected, formatExpected, eraseDups_of_nodup hfirsts.nodup]
  · intro before t after hsplit ht
    rw [hsplit, formatExpected_insert_of_mem ht]
  · intro hfree
    have hnames : forall name, name ∈ xs.eraseDups.map v.elementName ->
        backQuote ∉ name.toList := by
      intro name hname
      rcases List.mem_map.mp hname with ⟨t, ht, hname⟩
      rw [← hname]
      exact hfree t ht
    have hsplit := splitOn_alternatives hnames
    have hplace : forall i,
        ((v.formatExpected xs).toList.splitOn backQuote)[2 * i + 1]? =
          xs.eraseDups[i]?.map fun t => (v.elementName t).toList := by
      intro i
      rw [formatExpected, hsplit, getElem?_alternate (length_punctuation _),
        List.getElem?_map, Option.map_map]
      rfl
    refine ⟨?_, ?_, hplace, ?_⟩
    · rw [formatExpected, count_alternatives hnames, List.length_map]
    · rw [formatExpected, hsplit, List.length_map]
    · intro t u ht hu hne
      rcases List.mem_iff_getElem?.mp (List.mem_eraseDups.mpr ht) with ⟨i, hi⟩
      rcases List.mem_iff_getElem?.mp (List.mem_eraseDups.mpr hu) with ⟨j, hj⟩
      refine ⟨i, j, ?_, ?_, ?_⟩
      · intro hsame
        rw [hsame, hj] at hi
        exact hne (Option.some.inj hi).symm
      · rw [hplace, hi]
        rfl
      · rw [hplace, hj]
        rfl

theorem formatExpected_lists_firsts_shared_name :
    ListsFirsts [2, 1, 2, 3, 1] [2, 1, 3] ∧
      ((Table.vocabulary
        { symbolicNames :=
            #[none, some "ID", some "ID", some "NUM"] }).formatExpected
          [2, 1, 2, 3, 1]).toList.splitOn backQuote =
        ["".toList, "ID".toList, ", ".toList, "ID".toList, ", or ".toList,
          "NUM".toList, "".toList] := by
  have hfirsts : ListsFirsts [2, 1, 2, 3, 1] [2, 1, 3] := by
    constructor
    · intro t
      simp only [List.mem_cons, List.not_mem_nil, or_false]
      grind
    · decide
  rcases formatExpected_lists_firsts (Table.vocabulary
      { symbolicNames := #[none, some "ID", some "ID", some "NUM"] })
      [2, 1, 2, 3, 1] with ⟨ds, _, hunique, _, _, _, _, hread⟩
  have hds := hunique _ hfirsts
  rw [← hds] at hread
  have hfree : forall t, t ∈ ([2, 1, 3] : List TokenType) ->
      backQuote ∉ ((Table.vocabulary
        { symbolicNames :=
            #[none, some "ID", some "ID", some "NUM"] }).elementName
          t).toList := by
    intro t ht
    simp only [List.mem_cons, List.not_mem_nil, or_false] at ht
    rcases ht with h | h | h <;> rw [h] <;> decide +kernel
  refine ⟨hfirsts, ?_⟩
  rw [(hread hfree).2.1]
  decide +kernel

end Vocabulary

end TokenNames
