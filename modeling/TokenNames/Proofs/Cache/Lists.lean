import TokenNames.Cache.Reader
import TokenNames.Proofs.Cache.Values

/-!
# The text of a list of names

## Items in brackets

All parts of a document that are not scalars are items in brackets, with commas between
them and space wherever it may stand.  A list of names is the simplest of them: its items
are strings and `null`.
-/

namespace TokenNames
namespace Cache

/-- Items with commas between them, and with space around each of them. -/
inductive Separated {α : Type} (Item : List Char -> α -> Prop) :
    List Char -> List α -> Prop where
  | last {before text after : List Char} {a : α} :
      Gap before -> Item text a -> Gap after ->
      Separated Item (before ++ (text ++ after)) [a]
  | more {before text after rest : List Char} {a : α} {as : List α} :
      Gap before -> Item text a -> Gap after -> Separated Item rest as ->
      Separated Item (before ++ (text ++ (after ++ ',' :: rest))) (a :: as)

inductive Bracketed {α : Type} (frame : Frame)
    (Item : List Char -> α -> Prop) : List Char -> List α -> Prop where
  | empty {gap : List Char} : Gap gap ->
      Bracketed frame Item (frame.start :: (gap ++ [frame.close])) []
  | items {text : List Char} {as : List α} : Separated Item text as ->
      Bracketed frame Item (frame.start :: (text ++ [frame.close])) as

inductive EntryText : List Char -> Option String -> Prop where
  | null : EntryText ['n', 'u', 'l', 'l'] none
  | name {text cs : List Char} : Denotes text cs ->
      EntryText ('"' :: (text ++ ['"'])) (some (String.ofList cs))

def NamesText : List Char -> List (Option String) -> Prop :=
  Bracketed .list EntryText

theorem Separated.of_gap {α : Type} {Item : List Char -> α -> Prop}
    {gap text : List Char} {as : List α} (h : Separated Item text as)
    (hgap : Gap gap) : Separated Item (gap ++ text) as := by
  cases h with
  | last hbefore hitem hafter =>
      rw [← List.append_assoc]
      exact Separated.last (hgap.append hbefore) hitem hafter
  | more hbefore hitem hafter hrest =>
      rw [← List.append_assoc]
      exact Separated.more (hgap.append hbefore) hitem hafter hrest

theorem gap_nil : Gap [] := by
  intro c hc
  cases hc

theorem Separated.exists_item {α : Type} {Item : List Char -> α -> Prop}
    {text : List Char} {as : List α} (h : Separated Item text as) :
    exists before item rest a, Gap before ∧ Item item a ∧
      text = before ++ (item ++ rest) ∧ Separated Item (item ++ rest) as := by
  cases h with
  | last hbefore hitem hafter =>
      exact ⟨_, _, _, _, hbefore, hitem, rfl,
        Separated.last gap_nil hitem hafter⟩
  | more hbefore hitem hafter hrest =>
      exact ⟨_, _, _, _, hbefore, hitem, rfl,
        Separated.more gap_nil hitem hafter hrest⟩

/-!
# Entries
-/

theorem readEntry_eq_ok_iff {s rest : List Char} {entry : Option String} :
    readEntry s = .ok (entry, rest) ↔
      exists before text, Gap before ∧ EntryText text entry ∧
        s = before ++ (text ++ rest) := by
  constructor
  · intro h
    unfold readEntry at h
    split at h
    · cases h
    · next c s' hspace =>
        rcases skipSpace_eq_cons_iff.mp hspace with ⟨_, before, hbefore, hs⟩
        split at h
        · next hc =>
            rcases map_eq_ok_iff.mp h with ⟨_, hword, heq⟩
            cases heq
            refine ⟨before, _, hbefore, EntryText.null, ?_⟩
            rw [hs, hc, readWord_eq_ok_iff.mp hword]
            rfl
        split at h
        · next hc =>
            rcases map_eq_ok_iff.mp h with ⟨_, hstring, heq⟩
            cases heq
            rcases readString_eq_ok_iff.mp hstring with ⟨text, htext, hs'⟩
            refine ⟨before, _, hbefore, EntryText.name htext, ?_⟩
            rw [hs, hc, hs']
            simp
        · cases h
  · intro h
    rcases h with ⟨before, text, hbefore, htext, hs⟩
    rw [hs]
    cases htext with
    | null =>
        have hspace : skipSpace (before ++ (['n', 'u', 'l', 'l'] ++ rest)) =
            'n' :: ('u' :: 'l' :: 'l' :: rest) :=
          skipSpace_eq_cons_iff.mpr ⟨rfl, before, hbefore, rfl⟩
        rw [readEntry, hspace]
        rfl
    | @name text cs htext =>
        have hspace : skipSpace (before ++ ('"' :: (text ++ ['"']) ++ rest)) =
            '"' :: (text ++ '"' :: rest) :=
          skipSpace_eq_cons_iff.mpr ⟨rfl, before, hbefore, by simp⟩
        have hstring : readString [] (text ++ '"' :: rest) = .ok (cs, rest) :=
          htext.readString [] rest
        rw [readEntry, hspace]
        simp [hstring, Except.map]

theorem EntryText.exists_head {text : List Char} {entry : Option String}
    (h : EntryText text entry) :
    exists c tail, text = c :: tail ∧ isSpace c = false ∧ c ≠ ']' := by
  cases h with
  | null => exact ⟨'n', _, rfl, rfl, by decide⟩
  | name _ => exact ⟨'"', _, rfl, rfl, by decide⟩

theorem readEntries_of_entry {done : List (Option String)}
    {s s' rest : List Char} {entry : Option String} {c : Char}
    (hentry : readEntry s = .ok (entry, s'))
    (hspace : skipSpace s' = c :: rest) :
    readEntries done s =
      if c = ']' then .ok ((entry :: done).reverse, rest)
      else if c = ',' then readEntries (entry :: done) rest
      else .error .malformed := by
  rw [readEntries]
  split
  · next hfault =>
      rw [hentry] at hfault
      cases hfault
  · next hread =>
      rw [hentry] at hread
      cases hread
      split
      · next hnil =>
          rw [hspace] at hnil
          cases hnil
      · next hcons =>
          rw [hspace] at hcons
          cases hcons
          rfl

theorem separated_of_readEntries {done entries : List (Option String)}
    {s rest : List Char} (h : readEntries done s = .ok (entries, rest)) :
    exists text es, Separated EntryText text es ∧ s = text ++ ']' :: rest ∧
      entries = done.reverse ++ es := by
  fun_induction readEntries done s with
  | case1 => cases h
  | case2 => cases h
  | case3 done s entry s' hentry rest' hspace =>
      cases h
      rcases readEntry_eq_ok_iff.mp hentry with
        ⟨before, text, hbefore, htext, hs⟩
      rcases skipSpace_eq_cons_iff.mp hspace with ⟨_, after, hafter, hs'⟩
      exact ⟨_, [entry], Separated.last hbefore htext hafter,
        by rw [hs, hs']; simp, by simp⟩
  | case4 done s entry s' hentry rest' hspace _ _ ih =>
      rcases ih h with ⟨items, es, hitems, hrest, hentries⟩
      rcases readEntry_eq_ok_iff.mp hentry with
        ⟨before, text, hbefore, htext, hs⟩
      rcases skipSpace_eq_cons_iff.mp hspace with ⟨_, after, hafter, hs'⟩
      exact ⟨_, entry :: es, Separated.more hbefore htext hafter hitems,
        by rw [hs, hs', hrest]; simp, by rw [hentries]; simp⟩
  | case5 => cases h

theorem EntryText.readEntries {before text after : List Char}
    {entry : Option String} (h : EntryText text entry) (hbefore : Gap before)
    (hafter : Gap after) (done : List (Option String)) {c : Char}
    (hc : isSpace c = false) (rest : List Char) :
    readEntries done (before ++ (text ++ (after ++ c :: rest))) =
      if c = ']' then .ok ((entry :: done).reverse, rest)
      else if c = ',' then Cache.readEntries (entry :: done) rest
      else .error .malformed :=
  readEntries_of_entry
    (readEntry_eq_ok_iff.mpr ⟨before, text, hbefore, h, rfl⟩)
    (skipSpace_eq_cons_iff.mpr ⟨hc, after, hafter, rfl⟩)

theorem readEntries_of_separated {text : List Char}
    {es : List (Option String)} (h : Separated EntryText text es)
    (done : List (Option String)) (rest : List Char) :
    readEntries done (text ++ ']' :: rest) =
      .ok (done.reverse ++ es, rest) := by
  induction h generalizing done with
  | last hbefore htext hafter =>
      simp only [List.append_assoc]
      rw [htext.readEntries hbefore hafter done rfl, if_pos rfl]
      simp
  | more hbefore htext hafter _ ih =>
      simp only [List.append_assoc, List.cons_append]
      rw [htext.readEntries hbefore hafter done rfl, if_neg (by decide),
        if_pos rfl, ih]
      simp

/-!
# Lists of names
-/

theorem readNames_of_gap {gap : List Char} (hgap : Gap gap)
    (rest : List Char) :
    readNames ('[' :: (gap ++ ']' :: rest)) = .ok ([], rest) := by
  rw [readNames, skipSpace_cons rfl]
  simp only [if_true, skipSpace_eq_cons_iff.mpr
    ⟨(rfl : isSpace ']' = false), gap, hgap, rfl⟩]

theorem readNames_of_separated {text : List Char}
    {es : List (Option String)} (h : Separated EntryText text es)
    (rest : List Char) :
    readNames ('[' :: (text ++ ']' :: rest)) = .ok (es, rest) := by
  -- Reading looks behind the gap once before it reads the first entry.
  rcases h.exists_item with
    ⟨before, item, text', entry, hbefore, hitem, htext, hes⟩
  rcases hitem.exists_head with ⟨c, tail, hhead, hspace, hclose⟩
  have hread := readEntries_of_separated hes [] rest
  have hskip : skipSpace (text ++ ']' :: rest) =
      c :: (tail ++ (text' ++ ']' :: rest)) :=
    skipSpace_eq_cons_iff.mpr ⟨hspace, before, hbefore,
      by rw [htext, hhead]; simp⟩
  rw [hhead, List.cons_append, List.cons_append, List.append_assoc] at hread
  rw [readNames, skipSpace_cons rfl]
  simp only [if_true, hskip]
  split
  · next hcons =>
      cases hcons
      exact absurd rfl hclose
  · exact hread

theorem readNames_skipSpace (s : List Char) :
    readNames (skipSpace s) = readNames s := by
  rw [readNames, skipSpace_skipSpace, readNames]

theorem readNames_eq_ok_iff {s rest : List Char}
    {names : List (Option String)} :
    readNames s = .ok (names, rest) ↔
      exists before text, Gap before ∧ NamesText text names ∧
        s = before ++ (text ++ rest) := by
  constructor
  · intro h
    unfold readNames at h
    split at h
    · cases h
    · next c s' hspace =>
        rcases skipSpace_eq_cons_iff.mp hspace with ⟨_, before, hbefore, hs⟩
        split at h
        · next hc =>
            split at h
            · next hclose =>
                cases h
                rcases skipSpace_eq_cons_iff.mp hclose with
                  ⟨_, gap, hgap, hrest⟩
                refine ⟨before, _, hbefore, Bracketed.empty hgap, ?_⟩
                rw [hs, hc, hrest]
                simp [Frame.start, Frame.close]
            · rcases separated_of_readEntries h with
                ⟨text, es, htext, hrest, hnames⟩
              rcases exists_gap s' with ⟨gap, hgap, hs'⟩
              rw [hnames]
              refine ⟨before, _, hbefore,
                Bracketed.items (htext.of_gap hgap), ?_⟩
              rw [hs, hc, hs', hrest]
              simp [Frame.start, Frame.close]
        · cases h
  · intro h
    rcases h with ⟨before, text, hbefore, htext, hs⟩
    rw [hs, ← readNames_skipSpace, skipSpace_gap hbefore, readNames_skipSpace]
    cases htext with
    | empty hgap =>
        rw [List.cons_append, List.append_assoc]
        exact readNames_of_gap hgap rest
    | items hitems =>
        rw [List.cons_append, List.append_assoc]
        exact readNames_of_separated hitems rest

end Cache
end TokenNames
