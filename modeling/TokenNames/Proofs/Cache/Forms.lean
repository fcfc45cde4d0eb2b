import TokenNames.Proofs.Cache.Members

/-!
# The two forms of a document

## Objects and lists

The lists of a table stand in an object, each under a key of its own, or in a list, in the
order literal, symbolic, display.  Reading follows the text of either form to its closing
bracket: an object gives what its members leave behind, a list gives its two or three
items.
-/

namespace TokenNames
namespace Cache

/-!
# Objects
-/

theorem MemberText.exists_head {text : List Char} {m : Member}
    (h : MemberText text m) :
    exists tail, text = '"' :: tail := by
  cases h with
  | mk _ _ _ _ => exact ⟨_, rfl⟩

theorem readObject_of_separated {text : List Char} {ms : List Member}
    (h : Separated MemberText text ms) (rest : List Char) :
    readObject (text ++ '\x7d' :: rest) =
      kept (ms.foldlM Lists.keep? {}) rest := by
  rcases h.exists_item with
    ⟨before, item, text', m, hbefore, hitem, htext, hms⟩
  rcases hitem.exists_head with ⟨tail, hhead⟩
  have hread := readMembers_of_separated hms {} rest
  have hskip : skipSpace (text ++ '\x7d' :: rest) =
      '"' :: (tail ++ (text' ++ '\x7d' :: rest)) :=
    skipSpace_eq_cons_iff.mpr ⟨rfl, before, hbefore,
      by rw [htext, hhead]; simp⟩
  rw [hhead, List.cons_append, List.cons_append, List.append_assoc] at hread
  rw [readObject, hskip]
  exact hread

theorem readLists_start (frame : Frame) {before : List Char}
    (hbefore : Gap before) (rest : List Char) :
    readLists (before ++ frame.start :: rest) =
      match frame with
      | .list => readArray rest
      | .object => readObject rest := by
  rw [readLists,
    skipSpace_eq_cons_iff.mpr ⟨isSpace_start frame, before, hbefore, rfl⟩]
  cases frame <;> rfl

theorem readLists_of_object {before text : List Char} {ms : List Member}
    (hbefore : Gap before) (h : Bracketed .object MemberText text ms)
    (rest : List Char) :
    readLists (before ++ (text ++ rest)) =
      kept (ms.foldlM Lists.keep? {}) rest := by
  cases h with
  | @empty gap hgap =>
      rw [List.cons_append, List.append_assoc,
        readLists_start .object hbefore]
      show readObject (gap ++ '\x7d' :: rest) = .ok ({}, rest)
      rw [readObject, skipSpace_eq_cons_iff.mpr ⟨rfl, gap, hgap, rfl⟩]
      rfl
  | items hitems =>
      rw [List.cons_append, List.append_assoc,
        readLists_start .object hbefore]
      exact readObject_of_separated hitems rest

theorem bracketed_of_readObject {s rest : List Char} {lists : Lists}
    (h : readObject s = .ok (lists, rest)) :
    exists text ms, Bracketed .object MemberText (Frame.object.start :: text) ms ∧
      s = text ++ rest ∧ ms.foldlM Lists.keep? {} = some lists := by
  unfold readObject at h
  split at h
  · next hspace =>
      cases h
      rcases skipSpace_eq_cons_iff.mp hspace with ⟨_, gap, hgap, hs⟩
      exact ⟨_, [], Bracketed.empty hgap, by rw [hs]; simp [Frame.close], rfl⟩
  · rcases separated_of_readMembers h with ⟨text, ms, htext, hrest, hms⟩
    rcases exists_gap s with ⟨gap, hgap, hs⟩
    exact ⟨_, ms, Bracketed.items (htext.of_gap hgap),
      by rw [hs, hrest]; simp [Frame.close], hms⟩

/-!
# Lists
-/

def Continuation.text : Continuation -> List Char
  | .item rest => ',' :: rest
  | .close rest => ']' :: rest

theorem readContinuation_eq_ok_iff {s : List Char} {next : Continuation} :
    readContinuation s = .ok next ↔
      exists gap, Gap gap ∧ s = gap ++ next.text := by
  constructor
  · intro h
    unfold readContinuation at h
    split at h
    · cases h
    · next hspace =>
        rcases skipSpace_eq_cons_iff.mp hspace with ⟨_, gap, hgap, hs⟩
        split at h
        · next hc =>
            cases h
            exact ⟨gap, hgap, by rw [hs, hc]; rfl⟩
        split at h
        · next hc =>
            cases h
            exact ⟨gap, hgap, by rw [hs, hc]; rfl⟩
        · cases h
  · intro h
    rcases h with ⟨gap, hgap, hs⟩
    cases next with
    | item rest =>
        rw [readContinuation,
          skipSpace_eq_cons_iff.mpr ⟨(rfl : isSpace ',' = false), gap, hgap, hs⟩]
        rfl
    | close rest =>
        rw [readContinuation,
          skipSpace_eq_cons_iff.mpr ⟨(rfl : isSpace ']' = false), gap, hgap, hs⟩]
        rfl

theorem readNames_of_text {before text : List Char}
    {names : List (Option String)} (hbefore : Gap before)
    (htext : NamesText text names) (rest : List Char) :
    readNames (before ++ (text ++ rest)) = .ok (names, rest) :=
  readNames_eq_ok_iff.mpr ⟨before, text, hbefore, htext, rfl⟩

theorem readContinuation_close {gap : List Char} (hgap : Gap gap)
    (rest : List Char) :
    readContinuation (gap ++ ']' :: rest) = .ok (.close rest) :=
  readContinuation_eq_ok_iff.mpr ⟨gap, hgap, rfl⟩

theorem readContinuation_comma {gap : List Char} (hgap : Gap gap)
    (rest : List Char) :
    readContinuation (gap ++ ',' :: rest) = .ok (.item rest) :=
  readContinuation_eq_ok_iff.mpr ⟨gap, hgap, rfl⟩

theorem readDisplay_eq_ok_iff {lists lists' : Lists} {s rest : List Char} :
    readDisplay lists s = .ok (lists', rest) ↔
      exists text display, Separated NamesText text [display] ∧
        s = text ++ ']' :: rest ∧ lists' = lists.put display .display := by
  constructor
  · intro h
    unfold readDisplay at h
    split at h
    · cases h
    · next hnames =>
        rcases readNames_eq_ok_iff.mp hnames with
          ⟨before, text, hbefore, htext, hs⟩
        split at h
        · cases h
        · cases h
        · next hclose =>
            cases h
            rcases readContinuation_eq_ok_iff.mp hclose with
              ⟨after, hafter, hs'⟩
            exact ⟨_, _, Separated.last hbefore htext hafter,
              by rw [hs, hs']; simp [Continuation.text], rfl⟩
  · intro h
    rcases h with ⟨text, display, htext, hs, hlists⟩
    rw [hs, hlists]
    cases htext with
    | last hbefore hnames hafter =>
        simp only [List.append_assoc, readDisplay,
          readNames_of_text hbefore hnames, readContinuation_close hafter]
    | more _ _ _ hrest => cases hrest

theorem readSymbolic_eq_ok_iff {lists lists' : Lists} {s rest : List Char} :
    readSymbolic lists s = .ok (lists', rest) ↔
      (exists text symbolic, Separated NamesText text [symbolic] ∧
        s = text ++ ']' :: rest ∧ lists' = lists.put symbolic .symbolic) ∨
      exists text symbolic display,
        Separated NamesText text [symbolic, display] ∧
        s = text ++ ']' :: rest ∧
        lists' = (lists.put symbolic .symbolic).put display .display := by
  constructor
  · intro h
    unfold readSymbolic at h
    split at h
    · cases h
    · next hnames =>
        rcases readNames_eq_ok_iff.mp hnames with
          ⟨before, text, hbefore, htext, hs⟩
        split at h
        · cases h
        · next hitem =>
            rcases readContinuation_eq_ok_iff.mp hitem with
              ⟨after, hafter, hs'⟩
            rcases readDisplay_eq_ok_iff.mp h with
              ⟨text', display, htext', hrest, hlists⟩
            exact Or.inr ⟨_, _, display,
              Separated.more hbefore htext hafter htext',
              by rw [hs, hs', hrest]; simp [Continuation.text], hlists⟩
        · next hclose =>
            cases h
            rcases readContinuation_eq_ok_iff.mp hclose with
              ⟨after, hafter, hs'⟩
            exact Or.inl ⟨_, _, Separated.last hbefore htext hafter,
              by rw [hs, hs']; simp [Continuation.text], rfl⟩
  · intro h
    rcases h with ⟨text, symbolic, htext, hs, hlists⟩ |
      ⟨text, symbolic, display, htext, hs, hlists⟩
    · rw [hs, hlists]
      cases htext with
      | last hbefore hnames hafter =>
          simp only [List.append_assoc, readSymbolic,
            readNames_of_text hbefore hnames, readContinuation_close hafter]
      | more _ _ _ hrest => cases hrest
    · rw [hs]
      cases htext with
      | more hbefore hnames hafter hrest =>
          simp only [List.append_assoc, List.cons_append, readSymbolic,
            readNames_of_text hbefore hnames, readContinuation_comma hafter]
          exact readDisplay_eq_ok_iff.mpr ⟨_, display, hrest, rfl, hlists⟩

/-- The lists of a table in the order of a document that is a list. -/
inductive InOrder : List (List (Option String)) -> Lists -> Prop where
  | pair {literal symbolic : List (Option String)} :
      InOrder [literal, symbolic]
        { literal := some literal, symbolic := some symbolic }
  | triple {literal symbolic display : List (Option String)} :
      InOrder [literal, symbolic, display]
        { literal := some literal, symbolic := some symbolic,
          display := some display }

theorem NamesText.exists_head {text : List Char}
    {names : List (Option String)} (h : NamesText text names) :
    exists tail, text = '[' :: tail := by
  cases h with
  | empty _ => exact ⟨_, rfl⟩
  | items _ => exact ⟨_, rfl⟩

theorem separated_of_readArray {s rest : List Char} {lists : Lists}
    (h : readArray s = .ok (lists, rest)) :
    exists text items, Separated NamesText text items ∧
      s = text ++ ']' :: rest ∧ InOrder items lists := by
  unfold readArray at h
  split at h
  · cases h
  · split at h
    · cases h
    · next hnames =>
        rw [readNames_skipSpace] at hnames
        rcases readNames_eq_ok_iff.mp hnames with
          ⟨before, text, hbefore, htext, hs⟩
        split at h
        · cases h
        · next hitem =>
            rcases readContinuation_eq_ok_iff.mp hitem with
              ⟨after, hafter, hs'⟩
            rcases readSymbolic_eq_ok_iff.mp h with
              ⟨text', symbolic, htext', hrest, hlists⟩ |
              ⟨text', symbolic, display, htext', hrest, hlists⟩
            · rw [hlists]
              exact ⟨_, _, Separated.more hbefore htext hafter htext',
                by rw [hs, hs', hrest]; simp [Continuation.text], InOrder.pair⟩
            · rw [hlists]
              exact ⟨_, _, Separated.more hbefore htext hafter htext',
                by rw [hs, hs', hrest]; simp [Continuation.text], InOrder.triple⟩
        · cases h

theorem readArray_comma {before text after : List Char}
    {names : List (Option String)} (hbefore : Gap before)
    (htext : NamesText text names) (hafter : Gap after) (rest : List Char) :
    readArray (before ++ (text ++ (after ++ ',' :: rest))) =
      readSymbolic (({} : Lists).put names .literal) rest := by
  rcases htext.exists_head with ⟨tail, htail⟩
  have hnames := readNames_of_text hbefore htext (after ++ ',' :: rest)
  have hskip : skipSpace (before ++ (text ++ (after ++ ',' :: rest))) =
      '[' :: (tail ++ (after ++ ',' :: rest)) :=
    skipSpace_eq_cons_iff.mpr ⟨rfl, before, hbefore, by rw [htail]; rfl⟩
  rw [← readNames_skipSpace, hskip] at hnames
  rw [readArray, hskip]
  split
  · next hclose => cases hclose
  · simp only [hnames, readContinuation_comma hafter]

theorem readArray_of_separated {text : List Char}
    {items : List (List (Option String))} {lists : Lists}
    (h : Separated NamesText text items) (horder : InOrder items lists)
    (rest : List Char) :
    readArray (text ++ ']' :: rest) = .ok (lists, rest) := by
  cases h with
  | last _ _ _ => cases horder
  | more hbefore hnames hafter hrest =>
      simp only [List.append_assoc, List.cons_append,
        readArray_comma hbefore hnames hafter]
      cases horder with
      | pair =>
          exact readSymbolic_eq_ok_iff.mpr
            (Or.inl ⟨_, _, hrest, rfl, rfl⟩)
      | triple =>
          exact readSymbolic_eq_ok_iff.mpr
            (Or.inr ⟨_, _, _, hrest, rfl, rfl⟩)

/-!
# Either form
-/

theorem readLists_of_list {before text : List Char}
    {items : List (List (Option String))} {lists : Lists}
    (hbefore : Gap before) (h : Bracketed .list NamesText text items)
    (horder : InOrder items lists) (rest : List Char) :
    readLists (before ++ (text ++ rest)) = .ok (lists, rest) := by
  cases h with
  | empty _ => cases horder
  | items hitems =>
      rw [List.cons_append, List.append_assoc,
        readLists_start .list hbefore]
      exact readArray_of_separated hitems horder rest

theorem text_of_readLists {s rest : List Char} {lists : Lists}
    (h : readLists s = .ok (lists, rest)) :
    exists before text, Gap before ∧ s = before ++ (text ++ rest) ∧
      ((exists ms, Bracketed .object MemberText text ms ∧
          ms.foldlM Lists.keep? {} = some lists) ∨
        exists items, Bracketed .list NamesText text items ∧
          InOrder items lists) := by
  unfold readLists at h
  split at h
  · cases h
  · next hspace =>
      rcases skipSpace_eq_cons_iff.mp hspace with ⟨_, before, hbefore, hs⟩
      split at h
      · next hc =>
          rcases bracketed_of_readObject h with ⟨text, ms, htext, hrest, hms⟩
          exact ⟨before, _, hbefore, by rw [hs, hc, hrest]; rfl,
            Or.inl ⟨ms, htext, hms⟩⟩
      split at h
      · next hc =>
          rcases separated_of_readArray h with
            ⟨text, items, htext, hrest, horder⟩
          exact ⟨before, _, hbefore,
            by rw [hs, hc, hrest]; simp [Frame.start, Frame.close],
            Or.inr ⟨items, Bracketed.items htext, horder⟩⟩
      · cases h

end Cache
end TokenNames
