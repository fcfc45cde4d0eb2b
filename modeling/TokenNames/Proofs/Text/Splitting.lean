import TokenNames.Text.Lines

/-!
# Splitting texts

## Lines and cuts

The laws of the two ways in which a text is taken apart: into lines, and at the last
occurrence of a character.
-/

namespace TokenNames
namespace Text

/-- The lines of a text.  Each line but the last one ends with a line feed, before which a
carriage return can stand. -/
inductive SplitsInto : List Char -> List (List Char) -> Prop where
  | nil : SplitsInto [] []
  | last {line : List Char} :
      '\n' ∉ line -> line ≠ [] -> SplitsInto line [line]
  | newline {line rest : List Char} {ls : List (List Char)} :
      '\n' ∉ line -> '\r' ∉ line.getLast? -> SplitsInto rest ls ->
      SplitsInto (line ++ '\n' :: rest) (line :: ls)
  | returnNewline {line rest : List Char} {ls : List (List Char)} :
      '\n' ∉ line -> SplitsInto rest ls ->
      SplitsInto (line ++ '\r' :: '\n' :: rest) (line :: ls)

/-!
# Pieces

A piece ends at its only line feed, so a text without one is a single piece.
-/

theorem pieces_append_newline {line : List Char} (hline : '\n' ∉ line)
    (rest : List Char) :
    pieces (line ++ '\n' :: rest) = (line ++ ['\n']) :: pieces rest := by
  induction line with
  | nil => rfl
  | cons c line ih =>
      rw [List.mem_cons, not_or] at hline
      rw [List.cons_append, pieces_cons, ih hline.2, consPiece,
        if_neg (Ne.symm hline.1)]
      rfl

theorem pieces_of_newline_not_mem {line : List Char} (hline : '\n' ∉ line)
    (hne : line ≠ []) : pieces line = [line] := by
  induction line with
  | nil => exact absurd rfl hne
  | cons c line ih =>
      rw [List.mem_cons, not_or] at hline
      by_cases hrest : line = []
      · rw [hrest, pieces_cons, pieces_nil]
        unfold consPiece
        rw [if_neg (Ne.symm hline.1)]
      · rw [pieces_cons, ih hline.2 hrest]
        unfold consPiece
        rw [if_neg (Ne.symm hline.1)]

theorem exists_body_of_mem_pieces {piece cs : List Char}
    (hpiece : piece ∈ pieces cs) :
    exists body, '\n' ∉ body ∧ (piece = body ∨ piece = body ++ ['\n']) := by
  induction cs generalizing piece with
  | nil => cases hpiece
  | cons c cs ih =>
      rw [pieces_cons] at hpiece
      unfold consPiece at hpiece
      split at hpiece
      · next hc =>
          rcases List.mem_cons.mp hpiece with hfirst | hlater
          · exists []
            constructor
            · exact List.not_mem_nil
            · right
              rw [hfirst, hc]
              rfl
          · exact ih hlater
      · next hc =>
          split at hpiece
          · next hnone =>
              exists [c]
              constructor
              · simpa using Ne.symm hc
              · left
                simpa using hpiece
          · next first later hsome =>
              -- Only the first piece grows; the others are pieces of the rest.
              rcases List.mem_cons.mp hpiece with hfirst | hlater
              · have hmem : first ∈ pieces cs := by
                  rw [hsome]
                  exact List.mem_cons_self
                rcases ih hmem with ⟨body, hbody, hends⟩
                exists c :: body
                constructor
                · simpa using ⟨Ne.symm hc, hbody⟩
                · rcases hends with hopen | hended
                  · left
                    rw [hfirst, hopen]
                  · right
                    rw [hfirst, hended]
                    rfl
              · apply ih
                rw [hsome]
                exact List.mem_cons_of_mem _ hlater

/-!
# Lines

Every text is a line that does not contain a line feed, alone or followed by a line feed
and a further text.  The laws say what the lines are in each case.
-/

theorem dropLineEnd_append_newline {line : List Char}
    (hreturn : '\r' ∉ line.getLast?) :
    dropLineEnd (line ++ ['\n']) = line := by
  unfold dropLineEnd
  split
  · next rest h =>
      have hline : line ++ ['\n'] = (rest.reverse ++ ['\r']) ++ ['\n'] := by
        simpa using congrArg List.reverse h
      rw [List.append_cancel_right hline] at hreturn
      simp at hreturn
  · next rest _ h =>
      simpa using (congrArg List.reverse h).symm
  · next hother =>
      exact absurd (by simp) (hother line.reverse)

theorem dropLineEnd_append_return_newline (line : List Char) :
    dropLineEnd (line ++ ['\r', '\n']) = line := by
  simp [dropLineEnd]

theorem dropLineEnd_of_newline_not_mem {line : List Char}
    (hline : '\n' ∉ line) : dropLineEnd line = line := by
  unfold dropLineEnd
  split
  · next rest h =>
      have hmem : '\n' ∈ line.reverse := by
        rw [h]
        exact List.mem_cons_self
      exact absurd (List.mem_reverse.mp hmem) hline
  · next rest _ h =>
      have hmem : '\n' ∈ line.reverse := by
        rw [h]
        exact List.mem_cons_self
      exact absurd (List.mem_reverse.mp hmem) hline
  · rfl

theorem newline_not_mem_dropLineEnd {body piece : List Char}
    (hbody : '\n' ∉ body) (hends : piece = body ∨ piece = body ++ ['\n']) :
    '\n' ∉ dropLineEnd piece := by
  rcases hends with hopen | hended
  · rw [hopen, dropLineEnd_of_newline_not_mem hbody]
    exact hbody
  · rw [hended]
    by_cases hreturn : '\r' ∈ body.getLast?
    · rcases List.getLast?_eq_some_iff.mp hreturn with ⟨front, hfront⟩
      rw [hfront, List.append_assoc]
      rw [show ['\r'] ++ ['\n'] = ['\r', '\n'] from rfl,
        dropLineEnd_append_return_newline]
      intro hmem
      apply hbody
      rw [hfront]
      exact List.mem_append_left _ hmem
    · rw [dropLineEnd_append_newline hreturn]
      exact hbody

theorem newline_not_mem_of_mem_lines {line cs : List Char}
    (hline : line ∈ lines cs) : '\n' ∉ line := by
  rcases List.mem_map.mp hline with ⟨piece, hpiece, hdrop⟩
  rcases exists_body_of_mem_pieces hpiece with ⟨body, hbody, hends⟩
  rw [← hdrop]
  exact newline_not_mem_dropLineEnd hbody hends

theorem lines_nil : lines [] = [] := rfl

theorem lines_append_newline {line : List Char} (hline : '\n' ∉ line)
    (hreturn : '\r' ∉ line.getLast?) (rest : List Char) :
    lines (line ++ '\n' :: rest) = line :: lines rest := by
  rw [lines, pieces_append_newline hline, List.map_cons,
    dropLineEnd_append_newline hreturn]
  rfl

theorem lines_append_return_newline {line : List Char} (hline : '\n' ∉ line)
    (rest : List Char) :
    lines (line ++ '\r' :: '\n' :: rest) = line :: lines rest := by
  have hreturn : '\n' ∉ line ++ ['\r'] := by
    simpa using hline
  have hpieces := pieces_append_newline hreturn rest
  rw [List.append_assoc, List.append_assoc] at hpieces
  rw [lines, show line ++ '\r' :: '\n' :: rest =
      line ++ (['\r'] ++ '\n' :: rest) from rfl, hpieces, List.map_cons]
  rw [show line ++ (['\r'] ++ ['\n']) = line ++ ['\r', '\n'] from rfl,
    dropLineEnd_append_return_newline]
  rfl

theorem lines_of_newline_not_mem {line : List Char} (hline : '\n' ∉ line)
    (hne : line ≠ []) : lines line = [line] := by
  rw [lines, pieces_of_newline_not_mem hline hne, List.map_singleton,
    dropLineEnd_of_newline_not_mem hline]

theorem lines_of_splitsInto {cs : List Char} {ls : List (List Char)}
    (h : SplitsInto cs ls) : lines cs = ls := by
  induction h with
  | nil => exact lines_nil
  | last hline hne => exact lines_of_newline_not_mem hline hne
  | newline hline hreturn _ ih =>
      rw [lines_append_newline hline hreturn, ih]
  | returnNewline hline _ ih =>
      rw [lines_append_return_newline hline, ih]

theorem exists_splitsInto (cs : List Char) : exists ls, SplitsInto cs ls := by
  by_cases hfeed : '\n' ∈ cs
  · rcases List.eq_append_cons_of_mem hfeed with ⟨line, rest, hcs, hline⟩
    have hshorter : rest.length < cs.length := by
      rw [hcs, List.length_append, List.length_cons]
      omega
    rcases exists_splitsInto rest with ⟨ls, hrest⟩
    rw [hcs]
    by_cases hreturn : '\r' ∈ line.getLast?
    · rcases List.getLast?_eq_some_iff.mp hreturn with ⟨front, hfront⟩
      have hclean : '\n' ∉ front := by
        intro hmem
        apply hline
        rw [hfront]
        exact List.mem_append_left _ hmem
      exists front :: ls
      rw [hfront, List.append_assoc]
      exact SplitsInto.returnNewline hclean hrest
    · exact ⟨line :: ls, SplitsInto.newline hline hreturn hrest⟩
  · by_cases hnil : cs = []
    · rw [hnil]
      exact ⟨[], SplitsInto.nil⟩
    · exact ⟨[cs], SplitsInto.last hfeed hnil⟩
termination_by cs.length

theorem splitsInto_iff {cs : List Char} {ls : List (List Char)} :
    SplitsInto cs ls ↔ lines cs = ls := by
  constructor
  · exact lines_of_splitsInto
  · intro h
    rcases exists_splitsInto cs with ⟨ls', hsplits⟩
    rw [lines_of_splitsInto hsplits] at h
    rw [← h]
    exact hsplits

/-!
# Two texts

A line of two texts together belongs to one of them, provided that the first text does not
stop in the middle of a line.  Each line of such a text has a line feed of its own.
-/

/-- A text that stops where a line ends. -/
def EndsLine (cs : List Char) : Prop :=
  cs = [] ∨ cs.getLast? = some '\n'

theorem not_endsLine_of_newline_not_mem {line : List Char} (hline : '\n' ∉ line)
    (hne : line ≠ []) : ¬ EndsLine line := by
  intro hend
  rcases hend with hnil | hlast
  · exact hne hnil
  · exact hline (List.mem_of_getLast? hlast)

theorem EndsLine.back {front back : List Char}
    (h : EndsLine (front ++ back)) : EndsLine back := by
  cases hback : back.getLast? with
  | none => exact Or.inl (List.getLast?_eq_none_iff.mp hback)
  | some c =>
      right
      rcases h with hnil | hlast
      · rw [(List.append_eq_nil_iff.mp hnil).right] at hback
        cases hback
      · rw [List.getLast?_append, hback] at hlast
        rw [hback]
        exact hlast

theorem EndsLine.tail {c : Char} {cs : List Char} (h : EndsLine (c :: cs)) :
    EndsLine cs :=
  @EndsLine.back [c] cs h

theorem SplitsInto.append {cs ds : List Char} {ls ms : List (List Char)}
    (hcs : SplitsInto cs ls) (hend : EndsLine cs) (hds : SplitsInto ds ms) :
    SplitsInto (cs ++ ds) (ls ++ ms) := by
  induction hcs with
  | nil => exact hds
  | last hline hne =>
      exact absurd hend (not_endsLine_of_newline_not_mem hline hne)
  | newline hline hreturn _ ih =>
      rw [List.append_assoc]
      exact SplitsInto.newline hline hreturn (ih hend.back.tail)
  | returnNewline hline _ ih =>
      rw [List.append_assoc]
      exact SplitsInto.returnNewline hline (ih hend.back.tail.tail)

theorem SplitsInto.length {cs : List Char} {ls : List (List Char)}
    (hcs : SplitsInto cs ls) (hend : EndsLine cs) :
    ls.length = cs.count '\n' := by
  induction hcs with
  | nil => rfl
  | last hline hne =>
      exact absurd hend (not_endsLine_of_newline_not_mem hline hne)
  | newline hline _ _ ih =>
      rw [List.length_cons, ih hend.back.tail, List.count_append,
        List.count_eq_zero.mpr hline, List.count_cons_self, Nat.zero_add]
  | returnNewline hline _ ih =>
      rw [List.length_cons, ih hend.back.tail.tail, List.count_append,
        List.count_eq_zero.mpr hline, List.count_cons_of_ne (by decide),
        List.count_cons_self, Nat.zero_add]

theorem lines_append {cs : List Char} (h : EndsLine cs) (ds : List Char) :
    lines (cs ++ ds) = lines cs ++ lines ds := by
  rcases exists_splitsInto cs with ⟨ls, hcs⟩
  rcases exists_splitsInto ds with ⟨ms, hds⟩
  rw [lines_of_splitsInto hcs, lines_of_splitsInto hds,
    lines_of_splitsInto (hcs.append h hds)]

theorem length_lines {cs : List Char} (h : EndsLine cs) :
    (lines cs).length = cs.count '\n' := by
  rcases exists_splitsInto cs with ⟨ls, hcs⟩
  rw [lines_of_splitsInto hcs, hcs.length h]

/-!
# Cuts

The two parts of a cut are determined by the text, since the second one does not contain
the mark.
-/

theorem exists_last_of_mem {mark : Char} {cs : List Char} (hmark : mark ∈ cs) :
    exists before after, cs = before ++ mark :: after ∧ mark ∉ after := by
  rcases List.eq_append_cons_of_mem (List.mem_reverse.mpr hmark) with
    ⟨front, back, hsplit, hfree⟩
  exists back.reverse, front.reverse
  constructor
  · simpa using congrArg List.reverse hsplit
  · simpa using hfree

theorem cutAtLast_eq_none_iff {mark : Char} {cs : List Char} :
    cutAtLast mark cs = none ↔ mark ∉ cs := by
  constructor
  · intro h hmark
    rcases exists_last_of_mem hmark with ⟨before, after, hcs, hfree⟩
    rw [hcs, cutAtLast_append hfree] at h
    cases h
  · exact cutAtLast_eq_none

theorem cutAtLast_eq_some_iff {mark : Char} {cs before after : List Char} :
    cutAtLast mark cs = some (before, after) ↔
      cs = before ++ mark :: after ∧ mark ∉ after := by
  constructor
  · intro h
    have hmark : mark ∈ cs := by
      apply Decidable.byContradiction
      intro hno
      rw [cutAtLast_eq_none hno] at h
      cases h
    rcases exists_last_of_mem hmark with ⟨front, back, hcs, hfree⟩
    rw [hcs, cutAtLast_append hfree] at h
    cases h
    exact ⟨hcs, hfree⟩
  · intro h
    rcases h with ⟨hcs, hfree⟩
    rw [hcs, cutAtLast_append hfree]

/-!
# Line ends

A carriage return in front of a line feed belongs to the line end, so it makes no
difference to the lines of a text unless another one stands in front of it.
-/

theorem mem_of_mem_lines {line cs : List Char} (hline : line ∈ lines cs)
    {c : Char} (hc : c ∈ line) : c ∈ cs := by
  rcases exists_splitsInto cs with ⟨ls, hcs⟩
  rw [lines_of_splitsInto hcs] at hline
  induction hcs with
  | nil => cases hline
  | last _ _ =>
      rw [List.mem_singleton.mp hline] at hc
      exact hc
  | newline _ _ _ ih =>
      rcases List.mem_cons.mp hline with hfirst | hlater
      · rw [hfirst] at hc
        exact List.mem_append_left _ hc
      · exact List.mem_append_right _ (List.mem_cons_of_mem _ (ih hlater))
  | returnNewline _ _ ih =>
      rcases List.mem_cons.mp hline with hfirst | hlater
      · rw [hfirst] at hc
        exact List.mem_append_left _ hc
      · apply List.mem_append_right
        exact List.mem_cons_of_mem _ (List.mem_cons_of_mem _ (ih hlater))

theorem exists_line_of_newline {line : List Char} (hline : '\n' ∉ line)
    (rest : List Char) :
    exists first, lines (line ++ '\n' :: rest) = first :: lines rest ∧
      (line = first ∨ line = first ++ ['\r']) := by
  by_cases hreturn : '\r' ∈ line.getLast?
  · rcases List.getLast?_eq_some_iff.mp hreturn with ⟨first, hfirst⟩
    rw [hfirst, List.mem_append, not_or] at hline
    exists first
    rw [hfirst, List.append_assoc]
    exact ⟨lines_append_return_newline hline.left rest, Or.inr rfl⟩
  · exact ⟨line, lines_append_newline hline hreturn rest, Or.inl rfl⟩

theorem exists_open_line (cs : List Char) :
    exists before line, cs = before ++ line ∧ EndsLine before ∧
      '\n' ∉ line := by
  by_cases hfeed : '\n' ∈ cs
  · rcases exists_last_of_mem hfeed with ⟨before, line, hcs, hfree⟩
    refine ⟨before ++ ['\n'], line, ?_, Or.inr ?_, hfree⟩
    · rw [hcs, List.append_assoc]
      rfl
    · exact List.getLast?_concat
  · exact ⟨[], cs, rfl, Or.inl rfl, hfeed⟩

end Text
end TokenNames
