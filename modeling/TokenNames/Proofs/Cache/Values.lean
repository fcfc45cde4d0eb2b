import TokenNames.Cache.Skip
import TokenNames.Proofs.Cache.Numbers

/-!
# The text of a value

## Nested values and open brackets

A value is a scalar or holds further values in brackets, to any depth.  Skipping keeps no
more than a stack of the brackets that are open, so the text behind a value has to close
all of them before a value has been skipped.  What the stack demands of that text is a
grammar of its own, and each step of skipping takes apart one piece of it.
-/

namespace TokenNames
namespace Cache

def Frame.start : Frame -> Char
  | .list => '['
  | .object => '\x7b'

inductive Scalar : List Char -> Prop where
  | null : Scalar ['n', 'u', 'l', 'l']
  | true : Scalar ['t', 'r', 'u', 'e']
  | false : Scalar ['f', 'a', 'l', 's', 'e']
  | string {text : List Char} :
      InQuotes text -> Scalar ('"' :: (text ++ ['"']))
  | number {text : List Char} : Unsigned text -> Scalar text
  | negative {text : List Char} : Unsigned text -> Scalar ('-' :: text)

/-- The text in front of the value of an item: nothing in a list, a key in an object. -/
inductive Label : Frame -> List Char -> Prop where
  | list : Label .list []
  | object {before key after : List Char} :
      Gap before -> InQuotes key -> Gap after ->
      Label .object (before ++ '"' :: (key ++ '"' :: (after ++ [':'])))

inductive Part where
  | value
  | items (frame : Frame)

/-- The text of a value of any kind, and of the items that it holds. -/
inductive Json : Part -> List Char -> Prop where
  | scalar {text : List Char} : Scalar text -> Json .value text
  | empty {frame : Frame} {gap : List Char} :
      Gap gap -> Json .value (frame.start :: (gap ++ [frame.close]))
  | nested {frame : Frame} {items : List Char} :
      Json (.items frame) items ->
      Json .value (frame.start :: (items ++ [frame.close]))
  | last {frame : Frame} {label before text after : List Char} :
      Label frame label -> Gap before -> Json .value text -> Gap after ->
      Json (.items frame) (label ++ (before ++ (text ++ after)))
  | more {frame : Frame} {label before text after items : List Char} :
      Label frame label -> Gap before -> Json .value text -> Gap after ->
      Json (.items frame) items ->
      Json (.items frame)
        (label ++ (before ++ (text ++ (after ++ ',' :: items))))

/-!
# Scalars
-/

theorem readWord_eq_ok_iff {word s rest : List Char} :
    readWord word s = .ok rest ↔ s = word ++ rest := by
  induction word generalizing s with
  | nil =>
      rw [readWord]
      simp
  | cons w word ih =>
      cases s with
      | nil =>
          rw [readWord]
          simp
      | cons c s =>
          rw [readWord]
          split
          · next hc =>
              rw [ih, hc]
              simp
          · next hc =>
              simp [hc]

theorem ne_of_isDigit {c d : Char} (hc : c.isDigit = true)
    (hd : d.isDigit = false) : c ≠ d := by
  intro h
  rw [h, hd] at hc
  cases hc

theorem isSpace_of_isDigit {c : Char} (hc : c.isDigit = true) :
    isSpace c = false := by
  simp [isSpace, ne_of_isDigit hc]

theorem scalar_of_skipScalar {c : Char} {s rest : List Char}
    (h : skipScalar c s = .ok rest) :
    exists text, Scalar text ∧ c :: s = text ++ rest := by
  unfold skipScalar at h
  split at h
  · next hc =>
      rw [hc, readWord_eq_ok_iff.mp h]
      exact ⟨_, Scalar.null, rfl⟩
  split at h
  · next hc =>
      rw [hc, readWord_eq_ok_iff.mp h]
      exact ⟨_, Scalar.true, rfl⟩
  split at h
  · next hc =>
      rw [hc, readWord_eq_ok_iff.mp h]
      exact ⟨_, Scalar.false, rfl⟩
  split at h
  · next hc =>
      rcases skipString_eq_ok_iff.mp h with ⟨text, htext, hs⟩
      exact ⟨_, Scalar.string htext, by rw [hc, hs]; simp⟩
  split at h
  · next hc =>
      rcases unsigned_of_skipNumber h with ⟨text, htext, hs⟩
      exact ⟨_, Scalar.negative htext, by rw [hc, hs]; rfl⟩
  split at h
  · rcases unsigned_of_skipNumber h with ⟨text, htext, hs⟩
    exact ⟨_, Scalar.number htext, hs⟩
  · cases h

theorem skipScalar_of_digit {c : Char} (hc : c.isDigit = true)
    (s : List Char) : skipScalar c s = skipNumber (c :: s) := by
  unfold skipScalar
  rw [if_neg (ne_of_isDigit hc rfl), if_neg (ne_of_isDigit hc rfl),
    if_neg (ne_of_isDigit hc rfl), if_neg (ne_of_isDigit hc rfl),
    if_neg (ne_of_isDigit hc rfl), if_pos hc]

structure StartsScalar (c : Char) : Prop where
  not_space : isSpace c = false
  not_start : forall frame : Frame, c ≠ frame.start
  not_close : forall frame : Frame, c ≠ frame.close

theorem startsScalar_of_digit {c : Char} (hc : c.isDigit = true) :
    StartsScalar c where
  not_space := isSpace_of_isDigit hc
  not_start := by
    intro frame
    cases frame <;> exact ne_of_isDigit hc rfl
  not_close := by
    intro frame
    cases frame <;> exact ne_of_isDigit hc rfl

theorem startsScalar_of_mark {c : Char} (hc : c ∈ ['n', 't', 'f', '"', '-']) :
    StartsScalar c := by
  simp only [List.mem_cons, List.not_mem_nil, or_false] at hc
  rcases hc with rfl | rfl | rfl | rfl | rfl
  all_goals
    constructor
    · rfl
    · intro frame
      cases frame <;> decide
    · intro frame
      cases frame <;> decide

theorem Scalar.skip {text rest : List Char} (h : Scalar text)
    (hends : Ends rest) :
    exists c tail, text = c :: tail ∧ StartsScalar c ∧
      skipScalar c (tail ++ rest) = .ok rest := by
  cases h with
  | null => exact ⟨'n', _, rfl, startsScalar_of_mark (by decide), rfl⟩
  | true => exact ⟨'t', _, rfl, startsScalar_of_mark (by decide), rfl⟩
  | false => exact ⟨'f', _, rfl, startsScalar_of_mark (by decide), rfl⟩
  | string htext =>
      refine ⟨'"', _, rfl, startsScalar_of_mark (by decide), ?_⟩
      rw [List.append_assoc]
      exact htext.skipString rest
  | number htext =>
      rcases htext.exists_digit with ⟨c, tail, htail, hc⟩
      refine ⟨c, tail, htail, startsScalar_of_digit hc, ?_⟩
      rw [skipScalar_of_digit hc, ← List.cons_append, ← htail]
      exact htext.skip hends
  | negative htext =>
      exact ⟨'-', _, rfl, startsScalar_of_mark (by decide),
        htext.skip hends⟩

/-!
# Labels
-/

theorem skipColon_eq_ok_iff {s rest : List Char} :
    skipColon s = .ok rest ↔
      exists gap, Gap gap ∧ s = gap ++ ':' :: rest := by
  constructor
  · intro h
    unfold skipColon at h
    split at h
    · cases h
    · next hspace =>
        split at h
        · next hc =>
            cases h
            rw [hc] at hspace
            exact (skipSpace_eq_cons_iff.mp hspace).right
        · cases h
  · intro h
    rw [skipColon, skipSpace_eq_cons_iff.mpr ⟨rfl, h⟩]
    exact if_pos rfl

theorem startItem_eq_ok_iff {frame : Frame} {outer : List Frame}
    {s : List Char} {p : Progress} :
    startItem frame outer s = .ok p ↔
      exists label rest, Label frame label ∧ s = label ++ rest ∧
        p = .due (frame :: outer) rest := by
  constructor
  · intro h
    unfold startItem at h
    split at h
    · cases h
      exact ⟨[], s, Label.list, rfl, rfl⟩
    · split at h
      · cases h
      · next hspace =>
          split at h
          · next hc =>
              rw [hc] at hspace
              rcases skipSpace_eq_cons_iff.mp hspace with
                ⟨_, before, hbefore, hs⟩
              split at h
              · cases h
              · next hstring =>
                  rcases skipString_eq_ok_iff.mp hstring with
                    ⟨key, hkey, hrest⟩
                  rcases map_eq_ok_iff.mp h with ⟨rest, hcolon, heq⟩
                  rcases skipColon_eq_ok_iff.mp hcolon with
                    ⟨after, hafter, hs'⟩
                  refine ⟨_, rest, Label.object hbefore hkey hafter, ?_,
                    heq.symm⟩
                  rw [hs, hrest, hs']
                  simp
          · cases h
  · intro h
    rcases h with ⟨label, rest, hlabel, hs, hp⟩
    rw [hs, hp]
    cases hlabel with
    | list => rfl
    | object hbefore hkey hafter =>
        next before key after =>
          have hspace : skipSpace (before ++ '"' :: (key ++ '"' ::
              (after ++ [':'])) ++ rest) =
              '"' :: (key ++ '"' :: (after ++ ':' :: rest)) :=
            skipSpace_eq_cons_iff.mpr ⟨rfl, before, hbefore, by simp⟩
          have hcolon : skipColon (after ++ ':' :: rest) = .ok rest :=
            skipColon_eq_ok_iff.mpr ⟨after, hafter, rfl⟩
          unfold startItem
          simp only [hspace, if_true, hkey.skipString, hcolon]
          rfl

/-!
# What was skipped

A place that skipping has reached is completed by a value, where one is due, and by text
that closes the brackets around it.  Each step goes from a place to the next, and what
completes the next place completes the place before it.
-/

/-- The text behind a value, up to the end of the outermost bracket. -/
inductive Closes : List Frame -> List Char -> Prop where
  | done : Closes [] []
  | close {frame : Frame} {outer : List Frame} {gap tail : List Char} :
      Gap gap -> Closes outer tail ->
      Closes (frame :: outer) (gap ++ frame.close :: tail)
  | item {frame : Frame} {outer : List Frame}
      {gap items tail : List Char} :
      Gap gap -> Json (.items frame) items -> Closes outer tail ->
      Closes (frame :: outer) (gap ++ ',' :: (items ++ frame.close :: tail))

/-- From a place onwards, the text goes on to a rest where skipping is done. -/
def Completes : Progress -> List Char -> Prop
  | .done s, rest => s = rest
  | .due frames s, rest =>
      exists before text tail, Gap before ∧ Json .value text ∧
        Closes frames tail ∧ s = before ++ (text ++ (tail ++ rest))

theorem Gap.append {gap gap' : List Char} (h : Gap gap) (h' : Gap gap') :
    Gap (gap ++ gap') := by
  intro c hc
  rcases List.mem_append.mp hc with hc | hc
  · exact h c hc
  · exact h' c hc

theorem Label.exists_of_gap {frame : Frame} {gap label before : List Char}
    (h : Label frame label) (hgap : Gap gap) (hbefore : Gap before) :
    exists label' before', Label frame label' ∧ Gap before' ∧
      gap ++ (label ++ before) = label' ++ before' := by
  cases h with
  | list => exact ⟨[], gap ++ before, Label.list, hgap.append hbefore, rfl⟩
  | object hfront hkey hafter =>
      exact ⟨_, before, Label.object (hgap.append hfront) hkey hafter,
        hbefore, by simp⟩

theorem Json.items_of_gap {frame : Frame} {gap items : List Char}
    (h : Json (.items frame) items) (hgap : Gap gap) :
    Json (.items frame) (gap ++ items) := by
  cases h with
  | last hlabel hbefore htext hafter =>
      rcases hlabel.exists_of_gap hgap hbefore with
        ⟨label', before', hlabel', hbefore', heq⟩
      have hitems := Json.last hlabel' hbefore' htext hafter
      rw [← List.append_assoc, ← heq] at hitems
      simpa using hitems
  | more hlabel hbefore htext hafter hmore =>
      rcases hlabel.exists_of_gap hgap hbefore with
        ⟨label', before', hlabel', hbefore', heq⟩
      have hitems := Json.more hlabel' hbefore' htext hafter hmore
      rw [← List.append_assoc, ← heq] at hitems
      simpa using hitems

theorem closes_of_startItem {frame : Frame} {outer : List Frame}
    {s rest : List Char} {p : Progress}
    (h : startItem frame outer s = .ok p) (hp : Completes p rest) :
    exists items tail, Json (.items frame) items ∧ Closes outer tail ∧
      s = items ++ frame.close :: (tail ++ rest) := by
  rcases startItem_eq_ok_iff.mp h with ⟨label, s', hlabel, hs, hdue⟩
  rw [hdue] at hp
  rcases hp with ⟨before, text, tail, hbefore, htext, htail, hs'⟩
  cases htail with
  | close hgap htail =>
      exact ⟨_, _, Json.last hlabel hbefore htext hgap, htail,
        by rw [hs, hs']; simp⟩
  | item hgap hitems htail =>
      exact ⟨_, _, Json.more hlabel hbefore htext hgap hitems, htail,
        by rw [hs, hs']; simp⟩

theorem closes_of_finishValue {frames : List Frame} {s rest : List Char}
    {p : Progress} (h : finishValue frames s = .ok p)
    (hp : Completes p rest) :
    exists tail, Closes frames tail ∧ s = tail ++ rest := by
  -- Only a closing bracket goes on to the frame outside; a comma starts the next item.
  induction frames generalizing s with
  | nil =>
      cases h
      exact ⟨[], Closes.done, hp⟩
  | cons frame outer ih =>
      unfold finishValue at h
      split at h
      · cases h
      · next hspace =>
          rcases skipSpace_eq_cons_iff.mp hspace with ⟨_, gap, hgap, hs⟩
          split at h
          · next hc =>
              rcases closes_of_startItem h hp with
                ⟨items, tail, hitems, htail, hrest⟩
              exact ⟨_, Closes.item hgap hitems htail,
                by rw [hs, hc, hrest]; simp⟩
          split at h
          · next hc =>
              rcases ih h with ⟨tail, htail, hrest⟩
              exact ⟨_, Closes.close hgap htail,
                by rw [hs, hc, hrest]; simp⟩
          · cases h

theorem closes_of_openFrame {frame : Frame} {outer : List Frame}
    {s rest : List Char} {p : Progress}
    (h : openFrame frame outer s = .ok p) (hp : Completes p rest) :
    exists inner tail, Json .value (frame.start :: inner) ∧
      Closes outer tail ∧ s = inner ++ (tail ++ rest) := by
  unfold openFrame at h
  split at h
  · cases h
  · next hspace =>
      rcases skipSpace_eq_cons_iff.mp hspace with ⟨_, gap, hgap, hs⟩
      split at h
      · next hc =>
          rcases closes_of_finishValue h hp with ⟨tail, htail, hrest⟩
          exact ⟨_, tail, Json.empty hgap, htail,
            by rw [hs, hc, hrest]; simp⟩
      · rcases closes_of_startItem h hp with
          ⟨items, tail, hitems, htail, hrest⟩
        exact ⟨_, tail, Json.nested (hitems.items_of_gap hgap), htail,
          by rw [hs, hrest]; simp⟩

theorem completes_of_advance {frames : List Frame} {s rest : List Char}
    {p : Progress} (h : advance frames s = .ok p) (hp : Completes p rest) :
    Completes (.due frames s) rest := by
  have hopen : forall (frame : Frame) {s' : List Char},
      skipSpace s = frame.start :: s' -> openFrame frame frames s' = .ok p ->
        Completes (.due frames s) rest := by
    intro frame s' hspace hframe
    rcases skipSpace_eq_cons_iff.mp hspace with ⟨_, before, hbefore, hs⟩
    rcases closes_of_openFrame hframe hp with ⟨inner, tail, htext, htail, hs'⟩
    exact ⟨before, _, tail, hbefore, htext, htail, by rw [hs, hs']; rfl⟩
  unfold advance at h
  split at h
  · cases h
  · next hspace =>
      split at h
      · next hc =>
          rw [hc] at hspace
          exact hopen .list hspace h
      split at h
      · next hc =>
          rw [hc] at hspace
          exact hopen .object hspace h
      · split at h
        · cases h
        · next hscalar =>
            rcases skipSpace_eq_cons_iff.mp hspace with
              ⟨_, before, hbefore, hs⟩
            rcases scalar_of_skipScalar hscalar with ⟨text, htext, hs'⟩
            rcases closes_of_finishValue h hp with ⟨tail, htail, hrest⟩
            exact ⟨before, text, tail, hbefore, Json.scalar htext, htail,
              by rw [hs, hs', hrest]⟩

theorem completes_of_skipValues {frames : List Frame} {s rest : List Char}
    (h : skipValues frames s = .ok rest) :
    Completes (.due frames s) rest := by
  fun_induction skipValues frames s with
  | case1 => cases h
  | case2 frames s rest' hadvance =>
      cases h
      exact completes_of_advance hadvance rfl
  | case3 frames s frames' rest' hadvance _ ih =>
      exact completes_of_advance hadvance (ih h)

theorem json_of_skipValue {s rest : List Char} (h : skipValue s = .ok rest) :
    exists before text, Gap before ∧ Json .value text ∧
      s = before ++ (text ++ rest) := by
  rcases completes_of_skipValues h with
    ⟨before, text, tail, hbefore, htext, htail, hs⟩
  cases htail with
  | done => exact ⟨before, text, hbefore, htext, hs⟩

/-!
# What can be skipped

In the other direction, skipping goes past each value of the grammar to the place that
comes next.  What lies behind the value must not look like the rest of a number.
-/

def Progress.complete : Progress -> Except Fault (List Char)
  | .done rest => .ok rest
  | .due frames rest => skipValues frames rest

theorem skipValues_eq (frames : List Frame) (s : List Char) :
    skipValues frames s = (advance frames s).bind Progress.complete := by
  rw [skipValues]
  split
  · next h =>
      rw [h]
      rfl
  · next h =>
      rw [h]
      rfl
  · next h =>
      show skipValues _ _ = _
      rw [h]
      rfl

theorem ends_cons {c : Char} (hdigit : c.isDigit = false) (hpoint : c ≠ '.')
    (hlower : c ≠ 'e') (hupper : c ≠ 'E') (s : List Char) : Ends (c :: s) where
  stops := stops_cons hdigit s
  no_point := by
    intro h
    cases h
    exact hpoint rfl
  no_exponent := by
    constructor
    · intro h
      cases h
      exact hlower rfl
    · intro h
      cases h
      exact hupper rfl

theorem Gap.ends {gap rest : List Char} (h : Gap gap) (hrest : Ends rest) :
    Ends (gap ++ rest) := by
  cases gap with
  | nil => exact hrest
  | cons c gap =>
      have hc := h c List.mem_cons_self
      simp only [isSpace, Bool.or_eq_true, beq_iff_eq] at hc
      rcases hc with ((hc | hc) | hc) | hc <;> rw [hc] <;>
        exact ends_cons rfl (by decide) (by decide) (by decide) _

theorem ends_comma (s : List Char) : Ends (',' :: s) :=
  ends_cons rfl (by decide) (by decide) (by decide) s

theorem ends_close (frame : Frame) (s : List Char) :
    Ends (frame.close :: s) := by
  cases frame <;> exact ends_cons rfl (by decide) (by decide) (by decide) s

theorem isSpace_close (frame : Frame) : isSpace frame.close = false := by
  cases frame <;> rfl

theorem close_ne_comma (frame : Frame) : frame.close ≠ ',' := by
  cases frame <;> decide

theorem isSpace_start (frame : Frame) : isSpace frame.start = false := by
  cases frame <;> rfl

theorem start_ne_close (frame frame' : Frame) :
    frame.start ≠ frame'.close := by
  cases frame <;> cases frame' <;> decide

section Steps

variable {gap : List Char} (hgap : Gap gap)
include hgap

theorem finishValue_close (frame : Frame) (outer : List Frame)
    (rest : List Char) :
    finishValue (frame :: outer) (gap ++ frame.close :: rest) =
      finishValue outer rest := by
  rw [finishValue,
    skipSpace_eq_cons_iff.mpr ⟨isSpace_close frame, gap, hgap, rfl⟩]
  simp only [if_neg (close_ne_comma frame), if_true]

theorem finishValue_comma (frame : Frame) (outer : List Frame)
    (rest : List Char) :
    finishValue (frame :: outer) (gap ++ ',' :: rest) =
      startItem frame outer rest := by
  rw [finishValue, skipSpace_eq_cons_iff.mpr ⟨rfl, gap, hgap, rfl⟩]
  simp only [if_true]

theorem openFrame_close (frame : Frame) (outer : List Frame)
    (rest : List Char) :
    openFrame frame outer (gap ++ frame.close :: rest) =
      finishValue outer rest := by
  rw [openFrame,
    skipSpace_eq_cons_iff.mpr ⟨isSpace_close frame, gap, hgap, rfl⟩]
  simp only [if_true]

theorem advance_start (frame : Frame) (frames : List Frame)
    (rest : List Char) :
    advance frames (gap ++ frame.start :: rest) =
      openFrame frame frames rest := by
  rw [advance,
    skipSpace_eq_cons_iff.mpr ⟨isSpace_start frame, gap, hgap, rfl⟩]
  cases frame with
  | list => exact if_pos rfl
  | object => rfl

theorem advance_scalar {text rest : List Char} (h : Scalar text)
    (hends : Ends rest) (frames : List Frame) :
    advance frames (gap ++ (text ++ rest)) = finishValue frames rest := by
  rcases h.skip hends with ⟨c, tail, htext, hc, hskip⟩
  rw [advance, htext, List.cons_append,
    skipSpace_eq_cons_iff.mpr ⟨hc.not_space, gap, hgap, rfl⟩]
  have hlist : c ≠ '[' := hc.not_start .list
  have hobject : c ≠ '\x7b' := hc.not_start .object
  simp only [hlist, hobject, if_false, hskip]

end Steps

theorem Json.exists_head {text : List Char} (h : Json .value text) :
    exists c tail, text = c :: tail ∧ isSpace c = false ∧
      forall frame : Frame, c ≠ frame.close := by
  cases h with
  | scalar hscalar =>
      have hends : Ends [] := ⟨by simp [Stops], by simp, by simp⟩
      rcases hscalar.skip hends with ⟨c, tail, htext, hc, _⟩
      exact ⟨c, tail, htext, hc.not_space, hc.not_close⟩
  | empty _ => exact ⟨_, _, rfl, isSpace_start _, start_ne_close _⟩
  | nested _ => exact ⟨_, _, rfl, isSpace_start _, start_ne_close _⟩

theorem Label.exists_head {frame : Frame} {label before text : List Char}
    (h : Label frame label) (hbefore : Gap before) (htext : Json .value text)
    (rest : List Char) :
    exists c tail, skipSpace (label ++ (before ++ (text ++ rest))) =
      c :: tail ∧ c ≠ frame.close := by
  cases h with
  | list =>
      rcases htext.exists_head with ⟨c, tail, htext, hspace, hclose⟩
      refine ⟨c, tail ++ rest, ?_, hclose .list⟩
      exact skipSpace_eq_cons_iff.mpr ⟨hspace, before, hbefore,
        by rw [htext]; rfl⟩
  | object hfront _ _ =>
      have hne : '"' ≠ Frame.object.close := by decide
      rw [List.append_assoc]
      exact ⟨'"', _, skipSpace_eq_cons_iff.mpr ⟨rfl, _, hfront, rfl⟩, hne⟩

theorem Json.items_head {frame : Frame} {items : List Char}
    (h : Json (.items frame) items) (rest : List Char) :
    exists c tail, skipSpace (items ++ rest) = c :: tail ∧
      c ≠ frame.close := by
  cases h with
  | @last _ label before text after hlabel hbefore htext _ =>
      have hhead := hlabel.exists_head hbefore htext (after ++ rest)
      simpa using hhead
  | @more _ label before text after items hlabel hbefore htext _ _ =>
      have hhead := hlabel.exists_head hbefore htext
        (after ++ ',' :: (items ++ rest))
      simpa using hhead

theorem startItem_skipSpace (frame : Frame) (outer : List Frame)
    (s : List Char) :
    (startItem frame outer (skipSpace s)).bind Progress.complete =
      (startItem frame outer s).bind Progress.complete := by
  cases frame with
  | list =>
      show skipValues _ (skipSpace s) = skipValues _ s
      rw [skipValues_eq, skipValues_eq, advance, skipSpace_skipSpace]
      rfl
  | object =>
      unfold startItem
      rw [skipSpace_skipSpace]

theorem openFrame_of_items {frame : Frame} {items : List Char}
    (h : Json (.items frame) items) (outer : List Frame)
    (rest : List Char) :
    (openFrame frame outer (items ++ rest)).bind Progress.complete =
      (startItem frame outer (items ++ rest)).bind Progress.complete := by
  rcases h.items_head rest with ⟨c, tail, hspace, hclose⟩
  rw [← startItem_skipSpace, openFrame, hspace]
  simp only [if_neg hclose]

def Skipped : Part -> List Char -> Prop
  | .value, text =>
      forall (frames : List Frame) (before rest : List Char),
        Gap before -> Ends rest ->
          skipValues frames (before ++ (text ++ rest)) =
            (finishValue frames rest).bind Progress.complete
  | .items frame, text =>
      forall (outer : List Frame) (rest : List Char),
        (startItem frame outer (text ++ frame.close :: rest)).bind
            Progress.complete =
          (finishValue outer rest).bind Progress.complete

theorem Label.startItem {frame : Frame} {label : List Char}
    (h : Label frame label) (outer : List Frame) (rest : List Char) :
    startItem frame outer (label ++ rest) =
      .ok (.due (frame :: outer) rest) :=
  startItem_eq_ok_iff.mpr ⟨label, rest, h, rfl, rfl⟩

theorem Json.skipped {part : Part} {text : List Char} (h : Json part text) :
    Skipped part text := by
  -- Inside a bracket the stack is longer and the rest begins with a comma or the end of
  -- the bracket, so `Skipped` holds for every stack and for every rest.
  induction h with
  | scalar hscalar =>
      intro frames before rest hbefore hends
      rw [skipValues_eq, advance_scalar hbefore hscalar hends]
  | empty hgap =>
      intro frames before rest hbefore _
      rw [skipValues_eq, List.cons_append, advance_start hbefore,
        List.append_assoc, List.singleton_append, openFrame_close hgap]
  | nested hitems ih =>
      intro frames before rest hbefore _
      rw [skipValues_eq, List.cons_append, advance_start hbefore,
        List.append_assoc, List.singleton_append, openFrame_of_items hitems,
        ih]
  | @last frame label before text after hlabel hbefore _ hafter ih =>
      intro outer rest
      have hends := hafter.ends (ends_close frame rest)
      simp only [List.append_assoc]
      rw [hlabel.startItem]
      show skipValues _ _ = _
      rw [ih _ _ _ hbefore hends, finishValue_close hafter]
  | @more frame label before text after items hlabel hbefore _ hafter _ ih
      ihitems =>
      intro outer rest
      have hends := hafter.ends (ends_comma (items ++ frame.close :: rest))
      simp only [List.append_assoc, List.cons_append]
      rw [hlabel.startItem]
      show skipValues _ _ = _
      rw [ih _ _ _ hbefore hends, finishValue_comma hafter, ihitems]

theorem Json.skipValue {text : List Char} (h : Json .value text)
    {before rest : List Char} (hbefore : Gap before) (hends : Ends rest) :
    skipValue (before ++ (text ++ rest)) = .ok rest :=
  h.skipped [] before rest hbefore hends

end Cache
end TokenNames
