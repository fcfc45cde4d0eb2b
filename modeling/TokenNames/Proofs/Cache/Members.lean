import TokenNames.Proofs.Cache.Lists

/-!
# The text of an object

## Members and columns

A member of an object is a list of names under the key of a column, or a value of any
kind under another key.  Reading an object keeps the lists of the columns as they come and
stops at a column that comes twice.  So what has been kept in the end are exactly the
lists of the members, whatever their order was and whatever else the object holds.
-/

namespace TokenNames
namespace Cache

/-- What a member means to a table. -/
inductive Member where
  | column (field : Field) (names : List (Option String))
  | other (key : List Char)

inductive ValueText : List Char -> List Char -> Member -> Prop where
  | column {field : Field} {text : List Char}
      {names : List (Option String)} : NamesText text names ->
      ValueText field.key.toList text (.column field names)
  | other {key text : List Char} :
      (forall field : Field, key ≠ field.key.toList) -> Json .value text ->
      ValueText key text (.other key)

inductive MemberText : List Char -> Member -> Prop where
  | mk {quoted key before after text : List Char} {m : Member} :
      Denotes quoted key -> Gap before -> Gap after -> ValueText key text m ->
      MemberText
        ('"' :: (quoted ++ '"' :: (before ++ ':' :: (after ++ text)))) m

def Member.column? : Member -> Option (Field × List (Option String))
  | .column field names => some (field, names)
  | .other _ => none

def columnsOf (ms : List Member) : List (Field × List (Option String)) :=
  ms.filterMap Member.column?

def Lists.keep? (lists : Lists) : Member -> Option Lists
  | .column field names =>
      if (lists.get? field).isSome then none
      else some (lists.put names field)
  | .other _ => some lists

/-- The result of reading up to a rest: the lists that were kept, or a fault if a column
came twice. -/
def kept (lists? : Option Lists) (rest : List Char) :
    Except Fault (Lists × List Char) :=
  match lists? with
  | none => .error .mismatched
  | some lists => .ok (lists, rest)

theorem kept_eq_ok_iff {lists? : Option Lists} {lists : Lists}
    {rest rest' : List Char} :
    kept lists? rest = .ok (lists, rest') ↔
      lists? = some lists ∧ rest = rest' := by
  cases lists? with
  | none => simp [kept]
  | some _ => simp [kept]

/-!
# Keys
-/

theorem ofKey?_key (field : Field) :
    Field.ofKey? field.key.toList = some field := by
  cases field <;> decide

theorem eq_key_of_ofKey? {key : List Char} {field : Field}
    (h : Field.ofKey? key = some field) : key = field.key.toList := by
  have hkey := List.find?_some h
  exact (beq_iff_eq.mp hkey).symm

theorem ofKey?_eq_none_iff {key : List Char} :
    Field.ofKey? key = none ↔ forall field : Field, key ≠ field.key.toList := by
  constructor
  · intro h field hkey
    rw [hkey, ofKey?_key] at h
    cases h
  · intro h
    cases hfield : Field.ofKey? key with
    | none => rfl
    | some field => exact absurd (eq_key_of_ofKey? hfield) (h field)

/-!
# One member
-/

theorem readValue_of_text {before after key text rest : List Char}
    {m : Member} (hbefore : Gap before) (hafter : Gap after)
    (htext : ValueText key text m) (hends : Ends rest) (lists : Lists) :
    readValue lists key (before ++ ':' :: (after ++ (text ++ rest))) =
      kept (lists.keep? m) rest := by
  have hcolon := skipColon_eq_ok_iff.mpr
    ⟨before, hbefore, (rfl : _ = before ++ ':' :: (after ++ (text ++ rest)))⟩
  cases htext with
  | column hnames =>
      have hread := readNames_eq_ok_iff.mpr
        ⟨after, text, hafter, hnames, (rfl : _ = after ++ (text ++ rest))⟩
      rw [readValue, ofKey?_key]
      simp only [Lists.keep?]
      split
      · rfl
      · simp [hcolon, hread, Except.map, kept]
  | other hkey hvalue =>
      rw [readValue, ofKey?_eq_none_iff.mpr hkey]
      simp [hcolon, hvalue.skipValue hafter hends, Except.map, Lists.keep?,
        kept]

theorem text_of_readValue {lists lists' : Lists} {key s rest : List Char}
    (h : readValue lists key s = .ok (lists', rest)) :
    exists before after text m, Gap before ∧ Gap after ∧
      ValueText key text m ∧ s = before ++ ':' :: (after ++ (text ++ rest)) ∧
      lists.keep? m = some lists' := by
  unfold readValue at h
  split at h
  · next field hfield =>
      rw [eq_key_of_ofKey? hfield]
      split at h
      · cases h
      · next hfree =>
          split at h
          · cases h
          · next s' hcolon =>
              rcases skipColon_eq_ok_iff.mp hcolon with ⟨before, hbefore, hs⟩
              rcases map_eq_ok_iff.mp h with ⟨_, hnames, heq⟩
              cases heq
              rcases readNames_eq_ok_iff.mp hnames with
                ⟨after, text, hafter, htext, hs'⟩
              exact ⟨before, after, text, _, hbefore, hafter,
                ValueText.column htext, by rw [hs, hs'], if_neg hfree⟩
  · next hkey =>
      split at h
      · cases h
      · next s' hcolon =>
          rcases skipColon_eq_ok_iff.mp hcolon with ⟨before, hbefore, hs⟩
          rcases map_eq_ok_iff.mp h with ⟨_, hvalue, heq⟩
          cases heq
          rcases json_of_skipValue hvalue with
            ⟨after, text, hafter, htext, hs'⟩
          exact ⟨before, after, text, _, hbefore, hafter,
            ValueText.other (ofKey?_eq_none_iff.mp hkey) htext,
            by rw [hs, hs'], rfl⟩

theorem readMember_of_text {before text rest : List Char} {m : Member}
    (hbefore : Gap before) (htext : MemberText text m) (hends : Ends rest)
    (lists : Lists) :
    readMember lists (before ++ (text ++ rest)) =
      kept (lists.keep? m) rest := by
  cases htext with
  | @mk quoted key gap gap' value _ hkey hgap hgap' hvalue =>
      have hspace : skipSpace (before ++ ('"' :: (quoted ++ '"' ::
          (gap ++ ':' :: (gap' ++ value))) ++ rest)) =
          '"' :: (quoted ++ '"' ::
            (gap ++ ':' :: (gap' ++ (value ++ rest)))) :=
        skipSpace_eq_cons_iff.mpr ⟨rfl, before, hbefore, by simp⟩
      rw [readMember, hspace]
      simp only [if_true, hkey.readString]
      exact readValue_of_text hgap hgap' hvalue hends lists

theorem text_of_readMember {lists lists' : Lists} {s rest : List Char}
    (h : readMember lists s = .ok (lists', rest)) :
    exists before text m, Gap before ∧ MemberText text m ∧
      s = before ++ (text ++ rest) ∧ lists.keep? m = some lists' := by
  unfold readMember at h
  split at h
  · cases h
  · next hspace =>
      rcases skipSpace_eq_cons_iff.mp hspace with ⟨_, before, hbefore, hs⟩
      split at h
      · next hc =>
          split at h
          · cases h
          · next hstring =>
              rcases readString_eq_ok_iff.mp hstring with ⟨quoted, hkey, hs'⟩
              rcases text_of_readValue h with
                ⟨gap, gap', text, m, hgap, hgap', htext, hrest, hkeep⟩
              exact ⟨before, _, m, hbefore,
                MemberText.mk hkey hgap hgap' htext,
                by rw [hs, hc, hs', hrest]; simp, hkeep⟩
      · cases h

/-!
# All members
-/

theorem readMembers_of_member {lists lists' : Lists}
    {s s' rest : List Char} {c : Char}
    (hmember : readMember lists s = .ok (lists', s'))
    (hspace : skipSpace s' = c :: rest) :
    readMembers lists s =
      if c = '\x7d' then .ok (lists', rest)
      else if c = ',' then readMembers lists' rest
      else .error .malformed := by
  rw [readMembers]
  split
  · next hfault =>
      rw [hmember] at hfault
      cases hfault
  · next hread =>
      rw [hmember] at hread
      cases hread
      split
      · next hnil =>
          rw [hspace] at hnil
          cases hnil
      · next hcons =>
          rw [hspace] at hcons
          cases hcons
          rfl

theorem readMembers_of_fault {lists : Lists} {s : List Char} {fault : Fault}
    (h : readMember lists s = .error fault) :
    readMembers lists s = .error fault := by
  rw [readMembers]
  split
  · next hfault =>
      rw [h] at hfault
      cases hfault
      rfl
  · next hread =>
      rw [h] at hread
      cases hread

theorem readMembers_of_separated {text : List Char} {ms : List Member}
    (h : Separated MemberText text ms) (lists : Lists) (rest : List Char) :
    readMembers lists (text ++ '\x7d' :: rest) =
      kept (ms.foldlM Lists.keep? lists) rest := by
  -- A member whose column is there already ends both sides with the same fault.
  induction h generalizing lists with
  | @last before text after m hbefore htext hafter =>
      have hends := hafter.ends (ends_close .object rest)
      have hmember := readMember_of_text hbefore htext hends lists
      simp only [List.append_assoc, List.foldlM_cons, List.foldlM_nil]
      cases hkeep : lists.keep? m with
      | none =>
          rw [hkeep] at hmember
          exact readMembers_of_fault hmember
      | some lists' =>
          rw [hkeep] at hmember
          have hspace := skipSpace_eq_cons_iff.mpr
            ⟨isSpace_close .object, after, hafter,
              (rfl : _ = after ++ Frame.object.close :: rest)⟩
          exact (readMembers_of_member hmember hspace).trans (if_pos rfl)
  | @more before text after items m ms hbefore htext hafter _ ih =>
      have hends := hafter.ends (ends_comma (items ++ '\x7d' :: rest))
      have hmember := readMember_of_text hbefore htext hends lists
      simp only [List.append_assoc, List.cons_append, List.foldlM_cons]
      cases hkeep : lists.keep? m with
      | none =>
          rw [hkeep] at hmember
          exact readMembers_of_fault hmember
      | some lists' =>
          rw [hkeep] at hmember
          have hspace := skipSpace_eq_cons_iff.mpr
            ⟨(rfl : isSpace ',' = false), after, hafter,
              (rfl : _ = after ++ ',' :: (items ++ '\x7d' :: rest))⟩
          rw [readMembers_of_member hmember hspace, if_neg (by decide),
            if_pos rfl, ih lists']
          rfl

theorem separated_of_readMembers {lists lists' : Lists} {s rest : List Char}
    (h : readMembers lists s = .ok (lists', rest)) :
    exists text ms, Separated MemberText text ms ∧
      s = text ++ '\x7d' :: rest ∧
      ms.foldlM Lists.keep? lists = some lists' := by
  fun_induction readMembers lists s with
  | case1 => cases h
  | case2 => cases h
  | case3 lists s lists'' s' hmember rest' hspace =>
      cases h
      rcases text_of_readMember hmember with
        ⟨before, text, m, hbefore, htext, hs, hkeep⟩
      rcases skipSpace_eq_cons_iff.mp hspace with ⟨_, after, hafter, hs'⟩
      exact ⟨_, [m], Separated.last hbefore htext hafter,
        by rw [hs, hs']; simp, by simp [hkeep]⟩
  | case4 lists s lists'' s' hmember rest' hspace _ _ ih =>
      rcases ih h with ⟨items, ms, hitems, hrest, hms⟩
      rcases text_of_readMember hmember with
        ⟨before, text, m, hbefore, htext, hs, hkeep⟩
      rcases skipSpace_eq_cons_iff.mp hspace with ⟨_, after, hafter, hs'⟩
      exact ⟨_, m :: ms, Separated.more hbefore htext hafter hitems,
        by rw [hs, hs', hrest]; simp, by simp [hkeep, hms]⟩
  | case5 => cases h

/-!
# What has been kept

A run that keeps all members ends with exactly the lists of their columns.  Such a run
exists when no column comes twice, and the order of the members does not matter.
-/

namespace Lists

theorem get?_put (lists : Lists) (names : List (Option String))
    (field field' : Field) :
    (lists.put names field).get? field' =
      if field' = field then some names else lists.get? field' := by
  cases field <;> cases field' <;> rfl

theorem get?_put_eq_some_iff {lists : Lists} {field field' : Field}
    {names names' : List (Option String)} (hfree : lists.get? field = none) :
    (lists.put names field).get? field' = some names' ↔
      lists.get? field' = some names' ∨
        (field', names') = (field, names) := by
  rw [get?_put, Prod.mk.injEq]
  split
  · next hfield =>
      rw [hfield, hfree, Option.some_inj]
      simp [eq_comm]
  · next hfield =>
      simp [hfield]

theorem eq_of_get? {lists lists' : Lists}
    (h : forall field, lists'.get? field = lists.get? field) :
    lists' = lists := by
  have hliteral : lists'.literal = lists.literal := h .literal
  have hsymbolic : lists'.symbolic = lists.symbolic := h .symbolic
  have hdisplay : lists'.display = lists.display := h .display
  cases lists
  cases lists'
  cases hliteral
  cases hsymbolic
  cases hdisplay
  rfl

/-- Lists with the lists of further columns, none of which was there before. -/
structure Gathers (lists : Lists)
    (columns : List (Field × List (Option String))) (lists' : Lists) :
    Prop where
  free : forall c, c ∈ columns -> lists.get? c.1 = none
  distinct : (columns.map Prod.fst).Nodup
  get?_iff : forall field names, lists'.get? field = some names ↔
    lists.get? field = some names ∨ (field, names) ∈ columns

theorem gathers_nil_iff {lists lists' : Lists} :
    Gathers lists [] lists' ↔ lists' = lists := by
  constructor
  · intro h
    apply eq_of_get?
    intro field
    apply Option.ext
    intro names
    rw [h.get?_iff]
    simp
  · intro h
    rw [h]
    exact ⟨by simp, by simp, by simp⟩

theorem gathers_cons_iff {lists lists' : Lists} {field : Field}
    {names : List (Option String)}
    {columns : List (Field × List (Option String))} :
    Gathers lists ((field, names) :: columns) lists' ↔
      lists.get? field = none ∧
        Gathers (lists.put names field) columns lists' := by
  constructor
  · intro h
    have hfree := h.free _ List.mem_cons_self
    rcases List.nodup_cons.mp h.distinct with ⟨hfresh, hdistinct⟩
    refine ⟨hfree, ?_, hdistinct, ?_⟩
    · intro c hc
      rw [get?_put, if_neg]
      · exact h.free c (List.mem_cons_of_mem _ hc)
      · intro hfield
        exact hfresh (List.mem_map.mpr ⟨c, hc, hfield⟩)
    · intro field' names'
      rw [h.get?_iff, get?_put_eq_some_iff hfree, List.mem_cons, or_assoc]
  · intro h
    rcases h with ⟨hfree, h⟩
    have hother : forall c, c ∈ columns -> c.1 ≠ field := by
      intro c hc hfield
      have hnone := h.free c hc
      rw [hfield, get?_put, if_pos rfl] at hnone
      cases hnone
    refine ⟨?_, ?_, ?_⟩
    · rw [List.forall_mem_cons]
      refine ⟨hfree, ?_⟩
      intro c hc
      have hnone := h.free c hc
      rw [get?_put, if_neg (hother c hc)] at hnone
      exact hnone
    · refine List.nodup_cons.mpr ⟨?_, h.distinct⟩
      intro hmem
      rcases List.mem_map.mp hmem with ⟨c, hc, hfield⟩
      exact hother c hc hfield
    · intro field' names'
      rw [h.get?_iff, get?_put_eq_some_iff hfree, List.mem_cons, or_assoc]

theorem foldlM_keep?_iff {ms : List Member} {lists lists' : Lists} :
    ms.foldlM keep? lists = some lists' ↔
      Gathers lists (columnsOf ms) lists' := by
  induction ms generalizing lists with
  | nil =>
      rw [List.foldlM_nil]
      show some lists = some lists' ↔ Gathers lists [] lists'
      rw [gathers_nil_iff, Option.some_inj, eq_comm]
  | cons m ms ih =>
      rw [List.foldlM_cons]
      cases m with
      | other key => exact ih
      | column field names =>
          show _ ↔ Gathers lists ((field, names) :: columnsOf ms) lists'
          rw [gathers_cons_iff, ← ih]
          cases hfree : lists.get? field with
          | none => simp [keep?, hfree]
          | some _ => simp [keep?, hfree]

end Lists

end Cache
end TokenNames
