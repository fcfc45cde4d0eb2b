import TokenNames.Proofs.TokensFile.Contents
import TokenNames.Proofs.TokensFile.Log

/-!
# Replaying the log of a tokens file

## Nothing is left out

Reading a tokens file reports every assignment that is made, up to the first faulty line,
and the report on the whole file comes last, if the file is accepted at all.  Making the
reported assignments again gives the same table.  The numbers in the last report count
slots, so they fall short of the number of assignments by those that replaced an earlier
name.
-/

namespace TokenNames
namespace TokensFile

/-- The events that report lines, the first of which has the number `n`: one for each line
that is not blank, as long as the lines are good. -/
inductive Reported : Nat -> List (List Char) -> List Event -> Prop where
  | nil {n : Nat} : Reported n [] []
  | blank {n : Nat} {line : List Char} {rest : List (List Char)}
      {events : List Event} :
      Text.trim line = [] -> Reported (n + 1) rest events ->
      Reported n (line :: rest) events
  | assignment {n : Nat} {line : List Char} {rest : List (List Char)}
      {events : List Event} {a : Assignment} {t : TokenType} :
      Assigns line a -> t.toInt = a.type.toNat ->
      Reported (n + 1) rest events ->
      Reported n (line :: rest) (.tokenAssignment n a.name t :: events)
  | fault {n : Nat} {line : List Char} {rest : List (List Char)} :
      ¬ Good line -> Reported n (line :: rest) []

/-!
# The draft and its log

The columns of a draft are what its own log makes of two empty lists.  An assignment is
entered and reported together, so this holds as long as lines are read.
-/

theorem replay_assignment_of_kind {kind : Kind} {a : Assignment}
    (h : a.kind = kind) (entries : List (Option String)) (n : Nat) :
    replay kind entries [assignmentEvent n a] =
      put a.name a.type.toNat entries := by
  have hname : Kind.ofName a.name = kind := h
  rw [assignmentEvent, replay, if_pos hname, a.toInt_type, Int.toNat_natCast]
  rfl

theorem replay_assignment_of_ne {kind : Kind} {a : Assignment}
    (h : a.kind ≠ kind) (entries : List (Option String)) (n : Nat) :
    replay kind entries [assignmentEvent n a] = entries := by
  have hname : Kind.ofName a.name ≠ kind := h
  rw [assignmentEvent, replay, if_neg hname]
  rfl

namespace Draft

def Replayed (d : Draft) : Prop :=
  forall kind, (d.column kind).toList = replay kind [] d.reports.toList

theorem replayed_empty : Replayed {} := by
  intro kind
  cases kind <;> rfl

theorem reports_enter (d : Draft) (n : Nat) (a : Assignment) :
    ((d.enter a).report n a).reports.toList =
      d.reports.toList ++ [assignmentEvent n a] := by
  have henter : (d.enter a).reports = d.reports := by
    unfold enter
    cases a.kind <;> rfl
  rw [report, henter, Array.toList_push]

theorem Replayed.enter {d : Draft} (h : d.Replayed) (n : Nat)
    (a : Assignment) : ((d.enter a).report n a).Replayed := by
  intro kind
  rw [reports_enter, replay_append, column_report, ← h kind]
  by_cases hkind : a.kind = kind
  · rw [replay_assignment_of_kind hkind, ← hkind, column_enter_self,
      toList_place]
  · rw [replay_assignment_of_ne hkind, column_enter_of_ne d a hkind]

theorem Replayed.readLines {d : Draft} (h : d.Replayed) (n : Nat)
    (lines : List (List Char)) :
    (d.readLines n lines).1.Replayed ∧
      exists events, Reported n lines events ∧
        (d.readLines n lines).1.reports.toList =
          d.reports.toList ++ events := by
  induction lines generalizing d n with
  | nil => exact ⟨h, [], Reported.nil, (List.append_nil _).symm⟩
  | cons line lines ih =>
      by_cases hgood : Good line
      · rcases good_iff.mp hgood with hblank | ⟨a, hassigns⟩
        · rw [readLines_cons_of_blank d n hblank lines]
          rcases ih h (n + 1) with ⟨hreplayed, events, hevents, hlog⟩
          exact ⟨hreplayed, events, Reported.blank hblank hevents, hlog⟩
        · rw [readLines_cons_of_assigns d n hassigns lines]
          rcases ih (h.enter n a) (n + 1) with
            ⟨hreplayed, events, hevents, hlog⟩
          refine ⟨hreplayed, assignmentEvent n a :: events,
            Reported.assignment hassigns a.toInt_type hevents, ?_⟩
          rw [hlog, reports_enter, List.append_assoc]
          rfl
      -- A faulty line ends the reading, with the draft and its log as they are.
      · rcases not_good_iff.mp hgood with ⟨fault, hfault⟩
        rw [readLines_cons_of_offends d n hfault lines]
        exact ⟨h, [], Reported.fault hgood, (List.append_nil _).symm⟩

theorem Replayed.table {d : Draft} (h : d.Replayed) :
    d.table = replayedTable d.reports.toList := by
  apply Table.eq_of_columns
  · intro kind
    apply Array.toList_inj.mp
    cases kind with
    | literal => exact h .literal
    | symbolic => exact h .symbolic
  · rfl

end Draft

/-!
# The log of a text

The reports are determined by the lines, and there is always such a list of reports.
-/

theorem Reported.unique {n : Nat} {lines : List (List Char)}
    {events events' : List Event} (h : Reported n lines events)
    (h' : Reported n lines events') : events = events' := by
  induction h generalizing events' with
  | nil =>
      cases h'
      rfl
  | blank hblank _ ih =>
      cases h' with
      | blank _ hrest => exact ih hrest
      | assignment hassigns _ _ =>
          exact absurd hblank (trim_ne_nil_of_assigns hassigns)
      | fault hbad => exact absurd (good_of_blank hblank) hbad
  | assignment hassigns htype _ ih =>
      cases h' with
      | blank hblank _ =>
          exact absurd hblank (trim_ne_nil_of_assigns hassigns)
      | assignment hassigns' htype' hrest =>
          cases hassigns.unique hassigns'
          rw [← htype'] at htype
          rw [Int32.toInt_inj.mp htype, ih hrest]
      | fault hbad => exact absurd (good_of_assigns hassigns) hbad
  | fault hbad =>
      cases h' with
      | blank hblank _ => exact absurd (good_of_blank hblank) hbad
      | assignment hassigns _ _ => exact absurd (good_of_assigns hassigns) hbad
      | fault _ => rfl

theorem Reported.assigning {n : Nat} {lines : List (List Char)}
    {events : List Event} (h : Reported n lines events) :
    forall event, event ∈ events -> event.Assigning := by
  induction h with
  | nil => exact List.forall_mem_nil Event.Assigning
  | blank _ _ ih => exact ih
  | assignment hassigns htype _ ih =>
      refine List.forall_mem_cons.mpr ⟨⟨_, _, rfl, ?_⟩, ih⟩
      rw [htype]
      exact Int.natCast_nonneg _
  | fault _ => exact List.forall_mem_nil Event.Assigning

theorem Draft.Replayed.count {d : Draft} (h : d.Replayed)
    (hevents : forall event, event ∈ d.reports.toList -> event.Assigning)
    (kind : Kind) :
    (d.column kind).count =
      (typesOf kind d.reports.toList).dedup.length := by
  rw [Column.count, ← Array.countP_toList, h kind, countP_replay hevents]

theorem exists_reported (n : Nat) (lines : List (List Char)) :
    exists events, Reported n lines events := by
  rcases Draft.replayed_empty.readLines n lines with
    ⟨_, events, hreported, _⟩
  exact ⟨events, hreported⟩

theorem parseLogged_of_reported {source : String} {reports : List Event}
    (h : Reported 1 (Text.lines source.toList) reports) :
    (exists e, parseLogged source = { value := .error e, events := reports }) ∨
      parseLogged source =
        { value := .ok (replayedTable reports)
          events := reports ++
            [.parsedTokensFile (typesOf .literal reports).dedup.length
              (typesOf .symbolic reports).dedup.length] } := by
  rcases Draft.replayed_empty.readLines 1 (Text.lines source.toList) with
    ⟨hreplayed, reports', hreported, hlog⟩
  rw [hreported.unique h, show ({} : Draft).reports.toList = [] from rfl,
    List.nil_append] at hlog
  have hassigning := h.assigning
  rw [← hlog] at hassigning
  cases hread : (Draft.readLines {} 1 (Text.lines source.toList)).2 with
  | some e =>
      left
      exists e
      rw [parseLogged_of_error hread, hlog]
  | none =>
      right
      have hliteral := hreplayed.count hassigning .literal
      have hsymbolic := hreplayed.count hassigning .symbolic
      rw [parseLogged_of_no_error hread, hreplayed.table, ← hlog, ← hliteral,
        ← hsymbolic]
      rfl

/-- The log of every text: one report for each line with an assignment that is made, and
behind them, for an accepted text and no other, the report on the whole file.  The log of
an accepted text gives its table back, and the numbers in its last report are the numbers
of types that got a name of either kind. -/
theorem parseLogged_replays (source : String) :
    exists reports,
      (forall events, Reported 1 (Text.lines source.toList) events ↔
        events = reports) ∧
      (forall event, event ∈ reports ->
        event.message = "token assignment") ∧
      (forall e, (parseLogged source).value = .error e ->
        (parseLogged source).events = reports) ∧
      (forall table, (parseLogged source).value = .ok table ->
        exists literals symbolics,
          (parseLogged source).events =
            reports ++ [.parsedTokensFile literals symbolics] ∧
          replayedTable (parseLogged source).events = table ∧
          literals = (typesOf .literal reports).dedup.length ∧
          symbolics = (typesOf .symbolic reports).dedup.length ∧
          literals + symbolics ≤ reports.length ∧
          (literals + symbolics = reports.length ↔
            reports.Pairwise fun earlier later =>
              earlier.slot? ≠ later.slot?)) ∧
      ((exists event, event ∈ (parseLogged source).events ∧
          event.message = "parsed tokens file") ↔
        exists table, (parseLogged source).value = .ok table) := by
  rcases exists_reported 1 (Text.lines source.toList) with
    ⟨reports, hreported⟩
  have hassigning := hreported.assigning
  have hmessage : forall event, event ∈ reports ->
      event.message = "token assignment" :=
    fun event hevent => message_of_assigning (hassigning event hevent)
  refine ⟨reports, fun events => ⟨fun h => h.unique hreported, ?_⟩, hmessage,
    ?_⟩
  · intro heq
    rw [heq]
    exact hreported
  · rcases parseLogged_of_reported hreported with ⟨e, herror⟩ | hok
    · rw [herror]
      refine ⟨fun _ _ => rfl, ?_, ?_, ?_⟩
      · intro table hok
        cases hok
      · intro hparsed
        rcases hparsed with ⟨event, hevent, htext⟩
        rw [hmessage event hevent] at htext
        exact absurd htext (by decide)
      · intro hok
        rcases hok with ⟨table, hok⟩
        cases hok
    · rw [hok]
      refine ⟨?_, ?_, ?_, ?_⟩
      · intro e herror
        cases herror
      · intro table htable
        cases htable
        exact ⟨_, _, rfl, replayedTable_append_parsed reports _ _, rfl, rfl,
          distinct_le_length hassigning⟩
      · intro _
        exact ⟨_, rfl⟩
      · intro _
        exact ⟨_, List.mem_append_right _ List.mem_cons_self, rfl⟩

theorem parseLogged_replays_overwriting :
    (parseLogged "A=1\n\nB=1\n'x'=0\n").events =
      [.tokenAssignment 1 "A" 1, .tokenAssignment 3 "B" 1,
        .tokenAssignment 4 "'x'" 0, .parsedTokensFile 1 1] ∧
    exists reports,
      Reported 1 (Text.lines "A=1\n\nB=1\n'x'=0\n".toList) reports ∧
        reports.length = 3 ∧
        ¬ reports.Pairwise fun earlier later =>
          earlier.slot? ≠ later.slot? := by
  have hevents : (parseLogged "A=1\n\nB=1\n'x'=0\n").events =
      [.tokenAssignment 1 "A" 1, .tokenAssignment 3 "B" 1,
        .tokenAssignment 4 "'x'" 0, .parsedTokensFile 1 1] := by
    decide +kernel
  have hvalue : (parseLogged "A=1\n\nB=1\n'x'=0\n").value = .ok
      { literalNames := #[some "'x'"], symbolicNames := #[none, some "B"] } := by
    decide +kernel
  rcases parseLogged_replays "A=1\n\nB=1\n'x'=0\n" with
    ⟨reports, hreports, _, _, haccepted, _⟩
  rcases haccepted _ hvalue with
    ⟨literals, symbolics, hlog, _, _, _, _, hoverwrites⟩
  rw [hevents] at hlog
  have hlength := congrArg List.length hlog
  have hlast := congrArg List.getLast? hlog
  simp only [List.length_append, List.length_cons, List.length_nil] at hlength
  rw [List.getLast?_concat] at hlast
  cases hlast
  refine ⟨hevents, reports, (hreports reports).mpr rfl, by omega, ?_⟩
  intro hpairwise
  have hsum := hoverwrites.mpr hpairwise
  omega

end TokensFile
end TokenNames
