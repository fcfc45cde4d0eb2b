import TokenNames.Numeral

/-!
# Reading numerals

## The parts of a text

Every text begins with an optional sign and a run of digits, either of which may be
empty.  A text is a numeral when the run is not empty and nothing follows it.  The
reader is described by these parts alone: the number that the sign and the run denote
has to stay inside the bounds, and only then does it matter what follows.
-/

namespace TokenNames
namespace Numeral

inductive Sign where
  | absent
  | plus
  | minus

def Sign.mark : Sign -> List Char
  | .absent => []
  | .plus => ['+']
  | .minus => ['-']

def Sign.factor : Sign -> Int
  | .absent => 1
  | .plus => 1
  | .minus => -1

def IsDigit (c : Char) : Prop :=
  '0' ≤ c ∧ c ≤ '9'

instance : DecidablePred IsDigit :=
  fun c => inferInstanceAs (Decidable ('0' ≤ c ∧ c ≤ '9'))

def extend (n : Nat) (ds : List Char) : Nat :=
  ds.foldl (fun acc c => 10 * acc + (c.toNat - '0'.toNat)) n

def magnitude (ds : List Char) : Nat :=
  extend 0 ds

/-- A text that consists of an optional sign and digits denotes an integer. -/
def Denotes (cs : List Char) (i : Int) : Prop :=
  exists sign ds, cs = Sign.mark sign ++ ds ∧ ds ≠ [] ∧
    (forall c, c ∈ ds -> IsDigit c) ∧ i = sign.factor * magnitude ds

/-- A text begins with a sign and the longest run of digits after it. -/
structure Begins (cs : List Char) (sign : Sign) (ds rest : List Char) :
    Prop where
  text_eq : cs = sign.mark ++ (ds ++ rest)
  digits : forall c, c ∈ ds -> IsDigit c
  longest : forall c, c ∈ rest.head? -> ¬ IsDigit c
  signed : sign = Sign.absent -> ds = [] ->
    '+' ∉ rest.head? ∧ '-' ∉ rest.head?

/-!
# Splitting off the parts
-/

theorem begins_takeWhile (sign : Sign) {cs : List Char}
    (hsigned : sign = Sign.absent -> '+' ∉ cs.head? ∧ '-' ∉ cs.head?) :
    Begins (sign.mark ++ cs) sign (cs.takeWhile fun c => decide (IsDigit c))
      (cs.dropWhile fun c => decide (IsDigit c)) where
  text_eq := by
    rw [List.takeWhile_append_dropWhile]
  digits := by
    intro c hc
    have hdigit := List.all_takeWhile (l := cs)
      (p := fun c => decide (IsDigit c))
    exact of_decide_eq_true (List.all_eq_true.mp hdigit c hc)
  longest := by
    intro c hc
    have hhead := List.head?_dropWhile_not (fun c => decide (IsDigit c)) cs
    rw [show (cs.dropWhile fun c => decide (IsDigit c)).head? = some c from hc]
      at hhead
    exact of_decide_eq_false hhead
  signed := by
    intro habsent hnil
    have hall : (cs.dropWhile fun c => decide (IsDigit c)) = cs := by
      have hboth := List.takeWhile_append_dropWhile (l := cs)
        (p := fun c => decide (IsDigit c))
      rw [hnil] at hboth
      exact hboth
    rw [hall]
    exact hsigned habsent

theorem exists_begins (cs : List Char) :
    exists sign ds rest, Begins cs sign ds rest := by
  by_cases hplus : '+' ∈ cs.head?
  · rcases List.head?_eq_some_iff.mp hplus with ⟨tail, htail⟩
    rw [htail]
    exact ⟨Sign.plus, _, _, begins_takeWhile Sign.plus
      (by intro h; cases h)⟩
  · by_cases hminus : '-' ∈ cs.head?
    · rcases List.head?_eq_some_iff.mp hminus with ⟨tail, htail⟩
      rw [htail]
      exact ⟨Sign.minus, _, _, begins_takeWhile Sign.minus
        (by intro h; cases h)⟩
    · exact ⟨Sign.absent, _, _, begins_takeWhile Sign.absent
        (fun _ => ⟨hplus, hminus⟩)⟩

/-!
# Digits

The reader checks the bounds after each digit.  Since the magnitude never decreases, this
comes to checking them once, for the whole run.
-/

theorem value?_of_isDigit {c : Char} (hc : IsDigit c) :
    value? c = some (c.toNat - '0'.toNat) :=
  if_pos hc

theorem value?_of_not_isDigit {c : Char} (hc : ¬ IsDigit c) :
    value? c = none :=
  if_neg hc

theorem le_extend (n : Nat) (ds : List Char) : n ≤ extend n ds := by
  induction ds generalizing n with
  | nil => exact Nat.le_refl n
  | cons c ds ih =>
      have hstep := ih (10 * n + (c.toNat - '0'.toNat))
      show n ≤ extend (10 * n + (c.toNat - '0'.toNat)) ds
      omega

theorem within_of_le {lo hi : Int} (hlo : lo ≤ 0) (hhi : 0 ≤ hi)
    (sign : Sign) {m n : Nat} (hmn : m ≤ n)
    (h : lo ≤ sign.factor * n ∧ sign.factor * n ≤ hi) :
    lo ≤ sign.factor * m ∧ sign.factor * m ≤ hi := by
  cases sign <;> simp only [Sign.factor] at h ⊢ <;> omega

theorem Sign.factor_extend (sign : Sign) (n d : Nat) :
    10 * (sign.factor * n) + sign.factor * d =
      sign.factor * ((10 * n + d : Nat) : Int) := by
  cases sign <;> simp only [Sign.factor] <;> omega

theorem readDigits_append {lo hi : Int} (hlo : lo ≤ 0) (hhi : 0 ≤ hi)
    (sign : Sign) (n : Nat) {ds : List Char}
    (hds : forall c, c ∈ ds -> IsDigit c) (rest : List Char)
    (hn : lo ≤ sign.factor * n ∧ sign.factor * n ≤ hi) :
    readDigits lo hi sign.factor (sign.factor * n) (ds ++ rest) =
      if lo ≤ sign.factor * extend n ds ∧ sign.factor * extend n ds ≤ hi then
        readDigits lo hi sign.factor (sign.factor * extend n ds) rest
      else .error .overflow := by
  induction ds generalizing n with
  | nil =>
      rw [if_pos]
      · rfl
      · exact hn
  | cons c ds ih =>
      rcases List.forall_mem_cons.mp hds with ⟨hdigit, hlater⟩
      have hc := value?_of_isDigit hdigit
      have hnext := sign.factor_extend n (c.toNat - '0'.toNat)
      show readDigits lo hi sign.factor (sign.factor * n) (c :: (ds ++ rest)) =
        if lo ≤ sign.factor * extend (10 * n + (c.toNat - '0'.toNat)) ds ∧
            sign.factor * extend (10 * n + (c.toNat - '0'.toNat)) ds ≤ hi then
          readDigits lo hi sign.factor
            (sign.factor * extend (10 * n + (c.toNat - '0'.toNat)) ds) rest
        else .error .overflow
      rw [readDigits, hc]
      simp only [hnext]
      split
      · next hin =>
          exact ih (10 * n + (c.toNat - '0'.toNat)) hlater hin
      · next hout =>
          rw [if_neg]
          intro hin
          -- The magnitude never decreases, so a number outside the bounds stays outside.
          exact hout (within_of_le hlo hhi sign (le_extend _ ds) hin)

theorem readDigits_of_longest {lo hi sign acc : Int} {rest : List Char}
    (hrest : forall c, c ∈ rest.head? -> ¬ IsDigit c) :
    readDigits lo hi sign acc rest =
      if rest = [] then .ok acc else .error (.malformed .invalidDigit) := by
  cases rest with
  | nil => rfl
  | cons c rest =>
      rw [readDigits, value?_of_not_isDigit (hrest c rfl), if_neg]
      exact List.cons_ne_nil c rest

theorem readDigits_begins {lo hi : Int} (hlo : lo ≤ 0) (hhi : 0 ≤ hi)
    {cs ds rest : List Char} {sign : Sign} (h : Begins cs sign ds rest) :
    readDigits lo hi sign.factor 0 (ds ++ rest) =
      if lo ≤ sign.factor * magnitude ds ∧ sign.factor * magnitude ds ≤ hi then
        if rest = [] then .ok (sign.factor * magnitude ds)
        else .error (.malformed .invalidDigit)
      else .error .overflow := by
  have hzero : sign.factor * ((0 : Nat) : Int) = 0 := Int.mul_zero _
  have hrun := readDigits_append hlo hhi sign 0 h.digits rest
    (by rw [hzero]; exact ⟨hlo, hhi⟩)
  rw [hzero] at hrun
  rw [hrun, readDigits_of_longest h.longest]
  rfl

/-!
# Whole texts

A sign that stands alone and the empty text are caught before the digits are read.
-/

def outcome (lo hi : Int) (sign : Sign) (ds rest : List Char) :
    Except Fault Int :=
  if lo ≤ sign.factor * magnitude ds ∧ sign.factor * magnitude ds ≤ hi then
    if ds ≠ [] ∧ rest = [] then .ok (sign.factor * magnitude ds)
    else if sign.mark ++ rest = [] then .error (.malformed .empty)
    else .error (.malformed .invalidDigit)
  else .error .overflow

theorem readChars_plus (lo hi : Int) {cs : List Char} (hcs : cs ≠ []) :
    readChars lo hi ('+' :: cs) = readDigits lo hi 1 0 cs := by
  cases cs with
  | nil => exact absurd rfl hcs
  | cons c cs => rfl

theorem readChars_minus (lo hi : Int) {cs : List Char} (hcs : cs ≠ []) :
    readChars lo hi ('-' :: cs) = readDigits lo hi (-1) 0 cs := by
  cases cs with
  | nil => exact absurd rfl hcs
  | cons c cs => rfl

theorem readChars_unsigned (lo hi : Int) {cs : List Char} (hcs : cs ≠ [])
    (hplus : '+' ∉ cs.head?) (hminus : '-' ∉ cs.head?) :
    readChars lo hi cs = readDigits lo hi 1 0 cs := by
  unfold readChars
  split
  · exact absurd rfl hcs
  · exact absurd rfl hplus
  · exact absurd rfl hminus
  · exact absurd rfl hplus
  · exact absurd rfl hminus
  · rfl

theorem outcome_of_body_ne_nil (lo hi : Int) (sign : Sign)
    {ds rest : List Char} (hbody : ds ++ rest ≠ []) :
    outcome lo hi sign ds rest =
      if lo ≤ sign.factor * magnitude ds ∧ sign.factor * magnitude ds ≤ hi then
        if rest = [] then .ok (sign.factor * magnitude ds)
        else .error (.malformed .invalidDigit)
      else .error .overflow := by
  by_cases hrest : rest = []
  · have hds : ds ≠ [] := by
      intro hnil
      rw [hnil, hrest] at hbody
      exact hbody rfl
    simp only [outcome, hrest, hds, ne_eq, not_false_eq_true, and_self,
      if_true]
  · have hmark : sign.mark ++ rest ≠ [] := by
      intro hnil
      exact hrest (List.append_eq_nil_iff.mp hnil).right
    simp only [outcome, hrest, hmark, and_false, if_false]

theorem outcome_nil {lo hi : Int} (hlo : lo ≤ 0) (hhi : 0 ≤ hi)
    (sign : Sign) :
    outcome lo hi sign [] [] =
      if sign.mark = [] then .error (.malformed .empty)
      else .error (.malformed .invalidDigit) := by
  have hzero : sign.factor * (magnitude [] : Int) = 0 := Int.mul_zero _
  unfold outcome
  rw [hzero, if_pos ⟨hlo, hhi⟩, if_neg, List.append_nil]
  intro h
  exact h.left rfl

theorem readChars_eq_outcome {lo hi : Int} (hlo : lo ≤ 0) (hhi : 0 ≤ hi)
    {cs ds rest : List Char} {sign : Sign} (h : Begins cs sign ds rest) :
    readChars lo hi cs = outcome lo hi sign ds rest := by
  have hcs := h.text_eq
  by_cases hbody : ds ++ rest = []
  · rcases List.append_eq_nil_iff.mp hbody with ⟨hds, hrest⟩
    rw [hds, hrest] at hcs ⊢
    rw [outcome_nil hlo hhi, hcs]
    cases sign <;> rfl
  · rw [outcome_of_body_ne_nil lo hi sign hbody,
      ← readDigits_begins hlo hhi h, hcs]
    cases sign with
    | absent =>
        have hsigns : '+' ∉ (ds ++ rest).head? ∧ '-' ∉ (ds ++ rest).head? := by
          cases ds with
          | nil => exact h.signed rfl rfl
          | cons d ds =>
              have hd : IsDigit d := h.digits d List.mem_cons_self
              constructor
              · intro hplus
                cases hplus
                exact absurd hd (by decide)
              · intro hminus
                cases hminus
                exact absurd hd (by decide)
        exact readChars_unsigned lo hi hbody hsigns.left hsigns.right
    | plus => exact readChars_plus lo hi hbody
    | minus => exact readChars_minus lo hi hbody

theorem Begins.eq_nil_iff {cs ds rest : List Char} {sign : Sign}
    (h : Begins cs sign ds rest) :
    cs = [] ↔ sign.mark = [] ∧ ds = [] ∧ rest = [] := by
  rw [h.text_eq, List.append_eq_nil_iff, List.append_eq_nil_iff]

theorem begins_of_denotes {cs : List Char} {i : Int} (h : Denotes cs i) :
    exists sign ds, Begins cs sign ds [] ∧ ds ≠ [] ∧
      i = sign.factor * magnitude ds := by
  rcases h with ⟨sign, ds, hcs, hne, hdigits, hi⟩
  exists sign, ds
  constructor
  · constructor
    · rw [hcs, List.append_nil]
    · exact hdigits
    · intro c hc
      cases hc
    · intro _ hnil
      exact absurd hnil hne
  · exact ⟨hne, hi⟩

theorem readChars_eq_ok_iff {lo hi : Int} (hlo : lo ≤ 0) (hhi : 0 ≤ hi)
    {cs : List Char} {i : Int} :
    readChars lo hi cs = .ok i ↔ Denotes cs i ∧ lo ≤ i ∧ i ≤ hi := by
  constructor
  · intro h
    rcases exists_begins cs with ⟨sign, ds, rest, hbegins⟩
    rw [readChars_eq_outcome hlo hhi hbegins] at h
    unfold outcome at h
    split at h
    · next hin =>
        split at h
        · next hwhole =>
            cases h
            refine ⟨⟨sign, ds, ?_, hwhole.left, hbegins.digits, rfl⟩, hin⟩
            rw [hbegins.text_eq, hwhole.right, List.append_nil]
        · split at h <;> cases h
    · cases h
  · intro h
    rcases h with ⟨hdenotes, hin⟩
    rcases begins_of_denotes hdenotes with ⟨sign, ds, hbegins, hne, hi⟩
    rw [hi] at hin ⊢
    rw [readChars_eq_outcome hlo hhi hbegins, outcome, if_pos hin,
      if_pos ⟨hne, rfl⟩]

end Numeral
end TokenNames
