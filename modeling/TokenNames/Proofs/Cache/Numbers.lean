import TokenNames.Cache.Number
import TokenNames.Proofs.Cache.Lexemes

/-!
# The text of a number

## Parts of a number

A number ends where no character behind it can go on with it: each of its parts takes all
the digits that are there.  So the text of a number is only skipped as a whole if what
comes behind it does not look like a further part.
-/

namespace TokenNames
namespace Cache

structure Digits (s : List Char) : Prop where
  ne_nil : s ≠ []
  all : forall c, c ∈ s -> c.isDigit = true

inductive Whole : List Char -> Prop where
  | zero : Whole ['0']
  | digits {s : List Char} : Digits s -> '0' ∉ s.head? -> Whole s

inductive Fraction : List Char -> Prop where
  | absent : Fraction []
  | digits {s : List Char} : Digits s -> Fraction ('.' :: s)

inductive Exponent : List Char -> Prop where
  | absent : Exponent []
  | digits {e : Char} {sign s : List Char} :
      e = 'e' ∨ e = 'E' -> sign = [] ∨ sign = ['+'] ∨ sign = ['-'] ->
      Digits s -> Exponent (e :: (sign ++ s))

inductive Unsigned : List Char -> Prop where
  | parts {whole fraction exponent : List Char} :
      Whole whole -> Fraction fraction -> Exponent exponent ->
      Unsigned (whole ++ (fraction ++ exponent))

/-- Text that does not go on with the digits before it. -/
def Stops (rest : List Char) : Prop :=
  forall c, c ∈ rest.head? -> c.isDigit = false

/-- Text that does not go on with the number before it. -/
structure Ends (rest : List Char) : Prop where
  stops : Stops rest
  no_point : '.' ∉ rest.head?
  no_exponent : 'e' ∉ rest.head? ∧ 'E' ∉ rest.head?

/-!
# Digits
-/

theorem Digits.exists_cons {s : List Char} (h : Digits s) :
    exists c rest, s = c :: rest ∧ c.isDigit = true := by
  cases s with
  | nil => exact absurd rfl h.ne_nil
  | cons c rest => exact ⟨c, rest, rfl, h.all c List.mem_cons_self⟩

theorem Digits.not_mem_head? {s : List Char} (h : Digits s) {c : Char}
    (hc : c.isDigit = false) (rest : List Char) : c ∉ (s ++ rest).head? := by
  intro hhead
  rcases h.exists_cons with ⟨d, tail, htail, hd⟩
  rw [htail] at hhead
  cases hhead
  rw [hd] at hc
  cases hc

theorem stops_cons {c : Char} (hc : c.isDigit = false) (s : List Char) :
    Stops (c :: s) := by
  intro d hd
  cases hd
  exact hc

theorem leadingDigits_append {digits rest : List Char} (h : Digits digits)
    (hstops : Stops rest) : leadingDigits (digits ++ rest) = digits := by
  have hnone : rest.takeWhile Char.isDigit = [] := by
    cases rest with
    | nil => rfl
    | cons c rest =>
        rw [List.takeWhile_cons, hstops c rfl]
        rfl
  rw [leadingDigits, List.takeWhile_append_of_pos h.all, hnone,
    List.append_nil]

theorem afterDigits_append {digits rest : List Char} (h : Digits digits)
    (hstops : Stops rest) : afterDigits (digits ++ rest) = rest := by
  rw [afterDigits, List.dropWhile_append_of_pos h.all]
  cases rest with
  | nil => rfl
  | cons c rest =>
      rw [List.dropWhile_cons, hstops c rfl]
      rfl

theorem stops_afterDigits (s : List Char) : Stops (afterDigits s) := by
  intro c hc
  have hhead := List.head?_dropWhile_not Char.isDigit s
  rw [show (s.dropWhile Char.isDigit).head? = some c from hc] at hhead
  exact hhead

theorem stops_of_leadingDigits {s : List Char} (h : leadingDigits s = []) :
    Stops s := by
  have hs : afterDigits s = s := by
    have hboth : leadingDigits s ++ afterDigits s = s :=
      List.takeWhile_append_dropWhile
    rw [h] at hboth
    exact hboth
  rw [← hs]
  exact stops_afterDigits s

theorem leadingDigits_of_stops {s : List Char} (h : Stops s) :
    leadingDigits s = [] := by
  cases s with
  | nil => rfl
  | cons c s =>
      rw [leadingDigits, List.takeWhile_cons, h c rfl]
      rfl

theorem scanDigits_eq_ok_iff {s digits rest : List Char} :
    scanDigits s = .ok (digits, rest) ↔
      Digits digits ∧ s = digits ++ rest ∧ Stops rest := by
  constructor
  · intro h
    unfold scanDigits at h
    split at h
    · next hne =>
        cases h
        refine ⟨⟨hne, ?_⟩, List.takeWhile_append_dropWhile.symm,
          stops_afterDigits s⟩
        intro c hc
        exact List.mem_takeWhile_imp hc
    · split at h <;> cases h
  · intro h
    rcases h with ⟨hdigits, hs, hstops⟩
    rw [hs, scanDigits, leadingDigits_append hdigits hstops,
      afterDigits_append hdigits hstops, if_pos hdigits.ne_nil]

/-!
# Parts
-/

theorem scanWhole_eq_ok_iff {s whole rest : List Char} :
    scanWhole s = .ok (whole, rest) ↔
      Whole whole ∧ s = whole ++ rest ∧ Stops rest := by
  constructor
  · intro h
    unfold scanWhole at h
    split at h
    · split at h
      · next hnone =>
          cases h
          exact ⟨Whole.zero, rfl, stops_of_leadingDigits hnone⟩
      · cases h
    · next hzero =>
        rcases scanDigits_eq_ok_iff.mp h with ⟨hdigits, hs, hstops⟩
        refine ⟨Whole.digits hdigits ?_, hs, hstops⟩
        intro hhead
        rcases List.head?_eq_some_iff.mp hhead with ⟨tail, htail⟩
        exact hzero (tail ++ rest) (by rw [hs, htail]; rfl)
  · intro h
    rcases h with ⟨hwhole, hs, hstops⟩
    rw [hs]
    cases hwhole with
    | zero =>
        rw [List.cons_append, List.nil_append, scanWhole,
          if_pos (leadingDigits_of_stops hstops)]
    | digits hdigits hzero =>
        rw [scanWhole]
        · exact scanDigits_eq_ok_iff.mpr ⟨hdigits, rfl, hstops⟩
        · intro tail htail
          apply hzero
          cases whole with
          | nil => exact absurd rfl hdigits.ne_nil
          | cons c whole =>
              cases htail
              rfl

theorem fraction_of_scan {s digits rest : List Char}
    (h : scanFraction s = .ok (digits, rest)) :
    exists text, Fraction text ∧ s = text ++ rest := by
  unfold scanFraction at h
  split at h
  · rcases scanDigits_eq_ok_iff.mp h with ⟨hdigits, hs, _⟩
    exact ⟨_, Fraction.digits hdigits, by rw [hs]; rfl⟩
  · cases h
    exact ⟨[], Fraction.absent, rfl⟩

theorem Fraction.scan {text rest : List Char} (h : Fraction text)
    (hstops : Stops rest) (hpoint : '.' ∉ rest.head?) :
    exists digits, scanFraction (text ++ rest) = .ok (digits, rest) := by
  cases h with
  | absent =>
      refine ⟨[], ?_⟩
      rw [List.nil_append, scanFraction]
      intro s hs
      rw [hs] at hpoint
      exact hpoint rfl
  | digits hdigits =>
      exact ⟨_, scanDigits_eq_ok_iff.mpr ⟨hdigits, rfl, hstops⟩⟩

theorem scanPower_eq_ok_iff {negative : Bool} {s rest : List Char} :
    (exists p, scanPower negative s = .ok (p, rest)) ↔
      exists digits, Digits digits ∧ s = digits ++ rest ∧ Stops rest := by
  constructor
  · intro h
    rcases h with ⟨p, hp⟩
    unfold scanPower at hp
    split at hp
    · cases hp
    · next hscan =>
        cases hp
        exact ⟨_, scanDigits_eq_ok_iff.mp hscan⟩
  · intro h
    rcases h with ⟨digits, hdigits⟩
    exact ⟨_, by rw [scanPower, scanDigits_eq_ok_iff.mpr hdigits]⟩

theorem digits_of_scanSignedPower {s rest : List Char} {p : Power}
    (h : scanSignedPower s = .ok (p, rest)) :
    exists sign digits, (sign = [] ∨ sign = ['+'] ∨ sign = ['-']) ∧
      Digits digits ∧ s = sign ++ (digits ++ rest) := by
  unfold scanSignedPower at h
  split at h
  · rcases scanPower_eq_ok_iff.mp ⟨p, h⟩ with ⟨digits, hdigits, hs, _⟩
    exact ⟨['+'], digits, by simp, hdigits, by rw [hs]; rfl⟩
  · rcases scanPower_eq_ok_iff.mp ⟨p, h⟩ with ⟨digits, hdigits, hs, _⟩
    exact ⟨['-'], digits, by simp, hdigits, by rw [hs]; rfl⟩
  · rcases scanPower_eq_ok_iff.mp ⟨p, h⟩ with ⟨digits, hdigits, hs, _⟩
    exact ⟨[], digits, by simp, hdigits, by rw [hs]; rfl⟩

theorem scanSignedPower_of_digits {sign digits rest : List Char}
    (hsign : sign = [] ∨ sign = ['+'] ∨ sign = ['-'])
    (hdigits : Digits digits) (hstops : Stops rest) :
    exists p, scanSignedPower (sign ++ (digits ++ rest)) = .ok (p, rest) := by
  rcases hsign with hsign | hsign | hsign
  · rw [hsign, List.nil_append, scanSignedPower]
    · exact scanPower_eq_ok_iff.mpr ⟨digits, hdigits, rfl, hstops⟩
    · intro s hs
      exact hdigits.not_mem_head? rfl rest (by rw [hs]; rfl)
    · intro s hs
      exact hdigits.not_mem_head? rfl rest (by rw [hs]; rfl)
  · rw [hsign]
    exact scanPower_eq_ok_iff.mpr ⟨digits, hdigits, rfl, hstops⟩
  · rw [hsign]
    exact scanPower_eq_ok_iff.mpr ⟨digits, hdigits, rfl, hstops⟩

theorem exponent_of_scan {s rest : List Char} {p : Power}
    (h : scanExponent s = .ok (p, rest)) :
    exists text, Exponent text ∧ s = text ++ rest := by
  unfold scanExponent at h
  split at h
  · rcases digits_of_scanSignedPower h with ⟨sign, digits, hsign, hdigits, hs⟩
    exact ⟨_, Exponent.digits (Or.inl rfl) hsign hdigits, by rw [hs]; simp⟩
  · rcases digits_of_scanSignedPower h with ⟨sign, digits, hsign, hdigits, hs⟩
    exact ⟨_, Exponent.digits (Or.inr rfl) hsign hdigits, by rw [hs]; simp⟩
  · cases h
    exact ⟨[], Exponent.absent, rfl⟩

theorem Exponent.scan {text rest : List Char} (h : Exponent text)
    (hends : Ends rest) :
    exists p, scanExponent (text ++ rest) = .ok (p, rest) := by
  cases h with
  | absent =>
      refine ⟨{}, ?_⟩
      rw [List.nil_append, scanExponent]
      · intro s hs
        exact hends.no_exponent.left (by rw [hs]; rfl)
      · intro s hs
        exact hends.no_exponent.right (by rw [hs]; rfl)
  | digits he hsign hdigits =>
      rw [List.cons_append, List.append_assoc]
      rcases he with he | he <;> rw [he]
      · exact scanSignedPower_of_digits hsign hdigits hends.stops
      · exact scanSignedPower_of_digits hsign hdigits hends.stops

/-!
# Numbers

What comes behind a part is either the next part, which begins with a character of its
own, or the end of the number.
-/

theorem Exponent.stops {text rest : List Char} (h : Exponent text)
    (hends : Ends rest) : Stops (text ++ rest) := by
  cases h with
  | absent => exact hends.stops
  | digits he _ _ =>
      apply stops_cons
      rcases he with he | he <;> rw [he] <;> rfl

theorem Exponent.no_point {text rest : List Char} (h : Exponent text)
    (hends : Ends rest) : '.' ∉ (text ++ rest).head? := by
  cases h with
  | absent => exact hends.no_point
  | digits he _ _ =>
      intro hhead
      cases hhead
      rcases he with he | he <;> cases he

theorem Fraction.stops {text rest : List Char} (h : Fraction text)
    (hstops : Stops rest) : Stops (text ++ rest) := by
  cases h with
  | absent => exact hstops
  | digits _ => exact stops_cons rfl _

theorem unsigned_of_skipNumber {s rest : List Char}
    (h : skipNumber s = .ok rest) :
    exists text, Unsigned text ∧ s = text ++ rest := by
  unfold skipNumber scanMagnitude at h
  split at h
  · cases h
  · next m rest' hscan =>
      cases h
      split at hscan
      · cases hscan
      · next whole s1 hwhole =>
          split at hscan
          · cases hscan
          · next digits s2 hfraction =>
              split at hscan
              · cases hscan
              · next power s3 hexponent =>
                  cases hscan
                  rcases scanWhole_eq_ok_iff.mp hwhole with ⟨hw, hs, _⟩
                  rcases fraction_of_scan hfraction with ⟨fraction, hf, hs1⟩
                  rcases exponent_of_scan hexponent with ⟨exponent, he, hs2⟩
                  refine ⟨_, Unsigned.parts hw hf he, ?_⟩
                  rw [hs, hs1, hs2]
                  simp

theorem Unsigned.skip {text rest : List Char} (h : Unsigned text)
    (hends : Ends rest) : skipNumber (text ++ rest) = .ok rest := by
  cases h with
  | parts hw hf he =>
      next whole fraction exponent =>
        have hstops := he.stops hends
        have hwhole := scanWhole_eq_ok_iff.mpr ⟨hw, rfl, hf.stops hstops⟩
        rcases hf.scan hstops (he.no_point hends) with ⟨digits, hfraction⟩
        rcases he.scan hends with ⟨power, hexponent⟩
        rw [List.append_assoc, List.append_assoc, skipNumber, scanMagnitude]
        simp only [hwhole, hfraction, hexponent]

theorem Unsigned.exists_digit {text : List Char} (h : Unsigned text) :
    exists c rest, text = c :: rest ∧ c.isDigit = true := by
  cases h with
  | parts hw _ _ =>
      cases hw with
      | zero => exact ⟨'0', _, rfl, rfl⟩
      | digits hdigits _ =>
          rcases hdigits.exists_cons with ⟨c, tail, htail, hc⟩
          exact ⟨c, _, by rw [htail]; rfl, hc⟩

end Cache
end TokenNames
