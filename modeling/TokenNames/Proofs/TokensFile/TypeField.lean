import TokenNames.Proofs.Numeral.Checking
import TokenNames.Proofs.TokensFile.Grammar

/-!
# The type of an assignment

## Three verdicts

The text after the last separator of a line is taken for a type, for something that is no
number, or for a number out of range.  The sign and the longest run of digits at its start
tell which, together with whether anything follows them.  The number that they denote has no
bounds here, however long the run is; what follows them counts only as long as that number
fits 64 bits.
-/

namespace TokenNames
namespace TokensFile

section Parts

variable {value ds rest : List Char} {sign : Numeral.Sign}

def Whole (ds rest : List Char) : Prop :=
  ds ≠ [] ∧ rest = []

/-- Nothing at all, a sign alone, or another character behind a number of 64 bits. -/
def NoNumber (sign : Numeral.Sign) (ds rest : List Char) : Prop :=
  (ds = [] ∧ rest = []) ∨
    (rest ≠ [] ∧ Fits64 (sign.factor * Numeral.magnitude ds))

/-- A number that is no type, or digits that leave 64 bits. -/
def OutOfRange (sign : Numeral.Sign) (ds rest : List Char) : Prop :=
  (Whole ds rest ∧ ¬ (0 ≤ sign.factor * Numeral.magnitude ds ∧
    sign.factor * Numeral.magnitude ds ≤ 65535)) ∨
    ¬ Fits64 (sign.factor * Numeral.magnitude ds)

theorem denotes_of_whole (h : Numeral.Begins value sign ds rest)
    (hwhole : Whole ds rest) :
    Numeral.Denotes value (sign.factor * Numeral.magnitude ds) := by
  refine ⟨sign, ds, ?_, hwhole.left, h.digits, rfl⟩
  rw [h.text_eq, hwhole.right, List.append_nil]

theorem readType_of_whole (h : Numeral.Begins value sign ds rest)
    (hwhole : Whole ds rest)
    (hin : 0 ≤ sign.factor * Numeral.magnitude ds ∧
      sign.factor * Numeral.magnitude ds ≤ 65535) :
    readType value =
      .ok (UInt16.ofNat (sign.factor * Numeral.magnitude ds).toNat) := by
  rw [readType_eq_ok_iff, toNat_ofNat_toNat hin]
  exact denotes_of_whole h hwhole

theorem readType_of_noNumber (h : Numeral.Begins value sign ds rest)
    (hno : NoNumber sign ds rest) :
    readType value = .error (.invalidType (String.ofList value)
      (if value = [] then .empty else .invalidDigit)) := by
  rw [readType_eq_error_iff]
  split
  · next hnil => exact TypeFault.empty hnil
  · next hne =>
      rcases hno with ⟨hds, _⟩ | ⟨hrest, hfits⟩
      · have hfits : Fits64 (sign.factor * Numeral.magnitude ds) := by
          rw [hds]
          cases sign <;> unfold Fits64 <;> decide
        exact TypeFault.noNumeral hne h hfits (Or.inl hds)
      · exact TypeFault.noNumeral hne h hfits (Or.inr hrest)

theorem readType_of_outOfRange (h : Numeral.Begins value sign ds rest)
    (hout : OutOfRange sign ds rest) :
    readType value = .error (.outOfRange (String.ofList value)) := by
  rw [readType_eq_error_iff]
  rcases hout with ⟨hwhole, hout⟩ | hbeyond
  · exact TypeFault.beyond16 (denotes_of_whole h hwhole) hout
  · exact TypeFault.beyond64 h hbeyond

theorem verdict_cases (sign : Numeral.Sign) (ds rest : List Char) :
    (Whole ds rest ∧ 0 ≤ sign.factor * Numeral.magnitude ds ∧
      sign.factor * Numeral.magnitude ds ≤ 65535) ∨
      NoNumber sign ds rest ∨ OutOfRange sign ds rest := by
  by_cases hrest : rest = []
  · by_cases hds : ds = []
    · exact Or.inr (Or.inl (Or.inl ⟨hds, hrest⟩))
    · by_cases hin : 0 ≤ sign.factor * Numeral.magnitude ds ∧
          sign.factor * Numeral.magnitude ds ≤ 65535
      · exact Or.inl ⟨⟨hds, hrest⟩, hin⟩
      · exact Or.inr (Or.inr (Or.inl ⟨⟨hds, hrest⟩, hin⟩))
  · by_cases hfits : Fits64 (sign.factor * Numeral.magnitude ds)
    · exact Or.inr (Or.inl (Or.inr ⟨hrest, hfits⟩))
    · exact Or.inr (Or.inr (Or.inr hfits))

/-!
# One verdict for each outcome

The verdicts exclude each other, because each of them leads to an outcome of its own.
-/

theorem readType_eq_ok_iff_whole (h : Numeral.Begins value sign ds rest)
    (n : UInt16) :
    readType value = .ok n ↔
      Whole ds rest ∧ sign.factor * Numeral.magnitude ds = n.toNat := by
  constructor
  · intro hread
    rcases verdict_cases sign ds rest with ⟨hwhole, hin⟩ | hno | hout
    · rw [readType_of_whole h hwhole hin] at hread
      cases hread
      exact ⟨hwhole, (toNat_ofNat_toNat hin).symm⟩
    · rw [readType_of_noNumber h hno] at hread
      cases hread
    · rw [readType_of_outOfRange h hout] at hread
      cases hread
  · intro hnumber
    rcases hnumber with ⟨hwhole, hn⟩
    rw [readType_eq_ok_iff, ← hn]
    exact denotes_of_whole h hwhole

theorem readType_eq_invalidType_iff (h : Numeral.Begins value sign ds rest)
    (text : String) (cause : Numeral.Malformation) :
    readType value = .error (.invalidType text cause) ↔
      NoNumber sign ds rest ∧ text = String.ofList value ∧
        cause = if value = [] then .empty else .invalidDigit := by
  constructor
  · intro hread
    rcases verdict_cases sign ds rest with ⟨hwhole, hin⟩ | hno | hout
    · rw [readType_of_whole h hwhole hin] at hread
      cases hread
    · rw [readType_of_noNumber h hno] at hread
      cases hread
      exact ⟨hno, rfl, rfl⟩
    · rw [readType_of_outOfRange h hout] at hread
      cases hread
  · intro hfault
    rcases hfault with ⟨hno, htext, hcause⟩
    rw [readType_of_noNumber h hno, htext, hcause]

theorem readType_eq_outOfRange_iff (h : Numeral.Begins value sign ds rest)
    (text : String) :
    readType value = .error (.outOfRange text) ↔
      OutOfRange sign ds rest ∧ text = String.ofList value := by
  constructor
  · intro hread
    rcases verdict_cases sign ds rest with ⟨hwhole, hin⟩ | hno | hout
    · rw [readType_of_whole h hwhole hin] at hread
      cases hread
    · rw [readType_of_noNumber h hno] at hread
      cases hread
    · rw [readType_of_outOfRange h hout] at hread
      cases hread
      exact ⟨hout, rfl⟩
  · intro hfault
    rcases hfault with ⟨hout, htext⟩
    rw [readType_of_outOfRange h hout, htext]

theorem outOfRange_iff_neither (h : Numeral.Begins value sign ds rest) :
    OutOfRange sign ds rest ↔
      ¬ (exists n, readType value = .ok n) ∧ ¬ NoNumber sign ds rest := by
  constructor
  · intro hout
    constructor
    · intro hok
      rcases hok with ⟨n, hn⟩
      rw [readType_of_outOfRange h hout] at hn
      cases hn
    · intro hno
      have hread := readType_of_outOfRange h hout
      rw [readType_of_noNumber h hno] at hread
      cases hread
  · intro hneither
    rcases hneither with ⟨hnot, hnumber⟩
    rcases verdict_cases sign ds rest with ⟨hwhole, hin⟩ | hno | hout
    · exact absurd ⟨_, readType_of_whole h hwhole hin⟩ hnot
    · exact absurd hno hnumber
    · exact hout

end Parts

/-- The sign, the run of digits and what follows them decide about a type, whatever the
length of the run; and the digits are read with a check of the product and the sum for each
of them. -/
theorem readType_tells_by_digits (value : List Char) :
    (exists sign ds rest, Numeral.Begins value sign ds rest) ∧
    (forall sign ds rest, Numeral.Begins value sign ds rest ->
      (forall n : UInt16, readType value = .ok n ↔
        Whole ds rest ∧ sign.factor * Numeral.magnitude ds = n.toNat) ∧
      (forall text cause, readType value = .error (.invalidType text cause) ↔
        NoNumber sign ds rest ∧ text = String.ofList value ∧
          cause = if value = [] then .empty else .invalidDigit) ∧
      (forall text, readType value = .error (.outOfRange text) ↔
        OutOfRange sign ds rest ∧ text = String.ofList value) ∧
      (OutOfRange sign ds rest ↔
        ¬ (exists n, readType value = .ok n) ∧ ¬ NoNumber sign ds rest)) ∧
    forall (sign : Numeral.Sign) (cs : List Char),
      Numeral.readDigits Int64.minValue.toInt Int64.maxValue.toInt
          sign.factor 0 cs =
        Numeral.readCheckedDigits Int64.minValue.toInt Int64.maxValue.toInt
          sign.factor 0 cs := by
  refine ⟨Numeral.exists_begins value, ?_, ?_⟩
  · intro sign ds rest h
    exact ⟨readType_eq_ok_iff_whole h, readType_eq_invalidType_iff h,
      readType_eq_outOfRange_iff h, outOfRange_iff_neither h⟩
  · intro sign cs
    have hleast : Int64.minValue.toInt ≤ 0 := by decide
    have hgreat : 0 ≤ Int64.maxValue.toInt := by decide
    have hchecked := Numeral.readCheckedDigits_eq hleast hgreat sign 0 cs
    rw [show sign.factor * ((0 : Nat) : Int) = 0 from Int.mul_zero _]
      at hchecked
    exact hchecked.symm

/-- The least number of 64 bits is still looked behind, and one more than the greatest is
not. -/
theorem readType_tells_by_digits_at_bounds :
    readType "-9223372036854775808x".toList =
        .error (.invalidType "-9223372036854775808x" .invalidDigit) ∧
      readType "9223372036854775808x".toList =
        .error (.outOfRange "9223372036854775808x") := by
  have hleast := @Numeral.begins_takeWhile .minus
    "9223372036854775808x".toList (by intro h; cases h)
  have hgreat := @Numeral.begins_takeWhile .absent
    "9223372036854775808x".toList (by intro _; decide)
  constructor
  · apply ((readType_tells_by_digits _).2.1 _ _ _ hleast).2.1 _ _ |>.mpr
    refine ⟨Or.inr ⟨by decide, ?_⟩, by decide +kernel, by decide +kernel⟩
    unfold Fits64
    decide +kernel
  · apply ((readType_tells_by_digits _).2.1 _ _ _ hgreat).2.2.1 _ |>.mpr
    refine ⟨Or.inr ?_, by decide +kernel⟩
    unfold Fits64
    decide +kernel

end TokensFile
end TokenNames
