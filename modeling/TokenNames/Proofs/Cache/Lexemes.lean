import Mathlib.Data.List.TakeWhile
import TokenNames.Cache.Lexeme
import TokenNames.Cache.Writer

/-!
# The text of space and strings

## Gaps, escapes and characters

Between the parts of a document lie gaps of space.  Between the quotes of a string a
character stands for itself or an escape stands for it, and two escapes by number can
stand for one character together.  A string that is only skipped may break a pair apart:
each of its escapes is right, and that is all.
-/

namespace TokenNames
namespace Cache

theorem map_eq_ok_iff {α β : Type} {x : Except Fault α} {f : α -> β} {b : β} :
    x.map f = .ok b ↔ exists a, x = .ok a ∧ f a = b := by
  cases x with
  | error _ => simp [Except.map]
  | ok _ => simp [Except.map]

/-!
# Gaps
-/

/-- Text that may lie between the parts of a document. -/
def Gap (s : List Char) : Prop :=
  forall c, c ∈ s -> isSpace c = true

theorem skipSpace_cons {c : Char} (hc : isSpace c = false) (s : List Char) :
    skipSpace (c :: s) = c :: s := by
  simp [skipSpace, hc]

theorem skipSpace_gap {gap : List Char} (h : Gap gap) (s : List Char) :
    skipSpace (gap ++ s) = skipSpace s :=
  List.dropWhile_append_of_pos h

theorem exists_gap (s : List Char) :
    exists gap, Gap gap ∧ s = gap ++ skipSpace s := by
  refine ⟨s.takeWhile isSpace, ?_, List.takeWhile_append_dropWhile.symm⟩
  intro c hc
  exact List.mem_takeWhile_imp hc

theorem isSpace_head_skipSpace {s rest : List Char} {c : Char}
    (h : skipSpace s = c :: rest) : isSpace c = false := by
  have hhead := List.head?_dropWhile_not isSpace s
  unfold skipSpace at h
  rw [h] at hhead
  exact hhead

theorem skipSpace_skipSpace (s : List Char) :
    skipSpace (skipSpace s) = skipSpace s := by
  rcases exists_gap s with ⟨gap, hgap, hs⟩
  rw [← skipSpace_gap hgap (skipSpace s), ← hs]

theorem skipSpace_eq_nil_iff {s : List Char} : skipSpace s = [] ↔ Gap s :=
  List.dropWhile_eq_nil_iff

theorem skipSpace_eq_cons_iff {s rest : List Char} {c : Char} :
    skipSpace s = c :: rest ↔
      isSpace c = false ∧ exists gap, Gap gap ∧ s = gap ++ c :: rest := by
  constructor
  · intro h
    rcases exists_gap s with ⟨gap, hgap, hs⟩
    rw [h] at hs
    exact ⟨isSpace_head_skipSpace h, gap, hgap, hs⟩
  · intro h
    rcases h with ⟨hc, gap, hgap, hs⟩
    rw [hs, skipSpace_gap hgap, skipSpace_cons hc]

/-!
# Text between quotes
-/

structure Plain (c : Char) : Prop where
  ne_quote : c ≠ '"'
  ne_slash : c ≠ '\\'
  not_control : ¬ c < ' '

inductive SpellsUnit : List Char -> Nat -> Prop where
  | digits {a b c d : Char} {i j k l : Nat} :
      Text.hexValue? a = some i -> Text.hexValue? b = some j ->
      Text.hexValue? c = some k -> Text.hexValue? d = some l ->
      SpellsUnit [a, b, c, d] (((i * 16 + j) * 16 + k) * 16 + l)

inductive Escape : List Char -> Nat -> Prop where
  | short {e c : Char} : shortEscape? e = some c -> Escape [e] c.toNat
  | unit {digits : List Char} {n : Nat} :
      SpellsUnit digits n -> Escape ('u' :: digits) n

/-- The escape or the pair of escapes for a character, without the first backslash. -/
inductive Escapes : List Char -> Char -> Prop where
  | single {text : List Char} {c : Char} :
      Escape text c.toNat -> Escapes text c
  | pair {leading trailing : List Char} {m n : Nat} :
      SpellsUnit leading m -> isLeading m = true ->
      SpellsUnit trailing n -> isTrailing n = true ->
      Escapes ('u' :: (leading ++ '\\' :: 'u' :: trailing))
        (Char.ofNat (0x10000 + (m - 0xD800) * 0x400 + (n - 0xDC00)))

/-- Text that may stand between quotes. -/
inductive InQuotes : List Char -> Prop where
  | nil : InQuotes []
  | plain {c : Char} {s : List Char} :
      Plain c -> InQuotes s -> InQuotes (c :: s)
  | escape {text s : List Char} {n : Nat} :
      Escape text n -> InQuotes s -> InQuotes ('\\' :: (text ++ s))

/-- Text between quotes and the characters that it denotes. -/
inductive Denotes : List Char -> List Char -> Prop where
  | nil : Denotes [] []
  | plain {c : Char} {s cs : List Char} :
      Plain c -> Denotes s cs -> Denotes (c :: s) (c :: cs)
  | escape {text s cs : List Char} {c : Char} :
      Escapes text c -> Denotes s cs ->
      Denotes ('\\' :: (text ++ s)) (c :: cs)

/-!
# Escapes

An escape by number is a character unless its unit is half of a pair, and then it is the
first half with the second one behind it.
-/

theorem readUnit_eq_ok_iff {s rest : List Char} {n : Nat} :
    readUnit s = .ok (n, rest) ↔
      exists digits, SpellsUnit digits n ∧ s = digits ++ rest := by
  constructor
  · intro h
    unfold readUnit at h
    split at h
    · next a b c d rest' =>
        split at h
        · next hi hj hk hl =>
            cases h
            exact ⟨[a, b, c, d], SpellsUnit.digits hi hj hk hl, rfl⟩
        · cases h
    · split at h <;> cases h
  · intro h
    rcases h with ⟨digits, hdigits, hs⟩
    cases hdigits with
    | digits hi hj hk hl =>
        rw [hs]
        simp only [List.cons_append, List.nil_append, readUnit, hi, hj, hk, hl]

theorem hexValue?_lt {c : Char} {i : Nat} (h : Text.hexValue? c = some i) :
    i < 16 := by
  unfold Text.hexValue? at h
  simp only [Char.le_def, UInt32.le_iff_toNat_le, Char.toNat_val,
    Char.reduceToNat] at h
  split at h
  · cases h
    omega
  split at h
  · cases h
    omega
  split at h
  · cases h
    omega
  · cases h

theorem SpellsUnit.lt {digits : List Char} {n : Nat}
    (h : SpellsUnit digits n) : n < 0x10000 := by
  cases h with
  | digits hi hj hk hl =>
      have hfirst := hexValue?_lt hi
      have hsecond := hexValue?_lt hj
      have hthird := hexValue?_lt hk
      have hfourth := hexValue?_lt hl
      omega

theorem ne_u_of_shortEscape? {e c : Char} (h : shortEscape? e = some c) :
    e ≠ 'u' := by
  intro he
  rw [he] at h
  cases h

theorem skipEscape_eq_ok_iff {s rest : List Char} :
    skipEscape s = .ok rest ↔
      exists text n, Escape text n ∧ s = text ++ rest := by
  constructor
  · intro h
    unfold skipEscape at h
    split at h
    · cases h
    · next s =>
        rcases map_eq_ok_iff.mp h with ⟨_, hunit, heq⟩
        cases heq
        rcases readUnit_eq_ok_iff.mp hunit with ⟨digits, hdigits, hs⟩
        exact ⟨'u' :: digits, _, Escape.unit hdigits, by rw [hs]; rfl⟩
    · next c rest' _ =>
        split at h
        · next hshort =>
            cases h
            rcases Option.isSome_iff_exists.mp hshort with ⟨d, hd⟩
            exact ⟨[c], _, Escape.short hd, rfl⟩
        · cases h
  · intro h
    rcases h with ⟨text, n, htext, hs⟩
    rw [hs]
    cases htext with
    | short hshort =>
        rw [List.cons_append, List.nil_append, skipEscape,
          if_pos (by rw [hshort]; rfl)]
        intro hu
        exact ne_u_of_shortEscape? hshort hu
    | unit hdigits =>
        rw [List.cons_append, skipEscape,
          readUnit_eq_ok_iff.mpr ⟨_, hdigits, rfl⟩]
        rfl

theorem toNat_ofNat_unit {n : Nat} (hn : n < 0x10000)
    (hleading : isLeading n = false) (htrailing : isTrailing n = false) :
    (Char.ofNat n).toNat = n := by
  simp only [isLeading, isTrailing, Bool.and_eq_false_iff,
    decide_eq_false_iff_not] at hleading htrailing
  have hvalid : n.isValidChar := by
    unfold Nat.isValidChar
    omega
  rw [Char.ofNat, dif_pos hvalid]
  rfl

theorem not_isLeading_toNat (c : Char) : isLeading c.toNat = false := by
  have hvalid : c.toNat.isValidChar := c.valid
  simp only [isLeading, Bool.and_eq_false_iff, decide_eq_false_iff_not]
  unfold Nat.isValidChar at hvalid
  omega

theorem not_isTrailing_toNat (c : Char) : isTrailing c.toNat = false := by
  have hvalid : c.toNat.isValidChar := c.valid
  simp only [isTrailing, Bool.and_eq_false_iff, decide_eq_false_iff_not]
  unfold Nat.isValidChar at hvalid
  omega

theorem not_isTrailing_of_isLeading {n : Nat} (h : isLeading n = true) :
    isTrailing n = false := by
  simp only [isLeading, Bool.and_eq_true, decide_eq_true_eq] at h
  simp only [isTrailing, Bool.and_eq_false_iff, decide_eq_false_iff_not]
  omega

theorem readTrailing_eq_ok_iff {m : Nat} {s rest : List Char} {c : Char} :
    readTrailing m s = .ok (c, rest) ↔
      exists trailing n, SpellsUnit trailing n ∧ isTrailing n = true ∧
        c = Char.ofNat (0x10000 + (m - 0xD800) * 0x400 + (n - 0xDC00)) ∧
        s = '\\' :: 'u' :: (trailing ++ rest) := by
  constructor
  · intro h
    unfold readTrailing at h
    split at h
    · cases h
    · cases h
    · next s =>
        split at h
        · cases h
        · next n rest' hunit =>
            split at h
            · next htrailing =>
                rcases readUnit_eq_ok_iff.mp hunit with ⟨trailing, hn, hs⟩
                simp only [Except.ok.injEq, Prod.mk.injEq] at h
                rcases h with ⟨hc, hrest⟩
                exact ⟨trailing, n, hn, htrailing, hc.symm, by rw [hs, hrest]⟩
            · cases h
    · cases h
  · intro h
    rcases h with ⟨trailing, n, hn, htrailing, hc, hs⟩
    rw [hs, hc, readTrailing]
    simp only [readUnit_eq_ok_iff.mpr ⟨trailing, hn, rfl⟩, htrailing, if_true]

theorem readEscape_of_short {e c : Char} (h : shortEscape? e = some c)
    (rest : List Char) : readEscape (e :: rest) = .ok (c, rest) := by
  rw [readEscape, h]
  intro hu
  exact ne_u_of_shortEscape? h hu

theorem readEscape_of_escape {text : List Char} {c : Char}
    (h : Escape text c.toNat) (rest : List Char) :
    readEscape (text ++ rest) = .ok (c, rest) := by
  generalize hnumber : c.toNat = n at h
  -- No character has the number of half a pair, so a unit for one is read alone.
  cases h with
  | short hshort =>
      rw [Char.toNat_inj.mp hnumber]
      exact readEscape_of_short hshort rest
  | unit hn =>
      have hleading : isLeading n = false := by
        rw [← hnumber]
        exact not_isLeading_toNat c
      have htrailing : isTrailing n = false := by
        rw [← hnumber]
        exact not_isTrailing_toNat c
      rw [List.cons_append, readEscape, readUnit_eq_ok_iff.mpr ⟨_, hn, rfl⟩]
      simp only [hleading, htrailing, Bool.false_eq_true, if_false]
      rw [← hnumber, Char.ofNat_toNat]

theorem readEscape_eq_ok_iff {s rest : List Char} {c : Char} :
    readEscape s = .ok (c, rest) ↔
      exists text, Escapes text c ∧ s = text ++ rest := by
  constructor
  · intro h
    unfold readEscape at h
    split at h
    · cases h
    · next s =>
        split at h
        · cases h
        · next n rest' hunit =>
            rcases readUnit_eq_ok_iff.mp hunit with ⟨digits, hn, hs⟩
            split at h
            · cases h
            next htrailing =>
            rw [Bool.not_eq_true] at htrailing
            split at h
            · next hleading =>
                rcases readTrailing_eq_ok_iff.mp h with
                  ⟨trailing, k, hk, hpair, hc, hrest⟩
                refine ⟨'u' :: (digits ++ '\\' :: 'u' :: trailing), ?_, ?_⟩
                · rw [hc]
                  exact Escapes.pair hn hleading hk hpair
                · simp [hs, hrest]
            · next hleading =>
                rw [Bool.not_eq_true] at hleading
                cases h
                refine ⟨'u' :: digits, Escapes.single ?_, by rw [hs]; rfl⟩
                rw [toNat_ofNat_unit hn.lt hleading htrailing]
                exact Escape.unit hn
    · next e rest' _ =>
        split at h
        · cases h
        · next d hshort =>
            cases h
            exact ⟨[e], Escapes.single (Escape.short hshort), rfl⟩
  · intro h
    rcases h with ⟨text, htext, hs⟩
    rw [hs]
    cases htext with
    | single hescape => exact readEscape_of_escape hescape rest
    | pair hm hleading hn htrailing =>
        rw [List.cons_append, List.append_assoc, readEscape,
          readUnit_eq_ok_iff.mpr ⟨_, hm, rfl⟩]
        simp only [not_isTrailing_of_isLeading hleading, hleading,
          Bool.false_eq_true, if_false, if_true]
        exact readTrailing_eq_ok_iff.mpr ⟨_, _, hn, htrailing, rfl, rfl⟩

/-!
# Escapes that are written

Only the control characters without an escape of their own are written by number.
-/

theorem spellsUnit_hexDigits {n : Nat} (hn : n < 256) :
    SpellsUnit ['0', '0', Text.hexDigit (n / 16), Text.hexDigit (n % 16)] n := by
  have hzero : Text.hexValue? '0' = some 0 := rfl
  have hhigh : Text.hexValue? (Text.hexDigit (n / 16)) = some (n / 16) :=
    Text.hexValue?_hexDigit (Nat.div_lt_of_lt_mul hn)
  have hlow : Text.hexValue? (Text.hexDigit (n % 16)) = some (n % 16) :=
    Text.hexValue?_hexDigit (Nat.mod_lt n (by simp))
  have hunit := SpellsUnit.digits hzero hzero hhigh hlow
  rw [show ((0 * 16 + 0) * 16 + n / 16) * 16 + n % 16 = n by omega] at hunit
  exact hunit

theorem lt_space_iff (c : Char) : c < ' ' ↔ c.toNat < 32 := Iff.rfl

theorem Denotes.escape_append {s cs : List Char} (h : Denotes s cs)
    (c : Char) : Denotes (Cache.escape c ++ s) (c :: cs) := by
  unfold Cache.escape
  split
  · exact Denotes.escape (Escapes.single (Escape.short rfl)) h
  · exact Denotes.escape (Escapes.single (Escape.short rfl)) h
  · exact Denotes.escape (Escapes.single (Escape.short rfl)) h
  · exact Denotes.escape (Escapes.single (Escape.short rfl)) h
  · exact Denotes.escape (Escapes.single (Escape.short rfl)) h
  · exact Denotes.escape (Escapes.single (Escape.short rfl)) h
  · exact Denotes.escape (Escapes.single (Escape.short rfl)) h
  · next hquote hslash _ _ _ _ _ =>
      split
      · next hcontrol =>
          rw [lt_space_iff] at hcontrol
          have hunit := spellsUnit_hexDigits (n := c.toNat) (by omega)
          exact Denotes.escape (Escapes.single (Escape.unit hunit)) h
      · next hcontrol =>
          exact Denotes.plain ⟨hquote, hslash, hcontrol⟩ h

theorem denotes_flatMap_escape (text : List Char) :
    Denotes (text.flatMap escape) text := by
  induction text with
  | nil => exact Denotes.nil
  | cons c text ih =>
      rw [List.flatMap_cons]
      exact ih.escape_append c

/-!
# Strings
-/

theorem readString_quote (done rest : List Char) :
    readString done ('"' :: rest) = .ok (done.reverse, rest) := by
  rw [readString, if_pos rfl]

theorem readString_of_escape {s rest : List Char} {c : Char}
    (h : readEscape s = .ok (c, rest)) (done : List Char) :
    readString done ('\\' :: s) = readString (c :: done) rest := by
  rw [readString, if_neg (by simp), if_pos rfl]
  split
  · next hfault =>
      rw [h] at hfault
      cases hfault
  · next hread =>
      rw [h] at hread
      cases hread
      rfl

theorem readString_of_plain {c : Char} (h : Plain c) (done rest : List Char) :
    readString done (c :: rest) = readString (c :: done) rest := by
  rw [readString, if_neg h.ne_quote, if_neg h.ne_slash, if_neg h.not_control]

theorem skipString_quote (rest : List Char) :
    skipString ('"' :: rest) = .ok rest := by
  rw [skipString, if_pos rfl]

theorem skipString_of_escape {s rest : List Char}
    (h : skipEscape s = .ok rest) :
    skipString ('\\' :: s) = skipString rest := by
  rw [skipString, if_neg (by simp), if_pos rfl]
  split
  · next hfault =>
      rw [h] at hfault
      cases hfault
  · next hskip =>
      rw [h] at hskip
      cases hskip
      rfl

theorem skipString_of_plain {c : Char} (h : Plain c) (rest : List Char) :
    skipString (c :: rest) = skipString rest := by
  rw [skipString, if_neg h.ne_quote, if_neg h.ne_slash, if_neg h.not_control]

theorem Denotes.readString {s cs : List Char} (h : Denotes s cs)
    (done rest : List Char) :
    readString done (s ++ '"' :: rest) = .ok (done.reverse ++ cs, rest) := by
  induction h generalizing done with
  | nil =>
      rw [List.nil_append, readString_quote, List.append_nil]
  | plain hplain _ ih =>
      rw [List.cons_append, readString_of_plain hplain, ih]
      simp
  | escape htext _ ih =>
      rw [List.cons_append, List.append_assoc, readString_of_escape
        (readEscape_eq_ok_iff.mpr ⟨_, htext, rfl⟩), ih]
      simp

theorem denotes_of_readString {done s cs rest : List Char}
    (h : readString done s = .ok (cs, rest)) :
    exists text cs', Denotes text cs' ∧ s = text ++ '"' :: rest ∧
      cs = done.reverse ++ cs' := by
  fun_induction Cache.readString done s with
  | case1 => cases h
  | case2 done s =>
      cases h
      exact ⟨[], [], Denotes.nil, rfl, (List.append_nil _).symm⟩
  | case3 => cases h
  | case4 done s c rest' hescape _ _ ih =>
      rcases ih h with ⟨text, cs', htext, hs, hcs⟩
      rcases readEscape_eq_ok_iff.mp hescape with ⟨escape, hc, hs'⟩
      refine ⟨'\\' :: (escape ++ text), c :: cs', Denotes.escape hc htext,
        ?_, ?_⟩
      · rw [hs', hs]
        simp
      · rw [hcs]
        simp
  | case5 => cases h
  | case6 done c s hquote hslash hcontrol ih =>
      rcases ih h with ⟨text, cs', htext, hs, hcs⟩
      refine ⟨c :: text, c :: cs',
        Denotes.plain ⟨hquote, hslash, hcontrol⟩ htext, ?_, ?_⟩
      · rw [hs]
        rfl
      · rw [hcs]
        simp

theorem readString_eq_ok_iff {s cs rest : List Char} :
    readString [] s = .ok (cs, rest) ↔
      exists text, Denotes text cs ∧ s = text ++ '"' :: rest := by
  constructor
  · intro h
    rcases denotes_of_readString h with ⟨text, cs', htext, hs, hcs⟩
    rw [hcs]
    exact ⟨text, htext, hs⟩
  · intro h
    rcases h with ⟨text, htext, hs⟩
    rw [hs]
    exact htext.readString [] rest

theorem InQuotes.skipString {s : List Char} (h : InQuotes s)
    (rest : List Char) : skipString (s ++ '"' :: rest) = .ok rest := by
  induction h with
  | nil => exact skipString_quote rest
  | plain hplain _ ih =>
      rw [List.cons_append, skipString_of_plain hplain, ih]
  | escape htext _ ih =>
      rw [List.cons_append, List.append_assoc, skipString_of_escape
        (skipEscape_eq_ok_iff.mpr ⟨_, _, htext, rfl⟩), ih]

theorem skipString_eq_ok_iff {s rest : List Char} :
    skipString s = .ok rest ↔
      exists text, InQuotes text ∧ s = text ++ '"' :: rest := by
  constructor
  · intro h
    fun_induction Cache.skipString s with
    | case1 => cases h
    | case2 s =>
        cases h
        exact ⟨[], InQuotes.nil, rfl⟩
    | case3 => cases h
    | case4 s rest' hescape _ _ ih =>
        rcases ih h with ⟨text, htext, hs⟩
        rcases skipEscape_eq_ok_iff.mp hescape with ⟨escape, n, hn, hs'⟩
        refine ⟨'\\' :: (escape ++ text), InQuotes.escape hn htext, ?_⟩
        rw [hs', hs]
        simp
    | case5 => cases h
    | case6 c s hquote hslash hcontrol ih =>
        rcases ih h with ⟨text, htext, hs⟩
        refine ⟨c :: text,
          InQuotes.plain ⟨hquote, hslash, hcontrol⟩ htext, ?_⟩
        rw [hs]
        rfl
  · intro h
    rcases h with ⟨text, htext, hs⟩
    rw [hs]
    exact htext.skipString rest

end Cache
end TokenNames
