import TokenNames.Table

/-!
# Looking up names

## Columns, types and tables

A column is determined by its length and its names, and a table by its columns.  A type
that is not negative is looked up as an index; only the end of the input has a name
without an entry.
-/

namespace TokenNames

/-!
# Types as indices
-/

namespace TokenType

theorem nonneg_iff (t : TokenType) : 0 ≤ t ↔ 0 ≤ t.toInt := by
  rw [Int32.le_iff_toInt_le, Int32.toInt_zero]

theorem neg_iff (t : TokenType) : t < 0 ↔ t.toInt < 0 := by
  rw [Int32.lt_iff_toInt_lt, Int32.toInt_zero]

theorem natCast_index {t : TokenType} (h : 0 ≤ t) :
    ((t.toInt.toNat : Nat) : Int) = t.toInt :=
  Int.toNat_of_nonneg ((nonneg_iff t).mp h)

theorem toInt_ofNat_index {n : Nat} (h : n < 2147483648) :
    (Int32.ofNat n).toInt = n :=
  Int32.toInt_ofNat_of_lt h

theorem nonneg_ofNat_index {n : Nat} (h : n < 2147483648) : 0 ≤ Int32.ofNat n := by
  rw [nonneg_iff, toInt_ofNat_index h]
  exact Int.natCast_nonneg n

theorem ofNat_index {t : TokenType} (h : 0 ≤ t) :
    Int32.ofNat t.toInt.toNat = t := by
  have hupper := Int32.toInt_lt t
  rw [nonneg_iff] at h
  apply Int32.toInt_inj.mp
  rw [toInt_ofNat_index (by omega)]
  omega

theorem eq_of_index {t u : TokenType} (ht : 0 ≤ t) (hu : 0 ≤ u)
    (h : t.toInt.toNat = u.toInt.toNat) : t = u := by
  rw [← ofNat_index ht, ← ofNat_index hu, h]

theorem ne_eof_of_nonneg {t : TokenType} (h : 0 ≤ t) : t ≠ eof := by
  intro heof
  rw [heof] at h
  exact absurd h (by decide)

/-!
# Ranges of types

The types of a range ascend, and a greater range begins with the smaller one.
-/

theorem pairwise_upTo (max : TokenType) :
    (upTo max).Pairwise fun t u => t < u := by
  have hupper := Int32.toInt_lt max
  rw [upTo, List.pairwise_map]
  refine List.Pairwise.imp_of_mem ?_ List.pairwise_lt_range
  intro m n hm hn hlt
  rw [List.mem_range] at hm hn
  rw [Int32.lt_iff_toInt_lt, toInt_ofNat_index (by omega),
    toInt_ofNat_index (by omega)]
  exact Int.ofNat_lt.mpr hlt

theorem upTo_isPrefix {a b : TokenType} (h : a ≤ b) : upTo a <+: upTo b := by
  have hcount : (a.toInt + 1).toNat ≤ (b.toInt + 1).toNat :=
    Int.toNat_le_toNat (Int.add_le_add_right (Int32.le_iff_toInt_le.mp h) 1)
  rcases Nat.exists_eq_add_of_le hcount with ⟨extra, hextra⟩
  unfold upTo
  rw [hextra, List.range_add, List.map_append]
  exact List.prefix_append _ _

theorem upTo_append {a b : TokenType} (h : a ≤ b) :
    exists rest, upTo b = upTo a ++ rest ∧ forall t, t ∈ rest -> a < t := by
  rcases upTo_isPrefix h with ⟨rest, hrest⟩
  refine ⟨rest, hrest.symm, ?_⟩
  intro t ht
  have hmem : t ∈ upTo b := by
    rw [← hrest]
    exact List.mem_append_right _ ht
  have hascend := pairwise_upTo b
  rw [← hrest, List.pairwise_append] at hascend
  rw [← Int32.not_le]
  intro hle
  -- A type up to `a` is in front of the rest, and nothing is less than itself.
  have hfront := mem_upTo.mpr ⟨(mem_upTo.mp hmem).left, hle⟩
  exact Int32.lt_irrefl (hascend.2.2 t hfront t ht)

end TokenType

/-!
# Columns
-/

namespace Column

theorem eq_of_names {names names' : Column}
    (hsize : names.size = names'.size)
    (hname : forall t : Nat, names[t]?.join = names'[t]?.join) :
    names = names' := by
  apply Array.ext hsize
  intro t ht ht'
  have hentry := hname t
  rw [Array.getElem?_eq_getElem ht, Array.getElem?_eq_getElem ht'] at hentry
  exact hentry

theorem entry?_of_nonneg (names : Column) {t : TokenType} (h : 0 ≤ t) :
    names.entry? t = names[t.toInt.toNat]? := by
  unfold entry?
  rw [if_neg]
  rw [TokenType.neg_iff]
  rw [TokenType.nonneg_iff] at h
  omega

theorem entry?_of_neg (names : Column) {t : TokenType} (h : t < 0) :
    names.entry? t = none := by
  unfold entry?
  rw [if_pos h]

theorem mem_of_name? {names : Column} {t : TokenType} {name : String}
    (h : names.name? t = some name) : some name ∈ names := by
  unfold name? entry? at h
  split at h
  · cases h
  · exact Array.mem_of_getElem? (Option.join_eq_some_iff.mp h)

end Column

/-!
# Tables
-/

namespace Table

def column (table : Table) : Kind -> Column
  | .literal => table.literalNames
  | .symbolic => table.symbolicNames

/-- The greatest type follows from the columns, so nothing else tells tables apart. -/
theorem eq_of_columns {table table' : Table}
    (hcolumn : forall kind, table.column kind = table'.column kind)
    (hdisplay : table.displayNames = table'.displayNames) :
    table = table' := by
  have hliteral : table.literalNames = table'.literalNames :=
    hcolumn .literal
  have hsymbolic : table.symbolicNames = table'.symbolicNames :=
    hcolumn .symbolic
  have hmax : table.maxTokenType = table'.maxTokenType := by
    rw [table.maxTokenType_eq, table'.maxTokenType_eq, hliteral, hsymbolic,
      hdisplay]
  cases table
  cases table'
  cases hliteral
  cases hsymbolic
  cases hdisplay
  cases hmax
  rfl

theorem name_of_nonneg (table : Table) (kind : Kind) {t : TokenType}
    (h : 0 ≤ t) :
    table.names.name kind t = (table.column kind)[t.toInt.toNat]?.join := by
  cases kind with
  | literal =>
      show (table.literalNames.entry? t).join = _
      rw [Column.entry?_of_nonneg _ h]
      rfl
  | symbolic =>
      show table.symbolicName t = table.symbolicNames[t.toInt.toNat]?.join
      unfold symbolicName
      rw [Column.entry?_of_nonneg _ h]
      cases table.symbolicNames[t.toInt.toNat]? with
      | none => exact if_neg (TokenType.ne_eof_of_nonneg h)
      | some name => rfl

theorem name_of_index (table : Table) (kind : Kind) {n : Nat}
    (h : n < 2147483648) :
    table.names.name kind (Int32.ofNat n) = (table.column kind)[n]?.join := by
  rw [table.name_of_nonneg kind (TokenType.nonneg_ofNat_index h),
    TokenType.toInt_ofNat_index h, Int.toNat_natCast]

theorem name_of_neg (table : Table) (kind : Kind) {t : TokenType}
    (h : t < 0) :
    table.names.name kind t =
      if kind = .symbolic ∧ t = TokenType.eof then some "EOF" else none := by
  cases kind with
  | literal =>
      show (table.literalNames.entry? t).join = _
      rw [Column.entry?_of_neg _ h, if_neg]
      · rfl
      · intro hend
        rcases hend with ⟨hkind, _⟩
        cases hkind
  | symbolic =>
      show table.symbolicName t = _
      unfold symbolicName
      rw [Column.entry?_of_neg _ h]
      simp only [true_and]

theorem toInt_maxTokenType (table : Table) :
    table.maxTokenType.toInt =
      min ((table.length : Int) - 1) 2147483647 := by
  have hlimit : Int32.maxValue.toInt = 2147483647 := by decide
  rw [table.maxTokenType_eq, TokenType.toInt_lastOf, hlimit]
  rfl

theorem size_column_le (table : Table) (kind : Kind) :
    (table.column kind).size ≤ table.length := by
  unfold length
  cases kind with
  | literal => exact Nat.le_trans (Nat.le_max_left _ _) (Nat.le_max_left _ _)
  | symbolic => exact Nat.le_trans (Nat.le_max_right _ _) (Nat.le_max_left _ _)

theorem name_of_beyond (table : Table) (kind : Kind) {t : TokenType}
    (h : table.maxTokenType < t) : table.names.name kind t = none := by
  have hsize := table.size_column_le kind
  have hupper := Int32.toInt_lt t
  rw [Int32.lt_iff_toInt_lt, toInt_maxTokenType] at h
  have hnonneg : 0 ≤ t := by
    rw [TokenType.nonneg_iff]
    omega
  rw [table.name_of_nonneg kind hnonneg, Array.getElem?_eq_none (by omega)]
  rfl

theorem le_maxTokenType_of_name {table : Table} {kind : Kind}
    {t : TokenType} {name : String}
    (h : table.names.name kind t = some name) : t ≤ table.maxTokenType := by
  rw [← Int32.not_lt]
  intro hbeyond
  rw [table.name_of_beyond kind hbeyond] at h
  cases h

end Table

end TokenNames
