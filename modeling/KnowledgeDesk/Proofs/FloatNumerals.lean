import KnowledgeDesk.Proofs.FloatText
import KnowledgeDesk.Proofs.IntegerText

/-!
# Integral floats and their texts

A `Float` whose value is an integer of at most 53 bits is written as that integer: the shortest
decimal of the value has no fraction (`shortest_of_integral`), so its plain text is the integer's
numeral. Conversely a plain text that is a numeral of such an integer comes from a float of that
value: the integer is a value of the format (`exists_representable_of_lt`), and a decimal lies in
the rounding interval of one value only (`eq_of_roundsTo_integral`). Main statement
(`plainText_numeral_iff`): the plain text of a float is a numeral of an integer `k` of at most
53 bits exactly when the float stands for `k`.

The float nearest a ratio stands for the ratio rounded (`value_floatOfRatio_of_roundRatio`): its
bits are the ones `BinaryFormat.encode` writes, which read back as the rounded value
(`double_decode_encode`).
-/

namespace KnowledgeDesk.Number

open BinaryFormat

/-- The rational a value stands for: `±m · 2^e`, and nothing for NaN and the infinities. -/
def BinaryValue.toRat? : BinaryValue → Option ℚ
  | .finite negative m e => some ((if negative then -(m : ℚ) else m) * 2 ^ e)
  | _ => none

/-! ## `double` values and their bits -/

theorem double_minExponent : double.minExponent = -1074 := by decide

theorem double_maxExponent : double.maxExponent = 971 := by decide

/-- **What 64 bits read as is a value of `double`.** -/
theorem double_representable_of_decode {n : Nat} {negative : Bool} {m : Nat} {e : Int}
    (h : double.decode n = .finite negative m e) : double.Representable m e := by
  have hfb : double.fractionBits = 52 := rfl
  have hp : double.precision = 53 := rfl
  rw [double_decode] at h
  split at h
  · split at h <;> cases h
  · split at h
    · -- zero or a subnormal value: the least exponent, below the hidden bit
      cases h
      refine ⟨?_, le_of_eq double_minExponent.symm, by rw [double_maxExponent]; decide,
        .inl double_minExponent.symm⟩
      rw [hp]
      omega
    · -- a normal value: the hidden bit set, the exponent from a field between 1 and 2046
      cases h
      refine ⟨?_, ?_, ?_, .inr ?_⟩
      · rw [hp]
        omega
      · rw [double_minExponent]
        omega
      · rw [double_maxExponent]
        omega
      · rw [hfb]
        omega

/-- **Writing a value of `double` and reading the bits gives the value**, and the bits fit in 64. -/
theorem double_decode_encode (negative : Bool) {m : Nat} {e : Int}
    (hrep : double.Representable m e) :
    double.encode negative m e < 2 ^ 64 ∧
      double.decode (double.encode negative m e) = .finite negative m e := by
  have hm : m < 2 ^ 53 := hrep.mantissa_lt
  have hmin : -1074 ≤ e := double_minExponent ▸ hrep.min_le
  have hmax : e ≤ 971 := double_maxExponent ▸ hrep.le_max
  have hnormal : e = -1074 ∨ 2 ^ 52 ≤ m := double_minExponent ▸ hrep.normal
  rw [double_encode, double_decode]
  by_cases hsub : m < 4503599627370496
  · -- zero or a subnormal value: an empty exponent field
    have he : e = -1074 := hnormal.resolve_right (by omega)
    subst he
    rw [if_pos hsub]
    have hfield : ((if negative then 9223372036854775808 else 0) + m) / 4503599627370496 % 2048 = 0 := by
      cases negative <;> simp <;> omega
    have hfrac : ((if negative then 9223372036854775808 else 0) + m) % 4503599627370496 = m := by
      cases negative <;> simp <;> omega
    have hsign : (((if negative then 9223372036854775808 else 0) + m) / 9223372036854775808 % 2 == 1)
        = negative := by
      cases negative <;> simp <;> omega
    refine ⟨by cases negative <;> simp <;> omega, ?_⟩
    rw [if_neg (by omega), if_pos hfield, hfrac, hsign]
  · -- a normal value: the exponent field from the exponent, the fraction below the hidden bit
    rw [if_neg hsub]
    obtain ⟨F, hF, hFe⟩ : ∃ F : Nat, (e - -1074 + 1).toNat = F ∧ (F : Int) = e + 1075 :=
      ⟨_, rfl, by omega⟩
    rw [hF]
    have hfield : ((if negative then 9223372036854775808 else 0) + F * 4503599627370496 +
        (m - 4503599627370496)) / 4503599627370496 % 2048 = F := by
      cases negative <;> simp <;> omega
    have hfrac : ((if negative then 9223372036854775808 else 0) + F * 4503599627370496 +
        (m - 4503599627370496)) % 4503599627370496 = m - 4503599627370496 := by
      cases negative <;> simp <;> omega
    have hsign : (((if negative then 9223372036854775808 else 0) + F * 4503599627370496 +
        (m - 4503599627370496)) / 9223372036854775808 % 2 == 1) = negative := by
      cases negative <;> simp <;> omega
    refine ⟨by cases negative <;> simp <;> omega, ?_⟩
    rw [hfield, if_neg (by omega), if_neg (by omega), hfrac, hsign,
      Nat.sub_add_cancel (by omega), show (F : Int) - 1 + -1074 = e by omega]

theorem double_decode_infinityBits (negative : Bool) :
    double.infinityBits negative < 2 ^ 64 ∧
      double.decode (double.infinityBits negative) = .infinity negative := by
  cases negative <;> exact ⟨by decide, rfl⟩

theorem value_ofBits {n : Nat} (hn : n < 2 ^ 64) (h : double.decode n ≠ .nan) :
    Float.value (Float.ofBits n.toUInt64) = double.decode n := by
  have htoNat : n.toUInt64.toNat = n := UInt64.toNat_ofNat_of_lt' hn
  have hvalid : Float.Model.Format.binary64.Valid n.toUInt64.toBitVec :=
    valid_of_decode _ (by rw [UInt64.toNat_toBitVec, htoNat]; exact h)
  unfold Float.value
  rw [Float.toBits_ofBits hvalid, htoNat]

/-- **The `Float` nearest a ratio stands for the ratio rounded.** -/
theorem value_floatOfRatio_of_roundRatio (negative : Bool) {num den : Nat} (hden : 0 < den)
    {m : Nat} {e : Int} (h : double.roundRatio num den = some (m, e)) :
    Float.value (floatOfRatio negative num den) = .finite negative m e := by
  obtain ⟨hlt, hdec⟩ :=
    double_decode_encode negative (representable_of_roundRatio (by decide) (by decide) hden h)
  unfold floatOfRatio bitsOfRatio
  simp only [h]
  rw [value_ofBits hlt (by rw [hdec]; exact fun h => nomatch h), hdec]

theorem value_floatOfRatio_of_overflow (negative : Bool) {num den : Nat}
    (h : double.roundRatio num den = none) :
    Float.value (floatOfRatio negative num den) = .infinity negative := by
  obtain ⟨hlt, hdec⟩ := double_decode_infinityBits negative
  unfold floatOfRatio bitsOfRatio
  simp only [h]
  rw [value_ofBits hlt (by rw [hdec]; exact fun h => nomatch h), hdec]

/-- **The `Float` nearest a positive natural number stands for at least half of it**, when it is
finite. -/
theorem le_two_mul_of_value_floatOfRatio {n : Nat} (hn : 1 ≤ n) {q : ℚ}
    (h : (Float.value (floatOfRatio false n 1)).toRat? = some q) : (n : ℚ) ≤ 2 * q := by
  cases hround : double.roundRatio n 1 with
  | none =>
    rw [value_floatOfRatio_of_overflow false hround] at h
    cases h
  | some p =>
    obtain ⟨m, e⟩ := p
    rw [value_floatOfRatio_of_roundRatio false one_pos hround] at h
    simp only [BinaryValue.toRat?, Bool.false_eq_true, ↓reduceIte, Option.some.injEq] at h
    -- the least power of the format, `2^-1074`, is below one
    have hge : (2 : ℚ) ^ double.minExponent ≤ (n : ℚ) / ((1 : Nat) : ℚ) := by
      rw [Nat.cast_one, div_one, double_minExponent]
      exact le_trans (zpow_le_one_of_nonpos₀ one_le_two (by decide)) (by exact_mod_cast hn)
    have hhalf := le_two_mul_of_roundRatio (by decide) one_pos hge hround
    rwa [Nat.cast_one, div_one, h] at hhalf

/-! ## Integral values -/

/-- **Every positive integer of at most 53 bits is a value of `double`**, as `N · 2^(52-L)` at the
exponent `L - 52`, `L` its bit length less one. -/
theorem exists_representable_of_lt {N : Nat} (h1 : 1 ≤ N) (hN : N < 2 ^ 53) :
    ∃ m e, double.Representable m e ∧ 0 < m ∧ (m : ℚ) * 2 ^ e = N := by
  have hL : N.log2 < 53 := (Nat.log2_lt (by omega)).mpr hN
  have hlow : 2 ^ N.log2 ≤ N := Nat.log2_self_le (by omega)
  have hhigh : N < 2 ^ (N.log2 + 1) := Nat.lt_log2_self
  have hsplit : 2 ^ 52 = 2 ^ N.log2 * 2 ^ (52 - N.log2) := by
    rw [← Nat.pow_add, Nat.add_sub_cancel' (by omega)]
  refine ⟨N * 2 ^ (52 - N.log2), (N.log2 : Int) - 52, ⟨?_, ?_, ?_, .inr ?_⟩, ?_, ?_⟩
  · -- below `2^(L+1) · 2^(52-L) = 2^53`
    calc N * 2 ^ (52 - N.log2) < 2 ^ (N.log2 + 1) * 2 ^ (52 - N.log2) :=
          Nat.mul_lt_mul_of_pos_right hhigh (Nat.pow_pos (by decide))
      _ = 2 ^ double.precision := by
          rw [← Nat.pow_add]
          congr 1
          show N.log2 + 1 + (52 - N.log2) = 53
          omega
  · rw [double_minExponent]
    omega
  · rw [double_maxExponent]
    omega
  · show 2 ^ 52 ≤ _
    rw [hsplit]
    exact Nat.mul_le_mul_right _ hlow
  · exact Nat.mul_pos (by omega) (Nat.pow_pos (by decide))
  · push_cast
    rw [mul_assoc, ← zpow_natCast, ← zpow_add₀ two_ne_zero,
      show ((52 - N.log2 : Nat) : Int) + ((N.log2 : Int) - 52) = 0 by omega, zpow_zero, mul_one]

theorem pos_of_roundsTo {f : BinaryFormat} {m : Nat} {e : Int} (hm : 0 < m) {r : ℚ}
    (h : f.RoundsTo m e r) : 0 < r := by
  have hgap : (lowerGap f m e : ℚ) ≤ 2 := by exact_mod_cast lowerGap_le f m e
  have hm1 : (1 : ℚ) ≤ m := by exact_mod_cast hm
  have hlower := h.lower
  rw [le_div_iff₀ (zpow_pos two_pos e)] at hlower
  have hend : (0 : ℚ) < m - lowerGap f m e / 4 := by linarith
  exact lt_of_lt_of_le (mul_pos hend (zpow_pos two_pos e)) hlower

/-- **An integer of at most 53 bits in the rounding interval of a value is that value.** -/
theorem eq_of_roundsTo_integral {m : Nat} {e : Int} (hm : 0 < m) (hrep : double.Representable m e)
    {N : Nat} (h1 : 1 ≤ N) (hN : N < 2 ^ 53) (h : double.RoundsTo m e N) : (m : ℚ) * 2 ^ e = N := by
  obtain ⟨m', e', hrep', hm', hval⟩ := exists_representable_of_lt h1 hN
  have hratio : ((N : Nat) : ℚ) = (N : ℚ) / ((1 : Nat) : ℚ) := by rw [Nat.cast_one, div_one]
  have hself : double.RoundsTo m' e' ((N : ℚ) / ((1 : Nat) : ℚ)) := by
    rw [← hratio, ← hval]
    exact roundsTo_self double e'
  obtain ⟨rfl, rfl⟩ :=
    RoundsTo.unique (by decide) one_pos hm hm' hrep hrep' (hratio ▸ h) hself
  exact hval

/-- A value whose unit is at most one is the only natural number of its rounding interval: the
interval reaches at most half a unit to either side. -/
theorem eq_of_roundsTo_nat {f : BinaryFormat} {m : Nat} {e : Int} (he : e ≤ 0) {N M : Nat}
    (hval : (m : ℚ) * 2 ^ e = N) (h : f.RoundsTo m e M) : M = N := by
  have hgap : (lowerGap f m e : ℚ) ≤ 2 := by exact_mod_cast lowerGap_le f m e
  have hgap0 : (0 : ℚ) ≤ lowerGap f m e := Nat.cast_nonneg _
  have hpos : (0 : ℚ) < 2 ^ e := zpow_pos two_pos e
  have hunit : (2 : ℚ) ^ e ≤ 1 := zpow_le_one_of_nonpos₀ one_le_two he
  have hlower := h.lower
  have hupper := h.upper
  rw [le_div_iff₀ hpos] at hlower
  rw [div_le_iff₀ hpos] at hupper
  have hreach : (lowerGap f m e : ℚ) / 4 * 2 ^ e ≤ 1 / 2 := by
    have : (lowerGap f m e : ℚ) / 4 * 2 ^ e ≤ 2 / 4 * 1 :=
      mul_le_mul (by linarith) hunit hpos.le (by norm_num)
    linarith
  have hNM : (N : ℚ) < M + 1 := by nlinarith
  have hMN : (M : ℚ) < N + 1 := by nlinarith
  have hNM' : N < M + 1 := by exact_mod_cast hNM
  have hMN' : M < N + 1 := by exact_mod_cast hMN
  omega

/-- **The shortest decimal of an integral value of at most 53 bits is the integer**: digits `c`
and an exponent `k ≥ 0` with `c · 10^k` the value. The value has a unit of at most one, so the
integer is the only candidate at exponents zero and above, and the search, starting between
exponents 1 and 17, meets it. -/
theorem shortest_of_integral {m : Nat} {e : Int} (hm : 0 < m) (hrep : double.Representable m e)
    {N : Nat} (h1 : 1 ≤ N) (hN : N < 2 ^ 53) (hval : (m : ℚ) * 2 ^ e = N) :
    0 ≤ (shortest double m e).2 ∧
      (shortest double m e).1 * 10 ^ (shortest double m e).2.toNat = N := by
  have hmlt : m < 2 ^ 53 := hrep.mantissa_lt
  -- the exponent lies between `-52` and `0`, and the value is normal
  have hN1 : (1 : ℚ) ≤ N := by exact_mod_cast h1
  have hN53 : (N : ℚ) < 2 ^ 53 := by exact_mod_cast hN
  have hlow : -53 < e := by
    by_contra hle
    have hsmall : (m : ℚ) * 2 ^ e ≤ m * 2 ^ (-53 : Int) :=
      mul_le_mul_of_nonneg_left (zpow_le_zpow_right₀ one_le_two (by omega)) (Nat.cast_nonneg _)
    have hless : (m : ℚ) * 2 ^ (-53 : Int) < 1 := by
      rw [zpow_neg, ← div_eq_mul_inv, div_lt_one (by positivity)]
      exact_mod_cast hmlt
    linarith
  have hnormal : 2 ^ 52 ≤ m := hrep.normal.resolve_left (by rw [double_minExponent]; omega)
  have hhigh : e ≤ 0 := by
    by_contra hgt
    have hbig : (2 : ℚ) ^ 52 * 2 ^ (1 : Int) ≤ m * 2 ^ e :=
      mul_le_mul (by exact_mod_cast hnormal) (zpow_le_zpow_right₀ one_le_two (by omega))
        (by positivity) (Nat.cast_nonneg _)
    norm_num at hbig
    linarith
  -- the search starts between exponents `1` and `17`
  have hlog : (4 * m + 2).log2 = 54 := (Nat.log2_eq_iff (by omega)).mpr ⟨by omega, by omega⟩
  have hstart : 0 ≤ startExponent (4 * m + 2) (e - 2) ∧ startExponent (4 * m + 2) (e - 2) < 48 := by
    unfold startExponent
    dsimp only
    rw [hlog, Int.fdiv_eq_ediv_of_nonneg _ (by decide)]
    omega
  -- the integer itself is a candidate at exponent zero
  have hzero : double.RoundsTo m e ((N : ℚ) * 10 ^ (0 : Int)) := by
    rw [zpow_zero, mul_one, ← hval]
    exact roundsTo_self double e
  obtain ⟨hlo, hhi⟩ := digits_of_roundsTo hm hzero
  obtain ⟨c, k, hck, hk, hc₁, hc₂⟩ :=
    shortestWith_found double m e 48 (by omega) hstart.1 (le_trans hlo hhi)
  unfold shortest
  rw [hck]
  refine ⟨hk, ?_⟩
  -- and the digits found at an exponent `k ≥ 0` make an integer of the interval
  have hr := roundsTo_of_digits hm hc₁ hc₂
  have hcast : (c : ℚ) * 10 ^ k = ((c * 10 ^ k.toNat : Nat) : ℚ) := by
    push_cast
    rw [← zpow_natCast, Int.toNat_of_nonneg hk]
  rw [hcast] at hr
  exact eq_of_roundsTo_nat hhigh hval hr

/-! ## Numerals among plain texts -/

theorem toList_positional_of_nonneg (c : Nat) {k : Int} (hk : 0 ≤ k) :
    (positional c k).toList = Nat.toDigits 10 c ++ List.replicate k.toNat '0' := by
  simp [positional, hk, digitsOf, zeros]

theorem dot_mem_positional (c : Nat) {k : Int} (hk : k < 0) : '.' ∈ (positional c k).toList := by
  unfold positional
  rw [if_neg (by omega)]
  dsimp only
  split <;> simp

theorem not_decimalNumeral_of_mem {cs : List Char} (c : Char) (hc : c ∈ cs)
    (hdigit : c.isDigit = false) (hplus : c ≠ '+') (hminus : c ≠ '-') (k : Int) :
    ¬DecimalNumeral cs k := fun h => by
  rcases h.mem_chars c hc with h | h | h
  · simp [hdigit] at h
  · exact hplus h
  · exact hminus h

/-- **The signed positional text of `c · 10^k` with `k ≥ 0` is a numeral of it.** -/
theorem decimalNumeral_signed_positional (negative : Bool) (c : Nat) {k : Int} (hk : 0 ≤ k) :
    DecimalNumeral ((if negative then "-" else "") ++ positional c k).toList
      (if negative then -((c * 10 ^ k.toNat : Nat) : Int) else ((c * 10 ^ k.toNat : Nat) : Int)) := by
  have hdigits : AllDigits (Nat.toDigits 10 c ++ List.replicate k.toNat '0') := by
    refine ⟨by simp [Nat.toDigits_ne_nil], fun ch hch => ?_⟩
    rcases List.mem_append.mp hch with hch | hch
    · exact Nat.isDigit_of_mem_toDigits (by decide) (by decide) hch
    · rw [List.eq_of_mem_replicate hch]
      decide
  have hvalue : Nat.ofDigitChars 10 (Nat.toDigits 10 c ++ List.replicate k.toNat '0') 0 =
      c * 10 ^ k.toNat := by
    rw [Nat.ofDigitChars_append, Nat.ofDigitChars_ten_toDigits, Nat.ofDigitChars_replicate_zero,
      Nat.mul_comm]
  rw [String.toList_append, toList_positional_of_nonneg c hk]
  cases negative
  · simpa [hvalue] using DecimalNumeral.unsigned hdigits
  · simpa [hvalue] using DecimalNumeral.minus hdigits

theorem exists_nat_of_signed_eq {negative : Bool} {v : ℚ} (hv : 0 < v) {k : Int}
    (h : (if negative then -v else v) = k) :
    ∃ N : Nat, v = N ∧ k = (if negative then -(N : Int) else N) := by
  cases negative
  · have hk : 0 ≤ k := by
      have : (0 : ℚ) ≤ k := by simp only [Bool.false_eq_true, ↓reduceIte] at h; linarith
      exact_mod_cast this
    refine ⟨k.natAbs, ?_, by simp [Int.natAbs_of_nonneg hk]⟩
    simp only [Bool.false_eq_true, ↓reduceIte] at h
    rw [h, ← Int.cast_natCast, Int.natAbs_of_nonneg hk]
  · have hk : k ≤ 0 := by
      have : (k : ℚ) ≤ 0 := by simp only [↓reduceIte] at h; linarith
      exact_mod_cast this
    refine ⟨k.natAbs, ?_, by simp [Int.ofNat_natAbs_of_nonpos hk]⟩
    simp only [↓reduceIte] at h
    rw [← Int.cast_natCast, Int.ofNat_natAbs_of_nonpos hk, Int.cast_neg, ← h, neg_neg]

theorem spell_plain_finite (negative : Bool) (m : Nat) (e : Int) :
    BinaryValue.spell double .plain (.finite negative m e) =
      if m = 0 then (if negative then "-" else "") ++ "0"
      else (if negative then "-" else "") ++
        positional (shortest double m e).1 (shortest double m e).2 :=
  rfl

theorem decimalNumeral_signed_zero_iff (negative : Bool) (k : Int) :
    DecimalNumeral ((if negative then "-" else "") ++ "0").toList k ↔ k = 0 := by
  have hdigits : AllDigits ['0'] := ⟨by simp, fun c hc => (List.mem_singleton.mp hc) ▸ rfl⟩
  have hvalue : Nat.ofDigitChars 10 ['0'] 0 = 0 := rfl
  have hzero : DecimalNumeral ((if negative then "-" else "") ++ "0").toList 0 := by
    cases negative
    · simpa [hvalue] using DecimalNumeral.unsigned hdigits
    · simpa [hvalue] using DecimalNumeral.minus hdigits
  exact ⟨fun h => (hzero.unique h).symm, fun h => h ▸ hzero⟩

/-- **The signed positional text of the shortest decimal of a positive value is a numeral of an
integer `k` of at most 53 bits exactly when the value is `k`.** -/
theorem decimalNumeral_shortest_iff (negative : Bool) {m : Nat} {e : Int} (hm : 0 < m)
    (hrep : double.Representable m e) {k : Int} (hk : k.natAbs < 2 ^ 53) :
    DecimalNumeral ((if negative then "-" else "") ++
        positional (shortest double m e).1 (shortest double m e).2).toList k ↔
      (if negative then -((m : ℚ) * 2 ^ e) else (m : ℚ) * 2 ^ e) = k := by
  have hr := shortest_roundsTo (by decide) (by decide) (by decide) hm hrep
  rcases hs : shortest double m e with ⟨c, j⟩
  rw [hs] at hr
  constructor
  · intro h
    -- a numeral has no point, so the decimal exponent is not negative
    have hj : 0 ≤ j := by
      by_contra hj
      refine not_decimalNumeral_of_mem '.' ?_ (by decide) (by decide) (by decide) k h
      exact String.toList_append ▸ List.mem_append_right _ (dot_mem_positional c (by omega))
    have hk' := (decimalNumeral_signed_positional negative c hj).unique h
    -- so the text names the integer `c · 10^j`, which lies in the value's rounding interval
    have hcast : (c : ℚ) * 10 ^ j = ((c * 10 ^ j.toNat : Nat) : ℚ) := by
      push_cast
      rw [← zpow_natCast, Int.toNat_of_nonneg hj]
    rw [hcast] at hr
    have hN1 : 1 ≤ c * 10 ^ j.toNat := by
      have hpos := pos_of_roundsTo hm hr
      have : 0 < c * 10 ^ j.toNat := by exact_mod_cast hpos
      omega
    have hNlt : c * 10 ^ j.toNat < 2 ^ 53 := by
      rw [← hk'] at hk
      cases negative <;> simpa only [Bool.false_eq_true, ↓reduceIte, Int.natAbs_neg,
        Int.natAbs_natCast] using hk
    rw [eq_of_roundsTo_integral hm hrep hN1 hNlt hr, ← hk']
    cases negative <;> simp
  · intro h
    obtain ⟨N, hN, hkN⟩ := exists_nat_of_signed_eq (by positivity) h
    have hN1 : 1 ≤ N := by
      have hpos : (0 : ℚ) < N := hN ▸ (by positivity)
      exact_mod_cast hpos
    have hNlt : N < 2 ^ 53 := by
      rw [hkN] at hk
      cases negative <;> simpa only [Bool.false_eq_true, ↓reduceIte, Int.natAbs_neg,
        Int.natAbs_natCast] using hk
    -- the shortest decimal of an integral value is the integer
    obtain ⟨hj, hcj⟩ := shortest_of_integral hm hrep hN1 hNlt hN
    rw [hs] at hj hcj
    dsimp only at hj hcj
    have hnum := decimalNumeral_signed_positional negative c hj
    rwa [hcj, ← hkN] at hnum

/-- **The plain text of a `Float` is a numeral of an integer `k` of at most 53 bits exactly when
the float stands for `k`.** -/
theorem plainText_numeral_iff (x : Float) {k : Int} (hk : k.natAbs < 2 ^ 53) :
    DecimalNumeral (Float.plainText x).toList k ↔ (Float.value x).toRat? = some (k : ℚ) := by
  unfold Float.plainText
  cases hv : Float.value x with
  | nan =>
    refine iff_of_false (not_decimalNumeral_of_mem 'N' ?_ (by decide) (by decide)
      (by decide) k) (by simp [BinaryValue.toRat?])
    show 'N' ∈ "NaN".toList
    simp
  | infinity negative =>
    refine iff_of_false (not_decimalNumeral_of_mem 'i' ?_ (by decide) (by decide)
      (by decide) k) (by simp [BinaryValue.toRat?])
    show 'i' ∈ ((if negative then "-" else "") ++ "inf").toList
    cases negative <;> simp
  | finite negative m e =>
    have hrep := double_representable_of_decode hv
    have hvalue : (BinaryValue.finite negative m e).toRat? =
        some (if negative then -((m : ℚ) * 2 ^ e) else (m : ℚ) * 2 ^ e) := by
      cases negative <;> simp [BinaryValue.toRat?]
    rw [spell_plain_finite, hvalue, Option.some.injEq]
    split
    · -- zero, written `0` or `-0`
      next hm =>
      subst hm
      rw [decimalNumeral_signed_zero_iff]
      simp only [Nat.cast_zero, zero_mul, neg_zero, ite_self]
      constructor
      · rintro rfl
        simp
      · intro h
        exact_mod_cast h.symm
    · exact decimalNumeral_shortest_iff negative (Nat.pos_of_ne_zero ‹_›) hrep hk

end KnowledgeDesk.Number
