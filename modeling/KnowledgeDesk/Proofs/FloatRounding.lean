import KnowledgeDesk.Number.Decimal
import Mathlib.Algebra.Order.Field.Basic
import Mathlib.Algebra.Order.Field.Power
import Mathlib.Algebra.Order.Field.Rat
import Mathlib.Tactic.Linarith
import Mathlib.Tactic.FieldSimp
import Mathlib.Tactic.Ring

/-!
# Rounding a ratio to a binary format

`BinaryFormat.roundRatio` rounds `num / den` to nearest, ties to even, with natural-number
arithmetic only: it picks a scale `2^E` at which the ratio has an integer part of `precision`
bits (`scaleFor`), splits the ratio there into quotient and remainder (`scaled`), rounds the
quotient half to even (`roundHalfEven`) and carries a significand that rounded up to
`2^precision` into the exponent (`carry`).

`RoundsTo f m e r` says that the rational `r` lies in the rounding interval of `m · 2^e`: at most
half a unit of `2^e` above it, at most `lowerGap / 4` of a unit below (a quarter at the bottom of
a binade, where the value below is half a unit away), and at an end only when `m` is even.
Main statement (`roundRatio_of_roundsTo`): every ratio in the rounding interval of a value of the
format rounds to that value.
-/

namespace KnowledgeDesk.Number

namespace BinaryFormat

variable {f : BinaryFormat}

/-- The significand and exponent of a finite value of a format: at most `precision` bits, an
exponent in range, and the hidden bit set except at the least exponent. -/
structure Representable (f : BinaryFormat) (m : Nat) (e : Int) : Prop where
  mantissa_lt : m < 2 ^ f.precision
  min_le : f.minExponent ≤ e
  le_max : e ≤ f.maxExponent
  normal : e = f.minExponent ∨ 2 ^ f.fractionBits ≤ m

/-- `r` rounds to `m · 2^e` with ties to even: measured in units of `2^e`, it lies at most half a
unit above `m` and at most `lowerGap / 4` below, and on an end only when `m` is even. -/
structure RoundsTo (f : BinaryFormat) (m : Nat) (e : Int) (r : ℚ) : Prop where
  lower : (m : ℚ) - lowerGap f m e / 4 ≤ r / 2 ^ e
  upper : r / 2 ^ e ≤ m + 1 / 2
  lower_even : (m : ℚ) - lowerGap f m e / 4 = r / 2 ^ e → m % 2 = 0
  upper_even : r / 2 ^ e = m + 1 / 2 → m % 2 = 0

theorem lowerGap_le (f : BinaryFormat) (m : Nat) (e : Int) : lowerGap f m e ≤ 2 := by
  unfold lowerGap
  split <;> omega

theorem pow_precision (hp : 0 < f.precision) :
    (2 : ℚ) ^ f.precision = 2 * 2 ^ f.fractionBits := by
  rw [fractionBits, ← pow_succ', Nat.sub_add_cancel hp]

/-! ## Splitting a ratio at a scale -/

theorem natCast_div_add_mod_div (n : Nat) {d : Nat} (hd : 0 < d) :
    ((n / d : Nat) : ℚ) + ((n % d : Nat) : ℚ) / d = (n : ℚ) / d := by
  have hd' : (d : ℚ) ≠ 0 := by exact_mod_cast hd.ne'
  rw [eq_div_iff hd', add_mul, div_mul_cancel₀ _ hd']
  exact_mod_cast Nat.div_add_mod' n d

theorem scaled_spec (num : Nat) {den : Nat} (hden : 0 < den) (e : Int) :
    0 < (scaled num den e).2.2 ∧ (scaled num den e).2.1 < (scaled num den e).2.2 ∧
      ((scaled num den e).1 : ℚ) + (scaled num den e).2.1 / (scaled num den e).2.2 =
        (num : ℚ) / den / 2 ^ e := by
  unfold scaled
  simp only [Nat.pow_eq]
  split
  · next he =>
    have hd : 0 < den * 2 ^ e.toNat := Nat.mul_pos hden (Nat.pow_pos (by decide))
    refine ⟨hd, Nat.mod_lt _ hd, ?_⟩
    have hpow : (2 : ℚ) ^ e = ((2 ^ e.toNat : Nat) : ℚ) := by
      rw [Nat.cast_pow, Nat.cast_ofNat, ← zpow_natCast, Int.toNat_of_nonneg he]
    rw [natCast_div_add_mod_div num hd, hpow, div_div]
    push_cast
    rfl
  · next he =>
    refine ⟨hden, Nat.mod_lt _ hden, ?_⟩
    have hpow : (2 : ℚ) ^ e = 1 / ((2 ^ (-e).toNat : Nat) : ℚ) := by
      rw [Nat.cast_pow, Nat.cast_ofNat, ← zpow_natCast, Int.toNat_of_nonneg (by omega),
        zpow_neg, one_div, inv_inv]
    rw [natCast_div_add_mod_div _ hden, hpow]
    push_cast
    field_simp

/-- The quotient of `scaled` is the integer part: `n ≤ q` exactly when `n` is at most the
scaled ratio. -/
theorem le_scaled_iff (num : Nat) {den : Nat} (hden : 0 < den) (e : Int) (n : Nat) :
    n ≤ (scaled num den e).1 ↔ (n : ℚ) ≤ (num : ℚ) / den / 2 ^ e := by
  obtain ⟨hd, hrem, hsum⟩ := scaled_spec num hden e
  have hfrac : (0 : ℚ) ≤ ((scaled num den e).2.1 : ℚ) / (scaled num den e).2.2 :=
    div_nonneg (Nat.cast_nonneg _) (Nat.cast_nonneg _)
  have hfrac1 : ((scaled num den e).2.1 : ℚ) / (scaled num den e).2.2 < 1 := by
    rw [div_lt_one (by exact_mod_cast hd)]
    exact_mod_cast hrem
  constructor
  · intro h
    have : (n : ℚ) ≤ (scaled num den e).1 := by exact_mod_cast h
    linarith
  · intro h
    have : (n : ℚ) < (scaled num den e).1 + 1 := by linarith
    exact_mod_cast Nat.lt_succ_iff.mp (by exact_mod_cast this)

/-! ## The scale of a ratio -/

def atScale (num den : Nat) (e : Int) : ℚ := (num : ℚ) / den / 2 ^ e

theorem atScale_sub_one (num den : Nat) (e : Int) :
    atScale num den (e - 1) = 2 * atScale num den e := by
  unfold atScale
  rw [zpow_sub_one₀ two_ne_zero]
  field_simp

theorem atScale_anti (num den : Nat) {g g' : Int} (h : g ≤ g') :
    atScale num den g' ≤ atScale num den g :=
  div_le_div_of_nonneg_left (by positivity) (zpow_pos two_pos _)
    (zpow_le_zpow_right₀ one_le_two h)

theorem two_mul_atScale_le (num den : Nat) {g g' : Int} (h : g < g') :
    2 * atScale num den g' ≤ atScale num den g := by
  rw [← atScale_sub_one]
  exact atScale_anti num den (by omega)

/-- One correction of a scale: up when the integer part has more than `precision` bits, down
when it has fewer than `precision`. -/
def scaleStep (f : BinaryFormat) (num den : Nat) (e : Int) : Int :=
  if Nat.pow 2 f.precision ≤ (scaled num den e).1 then e + 1
  else if (scaled num den e).1 < Nat.pow 2 f.fractionBits then e - 1
  else e

def scaleGuess (f : BinaryFormat) (num den : Nat) : Int :=
  (num.log2 : Int) - den.log2 - f.fractionBits

theorem scaleFor_eq (f : BinaryFormat) (num den : Nat) :
    f.scaleFor num den =
      max f.minExponent (f.scaleStep num den (f.scaleStep num den (f.scaleGuess num den))) :=
  rfl

theorem two_pow_log2_bounds {n : Nat} (hn : 0 < n) :
    (2 : ℚ) ^ n.log2 ≤ n ∧ (n : ℚ) < 2 * 2 ^ n.log2 := by
  have hlt : n < 2 * 2 ^ n.log2 := by
    have := Nat.lt_log2_self (n := n)
    rwa [Nat.pow_succ, Nat.mul_comm] at this
  exact ⟨by exact_mod_cast Nat.log2_self_le hn.ne', by exact_mod_cast hlt⟩

theorem atScale_scaleGuess {num den : Nat} (hnum : 0 < num) (hden : 0 < den) :
    2 ^ f.fractionBits < 2 * atScale num den (f.scaleGuess num den) ∧
      atScale num den (f.scaleGuess num den) < 2 * 2 ^ f.fractionBits := by
  obtain ⟨hu1, hu2⟩ := two_pow_log2_bounds hnum
  obtain ⟨hv1, hv2⟩ := two_pow_log2_bounds hden
  -- the ratio is `2^fractionBits · u / v` with `u` and `v` in `[1, 2)`
  have ht : atScale num den (f.scaleGuess num den) =
      2 ^ f.fractionBits * ((num : ℚ) / 2 ^ num.log2) / ((den : ℚ) / 2 ^ den.log2) := by
    unfold atScale scaleGuess
    rw [zpow_sub₀ two_ne_zero, zpow_sub₀ two_ne_zero, zpow_natCast, zpow_natCast, zpow_natCast]
    field_simp
  have hpow : (0 : ℚ) < 2 ^ f.fractionBits := by positivity
  have hv : (0 : ℚ) < (den : ℚ) / 2 ^ den.log2 := by positivity
  have hu1' : 1 ≤ (num : ℚ) / 2 ^ num.log2 := by rw [le_div_iff₀ (by positivity)]; linarith
  have hu2' : (num : ℚ) / 2 ^ num.log2 < 2 := by rw [div_lt_iff₀ (by positivity)]; linarith
  have hv1' : 1 ≤ (den : ℚ) / 2 ^ den.log2 := by rw [le_div_iff₀ (by positivity)]; linarith
  have hv2' : (den : ℚ) / 2 ^ den.log2 < 2 := by rw [div_lt_iff₀ (by positivity)]; linarith
  rw [ht]
  constructor
  · rw [mul_div_assoc', lt_div_iff₀ hv]
    nlinarith
  · rw [div_lt_iff₀ hv]
    nlinarith

theorem scaleStep_of_window {num den : Nat} (hden : 0 < den) {e : Int}
    (hlo : (2 : ℚ) ^ f.fractionBits ≤ atScale num den e)
    (hhi : atScale num den e < 2 ^ f.precision) : f.scaleStep num den e = e := by
  unfold scaleStep
  rw [if_neg, if_neg]
  · rw [not_lt, Nat.pow_eq, le_scaled_iff num hden]
    exact_mod_cast hlo
  · rw [not_le, Nat.pow_eq, ← not_le, le_scaled_iff num hden]
    push_cast
    exact not_le.mpr hhi

theorem scaleStep_of_below {num den : Nat} (hden : 0 < den) (hp : 0 < f.precision) {e : Int}
    (hhi : atScale num den e < 2 ^ f.fractionBits) : f.scaleStep num den e = e - 1 := by
  have hq : (scaled num den e).1 < 2 ^ f.fractionBits := by
    rw [← not_le, le_scaled_iff num hden]
    push_cast
    exact not_le.mpr hhi
  unfold scaleStep
  rw [if_neg, if_pos (by rwa [Nat.pow_eq])]
  rw [not_le, Nat.pow_eq]
  calc (scaled num den e).1 < 2 ^ f.fractionBits := hq
    _ ≤ 2 ^ f.precision := Nat.pow_le_pow_right (by decide) (by unfold fractionBits; omega)

theorem window_scaleStep_scaleStep {num den : Nat} (hden : 0 < den) (hp : 0 < f.precision)
    {g : Int} (hlo : 2 ^ f.fractionBits < 2 * atScale num den g)
    (hhi : atScale num den g < 2 * 2 ^ f.fractionBits) :
    (2 : ℚ) ^ f.fractionBits ≤ atScale num den (f.scaleStep num den (f.scaleStep num den g)) ∧
      atScale num den (f.scaleStep num den (f.scaleStep num den g)) < 2 ^ f.precision := by
  rw [pow_precision hp]
  by_cases hbelow : atScale num den g < 2 ^ f.fractionBits
  · -- one binade down, then in the window
    have hwin : (2 : ℚ) ^ f.fractionBits ≤ atScale num den (g - 1) ∧
        atScale num den (g - 1) < 2 * 2 ^ f.fractionBits := by
      rw [atScale_sub_one]
      constructor <;> linarith
    rw [scaleStep_of_below hden hp hbelow,
      scaleStep_of_window hden hwin.1 (by rw [pow_precision hp]; exact hwin.2)]
    exact hwin
  · -- already in the window
    have hwin : (2 : ℚ) ^ f.fractionBits ≤ atScale num den g := not_lt.mp hbelow
    have hstep := scaleStep_of_window hden hwin (by rw [pow_precision hp]; exact hhi)
    rw [hstep, hstep]
    exact ⟨hwin, hhi⟩

/-- **The scale of a ratio**: never below the least exponent, with an integer part of at most
`precision` bits, and of exactly `precision` bits unless the least exponent cut it. -/
theorem scaleFor_spec {num den : Nat} (hp : 0 < f.precision) (hnum : 0 < num) (hden : 0 < den) :
    f.minExponent ≤ f.scaleFor num den ∧ atScale num den (f.scaleFor num den) < 2 ^ f.precision ∧
      (f.scaleFor num den = f.minExponent ∨
        2 ^ f.fractionBits ≤ atScale num den (f.scaleFor num den)) := by
  obtain ⟨hguess1, hguess2⟩ := atScale_scaleGuess (f := f) hnum hden
  obtain ⟨hwin1, hwin2⟩ := window_scaleStep_scaleStep hden hp hguess1 hguess2
  rw [scaleFor_eq]
  rcases le_total f.minExponent (f.scaleStep num den (f.scaleStep num den (f.scaleGuess num den)))
    with h | h
  · rw [max_eq_right h]
    exact ⟨h, hwin2, .inr hwin1⟩
  · rw [max_eq_left h]
    exact ⟨le_rfl, lt_of_le_of_lt (atScale_anti num den h) hwin2, .inl rfl⟩

/-! ## Rounding at the scale -/

def roundHalfEven (q rem d : Nat) : Nat :=
  if 2 * rem > d || (2 * rem = d && q % 2 = 1) then q + 1 else q

def carry (f : BinaryFormat) (q : Nat) (e : Int) : Nat × Int :=
  if q = Nat.pow 2 f.precision then (q / 2, e + 1) else (q, e)

theorem roundRatio_eq (f : BinaryFormat) {num : Nat} (hnum : num ≠ 0) (den : Nat) :
    f.roundRatio num den =
      let E := f.scaleFor num den
      let p := f.carry (roundHalfEven (scaled num den E).1 (scaled num den E).2.1
        (scaled num den E).2.2) E
      if p.2 > f.maxExponent then none else some p := by
  rw [roundRatio, if_neg hnum]
  rfl

/-- **Rounding half to even** gives `m` for a value within half a unit of `m`, on an end only
when `m` is even. -/
theorem roundHalfEven_eq {q rem d m : Nat} (hd : 0 < d) (hrem : rem < d)
    (hlo : (m : ℚ) - 1 / 2 ≤ q + rem / d) (hhi : (q : ℚ) + rem / d ≤ m + 1 / 2)
    (hodd : m % 2 = 1 → (m : ℚ) - 1 / 2 < q + rem / d ∧ (q : ℚ) + rem / d < m + 1 / 2) :
    roundHalfEven q rem d = m := by
  have hd' : (0 : ℚ) < d := by exact_mod_cast hd
  have hx0 : (0 : ℚ) ≤ rem / d := div_nonneg (Nat.cast_nonneg _) hd'.le
  have hx1 : (rem : ℚ) / d < 1 := by
    rw [div_lt_one hd']
    exact_mod_cast hrem
  -- the remainder against half the divisor, as a fraction against one half
  have hgt : d < 2 * rem ↔ (1 / 2 : ℚ) < rem / d := by
    rw [lt_div_iff₀ hd']
    constructor
    · intro h
      have : (d : ℚ) < 2 * rem := by exact_mod_cast h
      linarith
    · intro h
      exact_mod_cast (by linarith : (d : ℚ) < 2 * rem)
  have heq : 2 * rem = d ↔ (rem : ℚ) / d = 1 / 2 := by
    rw [div_eq_iff hd'.ne']
    constructor
    · intro h
      have : (2 * rem : ℚ) = d := by exact_mod_cast h
      linarith
    · intro h
      exact_mod_cast (by linarith : (2 * rem : ℚ) = d)
  -- the integer part is `m` or `m - 1`
  have hqm : q ≤ m := by
    have : (q : ℚ) < m + 1 := by linarith
    exact_mod_cast Nat.lt_succ_iff.mp (by exact_mod_cast this)
  have hmq : m ≤ q + 1 := by
    have : (m : ℚ) < q + 1 + 1 := by linarith
    exact_mod_cast Nat.lt_succ_iff.mp (by exact_mod_cast this)
  unfold roundHalfEven
  rcases Nat.lt_or_ge q m with hlt | hge
  · -- `q = m - 1`: the fraction is at least a half, and a half only for an even `m`
    have hq : q + 1 = m := by omega
    have hcast : (m : ℚ) = q + 1 := by exact_mod_cast hq.symm
    rw [if_pos, hq]
    by_cases hhalf : (rem : ℚ) / d = 1 / 2
    · have hm : m % 2 = 0 := by
        by_contra hm
        have := (hodd (by omega)).1
        linarith
      simp only [Bool.or_eq_true, decide_eq_true_eq, Bool.and_eq_true]
      exact .inr ⟨heq.mpr hhalf, by omega⟩
    · simp only [Bool.or_eq_true, decide_eq_true_eq]
      exact .inl (hgt.mpr (lt_of_le_of_ne (by linarith) (Ne.symm hhalf)))
  · -- `q = m`: the fraction is at most a half, and a half only for an even `m`
    have hq : q = m := by omega
    have hcast : (m : ℚ) = q := by exact_mod_cast hq.symm
    rw [if_neg, hq]
    simp only [Bool.or_eq_true, decide_eq_true_eq, Bool.and_eq_true, not_or, not_and]
    refine ⟨fun h => by linarith [hgt.mp h], fun h => ?_⟩
    have hm : m % 2 = 0 := by
      by_contra hm
      have := (hodd (by omega)).2
      linarith [heq.mp h]
    omega

theorem carry_of_lt {q : Nat} (h : q < 2 ^ f.precision) (e : Int) : f.carry q e = (q, e) := by
  unfold carry
  rw [if_neg (by rw [Nat.pow_eq]; omega)]

theorem carry_top (hp : 0 < f.precision) (e : Int) :
    f.carry (2 ^ f.precision) e = (2 ^ f.fractionBits, e + 1) := by
  unfold carry
  rw [if_pos (by rw [Nat.pow_eq]), fractionBits, ← Nat.sub_add_cancel hp, Nat.pow_succ,
    Nat.mul_div_cancel _ (by decide), Nat.add_sub_cancel]

/-! ## Ratios in a rounding interval -/

/-- Where the scale of a ratio in the rounding interval of `m · 2^e` lands: at `e`, or one binade
lower when `m` is the bottom of a binade above the least and the ratio lies just below it. -/
theorem scaleFor_of_roundsTo (hp : 0 < f.precision) {num den : Nat} (hnum : 0 < num)
    (hden : 0 < den) {m : Nat} {e : Int} (hrep : f.Representable m e)
    (hr : f.RoundsTo m e ((num : ℚ) / den)) :
    f.scaleFor num den = e ∨
      (f.scaleFor num den = e - 1 ∧ m = 2 ^ f.fractionBits ∧ lowerGap f m e = 1) := by
  obtain ⟨hE1, hE2, hE3⟩ := scaleFor_spec hp hnum hden
  have hupper : atScale num den e ≤ m + 1 / 2 := hr.upper
  have hlower : (m : ℚ) - lowerGap f m e / 4 ≤ atScale num den e := hr.lower
  have hgap : (lowerGap f m e : ℚ) ≤ 2 := by exact_mod_cast lowerGap_le f m e
  have hpow1 : (1 : ℚ) ≤ 2 ^ f.fractionBits := one_le_pow₀ one_le_two
  have hmlt : (m : ℚ) + 1 ≤ 2 * 2 ^ f.fractionBits := by
    rw [← pow_precision hp]
    exact_mod_cast hrep.mantissa_lt
  rw [pow_precision hp] at hE2
  rcases lt_trichotomy (f.scaleFor num den) e with hlt | heq | hgt
  · -- a finer scale: `m` is normal, and the ratio lies below the bottom of its binade
    have hmin : f.minExponent < e := lt_of_le_of_lt hE1 hlt
    have hnormal : 2 ^ f.fractionBits ≤ m := hrep.normal.resolve_left (by omega)
    have hnormal' : (2 : ℚ) ^ f.fractionBits ≤ m := by exact_mod_cast hnormal
    have hbelow : atScale num den e < 2 ^ f.fractionBits := by
      linarith [two_mul_atScale_le num den hlt]
    have hm : m = 2 ^ f.fractionBits := by
      have : (m : ℚ) < 2 ^ f.fractionBits + 1 := by linarith
      have : m < 2 ^ f.fractionBits + 1 := by exact_mod_cast this
      omega
    have hgap1 : lowerGap f m e = 1 := by
      unfold lowerGap
      rw [if_pos ⟨by rw [hm, Nat.pow_eq], hmin⟩]
    -- two binades finer would measure the ratio at `2^precision` or more
    have hE : f.scaleFor num den = e - 1 := by
      by_contra hne
      have h4 : 2 * atScale num den (e - 1) ≤ atScale num den (f.scaleFor num den) :=
        two_mul_atScale_le num den (by omega)
      rw [atScale_sub_one] at h4
      have hgap1' : (lowerGap f m e : ℚ) = 1 := by exact_mod_cast hgap1
      have hm' : (m : ℚ) = 2 ^ f.fractionBits := by exact_mod_cast hm
      linarith
    exact .inr ⟨hE, hm, hgap1⟩
  · exact .inl heq
  · -- a coarser scale would measure the ratio below `2^fractionBits`
    exfalso
    have hcoarse := two_mul_atScale_le num den hgt
    rcases hE3 with hmin | hwin
    · have := hrep.min_le
      omega
    · linarith

/-- **A ratio in the rounding interval of a value rounds to that value.** -/
theorem roundRatio_of_roundsTo (hp : 0 < f.precision) {num den : Nat} (hden : 0 < den)
    {m : Nat} {e : Int} (hm : 0 < m) (hrep : f.Representable m e)
    (hr : f.RoundsTo m e ((num : ℚ) / den)) : f.roundRatio num den = some (m, e) := by
  have hgap : (lowerGap f m e : ℚ) ≤ 2 := by exact_mod_cast lowerGap_le f m e
  have hm1 : (1 : ℚ) ≤ m := by exact_mod_cast hm
  have hlower : (m : ℚ) - lowerGap f m e / 4 ≤ atScale num den e := hr.lower
  have hupper : atScale num den e ≤ m + 1 / 2 := hr.upper
  -- a ratio in the interval is positive
  have hnum : 0 < num := by
    rcases Nat.eq_zero_or_pos num with h0 | h0
    · have hzero : atScale num den e = 0 := by simp [atScale, h0]
      linarith
    · exact h0
  rw [roundRatio_eq f hnum.ne']
  dsimp only
  obtain ⟨hd, hrem, hsum⟩ := scaled_spec num hden (f.scaleFor num den)
  change _ = atScale num den _ at hsum
  have hE2 := (scaleFor_spec hp hnum hden).2.1
  rcases scaleFor_of_roundsTo hp hnum hden hrep hr with hE | ⟨hE, hm2, hgap1⟩
  · -- at the value's own scale the quotient rounds to `m`
    rw [hE] at hsum hd hrem ⊢
    have hround := roundHalfEven_eq (m := m) hd hrem (by rw [hsum]; linarith)
      (by rw [hsum]; exact hupper)
      fun hodd => by
        rw [hsum]
        constructor
        · refine lt_of_le_of_ne (by linarith) fun htie => ?_
          have : m % 2 = 0 := hr.lower_even (by change _ = atScale num den e; linarith)
          omega
        · exact lt_of_le_of_ne hupper fun htie => by
            have : m % 2 = 0 := hr.upper_even htie
            omega
    rw [hround, carry_of_lt hrep.mantissa_lt, if_neg (not_lt.mpr hrep.le_max)]
  · -- just below the bottom of a binade: the quotient rounds up to `2^precision` and carries
    rw [hE] at hsum hd hrem hE2 ⊢
    rw [atScale_sub_one, pow_precision hp] at hE2
    rw [atScale_sub_one] at hsum
    have hgap1' : (lowerGap f m e : ℚ) = 1 := by exact_mod_cast hgap1
    have hm' : (m : ℚ) = 2 ^ f.fractionBits := by exact_mod_cast hm2
    have htop : ((2 ^ f.precision : Nat) : ℚ) = 2 * 2 ^ f.fractionBits := by
      push_cast
      exact pow_precision hp
    have heven : 2 ^ f.precision % 2 = 0 := by
      rw [← Nat.sub_add_cancel hp, Nat.pow_succ, Nat.mul_mod_left]
    have hround := roundHalfEven_eq (m := 2 ^ f.precision) hd hrem
      (by rw [hsum, htop]; linarith) (by rw [hsum, htop]; linarith)
      fun hodd => by omega
    rw [hround, carry_top hp, ← hm2, Int.sub_add_cancel, if_neg (not_lt.mpr hrep.le_max)]

/-- **A ratio lies in the rounding interval of one value at most.** -/
theorem RoundsTo.unique (hp : 0 < f.precision) {num den : Nat} (hden : 0 < den) {m m' : Nat}
    {e e' : Int} (hm : 0 < m) (hm' : 0 < m') (hrep : f.Representable m e)
    (hrep' : f.Representable m' e') (h : f.RoundsTo m e ((num : ℚ) / den))
    (h' : f.RoundsTo m' e' ((num : ℚ) / den)) : m = m' ∧ e = e' := by
  have heq := (roundRatio_of_roundsTo hp hden hm hrep h).symm.trans
    (roundRatio_of_roundsTo hp hden hm' hrep' h')
  simpa using heq

theorem roundsTo_self (f : BinaryFormat) {m : Nat} (e : Int) : f.RoundsTo m e (m * 2 ^ e) := by
  have hgap : 1 ≤ lowerGap f m e := by
    unfold lowerGap
    split <;> omega
  have hgap' : (1 : ℚ) ≤ lowerGap f m e := by exact_mod_cast hgap
  have hself : (m : ℚ) * 2 ^ e / 2 ^ e = m := mul_div_cancel_right₀ _ (zpow_pos two_pos e).ne'
  refine ⟨?_, ?_, fun hend => ?_, fun hend => ?_⟩ <;> rw [hself] at *
  · linarith
  · linarith
  · linarith
  · linarith

/-! ## Rounded values -/

theorem carry_value (hp : 0 < f.precision) (q : Nat) (e : Int) :
    ((f.carry q e).1 : ℚ) * 2 ^ (f.carry q e).2 = q * 2 ^ e := by
  unfold carry
  split
  · next hq =>
    rw [hq, Nat.pow_eq, ← Nat.sub_add_cancel hp, Nat.pow_succ, Nat.mul_div_cancel _ (by decide),
      zpow_add₀ two_ne_zero]
    push_cast
    ring
  · rfl

theorem le_roundHalfEven (q rem d : Nat) : q ≤ roundHalfEven q rem d ∧ roundHalfEven q rem d ≤ q + 1 := by
  unfold roundHalfEven
  split <;> omega

/-- **A rounded ratio is a value of the format.** -/
theorem representable_of_roundRatio (hp : 0 < f.precision)
    (hrange : f.minExponent ≤ f.maxExponent) {num den : Nat} (hden : 0 < den) {m : Nat} {e : Int}
    (h : f.roundRatio num den = some (m, e)) : f.Representable m e := by
  by_cases hnum : num = 0
  · -- zero, at the least exponent
    rw [roundRatio, if_pos hnum, Option.some.injEq, Prod.mk.injEq] at h
    obtain ⟨rfl, rfl⟩ := h
    exact ⟨Nat.pow_pos (by decide), le_rfl, hrange, .inl rfl⟩
  rw [roundRatio_eq f hnum] at h
  dsimp only at h
  obtain ⟨hE1, hE2, hE3⟩ := scaleFor_spec hp (Nat.pos_of_ne_zero hnum) hden
  -- the integer part has at most `precision` bits, and `fractionBits` bits above the least
  -- exponent
  have hq : (scaled num den (f.scaleFor num den)).1 < 2 ^ f.precision := by
    by_contra hq
    have := (le_scaled_iff num hden _ (2 ^ f.precision)).mp (Nat.not_lt.mp hq)
    push_cast at this
    exact absurd hE2 (not_lt.mpr this)
  have hnormal : f.scaleFor num den = f.minExponent ∨
      2 ^ f.fractionBits ≤ (scaled num den (f.scaleFor num den)).1 := by
    refine hE3.imp_right fun hwin => (le_scaled_iff num hden _ _).mpr ?_
    push_cast
    exact hwin
  obtain ⟨hup₁, hup₂⟩ := le_roundHalfEven (scaled num den (f.scaleFor num den)).1
    (scaled num den (f.scaleFor num den)).2.1 (scaled num den (f.scaleFor num den)).2.2
  split at h
  · cases h
  · next hmax =>
    rw [Option.some.injEq] at h
    unfold carry at h
    split at h
    · -- rounded up to `2^precision`: half of it, one binade up
      next htop =>
      rw [Prod.mk.injEq] at h
      obtain ⟨rfl, rfl⟩ := h
      have hhalf : Nat.pow 2 f.precision / 2 = 2 ^ f.fractionBits := by
        rw [Nat.pow_eq, fractionBits, ← Nat.sub_add_cancel hp, Nat.pow_succ,
          Nat.mul_div_cancel _ (by decide), Nat.add_sub_cancel]
      rw [htop, hhalf]
      refine ⟨?_, by omega, ?_, .inr le_rfl⟩
      · rw [← hhalf, Nat.pow_eq]
        exact Nat.div_lt_self (Nat.pow_pos (by decide)) (by decide)
      · simp only [not_lt] at hmax
        unfold carry at hmax
        rw [if_pos htop] at hmax
        exact hmax
    · next hkeep =>
      rw [Prod.mk.injEq] at h
      obtain ⟨rfl, rfl⟩ := h
      refine ⟨?_, hE1, ?_, hnormal.imp_right fun hn => le_trans hn hup₁⟩
      · rw [Nat.pow_eq] at hkeep
        omega
      · simp only [not_lt] at hmax
        unfold carry at hmax
        rw [if_neg hkeep] at hmax
        exact hmax

/-- **Rounding keeps at least half of a ratio** that is not below the least power of the format. -/
theorem le_two_mul_of_roundRatio (hp : 0 < f.precision) {num den : Nat} (hden : 0 < den)
    {m : Nat} {e : Int} (hge : (2 : ℚ) ^ f.minExponent ≤ num / den)
    (h : f.roundRatio num den = some (m, e)) : (num : ℚ) / den ≤ 2 * (m * 2 ^ e) := by
  have hnum : num ≠ 0 := by
    rintro rfl
    have := zpow_pos (two_pos (α := ℚ)) f.minExponent
    simp only [Nat.cast_zero, zero_div] at hge
    linarith
  rw [roundRatio_eq f hnum] at h
  dsimp only at h
  obtain ⟨hE1, -, hE3⟩ := scaleFor_spec hp (Nat.pos_of_ne_zero hnum) hden
  obtain ⟨hd, hrem, hsum⟩ := scaled_spec num hden (f.scaleFor num den)
  change _ = atScale num den _ at hsum
  -- the integer part is at least one
  have hq1 : 1 ≤ (scaled num den (f.scaleFor num den)).1 := by
    refine (le_scaled_iff num hden _ 1).mpr ?_
    rcases hE3 with hmin | hwin
    · rw [hmin, Nat.cast_one, le_div_iff₀ (zpow_pos two_pos _), one_mul]
      exact hge
    · exact le_trans (by exact_mod_cast Nat.one_le_two_pow) hwin
  obtain ⟨hup₁, -⟩ := le_roundHalfEven (scaled num den (f.scaleFor num den)).1
    (scaled num den (f.scaleFor num den)).2.1 (scaled num den (f.scaleFor num den)).2.2
  split at h
  · cases h
  · rw [Option.some.injEq] at h
    have hval := carry_value hp (roundHalfEven (scaled num den (f.scaleFor num den)).1
      (scaled num den (f.scaleFor num den)).2.1 (scaled num den (f.scaleFor num den)).2.2)
      (f.scaleFor num den)
    rw [h] at hval
    dsimp only at hval
    rw [hval]
    -- `num / den = (q + rem / d) · 2^E < (q + 1) · 2^E ≤ 2q · 2^E`
    have hpow : (0 : ℚ) < 2 ^ f.scaleFor num den := zpow_pos two_pos _
    have hfrac : ((scaled num den (f.scaleFor num den)).2.1 : ℚ) /
        (scaled num den (f.scaleFor num den)).2.2 < 1 := by
      rw [div_lt_one (by exact_mod_cast hd)]
      exact_mod_cast hrem
    have hq1' : (1 : ℚ) ≤ (scaled num den (f.scaleFor num den)).1 := by exact_mod_cast hq1
    have hup' : ((scaled num den (f.scaleFor num den)).1 : ℚ) ≤
        roundHalfEven (scaled num den (f.scaleFor num den)).1
          (scaled num den (f.scaleFor num den)).2.1 (scaled num den (f.scaleFor num den)).2.2 := by
      exact_mod_cast hup₁
    have hratio : (num : ℚ) / den = atScale num den (f.scaleFor num den) * 2 ^ f.scaleFor num den := by
      unfold atScale
      rw [div_mul_cancel₀ _ hpow.ne']
    rw [hratio, ← hsum]
    nlinarith

end BinaryFormat

end KnowledgeDesk.Number
