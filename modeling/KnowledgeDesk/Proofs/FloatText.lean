import KnowledgeDesk.Proofs.FloatBits
import KnowledgeDesk.Proofs.FloatRounding
import KnowledgeDesk.Proofs.VectorText
import KnowledgeDesk.Server.Knowledge
import Mathlib.Tactic.Ring

/-!
# Float texts read back

A `Float32` is written as its shortest positional decimal (`Float32.plainText`) and read back by
rounding that decimal to nearest (`parseFloat32`). Main statement (`parseFloat32_plainText`):
reading the text of a float gives the float, for every float: signed zeros, subnormals, the
largest finite values, the infinities and NaN.

* `shortest_roundsTo`: the digits the search finds lie in the rounding interval of the value.
  One step of the search either finds digits at its exponent or moves one exponent down
  (`shortestWith_of_le`, `shortestWith_of_lt`); digits exist as soon as `10^k` is below the
  width of the interval (`digitLow_le_digitHigh`), which the search reaches within its steps.
* `readFloatLiteral_positional`: the positional text of `c · 10^k` reads as that decimal.
* `ratioOf_of_bounds`: such a decimal is turned into a ratio without being cut to zero or
  infinity.
* Rounding the ratio gives the value back (`roundRatio_of_roundsTo`), whose bits are the float's
  (`float32OfRatio_of_roundRatio`).
-/

namespace KnowledgeDesk.Number

open BinaryFormat

/-! ## The search for the shortest decimal -/

def digitLow (f : BinaryFormat) (m : Nat) (e k : Int) : Nat :=
  let (lowN, d) := against (4 * m - lowerGap f m e) (e - 2) k
  if m % 2 = 0 then ceilDiv lowN d else lowN / d + 1

def digitHigh (m : Nat) (e k : Int) : Nat :=
  let (highN, d) := against (4 * m + 2) (e - 2) k
  if m % 2 = 0 then highN / d else ceilDiv highN d - 1

def nearDigit (m : Nat) (e k : Int) : Nat :=
  let (valN, d) := against (4 * m) (e - 2) k
  (2 * valN + d) / (2 * d)

theorem shortestWith_succ (f : BinaryFormat) (m : Nat) (e : Int) (fuel : Nat) (k : Int) :
    shortestWith f m e (fuel + 1) k =
      if digitLow f m e k ≤ digitHigh m e k then
        (max (digitLow f m e k) (min (digitHigh m e k) (nearDigit m e k)), k)
      else shortestWith f m e fuel (k - 1) :=
  rfl

theorem shortestWith_of_le {f : BinaryFormat} {m : Nat} {e k : Int} (fuel : Nat)
    (h : digitLow f m e k ≤ digitHigh m e k) :
    ∃ c, shortestWith f m e (fuel + 1) k = (c, k) ∧
      digitLow f m e k ≤ c ∧ c ≤ digitHigh m e k := by
  rw [shortestWith_succ, if_pos h]
  exact ⟨_, rfl, le_max_left _ _, max_le h (min_le_left _ _)⟩

theorem shortestWith_of_lt {f : BinaryFormat} {m : Nat} {e k : Int} (fuel : Nat)
    (h : digitHigh m e k < digitLow f m e k) :
    shortestWith f m e (fuel + 1) k = shortestWith f m e fuel (k - 1) := by
  rw [shortestWith_succ, if_neg (Nat.not_le.mpr h)]

/-- **The search finds digits** when an exponent among the next `fuel` ones has some: it stops
at the first such exponent, so at none below an exponent that has digits. -/
theorem shortestWith_found (f : BinaryFormat) (m : Nat) (e : Int) (fuel : Nat) {k j : Int}
    (hlo : k - fuel < j) (hhi : j ≤ k) (hj : digitLow f m e j ≤ digitHigh m e j) :
    ∃ c k', shortestWith f m e fuel k = (c, k') ∧ j ≤ k' ∧
      digitLow f m e k' ≤ c ∧ c ≤ digitHigh m e k' := by
  -- induction on the steps left, the exponent walking down one per step
  induction fuel generalizing k with
  | zero => omega
  | succ fuel ih =>
    by_cases hk : digitLow f m e k ≤ digitHigh m e k
    · obtain ⟨c, hc, hc₁, hc₂⟩ := shortestWith_of_le fuel hk
      exact ⟨c, k, hc, hhi, hc₁, hc₂⟩
    · have hjk : j ≠ k := fun hjk => hk (hjk ▸ hj)
      rw [shortestWith_of_lt fuel (Nat.not_le.mp hk)]
      exact ih (by omega) (by omega)

/-! ## Digits in the rounding interval -/

theorem zpow_eq_div_toNat {a : ℚ} (ha : a ≠ 0) (s : Int) :
    a ^ s = a ^ s.toNat / a ^ (-s).toNat := by
  conv_lhs => rw [← Int.toNat_sub_toNat_neg s]
  rw [zpow_sub₀ ha, zpow_natCast, zpow_natCast]

/-- `against x s k` scales `x · 2^s` against `10^k`: its first part is `x · 2^s / 10^k` times
its second. -/
theorem against_eq (x : Nat) (s k : Int) :
    0 < (against x s k).2 ∧ ((against x s k).1 : ℚ) = x * 2 ^ s / 10 ^ k * (against x s k).2 := by
  unfold against pow10
  simp only [Nat.pow_eq]
  refine ⟨Nat.mul_pos (Nat.pow_pos (by decide)) (Nat.pow_pos (by decide)), ?_⟩
  push_cast
  rw [zpow_eq_div_toNat two_ne_zero s, zpow_eq_div_toNat (by norm_num : (10 : ℚ) ≠ 0) k]
  field_simp

theorem mul_lt_against_iff (c x : Nat) (s k : Int) :
    c * (against x s k).2 < (against x s k).1 ↔ (c : ℚ) * 10 ^ k < x * 2 ^ s := by
  obtain ⟨hd, heq⟩ := against_eq x s k
  have hd' : (0 : ℚ) < (against x s k).2 := by exact_mod_cast hd
  rw [← Nat.cast_lt (α := ℚ), Nat.cast_mul, heq, mul_lt_mul_iff_left₀ hd',
    lt_div_iff₀ (zpow_pos (by norm_num) k)]

theorem mul_le_against_iff (c x : Nat) (s k : Int) :
    c * (against x s k).2 ≤ (against x s k).1 ↔ (c : ℚ) * 10 ^ k ≤ x * 2 ^ s := by
  obtain ⟨hd, heq⟩ := against_eq x s k
  have hd' : (0 : ℚ) < (against x s k).2 := by exact_mod_cast hd
  rw [← Nat.cast_le (α := ℚ), Nat.cast_mul, heq, mul_le_mul_iff_left₀ hd',
    le_div_iff₀ (zpow_pos (by norm_num) k)]

theorem le_mul_of_ceilDiv_le {a d c : Nat} (hd : 0 < d) (h : ceilDiv a d ≤ c) : a ≤ c * d := by
  unfold ceilDiv at h
  have := (Nat.div_lt_iff_lt_mul hd).mp (Nat.lt_succ_of_le h)
  rw [Nat.succ_mul] at this
  omega

theorem mul_lt_of_lt_ceilDiv {a d c : Nat} (hd : 0 < d) (h : c < ceilDiv a d) : c * d < a := by
  unfold ceilDiv at h
  have := (Nat.le_div_iff_mul_le hd).mp h
  rw [Nat.succ_mul] at this
  omega

theorem div_le_div_two_zpow_iff (x r : ℚ) (e : Int) : x / 4 ≤ r / 2 ^ e ↔ x * 2 ^ (e - 2) ≤ r := by
  rw [zpow_sub₀ two_ne_zero, le_div_iff₀ (zpow_pos two_pos e)]
  constructor <;> intro h <;> linarith

theorem div_lt_div_two_zpow_iff (x r : ℚ) (e : Int) : x / 4 < r / 2 ^ e ↔ x * 2 ^ (e - 2) < r := by
  rw [zpow_sub₀ two_ne_zero, lt_div_iff₀ (zpow_pos two_pos e)]
  constructor <;> intro h <;> linarith

theorem mul_eq_against_iff (c x : Nat) (s k : Int) :
    c * (against x s k).2 = (against x s k).1 ↔ (c : ℚ) * 10 ^ k = x * 2 ^ s := by
  obtain ⟨hd, heq⟩ := against_eq x s k
  have hd' : (0 : ℚ) < (against x s k).2 := by exact_mod_cast hd
  rw [← Nat.cast_inj (R := ℚ), Nat.cast_mul, heq, mul_left_inj' hd'.ne',
    eq_div_iff (zpow_pos (by norm_num) k).ne']

theorem div_eq_div_two_zpow_iff (x r : ℚ) (e : Int) : x / 4 = r / 2 ^ e ↔ x * 2 ^ (e - 2) = r := by
  have hscale : x / 4 * 2 ^ e = x * 2 ^ (e - 2) := by
    rw [zpow_sub₀ two_ne_zero]
    ring
  rw [eq_div_iff (zpow_pos two_pos e).ne', hscale]

/-- **Digits between the bounds of the search make a decimal in the rounding interval.** -/
theorem roundsTo_of_digits {f : BinaryFormat} {m : Nat} {e k : Int} (hm : 0 < m) {c : Nat}
    (hlo : digitLow f m e k ≤ c) (hhi : c ≤ digitHigh m e k) : f.RoundsTo m e (c * 10 ^ k) := by
  have hgap := lowerGap_le f m e
  obtain ⟨hd, -⟩ := against_eq (4 * m - lowerGap f m e) (e - 2) k
  obtain ⟨hdH, -⟩ := against_eq (4 * m + 2) (e - 2) k
  -- the ends of the interval, in units of `2^e`
  have hlowEnd : (m : ℚ) - lowerGap f m e / 4 = ((4 * m - lowerGap f m e : Nat) : ℚ) / 4 := by
    rw [Nat.cast_sub (by omega)]
    push_cast
    ring
  have hhighEnd : (m : ℚ) + 1 / 2 = ((4 * m + 2 : Nat) : ℚ) / 4 := by
    push_cast
    ring
  unfold digitLow at hlo
  unfold digitHigh at hhi
  dsimp only at hlo hhi
  by_cases hpar : m % 2 = 0
  · -- an even significand: both ends belong to the interval
    rw [if_pos hpar] at hlo hhi
    have hlower := le_mul_of_ceilDiv_le hd hlo
    have hupper := (Nat.le_div_iff_mul_le hdH).mp hhi
    rw [← not_lt, mul_lt_against_iff] at hlower
    rw [mul_le_against_iff] at hupper
    refine ⟨?_, ?_, fun _ => hpar, fun _ => hpar⟩
    · rw [hlowEnd, div_le_div_two_zpow_iff]
      exact not_lt.mp hlower
    · rw [hhighEnd, ← not_lt, div_lt_div_two_zpow_iff, not_lt]
      exact hupper
  · -- an odd significand: the ends are left out
    rw [if_neg hpar] at hlo hhi
    have hc : 1 ≤ c := Nat.le_trans (Nat.le_add_left 1 _) hlo
    have hlower : (against (4 * m - lowerGap f m e) (e - 2) k).1 <
        c * (against (4 * m - lowerGap f m e) (e - 2) k).2 :=
      (Nat.div_lt_iff_lt_mul hd).mp (by omega)
    have hupper := mul_lt_of_lt_ceilDiv hdH
      (by omega : c < ceilDiv (against (4 * m + 2) (e - 2) k).1 (against (4 * m + 2) (e - 2) k).2)
    rw [← not_le, mul_le_against_iff, not_le] at hlower
    rw [mul_lt_against_iff] at hupper
    have hlow' : (m : ℚ) - lowerGap f m e / 4 < c * 10 ^ k / 2 ^ e := by
      rw [hlowEnd, div_lt_div_two_zpow_iff]
      exact hlower
    have hhigh' : c * 10 ^ k / 2 ^ e < (m : ℚ) + 1 / 2 := by
      rw [hhighEnd, ← not_le, div_le_div_two_zpow_iff, not_le]
      exact hupper
    exact ⟨hlow'.le, hhigh'.le, fun h => absurd h hlow'.ne, fun h => absurd h hhigh'.ne⟩

/-- **Digits exist at `k`** once the interval, at least three quarters of `2^e` wide, spans two
units of `10^k`. -/
theorem digitLow_le_digitHigh {f : BinaryFormat} {m : Nat} {e k : Int} (hm : 0 < m)
    (h : 2 * (10 : ℚ) ^ k ≤ 3 * 2 ^ (e - 2)) : digitLow f m e k ≤ digitHigh m e k := by
  have hgap := lowerGap_le f m e
  have hgap1 : 1 ≤ lowerGap f m e := by
    unfold lowerGap
    split <;> omega
  obtain ⟨hd, hL⟩ := against_eq (4 * m - lowerGap f m e) (e - 2) k
  obtain ⟨-, hH⟩ := against_eq (4 * m + 2) (e - 2) k
  have hdd : (against (4 * m + 2) (e - 2) k).2 = (against (4 * m - lowerGap f m e) (e - 2) k).2 :=
    rfl
  -- the upper end is at least two divisors above the lower one
  have hwide : (against (4 * m - lowerGap f m e) (e - 2) k).1 +
      2 * (against (4 * m - lowerGap f m e) (e - 2) k).2 ≤ (against (4 * m + 2) (e - 2) k).1 := by
    have hr : (0 : ℚ) ≤ 2 ^ (e - 2) / 10 ^ k := by positivity
    have h3r : (2 : ℚ) ≤ 3 * (2 ^ (e - 2) / 10 ^ k) := by
      rw [← mul_div_assoc, le_div_iff₀ (zpow_pos (by norm_num) k)]
      exact h
    have hD : (0 : ℚ) ≤ (against (4 * m - lowerGap f m e) (e - 2) k).2 := Nat.cast_nonneg _
    have hgap1' : (1 : ℚ) ≤ lowerGap f m e := by exact_mod_cast hgap1
    have hwidth : (2 : ℚ) ≤ (2 + lowerGap f m e) * (2 ^ (e - 2) / 10 ^ k) := by nlinarith
    have : ((against (4 * m - lowerGap f m e) (e - 2) k).1 : ℚ) +
        2 * (against (4 * m - lowerGap f m e) (e - 2) k).2 ≤ (against (4 * m + 2) (e - 2) k).1 := by
      rw [hL, hH, hdd, Nat.cast_sub (by omega)]
      push_cast
      rw [mul_div_assoc, mul_div_assoc]
      nlinarith
    exact_mod_cast this
  unfold digitLow digitHigh
  dsimp only
  rw [hdd]
  split
  · -- both ends included: the ceiling of the lower end is at most the floor of the upper one
    unfold ceilDiv
    exact Nat.div_le_div_right (by omega)
  · -- both ends left out: two units apart leave one whole unit strictly inside
    unfold ceilDiv
    have hstep := Nat.add_mul_div_right (against (4 * m - lowerGap f m e) (e - 2) k).1 2 hd
    have hmono := Nat.div_le_div_right (c := (against (4 * m - lowerGap f m e) (e - 2) k).2)
      (by omega : (against (4 * m - lowerGap f m e) (e - 2) k).1 +
        2 * (against (4 * m - lowerGap f m e) (e - 2) k).2 ≤
        (against (4 * m + 2) (e - 2) k).1 + (against (4 * m - lowerGap f m e) (e - 2) k).2 - 1)
    omega

/-- **The digits of a decimal in the rounding interval lie between the bounds of the search**, the
converse of `roundsTo_of_digits`. -/
theorem digits_of_roundsTo {f : BinaryFormat} {m : Nat} {e k : Int} (hm : 0 < m) {c : Nat}
    (h : f.RoundsTo m e (c * 10 ^ k)) : digitLow f m e k ≤ c ∧ c ≤ digitHigh m e k := by
  have hgap := lowerGap_le f m e
  obtain ⟨hd, -⟩ := against_eq (4 * m - lowerGap f m e) (e - 2) k
  obtain ⟨hdH, -⟩ := against_eq (4 * m + 2) (e - 2) k
  have hlowEnd : (m : ℚ) - lowerGap f m e / 4 = ((4 * m - lowerGap f m e : Nat) : ℚ) / 4 := by
    rw [Nat.cast_sub (by omega)]
    push_cast
    ring
  have hhighEnd : (m : ℚ) + 1 / 2 = ((4 * m + 2 : Nat) : ℚ) / 4 := by
    push_cast
    ring
  -- the ends of the interval against `c`, as products with the common divisor
  have hlower : ¬c * (against (4 * m - lowerGap f m e) (e - 2) k).2 <
      (against (4 * m - lowerGap f m e) (e - 2) k).1 := by
    rw [mul_lt_against_iff, not_lt, ← div_le_div_two_zpow_iff, ← hlowEnd]
    exact h.lower
  have hupper : c * (against (4 * m + 2) (e - 2) k).2 ≤ (against (4 * m + 2) (e - 2) k).1 := by
    rw [mul_le_against_iff, ← not_lt, ← div_lt_div_two_zpow_iff, ← hhighEnd, not_lt]
    exact h.upper
  unfold digitLow digitHigh
  dsimp only
  by_cases hpar : m % 2 = 0
  · -- an even significand: both ends belong to the interval
    rw [if_pos hpar, if_pos hpar]
    unfold ceilDiv
    refine ⟨Nat.lt_succ_iff.mp ((Nat.div_lt_iff_lt_mul hd).mpr ?_),
      (Nat.le_div_iff_mul_le hdH).mpr hupper⟩
    have hsucc := Nat.succ_mul c (against (4 * m - lowerGap f m e) (e - 2) k).2
    omega
  · -- an odd significand: `c · 10^k` is strictly inside, off both ends
    rw [if_neg hpar, if_neg hpar]
    have hlow' : (against (4 * m - lowerGap f m e) (e - 2) k).1 <
        c * (against (4 * m - lowerGap f m e) (e - 2) k).2 := by
      refine lt_of_le_of_ne (Nat.not_lt.mp hlower) fun heq => hpar (h.lower_even ?_)
      rw [hlowEnd, div_eq_div_two_zpow_iff]
      exact ((mul_eq_against_iff _ _ _ _).mp heq.symm).symm
    have hhigh' : c * (against (4 * m + 2) (e - 2) k).2 < (against (4 * m + 2) (e - 2) k).1 := by
      refine lt_of_le_of_ne hupper fun heq => hpar (h.upper_even ?_)
      rw [hhighEnd, eq_comm, div_eq_div_two_zpow_iff]
      exact ((mul_eq_against_iff _ _ _ _).mp heq).symm
    unfold ceilDiv
    refine ⟨Nat.succ_le_of_lt ((Nat.div_lt_iff_lt_mul hd).mpr hlow'), ?_⟩
    have hnext : c + 1 ≤ ((against (4 * m + 2) (e - 2) k).1 + (against (4 * m + 2) (e - 2) k).2 - 1) /
        (against (4 * m + 2) (e - 2) k).2 := by
      rw [Nat.le_div_iff_mul_le hdH, Nat.add_mul, Nat.one_mul]
      omega
    omega

/-! ## The search within its steps -/

/-- `10^j` is at most `2^t` when `j` is at most `3/10` of `t`, or, for a negative `j`, `28/93`
of it: `10^3 ≤ 2^10` and `2^93 ≤ 10^28`. -/
theorem ten_zpow_le_two_zpow {j t : Int} (h : 0 ≤ j ∧ 10 * j ≤ 3 * t ∨ j ≤ 0 ∧ 93 * j ≤ 28 * t) :
    (10 : ℚ) ^ j ≤ 2 ^ t := by
  rcases h with ⟨hj, hjt⟩ | ⟨hj, hjt⟩
  · -- compare the cubes
    have hcube : ((10 : ℚ) ^ j) ^ 3 ≤ (2 ^ t) ^ 3 :=
      calc ((10 : ℚ) ^ j) ^ 3 = 1000 ^ j := by
            rw [← zpow_natCast, ← zpow_mul, mul_comm, zpow_mul]
            norm_num
        _ ≤ 1024 ^ j := zpow_le_zpow_left₀ hj (by norm_num) (by norm_num)
        _ = 2 ^ (10 * j) := by rw [zpow_mul]; norm_num
        _ ≤ 2 ^ (3 * t) := zpow_le_zpow_right₀ one_le_two hjt
        _ = (2 ^ t) ^ 3 := by rw [← zpow_natCast, ← zpow_mul, mul_comm]; norm_num
    exact (pow_le_pow_iff_left₀ (by positivity) (by positivity) (by norm_num)).mp hcube
  · -- compare the 28th powers
    obtain ⟨n, rfl⟩ := Int.exists_eq_neg_ofNat hj
    have hpow : ((10 : ℚ) ^ (-(n : Int))) ^ 28 ≤ (2 ^ t) ^ 28 :=
      calc ((10 : ℚ) ^ (-(n : Int))) ^ 28 = ((10 ^ 28) ^ n)⁻¹ := by
            rw [zpow_neg, zpow_natCast, inv_pow, ← pow_mul, ← pow_mul, mul_comm]
        _ ≤ ((2 ^ 93) ^ n)⁻¹ :=
            inv_anti₀ (by positivity) (pow_le_pow_left₀ (by norm_num) (by norm_num) n)
        _ = 2 ^ (93 * -(n : Int)) := by
            rw [mul_neg, zpow_neg, ← pow_mul, ← zpow_natCast]
            push_cast
            rfl
        _ ≤ 2 ^ (28 * t) := zpow_le_zpow_right₀ one_le_two hjt
        _ = (2 ^ t) ^ 28 := by rw [← zpow_natCast, ← zpow_mul, mul_comm]; norm_num
    exact (pow_le_pow_iff_left₀ (by positivity) (by positivity) (by norm_num)).mp hpow

theorem single_minExponent : single.minExponent = -149 := by decide

theorem single_maxExponent : single.maxExponent = 104 := by decide

theorem single_representable_of_decode {n : Nat} {negative : Bool} {m : Nat} {e : Int}
    (h : single.decode n = .finite negative m e) : single.Representable m e := by
  have hfb : single.fractionBits = 23 := rfl
  have hp : single.precision = 24 := rfl
  rw [single_decode] at h
  split at h
  · split at h <;> cases h
  · next hfield =>
    split at h
    · -- zero or a subnormal value: the least exponent, below the hidden bit
      cases h
      refine ⟨?_, le_of_eq single_minExponent.symm, by rw [single_maxExponent]; decide,
        .inl single_minExponent.symm⟩
      rw [hp]
      omega
    · -- a normal value: the hidden bit set, the exponent from a field between 1 and 254
      next hzero =>
      cases h
      refine ⟨?_, ?_, ?_, .inr ?_⟩
      · rw [hp]
        omega
      · rw [single_minExponent]
        omega
      · rw [single_maxExponent]
        omega
      · rw [hfb]
        omega

/-- **The search for a value of a format no wider than `double` has digits within its steps**:
it starts less than 48 exponents above one where the interval spans two units. -/
theorem exists_digit_exponent {f : BinaryFormat} (hp : f.precision ≤ 53)
    (hmin : -1074 ≤ f.minExponent) (hmax : f.maxExponent ≤ 971) {m : Nat} {e : Int}
    (hrep : f.Representable m e) :
    ∃ j, startExponent (4 * m + 2) (e - 2) - 48 < j ∧ j ≤ startExponent (4 * m + 2) (e - 2) ∧
      2 * (10 : ℚ) ^ j ≤ 3 * 2 ^ (e - 2) := by
  have hemin := le_trans hmin hrep.min_le
  have hemax := le_trans hrep.le_max hmax
  -- the start is at most the one for the longest significand, `4m + 2 < 2^55`
  have hmlt : m < 2 ^ 53 := lt_of_lt_of_le hrep.mantissa_lt (Nat.pow_le_pow_right (by decide) hp)
  have hbits : (4 * m + 2).log2 < 55 := (Nat.log2_lt (by omega)).mpr (by omega)
  have hstart : startExponent (4 * m + 2) (e - 2) ≤ (e + 53) * 30103 / 100000 + 1 := by
    unfold startExponent
    dsimp only
    rw [Int.fdiv_eq_ediv_of_nonneg _ (show (0 : Int) ≤ 100000 by decide)]
    omega
  -- an exponent where `10^j ≤ 2^(e-2)`: `3/10` of `e - 2`, or `28/93` of it below zero
  obtain ⟨j, hj, hjstart⟩ : ∃ j : Int,
      (0 ≤ j ∧ 10 * j ≤ 3 * (e - 2) ∨ j ≤ 0 ∧ 93 * j ≤ 28 * (e - 2)) ∧
      (e + 53) * 30103 / 100000 + 1 ≤ j + 47 := by
    by_cases he : 0 ≤ e - 2
    · exact ⟨3 * (e - 2) / 10, by omega, by omega⟩
    · exact ⟨-((28 * (2 - e) + 92) / 93), by omega, by omega⟩
  have hten := ten_zpow_le_two_zpow hj
  refine ⟨min (startExponent (4 * m + 2) (e - 2)) j, by omega, min_le_left _ _, ?_⟩
  have hmono : (10 : ℚ) ^ min (startExponent (4 * m + 2) (e - 2)) j ≤ 10 ^ j :=
    zpow_le_zpow_right₀ (by norm_num) (min_le_right _ _)
  have hpos : (0 : ℚ) < 2 ^ (e - 2) := zpow_pos two_pos _
  linarith

/-- **The shortest decimal of a value lies in its rounding interval**, in a format no wider than
`double`. -/
theorem shortest_roundsTo {f : BinaryFormat} (hp : f.precision ≤ 53)
    (hmin : -1074 ≤ f.minExponent) (hmax : f.maxExponent ≤ 971) {m : Nat} {e : Int} (hm : 0 < m)
    (hrep : f.Representable m e) :
    f.RoundsTo m e ((shortest f m e).1 * 10 ^ (shortest f m e).2) := by
  obtain ⟨j, hlo, hhi, hj⟩ := exists_digit_exponent hp hmin hmax hrep
  obtain ⟨c, k, hck, -, hc₁, hc₂⟩ := shortestWith_found f m e 48 (by omega) hhi
    (digitLow_le_digitHigh hm hj)
  unfold shortest
  rw [hck]
  exact roundsTo_of_digits hm hc₁ hc₂

/-! ## Positional texts read as decimals -/

/-- **The positional text of `c · 10^k` reads as that decimal**: the digits followed by zeros,
or the digits with a point `-k` places from their end. -/
theorem readFloatLiteral_positional (negative : Bool) (c : Nat) (k : Int) :
    readFloatLiteral (signChars negative ++ (positional c k).toList) =
      .ok (if 0 ≤ k then .finite negative (c * 10 ^ k.toNat) 0 else .finite negative c k) := by
  have hne : (digitsOf c).toList ≠ [] := by
    rw [toList_digitsOf]
    exact Nat.toDigits_ne_nil
  have hvalue : Nat.ofDigitChars 10 (digitsOf c).toList 0 = c := by
    rw [toList_digitsOf]
    exact Nat.ofDigitChars_ten_toDigits
  have hzeros : ∀ n, (zeros n).toList = List.replicate n '0' := fun n => by simp [zeros]
  unfold positional
  dsimp only
  split
  · -- digits, then zeros
    next hk =>
    rw [String.toList_append, ← List.append_nil (signChars negative ++ _),
      readFloatLiteral_digits negative (by simp [hne])
        (fun d hd => (List.mem_append.mp hd).elim isDigit_of_mem_digitsOf isDigit_of_mem_zeros)
        (by simp) (.inl ⟨rfl, rfl⟩)]
    simp [Nat.ofDigitChars_append, hvalue, hzeros, Nat.mul_comm]
  · split
    · -- the point among the digits
      next hpoint =>
      have hwhole : ((digitsOf c).toList.take (((digitsOf c).length : Int) + k).toNat) ≠ [] := by
        simp only [ne_eq, List.take_eq_nil_iff, hne, or_false]
        omega
      have hshape : (String.ofList ((digitsOf c).toList.take (((digitsOf c).length : Int) + k).toNat) ++
          "." ++ String.ofList ((digitsOf c).toList.drop (((digitsOf c).length : Int) + k).toNat)).toList =
          (digitsOf c).toList.take (((digitsOf c).length : Int) + k).toNat ++
            '.' :: (digitsOf c).toList.drop (((digitsOf c).length : Int) + k).toNat := by
        simp
      rw [hshape, ← List.append_assoc,
        readFloatLiteral_digits negative hwhole
          (fun d hd => isDigit_of_mem_digitsOf (List.mem_of_mem_take hd))
          (fun d hd => isDigit_of_mem_digitsOf (List.mem_of_mem_drop hd)) (.inr rfl),
        List.take_append_drop, hvalue, List.length_drop, String.length_toList]
      congr
      omega
    · -- a zero, the point, zeros, then the digits
      next hpoint =>
      have hshape : ("0." ++ zeros (-(((digitsOf c).length : Int) + k)).toNat ++ digitsOf c).toList =
          ['0'] ++ '.' :: ((zeros (-(((digitsOf c).length : Int) + k)).toNat).toList ++
            (digitsOf c).toList) := by
        simp
      rw [hshape, ← List.append_assoc,
        readFloatLiteral_digits negative (by simp) (by simp)
          (fun d hd => (List.mem_append.mp hd).elim isDigit_of_mem_zeros isDigit_of_mem_digitsOf)
          (.inr rfl)]
      simp only [Nat.ofDigitChars_append, hzeros, Nat.ofDigitChars_replicate_zero, List.length_append,
        List.length_replicate, String.length_toList]
      rw [Nat.ofDigitChars_cons, Nat.ofDigitChars_nil, Nat.mul_zero, Nat.sub_self, Nat.zero_add,
        Nat.mul_zero, hvalue]
      congr
      omega

/-! ## Decimals as ratios -/

theorem digitsOf_length_bounds {n : Nat} (hn : 0 < n) :
    10 ^ ((digitsOf n).length - 1) ≤ n ∧ n < 10 ^ (digitsOf n).length := by
  have hrepr : digitsOf n = n.repr := rfl
  rw [hrepr]
  have hpos : 0 < n.repr.length := Nat.length_repr_pos
  refine ⟨?_, (Nat.length_repr_le_iff hpos).mp le_rfl⟩
  rcases Nat.lt_or_ge n.repr.length 2 with hlen | hlen
  · rw [show n.repr.length - 1 = 0 by omega]
    exact hn
  · exact Nat.not_lt.mp fun hlt => by
      have := (Nat.length_repr_le_iff (by omega)).mpr hlt
      omega

/-- **A decimal of reasonable size is turned into its exact ratio**: neither cut to zero nor to
infinity. -/
theorem ratioOf_of_bounds {D : Nat} {E : Int} (hD : 0 < D)
    (hlo : (10 : ℚ) ^ (-399 : Int) ≤ D * 10 ^ E) (hhi : (D : ℚ) * 10 ^ E < 10 ^ (400 : Int)) :
    ∃ num den, ratioOf D E = some (num, den) ∧ 0 < den ∧ (num : ℚ) / den = D * 10 ^ E := by
  obtain ⟨hlen1, hlen2⟩ := digitsOf_length_bounds hD
  have hten : (1 : ℚ) < 10 := by norm_num
  have hpos : (0 : ℚ) < 10 ^ E := zpow_pos (by norm_num) E
  -- fewer than 400 digits above the units, and fewer than 400 below
  have hsmall : E + (digitsOf D).length < 401 := by
    have hcast : (10 : ℚ) ^ (((digitsOf D).length - 1 : Nat) : Int) ≤ D := by
      rw [zpow_natCast]
      exact_mod_cast hlen1
    have : (10 : ℚ) ^ ((((digitsOf D).length - 1 : Nat) : Int) + E) < 10 ^ (400 : Int) := by
      rw [zpow_add₀ (by norm_num)]
      calc (10 : ℚ) ^ (((digitsOf D).length - 1 : Nat) : Int) * 10 ^ E ≤ D * 10 ^ E :=
            mul_le_mul_of_nonneg_right hcast hpos.le
        _ < 10 ^ (400 : Int) := hhi
    rw [zpow_lt_zpow_iff_right₀ hten] at this
    omega
  have hlarge : -399 < E + (digitsOf D).length := by
    have hcast : (D : ℚ) < 10 ^ (((digitsOf D).length : Nat) : Int) := by
      rw [zpow_natCast]
      exact_mod_cast hlen2
    have : (10 : ℚ) ^ (-399 : Int) < 10 ^ ((((digitsOf D).length : Nat) : Int) + E) := by
      rw [zpow_add₀ (by norm_num)]
      calc (10 : ℚ) ^ (-399 : Int) ≤ D * 10 ^ E := hlo
        _ < 10 ^ (((digitsOf D).length : Nat) : Int) * 10 ^ E :=
            mul_lt_mul_of_pos_right hcast hpos
    rw [zpow_lt_zpow_iff_right₀ hten] at this
    omega
  unfold ratioOf
  dsimp only
  rw [if_neg (by omega), if_neg (by omega), if_neg (by omega)]
  split
  · next hE =>
    refine ⟨_, _, rfl, Nat.one_pos, ?_⟩
    unfold pow10
    rw [Nat.pow_eq]
    push_cast
    rw [div_one, ← zpow_natCast, Int.toNat_of_nonneg hE]
  · next hE =>
    refine ⟨_, _, rfl, Nat.pow_pos (by decide), ?_⟩
    unfold pow10
    rw [Nat.pow_eq]
    push_cast
    rw [← zpow_natCast, Int.toNat_of_nonneg (by omega), zpow_neg, div_eq_mul_inv, inv_inv]

/-! ## Float texts read back -/

theorem bounds_of_roundsTo {m : Nat} {e : Int} (hm : 0 < m) (hrep : single.Representable m e)
    {r : ℚ} (hr : single.RoundsTo m e r) : (10 : ℚ) ^ (-399 : Int) ≤ r ∧ r < 10 ^ (400 : Int) := by
  have hmin := hrep.min_le
  have hmax := hrep.le_max
  rw [single_minExponent] at hmin
  rw [single_maxExponent] at hmax
  have hgap : (lowerGap single m e : ℚ) ≤ 2 := by exact_mod_cast lowerGap_le single m e
  have hm1 : (1 : ℚ) ≤ m := by exact_mod_cast hm
  have hmlt : (m : ℚ) + 1 ≤ 2 ^ 24 := by exact_mod_cast hrep.mantissa_lt
  have hpow : (0 : ℚ) < 2 ^ e := zpow_pos two_pos e
  have hlower := hr.lower
  have hupper := hr.upper
  rw [le_div_iff₀ hpow] at hlower
  rw [div_le_iff₀ hpow] at hupper
  constructor
  · -- at least half the least subnormal number
    have hleast : (2 : ℚ) ^ (-149 : Int) ≤ 2 ^ e := zpow_le_zpow_right₀ one_le_two hmin
    have hhalf : (1 / 2 : ℚ) * 2 ^ e ≤ (m - lowerGap single m e / 4) * 2 ^ e :=
      mul_le_mul_of_nonneg_right (by linarith) hpow.le
    calc (10 : ℚ) ^ (-399 : Int) ≤ 2 ^ (-150 : Int) :=
          ten_zpow_le_two_zpow (.inr ⟨by norm_num, by norm_num⟩)
      _ = 2 ^ (-149 : Int) / 2 := by norm_num
      _ ≤ 2 ^ e / 2 := div_le_div_of_nonneg_right hleast (by norm_num)
      _ ≤ r := by linarith
  · -- below the top of the greatest binade
    have hgreatest : (2 : ℚ) ^ e ≤ 2 ^ (104 : Int) := zpow_le_zpow_right₀ one_le_two hmax
    calc r ≤ (m + 1 / 2) * 2 ^ e := hupper
      _ ≤ (m + 1 / 2) * 2 ^ (104 : Int) := mul_le_mul_of_nonneg_left hgreatest (by positivity)
      _ < 2 ^ 24 * 2 ^ (104 : Int) := mul_lt_mul_of_pos_right (by linarith) (by positivity)
      _ = 2 ^ (128 : Int) := by rw [← zpow_natCast, ← zpow_add₀ two_ne_zero]; norm_num
      _ ≤ 10 ^ (128 : Int) := zpow_le_zpow_left₀ (by norm_num) (by norm_num) (by norm_num)
      _ < 10 ^ (400 : Int) := zpow_lt_zpow_right₀ (by norm_num) (by norm_num)

/-- **The positional text of a finite nonzero `Float32` reads back as the float.** -/
theorem toFloat32_positional {x : Float32} {negative : Bool} {m : Nat} {e : Int}
    (hx : Float32.value x = .finite negative m e) (hm : 0 < m) :
    (readFloatLiteral (signChars negative ++ (positional (shortest single m e).1
      (shortest single m e).2).toList)).map Literal.toFloat32 = .ok x := by
  have hrep := single_representable_of_decode hx
  have hr := shortest_roundsTo (by decide) (by decide) (by decide) hm hrep
  generalize shortest single m e = p at hr ⊢
  obtain ⟨c, k⟩ := p
  obtain ⟨hlo, hhi⟩ := bounds_of_roundsTo hm hrep hr
  rw [readFloatLiteral_positional]
  -- the literal read denotes `c · 10^k`
  obtain ⟨D, E, hlit, hval⟩ : ∃ D E, (if 0 ≤ k then Literal.finite negative (c * 10 ^ k.toNat) 0
      else .finite negative c k) = .finite negative D E ∧ (D : ℚ) * 10 ^ E = c * 10 ^ k := by
    split
    · next hk =>
      refine ⟨_, _, rfl, ?_⟩
      push_cast
      rw [mul_one, ← zpow_natCast, Int.toNat_of_nonneg hk]
    · exact ⟨_, _, rfl, rfl⟩
  rw [hlit]
  have hD : 0 < D := Nat.pos_of_ne_zero fun h0 => by
    rw [← hval, h0, Nat.cast_zero, zero_mul] at hlo
    exact absurd hlo (not_le.mpr (zpow_pos (by norm_num) _))
  rw [← hval] at hlo hhi
  obtain ⟨num, den, hratio, hden, hnum⟩ := ratioOf_of_bounds hD hlo hhi
  rw [hval] at hnum
  rw [← hnum] at hr
  simp only [Except.map, Literal.toFloat32, hratio]
  exact congrArg Except.ok
    (float32OfRatio_of_roundRatio hx (roundRatio_of_roundsTo (by decide) hden hm hrep hr))

/-- **Reading the text of a `Float32` gives the float back**, for every float: the value of
its bits, so the same bits for every float but NaN, and NaN for NaN. -/
theorem parseFloat32_plainText (x : Float32) : parseFloat32 (Float32.plainText x) = .ok x := by
  have hsign : ∀ negative : Bool, (if negative then "-" else "").toList = signChars negative := by
    intro negative
    cases negative <;> rfl
  unfold parseFloat32 Float32.plainText
  cases hv : Float32.value x with
  | nan =>
    have hread : readFloatLiteral (BinaryValue.spell .single .plain .nan).toList = .ok .nan := rfl
    rw [hread]
    exact congrArg Except.ok (float32NaN_of_value hv)
  | infinity negative =>
    have hread : readFloatLiteral (BinaryValue.spell .single .plain (.infinity negative)).toList =
        .ok (.infinity negative) := by
      cases negative <;> rfl
    rw [hread]
    exact congrArg Except.ok (float32Infinity_of_value hv)
  | finite negative m e =>
    rw [BinaryValue.spell]
    dsimp only
    split
    · -- a zero, at the least exponent: its sign and `0`
      next hm =>
      subst hm
      have hread : readFloatLiteral ((if negative then "-" else "") ++ "0").toList =
          .ok (.finite negative 0 0) := by
        cases negative <;> rfl
      have hmin : e = single.minExponent :=
        (single_representable_of_decode hv).normal.resolve_right (by decide)
      subst hmin
      rw [FloatSpelling.plain, hread]
      exact congrArg Except.ok (float32OfRatio_of_roundRatio hv rfl)
    · next hm =>
      rw [String.toList_append, hsign]
      exact toFloat32_positional hv (Nat.pos_of_ne_zero hm)

end KnowledgeDesk.Number

namespace KnowledgeDesk

open Number

/-! ## Stored vectors read back -/

theorem readVectorItem_of_trim {piece : String} {x : Float32}
    (h : Text.trim piece = Number.Float32.plainText x) : readVectorItem piece = .ok x := by
  unfold readVectorItem
  rw [h, parseFloat32_plainText]

theorem mapM_readVectorItem_vectorPieces (v : List Float32) :
    (vectorPieces v).mapM readVectorItem = .ok v := by
  have hword : ∀ x : Float32, Text.IsWord (Number.Float32.plainText x) :=
    fun x => (plainLiteral_plainText x).isWord
  -- every piece after the first has a space in front
  have hrest : ∀ xs : List Float32,
      (xs.map (" " ++ Number.Float32.plainText ·)).mapM readVectorItem = .ok xs := by
    intro xs
    induction xs with
    | nil => rfl
    | cons y ys ih =>
      rw [List.map_cons, List.mapM_cons, readVectorItem_of_trim (hword y).trim_space_append, ih]
      rfl
  cases v with
  | nil => rfl
  | cons x xs =>
    rw [vectorPieces, List.mapM_cons,
      readVectorItem_of_trim (Text.trim_of_solidEnds (hword x).solidEnds), hrest]
    rfl

/-- **Every vector's stored text reads back as the vector**, whatever its length and numbers: the
same bits for every number but NaN, and NaN for NaN. So a row of the shape a document's segments
are stored in, the text of a vector with the segment's file, project and text, reads back under
any key and file name as the entry that holds that very vector. -/
theorem vectorText_reads_back :
    (∀ v : List Float32, parseVector (vectorText v) = .ok v) ∧
      ∀ (name fileKey text : String) (project id : Int) (v : List Float32),
        Server.State.rowEntry name
            ⟨id, { fileId := fileKey, projectId := project, vectors := vectorText v,
                   textSegment := text }⟩ =
          .ok ⟨toString id, v, ⟨text, metaOfPairs [(metaFileName, name), (metaFileKey, fileKey),
            (metaEmbeddingId, toString id)]⟩⟩ := by
  have hvec : ∀ v : List Float32, parseVector (vectorText v) = .ok v := fun v =>
    (parseVector_vectorText_eq v).trans (mapM_readVectorItem_vectorPieces v)
  refine ⟨hvec, fun name fileKey text project id v => ?_⟩
  simp only [Server.State.rowEntry, hvec]

end KnowledgeDesk
