import KnowledgeDesk.Number.Integer

/-!
# Integer texts

`DecimalNumeral cs k` says that the characters `cs` are an optionally signed decimal numeral of
`k`: a `+` or a `-` or nothing, then at least one ASCII digit, and nothing else. Main statement
(`parseIntIn_eq_ok_iff`): reading an integer of a signed type succeeds with `k` exactly when the
text is a numeral of `k` within the type's bounds; the first non-digit or the first step past a
bound is an error.

A text is a numeral of one value at most (`DecimalNumeral.unique`), every character of a numeral
is a digit or a sign (`DecimalNumeral.mem_chars`), and the decimal texts of natural numbers and
integers are numerals of them (`decimalNumeral_natToString`, `decimalNumeral_intToString`).
-/

namespace KnowledgeDesk.Number

/-- Non-empty ASCII digits. -/
structure AllDigits (ds : List Char) : Prop where
  ne_nil : ds ≠ []
  isDigit : ∀ c ∈ ds, c.isDigit = true

/-- `cs` is an optionally signed decimal numeral of `k`. -/
inductive DecimalNumeral : List Char → Int → Prop
  | unsigned {ds : List Char} : AllDigits ds → DecimalNumeral ds (Nat.ofDigitChars 10 ds 0)
  | plus {ds : List Char} : AllDigits ds → DecimalNumeral ('+' :: ds) (Nat.ofDigitChars 10 ds 0)
  | minus {ds : List Char} :
      AllDigits ds → DecimalNumeral ('-' :: ds) (-(Nat.ofDigitChars 10 ds 0 : Int))

/-! ## Numerals -/

-- A sign is no digit, so digits never start with one.
theorem AllDigits.not_plus {ds : List Char} (hd : AllDigits ('+' :: ds)) : False :=
  absurd (hd.isDigit '+' List.mem_cons_self) (by decide)

theorem AllDigits.not_minus {ds : List Char} (hd : AllDigits ('-' :: ds)) : False :=
  absurd (hd.isDigit '-' List.mem_cons_self) (by decide)

/-- Every character of a numeral is a digit or a sign. -/
theorem DecimalNumeral.mem_chars {cs : List Char} {k : Int} (h : DecimalNumeral cs k) :
    ∀ c ∈ cs, c.isDigit = true ∨ c = '+' ∨ c = '-' := by
  cases h with
  | unsigned hd => exact fun c hc => .inl (hd.isDigit c hc)
  | plus hd =>
    intro c hc
    rcases List.mem_cons.mp hc with rfl | hc
    · exact .inr (.inl rfl)
    · exact .inl (hd.isDigit c hc)
  | minus hd =>
    intro c hc
    rcases List.mem_cons.mp hc with rfl | hc
    · exact .inr (.inr rfl)
    · exact .inl (hd.isDigit c hc)

theorem DecimalNumeral.ne_nil {cs : List Char} {k : Int} (h : DecimalNumeral cs k) : cs ≠ [] := by
  cases h with
  | unsigned hd => exact hd.ne_nil
  | plus | minus => exact List.cons_ne_nil _ _

/-- **A text is a numeral of one value at most.** -/
theorem DecimalNumeral.unique {cs : List Char} {k k' : Int} (h : DecimalNumeral cs k)
    (h' : DecimalNumeral cs k') : k = k' := by
  -- a sign is no digit, so the two readings take the same constructor
  cases h with
  | unsigned hd =>
    cases h' with
    | unsigned => rfl
    | plus => exact hd.not_plus.elim
    | minus => exact hd.not_minus.elim
  | plus hd =>
    cases h' with
    | unsigned hd' => exact hd'.not_plus.elim
    | plus => rfl
  | minus hd =>
    cases h' with
    | unsigned hd' => exact hd'.not_minus.elim
    | minus => rfl

/-! ## Reading digits toward a bound -/

theorem le_ofDigitChars (cs : List Char) (init : Nat) : init ≤ Nat.ofDigitChars 10 cs init := by
  rw [Nat.ofDigitChars_eq_ofDigitChars_zero]
  have hpow : 1 ≤ 10 ^ cs.length := Nat.one_le_pow _ _ (by decide)
  have hmul : init ≤ 10 ^ cs.length * init := Nat.le_mul_of_pos_left init hpow
  omega

/-- **Reading digits onto `acc` toward a bound** gives their value exactly when they are all
digits and the value is within the bound: the partial values only grow, so one past the bound
makes the whole past it. -/
theorem readBounded_eq_ok_iff {bound : Nat} {overflow : IntError} (cs : List Char) {acc : Nat}
    (hacc : acc ≤ bound) (n : Nat) :
    readBounded bound overflow acc cs = .ok n ↔
      (∀ c ∈ cs, c.isDigit = true) ∧ Nat.ofDigitChars 10 cs acc = n ∧ n ≤ bound := by
  induction cs generalizing acc with
  | nil =>
    simp only [readBounded, Except.ok.injEq, List.not_mem_nil, false_implies, implies_true,
      Nat.ofDigitChars_nil, true_and]
    constructor
    · rintro rfl
      exact ⟨rfl, hacc⟩
    · rintro ⟨rfl, -⟩
      rfl
  | cons c rest ih =>
    rw [readBounded, Nat.ofDigitChars_cons, Nat.mul_comm 10 acc]
    by_cases hc : c.isDigit = true
    · rw [if_pos hc]
      dsimp only
      by_cases hv : acc * 10 + (c.toNat - '0'.toNat) > bound
      · -- past the bound at this digit, and so past it at the end
        rw [if_pos hv]
        have hgrow := le_ofDigitChars rest (acc * 10 + (c.toNat - '0'.toNat))
        simp only [reduceCtorEq, false_iff, not_and]
        intro _ hval
        omega
      · rw [if_neg hv, ih (by omega)]
        simp [hc]
    · rw [if_neg hc]
      simp only [reduceCtorEq, false_iff, not_and]
      intro hall
      exact absurd (hall c List.mem_cons_self) hc

/-! ## Reading integers within bounds -/

/-- Digits read onto zero toward the bound of a non-negative end. -/
theorem readBounded_map_eq_ok_iff {bound : Nat} {overflow : IntError} (ds : List Char)
    (sign : Nat → Int) (k : Int) :
    (readBounded bound overflow 0 ds).map sign = .ok k ↔
      (∀ c ∈ ds, c.isDigit = true) ∧ k = sign (Nat.ofDigitChars 10 ds 0) ∧
        Nat.ofDigitChars 10 ds 0 ≤ bound := by
  cases h : readBounded bound overflow 0 ds with
  | error e =>
    simp only [Except.map, reduceCtorEq, false_iff, not_and]
    intro hall hk hle
    have hok : readBounded bound overflow 0 ds = .ok (Nat.ofDigitChars 10 ds 0) :=
      (readBounded_eq_ok_iff ds (Nat.zero_le bound) _).mpr ⟨hall, rfl, hle⟩
    rw [h] at hok
    cases hok
  | ok n =>
    obtain ⟨hall, hval, hle⟩ := (readBounded_eq_ok_iff ds (Nat.zero_le bound) n).mp h
    simp only [Except.map, Except.ok.injEq, hval]
    constructor
    · rintro rfl
      exact ⟨hall, rfl, hle⟩
    · rintro ⟨-, rfl, -⟩
      rfl

/-- Negating a natural number read as an integer is negating it read as such. -/
theorem map_neg_natCast (r : Except IntError Nat) :
    Except.map (fun n : Int => -n) (r >>= fun a => pure (a : Int)) =
      Except.map (fun n : Nat => -(n : Int)) r := by
  cases r <;> rfl

/-- **Reading an integer of a signed type succeeds with `k` exactly when the text is a numeral
of `k` within the type's bounds.** -/
theorem parseIntIn_eq_ok_iff {lo hi : Int} (hlo : lo < 0) (hhi : 0 ≤ hi) (s : String) (k : Int) :
    parseIntIn lo hi s = .ok k ↔ DecimalNumeral s.toList k ∧ lo ≤ k ∧ k ≤ hi := by
  unfold parseIntIn
  split
  · -- nothing to read
    next hnil =>
    simp only [reduceCtorEq, false_iff, not_and]
    intro h
    rw [hnil] at h
    cases h with
    | unsigned hd => exact absurd rfl hd.ne_nil
  · -- a lone plus sign
    next hs =>
    simp only [reduceCtorEq, false_iff, not_and]
    intro h
    rw [hs] at h
    cases h with
    | unsigned hd => exact hd.not_plus.elim
    | plus hd => exact absurd rfl hd.ne_nil
  · -- a lone minus sign
    next hs =>
    simp only [reduceCtorEq, false_iff, not_and]
    intro h
    rw [hs] at h
    cases h with
    | unsigned hd => exact hd.not_minus.elim
    | minus hd => exact absurd rfl hd.ne_nil
  · -- a plus sign and digits
    next _ rest hrest hs =>
    rw [hs, readBounded_map_eq_ok_iff rest Int.ofNat, Int.ofNat_eq_natCast]
    constructor
    · rintro ⟨hall, rfl, hle⟩
      exact ⟨.plus ⟨fun h => hrest h, hall⟩, by omega, by omega⟩
    · rintro ⟨h, hk₁, hk₂⟩
      cases h with
      | unsigned hd => exact hd.not_plus.elim
      | plus hd => exact ⟨hd.isDigit, rfl, by omega⟩
  · -- a minus sign and digits
    next _ rest hrest hs =>
    rw [if_pos hlo, hs, map_neg_natCast, readBounded_map_eq_ok_iff rest (fun n : Nat => -(n : Int))]
    constructor
    · rintro ⟨hall, rfl, hle⟩
      exact ⟨.minus ⟨fun h => hrest h, hall⟩, by omega, by omega⟩
    · rintro ⟨h, hk₁, hk₂⟩
      cases h with
      | unsigned hd => exact hd.not_minus.elim
      | minus hd => exact ⟨hd.isDigit, rfl, by omega⟩
  · -- no sign: digits only
    next _ hnil _ _ hp hm =>
    generalize s.toList = cs at hnil hp hm ⊢
    rw [readBounded_map_eq_ok_iff cs Int.ofNat, Int.ofNat_eq_natCast]
    constructor
    · rintro ⟨hall, rfl, hle⟩
      exact ⟨.unsigned ⟨fun h => hnil h, hall⟩, by omega, by omega⟩
    · rintro ⟨h, hk₁, hk₂⟩
      cases h with
      | unsigned hd => exact ⟨hd.isDigit, rfl, by omega⟩
      | plus hd => exact absurd rfl (hp _)
      | minus hd => exact absurd rfl (hm _)

/-! ## Decimal texts of numbers -/

theorem allDigits_toDigits (n : Nat) : AllDigits (Nat.toDigits 10 n) :=
  ⟨Nat.toDigits_ne_nil, fun _ hc => Nat.isDigit_of_mem_toDigits (by decide) (by decide) hc⟩

/-- The decimal text of a natural number is a numeral of it. -/
theorem decimalNumeral_natToString (n : Nat) : DecimalNumeral (toString n).toList n := by
  have h := DecimalNumeral.unsigned (allDigits_toDigits n)
  rwa [Nat.ofDigitChars_ten_toDigits, ← Nat.toList_repr, ← Nat.toString_eq_repr] at h

/-- The decimal text of an integer is a numeral of it. -/
theorem decimalNumeral_intToString (i : Int) : DecimalNumeral (toString i).toList i := by
  rw [Int.toString_eq_repr, Int.repr_eq_if]
  split
  · next hi =>
    have h := decimalNumeral_natToString i.toNat
    rwa [Int.toNat_of_nonneg hi] at h
  · next hi =>
    have h := DecimalNumeral.minus (allDigits_toDigits (-i).toNat)
    rw [Nat.ofDigitChars_ten_toDigits, Int.toNat_of_nonneg (by omega), Int.neg_neg] at h
    simpa using h

end KnowledgeDesk.Number
