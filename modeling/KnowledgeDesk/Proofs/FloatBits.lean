import Mathlib
import KnowledgeDesk.Number.Binary

/-!
# The bits of floats

A `Float32` and a `Float` are their bit patterns, every NaN being one canonical NaN. Two facts
connect the library's binary formats with those patterns:

* `Float32.ofBits_toBits`, `Float.toBits_ofBits`: a float's own bits read back as the float, and
  a valid pattern (one that is no other NaN, `valid_of_decode`) reads back from the float it
  makes. Unpacking a valid pattern and packing it again gives the pattern, in either format
  (`pack_unpack`), the NaN being the canonical one.
* `single_encode_decode`: writing the sign, significand and exponent that `BinaryFormat.decode`
  reads from 32 bits gives the same bits; likewise for the infinities
  (`single_infinityBits_decode`).

So a float built from the value that a float's bits decode to is that float
(`float32OfRatio_of_roundRatio`, `float32Infinity_of_value`, `float32NaN_of_value`).
-/

namespace KnowledgeDesk.Number

open Float.Model UnpackedFloat

/-! ## Unpacking and packing a pattern -/

theorem sign_toBitVec_ofBitVec (b : BitVec 1) : (Sign.ofBitVec b).toBitVec = b := by
  revert b
  decide

theorem packComponents_unpack (spec : Format) (b : BitVec spec.numBits) :
    packComponents spec (Sign.ofBitVec (unpackSign b)) (unpackExponent b)
      (unpackMantissa b) = b := by
  unfold packComponents
  rw [sign_toBitVec_ofBitVec]
  ext i hi
  simp only [unpackSign, unpackExponent, unpackMantissa, BitVec.getElem_append,
    BitVec.getElem_cast, BitVec.extractLsb, BitVec.getElem_extractLsb']
  grind

/-- The hidden bit in front of a stored fraction. -/
theorem toNat_hiddenBit_append {w : Nat} (m : BitVec w) : (1#1 ++ m).toNat = 2 ^ w + m.toNat := by
  rw [BitVec.toNat_append, ← Nat.shiftLeft_add_eq_or_of_lt m.isLt]
  simp [Nat.shiftLeft_eq]

/-- **Packing an unpacked valid pattern gives it back**, in a format with an exponent field of
two bits at least (so that the least exponent is below the greatest). -/
theorem pack_unpack (spec : Format) (hspec : 2 ≤ spec.exponentBits) (b : BitVec spec.numBits)
    (hb : spec.Valid b) : UnpackedFloat.pack spec (UnpackedFloat.unpack spec b) = b := by
  have hparts := packComponents_unpack spec b
  have hmw := spec.hm
  unfold UnpackedFloat.unpack
  dsimp only
  split
  · next hexp =>
    split
    · next hm =>
      rw [hexp, hm] at hparts
      exact hparts
    · next hm => exact (hb.eq_packedNaN hexp hm).symm
  · next hexp =>
    split
    · next hexp0 =>
      split
      · next hm =>
        rw [hexp0, hm] at hparts
        exact hparts
      · next hm =>
        -- a subnormal number: the least exponent, and no bit at the hidden place
        have hpos : (unpackMantissa b).toNat ≠ 0 := by simpa [BitVec.toNat_eq] using hm
        have hlog : (unpackMantissa b).toNat.log2 < spec.mantissaBitsWithoutImplicit :=
          (Nat.log2_lt hpos).mpr (unpackMantissa b).isLt
        have h4 : 4 ≤ 2 ^ spec.exponentBits :=
          calc 4 = 2 ^ 2 := rfl
            _ ≤ 2 ^ spec.exponentBits := Nat.pow_le_pow_right (by decide) hspec
        rw [UnpackedFloat.pack]
        simp only [hexp0, Format.exponentBias, Format.mantissaBits, BitVec.toNat_zero]
        rw [if_neg (by omega), if_neg (by omega)]
        rw [hexp0] at hparts
        simpa using hparts
    · next hexp0 =>
      -- a normal number: its exponent field is neither all zeros nor all ones
      have helt : (unpackExponent b).toNat < 2 ^ spec.exponentBits := (unpackExponent b).isLt
      have hetop : (unpackExponent b).toNat ≠ 2 ^ spec.exponentBits - 1 := by
        intro h
        apply hexp
        apply BitVec.eq_of_toNat_eq
        rw [h, BitVec.neg_one_eq_allOnes, BitVec.toNat_allOnes]
      have he0 : (unpackExponent b).toNat ≠ 0 :=
        fun h => hexp0 (BitVec.eq_of_toNat_eq (by rw [h]; rfl))
      have hmlt : (unpackMantissa b).toNat < 2 ^ spec.mantissaBitsWithoutImplicit :=
        (unpackMantissa b).isLt
      have hlog : (2 ^ spec.mantissaBitsWithoutImplicit + (unpackMantissa b).toNat).log2 =
          spec.mantissaBitsWithoutImplicit :=
        (Nat.log2_eq_iff (by omega)).mpr ⟨by omega, by rw [Nat.pow_succ]; omega⟩
      have hbiased : (((unpackExponent b).toNat : Int) - ((spec.exponentBias : Int) +
          spec.mantissaBitsWithoutImplicit) + spec.exponentBias +
          spec.mantissaBitsWithoutImplicit).toNat = (unpackExponent b).toNat := by omega
      have hexpBits : BitVec.ofNat spec.exponentBits (unpackExponent b).toNat = unpackExponent b :=
        BitVec.eq_of_toNat_eq (by simp)
      have hmantBits : BitVec.ofNat spec.mantissaBitsWithoutImplicit
          (2 ^ spec.mantissaBitsWithoutImplicit + (unpackMantissa b).toNat) = unpackMantissa b :=
        BitVec.eq_of_toNat_eq (by simp)
      rw [UnpackedFloat.pack]
      simp only [toNat_hiddenBit_append, Format.mantissaBits]
      rw [hbiased, if_neg (by omega), if_pos (by omega), hexpBits, hmantBits]
      exact hparts

/-- **A float's own bits read back as the float.** -/
theorem Float32.ofBits_toBits (x : Float32) : Float32.ofBits x.toBits = x := by
  obtain ⟨⟨b, hb⟩⟩ := x
  show Float32.ofModel (Float32.Model.pack (UnpackedFloat.unpack Format.binary32 b.toBitVec)) = _
  simp only [Float32.Model.pack, pack_unpack Format.binary32 (by decide) _ hb]

theorem Float32.ofBits_eq_of_unpack {a b : UInt32}
    (h : UnpackedFloat.unpack Format.binary32 a.toBitVec =
      UnpackedFloat.unpack Format.binary32 b.toBitVec) :
    Float32.ofBits a = Float32.ofBits b := by
  show Float32.ofModel (Float32.Model.pack _) = Float32.ofModel (Float32.Model.pack _)
  rw [h]

/-- **A valid pattern reads back from the `Float` it makes**: only a NaN other than the
canonical one is changed. -/
theorem Float.toBits_ofBits {u : UInt64} (hu : Format.binary64.Valid u.toBitVec) :
    (Float.ofBits u).toBits = u := by
  show UInt64.ofBitVec (UnpackedFloat.pack Format.binary64
    (UnpackedFloat.unpack Format.binary64 u.toBitVec)) = u
  rw [pack_unpack Format.binary64 (by decide) _ hu]

/-! ## The library's reading of 32 bits -/

namespace BinaryFormat

theorem single_decode (n : Nat) : single.decode n =
    if n / 8388608 % 256 = 255 then
      (if n % 8388608 = 0 then .infinity (n / 2147483648 % 2 == 1) else .nan)
    else if n / 8388608 % 256 = 0 then .finite (n / 2147483648 % 2 == 1) (n % 8388608) (-149)
    else .finite (n / 2147483648 % 2 == 1) (n % 8388608 + 8388608)
      (((n / 8388608 % 256 : Nat) : Int) - 1 + -149) := rfl

theorem single_encode (negative : Bool) (m : Nat) (e : Int) : single.encode negative m e =
    if m < 8388608 then (if negative then 2147483648 else 0) + m
    else (if negative then 2147483648 else 0) + (e - -149 + 1).toNat * 8388608 + (m - 8388608) :=
  rfl

theorem single_infinityBits (negative : Bool) :
    single.infinityBits negative = (if negative then 2147483648 else 0) + 255 * 8388608 := rfl

/-- **Writing what 32 bits read as gives them back**, for a finite value. -/
theorem single_encode_decode {n : Nat} (hn : n < 2 ^ 32) {negative : Bool} {m : Nat} {e : Int}
    (h : single.decode n = .finite negative m e) : single.encode negative m e = n := by
  rw [single_decode] at h
  rw [single_encode]
  split at h
  · split at h <;> cases h
  · split at h
    · -- a subnormal value: the fraction is all there is
      cases h
      rw [if_pos (Nat.mod_lt _ (by decide))]
      by_cases hs : n / 2147483648 % 2 = 1 <;> simp [hs] <;> omega
    · -- a normal value: the exponent field comes back from the exponent
      cases h
      rw [if_neg (by omega)]
      have hfield : ((((n / 8388608 % 256 : Nat) : Int) - 1 + -149) - -149 + 1).toNat =
          n / 8388608 % 256 := by omega
      rw [hfield]
      by_cases hs : n / 2147483648 % 2 = 1 <;> simp [hs] <;> omega

theorem single_infinityBits_decode {n : Nat} (hn : n < 2 ^ 32) {negative : Bool}
    (h : single.decode n = .infinity negative) : single.infinityBits negative = n := by
  rw [single_decode] at h
  rw [single_infinityBits]
  split at h
  · next hfield =>
    split at h
    · next hfrac =>
      cases h
      by_cases hs : n / 2147483648 % 2 = 1 <;> simp [hs] <;> omega
    · cases h
  · split at h <;> cases h

/-- The bits that read as NaN unpack as NaN. -/
theorem unpack_of_decode_nan (b : BitVec Format.binary32.numBits) (h : single.decode b.toNat = .nan) :
    UnpackedFloat.unpack Format.binary32 b = .notANumber := by
  have hexp : (unpackExponent b).toNat = b.toNat / 8388608 % 256 := by
    simp [unpackExponent, BitVec.extractLsb_toNat, Nat.shiftRight_eq_div_pow]
  have hmant : (unpackMantissa b).toNat = b.toNat % 8388608 := by
    simp [unpackMantissa, BitVec.extractLsb_toNat]
  rw [single_decode] at h
  split at h
  · next hfield =>
    split at h
    · cases h
    · next hfrac =>
      unfold UnpackedFloat.unpack
      dsimp only
      rw [if_pos (BitVec.eq_of_toNat_eq (by rw [hexp, hfield]; rfl)),
        if_neg (fun h0 => hfrac (by rw [← hmant, h0]; rfl))]
  · split at h <;> cases h

/-! ## The library's reading of 64 bits -/

theorem double_decode (n : Nat) : double.decode n =
    if n / 4503599627370496 % 2048 = 2047 then
      (if n % 4503599627370496 = 0 then .infinity (n / 9223372036854775808 % 2 == 1) else .nan)
    else if n / 4503599627370496 % 2048 = 0 then
      .finite (n / 9223372036854775808 % 2 == 1) (n % 4503599627370496) (-1074)
    else .finite (n / 9223372036854775808 % 2 == 1) (n % 4503599627370496 + 4503599627370496)
      (((n / 4503599627370496 % 2048 : Nat) : Int) - 1 + -1074) := rfl

theorem double_encode (negative : Bool) (m : Nat) (e : Int) : double.encode negative m e =
    if m < 4503599627370496 then (if negative then 9223372036854775808 else 0) + m
    else (if negative then 9223372036854775808 else 0) + (e - -1074 + 1).toNat * 4503599627370496 +
      (m - 4503599627370496) :=
  rfl

/-- **A 64-bit pattern that does not read as NaN is valid**: only NaNs have patterns the
float model does not keep. -/
theorem valid_of_decode (b : BitVec Format.binary64.numBits) (h : double.decode b.toNat ≠ .nan) :
    Format.binary64.Valid b := by
  have hexp : (unpackExponent b).toNat = b.toNat / 4503599627370496 % 2048 := by
    simp [unpackExponent, BitVec.extractLsb_toNat, Nat.shiftRight_eq_div_pow]
  have hmant : (unpackMantissa b).toNat = b.toNat % 4503599627370496 := by
    simp [unpackMantissa, BitVec.extractLsb_toNat]
  refine ⟨fun he hm => absurd ?_ h⟩
  have hfield : b.toNat / 4503599627370496 % 2048 = 2047 := by
    rw [← hexp, he]
    rfl
  have hfrac : b.toNat % 4503599627370496 ≠ 0 :=
    fun h0 => hm (BitVec.eq_of_toNat_eq (by rw [hmant, h0]; rfl))
  rw [double_decode, if_pos hfield, if_neg hfrac]

end BinaryFormat

/-! ## Floats from the values their bits read as -/

theorem float32OfRatio_of_roundRatio {x : Float32} {negative : Bool} {m : Nat} {e : Int}
    (hx : Float32.value x = .finite negative m e) {num den : Nat}
    (h : BinaryFormat.single.roundRatio num den = some (m, e)) :
    float32OfRatio negative num den = x := by
  have hbits := BinaryFormat.single_encode_decode x.toBits.toNat_lt hx
  unfold float32OfRatio BinaryFormat.bitsOfRatio
  simp only [h]
  show Float32.ofBits (UInt32.ofNat _) = x
  rw [hbits, UInt32.ofNat_toNat, Float32.ofBits_toBits]

theorem float32Infinity_of_value {x : Float32} {negative : Bool}
    (hx : Float32.value x = .infinity negative) : float32Infinity negative = x := by
  have hbits := BinaryFormat.single_infinityBits_decode x.toBits.toNat_lt hx
  show Float32.ofBits (UInt32.ofNat _) = x
  rw [hbits, UInt32.ofNat_toNat, Float32.ofBits_toBits]

/-- Every NaN is the one NaN. -/
theorem float32NaN_of_value {x : Float32} (hx : Float32.value x = .nan) : float32NaN = x := by
  rw [← Float32.ofBits_toBits x]
  apply Float32.ofBits_eq_of_unpack
  rw [BinaryFormat.unpack_of_decode_nan _ rfl, BinaryFormat.unpack_of_decode_nan _ hx]

end KnowledgeDesk.Number
