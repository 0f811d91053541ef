/-!
# Binary floating-point formats

The two IEEE 754 binary interchange formats this library reads and writes, `double` (53-bit
significand) and `single` (24-bit), described by one record `BinaryFormat`, so each rule is
written once for both.

* `BinaryFormat.decode` reads a bit pattern as NaN, an infinity, or `±m · 2^e` with `m` a
  natural number.
* `BinaryFormat.roundRatio` rounds a positive ratio of natural numbers to the nearest value of
  the format, a tie going to the even significand; `none` means it overflows to infinity.
* `BinaryFormat.encode` writes such a rounded value back as bits.

All arithmetic is on natural numbers and integers, so these are exact.
-/

namespace KnowledgeDesk.Number

/-- A binary interchange format. -/
structure BinaryFormat where
  /-- Significand bits, the hidden leading bit included. -/
  precision : Nat
  /-- Width of the exponent field. -/
  exponentBits : Nat
  deriving Repr, DecidableEq

namespace BinaryFormat

def double : BinaryFormat := ⟨53, 11⟩

def single : BinaryFormat := ⟨24, 8⟩

def fractionBits (f : BinaryFormat) : Nat := f.precision - 1

def bias (f : BinaryFormat) : Nat := Nat.pow 2 (f.exponentBits - 1) - 1

/-- The all-ones exponent field, which marks infinities and NaNs. -/
def topField (f : BinaryFormat) : Nat := Nat.pow 2 f.exponentBits - 1

/-- The weight of the last significand bit of a subnormal number (and of the least normal
binade): `-1074` for `double`, `-149` for `single`. -/
def minExponent (f : BinaryFormat) : Int := 1 - (f.bias : Int) - f.fractionBits

/-- The weight of the last significand bit in the greatest binade: `971` for `double`. -/
def maxExponent (f : BinaryFormat) : Int := (f.topField : Int) - 1 - f.bias - f.fractionBits

def width (f : BinaryFormat) : Nat := f.precision + f.exponentBits

end BinaryFormat

/-- What a bit pattern stands for. A finite value is `(-1)^negative · mantissa · 2^exponent`. -/
inductive BinaryValue where
  | nan
  | infinity (negative : Bool)
  | finite (negative : Bool) (mantissa : Nat) (exponent : Int)
  deriving Repr, DecidableEq

namespace BinaryFormat

/-- Read a bit pattern. Subnormal numbers keep the least exponent; normal ones carry their
hidden bit in the mantissa. -/
def decode (f : BinaryFormat) (bits : Nat) : BinaryValue :=
  let frac := bits % Nat.pow 2 f.fractionBits
  let field := (bits / Nat.pow 2 f.fractionBits) % Nat.pow 2 f.exponentBits
  let negative := (bits / Nat.pow 2 (f.fractionBits + f.exponentBits)) % 2 == 1
  if field = f.topField then
    if frac = 0 then .infinity negative else .nan
  else if field = 0 then .finite negative frac f.minExponent
  else .finite negative (frac + Nat.pow 2 f.fractionBits) ((field : Int) - 1 + f.minExponent)

def infinityBits (f : BinaryFormat) (negative : Bool) : Nat :=
  (if negative then Nat.pow 2 (f.width - 1) else 0) + f.topField * Nat.pow 2 f.fractionBits

def nanBits (f : BinaryFormat) : Nat := f.topField * Nat.pow 2 f.fractionBits + Nat.pow 2 (f.fractionBits - 1)

/-- The bits of `(-1)^negative · m · 2^e`, for `m < 2^precision` and `e ≥ minExponent` as
`roundRatio` gives them: `m` below `2^fractionBits` only at the least exponent. -/
def encode (f : BinaryFormat) (negative : Bool) (m : Nat) (e : Int) : Nat :=
  let sign := if negative then Nat.pow 2 (f.width - 1) else 0
  if m < Nat.pow 2 f.fractionBits then sign + m
  else sign + (e - f.minExponent + 1).toNat * Nat.pow 2 f.fractionBits + (m - Nat.pow 2 f.fractionBits)

/-- Split `num / den` at the scale `2^e`: the quotient and remainder of `num / (den · 2^e)`,
with the divisor. -/
def scaled (num den : Nat) (e : Int) : Nat × Nat × Nat :=
  if 0 ≤ e then
    let d := den * Nat.pow 2 e.toNat
    (num / d, num % d, d)
  else
    let n := num * Nat.pow 2 (-e).toNat
    (n / den, n % den, den)

/-- The exponent at which `num / den` has a `precision`-bit integer part, found from the bit
lengths and corrected by at most two steps, and never below the least exponent. -/
def scaleFor (f : BinaryFormat) (num den : Nat) : Int :=
  let guess : Int := (num.log2 : Int) - den.log2 - f.fractionBits
  let fix (e : Int) : Int :=
    let (q, _, _) := scaled num den e
    if Nat.pow 2 f.precision ≤ q then e + 1
    else if q < Nat.pow 2 f.fractionBits then e - 1
    else e
  max f.minExponent (fix (fix guess))

/-- Round `num / den` (with `den > 0`) to the nearest value of the format, a tie to the even
significand: the significand and exponent, or `none` when the result overflows. -/
def roundRatio (f : BinaryFormat) (num den : Nat) : Option (Nat × Int) :=
  if num = 0 then some (0, f.minExponent) else
  let e := f.scaleFor num den
  let (q, r, d) := scaled num den e
  let q := if 2 * r > d || (2 * r = d && q % 2 = 1) then q + 1 else q
  let (q, e) := if q = Nat.pow 2 f.precision then (q / 2, e + 1) else (q, e)
  if e > f.maxExponent then none else some (q, e)

/-- The bits of the nearest value to `±num / den`, infinity on overflow. -/
def bitsOfRatio (f : BinaryFormat) (negative : Bool) (num den : Nat) : Nat :=
  match f.roundRatio num den with
  | some (m, e) => f.encode negative m e
  | none => f.infinityBits negative

end BinaryFormat

def Float.value (x : Float) : BinaryValue := BinaryFormat.double.decode x.toBits.toNat

def Float32.value (x : Float32) : BinaryValue := BinaryFormat.single.decode x.toBits.toNat

/-- The `Float` nearest to `±num / den`. -/
def floatOfRatio (negative : Bool) (num den : Nat) : Float :=
  Float.ofBits (BinaryFormat.double.bitsOfRatio negative num den).toUInt64

def float32OfRatio (negative : Bool) (num den : Nat) : Float32 :=
  Float32.ofBits (BinaryFormat.single.bitsOfRatio negative num den).toUInt32

def floatNaN : Float := Float.ofBits (BinaryFormat.double.nanBits).toUInt64

def floatInfinity (negative : Bool) : Float :=
  Float.ofBits (BinaryFormat.double.infinityBits negative).toUInt64

def float32NaN : Float32 := Float32.ofBits (BinaryFormat.single.nanBits).toUInt32

def float32Infinity (negative : Bool) : Float32 :=
  Float32.ofBits (BinaryFormat.single.infinityBits negative).toUInt32

end KnowledgeDesk.Number
