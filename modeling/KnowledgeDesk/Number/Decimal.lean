import KnowledgeDesk.Number.Binary

/-!
# Decimal texts of binary floats

A finite nonzero binary value is the centre of an interval of reals that round back to it; the
ends belong to it when its significand is even (ties go to even). `shortest` finds the decimal
`c · 10^k` of that interval with the largest `k`, so the fewest significant digits, and of those
the one nearest the value. Two layouts write such digits:

* `positional`: no exponent ever (`0.0000001`, `25000000000`, `3`);
* `scientificWhenFar`: positional near one, `1e-7` or `1.5e300` far from it, and a `.0` kept on
  integral values (`1.0`).

`readFloatLiteral` reads the decimal literals of ordinary float notation (sign, `inf`, `infinity`
and `nan` in any case, digits with an optional point, an optional exponent).
-/

namespace KnowledgeDesk.Number

/-- `10^k` as a natural number for `k ≥ 0`, and `1` otherwise. -/
def pow10 (k : Int) : Nat := Nat.pow 10 k.toNat

/-- The rounding interval of `m · 2^e`, scaled by four: the value is `4m · 2^(e-2)`, the lower
end `(4m - gap) · 2^(e-2)`, the upper end `(4m + 2) · 2^(e-2)`. The gap below is half as wide at
the bottom of a binade above the least one. -/
def lowerGap (f : BinaryFormat) (m : Nat) (e : Int) : Nat :=
  if m = Nat.pow 2 f.fractionBits ∧ e > f.minExponent then 1 else 2

/-- Scale `x · 2^s` against `c · 10^k`: the pair `(x · 2^s⁺ · 10^k⁻, 2^s⁻ · 10^k⁺)`, whose ratio is
`x · 2^s / 10^k`. -/
def against (x : Nat) (s k : Int) : Nat × Nat :=
  (x * Nat.pow 2 s.toNat * pow10 (-k), Nat.pow 2 (-s).toNat * pow10 k)

def ceilDiv (a b : Nat) : Nat := (a + b - 1) / b

/-- The shortest decimal in the rounding interval of `m · 2^e` (`m > 0`): digits `c` and
exponent `k` with `c · 10^k` in the interval and `k` as large as possible; of the candidates at
that `k` the nearest to the value, a tie to the larger. The search starts above the value and
walks down at most `fuel` steps. -/
def shortestWith (f : BinaryFormat) (m : Nat) (e : Int) : Nat → Int → Nat × Int
  | 0, k => (m, k)
  | fuel + 1, k =>
    let s := e - 2
    let inclusive := m % 2 = 0
    let (lowN, d) := against (4 * m - lowerGap f m e) s k
    let (highN, _) := against (4 * m + 2) s k
    let (valN, _) := against (4 * m) s k
    let cLow := if inclusive then ceilDiv lowN d else lowN / d + 1
    let cHigh := if inclusive then highN / d else ceilDiv highN d - 1
    if cLow ≤ cHigh then
      let near := (2 * valN + d) / (2 * d)
      (max cLow (min cHigh near), k)
    else shortestWith f m e fuel (k - 1)

def startExponent (m : Nat) (e : Int) : Int :=
  let bits : Int := (m.log2 : Int) + 1 + e
  Int.fdiv (bits * 30103) 100000 + 1

/-- The shortest decimal `c · 10^k` that reads back as `m · 2^e`. -/
def shortest (f : BinaryFormat) (m : Nat) (e : Int) : Nat × Int :=
  shortestWith f m e 48 (startExponent (4 * m + 2) (e - 2))

def digitsOf (n : Nat) : String := toString n

def zeros (n : Nat) : String := String.ofList (List.replicate n '0')

/-- `c · 10^k` without exponent: `0.000015`, `25000000000`, `0.25`. -/
def positional (c : Nat) (k : Int) : String :=
  let s := digitsOf c
  if 0 ≤ k then s ++ zeros k.toNat
  else
    let point : Int := s.length + k
    if 0 < point then
      String.ofList (s.toList.take point.toNat) ++ "." ++ String.ofList (s.toList.drop point.toNat)
    else "0." ++ zeros (-point).toNat ++ s

/-- `c · 10^k` positionally between `1e-5` and `1e16`, else with an exponent; an integral value
keeps `.0`. -/
def scientificWhenFar (c : Nat) (k : Int) : String :=
  let s := digitsOf c
  let n : Int := s.length
  let point := n + k
  if 0 ≤ k ∧ point ≤ 16 then s ++ zeros k.toNat ++ ".0"
  else if 0 < point ∧ point ≤ 16 then
    String.ofList (s.toList.take point.toNat) ++ "." ++ String.ofList (s.toList.drop point.toNat)
  else if -5 < point ∧ point ≤ 0 then "0." ++ zeros (-point).toNat ++ s
  else if n = 1 then s ++ "e" ++ toString (point - 1)
  else String.ofList (s.toList.take 1) ++ "." ++ String.ofList (s.toList.drop 1) ++ "e" ++
    toString (point - 1)

/-- How non-finite values and the sign of zero are spelled, and which layout holds the digits. -/
structure FloatSpelling where
  nan : String
  infinity : String
  layout : Nat → Int → String
  /-- The text of a zero, without its sign. -/
  zero : String

/-- Positional digits, `NaN`, `inf`, and `0` for zero. -/
def FloatSpelling.plain : FloatSpelling := ⟨"NaN", "inf", positional, "0"⟩

def FloatSpelling.data : FloatSpelling := ⟨"NaN", "inf", scientificWhenFar, "0.0"⟩

def BinaryValue.spell (f : BinaryFormat) (sp : FloatSpelling) : BinaryValue → String
  | .nan => sp.nan
  | .infinity negative => (if negative then "-" else "") ++ sp.infinity
  | .finite negative m e =>
    let sign := if negative then "-" else ""
    if m = 0 then sign ++ sp.zero
    else
      let (c, k) := shortest f m e
      sign ++ sp.layout c k

/-- A `Float` in its shortest positional text: `0.1`, `-0`, `1e300` in full, `NaN`, `inf`. -/
def Float.plainText (x : Float) : String := (Float.value x).spell .double .plain

def Float32.plainText (x : Float32) : String := (Float32.value x).spell .single .plain

/-- A `Float` as data: shortest digits, `.0` on integral values, exponent far from one. -/
def Float.dataText (x : Float) : String := (Float.value x).spell .double .data

def Float32.dataText (x : Float32) : String := (Float32.value x).spell .single .data

/-- The shortest decimal digits and exponent of a finite nonzero `Float32`, for writing it as a
`Float` of the same decimal value. -/
def Float32.shortestDecimal (x : Float32) : Option (Bool × Nat × Int) :=
  match Float32.value x with
  | .finite negative m e => if m = 0 then some (negative, 0, 0) else
    let (c, k) := shortest .single m e
    some (negative, c, k)
  | _ => none

/-! ## Reading decimal literals -/

/-- A decimal literal read: NaN, an infinity, or `±digits · 10^exponent`. -/
inductive Literal where
  | nan
  | infinity (negative : Bool)
  | finite (negative : Bool) (digits : Nat) (exponent : Int)
  deriving Repr, DecidableEq

/-- Why a text is no float literal. -/
inductive LiteralError where
  /-- The text is empty. -/
  | empty
  /-- Anything else. -/
  | invalid
  deriving Repr, DecidableEq

def LiteralError.message : LiteralError → String
  | .empty => "cannot parse float from empty string"
  | .invalid => "invalid float literal"

def digitValue (c : Char) : Nat := c.toNat - '0'.toNat

/-- Read digits onto a number: the number, how many digits were read, and the rest. -/
def readDigits (acc count : Nat) : List Char → Nat × Nat × List Char
  | c :: rest => if c.isDigit then readDigits (acc * 10 + digitValue c) (count + 1) rest
      else (acc, count, c :: rest)
  | [] => (acc, count, [])

def lowerAscii (cs : List Char) : List Char := cs.map Char.toLower

def splitSign : List Char → Bool × List Char
  | '-' :: rest => (true, rest)
  | '+' :: rest => (false, rest)
  | cs => (false, cs)

/-- Read a float literal: an optional sign, then `inf`, `infinity` or `nan` in any case, or
digits with an optional point (at least one digit in all) and an optional exponent marker `e`
or `E` with an optional sign and at least one digit. Nothing may follow. -/
def readFloatLiteral (cs : List Char) : Except LiteralError Literal :=
  if cs.isEmpty then .error .empty else
  let (negative, body) := splitSign cs
  let low := lowerAscii body
  if low = "inf".toList || low = "infinity".toList then .ok (.infinity negative)
  else if low = "nan".toList then .ok .nan
  else
    let (intPart, intCount, rest) := readDigits 0 0 body
    let (fracPart, fracCount, rest) := match rest with
      | '.' :: more => readDigits intPart 0 more
      | _ => (intPart, 0, rest)
    if intCount + fracCount = 0 then .error .invalid else
    let exponent : Except LiteralError Int := match rest with
      | [] => .ok 0
      | c :: more =>
        if c = 'e' || c = 'E' then
          let (expNeg, digits) := match more with
            | '-' :: ds => (true, ds)
            | '+' :: ds => (false, ds)
            | _ => (false, more)
          let (v, count, tail) := readDigits 0 0 digits
          if count = 0 || !tail.isEmpty then .error .invalid
          else .ok (if expNeg then -(v : Int) else v)
        else .error .invalid
    exponent.map fun x => .finite negative fracPart (x - fracCount)

/-- The ratio `num / den` of `digits · 10^exponent`, with the exponent cut where the result is
surely zero or infinite in either format: `none` for an overflow. -/
def ratioOf (digits : Nat) (exponent : Int) : Option (Nat × Nat) :=
  let size : Int := (digitsOf digits).length
  if digits = 0 then some (0, 1)
  else if exponent + size > 400 then none
  else if exponent + size < -400 then some (0, 1)
  else if 0 ≤ exponent then some (digits * pow10 exponent, 1)
  else some (digits, pow10 (-exponent))

/-- The `Float` a literal denotes, rounded to nearest. -/
def Literal.toFloat : Literal → Float
  | .nan => floatNaN
  | .infinity negative => floatInfinity negative
  | .finite negative digits exponent =>
    match ratioOf digits exponent with
    | some (n, d) => floatOfRatio negative n d
    | none => floatInfinity negative

/-- The `Float32` a literal denotes, rounded to nearest from the decimal itself. -/
def Literal.toFloat32 : Literal → Float32
  | .nan => float32NaN
  | .infinity negative => float32Infinity negative
  | .finite negative digits exponent =>
    match ratioOf digits exponent with
    | some (n, d) => float32OfRatio negative n d
    | none => float32Infinity negative

def parseFloat (s : String) : Except LiteralError Float :=
  (readFloatLiteral s.toList).map Literal.toFloat

def parseFloat32 (s : String) : Except LiteralError Float32 :=
  (readFloatLiteral s.toList).map Literal.toFloat32

end KnowledgeDesk.Number
