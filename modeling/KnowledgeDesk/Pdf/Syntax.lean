import KnowledgeDesk.Pdf.Object
import KnowledgeDesk.Number.Decimal

/-!
# Reading PDF objects from bytes

Each reader takes the bytes and a position and gives the value read with the position after it,
or nothing when the bytes there are not of its kind.

* Blanks are NUL, tab, line feed, form feed, carriage return and space; a comment runs from `%`
  to a line break, which it needs. `space` skips both.
* Numbers: a *real* has a point (`1.`, `.5`, `-3.25`) and is read in single precision; an
  *integer* has an optional sign and digits and fits in 64 bits.
* Names start with `/`; `#` and two hex digits stand for a byte.
* Literal strings are in balanced parentheses, at most a hundred deep, with backslash escapes
  (`\n`, `\r`, `\t`, `\b`, `\f`, up to three octal digits, a line break that vanishes, any other
  byte for itself). Hex strings are pairs of hex digits between `<` and `>`, blanks between pairs.
* Arrays and dictionaries nest any objects; in the file's body an object may also be a
  reference `n g R`.

Every loop carries fuel bounded by the input's length, so the readers are total.
-/

namespace KnowledgeDesk.Pdf

open KnowledgeDesk.Number

def isWhite (b : UInt8) : Bool :=
  b == 0x20 || b == 0x09 || b == 0x0A || b == 0x0D || b == 0x00 || b == 0x0C

/-- A delimiter byte: `( ) < > [ ] { } / %`. -/
def isDelimiter (b : UInt8) : Bool :=
  b == 0x28 || b == 0x29 || b == 0x3C || b == 0x3E || b == 0x5B || b == 0x5D || b == 0x7B ||
    b == 0x7D || b == 0x2F || b == 0x25

/-- A byte that is neither blank nor a delimiter. -/
def isRegular (b : UInt8) : Bool := !isWhite b && !isDelimiter b

def hasAt (s : ByteArray) (p : Nat) (word : String) : Bool :=
  word.toUTF8.toList.zipIdx.all fun (w, i) => s[p + i]? == some w

def latin1 (s : ByteArray) (a b : Nat) : String :=
  String.ofList ((s.extract a b).toList.map fun x => Char.ofNat x.toNat)

/-- The position after a line break at `p`: `\r\n`, `\n` or `\r`. -/
def eolEnd (s : ByteArray) (p : Nat) : Option Nat :=
  match s[p]? with
  | some 0x0D => if s[p + 1]? == some 0x0A then some (p + 2) else some (p + 1)
  | some 0x0A => some (p + 1)
  | _ => none

/-- The first position from `p` on that holds a line-break byte or is past the end. -/
def lineEnd (s : ByteArray) : Nat → Nat → Nat
  | 0, p => p
  | fuel + 1, p =>
    match s[p]? with
    | some 0x0D | some 0x0A | none => p
    | some _ => lineEnd s fuel (p + 1)

/-- The position after a comment at `p`, which must end with a line break. -/
def commentEnd (s : ByteArray) (p : Nat) : Option Nat :=
  if s[p]? == some 0x25 then eolEnd s (lineEnd s s.size (p + 1)) else none

/-- Skip blanks and comments from `p`. -/
def skipSpace (s : ByteArray) : Nat → Nat → Nat
  | 0, p => p
  | fuel + 1, p =>
    match s[p]? with
    | some b =>
      if isWhite b then skipSpace s fuel (p + 1)
      else match commentEnd s p with
        | some q => skipSpace s fuel q
        | none => p
    | none => p

def space (s : ByteArray) (p : Nat) : Nat := skipSpace s (s.size + 1) p

def skipWhite (s : ByteArray) : Nat → Nat → Nat
  | 0, p => p
  | fuel + 1, p =>
    match s[p]? with
    | some b => if isWhite b then skipWhite s fuel (p + 1) else p
    | none => p

def digitsEnd (s : ByteArray) : Nat → Nat → Nat
  | 0, p => p
  | fuel + 1, p =>
    match s[p]? with
    | some b => if 0x30 ≤ b && b ≤ 0x39 then digitsEnd s fuel (p + 1) else p
    | none => p

def digitsValue (text : String) : Nat :=
  text.toList.foldl (fun acc c => acc * 10 + (c.toNat - 48)) 0

/-- An unsigned integer at `p` below `bound`. -/
def unsignedAt (s : ByteArray) (p bound : Nat) : Option (Nat × Nat) :=
  let e := digitsEnd s s.size p
  if e = p then none
  else
    let v := digitsValue (latin1 s p e)
    if v < bound then some (v, e) else none

def signEnd (s : ByteArray) (p : Nat) : Nat :=
  match s[p]? with
  | some 0x2B | some 0x2D => p + 1
  | _ => p

/-- An integer at `p`: an optional sign and digits, in 64-bit range. -/
def integerAt (s : ByteArray) (p : Nat) : Option (Int × Nat) :=
  let q := signEnd s p
  let e := digitsEnd s s.size q
  if e = q then none
  else
    let magnitude : Int := digitsValue (latin1 s q e)
    let v := if s[p]? == some 0x2D then -magnitude else magnitude
    if -(Nat.pow 2 63 : Int) ≤ v && v < (Nat.pow 2 63 : Int) then some (v, e) else none

/-- A real at `p`: an optional sign, then digits and a point with optional digits after it, or a
point and digits. It is read in single precision. -/
def realAt (s : ByteArray) (p : Nat) : Option (Float × Nat) :=
  let q := signEnd s p
  let e := digitsEnd s s.size q
  let stop :=
    if e > q then
      if s[e]? == some 0x2E then some (digitsEnd s s.size (e + 1)) else none
    else if s[q]? == some 0x2E then
      let f := digitsEnd s s.size (q + 1)
      if f > q + 1 then some f else none
    else none
  stop.bind fun stop =>
    match parseFloat32 (latin1 s p stop) with
    | .ok x => some (x.toFloat, stop)
    | .error _ => none

def hexValue (b : UInt8) : Option Nat :=
  if 0x30 ≤ b && b ≤ 0x39 then some (b.toNat - 0x30)
  else if 0x41 ≤ b && b ≤ 0x46 then some (b.toNat - 0x37)
  else if 0x61 ≤ b && b ≤ 0x66 then some (b.toNat - 0x57)
  else none

def hexPair (s : ByteArray) (p : Nat) : Option UInt8 := do
  let hi ← s[p]?.bind hexValue
  let lo ← s[p + 1]?.bind hexValue
  pure (hi * 16 + lo).toUInt8

/-- The bytes of a name from `p` (after its `/`) and the position after them. -/
def nameBytes (s : ByteArray) : Nat → Nat → List UInt8 → List UInt8 × Nat
  | 0, p, acc => (acc.reverse, p)
  | fuel + 1, p, acc =>
    match s[p]? with
    | some 0x23 =>
      match hexPair s (p + 1) with
      | some v => nameBytes s fuel (p + 3) (v :: acc)
      | none => (acc.reverse, p)
    | some b => if isRegular b then nameBytes s fuel (p + 1) (b :: acc) else (acc.reverse, p)
    | none => (acc.reverse, p)

def nameAt (s : ByteArray) (p : Nat) : Option (String × Nat) :=
  if s[p]? == some 0x2F then
    let (bytes, q) := nameBytes s s.size (p + 1) []
    some (String.ofList (bytes.map fun b => Char.ofNat b.toNat), q)
  else none

def octalValue (b : UInt8) : Option Nat :=
  if 0x30 ≤ b && b ≤ 0x37 then some (b.toNat - 0x30) else none

def octalAt (s : ByteArray) (p : Nat) : Option (Nat × Nat) :=
  match s[p]?.bind octalValue with
  | none => none
  | some a =>
    match s[p + 1]?.bind octalValue with
    | none => some (a, p + 1)
    | some b =>
      match s[p + 2]?.bind octalValue with
      | none => some (a * 8 + b, p + 2)
      | some c => some (a * 64 + b * 8 + c, p + 3)

/-- The bytes an escape stands for, at `p` just after its backslash. Octal digits worth more
than a byte do not count as an escape of digits; the first digit then stands for itself. -/
def escapeAt (s : ByteArray) (p : Nat) : Option (List UInt8 × Nat) :=
  match octalAt s p with
  | some (v, q) => if v < 256 then some ([v.toUInt8], q) else some (s[p]?.toList, p + 1)
  | none =>
    match eolEnd s p with
    | some q => some ([], q)
    | none =>
      match s[p]? with
      | some 0x6E => some ([0x0A], p + 1)
      | some 0x72 => some ([0x0D], p + 1)
      | some 0x74 => some ([0x09], p + 1)
      | some 0x62 => some ([0x08], p + 1)
      | some 0x66 => some ([0x0C], p + 1)
      | some b => some ([b], p + 1)
      | none => none

/-- The inside of a literal string from `p` up to its closing parenthesis, nested strings at most
`depth` deep: the bytes (reversed onto `acc`) and the position after the parenthesis. -/
def literalBody (s : ByteArray) : Nat → Nat → Nat → List UInt8 → Option (List UInt8 × Nat)
  | 0, _, _, _ => none
  | fuel + 1, depth, p, acc =>
    match s[p]? with
    | none => none
    | some 0x29 => some (acc.reverse, p + 1)
    | some 0x28 =>
      if depth = 0 then none
      else
        match literalBody s fuel (depth - 1) (p + 1) [] with
        | some (inner, q) => literalBody s fuel depth q (0x29 :: inner.reverse ++ 0x28 :: acc)
        | none => none
    | some 0x5C =>
      match escapeAt s (p + 1) with
      | some (bs, q) => literalBody s fuel depth q (bs.reverse ++ acc)
      | none => none
    | some 0x0D =>
      if s[p + 1]? == some 0x0A then literalBody s fuel depth (p + 2) (0x0A :: 0x0D :: acc)
      else literalBody s fuel depth (p + 1) (0x0D :: acc)
    | some b => literalBody s fuel depth (p + 1) (b :: acc)

def literalAt (s : ByteArray) (p : Nat) : Option (List UInt8 × Nat) :=
  if s[p]? == some 0x28 then literalBody s (s.size + 1) 100 (p + 1) [] else none

/-- The pairs of a hex string from `p`, blanks allowed before each pair, up to `>`. -/
def hexBody (s : ByteArray) : Nat → Nat → List UInt8 → Option (List UInt8 × Nat)
  | 0, _, _ => none
  | fuel + 1, p, acc =>
    let q := skipWhite s s.size p
    match hexPair s q with
    | some v => hexBody s fuel (q + 2) (v :: acc)
    | none => if s[q]? == some 0x3E then some (acc.reverse, q + 1) else none

def hexStringAt (s : ByteArray) (p : Nat) : Option (List UInt8 × Nat) :=
  if s[p]? == some 0x3C then hexBody s (s.size + 1) (p + 1) [] else none

def referenceAt (s : ByteArray) (p : Nat) : Option (Nat × Nat × Nat) := do
  let (n, q) ← unsignedAt s p (Nat.pow 2 32)
  let (g, r) ← unsignedAt s (space s q) (Nat.pow 2 16)
  let r := space s r
  if s[r]? == some 0x52 then pure (n, g, r + 1) else none

mutual

/-- An object at `p`; references are read when `refs` holds. -/
def objectAt (refs : Bool) (s : ByteArray) : Nat → Nat → Option (Obj × Nat)
  | 0, _ => none
  | fuel + 1, p =>
    if hasAt s p "null" then some (.null, p + 4)
    else if hasAt s p "true" then some (.bool true, p + 4)
    else if hasAt s p "false" then some (.bool false, p + 5)
    else
      match (if refs then referenceAt s p else none) with
      | some (n, g, q) => some (.ref n g, q)
      | none =>
      match realAt s p with
      | some (x, q) => some (.real x, q)
      | none =>
      match integerAt s p with
      | some (n, q) => some (.int n, q)
      | none =>
      match nameAt s p with
      | some (n, q) => some (.name n, q)
      | none =>
      match literalAt s p with
      | some (bs, q) => some (.str bs, q)
      | none =>
      match hexStringAt s p with
      | some (bs, q) => some (.str bs, q)
      | none =>
        if s[p]? == some 0x5B then
          (arrayItems refs s fuel (space s (p + 1)) []).map fun (xs, q) => (.array xs, q)
        else if hasAt s p "<<" then
          (dictEntries refs s fuel (space s (p + 2)) []).map fun (es, q) => (.dict es, q)
        else none

def arrayItems (refs : Bool) (s : ByteArray) : Nat → Nat → List Obj → Option (List Obj × Nat)
  | 0, _, _ => none
  | fuel + 1, p, acc =>
    if s[p]? == some 0x5D then some (acc.reverse, p + 1)
    else
      match objectAt refs s fuel p with
      | some (o, q) => arrayItems refs s fuel (space s q) (o :: acc)
      | none => none

def dictEntries (refs : Bool) (s : ByteArray) :
    Nat → Nat → List (String × Obj) → Option (List (String × Obj) × Nat)
  | 0, _, _ => none
  | fuel + 1, p, acc =>
    if hasAt s p ">>" then some (acc.reverse, p + 2)
    else
      match nameAt s p with
      | none => none
      | some (k, q) =>
        match objectAt refs s fuel (space s q) with
        | some (o, r) => dictEntries refs s fuel (space s r) ((k, o) :: acc)
        | none => none

end

def bodyObjectAt (s : ByteArray) (p : Nat) : Option (Obj × Nat) :=
  objectAt true s (s.size + 1) p

/-- An operand at `p` in a content stream, where there are no references. -/
def operandAt (s : ByteArray) (p : Nat) : Option (Obj × Nat) :=
  objectAt false s (s.size + 1) p

end KnowledgeDesk.Pdf
