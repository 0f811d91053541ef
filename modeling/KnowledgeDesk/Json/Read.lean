import KnowledgeDesk.Json.Codec
import KnowledgeDesk.Text.Utf8
import KnowledgeDesk.Time.DateTime

/-!
# Reading JSON text against a shape

A reader walks the UTF-8 bytes of a JSON text once, guided by a `Shape`: what the reading side
expects (any value, a string, a 32-bit integer, a record with named fields, …). It answers the
value, laid out as the shape says, or a `ReadError`.

Errors carry a line and column. The column counts the bytes read on the current line: a
mistake found while *looking* at a byte points at that byte, one found after *taking* a value
points at the value's last byte. An error about the data (a wrong type, a missing field) is made
without a place and gets the place of the enclosing value's reader when it reaches it, after that
reader has closed its brackets.

Numbers follow the decimal reading that this format prescribes for 64-bit floats: up to 19
significant digits are kept exactly, further digits are dropped, and the result is the digits as
a float scaled by a power of ten (multiplied for positive exponents, divided for negative ones);
an overflow to infinity is an error.
-/

namespace KnowledgeDesk.Json

/-- The text of a string as the message of a wrong value shows it: quoted, with quotes,
backslashes and control characters escaped. -/
def debugQuote (s : String) : String :=
  let esc (c : Char) : List Char :=
    match c with
    | '"' => ['\\', '"']
    | '\\' => ['\\', '\\']
    | '\n' => ['\\', 'n']
    | '\r' => ['\\', 'r']
    | '\t' => ['\\', 't']
    | c =>
      if c.toNat = 0 then ['\\', '0']
      else if c.toNat < 0x20 || c.toNat = 0x7F then
        let h := (Nat.toDigits 16 c.toNat)
        ['\\', 'u', Char.ofNat 123] ++ h ++ [Char.ofNat 125]
      else [c]
  String.ofList ('"' :: (s.toList.flatMap esc ++ ['"']))

/-- The words for a read value that does not fit. -/
inductive Unexpected where
  | null
  | bool (b : Bool)
  | integer (i : Int)
  | float (x : Float)
  | string (s : String)
  | sequence
  | map

def Unexpected.text : Unexpected → String
  | .null => "null"
  | .bool b => s!"boolean `{b}`"
  | .integer i => s!"integer `{i}`"
  | .float x => "floating point `" ++ Number.Float.dataText x ++ "`"
  | .string s => "string " ++ debugQuote s
  | .sequence => "sequence"
  | .map => "map"

def invalidType (u : Unexpected) (expected : String) : ReadError :=
  { code := .message s!"invalid type: {u.text}, expected {expected}" }

def invalidValue (u : Unexpected) (expected : String) : ReadError :=
  { code := .message s!"invalid value: {u.text}, expected {expected}" }

/-- A list of names as a message shows it: `a`, `a` or `b`, one of `a`, `b`, `c`. -/
def oneOf (names : List String) : String :=
  let q := names.map (fun n => "`" ++ n ++ "`")
  match q with
  | [] => "there are no variants"
  | [a] => "expected " ++ a
  | [a, b] => "expected " ++ a ++ " or " ++ b
  | _ => "expected one of " ++ ", ".intercalate q

/-! ## The reader -/

/-- The reader's state: the position of the next byte. -/
abbrev Reader := ReaderT ByteArray (ExceptT ReadError (StateM Nat))

def byteAt (bs : ByteArray) (i : Nat) : Option UInt8 := if h : i < bs.size then some bs[i] else none

def peek : Reader (Option UInt8) := do
  let bs ← read
  let i ← get
  pure (byteAt bs i)

def eat : Reader Unit := modify (· + 1)

def next : Reader (Option UInt8) := do
  let b ← peek
  if b.isSome then eat
  pure b

/-- Line and column after the first `i` bytes: the column counts bytes since the last line feed. -/
def placeOf (bs : ByteArray) (i : Nat) : Nat × Nat :=
  (bs.toList.take i).foldl (fun (l, c) (b : UInt8) => if b = 10 then (l + 1, 0) else (l, c + 1)) (1, 0)

/-- An error placed after the bytes taken. -/
def failTaken {α} (code : ReadCode) : Reader α := do
  let bs ← read
  let i ← get
  throw { code, place := some (placeOf bs i) }

/-- An error placed at the byte looked at. -/
def failPeeked {α} (code : ReadCode) : Reader α := do
  let bs ← read
  let i ← get
  throw { code, place := some (placeOf bs (min bs.size (i + 1))) }

/-- Give an error without a place the place after the bytes taken so far. -/
def fixPlace (e : ReadError) : Reader ReadError := do
  match e.place with
  | some _ => pure e
  | none =>
    let bs ← read
    let i ← get
    pure { e with place := some (placeOf bs i) }

/-- Skip blanks (space, tab, line feed, carriage return); answer the next byte. -/
def skipBlanks (fuel : Nat) : Reader (Option UInt8) := do
  match fuel with
  | 0 => peek
  | fuel + 1 =>
    match ← peek with
    | some 32 | some 9 | some 10 | some 13 => eat; skipBlanks fuel
    | b => pure b

/-- Skip blanks, as many as there are. -/
def blanks : Reader (Option UInt8) := do
  let bs ← read
  skipBlanks bs.size

/-- Take the rest of a keyword, byte by byte. -/
def keywordRest : List UInt8 → Reader Unit
  | [] => pure ()
  | c :: rest => do
    match ← next with
    | some b => if b = c then keywordRest rest else failTaken .expectedSomeIdent
    | none => failTaken .eofWhileParsingValue

def isDigitByte (b : UInt8) : Bool := 48 ≤ b && b ≤ 57

def peekOrNul : Reader UInt8 := do pure ((← peek).getD 0)

/-- The powers of ten `1e0` … `1e308`, each the `Float` nearest to it. -/
def pow10Floats : Array Float := (List.range 309).toArray.map fun k => floatOfNat (Nat.pow 10 k)

/-- Scale kept digits by a power of ten as the number grammar prescribes. -/
def scaleDigits (positive : Bool) (significand : Nat) (exponent : Int) (fuel : Nat) :
    Reader Float := do
  let rec go (f : Float) (exponent : Int) : Nat → Reader Float
    | 0 => pure f
    | fuel + 1 =>
      let k := exponent.natAbs
      if h : k < pow10Floats.size then
        let p := pow10Floats[k]
        if exponent ≥ 0 then
          let g := f * p
          if Number.Float.value g matches .infinity _ then failTaken .numberOutOfRange
          else pure g
        else pure (f / p)
      else if f == 0 then pure f
      else if exponent ≥ 0 then failTaken .numberOutOfRange
      else go (f / 1e308) (exponent + 308) fuel
  let f ← go (floatOfNat significand) exponent fuel
  pure (if positive then f else -f)

/-- Digits scaled by a power of ten as the number grammar prescribes, with no failure: the
significand as the nearest double, multiplied or divided by the nearest double of `10^|exponent|`,
stepping by `1e308` while the exponent is beyond the table. -/
def scaledValue (significand : Nat) (exponent : Int) : Nat → Float → Float
  | 0, f => f
  | fuel + 1, f =>
    let k := exponent.natAbs
    if h : k < pow10Floats.size then
      if exponent ≥ 0 then f * pow10Floats[k] else f / pow10Floats[k]
    else if f == 0 || exponent ≥ 0 then f
    else scaledValue significand (exponent + 308) fuel (f / 1e308)

/-- The double the number reader gives back for the shortest text of a double. The shortest
digits are exact, but a significand of more than 53 bits and a scaling by an inexact power of
ten each round, so the result may differ from the double in its last place. -/
def rereadFloat (x : Float) : Float :=
  match Number.Float.value x with
  | .finite negative m e =>
    if m = 0 then x
    else
      let (c, k) := Number.shortest .double m e
      let f := scaledValue c k 12 (floatOfNat c)
      if negative then -f else f
  | _ => x

def u64Max : Nat := 18446744073709551615

def skipDigits : Nat → Reader Unit
  | 0 => pure ()
  | fuel + 1 => do
    if isDigitByte (← peekOrNul) then eat; skipDigits fuel else pure ()

def readExponent (positive : Bool) (significand : Nat) (start : Int) : Reader Float := do
  eat
  let positiveExp ← match ← peekOrNul with
    | 43 => do eat; pure true
    | 45 => do eat; pure false
    | _ => pure true
  match ← next with
  | none => failTaken .eofWhileParsingValue
  | some c =>
    if !isDigitByte c then failTaken .invalidNumber else
    let bs ← read
    let rec digits (e : Nat) : Nat → Reader (Option Nat)
      | 0 => pure (some e)
      | fuel + 1 => do
        let c ← peekOrNul
        if isDigitByte c then
          eat
          let e' := e * 10 + (c.toNat - 48)
          if e' > 2147483647 then pure none else digits e' fuel
        else pure (some e)
    match ← digits (c.toNat - 48) bs.size with
    | some e =>
      let final := if positiveExp then start + e else start - e
      scaleDigits positive significand final 12
    | none =>
      if significand ≠ 0 && positiveExp then failTaken .numberOutOfRange
      else
        skipDigits bs.size
        pure (if positive then 0.0 else -0.0)

def readFraction (positive : Bool) (significand : Nat) (before : Int) : Reader Float := do
  eat
  let bs ← read
  let rec digits (s : Nat) (after : Int) : Nat → Reader (Nat × Int × Bool)
    | 0 => pure (s, after, false)
    | fuel + 1 => do
      let c ← peekOrNul
      if isDigitByte c then
        let s' := s * 10 + (c.toNat - 48)
        if s' > u64Max then pure (s, after, true)
        else eat; digits s' (after - 1) fuel
      else pure (s, after, false)
  let (s, after, overflow) ← digits significand 0 bs.size
  if overflow then
    skipDigits bs.size
    match ← peekOrNul with
    | 101 | 69 => readExponent positive s (before + after)
    | _ => scaleDigits positive s (before + after) 12
  else
  if after = 0 then
    match ← peek with
    | some _ => failPeeked .invalidNumber
    | none => failPeeked .eofWhileParsingValue
  else
    match ← peekOrNul with
    | 101 | 69 => readExponent positive s (before + after)
    | _ => scaleDigits positive s (before + after) 12

/-- What follows the integer digits: a fraction, an exponent, or the end of the number. -/
def readNumberTail (positive : Bool) (significand : Nat) : Reader NumberRead := do
  match ← peekOrNul with
  | 46 => pure (.float (← readFraction positive significand 0))
  | 101 | 69 => pure (.float (← readExponent positive significand 0))
  | _ =>
    if positive then pure (.unsigned significand)
    else if significand = 0 then pure (.float (-0.0))
    else if significand ≤ 9223372036854775808 then pure (.signed (-(significand : Int)))
    else pure (.float (-(floatOfNat significand)))

/-- Integer digits beyond the 64-bit significand: counted, not kept. -/
def readLongInteger (positive : Bool) (significand : Nat) : Reader NumberRead := do
  let bs ← read
  let rec go (exponent : Int) : Nat → Reader NumberRead
    | 0 => pure (.float 0)
    | fuel + 1 => do
      match ← peekOrNul with
      | 46 => pure (.float (← readFraction positive significand exponent))
      | 101 | 69 => pure (.float (← readExponent positive significand exponent))
      | c =>
        if isDigitByte c then eat; go (exponent + 1) fuel
        else pure (.float (← scaleDigits positive significand exponent 12))
  go 0 (bs.size + 1)

def readNumber (positive : Bool) : Reader NumberRead := do
  match ← next with
  | none => failTaken .eofWhileParsingValue
  | some 48 =>
    if isDigitByte (← peekOrNul) then failPeeked .invalidNumber
    else readNumberTail positive 0
  | some c =>
    if !isDigitByte c then failTaken .invalidNumber else
    let bs ← read
    let rec go (s : Nat) : Nat → Reader NumberRead
      | 0 => pure (.unsigned s)
      | fuel + 1 => do
        let c ← peekOrNul
        if isDigitByte c then
          let s' := s * 10 + (c.toNat - 48)
          if s' > u64Max then readLongInteger positive s
          else eat; go s' fuel
        else readNumberTail positive s
    go (c.toNat - 48) bs.size

def hexValue (b : UInt8) : Option Nat :=
  if 48 ≤ b && b ≤ 57 then some (b.toNat - 48)
  else if 97 ≤ b && b ≤ 102 then some (b.toNat - 87)
  else if 65 ≤ b && b ≤ 70 then some (b.toNat - 55)
  else none

def readHex4 : Reader Nat := do
  let bs ← read
  let i ← get
  if i + 4 ≤ bs.size then
    set (i + 4)
    let ds := [bs.get! i, bs.get! (i + 1), bs.get! (i + 2), bs.get! (i + 3)].map hexValue
    match ds with
    | [some a, some b, some c, some d] => pure (((a * 16 + b) * 16 + c) * 16 + d)
    | _ => failTaken .invalidEscape
  else
    set bs.size
    failTaken .eofWhileParsingString

def codePointBytes (n : Nat) : List UInt8 := Text.utf8Bytes (String.singleton (Char.ofNat n))

/-- The bytes of an escape, after its backslash. -/
def readEscape : Reader (List UInt8) := do
  match ← next with
  | none => failTaken .eofWhileParsingString
  | some 34 => pure [34]
  | some 92 => pure [92]
  | some 47 => pure [47]
  | some 98 => pure [8]
  | some 102 => pure [12]
  | some 110 => pure [10]
  | some 114 => pure [13]
  | some 116 => pure [9]
  | some 117 =>
    let n ← readHex4
    if 0xDC00 ≤ n && n ≤ 0xDFFF then failTaken .loneLeadingSurrogateInHexEscape
    else if n < 0xD800 || n > 0xDBFF then pure (codePointBytes n)
    else
      match ← peek with
      | none => failPeeked .eofWhileParsingString
      | some 92 =>
        eat
        match ← peek with
        | none => failPeeked .eofWhileParsingString
        | some 117 =>
          eat
          let n2 ← readHex4
          if n2 < 0xDC00 || n2 > 0xDFFF then failTaken .loneLeadingSurrogateInHexEscape
          else pure (codePointBytes ((n - 0xD800) * 1024 + (n2 - 0xDC00) + 0x10000))
        | some _ => do eat; failTaken .unexpectedEndOfHexEscape
      | some _ => do eat; failTaken .unexpectedEndOfHexEscape
  | some _ => failTaken .invalidEscape

/-- The body of a string, after its opening quote. -/
def readStringBody : Reader String := do
  let bs ← read
  let rec go (acc : Array UInt8) : Nat → Reader String
    | 0 => failTaken .eofWhileParsingString
    | fuel + 1 => do
      match ← peek with
      | none => failTaken .eofWhileParsingString
      | some 34 =>
        eat
        match Text.stringOfBytes? acc.toList with
        | some s => pure s
        | none => failTaken .invalidUnicodeCodePoint
      | some 92 =>
        eat
        let more ← readEscape
        go (acc ++ more.toArray) fuel
      | some b =>
        if b < 0x20 then do eat; failTaken .controlCharacterWhileParsingString
        else do eat; go (acc.push b) fuel
  go #[] (bs.size + 1)

/-! ## Skipping a value

A value nobody reads (an unknown field) is only checked. The checks are looser than reading: a
number is not converted, so it is never out of range, and a number cut short is an invalid
number rather than an early end; an escape is checked for its form only; a control character is
reported before it is taken. Arrays and objects nest without limit.
-/

def skipEscape : Reader Unit := do
  match ← next with
  | none => failTaken .eofWhileParsingString
  | some c =>
    if c = 34 || c = 92 || c = 47 || c = 98 || c = 102 || c = 110 || c = 114 || c = 116 then
      pure ()
    else if c = 117 then do let _ ← readHex4; pure ()
    else failTaken .invalidEscape

def skipStringBody : Reader Unit := do
  let bs ← read
  let rec go : Nat → Reader Unit
    | 0 => failTaken .eofWhileParsingString
    | fuel + 1 => do
      match ← peek with
      | none => failTaken .eofWhileParsingString
      | some 34 => eat
      | some 92 => do eat; skipEscape; go fuel
      | some b => if b < 0x20 then failTaken .controlCharacterWhileParsingString else do eat; go fuel
  go (bs.size + 1)

def skipExponent : Reader Unit := do
  eat
  let c ← peekOrNul
  if c = 43 || c = 45 then eat
  match ← next with
  | some c => if isDigitByte c then do let bs ← read; skipDigits bs.size else failTaken .invalidNumber
  | none => failTaken .invalidNumber

def skipFraction : Reader Unit := do
  eat
  let start ← get
  let bs ← read
  skipDigits bs.size
  if (← get) = start then failPeeked .invalidNumber
  else
    let c ← peekOrNul
    if c = 101 || c = 69 then skipExponent

def skipNumber : Reader Unit := do
  let bs ← read
  match ← next with
  | some 48 => if isDigitByte (← peekOrNul) then failPeeked .invalidNumber
  | some c => if isDigitByte c then skipDigits bs.size else failTaken .invalidNumber
  | none => failTaken .invalidNumber
  let c ← peekOrNul
  if c = 46 then skipFraction
  else if c = 101 || c = 69 then skipExponent

mutual
/-- Skip a value inside the open brackets `stack` (innermost first). -/
def skipFrom (fuel : Nat) (stack : List UInt8) : Reader Unit := do
  match fuel with
  | 0 => failTaken .recursionLimitExceeded
  | fuel + 1 =>
  let some b ← blanks | failPeeked .eofWhileParsingValue
  if b = 91 || b = 123 then do eat; skipAfter fuel b false stack
  else
    if b = 110 then do eat; keywordRest [117, 108, 108]
    else if b = 116 then do eat; keywordRest [114, 117, 101]
    else if b = 102 then do eat; keywordRest [97, 108, 115, 101]
    else if b = 45 then do eat; skipNumber
    else if isDigitByte b then skipNumber
    else if b = 34 then do eat; skipStringBody
    else failPeeked .expectedSomeValue
    match stack with
    | [] => pure ()
    | f :: rest => skipAfter fuel f true rest

/-- After an item of the bracket `frame` (or right after it opened): close it, or go on to the
next item. -/
def skipAfter (fuel : Nat) (frame : UInt8) (afterItem : Bool) (stack : List UInt8) : Reader Unit := do
  match fuel with
  | 0 => failTaken .recursionLimitExceeded
  | fuel + 1 =>
  let isList := frame = 91
  match ← blanks with
  | none => failPeeked (if isList then .eofWhileParsingList else .eofWhileParsingObject)
  | some b =>
    if b = 44 && afterItem then do eat; skipItem fuel frame stack
    else if (b = 93 && isList) || (b = 125 && !isList) then do
      eat
      match stack with
      | [] => pure ()
      | f :: rest => skipAfter fuel f true rest
    else if afterItem then
      failPeeked (if isList then .expectedListCommaOrEnd else .expectedObjectCommaOrEnd)
    else skipItem fuel frame stack

/-- Skip an item of the bracket `frame`: for an object, its key and colon first. -/
def skipItem (fuel : Nat) (frame : UInt8) (stack : List UInt8) : Reader Unit := do
  match fuel with
  | 0 => failTaken .recursionLimitExceeded
  | fuel + 1 =>
  if frame = 123 then
    match ← blanks with
    | some 34 => eat
    | some _ => failPeeked .keyMustBeAString
    | none => failPeeked .eofWhileParsingObject
    skipStringBody
    match ← blanks with
    | some 58 => eat
    | some _ => failPeeked .expectedColon
    | none => failPeeked .eofWhileParsingObject
  skipFrom fuel (frame :: stack)
end

def skipValue : Reader Unit := do
  let bs ← read
  skipFrom (3 * bs.size + 10) []

/-! ## Reading against a shape -/

/-- The value of a number read where any value fits. -/
def NumberRead.toJson : NumberRead → Json
  | .unsigned n => .int n
  | .signed i => .int i
  | .float x => .float x

def NumberRead.unexpected : NumberRead → Unexpected
  | .unsigned n => .integer n
  | .signed i => .integer i
  | .float x => .float x

/-- Read a value that does not fit the shape, to name it in the error: scalars are taken, an
array or object is only looked at. -/
def mismatch {α} (expected : String) : Reader α := do
  let e : ReadError ← match ← peekOrNul with
    | 110 => do eat; keywordRest [117, 108, 108]; pure (invalidType .null expected)
    | 116 => do eat; keywordRest [114, 117, 101]; pure (invalidType (.bool true) expected)
    | 102 => do eat; keywordRest [97, 108, 115, 101]; pure (invalidType (.bool false) expected)
    | 45 => do eat; let n ← readNumber false; pure (invalidType n.unexpected expected)
    | c =>
      if isDigitByte c then do
        let n ← readNumber true
        pure (invalidType n.unexpected expected)
      else if c = 34 then do
        eat
        let s ← readStringBody
        pure (invalidType (.string s) expected)
      else if c = 91 then pure (invalidType .sequence expected)
      else if c = 123 then pure (invalidType .map expected)
      else failPeeked .expectedSomeValue
  throw (← fixPlace e)

/-- Close an array after its items were read: a `]`, or an error for what is there instead. -/
def closeList : Reader Unit := do
  match ← blanks with
  | some 93 => eat
  | some 44 =>
    eat
    match ← blanks with
    | some 93 => failPeeked .trailingComma
    | _ => failPeeked .trailingCharacters
  | some _ => failPeeked .trailingCharacters
  | none => failPeeked .eofWhileParsingList

def closeMap : Reader Unit := do
  match ← blanks with
  | some 125 => eat
  | some 44 => failPeeked .trailingComma
  | some _ => failPeeked .trailingCharacters
  | none => failPeeked .eofWhileParsingObject

/-- Run the reading of a bracketed body, then close it whatever happened; the body's error wins,
then the closing error. -/
def bracketed {α} (body : Reader α) (close : Reader Unit) : Reader α := do
  let r ← tryCatch (do let v ← body; pure (Except.ok v)) (fun e => pure (Except.error e))
  let c ← tryCatch (do close; pure none) (fun e => pure (some e))
  match r, c with
  | .error e, _ => throw e
  | .ok _, some e => throw e
  | .ok v, none => pure v

/-- Before the next item of an array or field of an object: `none` at the closing bracket,
else the byte that starts the item (after its comma, if it is not the first). -/
def beforeNext (first : Bool) (close : UInt8) (commaOrEnd eof : ReadCode) :
    Reader (Option (Option UInt8)) := do
  match ← blanks with
  | some b =>
    if b = close then pure none
    else if b = 44 && !first then do eat; pure (some (← blanks))
    else if first then pure (some (some b))
    else failPeeked commaOrEnd
  | none => failPeeked eof

def nextItem (first : Bool) : Reader Bool := do
  match ← beforeNext first 93 .expectedListCommaOrEnd .eofWhileParsingList with
  | none => pure false
  | some (some 93) => failPeeked .trailingComma
  | some (some _) => pure true
  | some none => failPeeked .eofWhileParsingValue

/-- Before the next field of an object: its key, if there is one. -/
def nextKey (first : Bool) : Reader (Option String) := do
  match ← beforeNext first 125 .expectedObjectCommaOrEnd .eofWhileParsingObject with
  | none => pure none
  | some (some 34) => do eat; pure (some (← readStringBody))
  | some (some 125) => failPeeked .trailingComma
  | some (some _) => failPeeked .keyMustBeAString
  | some none => failPeeked .eofWhileParsingValue

def colon : Reader Unit := do
  match ← blanks with
  | some 58 => eat
  | some _ => failPeeked .expectedColon
  | none => failPeeked .eofWhileParsingObject

/-- Add a step to the path of an error that has none yet further in. -/
def within {α} (step : PathStep) (r : Reader α) : Reader α :=
  tryCatch r fun e => throw { e with path := step :: e.path }

def Shape.isOptional : Shape → Bool
  | .optional _ => true
  | _ => false

mutual
/-- Read one value of a shape. `depth` is how many more brackets may open; `fuel` bounds the
reading steps. -/
def value (fuel depth : Nat) (shape : Shape) : Reader Json := do
  match fuel with
  | 0 => failTaken .recursionLimitExceeded
  | fuel + 1 =>
  let some b ← blanks | failPeeked .eofWhileParsingValue
  -- Nothing and buffered alternatives take their places from the readers they use.
  match shape with
  | .optional inner =>
    if b = 110 then do eat; keywordRest [117, 108, 108]; pure .null
    else value fuel depth inner
  | .ignored => do skipValue; pure .null
  | .lenientText =>
    if b = 110 then do eat; keywordRest [117, 108, 108]; pure .null
    else do
      let c ← content fuel depth
      match c.lenient with
      | some s => pure (.str s)
      | none => throw { code := .message "data did not match any variant of untagged enum Raw" }
  | _ =>
  let r : Reader Json := match shape with
    | .any => anyValue fuel depth b
    | .string =>
      if b = 34 then do eat; pure (.str (← readStringBody)) else mismatch "a string"
    | .bool =>
      if b = 116 then do eat; keywordRest [114, 117, 101]; pure (.bool true)
      else if b = 102 then do eat; keywordRest [97, 108, 115, 101]; pure (.bool false)
      else mismatch "a boolean"
    | .integer name lo hi => do
      let n ← numberOf name b
      match n with
      | .unsigned k => if (k : Int) ≤ hi then pure (.int k) else throw (invalidValue (.integer k) name)
      | .signed i => if lo ≤ i && i ≤ hi then pure (.int i) else throw (invalidValue (.integer i) name)
      | .float x => throw (invalidType (.float x) name)
    | .float32 => do
      let n ← numberOf "f32" b
      let x : Float32 := match n with
        | .unsigned k => Number.float32OfRatio false k 1
        | .signed i => Number.float32OfRatio (i < 0) i.natAbs 1
        | .float x => x.toFloat32
      pure (.single x)
    | .float64 => do
      let n ← numberOf "f64" b
      match n with
      | .unsigned k => pure (.float (floatOfNat k))
      | .signed i => pure (.float (Number.floatOfRatio (i < 0) i.natAbs 1))
      | .float x => pure (.float x)
    | .list inner =>
      if b = 91 then
        if depth = 0 then failPeeked .recursionLimitExceeded else do
        eat
        bracketed (do pure (.arr (← items fuel (depth - 1) inner true 0))) closeList
      else mismatch "a sequence"
    | .record name fields =>
      if b = 91 then
        if depth = 0 then failPeeked .recursionLimitExceeded else do
        eat
        bracketed (do pure (.obj (← recordOfList fuel (depth - 1) name fields false 0 fields))) closeList
      else if b = 123 then
        if depth = 0 then failPeeked .recursionLimitExceeded else do
        eat
        bracketed (recordOfMap fuel (depth - 1) fields) closeMap
      else mismatch ("struct " ++ name)
    | .choice names =>
      if b = 34 then do
        eat
        let s ← readStringBody
        if names.contains s then pure (.str s)
        else throw { code := .message s!"unknown variant `{s}`, {oneOf names}" }
      else if b = 123 then mismatch "variant identifier"
      else failPeeked .expectedSomeValue
    | .dateTime =>
      if b = 34 then do
        eat
        let s ← readStringBody
        match Time.DateTime.parse? s with
        | .ok _ => pure (.str s)
        | .error p => throw { code := .message p.text }
      else mismatch "a formatted date and time string"
    | _ => anyValue fuel depth b
  tryCatch r fun e => do throw (← fixPlace e)

def numberOf (expected : String) (b : UInt8) : Reader NumberRead :=
  if b = 45 then do eat; readNumber false
  else if isDigitByte b then readNumber true
  else mismatch expected

def anyValue (fuel depth : Nat) (b : UInt8) : Reader Json :=
  if b = 110 then do eat; keywordRest [117, 108, 108]; pure .null
  else if b = 116 then do eat; keywordRest [114, 117, 101]; pure (.bool true)
  else if b = 102 then do eat; keywordRest [97, 108, 115, 101]; pure (.bool false)
  else if b = 45 then do eat; pure (← readNumber false).toJson
  else if isDigitByte b then do pure (← readNumber true).toJson
  else if b = 34 then do eat; pure (.str (← readStringBody))
  else if b = 91 then
    if depth = 0 then failPeeked .recursionLimitExceeded else do
    eat
    bracketed (do pure (.arr (← items fuel (depth - 1) .any true 0))) closeList
  else if b = 123 then
    if depth = 0 then failPeeked .recursionLimitExceeded else do
    eat
    bracketed (do pure (.obj (← fieldsAny fuel (depth - 1) true))) closeMap
  else failPeeked .expectedSomeValue

/-- Buffer any value with its number kinds. -/
def content (fuel depth : Nat) : Reader Content := do
  match fuel with
  | 0 => failTaken .recursionLimitExceeded
  | fuel + 1 =>
  let some b ← blanks | failPeeked .eofWhileParsingValue
  if b = 110 then do eat; keywordRest [117, 108, 108]; pure .null
  else if b = 116 then do eat; keywordRest [114, 117, 101]; pure (.bool true)
  else if b = 102 then do eat; keywordRest [97, 108, 115, 101]; pure (.bool false)
  else if b = 45 then do eat; pure (.number (← readNumber false))
  else if isDigitByte b then do pure (.number (← readNumber true))
  else if b = 34 then do eat; pure (.string (← readStringBody))
  else if b = 91 then
    if depth = 0 then failPeeked .recursionLimitExceeded else do
    eat
    bracketed (do
      let xs ← items fuel (depth - 1) .any true 0
      pure (.list (xs.map fun _ => Content.null))) closeList
  else if b = 123 then
    if depth = 0 then failPeeked .recursionLimitExceeded else do
    eat
    bracketed (do
      let fs ← fieldsAny fuel (depth - 1) true
      pure (.map (fs.map fun (k, _) => (k, Content.null)))) closeMap
  else failPeeked .expectedSomeValue

def items (fuel depth : Nat) (inner : Shape) (first : Bool) (index : Nat) : Reader (List Json) := do
  match fuel with
  | 0 => failTaken .recursionLimitExceeded
  | fuel + 1 =>
  if ← nextItem first then
    let x ← within (.index index) (value fuel depth inner)
    let rest ← items fuel depth inner false (index + 1)
    pure (x :: rest)
  else pure []

def fieldsAny (fuel depth : Nat) (first : Bool) : Reader (List (String × Json)) := do
  match fuel with
  | 0 => failTaken .recursionLimitExceeded
  | fuel + 1 =>
  match ← nextKey first with
  | none => pure []
  | some k =>
    colon
    let v ← within (.key k) (value fuel depth .any)
    let rest ← fieldsAny fuel depth false
    pure ((k, v) :: rest)

/-- A record read from an object, after its opening brace: fields by name, unknown names
skipped, a name twice refused, then absent fields from their defaults. -/
def recordOfMap (fuel depth : Nat) (fields : List (String × Shape × Option Json)) :
    Reader Json := do
  let got ← recordFields fuel depth fields true []
  let out ← fields.mapM fun (k, s, dflt) =>
    match got.find? (·.1 == k) with
    | some (_, v) => pure (k, v)
    | none => match dflt with
      | some d => pure (k, d)
      | none => if s.isOptional then pure (k, Json.null)
          else throw { code := .message s!"missing field `{k}`" }
  pure (.obj out)

def recordFields (fuel depth : Nat) (fields : List (String × Shape × Option Json)) (first : Bool)
    (got : List (String × Json)) : Reader (List (String × Json)) := do
  match fuel with
  | 0 => failTaken .recursionLimitExceeded
  | fuel + 1 =>
  match ← nextKey first with
  | none => pure got
  | some k =>
    match fields.find? (·.1 == k) with
    | some (_, s, _) =>
      if got.any (·.1 == k) then throw { code := .message s!"duplicate field `{k}`" }
      colon
      let v ← within (.key k) (value fuel depth s)
      recordFields fuel depth fields false (got ++ [(k, v)])
    | none =>
      colon
      let _ ← within (.key k) (value fuel depth .ignored)
      recordFields fuel depth fields false got

/-- A record read from an array, after its opening bracket: fields by position; once the items
run out, each remaining field takes its default or the read fails at its position. -/
def recordOfList (fuel depth : Nat) (name : String) (fields : List (String × Shape × Option Json))
    (ended : Bool) (index : Nat) (rest : List (String × Shape × Option Json)) :
    Reader (List (String × Json)) := do
  match fuel, rest with
  | 0, _ => failTaken .recursionLimitExceeded
  | _, [] => pure []
  | fuel + 1, (k, s, dflt) :: more =>
    let present ← if ended then pure false else nextItem (index == 0)
    if present then
      let v ← within (.index index) (value fuel depth s)
      let tail ← recordOfList fuel depth name fields false (index + 1) more
      pure ((k, v) :: tail)
    else
      match dflt with
      | some d =>
        let tail ← recordOfList fuel depth name fields true (index + 1) more
        pure ((k, d) :: tail)
      | none =>
        let n := fields.length
        let plural := if n = 1 then "" else "s"
        let text := s!"invalid length {index}, expected struct {name} with {n} element{plural}"
        throw { code := .message text }
end

/-- Read a whole text as one value of a shape: blanks may follow, nothing else. -/
def readShape (shape : Shape) (bytes : ByteArray) : Except ReadError Json :=
  let run : Reader Json := do
    let v ← value (2 * bytes.size + 1000) 127 shape
    match ← blanks with
    | some _ => failPeeked .trailingCharacters
    | none => pure v
  ((run.run bytes).run.run 0).1

def readText (shape : Shape) (s : String) : Except ReadError Json :=
  readShape shape s.toUTF8

def parse (s : String) : Except ReadError Json := readText .any s

/-- This library's JSON reader and compact printer. -/
def builtinCodec : Codec := ⟨readShape, compact⟩

end KnowledgeDesk.Json
