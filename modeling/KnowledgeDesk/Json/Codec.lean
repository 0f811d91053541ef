import KnowledgeDesk.Json.Value

/-!
# JSON libraries

What the server asks of a JSON library: to read a text as the value a `Shape` describes, or to
say why and where it cannot (`ReadError`), and to write a value as compact text. Shapes describe
the server's own types as the reading side sees them; the library itself is a parameter
(`Codec`), and `Json.builtinCodec` is this library's own reader and printer.

A read error has a kind (`ReadCategory`): the text ended early, it broke the grammar, or the data
did not fit the shape. The web layer answers the last kind with another status than the others.
-/

namespace KnowledgeDesk.Json

/-- What went wrong while reading. -/
inductive ReadCode where
  | eofWhileParsingList
  | eofWhileParsingObject
  | eofWhileParsingString
  | eofWhileParsingValue
  | expectedColon
  | expectedListCommaOrEnd
  | expectedObjectCommaOrEnd
  | expectedSomeIdent
  | expectedSomeValue
  | invalidEscape
  | invalidNumber
  | numberOutOfRange
  | invalidUnicodeCodePoint
  | controlCharacterWhileParsingString
  | keyMustBeAString
  | loneLeadingSurrogateInHexEscape
  | trailingComma
  | trailingCharacters
  | unexpectedEndOfHexEscape
  | recursionLimitExceeded
  /-- A message about the data, made by the reading side. -/
  | message (text : String)
  deriving Repr, DecidableEq, Inhabited

def ReadCode.text : ReadCode → String
  | .eofWhileParsingList => "EOF while parsing a list"
  | .eofWhileParsingObject => "EOF while parsing an object"
  | .eofWhileParsingString => "EOF while parsing a string"
  | .eofWhileParsingValue => "EOF while parsing a value"
  | .expectedColon => "expected `:`"
  | .expectedListCommaOrEnd => "expected `,` or `]`"
  | .expectedObjectCommaOrEnd => "expected `,` or `\x7d`"
  | .expectedSomeIdent => "expected ident"
  | .expectedSomeValue => "expected value"
  | .invalidEscape => "invalid escape"
  | .invalidNumber => "invalid number"
  | .numberOutOfRange => "number out of range"
  | .invalidUnicodeCodePoint => "invalid unicode code point"
  | .controlCharacterWhileParsingString =>
    "control character (\\u0000-\\u001F) found while parsing a string"
  | .keyMustBeAString => "key must be a string"
  | .loneLeadingSurrogateInHexEscape => "lone leading surrogate in hex escape"
  | .trailingComma => "trailing comma"
  | .trailingCharacters => "trailing characters"
  | .unexpectedEndOfHexEscape => "unexpected end of hex escape"
  | .recursionLimitExceeded => "recursion limit exceeded"
  | .message t => t

/-- The kind of a read error: the text ended early, it broke the grammar, or the data did not
fit the shape. -/
inductive ReadCategory where
  | eof
  | grammar
  | data
  deriving Repr, DecidableEq

def ReadCode.category : ReadCode → ReadCategory
  | .eofWhileParsingList | .eofWhileParsingObject | .eofWhileParsingString
  | .eofWhileParsingValue => .eof
  | .message _ => .data
  | _ => .grammar

/-- A step of the way into a value: a field name or an item index. -/
inductive PathStep where
  | key (name : String)
  | index (i : Nat)
  deriving Repr, DecidableEq

/-- A read error: its code, its place (line and column) once known, and the way from the top
value to the value being read when it arose. -/
structure ReadError where
  code : ReadCode
  place : Option (Nat × Nat) := none
  path : List PathStep := []
  deriving Repr, Inhabited

/-- The text of a read error: the code, then the place. -/
def ReadError.text (e : ReadError) : String :=
  match e.place with
  | some (line, col) => s!"{e.code.text} at line {line} column {col}"
  | none => e.code.text

/-- The path of a read error as text: names joined by `.`, indices as `[i]`, `.` when empty. -/
def pathText (steps : List PathStep) : String :=
  let rec go (first : Bool) : List PathStep → String
    | [] => ""
    | .key k :: rest => (if first then k else "." ++ k) ++ go false rest
    | .index i :: rest => s!"[{i}]" ++ go false rest
  if steps.isEmpty then "." else go true steps

/-- What the reading side expects. -/
inductive Shape where
  /-- Any value, kept as read. -/
  | any
  /-- Any value, checked and dropped. -/
  | ignored
  | string
  | bool
  /-- An integer between the bounds, named as the reading side names its type. -/
  | integer (name : String) (lo hi : Int)
  /-- A 32-bit float: every number is accepted and rounded to single precision. -/
  | float32
  /-- A 64-bit float: every number is accepted. -/
  | float64
  /-- `null` for nothing, or the inner shape. -/
  | optional (inner : Shape)
  /-- An array of the inner shape. -/
  | list (inner : Shape)
  /-- A record read from an object by field name or from an array by position. Each field has
  a name, a shape and the value it takes when absent; a field without one is required, except
  that an optional field absent from an object is `null`. -/
  | record (name : String) (fields : List (String × Shape × Option Json))
  /-- One of several names, read from a string. -/
  | choice (names : List String)
  /-- A text, an integer, a float or a truth value, whichever comes first, as text. -/
  | lenientText
  /-- A date and time `YYYY-MM-DDTHH:MM:SS` with an optional fraction. -/
  | dateTime
  deriving Inhabited

def Shape.i32 : Shape := .integer "i32" (-2147483648) 2147483647
def Shape.u32 : Shape := .integer "u32" 0 4294967295
def Shape.usize : Shape := .integer "usize" 0 18446744073709551615
def Shape.u64 : Shape := .integer "u64" 0 18446744073709551615

/-- A number as the reader takes it. -/
inductive NumberRead where
  | unsigned (n : Nat)
  | signed (i : Int)
  | float (x : Float)

def floatOfNat (n : Nat) : Float := Number.floatOfRatio false n 1

/-- Buffered content of any value, kept with its number kinds, for shapes that try several
readings. -/
inductive Content where
  | null
  | bool (b : Bool)
  | number (n : NumberRead)
  | string (s : String)
  | list (items : List Content)
  | map (fields : List (String × Content))

/-- The lenient text of buffered content: a text, an integer within 64 bits, a float, or a truth
value, the first that fits. -/
def Content.lenient : Content → Option String
  | .string s => some s
  | .number (.unsigned n) =>
    if n ≤ 9223372036854775807 then some (toString n) else some (Number.Float.plainText (floatOfNat n))
  | .number (.signed i) => some (toString i)
  | .number (.float x) => some (Number.Float.plainText x)
  | .bool b => some (toString b)
  | _ => none

/-- A JSON library. Reading a text against a shape answers the value laid out as the shape says
(a record as an object of its fields in the shape's order, an absent field at its default, a
lenient text as the `Content.lenient` text of what was read), or the first error met, with its
kind and the way to the value being read; printing gives a value's compact text. -/
structure Codec where
  read : Shape → ByteArray → Except ReadError Json
  print : Json → String

def Codec.readText (c : Codec) (shape : Shape) (s : String) : Except ReadError Json :=
  c.read shape s.toUTF8

end KnowledgeDesk.Json
