import KnowledgeDesk.Number.Decimal

/-!
# JSON values

A JSON value keeps the distinction a reader draws between an integer literal that fits in 64
bits (`int`) and every other number (`float`); objects keep their fields in order.

`Json.compact` writes a value with no blanks: a string escapes `"`, `\`, and every control
character below `U+0020` (the short forms `\b \f \n \r \t`, else `\u00XX` in lower-case hex);
an integer is written in full; a finite float in its shortest text with `.0` kept on integral
values (single-precision numbers in their shortest single-precision text); a non-finite float
as `null`.
-/

namespace KnowledgeDesk

/-- A JSON value. -/
inductive Json where
  | null
  | bool (b : Bool)
  | int (i : Int)
  | float (x : Float)
  /-- A number computed in single precision, written in its shortest single-precision form. -/
  | single (x : Float32)
  | str (s : String)
  | arr (items : List Json)
  | obj (fields : List (String × Json))
  deriving Inhabited

namespace Json

def hexDigit (n : Nat) : Char :=
  if n < 10 then Char.ofNat (48 + n) else Char.ofNat (87 + n)

/-- One character of a string body, escaped. -/
def escapeChar (c : Char) : List Char :=
  match c with
  | '"' => ['\\', '"']
  | '\\' => ['\\', '\\']
  | '\n' => ['\\', 'n']
  | '\r' => ['\\', 'r']
  | '\t' => ['\\', 't']
  | c =>
    if c.toNat = 8 then ['\\', 'b']
    else if c.toNat = 12 then ['\\', 'f']
    else if c.toNat < 0x20 then
      ['\\', 'u', '0', '0', hexDigit (c.toNat / 16), hexDigit (c.toNat % 16)]
    else [c]

/-- A string as a quoted JSON string. -/
def quote (s : String) : String :=
  String.ofList ('"' :: (s.toList.flatMap escapeChar ++ ['"']))

def isFinite (x : Float) : Bool :=
  match Number.Float.value x with
  | .finite .. => true
  | _ => false

/-- The compact text of a number that is a float. -/
def floatText (x : Float) : String :=
  if isFinite x then Number.Float.dataText x else "null"

def single32Text (x : Float32) : String :=
  match Number.Float32.value x with
  | .finite .. => Number.Float32.dataText x
  | _ => "null"

mutual
/-- The compact text of a value. -/
def compact : Json → String
  | .null => "null"
  | .bool true => "true"
  | .bool false => "false"
  | .int i => toString i
  | .float x => floatText x
  | .single x => single32Text x
  | .str s => quote s
  | .arr items => "[" ++ compactItems items ++ "]"
  | .obj fields => "\x7b" ++ compactFields fields ++ "\x7d"

def compactItems : List Json → String
  | [] => ""
  | [x] => compact x
  | x :: rest => compact x ++ "," ++ compactItems rest

def compactFields : List (String × Json) → String
  | [] => ""
  | [(k, v)] => quote k ++ ":" ++ compact v
  | (k, v) :: rest => quote k ++ ":" ++ compact v ++ "," ++ compactFields rest
end

/-- The value of a field of an object (the last one of that name), if it has one. -/
def field? (j : Json) (key : String) : Option Json :=
  match j with
  | .obj fields => (fields.reverse.find? (·.1 == key)).map (·.2)
  | _ => none

def str? : Json → Option String
  | .str s => some s
  | _ => none

def arr? : Json → Option (List Json)
  | .arr xs => some xs
  | _ => none

def int? : Json → Option Int
  | .int i => some i
  | _ => none

def bool? : Json → Option Bool
  | .bool b => some b
  | _ => none

def strField? (j : Json) (key : String) : Option String := (j.field? key).bind str?

/-- A float value from a number (an integer is converted). -/
def float? : Json → Option Float
  | .float x => some x
  | .single x => some x.toFloat
  | .int i => some (Number.floatOfRatio (i < 0) i.natAbs 1)
  | _ => none

/-- Keys in byte order with the last value of each: the layout of a sorted map. -/
def sortedFields (fields : List (String × Json)) : List (String × Json) :=
  let keep := fields.foldl (fun acc (k, v) => (acc.filter (·.1 != k)) ++ [(k, v)]) []
  keep.mergeSort (fun a b => decide (a.1 ≤ b.1))

mutual
/-- A value with every object's keys sorted and unique, as a sorted map holds them. -/
def sortKeys : Json → Json
  | .arr items => .arr (sortKeysItems items)
  | .obj fields => .obj (sortedFields (sortKeysFields fields))
  | j => j

def sortKeysItems : List Json → List Json
  | [] => []
  | x :: rest => sortKeys x :: sortKeysItems rest

def sortKeysFields : List (String × Json) → List (String × Json)
  | [] => []
  | (k, v) :: rest => (k, sortKeys v) :: sortKeysFields rest
end

end Json

end KnowledgeDesk
