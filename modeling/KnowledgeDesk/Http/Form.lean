import KnowledgeDesk.Text.Utf8
import KnowledgeDesk.Number.Integer
import KnowledgeDesk.Number.Decimal

/-!
# Percent-encoding and query strings

* `percentDecode` turns each `%` followed by two hex digits into the byte they spell; any other
  `%` stays as it is.
* `formPairs` reads a query string: pieces between `&` (empty pieces skipped), each cut at its
  first `=` (no `=` means an empty value); in names and values `+` stands for a space, then
  percent escapes are decoded and the bytes read as UTF-8, a replacement character standing for
  each malformed sequence.
* `readForm` picks typed fields out of the pairs. Unknown names are ignored; a name given twice
  is an error, as is a value that does not read as its field's type. The first problem in the
  order of the pairs is the one reported.
-/

namespace KnowledgeDesk.Http

/-- The value of a hex digit. -/
def hexValue? (b : UInt8) : Option Nat :=
  if 48 ≤ b && b ≤ 57 then some (b.toNat - 48)
  else if 65 ≤ b && b ≤ 70 then some (b.toNat - 55)
  else if 97 ≤ b && b ≤ 102 then some (b.toNat - 87)
  else none

/-- Decode the percent escapes of bytes. -/
def percentDecode : List UInt8 → List UInt8
  | [] => []
  | 37 :: h :: l :: rest =>
    match hexValue? h, hexValue? l with
    | some a, some b => UInt8.ofNat (a * 16 + b) :: percentDecode rest
    | _, _ => 37 :: percentDecode (h :: l :: rest)
  | b :: rest => b :: percentDecode rest

/-- Split bytes at every separator. -/
def splitBytes (sep : UInt8) (bs : List UInt8) : List (List UInt8) :=
  let (last, done) := bs.foldl (fun (acc : List UInt8 × List (List UInt8)) b =>
    if b == sep then ([], acc.1.reverse :: acc.2) else (b :: acc.1, acc.2)) ([], [])
  (last.reverse :: done).reverse

/-- Cut bytes at the first separator; without one, the second part is empty. -/
def cutAt (sep : UInt8) (bs : List UInt8) : List UInt8 × List UInt8 :=
  (bs.takeWhile (· != sep), (bs.dropWhile (· != sep)).drop 1)

/-- A name or value of a query string as text. -/
def formText (bs : List UInt8) : String :=
  Text.stringOfBytesLossy (percentDecode (bs.map fun b => if b == 43 then 32 else b))

/-- The name–value pairs of a query string, in order. -/
def formPairs (query : String) : List (String × String) :=
  ((splitBytes 38 query.toUTF8.toList).filter (!·.isEmpty)).map fun piece =>
    let (name, value) := cutAt 61 piece
    (formText name, formText value)

/-- What a form field holds. -/
inductive FieldKind where
  | text
  | int32
  | uint32
  | float32
  deriving Repr, DecidableEq

/-- A value read from a form field. -/
inductive FieldValue where
  | text (s : String)
  | int (i : Int)
  | single (x : Float32)

/-- Read a field's value. -/
def FieldKind.read : FieldKind → String → Except String FieldValue
  | .text, s => .ok (.text s)
  | .int32, s => (Number.parseIntIn (-2147483648) 2147483647 s).map FieldValue.int
      |>.mapError Number.IntError.message
  | .uint32, s => (Number.parseIntIn 0 4294967295 s).map FieldValue.int
      |>.mapError Number.IntError.message
  | .float32, s => (Number.parseFloat32 s).map FieldValue.single
      |>.mapError Number.LiteralError.message

/-- Read the named fields from form pairs, each at most once. -/
def readForm (fields : List (String × FieldKind)) (pairs : List (String × String)) :
    Except String (List (String × FieldValue)) :=
  pairs.foldlM (fun acc (name, value) =>
    match fields.find? (·.1 == name) with
    | none => .ok acc
    | some (_, kind) =>
      if acc.any (·.1 == name) then .error ("duplicate field `" ++ name ++ "`")
      else (kind.read value).map fun v => acc ++ [(name, v)]) []

/-- The text of a read field. -/
def fieldText? (values : List (String × FieldValue)) (name : String) : Option String :=
  match values.find? (·.1 == name) with
  | some (_, .text s) => some s
  | _ => none

/-- The integer of a read field. -/
def fieldInt? (values : List (String × FieldValue)) (name : String) : Option Int :=
  match values.find? (·.1 == name) with
  | some (_, .int i) => some i
  | _ => none

/-- The single-precision number of a read field. -/
def fieldSingle? (values : List (String × FieldValue)) (name : String) : Option Float32 :=
  match values.find? (·.1 == name) with
  | some (_, .single x) => some x
  | _ => none

end KnowledgeDesk.Http
