/-!
# PDF objects

The values a PDF file is made of: null, truth values, integers, reals, names, strings, arrays,
dictionaries, streams (a dictionary with its data) and references to numbered objects.

Names and dictionary keys are kept as text whose characters are the name's bytes, one character
per byte, so `Type` is the name `/Type`. Reals are held as the double of the single-precision
value the file's digits round to. A dictionary keeps its entries in file order; when a key comes
twice the later entry counts.
-/

namespace KnowledgeDesk.Pdf

/-- A PDF object. -/
inductive Obj where
  | null
  | bool (b : Bool)
  | int (n : Int)
  | real (x : Float)
  | name (n : String)
  | str (bytes : List UInt8)
  | array (items : List Obj)
  | dict (entries : List (String × Obj))
  | stream (entries : List (String × Obj)) (data : ByteArray)
  | ref (num gen : Nat)

/-- The value of a key among dictionary entries: the last entry with the key. -/
def lookup (entries : List (String × Obj)) (key : String) : Option Obj :=
  (entries.reverse.find? (·.1 == key)).map (·.2)

/-- The entries of a dictionary. -/
def Obj.entries? : Obj → Option (List (String × Obj))
  | .dict es => some es
  | _ => none

/-- The value of a key in a dictionary object. -/
def Obj.get? (o : Obj) (key : String) : Option Obj :=
  o.entries?.bind (lookup · key)

/-- A name object's text. -/
def Obj.name? : Obj → Option String
  | .name n => some n
  | _ => none

/-- An integer object's value. -/
def Obj.int? : Obj → Option Int
  | .int n => some n
  | _ => none

/-- A number as a double: integers converted, reals as held. -/
def Obj.number? : Obj → Option Float
  | .int n => some (Float.ofInt n)
  | .real x => some x
  | _ => none

/-- The items of an array object. -/
def Obj.array? : Obj → Option (List Obj)
  | .array xs => some xs
  | _ => none

/-- The object number and generation of a reference. -/
def Obj.ref? : Obj → Option (Nat × Nat)
  | .ref n g => some (n, g)
  | _ => none

end KnowledgeDesk.Pdf
