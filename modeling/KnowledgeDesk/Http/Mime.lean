import KnowledgeDesk.Text.Utf8

/-!
# Media types

A media type `type/subtype[+suffix]` with parameters `; name=value`, read the strict way: type and
subtype are tokens with nothing around them, a parameter starts after a `;` and any spaces, its
name is a token, and its value is a token or a quoted string of visible characters and spaces
(no escapes). After a quoted value only spaces may come before the next `;`.

Type, subtype, suffix and parameter names compare without regard to case; parameter values keep
their case. The suffix is what follows the last `+` of the subtype, when that `+` is not the
subtype's first character.
-/

namespace KnowledgeDesk.Http

/-- A media type. -/
structure MediaType where
  /-- The type, in lower case. -/
  kind : String
  /-- The subtype without its suffix, in lower case. -/
  subtype : String
  /-- The suffix, in lower case. -/
  suffix : Option String := none
  /-- Parameter names in lower case, with their values, in order. -/
  params : List (String × String) := []
  deriving Repr, DecidableEq

/-- Whether a byte is a token character. -/
def isTokenByte (b : UInt8) : Bool :=
  (48 ≤ b && b ≤ 57) || (65 ≤ b && b ≤ 90) || (97 ≤ b && b ≤ 122) ||
    [33, 35, 36, 37, 38, 39, 42, 43, 45, 46, 94, 95, 96, 124, 126].contains b.toNat

/-- Lower-case ASCII bytes as text. -/
def lowerText (bs : List UInt8) : String :=
  Text.stringOfBytesLossy (bs.map fun b => if 65 ≤ b && b ≤ 90 then b + 32 else b)

/-- The token bytes in front and the rest. -/
def tokenFront (bs : List UInt8) : List UInt8 × List UInt8 :=
  (bs.takeWhile isTokenByte, bs.dropWhile isTokenByte)

/-- The bytes of a quoted value up to its closing quote, and what follows the quote. A quote
right after the opening one is part of the value. -/
def quotedFront (first : Bool) : List UInt8 → Option (List UInt8 × List UInt8)
  | [] => none
  | b :: rest =>
    if b == 34 && !first then some ([], rest)
    else if b > 31 && b != 127 then (quotedFront false rest).map fun (v, r) => (b :: v, r)
    else none

/-- Skip spaces; then the end, or a `;` and what follows. -/
def afterQuoted : List UInt8 → Option (List UInt8)
  | [] => some []
  | b :: rest => if b == 32 then afterQuoted rest else if b == 59 then some rest else none

/-- The parameters after a `;`. -/
def readParams (fuel : Nat) (bs : List UInt8) : Option (List (String × String)) :=
  match fuel with
  | 0 => none
  | fuel + 1 =>
    match bs with
    | [] => some []
    | 32 :: rest => readParams fuel rest
    | _ =>
      let (name, rest) := tokenFront bs
      match rest with
      | 61 :: rest =>
        if name.isEmpty then none
        else match rest with
          | 34 :: more => do
            let (value, after) ← quotedFront true more
            let tail ← afterQuoted after
            let ps ← readParams fuel tail
            pure ((lowerText name, Text.stringOfBytesLossy value) :: ps)
          | _ =>
            let (value, after) := tokenFront rest
            match after with
            | [] => some [(lowerText name, Text.stringOfBytesLossy value)]
            | 59 :: tail =>
              if value.isEmpty then none
              else do
                let ps ← readParams fuel tail
                pure ((lowerText name, Text.stringOfBytesLossy value) :: ps)
            | _ => none
      | _ => none

/-- Read a media type. -/
def MediaType.parse? (s : String) : Option MediaType :=
  let bs := s.toUTF8.toList
  if s == "*/*" then some ⟨"*", "*", none, []⟩
  else
    let (top, rest) := tokenFront bs
    match rest with
    | 47 :: rest =>
      if top.isEmpty then none
      else
        let subBytes := rest.takeWhile isTokenByte
        let after := rest.dropWhile isTokenByte
        let plusAt := (subBytes.zipIdx.filter fun (b, i) => b == 43 && i > 0).getLast?.map (·.2)
        let (sub, suffix) := match plusAt with
          | some i => (subBytes.take i, some (lowerText (subBytes.drop (i + 1))))
          | none => (subBytes, none)
        match after with
        | [] => some ⟨lowerText top, lowerText sub, suffix, []⟩
        | 59 :: tail =>
          if subBytes.isEmpty then none
          else (readParams (tail.length + 1) tail).map fun ps => ⟨lowerText top, lowerText sub, suffix, ps⟩
        | _ => none
    | _ => none

/-- The value of a parameter. -/
def MediaType.param? (m : MediaType) (name : String) : Option String :=
  (m.params.find? (·.1 == name)).map (·.2)

/-- Whether a media type is JSON: `application/json`, or an `application` type with the suffix
`json`. -/
def MediaType.isJson (m : MediaType) : Bool :=
  m.kind == "application" && (m.subtype == "json" || m.suffix == some "json")

end KnowledgeDesk.Http
