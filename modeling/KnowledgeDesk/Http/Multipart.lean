import KnowledgeDesk.Http.Mime

/-!
# Multipart form bodies

A `multipart/form-data` body is a preamble, then parts, each after a delimiter line
`--boundary`, and a closing `--boundary--`. A part is header lines (`Name: value`), a blank line
and its content, which runs up to the CRLF before the next delimiter.

A part's field name and file name come from its `Content-Disposition` header: the text after
`name=` (not the `name=` ending `filename=`) or `filename=`, up to the closing quote when it is
quoted (a quote inside the name ends it early), else up to the next `;`.

A body that ends before its closing delimiter, or whose delimiters or headers are malformed,
is refused.
-/

namespace KnowledgeDesk.Http

/-- A part of a multipart body. -/
structure Part where
  name : Option String
  fileName : Option String
  headers : List (String × String)
  content : List UInt8

/-- The index of the first occurrence of a pattern. -/
def findBytes (pat : List UInt8) (bs : List UInt8) : Option Nat :=
  let rec go (fuel i : Nat) (rest : List UInt8) : Option Nat :=
    match fuel with
    | 0 => none
    | fuel + 1 =>
      if pat.isPrefixOf rest then some i
      else match rest with
        | [] => none
        | _ :: more => go fuel (i + 1) more
  go (bs.length + 1) 0 bs

/-- The bytes of an ASCII text. -/
def asciiBytes (s : String) : List UInt8 := s.toUTF8.toList

/-- A disposition attribute's value: after the first `key=` (for `name=`, one that is not the end
of `filename=`), up to the closing quote, or up to `;` when unquoted. -/
def dispositionAttr (value : List UInt8) (key : String) : Option String :=
  let pat := asciiBytes (key ++ "=")
  let rec find (fuel : Nat) (before : Option UInt8) (rest : List UInt8) : Option (List UInt8) :=
    match fuel with
    | 0 => none
    | fuel + 1 =>
      if pat.isPrefixOf rest && !(key == "name" && before == some 101) then some (rest.drop pat.length)
      else match rest with
        | [] => none
        | b :: more => find fuel (some b) more
  match find (value.length + 1) none value with
  | none => none
  | some (34 :: more) =>
    match findBytes [34] more with
    | some k => Text.stringOfBytes? (more.take k)
    | none => none
  | some rest => Text.stringOfBytes? (rest.takeWhile (· != 59))

/-- Trim spaces and tabs from both ends of bytes. -/
def trimBytes (bs : List UInt8) : List UInt8 :=
  let blank := fun (b : UInt8) => b == 32 || b == 9
  ((bs.dropWhile blank).reverse.dropWhile blank).reverse

/-- Split bytes at every CRLF. -/
def crlfLines (bs : List UInt8) : List (List UInt8) :=
  let rec go (fuel : Nat) (cur : List UInt8) (rest : List UInt8) : List (List UInt8) :=
    match fuel with
    | 0 => [cur.reverse]
    | fuel + 1 =>
      match rest with
      | [] => [cur.reverse]
      | 13 :: 10 :: more => cur.reverse :: go fuel [] more
      | b :: more => go fuel (b :: cur) more
  go (bs.length + 1) [] bs

/-- Read header lines: each a token name, a colon and a value. -/
def readHeaders (block : List UInt8) : Option (List (String × List UInt8)) :=
  (crlfLines block).mapM fun line =>
    let (name, rest) := tokenFront line
    match rest with
    | 58 :: value =>
      if name.isEmpty then none else some (lowerText name, trimBytes value)
    | _ => none

/-- Read the parts after the first delimiter. -/
def readParts (delimiter : List UInt8) (fuel : Nat) (rest : List UInt8) : Option (List Part) :=
  match fuel with
  | 0 => none
  | fuel + 1 =>
    match rest with
    | 45 :: 45 :: _ => some []
    | 13 :: 10 :: afterLine =>
      match findBytes [13, 10, 13, 10] afterLine with
      | none => none
      | some h => do
        let headers ← readHeaders (afterLine.take h)
        let body := afterLine.drop (h + 4)
        let closing := [13, 10] ++ delimiter
        let k ← findBytes closing body
        let disposition := (headers.find? (·.1 == "content-disposition")).map (·.2)
        let part : Part :=
          { name := disposition.bind (dispositionAttr · "name"),
            fileName := disposition.bind (dispositionAttr · "filename"),
            headers := headers.map fun (n, v) => (n, Text.stringOfBytesLossy v),
            content := body.take k }
        let more ← readParts delimiter fuel (body.drop (k + closing.length))
        pure (part :: more)
    | _ => none

/-- The parts of a multipart body, or nothing when the body is malformed. -/
def parseMultipart (boundary : String) (body : List UInt8) : Option (List Part) :=
  let delimiter := asciiBytes ("--" ++ boundary)
  match findBytes delimiter body with
  | none => none
  | some i => readParts delimiter (body.length + 1) (body.drop (i + delimiter.length))

/-- The boundary a content type names, when it is `multipart/form-data` with one. -/
def formBoundary (contentType : String) : Option String := do
  let m ← MediaType.parse? contentType
  if m.kind == "multipart" && m.subtype == "form-data" then m.param? "boundary"
  else none

end KnowledgeDesk.Http
