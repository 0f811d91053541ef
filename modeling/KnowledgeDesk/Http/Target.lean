import KnowledgeDesk.Http.Form

/-!
# Request targets

The target of a request is its path and, after a `?`, its query; a `#` ends both, and what
follows it is dropped. A target starts with `/`, or is the scheme and authority of an absolute
`http` address followed by such a path.

Only some bytes may stand in a target as they are:

* in the path: `!`, `$` to `;`, `=`, `@` to `_`, `a` to `z`, `|`, `~`, and also `"`, `{` and `}`,
  which some clients send unescaped;
* in the query: `!`, `$` to `;`, `=`, and `?` to `~`;
* in both: any byte of a multi-byte UTF-8 character, and DEL.

Any other byte (a space, a control character, `<`, `>`, a backslash, …) refuses the target.
-/

namespace KnowledgeDesk.Http

/-- Why a target is refused. -/
inductive TargetError where
  | empty
  | tooLong
  | invalidChar
  | invalidFormat
  deriving Repr, DecidableEq

/-- The message of a refused target. -/
def TargetError.text : TargetError → String
  | .empty => "empty string"
  | .tooLong => "uri too long"
  | .invalidChar => "invalid uri character"
  | .invalidFormat => "invalid format"

/-- The path and query of a request. -/
structure Target where
  path : String
  query : Option String := none
  deriving Repr, DecidableEq

/-- Whether a byte may stand unescaped in a path. -/
def pathByteOk (b : UInt8) : Bool :=
  b == 0x21 || (0x24 ≤ b && b ≤ 0x3B) || b == 0x3D || (0x40 ≤ b && b ≤ 0x5F) ||
    (0x61 ≤ b && b ≤ 0x7A) || b == 0x7C || b == 0x7E || b == 0x22 || b == 0x7B || b == 0x7D ||
    b ≥ 0x7F

/-- Whether a byte may stand unescaped in a query. -/
def queryByteOk (b : UInt8) : Bool :=
  b == 0x21 || (0x24 ≤ b && b ≤ 0x3B) || b == 0x3D || (0x3F ≤ b && b ≤ 0x7E) || b ≥ 0x7F

/-- The query bytes before any `#`, if they may all stand there. -/
def scanQuery : List UInt8 → Except TargetError (List UInt8)
  | [] => .ok []
  | b :: rest =>
    if b == 0x23 then .ok []
    else if queryByteOk b then (scanQuery rest).map (b :: ·)
    else .error .invalidChar

/-- The path bytes and query bytes of a path-and-query, refusing bytes out of place. -/
def scanPath : List UInt8 → Except TargetError (List UInt8 × Option (List UInt8))
  | [] => .ok ([], none)
  | b :: rest =>
    if b == 0x3F then (scanQuery rest).map fun q => ([], some q)
    else if b == 0x23 then .ok ([], none)
    else if pathByteOk b then (scanPath rest).map fun (p, q) => (b :: p, q)
    else .error .invalidChar

/-- The text of bytes that came from a text. -/
def textOf (bs : List UInt8) : String := Text.stringOfBytesLossy bs

/-- Read a path-and-query. -/
def pathAndQuery (bs : List UInt8) : Except TargetError Target := do
  let (p, q) ← scanPath bs
  let path := if p.isEmpty then "/" else textOf p
  pure ⟨path, q.map textOf⟩

/-- Read a request target. -/
def Target.parse? (uri : String) : Except TargetError Target :=
  let bs := uri.toUTF8.toList
  if bs.isEmpty then .error .empty
  else if bs.length > 65534 then .error .tooLong
  else if bs.head? == some 0x2F || bs == [0x2A] then
    if bs == [0x2A] then .ok ⟨"*", none⟩ else pathAndQuery bs
  else
    let rest := if uri.startsWith "http://" then some (bs.drop 7)
      else if uri.startsWith "https://" then some (bs.drop 8)
      else none
    match rest with
    | none => .error .invalidFormat
    | some afterScheme =>
      let pq := afterScheme.dropWhile fun b => b != 0x2F && b != 0x3F && b != 0x23
      if afterScheme.length == pq.length then .error .invalidFormat
      else pathAndQuery pq

/-- A path parameter with its percent escapes decoded, if the bytes are UTF-8. -/
def decodeParam (raw : String) : Option String :=
  Text.stringOfBytes? (percentDecode raw.toUTF8.toList)

end KnowledgeDesk.Http
