import KnowledgeDesk.Text.Utf8
import KnowledgeDesk.Xml.Event

/-!
# Reading XML as events

A document is read as a run of *events*: text between markup, start tags, end tags, empty
tags, and the markup that carries no content here (comments, CDATA sections, processing
instructions, declarations, document types). Tags are not checked beyond their names: an end
tag closes the innermost open tag and, read strictly (`events`), must name it; read loosely
(`looseEvents`) it may name any. Text is kept raw; entity references are resolved when
the text is asked for (`Xml.unescape`).

A document that breaks these rules stops with an error, and the position is the number of bytes
read when it stopped. A byte order mark at the start is skipped.
-/

namespace KnowledgeDesk.Xml

/-- Why reading a document stopped. -/
inductive ReadError where
  | unclosedTag
  | unclosedComment
  | unclosedCData
  | unclosedDoctype
  | unclosedInstruction
  | invalidBang
  | missingDoctypeName
  | unmatchedEnd (name : String)
  | mismatchedEnd (expected found : String)
  deriving Repr, DecidableEq

def ReadError.text : ReadError → String
  | .unclosedTag => "syntax error: tag not closed: `>` not found before end of input"
  | .unclosedComment => "syntax error: comment not closed: `-->` not found before end of input"
  | .unclosedCData => "syntax error: CDATA not closed: `]]>` not found before end of input"
  | .unclosedDoctype => "syntax error: DOCTYPE not closed: `>` not found before end of input"
  | .unclosedInstruction =>
    "syntax error: processing instruction or xml declaration not closed: `?>` not found before end of input"
  | .invalidBang => "syntax error: unknown or missed symbol in markup"
  | .missingDoctypeName =>
    "ill-formed document: `<!DOCTYPE>` declaration does not contain a name of a document type"
  | .unmatchedEnd n => "ill-formed document: close tag `</" ++ n ++ ">` does not match any open tag"
  | .mismatchedEnd e f => "ill-formed document: expected `</" ++ e ++ ">`, but `</" ++ f ++ ">` was found"

def findFrom (bytes : ByteArray) (pat : List UInt8) (start : Nat) : Option Nat :=
  let n := pat.length
  if bytes.size < n then none
  else (List.range (bytes.size - n + 1 - start)).find? (fun i =>
    (List.range n).all fun k => bytes.get! (start + i + k) == pat.getD k 0) |>.map (· + start)

def slice (bytes : ByteArray) (a b : Nat) : String :=
  Text.stringOfBytesLossy (bytes.extract a b).toList

def isXmlBlank (b : UInt8) : Bool := b == 0x20 || b == 0x09 || b == 0x0A || b == 0x0D

def tagName (content : String) : String :=
  String.ofList (content.toList.takeWhile fun c => !isXmlBlank c.toNat.toUInt8)

/-- The end of a start tag from `pos`: the position of its `>`, skipping quoted values. -/
def tagEnd (bytes : ByteArray) : Nat → Option UInt8 → Nat → Option Nat
  | 0, _, _ => none
  | fuel + 1, quote, pos =>
    if pos ≥ bytes.size then none
    else
      let b := bytes.get! pos
      match quote with
      | some q => tagEnd bytes fuel (if b == q then none else some q) (pos + 1)
      | none =>
        if b == 0x3E then some pos
        else if b == 0x22 || b == 0x27 then tagEnd bytes fuel (some b) (pos + 1)
        else tagEnd bytes fuel none (pos + 1)

/-- The end of a document type declaration from `pos`: its closing `>`, counting nested
brackets. -/
def doctypeEnd (bytes : ByteArray) : Nat → Nat → Nat → Option Nat
  | 0, _, _ => none
  | fuel + 1, depth, pos =>
    if pos ≥ bytes.size then none
    else
      let b := bytes.get! pos
      if b == 0x3C then doctypeEnd bytes fuel (depth + 1) (pos + 1)
      else if b == 0x3E then
        if depth = 0 then some pos else doctypeEnd bytes fuel (depth - 1) (pos + 1)
      else doctypeEnd bytes fuel depth (pos + 1)

inductive Step where
  | done
  | event (e : Event) (next : Nat) (stack : List String)
  | failed (e : ReadError) (pos : Nat)

def spellsAt (bytes : ByteArray) (pos : Nat) (word : String) : Bool :=
  word.toUTF8.toList.zipIdx.all fun (w, i) =>
    pos + i < bytes.size &&
      (Char.ofNat (bytes.get! (pos + i)).toNat).toLower == (Char.ofNat w.toNat).toLower

/-- Read the markup that starts with `<` at `pos`; an end tag must name the innermost open tag
when `strict` holds, and may name any when it does not. -/
def markup (strict : Bool) (bytes : ByteArray) (pos : Nat) (stack : List String) : Step :=
  let size := bytes.size
  match bytes[pos + 1]? with
  | none => .failed .unclosedTag size
  | some 0x21 =>
    if spellsAt bytes (pos + 2) "--" then
      match findFrom bytes [0x2D, 0x2D, 0x3E] (pos + 4) with
      | some e => .event .other (e + 3) stack
      | none => .failed .unclosedComment size
    else if spellsAt bytes (pos + 2) "[CDATA[" then
      match findFrom bytes [0x5D, 0x5D, 0x3E] (pos + 9) with
      | some e => .event (.cdata (slice bytes (pos + 9) e)) (e + 3) stack
      | none => .failed .unclosedCData size
    else if spellsAt bytes (pos + 2) "DOCTYPE" then
      match doctypeEnd bytes (size + 1) 0 (pos + 9) with
      | some e =>
        if (slice bytes (pos + 9) e).toList.all (fun c => isXmlBlank c.toNat.toUInt8) then .failed .missingDoctypeName (e + 1)
        else .event .other (e + 1) stack
      | none => .failed .unclosedDoctype size
    else if pos + 2 ≥ size then .failed .unclosedTag size
    else .failed .invalidBang size
  | some 0x3F =>
    match findFrom bytes [0x3F, 0x3E] (pos + 2) with
    | some e => .event .other (e + 2) stack
    | none => .failed .unclosedInstruction size
  | some 0x2F =>
    match findFrom bytes [0x3E] (pos + 2) with
    | none => .failed .unclosedTag size
    | some e =>
      let name := String.ofList ((slice bytes (pos + 2) e).toList.reverse.dropWhile
        (fun (c : Char) => isXmlBlank c.toNat.toUInt8)).reverse
      match stack with
      | [] => .failed (.unmatchedEnd name) (e + 1)
      | top :: rest =>
        if top == name || !strict then .event (.close name) (e + 1) rest
        else .failed (.mismatchedEnd top name) (e + 1)
  | some _ =>
    match tagEnd bytes (size + 1) none (pos + 1) with
    | none => .failed .unclosedTag size
    | some e =>
      if e > pos + 1 && bytes.get! (e - 1) == 0x2F then
        let content := slice bytes (pos + 1) (e - 1)
        let name := tagName content
        .event (.empty name (content.drop name.length).toString) (e + 1) stack
      else
        let content := slice bytes (pos + 1) e
        let name := tagName content
        .event (.start name (content.drop name.length).toString) (e + 1) (name :: stack)

def step (strict : Bool) (bytes : ByteArray) (pos : Nat) (stack : List String) : Step :=
  if pos ≥ bytes.size then .done
  else if bytes.get! pos == 0x3C then markup strict bytes pos stack
  else
    let e := (findFrom bytes [0x3C] pos).getD bytes.size
    .event (.text (slice bytes pos e)) e stack

/-- Read events from `pos` until the end or an error: the events, and the error with its
position if one stopped the reading. -/
def eventsFrom (strict : Bool) (bytes : ByteArray) : Nat → Nat → List String → List Event →
    List Event × Option (ReadError × Nat)
  | 0, _, _, acc => (acc.reverse, none)
  | fuel + 1, pos, stack, acc =>
    match step strict bytes pos stack with
    | .done => (acc.reverse, none)
    | .failed e p => (acc.reverse, some (e, p))
    | .event e next stack => eventsFrom strict bytes fuel next stack (e :: acc)

def bodyStart (bytes : ByteArray) : Nat :=
  if bytes.size ≥ 3 && bytes.get! 0 == 0xEF && bytes.get! 1 == 0xBB && bytes.get! 2 == 0xBF
  then 3 else 0

/-- The events of a document, every end tag closing the innermost open tag. -/
def events (doc : String) : List Event × Option (ReadError × Nat) :=
  let bytes := doc.toUTF8
  eventsFrom true bytes (bytes.size + 1) (bodyStart bytes) [] []

/-- The events of a document whose end tags may name any open tag: each closes the innermost
one. -/
def looseEvents (doc : String) : List Event × Option (ReadError × Nat) :=
  let bytes := doc.toUTF8
  eventsFrom false bytes (bytes.size + 1) (bodyStart bytes) [] []

/-- The attributes of a tag from the text after its name: `key="value"` or `key='value'`
pairs, values raw. -/
def attributes (attrs : String) : List (String × String) :=
  let rec go (fuel : Nat) (cs : List Char) (acc : List (String × String)) :
      List (String × String) :=
    match fuel with
    | 0 => acc.reverse
    | fuel + 1 =>
      let cs := cs.dropWhile fun c => isXmlBlank c.toNat.toUInt8
      if cs.isEmpty then acc.reverse
      else
        let key := cs.takeWhile fun c => c != '=' && !isXmlBlank c.toNat.toUInt8
        let rest := (cs.drop key.length).dropWhile fun c => isXmlBlank c.toNat.toUInt8
        match rest with
        | '=' :: more =>
          let more := more.dropWhile fun c => isXmlBlank c.toNat.toUInt8
          match more with
          | q :: body =>
            if q = '"' || q = '\'' then
              let value := body.takeWhile (· != q)
              go fuel (body.drop (value.length + 1)) ((String.ofList key, String.ofList value) :: acc)
            else
              let value := more.takeWhile fun c => !isXmlBlank c.toNat.toUInt8
              go fuel (more.drop value.length) ((String.ofList key, String.ofList value) :: acc)
          | [] => ((String.ofList key, "") :: acc).reverse
        | _ => go fuel (rest.drop 1) ((String.ofList key, "") :: acc)
  go (attrs.length + 1) attrs.toList []

def attribute? (attrs : String) (key : String) : Option String :=
  ((attributes attrs).find? (·.1 == key)).map (·.2)

/-! ## Entity references -/

/-- Why a text's references could not be resolved. -/
inductive EscapeError where
  | unrecognized (start stop : Nat) (name : String)
  | unterminated (start stop : Nat)
  | unexpectedSign
  | invalidNumber (message : String)
  | invalidCodepoint (n : Nat)
  | illegalCharacter (n : Nat)
  deriving Repr, DecidableEq

def hexText (n : Nat) : String := String.ofList (Nat.toDigits 16 n)

def EscapeError.text : EscapeError → String
  | .unrecognized a b n => s!"at {a}..{b}: unrecognized entity `{n}`"
  | .unterminated a b =>
    s!"Error while escaping character at range {a}..{b}: Cannot find ';' after '&'"
  | .unexpectedSign => "invalid character reference: unexpected number sign"
  | .invalidNumber m => "invalid character reference: " ++ m
  | .invalidCodepoint n => s!"invalid character reference: `{n}` is not a valid codepoint"
  | .illegalCharacter n =>
    "invalid character reference: 0x" ++ hexText n ++ " character is not permitted in XML"

def digitIn (radix : Nat) (c : Char) : Option Nat :=
  let v := if c.isDigit then some (c.toNat - 48)
    else if 'a' ≤ c && c ≤ 'z' then some (c.toNat - 87)
    else if 'A' ≤ c && c ≤ 'Z' then some (c.toNat - 55)
    else none
  v.bind fun v => if v < radix then some v else none

def readNumber (radix : Nat) (digits : List Char) : Except EscapeError Nat :=
  match digits with
  | [] => .error (.invalidNumber "cannot parse integer from empty string")
  | _ =>
    digits.foldlM (fun acc c =>
      match digitIn radix c with
      | none => .error (.invalidNumber "invalid digit found in string")
      | some v =>
        let n := acc * radix + v
        if n ≥ Nat.pow 2 32 then .error (.invalidNumber "number too large to fit in target type")
        else .ok n) 0

def charReference (body : List Char) : Except EscapeError Char := do
  let (radix, digits) := match body with
    | 'x' :: rest => (16, rest)
    | _ => (10, body)
  match digits with
  | '+' :: _ | '-' :: _ => throw .unexpectedSign
  | _ => pure ()
  let n ← readNumber radix digits
  if n = 0 then throw (.illegalCharacter 0)
  if n > 0x10FFFF || (0xD800 ≤ n && n ≤ 0xDFFF) then throw (.invalidCodepoint n)
  pure (Char.ofNat n)

def predefined : String → Option String
  | "lt" => some "<"
  | "gt" => some ">"
  | "amp" => some "&"
  | "apos" => some "'"
  | "quot" => some "\""
  | _ => none

/-- Resolve the references of a raw text: `&name;` for the five predefined entities and
`&#n;`, `&#xh;` for characters. Positions in errors count bytes of the raw text. -/
def unescape (raw : String) : Except EscapeError String :=
  let bytes := raw.toUTF8
  let rec go (fuel : Nat) (pos : Nat) (acc : String) : Except EscapeError String :=
    match fuel with
    | 0 => .ok acc
    | fuel + 1 =>
      match findFrom bytes [0x26] pos with
      | none => .ok (acc ++ slice bytes pos bytes.size)
      | some amp =>
        let semi := findFrom bytes [0x3B] (amp + 1)
        let nextAmp := findFrom bytes [0x26] (amp + 1)
        match semi with
        | none => .error (.unterminated amp bytes.size)
        | some s =>
          if nextAmp.any (· < s) then .error (.unterminated amp bytes.size)
          else
            let name := slice bytes (amp + 1) s
            let acc := acc ++ slice bytes pos amp
            match name.toList with
            | '#' :: body =>
              match charReference body with
              | .error e => .error e
              | .ok c => go fuel (s + 1) (acc.push c)
            | _ =>
              match predefined name with
              | some v => go fuel (s + 1) (acc ++ v)
              | none => .error (.unrecognized (amp + 1) s name)
  go (bytes.size + 1) 0 ""

end KnowledgeDesk.Xml
