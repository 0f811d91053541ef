import Std.Data.HashMap
import KnowledgeDesk.Archive.Zip
import KnowledgeDesk.Xml.Reader
import KnowledgeDesk.Number.Decimal
import KnowledgeDesk.Text.Blank

/-!
# Text of workbooks

A workbook is a zip archive of XML parts:

* `xl/workbook.xml` lists the sheets in order, each by name and by a relationship id;
* `xl/_rels/workbook.xml.rels` maps relationship ids to part paths relative to `xl/`;
* `xl/sharedStrings.xml`, if present, holds the strings that cells name by index;
* each sheet part holds rows of cells, each cell at a position such as `C5` and with a type.

Part names are matched without regard to ASCII case. Tags are matched by their local name (after
the first colon), and an empty tag reads as a start tag followed by its end tag.

A sheet is read as its *used range*: the rows from that of the first nonempty cell to that of
the last, the columns from the least to the greatest of any nonempty cell, each row as the texts
of its cells.
-/

namespace KnowledgeDesk.Document

open KnowledgeDesk.Archive KnowledgeDesk.Xml KnowledgeDesk.Number

/-! ## Cells -/

/-- The error values a formula can give. -/
inductive CellError where
  | divideByZero
  | notAvailable
  | badName
  | null
  | badNumber
  | badReference
  | badValue
  deriving Repr, DecidableEq

def CellError.text : CellError → String
  | .divideByZero => "#DIV/0!"
  | .notAvailable => "#N/A"
  | .badName => "#NAME?"
  | .null => "#NULL!"
  | .badNumber => "#NUM!"
  | .badReference => "#REF!"
  | .badValue => "#VALUE!"

def CellError.ofText? : String → Option CellError
  | "#DIV/0!" => some .divideByZero
  | "#N/A" => some .notAvailable
  | "#NAME?" => some .badName
  | "#NULL!" => some .null
  | "#NUM!" => some .badNumber
  | "#REF!" => some .badReference
  | "#VALUE!" => some .badValue
  | _ => none

/-- The value of a cell. -/
inductive CellValue where
  | empty
  | string (s : String)
  | number (x : Float)
  | bool (b : Bool)
  | error (e : CellError)

/-- The text of a cell value: numbers in their shortest positional form (`3`, `1.5`,
`1000000000000000000000`), truth values as `true` and `false`. -/
def CellValue.text : CellValue → String
  | .empty => ""
  | .string s => s
  | .number x => Float.plainText x
  | .bool b => if b then "true" else "false"
  | .error e => e.text

def CellValue.isEmpty : CellValue → Bool
  | .empty => true
  | _ => false

/-- A cell at a row and a column, both counted from zero. -/
structure Cell where
  row : Nat
  col : Nat
  value : CellValue

/-! ## Errors -/

/-- Why a workbook or one of its sheets could not be read. -/
inductive SheetError where
  /-- The archive could not be opened or an entry of it read. -/
  | archive (e : ZipError)
  /-- A part is no well-formed XML; the text says why. -/
  | xml (message : String)
  /-- A part ended while an end tag was still expected. -/
  | endOfPart (tag : String)
  /-- A required part is missing. -/
  | fileNotFound (path : String)
  /-- A sheet names a relationship that is not listed. -/
  | relationshipNotFound
  /-- An attribute has a value outside its set. -/
  | unrecognized (kind value : String)
  /-- No part holds a sheet of the name. -/
  | worksheetNotFound (name : String)
  /-- A number attribute or value is not a natural number. -/
  | parseInt (message : String)
  /-- A cell of error type holds no known error value. -/
  | cellError (value : String)
  /-- A cell's type is not a known one. -/
  | cellType (t : String)
  /-- Any other failure: a malformed cell position or number; the text says what. -/
  | other (message : String)
  /-- A cell names a shared string that is not there. -/
  | missingString (index : Nat)
  deriving Repr, DecidableEq

def upperHex (n : Nat) : String :=
  String.ofList ((Nat.toDigits 16 n).map Char.toUpper)

def SheetError.text : SheetError → String
  | .archive e => "Zip error: " ++ e.text
  | .xml m => "Xml error: " ++ m
  | .endOfPart t => "Unexpected end of xml, expecting '</" ++ t ++ ">'"
  | .fileNotFound p => "File not found '" ++ p ++ "'"
  | .relationshipNotFound => "Relationship not found"
  | .unrecognized k v => "Unrecognized " ++ k ++ ": " ++ v
  | .worksheetNotFound n => "Worksheet '" ++ n ++ "' not found"
  | .parseInt m => "Parse integer error: " ++ m
  | .cellError v => "Unsupported cell error value '" ++ v ++ "'"
  | .cellType t => "Unknown cell 't' attribute: \"" ++ t ++ "\""
  | .other m => m
  | .missingString i => "index out of bounds: the shared string " ++ toString i ++ " is missing"

/-- Read a natural number as an unsigned 64-bit number is read: an optional `+`, then decimal
digits. -/
def readIndex (s : String) : Except SheetError Nat :=
  let digits := match s.toList with
    | '+' :: rest => rest
    | cs => cs
  if s.isEmpty then .error (.parseInt "cannot parse integer from empty string")
  else if digits.isEmpty || !digits.all Char.isDigit then
    .error (.parseInt "invalid digit found in string")
  else
    let n := digits.foldl (fun acc c => acc * 10 + (c.toNat - 48)) 0
    if n < Nat.pow 2 64 then .ok n else .error (.parseInt "number too large to fit in target type")

/-! ## Reading parts as event feeds -/

/-- The events of a part still to read, and the error that stopped reading it, if one did. -/
structure Feed where
  events : List Event
  stop : Option ReadError

def expandEmpty : List Event → List Event
  | [] => []
  | .empty n a :: rest => .start n a :: .close n :: expandEmpty rest
  | e :: rest => e :: expandEmpty rest

def Feed.ofText (doc : String) : Feed :=
  let (evs, stop) := looseEvents doc
  ⟨expandEmpty evs, stop.map (·.1)⟩

/-- The next event, or the error that ends the feed: the reading error if one stopped it, else
the end of the part while `</tag>` was expected. -/
def Feed.pull (f : Feed) (tag : String) : Except SheetError (Event × Feed) :=
  match f.events with
  | e :: rest => .ok (e, { f with events := rest })
  | [] =>
    match f.stop with
    | some e => .error (.xml e.text)
    | none => .error (.endOfPart tag)

def Feed.fuel (f : Feed) : Nat := f.events.length + 1

def localName (name : String) : String :=
  match name.toList.dropWhile (· ≠ ':') with
  | _ :: rest => String.ofList rest
  | [] => name

def unescapeText (raw : String) : Except SheetError String :=
  (unescape raw).mapError fun e => .xml e.text

/-- The text inside an element whose start tag `name` was just read, up to its end tag:
the texts directly or deeply inside, references resolved; other markup is skipped. -/
def collectText (name tag : String) : Nat → Feed → String → Except SheetError (String × Feed)
  | 0, _, _ => .error (.endOfPart tag)
  | fuel + 1, f, acc => do
    let (ev, f) ← f.pull tag
    match ev with
    | .text raw => collectText name tag fuel f (acc ++ (← unescapeText raw))
    | .close n => if n == name then pure (acc, f) else collectText name tag fuel f acc
    | _ => collectText name tag fuel f acc

/-- Skip to the end tag of an element whose start tag `name` was just read, counting nested
elements of the same name. -/
def skipElement (name : String) : Nat → Nat → Feed → Except SheetError Feed
  | 0, _, _ => .error (.endOfPart name)
  | fuel + 1, depth, f =>
    match f.events with
    | [] =>
      match f.stop with
      | some e => .error (.xml e.text)
      | none => .error (.xml ("ill-formed document: start tag not closed: `</" ++ name ++
          ">` not found before end of input"))
    | ev :: rest =>
      let f := { f with events := rest }
      match ev with
      | .start n _ => skipElement name fuel (if n == name then depth + 1 else depth) f
      | .close n =>
        if n == name then
          if depth = 0 then .ok f else skipElement name fuel (depth - 1) f
        else skipElement name fuel depth f
      | _ => skipElement name fuel depth f

/-- The text of a string item whose start tag `closing` was just read: the text of its first
`t` element, or the joined texts of its `t` elements when it has rich text runs (`r`);
phonetic runs (`rPh`) are left out. An item with neither gives no string. -/
def readItem (closing : String) : Nat → Feed → Option String → Bool →
    Except SheetError (Option String × Feed)
  | 0, _, _, _ => .error (.endOfPart "")
  | fuel + 1, f, rich, phonetic => do
    let (ev, f) ← f.pull ""
    match ev with
    | .start n _ =>
      let l := localName n
      if l == "r" then readItem closing fuel f (some (rich.getD "")) phonetic
      else if l == "rPh" then readItem closing fuel f rich true
      else if l == "t" && !phonetic then
        let (value, f) ← collectText n "t" f.fuel f ""
        match rich with
        | some s => readItem closing fuel f (some (s ++ value)) phonetic
        | none =>
          let f ← skipElement closing f.fuel 0 f
          pure (some value, f)
      else readItem closing fuel f rich phonetic
    | .close n =>
      let l := localName n
      if l == closing then pure (rich, f)
      else if l == "rPh" then readItem closing fuel f rich false
      else readItem closing fuel f rich phonetic
    | _ => readItem closing fuel f rich phonetic

/-! ## Workbook parts -/

/-- A workbook opened: its archive, its shared strings and its sheets by name and part path,
in order. -/
structure Workbook where
  archive : Zip
  strings : Array String
  sheets : List (String × String)

def findPart (z : Zip) (path : String) : Option String :=
  z.names.find? fun n => n.toLower == path.toLower

def partFeed (z : Zip) (path : String) : Option (Except SheetError Feed) :=
  (findPart z path).map fun name =>
    match z.read name with
    | .ok bytes => .ok (Feed.ofText (Text.stringOfBytesLossy bytes.toList))
    | .error (.io m) => .error (.xml ("I/O error: " ++ m))
    | .error e => .error (.archive e)

def readStrings : Nat → Feed → Array String → Except SheetError (Array String)
  | 0, _, acc => .ok acc
  | fuel + 1, f, acc => do
    let (ev, f) ← f.pull "sst"
    match ev with
    | .start n _ =>
      if localName n == "si" then
        let (item, f) ← readItem n f.fuel f none false
        readStrings fuel f (match item with | some s => acc.push s | none => acc)
      else readStrings fuel f acc
    | .close n => if localName n == "sst" then pure acc else readStrings fuel f acc
    | _ => readStrings fuel f acc

def sharedStrings (z : Zip) : Except SheetError (Array String) :=
  match partFeed z "xl/sharedStrings.xml" with
  | none => .ok #[]
  | some feed => do
    let f ← feed
    readStrings f.fuel f #[]

/-- Read relationships: each `Relationship` tag's `Id` and raw `Target`, the latest first. -/
def readRelationships : List Event → List (String × String) → List (String × String)
  | [], acc => acc
  | .start n attrs :: rest, acc =>
    if localName n == "Relationship" then
      let id := (attribute? attrs "Id").getD ""
      let target := (attribute? attrs "Target").getD ""
      readRelationships rest ((id, target) :: acc)
    else readRelationships rest acc
  | _ :: rest, acc => readRelationships rest acc

def relationships (z : Zip) : Except SheetError (List (String × String)) :=
  match partFeed z "xl/_rels/workbook.xml.rels" with
  | none => .error (.fileNotFound "xl/_rels/workbook.xml.rels")
  | some feed => do
    let f ← feed
    let rels := readRelationships f.events []
    match f.stop with
    | some e => .error (.xml e.text)
    | none => pure rels

def targetPath (target : String) : String :=
  if target.startsWith "/xl/" then String.ofList (target.toList.drop 1)
  else if target.startsWith "xl/" then target
  else "xl/" ++ target

def secondSegment (path : String) : Option String :=
  (path.splitOn "/")[1]?

def sheetEntry (rels : List (String × String)) (attrs : String) :
    Except SheetError (String × String) := do
  let mut name := ""
  let mut path := ""
  for (key, value) in attributes attrs do
    if key == "name" then name ← unescapeText value
    else if key == "state" then
      let state ← unescapeText value
      unless state == "visible" || state == "hidden" || state == "veryHidden" do
        throw (.unrecognized "sheet:state" state)
    else if key == "r:id" || key == "relationships:id" then
      match rels.find? (·.1 == value) with
      | some (_, target) => path := targetPath target
      | none => throw .relationshipNotFound
  match secondSegment path with
  | some "worksheets" | some "chartsheets" | some "dialogsheets" => pure (name, path)
  | _ => throw (.unrecognized "sheet:type" path)

/-- Read the sheet list of a workbook part, up to the end of the workbook. -/
def readSheets (rels : List (String × String)) :
    Nat → Feed → List (String × String) → Except SheetError (List (String × String))
  | 0, _, acc => .ok acc.reverse
  | fuel + 1, f, acc => do
    let (ev, f) ← f.pull "workbook"
    match ev with
    | .start n attrs =>
      let l := localName n
      if l == "sheet" then
        let entry ← sheetEntry rels attrs
        readSheets rels fuel f (entry :: acc)
      else if l == "definedName" && (attributes attrs).any (·.1 == "name") then
        let _ ← unescapeText ((attribute? attrs "name").getD "")
        let (_, f) ← collectText n "definedName" f.fuel f ""
        readSheets rels fuel f acc
      else readSheets rels fuel f acc
    | .close n =>
      if localName n == "workbook" then pure acc.reverse else readSheets rels fuel f acc
    | _ => readSheets rels fuel f acc

/-- Open a workbook: its archive, shared strings, relationships and sheet list. A workbook
without a workbook part has no sheets. -/
def Workbook.open (bytes : ByteArray) : Except SheetError Workbook := do
  let z ← (Zip.open bytes).mapError .archive
  let strings ← sharedStrings z
  let rels ← relationships z
  let sheets ← match partFeed z "xl/workbook.xml" with
    | none => pure []
    | some feed => do
      let f ← feed
      readSheets rels f.fuel f []
  pure ⟨z, strings, sheets⟩

/-! ## Sheet parts -/

def readRow (s : String) : Except SheetError Nat := do
  let mut row := 0
  for c in s.toList do
    if c.isDigit then row := row * 10 + (c.toNat - 48)
    else throw (.other ("Expecting alphanumeric character, got " ++ upperHex c.toNat))
  if row = 0 then throw (.other "Range is missing the expected row component.")
  pure (row - 1)

/-- A cell position such as `C5` as a row and a column counted from zero: column letters in
either case, then row digits. -/
def readPosition (s : String) : Except SheetError (Nat × Nat) := do
  let letters := s.toList.takeWhile Char.isAlpha
  let digits := s.toList.drop letters.length
  if let some c := digits.find? (fun c => !c.isDigit) then
    if c.isAlpha then throw (.other "Range is missing the expected row component.")
    else throw (.other ("Expecting alphanumeric character, got " ++ upperHex c.toNat))
  let row ← readRow (String.ofList digits)
  let col : Nat := letters.foldl (fun acc c => acc * 26 + (c.toUpper.toNat - 64)) 0
  if col = 0 then throw (.other "Range is missing the expected column component.")
  pure (row, col - 1)

/-- The value of a cell from the text of its `v` element, by the cell's type attribute:
`s` an index into the shared strings, `b` a truth value, `e` an error value, `str` and `d`
text, `n` a number, and no type a number if the text reads as one and text otherwise. -/
def valueOf (strings : Array String) (cellAttrs : String) (v : String) :
    Except SheetError CellValue := do
  if let some style := attribute? cellAttrs "s" then
    let _ ← readIndex style
  match attribute? cellAttrs "t" with
  | some "s" =>
    if v.isEmpty then pure .empty
    else
      let i ← readIndex v
      match strings[i]? with
      | some s => pure (.string s)
      | none => throw (.missingString i)
  | some "b" => pure (.bool (v != "0"))
  | some "e" =>
    match CellError.ofText? v with
    | some e => pure (.error e)
    | none => throw (.cellError v)
  | some "d" => pure (.string v)
  | some "str" => pure (.string v)
  | some "n" =>
    if v.isEmpty then pure .empty
    else
      match parseFloat v with
      | .ok x => pure (.number x)
      | .error e => throw (.other ("Parse float error: " ++ e.message))
  | none =>
    match parseFloat v with
    | .ok x => pure (.number x)
    | .error _ => pure (.string v)
  | some "is" => throw (.other "called read_value on a cell of type inlineStr")
  | some t => throw (.cellType t)

/-- Read the inside of a cell whose start tag was just read, up to its end tag: the value of
its last child element (`v` a value, `is` an inline string, anything else nothing). -/
def readCell (strings : Array String) (cellAttrs : String) :
    Nat → Feed → CellValue → Except SheetError (CellValue × Feed)
  | 0, _, _ => .error (.endOfPart "c")
  | fuel + 1, f, value => do
    let (ev, f) ← f.pull "c"
    match ev with
    | .start n _ =>
      let l := localName n
      if l == "is" then
        let (item, f) ← readItem n f.fuel f none false
        readCell strings cellAttrs fuel f (match item with | some s => .string s | none => .empty)
      else if l == "v" then
        let (v, f) ← collectText n "v" f.fuel f ""
        readCell strings cellAttrs fuel f (← valueOf strings cellAttrs v)
      else
        let f ← skipElement n f.fuel 0 f
        readCell strings cellAttrs fuel f .empty
    | .close n => if localName n == "c" then pure (value, f) else readCell strings cellAttrs fuel f value
    | _ => readCell strings cellAttrs fuel f value

/-- Read the cells of a sheet's data, nonempty ones kept in order. A row or cell without a
position takes the one after the previous. -/
def readCells (strings : Array String) :
    Nat → Feed → Nat → Nat → List Cell → Except SheetError (List Cell)
  | 0, _, _, _, acc => .ok acc.reverse
  | fuel + 1, f, row, col, acc => do
    let (ev, f) ← f.pull "sheetData"
    match ev with
    | .start n attrs =>
      let l := localName n
      if l == "row" then
        match attribute? attrs "r" with
        | some r => readCells strings fuel f (← readRow r) col acc
        | none => readCells strings fuel f row col acc
      else if l == "c" then
        let (r, c) ← match attribute? attrs "r" with
          | some p => readPosition p
          | none => pure (row, col)
        let (value, f) ← readCell strings attrs f.fuel f .empty
        let acc := if value.isEmpty then acc else ⟨r, c, value⟩ :: acc
        readCells strings fuel f r (c + 1) acc
      else readCells strings fuel f row col acc
    | .close n =>
      let l := localName n
      if l == "row" then readCells strings fuel f (row + 1) 0 acc
      else if l == "sheetData" then pure acc.reverse
      else readCells strings fuel f row col acc
    | _ => readCells strings fuel f row col acc

/-- Skip a sheet part up to the start of its data; a `dimension` tag must have a `ref`. -/
def skipToData : Nat → Feed → Except SheetError Feed
  | 0, _ => .error (.endOfPart "sheetData")
  | fuel + 1, f => do
    let (ev, f) ← f.pull "sheetData"
    match ev with
    | .start n attrs =>
      let l := localName n
      if l == "sheetData" then pure f
      else if l == "dimension" && !(attributes attrs).any (·.1 == "ref") then
        throw (.other "Expecting 'dimension' node")
      else skipToData fuel f
    | _ => skipToData fuel f

def Workbook.cells (w : Workbook) (name : String) : Except SheetError (List Cell) := do
  let some (_, path) := w.sheets.find? (·.1 == name) | throw (.worksheetNotFound name)
  let some feed := partFeed w.archive path | throw (.worksheetNotFound name)
  let f ← feed
  let f ← skipToData f.fuel f
  readCells w.strings f.fuel f 0 0 []

/-! ## Used range -/

/-- The rows of the used range of some cells: rows from that of the first cell to that of the
last, columns from the least to the greatest, a missing cell empty, a later cell at a position
replacing an earlier one; each row as its cells' texts. -/
def rangeRows (cells : List Cell) : List (List String) :=
  match cells.head?, cells.getLast? with
  | some first, some last =>
    let rowStart := first.row
    let rows := last.row + 1 - rowStart
    let colStart := (cells.map (·.col)).foldl min first.col
    let colEnd := (cells.map (·.col)).foldl max first.col
    let grid : Std.HashMap (Nat × Nat) CellValue := cells.foldl (fun m c =>
      if rowStart ≤ c.row && c.row < rowStart + rows then m.insert (c.row, c.col) c.value
      else m) {}
    (List.range rows).map fun r =>
      (List.range (colEnd + 1 - colStart)).map fun k =>
        (grid.getD (rowStart + r, colStart + k) .empty).text
  | _, _ => []

/-- The sheets of a workbook in order, each with its name and the rows of its used range. -/
def Workbook.sheetRows (bytes : ByteArray) :
    Except String (List (String × Except String (List (List String)))) := do
  let w ← (Workbook.open bytes).mapError (·.text)
  pure (w.sheets.map fun (name, _) => (name, ((w.cells name).map rangeRows).mapError (·.text)))

end KnowledgeDesk.Document
