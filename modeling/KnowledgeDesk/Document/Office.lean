import KnowledgeDesk.Document.Readers
import KnowledgeDesk.Text.Blank

/-!
# Text of office documents

Word processing documents and slide decks are zip archives of XML parts. The text of a part is
the text inside its *text runs* (`w:t` in documents, `a:t` in slides, references resolved), and
every end of a *paragraph* (`w:p`, `a:p`, or an empty paragraph tag) ends a line. A document's
text is that of `word/document.xml`; a deck's is that of its slides `ppt/slides/slideN.xml`, in
order of `N` (a 32-bit number), each followed by a line break.

A workbook's text is that of its sheets in order: each row of a sheet's used range is its cells'
texts joined by tabs, a row whose line is blank is left out, and every other line ends with a
line break. An error in a sheet names the sheet.
-/

namespace KnowledgeDesk.Document

open KnowledgeDesk.Xml

variable (readers : Readers)

/-- The text runs of a part, a line break after each paragraph. -/
def runText (xml : String) (textTag paraTag : String) : Except String String :=
  let (evs, failure) := readers.xmlEvents xml
  let rec go : List Event → Bool → String → Except String String
    | [], _, out =>
      match failure with
      | some (e, pos) => .error s!"XML error at position {pos}: {e}"
      | none => .ok out
    | ev :: rest, inText, out =>
      match ev with
      | .start n _ => go rest (inText || n == textTag) out
      | .close n =>
        if n == textTag then go rest false out
        else if n == paraTag then go rest inText (out.push '\n')
        else go rest inText out
      | .empty n _ => go rest inText (if n == paraTag then out.push '\n' else out)
      | .text raw =>
        if inText then
          match readers.unescape raw with
          | .ok t => go rest inText (out ++ t)
          | .error e => .error e
        else go rest inText out
      | _ => go rest inText out
  go evs false ""

/-- The text of an archive part, an error prefixed with the part's name. -/
def partText (z : Archive) (name : String) : Except String String :=
  (z.readText name).mapError fun e => name ++ ": " ++ e

/-- The text of a word processing document. -/
def wordText (bytes : ByteArray) : Except String String := do
  let z ← readers.openZip bytes
  runText readers (← partText z "word/document.xml") "w:t" "w:p"

/-- A 32-bit number as written in a name: an optional `+` and decimal digits. -/
def readU32 (s : String) : Option Nat :=
  let digits := match s.toList with
    | '+' :: rest => rest
    | cs => cs
  if digits.isEmpty || !digits.all Char.isDigit then none
  else
    let n := digits.foldl (fun acc c => acc * 10 + (c.toNat - 48)) 0
    if n < Nat.pow 2 32 then some n else none

/-- The number of a slide part, if the name is one. -/
def slideNumber (name : String) : Option Nat :=
  let pre := "ppt/slides/slide"
  let post := ".xml"
  if name.startsWith pre && name.endsWith post && name.length ≥ pre.length + post.length then
    readU32 (String.ofList ((name.toList.drop pre.length).take (name.length - pre.length - post.length)))
  else none

/-- The text of a slide deck. -/
def slidesText (bytes : ByteArray) : Except String String := do
  let z ← readers.openZip bytes
  let slides := z.names.filterMap fun n => (slideNumber n).map (·, n)
  let slides := slides.mergeSort fun a b => a.1 ≤ b.1
  let mut out := ""
  for (_, name) in slides do
    out := out ++ (← runText readers (← partText z name) "a:t" "a:p") ++ "\n"
  pure out

/-- The text of a sheet's rows: the lines that are not blank, each ending in a line break. -/
def sheetText (rows : List (List String)) : String :=
  String.join (((rows.map ("\t".intercalate ·)).filter fun l => !Text.isBlankText l).map (· ++ "\n"))

/-- The text of a workbook: its sheets' texts in order; an error in a sheet names the sheet. -/
def workbookText (bytes : ByteArray) : Except String String := do
  let sheets ← readers.workbook bytes
  let mut out := ""
  for (name, rows) in sheets do
    let rows ← rows.mapError fun e => name ++ ": " ++ e
    out := out ++ sheetText rows
  pure out

end KnowledgeDesk.Document
