import KnowledgeDesk.Document.Kind
import KnowledgeDesk.Document.Office
import KnowledgeDesk.Text.Utf8

/-!
# Plain text of a document

The text of a document depends on its kind: plain text files are read as UTF-8 with each
ill-formed sequence replaced by `U+FFFD`, and the other kinds through the `Readers` of their
formats. Every text is then *normalised*: line breaks become
`\n`, each line loses its trailing blanks, and line breaks at the start and end are dropped.
-/

namespace KnowledgeDesk.Document

/-- Why the text of a document could not be had. -/
inductive ExtractError where
  | pdf (message : String)
  | office (message : String)
  deriving Repr, DecidableEq

/-- The text of an extraction error. -/
def ExtractError.text : ExtractError → String
  | .pdf m => "PDF解析失败：" ++ m
  | .office m => "Office文档解析失败：" ++ m

/-- The kind of an extraction error, by name. -/
def ExtractError.kind : ExtractError → String
  | .pdf _ => "Pdf"
  | .office _ => "Office"

/-- Line breaks as `\n`: `\r\n` and a lone `\r` both become `\n`. -/
def unifyBreaks : List Char → List Char
  | '\r' :: '\n' :: rest => '\n' :: unifyBreaks rest
  | '\r' :: rest => '\n' :: unifyBreaks rest
  | c :: rest => c :: unifyBreaks rest
  | [] => []

/-- The normal form of an extracted text. -/
def normalizeText (s : String) : String :=
  let unified := String.ofList (unifyBreaks s.toList)
  let lines := (Text.linesOf unified).map Text.trimEnd
  let joined := "\n".intercalate lines
  String.ofList ((joined.toList.dropWhile (· = '\n')).reverse.dropWhile (· = '\n')).reverse

/-- The raw text of a document of a kind. -/
def rawText (readers : Readers) (kind : DocumentKind) (bytes : ByteArray) :
    Except ExtractError String :=
  match kind with
  | .text => .ok (Text.stringOfBytesLossy bytes.toList)
  | .word => (wordText readers bytes).mapError .office
  | .powerPoint => (slidesText readers bytes).mapError .office
  | .excel => (workbookText readers bytes).mapError .office
  | .pdf => (readers.pdf bytes).mapError .pdf

/-- The normalised text of a document of a kind. -/
def extractText (readers : Readers) (kind : DocumentKind) (bytes : ByteArray) :
    Except ExtractError String :=
  (rawText readers kind bytes).map normalizeText

end KnowledgeDesk.Document
