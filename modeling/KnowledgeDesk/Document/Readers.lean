import KnowledgeDesk.Xml.Event

/-!
# Readers of document formats

The library reads plain text itself, and takes the readers of the formats inside other documents
from outside: zip archives, XML, workbooks and PDF. Each reader answers what it read, or its own
message when it cannot read; the library puts the name of what failed in front of it where it
knows one.
-/

namespace KnowledgeDesk.Document

/-- An opened zip archive: the names of its parts, and the text of a part by name. -/
structure Archive where
  names : List String
  readText : String → Except String String

/-- The readers of document formats. -/
structure Readers where
  /-- Open a zip archive. -/
  openZip : ByteArray → Except String Archive
  /-- The events of an XML text; when the reader stops at an error, its message and the number
  of bytes it had read. -/
  xmlEvents : String → List Xml.Event × Option (String × Nat)
  /-- The text of a raw XML text event, references resolved. -/
  unescape : String → Except String String
  /-- The sheets of a workbook in order, each with its name and the rows of its used range, a
  row as the texts of its cells, an empty cell as the empty text. -/
  workbook : ByteArray → Except String (List (String × Except String (List (List String))))
  /-- The text of a PDF document. -/
  pdf : ByteArray → Except String String

end KnowledgeDesk.Document
