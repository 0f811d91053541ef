import KnowledgeDesk.Document.Readers
import KnowledgeDesk.Archive.Zip
import KnowledgeDesk.Xml.Reader
import KnowledgeDesk.Document.Sheet
import KnowledgeDesk.Pdf.Text

/-!
# The library's own readers of document formats

Readers for every format a document may come in, as this library implements them: zip archives
with stored and deflated parts, XML read strictly, workbooks of shared strings and sheets, and
the text of PDF pages.
-/

namespace KnowledgeDesk.Document

/-- The readers this library implements. -/
def builtinReaders : Readers where
  openZip bytes := (Archive.Zip.open bytes).map
    (fun z => ⟨z.names, fun name => (z.readText name).mapError (·.text)⟩) |>.mapError (·.text)
  xmlEvents xml :=
    let (evs, failure) := Xml.events xml
    (evs, failure.map fun (e, pos) => (e.text, pos))
  unescape raw := (Xml.unescape raw).mapError (·.text)
  workbook := Workbook.sheetRows
  pdf bytes := (Pdf.extractPdf bytes).mapError ("PDF error: " ++ ·.text)

end KnowledgeDesk.Document
