import KnowledgeDesk.Text.Blank

/-!
# Document kinds

An uploaded file is read by the reader its kind names, and the kind comes from the file name
alone: the text after the last `.`, in ASCII lower case. Four extensions are known; every other
name, one without a `.` included, is read as plain text.
-/

namespace KnowledgeDesk

/-- The kinds of document the library reads. -/
inductive DocumentKind where
  | pdf
  | word
  | powerPoint
  | excel
  | text
  deriving Repr, DecidableEq, Inhabited

namespace DocumentKind

/-- The extension of a file name: what follows its last `.`, if it has one. -/
def extensionOf (name : String) : Option String :=
  let parts := name.splitOn "."
  if parts.length ≤ 1 then none else parts.getLast?

/-- The kind of a file, from its name. -/
def ofFileName (name : String) : DocumentKind :=
  match (extensionOf name).map (fun e => String.ofList (e.toList.map Char.toLower)) with
  | some "pdf" => .pdf
  | some "docx" => .word
  | some "pptx" => .powerPoint
  | some "xlsx" => .excel
  | _ => .text

/-- The name of a kind. -/
def name : DocumentKind → String
  | .pdf => "pdf"
  | .word => "word"
  | .powerPoint => "powerpoint"
  | .excel => "excel"
  | .text => "text"

/-- The kind a name names. -/
def ofName? : String → Option DocumentKind
  | "pdf" => some .pdf
  | "word" => some .word
  | "powerpoint" => some .powerPoint
  | "excel" => some .excel
  | "text" => some .text
  | _ => none

end DocumentKind

end KnowledgeDesk
