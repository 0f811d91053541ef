import Std.Data.HashMap
import KnowledgeDesk.Pdf.File
import KnowledgeDesk.Pdf.Encoding
import KnowledgeDesk.Pdf.Metrics

/-!
# Fonts for text extraction

Every byte of a shown string is one character code. A font turns a code into a character and
gives its advance width, in thousandths of the text size.

* The *encoding* comes from the font's `Encoding`: a named table, or a dictionary with an
  optional `BaseEncoding` (else `PDFDocEncoding`) changed by its `Differences`. A TrueType font
  without one uses `WinAnsiEncoding`; a core font without one uses its built-in standard
  encoding; any other font without one decodes by `PDFDocEncoding`.
* The *widths* of a core font without `Widths` come from its metrics, matched to codes through
  the encoding's characters. Otherwise `Widths` lists them from `FirstChar` on. A code without a
  width has the font's `MissingWidth`, or zero.
-/

namespace KnowledgeDesk.Pdf

/-- A font as text extraction sees it. -/
structure SimpleFont where
  widths : Std.HashMap Nat Float
  encoding : Option (Array Nat)
  missingWidth : Float

/-- The advance width of a code. -/
def SimpleFont.width (f : SimpleFont) (code : Nat) : Float := f.widths.getD code f.missingWidth

/-- The character of a code: by the font's encoding, or by `PDFDocEncoding` if it has none. -/
def SimpleFont.decode (f : SimpleFont) (code : Nat) : Char :=
  Char.ofNat ((f.encoding.getD pdfDocTable)[code]?.getD 0)

/-- Apply an encoding's `Differences` to a table: a number sets the next code, a glyph name
gives the next code its character (an unknown name leaves it) and moves on. -/
def applyDifferences (doc : Document) (table : Array Nat) (items : List Obj) : Array Nat :=
  (items.foldl (fun (t, code) o =>
    match doc.deref o with
    | some (.int i) => (t, i.toNat)
    | some (.name n) =>
      match glyphChar? n with
      | some c => (t.set! code c, code + 1)
      | none => (t, code + 1)
    | _ => (t, code)) (table, 0)).1

/-- The encoding table a font dictionary gives, if any. -/
def fontEncoding (doc : Document) (font : List (String × Obj)) (subtype : String) :
    Option (Array Nat) :=
  match (lookup font "Encoding").bind doc.deref with
  | some (.name n) => some ((namedEncoding? n).getD winAnsiTable)
  | some (.dict es) =>
    let base := match (lookup es "BaseEncoding").bind doc.deref with
      | some (.name n) => (namedEncoding? n).getD winAnsiTable
      | _ => pdfDocTable
    match (lookup es "Differences").bind doc.deref with
    | some (.array items) => some (applyDifferences doc base items)
    | _ => some base
  | some _ => none
  | none => if subtype == "TrueType" then some winAnsiTable else none

/-- A name-valued entry of a dictionary, references followed. -/
def nameEntry (doc : Document) (entries : List (String × Obj)) (key : String) : String :=
  ((lookup entries key).bind doc.deref |>.bind Obj.name?).getD ""

/-- The font a font dictionary describes. -/
def SimpleFont.ofDict (doc : Document) (font : List (String × Obj)) : SimpleFont :=
  let base := nameEntry doc font "BaseFont"
  let subtype := nameEntry doc font "Subtype"
  let encoding := fontEncoding doc font subtype
  let missing := ((lookup font "MissingWidth").bind doc.deref |>.bind Obj.number?).getD 0
  if isCoreFont base && (lookup font "Widths").isNone then
    let metrics := coreMetrics base
    match metrics with
    | .unknown => ⟨{}, encoding, missing⟩
    | _ =>
      let table := encoding.getD standardTable
      let widths := (List.range 256).foldl (fun m code =>
        match table[code]? with
        | some c =>
          if c = 0 then m
          else match metrics.width? c with
            | some w => m.insert code w.toFloat
            | none => m
        | none => m) {}
      ⟨widths, some table, missing⟩
  else
    let first := ((lookup font "FirstChar").bind doc.deref |>.bind Obj.int?).getD 0
    let widths := ((lookup font "Widths").bind doc.numbers).getD []
    let map := widths.zipIdx.foldl (fun m (w, i) => m.insert (first + i).toNat w) {}
    ⟨map, encoding, missing⟩

end KnowledgeDesk.Pdf
