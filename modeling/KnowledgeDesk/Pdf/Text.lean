import KnowledgeDesk.Pdf.Font
import KnowledgeDesk.Pdf.Content

/-!
# Text of a PDF

The pages' content streams are run in order, and every character a text operator shows is
written out where it lands. Positions are in page space flipped so that `y` grows downwards
(`y' = height - y`). Before the first character of each shown string:

* a line break is written when it lies more than one and a half text sizes above or below the
  previous character;
* another when it lies to the left of where the previous one ended and more than half a size
  above or below it;
* a space when it starts more than a tenth of a size to the right of where the previous one
  ended.

Text size here is the size transformed to the page: the side of the square with the area of
the transformed `(size, size)` vector's rectangle. The state of this writing carries over from
page to page.

Text positioning follows the usual operators: `BT`, `ET`, `Td`, `TD`, `T*`, `Tm`, `Tc`, `Tw`,
`Tz`, `TL`, `Ts`, `Tf`, `cm`, `q`, `Q`, `Tj` and `TJ` (whose numbers move the text left by
thousandths of the size). Other operators change nothing here.
-/

namespace KnowledgeDesk.Pdf

/-- An affine map of the plane as a matrix `[a b 0; c d 0; e f 1]` acting on row vectors. -/
structure Matrix where
  a : Float
  b : Float
  c : Float
  d : Float
  e : Float
  f : Float

def Matrix.identity : Matrix := ⟨1, 0, 0, 1, 0, 0⟩

def Matrix.translation (tx ty : Float) : Matrix := ⟨1, 0, 0, 1, tx, ty⟩

/-- `m` followed by `n`: the product `m · n`. -/
def Matrix.andThen (m n : Matrix) : Matrix :=
  ⟨m.a * n.a + m.b * n.c, m.a * n.b + m.b * n.d, m.c * n.a + m.d * n.c, m.c * n.b + m.d * n.d,
    m.e * n.a + m.f * n.c + n.e, m.e * n.b + m.f * n.d + n.f⟩

def Matrix.vector (m : Matrix) (x y : Float) : Float × Float :=
  (x * m.a + y * m.c, x * m.b + y * m.d)

structure TextState where
  font : Option SimpleFont
  size : Float
  charSpacing : Float
  wordSpacing : Float
  scale : Float
  leading : Float
  rise : Float
  matrix : Matrix

structure Graphics where
  text : TextState
  ctm : Matrix

/-- The state at the start of a content stream; the size is undefined until a font is set. -/
def Graphics.initial : Graphics :=
  ⟨⟨none, (0 : Float) / 0, 0, 0, 1, 0, 0, .identity⟩, .identity⟩

/-- What has been written and where the last character ended. -/
structure Writer where
  out : String
  lastEnd : Float
  lastY : Float
  firstChar : Bool
  flip : Matrix

def Writer.initial : Writer := ⟨"", 100000, 0, false, .identity⟩

/-- Write one character placed by `trm`, `width` wide in text space units. -/
def Writer.put (w : Writer) (trm : Matrix) (width size : Float) (ch : Char) : Writer :=
  let position := trm.andThen w.flip
  let (vx, vy) := trm.vector size size
  let tsize := Float.sqrt (vx * vy)
  let x := position.e
  let y := position.f
  let dy := Float.abs (y - w.lastY)
  let out := if w.firstChar then
      let out := if dy > tsize * 1.5 then w.out.push '\n' else w.out
      let out := if x < w.lastEnd && dy > tsize * 0.5 then out.push '\n' else out
      if x > w.lastEnd + tsize * 0.1 then out.push ' ' else out
    else w.out
  { w with out := out.push ch, firstChar := false, lastY := y, lastEnd := x + width * tsize }

/-- Show a string's codes one by one, each placed and then advanced past. -/
def showCodes (font : SimpleFont) (ctm : Matrix) : List UInt8 → TextState → Writer →
    TextState × Writer
  | [], ts, w => (ts, w)
  | code :: rest, ts, w =>
    let tsm : Matrix := ⟨ts.scale, 0, 0, 1, 0, ts.rise⟩
    let trm := tsm.andThen (ts.matrix.andThen ctm)
    let w0 := font.width code.toNat / 1000
    let spacing := if code == 32 then ts.charSpacing + ts.wordSpacing else ts.charSpacing
    let w := w.put trm w0 ts.size (font.decode code.toNat)
    let tx := ts.scale * ((w0 - 0 / 1000) * ts.size + spacing)
    showCodes font ctm rest { ts with matrix := (Matrix.translation tx 0).andThen ts.matrix } w

/-- Show a string with the current font; without a font nothing is shown. -/
def showText (g : Graphics) (bytes : List UInt8) (w : Writer) : Graphics × Writer :=
  match g.text.font with
  | none => (g, w)
  | some font =>
    let (ts, w) := showCodes font g.ctm bytes g.text { w with firstChar := true }
    ({ g with text := ts }, w)

/-- Move the text left by `n` thousandths of the size, as a number in a `TJ` array does. -/
def adjustText (g : Graphics) (n : Float) : Graphics :=
  let ts := g.text
  let tx := ts.scale * ((0 - n / 1000) * ts.size)
  { g with text := { ts with matrix := (Matrix.translation tx 0).andThen ts.matrix } }

def matrixOf : List Obj → Option Matrix
  | [a, b, c, d, e, f] => do
    pure ⟨← a.number?, ← b.number?, ← c.number?, ← d.number?, ← e.number?, ← f.number?⟩
  | _ => none

/-- The state of a content stream being run. -/
structure Run where
  g : Graphics
  line : Matrix
  saved : List Graphics
  w : Writer

def Run.setLine (r : Run) (m : Matrix) : Run :=
  { r with line := m, g := { r.g with text := { r.g.text with matrix := m } } }

def Run.withText (r : Run) (f : TextState → TextState) : Run :=
  { r with g := { r.g with text := f r.g.text } }

/-- Run one operation, with the page's resources. -/
def Run.step (doc : Document) (resources : List (String × Obj)) (r : Run) (op : Operation) : Run :=
  match op.operator, op.operands with
  | "BT", _ | "ET", _ => r.setLine .identity
  | "cm", args =>
    match matrixOf args with
    | some m => { r with g := { r.g with ctm := m.andThen r.g.ctm } }
    | none => r
  | "Tj", .str bytes :: _ =>
    let (g, w) := showText r.g bytes r.w
    { r with g := g, w := w }
  | "TJ", .array items :: _ =>
    let (g, w) := items.foldl (fun (g, w) item =>
      match item with
      | .str bytes => showText g bytes w
      | .int n => (adjustText g (Float.ofInt n), w)
      | .real x => (adjustText g x, w)
      | _ => (g, w)) (r.g, r.w)
    { r with g := g, w := w }
  | "Tc", x :: _ => match x.number? with
    | some v => r.withText fun ts => { ts with charSpacing := v }
    | none => r
  | "Tw", x :: _ => match x.number? with
    | some v => r.withText fun ts => { ts with wordSpacing := v }
    | none => r
  | "Tz", x :: _ => match x.number? with
    | some v => r.withText fun ts => { ts with scale := v / 100 }
    | none => r
  | "TL", x :: _ => match x.number? with
    | some v => r.withText fun ts => { ts with leading := v }
    | none => r
  | "Ts", x :: _ => match x.number? with
    | some v => r.withText fun ts => { ts with rise := v }
    | none => r
  | "Tf", .name n :: size :: _ =>
    let fonts := (lookup resources "Font").bind doc.dictOf
    let font := fonts.bind (lookup · n) |>.bind doc.dictOf |>.map (SimpleFont.ofDict doc)
    match size.number? with
    | some s => r.withText fun ts => { ts with font := font, size := s }
    | none => r
  | "Tm", args =>
    match matrixOf args with
    | some m => r.setLine m
    | none => r
  | "Td", [x, y] =>
    match x.number?, y.number? with
    | some tx, some ty => r.setLine ((Matrix.translation tx ty).andThen r.line)
    | _, _ => r
  | "TD", [x, y] =>
    match x.number?, y.number? with
    | some tx, some ty =>
      (r.withText fun ts => { ts with leading := -ty }).setLine
        ((Matrix.translation tx ty).andThen r.line)
    | _, _ => r
  | "T*", _ => r.setLine ((Matrix.translation 0 (-r.g.text.leading)).andThen r.line)
  | "q", _ => { r with saved := r.g :: r.saved }
  | "Q", _ =>
    match r.saved with
    | g :: rest => { r with g := g, saved := rest }
    | [] => r
  | _, _ => r

/-- The height of a page: the top of its media box less the bottom, inherited if need be. -/
def Document.pageHeight (doc : Document) (page : List (String × Obj)) : Float :=
  match (doc.inherited 64 page "MediaBox").bind doc.numbers with
  | some (_ :: lly :: _ :: ury :: _) => ury - lly
  | _ => 0

def Document.writePage (doc : Document) (w : Writer) (page : Nat × Nat) : Writer :=
  match doc.dictAt page with
  | none => w
  | some dict =>
    let resources := ((doc.inherited 64 dict "Resources").bind doc.dictOf).getD []
    let w := { w with flip := ⟨1, 0, 0, -1, 0, doc.pageHeight dict⟩ }
    let ops := operations (doc.pageContent page)
    (ops.foldl (Run.step doc resources) ⟨.initial, .identity, [], w⟩).w

def extractPdf (bytes : ByteArray) : Except PdfError String := do
  let doc ← Document.load bytes
  pure (doc.pages.foldl doc.writePage .initial).out

end KnowledgeDesk.Pdf
