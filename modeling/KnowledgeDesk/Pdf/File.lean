import Std.Data.HashMap
import KnowledgeDesk.Pdf.Syntax
import KnowledgeDesk.Archive.Inflate

/-!
# PDF files

A file starts with a header `%PDF-version` ending in a line break. Near its end, `startxref`
gives the offset of the cross-reference table, which lists where each numbered object starts,
followed by the trailer dictionary; a `Prev` entry in a trailer points at an older table whose
entries count where the newer ones have none.

The objects are read from their offsets. An object that cannot be read is left out. A stream's
data is as long as its `Length` says, directly or through a reference; a stream whose data does
not end with `endstream` there reads as its bare dictionary, and one without a usable length
has no data.

Pages are found by walking the page tree from the catalog (the trailer's `Root`): a kid of type
`Page` is a page, one of type `Pages` is walked in turn, at most 256 levels deep, unless it lists
itself among its own kids.
-/

namespace KnowledgeDesk.Pdf

open KnowledgeDesk.Archive

/-- Why a file could not be read. -/
inductive PdfError where
  | header
  | xrefStart
  | xrefPrevStart
  | trailer
  deriving Repr, DecidableEq

def PdfError.text : PdfError → String
  | .header => "Invalid file header"
  | .xrefStart => "Invalid cross-reference table (invalid start value)"
  | .xrefPrevStart => "Invalid cross-reference table (invalid start value in Prev field)"
  | .trailer => "Invalid file trailer"

/-! ## Header and table position -/

/-- Whether a file starts with a valid header: `%PDF-`, a version in UTF-8 up to a line break,
the line break. -/
def validHeader (s : ByteArray) : Bool :=
  hasAt s 0 "%PDF-" &&
    let e := lineEnd s s.size 5
    (eolEnd s e).isSome && (String.fromUTF8? (s.extract 5 e)).isSome

def lastIndexFrom (s : ByteArray) (word : String) (start : Nat) : Option Nat :=
  ((List.range (s.size + 1 - start)).reverse.find? fun i => hasAt s (start + i) word).map
    (start + ·)

/-- The offset written after `startxref` at `p`: the keyword, a line break, the number between
spaces, a line break and `%%EOF`. -/
def startxrefAt (s : ByteArray) (p : Nat) : Option Int := do
  unless hasAt s p "startxref" do none
  let q ← eolEnd s (p + 9)
  let skipSpaces (r : Nat) : Nat := r + ((List.range (s.size - r)).find? (fun i => s[r + i]? != some 0x20)).getD (s.size - r)
  let (n, r) ← integerAt s (skipSpaces q)
  let e ← eolEnd s (skipSpaces r)
  if hasAt s e "%%EOF" then pure n else none

/-- The offset of the cross-reference table: `%%EOF` is looked for in the last 512 bytes and
`startxref` from 25 bytes before it. -/
def xrefStart (s : ByteArray) : Except PdfError Nat := do
  let seek := s.size - min s.size 512
  let some eof := lastIndexFrom s "%%EOF" seek | throw .xrefStart
  unless eof > 25 do throw .xrefStart
  let some mark := lastIndexFrom s "startxref" (eof - 25) | throw .xrefStart
  let some n := startxrefAt s mark | throw .xrefStart
  if n < 0 || n.toNat > s.size then throw .xrefStart
  pure n.toNat

/-! ## Cross-reference tables -/

/-- Where an object starts and its generation. -/
structure XrefEntry where
  offset : Nat
  gen : Nat

def rowEnd (s : ByteArray) (p : Nat) : Option Nat :=
  if hasAt s p " \r" || hasAt s p " \n" || hasAt s p "\r\n" then some (p + 2) else none

/-- One row `offset gen n` or `offset gen f`: the entry, whether it is in use, and the position
after it. -/
def rowAt (s : ByteArray) (p : Nat) : Option (XrefEntry × Bool × Nat) := do
  let (offset, q) ← unsignedAt s p (Nat.pow 2 32)
  unless s[q]? == some 0x20 do none
  let (gen, r) ← unsignedAt s (q + 1) (Nat.pow 2 16)
  unless s[r]? == some 0x20 do none
  let used ← match s[r + 1]? with
    | some 0x6E => some true
    | some 0x66 => some false
    | _ => none
  let e ← rowEnd s (r + 2)
  pure (⟨offset, gen⟩, used, e)

def rowsAt (s : ByteArray) : Nat → Nat → Nat → List (Nat × XrefEntry) →
    List (Nat × XrefEntry) × Nat
  | 0, _, p, acc => (acc, p)
  | fuel + 1, n, p, acc =>
    match rowAt s p with
    | some (e, used, q) => rowsAt s fuel (n + 1) q (if used then (n, e) :: acc else acc)
    | none => (acc, p)

def sectionAt (s : ByteArray) (p : Nat) : Option (List (Nat × XrefEntry) × Nat) := do
  let (first, q) ← unsignedAt s p (Nat.pow 2 64)
  unless s[q]? == some 0x20 do none
  let (_, r) ← unsignedAt s (q + 1) (Nat.pow 2 32)
  let r := if s[r]? == some 0x20 then r + 1 else r
  let e ← eolEnd s r
  pure (rowsAt s s.size first e [])

def sectionsAt (s : ByteArray) : Nat → Nat → List (Nat × XrefEntry) →
    List (Nat × XrefEntry) × Nat
  | 0, p, acc => (acc, p)
  | fuel + 1, p, acc =>
    match sectionAt s p with
    | some (rows, q) => sectionsAt s fuel q (rows ++ acc)
    | none => (acc, p)

/-- A table and its trailer at `p`: `xref`, a line break, at least one section, then
`trailer` and a dictionary. The rows are given latest first. -/
def tableAt (s : ByteArray) (p : Nat) : Option (List (Nat × XrefEntry) × List (String × Obj)) := do
  unless hasAt s p "xref" do none
  let q ← eolEnd s (p + 4)
  let first ← sectionAt s q
  let (rows, r) := sectionsAt s s.size first.2 first.1
  let r := space s r
  unless hasAt s r "trailer" do none
  match bodyObjectAt s (space s (r + 7)) with
  | some (.dict es, _) => pure (rows, es)
  | _ => none

/-- The entry of each object number: the first row found for it among rows given latest
first. -/
def addRows (table : Std.HashMap Nat XrefEntry) (rows : List (Nat × XrefEntry)) :
    Std.HashMap Nat XrefEntry :=
  rows.foldr (fun (n, e) t => t.insert n e) table

def addOlder (table : Std.HashMap Nat XrefEntry) (rows : List (Nat × XrefEntry)) :
    Std.HashMap Nat XrefEntry :=
  (addRows {} rows).fold (fun t n e => if t.contains n then t else t.insert n e) table

/-- Follow the `Prev` chain from an offset, adding older rows; offsets seen are not read
again. -/
def followPrev (s : ByteArray) : Nat → Option Obj → List Int → Std.HashMap Nat XrefEntry →
    Except PdfError (Std.HashMap Nat XrefEntry)
  | 0, _, _, table => .ok table
  | fuel + 1, prev, seen, table =>
    match prev with
    | some (.int n) =>
      if seen.contains n then .ok table
      else if n < 0 || n.toNat > s.size then .error .xrefPrevStart
      else
        match tableAt s n.toNat with
        | some (rows, trailer) =>
          followPrev s fuel (lookup trailer "Prev") (n :: seen) (addOlder table rows)
        | none => .error .trailer
    | _ => .ok table

/-! ## Objects -/

structure Source where
  bytes : ByteArray
  table : Std.HashMap Nat XrefEntry

def objectIdAt (s : ByteArray) (p : Nat) : Option ((Nat × Nat) × Nat) := do
  let (n, q) ← unsignedAt s (space s p) (Nat.pow 2 32)
  let (g, r) ← unsignedAt s (space s q) (Nat.pow 2 16)
  let r := space s r
  if hasAt s r "obj" then pure ((n, g), space s (r + 3)) else none

mutual

/-- Read the object at an offset, which must carry `expected` as its id if one is given; `seen`
holds the ids being read, so a length cannot lead back to its own stream. -/
def readObject (src : Source) : Nat → Nat → Option (Nat × Nat) → List (Nat × Nat) →
    Option ((Nat × Nat) × Obj)
  | 0, _, _, _ => none
  | fuel + 1, offset, expected, seen => do
    let s := src.bytes
    if offset > s.size then none
    let (id, p) ← objectIdAt s offset
    if let some e := expected then
      unless e == id do none
    let (o, q) ← bodyObjectAt s p
    match o with
    | .dict es =>
      let r := space s q
      if hasAt s r "stream" then
        match eolEnd s (r + 6) with
        | none => pure (id, o)
        | some d =>
          match streamLength src fuel (lookup es "Length") seen with
          | none => pure (id, .stream es ByteArray.empty)
          | some len =>
            if len < 0 then none
            else
              let stop := d + len.toNat
              let afterData := (eolEnd s stop).getD stop
              if stop ≤ s.size && hasAt s afterData "endstream" then
                pure (id, .stream es (s.extract d stop))
              else pure (id, o)
      else pure (id, o)
    | _ => pure (id, o)

/-- The value of a stream's `Length`: an integer, or a reference to one. -/
def streamLength (src : Source) : Nat → Option Obj → List (Nat × Nat) → Option Int
  | 0, _, _ => none
  | fuel + 1, length, seen =>
    match length with
    | some (.int n) => some n
    | some (.ref n g) =>
      if seen.contains (n, g) then none
      else
        match src.table[n]? with
        | some e =>
          if e.gen == g then
            match readObject src fuel e.offset (some (n, g)) ((n, g) :: seen) with
            | some (_, .int v) => some v
            | _ => none
          else none
        | none => none
    | _ => none

end

/-- A file's objects by id, and its trailer. -/
structure Document where
  objects : Std.HashMap (Nat × Nat) Obj
  trailer : List (String × Obj)

/-- Read a file: its header, its tables, its trailer and every object its tables list. -/
def Document.load (s : ByteArray) : Except PdfError Document := do
  unless validHeader s do throw .header
  let start ← xrefStart s
  let some (rows, trailer) := tableAt s start | throw .trailer
  let table ← followPrev s (s.size + 1) (lookup trailer "Prev") [] (addRows {} rows)
  let trailer := trailer.filter (·.1 != "Prev")
  let src : Source := ⟨s, table⟩
  let numbers := (table.toList.map (·.1)).mergeSort (· ≤ ·)
  let objects := numbers.foldl (fun m n =>
    match table[n]? with
    | some e =>
      match readObject src (table.size + 2) e.offset none [] with
      | some (id, o) => m.insert id o
      | none => m
    | none => m) {}
  pure ⟨objects, trailer⟩

/-! ## Looking objects up -/

def Document.get? (doc : Document) (id : Nat × Nat) : Option Obj := doc.objects[id]?

def Document.deref (doc : Document) : Obj → Option Obj
  | .ref n g => doc.get? (n, g)
  | o => some o

def Document.dictOf (doc : Document) (o : Obj) : Option (List (String × Obj)) :=
  (doc.deref o).bind Obj.entries?

def Document.dictAt (doc : Document) (id : Nat × Nat) : Option (List (String × Obj)) :=
  (doc.get? id).bind Obj.entries?

def Document.numbers (doc : Document) (o : Obj) : Option (List Float) :=
  (doc.deref o).bind fun o => o.array?.bind fun xs => xs.mapM fun x => (doc.deref x).bind Obj.number?

/-- A key's value in a dictionary or, failing that, in its ancestors through `Parent`. -/
def Document.inherited (doc : Document) : Nat → List (String × Obj) → String → Option Obj
  | 0, _, _ => none
  | fuel + 1, entries, key =>
    match lookup entries key with
    | some v => some v
    | none =>
      match (lookup entries "Parent").bind Obj.ref? with
      | some id => (doc.dictAt id).bind fun parent => doc.inherited fuel parent key
      | none => none

/-- The ids of the pages under some kids of the page tree, in order, at most `depth` levels
further down. -/
def Document.pagesUnder (doc : Document) : Nat → List Obj → List (Nat × Nat)
  | 0, _ => []
  | depth + 1, kids => kids.flatMap fun kid =>
    match kid.ref? with
    | none => []
    | some id =>
      match doc.dictAt id with
      | none => []
      | some es =>
        match lookup es "Type" with
        | some (.name "Page") => [id]
        | some (.name "Pages") =>
          match lookup es "Kids" with
          | some (.array more) =>
            if more.any (·.ref? == some id) then [] else doc.pagesUnder depth more
          | _ => []
        | _ => []

def Document.pages (doc : Document) : List (Nat × Nat) :=
  let root := (lookup doc.trailer "Root").bind Obj.ref?
  let tree := root.bind doc.dictAt |>.bind (lookup · "Pages") |>.bind Obj.ref?
  match tree.bind doc.dictAt |>.bind (lookup · "Kids") with
  | some (.array kids) => doc.pagesUnder 257 kids
  | _ => []

/-! ## Stream data -/

/-- Data compressed with zlib, decompressed: nothing if the two-byte header is wrong, and what
could be decompressed if the data breaks off or is corrupt. -/
def zlibDecompress (data : ByteArray) : ByteArray :=
  match (data[0]? : Option UInt8), (data[1]? : Option UInt8) with
  | some cmf, some flg =>
    if cmf &&& 0x0F == 8 && cmf >>> 4 ≤ 7 && (cmf.toNat * 256 + flg.toNat) % 31 == 0 &&
        flg &&& 0x20 == 0 then
      (inflate (data.extract 2 data.size)).bytes
    else ByteArray.empty
  | _, _ => ByteArray.empty

def filterNames (entries : List (String × Obj)) : Option (List String) :=
  match lookup entries "Filter" with
  | some (.name n) => some [n]
  | some (.array xs) => xs.mapM Obj.name?
  | _ => none

/-- The data of a stream with its filters undone, if they are all `FlateDecode`; otherwise its
data as stored. -/
def decodedData (entries : List (String × Obj)) (data : ByteArray) : ByteArray :=
  match filterNames entries with
  | some (f :: fs) =>
    let image := match lookup entries "Subtype" with
      | some (.name "Image") => true
      | _ => false
    if (f :: fs).all (· == "FlateDecode") && !image
    then (f :: fs).foldl (fun d _ => zlibDecompress d) data
    else data
  | _ => data

/-- The content of a page: the data of its content streams, one after the other. -/
def Document.pageContent (doc : Document) (page : Nat × Nat) : ByteArray :=
  let ids : List (Nat × Nat) := match (doc.dictAt page).bind (lookup · "Contents") with
    | some (.ref n g) => [(n, g)]
    | some (.array xs) => xs.filterMap Obj.ref?
    | _ => []
  ids.foldl (fun acc id =>
    match doc.get? id with
    | some (.stream es data) => acc ++ decodedData es data
    | _ => acc) ByteArray.empty

end KnowledgeDesk.Pdf
