import KnowledgeDesk.Archive.Inflate
import KnowledgeDesk.Text.Utf8

/-!
# Zip archives

A zip archive ends with an *end record* that says where the *central directory* is; the
directory lists every entry with its name, method, checksum, sizes and the offset of its *local
header*, after which the entry's data follows.

* `Archive.open` finds the end record (the last one whose directory reads, searching backwards
  over the final 64 KiB), and reads the directory. An archive whose directory cannot be found
  or read fails with "No valid central directory found".
* `Archive.read` gives an entry's bytes: stored, or inflated; the CRC-32 of the bytes must match
  the directory.
* Entry names are UTF-8 when the entry says so, else code page 437.
-/

namespace KnowledgeDesk.Archive

/-- The CRC-32 table for the reflected polynomial `0xEDB88320`. -/
def crcTable : Array UInt32 :=
  (Array.range 256).map fun n =>
    (List.range 8).foldl (fun (c : UInt32) _ =>
      if c &&& 1 = 1 then (0xEDB88320 : UInt32) ^^^ (c >>> 1) else c >>> 1) n.toUInt32

def crc32 (bytes : ByteArray) : UInt32 :=
  let c := bytes.foldl (fun (c : UInt32) b =>
    (crcTable[((c ^^^ b.toUInt32) &&& 0xFF).toNat]?.getD 0) ^^^ (c >>> 8)) 0xFFFFFFFF
  c ^^^ 0xFFFFFFFF

/-- Why an archive or an entry could not be read. -/
inductive ZipError where
  /-- The archive breaks the format. -/
  | invalid (reason : String)
  /-- The archive uses a feature this reader lacks. -/
  | unsupported (reason : String)
  /-- No entry has the name. -/
  | notFound
  /-- Reading an entry's data failed. -/
  | io (reason : String)
  deriving Repr, DecidableEq

def ZipError.text : ZipError → String
  | .invalid r => "invalid Zip archive: " ++ r
  | .unsupported r => "unsupported Zip archive: " ++ r
  | .notFound => "specified file not found in archive"
  | .io r => r

/-- A little-endian number of `n` bytes at `pos`, if the bytes are there. -/
def readLE (bytes : ByteArray) (pos n : Nat) : Option Nat :=
  if pos + n > bytes.size then none
  else some ((List.range n).foldl (fun acc i => acc + (bytes.get! (pos + i)).toNat * Nat.pow 256 i) 0)

/-- The characters of code page 437 above ASCII. -/
def cp437High : String :=
  "ÇüéâäàåçêëèïîìÄÅÉæÆôöòûùÿÖÜ¢£¥₧ƒáíóúñÑªº¿⌐¬½¼¡«»░▒▓│┤╡╢╖╕╣║╗╝╜╛┐└┴┬├─┼╞╟╚╔╩╦╠═╬╧╨╤╥╙╘╒╓╫╪┘┌█▄▌▐▀αßΓπΣσµτΦΘΩδ∞φε∩≡±≥≤⌠⌡÷≈°∙·√ⁿ²■ "

def decodeCp437 (bytes : List UInt8) : String :=
  String.ofList (bytes.map fun b =>
    if b < 128 then Char.ofNat b.toNat else cp437High.toList.getD (b.toNat - 128) ' ')

/-- An entry of the central directory. -/
structure Entry where
  name : String
  flags : Nat
  method : Nat
  crc : Nat
  compressedSize : Nat
  size : Nat
  headerOffset : Nat
  deriving Repr

/-- An opened archive: its bytes, where its entries' offsets count from, and its entries in
directory order, a repeated name keeping its first place and its last entry. -/
structure Zip where
  bytes : ByteArray
  base : Nat
  entries : List Entry

def endSignature : Nat := 0x06054b50

def entrySignature : Nat := 0x02014b50

def localSignature : Nat := 0x04034b50

def readEntries (bytes : ByteArray) : Nat → Nat → List Entry → Option (List Entry)
  | 0, _, acc => some acc.reverse
  | count + 1, pos, acc => do
    if readLE bytes pos 4 ≠ some entrySignature then none
    let flags ← readLE bytes (pos + 8) 2
    let method ← readLE bytes (pos + 10) 2
    let crc ← readLE bytes (pos + 16) 4
    let csize ← readLE bytes (pos + 20) 4
    let size ← readLE bytes (pos + 24) 4
    let nameLen ← readLE bytes (pos + 28) 2
    let extraLen ← readLE bytes (pos + 30) 2
    let commentLen ← readLE bytes (pos + 32) 2
    let offset ← readLE bytes (pos + 42) 4
    let nameStart := pos + 46
    if nameStart + nameLen + extraLen + commentLen > bytes.size then none
    let raw := (bytes.extract nameStart (nameStart + nameLen)).toList
    let name := if flags &&& 0x800 ≠ 0 then Text.stringOfBytesLossy raw else decodeCp437 raw
    readEntries bytes count (nameStart + nameLen + extraLen + commentLen)
      (⟨name, flags, method, crc, csize, size, offset⟩ :: acc)

/-- Keep one entry per name: the first place, the last entry. -/
def uniqueEntries (entries : List Entry) : List Entry :=
  entries.foldl (fun acc e =>
    if acc.any (·.name == e.name) then acc.map (fun x => if x.name == e.name then e else x)
    else acc ++ [e]) []

/-- Read the directory that the end record at `pos` describes. -/
def directoryAt (bytes : ByteArray) (pos : Nat) : Option Zip := do
  let total ← readLE bytes (pos + 10) 2
  let dirSize ← readLE bytes (pos + 12) 4
  let dirOffset ← readLE bytes (pos + 16) 4
  -- the directory is found where the record says, or right before the record when data was put
  -- in front of the archive
  let base :=
    if readLE bytes dirOffset 4 = some entrySignature || total = 0 then 0
    else pos - dirSize - dirOffset
  if dirOffset + base + dirSize > pos then none
  let entries ← readEntries bytes total (dirOffset + base) []
  pure ⟨bytes, base, uniqueEntries entries⟩

/-- Try the end records at positions `pos`, `pos - 1`, … down to `stop`, last first. -/
def findDirectory (bytes : ByteArray) (stop : Nat) : Nat → Option Zip
  | 0 => if stop = 0 && readLE bytes 0 4 = some endSignature then directoryAt bytes 0 else none
  | pos + 1 =>
    if pos + 1 < stop then none
    else
      let here := if readLE bytes (pos + 1) 4 = some endSignature then directoryAt bytes (pos + 1)
        else none
      match here with
      | some z => some z
      | none => findDirectory bytes stop pos

def Zip.open (bytes : ByteArray) : Except ZipError Zip :=
  if bytes.size < 22 then .error (.invalid "No valid central directory found")
  else
    let last := bytes.size - 22
    match findDirectory bytes (last - min last 65535) last with
    | some z => .ok z
    | none => .error (.invalid "No valid central directory found")

def Zip.names (z : Zip) : List String := z.entries.map (·.name)

/-- The bytes of an entry. -/
def Zip.readEntry (z : Zip) (e : Entry) : Except ZipError ByteArray := do
  let start := z.base + e.headerOffset
  if readLE z.bytes start 4 ≠ some localSignature then
    throw (.invalid "Invalid local file header")
  if e.flags &&& 1 ≠ 0 then throw (.unsupported "Password required to decrypt file")
  let some nameLen := readLE z.bytes (start + 26) 2 | throw (.invalid "Invalid local file header")
  let some extraLen := readLE z.bytes (start + 28) 2 | throw (.invalid "Invalid local file header")
  let dataStart := start + 30 + nameLen + extraLen
  let raw := z.bytes.extract dataStart (min (dataStart + e.compressedSize) z.bytes.size)
  let data ← match e.method with
    | 0 => pure raw
    | 8 =>
      let r := inflate raw
      match r.stop with
      | some .corrupt => throw (.io "corrupt deflate stream")
      | _ => pure r.bytes
    | _ => throw (.unsupported "Compression method not supported")
  if (crc32 data).toNat ≠ e.crc then throw (.io "Invalid checksum")
  pure data

def Zip.read (z : Zip) (name : String) : Except ZipError ByteArray :=
  match z.entries.find? (·.name == name) with
  | some e => z.readEntry e
  | none => .error .notFound

/-- The text of the entry with a name, which must be UTF-8. -/
def Zip.readText (z : Zip) (name : String) : Except ZipError String := do
  let bytes ← z.read name
  match Text.stringOfBytes? bytes.toList with
  | some s => pure s
  | none => throw (.io "stream did not contain valid UTF-8")

end KnowledgeDesk.Archive
