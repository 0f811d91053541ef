/-!
# Inflating a deflate stream

A deflate stream (RFC 1951) is a run of blocks, the last one marked; a block is stored, or coded
with the fixed Huffman codes, or with codes its header describes. Bits are read from the low end
of each byte. Codes are canonical: a code is known by its bit lengths, and a symbol is decoded
one bit at a time against the number of codes of each length.

Every loop here reads at least one bit per round or stops, so the rounds are bounded by the
number of input bits, which is the fuel they are given.
-/

namespace KnowledgeDesk.Archive

/-- Why inflating stopped before the end of the stream. -/
inductive InflateError where
  /-- The input ended inside the stream. -/
  | truncated
  /-- The stream breaks the format. -/
  | corrupt
  deriving Repr, DecidableEq

/-- How inflating ended: the bytes produced, and why it stopped early, if it did. -/
structure Inflated where
  bytes : ByteArray
  stop : Option InflateError := none

/-- Input bits: the bytes and the position of the next bit. -/
structure BitInput where
  bytes : ByteArray
  pos : Nat

namespace BitInput

/-- Read `n` bits, least significant first. -/
def bits (inp : BitInput) (n : Nat) : Except InflateError (Nat × BitInput) :=
  if inp.pos + n > 8 * inp.bytes.size then .error .truncated
  else
    let v := (List.range n).foldl (fun acc i =>
      let p := inp.pos + i
      let byte := (inp.bytes.get! (p / 8)).toNat
      acc + ((byte >>> (p % 8)) % 2) * Nat.pow 2 i) 0
    .ok (v, { inp with pos := inp.pos + n })

def align (inp : BitInput) : BitInput := { inp with pos := (inp.pos + 7) / 8 * 8 }

end BitInput

/-- A canonical Huffman code: how many codes each length 0–15 has, and the symbols in code
order. -/
structure Huffman where
  counts : Array Nat
  symbols : Array Nat

/-- The code with the given bit length for each symbol (`0` for an unused symbol). -/
def Huffman.ofLengths (lengths : List Nat) : Huffman :=
  let counts := lengths.foldl (fun c l => c.modify l (· + 1)) (Array.replicate 16 0)
  let counts := counts.set! 0 0
  let symbols := (List.range 16).flatMap fun len =>
    if len = 0 then [] else (lengths.zipIdx.filter (·.1 = len)).map (·.2)
  ⟨counts, symbols.toArray⟩

/-- Whether the lengths describe a code with no two codes alike: for every length, the codes of
that length fit into what shorter codes left free. -/
def Huffman.isValid (h : Huffman) : Bool :=
  let (ok, _) := (List.range 15).foldl (fun (acc : Bool × Int) i =>
    let (ok, left) := acc
    let left := 2 * left - ((h.counts[i + 1]?.getD 0 : Nat) : Int)
    (ok && left ≥ 0, left)) (true, 1)
  ok

/-- Decode one symbol, reading one bit per round for lengths `len` to 15; `code`, `first` and
`index` describe the codes shorter than `len`. -/
def Huffman.decodeFrom (h : Huffman) (inp : BitInput) (code first index len : Nat) :
    Except InflateError (Nat × BitInput) :=
  if len > 15 then .error .corrupt
  else
    match inp.bits 1 with
    | .error e => .error e
    | .ok (b, inp) =>
      let code := code + b
      let count := h.counts[len]?.getD 0
      if code < first + count then
        match h.symbols[index + (code - first)]? with
        | some s => .ok (s, inp)
        | none => .error .corrupt
      else h.decodeFrom inp (code * 2) ((first + count) * 2) (index + count) (len + 1)
termination_by 16 - len

def Huffman.decode (h : Huffman) (inp : BitInput) : Except InflateError (Nat × BitInput) :=
  h.decodeFrom inp 0 0 0 1

def lengthBase : Array Nat :=
  #[3, 4, 5, 6, 7, 8, 9, 10, 11, 13, 15, 17, 19, 23, 27, 31, 35, 43, 51, 59, 67, 83, 99, 115,
    131, 163, 195, 227, 258]

def lengthExtra : Array Nat :=
  #[0, 0, 0, 0, 0, 0, 0, 0, 1, 1, 1, 1, 2, 2, 2, 2, 3, 3, 3, 3, 4, 4, 4, 4, 5, 5, 5, 5, 0]

def distanceBase : Array Nat :=
  #[1, 2, 3, 4, 5, 7, 9, 13, 17, 25, 33, 49, 65, 97, 129, 193, 257, 385, 513, 769, 1025, 1537,
    2049, 3073, 4097, 6145, 8193, 12289, 16385, 24577]

def distanceExtra : Array Nat :=
  #[0, 0, 0, 0, 1, 1, 2, 2, 3, 3, 4, 4, 5, 5, 6, 6, 7, 7, 8, 8, 9, 9, 10, 10, 11, 11, 12, 12,
    13, 13]

/-- Copy `length` bytes from `distance` back, one at a time (the source may overlap the copy). -/
def copyBack (out : ByteArray) (distance : Nat) : Nat → ByteArray
  | 0 => out
  | n + 1 => copyBack (out.push (out.get! (out.size - distance))) distance n

/-- Decode the symbols of a coded block until its end symbol. -/
def inflateCodes (lit dist : Huffman) : Nat → BitInput → ByteArray →
    Except (InflateError × ByteArray) (BitInput × ByteArray)
  | 0, _, out => .error (.truncated, out)
  | fuel + 1, inp, out =>
    let step : Except InflateError (Option (BitInput × ByteArray) ⊕ (BitInput × ByteArray)) := do
      let (sym, inp) ← lit.decode inp
      if sym < 256 then pure (.inr (inp, out.push sym.toUInt8))
      else if sym = 256 then pure (.inl (some (inp, out)))
      else
        let i := sym - 257
        let some base := lengthBase[i]? | throw .corrupt
        let (extra, inp) ← inp.bits (lengthExtra[i]?.getD 0)
        let length := base + extra
        let (dsym, inp) ← dist.decode inp
        let some dbase := distanceBase[dsym]? | throw .corrupt
        let (dextra, inp) ← inp.bits (distanceExtra[dsym]?.getD 0)
        let distance := dbase + dextra
        if distance > out.size then throw .corrupt
        pure (.inr (inp, copyBack out distance length))
    match step with
    | .error e => .error (e, out)
    | .ok (.inl (some r)) => .ok r
    | .ok (.inl none) => .error (.corrupt, out)
    | .ok (.inr (inp, out)) => inflateCodes lit dist fuel inp out

def fixedLiterals : Huffman :=
  .ofLengths (List.replicate 144 8 ++ List.replicate 112 9 ++ List.replicate 24 7 ++
    List.replicate 8 8)

def fixedDistances : Huffman := .ofLengths (List.replicate 30 5)

/-- The order in which the lengths of the code length code are given. -/
def lengthOrder : List Nat := [16, 17, 18, 0, 8, 7, 9, 6, 10, 5, 11, 4, 12, 3, 13, 2, 14, 1, 15]

/-- Read `total` code lengths with the code length code: `16` repeats the last length 3–6
times, `17` gives 3–10 zeros and `18` gives 11–138 zeros. -/
def readLengths (code : Huffman) (total : Nat) : Nat → BitInput → List Nat →
    Except InflateError (List Nat × BitInput)
  | 0, _, _ => .error .truncated
  | fuel + 1, inp, acc =>
    if acc.length ≥ total then
      if acc.length > total then .error .corrupt else .ok (acc, inp)
    else do
      let (sym, inp) ← code.decode inp
      if sym < 16 then readLengths code total fuel inp (acc ++ [sym])
      else if sym = 16 then
        let some prev := acc.getLast? | throw .corrupt
        let (r, inp) ← inp.bits 2
        readLengths code total fuel inp (acc ++ List.replicate (3 + r) prev)
      else if sym = 17 then
        let (r, inp) ← inp.bits 3
        readLengths code total fuel inp (acc ++ List.replicate (3 + r) 0)
      else
        let (r, inp) ← inp.bits 7
        readLengths code total fuel inp (acc ++ List.replicate (11 + r) 0)

def readDynamicCodes (fuel : Nat) (inp : BitInput) : Except InflateError (Huffman × Huffman × BitInput) := do
  let (hlit, inp) ← inp.bits 5
  let (hdist, inp) ← inp.bits 5
  let (hclen, inp) ← inp.bits 4
  let nlen := hlit + 257
  let ndist := hdist + 1
  if nlen > 286 || ndist > 30 then throw .corrupt
  let mut cur := inp
  let mut clens : Array Nat := Array.replicate 19 0
  for pos in lengthOrder.take (hclen + 4) do
    let (v, next) ← cur.bits 3
    clens := clens.set! pos v
    cur := next
  let inp := cur
  let lengthCode := Huffman.ofLengths clens.toList
  if !lengthCode.isValid then throw .corrupt
  let (lengths, inp) ← readLengths lengthCode (nlen + ndist) fuel inp []
  if (lengths.getD 256 0) = 0 then throw .corrupt
  let lit := Huffman.ofLengths (lengths.take nlen)
  let dist := Huffman.ofLengths (lengths.drop nlen)
  if !lit.isValid || !dist.isValid then throw .corrupt
  pure (lit, dist, inp)

def storedBlock (inp : BitInput) (out : ByteArray) :
    Except (InflateError × ByteArray) (BitInput × ByteArray) :=
  let inp := inp.align
  let start := inp.pos / 8
  if start + 4 > inp.bytes.size then .error (.truncated, out)
  else
    let len := (inp.bytes.get! start).toNat + 256 * (inp.bytes.get! (start + 1)).toNat
    let nlen := (inp.bytes.get! (start + 2)).toNat + 256 * (inp.bytes.get! (start + 3)).toNat
    if len + nlen ≠ 0xFFFF then .error (.corrupt, out)
    else
      let stop := min (start + 4 + len) inp.bytes.size
      let out := out ++ inp.bytes.extract (start + 4) stop
      if start + 4 + len > inp.bytes.size then .error (.truncated, out)
      else .ok ({ inp with pos := stop * 8 }, out)

def inflateBlocks : Nat → BitInput → ByteArray → Inflated
  | 0, _, out => ⟨out, some .truncated⟩
  | fuel + 1, inp, out =>
    let header : Except InflateError (Nat × Nat × BitInput) := do
      let (last, inp) ← inp.bits 1
      let (kind, inp) ← inp.bits 2
      pure (last, kind, inp)
    match header with
    | .error e => ⟨out, some e⟩
    | .ok (last, kind, inp) =>
      let block : Except (InflateError × ByteArray) (BitInput × ByteArray) :=
        match kind with
        | 0 => storedBlock inp out
        | 1 => inflateCodes fixedLiterals fixedDistances fuel inp out
        | 2 =>
          match readDynamicCodes fuel inp with
          | .error e => .error (e, out)
          | .ok (lit, dist, inp) => inflateCodes lit dist fuel inp out
        | _ => .error (.corrupt, out)
      match block with
      | .error (e, out) => ⟨out, some e⟩
      | .ok (inp, out) => if last = 1 then ⟨out, none⟩ else inflateBlocks fuel inp out

/-- Inflate a raw deflate stream: the bytes produced, and why it stopped early if it did. -/
def inflate (bytes : ByteArray) : Inflated :=
  inflateBlocks (8 * bytes.size + 8) ⟨bytes, 0⟩ ByteArray.empty

end KnowledgeDesk.Archive
