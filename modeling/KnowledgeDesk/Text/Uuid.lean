/-!
# Random UUIDs

Version-4 UUIDs drawn from a 64-bit generator: the state steps by a fixed odd increment and
each output is the state scrambled by two multiply–xor–shift rounds, so distinct steps give
distinct outputs. Two outputs make the 128 bits of a UUID; the version and variant bits are
then set. The text is the hyphenated form in lower case.

`isLowerUuidAt` tells whether the 36 characters at the front of a text form a UUID in lower case;
`uuidsIn` lists the UUIDs of a text, left to right, without overlaps.
-/

namespace KnowledgeDesk.Text

/-- Two to the sixty-fourth. -/
def word : Nat := 18446744073709551616

/-- The increment of the generator's state. -/
def golden : Nat := 0x9e3779b97f4a7c15

/-- Scramble a 64-bit state into an output. -/
def scramble (z : Nat) : Nat :=
  let z := ((z ^^^ (z >>> 30)) * 0xbf58476d1ce4e5b9) % word
  let z := ((z ^^^ (z >>> 27)) * 0x94d049bb133111eb) % word
  z ^^^ (z >>> 31)

/-- The next output of a generator and its next state. -/
def nextWord (state : Nat) : Nat × Nat :=
  let s := (state + golden) % word
  (scramble s, s)

/-- The lower-case hex digits of `n`, exactly `width` of them. -/
def hexDigits (width n : Nat) : String :=
  String.ofList ((List.range width).reverse.map fun i =>
    let d := n / Nat.pow 16 i % 16
    if d < 10 then Char.ofNat (48 + d) else Char.ofNat (87 + d))

/-- The hyphenated text of 128 bits. -/
def uuidText (bits : Nat) : String :=
  let h := hexDigits 32 bits
  let cs := h.toList
  String.ofList (cs.take 8) ++ "-" ++ String.ofList ((cs.drop 8).take 4) ++ "-" ++
    String.ofList ((cs.drop 12).take 4) ++ "-" ++ String.ofList ((cs.drop 16).take 4) ++ "-" ++
    String.ofList (cs.drop 20)

/-- A random UUID of version 4 and the generator's next state. -/
def nextUuid (state : Nat) : String × Nat :=
  let (hi, s) := nextWord state
  let (lo, s) := nextWord s
  let hi := (hi &&& 0xffffffffffff0fff) ||| 0x4000
  let lo := (lo &&& 0x3fffffffffffffff) ||| 0x8000000000000000
  (uuidText (hi * word + lo), s)

/-- Whether a character is a lower-case hex digit. -/
def isLowerHex (c : Char) : Bool := ('0' ≤ c && c ≤ '9') || ('a' ≤ c && c ≤ 'f')

/-- Whether the characters in front form a lower-case hyphenated UUID. -/
def isLowerUuidAt (cs : List Char) : Bool :=
  let front := cs.take 36
  front.length = 36 &&
    front.zipIdx.all fun (c, i) =>
      if i = 8 || i = 13 || i = 18 || i = 23 then c = '-' else isLowerHex c

/-- The lower-case UUIDs of a text, left to right, without overlaps. -/
def uuidsIn (s : String) : List String :=
  let rec go (fuel : Nat) (cs : List Char) : List String :=
    match fuel, cs with
    | 0, _ => []
    | _, [] => []
    | fuel + 1, c :: rest =>
      if isLowerUuidAt (c :: rest) then String.ofList ((c :: rest).take 36) :: go fuel ((c :: rest).drop 36)
      else go fuel rest
  go (s.length + 1) s.toList

end KnowledgeDesk.Text
