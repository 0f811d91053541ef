/-!
# Lower case

The lower-case form of a text, character by character, for the scripts a keyword search is
likely to meet: ASCII, Latin-1, Latin Extended-A, Greek, Cyrillic, the full-width Latin letters
and the letter-like symbols Kelvin, Ångström and Ohm. Capital I with a dot becomes `i` followed
by a combining dot, as in the Unicode mapping; other characters stay as they are.
-/

namespace KnowledgeDesk.Text

/-- The lower-case form of a character of Latin Extended-A. -/
def lowerLatinA (n : Nat) : List Nat :=
  if n = 0x130 then [0x69, 0x307]
  else if n = 0x178 then [0xFF]
  else if (0x100 ≤ n && n ≤ 0x137) || (0x14A ≤ n && n ≤ 0x177) then
    if n % 2 = 0 then [n + 1] else [n]
  else if (0x139 ≤ n && n ≤ 0x148) || (0x179 ≤ n && n ≤ 0x17E) then
    if n % 2 = 1 then [n + 1] else [n]
  else [n]

/-- The lower-case form of a character, as code points. -/
def lowerCodes (c : Char) : List Nat :=
  let n := c.toNat
  if 0x41 ≤ n && n ≤ 0x5A then [n + 32]
  else if n < 0xC0 then [n]
  else if n ≤ 0xDE then (if n = 0xD7 then [n] else [n + 32])
  else if 0x100 ≤ n && n ≤ 0x17F then lowerLatinA n
  else if n = 0x386 then [0x3AC]
  else if 0x388 ≤ n && n ≤ 0x38A then [n + 37]
  else if n = 0x38C then [0x3CC]
  else if n = 0x38E || n = 0x38F then [n + 63]
  else if 0x391 ≤ n && n ≤ 0x3AB && n ≠ 0x3A2 then [n + 32]
  else if 0x400 ≤ n && n ≤ 0x40F then [n + 80]
  else if 0x410 ≤ n && n ≤ 0x42F then [n + 32]
  else if n = 0x212A then [0x6B]
  else if n = 0x212B then [0xE5]
  else if n = 0x2126 then [0x3C9]
  else if 0xFF21 ≤ n && n ≤ 0xFF3A then [n + 32]
  else [n]

/-- The lower-case form of a text. -/
def toLower (s : String) : String :=
  String.ofList (s.toList.flatMap fun c => (lowerCodes c).map Char.ofNat)

end KnowledgeDesk.Text
