/-!
# Blank characters, and the line and word views of a text

A character is *blank* when it has the Unicode `White_Space` property: the ASCII controls
`U+0009`–`U+000D`, the space, `U+0085`, the no-break space, and the ten Unicode spaces and
separators from `U+1680` to `U+3000`. Trimming, the word view and the line view all take this
one set, so a text trims the same way wherever it is trimmed.

* `trimChars`, `trimStartChars`, `trimEndChars` drop blank characters at the ends.
* `wordsOf` splits at runs of blank characters and keeps the non-empty pieces.
* `linesOf` splits at `'\n'`; a `'\r'` right before the `'\n'` belongs to the line ending, and a
  final line ending starts no empty last line.
-/

namespace KnowledgeDesk.Text

/-- A character with the Unicode `White_Space` property. -/
def isBlank (c : Char) : Bool :=
  let n := c.toNat
  (0x09 ≤ n && n ≤ 0x0D) || n == 0x20 || n == 0x85 || n == 0xA0 || n == 0x1680 ||
    (0x2000 ≤ n && n ≤ 0x200A) || n == 0x2028 || n == 0x2029 || n == 0x202F ||
    n == 0x205F || n == 0x3000

def trimStartChars (cs : List Char) : List Char := cs.dropWhile isBlank

def trimEndChars (cs : List Char) : List Char := (cs.reverse.dropWhile isBlank).reverse

def trimChars (cs : List Char) : List Char := trimEndChars (trimStartChars cs)

/-- The text without blanks at either end. -/
def trim (s : String) : String := String.ofList (trimChars s.toList)

def trimStart (s : String) : String := String.ofList (trimStartChars s.toList)

def trimEnd (s : String) : String := String.ofList (trimEndChars s.toList)

/-- Whether the text holds blank characters only (or nothing). -/
def isBlankText (s : String) : Bool := s.toList.all isBlank

/-- The non-empty runs of non-blank characters, in order. -/
def wordsChars (cs : List Char) : List (List Char) :=
  (cs.splitOnP isBlank).filter (· ≠ [])

/-- The words of a text: its non-empty runs of non-blank characters. -/
def wordsOf (s : String) : List String := (wordsChars s.toList).map String.ofList

/-- Drop one `'\r'` from the end of a line, if it has one there. -/
def dropCarriageReturn (cs : List Char) : List Char :=
  match cs.getLast? with
  | some '\r' => cs.dropLast
  | _ => cs

/-- The lines of a character list: pieces between `'\n'`, each without a `'\r'` right before its
`'\n'`; a final `'\n'` ends the last line and starts no new one. -/
def linesChars (cs : List Char) : List (List Char) :=
  let pieces := cs.splitOn '\n'
  -- a text that ends in a line ending (or is empty) leaves an empty last piece
  let pieces := if cs.getLast? = some '\n' || cs.isEmpty then pieces.dropLast else pieces
  let n := pieces.length
  pieces.zipIdx.map fun (p, i) =>
    if i + 1 < n || cs.getLast? = some '\n' then dropCarriageReturn p else p

def linesOf (s : String) : List String := (linesChars s.toList).map String.ofList

def joinWith (sep : String) : List String → String
  | [] => ""
  | [s] => s
  | s :: rest => s ++ sep ++ joinWith sep rest

end KnowledgeDesk.Text
