import KnowledgeDesk.Text.Blank
import KnowledgeDesk.Text.Category

/-!
# Pieces of a text before byte-pair merging

Token counting first cuts a text into *pieces*; merging never crosses a piece boundary. At each
point the first of these rules that applies gives the next piece:

1. an apostrophe with `s`, `t`, `re`, `ve`, `m`, `ll` or `d` after it, in either case;
2. a run of letters, with at most one character before it that is neither a line break, a
   letter nor a number;
3. one to three numbers;
4. a run of characters that are neither blank, letters nor numbers, with one space allowed
   before it and the line breaks right after it;
5. a run of blanks up to and including its last line break;
6. a run of blanks that ends the text, or all of a longer run but its last blank (which then
   starts the next piece);
7. a single blank.

Five marker texts (`<|endoftext|>` and its kin) are cut out first and count as one token each.

`pieceLength` gives the length of the next piece, always at least one character, and `pieces`
cuts a whole text; `segments` separates the markers from ordinary text.
-/

namespace KnowledgeDesk.Token

open KnowledgeDesk.Text

def isLineBreak (c : Char) : Bool := c == '\n' || c == '\r'

/-- A character that is neither blank, a letter nor a number. -/
def isOther (c : Char) : Bool := !isBlank c && !isLetter c && !isNumber c

/-- Case-insensitive match of one letter of an ending after an apostrophe; the long s folds to
`s`. -/
def letterIs (lower : Char) (c : Char) : Bool :=
  c == lower || c == lower.toUpper || (lower == 's' && c.toNat == 0x17F)

/-- How many characters of an ending follow an apostrophe: `s`, `t`, `m`, `d` give one,
`re`, `ve`, `ll` give two, anything else none. -/
def endingLength : List Char → Nat
  | c :: d :: _ =>
    if letterIs 'r' c && letterIs 'e' d || letterIs 'v' c && letterIs 'e' d ||
      letterIs 'l' c && letterIs 'l' d then 2
    else if letterIs 's' c || letterIs 't' c || letterIs 'm' c || letterIs 'd' c then 1
    else 0
  | [c] => if letterIs 's' c || letterIs 't' c || letterIs 'm' c || letterIs 'd' c then 1 else 0
  | [] => 0

def runLength (p : Char → Bool) (cs : List Char) : Nat := (cs.takeWhile p).length

/-- The position just after the last line break among the first `n` characters, or zero. -/
def afterLastBreak (cs : List Char) (n : Nat) : Nat :=
  ((cs.take n).zipIdx.foldl (fun acc (c, i) => if isLineBreak c then i + 1 else acc) 0)

/-- The length of the blank piece that starts at `c :: rest` (rules 5 to 7). -/
def blankPieceLength (c : Char) (rest : List Char) : Nat :=
  let run := 1 + runLength isBlank rest
  let cut := afterLastBreak (c :: rest) run
  if cut > 0 then cut
  else if run = rest.length + 1 then run
  else if run ≥ 2 then run - 1
  else 1

/-- The length of a run of characters that are neither blank, letters nor numbers, with the
line breaks right after it. -/
def otherRunLength (rest : List Char) : Nat :=
  runLength isOther rest + runLength isLineBreak (rest.drop (runLength isOther rest))

theorem one_le_blankPieceLength (c : Char) (rest : List Char) : 1 ≤ blankPieceLength c rest := by
  simp only [blankPieceLength]
  repeat' split
  all_goals omega

/-- The length of the next piece of `c :: rest`, by the first rule that applies. -/
def pieceLength (c : Char) (rest : List Char) : Nat :=
  if c == '\'' && endingLength rest > 0 then 1 + endingLength rest
  else if isLetter c then 1 + runLength isLetter rest
  else if !isLineBreak c && !isNumber c && (rest.head?.map isLetter).getD false then
    1 + runLength isLetter rest
  else if isNumber c then 1 + min 2 (runLength isNumber rest)
  else if c == ' ' && (rest.head?.map isOther).getD false then 1 + otherRunLength rest
  else if isOther c then 1 + otherRunLength rest
  else blankPieceLength c rest

theorem one_le_pieceLength (c : Char) (rest : List Char) : 1 ≤ pieceLength c rest := by
  have := one_le_blankPieceLength c rest
  unfold pieceLength
  repeat' split
  all_goals omega

/-- The pieces of a text, in order; joined, they give the text back. -/
def pieces : List Char → List (List Char)
  | [] => []
  | c :: rest =>
    let n := pieceLength c rest
    (c :: rest).take n :: pieces ((c :: rest).drop n)
termination_by cs => cs.length
decreasing_by
  have := one_le_pieceLength c rest
  simp only [List.length_drop, List.length_cons]
  omega

/-- The marker texts that stand for one token each. -/
def markers : List String :=
  ["<|endoftext|>", "<|fim_prefix|>", "<|fim_middle|>", "<|fim_suffix|>", "<|endofprompt|>"]

/-- A stretch of text: ordinary characters, or one marker. -/
inductive Segment where
  | plain (cs : List Char)
  | marker (text : String)
  deriving Repr, DecidableEq

/-- The marker that the characters start with, if any. -/
def markerAt (cs : List Char) : Option String :=
  markers.find? (fun m => m.toList.isPrefixOf cs)

theorem markerAt_length {cs : List Char} {m : String} (h : markerAt cs = some m) :
    0 < m.toList.length ∧ m.toList.isPrefixOf cs = true := by
  unfold markerAt at h
  have hmem := List.mem_of_find?_eq_some h
  have hp := List.find?_some h
  simp only [markers, List.mem_cons, List.not_mem_nil, or_false] at hmem
  refine ⟨?_, hp⟩
  rcases hmem with h | h | h | h | h <;> subst h <;> decide

/-- The characters with the markers cut out; `acc` holds the ordinary characters seen since the
last marker, last first. -/
def segmentsFrom (acc : List Char) : List Char → List Segment
  | [] => if acc.isEmpty then [] else [.plain acc.reverse]
  | c :: rest =>
    match h : markerAt (c :: rest) with
    | some m =>
      let after := (c :: rest).drop m.toList.length
      (if acc.isEmpty then [] else [.plain acc.reverse]) ++ .marker m :: segmentsFrom [] after
    | none => segmentsFrom (c :: acc) rest
termination_by cs => cs.length
decreasing_by
  · have := (markerAt_length h).1
    simp only [List.length_drop, List.length_cons]
    omega
  · simp only [List.length_cons]
    omega

def segments (s : String) : List Segment := segmentsFrom [] s.toList

end KnowledgeDesk.Token
