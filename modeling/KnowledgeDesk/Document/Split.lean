import KnowledgeDesk.Text.Blank

/-!
# Splitting a text into segments under a token budget

A text is cut into *segments* that each count at most `maxTokens` tokens, by a counting
function given as a parameter. The cut works on *passages*:

* every non-blank line, trimmed, is a passage joined to what comes before by a line break;
* a line over the budget is cut at blanks into runs of words, each within the budget when it
  can be (a single word over the budget is cut between characters), and the runs after the
  first are joined by a space;
* passages are packed into segments in order while the segment stays within the budget; a new
  segment starts with the longest run of last words of the previous one that counts at most
  `maxOverlap` tokens and still leaves room for the passage.
-/

namespace KnowledgeDesk.Document

open KnowledgeDesk.Text

/-- The budgets of a split: tokens per segment and tokens taken over from the segment before. -/
structure SplitLimits where
  maxTokens : Nat
  maxOverlap : Nat
  deriving Repr, DecidableEq

/-- The limits for the budgets asked for: a segment may always hold at least one token. -/
def SplitLimits.new (maxTokens maxOverlap : Nat) : SplitLimits := ⟨max maxTokens 1, maxOverlap⟩

/-- A passage of text and the text that joins it to the one before. -/
structure Passage where
  text : String
  separator : String
  deriving Repr, DecidableEq

/-- The pieces cut so far, with the piece being built when it holds anything. -/
def flush : List String × String → List String
  | (pieces, current) => if current.isEmpty then pieces else pieces ++ [current]

namespace SplitLimits

variable (lim : SplitLimits) (count : String → Nat)

/-- One character of `wordChunks`: a character that would take the run over the budget starts
the next run. -/
def chunkStep : List String × String → Char → List String × String
  | (chunks, current), c =>
    let grown := current.push c
    if count grown > lim.maxTokens then (flush (chunks, current), String.singleton c)
    else (chunks, grown)

/-- Cut a word into runs of characters, each within the budget unless a single character is
over it. -/
def wordChunks (word : String) : List String :=
  flush (word.toList.foldl (lim.chunkStep count) ([], ""))

/-- One word of `lineRuns`: the word joins the run when the run stays within the budget, else
it starts the next run; a word over the budget is cut by `wordChunks`, and its last run starts
the next run of words. -/
def runStep : List String × String → String → List String × String
  | (runs, current), word =>
    let candidate := if current.isEmpty then word else current ++ " " ++ word
    if count candidate ≤ lim.maxTokens then (runs, candidate)
    else
      let runs := flush (runs, current)
      if count word ≤ lim.maxTokens then (runs, word)
      else
        let chunks := lim.wordChunks count word
        (runs ++ chunks.dropLast, chunks.getLast?.getD "")

def lineRuns (line : String) : List String :=
  flush ((wordsOf line).foldl (lim.runStep count) ([], ""))

/-- The passages of one trimmed line: the line whole when it is within the budget, else its
runs, the first joined by a line break and the others by a space. -/
def linePassages (line : String) : List Passage :=
  if count line ≤ lim.maxTokens then [⟨line, "\n"⟩]
  else (lim.lineRuns count line).zipIdx.map fun (run, i) =>
    ⟨run, if i = 0 then "\n" else " "⟩

def passages (text : String) : List Passage :=
  (linesOf text).map trim |>.filter (!·.isEmpty) |>.flatMap (lim.linePassages count)

/-- Grow the overlap by one word from the end while it stays within both budgets; `words` are
the words still available, last first, and `taken` the words of the overlap so far. -/
def growOverlap (p : Passage) : List String → List String → Option String → Option String
  | [], _, best => best
  | w :: rest, taken, best =>
    let overlap := " ".intercalate (w :: taken)
    if count overlap > lim.maxOverlap then best
    else if count (overlap ++ p.separator ++ p.text) > lim.maxTokens then best
    else growOverlap p rest (w :: taken) (some overlap)

/-- The last words of a segment that the next segment starts with, if any fit. -/
def overlapOf (previous : String) (p : Passage) : Option String :=
  if lim.maxOverlap = 0 then none
  else lim.growOverlap count p (wordsOf previous).reverse [] none

/-- One passage of `split`: the passage joins the segment when the segment stays within the
budget, else the segment is done and the next one starts with the overlap and the passage. -/
def packStep : List String × String → Passage → List String × String
  | (segments, current), p =>
    if current.isEmpty then (segments, p.text)
    else
      let candidate := current ++ p.separator ++ p.text
      if count candidate ≤ lim.maxTokens then (segments, candidate)
      else
        let next := match lim.overlapOf count current p with
          | some o => o ++ p.separator ++ p.text
          | none => p.text
        (segments ++ [current], next)

def split (text : String) : List String :=
  flush ((lim.passages count text).foldl (lim.packStep count) ([], ""))

end SplitLimits

end KnowledgeDesk.Document
