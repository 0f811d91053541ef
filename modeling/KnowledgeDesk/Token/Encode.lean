import KnowledgeDesk.Token.Piece
import KnowledgeDesk.Token.Ranks
import KnowledgeDesk.Token.Tokenizer

/-!
# Tokens of a text

A piece that is itself a token stays whole. Any other piece starts as its bytes, one part each,
and the neighbouring parts whose join has the least rank are joined, the leftmost of equal
ranks first, until no join is a token. Markers are one token each.

* `mergeParts` joins parts by rank; `pieceTokens` encodes one piece.
* `encode` gives the tokens of a text as byte strings, `count` their number, and `cl100k` is
  this encoding as a `Tokenizer`.
-/

namespace KnowledgeDesk.Token

/-- The leftmost neighbouring pair of parts whose join has the least rank, scanning from
position `i` with the best pair so far: its position and rank. -/
def bestPairFrom (rank : List UInt8 → Option Nat) (i : Nat) (best : Option (Nat × Nat)) :
    List (List UInt8) → Option (Nat × Nat)
  | a :: b :: rest =>
    let best' := match rank (a ++ b), best with
      | some r, some (j, s) => if r < s then some (i, r) else some (j, s)
      | some r, none => some (i, r)
      | none, _ => best
    bestPairFrom rank (i + 1) best' (b :: rest)
  | _ => best

/-- Join the parts at positions `i` and `i + 1`. -/
def joinAt : Nat → List (List UInt8) → List (List UInt8)
  | 0, a :: b :: rest => (a ++ b) :: rest
  | i + 1, a :: rest => a :: joinAt i rest
  | _, parts => parts

/-- Joining two parts makes one fewer. -/
theorem length_joinAt : ∀ (i : Nat) (parts : List (List UInt8)), i + 1 < parts.length →
    (joinAt i parts).length + 1 = parts.length
  | 0, _ :: _ :: _, _ => by simp [joinAt]
  | i + 1, _ :: rest, h => by
    simp only [List.length_cons] at h
    simp only [joinAt, List.length_cons, length_joinAt i rest (by omega)]
  | 0, [], h | 0, [_], h | _ + 1, [], h => by simp at h

/-- Join parts, least rank first, until no join of neighbours is ranked. -/
def mergeParts (rank : List UInt8 → Option Nat) (parts : List (List UInt8)) :
    List (List UInt8) :=
  match bestPairFrom rank 0 none parts with
  | none => parts
  | some (i, _) =>
    if _hlen : i + 1 < parts.length then mergeParts rank (joinAt i parts) else parts
termination_by parts.length
decreasing_by have := length_joinAt i parts _hlen; omega

/-- The tokens of one piece. -/
def pieceTokens (piece : List Char) : List (List UInt8) :=
  let bytes := t (String.ofList piece)
  if isToken bytes then [bytes] else mergeParts rank? (bytes.map (fun b => [b]))

/-- The tokens of a text, as byte strings; a marker is one token. -/
def encode (s : String) : List (List UInt8) :=
  (segments s).flatMap fun
    | .plain cs => (pieces cs).flatMap pieceTokens
    | .marker m => [t m]

/-- The number of tokens of a text. -/
def count (s : String) : Nat := (encode s).length

@[simp] theorem count_empty : count "" = 0 := by
  simp [count, encode, segments, segmentsFrom]

/-- The tokenizer of this library. -/
def cl100k : Tokenizer := ⟨encode⟩

end KnowledgeDesk.Token
