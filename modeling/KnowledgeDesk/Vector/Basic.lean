import KnowledgeDesk.Number.Decimal
import KnowledgeDesk.Text.Blank

/-!
# Vectors

Embedding vectors hold 32-bit floats; similarity is computed in 64 bits. The cosine of two
vectors of different lengths, of empty vectors, or of a vector with zero norm is `0`;
`relevance` maps the cosine from `[-1, 1]` onto `[0, 1]`.

A vector is stored as text: `[a, b, c]` with each number in its shortest positional form. Reading
takes the text between the brackets (after trimming), splits it at commas, and reads each piece
as a 32-bit float.
-/

namespace KnowledgeDesk

/-- Why a vector store call failed. -/
inductive VectorError where
  /-- The request could not be made. -/
  | http (message : String)
  /-- The store answered with an error status. -/
  | status (code : Nat) (body : String)
  /-- An answer or a stored vector could not be read. -/
  | decode (message : String)
  deriving Repr, DecidableEq

namespace VectorError

def text : VectorError → String
  | .http m => "Vector store request failed: " ++ m
  | .status c b => s!"Vector store returned {c}: {b}"
  | .decode m => "向量数据解析失败：" ++ m

def kind : VectorError → String
  | .http _ => "Http"
  | .status .. => "Status"
  | .decode _ => "Decode"

end VectorError

def datasetIndex (id : Int) : String := s!"knowledge-embeddings-{id}"

def projectIndex (id : Int) : String := s!"knowledge-project-{id}"

/-- The dot product and both squared norms, summed in order. -/
def dotAndNorms (a b : List Float32) : Float × Float × Float :=
  (a.zip b).foldl (fun (d, na, nb) (x, y) =>
    let x := x.toFloat
    let y := y.toFloat
    (d + x * y, na + x * x, nb + y * y)) (0.0, 0.0, 0.0)

/-- The cosine of the angle between two vectors. -/
def cosine (a b : List Float32) : Float :=
  if a.length ≠ b.length || a.isEmpty then 0.0 else
  let (dot, na, nb) := dotAndNorms a b
  if na == 0.0 || nb == 0.0 then 0.0 else dot / (na.sqrt * nb.sqrt)

def relevance (a b : List Float32) : Float := (cosine a b + 1.0) / 2.0

def vectorText (v : List Float32) : String :=
  "[" ++ ", ".intercalate (v.map Number.Float32.plainText) ++ "]"

def readVectorItem (piece : String) : Except VectorError Float32 :=
  match Number.parseFloat32 (Text.trim piece) with
  | .ok x => .ok x
  | .error e => .error (.decode (piece ++ ": " ++ e.message))

/-- Read a stored vector. -/
def parseVector (s : String) : Except VectorError (List Float32) :=
  let t := (Text.trim s).toList
  match t with
  | '[' :: rest =>
    if rest.getLast? = some ']' then
      let inner := String.ofList rest.dropLast
      if Text.isBlankText inner then .ok []
      else (inner.splitToList (· == ',')).mapM readVectorItem
    else .error (.decode ("not a vector: " ++ s))
  | _ => .error (.decode ("not a vector: " ++ s))

/-- A text with its metadata, name to value, names in order and each once. -/
structure TextSegment where
  text : String
  metadata : List (String × String) := []
  deriving Repr, DecidableEq, Inhabited

def metaFileName : String := "file_name"
def metaFileKey : String := "file_key"
def metaEmbeddingId : String := "embedding_id"

/-- Set a name in metadata, keeping names in order. -/
def setMeta (k v : String) : List (String × String) → List (String × String)
  | [] => [(k, v)]
  | (k', v') :: rest =>
    if k < k' then (k, v) :: (k', v') :: rest
    else if k = k' then (k, v) :: rest
    else (k', v') :: setMeta k v rest

/-- Metadata from pairs in any order, a later pair winning. -/
def metaOfPairs (pairs : List (String × String)) : List (String × String) :=
  pairs.foldl (fun m (k, v) => setMeta k v m) []

def TextSegment.meta? (s : TextSegment) (k : String) : Option String :=
  (s.metadata.find? (·.1 = k)).map (·.2)

structure EmbeddingEntry where
  id : String
  vector : List Float32
  segment : TextSegment

/-- A stored segment found for a query, with its relevance. -/
structure EmbeddingMatch where
  id : String
  score : Float
  segment : TextSegment

/-- A key ordering floats totally: negative NaNs, `-∞`, negatives, `-0`, `+0`, positives, `+∞`,
positive NaNs. -/
def totalKey (x : Float) : Int :=
  let b := x.toBits.toNat
  if b ≥ Nat.pow 2 63 then -((b - Nat.pow 2 63 : Nat) : Int) - 1 else b

/-- Matches by relevance, highest first; equal scores keep their order. -/
def byScore (ms : List EmbeddingMatch) : List EmbeddingMatch :=
  ms.mergeSort fun a b => decide (totalKey b.score ≤ totalKey a.score)

end KnowledgeDesk
