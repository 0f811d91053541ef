import KnowledgeDesk.Vector.Basic

/-!
# An in-memory vector store

Indices by name, each a list of entries in the order first added. Adding an entry whose id is
already in the index replaces that entry in place. A search scores every entry of the index by
relevance to the query, keeps those at or above the least score, orders them highest first (a
stable order, so equal scores keep their order), and keeps the first `maxResults`.
-/

namespace KnowledgeDesk

/-- Indices of entries, by name. -/
structure MemoryStore where
  indices : List (String × List EmbeddingEntry) := []

namespace MemoryStore

/-- The entries of an index. -/
def entries (s : MemoryStore) (index : String) : List EmbeddingEntry :=
  ((s.indices.find? (·.1 = index)).map (·.2)).getD []

/-- Replace the entries of an index. -/
def setEntries (s : MemoryStore) (index : String) (es : List EmbeddingEntry) : MemoryStore :=
  if s.indices.any (·.1 = index) then
    ⟨s.indices.map fun (k, v) => if k = index then (k, es) else (k, v)⟩
  else ⟨s.indices ++ [(index, es)]⟩

/-- How many entries an index has. -/
def size (s : MemoryStore) (index : String) : Nat := (s.entries index).length

/-- Add one entry: replace the entry of the same id, or append. -/
def addEntry (es : List EmbeddingEntry) (e : EmbeddingEntry) : List EmbeddingEntry :=
  if es.any (·.id = e.id) then
    let rec replaceFirst : List EmbeddingEntry → List EmbeddingEntry
      | [] => []
      | x :: rest => if x.id = e.id then e :: rest else x :: replaceFirst rest
    replaceFirst es
  else es ++ [e]

/-- Add entries to an index, creating it. -/
def addAll (s : MemoryStore) (index : String) (es : List EmbeddingEntry) : MemoryStore :=
  s.setEntries index (es.foldl addEntry (s.entries index))

/-- The entries most relevant to a query. -/
def findRelevant (s : MemoryStore) (index : String) (query : List Float32) (maxResults : Nat)
    (minScore : Float) : List EmbeddingMatch :=
  let scored := (s.entries index).filterMap fun e =>
    let score := relevance query e.vector
    if score >= minScore then some ⟨e.id, score, e.segment⟩ else none
  (byScore scored).take maxResults

/-- Remove the entries of a file. -/
def removeFile (s : MemoryStore) (index : String) (fileKey : String) : MemoryStore :=
  if s.indices.any (·.1 = index) then
    s.setEntries index ((s.entries index).filter fun e => e.segment.meta? metaFileKey ≠ some fileKey)
  else s

/-- Remove an index. -/
def dropIndex (s : MemoryStore) (index : String) : MemoryStore :=
  ⟨s.indices.filter (·.1 ≠ index)⟩

end MemoryStore

end KnowledgeDesk
