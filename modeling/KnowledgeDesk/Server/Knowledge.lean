import KnowledgeDesk.Server.State
import KnowledgeDesk.Document.Split

/-!
# Datasets, projects and their vectors

The knowledge a server answers from, as pure functions of its `State`:

* a *dataset file* is stored, read as text by the server's document readers, cut into segments
  of the dataset's token budget (300 when it sets none, tokens counted by the server's
  tokenizer) with five tokens of overlap, and each segment's vector goes to the
  dataset's index under a fresh id, with the file's name and key as metadata. When any step
  fails the file and its record are taken away again and the error is answered; the record's
  key stays used;
* a *project document* is only stored on upload; embedding the project cuts each document into
  segments of 300 tokens, keeps the vectors in the database as text (once per file: a file
  whose vectors are stored already is not cut again) and loads them into the project's index
  with the row's key as id;
* a project's index is loaded from the database when a question meets it empty.

Operations that change the state answer the new state even when they fail, since a failed
upload still used up a key and a random id.
-/

namespace KnowledgeDesk.Server

open Store Files

namespace State

def withDb (s : State) (db : Database) : State := { s with db }

/-- Add a bot; a dataset id of zero creates a dataset for it (segments of 200 tokens, ten matches
of at most 2000 tokens, the default instructions), a toolset id of zero a toolset. -/
def createBot (s : State) (bot : Bot) : State × Row Bot :=
  let dataset : Option Dataset := if bot.datasetId = 0 then
      some { name := bot.name ++ " dataset", description := bot.description ++ " dataset",
             recordMaxTokens := 200, searchMaxRecord := 10, searchMaxTokens := 2000,
             matchInstruction := defaultMatchInstruction,
             mismatchInstruction := defaultMismatchInstruction }
    else none
  let toolset : Option Toolset := if bot.toolsetId = 0 then
      some { name := bot.name ++ " toolset", description := "" }
    else none
  let (db, row) := s.db.createBotWith bot dataset toolset
  (s.withDb db, row)

/-- The segments of an uploaded file. -/
def segmentsOf (s : State) (bytes : ByteArray) (fileName : String) (maxTokens : Nat) :
    Except Failure (List String) := do
  let text ← (Document.extractText s.libs.readers (DocumentKind.ofFileName fileName) bytes).mapError
    .document
  pure ((Document.SplitLimits.new maxTokens 5).split s.libs.tokenizer.count text)

def embedSegments (s : State) (segments : List String) : Except Failure (List (List Float32)) := do
  let vs ← (s.embedAll segments).mapError Failure.embedding
  if vs.length != segments.length then
    throw (.embedding s!"{segments.length} segments but {vs.length} vectors")
  pure vs

/-! ## Dataset vectors -/

def datasetAdd (s : State) (index : String) (entries : List EmbeddingEntry) :
    Except Failure State :=
  match s.wiring.datasetIndex with
  | .memory => .ok { s with datasetVectors := s.datasetVectors.addAll index entries }
  | .search c => match c.add s.libs.network index entries with
    | .ok () => .ok s
    | .error e => .error (.vectors e.text)

/-- Remove a file's entries from a dataset index; a failure only leaves them. -/
def datasetRemoveFile (s : State) (index fileKey : String) : State :=
  match s.wiring.datasetIndex with
  | .memory => { s with datasetVectors := s.datasetVectors.removeFile index fileKey }
  | .search _ => s

/-- Remove a dataset index; a failure only leaves it. -/
def datasetDrop (s : State) (index : String) : State :=
  match s.wiring.datasetIndex with
  | .memory => { s with datasetVectors := s.datasetVectors.dropIndex index }
  | .search _ => s

def searchDataset (s : State) (datasetId : Int) (query : List Float32) (maxResults : Nat)
    (minScore : Float) : Except Failure (List EmbeddingMatch) :=
  match s.wiring.datasetIndex with
  | .memory => .ok (s.datasetVectors.findRelevant (datasetIndex datasetId) query maxResults minScore)
  | .search c => (c.find s.libs.network (datasetIndex datasetId) query maxResults minScore).mapError
      fun e => .vectors e.text

/-! ## Dataset files -/

/-- Entries for segments and their vectors, each under a fresh id. -/
def freshEntries (s : State) (info : List (String × String)) :
    List (String × List Float32) → State × List EmbeddingEntry
  | [] => (s, [])
  | (text, v) :: rest =>
    let (s, id) := s.freshUuid
    let (s, es) := freshEntries s info rest
    (s, ⟨id, v, ⟨text, info⟩⟩ :: es)

/-- Cut a stored dataset file into segments and index their vectors, answering how many. -/
def ingestDatasetFile (s : State) (dataset : Row Dataset) (file : Row DatasetFile)
    (bytes : ByteArray) : State × Except Failure Nat :=
  let maxTokens := if dataset.val.recordMaxTokens > 0 then dataset.val.recordMaxTokens.toNat else 300
  match s.segmentsOf bytes file.val.name maxTokens with
  | .error e => (s, .error e)
  | .ok [] => (s, .ok 0)
  | .ok segments =>
    match s.embedSegments segments with
    | .error e => (s, .error e)
    | .ok vectors =>
      let info := metaOfPairs [(metaFileName, file.val.name), (metaFileKey, file.val.fileKey)]
      let (s, entries) := s.freshEntries info (segments.zip vectors)
      match s.datasetAdd (datasetIndex dataset.id) entries with
      | .ok s => (s, .ok entries.length)
      | .error e => (s, .error e)

/-- Store an uploaded file in a dataset and index it. When indexing fails, the file and its
record are taken away again. -/
def addDatasetFile (s : State) (datasetId : Int) (name description : String) (bytes : ByteArray) :
    State × Except Failure (Row DatasetFile) :=
  match s.db.datasets.find? datasetId with
  | none => (s, .error (.notFound s!"Dataset {datasetId}"))
  | some dataset =>
    let (s, key) := s.freshUuid
    let s := { s with files := s.files.put key bytes }
    let (t, file) := s.db.datasetFiles.insert { name, description, datasetId, fileKey := key }
    let s := s.withDb { s.db with datasetFiles := t }
    match s.ingestDatasetFile dataset file bytes with
    | (s, .ok _) => (s, .ok file)
    | (s, .error e) =>
      let s := match s.db.datasetFiles.remove? file.id with
        | some (t, _) => s.withDb { s.db with datasetFiles := t }
        | none => s
      let s := { s with files := s.files.discard key }
      (s.datasetRemoveFile (datasetIndex datasetId) key, .error e)

def datasetFile (s : State) (id : Int) : Except Failure (Row DatasetFile × ByteArray) := do
  let some f := s.db.datasetFiles.find? id | throw (.notFound s!"Dataset file {id}")
  let bytes ← (s.files.read f.val.fileKey).mapError .file
  pure (f, bytes)

/-- Delete a dataset file with its content and vectors. -/
def removeDatasetFile (s : State) (id : Int) : Except Failure State := do
  let some (t, f) := s.db.datasetFiles.remove? id | throw .rowMissing
  let s := { s.withDb { s.db with datasetFiles := t } with files := s.files.discard f.val.fileKey }
  pure (s.datasetRemoveFile (datasetIndex f.val.datasetId) f.val.fileKey)

/-- Delete a dataset with its files and index. -/
def removeDataset (s : State) (id : Int) : Except Failure State := do
  let (db, .ok gone) := s.db.removeDataset id | throw .rowMissing
  let files := gone.foldl (fun (fs : FileStore) (f : Row DatasetFile) => fs.discard f.val.fileKey)
    s.files
  let s := { s.withDb db with files }
  pure (s.datasetDrop (datasetIndex id))

/-! ## Project documents -/

/-- Store an uploaded document of a project. -/
def addDocument (s : State) (projectId : Int) (name : String) (bytes : ByteArray) :
    State × Except Failure (Row ProjectDocument) :=
  match s.db.projects.find? projectId with
  | none => (s, .error (.notFound s!"Project {projectId}"))
  | some _ =>
    let (s, key) := s.freshUuid
    let s := { s with files := s.files.put key bytes }
    let (t, d) := s.db.documents.insert { name, fileKey := key, projectId, isEmbedding := false }
    (s.withDb { s.db with documents := t }, .ok d)

def documentFile (s : State) (id : Int) : Except Failure (Row ProjectDocument × ByteArray) := do
  let some d := s.db.documents.find? id | throw (.notFound s!"Document {id}")
  let bytes ← (s.files.read d.val.fileKey).mapError .file
  pure (d, bytes)

/-- Delete a document with its stored vectors, content and indexed vectors. -/
def removeDocument (s : State) (id : Int) : Except Failure State := do
  let (db, .ok d) := s.db.removeDocument id | throw .rowMissing
  let s := { s.withDb db with files := s.files.discard d.val.fileKey }
  pure { s with projectVectors :=
    s.projectVectors.removeFile (projectIndex d.val.projectId) d.val.fileKey }

/-- Delete a project with its documents, their content, and its index. -/
def removeProject (s : State) (id : Int) : Except Failure State := do
  let (db, .ok gone) := s.db.removeProject id | throw .rowMissing
  let files := gone.foldl
    (fun (fs : FileStore) (d : Row ProjectDocument) => fs.discard d.val.fileKey) s.files
  let s := { s.withDb db with files }
  pure { s with projectVectors := s.projectVectors.dropIndex (projectIndex id) }

def rowEntry (fileName : String) (row : Row EmbeddingRow) : Except Failure EmbeddingEntry :=
  match parseVector row.val.vectors with
  | .error e => .error (.vectors e.text)
  | .ok v => .ok ⟨toString row.id, v, ⟨row.val.textSegment, metaOfPairs
      [(metaFileName, fileName), (metaFileKey, row.val.fileId), (metaEmbeddingId, toString row.id)]⟩⟩

/-- The stored vector rows of a document's file, cutting and embedding the file first when
there are none. -/
def documentRows (s : State) (doc : Row ProjectDocument) :
    State × Except Failure (List (Row EmbeddingRow)) :=
  let rows := s.db.embeddingsOfFile doc.val.fileKey
  if !rows.isEmpty then (s, .ok rows)
  else
    match s.files.read doc.val.fileKey with
    | .error e => (s, .error (.file e))
    | .ok bytes =>
      match s.segmentsOf bytes doc.val.name 300 with
      | .error e => (s, .error e)
      | .ok segments =>
        match s.embedSegments segments with
        | .error e => (s, .error e)
        | .ok vectors =>
          let fresh : List EmbeddingRow := (segments.zip vectors).map fun (text, v) =>
            { fileId := doc.val.fileKey, projectId := doc.val.projectId, vectors := vectorText v,
              textSegment := text }
          let s := s.withDb (s.db.createEmbeddings fresh).1
          (s, .ok (s.db.embeddingsOfFile doc.val.fileKey))

/-- Embed one document into its project's index and mark it embedded. -/
def embedDocument (s : State) (doc : Row ProjectDocument) : State × Except Failure Nat :=
  match s.documentRows doc with
  | (s, .error e) => (s, .error e)
  | (s, .ok rows) =>
    match rows.mapM (rowEntry doc.val.name) with
    | .error e => (s, .error e)
    | .ok entries =>
      let s := { s with projectVectors :=
        s.projectVectors.addAll (projectIndex doc.val.projectId) entries }
      match s.db.setEmbedded doc.id true with
      | some db => (s.withDb db, .ok entries.length)
      | none => (s, .error .rowMissing)

/-- Embed every document of a project, answering how many succeeded; a document that fails is
skipped. -/
def embedProject (s : State) (projectId : Int) : State × Except Failure Nat :=
  match s.db.projects.find? projectId with
  | none => (s, .error (.notFound s!"Project {projectId}"))
  | some _ =>
    let docs := s.db.documentsOf projectId
    let (s, n) := docs.foldl (fun (acc : State × Nat) d =>
      match acc.1.embedDocument d with
      | (s, .ok _) => (s, acc.2 + 1)
      | (s, .error _) => (s, acc.2)) (s, 0)
    (s, .ok n)

/-- Load a project's stored vectors into its index when the index is empty. -/
def ensureProjectIndex (s : State) (projectId : Int) : Except Failure State := do
  let index := projectIndex projectId
  if s.projectVectors.size index > 0 then return s
  let docs := s.db.documentsOf projectId
  let entries ← (s.db.embeddingsOfProject projectId).mapM fun row =>
    let name := ((docs.find? (·.val.fileKey == row.val.fileId)).map (·.val.name)).getD ""
    rowEntry name row
  pure { s with projectVectors := s.projectVectors.addAll index entries }

def searchProject (s : State) (projectId : Int) (query : List Float32) (maxResults : Nat)
    (minScore : Float) : List EmbeddingMatch :=
  s.projectVectors.findRelevant (projectIndex projectId) query maxResults minScore

end State

end KnowledgeDesk.Server
