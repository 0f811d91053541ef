import KnowledgeDesk.Store.Records

/-!
# The database of the knowledge desk

One table per kind of record. Deleting a record that owns others deletes them with it, in one
transaction: a bot its sessions, a dataset its files, a project its documents, its stored vectors
and its preset messages, a document the vectors of its file in its project, a toolset its
abilities. What hangs off a record goes before the record itself, so a delete of a key that names
no row fails after deleting, and the transaction's rollback leaves the database as it was.

Lookups by a field answer rows in key order, except a user's sessions, which come newest first
(by their stored date text; sessions of the same date in key order), and a conversation's preset
messages, which come by `ordering` and then by key.
-/

namespace KnowledgeDesk.Store

structure Database where
  bots : Table Bot := {}
  sessions : Table BotSession := {}
  datasets : Table Dataset := {}
  datasetFiles : Table DatasetFile := {}
  projects : Table Project := {}
  documents : Table ProjectDocument := {}
  embeddings : Table EmbeddingRow := {}
  toolsets : Table Toolset := {}
  abilities : Table Ability := {}
  models : Table ModelAccount := {}
  fineTunings : Table FineTuning := {}
  tags : Table Tag := {}
  deriving Repr

namespace Database

/-- Add a bot, first adding the dataset and toolset given for it and pointing it at them. -/
def createBotWith (db : Database) (bot : Bot) (dataset : Option Dataset) (toolset : Option Toolset) :
    Database × Row Bot :=
  let (db, bot) := match dataset with
    | some d =>
      let (t, r) := db.datasets.insert d
      ({ db with datasets := t }, { bot with datasetId := r.id })
    | none => (db, bot)
  let (db, bot) := match toolset with
    | some ts =>
      let (t, r) := db.toolsets.insert ts
      ({ db with toolsets := t }, { bot with toolsetId := r.id })
    | none => (db, bot)
  let (t, r) := db.bots.insert bot
  ({ db with bots := t }, r)

inductive StoreError where
  /-- The row the operation needs is missing. -/
  | notFound
  deriving Repr, DecidableEq

/-- Run statements as one transaction: when all of them succeed, the database they leave is
kept; when one fails, the transaction is rolled back and the database is left as it was. -/
def transaction {α : Type} (db : Database) (body : Database → Except StoreError (Database × α)) :
    Database × Except StoreError α :=
  match body db with
  | .ok (db', a) => (db', .ok a)
  | .error e => (db, .error e)

/-- Delete a bot and its sessions: the sessions first, then the bot, which must exist. -/
def removeBot (db : Database) (id : Int) : Database × Except StoreError Unit :=
  db.transaction fun db =>
    let db := { db with sessions := (db.sessions.deleteWhere (·.botId == id)).1 }
    let (bots, count) := db.bots.deleteKey id
    if count = 0 then .error .notFound else .ok ({ db with bots }, ())

/-- Delete a dataset and its files, answering the files: the files first, then the dataset, which
must exist. -/
def removeDataset (db : Database) (id : Int) :
    Database × Except StoreError (List (Row DatasetFile)) :=
  db.transaction fun db =>
    let (datasetFiles, files) := db.datasetFiles.deleteWhere (·.datasetId == id)
    let db := { db with datasetFiles }
    let (datasets, count) := db.datasets.deleteKey id
    if count = 0 then .error .notFound else .ok ({ db with datasets }, files)

/-- Delete a project with its documents, stored vectors and preset messages, answering the
documents: what hangs off the project first, then the project, which must exist. -/
def removeProject (db : Database) (id : Int) :
    Database × Except StoreError (List (Row ProjectDocument)) :=
  db.transaction fun db =>
    let (documents, docs) := db.documents.deleteWhere (·.projectId == id)
    let embeddings := (db.embeddings.deleteWhere (·.projectId == id)).1
    let fineTunings := (db.fineTunings.deleteWhere (·.projectId == id)).1
    let db := { db with documents, embeddings, fineTunings }
    let (projects, count) := db.projects.deleteKey id
    if count = 0 then .error .notFound else .ok ({ db with projects }, docs)

/-- Delete a document, which must exist, and then the vectors of its file in its project,
answering the document. -/
def removeDocument (db : Database) (id : Int) :
    Database × Except StoreError (Row ProjectDocument) :=
  db.transaction fun db =>
    match db.documents.remove? id with
    | none => .error .notFound
    | some (documents, doc) =>
      let embeddings := (db.embeddings.deleteWhere fun e =>
        e.fileId == doc.val.fileKey && e.projectId == doc.val.projectId).1
      .ok ({ db with documents, embeddings }, doc)

/-- Delete a toolset and its abilities: the abilities first, then the toolset, which must
exist. -/
def removeToolset (db : Database) (id : Int) : Database × Except StoreError Unit :=
  db.transaction fun db =>
    let db := { db with abilities := (db.abilities.deleteWhere (·.toolsetId == id)).1 }
    let (toolsets, count) := db.toolsets.deleteKey id
    if count = 0 then .error .notFound else .ok ({ db with toolsets }, ())

def createEmbeddings (db : Database) (rows : List EmbeddingRow) : Database × Nat :=
  if rows.isEmpty then (db, 0)
  else ({ db with embeddings := db.embeddings.insertAll rows }, rows.length)

/-- The first session with a session id. -/
def sessionNamed? (db : Database) (sessionId : String) : Option (Row BotSession) :=
  db.sessions.rows.find? (·.val.sessionId == sessionId)

/-- The first session with a session id that belongs to an access code. -/
def sessionOf? (db : Database) (sessionId accessCode : String) : Option (Row BotSession) :=
  db.sessions.rows.find? fun r => r.val.sessionId == sessionId && r.val.accessCode == accessCode

def sessionsOf (db : Database) (accessCode : String) : List (Row BotSession) :=
  (db.sessions.select (·.accessCode == accessCode)).mergeSort fun a b =>
    decide (b.val.creationDate.storedText ≤ a.val.creationDate.storedText)

/-- Set the content of every session with a session id; nothing when there is none. -/
def setSessionContent (db : Database) (sessionId content : String) : Option Database :=
  let (sessions, n) := db.sessions.modifyWhere (·.sessionId == sessionId)
    fun s => { s with content }
  if n = 0 then none else some { db with sessions }

def abilitiesOf (db : Database) (toolsetId : Int) : List (Row Ability) :=
  db.abilities.select (·.toolsetId == toolsetId)

def filesOf (db : Database) (datasetId : Int) : List (Row DatasetFile) :=
  db.datasetFiles.select (·.datasetId == datasetId)

def documentsOf (db : Database) (projectId : Int) : List (Row ProjectDocument) :=
  db.documents.select (·.projectId == projectId)

/-- The stored vectors of a file, whatever their project. -/
def embeddingsOfFile (db : Database) (fileKey : String) : List (Row EmbeddingRow) :=
  db.embeddings.select (·.fileId == fileKey)

def embeddingsOfProject (db : Database) (projectId : Int) : List (Row EmbeddingRow) :=
  db.embeddings.select (·.projectId == projectId)

/-- The preset messages of a conversation, by `ordering` and then by key. -/
def fineTuningsOf (db : Database) (conversationId : Int) : List (Row FineTuning) :=
  (db.fineTunings.select (·.conversationId == conversationId)).mergeSort fun a b =>
    decide (a.val.ordering ≤ b.val.ordering)

/-- Mark a document as embedded or not; nothing when there is no such document. -/
def setEmbedded (db : Database) (id : Int) (embedded : Bool) : Option Database := do
  let doc ← db.documents.find? id
  let (documents, _) ← db.documents.replace id { doc.val with isEmbedding := embedded }
  pure { db with documents }

end Database

end KnowledgeDesk.Store
