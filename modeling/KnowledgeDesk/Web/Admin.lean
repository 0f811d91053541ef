import KnowledgeDesk.Web.Extract
import KnowledgeDesk.Web.Route

/-!
# The administration

Every kind of record can be listed (all of them, or those an `ids` query names), fetched by
key, created from JSON, replaced by key and deleted by key. A few kinds do more:

* creating a bot also creates the dataset and toolset it is pointed at with a zero id;
* deleting a bot, dataset, project, document or toolset deletes what hangs off it, and the
  stored files and vectors that go with it;
* dataset files and project documents are uploaded as multipart forms and downloaded as
  attachments; records of them must name a well-formed file key;
* embedding a project turns its documents into vectors.

Stored vector rows can only be read and deleted.
-/

namespace KnowledgeDesk.Web

open Http Server Store

/-- Where a kind of record is kept in the database, and what it must satisfy to be written. -/
structure Shelf (α : Type) where
  get : Database → Table α
  set : Database → Table α → Database
  /-- Why a submitted record may not be written, if it may not. -/
  check : α → Option String

/-- Refuse a file key the file store would not have made. -/
def keyCheck (key : String) : Option String :=
  if Files.isValidKey key then none else some ("Invalid file key " ++ key)

def plainShelf {α : Type} (get : Database → Table α) (set : Database → Table α → Database) :
    Shelf α := ⟨get, set, fun _ => none⟩

def settle (r : Except Response Response) : Response :=
  match r with
  | .ok r => r
  | .error r => r

def rowsJson {α : Type} [Entity α] (rows : List (Row α)) : Json := .arr (rows.map Row.toJson)

variable {α : Type} [Entity α]

/-- List records: all, or those whose keys the `ids` query names. -/
def listRecords (s : State) (shelf : Shelf α) (req : Request) : Response := settle do
  let table := shelf.get s.db
  match ← idsQuery req with
  | none => pure (Response.json 200 (rowsJson table.rows))
  | some ids => pure (Response.json 200 (rowsJson (table.byIds ids)))

def fetchRecord (s : State) (shelf : Shelf α) (rawId : String) : Response := settle do
  let id ← pathId rawId
  match (shelf.get s.db).find? id with
  | some r => pure (Response.json 200 r.toJson)
  | none => pure (Response.error 404 (Entity.label α ++ " " ++ toString id ++ " not found"))

/-- Create a record from a JSON body. -/
def createRecord (s : State) (shelf : Shelf α) (req : Request) : State × Response :=
  match jsonBody s.libs.json req (Entity.shape α) with
  | .error r => (s, r)
  | .ok j =>
    let a : α := Entity.ofJson j
    match shelf.check a with
    | some m => (s, Response.error 400 m)
    | none =>
      let (t, row) := (shelf.get s.db).insert a
      (s.withDb (shelf.set s.db t), Response.json 201 row.toJson)

/-- Replace a record by key with a JSON body. -/
def updateRecord (s : State) (shelf : Shelf α) (rawId : String) (req : Request) :
    State × Response :=
  match pathId rawId with
  | .error r => (s, r)
  | .ok id =>
    match jsonBody s.libs.json req (Entity.shape α) with
    | .error r => (s, r)
    | .ok j =>
      let a : α := Entity.ofJson j
      match shelf.check a with
      | some m => (s, Response.error 400 m)
      | none =>
        match (shelf.get s.db).replace id a with
        | some (t, row) => (s.withDb (shelf.set s.db t), Response.json 200 row.toJson)
        | none => (s, Response.error 404 (Entity.label α ++ " " ++ toString id ++ " not found"))

/-- Delete a record by key, nothing hanging off it. -/
def deleteRecord (s : State) (shelf : Shelf α) (rawId : String) : State × Response :=
  match pathId rawId with
  | .error r => (s, r)
  | .ok id =>
    match (shelf.get s.db).remove? id with
    | some (t, _) => (s.withDb (shelf.set s.db t), Response.empty 204)
    | none => (s, failureResponse .rowMissing)

/-- Run a delete that may take other things with it. -/
def deleteWith (s : State) (rawId : String) (remove : State → Int → Except Failure State) :
    State × Response :=
  match pathId rawId with
  | .error r => (s, r)
  | .ok id =>
    match remove s id with
    | .ok s => (s, Response.empty 204)
    | .error f => (s, failureResponse f)

/-! ## The shelves -/

def botShelf : Shelf Bot := plainShelf (·.bots) fun db t => { db with bots := t }
def sessionShelf : Shelf BotSession := plainShelf (·.sessions) fun db t => { db with sessions := t }
def datasetShelf : Shelf Dataset := plainShelf (·.datasets) fun db t => { db with datasets := t }
/-- Dataset files, which must name a well-formed file key. -/
def datasetFileShelf : Shelf DatasetFile :=
  ⟨(·.datasetFiles), (fun db t => { db with datasetFiles := t }), fun f => keyCheck f.fileKey⟩
def projectShelf : Shelf Project := plainShelf (·.projects) fun db t => { db with projects := t }
/-- Project documents, which must name a well-formed file key. -/
def documentShelf : Shelf ProjectDocument :=
  ⟨(·.documents), (fun db t => { db with documents := t }), fun d => keyCheck d.fileKey⟩
def embeddingShelf : Shelf EmbeddingRow :=
  plainShelf (·.embeddings) fun db t => { db with embeddings := t }
def toolsetShelf : Shelf Toolset := plainShelf (·.toolsets) fun db t => { db with toolsets := t }
def abilityShelf : Shelf Ability := plainShelf (·.abilities) fun db t => { db with abilities := t }
def modelShelf : Shelf ModelAccount := plainShelf (·.models) fun db t => { db with models := t }
def fineTuningShelf : Shelf FineTuning :=
  plainShelf (·.fineTunings) fun db t => { db with fineTunings := t }
def tagShelf : Shelf Tag := plainShelf (·.tags) fun db t => { db with tags := t }

/-! ## Handlers by resource -/

def adminCollection (s : State) (r : Resource) (method : String) (req : Request) :
    State × Response :=
  let create := method == "POST"
  match r with
  | .bots =>
    if create then
      match jsonBody s.libs.json req (Entity.shape Bot) with
      | .error resp => (s, resp)
      | .ok j =>
        let (s, row) := s.createBot (Entity.ofJson j)
        (s, Response.json 201 row.toJson)
    else (s, listRecords s botShelf req)
  | .botSessions => if create then createRecord s sessionShelf req else (s, listRecords s sessionShelf req)
  | .datasets => if create then createRecord s datasetShelf req else (s, listRecords s datasetShelf req)
  | .datasetFiles =>
    if create then createRecord s datasetFileShelf req else (s, listRecords s datasetFileShelf req)
  | .projects => if create then createRecord s projectShelf req else (s, listRecords s projectShelf req)
  | .documents =>
    if create then createRecord s documentShelf req else (s, listRecords s documentShelf req)
  | .embeddings => (s, listRecords s embeddingShelf req)
  | .toolsets => if create then createRecord s toolsetShelf req else (s, listRecords s toolsetShelf req)
  | .abilities => if create then createRecord s abilityShelf req else (s, listRecords s abilityShelf req)
  | .models => if create then createRecord s modelShelf req else (s, listRecords s modelShelf req)
  | .fineTunings =>
    if create then createRecord s fineTuningShelf req else (s, listRecords s fineTuningShelf req)
  | .tags => if create then createRecord s tagShelf req else (s, listRecords s tagShelf req)

def itemWith {α : Type} [Entity α] (s : State) (shelf : Shelf α) (method rawId : String)
    (req : Request) (remove : State → String → State × Response) : State × Response :=
  if method == "PUT" then updateRecord s shelf rawId req
  else if method == "DELETE" then remove s rawId
  else (s, fetchRecord s shelf rawId)

def adminItem (s : State) (r : Resource) (method rawId : String) (req : Request) :
    State × Response :=
  match r with
  | .bots => itemWith s botShelf method rawId req fun s id =>
      deleteWith s id fun s id => match s.db.removeBot id with
        | (db, .ok ()) => .ok (s.withDb db)
        | (_, .error _) => .error .rowMissing
  | .botSessions => itemWith s sessionShelf method rawId req fun s id => deleteRecord s sessionShelf id
  | .datasets => itemWith s datasetShelf method rawId req fun s id => deleteWith s id State.removeDataset
  | .datasetFiles => itemWith s datasetFileShelf method rawId req fun s id =>
      deleteWith s id State.removeDatasetFile
  | .projects => itemWith s projectShelf method rawId req fun s id => deleteWith s id State.removeProject
  | .documents => itemWith s documentShelf method rawId req fun s id => deleteWith s id State.removeDocument
  | .embeddings => itemWith s embeddingShelf method rawId req fun s id =>
      deleteRecord s embeddingShelf id
  | .toolsets => itemWith s toolsetShelf method rawId req fun s id =>
      deleteWith s id fun s id => match s.db.removeToolset id with
        | (db, .ok ()) => .ok (s.withDb db)
        | (_, .error _) => .error .rowMissing
  | .abilities => itemWith s abilityShelf method rawId req fun s id => deleteRecord s abilityShelf id
  | .models => itemWith s modelShelf method rawId req fun s id => deleteRecord s modelShelf id
  | .fineTunings => itemWith s fineTuningShelf method rawId req fun s id =>
      deleteRecord s fineTuningShelf id
  | .tags => itemWith s tagShelf method rawId req fun s id => deleteRecord s tagShelf id

/-- Serve an upload: the path id, then the form, then the operation. -/
def uploadWith {β : Type} [Entity β] (s : State) (rawId : String) (req : Request)
    (store : State → Int → Upload → State × Except Failure (Row β)) : State × Response :=
  match pathId rawId with
  | .error r => (s, r)
  | .ok id =>
    match upload req with
    | .error r => (s, r)
    | .ok u =>
      match store s id u with
      | (s, .ok row) => (s, Response.json 201 row.toJson)
      | (s, .error f) => (s, failureResponse f)

def downloadWith {β : Type} (s : State) (rawId : String) (name : β → String)
    (read : State → Int → Except Failure (Row β × ByteArray)) : Response := settle do
  let id ← pathId rawId
  match read s id with
  | .ok (row, bytes) => pure (attachment (name row.val) bytes)
  | .error f => pure (failureResponse f)

/-- Serve an administration route with the method it runs. -/
def admin (s : State) (route : Route) (method : String) (req : Request) : State × Response :=
  match route with
  | .collection r => adminCollection s r method req
  | .item r id => adminItem s r method id req
  | .datasetFiles id =>
    if method == "POST" then
      uploadWith s id req fun s id u => s.addDatasetFile id u.fileName u.description u.bytes
    else (s, settle do
      let id ← pathId id
      pure (Response.json 200 (rowsJson (s.db.filesOf id))))
  | .datasetFileContent id => (s, downloadWith s id DatasetFile.name State.datasetFile)
  | .projectDocuments id =>
    if method == "POST" then
      uploadWith s id req fun s id u => s.addDocument id u.fileName u.bytes
    else (s, settle do
      let id ← pathId id
      pure (Response.json 200 (rowsJson (s.db.documentsOf id))))
  | .projectEmbeddings id =>
    match pathId id with
    | .error r => (s, r)
    | .ok id =>
      match s.embedProject id with
      | (s, .ok n) => (s, Response.json 200
          (.obj [("status", .str "ok"), ("embeddedDocuments", .int n)]))
      | (s, .error f) => (s, failureResponse f)
  | .documentContent id => (s, downloadWith s id ProjectDocument.name State.documentFile)
  | .toolsetAbilities id => (s, settle do
      let id ← pathId id
      pure (Response.json 200 (rowsJson (s.db.abilitiesOf id))))
  | _ => (s, Response.empty 404)

end KnowledgeDesk.Web
