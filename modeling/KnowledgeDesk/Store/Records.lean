import KnowledgeDesk.Json.Read
import KnowledgeDesk.Store.Table

/-!
# The records of the knowledge desk

Each kind of record is a structure of its fields, without its key; the table it lives in gives
the key. A record is read from JSON by field name, camel-cased, and an absent field takes the
value of an empty record, except for bot sessions, which must give every field. Written out, a
row is an object of its key `id` and its fields.

* `Bot`: a chat persona, pointing at a dataset, a toolset and a model by name.
* `BotSession`: one user's conversation with a bot; `content` holds the messages as JSON.
* `Dataset`, `DatasetFile`: a collection of files searched by bots, with its search limits
  and instructions.
* `Project`, `ProjectDocument`, `EmbeddingRow`: a collection of documents answered from,
  their stored vectors, the model account it uses and the preset messages it starts with.
* `Toolset`, `Ability`: instructions added to a bot's system message.
* `ModelAccount`: the key and address of a model service.
* `FineTuning`: one preset message of a conversation.
* `Tag`: a name.
-/

namespace KnowledgeDesk.Store

open Json (Shape)

/-- A kind of record: its name in messages, how it is read, and how it is written. -/
class Entity (α : Type) where
  /-- The name of the kind in messages about a missing row. -/
  label : String
  /-- The name of the fields as a whole in messages about a value that does not fit. -/
  typeName : String
  /-- The fields, each with how it is read and the value it takes when absent. -/
  fields : List (String × Shape × Option Json)
  /-- A record from the value its fields read as. -/
  ofJson : Json → α
  /-- The fields of a record. -/
  toFields : α → List (String × Json)

def Entity.shape (α : Type) [Entity α] : Shape := .record (Entity.typeName α) (Entity.fields α)

/-- A row written out: its key and its fields. -/
def Row.toJson {α : Type} [Entity α] (r : Row α) : Json :=
  .obj (("id", .int r.id) :: Entity.toFields r.val)

def textAt (j : Json) (k : String) : String := (j.strField? k).getD ""

def intAt (j : Json) (k : String) : Int := ((j.field? k).bind Json.int?).getD 0

def boolAt (j : Json) (k : String) : Bool := ((j.field? k).bind Json.bool?).getD false

def textField (k : String) : String × Shape × Option Json := (k, .string, some (.str ""))

/-- A 32-bit integer field read with a given default. -/
def intFieldOr (k : String) (d : Int) : String × Shape × Option Json := (k, Shape.i32, some (.int d))

def intField (k : String) : String × Shape × Option Json := intFieldOr k 0

structure Bot where
  name : String := ""
  description : String := ""
  story : String := ""
  datasetId : Int := 0
  toolsetId : Int := 0
  modelId : String := ""
  typeId : String := ""
  deriving Repr, Inhabited

instance : Entity Bot where
  label := "Bot"
  typeName := "NewBot"
  fields := [textField "name", textField "description", textField "story", intField "datasetId",
    intField "toolsetId", textField "modelId", textField "typeId"]
  ofJson j := ⟨textAt j "name", textAt j "description", textAt j "story", intAt j "datasetId",
    intAt j "toolsetId", textAt j "modelId", textAt j "typeId"⟩
  toFields b := [("name", .str b.name), ("description", .str b.description),
    ("story", .str b.story), ("datasetId", .int b.datasetId), ("toolsetId", .int b.toolsetId),
    ("modelId", .str b.modelId), ("typeId", .str b.typeId)]

/-- A conversation of a user with a bot. -/
structure BotSession where
  userId : Int
  creationDate : Time.DateTime
  content : String
  botId : Int
  accessCode : String
  sessionId : String
  deriving Repr, Inhabited

instance : Entity BotSession where
  label := "Bot session"
  typeName := "NewBotSession"
  fields := [("userId", Shape.i32, none), ("creationDate", .dateTime, none),
    ("content", .string, none), ("botId", Shape.i32, none), ("accessCode", .string, none),
    ("sessionId", .string, none)]
  ofJson j :=
    let date := match Time.DateTime.parse? (textAt j "creationDate") with
      | .ok d => d
      | .error _ => default
    ⟨intAt j "userId", date, textAt j "content", intAt j "botId", textAt j "accessCode",
      textAt j "sessionId"⟩
  toFields s := [("userId", .int s.userId), ("creationDate", .str s.creationDate.text),
    ("content", .str s.content), ("botId", .int s.botId), ("accessCode", .str s.accessCode),
    ("sessionId", .str s.sessionId)]

/-- A dataset: files searched by bots, with the limits and instructions of the search. -/
structure Dataset where
  name : String := ""
  description : String := ""
  recordMaxTokens : Int := 300
  searchMaxRecord : Int := 10
  searchMaxTokens : Int := 2000
  matchInstruction : String := ""
  mismatchInstruction : String := ""
  deriving Repr, Inhabited

instance : Entity Dataset where
  label := "Dataset"
  typeName := "NewDataset"
  fields := [textField "name", textField "description", intFieldOr "recordMaxTokens" 300,
    intFieldOr "searchMaxRecord" 10, intFieldOr "searchMaxTokens" 2000, textField "matchInstruction",
    textField "mismatchInstruction"]
  ofJson j := ⟨textAt j "name", textAt j "description", intAt j "recordMaxTokens",
    intAt j "searchMaxRecord", intAt j "searchMaxTokens", textAt j "matchInstruction",
    textAt j "mismatchInstruction"⟩
  toFields d := [("name", .str d.name), ("description", .str d.description),
    ("recordMaxTokens", .int d.recordMaxTokens), ("searchMaxRecord", .int d.searchMaxRecord),
    ("searchMaxTokens", .int d.searchMaxTokens), ("matchInstruction", .str d.matchInstruction),
    ("mismatchInstruction", .str d.mismatchInstruction)]

/-- A file of a dataset, stored under a file key. -/
structure DatasetFile where
  name : String := ""
  description : String := ""
  datasetId : Int := 0
  fileKey : String := ""
  deriving Repr, Inhabited

instance : Entity DatasetFile where
  label := "Dataset file"
  typeName := "NewDatasetFile"
  fields := [textField "name", textField "description", intField "datasetId", textField "fileKey"]
  ofJson j := ⟨textAt j "name", textAt j "description", intAt j "datasetId", textAt j "fileKey"⟩
  toFields f := [("name", .str f.name), ("description", .str f.description),
    ("datasetId", .int f.datasetId), ("fileKey", .str f.fileKey)]

/-- A project: documents answered from, a model account and a preset conversation. -/
structure Project where
  title : String := ""
  description : String := ""
  modelId : Int := 0
  promptSystemId : Int := 0
  deriving Repr, Inhabited

instance : Entity Project where
  label := "Project"
  typeName := "NewProject"
  fields := [textField "title", textField "description", intField "modelId",
    intField "promptSystemId"]
  ofJson j := ⟨textAt j "title", textAt j "description", intAt j "modelId",
    intAt j "promptSystemId"⟩
  toFields p := [("title", .str p.title), ("description", .str p.description),
    ("modelId", .int p.modelId), ("promptSystemId", .int p.promptSystemId)]

/-- A document of a project, stored under a file key. -/
structure ProjectDocument where
  name : String := ""
  fileKey : String := ""
  projectId : Int := 0
  isEmbedding : Bool := false
  deriving Repr, Inhabited

instance : Entity ProjectDocument where
  label := "Document"
  typeName := "NewDocument"
  fields := [textField "name", textField "fileKey", intField "projectId",
    ("isEmbedding", .bool, some (.bool false))]
  ofJson j := ⟨textAt j "name", textAt j "fileKey", intAt j "projectId", boolAt j "isEmbedding"⟩
  toFields d := [("name", .str d.name), ("fileKey", .str d.fileKey),
    ("projectId", .int d.projectId), ("isEmbedding", .bool d.isEmbedding)]

/-- A stored vector of a segment of a project document's file. -/
structure EmbeddingRow where
  fileId : String := ""
  projectId : Int := 0
  vectors : String := ""
  textSegment : String := ""
  deriving Repr, Inhabited

instance : Entity EmbeddingRow where
  label := "Embedding"
  typeName := "NewEmbedding"
  fields := [textField "fileId", intField "projectId", textField "vectors",
    textField "textSegment"]
  ofJson j := ⟨textAt j "fileId", intAt j "projectId", textAt j "vectors", textAt j "textSegment"⟩
  toFields e := [("fileId", .str e.fileId), ("projectId", .int e.projectId),
    ("vectors", .str e.vectors), ("textSegment", .str e.textSegment)]

structure Toolset where
  name : String := ""
  description : String := ""
  deriving Repr, Inhabited

instance : Entity Toolset where
  label := "Toolset"
  typeName := "NewToolSet"
  fields := [textField "name", textField "description"]
  ofJson j := ⟨textAt j "name", textAt j "description"⟩
  toFields t := [("name", .str t.name), ("description", .str t.description)]

/-- An ability of a toolset: an instruction for the bots that use it. -/
structure Ability where
  name : String := ""
  description : String := ""
  instruction : String := ""
  toolsetId : Int := 0
  deriving Repr, Inhabited

instance : Entity Ability where
  label := "Toolset ability"
  typeName := "NewToolSetAbility"
  fields := [textField "name", textField "description", textField "instruction",
    intField "toolsetId"]
  ofJson j := ⟨textAt j "name", textAt j "description", textAt j "instruction",
    intAt j "toolsetId"⟩
  toFields a := [("name", .str a.name), ("description", .str a.description),
    ("instruction", .str a.instruction), ("toolsetId", .int a.toolsetId)]

/-- The key and address of a model service. -/
structure ModelAccount where
  apiKey : String := ""
  url : String := ""
  deriving Repr, Inhabited

instance : Entity ModelAccount where
  label := "Model"
  typeName := "NewModel"
  fields := [textField "apiKey", textField "url"]
  ofJson j := ⟨textAt j "apiKey", textAt j "url"⟩
  toFields m := [("apiKey", .str m.apiKey), ("url", .str m.url)]

/-- A preset message of a conversation, placed by `ordering`. -/
structure FineTuning where
  projectId : Int := 0
  role : String := ""
  content : String := ""
  ordering : Int := 0
  conversationId : Int := 0
  deriving Repr, Inhabited

instance : Entity FineTuning where
  label := "Fine tuning"
  typeName := "NewFineTuning"
  fields := [intField "projectId", textField "role", textField "content", intField "ordering",
    intField "conversationId"]
  ofJson j := ⟨intAt j "projectId", textAt j "role", textAt j "content", intAt j "ordering",
    intAt j "conversationId"⟩
  toFields f := [("projectId", .int f.projectId), ("role", .str f.role),
    ("content", .str f.content), ("ordering", .int f.ordering),
    ("conversationId", .int f.conversationId)]

structure Tag where
  name : String := ""
  deriving Repr, Inhabited

instance : Entity Tag where
  label := "Tag"
  typeName := "NewTag"
  fields := [textField "name"]
  ofJson j := ⟨textAt j "name"⟩
  toFields t := [("name", .str t.name)]

end KnowledgeDesk.Store
