import KnowledgeDesk.Store.Database
import KnowledgeDesk.Files.Store
import KnowledgeDesk.Vector.Memory
import KnowledgeDesk.Remote.Service
import KnowledgeDesk.Chat.Pipeline
import KnowledgeDesk.Chat.Message
import KnowledgeDesk.Document.Extract
import KnowledgeDesk.Prompt.Instruction
import KnowledgeDesk.Token.Tokenizer
import KnowledgeDesk.Text.Uuid
import KnowledgeDesk.Text.Case

/-!
# The state of a running server

A server holds its database and file store, which outlive a restart, and what lives only as long
as the process: the vector indices, the project chat memories and the event streams waiting for
a subscriber. It also holds its clock and the generator its random ids come from.

How it reaches models is its *wiring*:

* texts become vectors by an `Embedder`: an embedding model of its own, or the model service;
* answers come from a `Responder`: a chat model of its own, which may answer each request
  differently, or the model service;
* dataset vectors live in memory or in the search service.

What it runs but does not implement are its `Libraries`: the tokenizer that counts tokens, the
readers of document formats, the template engine of instructions, and the network through
which it reaches the model and search services.

Every failure of a service operation is a `Failure`; `Failure.text` is how it reads in a failed
chat step, and `Failure.reply` is the status and message a web client gets.
-/

namespace KnowledgeDesk.Server

open Store Files

/-- One request to the answering model. -/
structure ChatRequest where
  params : ModelParams
  messages : List ChatMessage
  credentials : Option Credentials

/-- A model answering chat requests: for a request, the tokens it sends, in order, and its answer
or why it failed. -/
structure ChatModel where
  stream : ChatRequest → List String × Except String String

/-- A model giving the vectors of texts, in order, or why it cannot. -/
structure EmbeddingModel where
  embedAll : List String → Except String (List (List Float32))

def containsChars (t : List Char) : List Char → Bool
  | [] => t.isEmpty
  | c :: rest => t.isPrefixOf (c :: rest) || containsChars t rest

def containsText (s t : String) : Bool := containsChars t.toList s.toList

/-- The keyword vector of a text: one dimension per keyword, set when the lower-cased text
contains the lower-cased keyword, and one last dimension set when no keyword is contained. -/
def keywordVector (words : List String) (text : String) : List Float32 :=
  let lower := Text.toLower text
  let hits := words.map fun w => containsText lower (Text.toLower w)
  hits.map (fun h => if h then (1 : Float32) else 0) ++ [if hits.any id then 0 else 1]

/-- The keyword vectors of texts; `failure` fails every call, and `dropLast` loses the last
vector of every answer. -/
def EmbeddingModel.keywords (words : List String) (failure : Option String) (dropLast : Bool) :
    EmbeddingModel :=
  ⟨fun texts => match failure with
    | some m => .error m
    | none =>
      let vs := texts.map (keywordVector words)
      .ok (if dropLast then vs.dropLast else vs)⟩

/-- A chat model that sends the same tokens for every request, then answers their concatenation
or fails with `failure`. -/
def ChatModel.ofTokens (tokens : List String) (failure : Option String) : ChatModel :=
  ⟨fun _ => (tokens, match failure with
    | some m => .error m
    | none => .ok (String.join tokens))⟩

/-- How texts become vectors. -/
inductive Embedder where
  | model (m : EmbeddingModel)
  | service (client : Remote.ModelClient)

/-- How answers are generated. -/
inductive Responder where
  | model (m : ChatModel)
  | service (client : Remote.ModelClient)

/-- Where dataset vectors live. -/
inductive DatasetIndex where
  | memory
  | search (client : Remote.SearchClient)

structure ChatSettings where
  defaultModel : String
  memoryMaxMessages : Nat
  minSimilarity : Float
  projectMaxResults : Nat

/-- How a server reaches its models, and who may use its administration. -/
structure Wiring where
  embedder : Embedder
  responder : Responder
  datasetIndex : DatasetIndex
  settings : ChatSettings
  adminToken : Option String

/-- What a server runs but does not implement itself. -/
structure Libraries where
  tokenizer : Token.Tokenizer
  readers : Document.Readers
  templates : Template.Engine
  json : Json.Codec
  network : Remote.Network

/-- Why a service operation failed. -/
inductive Failure where
  /-- Something named is missing, such as `Bot 3`. -/
  | notFound (what : String)
  /-- The row to change or delete is missing. -/
  | rowMissing
  /-- The request itself is wrong. -/
  | badRequest (message : String)
  /-- The file store refused. -/
  | file (e : FileError)
  /-- An uploaded document could not be read. -/
  | document (e : Document.ExtractError)
  /-- Texts could not be turned into vectors. -/
  | embedding (message : String)
  /-- A vector index failed. -/
  | vectors (message : String)
  /-- Stored chat messages could not be read or written. -/
  | memory (message : String)
  /-- An instruction could not be made. -/
  | prompt (e : PromptError)
  /-- The answering model failed. -/
  | model (message : String)

namespace Failure

def text : Failure → String
  | .notFound what => what ++ " not found"
  | .rowMissing => "Item not found"
  | .badRequest m => m
  | .file e => e.text
  | .document e => e.text
  | .embedding m => "向量化失败：" ++ m
  | .vectors m => "向量库操作失败：" ++ m
  | .memory m => m
  | .prompt e => e.text
  | .model m => "AI回复失败：" ++ m

/-- The status and message a web client gets for a failure: missing things are 404, wrong
requests and unreadable documents 400, and anything else an internal error whose detail stays
inside. -/
def reply : Failure → Nat × String
  | .notFound what => (404, what ++ " not found")
  | .rowMissing => (404, "Resource not found")
  | .badRequest m => (400, m)
  | .file (.notFound key) => (404, "File " ++ key ++ " not found")
  | .document e => (400, e.text)
  | _ => (500, "Internal server error")

end Failure

/-- A running server. -/
structure State where
  wiring : Wiring
  libs : Libraries
  db : Database := {}
  files : FileStore := {}
  datasetVectors : MemoryStore := {}
  projectVectors : MemoryStore := {}
  /-- Project chat memories by memory id. -/
  projectMemory : List (String × List ChatMessage) := []
  /-- Event streams by stream id, waiting to be taken. -/
  streams : List (String × List StreamEvent) := []
  /-- Nanoseconds since 1970-01-01. -/
  clock : Nat
  /-- The state of the random id generator. -/
  seed : Nat
  /-- Requests the answering model received, oldest first. -/
  modelCalls : List ChatRequest := []

namespace State

def freshUuid (s : State) : State × String :=
  let (u, seed) := Text.nextUuid s.seed
  ({ s with seed }, u)

/-- The current time; the clock moves on a microsecond, so later calls see later times. -/
def now (s : State) : State × Time.DateTime :=
  ({ s with clock := s.clock + 1000 }, Time.DateTime.ofUnixNanos s.clock)

def settings (s : State) : ChatSettings := s.wiring.settings

def embedAll (s : State) (texts : List String) : Except String (List (List Float32)) :=
  match s.wiring.embedder with
  | .model m => m.embedAll texts
  | .service client => (client.embedAll s.libs.network texts).mapError ProviderError.text

def embed (s : State) (text : String) : Except String (List Float32) := do
  let vs ← s.embedAll [text]
  match vs.getLast? with
  | some v => pure v
  | none => throw "No embedding returned"

/-- The answering model's reply to a request: the tokens it sent, in order, and its answer or why
it failed. -/
def reply (s : State) (req : ChatRequest) : List String × Except String String :=
  match s.wiring.responder with
  | .model m => m.stream req
  | .service client =>
    let (tokens, answer) :=
      client.chat s.libs.network s.libs.json req.credentials req.params req.messages
    (tokens, answer.mapError (·.text))

/-- Ask the answering model: its reply, with the request recorded. -/
def ask (s : State) (req : ChatRequest) : State × List String × Except String String :=
  ({ s with modelCalls := s.modelCalls ++ [req] }, (s.reply req).1, (s.reply req).2)

/-! Asking the model records the request and keeps the rest of the state. -/

@[simp] theorem ask_modelCalls (s : State) (req : ChatRequest) :
    (s.ask req).1.modelCalls = s.modelCalls ++ [req] := rfl

@[simp] theorem ask_db (s : State) (req : ChatRequest) : (s.ask req).1.db = s.db := rfl

@[simp] theorem ask_wiring (s : State) (req : ChatRequest) : (s.ask req).1.wiring = s.wiring := rfl

@[simp] theorem ask_libs (s : State) (req : ChatRequest) : (s.ask req).1.libs = s.libs := rfl

@[simp] theorem ask_projectMemory (s : State) (req : ChatRequest) :
    (s.ask req).1.projectMemory = s.projectMemory := rfl

end State

end KnowledgeDesk.Server
