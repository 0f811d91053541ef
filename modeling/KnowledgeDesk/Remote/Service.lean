import KnowledgeDesk.Remote.Address
import KnowledgeDesk.Chat.Request
import KnowledgeDesk.Chat.Message
import KnowledgeDesk.Provider.Stream
import KnowledgeDesk.Vector.Basic

/-!
# Calls to the model service and the vector search service

A client sends *calls* (`Call`) over a `Network`, which answers each call with what the client
reads of the response, or fails to send it with the transport's message. The network and the
services behind it are a parameter of everything here; `Network.unreachable` is a host whose
network reaches no address, where every call fails before a byte leaves.

A response is its status, its body as text, and its body read as the JSON value the call
expects, or the reader's message when it does not read as one. What a client does with every
answer is said here:

* `ModelClient.chat`, `ModelClient.embedAll`: the language model service; embeddings go in
  batches of `embeddingBatch` texts (`readEmbeddings`, `embedBatches`);
* `SearchClient.add`, `find`, `removeFile`, `drop`: the vector search service. Storing entries
  first makes sure the index exists (creating it for the entries' dimension, and taking an
  index created meanwhile by another client as made), then sends them in one bulk request; a
  search reads its hits best first (`readSearch`); removing from or dropping a missing index
  does nothing.
-/

namespace KnowledgeDesk.Remote

/-- Why a connection attempt fails on a host whose network reaches nothing. -/
def unreachable : String :=
  "error trying to connect: tcp connect error: Network is unreachable (os error 101)"

/-- The message of a request that could not be sent to an address. -/
def sendFailure (url : String) : String :=
  "error sending request for url (" ++ normalAddress url ++ "): " ++ unreachable

/-- A response of a service as the client reads it: its status, its body as text, and its body
read as the JSON value the call expects, or the reader's message when it does not read as one. -/
structure Response (α : Type) where
  status : Nat
  text : String
  body : Except String α

/-- A client of the language model service. -/
structure ModelClient where
  credentials : Credentials
  embeddingModel : String
  deriving Repr

def embeddingBatch : Nat := 64

def batches {α : Type} : List α → List (List α)
  | [] => []
  | x :: rest => (x :: rest).take embeddingBatch :: batches ((x :: rest).drop embeddingBatch)
termination_by xs => xs.length
decreasing_by simp only [List.length_drop, List.length_cons, embeddingBatch]; omega

/-- One item of the data of an embeddings response: the place of its text in the request, and its
vector. -/
structure EmbeddingDatum where
  index : Nat
  embedding : List Float32

/-- The data of an embeddings response in the order of their `index`; data of one index keep the
order of the response. -/
def byIndex (data : List EmbeddingDatum) : List EmbeddingDatum :=
  data.mergeSort fun a b => decide (a.index ≤ b.index)

/-- The vectors of a batch of `n` texts from the data of its response: there must be exactly `n`
items, and their vectors are taken in the order of their `index`. -/
def batchVectors (n : Nat) (data : List EmbeddingDatum) :
    Except ProviderError (List (List Float32)) :=
  if data.length = n then .ok ((byIndex data).map (·.embedding))
  else .error (.decode s!"expected {n} embeddings, got {data.length}")

/-- Read the answer to a request for the vectors of `n` texts: the request could not be sent, the
service answered a status outside `2xx` (with the body's text), the body does not read as
embeddings, or the vectors of its data. -/
def readEmbeddings (n : Nat) (answer : Except String (Response (List EmbeddingDatum))) :
    Except ProviderError (List (List Float32)) :=
  match answer with
  | .error m => .error (.request m)
  | .ok resp =>
    if !isSuccess resp.status then .error (.status resp.status resp.text)
    else
      match resp.body with
      | .error e => .error (.decode e)
      | .ok data => batchVectors n data

/-- Embed batches of texts in order, the `k`-th request answered by `answer k`: the batches
requested, in order, and the vectors of all texts or why it failed. No batch is requested after
one fails. -/
def embedBatches (answer : Nat → Except String (Response (List EmbeddingDatum))) :
    Nat → List (List String) → List (List String) × Except ProviderError (List (List Float32))
  | _, [] => ([], .ok [])
  | k, batch :: rest =>
    match readEmbeddings batch.length (answer k) with
    | .error e => ([batch], .error e)
    | .ok vs =>
      let (sent, result) := embedBatches answer (k + 1) rest
      (batch :: sent, result.map (vs ++ ·))

/-- Embed texts in batches of `embeddingBatch`, in order, the `k`-th request answered by
`answer k`. -/
def embedAllWith (answer : Nat → Except String (Response (List EmbeddingDatum)))
    (texts : List String) : List (List String) × Except ProviderError (List (List Float32)) :=
  embedBatches answer 0 (batches texts)

/-- Read the answer to a search: the request could not be sent; an index that does not exist
(`404`) has no matches; any other status outside `2xx` fails with the status and the body's
text; a body that does not read as hits fails to decode; otherwise the hits, best first by the
total order of scores, hits of equal score in the order of the response. -/
def readSearch (answer : Except String (Response (List EmbeddingMatch))) :
    Except VectorError (List EmbeddingMatch) :=
  match answer with
  | .error m => .error (.http m)
  | .ok resp =>
    if resp.status = 404 then .ok []
    else if !isSuccess resp.status then .error (.status resp.status resp.text)
    else
      match resp.body with
      | .error e => .error (.decode e)
      | .ok hits => .ok (byScore hits)

/-- A client of the vector search service. -/
structure SearchClient where
  url : String
  username : Option String := none
  password : Option String := none
  deriving Repr

def SearchClient.address (s : SearchClient) (path : String) : String := endpoint s.url path

/-! ## Calls and the network -/

/-- A call to a service, as the client sends it. -/
inductive Call where
  /-- A streamed chat completion, `POST chat/completions`. -/
  | chat (credentials : Credentials) (params : ModelParams) (messages : List ChatMessage)
  /-- The vectors of texts, `POST embeddings`. -/
  | embeddings (credentials : Credentials) (model : String) (input : List String)
  /-- Whether an index exists, `HEAD` on the index. -/
  | indexExists (client : SearchClient) (index : String)
  /-- A new index for vectors of a dimension, `PUT` on the index. -/
  | createIndex (client : SearchClient) (index : String) (dims : Nat)
  /-- Entries stored under their ids, `POST _bulk`. -/
  | bulk (client : SearchClient) (index : String) (entries : List EmbeddingEntry)
  /-- The entries most relevant to a query, `POST` on the index's `_search`. -/
  | search (client : SearchClient) (index : String) (query : List Float32) (maxResults : Nat)
      (minScore : Float)
  /-- The entries of a file removed, `POST` on the index's `_delete_by_query`. -/
  | deleteByQuery (client : SearchClient) (index fileKey : String)
  /-- An index removed, `DELETE` on the index. -/
  | dropIndex (client : SearchClient) (index : String)

namespace Call

/-- What the client reads of the answer to a call. Creating an index reads the type of the error
an error answer reports; a bulk request reads whether the service reported errors. -/
def Answer : Call → Type
  | .chat .. => ChatResponse
  | .embeddings .. => Response (List EmbeddingDatum)
  | .createIndex .. => Response String
  | .bulk .. => Response Bool
  | .search .. => Response (List EmbeddingMatch)
  | .indexExists .. | .deleteByQuery .. | .dropIndex .. => Response Unit

def url : Call → String
  | .chat credentials .. => endpoint credentials.url "chat/completions"
  | .embeddings credentials .. => endpoint credentials.url "embeddings"
  | .indexExists c index | .createIndex c index _ | .dropIndex c index => c.address index
  | .bulk c .. => c.address "_bulk?refresh=true"
  | .search c index .. => c.address (index ++ "/_search")
  | .deleteByQuery c index _ => c.address (index ++ "/_delete_by_query?refresh=true")

end Call

/-- The services at the other end of the network, as a client reads their answers: each call is
answered, or it fails to be sent with the transport's message. -/
structure Network where
  exchange : (call : Call) → Except String call.Answer

/-- The network of a host that reaches no address. -/
def Network.unreachable : Network := ⟨fun call => .error (sendFailure call.url)⟩

/-! ## The language model service -/

namespace ModelClient

/-- Stream a chat answer, with the request's own credentials if it has them: the tokens passed on
as they came, and the full text or why it failed. The streamed chunks are read with `json`. -/
def chat (net : Network) (json : Json.Codec) (c : ModelClient) (credentials : Option Credentials)
    (params : ModelParams) (messages : List ChatMessage) :
    List String × Except ProviderError String :=
  match net.exchange (.chat (credentials.getD c.credentials) params messages) with
  | .error m => ([], .error (.request m))
  | .ok response => readChatStream json response

def embedAll (net : Network) (c : ModelClient) (texts : List String) :
    Except ProviderError (List (List Float32)) :=
  (embedAllWith (fun k => net.exchange
    (.embeddings c.credentials c.embeddingModel ((batches texts).getD k []))) texts).2

end ModelClient

/-! ## The vector search service -/

namespace SearchClient

variable (net : Network) (s : SearchClient)

def check {α : Type} (r : Response α) : Except VectorError (Response α) :=
  if isSuccess r.status then .ok r else .error (.status r.status r.text)

/-- Make sure an index exists: a missing one is created for vectors of `dims` dimensions, and one
that another client created meanwhile counts as made. -/
def ensureIndex (index : String) (dims : Nat) : Except VectorError Unit := do
  let r ← (net.exchange (.indexExists s index)).mapError .http
  if isSuccess r.status then return ()
  if r.status != 404 then throw (.status r.status "")
  let r ← (net.exchange (.createIndex s index dims)).mapError .http
  if isSuccess r.status then return ()
  match r.status, r.body with
  | 400, .ok "resource_already_exists_exception" => pure ()
  | _, _ => throw (.status r.status r.text)

/-- Store entries in an index, creating the index first when it is missing. -/
def add (index : String) (entries : List EmbeddingEntry) : Except VectorError Unit :=
  match entries with
  | [] => .ok ()
  | first :: _ => do
    ensureIndex net s index first.vector.length
    let r ← (net.exchange (.bulk s index entries)).mapError .http
    let r ← check r
    match r.body with
    | .error e => throw (.decode e)
    | .ok true => throw (.status 200 "bulk request reported errors")
    | .ok false => pure ()

/-- The entries of an index most relevant to a query vector: the service is asked for at most
`maxResults` hits scored by relevance to the query, each scoring at least `minScore`, and its
answer is read by `readSearch`. -/
def find (index : String) (query : List Float32) (maxResults : Nat) (minScore : Float) :
    Except VectorError (List EmbeddingMatch) :=
  readSearch (net.exchange (.search s index query maxResults minScore))

def removeFile (index fileKey : String) : Except VectorError Unit := do
  let r ← (net.exchange (.deleteByQuery s index fileKey)).mapError .http
  if r.status = 404 then return ()
  let _ ← check r
  pure ()

def drop (index : String) : Except VectorError Unit := do
  let r ← (net.exchange (.dropIndex s index)).mapError .http
  if r.status = 404 then return ()
  let _ ← check r
  pure ()

end SearchClient

end KnowledgeDesk.Remote
