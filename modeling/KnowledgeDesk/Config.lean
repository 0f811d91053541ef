import KnowledgeDesk.Number.Decimal
import KnowledgeDesk.Number.Integer

/-!
# Service configuration

The configuration is read from name–value pairs, such as environment variables without their
common prefix. Names are matched in lower case and unknown names are ignored. Each value is text:
numbers are read from it, and an optional value is present as soon as its name is, even when the
text is empty. Absent values take their defaults. A name given twice, or a value that does not
read, fails the whole configuration; the first such pair decides the message.
-/

namespace KnowledgeDesk

/-- The service configuration. -/
structure Config where
  bindAddr : String := "0.0.0.0:8088"
  databaseUrl : String := "knowledge.db"
  fileStorePath : String := "files"
  openaiApiKey : String := ""
  openaiUrl : String := "https://api.openai.com/v1"
  chatModel : String := "gpt-3.5-turbo"
  embeddingModel : String := "text-embedding-ada-002"
  /-- Without it, datasets keep their vectors in memory. -/
  elasticUrl : Option String := none
  elasticUsername : Option String := none
  elasticPassword : Option String := none
  adminToken : Option String := none
  memoryMaxMessages : Nat := 5
  minSimilarity : Float := 0.5
  projectMaxResults : Nat := 10
  streamTtlSecs : Nat := 300
  requestTimeoutSecs : Nat := 120
  logDir : Option String := none

namespace Config

/-- The configuration names, in lower case. -/
def names : List String :=
  ["bind_addr", "database_url", "file_store_path", "openai_api_key", "openai_url", "chat_model",
   "embedding_model", "elastic_url", "elastic_username", "elastic_password", "admin_token",
   "memory_max_messages", "min_similarity", "project_max_results", "stream_ttl_secs",
   "request_timeout_secs", "log_dir"]

/-- The message of a value that does not read. -/
def valueMessage (err value name : String) : String :=
  err ++ " while parsing value '" ++ value ++ "' provided by " ++ name

/-- Read a count. -/
def readCount (value name : String) : Except String Nat :=
  match Number.parseU64 value with
  | .ok n => .ok n
  | .error e => .error (valueMessage e.message value name)

/-- Set one value from its lower-case name, its text and the name as given. -/
def setValue (c : Config) (key value name : String) : Except String Config :=
  match key with
  | "bind_addr" => .ok { c with bindAddr := value }
  | "database_url" => .ok { c with databaseUrl := value }
  | "file_store_path" => .ok { c with fileStorePath := value }
  | "openai_api_key" => .ok { c with openaiApiKey := value }
  | "openai_url" => .ok { c with openaiUrl := value }
  | "chat_model" => .ok { c with chatModel := value }
  | "embedding_model" => .ok { c with embeddingModel := value }
  | "elastic_url" => .ok { c with elasticUrl := some value }
  | "elastic_username" => .ok { c with elasticUsername := some value }
  | "elastic_password" => .ok { c with elasticPassword := some value }
  | "admin_token" => .ok { c with adminToken := some value }
  | "memory_max_messages" => (readCount value name).map fun n => { c with memoryMaxMessages := n }
  | "min_similarity" =>
    match Number.parseFloat value with
    | .ok x => .ok { c with minSimilarity := x }
    | .error e => .error (valueMessage e.message value name)
  | "project_max_results" => (readCount value name).map fun n => { c with projectMaxResults := n }
  | "stream_ttl_secs" => (readCount value name).map fun n => { c with streamTtlSecs := n }
  | "request_timeout_secs" => (readCount value name).map fun n => { c with requestTimeoutSecs := n }
  | "log_dir" => .ok { c with logDir := some value }
  | _ => .ok c

/-- Read a configuration from pairs in order. -/
def ofPairs (pairs : List (String × String)) : Except String Config := do
  let step := fun (acc : Config × List String) (kv : String × String) => do
    let (c, seen) := acc
    let key := String.ofList (kv.1.toList.map Char.toLower)
    if names.contains key then
      if seen.contains key then throw s!"duplicate field `{key}`"
      let c' ← setValue c key kv.2 kv.1
      pure (c', key :: seen)
    else pure (c, seen)
  let (c, _) ← pairs.foldlM step ({}, [])
  pure c

end Config

end KnowledgeDesk
