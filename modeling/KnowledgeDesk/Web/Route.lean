import KnowledgeDesk.Http.Target

/-!
# Routes

The public interface lives under `/rest/knowledge/api/v1`, the administration under
`/admin/api`. A path is cut at every `/` and matched segment by segment on its encoded text; a
parameter takes one non-empty segment. Where a literal segment and a parameter could both
match, the literal is tried first, and the parameter only when the literal leads nowhere.

A path that matches no route is not found; a route asked with a method it does not serve
refuses the method. `GET` routes also serve `HEAD`.
-/

namespace KnowledgeDesk.Web

/-- The records the administration manages. -/
inductive Resource where
  | bots
  | botSessions
  | datasets
  | datasetFiles
  | projects
  | documents
  | embeddings
  | toolsets
  | abilities
  | models
  | fineTunings
  | tags
  deriving Repr, DecidableEq

/-- The resource a path segment names. -/
def Resource.ofSegment? : String → Option Resource
  | "bots" => some .bots
  | "bot-sessions" => some .botSessions
  | "datasets" => some .datasets
  | "dataset-files" => some .datasetFiles
  | "projects" => some .projects
  | "documents" => some .documents
  | "embeddings" => some .embeddings
  | "toolsets" => some .toolsets
  | "toolset-abilities" => some .abilities
  | "models" => some .models
  | "fine-tunings" => some .fineTunings
  | "tags" => some .tags
  | _ => none

/-- A route of the server; parameters are still percent-encoded. -/
inductive Route where
  /-- `/bots`: the bots. -/
  | bots
  /-- `/bots/chat`: start a chat. -/
  | chat
  /-- `/bots/chat/sse`: the events of a chat. -/
  | chatEvents
  /-- `/bots/sessions`: the caller's sessions. -/
  | sessions
  /-- `/bots/sessions/:session_id`: one session with its messages. -/
  | session (id : String)
  /-- `/projects/answer`: answer a question about a project. -/
  | answer
  /-- `/projects/:id/memory`: the caller's conversation about a project. -/
  | memory (id : String)
  /-- `/admin/api/<resource>`. -/
  | collection (r : Resource)
  /-- `/admin/api/<resource>/:id`. -/
  | item (r : Resource) (id : String)
  /-- `/admin/api/datasets/:id/files`. -/
  | datasetFiles (id : String)
  /-- `/admin/api/dataset-files/:id/file`. -/
  | datasetFileContent (id : String)
  /-- `/admin/api/projects/:id/documents`. -/
  | projectDocuments (id : String)
  /-- `/admin/api/projects/:id/embeddings`. -/
  | projectEmbeddings (id : String)
  /-- `/admin/api/documents/:id/file`. -/
  | documentContent (id : String)
  /-- `/admin/api/toolsets/:id/abilities`. -/
  | toolsetAbilities (id : String)
  deriving Repr, DecidableEq

/-- A public route from the segments after the prefix. -/
def publicRoute : List String → Option Route
  | ["bots"] => some .bots
  | ["bots", "chat"] => some .chat
  | ["bots", "chat", "sse"] => some .chatEvents
  | ["bots", "sessions"] => some .sessions
  | ["bots", "sessions", id] => if id.isEmpty then none else some (.session id)
  | ["projects", "answer"] => some .answer
  | ["projects", id, "memory"] => if id.isEmpty then none else some (.memory id)
  | _ => none

/-- An administration route from the segments after the prefix. -/
def adminRoute (segments : List String) : Option Route :=
  match segments with
  | [r] => (Resource.ofSegment? r).map .collection
  | ["datasets", id, "files"] => if id.isEmpty then none else some (.datasetFiles id)
  | ["dataset-files", id, "file"] => if id.isEmpty then none else some (.datasetFileContent id)
  | ["projects", id, "documents"] => if id.isEmpty then none else some (.projectDocuments id)
  | ["projects", id, "embeddings"] => if id.isEmpty then none else some (.projectEmbeddings id)
  | ["documents", id, "file"] => if id.isEmpty then none else some (.documentContent id)
  | ["toolsets", id, "abilities"] => if id.isEmpty then none else some (.toolsetAbilities id)
  | [r, id] => if id.isEmpty then none else (Resource.ofSegment? r).map (.item · id)
  | _ => none

/-- The route of a path, and whether it belongs to the administration. -/
def routeOf (path : String) : Option (Route × Bool) :=
  match path.splitOn "/" with
  | "" :: "rest" :: "knowledge" :: "api" :: "v1" :: rest => (publicRoute rest).map (·, false)
  | "" :: "admin" :: "api" :: rest => (adminRoute rest).map (·, true)
  | _ => none

/-- The methods a route serves. -/
def Route.methods : Route → List String
  | .bots | .chatEvents | .sessions | .session _ | .answer => ["GET"]
  | .chat => ["POST"]
  | .memory _ => ["DELETE"]
  | .collection .embeddings => ["GET"]
  | .collection _ => ["GET", "POST"]
  | .item .embeddings _ => ["GET", "DELETE"]
  | .item _ _ => ["GET", "PUT", "DELETE"]
  | .datasetFiles _ | .projectDocuments _ => ["GET", "POST"]
  | .projectEmbeddings _ => ["POST"]
  | .datasetFileContent _ | .documentContent _ | .toolsetAbilities _ => ["GET"]

/-- The method a route runs for a request method: `HEAD` runs `GET`. -/
def Route.serves (r : Route) (method : String) : Option String :=
  if r.methods.contains method then some method
  else if method == "HEAD" && r.methods.contains "GET" then some "GET"
  else none

end KnowledgeDesk.Web
