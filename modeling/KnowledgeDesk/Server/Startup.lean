import KnowledgeDesk.Server.State
import KnowledgeDesk.Config

/-!
# Starting a server

A server starts from its wiring, its libraries, its database and its file store; everything
that lives only as long as the process (vector indices, project conversations, event streams) starts empty. A
restart keeps the database and the file store and starts the rest anew; with a configuration,
an in-memory database (`:memory:`) starts empty as well.

From a configuration, models are reached through the model service at the configured address
and key; dataset vectors go to the search service when one is configured and stay in memory
otherwise. An empty administration token means none.

The file store is a directory. It cannot be made below the database file (`Not a directory`) or
at the database file itself (`File exists`).
-/

namespace KnowledgeDesk.Server

/-- The wiring a configuration describes. -/
def Wiring.ofConfig (c : Config) : Wiring :=
  let client : Remote.ModelClient := ⟨⟨c.openaiApiKey, c.openaiUrl⟩, c.embeddingModel⟩
  { embedder := .service client,
    responder := .service client,
    datasetIndex := match c.elasticUrl with
      | some url => .search ⟨url, c.elasticUsername, c.elasticPassword⟩
      | none => .memory,
    settings := ⟨c.chatModel, c.memoryMaxMessages, c.minSimilarity, c.projectMaxResults⟩,
    adminToken := c.adminToken.filter (!·.isEmpty) }

/-- Whether the database of a configuration lives in memory only. -/
def inMemoryDatabase (c : Config) : Bool := c.databaseUrl == ":memory:"

/-- Why a configuration cannot start, if it cannot. -/
def startupProblem (c : Config) : Option String :=
  if inMemoryDatabase c then none
  else if c.fileStorePath == c.databaseUrl then some "File store error: File exists (os error 17)"
  else if c.fileStorePath.startsWith (c.databaseUrl ++ "/") then
    some "File store error: Not a directory (os error 20)"
  else none

namespace State

/-- A fresh server: empty database and file store. -/
def fresh (wiring : Wiring) (libs : Libraries) (clock seed : Nat) : State :=
  { wiring, libs, clock, seed }

/-- The server after a restart with the same wiring and libraries: the database and file store
stay. -/
def restart (s : State) : State :=
  { wiring := s.wiring, libs := s.libs, db := s.db, files := s.files, clock := s.clock,
    seed := s.seed }

/-- The server after a restart from a configuration: an in-memory database starts empty. -/
def restartWith (s : State) (c : Config) : State :=
  let s := s.restart
  if inMemoryDatabase c then { s with db := {} } else s

end State

end KnowledgeDesk.Server
