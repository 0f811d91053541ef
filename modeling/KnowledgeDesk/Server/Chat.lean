import KnowledgeDesk.Server.Knowledge
import KnowledgeDesk.Chat.Request
import KnowledgeDesk.Prompt.Context
import KnowledgeDesk.Number.Integer

/-!
# Bot chats and project answers

Two ways of asking:

* a *bot chat* checks the request, picks the conversation it continues (the caller's own
  session with that bot, or a new one) and runs the chat at once, keeping its events for the one
  subscriber of the stream it names. The chat's system message is the bot's story and its
  toolset's instructions; the question goes out wrapped in the bot dataset's instruction when
  the bot has a dataset. The conversation is kept as JSON in every session row of its id;
* a *project answer* searches the project's documents, puts the project's preset messages and
  the client's recent conversation in front of the question, and answers the model's text. The
  conversation is kept in memory under `client:project`.
-/

namespace KnowledgeDesk.Server

open Store Files

/-- The caller of the chat interface: a user id (zero when not given) and an access code. -/
structure Caller where
  userId : Int
  accessCode : String
  deriving Repr, DecidableEq

def messagesShape : Json.Shape :=
  .list (.record "ChatMessage"
    [("role", .choice ["system", "user", "assistant"], none), ("content", .string, none)])

def readMessages (json : Json.Codec) (text : String) : Except Json.ReadError (List ChatMessage) := do
  let j ← json.readText messagesShape text
  match j with
  | .arr items => pure (items.filterMap fun m => do
      let role ← (m.strField? "role").bind Role.ofName?
      pure ⟨role, (m.strField? "content").getD ""⟩)
  | _ => pure []

def messageJson (m : ChatMessage) : Json := .obj [("role", .str m.role.name), ("content", .str m.content)]

def messagesText (json : Json.Codec) (ms : List ChatMessage) : String :=
  json.print (.arr (ms.map messageJson))

/-- The system message of a bot: its story, then each non-blank instruction of its toolset's
abilities, trimmed, separated by blank lines. -/
def systemMessage (db : Database) (bot : Bot) : String :=
  let story := Text.trim bot.story
  if bot.toolsetId > 0 then
    (db.abilitiesOf bot.toolsetId).foldl (fun acc a =>
      let i := Text.trim a.val.instruction
      if i.isEmpty then acc else if acc.isEmpty then i else acc ++ "\n\n" ++ i) story
  else story

def projectMemoryId (client : String) (projectId : Int) : String := client ++ ":" ++ toString projectId

structure PreparedAnswer where
  memoryId : String
  question : String
  window : MessageWindow
  request : ChatRequest

namespace State

/-! ## Bot conversations -/

/-- The stored conversation of a session id: none when there is no such session or its content
is blank. -/
def botHistory (s : State) (memoryId : String) : Except Failure (List ChatMessage) :=
  match s.db.sessionNamed? memoryId with
  | none => .ok []
  | some r =>
    if Text.isBlankText r.val.content then .ok []
    else (readMessages s.libs.json r.val.content).mapError fun e =>
      .memory ("会话内容无法解析：" ++ e.text)

def saveBotHistory (s : State) (memoryId : String) (ms : List ChatMessage) : Except Failure State :=
  match s.db.setSessionContent memoryId (messagesText s.libs.json ms) with
  | some db => .ok (s.withDb db)
  | none => .error (.memory "Chat memory storage error: Item not found")

/-- What the bot is asked: the question, or the dataset's instruction around it and what the
search found. -/
def botPrompt (s : State) (bot : Bot) (question : String) : Except Failure String := do
  if bot.datasetId ≤ 0 then return question
  let some d := s.db.datasets.find? bot.datasetId | return question
  let query ← (s.embed question).mapError Failure.embedding
  let maxResults := if d.val.searchMaxRecord > 0 then d.val.searchMaxRecord.toNat else 10
  let found ← s.searchDataset d.id query maxResults s.settings.minSimilarity
  let cap := if d.val.searchMaxTokens > 0 then some (d.val.searchMaxTokens.toNat, s.libs.tokenizer)
    else none
  let vars := PromptVariables.ofMatches question found cap
  (renderInstruction s.libs.templates d.val.matchInstruction d.val.mismatchInstruction vars).mapError
    .prompt

/-- Ask a bot: the tokens it sent and its answer. The conversation is stored when it answers. -/
def botAnswer (s : State) (bot : Bot) (question memoryId : String) :
    State × List String × Except Failure String :=
  let prepared : Except Failure (String × String × List ChatMessage) := do
    let system := systemMessage s.db bot
    let userPrompt ← s.botPrompt bot question
    let history ← s.botHistory memoryId
    pure (system, userPrompt, history)
  match prepared with
  | .error e => (s, [], .error e)
  | .ok (system, userPrompt, history) =>
    let window := MessageWindow.ofMessages s.settings.memoryMaxMessages history
    let window := if (Text.trim system).isEmpty then window else window.add ⟨.system, system⟩
    let outgoing := window.add ⟨.user, userPrompt⟩
    let model := Text.trim bot.modelId
    let model := if model.isEmpty then s.settings.defaultModel else model
    let (s, tokens, result) := s.ask ⟨ModelParams.new model, outgoing.messages, none⟩
    match result with
    | .error m => (s, tokens, .error (.model m))
    | .ok answer =>
      let window := (window.add ⟨.user, question⟩).add ⟨.assistant, answer⟩
      match s.saveBotHistory memoryId window.messages with
      | .ok s => (s, tokens, .ok answer)
      | .error e => (s, tokens, .error e)

/-- The pipeline events of the chat step as the tokens arrive: each shows the text so far. -/
def tokenEvents (print : Json → String) (p : Pipeline) (sofar : String) :
    List String → Pipeline × List StreamEvent
  | [] => (p, [])
  | t :: rest =>
    let text := sofar ++ t
    let (p, e) := p.updateStep print 1 text
    let (p, es) := tokenEvents print p text rest
    (p, e ++ es)

/-- Run a bot chat: the events of its stream, from the pending step to the closing message. -/
def chatJob (s : State) (bot : Bot) (question memoryId : String) : State × List StreamEvent :=
  let print := s.libs.json.print
  let (p, started) := Pipeline.initStep print {} 1 chatContainer
  let (s, tokens, result) := s.botAnswer bot question memoryId
  let (p, updates) := tokenEvents print p "" tokens
  let (_, finished) := match result with
    | .ok _ => p.completeStep print 1
    | .error f => p.failStep print 1 f.text
  (s, started ++ updates ++ finished ++ Pipeline.closeEvents)

/-- The conversation a chat continues: the caller's session of that id when it is with the same
bot, else a new session under the new stream id. -/
def resolveMemory (s : State) (caller : Caller) (botId : Int) (requested : Option String)
    (sessionId : String) : State × String :=
  let requested := (requested.map Text.trim).filter (!·.isEmpty)
  let reuse := requested.bind fun r =>
    (s.db.sessionOf? r caller.accessCode).filter (·.val.botId == botId)
  match reuse with
  | some r => (s, r.val.sessionId)
  | none =>
    let (s, date) := s.now
    let (t, _) := s.db.sessions.insert
      ⟨caller.userId, date, "[]", botId, caller.accessCode, sessionId⟩
    (s.withDb { s.db with sessions := t }, sessionId)

/-- Start a bot chat, answering the id of its event stream. -/
def startChat (s : State) (caller : Caller) (data : RequestData) : State × Except Failure String :=
  match (data.question.map Text.trim).filter (!·.isEmpty) with
  | none => (s, .error (.badRequest "Question is missing"))
  | some question =>
    match data.botKey? with
    | none => (s, .error (.badRequest "botId is missing or invalid"))
    | some botId =>
      match s.db.bots.find? botId with
      | none => (s, .error (.notFound s!"Bot {botId}"))
      | some bot =>
        let (s, sessionId) := s.freshUuid
        let (s, memoryId) := s.resolveMemory caller bot.id data.botSessionId sessionId
        let (s, events) := s.chatJob bot.val question memoryId
        -- a stream registered under an id in use replaces the older one
        ({ s with streams := s.streams.filter (·.1 != sessionId) ++ [(sessionId, events)] },
          .ok sessionId)

/-- Take the events of a stream; a stream can be taken once. -/
def takeStream (s : State) (sessionId : String) : State × Option (List StreamEvent) :=
  match s.streams.find? (·.1 == sessionId) with
  | some (_, events) => ({ s with streams := s.streams.filter (·.1 != sessionId) }, some events)
  | none => (s, none)

def sessionsOf (s : State) (caller : Caller) : List (Row BotSession) :=
  s.db.sessionsOf caller.accessCode

/-- A session of the caller with its conversation, system messages left out. -/
def transcript (s : State) (caller : Caller) (sessionId : String) : Except Failure Json := do
  let some r := s.db.sessionOf? sessionId caller.accessCode
    | throw (.notFound s!"Session {sessionId}")
  let messages ← s.botHistory sessionId
  let messages := messages.filter (·.role != .system)
  match r.toJson with
  | .obj fields => pure (.obj (fields ++ [("messages", .arr (messages.map messageJson))]))
  | other => pure other

/-! ## Project answers -/

def projectCredentials (s : State) (p : Project) : Option Credentials :=
  if p.modelId ≤ 0 then none
  else match s.db.models.find? p.modelId with
    | some m => if m.val.apiKey.isEmpty then none else some ⟨m.val.apiKey, m.val.url⟩
    | none => none

/-- The preset messages of a project, those of an unknown role left out. -/
def presetMessages (s : State) (p : Project) : List ChatMessage :=
  if p.promptSystemId ≤ 0 then []
  else (s.db.fineTuningsOf p.promptSystemId).filterMap fun r =>
    (Role.ofText? r.val.role).map fun role => ⟨role, r.val.content⟩

def projectHistory (s : State) (memoryId : String) : List ChatMessage :=
  ((s.projectMemory.find? (·.1 == memoryId)).map (·.2)).getD []

def setProjectHistory (s : State) (memoryId : String) (ms : List ChatMessage) : State :=
  { s with projectMemory := (s.projectMemory.filter (·.1 != memoryId)) ++ [(memoryId, ms)] }

def prepareAnswer (s : State) (client question : String) (projectId : Int)
    (overrides : ModelOverrides) : State × Except Failure PreparedAnswer :=
  let question := Text.trim question
  if question.isEmpty then (s, .error (.badRequest "Question or projectId missing"))
  else match s.db.projects.find? projectId with
  | none => (s, .error (.notFound s!"Project {projectId}"))
  | some project =>
    let credentials := s.projectCredentials project.val
    match s.ensureProjectIndex projectId with
    | .error e => (s, .error e)
    | .ok s =>
      let found : Except Failure String := do
        let query ← (s.embed question).mapError Failure.embedding
        let hits := s.searchProject projectId query s.settings.projectMaxResults
          s.settings.minSimilarity
        let vars := PromptVariables.ofMatches question hits none
        (renderInstruction s.libs.templates "" "" vars).mapError .prompt
      match found with
      | .error e => (s, .error e)
      | .ok userPrompt =>
        let memoryId := projectMemoryId client projectId
        let window := MessageWindow.ofMessages s.settings.memoryMaxMessages (s.projectHistory memoryId)
        let messages := s.presetMessages project.val ++ window.messages ++ [⟨.user, userPrompt⟩]
        (s, .ok ⟨memoryId, question, window,
          ⟨overrides.apply s.settings.defaultModel, messages, credentials⟩⟩)

/-- Ask for a prepared answer: the text streamed to the client. The conversation is kept when
the model answers. -/
def streamAnswer (s : State) (p : PreparedAnswer) : State × String :=
  let (s, tokens, result) := s.ask p.request
  let body := String.join tokens
  match result with
  | .ok answer =>
    let window := (p.window.add ⟨.user, p.question⟩).add ⟨.assistant, answer⟩
    (s.setProjectHistory p.memoryId window.messages, body)
  | .error _ => (s, body)

def resetAnswers (s : State) (client : String) (projectId : Int) : State :=
  let id := projectMemoryId client projectId
  { s with projectMemory := s.projectMemory.filter (·.1 != id) }

end State

end KnowledgeDesk.Server
