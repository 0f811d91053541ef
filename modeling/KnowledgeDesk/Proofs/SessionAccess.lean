import KnowledgeDesk.Proofs.BotChat
import Mathlib.Data.List.Find

/-!
# Who reaches a bot conversation

A bot conversation is kept in session rows, and the rows are found by their session id. The
ownership check is made once, when a chat picks its conversation: the caller must have a row of
that id with that bot, or the chat starts a new row of its own. Every later access goes by the
session id alone: the stored conversation is read from the first row of the id, and the answer
is written into every row of the id. The same holds of a transcript, whose check finds the
caller's row but whose messages are those of the first row of the id.

So the check protects the conversation exactly when no row of another user (or, for a chat,
another bot) carries the same session id. Then a chat leaves every row that is not the caller's
with the bot as it was, and what it reads of the stored conversation, like what a transcript
shows, depends on the caller's own rows alone (`session_access_by_id`). Session ids are not
unique in the database, and the administration can give a row any session id: two users'
rows can then share one, and a chat of one overwrites the other's conversation
(`shared_session_chat_overwrites`).
-/

namespace KnowledgeDesk

namespace Store.Database

def heldBy (code : String) (botId : Int) (v : BotSession) : Bool :=
  v.accessCode == code && v.botId == botId

/-- Every session of id `m` satisfies `p`. -/
def AllSessions (db : Database) (m : String) (p : BotSession → Bool) : Prop :=
  ∀ r ∈ db.sessions.rows, r.val.sessionId = m → p r.val = true

/-- A session row after the content of the sessions of id `m` was set to `c`. -/
def withContent (m c : String) (r : Row BotSession) : Row BotSession :=
  if r.val.sessionId = m then ⟨r.id, { r.val with content := c }⟩ else r

theorem setSessionContent_rows {db db' : Database} {m c : String}
    (h : db.setSessionContent m c = some db') :
    db'.sessions.rows = db.sessions.rows.map (withContent m c) := by
  unfold setSessionContent at h
  split at h
  next t n hmod =>
    split at h
    · simp at h
    · simp only [Option.some.injEq] at h
      subst h
      simp only [Table.modifyWhere, Prod.mk.injEq] at hmod
      obtain ⟨rfl, -⟩ := hmod
      simp [withContent]

theorem sessionOf?_mem {db : Database} {m code : String} {r : Row BotSession}
    (h : db.sessionOf? m code = some r) :
    r ∈ db.sessions.rows ∧ r.val.sessionId = m ∧ r.val.accessCode = code := by
  unfold sessionOf? at h
  have hp := List.find?_some h
  simp only [Bool.and_eq_true, beq_iff_eq] at hp
  exact ⟨List.mem_of_find?_eq_some h, hp⟩

theorem sessionOf?_eq_select (db : Database) (m code : String) :
    db.sessionOf? m code =
      (db.sessions.select (·.accessCode == code)).find? (·.val.sessionId == m) := by
  simp only [sessionOf?, Table.select, List.find?_filter]
  exact List.find?_congr fun r _ => by rw [Bool.and_comm]; simp only [Bool.beq_eq_decide_eq, Bool.decide_and, decide_eq_true_eq]

/-- When every session of an id satisfies `p`, the first session of the id is found among the
sessions that satisfy `p`. -/
theorem sessionNamed?_eq_select {db : Database} {m : String} {p : BotSession → Bool}
    (h : db.AllSessions m p) :
    db.sessionNamed? m = (db.sessions.select p).find? (·.val.sessionId == m) := by
  simp only [sessionNamed?, Table.select, List.find?_filter]
  refine List.find?_congr fun r hr => ?_
  -- a row of the id satisfies `p`, so asking for `p` as well changes nothing
  by_cases hm : r.val.sessionId = m
  · simp [hm, h r hr hm]
  · simp [hm]

theorem mem_map_withContent {rows : List (Row BotSession)} {r : Row BotSession} {m c : String}
    (hr : r ∈ rows) (hm : r.val.sessionId ≠ m) : r ∈ rows.map (withContent m c) :=
  List.mem_map.mpr ⟨r, hr, by simp [withContent, hm]⟩

end Store.Database

namespace Server.State

open Store Database

/-- The stored conversation of an id depends on the first row of the id and the JSON library
alone. -/
theorem botHistory_congr {s t : State} {m : String} (hl : t.libs = s.libs)
    (h : t.db.sessionNamed? m = s.db.sessionNamed? m) : t.botHistory m = s.botHistory m := by
  simp only [botHistory, h, hl]

/-- When every session of an id satisfies `p`, the stored conversation of the id depends only on
the sessions that satisfy `p`, given the libraries. -/
theorem botHistory_eq_of_select {s t : State} {m : String} {p : BotSession → Bool}
    (hl : t.libs = s.libs) (hs : s.db.AllSessions m p) (ht : t.db.AllSessions m p)
    (hsel : t.db.sessions.select p = s.db.sessions.select p) :
    t.botHistory m = s.botHistory m :=
  botHistory_congr hl (by rw [sessionNamed?_eq_select ht, sessionNamed?_eq_select hs, hsel])

@[simp] theorem freshUuid_db (s : State) : s.freshUuid.1.db = s.db := by
  rcases h : Text.nextUuid s.seed with ⟨u, seed⟩
  simp [freshUuid, h]

/-- The conversation a chat continues is one the caller holds with that bot: an existing one of
theirs, or a new row of theirs appended to the sessions. -/
theorem resolveMemory_spec {s s₀ : State} {caller : Caller} {botId : Int}
    {requested : Option String} {sid m : String}
    (h : s.resolveMemory caller botId requested sid = (s₀, m)) :
    (∃ r ∈ s₀.db.sessions.rows, r.val.sessionId = m ∧ heldBy caller.accessCode botId r.val) ∧
      (s₀.db.sessions.rows = s.db.sessions.rows ∨
        ∃ r, r.val.sessionId = m ∧ heldBy caller.accessCode botId r.val ∧
          s₀.db.sessions.rows = s.db.sessions.rows ++ [r]) := by
  unfold resolveMemory at h
  cases hreuse : ((requested.map Text.trim).filter (!·.isEmpty)).bind
      (fun r => (s.db.sessionOf? r caller.accessCode).filter (·.val.botId == botId)) with
  | some r =>
    -- the caller's own session of the requested id, with the same bot
    simp only [hreuse, Prod.mk.injEq] at h
    obtain ⟨rfl, rfl⟩ := h
    obtain ⟨req, -, hreq⟩ := Option.bind_eq_some_iff.mp hreuse
    obtain ⟨hfound, hbot⟩ := Option.filter_eq_some_iff.mp hreq
    obtain ⟨hmem, -, hcode⟩ := sessionOf?_mem hfound
    exact ⟨⟨r, hmem, rfl, by simp [heldBy, hcode, beq_iff_eq.mp hbot]⟩, .inl rfl⟩
  | none =>
    -- a new session under the stream id
    simp only [hreuse, now, Table.insert, Prod.mk.injEq] at h
    obtain ⟨rfl, rfl⟩ := h
    exact ⟨⟨_, List.mem_append_right _ (List.mem_singleton_self _), rfl, by simp [heldBy]⟩,
      .inr ⟨_, rfl, by simp [heldBy], rfl⟩⟩

section resolve

variable {s s₀ : State} {caller : Caller} {botId : Int} {requested : Option String}
  {sid m : String}

theorem resolveMemory_keeps (h : s.resolveMemory caller botId requested sid = (s₀, m))
    {r : Row BotSession} (hr : r ∈ s.db.sessions.rows) : r ∈ s₀.db.sessions.rows := by
  rcases (resolveMemory_spec h).2 with hrows | ⟨_, -, -, hrows⟩ <;> simp [hrows, hr]

/-- When every session of the picked id was the caller's with the bot, it still is after the
pick: a new session is the caller's. -/
theorem resolveMemory_allSessions (h : s.resolveMemory caller botId requested sid = (s₀, m))
    (hall : s.db.AllSessions m (heldBy caller.accessCode botId)) :
    s₀.db.AllSessions m (heldBy caller.accessCode botId) := by
  intro r hr hm
  rcases (resolveMemory_spec h).2 with hrows | ⟨n, -, hn, hrows⟩
  · exact hall r (hrows ▸ hr) hm
  · rw [hrows, List.mem_append, List.mem_singleton] at hr
    rcases hr with hr | rfl
    · exact hall r hr hm
    · exact hn

end resolve

/-- An accepted chat runs from the state its conversation was picked in, and changes the
sessions at most by rewriting the content of every session of the conversation's id. -/
theorem startChat_sessions {s s' : State} {caller : Caller} {data : RequestData} {sid : String}
    (h : s.startChat caller data = (s', .ok sid)) :
    ∃ (bot : Row Bot) (memoryId : String) (s₀ : State),
      s.freshUuid.1.resolveMemory caller bot.id data.botSessionId sid = (s₀, memoryId) ∧
      (s'.db.sessions.rows = s₀.db.sessions.rows ∨
        ∃ c, s'.db.sessions.rows = s₀.db.sessions.rows.map (withContent memoryId c)) := by
  obtain ⟨question, bot, memoryId, s₀, -, hres, hdb, -⟩ := startChat_ok h
  refine ⟨bot, memoryId, s₀, hres, ?_⟩
  have hend := botAnswer_ends s₀ bot.val question memoryId
  rw [hdb]
  cases hr : (s₀.botAnswer bot.val question memoryId).2.2 with
  | error f =>
    rw [hr] at hend
    exact .inl (by rw [hend.db_of_error])
  | ok answer =>
    rw [hr] at hend
    obtain ⟨_, -, hset⟩ := hend.stored_of_ok
    exact .inr ⟨_, setSessionContent_rows hset⟩

theorem transcript_found {s : State} {caller : Caller} {m : String} {j : Json}
    (h : s.transcript caller m = .ok j) :
    ∃ r ∈ s.db.sessions.rows, r.val.sessionId = m ∧ r.val.accessCode = caller.accessCode := by
  cases hr : s.db.sessionOf? m caller.accessCode with
  | none => simp [transcript, hr] at h
  | some r => exact ⟨r, sessionOf?_mem hr⟩

/-- When no row of another access code carries the id, a transcript depends only on the
caller's sessions, given the libraries: both rows it reads are found among them. -/
theorem transcript_eq_of_select {s t : State} {caller : Caller} {m : String}
    (hl : t.libs = s.libs) (hs : s.db.AllSessions m (·.accessCode == caller.accessCode))
    (ht : t.db.AllSessions m (·.accessCode == caller.accessCode))
    (hsel : t.db.sessions.select (·.accessCode == caller.accessCode) =
      s.db.sessions.select (·.accessCode == caller.accessCode)) :
    t.transcript caller m = s.transcript caller m := by
  have hfound : t.db.sessionOf? m caller.accessCode = s.db.sessionOf? m caller.accessCode := by
    rw [sessionOf?_eq_select, sessionOf?_eq_select, hsel]
  simp only [transcript, hfound, botHistory_eq_of_select hl hs ht hsel]

/-- **Sessions are reached by their id.** For every state and caller: an accepted chat continues a
conversation the caller holds with the bot, and changes the sessions at most by overwriting the
content of every session of that id. When no row of another user or bot carries the id, the chat
keeps every row that is not the caller's with that bot, and what it reads of the stored
conversation depends only on the caller's rows with that bot (and the server's JSON library). A
transcript is shown only to a caller holding a session of the id, and when no row of another user
carries the id, what it shows depends only on the caller's rows. -/
theorem session_access_by_id (s : State) (caller : Caller) :
    (∀ (data : RequestData) (s' : State) (sid : String),
      s.startChat caller data = (s', .ok sid) →
      ∃ (bot : Row Bot) (memoryId : String) (s₀ : State),
        s.freshUuid.1.resolveMemory caller bot.id data.botSessionId sid = (s₀, memoryId) ∧
        (∃ r ∈ s₀.db.sessions.rows, r.val.sessionId = memoryId ∧
          heldBy caller.accessCode bot.id r.val) ∧
        (s'.db.sessions.rows = s₀.db.sessions.rows ∨
          ∃ c, s'.db.sessions.rows = s₀.db.sessions.rows.map (withContent memoryId c)) ∧
        (s.db.AllSessions memoryId (heldBy caller.accessCode bot.id) →
          (∀ r ∈ s.db.sessions.rows, heldBy caller.accessCode bot.id r.val = false →
            r ∈ s'.db.sessions.rows) ∧
          ∀ t : State, t.libs = s₀.libs →
            t.db.AllSessions memoryId (heldBy caller.accessCode bot.id) →
            t.db.sessions.select (heldBy caller.accessCode bot.id) =
              s₀.db.sessions.select (heldBy caller.accessCode bot.id) →
            t.botHistory memoryId = s₀.botHistory memoryId)) ∧
    (∀ (m : String) (j : Json), s.transcript caller m = .ok j →
      ∃ r ∈ s.db.sessions.rows, r.val.sessionId = m ∧ r.val.accessCode = caller.accessCode) ∧
    (∀ (t : State) (m : String), t.libs = s.libs →
      s.db.AllSessions m (·.accessCode == caller.accessCode) →
      t.db.AllSessions m (·.accessCode == caller.accessCode) →
      t.db.sessions.select (·.accessCode == caller.accessCode) =
        s.db.sessions.select (·.accessCode == caller.accessCode) →
      t.transcript caller m = s.transcript caller m) := by
  refine ⟨fun data s' sid h => ?_, fun _ _ => transcript_found,
    fun _ _ hl hs ht hsel => transcript_eq_of_select hl hs ht hsel⟩
  obtain ⟨bot, memoryId, s₀, hres, hframe⟩ := startChat_sessions h
  refine ⟨bot, memoryId, s₀, hres, (resolveMemory_spec hres).1, hframe,
    fun hall => ⟨fun r hr hnot => ?_, fun t hl ht hsel => ?_⟩⟩
  · -- a row that is not the caller's with the bot carries another id, so the chat keeps it
    have hm : r.val.sessionId ≠ memoryId := fun hm => by simp [hall r hr hm] at hnot
    have hr₀ := resolveMemory_keeps hres (by simpa using hr)
    rcases hframe with hf | ⟨c, hf⟩ <;> rw [hf]
    · exact hr₀
    · exact mem_map_withContent hr₀ hm
  · exact botHistory_eq_of_select hl (resolveMemory_allSessions hres (by simpa using hall)) ht
      hsel

/-- A conversation the library's own printer stores is a JSON array, never the empty text. -/
theorem messagesText_ne_empty (ms : List ChatMessage) : messagesText Json.builtinCodec ms ≠ "" := by
  simp [messagesText, Json.builtinCodec, Json.compact]

def sharedDay : Time.DateTime := ⟨2024, 1, 2, 3, 4, 5, 0⟩

/-- A server whose model answers `ok`, with one bot and two empty sessions with it that share
the session id `s1`: one of `alice`, then one of `bob`. -/
def sharedServer : State where
  wiring := ⟨.model (.keywords [] none false), .model (.ofTokens ["ok"] none),
    .memory, ⟨"m", 5, 0.75, 10⟩, none⟩
  libs := Libraries.builtin .unreachable
  db := { bots := { rows := [⟨1, {}⟩], nextId := 2 },
          sessions := { rows := [⟨1, ⟨7, sharedDay, "", 1, "alice", "s1"⟩⟩,
            ⟨2, ⟨8, sharedDay, "", 1, "bob", "s1"⟩⟩], nextId := 3 } }
  clock := 0
  seed := 0

def bobChat : RequestData := { question := some "hi", botId := some "1", botSessionId := some "s1" }

theorem session_access_shared :
    sharedServer.startChat ⟨8, "bob"⟩ bobChat =
        ((sharedServer.startChat ⟨8, "bob"⟩ bobChat).1, .ok sharedServer.freshUuid.2) ∧
      ∃ (bot : Row Bot) (memoryId : String) (s₀ : State),
        sharedServer.freshUuid.1.resolveMemory ⟨8, "bob"⟩ bot.id bobChat.botSessionId
          sharedServer.freshUuid.2 = (s₀, memoryId) ∧
        (∃ r ∈ s₀.db.sessions.rows, r.val.sessionId = memoryId ∧ heldBy "bob" bot.id r.val) ∧
        ((sharedServer.startChat ⟨8, "bob"⟩ bobChat).1.db.sessions.rows = s₀.db.sessions.rows ∨
          ∃ c, (sharedServer.startChat ⟨8, "bob"⟩ bobChat).1.db.sessions.rows =
            s₀.db.sessions.rows.map (withContent memoryId c)) ∧
        (sharedServer.db.AllSessions memoryId (heldBy "bob" bot.id) →
          (∀ r ∈ sharedServer.db.sessions.rows, heldBy "bob" bot.id r.val = false →
            r ∈ (sharedServer.startChat ⟨8, "bob"⟩ bobChat).1.db.sessions.rows) ∧
          ∀ t : State, t.libs = s₀.libs → t.db.AllSessions memoryId (heldBy "bob" bot.id) →
            t.db.sessions.select (heldBy "bob" bot.id) = s₀.db.sessions.select (heldBy "bob" bot.id) →
            t.botHistory memoryId = s₀.botHistory memoryId) :=
  have h : sharedServer.startChat ⟨8, "bob"⟩ bobChat =
      ((sharedServer.startChat ⟨8, "bob"⟩ bobChat).1, .ok sharedServer.freshUuid.2) :=
    Prod.ext rfl rfl
  ⟨h, (session_access_by_id sharedServer ⟨8, "bob"⟩).1 _ _ _ h⟩

/-- A chat of `bob` in the session id shared with `alice` overwrites the row of `alice`: the check
that found the row of `bob` does not keep the answer out of the other row. -/
theorem shared_session_chat_overwrites :
    ¬ ∀ r ∈ sharedServer.db.sessions.rows, heldBy "bob" 1 r.val = false →
      r ∈ (sharedServer.startChat ⟨8, "bob"⟩ bobChat).1.db.sessions.rows := by
  intro hkept
  -- the chat answers `ok` and stores the conversation in every row of `s1`
  have hdb : (sharedServer.startChat ⟨8, "bob"⟩ bobChat).1.db =
      (sharedServer.freshUuid.1.botAnswer {} "hi" "s1").1.db := rfl
  have hend := botAnswer_ends sharedServer.freshUuid.1 {} "hi" "s1"
  rw [show (sharedServer.freshUuid.1.botAnswer {} "hi" "s1").2.2 = .ok "ok" from rfl] at hend
  obtain ⟨_, -, hset⟩ := hend.stored_of_ok
  have halice := hkept ⟨1, ⟨7, sharedDay, "", 1, "alice", "s1"⟩⟩ (by simp [sharedServer]) rfl
  rw [hdb, setSessionContent_rows hset] at halice
  obtain ⟨r, hr, heq⟩ := List.mem_map.mp halice
  -- both rows of the server carry `s1`, so Alice's empty row would have to be a rewritten one
  have hs1 : r.val.sessionId = "s1" := by
    simp only [freshUuid_db, sharedServer, List.mem_cons, List.not_mem_nil, or_false] at hr
    rcases hr with rfl | rfl <;> rfl
  simp only [withContent, hs1, if_true, Row.mk.injEq] at heq
  exact messagesText_ne_empty _ (congrArg BotSession.content heq.2)

end Server.State

end KnowledgeDesk
