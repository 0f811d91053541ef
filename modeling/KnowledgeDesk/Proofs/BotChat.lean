import KnowledgeDesk.Server.Chat
import KnowledgeDesk.Server.Builtin

/-!
# What a bot chat sends and keeps

A bot chat reports on a single pipeline step, the chat step. Whatever happens on the way (the
dataset search, the prompt, reading the stored conversation, the model, storing the answer), the
stream of an accepted chat is the pending step, one update per token the model sent showing the
text so far, exactly one last state of the step and the closing message. The last state is
completed exactly when the model answered and the conversation was stored; what is stored is
then the conversation stored before, the system message unless it is blank, the question and
the answer, in a window of the configured size. A chat that fails stores nothing.

* `ChatEnd` lists the ways a chat can end, and `botAnswer_ends` shows that every chat ends in
  one of them;
* `chatStream` is the stream of a chat given the tokens and how it ended, and `chatJob_events`
  shows that the job sends it;
* `startChat_stream` puts the two together for every accepted chat request.
-/

namespace KnowledgeDesk.Server

open Store

/-! ## The chat step's events -/

section Events

variable (print : Json → String)

def chatStepEvent (st : Step) : StreamEvent := (⟨[(1, st)]⟩ : Pipeline).stepsEvent print

/-- The last state of the chat step: completed with the text the model sent (no message when
it sent no token), or failed with the failure's text. -/
def lastChatStep (tokens : List String) : Except Failure String → Step
  | .ok _ => ⟨.completed, if tokens = [] then none else some (String.join tokens), chatContainer⟩
  | .error f => ⟨.failed, some f.text, chatContainer⟩

/-- The stream of a chat whose model sent `tokens` and that ended with `result`: the pending
step, then for the `i`-th token the step showing the first `i + 1` tokens, then the step's last
state and the closing message. -/
def chatStream (tokens : List String) (result : Except Failure String) : List StreamEvent :=
  chatStepEvent print ⟨.pending, none, chatContainer⟩ ::
    (List.range tokens.length).map (fun i =>
      chatStepEvent print ⟨.pending, some (String.join (tokens.take (i + 1))), chatContainer⟩) ++
    [chatStepEvent print (lastChatStep tokens result), ⟨messageEvent, closeMessage⟩]

theorem initStep_empty (c : String) :
    Pipeline.initStep print {} 1 c =
      (⟨[(1, ⟨.pending, none, c⟩)]⟩, [chatStepEvent print ⟨.pending, none, c⟩]) :=
  rfl

theorem change_single (st : Step) (f : Step → Step) :
    (⟨[(1, st)]⟩ : Pipeline).change print 1 f = (⟨[(1, f st)]⟩, [chatStepEvent print (f st)]) := by
  simp [Pipeline.change, Pipeline.insertStep, chatStepEvent]

end Events

/-! ## The conversation a chat keeps -/

/-- The conversation kept after a bot answered: the stored one, the system message unless it is
blank, the question and the answer, in a window of `n` messages. -/
def keptWindow (n : Nat) (history : List ChatMessage) (system question answer : String) :
    MessageWindow :=
  MessageWindow.ofMessages n
    (history ++ (if (Text.trim system).isEmpty then [] else [⟨.system, system⟩]) ++
      [⟨.user, question⟩, ⟨.assistant, answer⟩])

theorem keptWindow_eq (n : Nat) (history : List ChatMessage) (system question answer : String) :
    keptWindow n history system question answer =
      (((if (Text.trim system).isEmpty then MessageWindow.ofMessages n history
          else (MessageWindow.ofMessages n history).add ⟨.system, system⟩).add
        ⟨.user, question⟩).add ⟨.assistant, answer⟩) := by
  unfold keptWindow MessageWindow.ofMessages
  split <;> simp [List.foldl_append]

namespace State

/-- How a bot chat on `s` about `question`, continuing the conversation `memoryId`, can end: the
state it leaves, the tokens the model sent, and the answer or the failure. -/
inductive ChatEnd (s : State) (bot : Bot) (question memoryId : String) :
    State → List String → Except Failure String → Prop
  /-- The prompt could not be made: the model is not asked and nothing changes. -/
  | noPrompt {f : Failure} :
      s.botPrompt bot question = .error f → ChatEnd s bot question memoryId s [] (.error f)
  /-- The stored conversation could not be read: the model is not asked and nothing changes. -/
  | noHistory {prompt : String} {f : Failure} :
      s.botPrompt bot question = .ok prompt → s.botHistory memoryId = .error f →
      ChatEnd s bot question memoryId s [] (.error f)
  /-- The model failed after sending `tokens`. -/
  | modelFailed {prompt : String} {history : List ChatMessage} {req : ChatRequest} {s' : State}
      {tokens : List String} {m : String} :
      s.botPrompt bot question = .ok prompt → s.botHistory memoryId = .ok history →
      s.ask req = (s', tokens, .error m) →
      ChatEnd s bot question memoryId s' tokens (.error (.model m))
  /-- The model answered, but no session has the conversation's id to keep it in. -/
  | unsaved {prompt : String} {history : List ChatMessage} {req : ChatRequest} {s' : State}
      {tokens : List String} {answer : String} :
      s.botPrompt bot question = .ok prompt → s.botHistory memoryId = .ok history →
      s.ask req = (s', tokens, .ok answer) →
      s.db.setSessionContent memoryId (messagesText s.libs.json
        (keptWindow s.settings.memoryMaxMessages history (systemMessage s.db bot) question
          answer).messages) = none →
      ChatEnd s bot question memoryId s' tokens
        (.error (.memory "Chat memory storage error: Item not found"))
  /-- The model answered and every session of the conversation's id keeps the new window. -/
  | answered {prompt : String} {history : List ChatMessage} {req : ChatRequest} {s' : State}
      {tokens : List String} {answer : String} {db : Database} :
      s.botPrompt bot question = .ok prompt → s.botHistory memoryId = .ok history →
      s.ask req = (s', tokens, .ok answer) →
      s.db.setSessionContent memoryId (messagesText s.libs.json
        (keptWindow s.settings.memoryMaxMessages history (systemMessage s.db bot) question
          answer).messages) = some db →
      ChatEnd s bot question memoryId (s'.withDb db) tokens (.ok answer)

/-- Every bot chat ends in one of the ways `ChatEnd` lists. -/
theorem botAnswer_ends (s : State) (bot : Bot) (question memoryId : String) :
    ChatEnd s bot question memoryId (s.botAnswer bot question memoryId).1
      (s.botAnswer bot question memoryId).2.1 (s.botAnswer bot question memoryId).2.2 := by
  cases hp : s.botPrompt bot question with
  | error f =>
    simp only [botAnswer, hp, bind, Except.bind]
    exact .noPrompt hp
  | ok prompt =>
    cases hh : s.botHistory memoryId with
    | error f =>
      simp only [botAnswer, hp, hh, bind, Except.bind]
      exact .noHistory hp hh
    | ok history =>
      simp only [botAnswer, hp, hh, bind, Except.bind, pure, Except.pure]
      -- the request is whatever the chat sends; only the model's answer to it matters here
      split
      next m hm => exact .modelFailed hp hh (Prod.ext rfl (Prod.ext rfl hm))
      next answer ha =>
        simp only [saveBotHistory, ask_db, ask_libs, ← keptWindow_eq]
        cases hdb : s.db.setSessionContent memoryId (messagesText s.libs.json
            (keptWindow s.settings.memoryMaxMessages history (systemMessage s.db bot) question
              answer).messages) with
        | some db => exact .answered hp hh (Prod.ext rfl (Prod.ext rfl ha)) hdb
        | none => exact .unsaved hp hh (Prod.ext rfl (Prod.ext rfl ha)) hdb

theorem ChatEnd.db_of_error {s s' : State} {bot : Bot} {question memoryId : String}
    {tokens : List String} {f : Failure} (h : ChatEnd s bot question memoryId s' tokens (.error f)) :
    s'.db = s.db := by
  cases h with
  | noPrompt => rfl
  | noHistory => rfl
  | modelFailed _ _ hask => rw [← ask_db s, hask]
  | unsaved _ _ hask => rw [← ask_db s, hask]

/-- A chat that answers has read the stored conversation and stored the new window in every
session of its id. -/
theorem ChatEnd.stored_of_ok {s s' : State} {bot : Bot} {question memoryId : String}
    {tokens : List String} {answer : String}
    (h : ChatEnd s bot question memoryId s' tokens (.ok answer)) :
    ∃ history, s.botHistory memoryId = .ok history ∧
      s.db.setSessionContent memoryId (messagesText s.libs.json
        (keptWindow s.settings.memoryMaxMessages history (systemMessage s.db bot) question
          answer).messages) = some s'.db := by
  cases h with
  | answered _ hh _ hdb => exact ⟨_, hh, hdb⟩

/-! ## The stream of a chat -/

theorem tokenEvents_single (print : Json → String) (st : Step) (sofar : String)
    (tokens : List String) :
    tokenEvents print ⟨[(1, st)]⟩ sofar tokens =
      (⟨[(1, if tokens = [] then st
              else { st with message := some (sofar ++ String.join tokens) })]⟩,
        (List.range tokens.length).map fun i => chatStepEvent print
          { st with message := some (sofar ++ String.join (tokens.take (i + 1))) }) := by
  induction tokens generalizing st sofar with
  | nil => rfl
  | cons t rest ih =>
    simp only [tokenEvents, Pipeline.updateStep, change_single, ih]
    simp only [List.length_cons, List.range_succ_eq_map, List.map_cons, List.map_map,
      Function.comp_def, List.take_succ_cons, List.take_zero, String.join_cons, String.join_nil,
      String.append_empty, String.append_assoc, reduceCtorEq, if_false, List.singleton_append]
    -- the last token leaves the text so far as it is
    by_cases hrest : rest = []
    · subst hrest
      simp
    · simp [hrest]

/-- A chat job sends the stream of its chat and leaves the state the chat left. -/
theorem chatJob_events (s : State) (bot : Bot) (question memoryId : String) :
    s.chatJob bot question memoryId =
      ((s.botAnswer bot question memoryId).1,
        chatStream s.libs.json.print (s.botAnswer bot question memoryId).2.1
          (s.botAnswer bot question memoryId).2.2) := by
  rcases hb : s.botAnswer bot question memoryId with ⟨s', tokens, result⟩
  simp only [chatJob, hb, initStep_empty, tokenEvents_single, chatStream, Pipeline.closeEvents,
    String.empty_append]
  -- the last event is the step after the tokens, completed or failed
  cases result with
  | ok answer =>
    simp only [Pipeline.completeStep, change_single, lastChatStep]
    split <;> simp
  | error f =>
    simp only [Pipeline.failStep, change_single, lastChatStep]
    split <;> simp

theorem takeStream_registered (s : State) (sid : String) (events : List StreamEvent) :
    (({ s with streams := s.streams.filter (·.1 != sid) ++ [(sid, events)] } : State).takeStream
      sid).2 = some events := by
  have hnone : (s.streams.filter (·.1 != sid)).find? (·.1 == sid) = none := by
    rw [List.find?_eq_none]
    intro x hx
    simpa using (List.mem_filter.mp hx).2
  simp [takeStream, List.find?_append, hnone]

/-- An accepted chat request: its question, its bot, the conversation it continues and the
state that conversation was picked in. The request leaves the database the chat left, and the
chat's stream is the one registered under the id it answers. -/
theorem startChat_ok {s s' : State} {caller : Caller} {data : RequestData} {sid : String}
    (h : s.startChat caller data = (s', .ok sid)) :
    ∃ (question : String) (bot : Row Bot) (memoryId : String) (s₀ : State),
      (data.question.map Text.trim).filter (!·.isEmpty) = some question ∧
      s.freshUuid.1.resolveMemory caller bot.id data.botSessionId sid = (s₀, memoryId) ∧
      s'.db = (s₀.botAnswer bot.val question memoryId).1.db ∧
      (s'.takeStream sid).2 = some (chatStream s₀.libs.json.print
        (s₀.botAnswer bot.val question memoryId).2.1 (s₀.botAnswer bot.val question memoryId).2.2) := by
  unfold startChat at h
  split at h
  · simp at h
  · next question hq =>
    split at h
    · simp at h
    · split at h
      · simp at h
      · next bot _ =>
        rcases hu : s.freshUuid with ⟨s₁, sessionId⟩
        rcases hr : s₁.resolveMemory caller bot.id data.botSessionId sessionId with ⟨s₀, memoryId⟩
        rcases hj : s₀.chatJob bot.val question memoryId with ⟨s₂, events⟩
        simp only [hu, hr, hj, Prod.mk.injEq, Except.ok.injEq] at h
        obtain ⟨rfl, rfl⟩ := h
        -- the job's state and events are those of its chat
        have hjob := chatJob_events s₀ bot.val question memoryId
        rw [hj, Prod.mk.injEq] at hjob
        obtain ⟨rfl, rfl⟩ := hjob
        exact ⟨question, bot, memoryId, s₀, hq, hr, rfl, takeStream_registered _ _ _⟩

/-- **The stream and the memory of a bot chat.** For every accepted chat request, the stream
taken under the id it answered is the chat step pending, one update per token the model sent
with the text so far, the step's last state and the closing message; the chat ended in one of
the ways `ChatEnd` lists; a failed chat left the database as it was, and an answered one stored
the window of the conversation read before, the system message unless blank, the question and
the answer in every session of the conversation's id. -/
theorem startChat_stream {s s' : State} {caller : Caller} {data : RequestData} {sid : String}
    (h : s.startChat caller data = (s', .ok sid)) :
    ∃ (question : String) (bot : Row Bot) (memoryId : String) (s₀ s₁ : State)
      (tokens : List String) (result : Except Failure String),
      (data.question.map Text.trim).filter (!·.isEmpty) = some question ∧
      s.freshUuid.1.resolveMemory caller bot.id data.botSessionId sid = (s₀, memoryId) ∧
      ChatEnd s₀ bot.val question memoryId s₁ tokens result ∧ s'.db = s₁.db ∧
      (s'.takeStream sid).2 = some (chatStream s₀.libs.json.print tokens result) ∧
      (∀ f, result = .error f → s'.db = s₀.db) ∧
      (∀ answer, result = .ok answer → ∃ history, s₀.botHistory memoryId = .ok history ∧
        s₀.db.setSessionContent memoryId (messagesText s₀.libs.json
          (keptWindow s₀.settings.memoryMaxMessages history (systemMessage s₀.db bot.val)
            question answer).messages) = some s'.db) := by
  obtain ⟨question, bot, memoryId, s₀, hq, hres, hdb, hstream⟩ := startChat_ok h
  have hend := botAnswer_ends s₀ bot.val question memoryId
  refine ⟨question, bot, memoryId, s₀, _, _, _, hq, hres, hend, hdb, hstream, ?_, ?_⟩
  · intro f hf
    rw [hf] at hend
    rw [hdb, hend.db_of_error]
  · intro answer ha
    rw [ha] at hend
    rw [hdb]
    exact hend.stored_of_ok

def helloServer : State where
  wiring := ⟨.model (.keywords [] none false), .model (.ofTokens ["Hel", "lo"] none),
    .memory, ⟨"m", 10, 0.5, 5⟩, none⟩
  libs := Libraries.builtin .unreachable
  db := { bots := { rows := [⟨1, {}⟩], nextId := 2 } }
  clock := 0
  seed := 0

theorem startChat_stream_hello :
    helloServer.startChat ⟨1, "code"⟩ { question := some "Hi", botId := some "1" } =
        ((helloServer.startChat ⟨1, "code"⟩ { question := some "Hi", botId := some "1" }).1,
          .ok helloServer.freshUuid.2) ∧
      ∃ (question : String) (bot : Row Bot) (memoryId : String) (s₀ s₁ : State)
        (tokens : List String) (result : Except Failure String),
        (some "Hi" |>.map Text.trim |>.filter (!·.isEmpty)) = some question ∧
        helloServer.freshUuid.1.resolveMemory ⟨1, "code"⟩ bot.id none helloServer.freshUuid.2 =
          (s₀, memoryId) ∧
        ChatEnd s₀ bot.val question memoryId s₁ tokens result ∧
        (helloServer.startChat ⟨1, "code"⟩ { question := some "Hi", botId := some "1" }).1.db =
          s₁.db ∧
        ((helloServer.startChat ⟨1, "code"⟩ { question := some "Hi", botId := some "1" }).1.takeStream
          helloServer.freshUuid.2).2 = some (chatStream s₀.libs.json.print tokens result) ∧
        (∀ f, result = .error f →
          (helloServer.startChat ⟨1, "code"⟩ { question := some "Hi", botId := some "1" }).1.db =
            s₀.db) ∧
        (∀ answer, result = .ok answer → ∃ history, s₀.botHistory memoryId = .ok history ∧
          s₀.db.setSessionContent memoryId (messagesText s₀.libs.json
            (keptWindow s₀.settings.memoryMaxMessages history (systemMessage s₀.db bot.val)
              question answer).messages) =
            some (helloServer.startChat ⟨1, "code"⟩
              { question := some "Hi", botId := some "1" }).1.db) :=
  have h : helloServer.startChat ⟨1, "code"⟩ { question := some "Hi", botId := some "1" } =
      ((helloServer.startChat ⟨1, "code"⟩ { question := some "Hi", botId := some "1" }).1,
        .ok helloServer.freshUuid.2) := Prod.ext rfl rfl
  ⟨h, startChat_stream h⟩

end State

end KnowledgeDesk.Server
