import KnowledgeDesk.Proofs.BotChat
import KnowledgeDesk.Proofs.Window

/-!
# What a bot chat asks the model

A bot chat reads the stored conversation into a window, adds the bot's system message unless it
is blank, and sends that window with the prompt added. So the messages the model gets are the
window of the stored conversation, the system message and the prompt (`sentWindow`), and the
window's closed form says which:

* `systemMessage_eq`: the system message is the bot's trimmed story and the non-blank trimmed
  instructions of its toolset's abilities, in order, separated by blank lines;
* `botAnswer_modelCalls`: the only request a chat adds to the model's record is one with the
  messages of `sentWindow`;
* `sentWindow_messages`: those messages are one system message in front (the bot's own, or when
  it is blank the last one the stored conversation holds), then the last of the conversation's
  other messages and the prompt that fit beside it;
* `bot_chat_sends_window` gathers these: the bot's system message goes first whenever it is not
  blank, a stale one from the stored conversation goes first when it is, and the prompt comes
  last exactly when the window has room beside the system message. With a window of one message
  and a system message the prompt is evicted (`bot_prompt_evicted_by_system`).
-/

namespace KnowledgeDesk.Server

open Store

/-! ## The system message -/

theorem foldl_join {α : Type} (g : α → String) (xs : List α) (acc : String) :
    xs.foldl (fun acc a => if (g a).isEmpty then acc else if acc.isEmpty then g a
      else acc ++ "\n\n" ++ g a) acc =
      "\n\n".intercalate ((acc :: xs.map g).filter (!·.isEmpty)) := by
  induction xs generalizing acc with
  | nil =>
    by_cases hacc : acc.isEmpty
    · simp [String.isEmpty_iff.mp hacc]
    · simp [hacc]
  | cons a xs ih =>
    rw [List.foldl_cons, ih]
    by_cases hg : (g a).isEmpty
    · -- an empty text is skipped
      have hskip : (acc :: g a :: xs.map g).filter (!·.isEmpty) =
          (acc :: xs.map g).filter (!·.isEmpty) := by
        by_cases hacc : acc.isEmpty <;> simp [hg, hacc]
      simp only [hg, if_true, List.map_cons, hskip]
    · by_cases hacc : acc.isEmpty
      · simp [hg, hacc]
      · -- the texts so far and the new one, joined, stand in front of the rest
        simp [hg, hacc, String.append_assoc]

/-- **The system message of a bot** is its trimmed story and, when it has a toolset, the trimmed
instructions of the toolset's abilities in order, the blank ones left out, separated by blank
lines. -/
theorem systemMessage_eq (db : Database) (bot : Bot) :
    systemMessage db bot = "\n\n".intercalate ((Text.trim bot.story ::
      if bot.toolsetId > 0 then (db.abilitiesOf bot.toolsetId).map (Text.trim ·.val.instruction)
      else []).filter (!·.isEmpty)) := by
  by_cases ht : bot.toolsetId > 0
  · simp only [systemMessage, ht, if_true]
    exact foldl_join (fun a : Row Ability => Text.trim a.val.instruction)
      (db.abilitiesOf bot.toolsetId) (Text.trim bot.story)
  · simp only [systemMessage, ht, if_false]
    by_cases hs : (Text.trim bot.story).isEmpty
    · simp [String.isEmpty_iff.mp hs]
    · simp [hs]

/-! ## The window sent -/

/-- The window a bot chat sends: the stored conversation, the system message unless it is blank,
and the prompt, read into a window of `n` messages. -/
def sentWindow (n : Nat) (history : List ChatMessage) (system prompt : String) : MessageWindow :=
  MessageWindow.ofMessages n
    (history ++ (if (Text.trim system).isEmpty then [] else [⟨.system, system⟩]) ++
      [(⟨.user, prompt⟩ : ChatMessage)])

/-- The system message a chat sends: the bot's own unless it is blank, else the last one of the
stored conversation, if it has one. -/
def sentSystem (history : List ChatMessage) (system : String) : List ChatMessage :=
  if (Text.trim system).isEmpty then MessageWindow.lastSystem history else [⟨.system, system⟩]

theorem sentWindow_eq (n : Nat) (history : List ChatMessage) (system prompt : String) :
    sentWindow n history system prompt =
      (if (Text.trim system).isEmpty then MessageWindow.ofMessages n history
        else (MessageWindow.ofMessages n history).add ⟨.system, system⟩).add
        ⟨.user, prompt⟩ := by
  unfold sentWindow MessageWindow.ofMessages
  split <;> simp [List.foldl_append]

/-- **The messages a chat sends**: one system message in front when there is one to send, then
the last of the stored conversation's other messages and the prompt that fit beside it. -/
theorem sentWindow_messages (n : Nat) (history : List ChatMessage) (system prompt : String) :
    (sentWindow n history system prompt).messages =
      sentSystem history system ++
        (MessageWindow.others history ++ [(⟨.user, prompt⟩ : ChatMessage)]).rtake
          (max n 1 - (sentSystem history system).length) := by
  have huser : (⟨.user, prompt⟩ : ChatMessage).role ≠ .system := by simp
  have hsys : (⟨.system, system⟩ : ChatMessage).role = .system := rfl
  rw [sentWindow, MessageWindow.ofMessages_eq_kept, MessageWindow.kept,
    MessageWindow.lastSystem_concat_of_ne _ huser, MessageWindow.others_concat_of_ne _ huser]
  -- the system message added, if any, is the last one and none of the others
  by_cases hblank : (Text.trim system).isEmpty
  · simp [sentSystem, hblank]
  · simp only [sentSystem, hblank, Bool.false_eq_true, if_false,
      MessageWindow.lastSystem_concat_of_eq _ hsys, MessageWindow.others_concat_of_eq _ hsys]

theorem role_of_mem_sentSystem {history : List ChatMessage} {system : String} {m : ChatMessage}
    (h : m ∈ sentSystem history system) : m.role = .system := by
  unfold sentSystem at h
  split at h
  · exact MessageWindow.role_of_mem_lastSystem h
  · rw [List.mem_singleton.mp h]

theorem role_of_mem_rtake_others_concat (history : List ChatMessage) (prompt : String) (k : Nat) :
    ∀ m ∈ (MessageWindow.others history ++ [(⟨.user, prompt⟩ : ChatMessage)]).rtake k,
      m.role ≠ .system := by
  rw [← MessageWindow.others_concat_of_ne history (m := ⟨.user, prompt⟩) (by simp)]
  exact MessageWindow.role_of_mem_rtake_others _ k

theorem length_sentWindow_le (n : Nat) (history : List ChatMessage) (system prompt : String) :
    (sentWindow n history system prompt).messages.length ≤ max n 1 := by
  rw [sentWindow, MessageWindow.ofMessages_eq_kept]
  exact MessageWindow.length_kept_le _ _

theorem role_of_mem_tail_sentWindow (n : Nat) (history : List ChatMessage)
    (system prompt : String) :
    ∀ m ∈ (sentWindow n history system prompt).messages.tail, m.role ≠ .system := by
  rw [sentWindow, MessageWindow.ofMessages_eq_kept]
  exact MessageWindow.role_of_mem_tail_kept _ _

theorem head?_sentWindow {n : Nat} {history : List ChatMessage} {system prompt : String}
    (hblank : (Text.trim system).isEmpty = false) :
    (sentWindow n history system prompt).messages.head? = some ⟨.system, system⟩ := by
  simp [sentWindow_messages, sentSystem, hblank]

/-- With a blank system message, the window sent holds a system message exactly when the stored
conversation does: the last one it holds. -/
theorem exists_system_sentWindow_iff {n : Nat} {history : List ChatMessage}
    {system prompt : String} (hblank : (Text.trim system).isEmpty = true) :
    (∃ m ∈ (sentWindow n history system prompt).messages, m.role = .system) ↔
      ∃ m ∈ history, m.role = .system := by
  simp only [sentWindow_messages, sentSystem, hblank, if_true, List.mem_append]
  constructor
  · rintro ⟨m, hm | hm, hsys⟩
    · exact ⟨m, MessageWindow.mem_of_mem_lastSystem hm, hsys⟩
    · exact absurd hsys (role_of_mem_rtake_others_concat history prompt _ m hm)
  · rintro ⟨m, hm, hsys⟩
    obtain ⟨old, hold, holdsys⟩ := (MessageWindow.lastSystem_cases history).resolve_left
      fun hnil => MessageWindow.lastSystem_eq_nil_iff.mp hnil m hm hsys
    exact ⟨old, .inl (hold ▸ List.mem_singleton_self old), holdsys⟩

/-- The prompt comes last exactly when the system message in front leaves room for it. -/
theorem getLast?_sentWindow_iff (n : Nat) (history : List ChatMessage) (system prompt : String) :
    (sentWindow n history system prompt).messages.getLast? = some ⟨.user, prompt⟩ ↔
      (sentSystem history system).length < max n 1 := by
  rw [sentWindow_messages]
  constructor
  · intro hlast
    by_contra hfull
    -- no room: only the system message is left, and it is no prompt
    have hnil : max n 1 - (sentSystem history system).length = 0 := by omega
    rw [hnil, List.rtake_zero, List.append_nil] at hlast
    have hsys := role_of_mem_sentSystem (List.mem_of_getLast? hlast)
    simp at hsys
  · intro hroom
    obtain ⟨k, hk⟩ : ∃ k, max n 1 - (sentSystem history system).length = k + 1 :=
      ⟨max n 1 - (sentSystem history system).length - 1, by omega⟩
    rw [hk, List.rtake_concat_succ, List.getLast?_append, List.getLast?_concat, Option.some_or]

/-! ## What the model is asked -/

namespace State

theorem saveBotHistory_modelCalls {s t : State} {memoryId : String} {ms : List ChatMessage}
    (h : s.saveBotHistory memoryId ms = .ok t) : t.modelCalls = s.modelCalls := by
  unfold saveBotHistory at h
  split at h
  · cases h
    rfl
  · cases h

/-- **A chat asks the model once**, with the messages of the sent window: whatever the model
records of the chat is what it records of that one request. -/
theorem botAnswer_modelCalls (s : State) (bot : Bot) {question memoryId prompt : String}
    {history : List ChatMessage} (hp : s.botPrompt bot question = .ok prompt)
    (hh : s.botHistory memoryId = .ok history) :
    (s.botAnswer bot question memoryId).1.modelCalls =
      (s.ask ⟨ModelParams.new (if (Text.trim bot.modelId).isEmpty then s.settings.defaultModel
          else Text.trim bot.modelId),
        (sentWindow s.settings.memoryMaxMessages history (systemMessage s.db bot) prompt).messages,
        none⟩).1.modelCalls := by
  rw [sentWindow_eq]
  simp only [botAnswer, hp, hh, bind, Except.bind, pure, Except.pure]
  -- after the model answers, only storing the conversation is left, and it keeps the record
  split
  · rfl
  · split
    next t ht => exact saveBotHistory_modelCalls ht
    next => rfl

/-- **What a bot chat sends to the model.** Take a chat whose prompt is `prompt` and whose stored
conversation reads as `history`, with `system` the bot's system message (its trimmed story and
its toolset's non-blank trimmed instructions, separated by blank lines) and a window of
`limit = max n 1` messages. The one request the model gets holds `head`, then the last of the
conversation's other messages and `user(prompt)` that fit beside it, where `head` is
`system(system)` when `system` is not blank and otherwise the last system message of the stored
conversation, if any. So the list has at most `limit` messages and no system message after the
first; when `system` is not blank it starts with it; when it is blank it holds a system message
exactly when the stored conversation does; and it ends with the prompt exactly when `head`
leaves room, which it always does for `limit ≥ 2`. -/
theorem bot_chat_sends_window (s : State) (bot : Bot) (question memoryId prompt : String)
    (history : List ChatMessage) (hp : s.botPrompt bot question = .ok prompt)
    (hh : s.botHistory memoryId = .ok history) :
    let system := systemMessage s.db bot
    let limit := max s.settings.memoryMaxMessages 1
    let head := sentSystem history system
    let sent := head ++
      (MessageWindow.others history ++ [(⟨.user, prompt⟩ : ChatMessage)]).rtake
        (limit - head.length)
    (∃ params, (s.botAnswer bot question memoryId).1.modelCalls =
        (s.ask ⟨params, sent, none⟩).1.modelCalls) ∧
      system = "\n\n".intercalate ((Text.trim bot.story ::
        if bot.toolsetId > 0 then
          (s.db.abilitiesOf bot.toolsetId).map (Text.trim ·.val.instruction)
        else []).filter (!·.isEmpty)) ∧
      sent.length ≤ limit ∧
      (∀ m ∈ sent.tail, m.role ≠ .system) ∧
      ((Text.trim system).isEmpty = false → sent.head? = some ⟨.system, system⟩) ∧
      ((Text.trim system).isEmpty = true →
        ((∃ m ∈ sent, m.role = .system) ↔ ∃ m ∈ history, m.role = .system)) ∧
      (sent.getLast? = some ⟨.user, prompt⟩ ↔ head.length < limit) := by
  intro system limit head sent
  have hsent : (sentWindow s.settings.memoryMaxMessages history system prompt).messages = sent :=
    sentWindow_messages _ _ _ _
  refine ⟨⟨_, hsent ▸ botAnswer_modelCalls s bot hp hh⟩, systemMessage_eq s.db bot, ?_, ?_,
    fun hblank => ?_, fun hblank => ?_, ?_⟩ <;> rw [← hsent]
  · exact length_sentWindow_le _ _ _ _
  · exact role_of_mem_tail_sentWindow _ _ _ _
  · exact head?_sentWindow hblank
  · exact exists_system_sentWindow_iff hblank
  · exact getLast?_sentWindow_iff _ _ _ _

/-! ## A window of one message -/

def oneMessageServer : State where
  wiring := ⟨.model (.keywords [] none false), .model (.ofTokens ["ok"] none),
    .memory, ⟨"m", 1, 0.75, 10⟩, none⟩
  libs := Libraries.builtin .unreachable
  clock := 0
  seed := 0

def kindBot : Bot := { story := "be kind" }

/-- A first chat with a bot with a story, in windows of five messages. -/
theorem bot_chat_sends_story :
    let s : State := { oneMessageServer with
      wiring := { oneMessageServer.wiring with settings := ⟨"m", 5, 0.75, 10⟩ } }
    s.botPrompt kindBot "hi" = .ok "hi" ∧ s.botHistory "s1" = .ok [] ∧
      let system := systemMessage s.db kindBot
      let limit := max s.settings.memoryMaxMessages 1
      let head := sentSystem [] system
      let sent := head ++
        (MessageWindow.others [] ++ [(⟨.user, "hi"⟩ : ChatMessage)]).rtake (limit - head.length)
      (∃ params, (s.botAnswer kindBot "hi" "s1").1.modelCalls =
          (s.ask ⟨params, sent, none⟩).1.modelCalls) ∧
        system = "\n\n".intercalate ((Text.trim kindBot.story ::
          if kindBot.toolsetId > 0 then
            (s.db.abilitiesOf kindBot.toolsetId).map (Text.trim ·.val.instruction)
          else []).filter (!·.isEmpty)) ∧
        sent.length ≤ limit ∧
        (∀ m ∈ sent.tail, m.role ≠ .system) ∧
        ((Text.trim system).isEmpty = false → sent.head? = some ⟨.system, system⟩) ∧
        ((Text.trim system).isEmpty = true →
          ((∃ m ∈ sent, m.role = .system) ↔ ∃ m ∈ ([] : List ChatMessage), m.role = .system)) ∧
        (sent.getLast? = some ⟨.user, "hi"⟩ ↔ head.length < limit) :=
  ⟨rfl, rfl, bot_chat_sends_window _ kindBot "hi" "s1" "hi" [] rfl rfl⟩

/-- With windows of one message, a bot with a story sends the model its system message alone:
the prompt is evicted to keep the system message, so the list does not end with the question. -/
theorem bot_prompt_evicted_by_system :
    (oneMessageServer.botAnswer kindBot "hi" "s1").1.modelCalls.map (·.messages) =
      [[⟨.system, "be kind"⟩]] := by
  rw [botAnswer_modelCalls oneMessageServer kindBot
      (show oneMessageServer.botPrompt kindBot "hi" = .ok "hi" from rfl)
      (show oneMessageServer.botHistory "s1" = .ok [] from rfl),
    ask_modelCalls, sentWindow_messages]
  decide

end State

end KnowledgeDesk.Server
