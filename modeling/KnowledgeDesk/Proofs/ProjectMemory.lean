import KnowledgeDesk.Server.Chat
import KnowledgeDesk.Server.Builtin
import Mathlib.Data.List.DropRight
import Mathlib.Data.List.Find

/-!
# A client's conversation about a project

A project answer keeps the conversation of its client about its project in memory, under the id
`client:project`, and a reset forgets it. An answer reads the kept conversation into a window,
adds the question and the model's answer, and keeps the new window; a failure on the way keeps
nothing. Here the kept conversation is followed through any run of answers and resets.

* `projectMemoryId_inj`: the id names its client and its project, even for a client whose name
  holds colons, since the text of a number has none;
* `ofMessages_eq_rtake`: a window of messages none of which is a system message holds the last
  of them that fit, so a window read into a window again is unchanged (`ofMessages_ofMessages`);
* `serveProject_kept`: what one request does to a conversation, and `serveProjects_kept`: after
  any run from an empty memory, the kept conversation is the window of the turns since its last
  reset whose answer the model gave;
* `project_history_since_reset`: so the history an answer puts between the project's preset
  messages and the question is that window, and requests about other conversations never
  change it.
-/

namespace KnowledgeDesk

/-! ## Conversation ids -/

/-- The characters of an integer's decimal text: a minus sign when it is negative, then the
digits of its absolute value. -/
theorem toList_toString_int (p : Int) :
    (toString p).toList = (if p < 0 then ['-'] else []) ++ Nat.toDigits 10 p.natAbs := by
  cases p with
  | ofNat n => simp [toString, Int.repr, Nat.toList_repr]
  | negSucc n => simp [toString, Int.repr, Nat.toList_repr, Int.negSucc_lt_zero]

theorem not_mem_toDigits {c : Char} (hc : c.isDigit = false) (n : Nat) :
    c ∉ Nat.toDigits 10 n := fun h => by
  rw [Nat.isDigit_of_mem_toDigits (by decide) (by decide) h] at hc
  cases hc

theorem toDigits_ten_inj {m n : Nat} (h : Nat.toDigits 10 m = Nat.toDigits 10 n) : m = n :=
  calc m = Nat.ofDigitChars 10 (Nat.toDigits 10 m) 0 := Nat.ofDigitChars_ten_toDigits.symm
    _ = Nat.ofDigitChars 10 (Nat.toDigits 10 n) 0 := by rw [h]
    _ = n := Nat.ofDigitChars_ten_toDigits

theorem toString_int_injective : Function.Injective (toString : Int → String) := by
  intro p p' h
  have hl := congrArg String.toList h
  simp only [toList_toString_int] at hl
  have hminus := not_mem_toDigits (c := '-') (by decide)
  by_cases hp : p < 0 <;> by_cases hp' : p' < 0 <;>
    simp only [hp, hp', if_true, if_false, List.singleton_append, List.nil_append,
      List.cons.injEq, true_and] at hl
  · have := toDigits_ten_inj hl
    omega
  · exact absurd (hl ▸ List.mem_cons_self) (hminus _)
  · exact absurd (hl.symm ▸ List.mem_cons_self) (hminus _)
  · have := toDigits_ten_inj hl
    omega

/-- A list cut at an `x` that does not occur after the cut: the parts before and after it are
determined. -/
theorem append_cons_inj_of_not_mem {α : Type} {x : α} :
    ∀ {l l' t t' : List α}, l ++ x :: t = l' ++ x :: t' → x ∉ t → x ∉ t' → l = l' ∧ t = t'
  | [], [], _, _, h, _, _ => ⟨rfl, by simpa using h⟩
  | [], _ :: _, _, _, h, ht, _ => by
    simp only [List.nil_append, List.cons_append, List.cons.injEq] at h
    exact absurd (h.2 ▸ List.mem_append_right _ List.mem_cons_self) ht
  | _ :: _, [], _, _, h, _, ht' => by
    simp only [List.nil_append, List.cons_append, List.cons.injEq] at h
    exact absurd (h.2.symm ▸ List.mem_append_right _ List.mem_cons_self) ht'
  | _ :: _, _ :: _, _, _, h, ht, ht' => by
    simp only [List.cons_append, List.cons.injEq] at h
    obtain ⟨rfl, h⟩ := h
    obtain ⟨rfl, rfl⟩ := append_cons_inj_of_not_mem h ht ht'
    exact ⟨rfl, rfl⟩

namespace Server

/-- **A conversation id names its client and its project.** The project's number comes after
the last colon, since its text has none. -/
theorem projectMemoryId_inj {c c' : String} {p p' : Int} :
    projectMemoryId c p = projectMemoryId c' p' ↔ c = c' ∧ p = p' := by
  constructor
  · intro h
    have hl := congrArg String.toList h
    simp only [projectMemoryId, String.toList_append, List.append_assoc] at hl
    have hcolon := not_mem_toDigits (c := ':') (by decide)
    have hp : ∀ p : Int, ':' ∉ (toString p).toList := fun p => by
      rw [toList_toString_int]
      split <;> simp [hcolon]
    obtain ⟨hc, hp⟩ := append_cons_inj_of_not_mem (by simpa using hl) (hp p) (hp p')
    exact ⟨String.toList_inj.mp hc, toString_int_injective (String.toList_inj.mp hp)⟩
  · rintro ⟨rfl, rfl⟩
    rfl

end Server

/-! ## Windows of conversations without a system message -/

theorem List.rtake_rtake {α : Type} (l : List α) (m n : Nat) :
    (l.rtake m).rtake n = l.rtake (min n m) := by
  simp [List.rtake_eq_reverse_take_reverse, List.take_take]

namespace MessageWindow

theorem trim_eq_rtake (limit : Nat) {ms : List ChatMessage} (h : ∀ m ∈ ms, m.role ≠ .system) :
    trim limit ms = ms.rtake limit := by
  induction ms with
  | nil => simp [trim]
  | cons m rest ih =>
    have hm : m.role ≠ .system := h m List.mem_cons_self
    rw [trim]
    split
    next hfit => rw [List.rtake, Nat.sub_eq_zero_of_le hfit, List.drop_zero]
    next hlong =>
      -- the first message is the oldest that may go
      have hdrop : dropOldest (m :: rest) = some rest := by simp [dropOldest, hm]
      split
      next ms' hd =>
        rw [hdrop, Option.some.injEq] at hd
        subst hd
        rw [ih fun m' hm' => h m' (List.mem_cons_of_mem m hm')]
        simp only [List.rtake, List.length_cons] at hlong ⊢
        rw [show rest.length + 1 - limit = (rest.length - limit) + 1 by omega, List.drop_succ_cons]
      next hd => simp [hdrop] at hd

theorem add_of_ne_system (w : MessageWindow) {m : ChatMessage} (hm : m.role ≠ .system) :
    w.add m = ⟨w.limit, trim w.limit (w.messages ++ [m])⟩ := by
  simp [add, hm]

theorem ofMessages_append (n : Nat) (ms ms' : List ChatMessage) :
    ofMessages n (ms ++ ms') = ms'.foldl add (ofMessages n ms) := by
  simp [ofMessages, List.foldl_append]

/-- **A window of messages none of which is a system message holds the last of them that
fit.** -/
theorem ofMessages_eq_rtake (n : Nat) {ms : List ChatMessage} (h : ∀ m ∈ ms, m.role ≠ .system) :
    ofMessages n ms = ⟨max n 1, ms.rtake (max n 1)⟩ := by
  induction ms using List.reverseRecOn with
  | nil => simp [ofMessages, empty]
  | append_singleton ms m ih =>
    have hms : ∀ m' ∈ ms, m'.role ≠ .system := fun m' hm' => h m' (List.mem_append_left _ hm')
    have hm : m.role ≠ .system := h m (by simp)
    rw [ofMessages_append, List.foldl_cons, List.foldl_nil, ih hms, add_of_ne_system _ hm]
    have hkept : ∀ m' ∈ ms.rtake (max n 1) ++ [m], m'.role ≠ .system := by
      intro m' hm'
      rcases List.mem_append.mp hm' with hm' | hm'
      · exact hms m' (List.mem_of_mem_drop hm')
      · rw [List.mem_singleton.mp hm']
        exact hm
    rw [trim_eq_rtake _ hkept]
    -- the last `k + 1` after one more message are the last `k` before it and the message
    obtain ⟨k, hk⟩ : ∃ k, max n 1 = k + 1 := ⟨max n 1 - 1, by omega⟩
    rw [hk, List.rtake_concat_succ, List.rtake_concat_succ, List.rtake_rtake,
      Nat.min_eq_left (Nat.le_succ k)]

theorem ofMessages_ofMessages (n : Nat) {ms : List ChatMessage}
    (h : ∀ m ∈ ms, m.role ≠ .system) :
    ofMessages n (ofMessages n ms).messages = ofMessages n ms := by
  have hw : ∀ m ∈ (ofMessages n ms).messages, m.role ≠ .system := by
    rw [ofMessages_eq_rtake n h]
    exact fun m hm => h m (List.mem_of_mem_drop hm)
  rw [ofMessages_eq_rtake n hw, ofMessages_eq_rtake n h]
  simp [List.rtake_rtake]

end MessageWindow

/-! ## Runs of project requests -/

namespace Server

/-- A request about a client's conversation about a project. -/
inductive ProjectRequest where
  /-- A question, answered to its end before the next request. -/
  | answer (client question : String) (projectId : Int) (overrides : ModelOverrides)
  /-- Forget the conversation. -/
  | reset (client : String) (projectId : Int)

namespace ProjectRequest

def client : ProjectRequest → String
  | answer c .. => c
  | reset c _ => c

def projectId : ProjectRequest → Int
  | answer _ _ p _ => p
  | reset _ p => p

end ProjectRequest

namespace State

/-- Serve a project request: prepare the answer and stream it to its end, or forget the
conversation. -/
def serveProject (s : State) : ProjectRequest → State
  | .answer c q p overrides =>
    match s.prepareAnswer c q p overrides with
    | (t, .ok prepared) => (t.streamAnswer prepared).1
    | (t, .error _) => t
  | .reset c p => s.resetAnswers c p

def serveProjects (s : State) (rs : List ProjectRequest) : State := rs.foldl serveProject s

/-- The model's answer to a question about a project: there is one when the answer was
prepared and the model gave it. -/
def projectAnswer? (s : State) (c q : String) (p : Int) (overrides : ModelOverrides) :
    Option String :=
  match s.prepareAnswer c q p overrides with
  | (t, .ok prepared) => (t.ask prepared.request).2.2.toOption
  | (_, .error _) => none

/-- The turns of the conversation of `client` about `projectId` once `r` is served in `s`: an
answer the model gives to a question of that conversation adds the trimmed question and the
answer, a reset of it empties it, and every other request leaves it. -/
def nextTurns (client : String) (projectId : Int) (s : State) (r : ProjectRequest)
    (turns : List ChatMessage) : List ChatMessage :=
  if r.client = client ∧ r.projectId = projectId then
    match r with
    | .answer c q p overrides =>
      match s.projectAnswer? c q p overrides with
      | some a => turns ++ [⟨.user, Text.trim q⟩, ⟨.assistant, a⟩]
      | none => turns
    | .reset .. => []
  else turns

/-- The turns of the conversation of `client` about `projectId` once requests are served in
order from `s`. -/
def turnsAfter (client : String) (projectId : Int) :
    State → List ProjectRequest → List ChatMessage → List ChatMessage
  | _, [], turns => turns
  | s, r :: rs, turns =>
    turnsAfter client projectId (s.serveProject r) rs (nextTurns client projectId s r turns)

/-! ### What each step keeps -/

theorem ensureProjectIndex_ok {s t : State} {p : Int} (h : s.ensureProjectIndex p = .ok t) :
    t.db = s.db ∧ t.wiring = s.wiring ∧ t.projectMemory = s.projectMemory ∧ t.libs = s.libs := by
  unfold ensureProjectIndex at h
  simp only [bind, Except.bind, pure, Except.pure] at h
  split at h
  · cases h
    exact ⟨rfl, rfl, rfl, rfl⟩
  · split at h
    · cases h
    · cases h
      exact ⟨rfl, rfl, rfl, rfl⟩

theorem prepareAnswer_keeps (s : State) (c q : String) (p : Int) (overrides : ModelOverrides) :
    (s.prepareAnswer c q p overrides).1.db = s.db ∧
      (s.prepareAnswer c q p overrides).1.wiring = s.wiring ∧
      (s.prepareAnswer c q p overrides).1.projectMemory = s.projectMemory ∧
      (s.prepareAnswer c q p overrides).1.libs = s.libs := by
  by_cases hq : (Text.trim q).isEmpty
  · simp [prepareAnswer, hq]
  cases hp : s.db.projects.find? p with
  | none => simp [prepareAnswer, hq, hp]
  | some project =>
    cases he : s.ensureProjectIndex p with
    | error e => simp [prepareAnswer, hq, hp, he]
    | ok t =>
      -- whether the prompt is made or not, the state is the one with the loaded index
      obtain ⟨hdb, hw, hm, hl⟩ := ensureProjectIndex_ok he
      simp only [prepareAnswer, hq, hp, he, Bool.false_eq_true, if_false]
      split <;> exact ⟨hdb, hw, hm, hl⟩

/-- **A prepared answer** is about the conversation of its client and project and the trimmed
question, and its messages are the project's preset messages, the window of the kept
conversation and the question's prompt. -/
theorem prepareAnswer_ok {s t : State} {c q : String} {p : Int} {overrides : ModelOverrides}
    {prepared : PreparedAnswer} (h : s.prepareAnswer c q p overrides = (t, .ok prepared)) :
    prepared.memoryId = projectMemoryId c p ∧ prepared.question = Text.trim q ∧
      prepared.window =
        MessageWindow.ofMessages s.settings.memoryMaxMessages (s.projectHistory (projectMemoryId c p)) ∧
      ∃ project prompt, s.db.projects.find? p = some project ∧
        prepared.request.messages =
          s.presetMessages project.val ++ prepared.window.messages ++ [⟨.user, prompt⟩] := by
  by_cases hq : (Text.trim q).isEmpty
  · simp [prepareAnswer, hq] at h
  cases hp : s.db.projects.find? p with
  | none => simp [prepareAnswer, hq, hp] at h
  | some project =>
    cases he : s.ensureProjectIndex p with
    | error e => simp [prepareAnswer, hq, hp, he] at h
    | ok s₁ =>
      obtain ⟨hdb, hw, hm, -⟩ := ensureProjectIndex_ok he
      simp only [prepareAnswer, hq, hp, he, Bool.false_eq_true, if_false] at h
      split at h
      · cases h
      · next prompt _ =>
        simp only [Prod.mk.injEq, Except.ok.injEq] at h
        obtain ⟨-, rfl⟩ := h
        have hsettings : s₁.settings = s.settings := by simp [settings, hw]
        have hhistory : s₁.projectHistory = s.projectHistory := by
          funext id
          simp [projectHistory, hm]
        refine ⟨rfl, rfl, by rw [hsettings, hhistory], project, prompt, rfl, ?_⟩
        simp [presetMessages, hdb]

theorem projectHistory_setProjectHistory (s : State) (id id' : String) (ms : List ChatMessage) :
    (s.setProjectHistory id ms).projectHistory id' = if id' = id then ms else s.projectHistory id' := by
  unfold setProjectHistory projectHistory
  split
  · subst id'
    rw [List.find?_append, List.find?_eq_none.mpr (by simp)]
    simp
  · next hne =>
    -- an entry of `id'` is never one of `id`
    have hsame : (s.projectMemory.filter (·.1 != id)).find? (·.1 == id') =
        s.projectMemory.find? (·.1 == id') := by
      rw [List.find?_filter]
      refine List.find?_congr fun e _ => ?_
      by_cases he : e.1 = id' <;> simp [he, hne]
    rw [List.find?_append, hsame]
    cases s.projectMemory.find? (·.1 == id') <;> simp [Ne.symm hne]

theorem projectHistory_resetAnswers (s : State) (c : String) (p : Int) (id : String) :
    (s.resetAnswers c p).projectHistory id =
      if id = projectMemoryId c p then [] else s.projectHistory id := by
  unfold resetAnswers projectHistory
  rw [List.find?_filter]
  split
  · subst id
    rw [List.find?_eq_none.mpr (by simp)]
    rfl
  · next hne =>
    congr 2
    refine List.find?_congr fun e _ => ?_
    by_cases he : e.1 = id <;> simp [he, hne]

@[simp] theorem streamAnswer_wiring (s : State) (prepared : PreparedAnswer) :
    (s.streamAnswer prepared).1.wiring = s.wiring := by
  simp only [streamAnswer, ask]
  split <;> rfl

@[simp] theorem streamAnswer_libs (s : State) (prepared : PreparedAnswer) :
    (s.streamAnswer prepared).1.libs = s.libs := by
  simp only [streamAnswer, ask]
  split <;> rfl

@[simp] theorem serveProject_wiring (s : State) (r : ProjectRequest) :
    (s.serveProject r).wiring = s.wiring := by
  cases r with
  | answer c q p overrides =>
    have hkeep := (prepareAnswer_keeps s c q p overrides).2.1
    rcases hp : s.prepareAnswer c q p overrides with ⟨t, _ | prepared⟩ <;>
      rw [hp] at hkeep <;> simpa [serveProject, hp] using hkeep
  | reset c p => rfl

@[simp] theorem serveProject_libs (s : State) (r : ProjectRequest) :
    (s.serveProject r).libs = s.libs := by
  cases r with
  | answer c q p overrides =>
    have hkeep := (prepareAnswer_keeps s c q p overrides).2.2.2
    rcases hp : s.prepareAnswer c q p overrides with ⟨t, _ | prepared⟩ <;>
      rw [hp] at hkeep <;> simpa [serveProject, hp] using hkeep
  | reset c p => rfl

@[simp] theorem serveProjects_wiring (s : State) (rs : List ProjectRequest) :
    (s.serveProjects rs).wiring = s.wiring := by
  induction rs generalizing s with
  | nil => rfl
  | cons r rs ih => rw [serveProjects, List.foldl_cons, ← serveProjects, ih, serveProject_wiring]

/-! ### A conversation through a run -/

/-- The conversation of `client` about `projectId` is kept in `s` as the window of `turns`, none
of which is a system message. -/
structure Kept (client : String) (projectId : Int) (s : State) (turns : List ChatMessage) :
    Prop where
  noSystem : ∀ m ∈ turns, m.role ≠ .system
  history : s.projectHistory (projectMemoryId client projectId) =
    (MessageWindow.ofMessages s.settings.memoryMaxMessages turns).messages

theorem kept_empty {s : State} (hs : s.projectMemory = []) (client : String) (projectId : Int) :
    Kept client projectId s [] :=
  ⟨by simp, by simp [projectHistory, hs, MessageWindow.ofMessages, MessageWindow.empty]⟩

/-- **What an answer does to the kept conversations.** When the model answers, the window of
the answer's conversation with the trimmed question and the answer added is kept under the
conversation's id; every other conversation, and every conversation when the answer fails on
the way, stays as it was. -/
theorem answer_projectHistory (s : State) (c q : String) (p : Int) (overrides : ModelOverrides)
    (id : String) :
    (s.serveProject (.answer c q p overrides)).projectHistory id =
      match s.projectAnswer? c q p overrides with
      | some a =>
        if id = projectMemoryId c p then
          (((MessageWindow.ofMessages s.settings.memoryMaxMessages
            (s.projectHistory (projectMemoryId c p))).add ⟨.user, Text.trim q⟩).add
              ⟨.assistant, a⟩).messages
        else s.projectHistory id
      | none => s.projectHistory id := by
  obtain ⟨-, -, hm₀, -⟩ := prepareAnswer_keeps s c q p overrides
  have hsame : ∀ t : State, t.projectMemory = s.projectMemory →
      t.projectHistory id = s.projectHistory id := fun t ht => by simp [projectHistory, ht]
  rcases hp : s.prepareAnswer c q p overrides with ⟨t, _ | prepared⟩ <;> rw [hp] at hm₀
  · -- nothing was prepared: the model is not asked
    simp only [serveProject, projectAnswer?, hp]
    exact hsame t hm₀
  · obtain ⟨hid, hq, hwindow, -⟩ := prepareAnswer_ok hp
    rcases hask : t.ask prepared.request with ⟨t', tokens, _ | a⟩
    all_goals
      have hm : t'.projectMemory = s.projectMemory := by
        rw [← hm₀, ← ask_projectMemory t prepared.request, hask]
      simp only [serveProject, projectAnswer?, hp, hask, Except.toOption, streamAnswer]
    · exact hsame t' hm
    · -- the model answered: the new window goes under the answer's conversation
      rw [projectHistory_setProjectHistory, hid, hwindow, hq]
      split
      · rfl
      · exact hsame t' hm

/-- **Frame lemma.** A request about another conversation keeps a conversation as it was. -/
theorem serveProject_history_of_ne (s : State) (r : ProjectRequest) {id : String}
    (hid : id ≠ projectMemoryId r.client r.projectId) :
    (s.serveProject r).projectHistory id = s.projectHistory id := by
  cases r with
  | answer c q p overrides =>
    rw [answer_projectHistory]
    split
    · exact if_neg hid
    · rfl
  | reset c p =>
    rw [serveProject, projectHistory_resetAnswers]
    exact if_neg hid

section step

variable {client : String} {projectId : Int} {s : State} {turns : List ChatMessage}

theorem reset_kept :
    Kept client projectId (s.serveProject (.reset client projectId))
      (nextTurns client projectId s (.reset client projectId) turns) := by
  simp only [serveProject, nextTurns, ProjectRequest.client, ProjectRequest.projectId, and_self,
    if_true]
  refine ⟨by simp, ?_⟩
  rw [projectHistory_resetAnswers, if_pos rfl]
  rfl

/-- An answer the model gives adds the trimmed question and the answer to its own conversation;
an answer that fails on the way leaves it. -/
theorem answer_kept (h : Kept client projectId s turns) (q : String) (overrides : ModelOverrides) :
    Kept client projectId (s.serveProject (.answer client q projectId overrides))
      (nextTurns client projectId s (.answer client q projectId overrides) turns) := by
  simp only [nextTurns, ProjectRequest.client, ProjectRequest.projectId, and_self, if_true]
  split
  next a ha =>
    have hnew : ∀ m ∈ turns ++ [⟨.user, Text.trim q⟩, ⟨.assistant, a⟩], m.role ≠ .system := by
      intro m hm
      rcases List.mem_append.mp hm with hm | hm
      · exact h.noSystem m hm
      · simp only [List.mem_cons, List.not_mem_nil, or_false] at hm
        rcases hm with rfl | rfl <;> simp
    refine ⟨hnew, ?_⟩
    -- the kept window, read once more into a window, is the window of the turns
    rw [answer_projectHistory, ha]
    dsimp only
    rw [if_pos rfl, h.history, MessageWindow.ofMessages_ofMessages _ h.noSystem,
      MessageWindow.ofMessages_append]
    simp [settings]
  next ha =>
    refine ⟨h.noSystem, ?_⟩
    rw [answer_projectHistory, ha, h.history]
    simp [settings]

/-- **Step lemma.** Serving any request keeps each conversation as the window of its turns. -/
theorem serveProject_kept (h : Kept client projectId s turns) (r : ProjectRequest) :
    Kept client projectId (s.serveProject r) (nextTurns client projectId s r turns) := by
  by_cases hsame : r.client = client ∧ r.projectId = projectId
  · obtain ⟨hc, hp⟩ := hsame
    cases r with
    | answer c q p overrides =>
      simp only [ProjectRequest.client, ProjectRequest.projectId] at hc hp
      subst hc hp
      exact answer_kept h q overrides
    | reset c p =>
      simp only [ProjectRequest.client, ProjectRequest.projectId] at hc hp
      subst hc hp
      exact reset_kept
  · -- another conversation: the turns stay, and so does the kept window
    have hid : projectMemoryId client projectId ≠ projectMemoryId r.client r.projectId :=
      fun hid => hsame ((projectMemoryId_inj.mp hid).imp Eq.symm Eq.symm)
    simp only [nextTurns, hsame, if_false]
    refine ⟨h.noSystem, ?_⟩
    rw [serveProject_history_of_ne s r hid, h.history]
    simp [settings]

end step

/-- **Run lemma.** After any run, each conversation is kept as the window of its turns. -/
theorem serveProjects_kept {client : String} {projectId : Int} {s : State}
    {turns : List ChatMessage} (h : Kept client projectId s turns) (rs : List ProjectRequest) :
    Kept client projectId (s.serveProjects rs) (turnsAfter client projectId s rs turns) := by
  induction rs generalizing s turns with
  | nil => exact h
  | cons r rs ih => exact ih (serveProject_kept h r)

/-- **The history of a project answer.** On a server whose memory starts empty, after any run of
project answers and resets: whenever an answer of `client` about `projectId` is prepared, the
history it puts between the project's preset messages and its question is the window of the
turns of that conversation since its last reset whose answer the model gave, each the trimmed
question and the model's text. A request of another client or about another project never
changes that conversation. -/
theorem project_history_since_reset (s : State) (hs : s.projectMemory = [])
    (rs : List ProjectRequest) (client : String) (projectId : Int) :
    (∀ (question : String) (overrides : ModelOverrides) (t : State) (prepared : PreparedAnswer),
      (s.serveProjects rs).prepareAnswer client question projectId overrides = (t, .ok prepared) →
      prepared.window =
          MessageWindow.ofMessages s.settings.memoryMaxMessages (turnsAfter client projectId s rs []) ∧
        ∃ project prompt, (s.serveProjects rs).db.projects.find? projectId = some project ∧
          prepared.request.messages = (s.serveProjects rs).presetMessages project.val ++
            prepared.window.messages ++ [⟨.user, prompt⟩]) ∧
    ∀ (t : State) (r : ProjectRequest), (r.client, r.projectId) ≠ (client, projectId) →
      (t.serveProject r).projectHistory (projectMemoryId client projectId) =
        t.projectHistory (projectMemoryId client projectId) := by
  have hkept := serveProjects_kept (kept_empty hs client projectId) rs
  have hsettings : (s.serveProjects rs).settings = s.settings := by simp [settings]
  refine ⟨fun question overrides t prepared h => ?_, fun t r hr => ?_⟩
  · obtain ⟨-, -, hwindow, hmessages⟩ := prepareAnswer_ok h
    refine ⟨?_, hmessages⟩
    rw [hwindow, hkept.history, hsettings, MessageWindow.ofMessages_ofMessages _ hkept.noSystem]
  · apply serveProject_history_of_ne
    intro hid
    exact hr (Prod.ext_iff.mpr ((projectMemoryId_inj.mp hid).imp Eq.symm Eq.symm))

def oneProjectServer : State where
  wiring := ⟨.model (.keywords [] none false), .model (.ofTokens ["ok"] none),
    .memory, ⟨"m", 5, 0.75, 10⟩, none⟩
  libs := Libraries.builtin .unreachable
  db := { projects := { rows := [⟨1, {}⟩], nextId := 2 } }
  clock := 0
  seed := 0

theorem project_history_two_clients :
    oneProjectServer.projectMemory = [] ∧
      (∀ (question : String) (overrides : ModelOverrides) (t : State) (prepared : PreparedAnswer),
        (oneProjectServer.serveProjects [.answer "a:1" "hi" 2 {}, .reset "a" 1,
            .answer "a" "more" 1 {}]).prepareAnswer "a" question 1 overrides = (t, .ok prepared) →
        prepared.window = MessageWindow.ofMessages oneProjectServer.settings.memoryMaxMessages
            (turnsAfter "a" 1 oneProjectServer [.answer "a:1" "hi" 2 {}, .reset "a" 1,
              .answer "a" "more" 1 {}] []) ∧
          ∃ project prompt, (oneProjectServer.serveProjects [.answer "a:1" "hi" 2 {},
              .reset "a" 1, .answer "a" "more" 1 {}]).db.projects.find? 1 = some project ∧
            prepared.request.messages = (oneProjectServer.serveProjects [.answer "a:1" "hi" 2 {},
                .reset "a" 1, .answer "a" "more" 1 {}]).presetMessages project.val ++
              prepared.window.messages ++ [⟨.user, prompt⟩]) ∧
      ∀ (t : State) (r : ProjectRequest), (r.client, r.projectId) ≠ ("a", 1) →
        (t.serveProject r).projectHistory (projectMemoryId "a" 1) =
          t.projectHistory (projectMemoryId "a" 1) :=
  ⟨rfl, project_history_since_reset oneProjectServer rfl _ "a" 1⟩

end State

end Server

end KnowledgeDesk
