import KnowledgeDesk.Proofs.ProjectMemory

/-!
# The task behind a project answer

A project answer is served in two halves. The request prepares the answer and hands it to a task
of its own; the response's body is the stream of tokens that task passes on. The task asks the
model, passes each token on, then drops its end of the stream, which ends the body, and only
after that, when the model answered, keeps the question and the answer in the conversation's
memory. The client reads the body and sends its next requests when it likes, and the server
serves other requests meanwhile: the parties take their steps in any order.

Here the parties' steps are one step function over an `AnswerWorld` (the server, where the task
is, the tokens in flight and what the client has read), and a run is a list of steps.

* `run_task_alone`: the task run alone, then read to its end, does what `State.streamAnswer`
  does, so the steps refine the sequential model;
* `answer_kept_after_close`: in every run the task writes the conversation right after it has
  closed the body, and from then on the conversation holds the window with the question and the
  answer until a request about the same conversation is served;
* `body_ends_before_memory`: so a client can hold the whole body of an answer the model gave while
  a question it sends at once still finds the conversation without it, and a model that fails
  after its tokens gives a whole body and keeps nothing.
-/

namespace KnowledgeDesk.Server

/-- The conversation a prepared answer keeps when the model answers `a`: its window with the
question and the answer added. -/
def PreparedAnswer.keptWindow (p : PreparedAnswer) (a : String) : MessageWindow :=
  (p.window.add ⟨.user, p.question⟩).add ⟨.assistant, a⟩

/-- Where the task of a project answer is. -/
inductive TaskPhase where
  /-- The model has not been asked. -/
  | asking
  /-- Tokens still to pass on, and how the model ended. -/
  | streaming (pending : List String) (result : Except String String)
  /-- The body's stream is closed; the conversation is not written yet. -/
  | closed (result : Except String String)
  /-- The task has ended. -/
  | finished

/-- The phase holds the model's reply `r` wherever it holds one. -/
def TaskPhase.Carries (r : Except String String) : TaskPhase → Prop
  | .streaming _ r' | .closed r' => r' = r
  | .asking | .finished => True

@[simp] theorem TaskPhase.carries_streaming {ts : List String} {r r' : Except String String} :
    (TaskPhase.streaming ts r').Carries r ↔ r' = r := Iff.rfl

@[simp] theorem TaskPhase.carries_closed {r r' : Except String String} :
    (TaskPhase.closed r').Carries r ↔ r' = r := Iff.rfl

def TaskPhase.streamOpen : TaskPhase → Bool
  | .asking | .streaming .. => true
  | .closed _ | .finished => false

/-- The server, the task of one answer, and its client. -/
structure AnswerWorld where
  server : State
  phase : TaskPhase
  /-- Tokens passed on and not read yet, oldest first. -/
  inFlight : List String
  /-- What the client has read of the body. -/
  received : List String

/-- A step of one of the parties. -/
inductive AnswerAction where
  /-- The task asks the model. -/
  | ask
  /-- The task passes on its next token. -/
  | send
  /-- The task drops its end of the stream: the body ends. -/
  | close
  /-- The task ends, keeping the conversation when the model answered. -/
  | finish
  /-- The client reads the next token. -/
  | read
  /-- The server serves a whole request of some client, such as the client's next question. -/
  | serve (r : ProjectRequest)

/-- The task's steps with nothing in between, for a model that sends `n` tokens, then the client's
reads of the whole body. -/
def AnswerAction.alone (n : Nat) : List AnswerAction :=
  .ask :: List.replicate n .send ++ .close :: .finish :: List.replicate n .read

namespace AnswerWorld

def spawn (s : State) : AnswerWorld := ⟨s, .asking, [], []⟩

def step (p : PreparedAnswer) (w : AnswerWorld) : AnswerAction → Option AnswerWorld
  | .ask =>
    match w.phase with
    | .asking =>
      let (s, tokens, result) := w.server.ask p.request
      some { w with server := s, phase := .streaming tokens result }
    | _ => none
  | .send =>
    match w.phase with
    | .streaming (t :: rest) result =>
      some { w with phase := .streaming rest result, inFlight := w.inFlight ++ [t] }
    | _ => none
  | .close =>
    match w.phase with
    | .streaming [] result => some { w with phase := .closed result }
    | _ => none
  | .finish =>
    match w.phase with
    | .closed (.ok a) =>
      some { w with server := w.server.setProjectHistory p.memoryId (p.keptWindow a).messages,
                    phase := .finished }
    | .closed (.error _) => some { w with phase := .finished }
    | _ => none
  | .read =>
    match w.inFlight with
    | t :: rest => some { w with inFlight := rest, received := w.received ++ [t] }
    | [] => none
  | .serve r => some { w with server := w.server.serveProject r }

def run (p : PreparedAnswer) : AnswerWorld → List AnswerAction → Option AnswerWorld
  | w, [] => some w
  | w, a :: as => (w.step p a).bind fun w' => run p w' as

@[simp] theorem run_nil (p : PreparedAnswer) (w : AnswerWorld) : run p w [] = some w := rfl

theorem run_cons (p : PreparedAnswer) (w : AnswerWorld) (a : AnswerAction)
    (as : List AnswerAction) : run p w (a :: as) = (w.step p a).bind fun w' => run p w' as := rfl

theorem run_append (p : PreparedAnswer) (w : AnswerWorld) (as bs : List AnswerAction) :
    run p w (as ++ bs) = (run p w as).bind fun w' => run p w' bs := by
  induction as generalizing w with
  | nil => rfl
  | cons a as ih =>
    rw [List.cons_append, run_cons, run_cons]
    cases w.step p a with
    | none => rfl
    | some w' => exact ih w'

end AnswerWorld

/-! ## The model's answer depends on the wiring and the libraries alone -/

namespace State

/-- What the model sends and answers depends on the server's wiring and libraries, not on the
rest of its state. -/
theorem ask_reply_of_setup {s t : State} (hw : s.wiring = t.wiring) (hl : s.libs = t.libs)
    (req : ChatRequest) : (s.ask req).2 = (t.ask req).2 := by
  simp only [ask, reply, hw, hl]

@[simp] theorem setProjectHistory_wiring (s : State) (id : String) (ms : List ChatMessage) :
    (s.setProjectHistory id ms).wiring = s.wiring := rfl

@[simp] theorem setProjectHistory_libs (s : State) (id : String) (ms : List ChatMessage) :
    (s.setProjectHistory id ms).libs = s.libs := rfl

end State

/-! ## What one step does -/

namespace AnswerWorld

variable {p : PreparedAnswer}

/-- **What a step can do**, for each party: the task moves through its phases, the client reads
the oldest token in flight, and the server serves a request. -/
theorem step_cases {w w' : AnswerWorld} {a : AnswerAction} (h : w.step p a = some w') :
    (a = .ask ∧ w.phase = .asking ∧
      w' = { w with server := (w.server.ask p.request).1,
                    phase := .streaming (w.server.ask p.request).2.1 (w.server.ask p.request).2.2 }) ∨
    (a = .send ∧ ∃ t rest r, w.phase = .streaming (t :: rest) r ∧
      w' = { w with phase := .streaming rest r, inFlight := w.inFlight ++ [t] }) ∨
    (a = .close ∧ ∃ r, w.phase = .streaming [] r ∧ w' = { w with phase := .closed r }) ∨
    (a = .finish ∧ ∃ ans, w.phase = .closed (.ok ans) ∧
      w' = { w with server := w.server.setProjectHistory p.memoryId (p.keptWindow ans).messages,
                    phase := .finished }) ∨
    (a = .finish ∧ ∃ e, w.phase = .closed (.error e) ∧ w' = { w with phase := .finished }) ∨
    (a = .read ∧ ∃ t rest, w.inFlight = t :: rest ∧
      w' = { w with inFlight := rest, received := w.received ++ [t] }) ∨
    (∃ r, a = .serve r ∧ w' = { w with server := w.server.serveProject r }) := by
  cases a with
  | ask =>
    simp only [step] at h
    split at h
    · next hphase =>
      cases h
      exact .inl ⟨rfl, hphase, rfl⟩
    · cases h
  | send =>
    simp only [step] at h
    split at h
    · next t rest r hphase =>
      cases h
      exact .inr (.inl ⟨rfl, t, rest, r, hphase, rfl⟩)
    · cases h
  | close =>
    simp only [step] at h
    split at h
    · next r hphase =>
      cases h
      exact .inr (.inr (.inl ⟨rfl, r, hphase, rfl⟩))
    · cases h
  | finish =>
    simp only [step] at h
    split at h
    · next ans hphase =>
      cases h
      exact .inr (.inr (.inr (.inl ⟨rfl, ans, hphase, rfl⟩)))
    · next e hphase =>
      cases h
      exact .inr (.inr (.inr (.inr (.inl ⟨rfl, e, hphase, rfl⟩))))
    · cases h
  | read =>
    simp only [step] at h
    split at h
    · next t rest hflight =>
      cases h
      exact .inr (.inr (.inr (.inr (.inr (.inl ⟨rfl, t, rest, hflight, rfl⟩)))))
    · cases h
  | serve r =>
    cases h
    exact .inr (.inr (.inr (.inr (.inr (.inr ⟨r, rfl, rfl⟩)))))

theorem step_setup {w w' : AnswerWorld} {a : AnswerAction} (h : w.step p a = some w') :
    w'.server.wiring = w.server.wiring ∧ w'.server.libs = w.server.libs := by
  rcases step_cases h with ⟨-, -, rfl⟩ | ⟨-, -, -, -, -, rfl⟩ | ⟨-, -, -, rfl⟩ | ⟨-, -, -, rfl⟩ |
    ⟨-, -, -, rfl⟩ | ⟨-, -, -, -, rfl⟩ | ⟨r, -, rfl⟩
  all_goals simp

theorem run_invariant (I : AnswerWorld → Prop) {as : List AnswerAction} {w w' : AnswerWorld}
    (hstep : ∀ a ∈ as, ∀ v v', I v → v.step p a = some v' → I v') (hw : I w)
    (h : w.run p as = some w') : I w' := by
  induction as generalizing w with
  | nil =>
    cases h
    exact hw
  | cons a as ih =>
    rw [run_cons] at h
    obtain ⟨w₁, h₁, hrest⟩ := Option.bind_eq_some_iff.mp h
    exact ih (fun b hb => hstep b (List.mem_cons_of_mem a hb)) (hstep a List.mem_cons_self w w₁ hw h₁)
      hrest

/-! ## The reply the task carries -/

/-- What a run from `s` keeps: the server's wiring and libraries, and with them the reply the
model gives `s`, which the task holds wherever it holds one. -/
structure CarriesReply (p : PreparedAnswer) (s : State) (w : AnswerWorld) : Prop where
  wiring : w.server.wiring = s.wiring
  libs : w.server.libs = s.libs
  reply : w.phase.Carries (s.ask p.request).2.2

theorem step_carries {s : State} {w w' : AnswerWorld} {a : AnswerAction}
    (hw : CarriesReply p s w) (h : w.step p a = some w') : CarriesReply p s w' := by
  obtain ⟨hwiring, hlibs⟩ := step_setup h
  refine ⟨hwiring.trans hw.wiring, hlibs.trans hw.libs, ?_⟩
  have hc := hw.reply
  rcases step_cases h with ⟨-, -, rfl⟩ | ⟨-, t, rest, r, hold, rfl⟩ | ⟨-, r, hold, rfl⟩ |
    ⟨-, _, -, rfl⟩ | ⟨-, _, -, rfl⟩ | ⟨-, _, _, -, rfl⟩ | ⟨r, -, rfl⟩
  · -- the model is asked by a server set up as the one the task started from
    exact congrArg Prod.snd (State.ask_reply_of_setup hw.wiring hw.libs p.request)
  · rw [hold] at hc
    exact hc
  · rw [hold] at hc
    exact hc
  · trivial
  · trivial
  · exact hc
  · exact hc

/-- Along a run from the start, the task holds the reply the model gives the server it started
from. -/
theorem run_carries {s : State} {as : List AnswerAction} {w : AnswerWorld}
    (h : (spawn s).run p as = some w) : CarriesReply p s w := by
  have hstart : CarriesReply p s (spawn s) := ⟨rfl, rfl, trivial⟩
  exact run_invariant (CarriesReply p s) (fun _ _ _ _ hv hstep => step_carries hv hstep) hstart h

/-! ## After the task has ended -/

/-- Once the task has ended, a step is the client's or the server's, and it keeps the
conversation unless it serves a request about it. -/
theorem step_of_finished {w w' : AnswerWorld} {a : AnswerAction} (hphase : w.phase = .finished)
    (hquiet : ∀ r, a = .serve r → projectMemoryId r.client r.projectId ≠ p.memoryId)
    (h : w.step p a = some w') :
    w'.phase = .finished ∧
      w'.server.projectHistory p.memoryId = w.server.projectHistory p.memoryId := by
  rcases step_cases h with ⟨-, hold, -⟩ | ⟨-, _, _, _, hold, -⟩ | ⟨-, _, hold, -⟩ |
    ⟨-, _, hold, -⟩ | ⟨-, _, hold, -⟩ | ⟨-, _, _, -, rfl⟩ | ⟨r, rfl, rfl⟩
  -- the task's own steps need a phase it has left
  all_goals try (rw [hphase] at hold; cases hold)
  · exact ⟨hphase, rfl⟩
  · exact ⟨hphase, State.serveProject_history_of_ne _ r (Ne.symm (hquiet r rfl))⟩

theorem run_of_finished {w w' : AnswerWorld} {as : List AnswerAction}
    (hphase : w.phase = .finished)
    (hquiet : ∀ r, .serve r ∈ as → projectMemoryId r.client r.projectId ≠ p.memoryId)
    (h : w.run p as = some w') :
    w'.server.projectHistory p.memoryId = w.server.projectHistory p.memoryId := by
  have hstep : ∀ a ∈ as, ∀ v v' : AnswerWorld,
      v.phase = .finished ∧ v.server.projectHistory p.memoryId = w.server.projectHistory p.memoryId →
      v.step p a = some v' →
      v'.phase = .finished ∧ v'.server.projectHistory p.memoryId = w.server.projectHistory p.memoryId := by
    intro a ha v v' ⟨hfinished, hkept⟩ hv
    obtain ⟨hfinished', hkept'⟩ := step_of_finished hfinished (fun r hr => hquiet r (hr ▸ ha)) hv
    exact ⟨hfinished', hkept'.trans hkept⟩
  exact (run_invariant _ hstep ⟨hphase, rfl⟩ h).2

/-! ## The task alone -/

theorem run_sends (srv : State) (ts : List String) (r : Except String String)
    (flight rcv : List String) :
    (⟨srv, .streaming ts r, flight, rcv⟩ : AnswerWorld).run p (List.replicate ts.length .send) =
      some ⟨srv, .streaming [] r, flight ++ ts, rcv⟩ := by
  induction ts generalizing flight with
  | nil => simp
  | cons t ts ih =>
    rw [List.length_cons, List.replicate_succ, run_cons]
    exact (ih (flight ++ [t])).trans (by simp)

theorem run_reads (srv : State) (phase : TaskPhase) (ts rcv : List String) :
    (⟨srv, phase, ts, rcv⟩ : AnswerWorld).run p (List.replicate ts.length .read) =
      some ⟨srv, phase, [], rcv ++ ts⟩ := by
  induction ts generalizing rcv with
  | nil => simp
  | cons t ts ih =>
    rw [List.length_cons, List.replicate_succ, run_cons]
    exact (ih (rcv ++ [t])).trans (by simp)

/-- **The steps refine the sequential answer.** When the task takes all its steps with nothing in
between, and the client then reads the body to its end, the server ends as `State.streamAnswer`
leaves it and the client holds the body it returns. -/
theorem run_task_alone (s : State) (P : PreparedAnswer) :
    ∃ w, (spawn s).run P (AnswerAction.alone (s.ask P.request).2.1.length) = some w ∧
      w.phase = .finished ∧ w.inFlight = [] ∧
      w.server = (s.streamAnswer P).1 ∧ String.join w.received = (s.streamAnswer P).2 := by
  unfold State.streamAnswer
  rcases hask : s.ask P.request with ⟨s', ts, r⟩
  -- the task asks the model, passes the tokens on and closes the body
  have hclosed : (spawn s).run P (.ask :: List.replicate ts.length .send ++ [.close]) =
      some ⟨s', .closed r, ts, []⟩ := by
    have hasked : (spawn s).step P .ask = some ⟨s', .streaming ts r, [], []⟩ := by
      simp only [step, spawn, hask]
    rw [List.cons_append, run_cons, hasked, Option.bind_some, run_append, run_sends,
      Option.bind_some]
    rfl
  have hsplit : AnswerAction.alone ts.length =
      (.ask :: List.replicate ts.length .send ++ [.close]) ++
        .finish :: List.replicate ts.length .read := by
    simp [AnswerAction.alone]
  rw [hsplit, run_append, hclosed, Option.bind_some, run_cons]
  cases r with
  | ok a =>
    exact ⟨_, run_reads _ _ ts [], rfl, rfl, rfl, rfl⟩
  | error e =>
    exact ⟨_, run_reads _ _ ts [], rfl, rfl, rfl, rfl⟩

/-! ## When the conversation is kept -/

/-- **The conversation is kept once the task has ended, not before.** Let the model answer `a`
to the prepared question. In every run in which the task takes its last step, whatever the client
and the server do meanwhile: before that step the task has closed the body with the answer `a`;
the step keeps the window with the question and the answer as the conversation; and from then on,
as long as no request about the conversation is served, the conversation stays so, and a question
about it prepares its answer from that window. -/
theorem answer_kept_after_close (s : State) (P : PreparedAnswer) (a : String)
    (hanswer : (s.ask P.request).2.2 = .ok a) (pre post : List AnswerAction) (w : AnswerWorld)
    (hrun : (spawn s).run P (pre ++ .finish :: post) = some w)
    (hquiet : ∀ r, .serve r ∈ post → projectMemoryId r.client r.projectId ≠ P.memoryId) :
    (∃ wc, (spawn s).run P pre = some wc ∧ wc.phase = .closed (.ok a)) ∧
      w.server.projectHistory P.memoryId = (P.keptWindow a).messages ∧
      ∀ c q pid overrides t prepared, projectMemoryId c pid = P.memoryId →
        w.server.prepareAnswer c q pid overrides = (t, .ok prepared) →
        prepared.window =
          MessageWindow.ofMessages w.server.settings.memoryMaxMessages (P.keptWindow a).messages := by
  rw [run_append] at hrun
  obtain ⟨wc, hpre, hfinish⟩ := Option.bind_eq_some_iff.mp hrun
  rw [run_cons] at hfinish
  obtain ⟨wf, hstep, hpost⟩ := Option.bind_eq_some_iff.mp hfinish
  -- the task holds the model's answer when it takes its last step
  have hcarries := (run_carries hpre).reply
  rw [hanswer] at hcarries
  have hclosed : wc.phase = .closed (.ok a) ∧
      wf = { wc with server := wc.server.setProjectHistory P.memoryId (P.keptWindow a).messages,
                     phase := .finished } := by
    rcases step_cases hstep with ⟨h, -⟩ | ⟨h, -⟩ | ⟨h, -⟩ | ⟨-, ans, hphase, hwf⟩ |
      ⟨-, e, hphase, -⟩ | ⟨h, -⟩ | ⟨r, h, -⟩
    case inr.inr.inr.inl =>
      rw [hphase, TaskPhase.carries_closed, Except.ok.injEq] at hcarries
      subst hcarries
      exact ⟨hphase, hwf⟩
    case inr.inr.inr.inr.inl =>
      rw [hphase, TaskPhase.carries_closed] at hcarries
      cases hcarries
    all_goals cases h
  obtain ⟨hphase, rfl⟩ := hclosed
  have hkept : w.server.projectHistory P.memoryId = (P.keptWindow a).messages := by
    rw [run_of_finished rfl hquiet hpost, State.projectHistory_setProjectHistory, if_pos rfl]
  refine ⟨⟨wc, hpre, hphase⟩, hkept, ?_⟩
  intro c q pid overrides t prepared hid hprepared
  obtain ⟨-, -, hwindow, -⟩ := State.prepareAnswer_ok hprepared
  rw [hwindow, hid, hkept]

def tokenServer (failure : Option String) : State where
  wiring := ⟨.model (.keywords [] none false), .model (.ofTokens ["ok"] failure),
    .memory, ⟨"m", 5, 0.75, 10⟩, none⟩
  libs := Libraries.builtin .unreachable
  clock := 0
  seed := 0

def meaningAnswer : PreparedAnswer where
  memoryId := projectMemoryId "tab-1" 1
  question := "meaning"
  window := MessageWindow.empty 5
  request := ⟨ModelParams.new "m", [⟨.user, "meaning"⟩], none⟩

def answeredServer : State :=
  ({ tokenServer none with modelCalls := [meaningAnswer.request] }).setProjectHistory
    meaningAnswer.memoryId (meaningAnswer.keptWindow "ok").messages

theorem answer_kept_for_meaning :
    ((tokenServer none).ask meaningAnswer.request).2.2 = .ok "ok" ∧
      (spawn (tokenServer none)).run meaningAnswer ([.ask, .send, .close] ++ .finish :: [.read]) =
        some ⟨answeredServer, .finished, [], ["ok"]⟩ ∧
      (∀ r, .serve r ∈ [AnswerAction.read] →
        projectMemoryId r.client r.projectId ≠ meaningAnswer.memoryId) ∧
      ((∃ wc, (spawn (tokenServer none)).run meaningAnswer [.ask, .send, .close] = some wc ∧
          wc.phase = .closed (.ok "ok")) ∧
        answeredServer.projectHistory meaningAnswer.memoryId =
          (meaningAnswer.keptWindow "ok").messages ∧
        ∀ c q pid overrides t prepared, projectMemoryId c pid = meaningAnswer.memoryId →
          answeredServer.prepareAnswer c q pid overrides = (t, .ok prepared) →
          prepared.window = MessageWindow.ofMessages answeredServer.settings.memoryMaxMessages
            (meaningAnswer.keptWindow "ok").messages) := by
  have hanswer : ((tokenServer none).ask meaningAnswer.request).2.2 = .ok "ok" := rfl
  have hrun : (spawn (tokenServer none)).run meaningAnswer ([.ask, .send, .close] ++ .finish :: [.read]) =
      some ⟨answeredServer, .finished, [], ["ok"]⟩ := rfl
  have hquiet : ∀ r, .serve r ∈ [AnswerAction.read] →
      projectMemoryId r.client r.projectId ≠ meaningAnswer.memoryId := by
    simp
  exact ⟨hanswer, hrun, hquiet,
    answer_kept_after_close _ meaningAnswer "ok" hanswer _ _ _ hrun hquiet⟩

/-- **The body can end before the conversation is kept.** When the task has closed the body and
the client has read it to its end, the model's answer `ok` need not be kept yet: a question the
client sends about the same conversation at once prepares its answer from an empty window. And a
model that fails after its tokens gives the client the same whole body, and the task keeps
nothing at all. -/
theorem body_ends_before_memory :
    (∃ w, (spawn (tokenServer none)).run meaningAnswer [.ask, .send, .close, .read] = some w ∧
      ((tokenServer none).ask meaningAnswer.request).2.2 = .ok "ok" ∧
      w.phase.streamOpen = false ∧ w.inFlight = [] ∧ String.join w.received = "ok" ∧
      w.server.projectHistory meaningAnswer.memoryId = [] ∧
      ∀ q overrides t prepared, w.server.prepareAnswer "tab-1" q 1 overrides = (t, .ok prepared) →
        prepared.window.messages = []) ∧
    (∃ w, (spawn (tokenServer (some "boom"))).run meaningAnswer
        [.ask, .send, .close, .finish, .read] = some w ∧
      ((tokenServer (some "boom")).ask meaningAnswer.request).2.2 = .error "boom" ∧
      w.phase = .finished ∧ w.inFlight = [] ∧ String.join w.received = "ok" ∧
      w.server.projectHistory meaningAnswer.memoryId = []) := by
  refine ⟨⟨_, rfl, rfl, rfl, rfl, rfl, rfl, ?_⟩, ⟨_, rfl, rfl, rfl, rfl, rfl, rfl⟩⟩
  intro q overrides t prepared hprepared
  obtain ⟨-, -, hwindow, -⟩ := State.prepareAnswer_ok hprepared
  rw [hwindow]
  rfl

end AnswerWorld

end KnowledgeDesk.Server
