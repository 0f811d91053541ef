import KnowledgeDesk.Json.Value

/-!
# Chat job pipelines

A chat job reports its progress as numbered steps. Each change to a known step sends the state
of every step as one `pipeline` event: a JSON object keyed by step number in numeric order,
each step with its status, its message (or `null`) and the container that shows it, written by
the JSON library's printer. A change to an unknown step does nothing and sends nothing. Closing
sends the message `CLOSE`.
-/

namespace KnowledgeDesk

/-- How far a step got. -/
inductive StepStatus where
  | pending
  | completed
  | failed
  deriving Repr, DecidableEq

def StepStatus.name : StepStatus → String
  | .pending => "pending"
  | .completed => "completed"
  | .failed => "failed"

/-- A step of a job. -/
structure Step where
  status : StepStatus
  message : Option String
  container : String
  deriving Repr, DecidableEq

/-- An event sent to whoever follows a job. -/
structure StreamEvent where
  name : String
  data : String
  deriving Repr, DecidableEq

def pipelineEvent : String := "pipeline"
def messageEvent : String := "message"
def closeMessage : String := "CLOSE"
def chatContainer : String := "chat"

/-- The steps of a job, by number. -/
structure Pipeline where
  steps : List (Int × Step) := []
  deriving Repr

namespace Pipeline

/-- Put a step under its number, replacing one there was, keeping numbers in order. -/
def insertStep (id : Int) (s : Step) : List (Int × Step) → List (Int × Step)
  | [] => [(id, s)]
  | (k, t) :: rest =>
    if id < k then (id, s) :: (k, t) :: rest
    else if id = k then (id, s) :: rest
    else (k, t) :: insertStep id s rest

def stepJson (s : Step) : Json :=
  .obj [("status", .str s.status.name),
        ("message", match s.message with | some m => .str m | none => .null),
        ("container", .str s.container)]

section Events

variable (print : Json → String)

def stepsText (p : Pipeline) : String :=
  print (.obj (p.steps.map fun (k, s) => (toString k, stepJson s)))

def stepsEvent (p : Pipeline) : StreamEvent := ⟨pipelineEvent, p.stepsText print⟩

/-- Start a step: pending, no message. -/
def initStep (p : Pipeline) (id : Int) (container : String) : Pipeline × List StreamEvent :=
  let p' : Pipeline := ⟨insertStep id ⟨.pending, none, container⟩ p.steps⟩
  (p', [p'.stepsEvent print])

/-- Change a known step; an unknown one changes nothing. -/
def change (p : Pipeline) (id : Int) (f : Step → Step) : Pipeline × List StreamEvent :=
  match p.steps.find? (·.1 = id) with
  | some (_, s) =>
    let p' : Pipeline := ⟨insertStep id (f s) p.steps⟩
    (p', [p'.stepsEvent print])
  | none => (p, [])

def updateStep (p : Pipeline) (id : Int) (message : String) : Pipeline × List StreamEvent :=
  p.change print id fun s => { s with message := some message }

def completeStep (p : Pipeline) (id : Int) : Pipeline × List StreamEvent :=
  p.change print id fun s => { s with status := .completed }

def failStep (p : Pipeline) (id : Int) (message : String) : Pipeline × List StreamEvent :=
  p.change print id fun s => { s with status := .failed, message := some message }

end Events

def closeEvents : List StreamEvent := [⟨messageEvent, closeMessage⟩]

end Pipeline

/-- A call on the steps of a job. -/
inductive StepOp where
  | init (id : Int) (container : String)
  | update (id : Int) (message : String)
  | complete (id : Int)
  | fail (id : Int) (message : String)
  deriving Repr, DecidableEq

namespace Pipeline

variable (print : Json → String)

/-- Make one call: the steps after it and the events it sends. -/
def apply (p : Pipeline) : StepOp → Pipeline × List StreamEvent
  | .init id container => p.initStep print id container
  | .update id message => p.updateStep print id message
  | .complete id => p.completeStep print id
  | .fail id message => p.failStep print id message

/-- Make calls in order: the steps after them and the events of each call. -/
def run (p : Pipeline) : List StepOp → Pipeline × List (List StreamEvent)
  | [] => (p, [])
  | op :: ops =>
    let (p, sent) := p.apply print op
    let (p, rest) := p.run ops
    (p, sent :: rest)

/-- The events of a job's calls from no steps, each call's in turn, then the events of closing
when the job is closed. Closing takes the job's channel, so nothing follows them. -/
def session (ops : List StepOp) (closed : Bool) : List (List StreamEvent) :=
  (run print {} ops).2 ++ if closed then [closeEvents] else []

end Pipeline

end KnowledgeDesk
