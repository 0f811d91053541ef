import KnowledgeDesk.Text.Blank

/-!
# Chat messages and the message window

A chat message has a role and a text. A `MessageWindow` keeps the latest messages of a
conversation: at most one system message, always first, and at most `limit` messages in all
(the limit is at least one). When the window overflows, the oldest message that is not the system
message goes; a window holding only its system message keeps it.
-/

namespace KnowledgeDesk

/-- Who speaks a message. -/
inductive Role where
  | system
  | user
  | assistant
  deriving Repr, DecidableEq, Inhabited

namespace Role

def name : Role → String
  | .system => "system"
  | .user => "user"
  | .assistant => "assistant"

/-- The role a name gives, ignoring ASCII case; `ai` is the assistant. -/
def ofText? (s : String) : Option Role :=
  match String.ofList (s.toList.map Char.toLower) with
  | "system" => some .system
  | "user" => some .user
  | "assistant" | "ai" => some .assistant
  | _ => none

def ofName? : String → Option Role
  | "system" => some .system
  | "user" => some .user
  | "assistant" => some .assistant
  | _ => none

def unknownMessage : String := "Unknown chat role"

end Role

/-- A message of a conversation. -/
structure ChatMessage where
  role : Role
  content : String
  deriving Repr, DecidableEq, Inhabited

/-- The latest messages of a conversation. -/
structure MessageWindow where
  limit : Nat
  messages : List ChatMessage
  deriving Repr, DecidableEq

namespace MessageWindow

def empty (limit : Nat) : MessageWindow := ⟨max limit 1, []⟩

/-- Remove the first message that is not a system message, if there is one. -/
def dropOldest : List ChatMessage → Option (List ChatMessage)
  | [] => none
  | m :: rest =>
    if m.role = .system then (dropOldest rest).map (m :: ·) else some rest

theorem dropOldest_length (ms ms' : List ChatMessage) (h : dropOldest ms = some ms') :
    ms'.length + 1 = ms.length := by
  induction ms generalizing ms' with
  | nil => simp [dropOldest] at h
  | cons m rest ih =>
    simp only [dropOldest] at h
    split at h
    · cases hr : dropOldest rest with
      | none => simp [hr] at h
      | some r =>
        simp only [hr, Option.map_some, Option.some.injEq] at h
        subst h
        have := ih r hr
        simp; omega
    · simp only [Option.some.injEq] at h
      subst h
      simp

/-- Drop oldest messages while there are more than `limit` and one can go. -/
def trim (limit : Nat) (ms : List ChatMessage) : List ChatMessage :=
  if ms.length ≤ limit then ms
  else match h : dropOldest ms with
    | some ms' =>
      have : ms'.length < ms.length := by
        have := dropOldest_length ms ms' h
        omega
      trim limit ms'
    | none => ms
termination_by ms.length

/-- The messages without their first system message. -/
def withoutSystem : List ChatMessage → List ChatMessage
  | [] => []
  | m :: rest => if m.role = .system then rest else m :: withoutSystem rest

/-- Add a message. A system message goes first, replacing the one there was (a message equal to
it changes nothing); any other message goes last. Then the oldest messages go until the window
fits. -/
def add (w : MessageWindow) (m : ChatMessage) : MessageWindow :=
  if m.role = .system then
    match w.messages.find? (·.role = .system) with
    | some old => if old = m then w else ⟨w.limit, trim w.limit (m :: withoutSystem w.messages)⟩
    | none => ⟨w.limit, trim w.limit (m :: w.messages)⟩
  else ⟨w.limit, trim w.limit (w.messages ++ [m])⟩

def ofMessages (limit : Nat) (ms : List ChatMessage) : MessageWindow :=
  ms.foldl add (empty limit)

end MessageWindow

end KnowledgeDesk
