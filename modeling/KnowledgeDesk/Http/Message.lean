import KnowledgeDesk.Json.Value
import KnowledgeDesk.Chat.Pipeline
import KnowledgeDesk.Text.Blank

/-!
# Requests and responses

A request as the server sees it: its method, its path and query still percent-encoded, its
headers (names in lower case, in the order sent) and its body. A response is a status, the two
headers a client of this server looks at, and a body: nothing, a JSON value, text, raw bytes,
or a stream of server-sent events.

A header value is *readable* when every character is visible ASCII or a tab; the server treats
an unreadable value like a missing one.
-/

namespace KnowledgeDesk.Http

/-- A request to the server. -/
structure Request where
  method : String
  /-- The path, still percent-encoded. -/
  path : String
  /-- The query, still percent-encoded, when the target has one. -/
  query : Option String := none
  /-- Header names in lower case with their values, in the order sent. -/
  headers : List (String × String) := []
  body : ByteArray := ByteArray.empty

/-- Whether a header value can be read as text: visible ASCII and tabs only. -/
def isReadable (value : String) : Bool :=
  value.toList.all fun c => c = '\t' || (' ' ≤ c && c ≤ '~')

/-- The trimmed text of a header, when it is readable and not blank. -/
def headerText (value : String) : Option String :=
  if isReadable value then
    let t := Text.trim value
    if t.isEmpty then none else some t
  else none

namespace Request

/-- The first value of a header. -/
def header? (r : Request) (name : String) : Option String :=
  (r.headers.find? (·.1 == name)).map (·.2)

/-- The trimmed text of a header, when it is there, readable and not blank. -/
def text? (r : Request) (name : String) : Option String := (r.header? name).bind headerText

end Request

/-- The body of a response. -/
inductive Body where
  | empty
  | json (value : Json)
  | text (s : String)
  | bytes (b : ByteArray)
  | events (es : List StreamEvent)

/-- A response of the server. -/
structure Response where
  status : Nat
  contentType : Option String := none
  disposition : Option String := none
  body : Body := .empty

namespace Response

/-- A JSON response. -/
def json (status : Nat) (value : Json) : Response :=
  { status, contentType := some "application/json", body := .json value }

/-- A plain text response. -/
def plain (status : Nat) (text : String) : Response :=
  { status, contentType := some "text/plain; charset=utf-8", body := .text text }

/-- An empty response. -/
def empty (status : Nat) : Response := { status }

/-- An error response: `{"status":"error","message":...}`. -/
def error (status : Nat) (message : String) : Response :=
  json status (.obj [("status", .str "error"), ("message", .str message)])

/-- A stream of server-sent events. -/
def events (es : List StreamEvent) : Response :=
  { status := 200, contentType := some "text/event-stream", body := .events es }

end Response

end KnowledgeDesk.Http
