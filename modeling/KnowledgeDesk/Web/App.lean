import KnowledgeDesk.Web.Admin

/-!
# The server's interface

`handle` answers one request and gives the server's next state. The route comes first: an
unknown path is not found (an empty 404). The administration then checks its token, when one is
set (`401 Invalid admin token`); a method the route does not serve is refused (an empty 405);
the handler runs last. A `HEAD` request runs its `GET` handler and answers without a body.

The public routes:

* `GET /bots`: every bot;
* `POST /bots/chat`: start a bot chat, answering the id of its event stream;
* `GET /bots/chat/sse?sessionId=…`: the events of a chat, once;
* `GET /bots/sessions`, `GET /bots/sessions/:id`: the caller's sessions, and one with its
  messages;
* `GET /projects/answer?question=…&projectId=…`: a project answer as plain text, with optional
  model overrides in the query;
* `DELETE /projects/:id/memory`: forget the client's conversation about a project.
-/

namespace KnowledgeDesk.Web

open Http Server Store

/-- The query fields of a project question. -/
def answerFields : List (String × FieldKind) := [("question", .text), ("projectId", .int32)]

/-- The query fields of model overrides. -/
def overrideFields : List (String × FieldKind) :=
  [("modelName", .text), ("temperature", .float32), ("topP", .float32), ("maxTokens", .uint32),
   ("presencePenalty", .float32), ("frequencyPenalty", .float32)]

/-- Model overrides from read query fields. -/
def overridesOf (vs : List (String × FieldValue)) : ModelOverrides where
  modelName := fieldText? vs "modelName"
  temperature := fieldSingle? vs "temperature"
  topP := fieldSingle? vs "topP"
  maxTokens := (fieldInt? vs "maxTokens").map Int.toNat
  presencePenalty := fieldSingle? vs "presencePenalty"
  frequencyPenalty := fieldSingle? vs "frequencyPenalty"

/-- Start a bot chat. -/
def startChat (s : State) (req : Request) : State × Response :=
  match caller req with
  | .error r => (s, r)
  | .ok who =>
    match jsonBody s.libs.json req RequestData.shape with
    | .error r => (s, r)
    | .ok j =>
      match s.startChat who (RequestData.ofJson j) with
      | (s, .ok id) => (s, Response.json 200 (.obj [("sessionId", .str id)]))
      | (s, .error f) => (s, failureResponse f)

/-- The events of a chat. -/
def chatEvents (s : State) (req : Request) : State × Response :=
  match caller req with
  | .error r => (s, r)
  | .ok _ =>
    match queryFields req [("sessionId", .text)] with
    | .error r => (s, r)
    | .ok vs =>
      match fieldText? vs "sessionId" with
      | none => (s, Response.error 400 "sessionId missing")
      | some id =>
        match s.takeStream id with
        | (s, some events) => (s, Response.events events)
        | (s, none) => (s, Response.error 404 ("Chat session " ++ id ++ " not found"))

/-- Answer a question about a project. -/
def answerQuestion (s : State) (req : Request) : State × Response :=
  let client := clientSession req
  match queryFields req answerFields with
  | .error r => (s, r)
  | .ok params =>
    match queryFields req overrideFields with
    | .error r => (s, r)
    | .ok overrides =>
      let question := (fieldText? params "question").filter (!Text.isBlankText ·)
      match question, fieldInt? params "projectId" with
      | some question, some projectId =>
        match s.prepareAnswer client question projectId (overridesOf overrides) with
        | (s, .error f) => (s, failureResponse f)
        | (s, .ok prepared) =>
          let (s, text) := s.streamAnswer prepared
          (s, Response.plain 200 text)
      | _, _ => (s, Response.plain 400 "Question or projectId missing")

/-- Serve a public route with the method it runs. -/
def servePublic (s : State) (route : Route) (req : Request) : State × Response :=
  match route with
  | .bots => (s, Response.json 200 (rowsJson s.db.bots.rows))
  | .chat => startChat s req
  | .chatEvents => chatEvents s req
  | .sessions => (s, settle do
      let who ← caller req
      pure (Response.json 200 (rowsJson (s.sessionsOf who))))
  | .session id => (s, settle do
      let who ← caller req
      let id ← pathText "session_id" id
      match s.transcript who id with
      | .ok j => pure (Response.json 200 j)
      | .error f => pure (failureResponse f))
  | .answer => answerQuestion s req
  | .memory id =>
    let client := clientSession req
    match pathId id with
    | .error r => (s, r)
    | .ok projectId => (s.resetAnswers client projectId, Response.empty 204)
  | _ => (s, Response.empty 404)

/-- Answer one request. -/
def handle (s : State) (req : Request) : State × Response :=
  match routeOf req.path with
  | none => (s, Response.empty 404)
  | some (route, isAdmin) =>
    if isAdmin && !adminAllowed s.wiring.adminToken req then
      (s, Response.error 401 "Invalid admin token")
    else match route.serves req.method with
      | none => (s, Response.empty 405)
      | some method =>
        let (s, resp) := if isAdmin then admin s route method req else servePublic s route req
        (s, if req.method == "HEAD" then { resp with body := .empty } else resp)

end KnowledgeDesk.Web
