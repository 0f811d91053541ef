import KnowledgeDesk.Http.Message
import KnowledgeDesk.Http.Multipart
import KnowledgeDesk.Http.Target
import KnowledgeDesk.Json.Read
import KnowledgeDesk.Server.Chat

/-!
# Reading requests

Each handler reads what it needs from the request in a fixed order; the first thing that
cannot be read decides the answer:

* the caller: an access code header is required (`401 Unauthorized`), a user id header is an
  integer or zero; the client session header defaults to `anonymous`;
* a path parameter: percent-decoded, UTF-8, and for ids a 32-bit integer (`400 Invalid URL`);
* a query: typed fields (`400 Failed to deserialize query string`);
* a JSON body: a JSON content type (`415`), then well-formed JSON (`400`), then a value of the
  right shape (`422`);
* an upload: a `multipart/form-data` content type with a boundary (`400`), a well-formed body,
  and a `file` field (`400 Missing file field`).

Rejections of the framework are plain text; the server's own errors are JSON.
-/

namespace KnowledgeDesk.Web

open Http Server

/-- The answer to a failed service operation. -/
def failureResponse (f : Failure) : Response :=
  let (status, message) := f.reply
  Response.error status message

/-- The caller of the chat interface. -/
def caller (req : Request) : Except Response Caller :=
  match req.text? "x-access-code" with
  | none => .error (Response.error 401 "Unauthorized")
  | some code =>
    let userId := ((req.text? "x-user-id").bind fun v =>
      (Number.parseIntIn (-2147483648) 2147483647 v).toOption).getD 0
    .ok ⟨userId, code⟩

/-- The client session of a project question. -/
def clientSession (req : Request) : String := (req.text? "x-client-session").getD "anonymous"

/-- Whether the administration token is presented, when one is set. -/
def adminAllowed (token : Option String) (req : Request) : Bool :=
  match token with
  | none => true
  | some expected =>
    match req.text? "authorization" with
    | some v => if v.startsWith "Bearer " then Text.trim (v.drop 7).toString == expected else false
    | none => false

/-- A text in double quotes, with quotes, backslashes and control characters escaped. -/
def debugQuoted (s : String) : String :=
  let escape := fun (c : Char) =>
    if c = '"' then "\\\"" else if c = '\\' then "\\\\"
    else if c = '\n' then "\\n" else if c = '\r' then "\\r" else if c = '\t' then "\\t"
    else if c.toNat = 0 then "\\0"
    else if c.toNat < 0x20 || c.toNat = 0x7F then
      "\\u\x7b" ++ String.ofList (Nat.toDigits 16 c.toNat) ++ "\x7d"
    else String.singleton c
  "\"" ++ String.join (s.toList.map escape) ++ "\""

/-- A path parameter as text. -/
def pathText (key raw : String) : Except Response String :=
  match decodeParam raw with
  | some s => .ok s
  | none => .error (Response.plain 400 ("Invalid URL: Invalid UTF-8 in `" ++ key ++ "`"))

/-- A path parameter as a 32-bit integer. -/
def pathId (raw : String) : Except Response Int := do
  let s ← pathText "id" raw
  match Number.parseIntIn (-2147483648) 2147483647 s with
  | .ok i => pure i
  | .error _ =>
    throw (Response.plain 400 ("Invalid URL: Cannot parse `" ++ debugQuoted s ++ "` to a `i32`"))

/-- Typed fields of the query. -/
def queryFields (req : Request) (fields : List (String × FieldKind)) :
    Except Response (List (String × FieldValue)) :=
  match readForm fields (formPairs (req.query.getD "")) with
  | .ok vs => .ok vs
  | .error m => .error (Response.plain 400 ("Failed to deserialize query string: " ++ m))

/-- The value of a JSON body of a given shape, read with `json`. -/
def jsonBody (json : Json.Codec) (req : Request) (shape : Json.Shape) : Except Response Json :=
  let isJson := ((req.header? "content-type").filter isReadable).bind MediaType.parse?
    |>.map MediaType.isJson |>.getD false
  if !isJson then
    .error (Response.plain 415 "Expected request with `Content-Type: application/json`")
  else match json.read shape req.body with
    | .ok j => .ok j
    | .error e =>
      let detail := (if e.path.isEmpty then "" else Json.pathText e.path ++ ": ") ++ e.text
      match e.code.category with
      | .data => .error (Response.plain 422
          ("Failed to deserialize the JSON body into the target type: " ++ detail))
      | _ => .error (Response.plain 400 ("Failed to parse the request body as JSON: " ++ detail))

/-- An uploaded file with its description. -/
structure Upload where
  fileName : String
  bytes : ByteArray
  description : String

/-- The upload of a multipart body: the last `file` field (its file name, else `unknown`) and
the last `description` field. -/
def upload (req : Request) : Except Response Upload :=
  let boundary := ((req.header? "content-type").filter isReadable).bind formBoundary
  match boundary with
  | none => .error (Response.plain 400 "Invalid `boundary` for `multipart/form-data` request")
  | some b =>
    match parseMultipart b req.body.toList with
    | none => .error (Response.error 400
        "Invalid upload: Error parsing `multipart/form-data` request")
    | some parts =>
      let found := parts.foldl (fun (acc : Option (String × List UInt8) × String) p =>
        match p.name with
        | some "file" => (some ((p.fileName.getD "unknown"), p.content), acc.2)
        | some "description" => (acc.1, Text.stringOfBytesLossy p.content)
        | _ => acc) (none, "")
      match found with
      | (some (name, bytes), description) => .ok ⟨name, ByteArray.mk bytes.toArray, description⟩
      | (none, _) => .error (Response.error 400 "Missing file field")

/-- The ids of an `ids` query: none for all, else the listed ids. -/
def idsQuery (req : Request) : Except Response (Option (List Int)) := do
  let vs ← queryFields req [("ids", .text)]
  match fieldText? vs "ids" with
  | none => pure none
  | some s =>
    if Text.isBlankText s then pure none
    else
      let ids ← (s.splitOn ",").mapM fun piece =>
        match Number.parseIntIn (-2147483648) 2147483647 (Text.trim piece) with
        | .ok i => .ok i
        | .error _ => .error (Response.error 400 ("Invalid id " ++ piece))
      pure (some ids)

/-- A stored file as a download; the file name keeps printable ASCII other than quotes and
backslashes, each other character becoming `_`. -/
def attachment (fileName : String) (bytes : ByteArray) : Response :=
  let safe := String.ofList (fileName.toList.map fun c =>
    if ' ' ≤ c && c ≤ '~' && c ≠ '"' && c ≠ '\\' then c else '_')
  { status := 200, contentType := some "application/octet-stream",
    disposition := some ("attachment; filename=\"" ++ safe ++ "\""), body := .bytes bytes }

end KnowledgeDesk.Web
