import KnowledgeDesk.Json.Codec
import KnowledgeDesk.Text.Blank
import KnowledgeDesk.Text.Utf8

/-!
# Streamed chat answers

A model service streams its answer as server-sent lines. A line that, trimmed, does not start
with `data:` carries nothing. `data: [DONE]` ends the answer. Any other data is a JSON chunk: an
`error` with a message fails the answer; otherwise the texts of its choices, joined, are the
next token, and an empty token carries nothing.

The body arrives in chunks that may cut a line, a JSON object or a character anywhere. The reader
keeps the bytes after the last line feed until more come, reads each complete line as text, and
stops at the first line that ends or fails the answer; a fragment with no line feed after it when
the stream ends is never read. A status outside `200`–`299` fails the answer with the body's text
before any line is read.
-/

namespace KnowledgeDesk

/-- Why a call to the model service failed. -/
inductive ProviderError where
  /-- The request could not be sent. -/
  | request (message : String)
  /-- The service answered with an error status. -/
  | status (code : Nat) (body : String)
  /-- The answer could not be read. -/
  | decode (message : String)
  /-- The service reported an error. -/
  | api (message : String)
  deriving Repr, DecidableEq

namespace ProviderError

def text : ProviderError → String
  | .request m => "发送AI请求失败。" ++ m
  | .status c b => s!"AI服务返回错误{c}：{b}"
  | .decode m => "接收AI返回失败。" ++ m
  | .api m => "AI服务报告错误：" ++ m

def kind : ProviderError → String
  | .request _ => "Request"
  | .status .. => "Status"
  | .decode _ => "Decode"
  | .api _ => "Api"

end ProviderError

/-- What a streamed line carries. -/
inductive StreamLine where
  | token (text : String)
  | done
  | skip
  deriving Repr, DecidableEq

def chunkShape : Json.Shape :=
  let delta : Json.Shape := .record "Delta" [("content", .optional .string, none)]
  let choice : Json.Shape := .record "ChunkChoice" [("delta", delta, some (.obj [("content", .null)]))]
  let apiError : Json.Shape := .record "ApiError" [("message", .string, none)]
  .record "CompletionChunk" [("choices", .list choice, some (.arr [])), ("error", .optional apiError, none)]

def chunkToken (chunk : Json) : String :=
  let choices := ((chunk.field? "choices").bind Json.arr?).getD []
  String.join (choices.filterMap fun c => ((c.field? "delta").bind (·.field? "content")).bind Json.str?)

section Reading

variable (json : Json.Codec)

/-- Read one streamed line. -/
def parseStreamLine (line : String) : Except ProviderError StreamLine :=
  let t := Text.trim line
  if !t.startsWith "data:" then .ok .skip else
  let data := Text.trim (String.ofList (t.toList.drop 5))
  if data = "[DONE]" then .ok .done else
  match json.readText chunkShape data with
  | .error e => .error (.decode (e.text ++ ": " ++ data))
  | .ok chunk =>
    match (chunk.field? "error").bind (·.field? "message") with
    | some (.str m) => .error (.api m)
    | _ =>
      let token := chunkToken chunk
      if token.isEmpty then .ok .skip else .ok (.token token)

/-- The lines that some bytes complete after the start of a line, each with its line feed, and
the bytes after the last line feed, which start the next line. -/
def completeLines (line : List UInt8) : List UInt8 → List (List UInt8) × List UInt8
  | [] => ([], line)
  | b :: rest =>
    if b = 10 then
      let (lines, pending) := completeLines [] rest
      ((line ++ [b]) :: lines, pending)
    else completeLines (line ++ [b]) rest

/-- What reading an answer has gathered: its text so far and the tokens passed on. -/
structure Gathered where
  text : String := ""
  sent : List String := []
  deriving Repr, DecidableEq

/-- How reading a run of lines stopped. -/
inductive LinesEnd where
  /-- Every line was read; more may come. -/
  | more
  /-- A line ended the answer. -/
  | done
  /-- A line failed the answer. -/
  | failed (e : ProviderError)
  deriving Repr, DecidableEq

/-- Read complete lines in order: each token is added to the text and passed on. -/
def readLines (g : Gathered) : List (List UInt8) → Gathered × LinesEnd
  | [] => (g, .more)
  | l :: ls =>
    match parseStreamLine json (Text.stringOfBytesLossy l) with
    | .error e => (g, .failed e)
    | .ok .done => (g, .done)
    | .ok .skip => readLines g ls
    | .ok (.token t) => readLines ⟨g.text ++ t, g.sent ++ [t]⟩ ls

/-- Read a streamed body chunk by chunk, each chunk or the transport's failure: the bytes of a
chunk follow those still pending, and the complete lines are read. The answer is the text
gathered when the stream ends or a line ends it. -/
def readChunks (g : Gathered) (pending : List UInt8) :
    List (Except String (List UInt8)) → Gathered × Except ProviderError String
  | [] => (g, .ok g.text)
  | .error e :: _ => (g, .error (.request e))
  | .ok chunk :: rest =>
    let (lines, pending) := completeLines pending chunk
    match readLines json g lines with
    | (g, .more) => readChunks g pending rest
    | (g, .done) => (g, .ok g.text)
    | (g, .failed e) => (g, .error e)

/-- A response of the model service to a streamed chat request. -/
structure ChatResponse where
  status : Nat
  /-- The body as the client reads it whole into text, empty when that fails. -/
  text : String
  /-- The body as it arrives. -/
  chunks : List (Except String (List UInt8))
  deriving Repr

def isSuccess (status : Nat) : Bool := 200 ≤ status && status < 300

/-- Read a streamed chat answer: the tokens passed on, in order, and the answer or why it failed. -/
def readChatStream (resp : ChatResponse) : List String × Except ProviderError String :=
  if isSuccess resp.status then
    let (g, result) := readChunks json {} [] resp.chunks
    (g.sent, result)
  else ([], .error (.status resp.status resp.text))

end Reading

end KnowledgeDesk
