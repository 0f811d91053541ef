import KnowledgeDesk.Json.Codec
import KnowledgeDesk.Number.Integer
import KnowledgeDesk.Text.Blank

/-!
# Chat requests and model parameters

What a client sends to start a chat, and the parameters a model call takes.

* `RequestData`: every field is optional and lenient, because clients send the bot id as a
  number as often as as a string. A field holds a text, an integer (written in full), a float
  (written in its shortest positional form, so `3.0` is `3`), or a truth value, whichever reads
  first; `null` and an absent field are nothing.
* `ModelOverrides`: optional model name and sampling values, laid over `ModelParams.new`.
-/

namespace KnowledgeDesk

/-- The parameters of one model call. -/
structure ModelParams where
  modelName : String
  temperature : Float32 := 0.0
  topP : Float32 := 1.0
  maxTokens : Nat := 300
  presencePenalty : Float32 := 0.0
  frequencyPenalty : Float32 := 0.0

def ModelParams.new (modelName : String) : ModelParams := { modelName }

structure Credentials where
  apiKey : String
  url : String
  deriving Repr, DecidableEq

def singleOf? : Json → Option Float32
  | .single x => some x
  | _ => none

def natOf? : Json → Option Nat
  | .int i => if 0 ≤ i then some i.toNat else none
  | _ => none

/-- Values laid over the default parameters of a model call. -/
structure ModelOverrides where
  modelName : Option String := none
  temperature : Option Float32 := none
  topP : Option Float32 := none
  maxTokens : Option Nat := none
  presencePenalty : Option Float32 := none
  frequencyPenalty : Option Float32 := none

namespace ModelOverrides

def shape : Json.Shape :=
  .record "ModelOverrides"
    [("modelName", .optional .string, none),
     ("temperature", .optional .float32, none),
     ("topP", .optional .float32, none),
     ("maxTokens", .optional .u32, none),
     ("presencePenalty", .optional .float32, none),
     ("frequencyPenalty", .optional .float32, none)]

def ofJson (j : Json) : ModelOverrides where
  modelName := (j.field? "modelName").bind Json.str?
  temperature := (j.field? "temperature").bind singleOf?
  topP := (j.field? "topP").bind singleOf?
  maxTokens := (j.field? "maxTokens").bind natOf?
  presencePenalty := (j.field? "presencePenalty").bind singleOf?
  frequencyPenalty := (j.field? "frequencyPenalty").bind singleOf?

def read (json : Json.Codec) (text : String) : Except Json.ReadError ModelOverrides :=
  (json.readText shape text).map ofJson

/-- The parameters for a model named by the overrides (else `defaultModel`), each value from the
overrides where they give one. -/
def apply (o : ModelOverrides) (defaultModel : String) : ModelParams where
  modelName := o.modelName.getD defaultModel
  temperature := o.temperature.getD 0.0
  topP := o.topP.getD 1.0
  maxTokens := o.maxTokens.getD 300
  presencePenalty := o.presencePenalty.getD 0.0
  frequencyPenalty := o.frequencyPenalty.getD 0.0

end ModelOverrides

/-- What a client sends to start a bot chat. -/
structure RequestData where
  action : Option String := none
  question : Option String := none
  botId : Option String := none
  botSessionId : Option String := none
  deriving Repr, DecidableEq

namespace RequestData

def shape : Json.Shape :=
  .record "RequestData"
    [("action", .lenientText, some .null),
     ("question", .lenientText, some .null),
     ("botId", .lenientText, some .null),
     ("botSessionId", .lenientText, some .null)]

def ofJson (j : Json) : RequestData where
  action := (j.field? "action").bind Json.str?
  question := (j.field? "question").bind Json.str?
  botId := (j.field? "botId").bind Json.str?
  botSessionId := (j.field? "botSessionId").bind Json.str?

def read (json : Json.Codec) (text : String) : Except Json.ReadError RequestData :=
  (json.readText shape text).map ofJson

/-- The bot a request names: its bot id without blanks at either end, read as a 32-bit integer;
nothing when the id is missing or no such integer. -/
def botKey? (data : RequestData) : Option Int :=
  data.botId.bind fun b => (Number.parseI32 (Text.trim b)).toOption

end RequestData

end KnowledgeDesk
