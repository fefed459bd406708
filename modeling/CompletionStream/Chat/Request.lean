import CompletionStream.Chat.Message

/-!
# Requests — what a caller asks for

A request holds the messages, the tools on offer, the wanted output format and sampling
parameters. A parameter that is left out falls back to the client's default.
-/

namespace CompletionStream

/-- A mapping with text keys, in order of insertion. -/
abbrev Schema := List (String × Value)

/-- A mapping with text keys as a value. -/
def Schema.toValue (schema : Schema) : Value :=
  .object schema

/-- A tool on offer, with the schema of its arguments. -/
structure ToolSpec where
  name : String
  description : Option String
  parameters : Schema
  deriving Repr, BEq, Inhabited

namespace ToolSpec

/-- Reads a tool on offer. -/
def read : Reader ToolSpec :=
  .record fun m => ToolSpec.mk
    <$> Reader.required m "name" .text
    <*> Reader.maybe m "description" .text
    <*> Reader.optional m "parameters" (.mappingOf .anything) []

/-- A tool on offer as a value. -/
def toValue (tool : ToolSpec) : Value :=
  .object [("name", .str tool.name), ("description", .ofOption .str tool.description),
    ("parameters", Schema.toValue tool.parameters)]

end ToolSpec

/-- Whether the model may or must call a tool. -/
inductive ToolChoice where
  | auto
  | required
  deriving DecidableEq, Repr, Inhabited

namespace ToolChoice

/-- The word for a choice. -/
def word : ToolChoice → String
  | .auto => "auto"
  | .required => "required"

/-- Reads a choice. -/
def read : Reader ToolChoice :=
  .oneOf ([auto, required].map fun c => (c.word, c))

end ToolChoice

/-- The kinds of output. -/
inductive FormatKind where
  | text
  | json
  deriving DecidableEq, Repr, Inhabited

namespace FormatKind

/-- The word for a kind of output. -/
def word : FormatKind → String
  | .text => "text"
  | .json => "json"

/-- The kind of output that a word names. -/
def ofWord? (s : String) : Option FormatKind :=
  ([text, json].find? fun k => k.word == s)

/-- Reads a kind of output. -/
def read : Reader FormatKind :=
  .oneOf ([text, json].map fun k => (k.word, k))

end FormatKind

/-- The wanted output. JSON output may be bound to a schema, which may have a name. -/
structure ResponseFormat where
  kind : FormatKind
  schema : Option Schema
  name : Option String
  deriving Repr, BEq, Inhabited

namespace ResponseFormat

/-- Reads an output format. -/
def read : Reader ResponseFormat :=
  .record fun m => ResponseFormat.mk
    <$> Reader.optional m "type" FormatKind.read .text
    <*> Reader.maybe m "json_schema" (.mappingOf .anything)
    <*> Reader.maybe m "name" .text

/-- An output format as a value. -/
def toValue (format : ResponseFormat) : Value :=
  .object [("type", .str format.kind.word),
    ("json_schema", .ofOption Schema.toValue format.schema),
    ("name", .ofOption .str format.name)]

/-- Plain text output. -/
def plainText : ResponseFormat := ⟨.text, none, none⟩

/-- JSON output, the schema and its name still unread. -/
def json (schema name : Value) : Checked ResponseFormat :=
  read (.object [("type", .str "json"), ("json_schema", schema), ("name", name)])

end ResponseFormat

/-- The sampling parameters that a request may set and a client may have defaults for. -/
structure Sampling where
  temperature : Option Float
  topP : Option Float
  presencePenalty : Option Float
  frequencyPenalty : Option Float
  logitBias : Option (List (String × Int))
  stop : Option (List String)
  seed : Option Int
  maxTokens : Option Int
  user : Option String
  deriving Repr, BEq, Inhabited

/-- Reads the bias of tokens. -/
def readBias : Reader (List (String × Int)) := .mappingOf .integer

/-- The bias of tokens as a value. -/
def biasValue (bias : List (String × Int)) : Value :=
  .object (bias.map fun (token, n) => (token, .int n))

/-- Texts as a tuple. -/
def textTuple (texts : List String) : Value :=
  .tuple (texts.map .str)

/-- What a caller asks for. -/
structure ChatRequest where
  messages : List Message
  tools : List ToolSpec
  toolChoice : Option ToolChoice
  format : Option ResponseFormat
  modelName : Option String
  topK : Option Int
  sampling : Sampling
  deriving Repr, BEq, Inhabited

namespace ChatRequest

/-- Puts a request together from its fields in their documented order. -/
def ofFields (messages : List Message) (tools : List ToolSpec) (toolChoice : Option ToolChoice)
    (format : Option ResponseFormat) (modelName : Option String)
    (temperature topP : Option Float) (topK : Option Int)
    (presencePenalty frequencyPenalty : Option Float)
    (logitBias : Option (List (String × Int))) (stop : Option (List String))
    (seed maxTokens : Option Int) (user : Option String) : ChatRequest :=
  { messages, tools, toolChoice, format, modelName, topK,
    sampling := ⟨temperature, topP, presencePenalty, frequencyPenalty, logitBias, stop, seed,
      maxTokens, user⟩ }

/-- Reads a request. -/
def read : Reader ChatRequest :=
  .record fun m => ofFields
    <$> Reader.required m "messages" (.tupleOf Message.read)
    <*> Reader.optional m "tool_specifications" (.tupleOf ToolSpec.read) []
    <*> Reader.maybe m "tool_choice" ToolChoice.read
    <*> Reader.maybe m "response_format" ResponseFormat.read
    <*> Reader.maybe m "model_name" .text
    <*> Reader.maybe m "temperature" .decimal
    <*> Reader.maybe m "top_p" .decimal
    <*> Reader.maybe m "top_k" .integer
    <*> Reader.maybe m "presence_penalty" .decimal
    <*> Reader.maybe m "frequency_penalty" .decimal
    <*> Reader.maybe m "logit_bias" readBias
    <*> Reader.maybe m "stop_sequences" (.tupleOf .text)
    <*> Reader.maybe m "seed" .integer
    <*> Reader.maybe m "max_output_tokens" .integer
    <*> Reader.maybe m "user" .text

/-- A request as a value. -/
def toValue (r : ChatRequest) : Value :=
  .object [("messages", .tuple (r.messages.map Message.toValue)),
    ("tool_specifications", .tuple (r.tools.map ToolSpec.toValue)),
    ("tool_choice", .ofOption (fun c => .str c.word) r.toolChoice),
    ("response_format", .ofOption ResponseFormat.toValue r.format),
    ("model_name", .ofOption .str r.modelName),
    ("temperature", .ofOption .float r.sampling.temperature),
    ("top_p", .ofOption .float r.sampling.topP),
    ("top_k", .ofOption .int r.topK),
    ("presence_penalty", .ofOption .float r.sampling.presencePenalty),
    ("frequency_penalty", .ofOption .float r.sampling.frequencyPenalty),
    ("logit_bias", .ofOption biasValue r.sampling.logitBias),
    ("stop_sequences", .ofOption textTuple r.sampling.stop),
    ("seed", .ofOption .int r.sampling.seed),
    ("max_output_tokens", .ofOption .int r.sampling.maxTokens),
    ("user", .ofOption .str r.sampling.user)]

end ChatRequest

end CompletionStream
