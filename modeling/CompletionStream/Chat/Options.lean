import CompletionStream.Chat.Request

/-!
# Options — what a transport is asked to send

Options are a request merged with a client's defaults: no parameter is left to fall back.
-/

namespace CompletionStream

/-- What a transport is asked to send. -/
structure Options where
  messages : List Message
  model : String
  sampling : Sampling
  tools : Option (List ToolSpec)
  forcedTool : Option ToolSpec
  format : Option ResponseFormat
  strictSchema : Bool
  deriving Repr, BEq, Inhabited

namespace Options

/-- Puts options together from their fields in their documented order. -/
def ofFields (messages : List Message) (model : String) (maxTokens : Option Int)
    (temperature topP : Option Float) (logitBias : Option (List (String × Int)))
    (user : Option String) (stop : Option (List String))
    (presencePenalty frequencyPenalty : Option Float) (seed : Option Int)
    (tools : Option (List ToolSpec)) (forcedTool : Option ToolSpec)
    (format : Option ResponseFormat) (strictSchema : Bool) : Options :=
  { messages, model, tools, forcedTool, format, strictSchema,
    sampling := ⟨temperature, topP, presencePenalty, frequencyPenalty, logitBias, stop, seed,
      maxTokens, user⟩ }

/-- Reads options. -/
def read : Reader Options :=
  .record fun m => ofFields
    <$> Reader.required m "messages" (.tupleOf Message.read)
    <*> Reader.required m "model" .text
    <*> Reader.maybe m "max_tokens" .integer
    <*> Reader.maybe m "temperature" .decimal
    <*> Reader.maybe m "top_p" .decimal
    <*> Reader.maybe m "logit_bias" readBias
    <*> Reader.maybe m "user" .text
    <*> Reader.maybe m "stop" (.tupleOf .text)
    <*> Reader.maybe m "presence_penalty" .decimal
    <*> Reader.maybe m "frequency_penalty" .decimal
    <*> Reader.maybe m "seed" .integer
    <*> Reader.maybe m "tools" (.tupleOf ToolSpec.read)
    <*> Reader.maybe m "tool_choice" ToolSpec.read
    <*> Reader.maybe m "response_format" ResponseFormat.read
    <*> Reader.optional m "strict_json_schema" .switch false

/-- Options as a value. -/
def toValue (o : Options) : Value :=
  .object [("messages", .tuple (o.messages.map Message.toValue)),
    ("model", .str o.model),
    ("max_tokens", .ofOption .int o.sampling.maxTokens),
    ("temperature", .ofOption .float o.sampling.temperature),
    ("top_p", .ofOption .float o.sampling.topP),
    ("logit_bias", .ofOption biasValue o.sampling.logitBias),
    ("user", .ofOption .str o.sampling.user),
    ("stop", .ofOption textTuple o.sampling.stop),
    ("presence_penalty", .ofOption .float o.sampling.presencePenalty),
    ("frequency_penalty", .ofOption .float o.sampling.frequencyPenalty),
    ("seed", .ofOption .int o.sampling.seed),
    ("tools", .ofOption (fun ts => .tuple (ts.map ToolSpec.toValue)) o.tools),
    ("tool_choice", .ofOption ToolSpec.toValue o.forcedTool),
    ("response_format", .ofOption ResponseFormat.toValue o.format),
    ("strict_json_schema", .bool o.strictSchema)]

end Options

end CompletionStream
