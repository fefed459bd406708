import CompletionStream.Chat.Options

/-!
# Encoding — options as the provider's client takes them

Each message is written with the members its role has on the wire: the answer of a tool names
the call it answers, an assistant's turn with tool calls lists them and may lack content, and
only a user's turn carries a participant's name. Everywhere else missing content is empty.

The arguments of a call hold a parameter only if it is set.
-/

namespace CompletionStream.Wire

/-- Content that has to be there: missing content is empty. -/
def contentOrEmpty (content : Option String) : Value :=
  .str (content.getD "")

/-- A tool call on the wire. -/
def toolCall (call : ToolCall) : Value :=
  .object [("id", .ofOption .str call.id), ("type", .str "function"),
    ("function", .object [("name", .str call.name), ("arguments", .str call.arguments)])]

/-- The name of a user, where one is given. -/
def nameMember (message : Message) : List (String × Value) :=
  match message.role, message.name with
  | .user, some name => if name = "" then [] else [("name", .str name)]
  | _, _ => []

/-- A message on the wire. -/
def message (m : Message) : Value :=
  let role := ("role", Value.str m.role.word)
  match m.role with
  | .tool =>
    .object [role, ("tool_call_id", .ofOption .str m.toolCallId),
      ("content", contentOrEmpty m.content)]
  | .assistant =>
    if m.toolCalls.isEmpty then .object [role, ("content", contentOrEmpty m.content)]
    else .object [role, ("content", .ofOption .str m.content),
      ("tool_calls", .list (m.toolCalls.map toolCall))]
  | _ => .object ([role, ("content", contentOrEmpty m.content)] ++ nameMember m)

/-- The schema of a tool without arguments. -/
def noParameters : Value :=
  .object [("type", .str "object"), ("properties", .dict [])]

/-- A tool on offer on the wire. -/
def tool (t : ToolSpec) : Value :=
  let description :=
    match t.description with
    | some d => if d = "" then [] else [("description", Value.str d)]
    | none => []
  let parameters := if t.parameters.isEmpty then noParameters else Schema.toValue t.parameters
  .object [("type", .str "function"),
    ("function", .object ([("name", .str t.name)] ++ description ++ [("parameters", parameters)]))]

/-- The demand to call one tool. -/
def toolChoice (t : ToolSpec) : Value :=
  .object [("type", .str "function"), ("function", .object [("name", .str t.name)])]

/-- The name of a schema that comes without one. -/
def defaultSchemaName : String := "response"

/-- An output format on the wire. -/
def format (f : ResponseFormat) (strict : Bool) : Value :=
  match f.kind, f.schema with
  | .text, _ => .object [("type", .str "text")]
  | .json, none => .object [("type", .str "json_object")]
  | .json, some schema =>
    let name :=
      match f.name with
      | some name => if name = "" then defaultSchemaName else name
      | none => defaultSchemaName
    .object [("type", .str "json_schema"),
      ("json_schema", .object [("name", .str name), ("schema", Schema.toValue schema),
        ("strict", .bool strict)])]

/-- A member that is present only if its value is. -/
def whenSet {α : Type} (name : String) (write : α → Value) : Option α → List (String × Value)
  | none => []
  | some a => [(name, write a)]

/-- The stop sequences, where there are any. -/
def stopMember : Option (List String) → List (String × Value)
  | some (s :: rest) => [("stop", .list ((s :: rest).map .str))]
  | _ => []

/-- The tools on offer, where there are any. -/
def toolsMember : Option (List ToolSpec) → List (String × Value)
  | some (t :: rest) => [("tools", .list ((t :: rest).map tool))]
  | _ => []

/-- The arguments of a call besides its model, in their order. -/
def parameters (o : Options) (includeUsage : Bool) : List (String × Value) :=
  [("messages", .list (o.messages.map message)), ("stream", .bool true)] ++
  whenSet "max_tokens" .int o.sampling.maxTokens ++
  whenSet "temperature" .float o.sampling.temperature ++
  whenSet "top_p" .float o.sampling.topP ++
  whenSet "logit_bias" biasValue o.sampling.logitBias ++
  whenSet "user" .str o.sampling.user ++
  stopMember o.sampling.stop ++
  whenSet "presence_penalty" .float o.sampling.presencePenalty ++
  whenSet "frequency_penalty" .float o.sampling.frequencyPenalty ++
  whenSet "seed" .int o.sampling.seed ++
  toolsMember o.tools ++
  whenSet "tool_choice" toolChoice o.forcedTool ++
  whenSet "response_format" (format · o.strictSchema) o.format ++
  (if includeUsage then [("stream_options", .object [("include_usage", .bool true)])] else [])

/-- The arguments of a call. -/
def arguments (o : Options) (includeUsage : Bool) : List (String × Value) :=
  ("model", .str o.model) :: parameters o includeUsage

/-- The arguments of a call to a deployment, whatever model the options name. -/
def argumentsFor (deployment : Value) (o : Options) (includeUsage : Bool) :
    List (String × Value) :=
  ("model", deployment) :: parameters o includeUsage

end CompletionStream.Wire
