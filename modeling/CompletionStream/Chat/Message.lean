import CompletionStream.Schema.Reader

/-!
# Messages — the turns of a conversation

A message has a role and, depending on it, content, a participant's name, the id of the tool
call it answers, or the tool calls the assistant asks for. A tool call keeps its arguments as
the raw text that the model produced.
-/

namespace CompletionStream

/-- Who speaks. -/
inductive Role where
  | system
  | user
  | assistant
  | tool
  deriving DecidableEq, Repr, Inhabited

namespace Role

/-- The word for a role. -/
def word : Role → String
  | .system => "system"
  | .user => "user"
  | .assistant => "assistant"
  | .tool => "tool"

/-- Reads a role. -/
def read : Reader Role :=
  .oneOf ([system, user, assistant, tool].map fun r => (r.word, r))

end Role

/-- A call of a tool that the model asks for. -/
structure ToolCall where
  id : Option String
  name : String
  arguments : String
  deriving DecidableEq, Repr, Inhabited

namespace ToolCall

/-- Reads a tool call. -/
def read : Reader ToolCall :=
  .record fun m => ToolCall.mk
    <$> Reader.maybe m "id" .text
    <*> Reader.required m "name" .text
    <*> Reader.optional m "arguments" .text ""

/-- A tool call as a value. -/
def toValue (call : ToolCall) : Value :=
  .object [("id", .ofOption .str call.id), ("name", .str call.name),
    ("arguments", .str call.arguments)]

end ToolCall

/-- One turn of a conversation. -/
structure Message where
  role : Role
  content : Option String
  name : Option String
  toolCallId : Option String
  toolCalls : List ToolCall
  deriving DecidableEq, Repr, Inhabited

namespace Message

/-- Reads a message. -/
def read : Reader Message :=
  .record fun m => Message.mk
    <$> Reader.required m "role" Role.read
    <*> Reader.maybe m "content" .text
    <*> Reader.maybe m "name" .text
    <*> Reader.maybe m "tool_call_id" .text
    <*> Reader.optional m "tool_execution_requests" (.tupleOf ToolCall.read) []

/-- A message as a value. -/
def toValue (message : Message) : Value :=
  .object [("role", .str message.role.word), ("content", .ofOption .str message.content),
    ("name", .ofOption .str message.name), ("tool_call_id", .ofOption .str message.toolCallId),
    ("tool_execution_requests", .tuple (message.toolCalls.map ToolCall.toValue))]

/-- An instruction to the model, its text still unread. -/
def system (text : Value) : Checked Message :=
  read (.object [("role", .str "system"), ("content", text)])

/-- A user's turn, its text and name still unread. -/
def user (text : Value) (name : Value := .null) : Checked Message :=
  read (.object [("role", .str "user"), ("content", text), ("name", name)])

/-- The model's turn, its text still unread. -/
def assistant (text : Value) (calls : List Value) : Checked Message :=
  read (.object [("role", .str "assistant"), ("content", text),
    ("tool_execution_requests", .tuple calls)])

/-- The answer of a tool, all of it still unread. -/
def toolResult (callId text : Value) (name : Value := .null) : Checked Message :=
  read (.object [("role", .str "tool"), ("content", text), ("tool_call_id", callId),
    ("name", name)])

end Message

end CompletionStream
