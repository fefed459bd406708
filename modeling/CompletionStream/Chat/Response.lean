import CompletionStream.Chat.Chunk
import CompletionStream.Chat.Message

/-!
# Responses — what a whole stream amounts to
-/

namespace CompletionStream

/-- The response that all chunks of a stream add up to. -/
structure Response where
  id : Option String
  model : Option String
  content : String
  toolCalls : List ToolCall
  finishReason : Option FinishReason
  usage : TokenUsage
  deriving DecidableEq, Repr, Inhabited

namespace Response

/-- Reads a response. -/
def read : Reader Response :=
  .record fun m => Response.mk
    <$> Reader.maybe m "id" .text
    <*> Reader.maybe m "model" .text
    <*> Reader.optional m "content" .text ""
    <*> Reader.optional m "tool_execution_requests" (.tupleOf ToolCall.read) []
    <*> Reader.maybe m "finish_reason" FinishReason.read
    <*> Reader.optional m "usage" TokenUsage.read .zero

/-- A response as a value. -/
def toValue (r : Response) : Value :=
  .object [("id", .ofOption .str r.id), ("model", .ofOption .str r.model),
    ("content", .str r.content),
    ("tool_execution_requests", .tuple (r.toolCalls.map ToolCall.toValue)),
    ("finish_reason", .ofOption (fun f => .str f.word) r.finishReason),
    ("usage", r.usage.toValue)]

/-- Whether the model asks for tools. -/
def hasToolCalls (r : Response) : Bool :=
  !r.toolCalls.isEmpty

/-- The response as a turn of the conversation; empty content is none. -/
def toMessage (r : Response) : Message :=
  { role := .assistant
    content := if r.content = "" then none else some r.content
    name := none
    toolCallId := none
    toolCalls := r.toolCalls }

end Response

end CompletionStream
