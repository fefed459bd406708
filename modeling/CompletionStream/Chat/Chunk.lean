import CompletionStream.Chat.Usage

/-!
# Chunks — the increments of a streamed completion

A chunk may carry some text, fragments of tool calls, and news about the whole completion:
its id, its model, why it ended and what it cost. Fragments with one index belong to one call.
-/

namespace CompletionStream

/-- Why a completion ended. -/
inductive FinishReason where
  | stop
  | length
  | toolExecution
  | contentFilter
  | other
  deriving DecidableEq, Repr, Inhabited

namespace FinishReason

/-- The word for a reason. -/
def word : FinishReason → String
  | .stop => "stop"
  | .length => "length"
  | .toolExecution => "tool_execution"
  | .contentFilter => "content_filter"
  | .other => "other"

/-- Reads a reason. -/
def read : Reader FinishReason :=
  .oneOf ([stop, length, toolExecution, contentFilter, other].map fun r => (r.word, r))

/-- The reasons that providers report. -/
def reported : List (String × FinishReason) :=
  [("stop", stop), ("length", length), ("tool_calls", toolExecution),
   ("function_call", toolExecution), ("tool_execution", toolExecution),
   ("content_filter", contentFilter)]

/-- The reason that a provider's word stands for, in any letter case. -/
def ofReported (s : String) : FinishReason :=
  match reported.find? (·.1 == Text.lower s) with
  | some (_, r) => r
  | none => other

/-- The reason that a provider reports; nothing reported is no reason. -/
def ofWire (v : Value) : Outcome (Option FinishReason) :=
  if v.truthy then
    match v with
    | .str s => .ok (some (ofReported s))
    | _ => .error .noMember
  else .ok none

end FinishReason

/-- A fragment of a tool call. -/
structure ToolCallDelta where
  index : Int
  id : Option String
  name : Option String
  arguments : String
  deriving DecidableEq, Repr, Inhabited

namespace ToolCallDelta

/-- Reads a fragment. -/
def read : Reader ToolCallDelta :=
  .record fun m => ToolCallDelta.mk
    <$> Reader.optional m "index" .integer 0
    <*> Reader.maybe m "id" .text
    <*> Reader.maybe m "name" .text
    <*> Reader.optional m "arguments" .text ""

/-- A fragment as a value. -/
def toValue (d : ToolCallDelta) : Value :=
  .object [("index", .int d.index), ("id", .ofOption .str d.id),
    ("name", .ofOption .str d.name), ("arguments", .str d.arguments)]

end ToolCallDelta

/-- An increment of a completion. -/
structure PartialChunk where
  text : Option String
  id : Option String
  model : Option String
  finishReason : Option FinishReason
  usage : Option TokenUsage
  toolCalls : List ToolCallDelta
  deriving DecidableEq, Repr, Inhabited

namespace PartialChunk

/-- Reads a chunk. -/
def read : Reader PartialChunk :=
  .record fun m => PartialChunk.mk
    <$> Reader.maybe m "text" .text
    <*> Reader.maybe m "id" .text
    <*> Reader.maybe m "model" .text
    <*> Reader.maybe m "finish_reason" FinishReason.read
    <*> Reader.maybe m "usage" TokenUsage.read
    <*> Reader.optional m "tool_calls" (.tupleOf ToolCallDelta.read) []

/-- A chunk as a value. -/
def toValue (c : PartialChunk) : Value :=
  .object [("text", .ofOption .str c.text), ("id", .ofOption .str c.id),
    ("model", .ofOption .str c.model),
    ("finish_reason", .ofOption (fun r => .str r.word) c.finishReason),
    ("usage", .ofOption TokenUsage.toValue c.usage),
    ("tool_calls", .tuple (c.toolCalls.map ToolCallDelta.toValue))]

end PartialChunk

end CompletionStream
