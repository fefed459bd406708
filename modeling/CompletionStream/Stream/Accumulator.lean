import CompletionStream.Chat.Response
import CompletionStream.Stream.TokenCount

/-!
# Accumulator — chunks fold into one response

Texts and arguments are joined in the order of their arrival; of everything else the last
value that is given stands. Tool calls are kept in ascending order of their indexes. A
finalized accumulator takes no more chunks and cannot be finalized again, even if finalizing
failed.
-/

namespace CompletionStream

/-- What has arrived of one tool call. -/
structure CallParts where
  id : Option String
  name : Option String
  arguments : String
  deriving DecidableEq, Repr, Inhabited

/-- A text that is given and not empty, else what was there before. -/
def newer (latest previous : Option String) : Option String :=
  match latest with
  | some s => if s = "" then previous else some s
  | none => previous

namespace CallParts

/-- Nothing has arrived. -/
def empty : CallParts := ⟨none, none, ""⟩

/-- Takes in a fragment. -/
def feed (parts : CallParts) (delta : ToolCallDelta) : CallParts :=
  { id := newer delta.id parts.id
    name := newer delta.name parts.name
    arguments := parts.arguments ++ delta.arguments }

/-- The call, if it has a name. -/
def build? (parts : CallParts) : Option ToolCall :=
  parts.name.map fun name => ⟨parts.id, name, parts.arguments⟩

end CallParts

/-- The parts of all tool calls, in ascending order of their indexes. -/
abbrev CallTable := List (Int × CallParts)

/-- Takes in a fragment at its index. -/
def CallTable.feed (table : CallTable) (delta : ToolCallDelta) : CallTable :=
  match table with
  | [] => [(delta.index, CallParts.empty.feed delta)]
  | (index, parts) :: rest =>
    if delta.index = index then (index, parts.feed delta) :: rest
    else if delta.index < index then
      (delta.index, CallParts.empty.feed delta) :: (index, parts) :: rest
    else (index, parts) :: CallTable.feed rest delta

/-- The calls that have a name. -/
def CallTable.build (table : CallTable) : List ToolCall :=
  table.filterMap fun (_, parts) => parts.build?

/-- What has arrived of a stream. -/
structure Accumulator where
  content : String
  calls : CallTable
  finishReason : Option FinishReason
  id : Option String
  model : Option String
  usage : Option TokenUsage
  finalized : Bool
  deriving Inhabited

namespace Accumulator

/-- Nothing has arrived. -/
def fresh : Accumulator := ⟨"", [], none, none, none, none, false⟩

/-- Takes in a chunk, whatever state the accumulator is in. -/
def take (acc : Accumulator) (chunk : PartialChunk) : Accumulator :=
  { acc with
    content := acc.content ++ chunk.text.getD ""
    calls := chunk.toolCalls.foldl CallTable.feed acc.calls
    finishReason := chunk.finishReason.or acc.finishReason
    id := newer chunk.id acc.id
    model := newer chunk.model acc.model
    usage := chunk.usage.or acc.usage }

/-- Takes in a chunk unless the accumulator is finalized. -/
def append (acc : Accumulator) (chunk : PartialChunk) : Outcome Accumulator :=
  if acc.finalized then
    .error (.of .streamState "chunk appended after the response was finalized")
  else .ok (acc.take chunk)

/-- Why the response ended: a reason that was given, or that the model asks for tools. -/
def reason (acc : Accumulator) : Option FinishReason :=
  match acc.finishReason with
  | some r => some r
  | none => if acc.calls.build.isEmpty then none else some .toolExecution

/-- An estimate of what the response cost; zero if there is nothing to estimate it. -/
def estimate (acc : Accumulator) (estimator : Option Estimator) (tally : Tally) :
    Outcome Int × Tally :=
  match estimator with
  | none => (.ok 0, tally)
  | some e =>
    if acc.calls.build.isEmpty then e.countText acc.content tally
    else e.countToolCalls acc.calls.build tally

/-- What the response cost: the count that was reported, unless it is zero or missing. -/
def outputTokens (acc : Accumulator) (estimator : Option Estimator) (tally : Tally) :
    Outcome Int × Tally :=
  match acc.usage with
  | some usage =>
    if usage.outputTokens = 0 then acc.estimate estimator tally
    else (.ok usage.outputTokens, tally)
  | none => acc.estimate estimator tally

/-- The usage of the response; the count for the request is still unread. -/
def usageOf (inputTokens : Value) (outputTokens : Int) : Outcome TokenUsage :=
  (TokenUsage.read (.object [("input_tokens", inputTokens),
    ("output_tokens", .int outputTokens)])).toOutcome

/-- The response with a usage. -/
def response (acc : Accumulator) (usage : TokenUsage) : Response :=
  { id := acc.id
    model := acc.model
    content := acc.content
    toolCalls := acc.calls.build
    finishReason := acc.reason
    usage }

/-- The response, if its cost can be told. -/
def conclude (acc : Accumulator) (estimator : Option Estimator) (inputTokens : Value)
    (tally : Tally) : Outcome Response × Tally :=
  match acc.outputTokens estimator tally with
  | (.error fault, tally) => (.error fault, tally)
  | (.ok n, tally) => ((usageOf inputTokens n).map acc.response, tally)

/-- Finalizes the accumulator. -/
def finalize (acc : Accumulator) (estimator : Option Estimator) (inputTokens : Value)
    (tally : Tally) : Outcome Response × Accumulator × Tally :=
  if acc.finalized then
    (.error (.of .streamState "response already finalized"), acc, tally)
  else
    let (result, tally) := acc.conclude estimator inputTokens tally
    (result, { acc with finalized := true }, tally)

end Accumulator

end CompletionStream
