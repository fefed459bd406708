import CompletionStream.Chat.Chunk

/-!
# Decoding — chunks as the provider's client delivers them

A raw chunk is an object whose members are all optional; here a mapping stands for such an
object. Unlike a mapping, an object counts as given even without members. Texts, lists and
tuples are objects too, and each has a method `index`, which is no number.

Only the first choice of a chunk is read. A chunk of usage alone has no choices.
-/

namespace CompletionStream.Wire

/-- Whether raw data counts as given. -/
def given : Value → Bool
  | .dict _ => true
  | v => v.truthy

/-- The member of an object, if it has one. -/
def part? (object : Value) (name : String) : Option Value :=
  match object with
  | .dict members => Members.get? members name
  | .str _ | .list _ | .tuple _ => if name = "index" then some (.foreign "index") else none
  | _ => none

/-- The member of an object, null if it has none. -/
def part (object : Value) (name : String) : Value :=
  (part? object name).getD .null

/-- A given value, else a substitute. -/
def orElse (v substitute : Value) : Value :=
  if given v then v else substitute

/-- The first item of data that has positions. -/
def firstItem? : Value → Outcome (Option Value)
  | .list items => .ok items.head?
  | .tuple items => .ok items.head?
  | .str s => .ok (s.toList.head?.map fun c => .str c.toString)
  | v => if given v then .error .wrongType else .ok none

/-- The items of data that can be walked through; what is not given has none. -/
def itemsOf : Value → Outcome (List Value)
  | .list items => .ok items
  | .tuple items => .ok items
  | .str s => .ok (s.toList.map fun c => .str c.toString)
  | v => if given v then .error .wrongType else .ok []

/-- A count of tokens; what is not given counts as zero. -/
def count (v : Value) : Outcome Int :=
  if given v then lenientInteger v else .ok 0

/-- The usage of a chunk. -/
def usage (v : Value) : Outcome (Option TokenUsage) :=
  match v with
  | .null => .ok none
  | v => do
    let input ← count (part v "prompt_tokens")
    let output ← count (part v "completion_tokens")
    let total ← count (part v "total_tokens")
    return some (TokenUsage.ofCounts input output total)

/-- A fragment of a tool call. -/
def callDelta (call : Value) : Outcome ToolCallDelta :=
  let function := part call "function"
  let name := part function "name"
  let arguments := orElse (part function "arguments") (.str "")
  (ToolCallDelta.mk
    <$> (Reader.integer (orElse (part call "index") (.int 0))).under (.name "index")
    <*> (Reader.nullable .text (part call "id")).under (.name "id")
    <*> (Reader.nullable .text name).under (.name "name")
    <*> (Reader.text arguments).under (.name "arguments")).toOutcome

/-- Why a completion ended; an object is no word for a reason. -/
def reason : Value → Outcome (Option FinishReason)
  | .dict _ => .error .noMember
  | v => FinishReason.ofWire v

/-- What the first choice of a chunk says: text, fragments of tool calls, why it ended. -/
structure Choice where
  content : Value
  toolCalls : List ToolCallDelta
  finishReason : Option FinishReason

/-- Reads a choice. -/
def choice (v : Value) : Outcome Choice := do
  let delta := part v "delta"
  let calls ← itemsOf (part delta "tool_calls")
  let toolCalls ← calls.mapM callDelta
  let finishReason ← reason (part v "finish_reason")
  return ⟨part delta "content", toolCalls, finishReason⟩

/-- Reads the first choice of a chunk, if there is one. -/
def firstChoice (choices : Value) : Outcome Choice := do
  match ← firstItem? choices with
  | some v => choice v
  | none => return ⟨.null, [], none⟩

/-- Reads a raw chunk. -/
def chunk (raw : Value) : Outcome PartialChunk := do
  let first ← firstChoice (part raw "choices")
  let cost ← usage (part raw "usage")
  (PartialChunk.mk
    <$> (Reader.nullable .text first.content).under (.name "text")
    <*> (Reader.nullable .text (orElse (part raw "id") .null)).under (.name "id")
    <*> (Reader.nullable .text (orElse (part raw "model") .null)).under (.name "model")
    <*> .ok first.finishReason
    <*> .ok cost
    <*> .ok first.toolCalls).toOutcome

end CompletionStream.Wire
