import CompletionStream.Stream.Accumulator
import Mathlib.Data.List.Dedup
import Mathlib.Data.List.Sort

/-!
# Reference — what a list of chunks amounts to, said without an accumulator

An accumulator takes chunks one at a time and keeps a running state.  This file says what a
whole list of chunks amounts to, each field by itself and with no state at all:

* texts and argument fragments are joined in the order of their arrival;
* of ids, models, reasons and costs the last that is given stands;
* a tool call is what the fragments of its index say together, and there is a call for every
  index that some fragment names, in ascending order.

`Reference.response` puts the fields together, and `Reference.concluded` adds what the
response cost.
-/

namespace CompletionStream

/-- A text that is given and says something. -/
def spoken (text : Option String) : Option String :=
  text.filter (· ≠ "")

/-- The last of some texts that says something. -/
def lastSpoken (texts : List (Option String)) : Option String :=
  (texts.filterMap spoken).getLast?

namespace Reference

/-- The texts of chunks that say something. -/
def texts (chunks : List PartialChunk) : List String :=
  chunks.filterMap fun chunk => spoken chunk.text

/-- All texts in a row. -/
def content (chunks : List PartialChunk) : String :=
  String.join (chunks.map fun chunk => chunk.text.getD "")

/-- All fragments of tool calls, in the order of their arrival. -/
def deltas (chunks : List PartialChunk) : List ToolCallDelta :=
  chunks.flatMap (·.toolCalls)

/-- The fragments at one index, in the order of their arrival. -/
def fragments (ds : List ToolCallDelta) (index : Int) : List ToolCallDelta :=
  ds.filter fun d => d.index = index

/-- What the fragments at one index say together. -/
def parts (ds : List ToolCallDelta) (index : Int) : CallParts :=
  { id := lastSpoken ((fragments ds index).map (·.id))
    name := lastSpoken ((fragments ds index).map (·.name))
    arguments := String.join ((fragments ds index).map (·.arguments)) }

/-- The indexes that some fragment names, each once, in ascending order. -/
def indexes (ds : List ToolCallDelta) : List Int :=
  ((ds.filter fun d => (spoken d.name).isSome).map (·.index)).dedup.mergeSort

/-- The call at an index. -/
def call (ds : List ToolCallDelta) (index : Int) : ToolCall :=
  ⟨(parts ds index).id, (parts ds index).name.getD "", (parts ds index).arguments⟩

/-- The tool calls that the model asks for. -/
def calls (chunks : List PartialChunk) : List ToolCall :=
  (indexes (deltas chunks)).map (call (deltas chunks))

/-- Why the response ended: the last reason that was given, else that tools are asked for. -/
def reason (chunks : List PartialChunk) : Option FinishReason :=
  ((chunks.filterMap (·.finishReason)).getLast?).or
    (if (calls chunks).isEmpty then none else some .toolExecution)

/-- The count of the last usage that was given, unless it is zero. -/
def reported (chunks : List PartialChunk) : Option Int :=
  (((chunks.filterMap (·.usage)).getLast?).map (·.outputTokens)).filter (· ≠ 0)

/-- The response that chunks add up to, with a usage. -/
def response (chunks : List PartialChunk) (usage : TokenUsage) : Response :=
  { id := lastSpoken (chunks.map (·.id))
    model := lastSpoken (chunks.map (·.model))
    content := content chunks
    toolCalls := calls chunks
    finishReason := reason chunks
    usage }

/-- What the response cost: the count that was reported, else an estimate of the calls it asks
    for or, if it asks for none, of its content. -/
def counted (chunks : List PartialChunk) (estimator : Option Estimator) (tally : Tally) :
    Outcome Int × Tally :=
  match reported chunks, estimator with
  | some n, _ => (.ok n, tally)
  | none, none => (.ok 0, tally)
  | none, some e =>
    if (calls chunks).isEmpty then e.countText (content chunks) tally
    else e.countToolCalls (calls chunks) tally

/-- The response that chunks add up to, if its cost can be told. -/
def concluded (chunks : List PartialChunk) (estimator : Option Estimator)
    (inputTokens : Value) (tally : Tally) : Outcome Response × Tally :=
  match counted chunks estimator tally with
  | (.error fault, tally) => (.error fault, tally)
  | (.ok n, tally) => ((Accumulator.usageOf inputTokens n).map (response chunks), tally)

-- ── The indexes of calls ───────────────────────────────────────────────────────────

/-- An index is listed exactly if some fragment at it carries a name. -/
theorem mem_indexes {ds : List ToolCallDelta} {i : Int} :
    i ∈ indexes ds ↔ ∃ d ∈ ds, d.index = i ∧ (spoken d.name).isSome := by
  rw [indexes, List.mem_mergeSort, List.mem_dedup, List.mem_map]
  constructor
  · rintro ⟨d, hd, rfl⟩
    obtain ⟨hmem, hname⟩ := List.mem_filter.mp hd
    exact ⟨d, hmem, rfl, hname⟩
  · rintro ⟨d, hmem, rfl, hname⟩
    exact ⟨d, List.mem_filter.mpr ⟨hmem, hname⟩, rfl⟩

/-- The indexes ascend strictly, so that no call is listed twice. -/
theorem indexes_ascending (ds : List ToolCallDelta) : (indexes ds).Pairwise (· < ·) := by
  have hle : (indexes ds).Pairwise (· ≤ ·) := by
    have h := @List.pairwise_mergeSort Int (fun a b => decide (a ≤ b))
      (by intro a b c; simp; omega) (by intro a b; simp; omega)
      ((ds.filter fun d => (spoken d.name).isSome).map (·.index)).dedup
    exact h.imp (fun hab => of_decide_eq_true hab)
  have hne : (indexes ds).Pairwise (· ≠ ·) :=
    (List.mergeSort_perm _ _).nodup_iff.mpr (List.nodup_dedup _)
  exact hle.imp₂ (fun hab hneq => by omega) hne

end Reference

end CompletionStream
