import CompletionStream.Proofs.Accumulator.Finalize
import CompletionStream.Proofs.Wire.Documented

/-!
# Fragments — a response that was cut up comes back whole

A response is a text and some tool calls, each at an index of its own.  A sequence of chunks
fragments it (`Fragments`) if the texts join to the text and, at the index of each call, one
fragment carries its name, at most one carries its id, and the arguments join to its arguments.
That is all: what comes in which order, in which chunk, and what else the chunks say is free.

What the chunks say about a call is the reference's account of it (`Fragments.call_eq`), and
the indexes at which there is a call are those of the response (`Fragments.mem_indexes_iff`).
So decoding the chunks and feeding them to an accumulator gives the response back, with its
calls in ascending order of their indexes (`fragments_decode`).
-/

namespace CompletionStream

/-- An estimator that never fails to estimate a response. -/
structure Estimator.Reliable (e : Estimator) : Prop where
  text : ∀ s tally, ∃ n, (e.countText s tally).1 = .ok n
  toolCalls : ∀ calls tally, ∃ n, (e.countToolCalls calls tally).1 = .ok n

/-- Over a reliable estimator the cost can always be told. -/
theorem Reference.counted_reliable (chunks : List PartialChunk) {estimator : Option Estimator}
    (h : ∀ e ∈ estimator, e.Reliable) (tally : Tally) :
    ∃ n, (counted chunks estimator tally).1 = .ok n := by
  rw [counted.eq_def]
  cases reported chunks with
  | some n => exact ⟨n, rfl⟩
  | none =>
      cases estimator with
      | none => exact ⟨0, rfl⟩
      | some e =>
          dsimp only
          split
          · exact (h e rfl).text _ tally
          · exact (h e rfl).toolCalls _ tally

/-- With an integer for the request and a cost that can be told there is a response. -/
theorem Reference.concluded_reliable (chunks : List PartialChunk)
    {estimator : Option Estimator} (h : ∀ e ∈ estimator, e.Reliable) (inputTokens : Int)
    (tally : Tally) :
    ∃ usage, (concluded chunks estimator (.int inputTokens) tally).1
      = .ok (response chunks usage) := by
  obtain ⟨n, hn⟩ := counted_reliable chunks h tally
  rw [concluded]
  generalize counted chunks estimator tally = result at hn ⊢
  obtain ⟨outcome, tally'⟩ := result
  obtain rfl : outcome = .ok n := hn
  dsimp only
  rw [Accumulator.usageOf_int]
  exact ⟨_, rfl⟩

namespace Wire

-- ── What chunks say together ───────────────────────────────────────────────────────

/-- All fragments of tool calls, in the order of their arrival. -/
def fragments (saids : List Said) : List Fragment :=
  saids.flatMap (·.fragments)

/-- The fragments at one index; a fragment without an index is at zero. -/
def fragmentsAt (saids : List Said) (i : Int) : List Fragment :=
  (fragments saids).filter fun f => f.index.getD 0 = i

/-- Chunks fragment a response: its content, and its tool calls with their indexes. -/
structure Fragments (saids : List Said) (content : String) (calls : List (Int × ToolCall)) :
    Prop where
  content : String.join (saids.map fun said => said.content.getD "") = content
  name : ∀ i call, (i, call) ∈ calls →
    ((fragmentsAt saids i).filterMap fun f => spoken f.name) = [call.name]
  id : ∀ i call, (i, call) ∈ calls →
    ((fragmentsAt saids i).filterMap fun f => spoken f.id) = call.id.toList
  arguments : ∀ i call, (i, call) ∈ calls →
    String.join ((fragmentsAt saids i).map fun f => f.arguments.getD "") = call.arguments
  /-- There are no names besides. -/
  only : ∀ f ∈ fragments saids, (spoken f.name).isSome →
    ∃ call, (f.index.getD 0, call) ∈ calls

/-- A response that was put together again. -/
structure Restores (saids : List Said) (content : String) (calls : List (Int × ToolCall))
    (response : Response) : Prop where
  content : response.content = content
  /-- The calls, in ascending order of their indexes. -/
  toolCalls : ∃ sorted : List (Int × ToolCall), sorted.Perm calls
    ∧ sorted.Pairwise (fun a b => a.1 < b.1) ∧ response.toolCalls = sorted.map (·.2)
  id : response.id = lastSpoken (saids.map (·.id))
  model : response.model = lastSpoken (saids.map (·.model))
  finishReason : response.finishReason
    = ((lastSpoken (saids.map (·.reason))).map FinishReason.ofReported).or
        (if calls.isEmpty then none else some .toolExecution)

theorem deltas_chunks (saids : List Said) :
    Reference.deltas (saids.map Said.chunk) = (fragments saids).map Fragment.delta := by
  rw [Reference.deltas, fragments, List.flatMap_map, List.map_flatMap]
  rfl

theorem fragments_delta (saids : List Said) (i : Int) :
    Reference.fragments ((fragments saids).map Fragment.delta) i
      = (fragmentsAt saids i).map Fragment.delta := by
  rw [Reference.fragments, List.filter_map]
  rfl

/-- What counts of what counts is all of it. -/
theorem spoken_spoken (text : Option String) : spoken (spoken text) = spoken text := by
  cases text with
  | none => rfl
  | some s =>
      by_cases hs : s = ""
      · rw [spoken_some, if_pos hs]
        rfl
      · rw [spoken_some, if_neg hs, spoken_some, if_neg hs]

theorem lastSpoken_spoken (texts : List (Option String)) :
    lastSpoken (texts.map spoken) = lastSpoken texts := by
  rw [lastSpoken, List.filterMap_map, show spoken ∘ spoken = spoken from funext spoken_spoken]
  rfl

namespace Fragments

variable {saids : List Said} {content : String} {calls : List (Int × ToolCall)}

/-- **What is said at the index of a call is the call.** -/
theorem call_eq (h : Fragments saids content calls) {i : Int} {call : ToolCall}
    (hcall : (i, call) ∈ calls) :
    Reference.call ((fragments saids).map Fragment.delta) i = call := by
  have hid : lastSpoken ((fragmentsAt saids i).map (·.id)) = call.id := by
    rw [lastSpoken, List.filterMap_map, show (spoken ∘ fun f : Fragment => f.id)
      = fun f => spoken f.id from rfl, h.id i call hcall]
    cases call.id <;> rfl
  have hname : lastSpoken ((fragmentsAt saids i).map (·.name)) = some call.name := by
    rw [lastSpoken, List.filterMap_map, show (spoken ∘ fun f : Fragment => f.name)
      = fun f => spoken f.name from rfl, h.name i call hcall]
    rfl
  rw [Reference.call, Reference.parts, fragments_delta]
  simp only [List.map_map]
  change ToolCall.mk (lastSpoken ((fragmentsAt saids i).map (·.id)))
    ((lastSpoken ((fragmentsAt saids i).map (·.name))).getD "")
    (String.join ((fragmentsAt saids i).map fun f => f.arguments.getD "")) = call
  rw [hid, hname, h.arguments i call hcall]
  rfl

/-- There is a call at an index exactly if the response has one there. -/
theorem mem_indexes_iff (h : Fragments saids content calls) {i : Int} :
    i ∈ Reference.indexes ((fragments saids).map Fragment.delta) ↔ ∃ call, (i, call) ∈ calls := by
  rw [Reference.mem_indexes]
  constructor
  · rintro ⟨d, hd, rfl, hname⟩
    obtain ⟨f, hf, rfl⟩ := List.mem_map.mp hd
    exact h.only f hf hname
  · rintro ⟨call, hcall⟩
    have hmem : call.name ∈ (fragmentsAt saids i).filterMap fun f => spoken f.name := by
      rw [h.name i call hcall]
      exact List.mem_singleton_self _
    obtain ⟨f, hf, hname⟩ := List.mem_filterMap.mp hmem
    obtain ⟨hf, hindex⟩ := List.mem_filter.mp hf
    refine ⟨f.delta, List.mem_map_of_mem hf, of_decide_eq_true hindex, ?_⟩
    exact Option.isSome_of_eq_some hname

/-- The calls of the reference, with their indexes, are those of the response. -/
theorem calls_perm (h : Fragments saids content calls) (hdistinct : (calls.map (·.1)).Nodup) :
    ((Reference.indexes ((fragments saids).map Fragment.delta)).map fun i =>
      (i, Reference.call ((fragments saids).map Fragment.delta) i)).Perm calls := by
  have hascending := Reference.indexes_ascending ((fragments saids).map Fragment.delta)
  have hindexes : (Reference.indexes ((fragments saids).map Fragment.delta)).Nodup :=
    hascending.imp fun hlt => by omega
  refine (List.perm_ext_iff_of_nodup ?_ hdistinct.of_map).mpr ?_
  · exact hindexes.map fun a b hab => congrArg Prod.fst hab
  · rintro ⟨i, call⟩
    rw [List.mem_map]
    constructor
    · rintro ⟨j, hj, heq⟩
      obtain ⟨rfl, rfl⟩ := Prod.mk.inj heq
      obtain ⟨call, hcall⟩ := h.mem_indexes_iff.mp hj
      rw [h.call_eq hcall]
      exact hcall
    · intro hcall
      exact ⟨i, h.mem_indexes_iff.mpr ⟨call, hcall⟩, by rw [h.call_eq hcall]⟩

/-- **The reference of the chunks restores the response.** -/
theorem restores (h : Fragments saids content calls) (hdistinct : (calls.map (·.1)).Nodup)
    (usage : TokenUsage) :
    Restores saids content calls (Reference.response (saids.map Said.chunk) usage) := by
  have hperm := h.calls_perm hdistinct
  have hcalls : Reference.calls (saids.map Said.chunk)
      = ((Reference.indexes ((fragments saids).map Fragment.delta)).map fun i =>
          (i, Reference.call ((fragments saids).map Fragment.delta) i)).map (·.2) := by
    rw [Reference.calls, deltas_chunks, List.map_map]
    rfl
  have hempty : (Reference.calls (saids.map Said.chunk)).isEmpty = calls.isEmpty := by
    rw [hcalls, List.isEmpty_map, hperm.isEmpty_eq]
  refine ⟨?_, ⟨_, hperm, ?_, hcalls⟩, ?_, ?_, ?_⟩
  · rw [← h.content]
    show Reference.content _ = _
    rw [Reference.content, List.map_map]
    rfl
  · exact List.pairwise_map.mpr (Reference.indexes_ascending _)
  · show lastSpoken _ = _
    rw [List.map_map, ← lastSpoken_spoken (saids.map (·.id)), List.map_map]
    rfl
  · show lastSpoken _ = _
    rw [List.map_map, ← lastSpoken_spoken (saids.map (·.model)), List.map_map]
    rfl
  · show Reference.reason _ = _
    rw [Reference.reason, hempty, List.filterMap_map, lastSpoken, ← List.getLast?_map,
      List.map_filterMap, List.filterMap_map]
    rfl

end Fragments

/-- **A RESPONSE THAT WAS CUT UP COMES BACK WHOLE.**  However documented chunks fragment a
    response, decoding them never fails; an accumulator takes every one of them and then
    finalizes, over no estimator or a reliable one; and what it finalizes to has that content
    and exactly those calls. -/
theorem fragments_decode {raws : List Value} {saids : List Said}
    (hraws : List.Forall₂ Says raws saids) {content : String} {calls : List (Int × ToolCall)}
    (hdistinct : (calls.map (·.1)).Nodup) (hfragments : Fragments saids content calls)
    {estimator : Option Estimator} (hreliable : ∀ e ∈ estimator, e.Reliable)
    (inputTokens : Int) (tally : Tally) :
    ∃ chunks response acc tally',
      raws.mapM chunk = .ok chunks
      ∧ Accumulator.performAll estimator
          (chunks.map .append ++ [.finalize (.int inputTokens)]) .fresh tally
        = (chunks.map (fun _ => .ok none) ++ [.ok (some response)], acc, tally')
      ∧ Restores saids content calls response := by
  obtain ⟨usage, hresponse⟩ :=
    Reference.concluded_reliable (saids.map Said.chunk) hreliable inputTokens tally
  have hfinal : (Accumulator.gather (saids.map Said.chunk)).perform estimator tally
        (.finalize (.int inputTokens))
      = (.ok (some (Reference.response (saids.map Said.chunk) usage)),
        { Accumulator.gather (saids.map Said.chunk) with finalized := true },
        (Reference.concluded (saids.map Said.chunk) estimator (.int inputTokens) tally).2) := by
    rw [Accumulator.perform, Accumulator.finalize_gather, hresponse]
    rfl
  refine ⟨saids.map Said.chunk, _,
    { Accumulator.gather (saids.map Said.chunk) with finalized := true },
    (Reference.concluded (saids.map Said.chunk) estimator (.int inputTokens) tally).2,
    mapM_chunk_said hraws, ?_, hfragments.restores hdistinct usage⟩
  rw [show Accumulator.fresh = .gather [] from rfl, Accumulator.performAll_appends,
    List.nil_append, Accumulator.performAll_cons hfinal]
  rfl

-- ── A text and two calls in three chunks ───────────────────────────────────────────

/-- Three chunks: the start of a call at index one with further choices, a usage, and a call
    without an index before the rest of the first. -/
def pieces : List Value :=
  [.object [("choices", .list [.object [("delta", .object [("content", .str "H"),
      ("tool_calls", .list [.object [("index", .int 1), ("id", .str "a"),
        ("function", .object [("name", .str "add"), ("arguments", .str "[1")])]])])],
      .null])],
   .object [("choices", .list []), ("usage", .object [("completion_tokens", .int 0)])],
   .object [("id", .str "r"), ("choices", .list [.object [("finish_reason", .str "tool_calls"),
      ("delta", .object [("content", .str "i"),
        ("tool_calls", .list [.object [("function", .object [("name", .str "get")])],
          .object [("index", .int 1), ("function", .object [("name", .str ""),
            ("arguments", .str "]")])]])])]])]]

/-- What the three chunks say. -/
def piecesSaid : List Said :=
  [⟨some "H", [⟨some 1, some "a", some "add", some "[1"⟩], none, none, none, none⟩,
   ⟨none, [], none, none, none, some ⟨none, some 0, none⟩⟩,
   ⟨some "i", [⟨none, none, some "get", none⟩, ⟨some 1, none, some "", some "]"⟩],
     some "tool_calls", some "r", none, none⟩]

/-- The two calls that are cut up. -/
def piecesCalls : List (Int × ToolCall) :=
  [(1, ⟨some "a", "add", "[1]"⟩), (0, ⟨none, "get", ""⟩)]

theorem pieces_said : List.Forall₂ Says pieces piecesSaid := by
  refine .cons (.object ?_ rfl rfl .absent) (.cons (.object .empty rfl rfl ?_)
    (.cons (.object ?_ rfl rfl .absent) .nil))
  · exact .first (.object rfl (.list (.cons (.object rfl rfl (.object rfl rfl)) .nil))) rfl
  · exact .object rfl rfl rfl
  · exact .first (.object rfl (.list (.cons (.object rfl rfl (.object rfl rfl))
      (.cons (.object rfl rfl (.object rfl rfl)) .nil)))) rfl

theorem pieces_fragments : Fragments piecesSaid "Hi" piecesCalls := by
  have hcalls (P : Int → ToolCall → Prop) (hadd : P 1 ⟨some "a", "add", "[1]"⟩)
      (hget : P 0 ⟨none, "get", ""⟩) : ∀ i call, (i, call) ∈ piecesCalls → P i call := by
    intro i call h
    rcases List.mem_cons.mp h with heq | h
    · obtain ⟨rfl, rfl⟩ := Prod.mk.inj heq
      exact hadd
    · obtain ⟨rfl, rfl⟩ := Prod.mk.inj (List.mem_singleton.mp h)
      exact hget
  refine ⟨rfl, hcalls _ rfl rfl, hcalls _ rfl rfl, hcalls _ rfl rfl, ?_⟩
  intro f hf hname
  rcases List.mem_cons.mp hf with rfl | hf
  · exact ⟨_, List.mem_cons_self⟩
  rcases List.mem_cons.mp hf with rfl | hf
  · exact ⟨_, List.mem_cons_of_mem _ (List.mem_singleton_self _)⟩
  · rw [List.mem_singleton.mp hf] at hname
    exact nomatch hname

/-- The three chunks come back as the text and the two calls, the later one first. -/
theorem fragments_decode_pieces :
    ∃ chunks response acc tally,
      pieces.mapM chunk = .ok chunks
      ∧ Accumulator.performAll none (chunks.map .append ++ [.finalize (.int 7)]) .fresh .fresh
        = (chunks.map (fun _ => .ok none) ++ [.ok (some response)], acc, tally)
      ∧ Restores piecesSaid "Hi" piecesCalls response :=
  fragments_decode pieces_said (by decide) pieces_fragments
    (fun e h => absurd h (Option.not_mem_none e)) 7 .fresh

end Wire

end CompletionStream
