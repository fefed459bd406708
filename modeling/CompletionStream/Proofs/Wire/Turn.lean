import CompletionStream.Proofs.Wire.Fragments
import CompletionStream.Wire.Encode

/-!
# Turns — what goes out as a turn comes back as the same response

A response becomes a turn of the conversation, and the turn is written on the wire.  `presented`
turns it around: what the wire says of content and calls is presented as a chunk, with the
calls at the indexes 0, 1, 2 and so on.

On the way empty content becomes null, or empty again; a call without an id has a null one; the
indexes that the calls had are gone, and calls without a name were never in the response.  None
of it is lost, since a call of a response always has a name and never an empty id
(`spelled_calls`), so that it says all it is (`Spelled`).  The chunk fragments the response
(`turnSaid_fragments`), and there is only one way to put the fragments in order
(`toolCalls_of_restores`).
-/

namespace CompletionStream.Wire

-- ── The turn as a chunk ────────────────────────────────────────────────────────────

/-- A call of a turn as the fragment at an index. -/
def presentedCall (call : Value) (i : Nat) : Value :=
  .object [("index", .int i), ("id", part call "id"),
    ("function", .object [("name", part (part call "function") "name"),
      ("arguments", part (part call "function") "arguments")])]

/-- The calls of a turn, each at its position. -/
def presentedCalls (turn : Value) : Value :=
  .list (((part turn "tool_calls").items?.getD []).zipIdx.map fun (call, i) =>
    presentedCall call i)

/-- The content and the calls of a turn as a provider's chunk. -/
def presented (turn : Value) : Value :=
  .object [("choices", .list [.object [("delta", .object
    [("content", part turn "content"), ("tool_calls", presentedCalls turn)])]])]

/-- Calls at the indexes 0, 1, 2 and so on. -/
def numbered (calls : List ToolCall) : List (Int × ToolCall) :=
  calls.zipIdx.map fun (call, i) => ((i : Int), call)

/-- What the fragment of a call at its index says. -/
def callSaid (entry : Int × ToolCall) : Fragment :=
  ⟨some entry.1, entry.2.id, some entry.2.name, some entry.2.arguments⟩

/-- What the chunk of a turn says. -/
def turnSaid (content : Option String) (calls : List ToolCall) : Said :=
  ⟨content, (numbered calls).map callSaid, none, none, none, none⟩

theorem presentedCall_said (call : ToolCall) (i : Nat) :
    SaysFragment (presentedCall (toolCall call) i) (callSaid ((i : Int), call)) :=
  .object rfl rfl (.object rfl rfl)

theorem presentedCalls_said (calls : List ToolCall) :
    List.Forall₂ SaysFragment
      ((calls.map toolCall).zipIdx.map fun (call, i) => presentedCall call i)
      ((numbered calls).map callSaid) := by
  rw [List.zipIdx_map, List.map_map, numbered, List.map_map, List.forall₂_map_left_iff,
    List.forall₂_map_right_iff, List.forall₂_same]
  exact fun (call, i) _ => presentedCall_said call i

theorem toMessage_content (r : Response) : r.toMessage.content.getD "" = r.content := by
  rw [Response.toMessage]
  by_cases hempty : r.content = ""
  · rw [if_pos hempty, hempty]
    rfl
  · rw [if_neg hempty]
    rfl

/-- **A turn that is presented says the content and the calls of the response**; content that is
    empty may be missing. -/
theorem presented_said (r : Response) :
    ∃ content, content.getD "" = r.content
      ∧ Says (presented (message r.toMessage)) (turnSaid content r.toolCalls) := by
  by_cases hcalls : r.toolCalls = []
  · have hturn : message r.toMessage
        = .object [("role", .str "assistant"), ("content", contentOrEmpty r.toMessage.content)] :=
      if_pos (List.isEmpty_iff.mpr hcalls)
    refine ⟨some (r.toMessage.content.getD ""), toMessage_content r, ?_⟩
    rw [hturn, hcalls]
    exact .object (.first (.object rfl (.list .nil)) rfl) rfl rfl .absent
  · have hturn : message r.toMessage
        = .object [("role", .str "assistant"), ("content", .ofOption .str r.toMessage.content),
            ("tool_calls", .list (r.toolCalls.map toolCall))] :=
      if_neg fun h => hcalls (List.isEmpty_iff.mp h)
    refine ⟨r.toMessage.content, toMessage_content r, ?_⟩
    rw [hturn]
    exact .object (.first (.object rfl (.list (presentedCalls_said r.toolCalls))) rfl) rfl rfl
      .absent

-- ── The calls of a response ────────────────────────────────────────────────────────

/-- A call that says all it is: it has a name, and its id is not empty. -/
structure Spelled (call : ToolCall) : Prop where
  name : spoken (some call.name) = some call.name
  id : spoken call.id = call.id

theorem spoken_lastSpoken (texts : List (Option String)) :
    spoken (lastSpoken texts) = lastSpoken texts := by
  cases hlast : lastSpoken texts with
  | none => rfl
  | some s =>
      obtain ⟨text, -, hs⟩ := List.mem_filterMap.mp (List.mem_of_getLast? hlast)
      rw [← hs, spoken_spoken]

/-- **The calls of a response say all they are.** -/
theorem spelled_calls (chunks : List PartialChunk) :
    ∀ call ∈ Reference.calls chunks, Spelled call := by
  intro call hcall
  obtain ⟨i, hi, rfl⟩ := List.mem_map.mp hcall
  refine ⟨?_, spoken_lastSpoken _⟩
  rw [Reference.call_name hi]
  exact spoken_lastSpoken _

-- ── The chunk as fragments of the response ─────────────────────────────────────────

/-- Of items with keys of their own, those with the key of one item are that item. -/
theorem filter_key {α β : Type} [DecidableEq β] {key : α → β} {items : List α}
    (hdistinct : (items.map key).Nodup) {item : α} (hitem : item ∈ items) :
    (items.filter fun a => key a = key item) = [item] := by
  induction items with
  | nil => exact absurd hitem List.not_mem_nil
  | cons head rest ih =>
      obtain ⟨hfresh, hdistinct⟩ := List.nodup_cons.mp hdistinct
      rcases List.mem_cons.mp hitem with rfl | hitem
      · have hnone : (rest.filter fun a => key a = key item) = [] := by
          refine List.filter_eq_nil_iff.mpr fun a ha heq => hfresh ?_
          exact of_decide_eq_true heq ▸ List.mem_map_of_mem ha
        rw [List.filter_cons, if_pos (decide_eq_true rfl), hnone]
      · have hne : key head ≠ key item := fun heq => hfresh (heq ▸ List.mem_map_of_mem hitem)
        rw [List.filter_cons, if_neg (by simpa using hne), ih hdistinct hitem]

theorem numbered_ascending (calls : List ToolCall) :
    (numbered calls).Pairwise fun a b => a.1 < b.1 := by
  have hpositions : (calls.zipIdx.map Prod.snd).Pairwise (· < ·) := by
    rw [List.zipIdx_map_snd]
    exact List.pairwise_lt_range' 1
  rw [numbered, List.pairwise_map]
  exact (List.pairwise_map.mp hpositions).imp fun hlt => Int.ofNat_lt.mpr hlt

theorem numbered_distinct (calls : List ToolCall) : ((numbered calls).map (·.1)).Nodup :=
  (List.pairwise_map.mpr (numbered_ascending calls)).imp Int.ne_of_lt

theorem numbered_calls (calls : List ToolCall) : (numbered calls).map (·.2) = calls := by
  rw [numbered, List.map_map]
  exact List.zipIdx_map_fst 0 calls

theorem fragments_turnSaid (content : Option String) (calls : List ToolCall) :
    fragments [turnSaid content calls] = (numbered calls).map callSaid := by
  rw [fragments, List.flatMap_cons, List.flatMap_nil, List.append_nil]
  rfl

/-- What is said at the index of a call is the call alone. -/
theorem fragmentsAt_turnSaid (content : Option String) {calls : List ToolCall} {i : Int}
    {call : ToolCall} (hcall : (i, call) ∈ numbered calls) :
    fragmentsAt [turnSaid content calls] i = [callSaid (i, call)] := by
  rw [fragmentsAt, fragments_turnSaid, List.filter_map]
  exact congrArg (List.map callSaid) (filter_key (numbered_distinct calls) hcall)

/-- **The chunk of a turn fragments the response.** -/
theorem turnSaid_fragments (content : Option String) {calls : List ToolCall}
    (hspelled : ∀ call ∈ calls, Spelled call) :
    Fragments [turnSaid content calls] (content.getD "") (numbered calls) := by
  have hcalls {i : Int} {call : ToolCall} (hcall : (i, call) ∈ numbered calls) :
      Spelled call := by
    refine hspelled call ?_
    rw [← numbered_calls calls]
    exact List.mem_map_of_mem hcall
  refine ⟨?_, ?_, ?_, ?_, ?_⟩
  · exact String.empty_append
  · intro i call hcall
    rw [fragmentsAt_turnSaid content hcall, List.filterMap_cons, callSaid, (hcalls hcall).name]
    rfl
  · intro i call hcall
    rw [fragmentsAt_turnSaid content hcall, List.filterMap_cons, callSaid, (hcalls hcall).id]
    cases call.id <;> rfl
  · intro i call hcall
    rw [fragmentsAt_turnSaid content hcall]
    exact String.empty_append
  · intro f hf _
    rw [fragments_turnSaid] at hf
    obtain ⟨⟨i, call⟩, hcall, rfl⟩ := List.mem_map.mp hf
    exact ⟨call, hcall⟩

/-- There is one way only to put the calls of a turn in order. -/
theorem toolCalls_of_restores {saids : List Said} {content : String} {calls : List ToolCall}
    {r : Response} (h : Restores saids content (numbered calls) r) : r.toolCalls = calls := by
  obtain ⟨sorted, hperm, hascending, heq⟩ := h.toolCalls
  have hsorted : sorted = numbered calls :=
    hperm.eq_of_pairwise (fun a b _ _ hab hba => absurd (Int.lt_trans hab hba) (Int.lt_irrefl _))
      hascending (numbered_ascending calls)
  rw [heq, hsorted, numbered_calls]

/-- **A TURN COMES BACK AS THE SAME RESPONSE.**  Whatever is asked of an accumulator, take a
    response that it comes to, and write it on the wire as a turn of the assistant.  Presented as
    a chunk, the turn is decoded, and a fresh accumulator takes it.  Finalizing comes to a
    response over a reliable estimator and an integer for the request; and every response it
    comes to has the same content and the same calls in the same order. -/
theorem turn_comes_back {estimator : Option Estimator} {calls : List Accumulator.Call}
    {tally : Tally} {r : Response}
    (h : .ok (some r) ∈ (Accumulator.performAll estimator calls .fresh tally).1)
    (estimator' : Option Estimator) (inputTokens : Value) (tally' : Tally) :
    ∃ (again : PartialChunk) (outcome : Outcome Response) (acc : Accumulator) (tally'' : Tally),
      chunk (presented (message r.toMessage)) = .ok again
      ∧ Accumulator.performAll estimator' [.append again, .finalize inputTokens] .fresh tally'
        = ([.ok none, outcome.map some], acc, tally'')
      ∧ ((∀ e ∈ estimator', e.Reliable) → ∀ n, inputTokens = .int n → ∃ r', outcome = .ok r')
      ∧ ∀ r', outcome = .ok r' → r'.content = r.content ∧ r'.toolCalls = r.toolCalls := by
  obtain ⟨chunks, hr⟩ := Accumulator.response_of_mem_performAll h
  have hspelled : ∀ call ∈ r.toolCalls, Spelled call := by
    rw [hr]
    exact spelled_calls chunks
  obtain ⟨content, hcontent, hsaid⟩ := presented_said r
  have hrun := Accumulator.performAll_concludes estimator' [(turnSaid content r.toolCalls).chunk]
    inputTokens tally'
  refine ⟨_, _, _, _, chunk_said hsaid, hrun, ?_, ?_⟩
  · rintro hreliable n rfl
    obtain ⟨usage, hok⟩ := Reference.concluded_reliable
      [(turnSaid content r.toolCalls).chunk] hreliable n tally'
    exact ⟨_, hok⟩
  · intro r' hr'
    have hrestores := (turnSaid_fragments content hspelled).restores
      (numbered_distinct r.toolCalls) r'.usage
    rw [List.map_singleton, ← (Accumulator.concluded_ok hr').1] at hrestores
    exact ⟨hrestores.content.trans hcontent, toolCalls_of_restores hrestores⟩

/-- Three chunks without a text: two calls in reverse order, far apart, one of them in two
    fragments and one without an id, and a call that is never named. -/
def scattered : List PartialChunk :=
  [{ (default : PartialChunk) with toolCalls := [⟨40, some "b", some "get", "[1"⟩] },
   { (default : PartialChunk) with
      toolCalls := [⟨-2, some "", some "add", "[]"⟩, ⟨7, some "c", none, "lost"⟩] },
   { (default : PartialChunk) with toolCalls := [⟨40, none, some "", "]"⟩] }]

/-- What they add up to. -/
def scatteredResponse : Response :=
  { id := none
    model := none
    content := ""
    toolCalls := [⟨none, "add", "[]"⟩, ⟨some "b", "get", "[1]"⟩]
    finishReason := some .toolExecution
    usage := ⟨3, 0, 3⟩ }

/-- The two calls come back in ascending order, and the text that was missing is empty. -/
theorem turn_comes_back_scattered :
    .ok (some scatteredResponse)
        ∈ (Accumulator.performAll none (scattered.map .append ++ [.finalize (.int 3)]) .fresh
            .fresh).1
      ∧ ∃ (again : PartialChunk) (r : Response) (acc : Accumulator) (tally : Tally),
        chunk (presented (message scatteredResponse.toMessage)) = .ok again
        ∧ Accumulator.performAll none [.append again, .finalize (.int 5)] .fresh .fresh
          = ([.ok none, .ok (some r)], acc, tally)
        ∧ r.content = scatteredResponse.content ∧ r.toolCalls = scatteredResponse.toolCalls := by
  have hmem : .ok (some scatteredResponse)
      ∈ (Accumulator.performAll none (scattered.map .append ++ [.finalize (.int 3)]) .fresh
          .fresh).1 :=
    .tail _ (.tail _ (.tail _ (.head _)))
  obtain ⟨again, outcome, acc, tally, hchunk, hrun, hfinal, hsame⟩ :=
    turn_comes_back hmem none (.int 5) .fresh
  obtain ⟨r, rfl⟩ := hfinal (fun e he => absurd he (Option.not_mem_none e)) 5 rfl
  exact ⟨hmem, again, r, acc, tally, hchunk, hrun, hsame r rfl⟩

end CompletionStream.Wire
