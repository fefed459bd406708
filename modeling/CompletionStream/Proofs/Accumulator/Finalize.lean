import CompletionStream.Proofs.Accumulator.CallTable
import CompletionStream.Proofs.Accumulator.Cost

/-!
# Finalize — an accumulator computes its reference, and only once

`gather` is the state that chunks leave behind.  Each of its fields is the reference's
(`foldl_take`), so finalizing gives what `Reference.concluded` says (`finalize_gather`).

A run of calls is a list of appends with, perhaps, a first finalization and whatever follows
it.  What follows is refused and changes nothing (`performAll_finalized`), whether or not the
finalization came to a response.
-/

namespace CompletionStream

namespace Accumulator

/-- What chunks leave in an accumulator. -/
def gather (chunks : List PartialChunk) : Accumulator :=
  chunks.foldl take fresh

/-- **Every field of the state is a fold of its own.** -/
theorem foldl_take (chunks : List PartialChunk) (acc : Accumulator) :
    chunks.foldl take acc
      = { acc with
          content := acc.content ++ Reference.content chunks
          calls := (Reference.deltas chunks).foldl CallTable.feed acc.calls
          finishReason := ((chunks.filterMap (·.finishReason)).getLast?).or acc.finishReason
          id := (lastSpoken (chunks.map (·.id))).or acc.id
          model := (lastSpoken (chunks.map (·.model))).or acc.model
          usage := ((chunks.filterMap (·.usage)).getLast?).or acc.usage } := by
  rw [← foldl_or, ← foldl_or, ← foldl_newer, ← foldl_newer]
  induction chunks generalizing acc with
  | nil => simp [Reference.content, Reference.deltas]
  | cons chunk rest ih =>
      rw [List.foldl_cons, ih]
      simp [take, Reference.content, Reference.deltas, String.append_assoc]

theorem gather_append (chunks : List PartialChunk) (chunk : PartialChunk) :
    gather (chunks ++ [chunk]) = (gather chunks).take chunk := by
  rw [gather, List.foldl_append]
  rfl

theorem gather_eq (chunks : List PartialChunk) :
    gather chunks
      = { content := Reference.content chunks
          calls := (Reference.deltas chunks).foldl CallTable.feed []
          finishReason := (chunks.filterMap (·.finishReason)).getLast?
          id := lastSpoken (chunks.map (·.id))
          model := lastSpoken (chunks.map (·.model))
          usage := (chunks.filterMap (·.usage)).getLast?
          finalized := false } := by
  rw [gather, foldl_take]
  simp [fresh]

theorem gather_build (chunks : List PartialChunk) :
    (gather chunks).calls.build = Reference.calls chunks := by
  rw [gather_eq]
  exact CallTable.build_foldl (Reference.deltas chunks)

/-- The response of gathered chunks is the reference's. -/
theorem response_gather (chunks : List PartialChunk) (usage : TokenUsage) :
    (gather chunks).response usage = Reference.response chunks usage := by
  have hreason : (gather chunks).reason = Reference.reason chunks := by
    rw [reason, gather_build, gather_eq, Reference.reason]
    cases (chunks.filterMap (·.finishReason)).getLast? <;> rfl
  rw [response, gather_build, hreason, gather_eq]
  rfl

/-- The cost of gathered chunks is the reference's. -/
theorem outputTokens_gather (chunks : List PartialChunk) (estimator : Option Estimator)
    (tally : Tally) :
    (gather chunks).outputTokens estimator tally = Reference.counted chunks estimator tally := by
  have hestimate : Reference.reported chunks = none →
      (gather chunks).estimate estimator tally
        = Reference.counted chunks estimator tally := by
    intro hnone
    rw [Reference.counted.eq_def, hnone, estimate.eq_def, gather_build, gather_eq]
    cases estimator <;> rfl
  have husage : (gather chunks).usage = (chunks.filterMap (·.usage)).getLast? := by
    rw [gather_eq]
  rw [outputTokens, husage]
  cases hlast : (chunks.filterMap (·.usage)).getLast? with
  | none => exact hestimate (by rw [Reference.reported, hlast]; rfl)
  | some usage =>
      by_cases hzero : usage.outputTokens = 0
      · have hnone : Reference.reported chunks = none := by
          rw [Reference.reported, hlast]; simp [hzero]
        rw [← hestimate hnone]
        exact if_pos hzero
      · have hsome : Reference.reported chunks = some usage.outputTokens := by
          rw [Reference.reported, hlast]; simp [hzero]
        rw [Reference.counted.eq_def, hsome]
        exact if_neg hzero

theorem conclude_gather (chunks : List PartialChunk) (estimator : Option Estimator)
    (inputTokens : Value) (tally : Tally) :
    (gather chunks).conclude estimator inputTokens tally
      = Reference.concluded chunks estimator inputTokens tally := by
  have hresponse : (gather chunks).response = Reference.response chunks :=
    funext (response_gather chunks)
  rw [conclude, outputTokens_gather, hresponse]
  rfl

/-- **Finalizing gathered chunks gives the reference**, and closes the accumulator whether or
    not there is a response. -/
theorem finalize_gather (chunks : List PartialChunk) (estimator : Option Estimator)
    (inputTokens : Value) (tally : Tally) :
    (gather chunks).finalize estimator inputTokens tally
      = ((Reference.concluded chunks estimator inputTokens tally).1,
          { gather chunks with finalized := true },
          (Reference.concluded chunks estimator inputTokens tally).2) := by
  have hopen : (gather chunks).finalized = false := by rw [gather_eq]
  rw [finalize, conclude_gather, hopen]
  rfl

/-- What finalizing comes to, if it comes to a response. -/
theorem concluded_ok {chunks : List PartialChunk} {estimator : Option Estimator}
    {inputTokens : Value} {tally : Tally} {r : Response}
    (h : (Reference.concluded chunks estimator inputTokens tally).1 = .ok r) :
    r = Reference.response chunks r.usage
      ∧ (Reference.counted chunks estimator tally).1 = .ok r.usage.outputTokens
      ∧ usageOf inputTokens r.usage.outputTokens = .ok r.usage := by
  rw [Reference.concluded] at h
  split at h
  · exact nomatch h
  · rename_i n tally' hcounted
    cases husage : usageOf inputTokens n with
    | error fault => rw [husage] at h; exact nomatch h
    | ok usage =>
        rw [husage] at h
        have hr : Reference.response chunks usage = r := Except.ok.inj h
        have hcount : usage.outputTokens = n := usageOf_outputTokens husage
        subst hr
        refine ⟨rfl, ?_, ?_⟩
        · rw [hcounted]; exact congrArg Except.ok hcount.symm
        · exact (congrArg (usageOf inputTokens) hcount).trans husage

-- ── Runs of calls ──────────────────────────────────────────────────────────────────

/-- What can be asked of an accumulator. -/
inductive Call where
  | append (chunk : PartialChunk)
  | finalize (inputTokens : Value)

/-- The fault of a call that comes after the finalization. -/
def Call.refusal : Call → Fault
  | .append _ => .of .streamState "chunk appended after the response was finalized"
  | .finalize _ => .of .streamState "response already finalized"

/-- Performs a call; an append that is taken gives no response. -/
def perform (estimator : Option Estimator) (acc : Accumulator) (tally : Tally) :
    Call → Outcome (Option Response) × Accumulator × Tally
  | .append chunk =>
    match acc.append chunk with
    | .ok acc => (.ok none, acc, tally)
    | .error fault => (.error fault, acc, tally)
  | .finalize inputTokens =>
    let (outcome, acc, tally) := acc.finalize estimator inputTokens tally
    (outcome.map some, acc, tally)

/-- Performs calls one after the other, whatever becomes of each. -/
def performAll (estimator : Option Estimator) :
    List Call → Accumulator → Tally → List (Outcome (Option Response)) × Accumulator × Tally
  | [], acc, tally => ([], acc, tally)
  | call :: rest, acc, tally =>
    let (outcome, acc, tally) := acc.perform estimator tally call
    let (outcomes, acc, tally) := performAll estimator rest acc tally
    (outcome :: outcomes, acc, tally)

/-- A finalized accumulator refuses a call and stays as it is. -/
theorem perform_finalized {acc : Accumulator} (h : acc.finalized = true)
    (estimator : Option Estimator) (tally : Tally) (call : Call) :
    acc.perform estimator tally call = (.error call.refusal, acc, tally) := by
  cases call with
  | append chunk => rw [perform, append, if_pos h]; rfl
  | finalize inputTokens => rw [perform, finalize, if_pos h]; rfl

theorem performAll_cons {estimator : Option Estimator} {acc acc' : Accumulator}
    {tally tally' : Tally} {call : Call} {outcome : Outcome (Option Response)}
    (h : acc.perform estimator tally call = (outcome, acc', tally')) (rest : List Call) :
    performAll estimator (call :: rest) acc tally
      = (outcome :: (performAll estimator rest acc' tally').1,
        (performAll estimator rest acc' tally').2) := by
  rw [performAll, h]

/-- A finalized accumulator refuses all calls and stays as it is. -/
theorem performAll_finalized {acc : Accumulator} (h : acc.finalized = true)
    (estimator : Option Estimator) (tally : Tally) (calls : List Call) :
    performAll estimator calls acc tally
      = (calls.map fun call => .error call.refusal, acc, tally) := by
  induction calls with
  | nil => rfl
  | cons call rest ih => rw [performAll_cons (perform_finalized h estimator tally call), ih]; rfl

/-- Chunks are taken one after the other, and nothing else happens. -/
theorem performAll_appends (estimator : Option Estimator) (tally : Tally)
    (chunks done : List PartialChunk) (calls : List Call) :
    performAll estimator (chunks.map .append ++ calls) (gather done) tally
      = (chunks.map (fun _ => .ok none)
          ++ (performAll estimator calls (gather (done ++ chunks)) tally).1,
        (performAll estimator calls (gather (done ++ chunks)) tally).2) := by
  induction chunks generalizing done with
  | nil => simp
  | cons chunk rest ih =>
      have hopen : (gather done).finalized = false := by rw [gather_eq]
      have htake : (gather done).perform estimator tally (.append chunk)
          = (.ok none, gather (done ++ [chunk]), tally) := by
        rw [perform, append, hopen, gather_append]; rfl
      rw [List.map_cons, List.cons_append, performAll_cons htake, ih (done ++ [chunk])]
      simp

/-- **Chunks, a finalization and what follows it**: every chunk is taken, the finalization comes
    to what the reference says of them, and all that follows is refused. -/
theorem performAll_finalize (estimator : Option Estimator) (chunks : List PartialChunk)
    (inputTokens : Value) (after : List Call) (tally : Tally) :
    performAll estimator (chunks.map .append ++ .finalize inputTokens :: after) fresh tally
      = (chunks.map (fun _ => .ok none)
          ++ (Reference.concluded chunks estimator inputTokens tally).1.map some
            :: after.map (fun call => .error call.refusal),
        { gather chunks with finalized := true },
        (Reference.concluded chunks estimator inputTokens tally).2) := by
  have hfinal : (gather chunks).perform estimator tally (.finalize inputTokens)
      = ((Reference.concluded chunks estimator inputTokens tally).1.map some,
        { gather chunks with finalized := true },
        (Reference.concluded chunks estimator inputTokens tally).2) := by
    rw [perform, finalize_gather]
  rw [show fresh = gather [] from rfl, performAll_appends, List.nil_append,
    performAll_cons hfinal, performAll_finalized rfl]

/-- Chunks and then a finalization come to what the reference says of them. -/
theorem performAll_concludes (estimator : Option Estimator) (chunks : List PartialChunk)
    (inputTokens : Value) (tally : Tally) :
    performAll estimator (chunks.map .append ++ [.finalize inputTokens]) fresh tally
      = (chunks.map (fun _ => .ok none)
          ++ [(Reference.concluded chunks estimator inputTokens tally).1.map some],
        { gather chunks with finalized := true },
        (Reference.concluded chunks estimator inputTokens tally).2) :=
  performAll_finalize estimator chunks inputTokens [] tally

/-- Before the first finalization there are only appends. -/
theorem calls_split (calls : List Call) :
    ∃ chunks : List PartialChunk, calls = chunks.map .append
      ∨ ∃ inputTokens rest, calls = chunks.map .append ++ .finalize inputTokens :: rest := by
  induction calls with
  | nil => exact ⟨[], Or.inl rfl⟩
  | cons call rest ih =>
      cases call with
      | finalize inputTokens => exact ⟨[], Or.inr ⟨inputTokens, rest, rfl⟩⟩
      | append chunk =>
          obtain ⟨chunks, rfl | ⟨inputTokens, after, rfl⟩⟩ := ih
          · exact ⟨chunk :: chunks, Or.inl rfl⟩
          · exact ⟨chunk :: chunks, Or.inr ⟨inputTokens, after, rfl⟩⟩

/-- A response that some call comes to is what the chunks before it add up to. -/
theorem response_of_mem_performAll {estimator : Option Estimator} {calls : List Call}
    {tally : Tally} {r : Response}
    (h : .ok (some r) ∈ (performAll estimator calls fresh tally).1) :
    ∃ chunks, r = Reference.response chunks r.usage := by
  have htaken {chunks : List PartialChunk}
      (hr : .ok (some r) ∈ chunks.map fun _ => (.ok none : Outcome (Option Response))) : False := by
    obtain ⟨chunk, -, heq⟩ := List.mem_map.mp hr
    exact nomatch heq
  obtain ⟨chunks, rfl | ⟨inputTokens, rest, rfl⟩⟩ := calls_split calls
  · have hrun := performAll_appends estimator tally chunks [] []
    rw [List.append_nil] at hrun
    rw [show fresh = gather [] from rfl, hrun, performAll, List.append_nil] at h
    exact (htaken h).elim
  · rw [performAll_finalize] at h
    rcases List.mem_append.mp h with h | h
    · exact (htaken h).elim
    rcases List.mem_cons.mp h with h | h
    · cases hresult : (Reference.concluded chunks estimator inputTokens tally).1 with
      | error fault =>
          rw [hresult] at h
          exact nomatch h
      | ok response =>
          rw [hresult] at h
          obtain rfl : r = response := Option.some.inj (Except.ok.inj h)
          exact ⟨chunks, (concluded_ok hresult).1⟩
    · obtain ⟨call, -, heq⟩ := List.mem_map.mp h
      exact nomatch heq

/-- A response is what chunks add up to, each field said by itself. -/
structure Describes (chunks : List PartialChunk) (r : Response) : Prop where
  content : r.content = String.join (chunks.map fun chunk => chunk.text.getD "")
  id : r.id = lastSpoken (chunks.map (·.id))
  model : r.model = lastSpoken (chunks.map (·.model))
  /-- One call for every index that some fragment names, in ascending order. -/
  toolCalls : ∃ indexes : List Int,
    indexes.Pairwise (· < ·)
      ∧ (∀ i, i ∈ indexes
          ↔ ∃ d ∈ Reference.deltas chunks, d.index = i ∧ (spoken d.name).isSome)
      ∧ r.toolCalls = indexes.map (Reference.call (Reference.deltas chunks))
  finishReason : r.finishReason = ((chunks.filterMap (·.finishReason)).getLast?).or
    (if r.toolCalls.isEmpty then none else some .toolExecution)

theorem describes_response (chunks : List PartialChunk) (usage : TokenUsage) :
    Describes chunks (Reference.response chunks usage) where
  content := rfl
  id := rfl
  model := rfl
  toolCalls := ⟨Reference.indexes (Reference.deltas chunks),
    Reference.indexes_ascending _, fun _ => Reference.mem_indexes, rfl⟩
  finishReason := rfl

/-- **AN ACCUMULATOR COMPUTES ITS REFERENCE, ONCE.**  Any run of calls starts with appends, all
    of them taken.  If it goes on with a finalization, that comes to what the reference says of
    exactly these chunks, and every later call is refused and leaves the state as the
    finalization left it.  A response describes the chunks and costs what was counted; with
    an integer for the request, its usage is complete. -/
theorem calls_conclude_once (estimator : Option Estimator) (calls : List Call)
    (tally : Tally) :
    ∃ chunks : List PartialChunk,
      (calls = chunks.map .append
        ∧ performAll estimator calls fresh tally
            = (chunks.map (fun _ => .ok none), chunks.foldl take fresh, tally))
      ∨ ∃ inputTokens rest outcome acc tally',
          calls = chunks.map .append ++ .finalize inputTokens :: rest
          ∧ performAll estimator (chunks.map .append ++ [.finalize inputTokens]) fresh tally
              = (chunks.map (fun _ => .ok none) ++ [outcome.map some], acc, tally')
          ∧ performAll estimator calls fresh tally
              = (chunks.map (fun _ => .ok none)
                  ++ outcome.map some :: rest.map (fun call => .error call.refusal),
                acc, tally')
          ∧ (outcome, tally') = Reference.concluded chunks estimator inputTokens tally
          ∧ ∀ r, outcome = .ok r →
              Describes chunks r
              ∧ (Reference.counted chunks estimator tally).1 = .ok r.usage.outputTokens
              ∧ ∀ i, inputTokens = .int i →
                  r.usage = ⟨i, r.usage.outputTokens, i + r.usage.outputTokens⟩ := by
  obtain ⟨chunks, rfl | ⟨inputTokens, rest, rfl⟩⟩ := calls_split calls
  · refine ⟨chunks, Or.inl ⟨rfl, ?_⟩⟩
    have h := performAll_appends estimator tally chunks [] []
    rw [List.append_nil] at h
    rw [show fresh = gather [] from rfl, h]
    simp [performAll, gather]
  · have hfinal : (gather chunks).perform estimator tally (.finalize inputTokens)
        = ((Reference.concluded chunks estimator inputTokens tally).1.map some,
          { gather chunks with finalized := true },
          (Reference.concluded chunks estimator inputTokens tally).2) := by
      rw [perform, finalize_gather]
    have hrun (after : List Call) :
        performAll estimator (chunks.map .append ++ .finalize inputTokens :: after) fresh tally
          = (chunks.map (fun _ => .ok none)
              ++ (Reference.concluded chunks estimator inputTokens tally).1.map some
                :: after.map (fun call => .error call.refusal),
            { gather chunks with finalized := true },
            (Reference.concluded chunks estimator inputTokens tally).2) := by
      rw [show fresh = gather [] from rfl, performAll_appends, List.nil_append,
        performAll_cons hfinal, performAll_finalized rfl]
    refine ⟨chunks, Or.inr ⟨inputTokens, rest, _, _, _, rfl, hrun [], hrun rest, rfl, ?_⟩⟩
    intro r hr
    obtain ⟨hresponse, hcount, husage⟩ := concluded_ok hr
    refine ⟨hresponse ▸ describes_response chunks r.usage, hcount, ?_⟩
    intro i hi
    rw [hi, usageOf_int] at husage
    exact (Except.ok.inj husage).symm

end Accumulator

end CompletionStream
