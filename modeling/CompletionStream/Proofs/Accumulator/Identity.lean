import CompletionStream.Proofs.Wire.Fragments

/-!
# Identity — the id and the name that a call ends up with

A call is opened by the first fragment at its index that carries an id or a name, and a
provider says each of them once.  What a call has in the end is what the *last* fragment with
an id or a name says.  So a call keeps the identity it was opened with exactly as long as no
later fragment at its own index ends up saying something else (`OpenedBy`), whatever comes at
other indexes (`identity_kept`); a fragment that comes late and names the call anew gives it
another identity (`identity_lost`).
-/

namespace CompletionStream

/-- The first of some texts that says something. -/
def firstSpoken (texts : List (Option String)) : Option String :=
  (texts.filterMap spoken).head?

/-- What was said last is what was said first. -/
def Unchanged (texts : List (Option String)) : Prop :=
  lastSpoken texts = firstSpoken texts

namespace Accumulator

/-- A call has the name and the id that its fragments said first, provided that they were not
    changed later; and only then. -/
structure OpenedBy (ds : List ToolCallDelta) (call : ToolCall) : Prop where
  name : some call.name = firstSpoken (ds.map (·.name)) ↔ Unchanged (ds.map (·.name))
  id : call.id = firstSpoken (ds.map (·.id)) ↔ Unchanged (ds.map (·.id))

/-- The call at a named index is opened by the fragments at that index. -/
theorem openedBy_call {ds : List ToolCallDelta} {i : Int} (h : i ∈ Reference.indexes ds) :
    OpenedBy (Reference.fragments ds i) (Reference.call ds i) where
  name := by
    rw [Reference.call_name h]
    rfl
  id := Iff.rfl

/-- **A CALL KEEPS THE IDENTITY IT WAS OPENED WITH**, unless it is changed.  Chunks are taken and
    finalized, over a reliable estimator and an integer for the request with a response.  A
    response has one call for every index that some fragment names, in ascending order, and
    each has the first name and the first id that the fragments of its own index said, in the
    order of their arrival, exactly if the last they said is the same. -/
theorem identity_kept (estimator : Option Estimator) (chunks : List PartialChunk)
    (inputTokens : Value) (tally : Tally) :
    ∃ (outcome : Outcome Response) (acc : Accumulator) (tally' : Tally),
      performAll estimator (chunks.map .append ++ [.finalize inputTokens]) fresh tally
        = (chunks.map (fun _ => .ok none) ++ [outcome.map some], acc, tally')
      ∧ ((∀ e ∈ estimator, e.Reliable) → ∀ n, inputTokens = .int n → ∃ r, outcome = .ok r)
      ∧ ∀ r, outcome = .ok r → ∃ indexes : List Int,
          indexes.Pairwise (· < ·)
          ∧ (∀ i, i ∈ indexes
              ↔ ∃ d ∈ Reference.deltas chunks, d.index = i ∧ (spoken d.name).isSome)
          ∧ List.Forall₂ (fun i => OpenedBy (Reference.fragments (Reference.deltas chunks) i))
              indexes r.toolCalls := by
  refine ⟨_, _, _, performAll_concludes estimator chunks inputTokens tally, ?_, ?_⟩
  · rintro hreliable n rfl
    obtain ⟨usage, hok⟩ := Reference.concluded_reliable chunks hreliable n tally
    exact ⟨_, hok⟩
  · intro r hr
    have htoolCalls : r.toolCalls = Reference.calls chunks := by
      rw [(concluded_ok hr).1]
      rfl
    refine ⟨Reference.indexes (Reference.deltas chunks), Reference.indexes_ascending _,
      fun _ => Reference.mem_indexes, ?_⟩
    rw [htoolCalls, Reference.calls, List.forall₂_map_right_iff, List.forall₂_same]
    exact fun i hi => openedBy_call hi

/-- A call that is opened as `lookup` and goes on under another name. -/
def renamedCall : List PartialChunk :=
  [{ (default : PartialChunk) with toolCalls := [⟨0, some "call_1", some "lookup", "\x7b"⟩] },
   { (default : PartialChunk) with toolCalls := [⟨0, some "call_2", some "search", "\x7d"⟩] }]

/-- The fragment that comes later gives the call its own id and name. -/
theorem identity_lost :
    ∃ r acc tally,
      performAll none (renamedCall.map .append ++ [.finalize (.int 0)]) fresh .fresh
        = ([.ok none, .ok none, .ok (some r)], acc, tally)
      ∧ r.toolCalls = [⟨some "call_2", "search", "\x7b\x7d"⟩]
      ∧ firstSpoken ((Reference.fragments (Reference.deltas renamedCall) 0).map (·.name))
        = some "lookup"
      ∧ firstSpoken ((Reference.fragments (Reference.deltas renamedCall) 0).map (·.id))
        = some "call_1" :=
  ⟨_, _, _, rfl, rfl, rfl, rfl⟩

end Accumulator

end CompletionStream
