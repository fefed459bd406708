import CompletionStream.Chat.Response
import CompletionStream.Proofs.Chat.Usage

/-!
# Rebuilding — what was built is built again from its own fields

A usage, a chunk or a response is written as a value, field by field, and read again.  Every
field comes back as it was, but for the total of a usage: a total of zero counts as missing and
is filled in with the sum of the parts.  So what is read is `rebuilt` (`read_toValue` for each of
the three), and reading it once more changes nothing.

A usage that was built has a total of zero that is not the sum in one case only: its total was
told as a text (`TokenUsage.total_zero_iff`).  The text is not empty, so it is not filled in,
but the zero that is stored for it is, the next time.
-/

namespace CompletionStream

/-- Data is built again from its own fields: it always can be, it comes out as it was under one
    condition exactly, and what comes out is built again as it is. -/
structure BuiltAgain {α : Type} (read : Reader α) (write : α → Value) (again : α → α) (a : α)
    (unchanged : Prop) : Prop where
  built : read (write a) = .ok (again a)
  same : again a = a ↔ unchanged
  settled : read (write (again a)) = .ok (again a)

/-- It is enough to know what is read from what was written, for all data. -/
theorem BuiltAgain.of_read_write {α : Type} {read : Reader α} {write : α → Value}
    {again : α → α} (hread : ∀ a, read (write a) = .ok (again a))
    (hagain : ∀ a, again (again a) = again a) {a : α} {unchanged : Prop}
    (hsame : again a = a ↔ unchanged) : BuiltAgain read write again a unchanged where
  built := hread a
  same := hsame
  settled := (hread (again a)).trans (congrArg Checked.ok (hagain a))

/-- Where the condition holds, data survives. -/
theorem BuiltAgain.survives {α : Type} {read : Reader α} {write : α → Value} {again : α → α}
    {a : α} {unchanged : Prop} (h : BuiltAgain read write again a unchanged)
    (hunchanged : unchanged) : read (write a) = .ok a :=
  h.built.trans (congrArg Checked.ok (h.same.mpr hunchanged))

-- ── Usages ─────────────────────────────────────────────────────────────────────────

namespace TokenUsage

/-- The usage that is built from the fields of one. -/
def rebuilt (u : TokenUsage) : TokenUsage :=
  ofCounts u.inputTokens u.outputTokens u.totalTokens

variable {u : TokenUsage} {v : Value}

theorem rebuilt_of_zero (h : u.totalTokens = 0) :
    u.rebuilt = { u with totalTokens := u.inputTokens + u.outputTokens } := by
  rw [rebuilt, ofCounts, if_pos h]

theorem rebuilt_of_ne_zero (h : u.totalTokens ≠ 0) : u.rebuilt = u := by
  rw [rebuilt, ofCounts, if_neg h]

/-- A usage is rebuilt as it is unless a total of zero is not the sum. -/
theorem rebuilt_eq_self_iff :
    u.rebuilt = u ↔ (u.totalTokens = 0 → u.inputTokens + u.outputTokens = 0) := by
  by_cases h : u.totalTokens = 0
  · rw [rebuilt_of_zero h]
    constructor
    · intro hsame _
      exact (congrArg totalTokens hsame).trans h
    · intro hsum
      rw [hsum h, ← h]
  · exact iff_of_true (rebuilt_of_ne_zero h) fun hzero => absurd hzero h

theorem rebuilt_rebuilt (u : TokenUsage) : u.rebuilt.rebuilt = u.rebuilt := by
  rw [rebuilt_eq_self_iff]
  by_cases h : u.totalTokens = 0
  · rw [rebuilt_of_zero h]
    exact id
  · rw [rebuilt_of_ne_zero h]
    exact fun hzero => absurd hzero h

/-- The members that a usage is written as. -/
def counts (u : TokenUsage) : Members :=
  [(.str "input_tokens", .int u.inputTokens), (.str "output_tokens", .int u.outputTokens),
    (.str "total_tokens", .int u.totalTokens)]

theorem toValue_eq (u : TokenUsage) : u.toValue = .dict u.counts := rfl

/-- **What is read from a usage that was written.** -/
theorem read_toValue (u : TokenUsage) : read u.toValue = .ok u.rebuilt := by
  have htotal : u.counts.getOrNull "total_tokens" = .int u.totalTokens := rfl
  rw [toValue_eq]
  by_cases h : u.totalTokens = 0
  · have hempty : (u.counts.getOrNull "total_tokens").truthy = false := by
      rw [htotal, h]
      rfl
    rw [rebuilt_of_zero h]
    refine (read_untold hempty).mpr ⟨rfl, rfl, ?_⟩
    exact rawTotal_eq_ok.mpr ⟨_, _, countOrZero_int _, countOrZero_int _, rfl⟩
  · have htold : (u.counts.getOrNull "total_tokens").truthy = true := by
      rw [htotal]
      simpa [Value.truthy] using h
    rw [rebuilt_of_ne_zero h]
    exact (read_told htold).mpr ⟨rfl, rfl, rfl⟩

/-- A usage that was built is rebuilt as it is unless its total is a zero in words. -/
theorem rebuilt_of_read (hread : read v = .ok u) :
    u.rebuilt = u ↔ (ZeroInWords v → u.inputTokens + u.outputTokens = 0) := by
  rw [rebuilt_eq_self_iff]
  by_cases hsum : u.inputTokens + u.outputTokens = 0
  · exact iff_of_true (fun _ => hsum) fun _ => hsum
  · rw [total_zero_iff hread hsum]

end TokenUsage

-- ── Chunks ─────────────────────────────────────────────────────────────────────────

theorem FinishReason.read_word (r : FinishReason) : read (.str r.word) = .ok r := by
  cases r <;> rfl

theorem Reader.nullable_reason (given : Option FinishReason) :
    nullable FinishReason.read (.ofOption (fun r => .str r.word) given) = .ok given := by
  apply nullable_ofOption
  · exact FinishReason.read_word
  · exact fun _ h => nomatch h

namespace ToolCallDelta

/-- A fragment is read back as it was written. -/
theorem read_toValue (d : ToolCallDelta) : read d.toValue = .ok d := by
  show (ToolCallDelta.mk <$> (Reader.integer (.int d.index)).under (.name "index")
    <*> (Reader.nullable .text (.ofOption .str d.id)).under (.name "id")
    <*> (Reader.nullable .text (.ofOption .str d.name)).under (.name "name")
    <*> (Reader.text (.str d.arguments)).under (.name "arguments")) = .ok d
  rw [Reader.nullable_text, Reader.nullable_text]
  rfl

end ToolCallDelta

namespace PartialChunk

/-- The chunk that is built from the fields of one. -/
def rebuilt (c : PartialChunk) : PartialChunk :=
  { c with usage := c.usage.map TokenUsage.rebuilt }

variable {c : PartialChunk} {v : Value}

/-- **What is read from a chunk that was written.** -/
theorem read_toValue (c : PartialChunk) : read c.toValue = .ok c.rebuilt := by
  show (PartialChunk.mk <$> (Reader.nullable .text (.ofOption .str c.text)).under (.name "text")
    <*> (Reader.nullable .text (.ofOption .str c.id)).under (.name "id")
    <*> (Reader.nullable .text (.ofOption .str c.model)).under (.name "model")
    <*> (Reader.nullable FinishReason.read
          (.ofOption (fun r => .str r.word) c.finishReason)).under (.name "finish_reason")
    <*> (Reader.nullable TokenUsage.read (.ofOption TokenUsage.toValue c.usage)).under
          (.name "usage")
    <*> (Reader.tupleOf ToolCallDelta.read (.tuple (c.toolCalls.map ToolCallDelta.toValue))).under
          (.name "tool_calls")) = .ok c.rebuilt
  have husage := Reader.nullable_ofOption_map TokenUsage.read_toValue (fun _ h => nomatch h) c.usage
  have hcalls := Reader.tupleOf_written ToolCallDelta.read_toValue c.toolCalls
  rw [Reader.nullable_text, Reader.nullable_text, Reader.nullable_text, Reader.nullable_reason,
    husage, hcalls]
  rfl

theorem rebuilt_rebuilt (c : PartialChunk) : c.rebuilt.rebuilt = c.rebuilt := by
  have hcomp : TokenUsage.rebuilt ∘ TokenUsage.rebuilt = TokenUsage.rebuilt :=
    funext TokenUsage.rebuilt_rebuilt
  rw [rebuilt, rebuilt, Option.map_map, hcomp]

theorem rebuilt_eq_self_iff : c.rebuilt = c ↔ ∀ u, c.usage = some u → u.rebuilt = u := by
  have hfields : c.rebuilt = c ↔ c.usage.map TokenUsage.rebuilt = c.usage :=
    ⟨congrArg usage, fun h => by rw [rebuilt, h]⟩
  rw [hfields]
  cases c.usage with
  | none => simp
  | some u => simp

/-- The usage of a chunk that was built was built from the chunk's member. -/
theorem usage_of_read {u : TokenUsage} (hread : read v = .ok c) (husage : c.usage = some u) :
    TokenUsage.read (v.member "usage") = .ok u := by
  obtain ⟨m, rfl, hfields⟩ := Reader.record_eq_ok.mp hread
  simp only [Checked.seq_eq_ok, Checked.map_eq_ok] at hfields
  obtain ⟨_, calls, ⟨_, usage, ⟨_, reason, ⟨_, model, ⟨_, id, ⟨text, -, rfl⟩, -, rfl⟩,
    -, rfl⟩, -, rfl⟩, hmember, rfl⟩, -, rfl⟩ := hfields
  obtain rfl : usage = some u := husage
  obtain hread | ⟨-, hnone⟩ := Reader.of_optional hmember
  · exact Reader.nullable_eq_some hread
  · exact absurd hnone.symm (Option.some_ne_none u)

/-- A chunk that was built is rebuilt as it is unless its usage is not. -/
theorem rebuilt_of_read (hread : read v = .ok c) :
    c.rebuilt = c ↔ ∀ u, c.usage = some u → TokenUsage.ZeroInWords (v.member "usage") →
      u.inputTokens + u.outputTokens = 0 := by
  rw [rebuilt_eq_self_iff]
  refine forall_congr' fun u => forall_congr' fun husage => ?_
  exact TokenUsage.rebuilt_of_read (usage_of_read hread husage)

end PartialChunk

-- ── Responses ──────────────────────────────────────────────────────────────────────

/-- A tool call is read back as it was written. -/
theorem ToolCall.read_toValue (call : ToolCall) : read call.toValue = .ok call := by
  show (ToolCall.mk <$> (Reader.nullable .text (.ofOption .str call.id)).under (.name "id")
    <*> (Reader.text (.str call.name)).under (.name "name")
    <*> (Reader.text (.str call.arguments)).under (.name "arguments")) = .ok call
  rw [Reader.nullable_text]
  rfl

namespace Response

/-- The response that is built from the fields of one. -/
def rebuilt (r : Response) : Response :=
  { r with usage := r.usage.rebuilt }

variable {r : Response} {v : Value}

/-- **What is read from a response that was written.** -/
theorem read_toValue (r : Response) : read r.toValue = .ok r.rebuilt := by
  show (Response.mk <$> (Reader.nullable .text (.ofOption .str r.id)).under (.name "id")
    <*> (Reader.nullable .text (.ofOption .str r.model)).under (.name "model")
    <*> (Reader.text (.str r.content)).under (.name "content")
    <*> (Reader.tupleOf ToolCall.read (.tuple (r.toolCalls.map ToolCall.toValue))).under
          (.name "tool_execution_requests")
    <*> (Reader.nullable FinishReason.read
          (.ofOption (fun reason => .str reason.word) r.finishReason)).under
          (.name "finish_reason")
    <*> (TokenUsage.read r.usage.toValue).under (.name "usage")) = .ok r.rebuilt
  have hcalls := Reader.tupleOf_written ToolCall.read_toValue r.toolCalls
  rw [Reader.nullable_text, Reader.nullable_text, hcalls, Reader.nullable_reason,
    TokenUsage.read_toValue]
  rfl

theorem rebuilt_rebuilt (r : Response) : r.rebuilt.rebuilt = r.rebuilt := by
  rw [rebuilt, rebuilt, TokenUsage.rebuilt_rebuilt]

theorem rebuilt_eq_self_iff : r.rebuilt = r ↔ r.usage.rebuilt = r.usage :=
  ⟨congrArg usage, fun h => by rw [rebuilt, h]⟩

/-- The usage of a response that was built was built from the response's member, or there was
    no member and it is zero. -/
theorem usage_of_read (hread : read v = .ok r) :
    TokenUsage.read (v.member "usage") = .ok r.usage
      ∨ (v.member "usage" = .null ∧ r.usage = .zero) := by
  obtain ⟨m, rfl, hfields⟩ := Reader.record_eq_ok.mp hread
  obtain ⟨g, usage, hg, husage, rfl⟩ := Checked.seq_eq_ok.mp hfields
  simp only [Checked.seq_eq_ok, Checked.map_eq_ok] at hg
  obtain ⟨_, reason, ⟨_, calls, ⟨_, content, ⟨_, model, ⟨id, -, rfl⟩, -, rfl⟩, -, rfl⟩,
    -, rfl⟩, -, rfl⟩ := hg
  obtain hmember | ⟨hnull, hzero⟩ := Reader.of_optional husage
  · exact Or.inl hmember
  · exact Or.inr ⟨hnull, hzero.symm⟩

/-- A response that was built is rebuilt as it is unless its usage is not. -/
theorem rebuilt_of_read (hread : read v = .ok r) :
    r.rebuilt = r ↔ (TokenUsage.ZeroInWords (v.member "usage") →
      r.usage.inputTokens + r.usage.outputTokens = 0) := by
  rw [rebuilt_eq_self_iff]
  obtain husage | ⟨-, hzero⟩ := usage_of_read hread
  · exact TokenUsage.rebuilt_of_read husage
  · rw [hzero]
    exact iff_of_true rfl fun _ => rfl

end Response

-- ── All three ──────────────────────────────────────────────────────────────────────

namespace TokenUsage

/-- **A USAGE SURVIVES A DUMP AND A REBUILD, BUT FOR A ZERO IN WORDS.**  Whatever data a usage, a
    chunk or a response was built from, it can be built again from its own fields.  What comes
    out differs from it in the total of its usage at most, and it does exactly if the data told
    that total as a text of zero beside parts that add up to something else.  Building it once
    more changes nothing. -/
theorem built_again (v : Value) :
    (∀ u, TokenUsage.read v = .ok u →
      BuiltAgain TokenUsage.read toValue rebuilt u
        (ZeroInWords v → u.inputTokens + u.outputTokens = 0))
    ∧ (∀ c, PartialChunk.read v = .ok c →
      BuiltAgain PartialChunk.read PartialChunk.toValue PartialChunk.rebuilt c
        (∀ u, c.usage = some u → ZeroInWords (v.member "usage") →
          u.inputTokens + u.outputTokens = 0))
    ∧ (∀ r, Response.read v = .ok r →
      BuiltAgain Response.read Response.toValue Response.rebuilt r
        (ZeroInWords (v.member "usage") →
          r.usage.inputTokens + r.usage.outputTokens = 0)) := by
  refine ⟨fun u hread => ?_, fun c hread => ?_, fun r hread => ?_⟩
  · exact .of_read_write read_toValue rebuilt_rebuilt (rebuilt_of_read hread)
  · exact .of_read_write PartialChunk.read_toValue PartialChunk.rebuilt_rebuilt
      (PartialChunk.rebuilt_of_read hread)
  · exact .of_read_write Response.read_toValue Response.rebuilt_rebuilt
      (Response.rebuilt_of_read hread)

/-- Parts that add up to the zero that is told in words. -/
def balanced : Value :=
  .object [("input_tokens", .str "-3"), ("output_tokens", .float 3.0),
    ("total_tokens", .str " 0.00 ")]

/-- They survive alone and in a chunk, and so does a response without a usage. -/
theorem built_again_balanced :
    TokenUsage.read balanced = .ok ⟨-3, 3, 0⟩
      ∧ TokenUsage.read (toValue ⟨-3, 3, 0⟩) = .ok ⟨-3, 3, 0⟩
      ∧ (∃ c, PartialChunk.read (.object [("text", .str "a"), ("usage", balanced)]) = .ok c
          ∧ c.usage = some ⟨-3, 3, 0⟩ ∧ PartialChunk.read c.toValue = .ok c)
      ∧ ∃ r, Response.read (.object [("content", .str "a")]) = .ok r
          ∧ Response.read r.toValue = .ok r := by
  have husage : TokenUsage.read balanced = .ok ⟨-3, 3, 0⟩ := rfl
  have hchunk : PartialChunk.read (.object [("text", .str "a"), ("usage", balanced)])
      = .ok ⟨some "a", none, none, none, some ⟨-3, 3, 0⟩, []⟩ := rfl
  have hresponse : Response.read (.object [("content", .str "a")])
      = .ok ⟨none, none, "a", [], none, .zero⟩ := rfl
  refine ⟨husage, ((built_again _).1 _ husage).survives fun _ => rfl,
    ⟨_, hchunk, rfl, ((built_again _).2.1 _ hchunk).survives ?_⟩,
    ⟨_, hresponse, ((built_again _).2.2 _ hresponse).survives fun _ => rfl⟩⟩
  rintro u ⟨⟩ -
  rfl

/-- Parts that do not add up to the zero that is told in words. -/
def unbalanced : Value :=
  .object [("input_tokens", .int 3), ("output_tokens", .int 4), ("total_tokens", .str "0")]

/-- **A zero in words is stored, and filled in the next time**, alone and in what holds it. -/
theorem zero_in_words_filled :
    (TokenUsage.read unbalanced = .ok ⟨3, 4, 0⟩
      ∧ TokenUsage.read (toValue ⟨3, 4, 0⟩) = .ok ⟨3, 4, 7⟩)
    ∧ (∃ c d, PartialChunk.read (.object [("usage", unbalanced)]) = .ok c
        ∧ PartialChunk.read c.toValue = .ok d
        ∧ c.usage = some ⟨3, 4, 0⟩ ∧ d.usage = some ⟨3, 4, 7⟩)
    ∧ ∃ r s, Response.read (.object [("usage", unbalanced)]) = .ok r
        ∧ Response.read r.toValue = .ok s
        ∧ r.usage = ⟨3, 4, 0⟩ ∧ s.usage = ⟨3, 4, 7⟩ :=
  ⟨⟨rfl, rfl⟩, ⟨_, _, rfl, rfl, rfl, rfl⟩, ⟨_, _, rfl, rfl, rfl, rfl⟩⟩

end TokenUsage

end CompletionStream
