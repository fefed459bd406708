import CompletionStream.Proofs.Accumulator.Reference
import CompletionStream.Proofs.Schema.Integers
import CompletionStream.Proofs.Wire.Faults

/-!
# Cost — what a response is said to have cost

The usage of a response is read from two raw counts: the one for the request as it was handed
in, and the one for the response, which is an integer.  Either the reading succeeds, with the
response's count as it stands and the total filled in as the sum of both, or it fails with a
plain fault (`usageOf_cases`).  For a request that was counted it always succeeds
(`usageOf_int`).
-/

namespace CompletionStream

theorem plain_countOrZero (v : Value) : Outcome.Plain (countOrZero v) := by
  rw [countOrZero]
  split
  · exact plain_lenientInteger v
  · exact Outcome.plain_ok 0

/-- An abandoned filling was abandoned with the fault of the count. -/
theorem TokenUsage.fill_of_error {m : Members} {fault : Fault}
    (htotal : (m.getOrNull "total_tokens").truthy = false)
    (hraw : rawTotal m = .error fault) :
    fill m = .misfit [⟨"value_error", []⟩] ∨ fill m = .abandoned fault := by
  rw [fill, htotal, hraw, if_neg Bool.false_ne_true]
  dsimp only
  split
  · exact Or.inl rfl
  · exact Or.inr rfl

namespace Accumulator

/-- The raw counts of a response. -/
def rawCounts (inputTokens : Value) (outputTokens : Int) : Members :=
  [(.str "input_tokens", inputTokens), (.str "output_tokens", .int outputTokens)]

theorem rawTotal_rawCounts (v : Value) (n : Int) :
    TokenUsage.rawTotal (rawCounts v n) = (countOrZero v).map (· + n) := by
  have hinput : (rawCounts v n).getOrNull "input_tokens" = v := rfl
  have houtput : (rawCounts v n).getOrNull "output_tokens" = .int n := rfl
  rw [TokenUsage.rawTotal, hinput, houtput, countOrZero_int]
  cases countOrZero v <;> rfl

theorem usageOf_eq (v : Value) (n : Int) :
    usageOf v n = ((TokenUsage.fill (rawCounts v n)).andThen fun m =>
      TokenUsage.mk
        <$> Reader.optional m "input_tokens" .integer 0
        <*> Reader.optional m "output_tokens" .integer 0
        <*> Reader.optional m "total_tokens" .integer 0).toOutcome := rfl

/-- If the request's count can be summed up, the fields decide. -/
theorem usageOf_of_count {v : Value} {t : Int} (h : countOrZero v = .ok t) (n : Int) :
    usageOf v n = (TokenUsage.mk
      <$> (Reader.integer v).under (.name "input_tokens")
      <*> .ok n <*> .ok (t + n)).toOutcome := by
  have hfill : TokenUsage.fill (rawCounts v n)
      = .ok (rawCounts v n ++ [(.str "total_tokens", .int (t + n))]) := by
    rw [TokenUsage.fill, rawTotal_rawCounts, h]; rfl
  rw [usageOf_eq, hfill]; rfl

/-- What reading the usage of a response can come to. -/
theorem usageOf_cases (v : Value) (n : Int) :
    (∃ i t, Reader.integer v = .ok i ∧ countOrZero v = .ok t
        ∧ usageOf v n = .ok ⟨i, n, t + n⟩)
      ∨ ∃ fault, fault.Plain ∧ usageOf v n = .error fault := by
  cases hcount : countOrZero v with
  | error fault =>
      have hraw : TokenUsage.rawTotal (rawCounts v n) = .error fault := by
        rw [rawTotal_rawCounts, hcount]; rfl
      right
      rcases TokenUsage.fill_of_error rfl hraw with hfill | hfill
      · exact ⟨_, ⟨rfl, rfl⟩, by rw [usageOf_eq, hfill]; rfl⟩
      · exact ⟨fault, plain_countOrZero v fault hcount, by rw [usageOf_eq, hfill]; rfl⟩
  | ok t =>
      rw [usageOf_of_count hcount]
      cases hv : Reader.integer v with
      | ok i => exact Or.inl ⟨i, t, rfl, rfl, rfl⟩
      | misfit details => exact Or.inr ⟨_, ⟨rfl, rfl⟩, rfl⟩
      | abandoned fault => exact Or.inr ⟨fault, Reader.plain_integer v fault hv, rfl⟩

theorem plain_usageOf (v : Value) (n : Int) : Outcome.Plain (usageOf v n) := by
  intro fault h
  rcases usageOf_cases v n with ⟨i, t, -, -, hok⟩ | ⟨raised, hplain, herror⟩
  · rw [hok] at h; exact nomatch h
  · rw [herror] at h
    rw [← Except.error.inj h]
    exact hplain

/-- A usage that was read has the response's count as it stands. -/
theorem usageOf_outputTokens {v : Value} {n : Int} {usage : TokenUsage}
    (h : usageOf v n = .ok usage) : usage.outputTokens = n := by
  rcases usageOf_cases v n with ⟨i, t, -, -, hok⟩ | ⟨fault, -, herror⟩
  · rw [hok] at h
    rw [← Except.ok.inj h]
  · rw [herror] at h; exact nomatch h

/-- A count that is an integer is kept, and the total is the sum. -/
theorem usageOf_int (i n : Int) : usageOf (.int i) n = .ok ⟨i, n, i + n⟩ := by
  rw [usageOf_of_count (countOrZero_int i)]
  rfl

end Accumulator

end CompletionStream
