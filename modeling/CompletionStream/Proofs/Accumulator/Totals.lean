import CompletionStream.Proofs.Chat.Usage
import CompletionStream.Stream.Accumulator

/-!
# Totals — a total that was filled in is the sum

A usage that is built without a total gets the sum of its parts.  The sum is taken of what the
data says, in the lenient way, and the parts are stored as their fields read them; the sum is
nevertheless that of the stored parts, whatever the data says them in.

An accumulator always builds the usage of its response without a total.
-/

namespace CompletionStream

namespace Accumulator

variable {acc : Accumulator} {estimator : Option Estimator} {inputTokens : Value}
  {tally : Tally} {r : Response}

/-- The usage of a response was built from two counts. -/
theorem usageOf_of_finalize (h : (acc.finalize estimator inputTokens tally).1 = .ok r) :
    ∃ n, usageOf inputTokens n = .ok r.usage := by
  rw [finalize] at h
  split at h
  · exact nomatch h
  · dsimp only at h
    rw [conclude] at h
    split at h
    · exact nomatch h
    · rename_i n tally' hcounted
      cases husage : usageOf inputTokens n with
      | error fault =>
          rw [husage] at h
          exact nomatch h
      | ok usage =>
          rw [husage] at h
          obtain rfl : acc.response usage = r := Except.ok.inj h
          exact ⟨n, husage⟩

/-- The total of such a usage was not told. -/
theorem total_of_usageOf {n : Int} {usage : TokenUsage}
    (h : usageOf inputTokens n = .ok usage) :
    usage.totalTokens = usage.inputTokens + usage.outputTokens := by
  rw [usageOf, Checked.toOutcome_eq_ok] at h
  exact TokenUsage.total_of_untold rfl h

/-- **A FILLED TOTAL IS THE SUM OF WHAT IS STORED.**  Whatever a mapping says the counts in, if
    it tells no total, or an empty one, a usage can be built from it exactly if each part fits
    its field and both can be counted; it has the parts as the fields read them, and as total
    their sum.  So it is in every response that an accumulator comes to, in whatever state it is
    finalized and whatever the request is said to have cost. -/
theorem filled_total_is_sum :
    (∀ (m : Members) (usage : TokenUsage), (m.getOrNull "total_tokens").truthy = false →
      (TokenUsage.read (.dict m) = .ok usage
        ↔ Reader.optional m "input_tokens" .integer 0 = .ok usage.inputTokens
          ∧ Reader.optional m "output_tokens" .integer 0 = .ok usage.outputTokens
          ∧ (∃ t, TokenUsage.rawTotal m = .ok t)
          ∧ usage.totalTokens = usage.inputTokens + usage.outputTokens))
      ∧ ∀ (acc : Accumulator) (estimator : Option Estimator) (inputTokens : Value)
          (tally : Tally) (r : Response),
          (acc.finalize estimator inputTokens tally).1 = .ok r →
            r.usage.totalTokens = r.usage.inputTokens + r.usage.outputTokens := by
  constructor
  · intro m usage htold
    exact TokenUsage.read_untold_iff htold
  · intro acc estimator inputTokens tally r hresult
    obtain ⟨n, husage⟩ := usageOf_of_finalize hresult
    exact total_of_usageOf husage

/-- A text with a sign, spaces and an underscore, a double, and an empty total. -/
def mixedCounts : Members :=
  [(.str "input_tokens", .str " +1_2 "), (.str "output_tokens", .float 3.0),
    (.str "total_tokens", .str "")]

/-- Counts in several forms, alone and for a request whose cost is a text. -/
theorem filled_total_is_sum_mixed :
    (∃ usage, TokenUsage.read (.dict mixedCounts) = .ok usage ∧ usage.inputTokens = 12
        ∧ usage.outputTokens = 3 ∧ usage.totalTokens = usage.inputTokens + usage.outputTokens)
      ∧ ∃ r, (fresh.finalize none (.str "-07") .fresh).1 = .ok r
          ∧ r.usage.totalTokens = r.usage.inputTokens + r.usage.outputTokens := by
  have hread : TokenUsage.read (.dict mixedCounts) = .ok ⟨12, 3, 15⟩ := rfl
  have hresult : (fresh.finalize none (.str "-07") .fresh).1
      = .ok (fresh.response ⟨-7, 0, -7⟩) := rfl
  obtain ⟨-, -, -, hsum⟩ := (filled_total_is_sum.1 mixedCounts _ rfl).mp hread
  exact ⟨⟨_, hread, rfl, rfl, hsum⟩,
    _, hresult, filled_total_is_sum.2 fresh none (.str "-07") .fresh _ hresult⟩

end Accumulator

end CompletionStream
