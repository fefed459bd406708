import CompletionStream.Proofs.Accumulator.Finalize

/-!
# Preference — a cost that was reported comes before an estimate

The cost of a response is the count of the last usage that a provider reported, and only where
nothing was reported is there anything to estimate.  That an estimator is not asked is said by
what cannot depend on it: whichever there is, also one that fails, the outcome is the same and
the tally stays as it was (`Unasked`).

A count of zero is taken for a missing one, however.  So a reported count is taken over without
an estimate exactly if it is not zero (`usage_preferred`), and where a provider reports that a
response cost nothing, the estimator has the last word, even if it fails (`zero_estimated`).
-/

namespace CompletionStream

/-- An estimator that fails, whatever it is asked. -/
def Estimator.failing (fault : Fault) : Estimator :=
  .custom (fun _ => .error fault) (fun _ => .error fault) (fun _ => .error fault)

namespace Reference

/-- The last usage that was reported. -/
def lastUsage (chunks : List PartialChunk) : Option TokenUsage :=
  (chunks.filterMap (·.usage)).getLast?

variable {chunks : List PartialChunk}

/-- A count is taken over if it is the last that was reported and not zero. -/
theorem reported_eq_some {n : Int} :
    reported chunks = some n
      ↔ ∃ usage, lastUsage chunks = some usage ∧ usage.outputTokens = n ∧ n ≠ 0 := by
  rw [reported, Option.filter_eq_some_iff, Option.map_eq_some_iff, decide_eq_true_iff]
  constructor
  · rintro ⟨⟨usage, hlast, hcount⟩, hne⟩
    exact ⟨usage, hlast, hcount, hne⟩
  · rintro ⟨usage, hlast, hcount, hne⟩
    exact ⟨⟨usage, hlast, hcount⟩, hne⟩

/-- A count that is taken over decides the outcome, whatever the estimator and its tally. -/
theorem concluded_of_reported {n : Int} (h : reported chunks = some n)
    (estimator : Option Estimator) (inputTokens : Value) (tally : Tally) :
    concluded chunks estimator inputTokens tally
      = ((Accumulator.usageOf inputTokens n).map (response chunks), tally) := by
  rw [concluded, counted.eq_def, h]

/-- Where no count is taken over, the fault of the estimator is the outcome. -/
theorem concluded_failing (h : reported chunks = none) (fault : Fault) (inputTokens : Value)
    (tally : Tally) :
    concluded chunks (some (.failing fault)) inputTokens tally = (.error fault, tally) := by
  have hcounted : counted chunks (some (.failing fault)) tally = (.error fault, tally) := by
    rw [counted.eq_def, h]
    dsimp only
    split
    · rfl
    · rfl
  rw [concluded, hcounted]

/-- Without an estimator a response that was not told its cost has none. -/
theorem concluded_none (h : reported chunks = none) (inputTokens : Value) (tally : Tally) :
    concluded chunks none inputTokens tally
      = ((Accumulator.usageOf inputTokens 0).map (response chunks), tally) := by
  rw [concluded, counted.eq_def, h]

end Reference

namespace Accumulator

/-- Chunks are finalized to an outcome without an estimate: it is the same whichever estimator
    there is, and nothing was counted. -/
def Unasked (chunks : List PartialChunk) (inputTokens : Value) (outcome : Outcome Response) :
    Prop :=
  ∀ estimator tally,
    performAll estimator (chunks.map .append ++ [.finalize inputTokens]) fresh tally
      = (chunks.map (fun _ => .ok none) ++ [outcome.map some],
        { gather chunks with finalized := true }, tally)

theorem unasked_of_reported {chunks : List PartialChunk} {n : Int}
    (h : Reference.reported chunks = some n) (inputTokens : Value) :
    Unasked chunks inputTokens ((usageOf inputTokens n).map (Reference.response chunks)) := by
  intro estimator tally
  rw [performAll_concludes, Reference.concluded_of_reported h]

/-- What an estimator has no part in is what comes out with any estimator. -/
theorem Unasked.eq_concluded {chunks : List PartialChunk} {inputTokens : Value}
    {outcome : Outcome Response} (h : Unasked chunks inputTokens outcome)
    (estimator : Option Estimator) (tally : Tally) :
    outcome.map some = (Reference.concluded chunks estimator inputTokens tally).1.map some := by
  have hrun := h estimator tally
  rw [performAll_concludes, Prod.mk.injEq, List.append_cancel_left_eq, List.cons.injEq] at hrun
  exact hrun.1.1.symm

/-- An outcome that no estimator has a part in is that of a count that was reported. -/
theorem Unasked.reported {chunks : List PartialChunk} {inputTokens : Value}
    {outcome : Outcome Response} (h : Unasked chunks inputTokens outcome) :
    ∃ n, Reference.reported chunks = some n := by
  cases hreported : Reference.reported chunks with
  | some n => exact ⟨n, rfl⟩
  | none =>
      -- an interrupt of the estimator is told apart from every fault of reading the usage
      have hsilent := h.eq_concluded none .fresh
      have hfailing := h.eq_concluded (some (.failing (.exit 0))) .fresh
      rw [Reference.concluded_none hreported] at hsilent
      rw [Reference.concluded_failing hreported] at hfailing
      have hsame := hsilent.symm.trans hfailing
      cases husage : usageOf inputTokens 0 with
      | ok usage =>
          rw [husage] at hsame
          exact nomatch hsame
      | error fault =>
          rw [husage] at hsame
          have hordinary := (plain_usageOf inputTokens 0 fault husage).ordinary
          rw [Except.error.inj hsame] at hordinary
          exact nomatch hordinary

/-- **A REPORTED COST IS PREFERRED**, unless it is zero.  If the last usage that chunks report
    has a count that is not zero, finalizing them asks no estimator, whatever the count for the
    request; a response has the reported count, and for an integer there is one.  Only then is
    the estimator left alone. -/
theorem usage_preferred (chunks : List PartialChunk) (inputTokens : Value) :
    (∀ usage, Reference.lastUsage chunks = some usage → usage.outputTokens ≠ 0 →
      ∃ outcome, Unasked chunks inputTokens outcome
        ∧ (∀ r, outcome = .ok r → r.usage.outputTokens = usage.outputTokens)
        ∧ ∀ n, inputTokens = .int n → ∃ r, outcome = .ok r)
      ∧ ((∃ outcome, Unasked chunks inputTokens outcome)
          ↔ ∃ usage, Reference.lastUsage chunks = some usage ∧ usage.outputTokens ≠ 0) := by
  have hreported {usage : TokenUsage} (hlast : Reference.lastUsage chunks = some usage)
      (hne : usage.outputTokens ≠ 0) : Reference.reported chunks = some usage.outputTokens :=
    Reference.reported_eq_some.mpr ⟨usage, hlast, rfl, hne⟩
  refine ⟨?_, ?_, ?_⟩
  · intro usage hlast hne
    refine ⟨_, unasked_of_reported (hreported hlast hne) inputTokens, ?_, ?_⟩
    · intro r hr
      cases hread : usageOf inputTokens usage.outputTokens with
      | error fault => rw [hread] at hr; exact nomatch hr
      | ok read =>
          rw [hread] at hr
          rw [← Except.ok.inj hr]
          exact usageOf_outputTokens hread
    · rintro n rfl
      rw [usageOf_int]
      exact ⟨_, rfl⟩
  · rintro ⟨outcome, hunasked⟩
    obtain ⟨n, hn⟩ := hunasked.reported
    obtain ⟨usage, hlast, rfl, hne⟩ := Reference.reported_eq_some.mp hn
    exact ⟨usage, hlast, hne⟩
  · rintro ⟨usage, hlast, hne⟩
    exact ⟨_, unasked_of_reported (hreported hlast hne) inputTokens⟩

/-- A response for which the provider reports no tokens at all. -/
def freeChunks : List PartialChunk :=
  [{ (default : PartialChunk) with text := some "free" },
   { (default : PartialChunk) with usage := some ⟨11, 0, 11⟩ }]

/-- A count of zero is reported, and estimated all the same: as four by an estimator that counts
    characters, and with no response at all by one that fails. -/
theorem zero_estimated :
    Reference.lastUsage freeChunks = some ⟨11, 0, 11⟩
      ∧ (∃ r acc tally,
          performAll (some (.custom (fun s => .ok s.length) (fun _ => .ok 0) fun _ => .ok 0))
              (freeChunks.map .append ++ [.finalize (.int 7)]) fresh .fresh
            = ([.ok none, .ok none, .ok (some r)], acc, tally)
          ∧ r.usage = ⟨7, 4, 11⟩)
      ∧ ∃ acc tally,
          performAll (some (.failing .wrongValue))
              (freeChunks.map .append ++ [.finalize (.int 7)]) fresh .fresh
            = ([.ok none, .ok none, .error .wrongValue], acc, tally) :=
  ⟨rfl, ⟨_, _, _, rfl, rfl⟩, _, _, rfl⟩

end Accumulator

end CompletionStream
