import CompletionStream.Proofs.Chat.Gate
import CompletionStream.Proofs.Client.Preparing
import CompletionStream.Proofs.Session.Pulled

/-!
# Admitted — what gets through the gate to a transport

Two kinds of numbers get to a transport: those of a request that passed the gate, and the
defaults of the client, which never pass it.  So if the defaults lie within the documented
ranges (`Defaults.Ranged`), the options that a transport is asked for lie within them as far
as the request does (`Merges.within`).

`gate_exact` puts this together with what passes: NaN is all that the documented ranges
refuse and the gate does not, and it goes all the way to the transport
(`nan_reaches_transport`).
-/

namespace CompletionStream

/-- A parameter has a property if both the request's own value and the default have it. -/
theorem Chosen.forall_mem {α : Type} {read : Reader α} {default : Value}
    {own chosen : Option α} {P : α → Prop} (h : Chosen read default own chosen)
    (hown : ∀ a ∈ own, P a)
    (hdefault : ∀ a, Reader.nullable read default = .ok (some a) → P a) :
    ∀ a ∈ chosen, P a := by
  intro a ha
  cases h with
  | own _ => exact hown a ha
  | fallback hread =>
      rw [Option.mem_def] at ha
      rw [ha] at hread
      exact hdefault a hread

/-- Defaults that, as far as they can be read, lie within the documented bounds. -/
structure Defaults.Ranged (d : Defaults) : Prop where
  temperature : ∀ x, Reader.nullable .decimal d.temperature = .ok (some x) →
    Range.temperature.Contains x
  topP : ∀ x, Reader.nullable .decimal d.topP = .ok (some x) → Range.topP.Contains x
  presencePenalty : ∀ x, Reader.nullable .decimal d.presencePenalty = .ok (some x) →
    Range.presencePenalty.Contains x
  frequencyPenalty : ∀ x, Reader.nullable .decimal d.frequencyPenalty = .ok (some x) →
    Range.frequencyPenalty.Contains x
  maxTokens : ∀ n, Reader.nullable .integer d.maxTokens = .ok (some n) → 0 < n
  logitBias : ∀ bias, Reader.nullable readBias d.logitBias = .ok (some bias) →
    ∀ entry ∈ bias, -100 ≤ entry.2 ∧ entry.2 ≤ 100
  stop : ∀ texts, Reader.nullable (.tupleOf .text) d.stop = .ok (some texts) →
    texts.length ≤ 4

/-- **Options lie within the ranges** if the request does, for every reading of the ranges
    that allows what the documented one does. -/
theorem Client.Merges.within {c : Client} {r : ChatRequest} {forced : Option ToolSpec}
    {o : Options} {admits : Range → Float → Prop}
    (hadmits : ∀ range x, Range.Contains range x → admits range x) (h : c.Merges r forced o)
    (hdefaults : c.defaults.Ranged) (hr : r.sampling.Within admits) :
    o.sampling.Within admits where
  temperature := h.temperature.forall_mem hr.temperature
    fun x hx => hadmits _ x (hdefaults.temperature x hx)
  topP := h.topP.forall_mem hr.topP fun x hx => hadmits _ x (hdefaults.topP x hx)
  presencePenalty := h.presencePenalty.forall_mem hr.presencePenalty
    fun x hx => hadmits _ x (hdefaults.presencePenalty x hx)
  frequencyPenalty := h.frequencyPenalty.forall_mem hr.frequencyPenalty
    fun x hx => hadmits _ x (hdefaults.frequencyPenalty x hx)
  maxTokens := h.maxTokens.forall_mem hr.maxTokens hdefaults.maxTokens
  logitBias := h.logitBias.forall_mem hr.logitBias hdefaults.logitBias
  stop := h.stop.forall_mem hr.stop hdefaults.stop

namespace ChatRequest

/-- A request that comes to options has passed. -/
theorem passes_of_settles {c : Client} {r : ChatRequest} {o : Options} (h : c.Settles r o) :
    r.Passes :=
  ⟨h.check, o.forcedTool, h.forced⟩

/-- A request that does not pass is refused, by the checks or for want of a capability. -/
theorem refuses_of_not_passes {r : ChatRequest} (h : ¬ r.Passes) (c : Client) :
    ∃ fault, c.Refuses r fault ∧ (fault.kind = .validation ∨ fault.kind = .capability) := by
  cases hcheck : r.check with
  | error fault =>
      obtain ⟨refusal, rfl⟩ := check_eq_error hcheck
      exact ⟨_, .check hcheck, .inl rfl⟩
  | ok =>
      cases hforced : r.forcedTool with
      | error fault => exact ⟨fault, .tool hcheck hforced, .inr (forcedTool_eq_error hforced)⟩
      | ok forced => exact absurd ⟨hcheck, forced, hforced⟩ h

end ChatRequest

namespace Client

/-- **The gate is exact but for NaN.**  A request fits the documented ranges exactly if it
    passes and holds no NaN; one that does not pass is refused on an untouched scene; and
    what a transport is asked for lies within the documented ranges, unless the request
    brought a NaN. -/
theorem gate_exact {c : Client} (hdefaults : c.defaults.Ranged) (r : ChatRequest)
    (transport : Transport) (handler : Handler) (number : Nat) (scene : Scene) :
    (r.Fits Range.Contains ↔ r.Passes ∧ r.sampling.Numeric)
      ∧ (r.Passes ↔ r.Fits Range.Lets)
      ∧ (¬ r.Passes → ∃ fault : Fault, (fault.kind = .validation ∨ fault.kind = .capability)
          ∧ c.chat transport r handler number scene = (.error fault, ⟨none, none, scene⟩))
      ∧ ∀ o, (c.chat transport r handler number scene).2.asked = some o →
          o.sampling.Within Range.Lets
            ∧ (r.sampling.Numeric → o.sampling.Within Range.Contains) := by
  refine ⟨ChatRequest.fits_iff, ChatRequest.passes_iff, fun hpasses => ?_, fun o ho => ?_⟩
  · obtain ⟨fault, hrefuses, hkind⟩ := ChatRequest.refuses_of_not_passes hpasses c
    exact ⟨fault, hkind,
      chat_eq_error (prepare_of_refuses hrefuses scene) transport handler number⟩
  · have hsettles := chat_asked ho
    have hpasses := ChatRequest.passes_of_settles hsettles
    constructor
    · exact hsettles.merges.within (fun _ _ hx => .inl hx) hdefaults
        (ChatRequest.passes_iff.mp hpasses).sampling
    · intro hnumeric
      exact hsettles.merges.within (fun _ _ hx => hx) hdefaults
        (ChatRequest.fits_iff.mpr ⟨hpasses, hnumeric⟩).sampling

-- ── A number that is none ──────────────────────────────────────────────────────────

/-- A transport that cannot be opened. -/
def shut : Transport := .pull fun _ => ⟨[], .error .wrongValue⟩

/-- A request whose temperature is NaN. -/
def vague : ChatRequest :=
  { greeting with sampling := { greeting.sampling with temperature := some (0.0 / 0.0) } }

/-- A client with a default temperature. -/
def lukewarm : Client :=
  { simple [] with defaults := { Defaults.none with temperature := .float 0.5 } }

theorem lukewarm_ranged : lukewarm.defaults.Ranged where
  temperature x hx := by
    obtain rfl : 0.5 = x := Option.some.inj (Checked.ok.inj hx)
    exact ⟨by decide, by decide⟩
  topP _ hx := nomatch hx
  presencePenalty _ hx := nomatch hx
  frequencyPenalty _ hx := nomatch hx
  maxTokens _ hn := nomatch hn
  logitBias _ hbias := nomatch hbias
  stop _ htexts := nomatch htexts

theorem vague_not_numeric : ¬ vague.sampling.Numeric := fun h =>
  absurd (h.temperature _ rfl) (by decide)

/-- A temperature that is NaN passes, lies in no range, and goes to the transport. -/
theorem nan_reaches_transport :
    lukewarm.defaults.Ranged ∧ vague.Passes ∧ ¬ vague.Fits Range.Contains
      ∧ ∃ o, (lukewarm.chat shut vague .steady 0 (.fresh [])).2.asked = some o
          ∧ ¬ o.sampling.Within Range.Contains := by
  refine ⟨lukewarm_ranged, ⟨rfl, none, rfl⟩, ?_, _, rfl, ?_⟩
  · intro h
    exact vague_not_numeric (ChatRequest.fits_iff.mp h).2
  · intro h
    exact vague_not_numeric (Sampling.within_contains_iff.mp h).2

/-- The default temperature goes to the transport, and it lies within its range. -/
theorem gate_exact_lukewarm :
    lukewarm.defaults.Ranged
      ∧ ∃ o, (lukewarm.chat shut greeting .steady 0 (.fresh [])).2.asked = some o
          ∧ o.sampling.temperature = some 0.5 ∧ o.sampling.Within Range.Contains := by
  obtain ⟨-, -, -, hasked⟩ :=
    gate_exact lukewarm_ranged greeting shut .steady 0 (.fresh [])
  have hnumeric : greeting.sampling.Numeric :=
    ⟨fun _ h => (nomatch h), fun _ h => (nomatch h), fun _ h => (nomatch h),
      fun _ h => (nomatch h)⟩
  exact ⟨lukewarm_ranged, _, rfl, rfl, (hasked _ rfl).2 hnumeric⟩

end Client

end CompletionStream
