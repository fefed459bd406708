import CompletionStream.Chat.Gate
import Mathlib.Data.List.Nodup

/-!
# The gate — what passes it, said without the checks

The checks refuse a number that lies below or above a range.  For a double this is not the
same as to accept what lies within: NaN is neither below nor above anything, and it passes.
`negated` says so of a single comparison and `excludes_eq_false` of a range whose ends are
numbers.

`ChatRequest.Fits` says what a request has to be, field by field and with no order of checks;
it is stated for any reading of the ranges, so that the documented one (`Range.Contains`) and
the one that is in force (`Range.Lets`) are two instances of it.  A request passes the checks
and the demand for a single forced tool exactly if it fits the ranges that are in force
(`passes_iff`).
-/

namespace CompletionStream

-- ── Comparing doubles ──────────────────────────────────────────────────────────────

section Comparing

open Float.Model

/-- Doubles compare the other way round when they change places. -/
theorem compare_swap (a b : UnpackedFloat) :
    b.compare a = (a.compare b).map Ordering.swap := by
  have hmagnitude (m n : Nat) (e f : Int) :
      (compare f e).then (compare n m) = ((compare e f).then (compare m n)).swap := by
    rw [Ordering.swap_then, ← Std.OrientedCmp.eq_swap, ← Std.OrientedCmp.eq_swap]
  cases a with
  | notANumber => cases b <;> rfl
  | infinity s =>
      cases b with
      | infinity t => cases s <;> cases t <;> rfl
      | _ => cases s <;> rfl
  | zero s =>
      cases b with
      | infinity t | finite t => cases t <;> rfl
      | _ => rfl
  | finite s m e hm =>
      cases b with
      | finite t n f hn =>
          cases s with
          | positive =>
              cases t with
              | positive => exact congrArg some (hmagnitude m n e f)
              | negative => rfl
          | negative =>
              cases t with
              | positive => rfl
              | negative => exact congrArg (some ·.swap) (hmagnitude m n e f)
      | infinity t => cases s <;> cases t <;> rfl
      | _ => cases s <;> rfl

/-- How two doubles compare; with NaN nothing does. -/
def order (x y : Float) : Option Ordering :=
  x.toModel.compare y.toModel

theorem order_swap (x y : Float) : order y x = (order x y).map Ordering.swap :=
  compare_swap x.toModel.unpack y.toModel.unpack

theorem lt_iff_order {x y : Float} : x < y ↔ order x y = some .lt := by
  show decide (x.toModel < y.toModel) = true ↔ _
  rw [decide_eq_true_iff]
  exact beq_iff_eq

theorem le_iff_order {x y : Float} : x ≤ y ↔ (order x y).any (·.isLE) = true := by
  show decide (x.toModel ≤ y.toModel) = true ↔ _
  rw [decide_eq_true_iff]
  exact Iff.rfl

/-- Two numbers compare. -/
theorem compare_isSome {a b : UnpackedFloat} (ha : a.isNaN = false) (hb : b.isNaN = false) :
    (a.compare b).isSome = true := by
  cases a with
  | notANumber => exact nomatch ha
  | infinity s =>
      cases b with
      | notANumber => exact nomatch hb
      | infinity t => rfl
      | _ => cases s <;> rfl
  | zero s =>
      cases b with
      | notANumber => exact nomatch hb
      | zero t => rfl
      | infinity t | finite t => cases t <;> rfl
  | finite s m e hm =>
      cases b with
      | notANumber => exact nomatch hb
      | infinity t => cases s <;> cases t <;> rfl
      | zero t => cases s <;> rfl
      | finite t => cases s <;> cases t <;> rfl

/-- A double compares with a number unless it is none itself. -/
theorem order_eq_none {x y : Float} (h : y.isNaN = false) :
    order x y = none ↔ x.isNaN = true := by
  have hunpacked (a b : UnpackedFloat) (hb : b.isNaN = false) :
      a.compare b = none ↔ a.isNaN = true := by
    cases ha : a.isNaN with
    | true =>
        cases a with
        | notANumber => exact iff_of_true rfl rfl
        | _ => exact nomatch ha
    | false =>
        have hsome := compare_isSome ha hb
        refine iff_of_false (fun hnone => ?_) Bool.false_ne_true
        rw [hnone] at hsome
        exact nomatch hsome
  exact hunpacked x.toModel.unpack y.toModel.unpack h

/-- **A comparison with a number that does not hold**: the opposite one holds, or there is
    nothing to compare. -/
theorem negated {x y : Float} (h : y.isNaN = false) :
    (¬ x < y ↔ y ≤ x ∨ x.isNaN = true)
      ∧ (¬ x ≤ y ↔ y < x ∨ x.isNaN = true)
      ∧ (¬ y < x ↔ x ≤ y ∨ x.isNaN = true) := by
  simp only [lt_iff_order, le_iff_order, ← order_eq_none h, order_swap x y]
  cases order x y with
  | none => simp
  | some c => cases c <;> simp

end Comparing

-- ── Ranges ─────────────────────────────────────────────────────────────────────────

namespace Range

/-- A number that lies within a range: both comparisons hold. -/
structure Contains (range : Range) (x : Float) : Prop where
  low : if range.lowIncluded then range.low ≤ x else range.low < x
  high : x ≤ range.high

/-- What a range lets through: what lies within it, and NaN. -/
def Lets (range : Range) (x : Float) : Prop :=
  range.Contains x ∨ x.isNaN = true

/-- The ends of a range are numbers. -/
structure Proper (range : Range) : Prop where
  low : range.low.isNaN = false
  high : range.high.isNaN = false

theorem temperature_proper : temperature.Proper := ⟨by decide, by decide⟩

theorem topP_proper : topP.Proper := ⟨by decide, by decide⟩

theorem presencePenalty_proper : presencePenalty.Proper := ⟨by decide, by decide⟩

theorem frequencyPenalty_proper : frequencyPenalty.Proper := ⟨by decide, by decide⟩

/-- **A range excludes what it does not let through.** -/
theorem excludes_eq_false {range : Range} (h : range.Proper) {x : Float} :
    range.excludes x = false ↔ range.Lets x := by
  obtain ⟨hlt, hle, -⟩ := negated (x := x) h.low
  obtain ⟨-, -, hgt⟩ := negated (x := x) h.high
  have hcontains : range.Contains x
      ↔ (if range.lowIncluded then range.low ≤ x else range.low < x) ∧ x ≤ range.high :=
    ⟨fun hx => ⟨hx.low, hx.high⟩, fun hx => ⟨hx.1, hx.2⟩⟩
  rw [excludes, Bool.or_eq_false_iff, decide_eq_false_iff_not, hgt, Lets, hcontains,
    and_or_right]
  cases range.lowIncluded with
  | true =>
      simp only [if_true, decide_eq_false_iff_not]
      rw [hlt]
  | false =>
      simp only [Bool.false_eq_true, if_false, decide_eq_false_iff_not]
      rw [hle]

/-- To lie within a range is to be a number that it lets through. -/
theorem contains_iff {range : Range} (h : range.Proper) {x : Float} :
    range.Contains x ↔ range.Lets x ∧ x.isNaN = false := by
  have hnumber (hx : range.Contains x) : x.isNaN = false := by
    rw [← Bool.not_eq_true, ← order_eq_none h.high]
    intro hnone
    have hle := le_iff_order.mp hx.high
    rw [hnone] at hle
    exact nomatch hle
  constructor
  · intro hx
    exact ⟨.inl hx, hnumber hx⟩
  · rintro ⟨hx | hnan, hx'⟩
    · exact hx
    · rw [hx'] at hnan
      exact nomatch hnan

end Range

-- ── What a request has to be ───────────────────────────────────────────────────────

/-- Sampling parameters whose every given member lies within its bounds; `admits` says what it
    is for a number to lie within a range. -/
structure Sampling.Within (admits : Range → Float → Prop) (s : Sampling) : Prop where
  temperature : ∀ x ∈ s.temperature, admits .temperature x
  topP : ∀ x ∈ s.topP, admits .topP x
  presencePenalty : ∀ x ∈ s.presencePenalty, admits .presencePenalty x
  frequencyPenalty : ∀ x ∈ s.frequencyPenalty, admits .frequencyPenalty x
  maxTokens : ∀ n ∈ s.maxTokens, 0 < n
  logitBias : ∀ bias ∈ s.logitBias, ∀ entry ∈ bias, -100 ≤ entry.2 ∧ entry.2 ≤ 100
  stop : ∀ texts ∈ s.stop, texts.length ≤ 4

/-- Sampling parameters without NaN. -/
structure Sampling.Numeric (s : Sampling) : Prop where
  temperature : ∀ x ∈ s.temperature, x.isNaN = false
  topP : ∀ x ∈ s.topP, x.isNaN = false
  presencePenalty : ∀ x ∈ s.presencePenalty, x.isNaN = false
  frequencyPenalty : ∀ x ∈ s.frequencyPenalty, x.isNaN = false

/-- The documented ranges differ from those in force by NaN alone. -/
theorem Sampling.within_contains_iff {s : Sampling} :
    s.Within Range.Contains ↔ s.Within Range.Lets ∧ s.Numeric := by
  have hmembers {range : Range} (h : range.Proper) {given : Option Float} :
      (∀ x ∈ given, range.Contains x)
        ↔ (∀ x ∈ given, range.Lets x) ∧ ∀ x ∈ given, x.isNaN = false := by
    simp only [Range.contains_iff h, imp_and, forall_and]
  constructor
  · intro h
    obtain ⟨htemperature, htemperature'⟩ :=
      (hmembers Range.temperature_proper).mp h.temperature
    obtain ⟨htopP, htopP'⟩ := (hmembers Range.topP_proper).mp h.topP
    obtain ⟨hpresence, hpresence'⟩ :=
      (hmembers Range.presencePenalty_proper).mp h.presencePenalty
    obtain ⟨hfrequency, hfrequency'⟩ :=
      (hmembers Range.frequencyPenalty_proper).mp h.frequencyPenalty
    exact ⟨⟨htemperature, htopP, hpresence, hfrequency, h.maxTokens, h.logitBias, h.stop⟩,
      ⟨htemperature', htopP', hpresence', hfrequency'⟩⟩
  · rintro ⟨h, h'⟩
    exact {
      temperature := (hmembers Range.temperature_proper).mpr ⟨h.temperature, h'.temperature⟩
      topP := (hmembers Range.topP_proper).mpr ⟨h.topP, h'.topP⟩
      presencePenalty :=
        (hmembers Range.presencePenalty_proper).mpr ⟨h.presencePenalty, h'.presencePenalty⟩
      frequencyPenalty :=
        (hmembers Range.frequencyPenalty_proper).mpr ⟨h.frequencyPenalty, h'.frequencyPenalty⟩
      maxTokens := h.maxTokens
      logitBias := h.logitBias
      stop := h.stop }

namespace ChatRequest

/-- What a request has to be, whatever the order in which it is looked at. -/
structure Fits (admits : Range → Float → Prop) (r : ChatRequest) : Prop where
  messages : r.messages ≠ []
  modelName : r.modelName = none
  topK : r.topK = none
  sampling : r.sampling.Within admits
  named : ∀ tool ∈ r.tools, tool.name ≠ ""
  distinct : (r.tools.map (·.name)).Nodup
  /-- Only a single tool can be demanded. -/
  forced : ¬ (r.toolChoice = some .required ∧ 2 ≤ r.tools.length)

/-- A request that is let through by the checks and by the demand for a forced tool. -/
def Passes (r : ChatRequest) : Prop :=
  r.check = .ok () ∧ ∃ forced, r.forcedTool = .ok forced

-- ── The checks one by one ──────────────────────────────────────────────────────────

theorem refuseIf_eq_none {condition : Bool} {refusal : Refusal} :
    refuseIf condition refusal = none ↔ condition = false := by
  cases condition <;> simp [refuseIf]

theorem refuseOutside_eq_none {range : Range} (h : range.Proper) {given : Option Float} :
    refuseOutside range given = none ↔ ∀ x ∈ given, range.Lets x := by
  cases given with
  | none => simp [refuseOutside]
  | some x => simp [refuseOutside, refuseIf_eq_none, Range.excludes_eq_false h]

theorem refuseBias_eq_none {bias : List (String × Int)} :
    refuseBias bias = none ↔ ∀ entry ∈ bias, -100 ≤ entry.2 ∧ entry.2 ≤ 100 := by
  rw [refuseBias, List.findSome?_eq_none_iff]
  refine forall_congr' fun entry => imp_congr_right fun _ => ?_
  rw [refuseIf_eq_none, decide_eq_false_iff_not, maxBias]
  omega

theorem hasRepetition_eq_false {names : List String} :
    hasRepetition names = false ↔ names.Nodup := by
  induction names with
  | nil => simp [hasRepetition]
  | cons name rest ih => simp [hasRepetition, ih]

/-- A request that needs no refusal is let through. -/
theorem check_eq_ok {r : ChatRequest} :
    r.check = .ok () ↔ ∀ refusal ∈ r.checks, refusal = none := by
  have hnone : r.refusal? = none ↔ ∀ refusal ∈ r.checks, refusal = none :=
    List.findSome?_eq_none_iff
  rw [check, ← hnone]
  cases r.refusal? <;> simp

/-- The demand for a forced tool fails over several tools, and only then. -/
theorem forcedTool_eq_ok {r : ChatRequest} :
    (∃ forced, r.forcedTool = .ok forced)
      ↔ ¬ (r.toolChoice = some .required ∧ 2 ≤ r.tools.length) := by
  rw [forcedTool.eq_def]
  rcases hchoice : r.toolChoice with - | - | -
  · simp
  · simp
  · rcases htools : r.tools with - | ⟨tool, - | ⟨other, rest⟩⟩ <;> simp

/-- A tool is forced if one is demanded and there is just that one. -/
theorem forcedTool_eq_some {r : ChatRequest} {tool : ToolSpec} :
    r.forcedTool = .ok (some tool) ↔ r.toolChoice = some .required ∧ r.tools = [tool] := by
  rw [forcedTool.eq_def]
  rcases hchoice : r.toolChoice with - | - | -
  · simp
  · simp
  · rcases htools : r.tools with - | ⟨first, - | ⟨other, rest⟩⟩ <;> simp

/-- No tool is forced if none is demanded or there is none. -/
theorem forcedTool_eq_none {r : ChatRequest} :
    r.forcedTool = .ok none ↔ ¬ (r.toolChoice = some .required ∧ r.tools ≠ []) := by
  rw [forcedTool.eq_def]
  rcases hchoice : r.toolChoice with - | - | -
  · simp
  · simp
  · rcases htools : r.tools with - | ⟨first, - | ⟨other, rest⟩⟩ <;> simp

/-- A request that the checks do not let through is refused. -/
theorem check_eq_error {r : ChatRequest} {fault : Fault} (h : r.check = .error fault) :
    ∃ refusal : Refusal, refusal.fault = fault := by
  rw [check] at h
  cases hrefusal : r.refusal? with
  | none =>
      rw [hrefusal] at h
      exact nomatch h
  | some refusal =>
      rw [hrefusal] at h
      exact ⟨refusal, Except.error.inj h⟩

/-- A tool that cannot be forced is beyond what the provider is capable of. -/
theorem forcedTool_eq_error {r : ChatRequest} {fault : Fault}
    (h : r.forcedTool = .error fault) : fault.kind = .capability := by
  rw [forcedTool.eq_def] at h
  split at h
  · exact nomatch h
  · exact nomatch h
  · rw [← Except.error.inj h]
    rfl
  · exact nomatch h

/-- **A request passes exactly if it fits the ranges that are in force.** -/
theorem passes_iff {r : ChatRequest} : r.Passes ↔ r.Fits Range.Lets := by
  rw [Passes, check_eq_ok, forcedTool_eq_ok]
  simp only [checks, List.forall_mem_cons, refuseIf_eq_none,
    refuseOutside_eq_none Range.temperature_proper, refuseOutside_eq_none Range.topP_proper,
    refuseOutside_eq_none Range.presencePenalty_proper,
    refuseOutside_eq_none Range.frequencyPenalty_proper, hasRepetition_eq_false,
    Option.bind_eq_none_iff, refuseBias_eq_none, decide_eq_false_iff_not, Int.not_le, Nat.not_lt,
    List.isEmpty_eq_false_iff, Option.isSome_eq_false_iff, Option.isNone_iff_eq_none,
    List.contains_eq_mem, List.mem_map, not_exists, not_and]
  constructor
  · rintro ⟨⟨hmessages, hmodel, htopK, htemperature, htopP, hpresence, hfrequency, hmax, hbias,
      hstop, hnamed, hdistinct, -⟩, hforced⟩
    exact ⟨hmessages, hmodel, htopK,
      ⟨htemperature, htopP, hpresence, hfrequency, hmax, hbias, hstop⟩, hnamed, hdistinct,
      fun ⟨hchoice, htools⟩ => hforced hchoice htools⟩
  · intro h
    exact ⟨⟨h.messages, h.modelName, h.topK, h.sampling.temperature, h.sampling.topP,
      h.sampling.presencePenalty, h.sampling.frequencyPenalty, h.sampling.maxTokens,
      h.sampling.logitBias, h.sampling.stop, h.named, h.distinct, List.forall_mem_nil _⟩,
      fun hchoice htools => h.forced ⟨hchoice, htools⟩⟩

/-- **A request fits the documented ranges exactly if it passes and holds no NaN.** -/
theorem fits_iff {r : ChatRequest} :
    r.Fits Range.Contains ↔ r.Passes ∧ r.sampling.Numeric := by
  rw [passes_iff]
  constructor
  · intro h
    obtain ⟨hlets, hnumeric⟩ := Sampling.within_contains_iff.mp h.sampling
    exact ⟨{ h with sampling := hlets }, hnumeric⟩
  · rintro ⟨h, hnumeric⟩
    exact { h with sampling := Sampling.within_contains_iff.mpr ⟨h.sampling, hnumeric⟩ }

end ChatRequest

end CompletionStream
