import CompletionStream.Stream.Listener
import CompletionStream.Stream.Accumulator

/-!
# Recall — what counting remembers shows in no count

A count over a vocabulary keeps the encoding that it looked up.  Which encoding the next text is
counted with (`Tally.current`) is the same before and after, whether or not it was looked up
meanwhile.  If that encoding takes all texts, a count is a sum over it, and otherwise it is
refused (`countTexts_eq`).  So a count depends on what is remembered only through the encoding
that it stands for (`Tally.encodingFor`).

`Steady` says this of any way of counting: equal encodings give equal answers, and the encoding
stays.  Estimates of texts, messages and tool calls are steady, and so is the finalization of an
accumulator over them (`steady_bill`).
-/

namespace CompletionStream

/-- The encoding refuses none of the texts: an empty one is never shown to it. -/
def Encoding.Takes (encoding : Encoding) (texts : List String) : Prop :=
  ∀ s ∈ texts, s ≠ "" → (encoding s).isSome

namespace Encoding.Takes

variable {encoding : Encoding}

instance (texts : List String) : Decidable (encoding.Takes texts) :=
  inferInstanceAs (Decidable (∀ s ∈ texts, s ≠ "" → (encoding s).isSome))

theorem nil : encoding.Takes [] := fun _ hs => absurd hs List.not_mem_nil

theorem append_iff {first second : List String} :
    encoding.Takes (first ++ second) ↔ encoding.Takes first ∧ encoding.Takes second :=
  List.forall_mem_append

end Encoding.Takes

namespace Tally

/-- The encoding that the next text is counted with. -/
def current (vocabulary : Vocabulary) (model : String) (tally : Tally) : Encoding :=
  (tally.resolve vocabulary model).1

/-- The tokens of a text; one that is empty or refused has none. -/
def size (encoding : Encoding) (s : String) : Int :=
  if s = "" then 0 else ((encoding s).getD 0 : Nat)

/-- The tokens of several texts. -/
def total (encoding : Encoding) (texts : List String) : Int :=
  texts.foldr (fun s n => size encoding s + n) 0

/-- What several texts amount to: their tokens, if none of them is refused. -/
def amount (encoding : Encoding) (texts : List String) : Outcome Int :=
  if encoding.Takes texts then .ok (total encoding texts) else .error .wrongValue

theorem amount_taken {encoding : Encoding} {texts : List String} (h : encoding.Takes texts) :
    amount encoding texts = .ok (total encoding texts) := if_pos h

theorem amount_refused {encoding : Encoding} {texts : List String}
    (h : ¬ encoding.Takes texts) : amount encoding texts = .error .wrongValue := if_neg h

theorem amount_eq_error {encoding : Encoding} {texts : List String} {fault : Fault}
    (h : amount encoding texts = .error fault) : fault = .wrongValue := by
  rw [amount] at h
  split at h
  · exact nomatch h
  · exact (Except.error.inj h).symm

/-- A text alone amounts to its count. -/
theorem amount_singleton (encoding : Encoding) (s : String) :
    amount encoding [s] = if s = "" then .ok 0 else encoding.count s := by
  by_cases hs : s = ""
  · rw [if_pos hs, hs]
    rfl
  · rw [if_neg hs, Encoding.count]
    cases hcount : encoding s with
    | none =>
        refine amount_refused fun htakes => ?_
        have hsome := htakes s List.mem_cons_self hs
        rw [hcount] at hsome
        exact nomatch hsome
    | some n =>
        rw [amount_taken (List.forall_mem_singleton.mpr fun _ => by rw [hcount]; rfl), total,
          List.foldr_cons, size, if_neg hs, hcount]
        rfl

/-- The first text counts before the others, and refused it keeps them from being counted. -/
theorem amount_cons (encoding : Encoding) (s : String) (rest : List String) :
    amount encoding (s :: rest)
      = (amount encoding [s]).bind fun n => (amount encoding rest).map (n + ·) := by
  have hboth : encoding.Takes (s :: rest) ↔ encoding.Takes [s] ∧ encoding.Takes rest :=
    @Encoding.Takes.append_iff encoding [s] rest
  have htotal : total encoding [s] = size encoding s := Int.add_zero _
  by_cases hs : encoding.Takes [s]
  · rw [amount_taken hs, htotal]
    by_cases hrest : encoding.Takes rest
    · rw [amount_taken hrest, amount_taken (hboth.mpr ⟨hs, hrest⟩)]
      rfl
    · rw [amount_refused hrest, amount_refused fun hall => hrest (hboth.mp hall).2]
      rfl
  · rw [amount_refused hs, amount_refused fun hall => hs (hboth.mp hall).1]
    rfl

variable (vocabulary : Vocabulary) (model : String)

/-- Looking the encoding up does not change which one it is. -/
theorem current_resolve (tally : Tally) :
    (tally.resolve vocabulary model).2.current vocabulary model
      = tally.current vocabulary model := by
  rw [current, current, resolve.eq_def vocabulary model tally]
  cases hencoding : tally.encoding with
  | some encoding => simp [resolve, hencoding]
  | none => cases vocabulary.forModel? model <;> rfl

theorem countText_eq (s : String) (tally : Tally) :
    (tally.countText vocabulary model s).1 = amount (tally.current vocabulary model) [s]
      ∧ (tally.countText vocabulary model s).2.current vocabulary model
        = tally.current vocabulary model := by
  rw [countText, amount_singleton]
  split
  · exact ⟨rfl, rfl⟩
  · exact ⟨rfl, current_resolve vocabulary model tally⟩

/-- **Texts amount to the sum of their sizes unless one of them is refused**, and the encoding
    stays what it was. -/
theorem countTexts_eq (texts : List String) (tally : Tally) :
    (tally.countTexts vocabulary model texts).1
        = amount (tally.current vocabulary model) texts
      ∧ (tally.countTexts vocabulary model texts).2.current vocabulary model
        = tally.current vocabulary model := by
  induction texts generalizing tally with
  | nil => exact ⟨rfl, rfl⟩
  | cons s rest ih =>
      obtain ⟨hfirst, hcurrent⟩ := countText_eq vocabulary model s tally
      rw [countTexts, amount_cons, ← hfirst, ← hcurrent]
      rcases tally.countText vocabulary model s with ⟨fault | n, between⟩
      · exact ⟨rfl, rfl⟩
      · obtain ⟨hrest, hlast⟩ := ih between
        exact ⟨congrArg (Except.map (n + ·)) hrest, hlast⟩

/-- Counting a text over a vocabulary raises nothing but the refusal of it. -/
theorem countText_refused {s : String} {tally : Tally} {fault : Fault}
    (h : (tally.countText vocabulary model s).1 = .error fault) : fault = .wrongValue :=
  amount_eq_error ((countText_eq vocabulary model s tally).1.symm.trans h)

theorem countTexts_refused {texts : List String} {tally : Tally} {fault : Fault}
    (h : (tally.countTexts vocabulary model texts).1 = .error fault) : fault = .wrongValue :=
  amount_eq_error ((countTexts_eq vocabulary model texts tally).1.symm.trans h)

/-- The encoding that an estimator counts with, if it counts over a vocabulary. -/
def encodingFor (estimator : Option Estimator) (tally : Tally) : Option Encoding :=
  match estimator with
  | some (.vocabulary vocabulary model) => some (tally.current vocabulary model)
  | _ => none

end Tally

/-- A way of counting whose answer depends on the encoding alone, which it keeps. -/
structure Steady {α : Type} (estimator : Option Estimator) (count : Tally → α × Tally) :
    Prop where
  answer : ∀ {a b : Tally}, a.encodingFor estimator = b.encodingFor estimator →
    (count a).1 = (count b).1
  keeps : ∀ tally, (count tally).2.encodingFor estimator = tally.encodingFor estimator

/-- What is made of a steady answer is steady. -/
theorem Steady.map {α β : Type} {estimator : Option Estimator} {count : Tally → α × Tally}
    (h : Steady estimator count) (f : α → β) :
    Steady estimator fun tally => (f (count tally).1, (count tally).2) :=
  ⟨fun halike => congrArg f (h.answer halike), h.keeps⟩

namespace Estimator

/-- Counting texts is steady. -/
theorem steady_countTexts (vocabulary : Vocabulary) (model : String) (texts : List String) :
    Steady (some (.vocabulary vocabulary model))
      fun tally => tally.countTexts vocabulary model texts where
  answer {a b} h := by
    have hcurrent : a.current vocabulary model = b.current vocabulary model := Option.some.inj h
    rw [(Tally.countTexts_eq vocabulary model texts a).1,
      (Tally.countTexts_eq vocabulary model texts b).1, hcurrent]
  keeps tally := congrArg some (Tally.countTexts_eq vocabulary model texts tally).2

/-- What counts in a way of its own remembers nothing. -/
theorem steady_custom {α : Type} (text : String → Outcome Int)
    (messages : List Message → Outcome Int) (toolCalls : List ToolCall → Outcome Int) (a : α) :
    Steady (some (.custom text messages toolCalls)) fun tally => (a, tally) :=
  ⟨fun _ => rfl, fun _ => rfl⟩

theorem steady_countText (estimator : Estimator) (s : String) :
    Steady (some estimator) (estimator.countText s) := by
  cases estimator with
  | custom text messages toolCalls => exact steady_custom text messages toolCalls (text s)
  | vocabulary v model =>
      refine ⟨fun {a b} h => ?_, fun tally => congrArg some (Tally.countText_eq v model s tally).2⟩
      have hcurrent : a.current v model = b.current v model := Option.some.inj h
      show (a.countText v model s).1 = (b.countText v model s).1
      rw [(Tally.countText_eq v model s a).1, (Tally.countText_eq v model s b).1, hcurrent]

theorem steady_countMessages (estimator : Estimator) (messages : List Message) :
    Steady (some estimator) (estimator.countMessages messages) := by
  cases estimator with
  | custom text count toolCalls => exact steady_custom text count toolCalls (count messages)
  | vocabulary v model =>
      exact (steady_countTexts v model (messages.flatMap Tally.messageTexts)).map
        (Except.map fun n => messages.foldl (fun n m => n + Tally.messageCost m) n
          + Tally.perReply)

theorem steady_countToolCalls (estimator : Estimator) (calls : List ToolCall) :
    Steady (some estimator) (estimator.countToolCalls calls) := by
  cases estimator with
  | custom text messages count => exact steady_custom text messages count (count calls)
  | vocabulary v model => exact steady_countTexts v model (Tally.toolCallTexts calls)

end Estimator

namespace Accumulator

/-- Finalizing as a way of counting: the response and the accumulator are its answer. -/
def bill (acc : Accumulator) (estimator : Option Estimator) (inputTokens : Value)
    (tally : Tally) : (Outcome Response × Accumulator) × Tally :=
  let (outcome, accumulator, tally) := acc.finalize estimator inputTokens tally
  ((outcome, accumulator), tally)

theorem steady_estimate (acc : Accumulator) (estimator : Option Estimator) :
    Steady estimator (acc.estimate estimator) := by
  cases estimator with
  | none => exact ⟨fun _ => rfl, fun _ => rfl⟩
  | some e =>
      cases hcalls : acc.calls.build.isEmpty with
      | true =>
          have heq : acc.estimate (some e) = e.countText acc.content := by
            funext tally
            rw [estimate, hcalls, if_pos rfl]
          exact heq ▸ e.steady_countText acc.content
      | false =>
          have heq : acc.estimate (some e) = e.countToolCalls acc.calls.build := by
            funext tally
            rw [estimate, hcalls, if_neg Bool.false_ne_true]
          exact heq ▸ e.steady_countToolCalls acc.calls.build

theorem steady_outputTokens (acc : Accumulator) (estimator : Option Estimator) :
    Steady estimator (acc.outputTokens estimator) := by
  have hestimate := acc.steady_estimate estimator
  constructor
  · intro a b h
    rw [outputTokens, outputTokens]
    cases acc.usage with
    | none => exact hestimate.answer h
    | some usage =>
        dsimp only
        split
        · exact hestimate.answer h
        · rfl
  · intro tally
    rw [outputTokens]
    cases acc.usage with
    | none => exact hestimate.keeps tally
    | some usage =>
        dsimp only
        split
        · exact hestimate.keeps tally
        · rfl

/-- **Finalizing is steady.** -/
theorem steady_bill (acc : Accumulator) (estimator : Option Estimator) (inputTokens : Value) :
    Steady estimator (acc.bill estimator inputTokens) := by
  have hcount := acc.steady_outputTokens estimator
  have hconclude : Steady estimator (acc.conclude estimator inputTokens) := by
    constructor
    · intro a b h
      have hanswer := hcount.answer h
      rw [conclude, conclude]
      generalize acc.outputTokens estimator a = first at hanswer ⊢
      generalize acc.outputTokens estimator b = second at hanswer ⊢
      obtain ⟨count, _⟩ := first
      obtain ⟨_, _⟩ := second
      obtain rfl : count = _ := hanswer
      cases count <;> rfl
    · intro tally
      have hkeeps := hcount.keeps tally
      rw [conclude]
      generalize acc.outputTokens estimator tally = counted at hkeeps ⊢
      obtain ⟨fault | n, left⟩ := counted
      · exact hkeeps
      · exact hkeeps
  cases hfinal : acc.finalized with
  | true =>
      have hbill (tally : Tally) : acc.bill estimator inputTokens tally
          = ((.error (.of .streamState "response already finalized"), acc), tally) := by
        rw [bill, finalize, if_pos hfinal]
      exact ⟨fun _ => by rw [hbill, hbill], fun tally => by rw [hbill]⟩
  | false =>
      have hbill (tally : Tally) : acc.bill estimator inputTokens tally
          = (((acc.conclude estimator inputTokens tally).1, { acc with finalized := true }),
            (acc.conclude estimator inputTokens tally).2) := by
        rw [bill, finalize, hfinal, if_neg Bool.false_ne_true]
      constructor
      · intro a b h
        rw [hbill, hbill, hconclude.answer h]
      · intro tally
        rw [hbill]
        exact hconclude.keeps tally

end Accumulator

namespace Scene

/-- What is counted on a scene is what is counted without its log. -/
theorem encodingFor_quietly (estimator : Option Estimator) (tally : Tally) :
    ({ tally with log := [] } : Tally).encodingFor estimator = tally.encodingFor estimator := by
  have hcurrent (v : Vocabulary) (model : String) :
      ({ tally with log := [] } : Tally).current v model = tally.current v model := by
    rw [Tally.current, Tally.current, Tally.resolve, Tally.resolve]
    cases tally.encoding with
    | some encoding => rfl
    | none => cases v.forModel? model <;> rfl
  rcases estimator with - | (⟨v, model⟩ | ⟨text, messages, toolCalls⟩)
  · rfl
  · exact congrArg some (hcurrent v model)
  · rfl

variable {α : Type} {estimator : Option Estimator} {count : Tally → α × Tally}

/-- A steady count on scenes with equal encodings has one answer. -/
theorem counting_answer (h : Steady estimator count) {scene : Scene} {tally : Tally}
    (halike : scene.tally.encodingFor estimator = tally.encodingFor estimator) :
    (scene.counting count).1 = (count tally).1 :=
  h.answer ((encodingFor_quietly estimator scene.tally).trans halike)

/-- A steady count keeps the encoding of the scene. -/
theorem counting_keeps (h : Steady estimator count) (scene : Scene) :
    (scene.counting count).2.tally.encodingFor estimator
      = scene.tally.encodingFor estimator :=
  (h.keeps _).trans (encodingFor_quietly estimator scene.tally)

end Scene

end CompletionStream
