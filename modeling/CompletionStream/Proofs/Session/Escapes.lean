import CompletionStream.Proofs.Session.Closing
import CompletionStream.Proofs.Session.Ending
import CompletionStream.Stream.Push

/-!
# Escapes — what a session lets out

Whoever a session calls may raise something: listeners, the handler, the estimator, and the
transport.  Ordinary faults are absorbed wherever they come from; what is let out is an
interrupt, and no session makes up an interrupt of its own.

The argument is one invariant.  `Vouched known` says that all that is raised by those whom a
session calls is `known`, and no operation changes whom it calls.  An outcome is `Candid` if
the interrupts in it are known, and `Tight` if there is nothing else in it.  What a step does
before it looks at the fault is candid; what it lets out in the end is tight (`Guarded`), and
so is a whole run of a session over a stream (`pull_guarded`) or a source (`push_guarded`).
-/

namespace CompletionStream

namespace Outcome

variable {α β : Type}

/-- The interrupts that are let out are known. -/
def Candid (known : Fault → Prop) (x : Outcome α) : Prop :=
  ∀ fault, x = .error fault → fault.isOrdinary = false → known fault

/-- Nothing is let out but known interrupts. -/
def Tight (known : Fault → Prop) (x : Outcome α) : Prop :=
  ∀ fault, x = .error fault → fault.isOrdinary = false ∧ known fault

variable {known : Fault → Prop}

theorem tight_ok (a : α) : Tight known (.ok a) :=
  fun _ h => nomatch h

theorem tight_error {fault : Fault} (hinterrupt : fault.isOrdinary = false)
    (hknown : known fault) : Tight known (.error fault : Outcome α) := by
  rintro raised ⟨⟩
  exact ⟨hinterrupt, hknown⟩

theorem candid_ok (a : α) : Candid known (.ok a) :=
  fun _ h => nomatch h

@[simp] theorem candid_error_iff {fault : Fault} :
    Candid known (.error fault : Outcome α) ↔ (fault.isOrdinary = false → known fault) := by
  constructor
  · intro h
    exact h fault rfl
  · rintro h raised ⟨⟩
    exact h

theorem candid_error {fault : Fault} (hknown : known fault) :
    Candid known (.error fault : Outcome α) :=
  candid_error_iff.mpr fun _ => hknown

/-- Ordinary faults are none that have to be known. -/
theorem candid_ordinary {fault : Fault} (h : fault.isOrdinary = true) :
    Candid known (.error fault : Outcome α) := by
  rw [candid_error_iff, h]
  exact fun hinterrupt => nomatch hinterrupt

theorem Tight.candid {x : Outcome α} (h : x.Tight known) : x.Candid known :=
  fun fault hfault _ => (h fault hfault).2

theorem Plain.candid {x : Outcome α} (h : x.Plain) : x.Candid known := by
  cases x with
  | ok a => exact candid_ok a
  | error fault => exact candid_ordinary (h fault rfl).ordinary

theorem Candid.map {x : Outcome α} (h : x.Candid known) (f : α → β) :
    Candid known (x.map f) := by
  cases x with
  | ok a => exact candid_ok (f a)
  | error fault => exact candid_error_iff.mpr (candid_error_iff.mp h)

end Outcome

open Outcome

variable {known : Fault → Prop}

-- ── Those who are called ───────────────────────────────────────────────────────────

/-- All that the listener raises is known. -/
def Listener.Vouched (known : Fault → Prop) : Listener → Prop
  | .observer o => ∀ event attributes, ∀ fault ∈ o.faults event attributes, known fault
  | .logging _ | .silent => True

/-- All that the handler raises is known. -/
structure Handler.Vouched (known : Fault → Prop) (handler : Handler) : Prop where
  onPartial : ∀ n, ∀ fault ∈ (handler.onPartial n).fault, known fault
  onComplete : ∀ fault ∈ handler.onComplete, known fault
  onError : ∀ fault ∈ handler.onError, known fault

/-- All that the estimator raises over a response is known. -/
def Estimator.Vouched (known : Fault → Prop) : Estimator → Prop
  | .vocabulary _ _ => True
  | .custom text _ toolCalls =>
    (∀ s fault, text s = .error fault → known fault)
      ∧ ∀ calls fault, toolCalls calls = .error fault → known fault

theorem Listener.tell_candid {listener : Listener} (h : listener.Vouched known) (number : Nat)
    (event : Event) (scene : Scene) : (listener.tell number event scene).1.Candid known := by
  rw [tell.eq_def]
  split
  · exact candid_ordinary rfl
  · cases listener with
    | silent => exact candid_ok ()
    | logging level => exact (logEvent_ordinary level event scene).1.candid
    | observer o =>
        dsimp only
        split
        · rename_i fault hfault
          exact candid_error (h _ _ fault hfault)
        · exact candid_ok ()

/-- What listeners raise is dropped, and their interrupts are let out. -/
theorem Listener.tellFrom_tight {listeners : List Listener}
    (h : ∀ l ∈ listeners, l.Vouched known) (number : Nat) (event : Event) (scene : Scene) :
    (tellFrom number event listeners scene).1.Tight known := by
  induction listeners generalizing number scene with
  | nil => exact tight_ok ()
  | cons listener rest ih =>
      have hrest := ih fun l hl => h l (List.mem_cons_of_mem _ hl)
      have hcandid := tell_candid (h listener List.mem_cons_self) number event scene
      rw [tellFrom]
      generalize listener.tell number event scene = result at hcandid ⊢
      obtain ⟨fault | _, told⟩ := result
      · dsimp only
        split
        · exact hrest _ _
        · rename_i hinterrupt
          have hinterrupt := Bool.eq_false_of_not_eq_true hinterrupt
          exact tight_error hinterrupt (hcandid fault rfl hinterrupt)
      · exact hrest _ _

theorem Estimator.countText_candid {estimator : Estimator} (h : estimator.Vouched known)
    (s : String) (tally : Tally) : (estimator.countText s tally).1.Candid known := by
  cases estimator with
  | vocabulary v model =>
      intro fault hfault hinterrupt
      rw [Tally.countText_refused v model hfault] at hinterrupt
      exact nomatch hinterrupt
  | custom text messages toolCalls =>
      intro fault hfault _
      exact h.1 s fault hfault

theorem Estimator.countToolCalls_candid {estimator : Estimator} (h : estimator.Vouched known)
    (calls : List ToolCall) (tally : Tally) :
    (estimator.countToolCalls calls tally).1.Candid known := by
  cases estimator with
  | vocabulary v model =>
      intro fault hfault hinterrupt
      rw [Tally.countTexts_refused v model hfault] at hinterrupt
      exact nomatch hinterrupt
  | custom text messages toolCalls =>
      intro fault hfault _
      exact h.2 calls fault hfault

/-- Finalizing lets out what the estimator raises, and ordinary faults. -/
theorem Accumulator.finalize_candid {estimator : Option Estimator}
    (h : ∀ e ∈ estimator, e.Vouched known) (acc : Accumulator) (inputTokens : Value)
    (tally : Tally) : (acc.finalize estimator inputTokens tally).1.Candid known := by
  have hestimate : (acc.estimate estimator tally).1.Candid known := by
    cases estimator with
    | none => exact candid_ok 0
    | some e =>
        rw [estimate]
        split
        · exact Estimator.countText_candid (h e rfl) _ _
        · exact Estimator.countToolCalls_candid (h e rfl) _ _
  have hcount : (acc.outputTokens estimator tally).1.Candid known := by
    rw [outputTokens]
    split
    · split
      · exact hestimate
      · exact candid_ok _
    · exact hestimate
  rw [finalize]
  split
  · exact candid_ordinary rfl
  · rw [conclude]
    generalize acc.outputTokens estimator tally = counted at hcount ⊢
    obtain ⟨fault | n, tally'⟩ := counted
    · exact candid_error_iff.mpr (candid_error_iff.mp hcount)
    · exact (plain_usageOf inputTokens n).candid.map acc.response

namespace Session

/-- All that is raised by those whom a session calls is known. -/
structure Vouched (known : Fault → Prop) (s : Session) : Prop where
  listeners : ∀ l ∈ s.listeners, l.Vouched known
  handler : s.handler.Vouched known
  estimator : ∀ e ∈ s.estimator, e.Vouched known

/-- What an operation comes to lets out known interrupts alone, and whom the session calls
    stays known. -/
structure Guarded (known : Fault → Prop) (result : Outcome Unit × Session) : Prop where
  tight : result.1.Tight known
  vouched : result.2.Vouched known

theorem Vouched.guarded {s : Session} (h : s.Vouched known) : Guarded known (.ok (), s) :=
  ⟨tight_ok (), h⟩

-- ── Endings ────────────────────────────────────────────────────────────────────────

theorem tell_guarded {s : Session} (h : s.Vouched known) (event : Event) :
    Guarded known (s.tell event) :=
  ⟨Listener.tellFrom_tight h.listeners 0 event s.scene,
    h.listeners, h.handler, h.estimator⟩

theorem conclude_guarded {s : Session} (h : s.Vouched known) (entry : Entry)
    (callback : String) {raised : Option Fault} (hraised : ∀ fault ∈ raised, known fault) :
    Guarded known (s.conclude entry callback raised) := by
  have hadded : (s.add entry).Vouched known := ⟨h.listeners, h.handler, h.estimator⟩
  cases raised with
  | none => exact hadded.guarded
  | some fault =>
      rw [conclude]
      split
      · exact Vouched.guarded ⟨h.listeners, h.handler, h.estimator⟩
      · rename_i hinterrupt
        exact ⟨tight_error (Bool.eq_false_of_not_eq_true hinterrupt) (hraised fault rfl), hadded⟩

/-- Every ending lets out what listeners and the handler demand to stop. -/
theorem close_guarded {s : Session} (h : s.Vouched known) (event : Event) (entry : Entry)
    (callback : String) {raised : Handler → Option Fault}
    (hraised : ∀ handler : Handler, handler.Vouched known →
      ∀ fault ∈ raised handler, known fault) :
    Guarded known (s.close event entry callback raised) := by
  obtain ⟨htight, htold⟩ := tell_guarded h event
  rw [close]
  generalize s.tell event = result at htight htold ⊢
  obtain ⟨interrupt | _, told⟩ := result
  · exact ⟨htight, htold⟩
  · exact conclude_guarded htold entry callback (hraised _ htold.handler)

theorem fail_guarded {s : Session} (h : s.Vouched known) (fault : Fault) :
    Guarded known (s.fail fault) := by
  cases hended : s.ended with
  | true =>
      rw [fail_ended hended]
      exact Vouched.guarded ⟨h.listeners, h.handler, h.estimator⟩
  | false =>
      rw [fail_open hended]
      apply close_guarded
      · exact ⟨h.listeners, h.handler, h.estimator⟩
      · exact fun handler hhandler => hhandler.onError

/-- A fault is absorbed as a failure of the stream, and a known interrupt is let out. -/
theorem absorbed_guarded {s : Session} (h : s.Vouched known) {fault : Fault}
    (hknown : fault.isOrdinary = false → known fault) :
    Guarded known (if fault.isOrdinary then s.fail fault else (.error fault, s)) := by
  split
  · exact fail_guarded h fault
  · rename_i hinterrupt
    have hinterrupt := Bool.eq_false_of_not_eq_true hinterrupt
    exact ⟨tight_error hinterrupt (hknown hinterrupt), h⟩

theorem deliver_guarded {s : Session} (h : s.Vouched known) (response : Response) :
    Guarded known (s.deliver response) := by
  rw [deliver_eq]
  apply close_guarded
  · exact ⟨h.listeners, h.handler, h.estimator⟩
  · exact fun handler hhandler => hhandler.onComplete

theorem complete_guarded {s : Session} (h : s.Vouched known) : Guarded known s.complete := by
  rw [complete]
  split
  · exact h.guarded
  · have hcandid : s.finalize.1.Candid known :=
      Accumulator.finalize_candid h.estimator s.accumulator s.inputTokens _
    have hfinalized : s.finalize.2.Vouched known := ⟨h.listeners, h.handler, h.estimator⟩
    generalize s.finalize = result at hcandid hfinalized ⊢
    obtain ⟨fault | response, finalized⟩ := result
    · exact absorbed_guarded hfinalized (hcandid fault rfl)
    · exact deliver_guarded hfinalized response

-- ── Signals ────────────────────────────────────────────────────────────────────────

/-- What a handler raises that is told of some text is known. -/
theorem handOver_candid {s : Session} (h : s.Vouched known) (text : String) :
    (s.handOver (fun s _ => (.error tooDeep, s)) text).1.Candid known
      ∧ (s.handOver (fun s _ => (.error tooDeep, s)) text).2.Vouched known := by
  have hadded : ({ s.add (.partialText text) with partials := s.partials + 1 } :
      Session).Vouched known := ⟨h.listeners, h.handler, h.estimator⟩
  rw [handOver]
  -- its handlers have no session to send signals to, so any signal is too deep
  cases hsignals : (s.handler.onPartial s.partials).signals with
  | cons signal rest => exact ⟨candid_ordinary rfl, hadded⟩
  | nil =>
      rw [performAll]
      cases hfault : (s.handler.onPartial s.partials).fault with
      | none => exact ⟨candid_ok (), hadded⟩
      | some fault => exact ⟨candid_error (h.handler.onPartial _ fault hfault), hadded⟩

/-- Whatever is raised while a chunk is taken in, its interrupts are the handler's. -/
theorem attempt_candid {s : Session} (h : s.Vouched known) (chunk : PartialChunk) :
    (s.attempt (fun s _ => (.error tooDeep, s)) chunk).1.Candid known
      ∧ (s.attempt (fun s _ => (.error tooDeep, s)) chunk).2.Vouched known := by
  rw [attempt, absorb, Accumulator.append]
  cases s.accumulator.finalized with
  | true => exact ⟨candid_ordinary rfl, h⟩
  | false =>
      have htaken : ({ s with
          accumulator := s.accumulator.take chunk
          responseId := newer chunk.id s.responseId } : Session).Vouched known :=
        ⟨h.listeners, h.handler, h.estimator⟩
      cases chunk.text with
      | none => exact ⟨candid_ok (), htaken⟩
      | some text =>
          by_cases hempty : text = ""
          · simp only [Except.map, Bool.false_eq_true, if_false, if_pos hempty]
            exact ⟨candid_ok (), htaken⟩
          · simp only [Except.map, Bool.false_eq_true, if_false, if_neg hempty]
            exact handOver_candid htaken text

/-- A signal from a transport lets out known interrupts alone. -/
theorem receive_guarded {s : Session} (h : s.Vouched known) (signal : Signal) :
    Guarded known (s.receive signal) := by
  cases signal with
  | start =>
      rw [receive, step, start]
      split
      · exact Vouched.guarded ⟨h.listeners, h.handler, h.estimator⟩
      · exact h.guarded
  | next chunk =>
      rw [receive, step, next]
      split
      · obtain ⟨hcandid, hvouched⟩ := attempt_candid h chunk
        generalize s.attempt (fun s _ => (.error tooDeep, s)) chunk = result
          at hcandid hvouched ⊢
        obtain ⟨fault | _, s'⟩ := result
        · exact absorbed_guarded hvouched (hcandid fault rfl)
        · exact hvouched.guarded
      · exact h.guarded
  | complete => exact complete_guarded h
  | error fault => exact fail_guarded h fault
  | rename id => exact Vouched.guarded ⟨h.listeners, h.handler, h.estimator⟩

theorem start_vouched {s : Session} (h : s.Vouched known) : s.start.Vouched known :=
  (receive_guarded h .start).vouched

-- ── Whole streams ──────────────────────────────────────────────────────────────────

/-- Taking chunks is interrupted by known interrupts alone. -/
theorem drain_guarded {s : Session} (h : s.Vouched known) (chunks : List PartialChunk)
    (taken : Nat) :
    (∀ fault, (drain chunks taken s).1 = .interrupted fault →
        fault.isOrdinary = false ∧ known fault)
      ∧ (drain chunks taken s).2.2.Vouched known := by
  induction chunks generalizing taken s with
  | nil =>
      refine ⟨?_, h⟩
      rintro fault ⟨⟩
  | cons chunk rest ih =>
      obtain ⟨htight, hvouched⟩ := receive_guarded h (.next chunk)
      rw [drain]
      generalize s.receive (.next chunk) = result at htight hvouched ⊢
      obtain ⟨fault | _, s'⟩ := result
      · refine ⟨?_, hvouched⟩
        rintro raised ⟨⟩
        exact htight fault rfl
      · dsimp only
        split
        · refine ⟨?_, hvouched⟩
          rintro fault ⟨⟩
        · exact ih hvouched (taken + 1)

theorem settle_guarded {s : Session} (h : s.Vouched known) {fault : Option Fault}
    (hknown : ∀ f ∈ fault, f.isOrdinary = false → known f) :
    Guarded known (s.settle fault) := by
  cases fault with
  | none => exact complete_guarded h
  | some fault => exact absorbed_guarded h (hknown fault rfl)

theorem closeStream_guarded {outcome : Outcome Unit} {s : Session}
    (h : Guarded known (outcome, s)) {fault : Option Fault}
    (hknown : ∀ f ∈ fault, known f) : Guarded known (s.closeStream outcome fault) := by
  cases fault with
  | none => exact h
  | some fault =>
      rw [closeStream]
      split
      · exact ⟨h.tight, h.vouched.listeners, h.vouched.handler, h.vouched.estimator⟩
      · rename_i hinterrupt
        exact ⟨tight_error (Bool.eq_false_of_not_eq_true hinterrupt) (hknown fault rfl),
          h.vouched⟩

end Session

/-- All that a stream raises is known. -/
structure PullStream.Vouched (known : Fault → Prop) (stream : PullStream) : Prop where
  ending : ∀ fault ∈ stream.ending, known fault
  closeFault : ∀ fault ∈ stream.closeFault, known fault

theorem PullStream.Vouched.closing {stream : PullStream} (h : stream.Vouched known) :
    ∀ fault ∈ stream.closing, known fault := by
  rw [PullStream.closing]
  split
  · exact h.closeFault
  · rintro fault ⟨⟩

theorem PullStream.Vouched.lastFault {stream : PullStream} (h : stream.Vouched known) :
    ∀ fault ∈ stream.lastFault, known fault :=
  fun fault hfault => (mem_lastFault hfault).elim (h.closing fault) (h.ending fault)

namespace Session

theorem pullStream_guarded {s : Session} (h : s.Vouched known) {stream : PullStream}
    (hstream : stream.Vouched known) :
    Guarded known ((s.pullStream stream).1, (s.pullStream stream).2.2) := by
  obtain ⟨htight, hvouched⟩ := drain_guarded h stream.chunks 0
  rw [pullStream_eq]
  generalize drain stream.chunks 0 s = result at htight hvouched ⊢
  obtain ⟨- | - | fault, yielded, s'⟩ := result
  · have hsettled := settle_guarded hvouched fun f hf _ => hstream.lastFault f hf
    refine closeStream_guarded hsettled ?_
    split
    · exact fun f hf => (nomatch hf)
    · exact hstream.closing
  · exact closeStream_guarded (complete_guarded hvouched) hstream.closing
  · obtain ⟨hinterrupt, hknown⟩ := htight fault rfl
    exact closeStream_guarded ⟨tight_error hinterrupt hknown, hvouched⟩ hstream.closing

/-- **A run over a stream lets out known interrupts alone.** -/
theorem pull_guarded {s : Session} (h : s.Vouched known) {opened : Outcome PullStream}
    (hopening : ∀ fault, opened = .error fault → known fault)
    (hstream : ∀ stream, opened = .ok stream → stream.Vouched known) :
    Guarded known ((s.pull opened).1, (s.pull opened).2.2) := by
  cases opened with
  | error fault =>
      show Guarded known (s.start.settle (some fault))
      apply settle_guarded (start_vouched h)
      rintro f ⟨⟩ -
      exact hopening fault rfl
  | ok stream => exact pullStream_guarded (start_vouched h) (hstream stream rfl)

/-- Deliveries let out what they raise, and known interrupts. -/
theorem deliverAll_candid {s : Session} (h : s.Vouched known) {deliveries : List Delivery}
    (hraised : ∀ fault, .raised fault ∈ deliveries → known fault) :
    (deliverAll deliveries s).1.Candid known ∧ (deliverAll deliveries s).2.Vouched known := by
  induction deliveries generalizing s with
  | nil => exact ⟨candid_ok (), h⟩
  | cons delivery rest ih =>
      have hrest : ∀ fault, .raised fault ∈ rest → known fault :=
        fun fault hfault => hraised fault (List.mem_cons_of_mem _ hfault)
      cases delivery with
      | raised fault => exact ⟨candid_error (hraised fault List.mem_cons_self), h⟩
      | signal signal =>
          obtain ⟨htight, hvouched⟩ := receive_guarded h signal
          rw [deliverAll]
          generalize s.receive signal = result at htight hvouched ⊢
          obtain ⟨fault | _, s'⟩ := result
          · exact ⟨htight.candid, hvouched⟩
          · exact ih hvouched hrest

theorem abort_vouched {s : Session} (h : s.Vouched known) (fault : Fault) :
    (subscriber.abort fault s).2.Vouched known := by
  rw [Subscriber.abort]
  split
  · have htold : (subscriber.onError transportClosed s).2.Vouched known :=
      (receive_guarded h (.error transportClosed)).vouched
    generalize subscriber.onError transportClosed s = result at htold ⊢
    obtain ⟨raised | _, told⟩ := result
    · exact htold
    · exact htold
  · split
    · exact (receive_guarded h (.error (Wire.relayed fault))).vouched
    · exact h

theorem deliver_vouched {s : Session} (h : s.Vouched known) (ending : Option Fault)
    (chunks : List Value) : (subscriber.deliver ending chunks s).2.Vouched known := by
  induction chunks generalizing s with
  | nil =>
      cases ending with
      | none => exact (receive_guarded h .complete).vouched
      | some fault => exact abort_vouched h fault
  | cons raw rest ih =>
      rw [Subscriber.deliver]
      split
      · exact abort_vouched h _
      · rename_i chunk _
        have htaken : (subscriber.onNext chunk s).2.Vouched known :=
          (receive_guarded h (.next chunk)).vouched
        generalize subscriber.onNext chunk s = result at htaken ⊢
        obtain ⟨fault | _, taken⟩ := result
        · exact abort_vouched htaken fault
        · exact ih htaken

/-- What is delivered from another thread changes nobody whom the session calls. -/
theorem consume_vouched {s : Session} (h : s.Vouched known) (raw : RawStream) :
    (subscriber.consume raw s).2.Vouched known := by
  rw [Subscriber.consume]
  split
  · exact abort_vouched h _
  · exact deliver_vouched h _ _

/-- **A run over a source lets out known interrupts alone.** -/
theorem push_guarded {s : Session} (h : s.Vouched known) {opened : Outcome PushSource}
    (hopening : ∀ fault, opened = .error fault → known fault)
    (hraised : ∀ deliveries fault, opened = .ok (.inline deliveries) →
      .raised fault ∈ deliveries → known fault) :
    Guarded known (s.push opened) := by
  cases opened with
  | error fault =>
      show Guarded known (s.settle (some fault))
      apply settle_guarded h
      rintro f ⟨⟩ -
      exact hopening fault rfl
  | ok source =>
      obtain ⟨hcandid, hvouched⟩ : (s.start.subscribe source).1.Candid known
          ∧ (s.start.subscribe source).2.Vouched known := by
        cases source with
        | detached raw => exact ⟨candid_ok (), consume_vouched (start_vouched h) raw⟩
        | inline deliveries =>
            exact deliverAll_candid (start_vouched h)
              fun fault hfault => hraised deliveries fault rfl hfault
      rw [push]
      generalize s.start.subscribe source = result at hcandid hvouched ⊢
      obtain ⟨fault | _, s'⟩ := result
      · refine settle_guarded hvouched ?_
        rintro f ⟨⟩
        exact hcandid fault rfl
      · exact hvouched.guarded

end Session

end CompletionStream
