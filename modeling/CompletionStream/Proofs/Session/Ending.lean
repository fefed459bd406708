import CompletionStream.Proofs.Accumulator.Finalize
import CompletionStream.Proofs.Counting.Recall
import CompletionStream.Proofs.Session.Telling
import CompletionStream.Stream.Pull

/-!
# Ending — what each operation of a session comes to

A session that has ended ignores a failure and a completion.  One that is still open turns to
its final phase first, then it closes (`close`): a round of its listeners, and its handler
last.  `EndsIn` says this of an operation, and `fail_ordinary` and `complete_ordinary` prove
it, the latter with the response that `Reference.concluded` gives.

A session that takes in chunks is said in one equation (`next_streaming`): the chunk is taken
in and its text handed over (`after`), then the handler reacts, and whatever is raised is a
failure of the stream.  `underway` is the state that this leads to, as long as the session is
open.
-/

namespace CompletionStream

open Scene (Adds)

/-- Counting over an ordinary estimator raises ordinary faults. -/
theorem Reference.counted_ordinary {chunks : List PartialChunk} {estimator : Option Estimator}
    (h : ∀ e ∈ estimator, e.Ordinary) {tally : Tally} {fault : Fault}
    (hfault : (counted chunks estimator tally).1 = .error fault) : fault.isOrdinary = true := by
  rw [counted.eq_def] at hfault
  cases hreported : reported chunks with
  | some n =>
      rw [hreported] at hfault
      cases hfault
  | none =>
      rw [hreported] at hfault
      cases estimator with
      | none => cases hfault
      | some e =>
          cases e with
          | vocabulary v model =>
              dsimp only at hfault
              split at hfault
              · rw [Tally.countText_refused v model hfault]
                rfl
              · rw [Tally.countTexts_refused v model hfault]
                rfl
          | custom text messages toolCalls =>
              obtain ⟨htext, hcalls⟩ := h (.custom text messages toolCalls) rfl
              dsimp only at hfault
              split at hfault
              · exact htext _ fault hfault
              · exact hcalls _ fault hfault

/-- Finalizing over an ordinary estimator raises ordinary faults. -/
theorem Reference.concluded_ordinary {chunks : List PartialChunk} {estimator : Option Estimator}
    (h : ∀ e ∈ estimator, e.Ordinary) {inputTokens : Value} {tally : Tally} {fault : Fault}
    (hfault : (concluded chunks estimator inputTokens tally).1 = .error fault) :
    fault.isOrdinary = true := by
  rw [concluded] at hfault
  rcases hcounted : counted chunks estimator tally with ⟨count, tally'⟩
  rw [hcounted] at hfault
  cases count with
  | error raised =>
      have hraised : (counted chunks estimator tally).1 = .error raised := by rw [hcounted]
      rw [← Except.error.inj hfault]
      exact counted_ordinary h hraised
  | ok n =>
      dsimp only at hfault
      cases husage : Accumulator.usageOf inputTokens n with
      | ok usage => rw [husage] at hfault; cases hfault
      | error raised =>
          rw [husage] at hfault
          rw [← Except.error.inj hfault]
          exact (Accumulator.plain_usageOf inputTokens n raised husage).ordinary

/-- What a stream raises after its last chunk comes from closing it or from its end. -/
theorem PullStream.mem_lastFault {stream : PullStream} {fault : Fault}
    (h : fault ∈ stream.lastFault) : fault ∈ stream.closing ∨ fault ∈ stream.ending := by
  rw [lastFault] at h
  split at h
  · exact (Option.or_eq_some_iff.mp h).imp_right And.right
  · exact .inr h

namespace Session

/-- Whatever a session calls raises ordinary faults only. -/
structure Orderly (s : Session) : Prop where
  listeners : ∀ l ∈ s.listeners, l.Ordinary
  handler : s.handler.Ordinary
  estimator : ∀ e ∈ s.estimator, e.Ordinary

-- ── Closing ────────────────────────────────────────────────────────────────────────

/-- How every ending goes: the listeners are told first and the handler last. -/
def close (s : Session) (event : Event) (entry : Entry) (callback : String)
    (raised : Handler → Option Fault) : Outcome Unit × Session :=
  match s.tell event with
  | (.error interrupt, s) => (.error interrupt, s)
  | (.ok (), s) => s.conclude entry callback (raised s.handler)

/-- Telling the listeners comes to a round of them. -/
theorem tell_ordinary {s : Session} (h : ∀ l ∈ s.listeners, l.Ordinary) {event : Event}
    (hhook : (Listener.hookOf event).isSome) :
    ∃ scene, s.tell event = (.ok (), { s with scene })
      ∧ Adds (Listener.round event s.listeners) s.scene scene := by
  obtain ⟨scene, htell, hround⟩ := Listener.tellAll_ordinary h hhook s.scene
  exact ⟨scene, by rw [tell, htell], hround⟩

/-- What the handler raises at the ending is dropped. -/
theorem conclude_ordinary (s : Session) (entry : Entry) (callback : String)
    {raised : Option Fault} (h : ∀ fault ∈ raised, fault.isOrdinary = true) :
    ∃ scene, s.conclude entry callback raised = (.ok (), { s with scene })
      ∧ Adds [entry.bare] s.scene scene := by
  cases raised with
  | none => exact ⟨s.scene.add entry, rfl, Adds.add s.scene entry⟩
  | some fault =>
      rw [conclude, if_pos (h fault rfl)]
      exact ⟨_, rfl, (Adds.add s.scene entry).trans (Adds.report _ _)⟩

theorem close_ordinary {s : Session} (hlisteners : ∀ l ∈ s.listeners, l.Ordinary)
    {event : Event} (hhook : (Listener.hookOf event).isSome) (entry : Entry)
    (callback : String) {raised : Handler → Option Fault}
    (hraised : ∀ fault ∈ raised s.handler, fault.isOrdinary = true) :
    ∃ scene, s.close event entry callback raised = (.ok (), { s with scene })
      ∧ Adds (Listener.round event s.listeners ++ [entry.bare]) s.scene scene := by
  obtain ⟨told, htell, hround⟩ := tell_ordinary hlisteners hhook
  obtain ⟨scene, hconclude, hentry⟩ :=
    conclude_ordinary { s with scene := told } entry callback hraised
  exact ⟨scene, by rw [close, htell]; exact hconclude, hround.trans hentry⟩

/-- An open session has turned to its final phase and then closed, telling its listeners of
    the event and its handler of the entry. -/
structure EndsIn (s : Session) (phase : Phase) (event : Event) (entry : Entry)
    (closed : Session) : Prop where
  final : closed.phase = phase
  heard : closed.scene.heard = s.scene.heard ++ (Listener.round event s.listeners ++ [entry])
  /-- The phase is final before anyone is told. -/
  turned : ∃ (turned : Session) (callback : String)
    (raised : Handler → Option Fault),
    turned.phase = phase
    ∧ turned.scene.timeline = s.scene.timeline
    ∧ turned.close event entry callback raised = (.ok (), closed)

/-- An ending depends on the listeners and on what was heard before, and on nothing else. -/
theorem EndsIn.congr {a b closed : Session} {phase : Phase} {event : Event} {entry : Entry}
    (hscene : a.scene.timeline = b.scene.timeline) (hlisteners : a.listeners = b.listeners)
    (h : a.EndsIn phase event entry closed) : b.EndsIn phase event entry closed where
  final := h.final
  heard := by
    have hheard : a.scene.heard = b.scene.heard := congrArg (List.map Entry.bare) hscene
    rw [h.heard, hheard, hlisteners]
  turned := by
    obtain ⟨turned, callback, raised, hphase, htimeline, hclose⟩ := h.turned
    exact ⟨turned, callback, raised, hphase, htimeline.trans hscene, hclose⟩

/-- A session has ended with its ending. -/
theorem EndsIn.ended {s closed : Session} {phase : Phase} {event : Event} {entry : Entry}
    (h : s.EndsIn phase event entry closed) (hphase : phase.ended = true) :
    closed.ended = true := by
  rw [Session.ended, h.final]
  exact hphase

/-- Turning to a final phase and closing is an ending. -/
theorem endsIn_close {s turned : Session} (hlisteners : ∀ l ∈ s.listeners, l.Ordinary)
    (hsame : turned.listeners = s.listeners)
    (htimeline : turned.scene.timeline = s.scene.timeline) (event : Event)
    (hhook : (Listener.hookOf event).isSome) (entry : Entry) (hbare : entry.bare = entry)
    (callback : String) {raised : Handler → Option Fault}
    (hraised : ∀ fault ∈ raised turned.handler, fault.isOrdinary = true) :
    ∃ closed, turned.close event entry callback raised = (.ok (), closed)
      ∧ s.EndsIn turned.phase event entry closed := by
  have hturned : ∀ l ∈ turned.listeners, l.Ordinary := hsame ▸ hlisteners
  obtain ⟨scene, hclose, hadds⟩ := close_ordinary hturned hhook entry callback hraised
  refine ⟨_, hclose, rfl, ?_, turned, callback, raised, rfl, htimeline, hclose⟩
  have hheard : turned.scene.heard = s.scene.heard := congrArg (List.map Entry.bare) htimeline
  rw [hadds.heard, hheard, hsame, hbare]

-- ── Failure and completion ─────────────────────────────────────────────────────────

/-- A session that has ended ignores a failure. -/
theorem fail_ended {s : Session} (h : s.ended = true) (fault : Fault) :
    s.fail fault = (.ok (), s.report LogRecord.debug "error after terminal state ignored: %s"
      [.fault fault] []) := by
  rw [fail, if_pos h]

/-- A session that has ended ignores a completion. -/
theorem complete_ended {s : Session} (h : s.ended = true) : s.complete = (.ok (), s) := by
  rw [complete, if_pos h]

/-- A failure turns an open session, which then closes. -/
theorem fail_open {s : Session} (h : s.ended = false) (fault : Fault) :
    s.fail fault
      = ({ s with phase := .failed }.report LogRecord.debug "stream failed: %s" [.fault fault]
          [("response_id", .ofOption .str s.responseId), ("error_type", .str fault.name)]).close
        (.failed s.exchange fault) (.failure fault) "on_error" (·.onError) := by
  rw [fail, h, if_neg Bool.false_ne_true]
  rfl

/-- A response turns a session, which then closes. -/
theorem deliver_eq (s : Session) (response : Response) :
    s.deliver response
      = ({ s with phase := .completed }.report LogRecord.debug "stream completed" []
          [("response_id", .ofOption .str s.responseId),
            ("finish_reason", .ofOption (fun r : FinishReason => .str r.word)
              response.finishReason),
            ("output_tokens", .int response.usage.outputTokens)]).close
        (.completed s.exchange { response with id := s.responseId })
        (.completion { response with id := s.responseId }) "on_complete_response"
        (·.onComplete) := rfl

/-- A failure ends an open session. -/
theorem fail_ordinary {s : Session} (h : s.Orderly) (hopen : s.ended = false) (fault : Fault) :
    ∃ closed, s.fail fault = (.ok (), closed)
      ∧ s.EndsIn .failed (.failed s.exchange fault) (.failure fault) closed := by
  rw [fail_open hopen]
  refine endsIn_close h.listeners ?_ ?_ _ ?_ _ ?_ _ h.handler.onError <;> rfl

/-- A response ends a session. -/
theorem deliver_ordinary {s : Session} (h : s.Orderly) (response : Response) :
    ∃ closed, s.deliver response = (.ok (), closed)
      ∧ s.EndsIn .completed (.completed s.exchange { response with id := s.responseId })
          (.completion { response with id := s.responseId }) closed := by
  rw [deliver_eq]
  refine endsIn_close h.listeners ?_ ?_ _ ?_ _ ?_ _ h.handler.onComplete <;> rfl

/-- What the chunks of a session come to. -/
def concluded (s : Session) (chunks : List PartialChunk) : Outcome Response :=
  (Reference.concluded chunks s.estimator s.inputTokens { s.scene.tally with log := [] }).1

/-- How a session ends that completes over these chunks. -/
def Completes (s : Session) (chunks : List PartialChunk) (closed : Session) : Prop :=
  (∃ response, s.concluded chunks = .ok response
      ∧ s.EndsIn .completed (.completed s.exchange { response with id := s.responseId })
          (.completion { response with id := s.responseId }) closed)
    ∨ ∃ fault, s.concluded chunks = .error fault
      ∧ s.EndsIn .failed (.failed s.exchange fault) (.failure fault) closed

/-- **A completion ends an open session**: with the response of its chunks if there is one, and
    else with the failure to make one. -/
theorem complete_ordinary {s : Session} (h : s.Orderly) (hopen : s.ended = false)
    {chunks : List PartialChunk} (hchunks : s.accumulator = .gather chunks) :
    ∃ closed, s.complete = (.ok (), closed) ∧ s.Completes chunks closed := by
  -- finalizing closes the accumulator and counts, and the timeline stays
  obtain ⟨accumulator, scene, hfinalize, htimeline⟩ : ∃ accumulator scene,
      s.finalize = (s.concluded chunks, { s with accumulator, scene })
        ∧ ({ s with accumulator, scene } : Session).scene.timeline = s.scene.timeline := by
    rw [finalize, hchunks]
    simp only [Scene.counting, Accumulator.finalize_gather]
    exact ⟨_, _, rfl, rfl⟩
  have hdone : ({ s with accumulator, scene } : Session).Orderly :=
    ⟨h.listeners, h.handler, h.estimator⟩
  rw [complete, hopen, if_neg Bool.false_ne_true, hfinalize]
  cases hconcluded : s.concluded chunks with
  | ok response =>
      obtain ⟨closed, hclosed, hends⟩ := deliver_ordinary hdone response
      exact ⟨closed, hclosed, Or.inl ⟨response, hconcluded, hends.congr htimeline rfl⟩⟩
  | error fault =>
      have hordinary : fault.isOrdinary = true :=
        Reference.concluded_ordinary h.estimator hconcluded
      obtain ⟨closed, hclosed, hends⟩ := fail_ordinary hdone hopen fault
      refine ⟨closed, ?_, Or.inr ⟨fault, hconcluded, hends.congr htimeline rfl⟩⟩
      simp only [hordinary, if_true]
      exact hclosed

end Session

end CompletionStream
