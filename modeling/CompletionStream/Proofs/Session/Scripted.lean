import CompletionStream.Proofs.Client.Preparing
import CompletionStream.Proofs.Session.Closing
import CompletionStream.Proofs.Session.Intake
import CompletionStream.Proofs.Session.Script

/-!
# Scripted operations — whatever a session does, it does by a script

An operation is scripted at a session (`Scripted`) if there are a result, a session and a script
that it comes to for all listeners with ordinary faults, and on every scene that counts with the
same encoding.  So neither the result nor the script can depend on who listens, on the clock, on
the log, or on anything that was told before.

What is scripted stays so when one operation follows another (`Scripted.bind`), and every
operation of a session is put together that way: its endings, its signals at every depth
(`scripted_step`), and whole runs over a stream or a source (`scripted_pull`, `scripted_push`).
-/

namespace CompletionStream

/-- The exchange that an event is about. -/
def Event.exchange? : Event → Option Exchange
  | .started x | .completed x _ | .failed x _ => some x
  | .stray _ => none

/-- An event that is about an exchange calls a hook. -/
theorem Event.hooked {event : Event} {x : Exchange} (h : event.exchange? = some x) :
    (Listener.hookOf event).isSome := by
  cases event with
  | stray name => exact nomatch h
  | _ => rfl

/-- What is fixed while a request is under way: its exchange, what counts its tokens, and a tally
    with the encoding that its texts are counted with. -/
structure Setting where
  exchange : Exchange
  estimator : Option Estimator
  tally : Tally

namespace Session

/-- The session with these listeners, on this scene. -/
def staged (s : Session) (listeners : List Listener) (scene : Scene) : Session :=
  { s with listeners, scene }

/-- The session is one of the setting. -/
structure Within (setting : Setting) (s : Session) : Prop where
  exchange : s.exchange = setting.exchange
  estimator : s.estimator = setting.estimator

/-- Texts are counted on the scene with the encoding of the setting. -/
def Alike (setting : Setting) (scene : Scene) : Prop :=
  scene.tally.encodingFor setting.estimator = setting.tally.encodingFor setting.estimator

/-- Playing leaves a scene like the setting. -/
theorem Alike.play {setting : Setting} {scene : Scene} (h : Alike setting scene)
    (acts : List Act) : Alike setting (scene.play setting.estimator acts) :=
  (Scene.encodingFor_play _ _ _).trans h

section

variable {α β : Type}

/-- What an operation comes to at a session, whoever listens and on whatever scene. -/
structure Follows (setting : Setting) (operation : Session → α × Session) (s : Session)
    (result : α) (s' : Session) (script : List Cue) : Prop where
  within : s'.Within setting
  about : ∀ event ∈ Move.told script, event.exchange? = some setting.exchange
  staged : ∀ listeners scene, (∀ l ∈ listeners, Listener.Ordinary l) → Alike setting scene →
    operation (s.staged listeners scene)
      = (result, s'.staged listeners (scene.play setting.estimator (acts listeners script)))

/-- An operation comes to the same result by the same script, whoever listens. -/
def Scripted (setting : Setting) (operation : Session → α × Session) (s : Session) : Prop :=
  ∃ result s' script, Follows setting operation s result s' script

variable {setting : Setting} {s : Session}

/-- Operations that agree on all stagings of a session go by the same script. -/
theorem Scripted.congr {first second : Session → α × Session}
    (h : ∀ listeners scene, first (s.staged listeners scene) = second (s.staged listeners scene))
    (hsecond : Scripted setting second s) : Scripted setting first s := by
  obtain ⟨result, s', script, hwithin, habout, hstaged⟩ := hsecond
  exact ⟨result, s', script, hwithin, habout, fun listeners scene hordinary halike =>
    (h listeners scene).trans (hstaged listeners scene hordinary halike)⟩

/-- An operation that leaves the scene alone. -/
theorem Scripted.silent {operation : Session → α × Session} (result : α) (s' : Session)
    (hwithin : s'.Within setting)
    (h : ∀ listeners scene,
      operation (s.staged listeners scene) = (result, s'.staged listeners scene)) :
    Scripted setting operation s :=
  ⟨result, s', [], hwithin, fun _ hevent => (nomatch hevent),
    fun listeners scene _ _ => h listeners scene⟩

/-- An operation that does one thing, and tells nobody of it. -/
theorem Scripted.one {operation : Session → α × Session} (result : α) (s' : Session) (cue : Cue)
    (hwithin : s'.Within setting) (hsecret : cue.telling? = none)
    (h : ∀ listeners scene, Alike setting scene → operation (s.staged listeners scene)
      = (result, s'.staged listeners (scene.play setting.estimator (acts listeners [cue])))) :
    Scripted setting operation s := by
  refine ⟨result, s', [cue], hwithin, fun event hevent => ?_,
    fun listeners scene _ => h listeners scene⟩
  rw [Move.told, List.filterMap_cons_none hsecret] at hevent
  exact absurd hevent List.not_mem_nil

/-- **What follows a scripted operation may look at its result, and at nothing else.** -/
theorem Scripted.bind {first : Session → α × Session} {next : α → Session → β × Session}
    (hfirst : Scripted setting first s)
    (hnext : ∀ a s', s'.Within setting → Scripted setting (next a) s') :
    Scripted setting (fun s => next (first s).1 (first s).2) s := by
  obtain ⟨a, between, script, hwithin, habout, hstaged⟩ := hfirst
  obtain ⟨b, s', rest, hwithin', habout', hstaged'⟩ := hnext a between hwithin
  refine ⟨b, s', script ++ rest, hwithin', ?_, fun listeners scene hordinary halike => ?_⟩
  · intro event hevent
    rw [Move.told_append, List.mem_append] at hevent
    exact hevent.elim (habout event) (habout' event)
  · rw [hstaged listeners scene hordinary halike, acts_append, Scene.play_append]
    exact hstaged' listeners _ hordinary (halike.play _)

/-- What is made of the result does not matter. -/
theorem Scripted.map {operation : Session → α × Session} (f : α → β)
    (h : Scripted setting operation s) :
    Scripted setting (fun s => (f (operation s).1, (operation s).2)) s :=
  h.bind fun a s' hs' => .silent (f a) s' hs' fun _ _ => rfl

/-- Goes on after an outcome, in one way if there is a result and in another after a fault. -/
def goOn (onResult : α → Session → β × Session) (onFault : Fault → Session → β × Session) :
    Outcome α → Session → β × Session
  | .ok a => onResult a
  | .error fault => onFault fault

/-- An operation may go on after a fault as well as after a result. -/
theorem Scripted.goOn {first : Session → Outcome α × Session}
    {onResult : α → Session → β × Session} {onFault : Fault → Session → β × Session}
    (hfirst : Scripted setting first s)
    (hresult : ∀ a s', s'.Within setting → Scripted setting (onResult a) s')
    (hfault : ∀ fault s', s'.Within setting → Scripted setting (onFault fault) s') :
    Scripted setting (fun s => goOn onResult onFault (first s).1 (first s).2) s := by
  refine hfirst.bind fun outcome s' hs' => ?_
  cases outcome with
  | ok a => exact hresult a s' hs'
  | error fault => exact hfault fault s' hs'

/-- After a fault nothing follows. -/
theorem Scripted.andThen {first next : Session → Outcome Unit × Session}
    (hfirst : Scripted setting first s)
    (hnext : ∀ s', s'.Within setting → Scripted setting next s') :
    Scripted setting (fun s => match first s with
      | (.error fault, s) => (.error fault, s)
      | (.ok (), s) => next s) s := by
  refine (hfirst.goOn (fun _ => hnext) fun fault s' hs' =>
    .silent (.error fault) s' hs' fun _ _ => rfl).congr fun listeners scene => ?_
  rcases first (s.staged listeners scene) with ⟨fault | -, s'⟩ <;> rfl

end

variable {setting : Setting} {s : Session}

-- ── Endings ────────────────────────────────────────────────────────────────────────

theorem scripted_report (h : s.Within setting) (outcome : Outcome Unit) (level : Int)
    (template : String) (arguments : List LogArgument) (extra : List (String × Value))
    (fault : Option Fault) :
    Scripted setting (fun s => (outcome, s.report level template arguments extra fault)) s :=
  .one outcome s (.report { logger := loggerName, level, template, arguments, extra, fault })
    h rfl fun _ _ _ => rfl

/-- Telling is all that the listeners come to, whoever of them raises. -/
theorem staged_tell (s : Session) {listeners : List Listener} (scene : Scene)
    (hordinary : ∀ l ∈ listeners, Listener.Ordinary l) (estimator : Option Estimator)
    (event : Event) :
    (s.staged listeners scene).tell event
      = (.ok (), s.staged listeners (scene.play estimator (acts listeners [.tell event]))) := by
  exact congrArg
    (fun told : Outcome Unit × Scene => (told.1, s.staged listeners told.2))
    (Scene.tellAll_play estimator hordinary event scene)

theorem scripted_tell (h : s.Within setting) {event : Event}
    (habout : event.exchange? = some setting.exchange) :
    Scripted setting (·.tell event) s := by
  refine ⟨.ok (), s, [.tell event], h, ?_, fun listeners scene hordinary _ =>
    s.staged_tell scene hordinary setting.estimator event⟩
  intro told htold
  obtain rfl := List.mem_singleton.mp htold
  exact habout

theorem scripted_conclude (h : s.Within setting) (entry : Entry)
    (voiced : entry.isNotice = false) (callback : String) (raised : Option Fault) :
    Scripted setting (·.conclude entry callback raised) s := by
  have hsaid (outcome : Outcome Unit) : Scripted setting (fun s => (outcome, s.add entry)) s :=
    .one outcome s (.say entry voiced) h rfl fun _ _ _ => rfl
  cases raised with
  | none => exact hsaid (.ok ())
  | some fault =>
      cases hordinary : fault.isOrdinary with
      | true =>
          refine ((hsaid (.ok ())).andThen fun s' hs' => scripted_report hs' (.ok ())
            LogRecord.error "response handler %s raised" [.text callback] []
            (some fault)).congr fun listeners scene => ?_
          dsimp only [conclude]
          rw [if_pos hordinary]
      | false =>
          refine (hsaid (.error fault)).congr fun listeners scene => ?_
          dsimp only [conclude]
          rw [hordinary, if_neg Bool.false_ne_true]

theorem scripted_close (h : s.Within setting) {event : Event}
    (habout : event.exchange? = some setting.exchange) (entry : Entry)
    (voiced : entry.isNotice = false) (callback : String) (raised : Handler → Option Fault) :
    Scripted setting (·.close event entry callback raised) s :=
  (scripted_tell h habout).andThen fun s' hs' => by
    refine (scripted_conclude hs' entry voiced callback (raised s'.handler)).congr ?_
    exact fun listeners scene => rfl

/-- Turning to another phase is nothing that is done to the scene. -/
theorem scripted_turn (h : s.Within setting) (phase : Phase) :
    Scripted setting (fun s => ((.ok () : Outcome Unit), { s with phase })) s :=
  .silent _ { s with phase } ⟨h.exchange, h.estimator⟩ fun _ _ => rfl

theorem scripted_fail (h : s.Within setting) (fault : Fault) :
    Scripted setting (·.fail fault) s := by
  cases hended : s.ended with
  | true =>
      refine (scripted_report h (.ok ()) LogRecord.debug "error after terminal state ignored: %s"
        [.fault fault] [] none).congr fun listeners scene => ?_
      exact @fail_ended (s.staged listeners scene) hended fault
  | false =>
      have habout : (Event.failed s.exchange fault).exchange? = some setting.exchange :=
        congrArg some h.exchange
      refine ((scripted_turn h .failed).andThen fun s₁ h₁ =>
        (scripted_report h₁ (.ok ()) LogRecord.debug "stream failed: %s" [.fault fault]
          [("response_id", .ofOption .str s.responseId), ("error_type", .str fault.name)]
          none).andThen fun s₂ h₂ =>
        scripted_close h₂ habout (.failure fault) rfl "on_error" (·.onError)).congr
          fun listeners scene => ?_
      exact @fail_open (s.staged listeners scene) hended fault

theorem scripted_deliver (h : s.Within setting) (response : Response) :
    Scripted setting (·.deliver response) s := by
  have habout : (Event.completed s.exchange { response with id := s.responseId }).exchange?
      = some setting.exchange := congrArg some h.exchange
  refine ((scripted_turn h .completed).andThen fun s₁ h₁ =>
    (scripted_report h₁ (.ok ()) LogRecord.debug "stream completed" []
      [("response_id", .ofOption .str s.responseId),
        ("finish_reason", .ofOption (fun r : FinishReason => .str r.word)
          response.finishReason),
        ("output_tokens", .int response.usage.outputTokens)] none).andThen fun s₂ h₂ =>
    scripted_close h₂ habout (.completion { response with id := s.responseId }) rfl
      "on_complete_response" (·.onComplete)).congr fun listeners scene => ?_
  exact deliver_eq (s.staged listeners scene) response

/-- What a session comes to is counted alike, whatever was counted before. -/
theorem scripted_finalize (h : s.Within setting) : Scripted setting finalize s := by
  have hsteady := s.accumulator.steady_bill setting.estimator s.inputTokens
  refine .one (s.accumulator.bill setting.estimator s.inputTokens setting.tally).1.1
    { s with accumulator :=
      (s.accumulator.bill setting.estimator s.inputTokens setting.tally).1.2 }
    (.bill s.accumulator s.inputTokens) ⟨h.exchange, h.estimator⟩ rfl
    fun listeners scene halike => ?_
  rw [← Scene.counting_answer hsteady halike, ← h.estimator]
  rfl

/-- What was raised is a failure of the stream, unless it is an interrupt. -/
theorem scripted_raised (h : s.Within setting) (fault : Fault) :
    Scripted setting (fun s => if fault.isOrdinary then s.fail fault else (.error fault, s)) s := by
  split
  · exact scripted_fail h fault
  · exact .silent _ s h fun _ _ => rfl

theorem scripted_complete (h : s.Within setting) : Scripted setting complete s := by
  cases hended : s.ended with
  | true =>
      exact .silent (.ok ()) s h fun listeners scene =>
        @complete_ended (s.staged listeners scene) hended
  | false =>
      refine ((scripted_finalize h).goOn (fun response _ hs' => scripted_deliver hs' response)
        fun fault _ hs' => scripted_raised hs' fault).congr fun listeners scene => ?_
      have hstaged : (s.staged listeners scene).ended = false := hended
      rw [complete, hstaged, if_neg Bool.false_ne_true]
      rcases (s.staged listeners scene).finalize with ⟨fault | response, s'⟩ <;> rfl

-- ── Signals ────────────────────────────────────────────────────────────────────────

section

variable {perform : Session → Signal → Outcome Unit × Session}
  (hperform : ∀ signal s, s.Within setting → Scripted setting (perform · signal) s)

include hperform

theorem scripted_performAll (signals : List Signal) (h : s.Within setting) :
    Scripted setting (performAll perform signals) s := by
  induction signals generalizing s with
  | nil => exact .silent _ s h fun _ _ => rfl
  | cons signal rest ih =>
      refine ((hperform signal s h).andThen fun s' hs' => ih hs').congr fun listeners scene => ?_
      rw [performAll]
      rcases perform (s.staged listeners scene) signal with ⟨fault | -, s'⟩ <;> rfl

theorem scripted_react (reaction : Reaction) (h : s.Within setting) :
    Scripted setting (react perform reaction) s :=
  (scripted_performAll hperform reaction.signals h).andThen fun s' hs' =>
    .silent (PullStream.outcomeOf reaction.fault) s' hs' fun _ _ => rfl

omit hperform in
theorem scripted_after (h : s.Within setting) (chunk : PartialChunk) :
    Scripted setting (fun s => ((.ok () : Outcome Unit), s.after chunk)) s := by
  cases hspoken : spoken chunk.text with
  | none =>
      refine .silent (.ok ()) (s.after chunk) ?_ fun listeners scene => ?_
      · rw [after, hspoken]
        exact ⟨h.exchange, h.estimator⟩
      · rw [after, after, hspoken]
        rfl
  | some text =>
      refine .one (.ok ()) (s.after chunk) (.say (.partialText text) rfl) ?_ rfl
        fun listeners scene _ => ?_
      · rw [after, hspoken]
        exact ⟨h.exchange, h.estimator⟩
      · rw [after, after, hspoken]
        rfl

theorem scripted_attempt (h : s.Within setting) (chunk : PartialChunk) :
    Scripted setting (fun s => s.attempt perform chunk) s := by
  cases hfinalized : s.accumulator.finalized with
  | true =>
      refine .silent (.error (.of .streamState "chunk appended after the response was finalized"))
        s h fun listeners scene => ?_
      have hstaged : (s.staged listeners scene).accumulator.finalized = true := hfinalized
      rw [attempt, absorb, Accumulator.append, if_pos hstaged]
      rfl
  | false =>
      refine ((scripted_after h chunk).andThen fun s' hs' =>
        scripted_react hperform (s.reaction chunk) hs').congr fun listeners scene => ?_
      exact @attempt_open (s.staged listeners scene) hfinalized perform chunk

theorem scripted_next (h : s.Within setting) (chunk : PartialChunk) :
    Scripted setting (fun s => s.next perform chunk) s := by
  by_cases hphase : s.phase = .streaming
  · let absorbed (outcome : Outcome Unit) (s : Session) : Outcome Unit × Session :=
      match outcome with
      | .ok () => (.ok (), s)
      | .error fault => if fault.isOrdinary then s.fail fault else (.error fault, s)
    have habsorbed (outcome : Outcome Unit) (s' : Session) (hs' : s'.Within setting) :
        Scripted setting (absorbed outcome) s' := by
      cases outcome with
      | ok u => exact .silent _ s' hs' fun _ _ => rfl
      | error fault => exact scripted_raised hs' fault
    refine ((scripted_attempt hperform h chunk).bind habsorbed).congr fun listeners scene => ?_
    have hstaged : (s.staged listeners scene).phase = .streaming := hphase
    rw [next, if_pos hstaged]
    rcases (s.staged listeners scene).attempt perform chunk with ⟨fault | -, s'⟩ <;> rfl
  · exact .silent (.ok ()) s h fun listeners scene =>
      @next_ignored (s.staged listeners scene) hphase perform chunk

end

theorem scripted_start (h : s.Within setting) :
    Scripted setting (fun s => ((.ok () : Outcome Unit), s.start)) s := by
  by_cases hphase : s.phase = .requesting
  · refine (scripted_turn h .streaming).congr fun listeners scene => ?_
    have hstaged : (s.staged listeners scene).phase = .requesting := hphase
    rw [start, if_pos hstaged]
  · refine .silent (.ok ()) s h fun listeners scene => ?_
    have hstaged : ¬ (s.staged listeners scene).phase = .requesting := hphase
    rw [start, if_neg hstaged]

/-- A signal is scripted if a chunk is. -/
theorem scripted_signal {depth : Nat}
    (hnext : ∀ chunk s, s.Within setting →
      Scripted setting (fun s => s.step depth (.next chunk)) s)
    (signal : Signal) (h : s.Within setting) :
    Scripted setting (fun s => s.step depth signal) s := by
  cases signal with
  | start => exact (scripted_start h).congr fun _ _ => by rw [step]
  | complete => exact (scripted_complete h).congr fun _ _ => by rw [step]
  | error fault => exact (scripted_fail h fault).congr fun _ _ => by rw [step]
  | next chunk => exact hnext chunk s h
  | rename id =>
      refine .silent (.ok ()) { s with responseId := id } ⟨h.exchange, h.estimator⟩
        fun listeners scene => ?_
      rw [step]
      rfl

/-- **A signal is scripted**, however deep its handler's own signals may nest. -/
theorem scripted_step (depth : Nat) (signal : Signal) (h : s.Within setting) :
    Scripted setting (fun s => s.step depth signal) s := by
  induction depth generalizing s signal with
  | zero =>
      refine scripted_signal (fun chunk s h => ?_) signal h
      have htooDeep (_ : Signal) (s : Session) (h : s.Within setting) :
          Scripted setting (fun s => ((.error tooDeep : Outcome Unit), s)) s :=
        .silent _ s h fun _ _ => rfl
      exact (scripted_next htooDeep h chunk).congr fun _ _ => by rw [step]
  | succ depth ih =>
      refine scripted_signal (fun chunk s h => ?_) signal h
      exact (scripted_next (fun signal s h => ih signal h) h chunk).congr
        fun _ _ => by rw [step]

theorem scripted_receive (signal : Signal) (h : s.Within setting) :
    Scripted setting (fun s => s.receive signal) s :=
  scripted_step 0 signal h

-- ── Whole streams ──────────────────────────────────────────────────────────────────

theorem scripted_settle (h : s.Within setting) (fault : Option Fault) :
    Scripted setting (fun s => s.settle fault) s := by
  cases fault with
  | none => exact scripted_complete h
  | some fault => exact scripted_raised h fault

theorem scripted_closeStream (h : s.Within setting) (outcome : Outcome Unit)
    (fault : Option Fault) : Scripted setting (fun s => s.closeStream outcome fault) s := by
  cases fault with
  | none => exact .silent outcome s h fun _ _ => rfl
  | some fault =>
      cases hordinary : fault.isOrdinary with
      | true =>
          refine (scripted_report h outcome LogRecord.debug "closing chunk stream failed: %s"
            [.fault fault] [] none).congr fun listeners scene => ?_
          rw [closeStream, if_pos hordinary]
      | false =>
          refine .silent (.error fault) s h fun listeners scene => ?_
          rw [closeStream, hordinary, if_neg Bool.false_ne_true]

/-- What a run over a stream comes to, apart from its session. -/
def apart {α β : Type} (result : α × β × Session) : (α × β) × Session :=
  ((result.1, result.2.1), result.2.2)

/-- The loop over the chunks is scripted. -/
theorem scripted_drain (chunks : List PartialChunk) (taken : Nat) (h : s.Within setting) :
    Scripted setting (fun s => apart (drain chunks taken s)) s := by
  induction chunks generalizing s taken with
  | nil => exact .silent (.exhausted, taken) s h fun _ _ => rfl
  | cons chunk rest ih =>
      have hrest (s' : Session) (hs' : s'.Within setting) :
          Scripted setting (fun s => if s.ended then ((.left, taken + 1), s)
            else apart (drain rest (taken + 1) s)) s' := by
        cases hended : s'.ended with
        | true =>
            refine .silent (.left, taken + 1) s' hs' fun listeners scene => ?_
            exact if_pos hended
        | false =>
            refine (ih (taken + 1) hs').congr fun listeners scene => ?_
            exact if_neg (fun hstaged : s'.ended = true =>
              Bool.false_ne_true (hended.symm.trans hstaged))
      refine ((scripted_receive (.next chunk) h).goOn (fun _ => hrest) fun fault s' hs' =>
        .silent (.interrupted fault, taken + 1) s' hs' fun _ _ => rfl).congr
          fun listeners scene => ?_
      rw [drain]
      rcases (s.staged listeners scene).receive (.next chunk) with ⟨fault | -, s'⟩
      · rfl
      · dsimp only [goOn]
        split <;> rfl

/-- What is done about a stream once its chunks are used up or left. -/
def closeDrained (stream : PullStream) (drained : Drained × Nat) (s : Session) :
    (Outcome Unit × PullReport) × Session :=
  let (outcome, s) :=
    match drained.1 with
    | .exhausted =>
      let (outcome, s) := s.settle stream.lastFault
      s.closeStream outcome (if stream.closesItself then none else stream.closing)
    | .left =>
      let (outcome, s) := s.complete
      s.closeStream outcome stream.closing
    | .interrupted fault => s.closeStream (.error fault) stream.closing
  ((outcome, ⟨drained.2, stream.closings⟩), s)

theorem scripted_closeDrained (stream : PullStream) (drained : Drained × Nat)
    (h : s.Within setting) : Scripted setting (closeDrained stream drained) s := by
  obtain ⟨drained, yielded⟩ := drained
  cases drained with
  | exhausted =>
      exact ((scripted_settle h stream.lastFault).bind fun outcome s' hs' =>
        scripted_closeStream hs' outcome
          (if stream.closesItself then none else stream.closing)).map
        fun outcome => (outcome, PullReport.mk yielded stream.closings)
  | left =>
      exact ((scripted_complete h).bind fun outcome s' hs' =>
        scripted_closeStream hs' outcome stream.closing).map
        fun outcome => (outcome, PullReport.mk yielded stream.closings)
  | interrupted fault =>
      exact (scripted_closeStream h (.error fault) stream.closing).map
        fun outcome => (outcome, PullReport.mk yielded stream.closings)

theorem scripted_pullStream (stream : PullStream) (h : s.Within setting) :
    Scripted setting (fun s => apart (s.pullStream stream)) s := by
  refine ((scripted_drain stream.chunks 0 h).bind fun drained _ hs' =>
    scripted_closeDrained stream drained hs').congr fun listeners scene => ?_
  rw [pullStream_eq]
  rcases drain stream.chunks 0 (s.staged listeners scene) with ⟨- | - | fault, yielded, s'⟩ <;> rfl

/-- **A run over a stream is scripted.** -/
theorem scripted_pull (opened : Outcome PullStream) (h : s.Within setting) :
    Scripted setting (fun s => apart (s.pull opened)) s := by
  cases opened with
  | error fault =>
      exact ((scripted_start h).bind fun _ s' hs' => scripted_settle hs' (some fault)).map
        fun outcome => (outcome, none)
  | ok stream =>
      exact ((scripted_start h).bind fun _ s' hs' => scripted_pullStream stream hs').map
        fun report => (report.1, some report.2)

theorem scripted_deliverAll (deliveries : List Delivery) (h : s.Within setting) :
    Scripted setting (deliverAll deliveries) s := by
  induction deliveries generalizing s with
  | nil => exact .silent (.ok ()) s h fun _ _ => rfl
  | cons delivery rest ih =>
      cases delivery with
      | raised fault => exact .silent (.error fault) s h fun _ _ => rfl
      | signal signal =>
          refine ((scripted_receive signal h).andThen fun s' hs' => ih hs').congr
            fun listeners scene => ?_
          rw [deliverAll]
          rcases (s.staged listeners scene).receive signal with ⟨fault | -, s'⟩ <;> rfl

theorem scripted_abort (fault : Fault) (h : s.Within setting) :
    Scripted setting (subscriber.abort fault) s := by
  cases hcancel : fault.isCancellation with
  | true =>
      have hclosed : Scripted setting (subscriber.onError transportClosed) s :=
        scripted_receive (.error transportClosed) h
      refine (hclosed.andThen fun s' hs' =>
        .silent (.error fault) s' hs' fun _ _ => rfl).congr fun listeners scene => ?_
      rw [Subscriber.abort, if_pos hcancel]
      rcases subscriber.onError transportClosed (s.staged listeners scene) with ⟨raised | -, s'⟩
      · rfl
      · rfl
  | false =>
      cases hordinary : fault.isOrdinary with
      | true =>
          refine (scripted_receive (.error (Wire.relayed fault)) h).congr
            fun listeners scene => ?_
          rw [Subscriber.abort, hcancel, if_neg Bool.false_ne_true, if_pos hordinary]
          rfl
      | false =>
          refine .silent (.error fault) s h fun listeners scene => ?_
          rw [Subscriber.abort, hcancel, hordinary, if_neg Bool.false_ne_true,
            if_neg Bool.false_ne_true]

theorem scripted_consume (raw : RawStream) (h : s.Within setting) :
    Scripted setting (subscriber.consume raw) s := by
  have hdeliver (ending : Option Fault) (chunks : List Value) (s : Session)
      (h : s.Within setting) : Scripted setting (subscriber.deliver ending chunks) s := by
    induction chunks generalizing s with
    | nil =>
        cases ending with
        | none => exact scripted_receive .complete h
        | some fault => exact scripted_abort fault h
    | cons raw rest ih =>
        cases hchunk : Wire.chunk raw with
        | error fault =>
            refine (scripted_abort fault h).congr fun listeners scene => ?_
            rw [Subscriber.deliver, hchunk]
        | ok chunk =>
            have htaken : Scripted setting (subscriber.onNext chunk) s :=
              scripted_receive (.next chunk) h
            refine (htaken.goOn (fun _ => ih) fun fault _ hs' => scripted_abort fault hs').congr
              fun listeners scene => ?_
            rw [Subscriber.deliver, hchunk]
            dsimp only
            rcases subscriber.onNext chunk (s.staged listeners scene) with ⟨fault | -, s'⟩
            · rfl
            · rfl
  cases hopen : raw.openFault with
  | some fault =>
      refine (scripted_abort fault h).congr fun listeners scene => ?_
      rw [Subscriber.consume, hopen]
  | none =>
      refine (hdeliver (if raw.stalls then some cancelled else raw.ending) raw.chunks s h).congr
        fun listeners scene => ?_
      rw [Subscriber.consume, hopen]

/-- **A run over a source is scripted.** -/
theorem scripted_push (opened : Outcome PushSource) (h : s.Within setting) :
    Scripted setting (fun s => s.push opened) s := by
  cases opened with
  | error fault => exact scripted_settle h (some fault)
  | ok source =>
      have hsubscribe (s : Session) (h : s.Within setting) :
          Scripted setting (fun s => s.subscribe source) s := by
        cases source with
        | inline deliveries => exact scripted_deliverAll deliveries h
        | detached raw => exact (scripted_consume raw h).map fun _ => Except.ok ()
      refine (((scripted_start h).bind fun _ s' hs' => hsubscribe s' hs').goOn
        (fun _ s' hs' => .silent (.ok ()) s' hs' fun _ _ => rfl)
        fun fault _ hs' => scripted_settle hs' (some fault)).congr fun listeners scene => ?_
      rw [push]
      rcases (s.staged listeners scene).start.subscribe source with ⟨fault | -, s'⟩
      · rfl
      · rfl

end Session

end CompletionStream
