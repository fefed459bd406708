import CompletionStream.Proofs.Gateway.Failures

/-!
# Calm — who is told that a stream could not be closed

A stream is calm if closing it raises nothing.  Where it is the one who pulls that closes a
stream, what closing raises is reported and dropped, so the stream may as well be calm
(`pullStream_left`); and one that is pushed is closed by nobody (`chat_pushed`).  But a stream to
pull over a provider's client closes what it draws on itself as soon as it is used up, and then
the fault of closing takes the place of how it ended, whatever that was (`pulled_usedUp`).

Which of the two happens depends on the handler: a stream is used up unless it could not be
opened, or the handler raises something over one of its texts and the stream is left
(`UsedUp`).  So a fault of closing changes nothing that anybody is told of a request whose
stream is not used up, and of every other request it is the outcome (`closing_untold`).
-/

namespace CompletionStream

-- ── Calm streams ───────────────────────────────────────────────────────────────────

/-- The same stream, if closing it raised nothing. -/
def PullStream.calm (stream : PullStream) : PullStream :=
  { stream with closeFault := none }

@[simp] theorem PullStream.closing_calm (stream : PullStream) : stream.calm.closing = none := by
  rw [closing]
  split <;> rfl

@[simp] theorem PullStream.lastFault_calm (stream : PullStream) :
    stream.calm.lastFault = stream.ending := by
  rw [lastFault, closing_calm]
  split <;> rfl

namespace RawStream

/-- The same stream of a provider, if closing it raised nothing. -/
def calm (raw : RawStream) : RawStream :=
  { raw with closeFault := none }

theorem Ordinary.calm {raw : RawStream} (h : raw.Ordinary) : raw.calm.Ordinary where
  opening := h.opening
  ending := h.ending
  closing := by
    intro fault hfault
    rw [RawStream.closing, show raw.calm.closeFault = none from rfl] at hfault
    split at hfault <;> cases hfault

/-- A calm stream that does not stall is steady. -/
theorem Ordinary.steady_calm {raw : RawStream} (h : raw.Ordinary) (hruns : raw.stalls = false) :
    raw.calm.Steady where
  opening := h.opening
  ending := h.ending
  running := hruns
  closing _ := rfl

/-- A provider's stream as it matters in a mode. -/
def under (raw : RawStream) : Mode → RawStream
  | .sync => raw
  | .async => raw.calm

/-- The loop over a stream's chunks asks for more than there are: the stream was opened, and
    the handler raises nothing over the texts of the chunks that can be read. -/
def UsedUp (raw : RawStream) (handler : Handler) : Prop :=
  raw.openFault = none ∧ (handler.hears 0 (Reference.texts raw.opened.chunks)).2 = none

/-- The reference run of a stream that is used up ends with the fault of closing it, if there is
    one, and else as the stream does. -/
theorem pulled_usedUp {raw : RawStream} {handler : Handler} (h : raw.UsedUp handler)
    (conclude : List PartialChunk → Outcome Response) :
    Reference.pulled handler raw.toPull conclude
      = (Reference.texts raw.opened.chunks,
          Reference.failedOr (raw.closing.or raw.opened.ending)
            (conclude raw.opened.chunks)) := by
  obtain ⟨hopening, hraises⟩ := h
  rw [toPull_opened hopening]
  dsimp only [Reference.pulled]
  rw [Handler.hears_all hraises]
  rfl

end RawStream

/-- The same remote, if closing its stream raised nothing. -/
def Remote.calm (remote : Remote) : Remote :=
  { remote with raw := remote.raw.calm }

-- ── A handler that never fails ─────────────────────────────────────────────────────

namespace Handler

theorem steady_ordinary : steady.Ordinary where
  onPartial _ _ hfault := nomatch hfault
  onComplete _ hfault := nomatch hfault
  onError _ hfault := nomatch hfault

/-- A handler that never fails hears everything. -/
theorem hears_steady (n : Nat) (texts : List String) : steady.hears n texts = (texts, none) := by
  induction texts generalizing n with
  | nil => rfl
  | cons text rest ih =>
      rw [hears, ih]
      rfl

end Handler

-- ── Sessions ───────────────────────────────────────────────────────────────────────

namespace Session

/-- What comes of a session, when the log does not count. -/
structure AlikeRuns {α : Type} (first second : Outcome Unit × α × Session) : Prop where
  outcome : first.1 = second.1
  session : first.2.2.quiet = second.2.2.quiet

/-- That a stream could not be closed is reported, and nothing else comes of it. -/
theorem quiet_closeStream (s : Session) (outcome : Outcome Unit) {fault : Option Fault}
    (h : ∀ f ∈ fault, f.isOrdinary = true) :
    ∃ s', s.closeStream outcome fault = (outcome, s') ∧ s'.quiet = s.quiet := by
  cases fault with
  | none => exact ⟨s, rfl, rfl⟩
  | some fault =>
      rw [closeStream, if_pos (h fault rfl)]
      exact ⟨_, rfl, rfl⟩

/-- **A stream that is closed by the one who pulls it may as well be calm.** -/
theorem pullStream_left (s : Session) {stream : PullStream}
    (hclosing : ∀ fault ∈ stream.closing, fault.isOrdinary = true)
    (hleft : (drain stream.chunks 0 s).1 = .exhausted → stream.closesItself = true →
      stream.closing = none) :
    AlikeRuns (s.pullStream stream) (s.pullStream stream.calm) := by
  rw [pullStream_eq, pullStream_eq, PullStream.closing_calm,
    show stream.calm.chunks = stream.chunks from rfl]
  generalize drain stream.chunks 0 s = result at hleft ⊢
  obtain ⟨_ | _ | fault, yielded, s'⟩ := result
  · -- used up: whoever closes the stream, its own end reaches the session
    have hlast : stream.lastFault = stream.ending := by
      rw [PullStream.lastFault]
      split
      · rw [hleft rfl ‹_›]
        rfl
      · rfl
    have hcloses : ∀ fault ∈ (if stream.closesItself then none else stream.closing),
        fault.isOrdinary = true := by
      intro fault hfault
      split at hfault
      · cases hfault
      · exact hclosing fault hfault
    dsimp only
    rw [hlast, PullStream.lastFault_calm, ite_self]
    rcases s'.settle stream.ending with ⟨outcome, settled⟩
    obtain ⟨closed, hclose, hquiet⟩ := settled.quiet_closeStream outcome hcloses
    dsimp only
    rw [hclose]
    exact ⟨rfl, hquiet⟩
  · dsimp only
    rcases s'.complete with ⟨outcome, completed⟩
    obtain ⟨closed, hclose, hquiet⟩ := completed.quiet_closeStream outcome hclosing
    dsimp only
    rw [hclose]
    exact ⟨rfl, hquiet⟩
  · obtain ⟨closed, hclose, hquiet⟩ := s'.quiet_closeStream (.error fault) hclosing
    dsimp only
    rw [hclose]
    exact ⟨rfl, hquiet⟩

/-- A session that opens a provider's stream and leaves it is alike to one over a calm one. -/
theorem pull_calm {s₀ : Session} (h : s₀.Orderly) (scene : Scene) {raw : RawStream}
    (hclosing : ∀ fault ∈ raw.closing, fault.isOrdinary = true)
    (hleft : raw.UsedUp s₀.handler → raw.closing = none) :
    AlikeRuns ((s₀.underway .requesting [] scene).pull raw.toPull)
      ((s₀.underway .requesting [] scene).pull raw.calm.toPull) := by
  cases hopening : raw.openFault with
  | some fault =>
      have hsame : raw.calm.toPull = raw.toPull := by
        rw [RawStream.toPull, RawStream.toPull, show raw.calm.openFault = raw.openFault from rfl,
          hopening]
      rw [hsame]
      exact ⟨rfl, rfl⟩
  | none =>
      have hcalm : raw.calm.openFault = none := hopening
      rw [RawStream.toPull_opened hopening, RawStream.toPull_opened hcalm]
      obtain ⟨told, taken, -, hdrain⟩ := drain_underway h raw.opened.chunks [] 0 scene
      rw [show (Reference.texts []).length = 0 from rfl] at hdrain
      have hused : (drain raw.opened.chunks 0 (s₀.underway .streaming [] scene)).1 = .exhausted →
          raw.UsedUp s₀.handler := by
        intro hexhausted
        refine ⟨hopening, ?_⟩
        cases hraised : (s₀.handler.hears 0 (Reference.texts raw.opened.chunks)).2 with
        | none => rfl
        | some fault =>
            -- a handler that raises something makes the loop leave the stream
            rw [hraised] at hdrain
            obtain ⟨closed, hdrain, -⟩ := hdrain
            rw [hdrain] at hexhausted
            cases hexhausted
      have halike := @pullStream_left (s₀.underway .streaming [] scene) raw.opened hclosing
        fun hexhausted _ => hleft (hused hexhausted)
      exact ⟨halike.outcome, halike.session⟩

end Session

-- ── Requests ───────────────────────────────────────────────────────────────────────

namespace Client

/-- A request over a provider's stream that is not used up is answered as over a calm one. -/
theorem chat_calm {c : Client} (hlisteners : ∀ l ∈ c.listeners, l.Ordinary)
    (hestimator : c.estimator.Ordinary) {handler : Handler} (hhandler : handler.Ordinary)
    {remote : Remote} (hclosing : ∀ fault ∈ remote.raw.closing, fault.isOrdinary = true)
    (hleft : remote.raw.UsedUp handler → remote.raw.closing = none) (deployment : Value)
    (r : ChatRequest) (number : Nat) (scene : Scene) :
    Alike (c.chat (remote.transport .sync deployment) r handler number scene)
      (c.chat (remote.calm.transport .sync deployment) r handler number scene) := by
  rcases hprepare : c.prepare r scene with ⟨fault | p, counted⟩
  · rw [chat_eq_error hprepare, chat_eq_error hprepare]
    exact ⟨rfl, rfl, rfl⟩
  · obtain ⟨horderly, told, -, hrun⟩ :=
      chat_underway hprepare hlisteners hestimator hhandler number
    obtain ⟨opened, hopened⟩ : ∃ opened,
        reportAll (c.announce p .sync
            ((c.session p handler number counted).underway .requesting [] told))
            (remote.openPull deployment).log
          = (c.session p handler number counted).underway .requesting [] opened :=
      ⟨_, rfl⟩
    have hcalm : (remote.calm.openPull deployment).log = (remote.openPull deployment).log := rfl
    have halike := Session.pull_calm horderly opened hclosing hleft
    rw [hrun, hrun]
    dsimp only [run, Remote.transport, Transport.mode]
    rw [hcalm, hopened]
    exact ⟨halike.outcome, rfl, congrArg Session.scene halike.session⟩

/-- Nobody closes a stream that is pushed, so it may as well be calm. -/
theorem chat_pushed (c : Client) (remote : Remote) (deployment : Value) (r : ChatRequest)
    (handler : Handler) (number : Nat) (scene : Scene) :
    c.chat (remote.transport .async deployment) r handler number scene
      = c.chat (remote.calm.transport .async deployment) r handler number scene := by
  rw [chat, chat]
  rcases c.prepare r scene with ⟨fault | p, counted⟩
  · rfl
  · rfl

/-- **A request over a provider's stream has its reference run in either mode.** -/
theorem chat_reference {c : Client} {r : ChatRequest} {handler : Handler}
    {scene counted : Scene} {p : Prepared} (hprepare : c.prepare r scene = (.ok p, counted))
    (hlisteners : ∀ l ∈ c.listeners, l.Ordinary) (hestimator : c.estimator.Ordinary)
    (hhandler : handler.Ordinary) {remote : Remote} (hraw : remote.raw.Ordinary)
    (hruns : remote.raw.stalls = false) (mode : Mode) (deployment : Value) (number : Nat)
    {x : Exchange} (hx : x = ⟨p.request, c.provider, number, number⟩) :
    ∃ report told,
      c.chat (remote.transport mode deployment) r handler number scene = (.ok (), report)
      ∧ told = Reference.pulled handler (remote.raw.under mode).toPull (fun chunks =>
          Reference.billed chunks c.estimator p.inputTokens { counted.tally with log := [] })
      ∧ report.asked = some p.options
      ∧ report.scene.heard = scene.heard ++ Listener.round (.started x) c.listeners
          ++ told.1.map .partialText ++ x.ending c.listeners told.2 := by
  cases mode with
  | sync =>
      exact chat_pulls hprepare hlisteners hhandler hestimator hraw.opens deployment number hx
  | async =>
      have hsteady : remote.calm.raw.Steady := hraw.steady_calm hruns
      obtain ⟨pulling, told, hpulling, htold, hasked, hheard⟩ :=
        chat_pulls hprepare hlisteners hhandler hestimator hsteady.ordinary.opens deployment number
          hx
      have halike := chat_alike hlisteners hestimator hhandler hsteady deployment r number scene
      rw [chat_pushed]
      rw [hpulling] at halike
      rcases hpushing : c.chat (remote.calm.transport .async deployment) r handler number scene
        with ⟨outcome, pushing⟩
      rw [hpushing] at halike
      have hended : .ok () = outcome := halike.outcome
      refine ⟨pushing, told, by rw [hended], htold, ?_, ?_⟩
      · exact halike.asked.symm.trans hasked
      · have htimeline := congrArg Scene.timeline halike.scene
        have hsame : pulling.scene.heard = pushing.scene.heard :=
          congrArg (List.map Entry.bare) htimeline
        exact hsame.symm.trans hheard

/-- A request over a provider's stream that is used up: the handler is told of all texts, and
    the outcome is the fault of closing the stream, if there is one. -/
theorem chat_usedUp {c : Client} {r : ChatRequest} {handler : Handler} {scene counted : Scene}
    {p : Prepared} (hprepare : c.prepare r scene = (.ok p, counted))
    (hlisteners : ∀ l ∈ c.listeners, l.Ordinary) (hestimator : c.estimator.Ordinary)
    (hhandler : handler.Ordinary) {remote : Remote} (hraw : remote.raw.Ordinary)
    (hused : remote.raw.UsedUp handler) (deployment : Value) (number : Nat) {x : Exchange}
    (hx : x = ⟨p.request, c.provider, number, number⟩) :
    ∃ report, c.chat (remote.transport .sync deployment) r handler number scene = (.ok (), report)
      ∧ report.scene.heard = scene.heard ++ Listener.round (.started x) c.listeners
          ++ (Reference.texts remote.raw.opened.chunks).map .partialText
          ++ x.ending c.listeners
              (Reference.failedOr (remote.raw.closing.or remote.raw.opened.ending)
                (Reference.billed remote.raw.opened.chunks c.estimator p.inputTokens
                  { counted.tally with log := [] })) := by
  obtain ⟨report, told, hchat, htold, -, hheard⟩ :=
    chat_pulls hprepare hlisteners hhandler hestimator hraw.opens deployment number hx
  rw [RawStream.pulled_usedUp hused] at htold
  refine ⟨report, hchat, ?_⟩
  rw [hheard, htold]

/-- **ONLY A STREAM THAT IS USED UP CAN FAIL OVER ITS CLOSING.**  Whatever handler, listeners
    and estimator raise, a request whose stream could not be opened, or is left because the
    handler raised something, or is closed without a fault, is answered as if closing raised
    nothing, with the same events and the same attributes.  In every other request the handler
    is told of all texts, and the fault of closing is the outcome, as it was raised and in the
    place of how the stream ended. -/
theorem closing_untold {c : Client} (hlisteners : ∀ l ∈ c.listeners, l.Ordinary)
    (hestimator : c.estimator.Ordinary) {handler : Handler} (hhandler : handler.Ordinary)
    {remote : Remote} (hraw : remote.raw.Ordinary) (deployment : Value) (r : ChatRequest)
    (number : Nat) (scene : Scene) :
    ((remote.raw.UsedUp handler → remote.raw.closing = none) →
        Alike (c.chat (remote.transport .sync deployment) r handler number scene)
          (c.chat (remote.calm.transport .sync deployment) r handler number scene))
      ∧ ∀ {fault}, remote.raw.UsedUp handler → remote.raw.closing = some fault →
        ∀ {p counted}, c.prepare r scene = (.ok p, counted) →
        ∃ report calm x before,
          c.chat (remote.transport .sync deployment) r handler number scene = (.ok (), report)
          ∧ c.chat (remote.calm.transport .sync deployment) r handler number scene
            = (.ok (), calm)
          ∧ x = Exchange.mk p.request c.provider number number
          ∧ before = scene.heard ++ Listener.round (.started x) c.listeners
              ++ (Reference.texts remote.raw.opened.chunks).map .partialText
          ∧ calm.scene.heard = before ++ x.ending c.listeners
              (Reference.failedOr remote.raw.opened.ending
                (Reference.billed remote.raw.opened.chunks c.estimator p.inputTokens
                  { counted.tally with log := [] }))
          ∧ report.scene.heard = before ++ x.ending c.listeners (.error fault) := by
  constructor
  · intro hleft
    exact chat_calm hlisteners hestimator hhandler hraw.closing hleft deployment r number scene
  · intro fault hused hclosing p counted hprepare
    obtain ⟨report, hchat, hheard⟩ :=
      chat_usedUp hprepare hlisteners hestimator hhandler hraw hused deployment number rfl
    obtain ⟨calm, hcalmly, htold⟩ := @chat_usedUp c r handler scene counted p hprepare hlisteners
      hestimator hhandler remote.calm hraw.calm hused deployment number _ rfl
    have hnothing : remote.calm.raw.closing = none := remote.raw.opened.closing_calm
    rw [hclosing] at hheard
    rw [hnothing] at htold
    exact ⟨report, calm, _, _, hchat, hcalmly, rfl, rfl, htold, hheard⟩

-- ── A stream that cannot be closed ─────────────────────────────────────────────────

/-- What a provider's client raises when the stream below is closed. -/
def clogged : Fault := .of (.vendor "OpenAIError" none) "close failed"

/-- A provider's stream with two texts that ends as it is told to and cannot be closed. -/
def reluctant (ending : Option Fault) : RawStream :=
  let raw (s : String) : Value :=
    .object [("choices", .list [.object [("delta", .object [("content", .str s)])]])]
  { openFault := none
    chunks := [raw "a", raw "b"]
    ending
    stalls := false
    closable := true
    closeFault := some clogged }

theorem reluctant_ordinary : (reluctant none).Ordinary where
  opening fault hfault := nomatch hfault
  ending fault hfault := nomatch hfault
  closing fault hfault := by rw [← Option.some.inj hfault]; rfl

/-- A handler that fails over the second text does not notice; a steady one is told of the fault
    of closing in the place of the response. -/
theorem closing_untold_reluctant :
    Alike
        ((simple []).chat (Remote.transport ⟨true, reluctant none, .idle "loop"⟩ .sync (.str "d"))
          greeting fickle 0 (.fresh []))
        ((simple []).chat
          (Remote.transport ⟨true, (reluctant none).calm, .idle "loop"⟩ .sync (.str "d"))
          greeting fickle 0 (.fresh []))
      ∧ ∃ report,
        (simple []).chat (Remote.transport ⟨true, reluctant none, .idle "loop"⟩ .sync (.str "d"))
          greeting .steady 0 (.fresh []) = (.ok (), report)
        ∧ report.scene.heard = [.partialText "a", .partialText "b", .failure clogged] := by
  have hnobody : ∀ l ∈ (simple []).listeners, l.Ordinary := fun l hl => (nomatch hl)
  obtain ⟨hsame, -⟩ := @closing_untold (simple []) hnobody (simple_ordinary []) fickle
    fickle_ordinary ⟨true, reluctant none, .idle "loop"⟩ reluctant_ordinary (.str "d") greeting 0
    (.fresh [])
  obtain ⟨-, htold⟩ := @closing_untold (simple []) hnobody (simple_ordinary []) .steady
    Handler.steady_ordinary ⟨true, reluctant none, .idle "loop"⟩ reluctant_ordinary (.str "d")
    greeting 0 (.fresh [])
  refine ⟨hsame fun hused => ?_, ?_⟩
  · exact nomatch hused.2
  · obtain ⟨report, calm, x, before, hchat, -, -, hbefore, -, hheard⟩ :=
      @htold clogged ⟨rfl, rfl⟩ rfl _ _ rfl
    refine ⟨report, hchat, ?_⟩
    rw [hheard, hbefore]
    rfl

/-- Closing fails once all chunks were taken, and once the stream broke: the handler is told of
    the fault of closing, where a calm stream has it told of the response, and of the wrapped
    failure of the provider's client. -/
theorem closing_told :
    let told (raw : RawStream) : List Entry :=
      ((simple []).chat (Remote.transport ⟨true, raw, .idle "loop"⟩ .sync (.str "d"))
        greeting .steady 0 (.fresh [])).2.scene.timeline
    let texts : List Entry := [.partialText "a", .partialText "b"]
    told (reluctant none) = texts ++ [.failure clogged]
      ∧ (∃ response, told (reluctant none).calm = texts ++ [.completion response])
      ∧ told (reluctant severed.ending) = texts ++ [.failure clogged]
      ∧ ∃ fault, told (reluctant severed.ending).calm = texts ++ [.failure fault]
        ∧ fault.name = "TransportError" ∧ fault.cause? = severed.ending := by
  intro told texts
  refine ⟨rfl, ⟨_, rfl⟩, rfl, _, rfl, rfl, rfl⟩

end Client

end CompletionStream
