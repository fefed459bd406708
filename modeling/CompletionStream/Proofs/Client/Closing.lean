import CompletionStream.Proofs.Client.Preparing
import CompletionStream.Proofs.Session.Pulled
import CompletionStream.Stream.Remote

/-!
# Closing — no request leaves a stream open

A request that gets as far as its transport opens one stream, or fails to.  A stream that was
opened is closed once by the time the request is over, whoever raises whatever on the way:
listeners and handler, also while they are told of the ending, the estimator, the stream, a
chunk that cannot be read, and closing itself; ordinary faults and interrupts alike
(`chat_closes_once`).  Where opening failed there is nothing to close.
-/

namespace CompletionStream

namespace Client

/-- What becomes of a stream: none was opened, or it is closed as often as it can be. -/
def Released (opened : Outcome PullStream) (pulled : Option PullReport) : Prop :=
  match opened with
  | .error _ => pulled = none
  | .ok stream => ∃ yielded, pulled = some ⟨yielded, stream.closings⟩

/-- A session that pulls releases what it opened. -/
theorem released_pull (s : Session) (opened : Outcome PullStream) :
    Released opened (s.pull opened).2.1 := by
  cases opened with
  | error fault => rfl
  | ok stream =>
      have hclosed := s.start.pullStream_closed stream
      rw [Session.pull]
      rcases hpulled : s.start.pullStream stream with ⟨outcome, ⟨yielded, closed⟩, s'⟩
      rw [hpulled] at hclosed
      exact ⟨yielded, congrArg (fun closed => some (PullReport.mk yielded closed)) hclosed⟩

/-- **A request releases what it opened.** -/
theorem released_chat {c : Client} {opening : Options → Opening PullStream} {r : ChatRequest}
    {handler : Handler} {number : Nat} {scene : Scene} {o : Options}
    (h : (c.chat (.pull opening) r handler number scene).2.asked = some o) :
    Released (opening o).outcome (c.chat (.pull opening) r handler number scene).2.pulled := by
  rw [chat] at h ⊢
  rcases hprepare : c.prepare r scene with ⟨fault | p, left⟩
  · rw [hprepare] at h
    cases h
  · rw [hprepare] at h
    dsimp only at h ⊢
    rcases htold : (c.session p handler number left).tell
      (.started (c.session p handler number left).exchange) with ⟨interrupt | _, s⟩
    · rw [htold] at h
      cases h
    · rw [htold] at h
      dsimp only at h ⊢
      rw [run_asked] at h
      obtain rfl := Option.some.inj h
      exact released_pull _ _

/-- **EVERY STREAM THAT WAS OPENED IS CLOSED EXACTLY ONCE.**  Whoever a request calls, and
    whatever any of them raises, an interrupt as well, a stream that can be closed was closed
    once when the request is over, be it a plain stream or a provider's behind a stream that
    closes itself.  No stream was opened, and none is closed, where opening failed. -/
theorem chat_closes_once (c : Client) (r : ChatRequest) (handler : Handler) (number : Nat)
    (scene : Scene) (o : Options) :
    (∀ opening, (c.chat (.pull opening) r handler number scene).2.asked = some o →
        (∀ fault, (opening o).outcome = .error fault →
          (c.chat (.pull opening) r handler number scene).2.pulled = none)
        ∧ ∀ stream, (opening o).outcome = .ok stream → stream.closable = true →
          ∃ yielded, (c.chat (.pull opening) r handler number scene).2.pulled
            = some ⟨yielded, 1⟩)
      ∧ ∀ (remote : Remote) (deployment : Value),
        (c.chat (remote.transport .sync deployment) r handler number scene).2.asked = some o →
          (∀ fault, remote.raw.openFault = some fault →
            (c.chat (remote.transport .sync deployment) r handler number scene).2.pulled = none)
          ∧ (remote.raw.openFault = none → remote.raw.closable = true → ∃ yielded,
            (c.chat (remote.transport .sync deployment) r handler number scene).2.pulled
              = some ⟨yielded, 1⟩) := by
  refine ⟨fun opening hasked => ?_, fun remote deployment hasked => ?_⟩
  · have hreleased := released_chat hasked
    refine ⟨fun fault hfault => ?_, fun stream hstream hclosable => ?_⟩
    · rw [hfault] at hreleased
      exact hreleased
    · rw [hstream] at hreleased
      obtain ⟨yielded, hpulled⟩ := hreleased
      rw [PullStream.closings, hclosable] at hpulled
      exact ⟨yielded, hpulled⟩
  · have hreleased : Released remote.raw.toPull _ := released_chat hasked
    rw [RawStream.toPull] at hreleased
    refine ⟨fun fault hfault => ?_, fun hopening hclosable => ?_⟩
    · rw [hfault] at hreleased
      exact hreleased
    · rw [hopening] at hreleased
      obtain ⟨yielded, hpulled⟩ := hreleased
      rw [PullStream.closings, hclosable] at hpulled
      exact ⟨yielded, hpulled⟩

-- ── A request that is stopped while it ends ────────────────────────────────────────

/-- A handler that raises something over every text, and stops the program when it is told of
    the failure. -/
def hasty : Handler :=
  ⟨fun _ => ⟨[], some .wrongType⟩, none, some (.exit 1)⟩

/-- A provider's stream with two texts that cannot be closed without a fault. -/
def jammed : RawStream :=
  let raw (s : String) : Value :=
    .object [("choices", .list [.object [("delta", .object [("content", .str s)])]])]
  { openFault := none
    chunks := [raw "a", raw "b"]
    ending := none
    stalls := false
    closable := true
    closeFault := some .wrongValue }

/-- The stream is closed although the handler stops the program and closing fails. -/
theorem chat_closes_once_hasty :
    ∃ o, ((simple []).chat (Remote.transport ⟨true, jammed, .idle "loop"⟩ .sync (.str "d"))
        greeting hasty 0 (.fresh [])).1 = .error (.exit 1)
      ∧ ((simple []).chat (Remote.transport ⟨true, jammed, .idle "loop"⟩ .sync (.str "d"))
        greeting hasty 0 (.fresh [])).2.asked = some o
      ∧ ∃ yielded, ((simple []).chat
        (Remote.transport ⟨true, jammed, .idle "loop"⟩ .sync (.str "d"))
        greeting hasty 0 (.fresh [])).2.pulled = some ⟨yielded, 1⟩ := by
  obtain ⟨-, hclosed⟩ := ((chat_closes_once (simple []) greeting hasty 0 (.fresh []) _).2
    ⟨true, jammed, .idle "loop"⟩ (.str "d") rfl)
  exact ⟨_, rfl, rfl, hclosed rfl rfl⟩

end Client

end CompletionStream
