import CompletionStream.Proofs.Client.Admitted
import CompletionStream.Proofs.Session.Escapes

/-!
# All or nothing — what leaves a request as a fault

The start of a request is the line.  Before it a request is refused or cannot be counted: then
its fault leaves `chat`, and nobody was told of anything (`Unheard`).  After it every ordinary
fault has been absorbed by the session, so what leaves `chat` is an interrupt, and somebody
whom the client called raised it (`Raises`).

That nobody was told is said in two ways.  The timeline, the clock and the attributes are as
they were, and the whole outcome would be the same with any other listeners, transport and
handler; for a request that is refused it would be the same with any other estimator, too.
-/

namespace CompletionStream

namespace Client

/-- What is raised by those whom a client calls once it has told of a request. -/
inductive Raises (c : Client) (handler : Handler) (o : Options) : Transport → Fault → Prop
  | listener {transport : Transport} {observer : Observer} {event : Event}
      {attributes : Members} {fault : Fault} (hlistener : .observer observer ∈ c.listeners)
      (h : fault ∈ observer.faults event attributes) :
      Raises c handler o transport fault
  | partialText {transport : Transport} {n : Nat} {fault : Fault}
      (h : fault ∈ (handler.onPartial n).fault) : Raises c handler o transport fault
  | completion {transport : Transport} {fault : Fault} (h : fault ∈ handler.onComplete) :
      Raises c handler o transport fault
  | failure {transport : Transport} {fault : Fault} (h : fault ∈ handler.onError) :
      Raises c handler o transport fault
  | counting {transport : Transport} {text : String → Outcome Int}
      {messages : List Message → Outcome Int} {toolCalls : List ToolCall → Outcome Int}
      {fault : Fault} (hestimator : c.estimator = .custom text messages toolCalls)
      (h : (∃ s, text s = .error fault) ∨ ∃ calls, toolCalls calls = .error fault) :
      Raises c handler o transport fault
  | opening {opening : Options → Opening PullStream} {fault : Fault}
      (h : (opening o).outcome = .error fault) : Raises c handler o (.pull opening) fault
  | stream {opening : Options → Opening PullStream} {stream : PullStream} {fault : Fault}
      (hopened : (opening o).outcome = .ok stream)
      (h : fault ∈ stream.ending ∨ fault ∈ stream.closeFault) :
      Raises c handler o (.pull opening) fault
  | subscribing {opening : Options → Opening PushSource} {fault : Fault}
      (h : (opening o).outcome = .error fault) : Raises c handler o (.push opening) fault
  | delivery {opening : Options → Opening PushSource} {deliveries : List Delivery}
      {fault : Fault} (hopened : (opening o).outcome = .ok (.inline deliveries))
      (h : .raised fault ∈ deliveries) : Raises c handler o (.push opening) fault

/-- Nobody was told of a request that came to this fault. -/
structure Unheard (c : Client) (r : ChatRequest) (scene : Scene) (fault : Fault)
    (report : Report) : Prop where
  asked : report.asked = none
  pulled : report.pulled = none
  timeline : report.scene.timeline = scene.timeline
  clock : report.scene.clock = scene.clock
  attributes : report.scene.attributes = scene.attributes
  /-- It makes no difference who would have been told. -/
  anyone : ∀ listeners transport handler number,
    { c with listeners }.chat transport r handler number scene = (.error fault, report)
  /-- A request that is refused is not even counted. -/
  refused : c.Refuses r fault → report.scene = scene
    ∧ ∀ estimator listeners transport handler number,
        { c with estimator, listeners }.chat transport r handler number scene
          = (.error fault, report)
  /-- A request that does not pass the gate is refused by it. -/
  gate : ¬ r.Passes →
    c.Refuses r fault ∧ (fault.kind = .validation ∨ fault.kind = .capability)

-- ── Before the start ───────────────────────────────────────────────────────────────

/-- **A request that cannot be prepared is unheard of.** -/
theorem unheard_of_prepare {c : Client} {r : ChatRequest} {scene left : Scene} {fault : Fault}
    (h : c.prepare r scene = (.error fault, left)) :
    c.Unheard r scene fault ⟨none, none, left⟩ := by
  -- a refusal leaves the scene alone, and counting touches what counting remembers and the log
  obtain ⟨htimeline, hclock, hattributes⟩ : left.timeline = scene.timeline
      ∧ left.clock = scene.clock ∧ left.attributes = scene.attributes := by
    rcases prepare_eq_error.mp h with ⟨-, rfl⟩ | ⟨-, hcounting⟩
    · exact ⟨rfl, rfl, rfl⟩
    · obtain rfl : _ = left := congrArg Prod.snd hcounting
      exact ⟨rfl, rfl, rfl⟩
  refine ⟨rfl, rfl, htimeline, hclock, hattributes, ?_, ?_, ?_⟩
  · intro listeners transport handler number
    exact chat_eq_error (c := { c with listeners }) h transport handler number
  · intro hrefused
    obtain rfl : left = scene :=
      congrArg Prod.snd (h.symm.trans (prepare_of_refuses hrefused scene))
    refine ⟨rfl, fun estimator listeners transport handler number => ?_⟩
    have hoptions := options_eq_error.mpr hrefused
    have hothers : { c with estimator, listeners }.Refuses r fault :=
      options_eq_error.mp hoptions
    exact chat_eq_error (prepare_of_refuses hothers _) transport handler number
  · intro hpasses
    obtain ⟨raised, hrefused, hkind⟩ := ChatRequest.refuses_of_not_passes hpasses c
    obtain rfl : fault = raised := Except.error.inj
      (congrArg Prod.fst (h.symm.trans (prepare_of_refuses hrefused scene)))
    exact ⟨hrefused, hkind⟩

-- ── After the start ────────────────────────────────────────────────────────────────

/-- Whoever a session of a client calls raises what the client's own calls raise. -/
theorem session_vouched (c : Client) (p : Prepared) (transport : Transport) (handler : Handler)
    (number : Nat) (scene : Scene) :
    (c.session p handler number scene).Vouched (c.Raises handler p.options transport) where
  listeners := by
    rintro (observer | level | -) hl
    · exact fun event attributes fault hfault => .listener hl hfault
    · trivial
    · trivial
  handler :=
    ⟨fun _ _ h => .partialText h, fun _ h => .completion h, fun _ h => .failure h⟩
  estimator := by
    rintro e ⟨⟩
    rcases hestimator : c.estimator with ⟨vocabulary, model⟩ | ⟨text, messages, toolCalls⟩
    · trivial
    · exact ⟨fun s _ h => .counting hestimator (.inl ⟨s, h⟩),
        fun calls _ h => .counting hestimator (.inr ⟨calls, h⟩)⟩

/-- A run over a transport lets out interrupts that were raised, and nothing else. -/
theorem run_tight {c : Client} {handler : Handler} {o : Options} (transport : Transport)
    {s : Session} (h : s.Vouched (c.Raises handler o transport)) :
    (run transport o s).1.Tight (c.Raises handler o transport) := by
  cases transport with
  | pull opening =>
      have hreported : (reportAll s (opening o).log).Vouched (c.Raises handler o (.pull opening)) :=
        ⟨h.listeners, h.handler, h.estimator⟩
      exact (Session.pull_guarded hreported (fun _ hfault => .opening hfault)
        fun stream hopened => ⟨fun _ hfault => .stream hopened (.inl hfault),
          fun _ hfault => .stream hopened (.inr hfault)⟩).tight
  | push opening =>
      have hreported : (reportAll s (opening o).log).Vouched (c.Raises handler o (.push opening)) :=
        ⟨h.listeners, h.handler, h.estimator⟩
      exact (Session.push_guarded hreported (fun _ hfault => .subscribing hfault)
        fun deliveries _ hopened hfault => .delivery hopened hfault).tight

/-- **A prepared request lets out interrupts that were raised**, and nothing else. -/
theorem chat_tight {c : Client} {r : ChatRequest} {scene counted : Scene} {p : Prepared}
    (h : c.prepare r scene = (.ok p, counted)) (transport : Transport) (handler : Handler)
    (number : Nat) :
    (c.chat transport r handler number scene).1.Tight
      (c.Raises handler p.options transport) := by
  have hvouched := c.session_vouched p transport handler number counted
  obtain ⟨htight, htold⟩ :=
    Session.tell_guarded hvouched (.started (c.session p handler number counted).exchange)
  rw [chat, h]
  dsimp only
  generalize (c.session p handler number counted).tell
    (.started (c.session p handler number counted).exchange) = result at htight htold ⊢
  obtain ⟨interrupt | _, told⟩ := result
  · exact htight
  · exact run_tight transport ⟨htold.listeners, htold.handler, htold.estimator⟩

/-- **A REQUEST IS ALL OR NOTHING.**  An ordinary fault leaves `chat` only if nobody was told
    of the request.  Once a request is prepared and its start is on the way to the listeners,
    no ordinary fault leaves `chat`, only an interrupt that somebody raised. -/
theorem chat_all_or_nothing {c : Client} {transport : Transport} {r : ChatRequest}
    {handler : Handler} {number : Nat} {scene : Scene} {fault : Fault} {report : Report}
    (h : c.chat transport r handler number scene = (.error fault, report)) :
    (fault.isOrdinary = true → c.Unheard r scene fault report)
      ∧ ∀ p counted, c.prepare r scene = (.ok p, counted) →
          fault.isOrdinary = false ∧ c.Raises handler p.options transport fault := by
  have hafter : ∀ p counted, c.prepare r scene = (.ok p, counted) →
      fault.isOrdinary = false ∧ c.Raises handler p.options transport fault := by
    intro p counted hprepare
    exact chat_tight hprepare transport handler number fault (congrArg Prod.fst h)
  refine ⟨fun hordinary => ?_, hafter⟩
  rcases hprepare : c.prepare r scene with ⟨raised | p, left⟩
  · rw [chat_eq_error hprepare] at h
    obtain ⟨⟨⟩, rfl⟩ := Prod.mk.inj h
    exact unheard_of_prepare hprepare
  · obtain ⟨hinterrupt, -⟩ := hafter p left hprepare
    rw [hordinary] at hinterrupt
    exact nomatch hinterrupt

-- ── A request that nobody hears of, and one that is stopped ────────────────────────

/-- An observer that stops the program when it is told of a request. -/
def abrupt : Observer :=
  ⟨"Abrupt", "abrupt", fun _ attributes => attributes, fun _ _ => some (.exit 1)⟩

/-- A client whose count of messages fails. -/
def unsure : Client :=
  { simple [.observer abrupt] with
    estimator := .custom (fun _ => .ok 1) (fun _ => .error .wrongValue) (fun _ => .ok 1) }

/-- A failed count is a fault that nobody hears of, and an interrupt of a listener is let out
    after the start. -/
theorem chat_all_or_nothing_abrupt :
    (∃ report, unsure.chat shut greeting .steady 0 (.fresh []) = (.error .wrongValue, report)
        ∧ unsure.Unheard greeting (.fresh []) .wrongValue report)
      ∧ ∃ o report,
          (simple [.observer abrupt]).chat shut greeting .steady 0 (.fresh [])
            = (.error (.exit 1), report)
          ∧ (Fault.exit 1).isOrdinary = false
          ∧ (simple [.observer abrupt]).Raises .steady o shut (.exit 1) := by
  constructor
  · obtain ⟨hunheard, -⟩ := chat_all_or_nothing
      (rfl : unsure.chat shut greeting .steady 0 (.fresh []) = (.error .wrongValue, _))
    exact ⟨_, rfl, hunheard rfl⟩
  · obtain ⟨-, hafter⟩ := chat_all_or_nothing
      (rfl : (simple [.observer abrupt]).chat shut greeting .steady 0 (.fresh [])
        = (.error (.exit 1), _))
    exact ⟨_, _, rfl, hafter _ _ rfl⟩

end Client

end CompletionStream
