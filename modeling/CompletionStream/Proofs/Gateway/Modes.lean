import CompletionStream.Gateway.Assembly
import CompletionStream.Proofs.Client.Preparing
import CompletionStream.Proofs.Session.Pulled
import CompletionStream.Proofs.Session.Quiet

/-!
# Modes — pushing and pulling come to the same

A session that pulls a provider's stream takes decoded chunks in a loop and leaves it when the
session has ended.  A session that the stream is pushed to is sent every chunk, ended or not,
until one cannot be read.  Both see the same chunks up to the same failure, and a session that
has ended ignores the rest, so they end alike (`takeAll_deliver`, `pull_push`).

Apart from what is reported, then, a request comes to the same through a client of either mode
(`chat_alike`), and settings that differ in the mode alone assemble such clients
(`assemble_inMode`).
-/

namespace CompletionStream

/-- What a provider's client raises is ordinary, its stream does not stall, and closing it
    raises nothing. -/
structure RawStream.Steady (raw : RawStream) : Prop where
  opening : ∀ fault ∈ raw.openFault, fault.isOrdinary = true
  ending : ∀ fault ∈ raw.ending, fault.isOrdinary = true
  running : raw.stalls = false
  closing : raw.closable = true → raw.closeFault = none

namespace Session

theorem quiet_start {s t : Session} (h : s.quiet = t.quiet) : s.start.quiet = t.start.quiet := by
  have hcommutes (s : Session) : s.start.quiet = s.quiet.start := by
    rw [start, start]
    show _ = if s.phase = .requesting then { s.quiet with phase := .streaming } else s.quiet
    split <;> rfl
  rw [hcommutes, h, ← hcommutes]

-- ── Pushing to a session ───────────────────────────────────────────────────────────

/-- An ordinary failure of a pushed stream is relayed to the session. -/
theorem abort_ordinary {fault : Fault} (h : fault.isOrdinary = true) (s : Session) :
    subscriber.abort fault s = s.settle (some (Wire.relayed fault)) := by
  have hgoes : fault.isCancellation = false := by
    rw [Fault.isCancellation]
    cases hkind : fault.kind with
    | interrupt name =>
        rw [Fault.isOrdinary, hkind] at h
        cases h
    | _ => rfl
  rw [Subscriber.abort, hgoes, if_neg Bool.false_ne_true, if_pos h, settle,
    if_pos (Wire.relayed_ordinary h)]
  show s.step 0 (.error (Wire.relayed fault)) = s.fail (Wire.relayed fault)
  rw [step]

/-- The end of a pushed stream reaches the session as the end of a pulled one does. -/
theorem finish_ordinary {ending : Option Fault}
    (h : ∀ fault ∈ ending, fault.isOrdinary = true) (s : Session) :
    subscriber.finish ending s = s.settle (ending.map Wire.relayed) := by
  cases ending with
  | some fault => exact abort_ordinary (h fault rfl) s
  | none =>
      show s.step 0 .complete = s.complete
      rw [step]

/-- A session that has ended ignores how its stream ends. -/
theorem settle_ended {s : Session} (h : s.ended = true) {fault : Option Fault}
    (hfault : ∀ f ∈ fault, f.isOrdinary = true) : (s.settle fault).2.quiet = s.quiet := by
  cases fault with
  | none => rw [settle, complete_ended h]
  | some fault =>
      rw [settle, if_pos (hfault fault rfl), fail_ended h]
      rfl

theorem relayed_ending {ending : Option Fault}
    (h : ∀ fault ∈ ending, fault.isOrdinary = true) :
    ∀ fault ∈ ending.map Wire.relayed, fault.isOrdinary = true := by
  intro fault hfault
  obtain ⟨raised, hraised, rfl⟩ := Option.mem_map.mp hfault
  exact Wire.relayed_ordinary (h raised hraised)

/-- What is pushed to a session that has ended is ignored. -/
theorem deliver_ended {s : Session} (h : s.ended = true) {ending : Option Fault}
    (hending : ∀ fault ∈ ending, fault.isOrdinary = true) (raws : List Value) :
    (subscriber.deliver ending raws s).2.quiet = s.quiet := by
  induction raws with
  | nil =>
      rw [Subscriber.deliver, finish_ordinary hending]
      exact settle_ended h (relayed_ending hending)
  | cons raw rest ih =>
      rw [Subscriber.deliver]
      cases hchunk : Wire.chunk raw with
      | error fault =>
          have hordinary : fault.isOrdinary = true :=
            (Wire.plain_chunk raw fault hchunk).ordinary
          dsimp only
          rw [abort_ordinary hordinary]
          exact settle_ended h (Fault.ordinary_some (Wire.relayed_ordinary hordinary))
      | ok chunk =>
          have hphase : s.phase ≠ .streaming := by
            intro hstreaming
            rw [ended, hstreaming] at h
            cases h
          have hignored : subscriber.onNext chunk s = (.ok (), s) := by
            show s.step 0 (.next chunk) = (.ok (), s)
            rw [step, next_ignored hphase]
          dsimp only
          rw [hignored]
          exact ih

-- ── Pulling and pushing ────────────────────────────────────────────────────────────

/-- Takes the chunks of a provider's stream and lets the session end. -/
def takeAll (raws : List Value) (ending : Option Fault) (taken : Nat) (s : Session) :
    Outcome Unit × Session :=
  match drain (decodeAll raws).1 taken s with
  | (.exhausted, _, s) => s.settle ((decodeAll raws).2.or (ending.map Wire.relayed))
  | (.left, _, s) => s.complete
  | (.interrupted fault, _, s) => (.error fault, s)

/-- Operations that agree but for the log, one of which goes well. -/
theorem muted_ok {first : Outcome Unit × Session} {s : Session}
    {second : Outcome Unit × Session} (hmuted : muted first = muted second)
    (hfirst : first = (.ok (), s)) : ∃ t, second = (.ok (), t) ∧ s.quiet = t.quiet := by
  subst hfirst
  obtain ⟨houtcome, hquiet⟩ := Prod.mk.inj hmuted
  exact ⟨second.2, Prod.ext houtcome.symm rfl, hquiet⟩

/-- Sessions that differ in their logs alone end alike when their stream does. -/
theorem settle_alike {s₀ : Session} (h : s₀.Orderly) (done : List PartialChunk) (scene : Scene)
    {t : Session} (ht : (s₀.underway .streaming done scene).quiet = t.quiet)
    {fault : Option Fault} (hfault : ∀ f ∈ fault, f.isOrdinary = true) :
    ∃ s', (s₀.underway .streaming done scene).settle fault = (.ok (), s')
      ∧ s'.quiet = (t.settle fault).2.quiet := by
  obtain ⟨s', hsettle, -, -⟩ := settle_underway h done scene hfault
  have hmuted : muted ((s₀.underway .streaming done scene).settle fault)
      = muted (t.settle fault) := by
    rw [muted_settle, ht, ← muted_settle]
  obtain ⟨t', ht', hquiet⟩ := muted_ok hmuted hsettle
  exact ⟨s', hsettle, by rw [ht']; exact hquiet⟩

/-- **A session that takes the chunks of a stream ends like one that they are pushed to.** -/
theorem takeAll_deliver {s₀ : Session} (h : s₀.Orderly) {ending : Option Fault}
    (hending : ∀ fault ∈ ending, fault.isOrdinary = true) (raws : List Value)
    (done : List PartialChunk) (taken : Nat) (scene : Scene) {t : Session}
    (ht : (s₀.underway .streaming done scene).quiet = t.quiet) :
    ∃ s', takeAll raws ending taken (s₀.underway .streaming done scene) = (.ok (), s')
      ∧ s'.quiet = (subscriber.deliver ending raws t).2.quiet := by
  induction raws generalizing done taken scene t with
  | nil =>
      rw [Subscriber.deliver, finish_ordinary hending]
      exact settle_alike h done scene ht (relayed_ending hending)
  | cons raw rest ih =>
      rw [Subscriber.deliver]
      cases hchunk : Wire.chunk raw with
      | error fault =>
          have hplain : fault.Plain := Wire.plain_chunk raw fault hchunk
          have htake : takeAll (raw :: rest) ending taken (s₀.underway .streaming done scene)
              = (s₀.underway .streaming done scene).settle (some fault) := by
            rw [takeAll, decodeAll, hchunk]
            rfl
          -- the fault is none of the provider's client, so relaying leaves it as it is
          dsimp only
          rw [htake, abort_ordinary hplain.ordinary, Wire.relayed_of_plain hplain]
          exact settle_alike h done scene ht (Fault.ordinary_some hplain.ordinary)
      | ok chunk =>
          -- the sessions are never equal, only alike: each side reports things of its own
          have hphase : t.phase = .streaming := (congrArg Session.phase ht).symm
          have hopen : t.accumulator.finalized = false := by
            have haccumulator := congrArg Session.accumulator ht
            rw [← show (s₀.underway .streaming done scene).accumulator = t.accumulator
              from haccumulator]
            exact underway_open _ _ _ _
          have hmuted : muted ((s₀.underway .streaming done scene).receive (.next chunk))
              = muted (t.receive (.next chunk)) := by
            rw [muted_receive rfl (underway_open _ _ _ _), ht, ← muted_receive hphase hopen]
          have hdrain : decodeAll (raw :: rest)
              = (chunk :: (decodeAll rest).1, (decodeAll rest).2) := by
            rw [decodeAll, hchunk]
          obtain ⟨scene', -, hreceive⟩ := receive_underway h done scene chunk
          cases hraised : (s₀.handler.hears (Reference.texts done).length
              (Reference.texts [chunk])).2 with
          | none =>
              rw [hraised] at hreceive
              obtain ⟨t', ht', hquiet⟩ := muted_ok hmuted hreceive
              obtain ⟨s', htake, hsame⟩ := ih (done ++ [chunk]) (taken + 1) scene' hquiet
              refine ⟨s', ?_, ?_⟩
              · rw [takeAll, hdrain, drain, hreceive]
                exact htake
              · dsimp only
                rw [show subscriber.onNext chunk t = (.ok (), t') from ht']
                exact hsame
          | some fault =>
              rw [hraised] at hreceive
              obtain ⟨closed, hreceive, hends⟩ := hreceive
              have hended : closed.ended = true := hends.ended rfl
              obtain ⟨t', ht', hquiet⟩ := muted_ok hmuted hreceive
              have hended' : t'.ended = true := by
                have hfinal : closed.quiet.phase = t'.quiet.phase :=
                  congrArg Session.phase hquiet
                rw [ended, show t'.phase = closed.phase from hfinal.symm]
                exact hended
              refine ⟨closed, ?_, ?_⟩
              · rw [takeAll, hdrain, drain, hreceive]
                dsimp only
                rw [if_pos hended]
                exact complete_ended hended
              · -- pulling stops here; what is pushed from now on finds the session ended
                dsimp only
                rw [show subscriber.onNext chunk t = (.ok (), t') from ht']
                exact hquiet.trans (deliver_ended hended' hending rest).symm

/-- Pulling a steady provider's stream is taking its chunks: closing it raises nothing. -/
theorem pullStream_steady {raw : RawStream} (hraw : raw.Steady) (s : Session) :
    ∃ report, s.pullStream
        { chunks := (decodeAll raw.chunks).1
          ending := (decodeAll raw.chunks).2.or (raw.ending.map Wire.relayed)
          closesItself := true
          closable := raw.closable
          closeFault := raw.closeFault }
      = ((takeAll raw.chunks raw.ending 0 s).1, report,
          (takeAll raw.chunks raw.ending 0 s).2) := by
  have hclosing (chunks : List PartialChunk) (ending : Option Fault) (closesItself : Bool) :
      (PullStream.mk chunks ending closesItself raw.closable raw.closeFault).closing = none := by
    rw [PullStream.closing]
    split
    · exact hraw.closing ‹_›
    · rfl
  rw [pullStream_eq, takeAll, hclosing]
  rcases drain (decodeAll raw.chunks).1 0 s with ⟨drained, yielded, s'⟩
  cases drained with
  | exhausted =>
      dsimp only [PullStream.lastFault]
      rw [hclosing]
      exact ⟨_, rfl⟩
  | left => exact ⟨_, rfl⟩
  | interrupted fault => exact ⟨_, rfl⟩

/-- **A session that pulls a provider's stream ends like one that it is pushed to.** -/
theorem pull_push {s₀ : Session} (h : s₀.Orderly) {raw : RawStream} (hraw : raw.Steady)
    (scene : Scene) {t : Session} (ht : (s₀.underway .requesting [] scene).quiet = t.quiet) :
    ∃ pulled s', (s₀.underway .requesting [] scene).pull raw.toPull = (.ok (), pulled, s')
      ∧ s'.quiet = (subscriber.consume raw t.start).2.quiet := by
  have hstart : (s₀.underway .streaming [] scene).quiet = t.start.quiet := quiet_start ht
  have hstarted : (s₀.underway .requesting [] scene).start = s₀.underway .streaming [] scene :=
    rfl
  rw [pull.eq_def, hstarted, RawStream.toPull, Subscriber.consume]
  cases hopening : raw.openFault with
  | some fault =>
      have hordinary : fault.isOrdinary = true := hraw.opening fault hopening
      obtain ⟨s', hsettle, hquiet⟩ :=
        settle_alike h [] scene hstart (Fault.ordinary_some (Wire.relayed_ordinary hordinary))
      refine ⟨none, s', ?_, ?_⟩
      · dsimp only
        rw [hsettle]
      · dsimp only
        rw [abort_ordinary hordinary]
        exact hquiet
  | none =>
      obtain ⟨s', htake, hquiet⟩ :=
        takeAll_deliver h hraw.ending raw.chunks [] 0 scene hstart
      obtain ⟨report, hpull⟩ := pullStream_steady hraw (s₀.underway .streaming [] scene)
      rw [htake] at hpull
      refine ⟨some report, s', ?_, ?_⟩
      · dsimp only
        rw [hpull]
      · rw [hquiet, hraw.running]
        rfl

end Session

-- ── Clients ────────────────────────────────────────────────────────────────────────

namespace Client

theorem quiet_reportAll (s : Session) (log : List LogRecord) :
    (reportAll s log).quiet = s.quiet := by
  have hscene : (log.foldl Scene.report s.scene).quiet = s.scene.quiet := by
    induction log generalizing s with
    | nil => rfl
    | cons record rest ih => exact ih { s with scene := s.scene.report record }
  show { s with scene := (log.foldl Scene.report s.scene).quiet } = s.quiet
  rw [hscene]
  rfl

/-- What listeners and handlers are told of a request, what is sent and what it comes to, all but
    what is reported. -/
structure Alike (first second : Outcome Unit × Report) : Prop where
  outcome : first.1 = second.1
  asked : first.2.asked = second.2.asked
  scene : first.2.scene.quiet = second.2.scene.quiet

/-- **A request comes to the same over a transport of either mode.** -/
theorem chat_alike {c : Client} (hlisteners : ∀ l ∈ c.listeners, l.Ordinary)
    (hestimator : c.estimator.Ordinary) {handler : Handler} (hhandler : handler.Ordinary)
    {remote : Remote} (hraw : remote.raw.Steady) (deployment : Value) (r : ChatRequest)
    (number : Nat) (scene : Scene) :
    Alike (c.chat (remote.transport .sync deployment) r handler number scene)
      (c.chat (remote.transport .async deployment) r handler number scene) := by
  rcases hprepare : c.prepare r scene with ⟨fault | p, counted⟩
  · rw [chat_eq_error hprepare, chat_eq_error hprepare]
    exact ⟨rfl, rfl, rfl⟩
  · obtain ⟨horderly, told, -, hrun⟩ :=
      chat_underway hprepare hlisteners hestimator hhandler number
    rw [hrun, hrun]
    dsimp only [run, Remote.transport, Transport.mode]
    -- the two report things of their own before they run
    obtain ⟨opened, hopened⟩ : ∃ opened,
        reportAll (c.announce p .sync
            ((c.session p handler number counted).underway .requesting [] told))
            (remote.openPull deployment).log
          = (c.session p handler number counted).underway .requesting [] opened :=
      ⟨_, rfl⟩
    have hquiet : ((c.session p handler number counted).underway .requesting [] opened).quiet
        = (reportAll (c.announce p .async
            ((c.session p handler number counted).underway .requesting [] told))
            (remote.openPush deployment).log).quiet := by
      rw [← hopened, quiet_reportAll, quiet_reportAll]
      rfl
    obtain ⟨pulled, s', hpull, hsame⟩ := Session.pull_push horderly hraw opened hquiet
    rw [hopened, show (remote.openPull deployment).outcome = remote.raw.toPull from rfl, hpull]
    exact ⟨rfl, rfl, congrArg Session.scene hsame⟩

end Client

-- ── Gateways ───────────────────────────────────────────────────────────────────────

/-- The same settings for another mode. -/
def Settings.AppSettings.inMode (s : Settings.AppSettings) (mode : Mode) :
    Settings.AppSettings :=
  { s with client := { s.client with useAsync := mode == .async } }

/-- The same connection in another mode. -/
def Connection.inMode (c : Connection) (mode : Mode) : Connection :=
  { c with mode }

/-- Settings for a mode ask for the connection of that mode. -/
theorem Connection.ofSettings_inMode (s : Settings.AppSettings) (mode : Mode) :
    ofSettings (s.inMode mode).client = (ofSettings s.client).map (·.inMode mode) := by
  have hmode : modeOf (s.inMode mode).client = mode := by cases mode <;> rfl
  have hendpoint : endpoint? (s.inMode mode).client = endpoint? s.client := rfl
  have hazure : (s.inMode mode).client.azureKey = s.client.azureKey := rfl
  have hplain : (s.inMode mode).client.plainKey = s.client.plainKey := rfl
  rw [ofSettings, ofSettings, hmode, hendpoint, hazure, hplain]
  by_cases hkey : s.client.azureKey ≠ ""
  · rw [if_pos hkey, if_pos hkey]
    cases endpoint? s.client <;> rfl
  · rw [if_neg hkey, if_neg hkey]
    by_cases hkey' : s.client.plainKey ≠ ""
    · rw [if_pos hkey', if_pos hkey']
      rfl
    · rw [if_neg hkey', if_neg hkey']
      rfl

namespace Gateway

/-- The same gateway in another mode. -/
def inMode (g : Gateway) (mode : Mode) : Gateway :=
  { g with connection := g.connection.inMode mode }

/-- **What a gateway over a connection comes to**: it fails only for its format. -/
theorem ofConnection_eq (c : Connection) (s : Settings.AppSettings) (listeners : List Listener)
    (estimator : Option Estimator) (vocabulary : Vocabulary) :
    ofConnection c s listeners estimator vocabulary
      = (defaultFormat s.defaults.format).map fun format =>
          { connection := c
            includeUsage := s.client.includeUsage
            client :=
              { deployment := Client.deploymentOr (.str s.client.deployment)
                estimator := estimatorFor s.defaults estimator vocabulary
                listeners := listenersFor s.logging listeners
                format
                strictSchema := .bool s.defaults.strictSchema
                provider := c.provider
                defaults := defaultsOf s.defaults } } := by
  have htransports : decide (c.mode = .sync) ≠ decide (c.mode = .async) := by
    cases c.mode <;> decide
  rw [ofConnection]
  cases defaultFormat s.defaults.format with
  | error fault => rfl
  | ok format =>
      show (Client.make _ _ _ _).bind _ = _
      rw [Client.make_eq_ok.mpr ⟨htransports, _, Client.stopOf_texts _, rfl⟩]
      rfl

/-- Settings for a mode assemble the gateway of that mode. -/
theorem assemble_inMode (s : Settings.AppSettings) (listeners : List Listener)
    (estimator : Option Estimator) (vocabulary : Vocabulary) (mode : Mode) :
    (assemble (s.inMode mode) listeners estimator vocabulary).outcome
      = (assemble s listeners estimator vocabulary).outcome.map (·.inMode mode) := by
  rw [assemble, assemble, Connection.ofSettings_inMode]
  cases Connection.ofSettings s.client with
  | error fault => rfl
  | ok c =>
      show ofConnection (c.inMode mode) (s.inMode mode) listeners _ _
        = (ofConnection c s listeners _ _).map _
      rw [ofConnection_eq, ofConnection_eq, show (s.inMode mode).defaults = s.defaults from rfl]
      cases defaultFormat s.defaults.format <;> rfl

/-- **What an assembly that goes well comes to.** -/
theorem assemble_eq_ok {s : Settings.AppSettings} {listeners : List Listener}
    {estimator : Option Estimator} {vocabulary : Vocabulary} {g : Gateway}
    (h : (assemble s listeners estimator vocabulary).outcome = .ok g) :
    ∃ c format, Connection.ofSettings s.client = .ok c
      ∧ defaultFormat s.defaults.format = .ok format
      ∧ g = { connection := c
              includeUsage := s.client.includeUsage
              client :=
                { deployment := Client.deploymentOr (.str s.client.deployment)
                  estimator := estimatorFor s.defaults estimator vocabulary
                  listeners := listenersFor s.logging listeners
                  format
                  strictSchema := .bool s.defaults.strictSchema
                  provider := c.provider
                  defaults := defaultsOf s.defaults } } := by
  rw [assemble] at h
  cases hconnection : Connection.ofSettings s.client with
  | error fault => rw [hconnection] at h; exact nomatch h
  | ok c =>
      rw [hconnection] at h
      dsimp only at h
      rw [ofConnection_eq] at h
      cases hformat : defaultFormat s.defaults.format with
      | error fault => rw [hformat] at h; exact nomatch h
      | ok format =>
          rw [hformat] at h
          exact ⟨c, format, rfl, rfl, (Except.ok.inj h).symm⟩

/-- A gateway has the listeners and the estimator that it was assembled with. -/
theorem assemble_client {s : Settings.AppSettings} {listeners : List Listener}
    {estimator : Option Estimator} {vocabulary : Vocabulary} {g : Gateway}
    (h : (assemble s listeners estimator vocabulary).outcome = .ok g) :
    g.client.listeners = listenersFor s.logging listeners
      ∧ g.client.estimator = estimatorFor s.defaults estimator vocabulary := by
  obtain ⟨c, format, -, -, rfl⟩ := assemble_eq_ok h
  exact ⟨rfl, rfl⟩

/-- The log of requests is an ordinary listener. -/
theorem listenersFor_ordinary (s : Settings.LogSettings) {own : List Listener}
    (h : ∀ l ∈ own, l.Ordinary) : ∀ l ∈ listenersFor s own, l.Ordinary := by
  intro l hl
  rcases List.mem_append.mp hl with hown | hlog
  · exact h l hown
  · split at hlog
    · rw [List.mem_singleton.mp hlog]
      trivial
    · exact absurd hlog List.not_mem_nil

/-- What two replies have in common when nobody but a reader of the log can tell them apart. -/
structure Reply.Agrees (first second : Reply) : Prop where
  outcome : first.outcome = second.outcome
  /-- The arguments of the calls of the provider's client. -/
  sent : first.sent = second.sent
  /-- What the handler and the observers were told, with every fault and every attribute. -/
  timeline : first.report.scene.timeline = second.report.scene.timeline
  attributes : first.report.scene.attributes = second.report.scene.attributes
  clock : first.report.scene.clock = second.report.scene.clock
  tally : first.report.scene.tally = second.report.scene.tally

/-- A gateway answers alike in both modes. -/
theorem chat_inMode {g : Gateway} (hlisteners : ∀ l ∈ g.client.listeners, l.Ordinary)
    (hestimator : g.client.estimator.Ordinary) {handler : Handler}
    (hhandler : handler.Ordinary) {raw : RawStream} (hraw : raw.Steady) (r : ChatRequest)
    (number : Nat) (scene : Scene) :
    ((g.inMode .sync).chat raw r handler number scene).Agrees
      ((g.inMode .async).chat raw r handler number scene) := by
  have halike := @Client.chat_alike g.client hlisteners hestimator handler hhandler
    ⟨g.includeUsage, raw, .idle EventLoop.defaultName⟩ hraw g.client.deployment r number scene
  have hsent := congrArg (fun asked : Option Options => asked.toList.map
    (Remote.arguments ⟨g.includeUsage, raw, .idle EventLoop.defaultName⟩ g.client.deployment))
    halike.asked
  have htimeline := congrArg Scene.timeline halike.scene
  have hattributes := congrArg Scene.attributes halike.scene
  have hclock := congrArg Scene.clock halike.scene
  have htally := congrArg Scene.tally halike.scene
  exact ⟨halike.outcome, hsent, htimeline, hattributes, hclock, htally⟩

/-- **PUSHING AND PULLING AGREE.**  Settings that differ in the mode alone either assemble
    nothing in both modes, with the same fault, or assemble a gateway in each.  Then whatever
    the provider delivers, chunks that cannot be read among them, wherever it fails, and
    whatever the handler, the listeners and the estimator raise, the two gateways agree on the
    reply to every request. -/
theorem modes_agree (s : Settings.AppSettings) {listeners : List Listener}
    (hlisteners : ∀ l ∈ listeners, l.Ordinary) {estimator : Option Estimator}
    (hestimator : ∀ e ∈ estimator, e.Ordinary) (vocabulary : Vocabulary) :
    (∃ fault, (assemble (s.inMode .sync) listeners estimator vocabulary).outcome = .error fault
        ∧ (assemble (s.inMode .async) listeners estimator vocabulary).outcome = .error fault)
      ∨ ∃ pulling pushing : Gateway,
        (assemble (s.inMode .sync) listeners estimator vocabulary).outcome = .ok pulling
        ∧ (assemble (s.inMode .async) listeners estimator vocabulary).outcome = .ok pushing
        ∧ pulling.connection.mode = .sync ∧ pushing.connection.mode = .async
        ∧ ∀ {raw : RawStream}, raw.Steady → ∀ {handler : Handler}, handler.Ordinary →
            ∀ r number scene, (pulling.chat raw r handler number scene).Agrees
              (pushing.chat raw r handler number scene) := by
  rw [assemble_inMode, assemble_inMode]
  cases hassemble : (assemble s listeners estimator vocabulary).outcome with
  | error fault => exact Or.inl ⟨fault, rfl, rfl⟩
  | ok g =>
      obtain ⟨hown, hcounts⟩ := assemble_client hassemble
      have hordinary : ∀ l ∈ g.client.listeners, l.Ordinary :=
        hown ▸ listenersFor_ordinary s.logging hlisteners
      have hcounting : g.client.estimator.Ordinary := by
        rw [hcounts]
        cases estimator with
        | none => trivial
        | some e => exact hestimator e rfl
      refine Or.inr ⟨g.inMode .sync, g.inMode .async, rfl, rfl, rfl, rfl, ?_⟩
      intro raw hraw handler hhandler r number scene
      exact chat_inMode hordinary hcounting hhandler hraw r number scene

-- ── A stream with a chunk that cannot be read ──────────────────────────────────────

/-- Settings that build a client of either mode and log its requests. -/
def keyed : Settings.AppSettings :=
  { client :=
      { endpoint := none, azureKey := "", plainKey := "k", apiVersion := "v", deployment := "d"
        useAsync := false, includeUsage := true, timeout := 30.0, maxRetries := 2
        headers := [] }
    defaults :=
      { sampling := default, format := none, strictSchema := false, estimatorModel := "m" }
    logging := { level := "INFO", json := true, requests := true } }

/-- A stream that breaks after a text, a chunk that cannot be read, and another text. -/
def garbled : RawStream :=
  let raw (s : String) : Value :=
    .object [("choices", .list [.object [("delta", .object [("content", .str s)])]])]
  { openFault := none
    chunks := [raw "a", .object [("choices", .int 1)], raw "b"]
    ending := some (.of (.vendor "APIError" none) "broken")
    stalls := false
    closable := true
    closeFault := none }

theorem garbled_steady : garbled.Steady where
  opening fault hfault := nomatch hfault
  ending fault hfault := by rw [← Option.some.inj hfault]; rfl
  running := rfl
  closing _ := rfl

/-- Both modes stop at the chunk that cannot be read. -/
theorem modes_agree_garbled :
    ∃ pulling pushing : Gateway,
      (assemble (keyed.inMode .sync) [.observer .surly, .silent] none
          ⟨fun _ => none, fun _ s => some s.length⟩).outcome = .ok pulling
      ∧ (assemble (keyed.inMode .async) [.observer .surly, .silent] none
          ⟨fun _ => none, fun _ s => some s.length⟩).outcome = .ok pushing
      ∧ (pulling.chat garbled Client.greeting Client.fickle 0 (.fresh [])).Agrees
          (pushing.chat garbled Client.greeting Client.fickle 0 (.fresh [])) := by
  have hestimator : ∀ e ∈ (none : Option Estimator), e.Ordinary := fun _ he => (nomatch he)
  rcases modes_agree keyed Observer.surly_ordinary hestimator
      ⟨fun _ => none, fun _ s => some s.length⟩ with
    ⟨fault, hfault, -⟩ | ⟨pulling, pushing, hpulling, hpushing, -, -, hagree⟩
  · exact nomatch hfault
  · exact ⟨pulling, pushing, hpulling, hpushing,
      hagree garbled_steady Client.fickle_ordinary Client.greeting 0 (.fresh [])⟩

end Gateway

end CompletionStream
