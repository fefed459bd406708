import CompletionStream.Proofs.Client.Preparing
import CompletionStream.Proofs.Session.Closing
import CompletionStream.Proofs.Session.Intake
import CompletionStream.Stream.Client

/-!
# Pulled — a request over a stream to pull from has one run

`Reference.pulled` says what a handler is told of while a stream is pulled, and how that ends,
without a session: it hears the texts up to and including the first over which it raises
(`Handler.hears`); a failure to open the stream, what the handler raised, or the stream's own
fault, whichever comes first, is the outcome; and if there is none of them, the response of all
chunks is.

`drain_underway` compares this with the loop over the chunks and `pull_underway` with the whole
run of a session; the last section does so with a request.
-/

namespace CompletionStream

open Scene (Adds)

-- ── The reference ──────────────────────────────────────────────────────────────────

/-- What a handler raises over a text, by the number of texts it was told of before. -/
def Handler.raises (handler : Handler) (n : Nat) : Option Fault :=
  (handler.onPartial n).raises

/-- The texts that a handler is told of, up to and including the first over which it raises,
    and what it raises. -/
def Handler.hears (handler : Handler) : Nat → List String → List String × Option Fault
  | _, [] => ([], none)
  | n, text :: rest =>
    match handler.raises n with
    | some fault => ([text], some fault)
    | none => (text :: (handler.hears (n + 1) rest).1, (handler.hears (n + 1) rest).2)

namespace Handler

/-- A handler that raises nothing over some texts hears them all, and then what follows. -/
theorem hears_append_none {handler : Handler} {n : Nat} {texts : List String}
    (h : (handler.hears n texts).2 = none) (more : List String) :
    handler.hears n (texts ++ more)
      = (texts ++ (handler.hears (n + texts.length) more).1,
          (handler.hears (n + texts.length) more).2) := by
  induction texts generalizing n with
  | nil => rfl
  | cons text rest ih =>
      rw [hears] at h
      cases hraises : handler.raises n with
      | some fault => rw [hraises] at h; exact nomatch h
      | none =>
          rw [hraises] at h
          rw [List.cons_append, hears, hraises, List.length_cons, Nat.add_comm rest.length 1,
            ← Nat.add_assoc]
          dsimp only
          rw [ih h]
          rfl

/-- A handler that raises nothing over some texts hears them all. -/
theorem hears_all {handler : Handler} {n : Nat} {texts : List String}
    (h : (handler.hears n texts).2 = none) : handler.hears n texts = (texts, none) := by
  have happend := hears_append_none h []
  rwa [List.append_nil, hears, List.append_nil] at happend

/-- A handler that raises something over some texts hears nothing of what follows. -/
theorem hears_append_some {handler : Handler} {n : Nat} {texts : List String} {fault : Fault}
    (h : (handler.hears n texts).2 = some fault) (more : List String) :
    handler.hears n (texts ++ more) = handler.hears n texts := by
  induction texts generalizing n with
  | nil => exact nomatch h
  | cons text rest ih =>
      rw [hears] at h
      rw [List.cons_append, hears, hears]
      cases hraises : handler.raises n with
      | some raised => rfl
      | none =>
          rw [hraises] at h
          dsimp only
          rw [ih h]

/-- Of a single chunk a handler hears whatever text there is. -/
theorem hears_chunk (handler : Handler) (n : Nat) (chunk : PartialChunk) :
    (handler.hears n (Reference.texts [chunk])).1 = Reference.texts [chunk] := by
  rw [Reference.texts_cons]
  cases spoken chunk.text with
  | none => rfl
  | some text =>
      show (handler.hears n [text]).1 = [text]
      rw [hears]
      cases handler.raises n <;> rfl

end Handler

namespace Reference

/-- The response that chunks add up to, with the count for the request and its own. -/
def billed (chunks : List PartialChunk) (estimator : Estimator) (inputTokens : Int)
    (tally : Tally) : Outcome Response :=
  (counted chunks (some estimator) tally).1.map fun n =>
    response chunks ⟨inputTokens, n, inputTokens + n⟩

/-- A fault, if there is one, and else what there is without it. -/
def failedOr (fault : Option Fault) (response : Outcome Response) : Outcome Response :=
  match fault with
  | some fault => .error fault
  | none => response

/-- What a handler is told of while a stream is pulled, and how that ends. -/
def pulled (handler : Handler) (opened : Outcome PullStream)
    (conclude : List PartialChunk → Outcome Response) : List String × Outcome Response :=
  match opened with
  | .error fault => ([], .error fault)
  | .ok stream =>
    let heard := handler.hears 0 (texts stream.chunks)
    (heard.1, failedOr (heard.2.or stream.lastFault) (conclude stream.chunks))

/-- With an integer for the request, concluding is billing. -/
theorem concluded_int (chunks : List PartialChunk) (estimator : Estimator) (inputTokens : Int)
    (tally : Tally) :
    (concluded chunks (some estimator) (.int inputTokens) tally).1
      = billed chunks estimator inputTokens tally := by
  rw [concluded, billed]
  rcases counted chunks (some estimator) tally with ⟨count, tally'⟩
  cases count with
  | error fault => rfl
  | ok n =>
      dsimp only
      rw [Accumulator.usageOf_int]
      rfl

end Reference

/-- How the outcome of a request is told to its listeners and its handler. -/
def Exchange.ending (x : Exchange) (listeners : List Listener) : Outcome Response → List Entry
  | .ok response => Listener.round (.completed x response) listeners ++ [.completion response]
  | .error fault => Listener.round (.failed x fault) listeners ++ [.failure fault]

namespace Session

-- ── The loop over the chunks ───────────────────────────────────────────────────────

/-- What the handler of an open session raises over a chunk is what it raises over its text. -/
theorem raises_underway (s₀ : Session) (chunks : List PartialChunk) (scene : Scene)
    (chunk : PartialChunk) :
    ((s₀.underway .streaming chunks scene).reaction chunk).raises
      = (s₀.handler.hears (Reference.texts chunks).length (Reference.texts [chunk])).2 := by
  rw [reaction, Reference.texts_cons]
  cases spoken chunk.text with
  | none => rfl
  | some text =>
      show s₀.handler.raises (Reference.texts chunks).length
        = (s₀.handler.hears (Reference.texts chunks).length [text]).2
      rw [Handler.hears]
      cases s₀.handler.raises (Reference.texts chunks).length <;> rfl

/-- A chunk reaches an open session: the handler is told of its text, and what it raises ends
    the stream. -/
theorem receive_underway {s₀ : Session} (h : s₀.Orderly) (chunks : List PartialChunk)
    (scene : Scene) (chunk : PartialChunk) :
    ∃ scene', Adds ((Reference.texts [chunk]).map .partialText) scene scene'
      ∧ match (s₀.handler.hears (Reference.texts chunks).length (Reference.texts [chunk])).2 with
        | none => (s₀.underway .streaming chunks scene).receive (.next chunk)
            = (.ok (), s₀.underway .streaming (chunks ++ [chunk]) scene')
        | some fault => ∃ closed,
            (s₀.underway .streaming chunks scene).receive (.next chunk) = (.ok (), closed)
            ∧ { s₀ with scene := scene' }.EndsIn .failed (.failed s₀.exchange fault)
                (.failure fault) closed := by
  obtain ⟨scene', hafter, hadds⟩ := after_underway s₀ .streaming chunks scene chunk
  refine ⟨scene', hadds, ?_⟩
  rw [receive_streaming rfl (underway_open _ _ _ _), hafter, ← raises_underway s₀ chunks scene]
  cases hraises : ((s₀.underway .streaming chunks scene).reaction chunk).raises with
  | none => rfl
  | some fault =>
      have hordinary : fault.isOrdinary = true :=
        raises_ordinary (s₀.underway .streaming chunks scene) h.handler chunk fault hraises
      obtain ⟨closed, hfail, hends⟩ :=
        fail_ordinary (h.underway .streaming (chunks ++ [chunk]) scene') rfl fault
      refine ⟨closed, ?_, hends.congr (by rfl) (by rfl)⟩
      dsimp only
      rw [settle, if_pos hordinary, hfail]

/-- **The loop over the chunks tells the handler what it hears.**  It takes all chunks unless
    the handler raises something, which ends the session. -/
theorem drain_underway {s₀ : Session} (h : s₀.Orderly) (chunks done : List PartialChunk)
    (taken : Nat) (scene : Scene) :
    ∃ scene' taken',
      Adds ((s₀.handler.hears (Reference.texts done).length (Reference.texts chunks)).1.map
        .partialText) scene scene'
      ∧ match (s₀.handler.hears (Reference.texts done).length (Reference.texts chunks)).2 with
        | none => drain chunks taken (s₀.underway .streaming done scene)
            = (.exhausted, taken', s₀.underway .streaming (done ++ chunks) scene')
        | some fault => ∃ closed,
            drain chunks taken (s₀.underway .streaming done scene) = (.left, taken', closed)
            ∧ { s₀ with scene := scene' }.EndsIn .failed (.failed s₀.exchange fault)
                (.failure fault) closed := by
  induction chunks generalizing done taken scene with
  | nil =>
      refine ⟨scene, taken, Adds.refl scene, ?_⟩
      rw [List.append_nil]
      rfl
  | cons chunk rest ih =>
      obtain ⟨between, hadds, hreceive⟩ := receive_underway h done scene chunk
      rw [← List.singleton_append, Reference.texts_append]
      cases hraises : (s₀.handler.hears (Reference.texts done).length
          (Reference.texts [chunk])).2 with
      | some fault =>
          rw [hraises] at hreceive
          obtain ⟨closed, hreceive, hends⟩ := hreceive
          -- the handler raised something: the session has ended and the loop is left
          rw [Handler.hears_append_some hraises, hraises, Handler.hears_chunk]
          refine ⟨between, taken + 1, hadds, closed, ?_, hends⟩
          rw [List.singleton_append, drain, hreceive]
          dsimp only
          rw [if_pos (hends.ended rfl)]
      | none =>
          -- it did not: the loop goes on from the state that the chunk led to
          rw [hraises] at hreceive
          obtain ⟨scene', taken', hrest, hdrain⟩ := ih (done ++ [chunk]) (taken + 1) between
          rw [Reference.texts_append, List.length_append] at hrest hdrain
          rw [Handler.hears_append_none hraises, List.map_append]
          refine ⟨scene', taken', hadds.trans hrest, ?_⟩
          have hstep : drain ([chunk] ++ rest) taken (s₀.underway .streaming done scene)
              = drain rest (taken + 1) (s₀.underway .streaming (done ++ [chunk]) between) := by
            rw [List.singleton_append, drain, hreceive]
            rfl
          rw [hstep, ← List.append_assoc]
          exact hdrain

-- ── The run of a session ───────────────────────────────────────────────────────────

/-- The stream's own end ends an open session: with the fault, if there is one, and else with
    what its chunks come to. -/
theorem settle_underway {s₀ : Session} (h : s₀.Orderly) (chunks : List PartialChunk)
    (scene : Scene) {fault : Option Fault} (hfault : ∀ f ∈ fault, f.isOrdinary = true) :
    ∃ closed, (s₀.underway .streaming chunks scene).settle fault = (.ok (), closed)
      ∧ closed.ended = true
      ∧ closed.scene.heard = scene.heard ++ s₀.exchange.ending s₀.listeners
          (Reference.failedOr fault
            ((s₀.underway .streaming chunks scene).concluded chunks)) := by
  have hsame : (s₀.underway .streaming chunks scene).Orderly := h.underway _ _ _
  cases fault with
  | some fault =>
      obtain ⟨closed, hfail, hends⟩ := fail_ordinary hsame rfl fault
      refine ⟨closed, ?_, hends.ended rfl, hends.heard⟩
      rw [settle, if_pos (hfault fault rfl), hfail]
  | none =>
      obtain ⟨closed, hcomplete, ⟨response, hok, hends⟩ | ⟨fault, herror, hends⟩⟩ :=
        complete_ordinary hsame rfl rfl
      · refine ⟨closed, hcomplete, hends.ended rfl, ?_⟩
        obtain ⟨hresponse, -, -⟩ := Accumulator.concluded_ok hok
        have hknown : { response with id := lastSpoken (chunks.map (·.id)) } = response := by
          rw [hresponse]; rfl
        have hheard := hends.heard
        dsimp only [underway] at hheard
        rw [hknown] at hheard
        rw [hok, hheard]
        rfl
      · refine ⟨closed, hcomplete, hends.ended rfl, ?_⟩
        rw [herror, hends.heard]
        rfl

/-- Closing a stream changes nothing that was decided, and tells nobody anything. -/
theorem closeStream_ordinary (s : Session) (outcome : Outcome Unit) {fault : Option Fault}
    (h : ∀ f ∈ fault, f.isOrdinary = true) :
    ∃ s', s.closeStream outcome fault = (outcome, s') ∧ s'.scene.heard = s.scene.heard := by
  cases fault with
  | none => exact ⟨s, rfl, rfl⟩
  | some fault =>
      rw [closeStream, if_pos (h fault rfl)]
      exact ⟨_, rfl, rfl⟩

end Session

/-- What a stream raises, at its end and when it is closed, is ordinary. -/
structure PullStream.Ordinary (stream : PullStream) : Prop where
  ending : ∀ fault ∈ stream.ending, fault.isOrdinary = true
  closing : ∀ fault ∈ stream.closing, fault.isOrdinary = true

theorem PullStream.Ordinary.lastFault {stream : PullStream} (h : stream.Ordinary) :
    ∀ fault ∈ stream.lastFault, fault.isOrdinary = true :=
  fun fault hfault => (mem_lastFault hfault).elim (h.closing fault) (h.ending fault)

/-- What comes of opening a stream is ordinary: the fault, or the stream. -/
def PullStream.Opens : Outcome PullStream → Prop
  | .error fault => fault.isOrdinary = true
  | .ok stream => stream.Ordinary

namespace Session

/-- **A session that pulls a stream has its reference run.** -/
theorem pull_underway {s₀ : Session} (h : s₀.Orderly) (scene : Scene)
    {opened : Outcome PullStream} (hopened : PullStream.Opens opened) :
    ∃ report s', (s₀.underway .requesting [] scene).pull opened = (.ok (), report, s')
      ∧ s'.scene.heard = scene.heard
          ++ (Reference.pulled s₀.handler opened
              (s₀.underway .streaming [] scene).concluded).1.map .partialText
          ++ s₀.exchange.ending s₀.listeners (Reference.pulled s₀.handler opened
              (s₀.underway .streaming [] scene).concluded).2 := by
  have hstart : (s₀.underway .requesting [] scene).start = s₀.underway .streaming [] scene := rfl
  rw [pull.eq_def, hstart]
  cases opened with
  | error fault =>
      obtain ⟨closed, hsettle, -, hheard⟩ :=
        settle_underway h [] scene (Fault.ordinary_some hopened)
      refine ⟨none, closed, ?_, ?_⟩
      · dsimp only
        rw [hsettle]
      · rw [hheard, Reference.pulled, List.map_nil, List.append_nil]
        rfl
  | ok stream =>
      obtain ⟨scene', taken, hadds, hdrain⟩ := drain_underway h stream.chunks [] 0 scene
      rw [show (Reference.texts []).length = 0 from rfl] at hadds hdrain
      dsimp only [Reference.pulled]
      rw [← hadds.heard, pullStream_eq]
      cases hraised : (s₀.handler.hears 0 (Reference.texts stream.chunks)).2 with
      | some fault =>
          rw [hraised] at hdrain
          obtain ⟨closed, hdrain, hends⟩ := hdrain
          obtain ⟨s', hclose, hsame⟩ := closed.closeStream_ordinary (.ok ()) hopened.closing
          refine ⟨some ⟨taken, stream.closings⟩, s', ?_, ?_⟩
          · -- the completion that follows the loop finds the session ended
            rw [hdrain]
            dsimp only
            rw [complete_ended (hends.ended rfl), hclose]
          · rw [hsame, hends.heard]
            rfl
      | none =>
          rw [hraised] at hdrain
          rw [List.nil_append] at hdrain
          obtain ⟨closed, hsettle, -, hheard⟩ :=
            settle_underway h stream.chunks scene' hopened.lastFault
          have hclosing : ∀ f ∈ (if stream.closesItself then none else stream.closing),
              f.isOrdinary = true := by
            intro f hf
            split at hf
            · exact nomatch hf
            · exact hopened.closing f hf
          obtain ⟨s', hclose, hsame⟩ := closed.closeStream_ordinary (.ok ()) hclosing
          refine ⟨some ⟨taken, stream.closings⟩, s', ?_, ?_⟩
          · rw [hdrain]
            dsimp only
            rw [hsettle]
            dsimp only
            rw [hclose]
          · -- telling the handler counts nothing, so the estimate is the one for the start
            have hcount : (s₀.underway .streaming stream.chunks scene').concluded stream.chunks
                = (s₀.underway .streaming [] scene).concluded stream.chunks := by
              rw [concluded, concluded]
              show (Reference.concluded _ _ _ { scene'.tally with log := [] }).1
                = (Reference.concluded _ _ _ { scene.tally with log := [] }).1
              rw [hadds.tally]
              rfl
            rw [hsame, hheard, hcount]
            rfl

end Session

-- ── The run of a request ───────────────────────────────────────────────────────────

namespace Client

/-- Checking and counting a request tells nobody anything. -/
theorem prepare_timeline (c : Client) (r : ChatRequest) (scene : Scene) :
    (c.prepare r scene).2.timeline = scene.timeline := by
  rw [prepare]
  dsimp only
  split
  · rfl
  · rfl

/-- What opening a transport reports tells nobody anything. -/
theorem adds_reportAll (scene : Scene) (log : List LogRecord) :
    Adds [] scene (log.foldl Scene.report scene) := by
  induction log generalizing scene with
  | nil => exact Adds.refl scene
  | cons record rest ih => exact (Adds.report scene record).trans (ih (scene.report record))

/-- A prepared request runs an orderly session, once its start was told. -/
theorem chat_underway {c : Client} {r : ChatRequest} {handler : Handler}
    {scene counted : Scene} {p : Prepared} (hprepare : c.prepare r scene = (.ok p, counted))
    (hlisteners : ∀ l ∈ c.listeners, l.Ordinary) (hestimator : c.estimator.Ordinary)
    (hhandler : handler.Ordinary) (number : Nat) :
    (c.session p handler number counted).Orderly
      ∧ ∃ told, Adds (Listener.round
          (.started (c.session p handler number counted).exchange) c.listeners) counted.unmarked
          told
        ∧ ∀ transport, c.chat transport r handler number scene
          = run transport p.options (c.announce p transport.mode
              ((c.session p handler number counted).underway .requesting [] told)) := by
  have horderly : (c.session p handler number counted).Orderly := by
    refine ⟨hlisteners, hhandler, ?_⟩
    rintro e ⟨⟩
    exact hestimator
  obtain ⟨told, htell, hround⟩ :=
    @Session.tell_ordinary (c.session p handler number counted) hlisteners
      (.started (c.session p handler number counted).exchange) rfl
  refine ⟨horderly, told, hround, fun transport => ?_⟩
  rw [chat, hprepare]
  dsimp only
  rw [htell]
  rfl

/-- What a request is told that is prepared and pulls its stream. -/
theorem chat_pulled {c : Client} {opening : Options → Opening PullStream} {r : ChatRequest}
    {handler : Handler} {scene counted : Scene} {p : Prepared}
    (hprepare : c.prepare r scene = (.ok p, counted))
    (hlisteners : ∀ l ∈ c.listeners, l.Ordinary) (hhandler : handler.Ordinary)
    (hestimator : c.estimator.Ordinary)
    (hopening : PullStream.Opens (opening p.options).outcome) (number : Nat) {x : Exchange}
    (hx : x = ⟨p.request, c.provider, number, number⟩) :
    ∃ report told, c.chat (.pull opening) r handler number scene = (.ok (), report)
      ∧ told = Reference.pulled handler (opening p.options).outcome (fun chunks =>
          Reference.billed chunks c.estimator p.inputTokens { counted.tally with log := [] })
      ∧ report.asked = some p.options
      ∧ report.scene.heard = scene.heard ++ Listener.round (.started x) c.listeners
          ++ told.1.map .partialText ++ x.ending c.listeners told.2 := by
  subst hx
  obtain ⟨horderly, told, hround, hrun⟩ :=
    chat_underway hprepare hlisteners hestimator hhandler number
  -- between the round of listeners and the stream there are reports only
  obtain ⟨opened, hopened, hlog⟩ : ∃ opened,
      reportAll (c.announce p .sync
          ((c.session p handler number counted).underway .requesting [] told))
          (opening p.options).log
        = (c.session p handler number counted).underway .requesting [] opened
      ∧ Adds [] told opened :=
    ⟨_, rfl, (Adds.report told _).trans (adds_reportAll _ _)⟩
  obtain ⟨pulled, s', hpull, hheard⟩ := Session.pull_underway horderly opened hopening
  have hcounts : ((c.session p handler number counted).underway .streaming [] opened).concluded
      = fun chunks => Reference.billed chunks c.estimator p.inputTokens
          { counted.tally with log := [] } := by
    funext chunks
    have htally : opened.tally = counted.tally := hlog.tally.trans hround.tally
    rw [← Reference.concluded_int, ← htally]
    rfl
  have hbefore : counted.heard = scene.heard := by
    have htimeline := c.prepare_timeline r scene
    rw [hprepare] at htimeline
    exact congrArg (List.map Entry.bare) htimeline
  refine ⟨⟨some p.options, pulled, s'.scene⟩, _, ?_, rfl, rfl, ?_⟩
  · rw [hrun, run]
    dsimp only [Transport.mode]
    rw [hopened, hpull]
  · rw [hcounts] at hheard
    rw [hheard, hlog.heard, hround.heard, List.append_nil]
    show counted.heard ++ _ ++ _ ++ _ = _
    rw [hbefore]
    rfl

/-- **A REQUEST OVER A STREAM TO PULL FROM HAS ITS REFERENCE RUN.**  Once it is checked, merged
    with the defaults and counted, a request comes to an end.  Its listeners are told of it as it
    was merged, its handler hears the texts of the stream up to the first over which it raises
    something, and then listeners and handler are told of one outcome: the first failure, or the
    response of all chunks with the count that was made for the request, which is that of its
    messages. -/
theorem chat_pull_reference {c : Client} {opening : Options → Opening PullStream}
    {r : ChatRequest} {handler : Handler} {scene counted : Scene} {p : Prepared}
    (hprepare : c.prepare r scene = (.ok p, counted))
    (hlisteners : ∀ l ∈ c.listeners, l.Ordinary) (hhandler : handler.Ordinary)
    (hestimator : c.estimator.Ordinary)
    (hopening : PullStream.Opens (opening p.options).outcome) (number : Nat) :
    ∃ report x told,
      c.chat (.pull opening) r handler number scene = (.ok (), report)
      ∧ c.Settles r p.options ∧ p.request = sentRequest r p.options
      ∧ scene.counting (c.estimator.countMessages r.messages) = (.ok p.inputTokens, counted)
      ∧ x = Exchange.mk p.request c.provider number number
      ∧ told = Reference.pulled handler (opening p.options).outcome (fun chunks =>
          Reference.billed chunks c.estimator p.inputTokens { counted.tally with log := [] })
      ∧ report.asked = some p.options
      ∧ report.scene.heard = scene.heard ++ Listener.round (.started x) c.listeners
          ++ told.1.map .partialText ++ x.ending c.listeners told.2 := by
  obtain ⟨hsettles, hrequest, hcount⟩ := prepare_eq_ok.mp hprepare
  obtain ⟨report, told, hchat, htold, hasked, hheard⟩ :=
    chat_pulled hprepare hlisteners hhandler hestimator hopening number rfl
  exact ⟨report, _, told, hchat, hsettles, hrequest, hcount, rfl, htold, hasked, hheard⟩

-- ── A request whose handler fails ──────────────────────────────────────────────────

/-- A client that counts without a vocabulary. -/
def simple (listeners : List Listener) : Client :=
  { deployment := .str "d"
    estimator := .custom (fun _ => .ok 1) (fun _ => .ok 7) (fun _ => .ok 1)
    listeners
    format := none
    strictSchema := .bool false
    provider := .openAI
    defaults := .none }

/-- A request with one message. -/
def greeting : ChatRequest :=
  { (default : ChatRequest) with messages := [⟨.user, some "hi", none, none, []⟩] }

/-- A handler that raises something over its second text and at every ending. -/
def fickle : Handler :=
  ⟨fun n => if n = 1 then ⟨[], some .wrongValue⟩ else .none, some .wrongType, some .wrongType⟩

theorem fickle_ordinary : fickle.Ordinary where
  onPartial n fault hfault := by
    by_cases hn : n = 1
    · simp only [fickle, hn, if_true, Option.mem_def, Option.some.injEq] at hfault
      rw [← hfault]
      rfl
    · simp [fickle, hn, Reaction.none] at hfault
  onComplete fault hfault := by rw [← Option.some.inj hfault]; rfl
  onError fault hfault := by rw [← Option.some.inj hfault]; rfl

theorem simple_ordinary (listeners : List Listener) : (simple listeners).estimator.Ordinary :=
  ⟨fun _ _ hfault => (nomatch hfault), fun _ _ hfault => (nomatch hfault)⟩

/-- The fickle handler hears two of three texts. -/
theorem chat_pull_reference_fickle :
    ∃ report x, (simple [.observer .surly, .silent]).chat
        (.pull fun _ => ⟨[], .ok
          { chunks := ["a", "b", "c"].map fun s => ⟨some s, none, none, none, none, []⟩
            ending := some .wrongType
            closesItself := false
            closable := true
            closeFault := some .wrongValue }⟩)
        greeting fickle 0 (.fresh []) = (.ok (), report)
      ∧ report.scene.heard
        = [.notice 0 "surly" (.started x) [], .partialText "a", .partialText "b",
            .notice 0 "surly" (.failed x .wrongValue) [], .failure .wrongValue] := by
  have hordinary : ∀ f : Fault, f ∈ some Fault.wrongType ∨ f ∈ some Fault.wrongValue →
      f.isOrdinary = true := by
    rintro f (hf | hf)
    · rw [← Option.some.inj hf]; rfl
    · rw [← Option.some.inj hf]; rfl
  obtain ⟨report, x, told, hchat, -, -, -, -, htold, -, hheard⟩ :=
    @chat_pull_reference (simple [.observer .surly, .silent])
      (fun _ => ⟨[], .ok
          { chunks := ["a", "b", "c"].map fun s => ⟨some s, none, none, none, none, []⟩
            ending := some .wrongType
            closesItself := false
            closable := true
            closeFault := some .wrongValue }⟩)
      greeting fickle (.fresh []) _ _ rfl Observer.surly_ordinary fickle_ordinary
      (simple_ordinary _)
      ⟨fun f hf => hordinary f (Or.inl hf), fun f hf => hordinary f (Or.inr hf)⟩ 0
  refine ⟨report, x, hchat, ?_⟩
  rw [hheard, htold]
  rfl

end Client

end CompletionStream
