import CompletionStream.Proofs.Session.Intake

/-!
# Any order — a session ends at most once, whatever it is sent

Signals may come in any order and any number, and a handler that is told of some text may send
further signals itself, nested to any depth, before it returns or raises.  The `moments` of a run
are the chunks that a session takes in meanwhile and the endings that it meets, each of these with
the session that met it.

The invariant is `Course`: a session is open, has met no ending and has told its handler of the
texts of its chunks; or it has ended, with one verdict over them.  Then it was the first ending
that it met which turned it, and all others came late.  A step keeps the course if the handler's
own steps do (`keeps_next`), so every depth keeps it (`keeps_step`), and so does every list of
signals (`Keeps.performAll`).  Once a session has ended nothing moves it (`performAll_ended`).
-/

namespace CompletionStream

open Scene (Adds)

/-- Whether a signal is a step of the stream: its start, a chunk, or its ending. -/
def Signal.IsStep : Signal → Prop
  | .rename _ => False
  | .start | .next _ | .complete | .error _ => True

/-- The handler sends steps of the stream only. -/
def Handler.SendsSteps (handler : Handler) : Prop :=
  ∀ n, ∀ signal ∈ (handler.onPartial n).signals, signal.IsStep

namespace Session

/-- What the handler sends over a chunk are steps of the stream. -/
theorem reaction_sends (s : Session) (h : s.handler.SendsSteps) (chunk : PartialChunk) :
    ∀ signal ∈ (s.reaction chunk).signals, signal.IsStep := by
  intro signal hsignal
  rw [reaction] at hsignal
  split at hsignal
  · exact absurd hsignal List.not_mem_nil
  · exact h _ signal hsignal

-- ── After the ending ───────────────────────────────────────────────────────────────

/-- **A session that has ended stays as it is**, whatever it is sent. -/
theorem step_ended {s : Session} (h : s.ended = true) (depth : Nat) (signal : Signal) :
    ∃ s', s.step depth signal = (.ok (), s') ∧ s'.phase = s.phase
      ∧ s'.scene.timeline = s.scene.timeline := by
  have hphase (phase : Phase) (hgoing : phase.ended = false) : s.phase ≠ phase := by
    rintro rfl
    exact Bool.false_ne_true (hgoing.symm.trans h)
  have hnext (perform : Session → Signal → Outcome Unit × Session) (chunk : PartialChunk) :
      s.next perform chunk = (.ok (), s) :=
    next_ignored (hphase .streaming rfl) perform chunk
  cases signal with
  | start =>
      have hstart : s.start = s := by rw [start, if_neg (hphase .requesting rfl)]
      exact ⟨s, by rw [step, hstart], rfl, rfl⟩
  | complete => exact ⟨s, by rw [step, complete_ended h], rfl, rfl⟩
  | error fault =>
      have hstep : s.step depth (.error fault) = s.fail fault := by rw [step]
      exact ⟨_, hstep.trans (fail_ended h fault), rfl, rfl⟩
  | rename id =>
      have hstep : s.step depth (.rename id) = (.ok (), { s with responseId := id }) := by
        rw [step]
      exact ⟨_, hstep, rfl, rfl⟩
  | next chunk =>
      cases depth with
      | zero => exact ⟨s, by rw [step, hnext], rfl, rfl⟩
      | succ depth => exact ⟨s, by rw [step, hnext], rfl, rfl⟩

theorem performAll_ended {s : Session} (h : s.ended = true) (depth : Nat)
    (signals : List Signal) :
    ∃ s', performAll (step depth) signals s = (.ok (), s') ∧ s'.phase = s.phase
      ∧ s'.scene.timeline = s.scene.timeline := by
  induction signals generalizing s with
  | nil => exact ⟨s, rfl, rfl, rfl⟩
  | cons signal rest ih =>
      obtain ⟨between, hstep, hphase, htimeline⟩ := step_ended h depth signal
      have hended : between.ended = true := by rw [ended, hphase]; exact h
      obtain ⟨s', hrest, hphase', htimeline'⟩ := ih hended
      refine ⟨s', ?_, hphase'.trans hphase, htimeline'.trans htimeline⟩
      rw [performAll, hstep]
      exact hrest

end Session

-- ── The moments of a run ───────────────────────────────────────────────────────────

/-- How a stream ends: of itself, or with a failure. -/
inductive Ending where
  | complete
  | failure (fault : Fault)

/-- A session meets an ending. -/
def Session.meet (s : Session) : Ending → Outcome Unit × Session
  | .complete => s.complete
  | .failure fault => s.fail fault

/-- What happens to a session: it takes a chunk in, or it meets an ending. -/
inductive Moment where
  | taken (chunk : PartialChunk)
  | met (before : Session) (ending : Ending)

namespace Moment

/-- The chunks that are taken in, in this order. -/
def chunks (moments : List Moment) : List PartialChunk :=
  moments.filterMap fun
    | .taken chunk => some chunk
    | .met _ _ => none

/-- The endings that are met, each with the session that meets it. -/
def endings (moments : List Moment) : List (Session × Ending) :=
  moments.filterMap fun
    | .taken _ => none
    | .met before ending => some (before, ending)

theorem chunks_append (first second : List Moment) :
    chunks (first ++ second) = chunks first ++ chunks second :=
  List.filterMap_append

theorem endings_append (first second : List Moment) :
    endings (first ++ second) = endings first ++ endings second :=
  List.filterMap_append

/-- No chunk is taken in where an ending is met. -/
theorem chunks_met (moments : List Moment) (before : Session) (ending : Ending) :
    chunks (moments ++ [.met before ending]) = chunks moments := by
  rw [chunks_append]
  exact List.append_nil _

end Moment

namespace Session

/-- The moments of signals that are performed until one of them is interrupted. -/
def momentsAll (perform : Session → Signal → Outcome Unit × Session)
    (moments : Session → Signal → List Moment) : List Signal → Session → List Moment
  | [], _ => []
  | signal :: rest, s =>
    moments s signal ++
      match perform s signal with
      | (.ok (), s) => momentsAll perform moments rest s
      | (.error _, _) => []

/-- A session that streams takes a chunk in.  Then comes what its handler sends meanwhile, and a
    failure if anything was raised. -/
def momentsNext (perform : Session → Signal → Outcome Unit × Session)
    (moments : Session → Signal → List Moment) (s : Session) (chunk : PartialChunk) :
    List Moment :=
  if s.phase = .streaming then
    .taken chunk :: momentsAll perform moments (s.reaction chunk).signals (s.after chunk) ++
      match s.attempt perform chunk with
      | (.ok (), _) => []
      | (.error fault, between) =>
        if fault.isOrdinary then [.met between (.failure fault)] else []
  else []

/-- The moments of a step, in order. -/
def moments : Nat → Session → Signal → List Moment
  | _, _, .start | _, _, .rename _ => []
  | _, s, .complete => [.met s .complete]
  | _, s, .error fault => [.met s (.failure fault)]
  | 0, s, .next chunk => s.momentsNext (fun s _ => (.error tooDeep, s)) (fun _ _ => []) chunk
  | depth + 1, s, .next chunk => s.momentsNext (step depth) (moments depth) chunk

-- ── The course of a session ────────────────────────────────────────────────────────

/-- What an ended session says of its chunks: it is completed with the response that they add
    up to, or it has failed. -/
inductive Verdict (x : Exchange) (chunks : List PartialChunk) : Phase → Event → Entry → Prop
  | completed (response : Response) (usage : TokenUsage)
      (hresponse : response = Reference.response chunks usage)
      (hcontent : response.content = String.join (Reference.texts chunks)) :
      Verdict x chunks .completed (.completed x response) (.completion response)
  | failed (fault : Fault) : Verdict x chunks .failed (.failed x fault) (.failure fault)

/-- A session that has taken in chunks has ended: an open one met the first ending of all,
    turned to its verdict and closed, and nothing was added since then. -/
structure Over (s₀ : Session) (moments : List Moment) (s : Session) (event : Event)
    (entry : Entry) (before : Session) (ending : Ending) (late : List (Session × Ending))
    (closed : Session) : Prop where
  endings : Moment.endings moments = (before, ending) :: late
  late : ∀ later ∈ late, later.1.ended = true
  underway : ∃ phase scene, phase.ended = false
    ∧ Adds ((Reference.texts (Moment.chunks moments)).map .partialText) s₀.scene scene
    ∧ before = s₀.underway phase (Moment.chunks moments) scene
  met : before.meet ending = (.ok (), closed)
  ends : before.EndsIn s.phase event entry closed
  verdict : Verdict s₀.exchange (Moment.chunks moments) s.phase event entry
  timeline : s.scene.timeline = closed.scene.timeline

/-- Where a session stands that was set up like `s₀` and has gone through these moments. -/
inductive Course (s₀ : Session) (moments : List Moment) (s : Session) : Prop
  /-- It is open: it has met no ending, and the handler was told of the texts of the chunks and
      of nothing else. -/
  | underway (phase : Phase) (scene : Scene) (hopen : phase.ended = false)
      (hendings : Moment.endings moments = [])
      (hadds : Adds ((Reference.texts (Moment.chunks moments)).map .partialText) s₀.scene scene)
      (hstate : s = s₀.underway phase (Moment.chunks moments) scene)
  | ended (event : Event) (entry : Entry) (before : Session) (ending : Ending)
      (late : List (Session × Ending)) (closed : Session)
      (hover : Over s₀ moments s event entry before ending late closed)

theorem Verdict.final {x : Exchange} {chunks : List PartialChunk} {phase : Phase}
    {event : Event} {entry : Entry} (h : Verdict x chunks phase event entry) :
    phase.ended = true := by
  cases h <;> rfl

namespace Course

variable {s₀ s : Session} {moments : List Moment}

/-- A session that is set up has gone through nothing. -/
theorem refl (s₀ : Session) (hopen : s₀.ended = false)
    (hfresh : s₀ = s₀.underway s₀.phase [] s₀.scene) : Course s₀ [] s₀ :=
  .underway s₀.phase s₀.scene hopen rfl (Adds.refl s₀.scene) hfresh

/-- The course of an ended session is its phase and its timeline, and an ending that it meets
    comes late. -/
theorem congr (h : Course s₀ moments s) (hended : s.ended = true) {s' : Session}
    (hphase : s'.phase = s.phase) (htimeline : s'.scene.timeline = s.scene.timeline)
    (ending : Ending) : Course s₀ (moments ++ [.met s ending]) s' := by
  cases h with
  | underway phase scene hopen _ _ hstate =>
      rw [hstate] at hended
      exact absurd (hopen.symm.trans hended) Bool.false_ne_true
  | ended event entry before first late closed hover =>
      refine .ended event entry before first (late ++ [(s, ending)]) closed ⟨?_, ?_, ?_,
        hover.met, hphase ▸ hover.ends, ?_, htimeline.trans hover.timeline⟩
      · rw [Moment.endings_append, hover.endings]
        rfl
      · intro later hlater
        rcases List.mem_append.mp hlater with hearlier | hlast
        · exact hover.late later hearlier
        · rw [List.mem_singleton.mp hlast]
          exact hended
      · rw [Moment.chunks_met]
        exact hover.underway
      · rw [Moment.chunks_met, hphase]
        exact hover.verdict

/-- An open session has met no ending and is known from the chunks it took in. -/
theorem open_underway (h : Course s₀ moments s) (hopen : s.ended = false) :
    ∃ phase scene, phase.ended = false ∧ Moment.endings moments = []
      ∧ Adds ((Reference.texts (Moment.chunks moments)).map .partialText) s₀.scene scene
      ∧ s = s₀.underway phase (Moment.chunks moments) scene := by
  cases h with
  | underway phase scene hphase hendings hadds hstate =>
      exact ⟨phase, scene, hphase, hendings, hadds, hstate⟩
  | ended event entry before ending late closed hover =>
      rw [Session.ended, hover.verdict.final] at hopen
      cases hopen

/-- A session that streams is open. -/
theorem streaming (h : Course s₀ moments s) (hphase : s.phase = .streaming) :
    ∃ scene, Moment.endings moments = []
      ∧ Adds ((Reference.texts (Moment.chunks moments)).map .partialText) s₀.scene scene
      ∧ s = s₀.underway .streaming (Moment.chunks moments) scene := by
  have hopen : s.ended = false := by
    rw [Session.ended, hphase]
    rfl
  obtain ⟨phase, scene, -, hendings, hadds, hstate⟩ := h.open_underway hopen
  subst hstate
  exact ⟨scene, hendings, hadds,
    congrArg (s₀.underway · (Moment.chunks moments) scene) hphase⟩

/-- **The first ending that an open session meets ends it.** -/
theorem meets {phase : Phase} {scene : Scene} (hopen : phase.ended = false)
    (hendings : Moment.endings moments = [])
    (hadds : Adds ((Reference.texts (Moment.chunks moments)).map .partialText) s₀.scene scene)
    {ending : Ending} {event : Event} {entry : Entry} {closed : Session}
    (hmeet : (s₀.underway phase (Moment.chunks moments) scene).meet ending = (.ok (), closed))
    (hends : (s₀.underway phase (Moment.chunks moments) scene).EndsIn closed.phase event entry
      closed)
    (hverdict : Verdict s₀.exchange (Moment.chunks moments) closed.phase event entry) :
    Course s₀ (moments ++ [.met (s₀.underway phase (Moment.chunks moments) scene) ending])
      closed := by
  refine .ended event entry _ ending [] closed ⟨?_, ?_, ?_, hmeet, hends, ?_, rfl⟩
  · rw [Moment.endings_append, hendings]
    rfl
  · exact fun _ hlater => absurd hlater List.not_mem_nil
  · rw [Moment.chunks_met]
    exact ⟨phase, scene, hopen, hadds, rfl⟩
  · rw [Moment.chunks_met]
    exact hverdict

/-- A failure keeps the course. -/
theorem fail (horderly : s₀.Orderly) (h : Course s₀ moments s) (fault : Fault) :
    ∃ s', s.fail fault = (.ok (), s')
      ∧ Course s₀ (moments ++ [.met s (.failure fault)]) s' := by
  cases hended : s.ended with
  | true =>
      obtain ⟨s', hfail, hphase, htimeline⟩ := step_ended hended 0 (.error fault)
      exact ⟨s', hfail, h.congr hended hphase htimeline _⟩
  | false =>
      obtain ⟨phase, scene, hopen, hendings, hadds, hstate⟩ := h.open_underway hended
      subst hstate
      obtain ⟨closed, hfail, hends⟩ := fail_ordinary (horderly.underway _ _ _) hopen fault
      refine ⟨closed, hfail, meets hopen hendings hadds hfail (hends.final ▸ hends) ?_⟩
      rw [hends.final]
      exact .failed fault

/-- A completion keeps the course. -/
theorem complete (horderly : s₀.Orderly) (h : Course s₀ moments s) :
    ∃ s', s.complete = (.ok (), s') ∧ Course s₀ (moments ++ [.met s .complete]) s' := by
  cases hended : s.ended with
  | true => exact ⟨s, complete_ended hended, h.congr hended rfl rfl _⟩
  | false =>
      obtain ⟨phase, scene, hopen, hendings, hadds, hstate⟩ := h.open_underway hended
      subst hstate
      obtain ⟨closed, hcomplete, ⟨response, hok, hends⟩ | ⟨fault, -, hends⟩⟩ :=
        complete_ordinary (horderly.underway _ _ _) hopen rfl
      · obtain ⟨hresponse, -, -⟩ := Accumulator.concluded_ok hok
        -- the id that the session noted is the one that its chunks give
        have hknown : { response with id := lastSpoken ((Moment.chunks moments).map (·.id)) }
            = Reference.response (Moment.chunks moments) response.usage := by
          rw [hresponse]
          rfl
        have hcontent : response.content
            = String.join (Reference.texts (Moment.chunks moments)) := by
          rw [← Reference.content_eq_join, hresponse]
          rfl
        refine ⟨closed, hcomplete, meets hopen hendings hadds hcomplete (hends.final ▸ hends) ?_⟩
        rw [hends.final]
        exact .completed _ response.usage hknown hcontent
      · refine ⟨closed, hcomplete, meets hopen hendings hadds hcomplete (hends.final ▸ hends) ?_⟩
        rw [hends.final]
        exact .failed fault

/-- A start keeps the course. -/
theorem start (h : Course s₀ moments s) : Course s₀ moments s.start := by
  rw [Session.start]
  split
  · rename_i hphase
    have hopen : s.ended = false := by
      rw [Session.ended, hphase]
      rfl
    obtain ⟨phase, scene, -, hendings, hadds, hstate⟩ := h.open_underway hopen
    subst hstate
    exact .underway .streaming scene rfl hendings hadds rfl
  · exact h

end Course

-- ── Steps ──────────────────────────────────────────────────────────────────────────

/-- What performs signals keeps the course of a session, and raises these faults only. -/
def Keeps (s₀ : Session) (raises : Fault → Prop)
    (perform : Session → Signal → Outcome Unit × Session)
    (occurs : Session → Signal → List Moment) : Prop :=
  ∀ moments s signal, signal.IsStep → Course s₀ moments s →
    ∃ outcome s', perform s signal = (outcome, s')
      ∧ (∀ fault, outcome = .error fault → raises fault)
      ∧ Course s₀ (moments ++ occurs s signal) s'

section

variable {s₀ : Session} {raises : Fault → Prop}
  {perform : Session → Signal → Outcome Unit × Session}
  {occurs : Session → Signal → List Moment}

theorem Keeps.performAll (h : Keeps s₀ raises perform occurs) {signals : List Signal}
    (hsteps : ∀ signal ∈ signals, signal.IsStep) {moments : List Moment} {s : Session}
    (hs : Course s₀ moments s) :
    ∃ outcome s', performAll perform signals s = (outcome, s')
      ∧ (∀ fault, outcome = .error fault → raises fault)
      ∧ Course s₀ (moments ++ momentsAll perform occurs signals s) s' := by
  induction signals generalizing moments s with
  | nil =>
      refine ⟨.ok (), s, rfl, fun _ hfault => (nomatch hfault), ?_⟩
      rw [momentsAll, List.append_nil]
      exact hs
  | cons signal rest ih =>
      obtain ⟨outcome, between, hperform, hraises, hbetween⟩ :=
        h moments s signal (hsteps signal List.mem_cons_self) hs
      rw [Session.performAll, momentsAll, hperform]
      cases outcome with
      | error fault =>
          refine ⟨.error fault, between, rfl, hraises, ?_⟩
          rw [List.append_nil]
          exact hbetween
      | ok u =>
          obtain ⟨outcome, s', hrest, hraises', hs'⟩ :=
            ih (fun signal hsignal => hsteps signal (List.mem_cons_of_mem _ hsignal)) hbetween
          refine ⟨outcome, s', hrest, hraises', ?_⟩
          rw [← List.append_assoc]
          exact hs'

/-- A chunk that a streaming session takes in keeps its course. -/
theorem Course.take {moments : List Moment} {s : Session} (h : Course s₀ moments s)
    (hphase : s.phase = .streaming) (chunk : PartialChunk) :
    Course s₀ (moments ++ [.taken chunk]) (s.after chunk) := by
  obtain ⟨scene, hendings, hadds, hstate⟩ := h.streaming hphase
  obtain ⟨scene', hafter, htexts⟩ :=
    after_underway s₀ .streaming (Moment.chunks moments) scene chunk
  rw [← hstate] at hafter
  have hchunks : Moment.chunks (moments ++ [.taken chunk]) = Moment.chunks moments ++ [chunk] :=
    Moment.chunks_append moments [.taken chunk]
  refine .underway .streaming scene' rfl ?_ ?_ (hchunks ▸ hafter)
  · rw [Moment.endings_append, hendings]
    rfl
  · rw [hchunks, Reference.texts_append, List.map_append]
    exact hadds.trans htexts

/-- **A chunk keeps the course if the handler's own steps do.** -/
theorem keeps_next (horderly : s₀.Orderly) (hsends : s₀.handler.SendsSteps)
    (h : Keeps s₀ raises perform occurs)
    (hraises : ∀ fault, raises fault → fault.isOrdinary = true) {moments : List Moment}
    {s : Session} (hs : Course s₀ moments s) (chunk : PartialChunk) :
    ∃ s', s.next perform chunk = (.ok (), s')
      ∧ Course s₀ (moments ++ s.momentsNext perform occurs chunk) s' := by
  by_cases hphase : s.phase = .streaming
  · obtain ⟨scene, -, -, hstate⟩ := hs.streaming hphase
    have hhandler : s.handler = s₀.handler := by rw [hstate]; rfl
    have hunfinished : s.accumulator.finalized = false := by
      rw [hstate]; exact underway_open _ _ _ _
    -- the chunk counts before the handler reacts, so the handler's own steps start from there
    obtain ⟨outcome, between, hperform, hfaults, hbetween⟩ :=
      h.performAll (s.reaction_sends (hhandler ▸ hsends) chunk) (hs.take hphase chunk)
    rw [List.append_assoc, List.singleton_append] at hbetween
    rw [next, momentsNext, if_pos hphase, if_pos hphase, attempt_open hunfinished, react,
      hperform]
    -- whatever is raised fails the session that the steps left, which may have ended already
    have hfails (fault : Fault) (hordinary : fault.isOrdinary = true) :
        ∃ s', (if fault.isOrdinary then between.fail fault else (.error fault, between))
            = (.ok (), s')
          ∧ Course s₀ (moments ++ (.taken chunk :: momentsAll perform occurs
              (s.reaction chunk).signals (s.after chunk)
                ++ if fault.isOrdinary then [.met between (.failure fault)] else [])) s' := by
      rw [if_pos hordinary, if_pos hordinary, ← List.append_assoc]
      exact hbetween.fail horderly fault
    cases outcome with
    | error fault => exact hfails fault (hraises fault (hfaults fault rfl))
    | ok u =>
        cases hfault : (s.reaction chunk).fault with
        | none =>
            refine ⟨between, rfl, ?_⟩
            rw [PullStream.outcomeOf, List.append_nil]
            exact hbetween
        | some fault =>
            exact hfails fault
              (s.reaction_ordinary (hhandler ▸ horderly.handler) chunk fault hfault)
  · refine ⟨s, next_ignored hphase perform chunk, ?_⟩
    rw [momentsNext, if_neg hphase, List.append_nil]
    exact hs

/-- A step keeps the course, and nothing escapes from it, if that holds of chunks. -/
theorem keeps_of_next (horderly : s₀.Orderly) {depth : Nat}
    (hnext : ∀ {earlier s}, Course s₀ earlier s → ∀ chunk,
      ∃ s', s.step depth (.next chunk) = (.ok (), s')
        ∧ Course s₀ (earlier ++ moments depth s (.next chunk)) s') :
    Keeps s₀ (fun _ => False) (step depth) (moments depth) := by
  intro earlier s signal hstep hs
  have hquiet (hdone : ∃ s', s.step depth signal = (.ok (), s')
      ∧ Course s₀ (earlier ++ moments depth s signal) s') :
      ∃ outcome s', s.step depth signal = (outcome, s')
        ∧ (∀ fault, outcome = .error fault → False)
        ∧ Course s₀ (earlier ++ moments depth s signal) s' := by
    obtain ⟨s', hdone, hs'⟩ := hdone
    exact ⟨.ok (), s', hdone, fun _ hfault => (nomatch hfault), hs'⟩
  apply hquiet
  cases signal with
  | next chunk => exact hnext hs chunk
  | start =>
      rw [step, moments, List.append_nil]
      exact ⟨s.start, rfl, hs.start⟩
  | complete =>
      rw [step, moments]
      exact hs.complete horderly
  | error fault =>
      rw [step, moments]
      exact hs.fail horderly fault
  | rename id => exact hstep.elim

/-- **Every step keeps the course**, however deep the handler's own steps may nest, and nothing
    escapes from it. -/
theorem keeps_step (horderly : s₀.Orderly) (hsends : s₀.handler.SendsSteps) (depth : Nat) :
    Keeps s₀ (fun _ => False) (step depth) (moments depth) := by
  induction depth with
  | zero =>
      -- at the limit a step is refused before it reaches the session
      have hdeep : Keeps s₀ (· = tooDeep) (fun s _ => (.error tooDeep, s)) (fun _ _ => []) := by
        intro moments s signal _ hs
        refine ⟨.error tooDeep, s, rfl, fun fault hfault => (Except.error.inj hfault).symm, ?_⟩
        rw [List.append_nil]
        exact hs
      have hordinary : ∀ fault, fault = tooDeep → fault.isOrdinary = true := by
        rintro fault rfl
        rfl
      exact keeps_of_next horderly fun hs chunk =>
        keeps_next horderly hsends hdeep hordinary hs chunk
  | succ depth ih =>
      exact keeps_of_next horderly fun hs chunk =>
        keeps_next horderly hsends ih (fun _ hfalse => hfalse.elim) hs chunk

end

/-- **A SESSION ENDS AT MOST ONCE.**  Whatever steps it is sent, in any order and nested to any
    depth, nothing escapes from them, and the handler was told of the texts of the chunks that
    were taken in.  Then either that is all, and no ending was met; or the session has ended.  It
    was the first ending met, by a session that had told of all these texts and was still open,
    which turned it to its final phase, before it told every listener once and then its handler,
    with one verdict over these chunks; and every other ending was met by a session that had
    ended.  Nothing is added any more and the phase stands from the turn on, whatever else it is
    sent. -/
theorem ends_at_most_once {handler : Handler} {listeners : List Listener}
    {estimator : Option Estimator} (hlisteners : ∀ l ∈ listeners, l.Ordinary)
    (hhandler : handler.Ordinary) (hsends : handler.SendsSteps)
    (hestimator : ∀ e ∈ estimator, e.Ordinary) (exchange : Exchange) (inputTokens : Value)
    (scene : Scene) (depth : Nat) {signals : List Signal}
    (hsteps : ∀ signal ∈ signals, signal.IsStep) :
    ∃ s run chunks texts,
      performAll (step depth) signals
          (fresh exchange handler listeners estimator inputTokens scene) = (.ok (), s)
      ∧ run = momentsAll (step depth) (moments depth) signals
          (fresh exchange handler listeners estimator inputTokens scene)
      ∧ chunks = Moment.chunks run
      ∧ texts = (Reference.texts chunks).map Entry.partialText
      ∧ ((s.ended = false ∧ s.scene.heard = scene.heard ++ texts ∧ Moment.endings run = [])
        ∨ ∃ event entry,
          Verdict exchange chunks s.phase event entry
          ∧ s.scene.heard = scene.heard ++ texts ++ (Listener.round event listeners ++ [entry])
          ∧ (∃ (before turned closed : Session) (ending : Ending)
              (late : List (Session × Ending)) (callback : String)
              (raised : Handler → Option Fault),
              Moment.endings run = (before, ending) :: late
              ∧ (∀ later ∈ late, later.1.ended = true)
              ∧ before.ended = false ∧ before.scene.heard = scene.heard ++ texts
              ∧ turned.phase = s.phase ∧ turned.scene.timeline = before.scene.timeline
              ∧ before.meet ending = turned.close event entry callback raised
              ∧ turned.close event entry callback raised = (.ok (), closed)
              ∧ s.scene.timeline = closed.scene.timeline
              ∧ ∀ deeper more, ∃ s', performAll (step deeper) more turned = (.ok (), s')
                  ∧ s'.phase = s.phase ∧ s'.scene.timeline = before.scene.timeline)
          ∧ ∀ deeper more, ∃ s', performAll (step deeper) more s = (.ok (), s')
              ∧ s'.phase = s.phase ∧ s'.scene.timeline = s.scene.timeline) := by
  have horderly : (fresh exchange handler listeners estimator inputTokens scene).Orderly :=
    ⟨hlisteners, hhandler, hestimator⟩
  obtain ⟨outcome, s, hrun, hquiet, hcourse⟩ :=
    (keeps_step horderly hsends depth).performAll hsteps
      (Course.refl _ rfl (fresh_underway exchange handler listeners estimator inputTokens scene))
  rw [List.nil_append] at hcourse
  refine ⟨s, _, _, _, ?_, rfl, rfl, rfl, ?_⟩
  · cases outcome with
    | ok u => exact hrun
    | error fault => exact (hquiet fault rfl).elim
  · cases hcourse with
    | underway phase scene' hopen hendings hadds hstate =>
        subst hstate
        exact Or.inl ⟨hopen, hadds.heard, hendings⟩
    | ended event entry before ending late closed hover =>
        obtain ⟨phase, scene', hopen, hadds, rfl⟩ := hover.underway
        obtain ⟨turned, callback, raised, hfinal, hbefore, hclose⟩ := hover.ends.turned
        have hheard : s.scene.heard = closed.scene.heard :=
          congrArg (List.map Entry.bare) hover.timeline
        have hturned : turned.ended = true := by
          rw [Session.ended, hfinal]
          exact hover.verdict.final
        refine Or.inr ⟨event, entry, hover.verdict, ?_, ⟨_, turned, closed, ending, late, callback,
          raised, hover.endings, hover.late, hopen, hadds.heard, hfinal, hbefore,
          hover.met.trans hclose.symm, hclose, hover.timeline, ?_⟩, ?_⟩
        · rw [hheard, hover.ends.heard]
          exact congrArg (· ++ _) hadds.heard
        · intro deeper more
          obtain ⟨s', hmore, hphase, htimeline⟩ := performAll_ended hturned deeper more
          exact ⟨s', hmore, hphase.trans hfinal, htimeline.trans hbefore⟩
        · exact performAll_ended hover.verdict.final

-- ── A handler that interferes ──────────────────────────────────────────────────────

/-- A handler that, told of a first text, sends another one, completes the stream and raises. -/
def restless (chunk : PartialChunk) : Handler :=
  ⟨fun n => if n = 0 then ⟨[.next chunk, .complete, .start], some .wrongValue⟩ else .none,
    some .wrongType, some .wrongType⟩

theorem restless_ordinary (chunk : PartialChunk) : (restless chunk).Ordinary where
  onPartial n fault hfault := by
    by_cases hn : n = 0
    · simp only [restless, hn, if_true, Option.mem_def, Option.some.injEq] at hfault
      rw [← hfault]
      rfl
    · simp [restless, hn, Reaction.none] at hfault
  onComplete fault hfault := by rw [← Option.some.inj hfault]; rfl
  onError fault hfault := by rw [← Option.some.inj hfault]; rfl

theorem restless_sendsSteps (chunk : PartialChunk) : (restless chunk).SendsSteps := by
  intro n signal hsignal
  by_cases hn : n = 0
  · simp only [restless, hn, if_true, List.mem_cons, List.not_mem_nil, or_false] at hsignal
    rcases hsignal with rfl | rfl | rfl <;> trivial
  · simp [restless, hn, Reaction.none] at hsignal

/-- The restless handler ends its stream itself, and the failures that follow are ignored. -/
theorem ends_at_most_once_restless :
    ∃ s run chunks, performAll (step 1)
        [.start, .next ⟨some "a", none, none, none, none, []⟩, .error .wrongValue]
        (fresh ⟨default, .openAI, 0, 0⟩ (restless ⟨some "b", some "x", none, none, none, []⟩)
          [.observer .surly, .silent] none (.int 1) (.fresh [])) = (.ok (), s)
      ∧ s.phase = .completed
      ∧ chunks = Moment.chunks run ∧ Reference.texts chunks = ["a", "b"]
      ∧ (Moment.endings run).map (·.1.phase) = [.streaming, .completed, .completed] := by
  have hsteps : ∀ signal ∈ [Signal.start, .next ⟨some "a", none, none, none, none, []⟩,
      .error .wrongValue], signal.IsStep := by
    intro signal hsignal
    simp only [List.mem_cons, List.not_mem_nil, or_false] at hsignal
    rcases hsignal with rfl | rfl | rfl <;> trivial
  have hestimator : ∀ e ∈ (none : Option Estimator), e.Ordinary := fun _ he => (nomatch he)
  obtain ⟨s, run, chunks, texts, hrun, hmoments, hchunks, -, -⟩ :=
    ends_at_most_once Observer.surly_ordinary
      (restless_ordinary ⟨some "b", some "x", none, none, none, []⟩) (restless_sendsSteps _)
      hestimator ⟨default, .openAI, 0, 0⟩ (.int 1) (.fresh []) 1 hsteps
  refine ⟨s, run, chunks, hrun, ?_, hchunks, ?_, ?_⟩
  · have hphase := congrArg (fun r => r.2.phase) hrun
    rw [← hphase]
    rfl
  · rw [hchunks, hmoments]
    decide
  · rw [hmoments]
    rfl

end Session

end CompletionStream
