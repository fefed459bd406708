import CompletionStream.Proofs.Session.Scripted

/-!
# The script of a request

A request goes by a script, too: what leaves `chat`, what the transport is asked for, what
becomes of its stream, and all that is told, said, reported and counted meanwhile are fixed
before it is known who listens and on what scene (`chat_script`).  Preparing a request depends
on the scene through the encoding alone (`prepare_script`), what opening a transport reports is
a script of reports (`scripted_reportAll`), and the rest is the run of a session, which begins
with an empty bag (`outset`).
-/

namespace CompletionStream

open Session (Within Scripted Follows Alike)

/-- Reports are played as they stand. -/
theorem Scene.play_reports (estimator : Option Estimator) (listeners : List Listener)
    (log : List LogRecord) (scene : Scene) :
    scene.play estimator (acts listeners (log.map .report)) = log.foldl Scene.report scene := by
  induction log generalizing scene with
  | nil => rfl
  | cons record rest ih => exact ih (scene.report record)

/-- What nobody notices comes to the same before and after the bag is emptied. -/
theorem Scene.play_unmarked (estimator : Option Estimator) (listeners : List Listener)
    {script : List Cue} (h : script.filter Move.isShown = []) (scene : Scene) :
    (scene.play estimator (acts listeners script)).unmarked
      = scene.unmarked.play estimator (acts listeners script) := by
  induction script generalizing scene with
  | nil => rfl
  | cons cue rest ih =>
      cases cue with
      | tell event => exact nomatch h
      | say entry voiced => exact nomatch h
      | report record => exact ih h (scene.report record)
      | count messages => cases estimator <;> exact ih h _
      | bill accumulator inputTokens => exact ih h _

namespace Client

/-- The scene on which a request goes on: it has a bag of its own as soon as it is prepared. -/
def outset (asked : Option Options) (scene : Scene) : Scene :=
  match asked with
  | none => scene
  | some _ => scene.unmarked

/-- What is fixed while a prepared request is under way. -/
def setting (c : Client) (p : Prepared) (number : Nat) (tally : Tally) : Setting :=
  ⟨⟨p.request, c.provider, number, number⟩, some c.estimator, tally⟩

theorem session_within (c : Client) (p : Prepared) (handler : Handler) (number : Nat)
    (scene : Scene) (tally : Tally) :
    (c.session p handler number scene).Within (c.setting p number tally) :=
  ⟨rfl, rfl⟩

/-- **Preparing depends on the scene through the encoding alone**, and does nothing but count. -/
theorem prepare_script (c : Client) (r : ChatRequest) (tally : Tally) :
    ∃ outcome script, script.filter Move.isShown = []
      ∧ ∀ listeners scene,
          scene.tally.encodingFor (some c.estimator) = tally.encodingFor (some c.estimator) →
          c.prepare r scene
            = (outcome, scene.play (some c.estimator) (acts listeners script)) := by
  cases hoptions : c.options r with
  | error fault =>
      refine ⟨.error fault, [], rfl, fun listeners scene _ => ?_⟩
      rw [prepare_eq, hoptions]
      rfl
  | ok o =>
      refine ⟨(c.estimator.countMessages r.messages tally).1.map fun n => ⟨o, sentRequest r o, n⟩,
        [.count r.messages], rfl, fun listeners scene halike => ?_⟩
      rw [prepare_eq, hoptions,
        ← Scene.counting_answer (c.estimator.steady_countMessages r.messages) halike]
      rfl

-- ── The run of a session ───────────────────────────────────────────────────────────

section

variable {setting : Setting} {s : Session}

theorem scripted_reportAll (h : s.Within setting) (log : List LogRecord) :
    Scripted setting (fun s => ((.ok () : Outcome Unit), reportAll s log)) s := by
  refine ⟨.ok (), s, log.map .report, h, fun event hevent => ?_, fun listeners scene _ _ => ?_⟩
  · have hsecret : Move.told (log.map (Move.report : LogRecord → Cue)) = [] := by
      rw [Move.told, List.filterMap_map]
      exact List.filterMap_none log
    rw [hsecret] at hevent
    exact absurd hevent List.not_mem_nil
  · rw [Scene.play_reports]
    rfl

/-- What a run over a transport comes to, and its session. -/
def ran (transport : Transport) (o : Options) (s : Session) :
    (Outcome Unit × Option PullReport) × Session :=
  match transport with
  | .pull opening => Session.apart ((reportAll s (opening o).log).pull (opening o).outcome)
  | .push opening =>
    let (outcome, s) := (reportAll s (opening o).log).push (opening o).outcome
    ((outcome, none), s)

theorem run_eq (transport : Transport) (o : Options) (s : Session) :
    run transport o s = ((ran transport o s).1.1,
      ⟨some o, (ran transport o s).1.2, (ran transport o s).2.scene⟩) := by
  cases transport <;> rfl

theorem scripted_ran (transport : Transport) (o : Options) (h : s.Within setting) :
    Scripted setting (ran transport o) s := by
  cases transport with
  | pull opening =>
      exact (scripted_reportAll h (opening o).log).bind fun _ s' hs' =>
        Session.scripted_pull (opening o).outcome hs'
  | push opening =>
      exact ((scripted_reportAll h (opening o).log).bind fun _ s' hs' =>
        Session.scripted_push (opening o).outcome hs').map fun outcome => (outcome, none)

end

-- ── Whole requests ─────────────────────────────────────────────────────────────────

/-- Once its listeners were told, a prepared request is a scripted run of its session. -/
theorem scripted_request (c : Client) (p : Prepared) (transport : Transport) {s : Session}
    {setting : Setting} (h : s.Within setting) :
    Scripted setting (fun s => ran transport p.options (c.announce p transport.mode s)) s := by
  refine ((Session.scripted_report h (.ok ()) LogRecord.debug "stream requested" []
    [("deployment", c.deployment), ("mode", .str transport.mode.word),
      ("input_tokens", .int p.inputTokens),
      ("tools", .int (p.options.tools.getD []).length),
      ("forced_tool", .ofOption (fun t : ToolSpec => .str t.name) p.options.forcedTool)]
    none).bind fun _ s' hs' => scripted_ran transport p.options hs').congr
      fun listeners scene => rfl

/-- A prepared request that all listeners were told of runs its session. -/
theorem chat_eq_run {c : Client} {r : ChatRequest} {scene counted : Scene} {p : Prepared}
    (hprepare : c.prepare r scene = (.ok p, counted)) (transport : Transport)
    (handler : Handler) (number : Nat) {s : Session}
    (htell : (c.session p handler number counted).tell
      (.started ⟨p.request, c.provider, number, number⟩) = (.ok (), s)) :
    c.chat transport r handler number scene
      = run transport p.options (c.announce p transport.mode s) := by
  have htold : (c.session p handler number counted).tell
      (.started (c.session p handler number counted).exchange) = (.ok (), s) := htell
  rw [chat, hprepare]
  dsimp only
  rw [htold]

/-- A prepared request is told of, whoever raises something, and then its session runs. -/
theorem chat_prepared {c : Client} {r : ChatRequest} {scene counted : Scene} {p : Prepared}
    (hprepare : c.prepare r scene = (.ok p, counted)) (transport : Transport)
    (handler : Handler) (number : Nat) {listeners : List Listener}
    (hordinary : ∀ l ∈ listeners, Listener.Ordinary l) :
    { c with listeners }.chat transport r handler number scene
      = run transport p.options (c.announce p transport.mode
          ((c.session p handler number (.fresh [])).staged listeners
            (counted.unmarked.play (some c.estimator) (acts listeners
              [.tell (.started ⟨p.request, c.provider, number, number⟩)])))) := by
  have hprepared : { c with listeners }.prepare r scene = (.ok p, counted) := hprepare
  exact chat_eq_run hprepared transport handler number
    ((c.session p handler number (.fresh [])).staged_tell counted.unmarked hordinary
      (some c.estimator) (.started ⟨p.request, c.provider, number, number⟩))

/-- A prepared request goes by the script of its session, after the counting and the start. -/
theorem chat_follows {c : Client} {transport : Transport} {r : ChatRequest} {handler : Handler}
    {number : Nat} {tally : Tally} {p : Prepared} {counting rest : List Cue}
    {result : Outcome Unit × Option PullReport} {s' : Session}
    (hsecret : counting.filter Move.isShown = [])
    (hfollows : Follows (c.setting p number tally)
      (fun s => ran transport p.options (c.announce p transport.mode s))
      (c.session p handler number (.fresh [])) result s' rest)
    {listeners : List Listener} (hordinary : ∀ l ∈ listeners, Listener.Ordinary l)
    {scene : Scene} (hprepare : c.prepare r scene
      = (.ok p, scene.play (some c.estimator) (acts listeners counting)))
    (halike : scene.tally.encodingFor (some c.estimator)
      = tally.encodingFor (some c.estimator)) :
    { c with listeners }.chat transport r handler number scene
      = (result.1, ⟨some p.options, result.2, scene.unmarked.play (some c.estimator)
          (acts listeners
            (counting ++ .tell (.started ⟨p.request, c.provider, number, number⟩) :: rest))⟩) := by
  -- counting and telling leave the encoding as it is, so that the session runs by its script
  let started := (scene.unmarked.play (some c.estimator) (acts listeners counting)).play
    (some c.estimator)
    (acts listeners [.tell (.started ⟨p.request, c.provider, number, number⟩)])
  have hlike : Alike (c.setting p number tally) started :=
    (Scene.encodingFor_play _ _ _).trans ((Scene.encodingFor_play _ _ _).trans halike)
  have hchat : { c with listeners }.chat transport r handler number scene
      = run transport p.options (c.announce p transport.mode
          ((c.session p handler number (.fresh [])).staged listeners started)) := by
    rw [chat_prepared hprepare transport handler number hordinary,
      Scene.play_unmarked (some c.estimator) listeners hsecret]
  rw [hchat, run_eq, hfollows.staged listeners started hordinary hlike, acts_append,
    Scene.play_append, ← List.singleton_append, acts_append, Scene.play_append]
  rfl

/-- **A prepared request is counted, told of, and goes by the script of its session.** -/
theorem prepared_follows {c : Client} {r : ChatRequest} {scene counted : Scene} {p : Prepared}
    (hprepare : c.prepare r scene = (.ok p, counted))
    (hlisteners : ∀ l ∈ c.listeners, l.Ordinary) (transport : Transport) (handler : Handler)
    (number : Nat) :
    ∃ result s' counting rest, counting.filter Move.isShown = []
      ∧ Follows (c.setting p number scene.tally)
          (fun s => ran transport p.options (c.announce p transport.mode s))
          (c.session p handler number (.fresh [])) result s' rest
      ∧ c.chat transport r handler number scene
        = (result.1, ⟨some p.options, result.2, scene.unmarked.play (some c.estimator)
            (acts c.listeners
              (counting ++ .tell (.started ⟨p.request, c.provider, number, number⟩)
                :: rest))⟩) := by
  obtain ⟨prepared, counting, hsecret, hcounting⟩ := c.prepare_script r scene.tally
  obtain ⟨rfl, rfl⟩ := Prod.mk.inj
    ((hcounting c.listeners scene rfl).symm.trans hprepare)
  obtain ⟨result, s', rest, hfollows⟩ := c.scripted_request p transport
    (c.session_within p handler number (.fresh []) scene.tally)
  exact ⟨result, s', counting, rest, hsecret, hfollows,
    chat_follows hsecret hfollows hlisteners hprepare rfl⟩

/-- **A REQUEST GOES BY ONE SCRIPT, WHOEVER LISTENS.**  What it comes to and all that is done
    meanwhile are the same for all listeners with ordinary faults, on every scene that counts
    with the same encoding.  Nobody notices a request that asks for nothing. -/
theorem chat_script (c : Client) (transport : Transport) (r : ChatRequest) (handler : Handler)
    (number : Nat) (tally : Tally) :
    ∃ outcome asked pulled script,
      (∀ event ∈ Move.told script, ∃ x, event.exchange? = some x ∧ x.number = number
        ∧ x.bag = number)
      ∧ (asked = none → script.filter Move.isShown = [])
      ∧ ∀ listeners scene, (∀ l ∈ listeners, Listener.Ordinary l) →
          scene.tally.encodingFor (some c.estimator) = tally.encodingFor (some c.estimator) →
          { c with listeners }.chat transport r handler number scene
            = (outcome, ⟨asked, pulled,
                (outset asked scene).play (some c.estimator) (acts listeners script)⟩) := by
  obtain ⟨prepared, counting, hsecret, hprepare⟩ := c.prepare_script r tally
  cases prepared with
  | error fault =>
      refine ⟨.error fault, none, none, counting, ?_, fun _ => hsecret,
        fun listeners scene _ halike => ?_⟩
      · rw [← Move.told_shown, hsecret]
        exact fun _ hevent => (nomatch hevent)
      · exact @chat_eq_error { c with listeners } r scene _ fault
          (hprepare listeners scene halike) transport handler number
  | ok p =>
      let x : Exchange := ⟨p.request, c.provider, number, number⟩
      obtain ⟨result, s', rest, hfollows⟩ := c.scripted_request p transport
        (c.session_within p handler number (.fresh []) tally)
      refine ⟨result.1, some p.options, result.2, counting ++ .tell (.started x) :: rest, ?_,
        fun hnone => absurd hnone (Option.some_ne_none _), fun listeners scene hordinary halike =>
          chat_follows hsecret hfollows hordinary (hprepare listeners scene halike) halike⟩
      intro event hevent
      rw [Move.told_append, ← Move.told_shown counting, hsecret] at hevent
      rcases List.mem_cons.mp hevent with rfl | hevent
      · exact ⟨x, rfl, rfl, rfl⟩
      · exact ⟨x, hfollows.about event hevent, rfl, rfl⟩

end Client

end CompletionStream
