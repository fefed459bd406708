import CompletionStream.Proofs.Client.Audience

/-!
# The protocol — what listeners of a pulled request are told, and what they see

A pulled request whose listeners were told of its start ends: they are told of one outcome, all
of them of the same, after everything that the handler hears of the texts and before it is told
of the outcome itself (`Exchange.course`).

The script of a request can be read off what a listener hears who only listens (`probe`), and
what such a listener hears is known from the reference run (`Session.pull_underway`).  So the
script is known for all listeners (`shown_pull`), and with it each call, its place, and the bag
that the listener sees.
-/

namespace CompletionStream

-- ── A listener who only listens ────────────────────────────────────────────────────

/-- A listener that marks nothing and raises nothing. -/
def Listener.probe : Listener :=
  .observer ⟨"", "", fun _ attributes => attributes, fun _ _ => none⟩

theorem Listener.probe_ordinary : ∀ l ∈ [probe], l.Ordinary := by
  intro l hl
  rw [List.mem_singleton.mp hl]
  exact fun event attributes fault hfault => nomatch hfault

/-- What a cue leaves on the timeline where a probe listens. -/
def Cue.shown? : Cue → Option Entry
  | .tell event => some (.notice 0 "" event [])
  | .say entry _ => some entry
  | _ => none

/-- The cue that leaves an entry where a probe listens. -/
def Entry.cue : Entry → Cue
  | .notice _ _ event _ => .tell event
  | .partialText text => .say (.partialText text) rfl
  | .completion response => .say (.completion response) rfl
  | .failure fault => .say (.failure fault) rfl

/-- A script can be read off what a probe hears. -/
theorem cue_shown (script : List Cue) :
    (script.filterMap Cue.shown?).map Entry.cue = script.filter Move.isShown := by
  induction script with
  | nil => rfl
  | cons cue rest ih =>
      cases cue with
      | tell event => exact congrArg (Move.tell event :: ·) ih
      | say entry voiced =>
          have hcue : entry.cue = .say entry voiced := by
            cases entry with
            | notice => exact nomatch voiced
            | _ => rfl
          show entry.cue :: _ = _ :: _
          rw [hcue]
          exact congrArg (Move.say entry voiced :: ·) ih
      | _ => exact ih

/-- **A probe hears the script.** -/
theorem Scene.heard_probe (estimator : Option Estimator) (scene : Scene) {script : List Cue}
    (hscript : ∀ event ∈ Move.told script, (Listener.hookOf event).isSome) :
    (scene.play estimator (acts [.probe] script)).heard
      = scene.heard ++ script.filterMap Cue.shown? := by
  have hseen (bag : Bag) (earlier : List Call) :
      (bag.seen earlier (acts [.probe] script)).map Entry.bare = script.filterMap Cue.shown? := by
    induction script generalizing earlier with
    | nil => rfl
    | cons cue rest ih =>
        have hrest (earlier : List Call) := ih (fun event hevent => hscript event
          (((List.sublist_cons_self cue rest).filterMap Move.telling?).subset hevent)) earlier
        cases cue with
        | tell event =>
            obtain ⟨hook, hhook⟩ := Option.isSome_iff_exists.mp
              (hscript event List.mem_cons_self)
            have hnotice (bag : Bag) : Call.notice ⟨0, .probe, event⟩ bag
                = some (.notice 0 "" event bag.attributes) := by
              rw [Call.notice, hhook]
              rfl
            show List.map Entry.bare ((Call.notice ⟨0, .probe, event⟩ _).toList
              ++ bag.seen (earlier ++ [⟨0, .probe, event⟩]) (acts [.probe] rest)) = _
            rw [hnotice, List.map_append, hrest]
            rfl
        | say entry voiced =>
            show entry.bare :: List.map Entry.bare (bag.seen earlier (acts [.probe] rest)) = _
            rw [Entry.bare_voiced voiced, hrest]
            rfl
        | _ => exact hrest earlier
  rw [heard, timeline_play, List.map_append, hseen]
  rfl

-- ── The course of a request ────────────────────────────────────────────────────────

namespace Exchange

/-- The event that an outcome is. -/
def event (x : Exchange) : Outcome Response → Event
  | .ok response => .completed x response
  | .error fault => .failed x fault

/-- What the handler is told of an outcome. -/
def verdict : Outcome Response → Entry
  | .ok response => .completion response
  | .error fault => .failure fault

theorem verdict_voiced (outcome : Outcome Response) : (verdict outcome).isNotice = false := by
  cases outcome <;> rfl

/-- What is told and said after the start: the texts, the outcome to the listeners, and the
    outcome to the handler last. -/
def rest (x : Exchange) (texts : List String) (outcome : Outcome Response) : List Cue :=
  texts.map (fun text => .say (.partialText text) rfl)
    ++ [.tell (x.event outcome), .say (verdict outcome) (verdict_voiced outcome)]

/-- All that is told and said of a request. -/
def course (x : Exchange) (texts : List String) (outcome : Outcome Response) : List Cue :=
  .tell (.started x) :: x.rest texts outcome

/-- Listeners are told of the start and of the outcome. -/
theorem told_course (x : Exchange) (texts : List String) (outcome : Outcome Response) :
    Move.told (x.course texts outcome) = [.started x, x.event outcome] := by
  have htexts : Move.told (texts.map fun text => (.say (.partialText text) rfl : Cue)) = [] := by
    rw [Move.told, List.filterMap_map]
    exact List.filterMap_none texts
  rw [course, rest, ← List.singleton_append, Move.told_append, Move.told_append, htexts]
  rfl

/-- What a probe hears after the start is the rest of the course. -/
theorem cue_ending (x : Exchange) (texts : List String) (outcome : Outcome Response) :
    (texts.map Entry.partialText ++ x.ending [.probe] outcome).map Entry.cue
      = x.rest texts outcome := by
  rw [List.map_append, List.map_map, rest]
  cases outcome <;> rfl

end Exchange

namespace Client

open Session (Follows)

/-- **The script of a pulled request is its course.**  It comes to an end, for whatever texts
    and outcome its stream and its handler lead to. -/
theorem shown_pull {c : Client} {p : Prepared} {opening : Options → Opening PullStream}
    {handler : Handler} {number : Nat} {tally : Tally} (hhandler : handler.Ordinary)
    (hestimator : c.estimator.Ordinary)
    (hopening : PullStream.Opens (opening p.options).outcome)
    {result : Outcome Unit × Option PullReport} {s' : Session} {rest : List Cue}
    (hfollows : Follows (c.setting p number tally)
      (fun s => ran (.pull opening) p.options (c.announce p .sync s))
      (c.session p handler number (.fresh [])) result s' rest) :
    result.1 = .ok () ∧ ∃ texts outcome, rest.filter Move.isShown
      = (⟨p.request, c.provider, number, number⟩ : Exchange).rest texts outcome := by
  let scene : Scene := { Scene.fresh [] with tally }
  let s := (c.session p handler number (.fresh [])).staged [.probe] scene
  have horderly : s.Orderly := by
    refine ⟨Listener.probe_ordinary, hhandler, ?_⟩
    rintro e ⟨⟩
    exact hestimator
  -- where a probe listens the run is the reference run
  obtain ⟨opened, hopened, hlog⟩ : ∃ opened,
      reportAll (c.announce p .sync s) (opening p.options).log = s.underway .requesting [] opened
        ∧ Scene.Adds [] scene opened :=
    ⟨_, rfl, (Scene.Adds.report scene _).trans (adds_reportAll _ _)⟩
  obtain ⟨report, closed, hpull, hheard⟩ := Session.pull_underway horderly opened hopening
  have hran : ran (.pull opening) p.options (c.announce p .sync s)
      = ((.ok (), report), closed) := by
    rw [ran, hopened, hpull]
    rfl
  obtain ⟨rfl, hclosed⟩ := Prod.mk.inj
    (hran.symm.trans (hfollows.staged [.probe] scene Listener.probe_ordinary rfl))
  generalize Reference.pulled s.handler _ _ = told at hheard
  have hhooks : ∀ event ∈ Move.told rest, (Listener.hookOf event).isSome :=
    fun event hevent => Event.hooked (hfollows.about event hevent)
  have hprobe := scene.heard_probe (some c.estimator) hhooks
  have hscene : closed.scene = scene.play (some c.estimator) (acts [.probe] rest) :=
    congrArg Session.scene hclosed
  rw [← hscene, hheard, hlog.heard, List.append_nil, List.append_assoc] at hprobe
  refine ⟨rfl, told.1, told.2, ?_⟩
  rw [← cue_shown, ← List.append_cancel_left hprobe]
  exact Exchange.cue_ending _ _ _

/-- The listeners of a request were told of it as they should be, and saw what they should. -/
structure Protocol (c : Client) (x : Exchange) (texts : List String)
    (outcome : Outcome Response) (script : List Cue) (scene left : Scene) : Prop where
  /-- The script is all that is done, with an empty bag to begin with. -/
  played : left = scene.unmarked.play (some c.estimator) (acts c.listeners script)
  /-- All are told of the start, the handler hears the texts, all are told of the outcome, and
      the handler is told of it last. -/
  shown : script.filter Move.isShown = x.course texts outcome
  /-- Each listener is called twice: at the start and with the outcome, which is one for all. -/
  called : ∀ i listener, c.listeners[i]? = some listener →
    (Move.told (acts c.listeners script)).filter (·.number == i)
      = [⟨i, listener, .started x⟩, ⟨i, listener, x.event outcome⟩]
  /-- At any moment the bag is what the calls so far have made of an empty one. -/
  bag : ∀ before later, acts c.listeners script = before ++ later →
    (scene.unmarked.play (some c.estimator) before).bag
      = Bag.after ⟨[], scene.clock⟩ (Move.told before)
  /-- Each call sees the bag that all earlier calls and its own have marked. -/
  timeline : left.timeline = scene.timeline
    ++ Bag.seen ⟨[], scene.clock⟩ [] (acts c.listeners (x.course texts outcome))

/-- **THE PROTOCOL OF A PULLED REQUEST.**  Once a request is prepared its listeners are told of
    its start and then of one outcome, in whatever way the stream goes and whoever raises
    something, and the bag that they share is theirs alone, whatever the scene was before. -/
theorem chat_pull_protocol {c : Client} {opening : Options → Opening PullStream}
    {r : ChatRequest} {handler : Handler} {scene counted : Scene} {p : Prepared}
    (hprepare : c.prepare r scene = (.ok p, counted))
    (hlisteners : ∀ l ∈ c.listeners, l.Ordinary) (hhandler : handler.Ordinary)
    (hestimator : c.estimator.Ordinary)
    (hopening : PullStream.Opens (opening p.options).outcome) (number : Nat) :
    ∃ report texts outcome script,
      c.chat (.pull opening) r handler number scene = (.ok (), report)
      ∧ c.Protocol ⟨p.request, c.provider, number, number⟩ texts outcome script scene
          report.scene := by
  let x : Exchange := ⟨p.request, c.provider, number, number⟩
  obtain ⟨result, s', counting, rest, hsecret, hfollows, hchat⟩ :=
    prepared_follows hprepare hlisteners (.pull opening) handler number
  obtain ⟨hresult, texts, outcome, hrest⟩ := shown_pull hhandler hestimator hopening hfollows
  rw [hresult] at hchat
  have hshown : (counting ++ .tell (.started x) :: rest).filter Move.isShown
      = x.course texts outcome := by
    rw [List.filter_append, hsecret, List.filter_cons_of_pos rfl, hrest]
    rfl
  refine ⟨_, texts, outcome, _, hchat, rfl, hshown, ?_, ?_, ?_⟩
  · intro i listener hlistener
    rw [Listener.calls_of hlistener, ← Move.told_shown, hshown, Exchange.told_course]
    rfl
  · intro before later _
    rw [Scene.bag_play]
    rfl
  · rw [Scene.timeline_play, ← hshown, Bag.seen_shown]
    rfl

-- ── Listeners that mark the bag ────────────────────────────────────────────────────

/-- An observer that puts its name into the bag and then raises something. -/
def marker (name : String) : Listener :=
  .observer ⟨"Marker", name, fun _ attributes => attributes.set name (.bool true),
    fun _ _ => some .wrongType⟩

theorem marker_ordinary (name : String) : (marker name).Ordinary := by
  rintro event attributes fault ⟨⟩
  rfl

theorem markers_ordinary : ∀ l ∈ [marker "m", marker "n"], l.Ordinary := by
  intro l hl
  rcases List.mem_cons.mp hl with rfl | hl
  · exact marker_ordinary "m"
  · rw [List.mem_singleton.mp hl]
    exact marker_ordinary "n"

/-- A scene with a bag that somebody else has left. -/
def marked : Scene := { Scene.fresh [] with attributes := [(.str "old", .bool true)] }

/-- The second listener sees what the first has put in before it raised something, and neither
    sees what was there before the request. -/
theorem chat_pull_protocol_marking :
    ∃ report x texts outcome script,
      (simple [marker "m", marker "n"]).chat (.pull threeTexts) greeting fickle 0 marked
        = (.ok (), report)
      ∧ (simple [marker "m", marker "n"]).Protocol x texts outcome script marked report.scene
      ∧ report.scene.timeline
        = [.notice 0 "m" (.started x) [(.str "m", .bool true)],
            .notice 1 "n" (.started x) [(.str "m", .bool true), (.str "n", .bool true)],
            .partialText "a", .partialText "b",
            .notice 0 "m" (.failed x .wrongValue)
              [(.str "m", .bool true), (.str "n", .bool true)],
            .notice 1 "n" (.failed x .wrongValue)
              [(.str "m", .bool true), (.str "n", .bool true)],
            .failure .wrongValue] := by
  obtain ⟨report, texts, outcome, script, hchat, hprotocol⟩ :=
    @chat_pull_protocol (simple [marker "m", marker "n"]) _ greeting fickle marked _ _ rfl
      markers_ordinary fickle_ordinary (simple_ordinary _) (threeTexts_opens _) 0
  refine ⟨report, _, texts, outcome, script, hchat, hprotocol, ?_⟩
  obtain rfl := congrArg Prod.snd hchat
  rfl

end Client

end CompletionStream
