import CompletionStream.Proofs.Session.Script

/-!
# The bag — what listeners share, and what they see of it

All that are told of one request share one bag of attributes.  A call marks the bag
(`Call.marks`): an observer makes of it what it will, and the listener that reports requests
puts in the time of the start.  Raising something afterwards takes nothing back.

`bag_play` says that after any acts the bag is the fold of the marks of all calls among them, in
the order in which they were made, and `timeline_play` says what can be seen of it on the way:
each notice carries the bag that all earlier calls and its own have marked (`Bag.seen`).  From
the timeline one can tell what the handler was told (`Scene.voice`), and each observer
(`Scene.heardBy`).

Whether a listener interrupts the start of a request may depend on the bag as well.  All are told
of a start exactly if none of them does, each of them finding the bag that those before it have
marked (`LetStart`, `tellFrom_started`).
-/

namespace CompletionStream

/-- The attributes that listeners share, and the clock that they read. -/
structure Bag where
  attributes : Members
  clock : List Float

/-- The bag of a scene. -/
def Scene.bag (scene : Scene) : Bag :=
  ⟨scene.attributes, scene.clock⟩

namespace Bag

/-- Reads the clock; its last reading repeats. -/
def now (bag : Bag) : Float × Bag :=
  match bag.clock with
  | [] => (0.0, bag)
  | [t] => (t, bag)
  | t :: rest => (t, { bag with clock := rest })

theorem now_scene (scene : Scene) : scene.bag.now = (scene.now.1, scene.now.2.bag) := by
  obtain ⟨clock, log, timeline, attributes, tally⟩ := scene
  cases clock with
  | nil => rfl
  | cons t rest => cases rest <;> rfl

/-- What the listener that reports requests does to the bag: at the start it puts the time in,
    and later it reads the clock if there is a time to compare with. -/
def stamp (bag : Bag) : Hook → Bag
  | .request =>
    { bag.now.2 with
      attributes := bag.now.2.attributes.set Listener.startTime (.float bag.now.1) }
  | .response | .error =>
    match bag.attributes.getOrNull Listener.startTime with
    | .null => bag
    | _ => bag.now.2

end Bag

/-- What a listener that is told of an event does to the bag. -/
def Listener.marks (listener : Listener) (event : Event) (bag : Bag) : Bag :=
  match hookOf event, listener with
  | some _, .observer o => { bag with attributes := o.updates event bag.attributes }
  | some hook, .logging _ => bag.stamp hook
  | _, _ => bag

namespace Call

/-- What a call does to the bag, whether or not it then raises something. -/
def marks (call : Call) (bag : Bag) : Bag :=
  call.listener.marks call.event bag

/-- What an observer leaves that is called and sees this bag. -/
def notice (call : Call) (bag : Bag) : Option Entry :=
  match Listener.hookOf call.event, call.listener with
  | some _, .observer o => some (.notice call.number o.name call.event bag.attributes)
  | _, _ => none

/-- The event that an observer is told of, if the call is one of an observer. -/
def observed? (call : Call) : Option Event :=
  match Listener.hookOf call.event, call.listener with
  | some _, .observer _ => some call.event
  | _, _ => none

end Call

namespace Bag

/-- The bag after calls: the fold of their marks, in the order in which they are made. -/
def after (bag : Bag) (calls : List Call) : Bag :=
  calls.foldl (fun bag call => call.marks bag) bag

theorem after_snoc (bag : Bag) (calls : List Call) (call : Call) :
    bag.after (calls ++ [call]) = call.marks (bag.after calls) := by
  rw [after, List.foldl_append]
  rfl

/-- What is seen while acts are performed: each call sees the bag that all earlier calls and
    itself have marked. -/
def seen (bag : Bag) : List Call → List Act → List Entry
  | _, [] => []
  | earlier, .tell call :: rest =>
    (call.notice (bag.after (earlier ++ [call]))).toList ++ bag.seen (earlier ++ [call]) rest
  | earlier, .say entry _ :: rest => entry :: bag.seen earlier rest
  | earlier, _ :: rest => bag.seen earlier rest

theorem seen_append (bag : Bag) (earlier : List Call) (first second : List Act) :
    bag.seen earlier (first ++ second)
      = bag.seen earlier first ++ bag.seen (earlier ++ Move.told first) second := by
  induction first generalizing earlier with
  | nil =>
      rw [Move.told, List.filterMap_nil, List.append_nil]
      rfl
  | cons act rest ih =>
      cases act with
      | tell call =>
          have htold : Move.told (.tell call :: rest) = [call] ++ Move.told rest := rfl
          rw [List.cons_append, seen, seen, ih, htold, List.append_assoc, List.append_assoc]
      | say entry voiced =>
          rw [List.cons_append, seen, seen, ih]
          rfl
      | _ => exact ih earlier

/-- What nobody notices cannot be seen. -/
theorem seen_shown (bag : Bag) (earlier : List Call) (listeners : List Listener)
    (script : List Cue) :
    bag.seen earlier (acts listeners (script.filter Move.isShown))
      = bag.seen earlier (acts listeners script) := by
  induction script generalizing earlier with
  | nil => rfl
  | cons cue rest ih =>
      cases hshown : cue.isShown with
      | true =>
          rw [List.filter_cons_of_pos hshown, acts_cons, acts_cons, seen_append, seen_append, ih]
      | false =>
          rw [List.filter_cons_of_neg (by rw [hshown]; exact Bool.false_ne_true), ih]
          cases cue with
          | tell event => exact nomatch hshown
          | say entry voiced => exact nomatch hshown
          | _ => rfl

end Bag

namespace Scene

-- ── One call ───────────────────────────────────────────────────────────────────────

/-- A report changes neither the bag nor the timeline. -/
theorem shown_report (scene : Scene) (level : Int) (template : String)
    (arguments : List LogArgument) (extra : List (String × Value)) (fault : Option Fault) :
    (Listener.report scene level template arguments extra fault).bag = scene.bag
      ∧ (Listener.report scene level template arguments extra fault).timeline
        = scene.timeline := by
  rw [Listener.report]
  split <;> exact ⟨rfl, rfl⟩

theorem timeline_now (scene : Scene) : scene.now.2.timeline = scene.timeline := by
  rw [now]
  split <;> rfl

/-- Measuring the time since the start reads the clock if there is a start. -/
theorem shown_elapsed (scene : Scene) (hook : Hook) (hlater : hook ≠ .request) :
    (Listener.elapsed scene).2.bag = scene.bag.stamp hook
      ∧ (Listener.elapsed scene).2.timeline = scene.timeline := by
  have hstamp : scene.bag.stamp hook
      = match scene.attributes.getOrNull Listener.startTime with
        | .null => scene.bag
        | _ => scene.bag.now.2 := by
    cases hook with
    | request => exact absurd rfl hlater
    | _ => rfl
  rw [hstamp, Listener.elapsed]
  have hnow : scene.now.2.bag = scene.bag.now.2 := by rw [Bag.now_scene]
  generalize scene.attributes.getOrNull Listener.startTime = start
  cases start with
  | null => exact ⟨rfl, rfl⟩
  | _ =>
      dsimp only
      split <;> exact ⟨hnow, timeline_now scene⟩

/-- What the listener that reports requests reports of a later event. -/
theorem shown_elapsed_then (scene : Scene) (hook : Hook) (hlater : hook ≠ .request)
    {reported : Option Int → Scene → Scene}
    (hreported : ∀ ms scene, (reported ms scene).bag = scene.bag
      ∧ (reported ms scene).timeline = scene.timeline) :
    ∀ told, (match Listener.elapsed scene with
      | (.error fault, scene) => ((.error fault : Outcome Unit), scene)
      | (.ok ms, scene) => (.ok (), reported ms scene)) = told →
      told.2.bag = scene.bag.stamp hook ∧ told.2.timeline = scene.timeline := by
  obtain ⟨hbag, htimeline⟩ := scene.shown_elapsed hook hlater
  rintro told rfl
  generalize Listener.elapsed scene = measured at hbag htimeline ⊢
  obtain ⟨fault | ms, left⟩ := measured
  · exact ⟨hbag, htimeline⟩
  · exact ⟨(hreported ms left).1.trans hbag, (hreported ms left).2.trans htimeline⟩

/-- The listener that reports requests stamps the bag. -/
theorem shown_logEvent (level : Int) (event : Event) (scene : Scene) {hook : Hook}
    (h : Listener.hookOf event = some hook) :
    (Listener.logEvent level event scene).2.bag = scene.bag.stamp hook
      ∧ (Listener.logEvent level event scene).2.timeline = scene.timeline := by
  cases event with
  | stray name => exact nomatch h
  | started x =>
      obtain rfl : Hook.request = hook := Option.some.inj h
      obtain ⟨hbag, htimeline⟩ := shown_report
        { scene.now.2 with attributes :=
            scene.now.2.attributes.set Listener.startTime (.float scene.now.1) }
        level "chat request started" []
        [("provider", .str x.provider.word), ("messages", .int x.request.messages.length),
          ("tools", .int x.request.tools.length)] none
      refine ⟨hbag.trans ?_, htimeline.trans (timeline_now scene)⟩
      rw [Bag.stamp, Bag.now_scene]
      rfl
  | completed x response =>
      obtain rfl : Hook.response = hook := Option.some.inj h
      exact shown_elapsed_then scene .response (by decide)
        (fun ms scene => shown_report scene level _ _ _ none) _ rfl
  | failed x fault =>
      obtain rfl : Hook.error = hook := Option.some.inj h
      exact shown_elapsed_then scene .error (by decide)
        (fun ms scene => shown_report scene _ _ _ _ none) _ rfl

/-- A listener that is told of an event marks the bag and leaves its notice. -/
theorem shown_tell (listener : Listener) (number : Nat) (event : Event) (scene : Scene) :
    (listener.tell number event scene).2.bag = listener.marks event scene.bag
      ∧ (listener.tell number event scene).2.timeline = scene.timeline
        ++ (Call.notice ⟨number, listener, event⟩ (listener.marks event scene.bag)).toList := by
  rw [Listener.tell.eq_def, Listener.marks.eq_def, Call.notice]
  dsimp only
  cases hhook : Listener.hookOf event with
  | none => exact ⟨rfl, (List.append_nil _).symm⟩
  | some hook =>
      cases listener with
      | silent => exact ⟨rfl, (List.append_nil _).symm⟩
      | logging level =>
          obtain ⟨hbag, htimeline⟩ := shown_logEvent level event scene hhook
          exact ⟨hbag, htimeline.trans (List.append_nil _).symm⟩
      | observer o =>
          dsimp only
          split <;> exact ⟨rfl, rfl⟩

/-- **A call marks the bag and leaves its notice**, whatever it then raises. -/
theorem shown_call (scene : Scene) (c : Call) :
    (scene.call c).bag = c.marks scene.bag
      ∧ (scene.call c).timeline
        = scene.timeline ++ (c.notice (c.marks scene.bag)).toList := by
  obtain ⟨number, listener, event⟩ := c
  have htell := shown_tell listener number event scene
  rw [call, Call.marks]
  generalize listener.tell number event scene = result at htell ⊢
  obtain ⟨fault | _, told⟩ := result
  · obtain ⟨hbag, htimeline⟩ := shown_report told LogRecord.warning
      "Exception while calling model listener: %s" [.fault fault]
      [("listener", .str listener.className), ("event", .str event.className)] (some fault)
    exact ⟨hbag.trans htell.1, htimeline.trans htell.2⟩
  · exact htell

/-- What is done to a scene besides calling listeners leaves the bag alone. -/
theorem bag_act (estimator : Option Estimator) (scene : Scene) (act : Act) :
    (scene.act estimator act).bag = scene.bag.after (Move.told [act]) := by
  cases act with
  | tell c => exact (scene.shown_call c).1
  | count messages => cases estimator <;> rfl
  | _ => rfl

-- ── Whole scripts ──────────────────────────────────────────────────────────────────

/-- **The bag is the fold of the marks of all calls**, in the order in which they were made. -/
theorem bag_play (estimator : Option Estimator) (scene : Scene) (acts : List Act) :
    (scene.play estimator acts).bag = scene.bag.after (Move.told acts) := by
  induction acts generalizing scene with
  | nil => rfl
  | cons act rest ih =>
      have hcons : act :: rest = [act] ++ rest := rfl
      rw [play_cons, ih, bag_act, hcons, Move.told_append, Bag.after, Bag.after, Bag.after,
        List.foldl_append]

/-- **Each call sees what all earlier calls and its own have made of the bag.** -/
theorem timeline_play (estimator : Option Estimator) (scene : Scene) (acts : List Act) :
    (scene.play estimator acts).timeline = scene.timeline ++ scene.bag.seen [] acts := by
  -- after some calls the bag of the scene is what they made of the first one
  have hfrom (bag : Bag) (earlier : List Call) (scene : Scene)
      (hbag : scene.bag = bag.after earlier) :
      (scene.play estimator acts).timeline = scene.timeline ++ bag.seen earlier acts := by
    induction acts generalizing earlier scene with
    | nil => exact (List.append_nil _).symm
    | cons act rest ih =>
        rw [play_cons]
        cases act with
        | tell c =>
            obtain ⟨hcall, htimeline⟩ := scene.shown_call c
            have hsnoc : bag.after (earlier ++ [c]) = c.marks scene.bag := by
              rw [Bag.after_snoc, hbag]
            refine (ih (earlier ++ [c]) (scene.call c) (hcall.trans hsnoc.symm)).trans ?_
            show (scene.call c).timeline ++ _ = scene.timeline
              ++ ((c.notice (bag.after (earlier ++ [c]))).toList
                ++ bag.seen (earlier ++ [c]) rest)
            rw [htimeline, hsnoc, List.append_assoc]
        | say entry voiced =>
            refine (ih earlier (scene.add entry) hbag).trans ?_
            show scene.timeline ++ [entry] ++ _ = _
            rw [List.append_assoc]
            rfl
        | report record => exact ih earlier (scene.report record) hbag
        | count messages => cases estimator <;> exact ih earlier _ hbag
        | bill accumulator inputTokens => exact ih earlier _ hbag
  exact hfrom scene.bag [] scene rfl

/-- What nobody notices leaves the timeline and the bag as they are. -/
theorem play_secret (estimator : Option Estimator) (scene : Scene) (listeners : List Listener)
    {script : List Cue} (h : script.filter Move.isShown = []) :
    (scene.play estimator (acts listeners script)).timeline = scene.timeline
      ∧ (scene.play estimator (acts listeners script)).bag = scene.bag := by
  constructor
  · rw [timeline_play, ← Bag.seen_shown, h]
    exact List.append_nil _
  · rw [bag_play, told_acts, ← Move.told_shown, h]
    rfl

-- ── Who was told what ──────────────────────────────────────────────────────────────

/-- What the handler was told. -/
def voice (scene : Scene) : List Entry :=
  scene.timeline.filter fun entry => !entry.isNotice

end Scene

/-- The event of which an entry says that the observer with this number was told. -/
def Entry.heardBy? (number : Nat) : Entry → Option Event
  | .notice n _ event _ => if n = number then some event else none
  | .partialText _ | .completion _ | .failure _ => none

/-- Of what is said no observer hears. -/
theorem Entry.heardBy?_voiced {entry : Entry} (h : entry.isNotice = false) (number : Nat) :
    entry.heardBy? number = none := by
  cases entry with
  | notice => exact absurd h.symm Bool.false_ne_true
  | _ => rfl

namespace Scene

/-- The events of which the observer with this number was told. -/
def heardBy (scene : Scene) (number : Nat) : List Event :=
  scene.timeline.filterMap (Entry.heardBy? number)

/-- **The handler is told what is said**, and nothing else. -/
theorem voice_play (estimator : Option Estimator) (scene : Scene) (acts : List Act) :
    (scene.play estimator acts).voice = scene.voice ++ Move.said acts := by
  have hseen (bag : Bag) (earlier : List Call) :
      (bag.seen earlier acts).filter (fun entry => !entry.isNotice) = Move.said acts := by
    induction acts generalizing earlier with
    | nil => rfl
    | cons act rest ih =>
        cases act with
        | tell c =>
            have hnotice (bag : Bag) :
                (c.notice bag).toList.filter (fun entry => !entry.isNotice) = [] := by
              rw [Call.notice]
              split <;> rfl
            rw [Bag.seen, List.filter_append, hnotice, ih]
            rfl
        | say entry voiced =>
            rw [Bag.seen, List.filter_cons_of_pos (by rw [voiced]; rfl), ih]
            rfl
        | _ => exact ih earlier
  rw [voice, timeline_play, List.filter_append, hseen]
  rfl

/-- A notice shows who was called, and on what. -/
theorem heardBy_notice (c : Call) (bag : Bag) (i : Nat) :
    (c.notice bag).toList.filterMap (Entry.heardBy? i)
      = if c.number = i then c.observed?.toList else [] := by
  rw [Call.notice, Call.observed?]
  cases Listener.hookOf c.event with
  | none => simp
  | some hook =>
      cases c.listener with
      | observer o =>
          by_cases hnumber : c.number = i
          · simp [Entry.heardBy?, hnumber]
          · simp [Entry.heardBy?, hnumber]
      | _ => simp

/-- **An observer is told of all that is told**, and of nothing else. -/
theorem heardBy_play (estimator : Option Estimator) (scene : Scene) {script : List Cue}
    (hscript : ∀ event ∈ Move.told script, (Listener.hookOf event).isSome)
    {listeners : List Listener} {i : Nat} {o : Observer}
    (ho : listeners[i]? = some (.observer o)) :
    (scene.play estimator (acts listeners script)).heardBy i
      = scene.heardBy i ++ Move.told script := by
  -- the notices with a number are those of the calls with this number
  have hseen (bag : Bag) (earlier : List Call) (acts : List Act) :
      (bag.seen earlier acts).filterMap (Entry.heardBy? i)
        = ((Move.told acts).filter (·.number == i)).filterMap Call.observed? := by
    induction acts generalizing earlier with
    | nil => rfl
    | cons act rest ih =>
        cases act with
        | tell c =>
            have htold : Move.told (.tell c :: rest) = c :: Move.told rest := rfl
            rw [Bag.seen, List.filterMap_append, heardBy_notice, ih, htold]
            by_cases hnumber : c.number = i
            · rw [if_pos hnumber, List.filter_cons_of_pos (by simpa using hnumber),
                List.filterMap_cons]
              cases c.observed? <;> rfl
            · rw [if_neg hnumber, List.filter_cons_of_neg (by simpa using hnumber)]
              rfl
        | say entry voiced =>
            rw [Bag.seen, List.filterMap_cons_none (Entry.heardBy?_voiced voiced i), ih]
            rfl
        | _ => exact ih earlier
  have hobserved : ((Move.told script).map fun event => Call.mk i (.observer o) event).filterMap
      Call.observed? = Move.told script := by
    rw [List.filterMap_map]
    conv_rhs => rw [← List.filterMap_some (l := Move.told script)]
    refine List.filterMap_congr fun event hevent => ?_
    obtain ⟨hook, hsome⟩ := Option.isSome_iff_exists.mp (hscript event hevent)
    show Call.observed? ⟨i, .observer o, event⟩ = some event
    rw [Call.observed?, hsome]
  rw [heardBy, timeline_play, List.filterMap_append, hseen, Listener.calls_of ho, hobserved]
  rfl

end Scene

-- ── Starts ─────────────────────────────────────────────────────────────────────────

namespace Listener

/-- What a listener raises that is told of a start and finds this bag. -/
def startFault (x : Exchange) (bag : Bag) : Listener → Option Fault
  | .observer o => o.faults (.started x) bag.attributes
  | .logging _ | .silent => none

/-- None of the listeners interrupts the start of a request, where each of them finds the bag
    that those before it have marked. -/
def LetStart (x : Exchange) : List Listener → Bag → Prop
  | [], _ => True
  | listener :: rest, bag =>
    (∀ fault ∈ listener.startFault x bag, fault.isOrdinary = true)
      ∧ LetStart x rest (listener.marks (.started x) bag)

/-- What a listener raises over a start depends on the bag alone. -/
theorem tell_started (listener : Listener) (number : Nat) (x : Exchange) (scene : Scene) :
    (listener.tell number (.started x) scene).1
      = (listener.startFault x scene.bag).elim (.ok ()) .error := by
  cases listener with
  | observer o =>
      have hattributes : scene.bag.attributes = scene.attributes := rfl
      rw [tell.eq_def, startFault, hattributes]
      dsimp only [hookOf]
      cases o.faults (.started x) scene.attributes <;> rfl
  | _ => rfl

/-- **All are told of a start unless one of them interrupts it.** -/
theorem tellFrom_started (listeners : List Listener) (number : Nat) (x : Exchange)
    (scene : Scene) :
    (tellFrom number (.started x) listeners scene).1 = .ok ()
      ↔ LetStart x listeners scene.bag := by
  induction listeners generalizing number scene with
  | nil => exact iff_of_true rfl trivial
  | cons listener rest ih =>
      have htell := listener.tell_started number x scene
      have hmarks := (Scene.shown_tell listener number (.started x) scene).1
      rw [LetStart, ← hmarks, tellFrom]
      generalize listener.tell number (.started x) scene = result at htell ⊢
      obtain ⟨outcome, told⟩ := result
      obtain rfl : outcome = _ := htell
      cases listener.startFault x scene.bag with
      | none =>
          dsimp only [Option.elim_none]
          rw [ih]
          exact (and_iff_right fun fault hfault => absurd hfault (Option.not_mem_none fault)).symm
      | some fault =>
          have hreported : (listener.complain (.started x) fault told).bag = told.bag :=
            (Scene.shown_report told _ _ _ _ _).1
          dsimp only [Option.elim_some]
          by_cases hordinary : fault.isOrdinary = true
          · rw [if_pos hordinary, ih, hreported]
            exact (and_iff_right (Fault.ordinary_some hordinary)).symm
          · rw [if_neg hordinary]
            exact iff_of_false (fun h => (by cases h)) fun h => hordinary (h.1 fault rfl)

/-- Listeners whose faults are all ordinary do not interrupt a start. -/
theorem letStart_of_ordinary {listeners : List Listener} (h : ∀ l ∈ listeners, l.Ordinary)
    (x : Exchange) (bag : Bag) : LetStart x listeners bag := by
  induction listeners generalizing bag with
  | nil => trivial
  | cons listener rest ih =>
      refine ⟨fun fault hfault => ?_, ih (fun l hl => h l (List.mem_cons_of_mem _ hl)) _⟩
      cases listener with
      | observer o => exact h _ List.mem_cons_self (.started x) bag.attributes fault hfault
      | _ => exact nomatch hfault

end Listener

end CompletionStream
