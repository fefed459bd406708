import CompletionStream.Proofs.Wire.Faults
import CompletionStream.Stream.Session

/-!
# Telling — what a round of listeners leaves behind

An observer leaves one notice for each event it is told of.  A *round* is what all listeners
leave: one notice for every observer, in the order of registration, each with its own number
(`round`).  The attributes that a notice carries are left out here (`Entry.bare`).

If nobody raises an interrupt, telling all listeners comes to nothing but a round
(`tellAll_ordinary`): whoever raises something keeps no other listener from being told, and
what token counting remembers stays as it is.
-/

namespace CompletionStream

/-- Of a single fault that is ordinary, all are. -/
theorem Fault.ordinary_some {fault : Fault} (h : fault.isOrdinary = true) :
    ∀ f ∈ some fault, f.isOrdinary = true := by
  rintro f ⟨⟩
  exact h

/-- What the listener raises is ordinary. -/
def Listener.Ordinary : Listener → Prop
  | .observer o =>
    ∀ event attributes, ∀ fault ∈ o.faults event attributes, fault.isOrdinary = true
  | .logging _ | .silent => True

/-- What the handler raises is ordinary. -/
structure Handler.Ordinary (handler : Handler) : Prop where
  onPartial : ∀ n, ∀ fault ∈ (handler.onPartial n).fault, fault.isOrdinary = true
  onComplete : ∀ fault ∈ handler.onComplete, fault.isOrdinary = true
  onError : ∀ fault ∈ handler.onError, fault.isOrdinary = true

/-- What the estimator raises over a response is ordinary. -/
def Estimator.Ordinary : Estimator → Prop
  | .vocabulary _ _ => True
  | .custom text _ toolCalls =>
    (∀ s fault, text s = .error fault → fault.isOrdinary = true)
      ∧ ∀ calls fault, toolCalls calls = .error fault → fault.isOrdinary = true

/-- An entry without the attributes of its moment. -/
def Entry.bare : Entry → Entry
  | .notice listener name event _ => .notice listener name event []
  | entry => entry

namespace Scene

/-- What handlers and observers were told, without the attributes of each moment. -/
def heard (scene : Scene) : List Entry :=
  scene.timeline.map Entry.bare

/-- Only these entries were added to the timeline, and nothing was counted. -/
structure Adds (entries : List Entry) (scene scene' : Scene) : Prop where
  heard : scene'.heard = scene.heard ++ entries
  tally : scene'.tally = scene.tally

namespace Adds

/-- A scene with the same timeline and the same counts. -/
theorem none {scene scene' : Scene} (htimeline : scene'.timeline = scene.timeline)
    (htally : scene'.tally = scene.tally) : Adds [] scene scene' :=
  ⟨by rw [Scene.heard, htimeline, List.append_nil]; rfl, htally⟩

/-- A scene with one more entry and the same counts. -/
theorem one {scene scene' : Scene} (entry : Entry)
    (htimeline : scene'.timeline = scene.timeline ++ [entry])
    (htally : scene'.tally = scene.tally) : Adds [entry.bare] scene scene' :=
  ⟨by rw [Scene.heard, htimeline, List.map_append]; rfl, htally⟩

theorem refl (scene : Scene) : Adds [] scene scene :=
  none rfl rfl

theorem trans {first second : List Entry} {a b c : Scene} (hab : Adds first a b)
    (hbc : Adds second b c) : Adds (first ++ second) a c :=
  ⟨by rw [hbc.heard, hab.heard, List.append_assoc], hbc.tally.trans hab.tally⟩

theorem report (scene : Scene) (record : LogRecord) : Adds [] scene (scene.report record) :=
  none rfl rfl

theorem add (scene : Scene) (entry : Entry) : Adds [entry.bare] scene (scene.add entry) :=
  one entry rfl rfl

/-- Reading the clock tells nobody anything. -/
theorem now (scene : Scene) : Adds [] scene scene.now.2 := by
  rw [Scene.now.eq_def]
  split
  · exact refl scene
  · exact refl scene
  · exact none rfl rfl

end Adds

end Scene

namespace Listener

open Scene (Adds)

/-- What a listener leaves on the timeline when it is told of an event. -/
def noticed (event : Event) : Listener × Nat → List Entry
  | (.observer o, number) => [.notice number o.name event []]
  | _ => []

/-- What listeners leave when all are told of an event, the first of them with this number. -/
def roundFrom (number : Nat) (event : Event) (listeners : List Listener) : List Entry :=
  (listeners.zipIdx number).flatMap (noticed event)

/-- What all listeners leave when they are told of an event. -/
def round (event : Event) (listeners : List Listener) : List Entry :=
  roundFrom 0 event listeners

theorem roundFrom_cons (number : Nat) (event : Event) (listener : Listener)
    (rest : List Listener) :
    roundFrom number event (listener :: rest)
      = noticed event (listener, number) ++ roundFrom (number + 1) event rest := by
  rw [roundFrom, List.zipIdx_cons, List.flatMap_cons]
  rfl

-- ── The log of requests ────────────────────────────────────────────────────────────

/-- A report tells nobody anything, whether or not its level is kept. -/
theorem adds_report (scene : Scene) (level : Int) (template : String)
    (arguments : List LogArgument) (extra : List (String × Value)) (fault : Option Fault) :
    Adds [] scene (report scene level template arguments extra fault) := by
  rw [report]
  split
  · exact Adds.refl scene
  · exact Adds.report scene _

theorem plain_realNumber (v : Value) : Outcome.Plain (Text.realNumber v) := by
  cases v with
  | float x => exact Outcome.plain_ok x
  | bool b => exact Outcome.plain_ok _
  | int n =>
      rw [Text.realNumber]
      split
      · exact Outcome.plain_ok _
      · exact Outcome.plain_error Fault.plain_overflow
  | _ => exact Outcome.plain_error Fault.plain_wrongType

theorem plain_milliseconds (start stop : Float) : Outcome.Plain (milliseconds start stop) :=
  plain_truncated _

/-- Measuring the time since the start may fail, and tells nobody anything. -/
theorem elapsed_plain (scene : Scene) :
    Outcome.Plain (elapsed scene).1 ∧ Adds [] scene (elapsed scene).2 := by
  rw [elapsed]
  split
  · exact ⟨Outcome.plain_ok none, Adds.refl scene⟩
  · rename_i start _
    cases hstart : Text.realNumber (scene.attributes.getOrNull startTime) with
    | error fault =>
        exact ⟨Outcome.plain_error (plain_realNumber _ fault hstart), Adds.now scene⟩
    | ok t =>
        refine ⟨?_, Adds.now scene⟩
        intro fault hfault
        cases hms : milliseconds t scene.now.1 with
        | error raised =>
            have hraised : raised = fault := by simpa [hms, Except.map] using hfault
            exact hraised ▸ plain_milliseconds _ _ raised hms
        | ok ms => simp [hms, Except.map] at hfault

theorem logEvent_ordinary (level : Int) (event : Event) (scene : Scene) :
    Outcome.Plain (logEvent level event scene).1
      ∧ Adds [] scene (logEvent level event scene).2 := by
  obtain ⟨hplain, hadds⟩ := elapsed_plain scene
  cases event with
  | stray name => exact ⟨Outcome.plain_error Fault.plain_wrongType, Adds.refl scene⟩
  | started x =>
      refine ⟨Outcome.plain_ok (), ?_⟩
      have hstamped : Adds [] scene.now.2
          { scene.now.2 with
              attributes := scene.now.2.attributes.set startTime (.float scene.now.1) } :=
        Adds.none rfl rfl
      exact ((Adds.now scene).trans hstamped).trans (adds_report _ level _ _ _ _)
  | completed x response =>
      rw [logEvent]
      split
      · rename_i fault scene' helapsed
        rw [helapsed] at hplain hadds
        exact ⟨Outcome.plain_error (hplain fault rfl), hadds⟩
      · rename_i ms scene' helapsed
        rw [helapsed] at hadds
        exact ⟨Outcome.plain_ok (), hadds.trans (adds_report _ level _ _ _ _)⟩
  | failed x fault =>
      rw [logEvent]
      split
      · rename_i raised scene' helapsed
        rw [helapsed] at hplain hadds
        exact ⟨Outcome.plain_error (hplain raised rfl), hadds⟩
      · rename_i ms scene' helapsed
        rw [helapsed] at hadds
        exact ⟨Outcome.plain_ok (), hadds.trans (adds_report _ _ _ _ _ _)⟩

-- ── Rounds ─────────────────────────────────────────────────────────────────────────

/-- A listener that is told of an event leaves its notice; what it raises is ordinary. -/
theorem tell_ordinary {listener : Listener} (h : listener.Ordinary) (number : Nat)
    {event : Event} (hhook : (hookOf event).isSome) (scene : Scene) :
    (∀ fault, (listener.tell number event scene).1 = .error fault → fault.isOrdinary = true)
      ∧ Adds (noticed event (listener, number)) scene (listener.tell number event scene).2 := by
  obtain ⟨hook, hsome⟩ := Option.isSome_iff_exists.mp hhook
  rw [tell.eq_def, hsome]
  cases listener with
  | silent => exact ⟨fun fault hfault => (nomatch hfault), Adds.refl scene⟩
  | logging level =>
      obtain ⟨hplain, hadds⟩ := logEvent_ordinary level event scene
      exact ⟨fun fault hfault => (hplain fault hfault).ordinary, hadds⟩
  | observer o =>
      have hnotice (attributes : Members) :
          Adds (noticed event (.observer o, number)) scene
            ({ scene with attributes }.add (.notice number o.name event attributes)) :=
        Adds.one (.notice number o.name event attributes) rfl rfl
      dsimp only
      cases hraised : o.faults event scene.attributes with
      | none => exact ⟨fun fault hfault => (nomatch hfault), hnotice _⟩
      | some raised =>
          refine ⟨?_, hnotice _⟩
          intro fault hfault
          rw [← Except.error.inj hfault]
          exact h event scene.attributes raised hraised

theorem tellFrom_ordinary {listeners : List Listener} (h : ∀ l ∈ listeners, l.Ordinary)
    {event : Event} (hhook : (hookOf event).isSome) (number : Nat) (scene : Scene) :
    ∃ scene', tellFrom number event listeners scene = (.ok (), scene')
      ∧ Adds (roundFrom number event listeners) scene scene' := by
  induction listeners generalizing number scene with
  | nil => exact ⟨scene, rfl, Adds.refl scene⟩
  | cons listener rest ih =>
      obtain ⟨hordinary, hnotice⟩ :=
        tell_ordinary (h listener List.mem_cons_self) number hhook scene
      have hrest (between : Scene) := ih (fun l hl => h l (List.mem_cons_of_mem _ hl))
        (number + 1) between
      rw [tellFrom, roundFrom_cons]
      rcases htell : listener.tell number event scene with ⟨outcome, between⟩
      rw [htell] at hordinary hnotice
      cases outcome with
      | ok u =>
          obtain ⟨scene', htold, hround⟩ := hrest between
          exact ⟨scene', htold, hnotice.trans hround⟩
      | error fault =>
          -- what it raised is reported, and the rest is told as if nothing had happened
          obtain ⟨scene', htold, hround⟩ := hrest (listener.complain event fault between)
          refine ⟨scene', ?_, hnotice.trans ?_⟩
          · dsimp only
            rw [if_pos (hordinary fault rfl), htold]
          · exact (adds_report between _ _ _ _ _).trans hround

/-- **Telling all listeners of an event comes to one round**, whatever they raise. -/
theorem tellAll_ordinary {listeners : List Listener} (h : ∀ l ∈ listeners, l.Ordinary)
    {event : Event} (hhook : (hookOf event).isSome) (scene : Scene) :
    ∃ scene', tellAll listeners event scene = (.ok (), scene')
      ∧ Adds (round event listeners) scene scene' :=
  tellFrom_ordinary h hhook 0 scene

end Listener

namespace Observer

/-- An observer that raises something whatever it is told of. -/
def surly : Observer :=
  ⟨"Surly", "surly", fun _ attributes => attributes, fun _ _ => some .wrongType⟩

theorem surly_ordinary : ∀ l ∈ [Listener.observer surly, .silent], l.Ordinary := by
  intro l hl
  rcases List.mem_cons.mp hl with rfl | hrest
  · intro event attributes fault hfault
    rw [← Option.some.inj hfault]
    rfl
  · rw [List.mem_singleton.mp hrest]
    trivial

end Observer

end CompletionStream
