import CompletionStream.Proofs.Session.Intake

/-!
# Quiet — nothing depends on what was reported

Everything that is told or counted is told and counted alike whatever the log holds: quieting a
session, that is, emptying its log, changes what an operation does to the log and nothing else
(`muted_tell`, `muted_fail`, `muted_complete`, `muted_receive`).  So two sessions that differ in
their logs alone are told apart by nobody.
-/

namespace CompletionStream

/-- A scene without its log. -/
def Scene.quiet (scene : Scene) : Scene :=
  { scene with log := [] }

/-- What came of something, without the log. -/
def Scene.muted {α : Type} (result : α × Scene) : α × Scene :=
  (result.1, result.2.quiet)

theorem Scene.now_quiet (scene : Scene) : scene.quiet.now = muted scene.now := by
  obtain ⟨clock, log, timeline, attributes, tally⟩ := scene
  cases clock with
  | nil => rfl
  | cons t rest => cases rest <;> rfl

namespace Listener

open Scene (muted)

theorem quiet_report (scene : Scene) (level : Int) (template : String)
    (arguments : List LogArgument) (extra : List (String × Value)) (fault : Option Fault) :
    (report scene level template arguments extra fault).quiet = scene.quiet := by
  rw [report]
  split <;> rfl

theorem muted_elapsed (scene : Scene) : muted (elapsed scene) = muted (elapsed scene.quiet) := by
  have hattributes : scene.quiet.attributes = scene.attributes := rfl
  rw [elapsed, elapsed, hattributes, Scene.now_quiet]
  split
  · rfl
  · cases Text.realNumber (scene.attributes.getOrNull startTime) <;> rfl

/-- A report that needs the time since the start. -/
theorem muted_elapsed_then (scene : Scene) {reported : Option Int → Scene → Scene}
    (hreported : ∀ ms scene, (reported ms scene).quiet = scene.quiet) :
    muted (match elapsed scene with
      | (.error fault, scene) => ((.error fault : Outcome Unit), scene)
      | (.ok ms, scene) => (.ok (), reported ms scene))
      = muted (match elapsed scene.quiet with
        | (.error fault, scene) => (.error fault, scene)
        | (.ok ms, scene) => (.ok (), reported ms scene)) := by
  have helapsed := muted_elapsed scene
  rcases h₁ : elapsed scene with ⟨outcome, scene₁⟩
  rcases h₂ : elapsed scene.quiet with ⟨outcome', scene₂⟩
  rw [h₁, h₂] at helapsed
  obtain ⟨houtcome, hquiet⟩ := Prod.mk.inj helapsed
  dsimp only at houtcome hquiet
  subst houtcome
  cases outcome with
  | error fault => exact congrArg (Prod.mk _) hquiet
  | ok ms =>
      dsimp only [muted]
      rw [hreported, hreported, hquiet]

theorem muted_logEvent (level : Int) (event : Event) (scene : Scene) :
    muted (logEvent level event scene) = muted (logEvent level event scene.quiet) := by
  cases event with
  | stray name => rfl
  | started x =>
      rw [logEvent, logEvent, Scene.now_quiet]
      dsimp only [muted]
      rw [quiet_report, quiet_report]
      rfl
  | completed x response =>
      exact muted_elapsed_then scene fun ms scene => quiet_report scene level _ _ _ _
  | failed x fault =>
      exact muted_elapsed_then scene fun ms scene => quiet_report scene _ _ _ _ _

theorem muted_tell (listener : Listener) (number : Nat) (event : Event) (scene : Scene) :
    muted (listener.tell number event scene)
      = muted (listener.tell number event scene.quiet) := by
  rw [tell.eq_def, tell.eq_def]
  cases hookOf event with
  | none => rfl
  | some hook =>
      cases listener with
      | silent => rfl
      | logging level => exact muted_logEvent level event scene
      | observer o =>
          have hattributes : scene.quiet.attributes = scene.attributes := rfl
          dsimp only
          rw [hattributes]
          cases o.faults event scene.attributes <;> rfl

theorem muted_tellFrom (number : Nat) (event : Event) (listeners : List Listener)
    (scene : Scene) :
    muted (tellFrom number event listeners scene)
      = muted (tellFrom number event listeners scene.quiet) := by
  induction listeners generalizing number scene with
  | nil => rfl
  | cons listener rest ih =>
      have htell := muted_tell listener number event scene
      rw [tellFrom, tellFrom]
      rcases h₁ : listener.tell number event scene with ⟨outcome, scene₁⟩
      rcases h₂ : listener.tell number event scene.quiet with ⟨outcome', scene₂⟩
      rw [h₁, h₂] at htell
      obtain ⟨houtcome, hquiet⟩ := Prod.mk.inj htell
      dsimp only at houtcome hquiet
      subst houtcome
      cases outcome with
      | ok u =>
          dsimp only
          rw [ih (number + 1) scene₁, hquiet, ← ih (number + 1) scene₂]
      | error fault =>
          dsimp only
          by_cases hordinary : fault.isOrdinary = true
          · rw [if_pos hordinary, if_pos hordinary,
              ih (number + 1) (listener.complain event fault scene₁),
              ih (number + 1) (listener.complain event fault scene₂), complain, complain,
              quiet_report, quiet_report, hquiet]
          · rw [if_neg hordinary, if_neg hordinary]
            exact congrArg (Prod.mk _) hquiet

end Listener

namespace Session

/-- A session without its log. -/
def quiet (s : Session) : Session :=
  { s with scene := s.scene.quiet }

/-- What came of an operation, without the log. -/
def muted {α : Type} (result : α × Session) : α × Session :=
  (result.1, result.2.quiet)

/-- What follows an operation does not look at the log either. -/
theorem muted_andThen {first second : Outcome Unit × Session} (h : muted first = muted second)
    {next : Session → Outcome Unit × Session}
    (hnext : ∀ s, muted (next s) = muted (next s.quiet)) :
    muted (match first with
      | (.error fault, s) => (.error fault, s)
      | (.ok (), s) => next s)
      = muted (match second with
      | (.error fault, s) => (.error fault, s)
      | (.ok (), s) => next s) := by
  rcases first with ⟨outcome, s⟩
  rcases second with ⟨outcome', s'⟩
  obtain ⟨houtcome, hquiet⟩ := Prod.mk.inj h
  dsimp only at houtcome hquiet
  subst houtcome
  cases outcome with
  | error fault => exact congrArg (Prod.mk _) hquiet
  | ok u =>
      dsimp only
      rw [hnext s, hquiet, ← hnext s']

theorem muted_tell (s : Session) (event : Event) :
    muted (s.tell event) = muted (s.quiet.tell event) := by
  have htell := Listener.muted_tellFrom 0 event s.listeners s.scene
  obtain ⟨houtcome, hscene⟩ := Prod.mk.inj htell
  show ((Listener.tellFrom 0 event s.listeners s.scene).1,
      { s with scene := (Listener.tellFrom 0 event s.listeners s.scene).2.quiet })
    = ((Listener.tellFrom 0 event s.listeners s.scene.quiet).1,
      { s with scene := (Listener.tellFrom 0 event s.listeners s.scene.quiet).2.quiet })
  rw [houtcome, hscene]

theorem muted_conclude (entry : Entry) (callback : String) (raised : Option Fault)
    (s : Session) :
    muted (s.conclude entry callback raised)
      = muted (s.quiet.conclude entry callback raised) := by
  cases raised with
  | none => rfl
  | some fault =>
      rw [conclude, conclude]
      split <;> rfl

theorem muted_close {s t : Session} (h : s.quiet = t.quiet) (event : Event) (entry : Entry)
    (callback : String) (raised : Handler → Option Fault) :
    muted (s.close event entry callback raised)
      = muted (t.close event entry callback raised) := by
  refine muted_andThen ?_ fun s => muted_conclude entry callback (raised s.handler) s
  rw [muted_tell s, h, ← muted_tell t]

theorem muted_fail (s : Session) (fault : Fault) :
    muted (s.fail fault) = muted (s.quiet.fail fault) := by
  cases hended : s.ended with
  | true =>
      have hquiet : s.quiet.ended = true := hended
      rw [fail_ended hended, fail_ended hquiet]
      rfl
  | false =>
      have hquiet : s.quiet.ended = false := hended
      rw [fail_open hended, fail_open hquiet]
      exact muted_close (by rfl) _ _ _ _

theorem muted_deliver (s : Session) (response : Response) :
    muted (s.deliver response) = muted (s.quiet.deliver response) := by
  rw [deliver_eq, deliver_eq]
  exact muted_close (by rfl) _ _ _ _

theorem muted_finalize (s : Session) : muted s.finalize = muted s.quiet.finalize := rfl

theorem muted_complete (s : Session) : muted s.complete = muted s.quiet.complete := by
  cases hended : s.ended with
  | true =>
      have hquiet : s.quiet.ended = true := hended
      rw [complete_ended hended, complete_ended hquiet]
      rfl
  | false =>
      have hquiet : s.quiet.ended = false := hended
      have hfinalize := muted_finalize s
      rw [complete, complete, hended, hquiet]
      rcases h₁ : s.finalize with ⟨outcome, s₁⟩
      rcases h₂ : s.quiet.finalize with ⟨outcome', s₂⟩
      rw [h₁, h₂] at hfinalize
      obtain ⟨houtcome, hsame⟩ := Prod.mk.inj hfinalize
      dsimp only at houtcome hsame
      subst houtcome
      cases outcome with
      | ok response =>
          show muted (s₁.deliver response) = muted (s₂.deliver response)
          rw [muted_deliver s₁, hsame, ← muted_deliver s₂]
      | error fault =>
          show muted (if fault.isOrdinary then s₁.fail fault else (.error fault, s₁))
            = muted (if fault.isOrdinary then s₂.fail fault else (.error fault, s₂))
          split
          · rw [muted_fail s₁, hsame, ← muted_fail s₂]
          · exact congrArg (Prod.mk _) hsame

theorem muted_settle (s : Session) (fault : Option Fault) :
    muted (s.settle fault) = muted (s.quiet.settle fault) := by
  cases fault with
  | none => exact muted_complete s
  | some fault =>
      rw [settle, settle]
      split
      · exact muted_fail s fault
      · rfl

theorem quiet_after (s : Session) (chunk : PartialChunk) :
    (s.after chunk).quiet = (s.quiet.after chunk).quiet := by
  rw [after, after]
  cases spoken chunk.text <;> rfl

/-- A chunk reaches a session that streams, whatever its log holds. -/
theorem muted_receive {s : Session} (hphase : s.phase = .streaming)
    (hopen : s.accumulator.finalized = false) (chunk : PartialChunk) :
    muted (s.receive (.next chunk)) = muted (s.quiet.receive (.next chunk)) := by
  have hquiet : s.quiet.phase = .streaming := hphase
  have hreaction : s.quiet.reaction chunk = s.reaction chunk := rfl
  rw [receive_streaming hphase hopen, receive_streaming hquiet hopen, hreaction]
  cases (s.reaction chunk).raises with
  | none => exact congrArg (Prod.mk _) (quiet_after s chunk)
  | some fault =>
      dsimp only
      rw [muted_settle, quiet_after, ← muted_settle]

end Session

end CompletionStream
