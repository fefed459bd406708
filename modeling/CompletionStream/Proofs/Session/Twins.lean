import CompletionStream.Proofs.Session.Bag
import CompletionStream.Proofs.Session.Scripted

/-!
# Twins — sessions that differ in what they share with others

A session has its attributes for itself, and shares the clock, the log and the counts with other
sessions.  Its `core` is what is left of it without these, and without what was told already.
Sessions with one core are twins: where no listener reads the clock, and texts are counted with
one encoding, an operation comes to the same for both, tells the same, and leaves twins
(`Scripted.twins`).
-/

namespace CompletionStream

/-- The listener reads no clock: all that it knows is the bag. -/
def Listener.Timeless : Listener → Prop
  | .observer _ | .silent => True
  | .logging _ => False

namespace Bag

variable {a b : Bag}

/-- A listener that reads no clock marks the attributes alike, whatever the clock says. -/
theorem marks_timeless {c : Call} (h : c.listener.Timeless) (hab : a.attributes = b.attributes) :
    (c.marks a).attributes = (c.marks b).attributes := by
  rw [Call.marks, Call.marks, Listener.marks.eq_def, Listener.marks.eq_def]
  cases Listener.hookOf c.event with
  | none => exact hab
  | some hook =>
      cases hlistener : c.listener with
      | silent => exact hab
      | logging level => rw [hlistener] at h; exact h.elim
      | observer o => exact congrArg (o.updates c.event) hab

/-- A notice shows the attributes alone. -/
theorem notice_attributes (c : Call) (hab : a.attributes = b.attributes) :
    c.notice a = c.notice b := by
  rw [Call.notice, Call.notice, hab]

theorem after_timeless {calls : List Call} (h : ∀ c ∈ calls, c.listener.Timeless)
    (hab : a.attributes = b.attributes) :
    (a.after calls).attributes = (b.after calls).attributes := by
  induction calls generalizing a b with
  | nil => exact hab
  | cons c rest ih =>
      exact ih (fun c hc => h c (List.mem_cons_of_mem _ hc))
        (marks_timeless (h c List.mem_cons_self) hab)

/-- **What is seen does not depend on the clock** if no listener reads it. -/
theorem seen_timeless {earlier : List Call} {acts : List Act}
    (h : ∀ c ∈ earlier ++ Move.told acts, c.listener.Timeless)
    (hab : a.attributes = b.attributes) : a.seen earlier acts = b.seen earlier acts := by
  induction acts generalizing earlier with
  | nil => rfl
  | cons act rest ih =>
      cases act with
      | tell c =>
          have hcalls : ∀ d ∈ (earlier ++ [c]) ++ Move.told rest, d.listener.Timeless := by
            rw [List.append_assoc]
            exact h
          have hbags : (a.after (earlier ++ [c])).attributes
              = (b.after (earlier ++ [c])).attributes :=
            after_timeless (fun d hd => hcalls d (List.mem_append_left _ hd)) hab
          rw [seen, seen, notice_attributes c hbags, ih hcalls]
      | say entry voiced => rw [seen, seen, ih h]
      | _ => exact ih h

end Bag

/-- Calls are made to the listeners that there are, of the event that is told. -/
theorem Listener.mem_calls {listeners : List Listener} {event : Event} {c : Call}
    (h : c ∈ calls listeners event) : c.listener ∈ listeners ∧ c.event = event := by
  obtain ⟨⟨listener, number⟩, hmem, rfl⟩ := List.mem_map.mp h
  exact ⟨List.fst_mem_of_mem_zipIdx hmem, rfl⟩

theorem Listener.mem_told {listeners : List Listener} {script : List Cue} {c : Call}
    (h : c ∈ Move.told (acts listeners script)) :
    c.listener ∈ listeners ∧ c.event ∈ Move.told script := by
  rw [told_acts] at h
  obtain ⟨event, hevent, hc⟩ := List.mem_flatMap.mp h
  obtain ⟨hlistener, rfl⟩ := mem_calls hc
  exact ⟨hlistener, hevent⟩

/-- The entry is no notice, or the notice of an event that carries this bag. -/
def Entry.IsOf (bag : Nat) : Entry → Prop
  | .notice _ _ event _ => ∃ x, event.exchange? = some x ∧ x.bag = bag
  | .partialText _ | .completion _ | .failure _ => True

/-- A notice is one of the event of its call. -/
theorem Call.notice_isOf {c : Call} {bag : Bag} {entry : Entry} (h : c.notice bag = some entry)
    {number : Nat} (hevent : ∃ x, c.event.exchange? = some x ∧ x.bag = number) :
    entry.IsOf number := by
  rw [Call.notice] at h
  split at h
  · rw [← Option.some.inj h]
    exact hevent
  · exact absurd h.symm (Option.some_ne_none entry)

/-- What is seen are the notices of what is told, and what is said. -/
theorem Bag.seen_isOf {bag : Bag} {number : Nat} {earlier : List Call} {acts : List Act}
    (h : ∀ c ∈ Move.told acts, ∃ x, c.event.exchange? = some x ∧ x.bag = number) :
    ∀ entry ∈ bag.seen earlier acts, entry.IsOf number := by
  induction acts generalizing earlier with
  | nil => exact fun _ hentry => absurd hentry List.not_mem_nil
  | cons act rest ih =>
      intro entry hentry
      cases act with
      | tell c =>
          rcases List.mem_append.mp hentry with hnotice | hrest
          · exact Call.notice_isOf (Option.mem_toList.mp hnotice) (h c List.mem_cons_self)
          · exact ih (fun d hd => h d (List.mem_cons_of_mem _ hd)) entry hrest
      | say said voiced =>
          rcases List.mem_cons.mp hentry with rfl | hrest
          · cases entry with
            | notice => exact nomatch voiced
            | _ => trivial
          · exact ih h entry hrest
      | _ => exact ih h entry hentry

-- ── Twins ──────────────────────────────────────────────────────────────────────────

/-- Listeners that report nothing but to the bag, and whose faults are ordinary. -/
def Client.Discreet (c : Client) : Prop :=
  ∀ l ∈ c.listeners, l.Ordinary ∧ l.Timeless

/-- **What discreet listeners see and leave behind** depends on the attributes alone. -/
theorem Client.Discreet.alike {c : Client} (hc : c.Discreet) (estimator : Option Estimator)
    (script : List Cue) {a b : Scene} (h : a.attributes = b.attributes) :
    a.bag.seen [] (acts c.listeners script) = b.bag.seen [] (acts c.listeners script)
      ∧ (a.play estimator (acts c.listeners script)).attributes
        = (b.play estimator (acts c.listeners script)).attributes := by
  have htimeless : ∀ d ∈ Move.told (acts c.listeners script), d.listener.Timeless :=
    fun d hd => (hc d.listener (Listener.mem_told hd).1).2
  refine ⟨Bag.seen_timeless htimeless h, ?_⟩
  have hafter : (a.bag.after (Move.told (acts c.listeners script))).attributes
      = (b.bag.after (Move.told (acts c.listeners script))).attributes :=
    Bag.after_timeless htimeless h
  rwa [← Scene.bag_play estimator, ← Scene.bag_play estimator] at hafter

/-- Texts are counted with the encoding that a client begins with. -/
def Client.Counts (c : Client) (tally : Tally) : Prop :=
  tally.encodingFor (some c.estimator) = Tally.fresh.encodingFor (some c.estimator)

namespace Session

/-- What a session has for itself, without what it shares with others and what was told. -/
def core (s : Session) : Session :=
  { s with scene := { Scene.fresh [] with attributes := s.scene.attributes } }

/-- A session of a client's request with this number. -/
structure Own (c : Client) (number : Nat) (s : Session) : Prop where
  listeners : s.listeners = c.listeners
  estimator : s.estimator = some c.estimator
  bag : s.exchange.bag = number

/-- An operation came to the same for two sessions and told the same. -/
structure Twins {α : Type} (c : Client) (number : Nat) (s t : Session)
    (first second : α × Session) : Prop where
  result : first.1 = second.1
  core : first.2.core = second.2.core
  own : Own c number first.2
  counts : c.Counts first.2.scene.tally ∧ c.Counts second.2.scene.tally
  entries : ∃ entries, (∀ entry ∈ entries, Entry.IsOf number entry)
    ∧ first.2.scene.timeline = s.scene.timeline ++ entries
    ∧ second.2.scene.timeline = t.scene.timeline ++ entries

/-- **WHAT SESSIONS SHARE REACHES NONE OF THEM.**  A scripted operation comes to the same for
    sessions with one core. -/
theorem Scripted.twins {α : Type} {operation : Session → α × Session}
    (hscripted : ∀ setting s, s.Within setting → Scripted setting operation s) {c : Client}
    (hc : c.Discreet) {number : Nat} {s t : Session} (hs : Own c number s)
    (hcore : s.core = t.core) (hcounts : c.Counts s.scene.tally)
    (hcounts' : c.Counts t.scene.tally) :
    Twins c number s t (operation s) (operation t) := by
  let setting : Setting := ⟨s.exchange, some c.estimator, .fresh⟩
  have hordinary : ∀ l ∈ c.listeners, l.Ordinary := fun l hl => (hc l hl).1
  obtain ⟨result, s', script, hwithin, habout, hstaged⟩ :=
    hscripted setting s ⟨rfl, hs.estimator⟩
  have hself : s = s.staged c.listeners s.scene := by
    rw [← hs.listeners]
    rfl
  have htwin : t = s.staged c.listeners t.scene := by
    have hrestore : { s.core with scene := t.scene } = t := by rw [hcore]; rfl
    rw [← hs.listeners]
    exact hrestore.symm
  have hfirst : operation s = (result,
      s'.staged c.listeners (s.scene.play (some c.estimator) (acts c.listeners script))) :=
    (congrArg operation hself).trans (hstaged c.listeners s.scene hordinary hcounts)
  have hsecond : operation t = (result,
      s'.staged c.listeners (t.scene.play (some c.estimator) (acts c.listeners script))) :=
    (congrArg operation htwin).trans (hstaged c.listeners t.scene hordinary hcounts')
  -- both play the same acts, and what is seen of them depends on the attributes alone
  have hattributes : s.scene.attributes = t.scene.attributes :=
    congrArg (·.scene.attributes) hcore
  obtain ⟨hseen, hbags⟩ := hc.alike (some c.estimator) script hattributes
  rw [hfirst, hsecond]
  refine ⟨rfl, ?_, ?_, ?_, s.scene.bag.seen [] (acts c.listeners script), ?_, ?_, ?_⟩
  · exact congrArg
      (fun attributes => s'.staged c.listeners { Scene.fresh [] with attributes }) hbags
  · exact ⟨rfl, hwithin.estimator, (congrArg (·.bag) hwithin.exchange).trans hs.bag⟩
  · exact ⟨(Scene.encodingFor_play _ _ _).trans hcounts,
      (Scene.encodingFor_play _ _ _).trans hcounts'⟩
  · refine Bag.seen_isOf fun d hd => ⟨s.exchange, ?_, hs.bag⟩
    exact habout d.event (Listener.mem_told hd).2
  · exact Scene.timeline_play _ _ _
  · rw [hseen]
    exact Scene.timeline_play _ _ _

end Session

end CompletionStream
