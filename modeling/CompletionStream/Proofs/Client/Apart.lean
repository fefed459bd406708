import CompletionStream.Proofs.Client.Protocol
import CompletionStream.Proofs.Client.Script
import CompletionStream.Proofs.Session.AnyOrder
import CompletionStream.Proofs.Session.Pulled
import CompletionStream.Proofs.Session.Twins
import CompletionStream.Stream.Switchboard

/-!
# Apart — requests of one client do not leak into each other

Requests on a switchboard share a client, a clock, a log and the counts.  The `view` of a request
is all that is its own: what was heard of it, and the core of its session.

An action is a scripted operation on one session, so on two switchboards that have the same view
of its request it leaves the same view (`act_own`), and no other request sees anything of it
(`act_other`).  By induction on the actions, the view of a request is what its own actions alone
would have made of it (`view_run`).  Such actions are the request and then its signals, which
come to what a source would have come to that sends all of them at once (`heardOf_alone`).

For requests that follow one another nothing has to be projected: all that is left of the earlier
ones is the counts (`chats_same`).
-/

namespace CompletionStream

open Session (Own Twins Scripted)

/-- Where all faults are ordinary, what is raised is known to be ordinary. -/
theorem Session.Orderly.vouched {s : Session} (h : s.Orderly) :
    s.Vouched (·.isOrdinary = true) where
  listeners l hl := by
    have hordinary := h.listeners l hl
    cases l with
    | observer o => exact hordinary
    | _ => trivial
  handler := ⟨h.handler.onPartial, h.handler.onComplete, h.handler.onError⟩
  estimator e he := by
    have hordinary := h.estimator e he
    cases e with
    | vocabulary => trivial
    | custom => exact hordinary

-- ── What an action does ────────────────────────────────────────────────────────────

/-- Something came to the same for a request on two scenes: the same was told, and the sessions
    that it left are twins. -/
structure Effects (c : Client) (number : Nat) (a b : Scene)
    (first second : Option Session × Scene) : Prop where
  core : first.1.map Session.core = second.1.map Session.core
  own : ∀ s ∈ first.1, Own c number s
  counts : c.Counts first.2.tally ∧ c.Counts second.2.tally
  entries : ∃ entries, (∀ entry ∈ entries, Entry.IsOf number entry)
    ∧ first.2.timeline = a.timeline ++ entries ∧ second.2.timeline = b.timeline ++ entries

/-- What an operation does to twins. -/
theorem Session.Twins.effects {α : Type} {c : Client} {number : Nat} {s t : Session}
    {first second : α × Session} (h : Twins c number s t first second) :
    Effects c number s.scene t.scene (some first.2, first.2.scene)
      (some second.2, second.2.scene) where
  core := congrArg some h.core
  own := by
    rintro _ ⟨⟩
    exact h.own
  counts := h.counts
  entries := h.entries

namespace Client

/-- What a source is asked for that takes a request up and calls later. -/
def awaiting (opening : Options → Opening Unit) (deliveries : List Delivery) (o : Options) :
    Opening PushSource :=
  ⟨(opening o).log, (opening o).outcome.map fun _ => .inline deliveries⟩

/-- The run of a request whose source calls later. -/
def awaited (c : Client) (p : Prepared) (opening : Options → Opening Unit)
    (deliveries : List Delivery) (s : Session) : (Outcome Unit × Option PullReport) × Session :=
  ran (.push (awaiting opening deliveries)) p.options
    (c.announce p .async (s.tell (.started s.exchange)).2)

/-- A session that is about to be handed to its source. -/
def readied (c : Client) (p : Prepared) (opening : Options → Opening Unit) (s : Session) :
    Session :=
  reportAll (c.announce p .async (s.tell (.started s.exchange)).2) (opening p.options).log

theorem awaited_eq (c : Client) (p : Prepared) (opening : Options → Opening Unit)
    (deliveries : List Delivery) (s : Session) :
    (c.awaited p opening deliveries s).2 = ((c.readied p opening s).push
      ((opening p.options).outcome.map fun _ => .inline deliveries)).2 := rfl

/-- A source that fails to take the request up ends the session. -/
theorem awaited_failed {p : Prepared} {opening : Options → Opening Unit} {fault : Fault}
    (h : (opening p.options).outcome = .error fault) (hordinary : fault.isOrdinary = true)
    (c : Client) (deliveries : List Delivery) (s : Session) :
    (c.awaited p opening deliveries s).2 = ((c.readied p opening s).fail fault).2 := by
  rw [awaited_eq, h]
  exact congrArg Prod.snd (if_pos hordinary)

/-- A source whose calls all go well leaves the session as the last of them did. -/
theorem awaited_taken {p : Prepared} {opening : Options → Opening Unit} {u : Unit}
    (h : (opening p.options).outcome = .ok u) {c : Client} {deliveries : List Delivery}
    {s t : Session}
    (hdeliver : Session.deliverAll deliveries (c.readied p opening s).start = (.ok (), t)) :
    (c.awaited p opening deliveries s).2 = t := by
  rw [awaited_eq, h]
  show ((c.readied p opening s).push (.ok (.inline deliveries))).2 = t
  rw [Session.push, Session.subscribe, hdeliver]

section

variable {c : Client} (hc : c.Discreet) {r : ChatRequest} {scene counted : Scene} {p : Prepared}
  (hprepare : c.prepare r scene = (.ok p, counted)) (opening : Options → Opening Unit)
  (handler : Handler) (number : Nat)

include hc in
/-- Discreet listeners let a request start. -/
theorem started_ok (p : Prepared) (counted : Scene) (handler : Handler) (number : Nat) :
    (c.session p handler number counted).tell
        (.started (c.session p handler number counted).exchange)
      = (.ok (), ((c.session p handler number counted).tell
          (.started (c.session p handler number counted).exchange)).2) := by
  let s := c.session p handler number counted
  have hstaged : s.tell (.started s.exchange) = (.ok (), _) :=
    s.staged_tell counted.unmarked (fun l hl => (hc l hl).1) (some c.estimator)
      (.started s.exchange)
  exact Prod.ext (by rw [hstaged]) rfl

include hc hprepare

/-- A prepared request is launched by telling its listeners and running its session. -/
theorem launch_prepared :
    c.launch opening r handler number scene
      = (some (c.awaited p opening [] (c.session p handler number counted)).2,
          (c.awaited p opening [] (c.session p handler number counted)).2.scene) := by
  have htell := started_ok hc p counted handler number
  rw [launch, hprepare]
  dsimp only
  rw [htell]
  rfl

/-- The same request, made over a source that calls at once. -/
theorem chat_awaited (deliveries : List Delivery) :
    (c.chat (.push (awaiting opening deliveries)) r handler number scene).2.scene
      = (c.awaited p opening deliveries (c.session p handler number counted)).2.scene := by
  rw [chat_eq_run hprepare (.push (awaiting opening deliveries)) handler number
    (started_ok hc p counted handler number), run_eq]
  rfl

end

theorem session_own (c : Client) (p : Prepared) (handler : Handler) (number : Nat)
    (scene : Scene) : Own c number (c.session p handler number scene) :=
  ⟨rfl, rfl, rfl⟩

/-- Sessions of a prepared request differ in what they share with others: a bag of its own each
    of them gets. -/
theorem core_session (c : Client) (p : Prepared) (handler : Handler) (number : Nat)
    (a b : Scene) : (c.session p handler number a).core = (c.session p handler number b).core :=
  rfl

theorem scripted_awaited (c : Client) (p : Prepared) (opening : Options → Opening Unit)
    (deliveries : List Delivery) {setting : Setting} {s : Session} (h : s.Within setting) :
    Scripted setting (c.awaited p opening deliveries) s := by
  have hstarted : (Event.started s.exchange).exchange? = some setting.exchange :=
    congrArg some h.exchange
  have htell : Scripted setting (fun s => s.tell (.started s.exchange)) s :=
    (Session.scripted_tell h hstarted).congr fun listeners scene => rfl
  exact htell.bind fun _ s' hs' =>
    c.scripted_request p (.push (awaiting opening deliveries)) hs'

/-- **A request is launched alike**, whatever the clients other requests have left. -/
theorem launch_effects {c : Client} (hc : c.Discreet) (opening : Options → Opening Unit)
    (r : ChatRequest) (handler : Handler) (number : Nat) {a b : Scene}
    (ha : c.Counts a.tally) (hb : c.Counts b.tally) :
    Effects c number a b (c.launch opening r handler number a)
      (c.launch opening r handler number b) := by
  obtain ⟨prepared, counting, hsecret, hprepare⟩ := c.prepare_script r Tally.fresh
  have hpa := hprepare [] a ha
  have hpb := hprepare [] b hb
  -- counting tells nobody anything
  have hta := (a.play_secret (some c.estimator) [] hsecret).1
  have htb := (b.play_secret (some c.estimator) [] hsecret).1
  have hca : c.Counts (a.play (some c.estimator) (acts [] counting)).tally :=
    (Scene.encodingFor_play _ _ _).trans ha
  have hcb : c.Counts (b.play (some c.estimator) (acts [] counting)).tally :=
    (Scene.encodingFor_play _ _ _).trans hb
  cases prepared with
  | error fault =>
      rw [launch, launch, hpa, hpb]
      refine ⟨rfl, fun s hs => (nomatch hs), ⟨hca, hcb⟩, [], fun _ h => (nomatch h), ?_, ?_⟩
      · rw [List.append_nil]
        exact hta
      · rw [List.append_nil]
        exact htb
  | ok p =>
      rw [launch_prepared hc hpa opening, launch_prepared hc hpb opening]
      have htwins := (Scripted.twins (fun _ _ hs => c.scripted_awaited p opening [] hs) hc
        (session_own c p handler number _) (core_session c p handler number _ _) hca hcb).effects
      obtain ⟨entries, hof, hfirst, hsecond⟩ := htwins.entries
      exact ⟨htwins.core, htwins.own, htwins.counts, entries, hof,
        hfirst.trans (congrArg (· ++ entries) hta), hsecond.trans (congrArg (· ++ entries) htb)⟩

end Client

/-- Whether an entry of a switchboard's timeline belongs to a request: a notice belongs to the
    request whose bag its event carries, and what a handler was told to the request in which it
    was told. -/
def Entry.belongs (number : Nat) : Nat × Entry → Bool
  | (_, .notice _ _ event _) => event.exchange?.any (·.bag == number)
  | (tag, _) => tag == number

namespace Switchboard

/-- What was heard of a request. -/
def heardOf (board : Switchboard) (number : Nat) : List Entry :=
  (board.timeline.filter (Entry.belongs number)).map Prod.snd

/-- The sessions of a switchboard are of the client's requests, and texts are counted with the
    encoding that the client begins with. -/
structure Sound (c : Client) (board : Switchboard) : Prop where
  own : ∀ number, ∀ s ∈ board.sessions number, Own c number s
  counts : c.Counts board.tally

theorem sound_fresh (c : Client) (clock : List Float) : Sound c (fresh clock) :=
  ⟨fun _ _ hs => (nomatch hs), rfl⟩

/-- All that a switchboard has of one request. -/
def view (board : Switchboard) (number : Nat) : List Entry × Option Session :=
  (board.heardOf number, (board.sessions number).map Session.core)

/-- What came up in a request belongs to it alone. -/
theorem belongs_isOf {entry : Entry} {tag : Nat} (h : entry.IsOf tag) (number : Nat) :
    Entry.belongs number (tag, entry) = (tag == number) := by
  cases entry with
  | notice n name event attributes =>
      obtain ⟨x, hx, rfl⟩ := h
      show event.exchange?.any (·.bag == number) = _
      rw [hx]
      rfl
  | _ => rfl

/-- Keeping what a request has left adds what was told in it, and nothing to any other. -/
theorem heardOf_keep {board : Switchboard} {tag : Nat} {session : Option Session} {scene : Scene}
    (h : ∀ entry ∈ scene.timeline, Entry.IsOf tag entry) (number : Nat) :
    (board.keep tag session scene).heardOf number
      = board.heardOf number ++ if tag = number then scene.timeline else [] := by
  have hadded : ((scene.timeline.map fun entry => (tag, entry)).filter
      (Entry.belongs number)).map Prod.snd = if tag = number then scene.timeline else [] := by
    have hbelongs : scene.timeline.filter (Entry.belongs number ∘ fun entry => (tag, entry))
        = scene.timeline.filter fun _ => tag == number :=
      List.filter_congr fun entry hentry => belongs_isOf (h entry hentry) number
    have hsnd : (Prod.snd ∘ fun entry : Entry => (tag, entry)) = id := rfl
    rw [List.filter_map, List.map_map, hbelongs, hsnd, List.map_id]
    by_cases htag : tag = number
    · simp [htag]
    · simp [htag]
  rw [heardOf, keep, List.filter_append, List.map_append, hadded]
  rfl

theorem sessions_keep_self (board : Switchboard) (tag : Nat) (session : Option Session)
    (scene : Scene) : (board.keep tag session scene).sessions tag = session :=
  if_pos rfl

theorem sessions_keep_other (board : Switchboard) {tag number : Nat} (h : number ≠ tag)
    (session : Option Session) (scene : Scene) :
    (board.keep tag session scene).sessions number = board.sessions number :=
  if_neg h

section

variable {c : Client} {a b : Switchboard} {tag : Nat} {first second : Option Session × Scene}
  {sa sb : Scene}

theorem sound_keep (h : Effects c tag sa sb first second) (ha : Sound c a) :
    Sound c (a.keep tag first.1 first.2) where
  own number s hs := by
    by_cases htag : number = tag
    · subst htag
      rw [sessions_keep_self] at hs
      exact h.own s hs
    · rw [sessions_keep_other a htag] at hs
      exact ha.own number s hs
  counts := h.counts.1

/-- What was done to a request on two switchboards shows alike on both. -/
theorem view_keep (h : Effects c tag sa sb first second) (hsa : sa.timeline = [])
    (hsb : sb.timeline = []) (hview : a.view tag = b.view tag) :
    (a.keep tag first.1 first.2).view tag = (b.keep tag second.1 second.2).view tag := by
  obtain ⟨entries, hof, hfirst, hsecond⟩ := h.entries
  rw [hsa, List.nil_append] at hfirst
  rw [hsb, List.nil_append] at hsecond
  have hheard : a.heardOf tag = b.heardOf tag := congrArg Prod.fst hview
  rw [view, view, heardOf_keep (hfirst ▸ hof), heardOf_keep (hsecond ▸ hof),
    sessions_keep_self, sessions_keep_self, if_pos rfl, if_pos rfl, h.core, hfirst, hsecond,
    hheard]

/-- What was done to a request does not show in any other. -/
theorem view_keep_other (h : Effects c tag sa sb first second) (hsa : sa.timeline = [])
    {number : Nat} (hother : number ≠ tag) :
    (a.keep tag first.1 first.2).view number = a.view number := by
  obtain ⟨entries, hof, hfirst, -⟩ := h.entries
  rw [hsa, List.nil_append] at hfirst
  rw [view, heardOf_keep (hfirst ▸ hof), if_neg (Ne.symm hother), List.append_nil,
    sessions_keep_other a hother]
  rfl

end

-- ── Actions ────────────────────────────────────────────────────────────────────────

variable {c : Client}

/-- The session of a request that takes a signal on a switchboard. -/
def signalled (board : Switchboard) (s : Session) (signal : Signal) : Session :=
  ({ s with scene := board.scene s.scene.attributes }.receive signal).2

theorem act_signal {board : Switchboard} {number : Nat} {s : Session}
    (h : board.sessions number = some s) (signal : Signal) :
    board.act c (.signal number signal)
      = board.keep number (some (board.signalled s signal)) (board.signalled s signal).scene := by
  rw [act, h]
  rfl

theorem signal_effects (hc : c.Discreet) {a b : Switchboard} (ha : Sound c a) (hb : Sound c b)
    {number : Nat} {s t : Session} (hs : a.sessions number = some s) (hcore : s.core = t.core)
    (signal : Signal) :
    Effects c number (a.scene s.scene.attributes) (b.scene t.scene.attributes)
      (some (a.signalled s signal), (a.signalled s signal).scene)
      (some (b.signalled t signal), (b.signalled t signal).scene) := by
  have hown := ha.own number s hs
  have htwins : Twins c number { s with scene := a.scene s.scene.attributes }
      { t with scene := b.scene t.scene.attributes } _ _ :=
    Scripted.twins (fun _ _ h => Session.scripted_receive signal h) hc
      ⟨hown.listeners, hown.estimator, hown.bag⟩ hcore ha.counts hb.counts
  exact htwins.effects

/-- **An action shows in its own request alone.** -/
theorem act_other (hc : c.Discreet) {board : Switchboard} (h : Sound c board) (action : Action) :
    Sound c (board.act c action)
      ∧ ∀ number, number ≠ action.number →
        (board.act c action).view number = board.view number := by
  cases action with
  | request tag opening r handler =>
      have heffects : Effects c tag (board.scene []) (board.scene []) _ _ :=
        Client.launch_effects hc opening r handler tag h.counts h.counts
      exact ⟨sound_keep heffects h, fun number hother => view_keep_other heffects rfl hother⟩
  | signal tag signal =>
      cases hs : board.sessions tag with
      | none =>
          rw [act, hs]
          exact ⟨h, fun _ _ => rfl⟩
      | some s =>
          have heffects := signal_effects hc h h hs rfl signal
          rw [act_signal hs]
          exact ⟨sound_keep heffects h, fun number hother => view_keep_other heffects rfl hother⟩

/-- **An action makes the same of what is in view**, whatever else there is. -/
theorem act_own (hc : c.Discreet) {a b : Switchboard} (ha : Sound c a) (hb : Sound c b)
    (action : Action) (hview : a.view action.number = b.view action.number) :
    (a.act c action).view action.number = (b.act c action).view action.number := by
  cases action with
  | request tag opening r handler =>
      exact view_keep (Client.launch_effects hc opening r handler tag ha.counts hb.counts)
        rfl rfl hview
  | signal tag signal =>
      have hsessions : (a.sessions tag).map Session.core = (b.sessions tag).map Session.core :=
        congrArg Prod.snd hview
      cases hs : a.sessions tag with
      | none =>
          rw [hs] at hsessions
          have ht : b.sessions tag = none := Option.map_eq_none_iff.mp hsessions.symm
          rw [act, act, hs, ht]
          exact hview
      | some s =>
          rw [hs] at hsessions
          obtain ⟨t, ht, hcore⟩ := Option.map_eq_some_iff.mp hsessions.symm
          rw [act_signal hs, act_signal ht]
          exact view_keep (signal_effects hc ha hb hs hcore.symm signal) rfl rfl hview

-- ── Runs ───────────────────────────────────────────────────────────────────────────

/-- **What is in view of a request is what its own actions have made of it**, in whatever order
    they come with those of others. -/
theorem view_run (hc : c.Discreet) (number : Nat) (actions : List Action) {a b : Switchboard}
    (ha : Sound c a) (hb : Sound c b) (hview : a.view number = b.view number) :
    (a.run c actions).view number
      = (b.run c (actions.filter (·.number == number))).view number := by
  induction actions generalizing a b with
  | nil => exact hview
  | cons action rest ih =>
      obtain ⟨ha', hother⟩ := act_other hc ha action
      by_cases hnumber : action.number = number
      · subst hnumber
        rw [List.filter_cons_of_pos (by simp)]
        exact ih ha' (act_other hc hb action).1 (act_own hc ha hb action hview)
      · rw [List.filter_cons_of_neg (by simpa using hnumber)]
        exact ih ha' hb ((hother number (Ne.symm hnumber)).trans hview)

-- ── A request alone ────────────────────────────────────────────────────────────────

/-- A session whose faults are all ordinary takes every signal. -/
theorem receive_ok {s : Session} (h : s.Vouched (·.isOrdinary = true)) (signal : Signal) :
    (s.receive signal).1 = .ok () ∧ (s.receive signal).2.Vouched (·.isOrdinary = true) := by
  obtain ⟨htight, hvouched⟩ := Session.receive_guarded h signal
  refine ⟨?_, hvouched⟩
  cases houtcome : (s.receive signal).1 with
  | ok u => rfl
  | error fault =>
      obtain ⟨hinterrupt, hordinary⟩ := htight fault houtcome
      exact absurd (hinterrupt.symm.trans hordinary) Bool.false_ne_true

/-- Signals on a switchboard come to what they come to as deliveries at once. -/
theorem heardOf_signals (hc : c.Discreet) {number : Nat} (signals : List Signal)
    {board : Switchboard} (hboard : Sound c board) {s t : Session} (hs : Own c number s)
    (hcounts : c.Counts s.scene.tally) (hvouched : s.Vouched (·.isOrdinary = true))
    (ht : board.sessions number = some t) (hcore : s.core = t.core)
    (hheard : board.heardOf number = s.scene.timeline) :
    (Session.deliverAll (signals.map .signal) s).1 = .ok ()
      ∧ (board.run c (signals.map (.signal number))).heardOf number
        = (Session.deliverAll (signals.map .signal) s).2.scene.timeline := by
  induction signals generalizing board s t with
  | nil => exact ⟨rfl, hheard⟩
  | cons signal rest ih =>
      have htwins : Twins c number s { t with scene := board.scene t.scene.attributes } _ _ :=
        Scripted.twins (fun _ _ h => Session.scripted_receive signal h) hc hs hcore hcounts
          hboard.counts
      obtain ⟨entries, hof, hfirst, hsecond⟩ := htwins.entries
      obtain ⟨hok, hvouched'⟩ := receive_ok hvouched signal
      have hdeliver : Session.deliverAll ((signal :: rest).map .signal) s
          = Session.deliverAll (rest.map .signal) (s.receive signal).2 := by
        have hreceive : s.receive signal = (.ok (), (s.receive signal).2) := Prod.ext hok rfl
        rw [List.map_cons, Session.deliverAll, hreceive]
      rw [hdeliver]
      refine ih (act_other hc hboard (.signal number signal)).1 htwins.own htwins.counts.1
        hvouched' ?_ htwins.core ?_
      · rw [act_signal ht]
        exact sessions_keep_self _ _ _ _
      · have htold : (board.signalled t signal).scene.timeline = entries := hsecond
        rw [act_signal ht, heardOf_keep (htold ▸ hof), if_pos rfl, hheard, htold, hfirst]

/-- Nothing is heard of a request that has no session. -/
theorem run_none {number : Nat} (signals : List Signal) {board : Switchboard}
    (h : board.sessions number = none) :
    board.run c (signals.map (.signal number)) = board := by
  induction signals with
  | nil => rfl
  | cons signal rest ih =>
      have hact : board.act c (.signal number signal) = board := by rw [act, h]
      show (board.act c (.signal number signal)).run c (rest.map (.signal number)) = board
      rw [hact, ih]

/-- Nothing is heard of a request once its session has ended. -/
theorem heardOf_ended {number : Nat} (signals : List Signal) {board : Switchboard} {s : Session}
    (hs : board.sessions number = some s) (hended : s.ended = true) :
    (board.run c (signals.map (.signal number))).heardOf number = board.heardOf number := by
  induction signals generalizing board s with
  | nil => rfl
  | cons signal rest ih =>
      obtain ⟨s', hstep, hphase, htimeline⟩ :=
        @Session.step_ended { s with scene := board.scene s.scene.attributes } hended 0 signal
      have hsignalled : board.signalled s signal = s' := congrArg Prod.snd hstep
      have hquiet : (board.signalled s signal).scene.timeline = [] := by
        rw [hsignalled, htimeline]
        rfl
      have hstill : (board.signalled s signal).ended = true := by
        rw [hsignalled, Session.ended, hphase]
        exact hended
      have hnext : (board.act c (.signal number signal)).sessions number
          = some (board.signalled s signal) := by
        rw [act_signal hs]
        exact sessions_keep_self _ _ _ _
      refine (ih hnext hstill).trans ?_
      rw [act_signal hs, heardOf_keep (by rw [hquiet]; exact List.forall_mem_nil _), hquiet,
        ite_self, List.append_nil]

/-- **A request alone on a switchboard is a request to a source that calls at once.** -/
theorem heardOf_alone (hc : c.Discreet) (hestimator : c.estimator.Ordinary)
    {handler : Handler} (hhandler : handler.Ordinary) {opening : Options → Opening Unit}
    (hopening : ∀ o fault, (opening o).outcome = .error fault → fault.isOrdinary = true)
    (r : ChatRequest) (number : Nat) (signals : List Signal) (clock : List Float) :
    ((fresh clock).run c
        (.request number opening r handler :: signals.map (.signal number))).heardOf number
      = (c.chat (.push (Client.awaiting opening (signals.map .signal))) r handler number
          (.fresh clock)).2.scene.timeline := by
  let launched := c.launch opening r handler number (.fresh clock)
  let board := (fresh clock).keep number launched.1 launched.2
  have heffects : Effects c number (.fresh clock) (.fresh clock) launched launched :=
    Client.launch_effects hc opening r handler number rfl rfl
  have hboard : Sound c board := sound_keep heffects (sound_fresh c clock)
  have hsession : board.sessions number = launched.1 := sessions_keep_self _ _ _ _
  have hheard : board.heardOf number = launched.2.timeline := by
    obtain ⟨entries, hof, hfirst, -⟩ := heffects.entries
    rw [show board.heardOf number = _ from heardOf_keep (hfirst ▸ hof) number, if_pos rfl]
    rfl
  show (board.run c (signals.map (.signal number))).heardOf number = _
  rcases hprepare : c.prepare r (.fresh clock) with ⟨fault | p, counted⟩
  · -- a request that cannot be prepared is told to nobody
    have hlaunched : launched = (none, counted) := by
      show c.launch opening r handler number (.fresh clock) = _
      rw [Client.launch, hprepare]
    rw [run_none signals (hsession.trans (congrArg Prod.fst hlaunched)), hheard, hlaunched,
      Client.chat_eq_error hprepare]
  · have hlaunched : launched = (some _, _) :=
      Client.launch_prepared hc hprepare opening handler number
    let s := c.session p handler number counted
    have horderly : (c.readied p opening s).Orderly := by
      refine ⟨fun l hl => (hc l hl).1, hhandler, ?_⟩
      rintro e ⟨⟩
      exact hestimator
    have hsome := hsession.trans (congrArg Prod.fst hlaunched)
    have hsaid := hheard.trans (congrArg (·.2.timeline) hlaunched)
    rw [Client.chat_awaited hc hprepare]
    cases houtcome : (opening p.options).outcome with
    | error fault =>
        -- the source fails, which ends the session at once
        have hfailed := Client.awaited_failed houtcome (hopening p.options fault houtcome) c
        obtain ⟨closed, hfail, hends⟩ := Session.fail_ordinary horderly rfl fault
        rw [hfailed, hfail] at hsome
        rw [heardOf_ended signals hsome (hends.ended rfl), hsaid, hfailed, hfailed]
    | ok u =>
        have hstart : (c.awaited p opening [] s).2 = (c.readied p opening s).start :=
          Client.awaited_taken houtcome rfl
        rw [hstart] at hlaunched hsome hsaid
        have hown := heffects.own _ (congrArg Prod.fst hlaunched)
        have hcounts := heffects.counts.1
        rw [hlaunched] at hcounts
        obtain ⟨hok, hsignals⟩ := heardOf_signals hc signals hboard hown hcounts
          (Session.start_vouched horderly.vouched) hsome rfl hsaid
        rw [hsignals, Client.awaited_taken houtcome (Prod.ext hok rfl)]

end Switchboard

-- ── Requests that follow one another ───────────────────────────────────────────────

namespace Client

theorem counts_fresh (c : Client) (clock : List Float) : c.Counts (Scene.fresh clock).tally :=
  rfl

/-- Two requests came to the same, asked their transports for the same, and told the same. -/
structure Same (a b : Outcome Unit × Report) : Prop where
  outcome : a.1 = b.1
  asked : a.2.asked = b.2.asked
  pulled : a.2.pulled = b.2.pulled
  timeline : a.2.scene.timeline = b.2.scene.timeline

/-- **A request depends on what was before it through the encoding alone.** -/
theorem chat_same {c : Client} (hc : c.Discreet) (transport : Transport) (r : ChatRequest)
    (handler : Handler) (number : Nat) {a b : Scene} (ha : c.Counts a.tally)
    (hb : c.Counts b.tally) (htimeline : a.timeline = b.timeline) :
    Same (c.chat transport r handler number a) (c.chat transport r handler number b)
      ∧ c.Counts (c.chat transport r handler number a).2.scene.tally := by
  obtain ⟨outcome, asked, pulled, script, -, hsecret, hchat⟩ :=
    c.chat_script transport r handler number Tally.fresh
  have hordinary : ∀ l ∈ c.listeners, l.Ordinary := fun l hl => (hc l hl).1
  have hfirst : c.chat transport r handler number a = _ := hchat c.listeners a hordinary ha
  have hsecond : c.chat transport r handler number b = _ := hchat c.listeners b hordinary hb
  rw [hfirst, hsecond]
  refine ⟨⟨rfl, rfl, rfl, ?_⟩, ?_⟩
  · show ((outset asked a).play _ _).timeline = ((outset asked b).play _ _).timeline
    cases asked with
    | none =>
        -- nobody is told of a request that asks for nothing
        have hquiet := fun scene : Scene =>
          (scene.play_secret (some c.estimator) c.listeners (hsecret rfl)).1
        exact (hquiet a).trans (htimeline.trans (hquiet b).symm)
    | some o =>
        have hbags : a.unmarked.attributes = b.unmarked.attributes := rfl
        have hseen := (hc.alike (some c.estimator) script hbags).1
        show (a.unmarked.play _ _).timeline = (b.unmarked.play _ _).timeline
        rw [Scene.timeline_play, Scene.timeline_play, hseen]
        exact congrArg (· ++ _) htimeline
  · show c.Counts ((outset asked a).play _ _).tally
    refine (Scene.encodingFor_play _ _ _).trans ?_
    cases asked with
    | none => exact ha
    | some o => exact ha

/-- **Each of several requests comes to what it comes to on a fresh scene.** -/
theorem chats_same {c : Client} (hc : c.Discreet) (turns : List Turn) (number : Nat)
    {scene : Scene} (hcounts : c.Counts scene.tally) (htimeline : scene.timeline = [])
    (clock : List Float) {i : Nat} {turn : Turn}
    (hturn : turns[i]? = some turn) :
    ∃ turned, (c.chats turns number scene)[i]? = some turned
      ∧ Same turned
          (c.chat turn.transport turn.request turn.handler (number + i) (.fresh clock)) := by
  induction turns generalizing number scene i with
  | nil => exact nomatch hturn
  | cons first rest ih =>
      cases i with
      | zero =>
          obtain rfl : first = turn := Option.some.inj hturn
          exact ⟨_, rfl, (chat_same hc first.transport first.request first.handler number hcounts
            (c.counts_fresh clock) htimeline).1⟩
      | succ i =>
          let next := nextScene
            (c.chat first.transport first.request first.handler number scene).2.scene
          have hnext : c.Counts next.tally :=
            (chat_same hc first.transport first.request first.handler number hcounts hcounts
              rfl).2
          obtain ⟨turned, hturned, hsame⟩ := ih (number + 1) hnext rfl hturn
          rw [Nat.add_right_comm] at hsame
          exact ⟨turned, hturned, hsame⟩

/-- **REQUESTS ON ONE CLIENT DO NOT LEAK INTO EACH OTHER.**  However the signals to requests
    that are under way are mixed with each other and with new requests, what is heard of one of
    them is what is heard of it alone, on a scene where nothing happened before, with its own
    signals in their own order.  And each of several requests that follow one another comes to
    what it comes to on such a scene. -/
theorem requests_apart {c : Client} (hc : c.Discreet) (hestimator : c.estimator.Ordinary)
    (clock alone : List Float) :
    (∀ (actions : List Action) opening r (handler : Handler) number (signals : List Signal),
        handler.Ordinary →
        (∀ o fault, (opening o).outcome = .error fault → fault.isOrdinary = true) →
        actions.filter (·.number == number)
          = .request number opening r handler :: signals.map (.signal number) →
        ((Switchboard.fresh clock).run c actions).heardOf number
          = (c.chat (.push (awaiting opening (signals.map .signal))) r handler number
              (.fresh alone)).2.scene.timeline)
      ∧ ∀ (turns : List Turn) i turn, turns[i]? = some turn →
          ∃ turned, (c.chats turns 0 (.fresh clock))[i]? = some turned
            ∧ Same turned
                (c.chat turn.transport turn.request turn.handler i (.fresh alone)) := by
  constructor
  · intro actions opening r handler number signals hhandler hopening hown
    rw [← Switchboard.heardOf_alone hc hestimator hhandler hopening, ← hown]
    exact congrArg Prod.fst (Switchboard.view_run hc number actions
      (Switchboard.sound_fresh c clock) (Switchboard.sound_fresh c alone) rfl)
  · intro turns i turn hturn
    have hsame := chats_same hc turns 0 (c.counts_fresh clock) rfl alone hturn
    rwa [Nat.zero_add] at hsame

/-- Two requests whose signals cross.  The handler of the first raises something over its second
    text, after the other request is over. -/
def crossed : List Action :=
  let idle : Options → Opening Unit := fun _ => ⟨[], .ok ()⟩
  let text (s : String) : Signal := .next ⟨some s, none, none, none, none, []⟩
  [.request 0 idle greeting fickle, .request 1 idle greeting .steady, .signal 0 (text "a"),
    .signal 1 (text "x"), .signal 1 .complete, .signal 0 (text "b"), .signal 0 .complete]

theorem markers_discreet : (simple [marker "m", marker "n"]).Discreet := by
  intro l hl
  refine ⟨markers_ordinary l hl, ?_⟩
  rcases List.mem_cons.mp hl with rfl | hl
  · trivial
  · rw [List.mem_singleton.mp hl]
    trivial

/-- The first of two crossing requests hears of its own texts and marks alone, and a request that
    follows one whose handler failed comes to what it comes to as the first. -/
theorem requests_apart_crossed :
    (∃ x, ((Switchboard.fresh [2]).run (simple [marker "m", marker "n"]) crossed).heardOf 0
        = [.notice 0 "m" (.started x) [(.str "m", .bool true)],
            .notice 1 "n" (.started x) [(.str "m", .bool true), (.str "n", .bool true)],
            .partialText "a", .partialText "b",
            .notice 0 "m" (.failed x .wrongValue)
              [(.str "m", .bool true), (.str "n", .bool true)],
            .notice 1 "n" (.failed x .wrongValue)
              [(.str "m", .bool true), (.str "n", .bool true)],
            .failure .wrongValue])
      ∧ ∃ turned, ((simple [marker "m", marker "n"]).chats
            [⟨.pull threeTexts, greeting, fickle⟩, ⟨.pull threeTexts, greeting, .steady⟩] 0
            (.fresh [2]))[1]? = some turned
          ∧ Same turned ((simple [marker "m", marker "n"]).chat (.pull threeTexts) greeting .steady
              1 (.fresh [])) := by
  obtain ⟨hmixed, hturns⟩ := requests_apart markers_discreet (simple_ordinary _) [2] []
  refine ⟨?_, hturns _ 1 ⟨.pull threeTexts, greeting, .steady⟩ rfl⟩
  rw [hmixed crossed (fun _ => ⟨[], .ok ()⟩) greeting fickle 0
    [.next ⟨some "a", none, none, none, none, []⟩, .next ⟨some "b", none, none, none, none, []⟩,
      .complete] fickle_ordinary (fun _ _ hfault => (nomatch hfault)) rfl]
  exact ⟨_, rfl⟩

end Client

end CompletionStream
