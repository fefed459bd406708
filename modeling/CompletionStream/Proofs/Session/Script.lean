import CompletionStream.Proofs.Counting.Recall
import CompletionStream.Proofs.Session.Escapes

/-!
# Scripts — what is done to a scene, one thing after the other

A session does five kinds of things to its scene: it tells its listeners of an event, says
something to its handler, reports something, and counts for a request or for a response.  A
*script* lists such things and leaves open who listens (`Cue`).  For given listeners it becomes
a list of acts, in which every event is one call of each listener, in the order of registration
(`acts`), and `play` performs them.

Two laws make scripts useful.  Telling listeners whose faults are ordinary is to play the calls,
whoever of them raises (`tellAll_play`), and playing changes what is remembered for counting, but
not the encoding that it stands for (`encodingFor_play`).
-/

namespace CompletionStream

/-- Whether an observer left the entry. -/
def Entry.isNotice : Entry → Bool
  | .notice .. => true
  | .partialText _ | .completion _ | .failure _ => false

/-- A thing that is done to a scene, where `τ` is what listeners are told. -/
inductive Move (τ : Type) where
  | tell (what : τ)
  | say (entry : Entry) (voiced : entry.isNotice = false)
  | report (record : LogRecord)
  | count (messages : List Message)
  | bill (accumulator : Accumulator) (inputTokens : Value)

/-- What is said is not a notice. -/
theorem Entry.bare_voiced {entry : Entry} (h : entry.isNotice = false) : entry.bare = entry := by
  cases entry with
  | notice => exact absurd h.symm Bool.false_ne_true
  | _ => rfl

namespace Move

variable {τ : Type}

/-- What is told, if anything is. -/
def telling? : Move τ → Option τ
  | tell what => some what
  | _ => none

/-- What is said, if anything is. -/
def saying? : Move τ → Option Entry
  | say entry _ => some entry
  | _ => none

/-- Whether anybody notices: a listener or the handler. -/
def isShown : Move τ → Bool
  | tell _ | say _ _ => true
  | report _ | count _ | bill _ _ => false

/-- All that is told, in order. -/
def told (moves : List (Move τ)) : List τ :=
  moves.filterMap telling?

/-- All that is said, in order. -/
def said (moves : List (Move τ)) : List Entry :=
  moves.filterMap saying?

@[simp] theorem told_append (first second : List (Move τ)) :
    told (first ++ second) = told first ++ told second :=
  List.filterMap_append

@[simp] theorem said_append (first second : List (Move τ)) :
    said (first ++ second) = said first ++ said second :=
  List.filterMap_append

/-- What nobody notices tells nothing. -/
theorem told_shown (moves : List (Move τ)) : told (moves.filter isShown) = told moves := by
  induction moves with
  | nil => rfl
  | cons move rest ih =>
      cases move with
      | tell what => exact congrArg (what :: ·) ih
      | _ => exact ih

end Move

/-- What a session does, whoever listens. -/
abbrev Cue := Move Event

/-- One listener is told of one event; the number is its place in the order of registration. -/
structure Call where
  number : Nat
  listener : Listener
  event : Event

/-- What is done to a scene where it is known who listens. -/
abbrev Act := Move Call

namespace Listener

/-- The calls by which listeners are told of an event, the first of them with this number. -/
def callsFrom (number : Nat) (listeners : List Listener) (event : Event) : List Call :=
  (listeners.zipIdx number).map fun (listener, number) => ⟨number, listener, event⟩

/-- The calls by which all listeners are told of an event. -/
def calls (listeners : List Listener) (event : Event) : List Call :=
  callsFrom 0 listeners event

theorem callsFrom_cons (number : Nat) (listener : Listener) (rest : List Listener)
    (event : Event) :
    callsFrom number (listener :: rest) event
      = ⟨number, listener, event⟩ :: callsFrom (number + 1) rest event := by
  rw [callsFrom, List.zipIdx_cons, List.map_cons]
  rfl

end Listener

/-- What a cue amounts to for these listeners. -/
def Cue.acts (listeners : List Listener) : Cue → List Act
  | .tell event => (Listener.calls listeners event).map .tell
  | .say entry voiced => [.say entry voiced]
  | .report record => [.report record]
  | .count messages => [.count messages]
  | .bill accumulator inputTokens => [.bill accumulator inputTokens]

/-- A cue that tells something tells an event. -/
theorem Cue.eq_tell {cue : Cue} {event : Event} (h : cue.telling? = some event) :
    cue = .tell event := by
  cases cue with
  | tell what => exact congrArg Move.tell (Option.some.inj h)
  | _ => exact nomatch h

/-- A cue that tells nothing is one act, whoever listens. -/
theorem Cue.acts_secret {cue : Cue} (h : cue.telling? = none) :
    ∃ act : Act, act.telling? = none ∧ ∀ listeners, Cue.acts listeners cue = [act] := by
  cases cue with
  | tell event => exact nomatch h
  | say entry voiced => exact ⟨.say entry voiced, rfl, fun _ => rfl⟩
  | report record => exact ⟨.report record, rfl, fun _ => rfl⟩
  | count messages => exact ⟨.count messages, rfl, fun _ => rfl⟩
  | bill accumulator inputTokens => exact ⟨.bill accumulator inputTokens, rfl, fun _ => rfl⟩

/-- What a script amounts to for these listeners. -/
def acts (listeners : List Listener) (script : List Cue) : List Act :=
  script.flatMap (Cue.acts listeners)

@[simp] theorem acts_nil (listeners : List Listener) : acts listeners [] = [] := rfl

@[simp] theorem acts_append (listeners : List Listener) (first second : List Cue) :
    acts listeners (first ++ second) = acts listeners first ++ acts listeners second :=
  List.flatMap_append

theorem acts_cons (listeners : List Listener) (cue : Cue) (rest : List Cue) :
    acts listeners (cue :: rest) = cue.acts listeners ++ acts listeners rest :=
  List.flatMap_cons

/-- **Everyone is called on exactly what is told.** -/
theorem told_acts (listeners : List Listener) (script : List Cue) :
    Move.told (acts listeners script)
      = (Move.told script).flatMap (Listener.calls listeners) := by
  have htell (calls : List Call) : Move.told (calls.map Move.tell) = calls := by
    rw [Move.told, List.filterMap_map]
    exact List.filterMap_some
  induction script with
  | nil => rfl
  | cons cue rest ih =>
      rw [acts_cons, Move.told_append, ih]
      cases cue with
      | tell event => rw [Cue.acts, htell]; rfl
      | _ => rfl

/-- Nothing more is said for more listeners. -/
theorem said_acts (listeners : List Listener) (script : List Cue) :
    Move.said (acts listeners script) = Move.said script := by
  have htell (calls : List Call) : Move.said (calls.map Move.tell) = [] := by
    rw [Move.said, List.filterMap_map]
    exact List.filterMap_none calls
  induction script with
  | nil => rfl
  | cons cue rest ih =>
      rw [acts_cons, Move.said_append, ih]
      cases cue with
      | tell event => rw [Cue.acts, htell]; rfl
      | _ => rfl

namespace Listener

/-- Nobody is called with a number that was passed already. -/
theorem callsFrom_passed {number start : Nat} (h : number < start) (listeners : List Listener)
    (event : Event) : (callsFrom start listeners event).filter (·.number == number) = [] := by
  rw [List.filter_eq_nil_iff]
  intro call hcall
  obtain ⟨⟨listener, n⟩, hmem, rfl⟩ := List.mem_map.mp hcall
  have hstart : start ≤ n := List.le_snd_of_mem_zipIdx hmem
  show ¬ (n == number) = true
  rw [beq_iff_eq]
  omega

theorem callsFrom_at {listeners : List Listener} {i : Nat} {listener : Listener}
    (h : listeners[i]? = some listener) (start : Nat) (event : Event) :
    (callsFrom start listeners event).filter (·.number == start + i)
      = [⟨start + i, listener, event⟩] := by
  induction listeners generalizing i start with
  | nil => exact nomatch h
  | cons first rest ih =>
      rw [callsFrom_cons]
      cases i with
      | zero =>
          obtain rfl : first = listener := Option.some.inj h
          rw [List.filter_cons_of_pos (by simp)]
          exact congrArg _ (callsFrom_passed (Nat.lt_succ_self start) rest event)
      | succ i =>
          rw [List.filter_cons_of_neg (by simp), ← Nat.succ_add_eq_add_succ]
          exact ih h (start + 1)

/-- **A listener is called with its own number**, once for each event. -/
theorem calls_at {listeners : List Listener} {i : Nat} {listener : Listener}
    (h : listeners[i]? = some listener) (event : Event) :
    (calls listeners event).filter (·.number == i) = [⟨i, listener, event⟩] := by
  have hat := callsFrom_at h 0 event
  rwa [Nat.zero_add] at hat

/-- A listener is called on all that is told, and on nothing else. -/
theorem calls_of {listeners : List Listener} {i : Nat} {listener : Listener}
    (h : listeners[i]? = some listener) (script : List Cue) :
    (Move.told (acts listeners script)).filter (·.number == i)
      = (Move.told script).map fun event => ⟨i, listener, event⟩ := by
  rw [told_acts, List.filter_flatMap, List.map_eq_flatMap]
  exact List.flatMap_congr fun event _ => calls_at h event

end Listener

namespace Scene

variable (estimator : Option Estimator)

/-- A listener is told of an event, and what it raises is reported. -/
def call (scene : Scene) (call : Call) : Scene :=
  match call.listener.tell call.number call.event scene with
  | (.ok (), scene) => scene
  | (.error fault, scene) => call.listener.complain call.event fault scene

/-- Performs an act. -/
def act (scene : Scene) : Act → Scene
  | .tell call => scene.call call
  | .say entry _ => scene.add entry
  | .report record => scene.report record
  | .count messages =>
    match estimator with
    | some e => (scene.counting (e.countMessages messages)).2
    | none => scene
  | .bill accumulator inputTokens =>
    (scene.counting (accumulator.bill estimator inputTokens)).2

/-- Performs acts, one after the other. -/
def play (scene : Scene) (acts : List Act) : Scene :=
  acts.foldl (act estimator) scene

@[simp] theorem play_nil (scene : Scene) : scene.play estimator [] = scene := rfl

@[simp] theorem play_cons (scene : Scene) (act : Act) (rest : List Act) :
    scene.play estimator (act :: rest) = (scene.act estimator act).play estimator rest := rfl

@[simp] theorem play_append (scene : Scene) (first second : List Act) :
    scene.play estimator (first ++ second)
      = (scene.play estimator first).play estimator second :=
  List.foldl_append

-- ── Telling is playing ─────────────────────────────────────────────────────────────

/-- What an ordinary listener raises is ordinary, whatever it is told of. -/
theorem tell_raises {listener : Listener} (h : listener.Ordinary) (number : Nat)
    (event : Event) (scene : Scene) {fault : Fault}
    (hfault : (listener.tell number event scene).1 = .error fault) :
    fault.isOrdinary = true := by
  cases hhook : Listener.hookOf event with
  | some hook =>
      have hsome : (Listener.hookOf event).isSome := by rw [hhook]; rfl
      exact (Listener.tell_ordinary h number hsome scene).1 fault hfault
  | none =>
      rw [Listener.tell.eq_def, hhook] at hfault
      rw [← Except.error.inj hfault]
      rfl

/-- **Telling listeners is to play the calls**, whoever of them raises. -/
theorem tellAll_play {listeners : List Listener} (h : ∀ l ∈ listeners, l.Ordinary)
    (event : Event) (scene : Scene) :
    Listener.tellAll listeners event scene
      = (.ok (), scene.play estimator (acts listeners [.tell event])) := by
  have hfrom (number : Nat) : Listener.tellFrom number event listeners scene
      = (.ok (), scene.play estimator
          ((Listener.callsFrom number listeners event).map .tell)) := by
    induction listeners generalizing number scene with
    | nil => rfl
    | cons listener rest ih =>
        have hrest (scene : Scene) := ih (fun l hl => h l (List.mem_cons_of_mem _ hl)) scene
          (number + 1)
        have hraises (fault : Fault) :=
          @tell_raises listener (h listener List.mem_cons_self) number event scene fault
        rw [Listener.tellFrom, Listener.callsFrom_cons, List.map_cons, play_cons, act, call]
        generalize listener.tell number event scene = result at hraises ⊢
        obtain ⟨fault | _, between⟩ := result
        · -- what it raised is reported, and the rest is told as if nothing had happened
          dsimp only
          rw [if_pos (hraises fault rfl), hrest]
        · exact hrest between
  rw [Listener.tellAll, hfrom, acts_cons, acts_nil, List.append_nil]
  rfl

-- ── What is remembered for counting ────────────────────────────────────────────────

/-- A listener that is told of something counts nothing. -/
theorem tally_call (scene : Scene) (c : Call) : (scene.call c).tally = scene.tally := by
  obtain ⟨number, listener, event⟩ := c
  have htell : (listener.tell number event scene).2.tally = scene.tally := by
    rw [Listener.tell.eq_def]
    split
    · rfl
    · cases listener with
      | silent => rfl
      | logging level => exact (Listener.logEvent_ordinary level event scene).2.tally
      | observer o =>
          dsimp only
          split <;> rfl
  rw [call]
  generalize listener.tell number event scene = result at htell ⊢
  obtain ⟨fault | _, told⟩ := result
  · exact (Listener.adds_report told _ _ _ _ _).tally.trans htell
  · exact htell

theorem encodingFor_act (scene : Scene) (act : Act) :
    (scene.act estimator act).tally.encodingFor estimator
      = scene.tally.encodingFor estimator := by
  cases act with
  | tell c => rw [Scene.act, tally_call]
  | say entry _ => rfl
  | report record => rfl
  | count messages =>
      cases estimator with
      | none => rfl
      | some e => exact counting_keeps (e.steady_countMessages messages) scene
  | bill accumulator inputTokens =>
      exact counting_keeps (accumulator.steady_bill estimator inputTokens) scene

/-- **Playing keeps the encoding.** -/
theorem encodingFor_play (scene : Scene) (acts : List Act) :
    (scene.play estimator acts).tally.encodingFor estimator
      = scene.tally.encodingFor estimator := by
  induction acts generalizing scene with
  | nil => rfl
  | cons act rest ih => rw [play_cons, ih, encodingFor_act]

end Scene

end CompletionStream
