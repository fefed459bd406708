import CompletionStream.Proofs.Client.Script
import CompletionStream.Proofs.Session.Bag
import CompletionStream.Proofs.Session.Pulled

/-!
# The audience — who listens makes no difference

Listeners may be many or none, and each of them may report, mark the bag, or raise something.
None of this reaches the request: what leaves `chat`, what the transport is asked for, what
becomes of its stream and what the handler is told are fixed by a script that does not know who
listens (`chat_script`).  Nor does it reach the other listeners, each of whom is called on just
what the script tells.

What is left of a listener that raises is one report.  `Scene.raised` lists these reports, call
by call, and `complaints_play` says that a run with listeners is complained about just as much
more than the same run without them.
-/

namespace CompletionStream

/-- The template of the reports about listeners that raise something. -/
def Listener.complaintTemplate : String := "Exception while calling model listener: %s"

/-- Whether a report is about a listener that raised something. -/
def LogRecord.isComplaint (record : LogRecord) : Bool :=
  record.logger == Listener.loggerName && record.template == Listener.complaintTemplate

namespace Call

/-- What the listener raises that is called on this scene. -/
def raises (call : Call) (scene : Scene) : Option Fault :=
  match (call.listener.tell call.number call.event scene).1 with
  | .error fault => some fault
  | .ok () => none

/-- The report that a listener has raised something. -/
def complaint (call : Call) (fault : Fault) : LogRecord :=
  { logger := Listener.loggerName
    level := LogRecord.warning
    template := Listener.complaintTemplate
    arguments := [.fault fault]
    extra := [("listener", .str call.listener.className), ("event", .str call.event.className)]
    fault := some fault }

end Call

namespace Scene

/-- The reports about listeners that raised something. -/
def complaints (scene : Scene) : List LogRecord :=
  scene.log.filter LogRecord.isComplaint

/-- The reports that acts lead to: one for each call that raises something. -/
def raised (estimator : Option Estimator) (scene : Scene) : List Act → List LogRecord
  | [] => []
  | .tell call :: rest =>
    ((call.raises scene).map call.complaint).toList ++ (scene.call call).raised estimator rest
  | act :: rest => (scene.act estimator act).raised estimator rest

/-- Other reports are no complaints. -/
theorem complaints_report (scene : Scene) (level : Int) {template : String}
    (h : template ≠ Listener.complaintTemplate) (arguments : List LogArgument)
    (extra : List (String × Value)) (fault : Option Fault) :
    (Listener.report scene level template arguments extra fault).complaints
      = scene.complaints := by
  rw [Listener.report]
  split
  · rfl
  · have hother (record : LogRecord) (htemplate : record.template = template) :
        ¬ record.isComplaint = true := by
      simp [LogRecord.isComplaint, htemplate, h]
    rw [complaints, report, List.filter_append, List.filter_cons_of_neg (hother _ rfl)]
    exact List.append_nil _

theorem log_now (scene : Scene) : scene.now.2.log = scene.log := by
  rw [now]
  split <;> rfl

/-- Measuring the time since the start reports nothing. -/
theorem log_elapsed (scene : Scene) : (Listener.elapsed scene).2.log = scene.log := by
  rw [Listener.elapsed]
  split
  · rfl
  · dsimp only
    split <;> exact scene.log_now

theorem complaints_logEvent (level : Int) (event : Event) (scene : Scene) :
    (Listener.logEvent level event scene).2.complaints = scene.complaints := by
  have helapsed : (Listener.elapsed scene).2.complaints = scene.complaints :=
    congrArg (List.filter LogRecord.isComplaint) scene.log_elapsed
  cases event with
  | stray name => rfl
  | started x =>
      refine (complaints_report _ level (by decide) _ _ none).trans ?_
      exact congrArg (List.filter LogRecord.isComplaint) scene.log_now
  | completed x response =>
      rw [Listener.logEvent]
      generalize Listener.elapsed scene = measured at helapsed ⊢
      obtain ⟨fault | ms, left⟩ := measured
      · exact helapsed
      · exact (complaints_report left level (by decide) _ _ none).trans helapsed
  | failed x fault =>
      rw [Listener.logEvent]
      generalize Listener.elapsed scene = measured at helapsed ⊢
      obtain ⟨raised | ms, left⟩ := measured
      · exact helapsed
      · exact (complaints_report left _ (by decide) _ _ none).trans helapsed

/-- What listeners report themselves is no complaint. -/
theorem complaints_tell (listener : Listener) (number : Nat) (event : Event) (scene : Scene) :
    (listener.tell number event scene).2.complaints = scene.complaints := by
  rw [Listener.tell.eq_def]
  split
  · rfl
  · cases listener with
    | silent => rfl
    | logging level => exact complaints_logEvent level event scene
    | observer o =>
        dsimp only
        split <;> rfl

/-- **A call that raises something leaves one complaint**, and any other call leaves none. -/
theorem complaints_call (scene : Scene) (c : Call) :
    (scene.call c).complaints
      = scene.complaints ++ ((c.raises scene).map c.complaint).toList := by
  have htell := complaints_tell c.listener c.number c.event scene
  rw [call, Call.raises]
  generalize c.listener.tell c.number c.event scene = result at htell ⊢
  obtain ⟨fault | _, told⟩ := result
  · rw [← htell]
    show List.filter LogRecord.isComplaint (told.log ++ [c.complaint fault]) = _
    rw [List.filter_append]
    rfl
  · exact htell.trans (List.append_nil _).symm

/-- What is done besides calling listeners adds the same reports wherever as much was counted. -/
theorem complaints_act {estimator : Option Estimator} {scene other : Scene}
    (htally : scene.tally = other.tally) {act : Act} (hsecret : act.telling? = none) :
    ∃ added, (scene.act estimator act).complaints = scene.complaints ++ added
      ∧ (other.act estimator act).complaints = other.complaints ++ added
      ∧ (scene.act estimator act).tally = (other.act estimator act).tally := by
  have hcounting {α : Type} (count : Tally → α × Tally) :
      ∃ added, (scene.counting count).2.complaints = scene.complaints ++ added
        ∧ (other.counting count).2.complaints = other.complaints ++ added
        ∧ (scene.counting count).2.tally = (other.counting count).2.tally := by
    refine ⟨(count { scene.tally with log := [] }).2.log.filter LogRecord.isComplaint, ?_, ?_, ?_⟩
    · exact List.filter_append _ _
    · rw [htally]
      exact List.filter_append _ _
    · rw [counting, counting, htally]
  have hnothing : ∃ added, scene.complaints = scene.complaints ++ added
      ∧ other.complaints = other.complaints ++ added ∧ scene.tally = other.tally :=
    ⟨[], (List.append_nil _).symm, (List.append_nil _).symm, htally⟩
  cases act with
  | tell c => exact absurd hsecret (Option.some_ne_none c)
  | say entry voiced => exact hnothing
  | report record =>
      exact ⟨[record].filter LogRecord.isComplaint, List.filter_append _ _,
        List.filter_append _ _, htally⟩
  | count messages =>
      cases estimator with
      | none => exact hnothing
      | some e => exact hcounting _
  | bill accumulator inputTokens => exact hcounting _

/-- Calls add the complaints about them. -/
theorem complaints_calls (estimator : Option Estimator) (scene : Scene) (calls : List Call) :
    (scene.play estimator (calls.map .tell)).complaints
        = scene.complaints ++ scene.raised estimator (calls.map .tell)
      ∧ (scene.play estimator (calls.map .tell)).tally = scene.tally := by
  induction calls generalizing scene with
  | nil => exact ⟨(List.append_nil _).symm, rfl⟩
  | cons c rest ih =>
      obtain ⟨hcomplaints, htally⟩ := ih (scene.call c)
      refine ⟨?_, htally.trans (scene.tally_call c)⟩
      refine hcomplaints.trans ?_
      rw [complaints_call, List.append_assoc]
      rfl

theorem raised_append (estimator : Option Estimator) (scene : Scene) (first second : List Act) :
    scene.raised estimator (first ++ second)
      = scene.raised estimator first
        ++ (scene.play estimator first).raised estimator second := by
  induction first generalizing scene with
  | nil => rfl
  | cons act rest ih =>
      cases act with
      | tell c =>
          rw [List.cons_append, raised, raised, ih, List.append_assoc]
          rfl
      | _ => exact ih _

theorem raised_secret (estimator : Option Estimator) (scene : Scene) {act : Act}
    (h : act.telling? = none) : scene.raised estimator [act] = [] := by
  cases act with
  | tell c => exact absurd h (Option.some_ne_none c)
  | _ => rfl

/-- **Who raises something is complained about once each time**, and listeners lead to no other
    complaints. -/
theorem complaints_play (estimator : Option Estimator) (listeners : List Listener)
    (scene : Scene) (script : List Cue) :
    (scene.play estimator (acts listeners script)).complaints.Perm
      ((scene.play estimator (acts [] script)).complaints
        ++ scene.raised estimator (acts listeners script)) := by
  -- the two runs count alike, so that they differ by the complaints about calls alone
  have hfrom (scene other : Scene) (earlier : List LogRecord) (htally : scene.tally = other.tally)
      (hperm : scene.complaints.Perm (other.complaints ++ earlier)) :
      (scene.play estimator (acts listeners script)).complaints.Perm
        ((other.play estimator (acts [] script)).complaints
          ++ (earlier ++ scene.raised estimator (acts listeners script))) := by
    induction script generalizing scene other earlier with
    | nil => simpa [acts, raised] using hperm
    | cons cue rest ih =>
        rw [acts_cons, acts_cons, play_append, play_append, raised_append,
          ← List.append_assoc earlier]
        cases hcue : cue.telling? with
        | some event =>
            obtain rfl := Cue.eq_tell hcue
            obtain ⟨hcalls, hsame⟩ :=
              scene.complaints_calls estimator (Listener.calls listeners event)
            refine ih _ other _ (hsame.trans htally) ?_
            show (scene.play estimator ((Listener.calls listeners event).map .tell)).complaints.Perm
              (other.complaints ++ _)
            rw [hcalls, ← List.append_assoc]
            exact hperm.append_right _
        | none =>
            obtain ⟨act, hact, hacts⟩ := Cue.acts_secret hcue
            rw [hacts, hacts, raised_secret estimator scene hact, List.append_nil]
            obtain ⟨added, hscene, hother, hsame⟩ := complaints_act htally hact
            refine ih _ _ _ hsame ?_
            show (scene.act estimator act).complaints.Perm
              ((other.act estimator act).complaints ++ earlier)
            rw [hscene, hother, List.append_assoc]
            refine (hperm.append_right added).trans ?_
            rw [List.append_assoc]
            exact List.perm_append_comm.append_left _
  have hperm := hfrom scene scene [] rfl (by rw [List.append_nil])
  rwa [List.nil_append] at hperm

end Scene

-- ── Requests ───────────────────────────────────────────────────────────────────────

namespace Client

/-- What a request leaves for these listeners that goes by a script which does not know them;
    without them it leaves another scene. -/
structure PlaysTo (c : Client) (script : List Cue) (listeners : List Listener)
    (scene alone left : Scene) : Prop where
  /-- The script is all that is done. -/
  played : left = scene.play (some c.estimator) (acts listeners script)
  /-- The handler is told what the script says. -/
  voice : left.voice = scene.voice ++ Move.said script
  /-- Each listener is called on what the script tells, whatever the others raise. -/
  called : ∀ i listener, listeners[i]? = some listener →
    (Move.told (acts listeners script)).filter (·.number == i)
      = (Move.told script).map fun event => ⟨i, listener, event⟩
  /-- An observer leaves the notices of these calls. -/
  heard : ∀ i o, listeners[i]? = some (.observer o) →
    left.heardBy i = scene.heardBy i ++ Move.told script
  /-- Each call that raises something is complained about once. -/
  complaints : left.complaints.Perm
    (alone.complaints ++ scene.raised (some c.estimator) (acts listeners script))

/-- **LISTENERS DO NOT MOVE A REQUEST.**  What leaves `chat`, what the transport is asked for,
    what becomes of its stream and a script are the same for all listeners whose faults are
    ordinary.  The script is what the handler is told and what each listener is called on, and
    each call that raises something is complained about once. -/
theorem chat_unmoved (c : Client) (transport : Transport) (r : ChatRequest) (handler : Handler)
    (number : Nat) (scene : Scene) :
    ∃ outcome asked pulled script, ∀ listeners, (∀ l ∈ listeners, Listener.Ordinary l) →
      ∃ left,
        { c with listeners }.chat transport r handler number scene
          = (outcome, ⟨asked, pulled, left⟩)
        ∧ c.PlaysTo script listeners (outset asked scene)
            ({ c with listeners := [] }.chat transport r handler number scene).2.scene left := by
  obtain ⟨outcome, asked, pulled, script, habout, -, hchat⟩ :=
    c.chat_script transport r handler number scene.tally
  have hhooks : ∀ event ∈ Move.told script, (Listener.hookOf event).isSome := by
    intro event hevent
    obtain ⟨x, hx, -⟩ := habout event hevent
    exact Event.hooked hx
  refine ⟨outcome, asked, pulled, script, fun listeners hordinary =>
    ⟨_, hchat listeners scene hordinary rfl, rfl, ?_, ?_, ?_, ?_⟩⟩
  · rw [Scene.voice_play, said_acts]
  · exact fun i listener hlistener => Listener.calls_of hlistener script
  · exact fun i o ho => (outset asked scene).heardBy_play _ hhooks ho
  · rw [hchat [] scene (fun _ hl => absurd hl List.not_mem_nil) rfl]
    exact (outset asked scene).complaints_play _ listeners script

/-- A stream that says three texts, fails, and cannot be closed. -/
def threeTexts (_ : Options) : Opening PullStream :=
  ⟨[], .ok
    { chunks := ["a", "b", "c"].map fun s => ⟨some s, none, none, none, none, []⟩
      ending := some .wrongType
      closesItself := false
      closable := true
      closeFault := some .wrongValue }⟩

theorem threeTexts_opens (o : Options) : PullStream.Opens (threeTexts o).outcome :=
  ⟨Fault.ordinary_some rfl, Fault.ordinary_some rfl⟩

/-- With a listener that raises something whenever it is told, all is the same but for two
    complaints. -/
theorem chat_unmoved_surly :
    ∃ outcome report alone,
      (simple [.observer .surly, .silent]).chat (.pull threeTexts) greeting fickle 0 (.fresh [])
        = (outcome, report)
      ∧ (simple []).chat (.pull threeTexts) greeting fickle 0 (.fresh []) = (outcome, alone)
      ∧ report.asked = alone.asked ∧ report.pulled = alone.pulled
      ∧ report.scene.voice = alone.scene.voice
      ∧ report.scene.complaints.length = 2 ∧ alone.scene.complaints.length = 0 := by
  obtain ⟨outcome, asked, pulled, script, hunmoved⟩ :=
    chat_unmoved (simple []) (.pull threeTexts) greeting fickle 0 (.fresh [])
  obtain ⟨left, hleft, hplays⟩ :=
    hunmoved [.observer .surly, .silent] Observer.surly_ordinary
  obtain ⟨alone, halone, hsilent⟩ := hunmoved [] fun _ hl => absurd hl List.not_mem_nil
  refine ⟨outcome, _, _, hleft, halone, rfl, rfl, hplays.voice.trans hsilent.voice.symm, ?_, ?_⟩
  · rw [← show _ = (⟨asked, pulled, left⟩ : Report) from congrArg Prod.snd hleft]
    rfl
  · rw [← show _ = (⟨asked, pulled, alone⟩ : Report) from congrArg Prod.snd halone]
    rfl

end Client

end CompletionStream
