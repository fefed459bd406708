import CompletionStream.Proofs.Schema.Reading
import CompletionStream.Proofs.Session.Telling
import CompletionStream.Stream.Client

/-!
# Preparing — how a request becomes what is sent

Before anyone is told of a request it is checked, merged with the client's defaults, and
counted.  A merged parameter is the request's own, or else the default as it is read
(`Chosen`); `Merges` says this for all of them, and merging comes to exactly such options
(`merge_eq_ok`).  What the checks and the merge come to is `Settles` or `Refuses`.
`prepare_eq_ok` takes a preparation that goes well apart into these steps, and
`prepare_eq_error` says which of them failed in one that does not.  `make_eq_ok` says the same of
the making of the client itself.  A prepared request is sent
if what its listeners raise is ordinary (`asked_prepared`), and a transport is asked for nothing
but options that a request came to (`chat_asked`).
-/

namespace CompletionStream

/-- What is chosen for a parameter: the request's own value, or else the default as it is
    read. -/
inductive Chosen {α : Type} (read : Reader α) (default : Value) : Option α → Option α → Prop
  | own (a : α) : Chosen read default (some a) (some a)
  | fallback {chosen : Option α} (hread : Reader.nullable read default = .ok chosen) :
      Chosen read default none chosen

namespace Client

theorem pick_eq_ok {α : Type} {name : String} {own chosen : Option α} {read : Reader α}
    {default : Value} :
    pick name own read default = .ok chosen ↔ Chosen read default own chosen := by
  cases own with
  | some a =>
      constructor
      · rintro ⟨⟩
        exact .own a
      · rintro ⟨⟩
        rfl
  | none =>
      rw [pick, Checked.under_eq_ok]
      constructor
      · exact .fallback
      · rintro ⟨⟩
        assumption

/-- Options that a request and a client's defaults merge into. -/
structure Merges (c : Client) (r : ChatRequest) (forced : Option ToolSpec) (o : Options) :
    Prop where
  messages : o.messages = r.messages
  model : Reader.text c.deployment = .ok o.model
  maxTokens : Chosen .integer c.defaults.maxTokens r.sampling.maxTokens o.sampling.maxTokens
  temperature :
    Chosen .decimal c.defaults.temperature r.sampling.temperature o.sampling.temperature
  topP : Chosen .decimal c.defaults.topP r.sampling.topP o.sampling.topP
  logitBias : Chosen readBias c.defaults.logitBias r.sampling.logitBias o.sampling.logitBias
  user : Chosen .text c.defaults.user r.sampling.user o.sampling.user
  stop : Chosen (.tupleOf .text) c.defaults.stop r.sampling.stop o.sampling.stop
  presencePenalty : Chosen .decimal c.defaults.presencePenalty r.sampling.presencePenalty
    o.sampling.presencePenalty
  frequencyPenalty : Chosen .decimal c.defaults.frequencyPenalty r.sampling.frequencyPenalty
    o.sampling.frequencyPenalty
  seed : Chosen .integer c.defaults.seed r.sampling.seed o.sampling.seed
  tools : o.tools = r.offeredTools
  forcedTool : o.forcedTool = forced
  format : o.format = r.format.or c.format
  strictSchema : Reader.switch c.strictSchema = .ok o.strictSchema

/-- **Merging comes to the options that a request and the defaults merge into.** -/
theorem merge_eq_ok {c : Client} {r : ChatRequest} {forced : Option ToolSpec} {o : Options} :
    c.merge r forced = .ok o ↔ c.Merges r forced o := by
  constructor
  · intro h
    rw [merge] at h
    obtain ⟨_, strict, h1, hstrict, rfl⟩ := Checked.seq_eq_ok.mp h
    obtain ⟨_, format, h2, hformat, rfl⟩ := Checked.seq_eq_ok.mp h1
    obtain ⟨_, chosen, h3, hforced, rfl⟩ := Checked.seq_eq_ok.mp h2
    obtain ⟨_, tools, h4, htools, rfl⟩ := Checked.seq_eq_ok.mp h3
    obtain ⟨_, seed, h5, hseed, rfl⟩ := Checked.seq_eq_ok.mp h4
    obtain ⟨_, frequency, h6, hfrequency, rfl⟩ := Checked.seq_eq_ok.mp h5
    obtain ⟨_, presence, h7, hpresence, rfl⟩ := Checked.seq_eq_ok.mp h6
    obtain ⟨_, stop, h8, hstop, rfl⟩ := Checked.seq_eq_ok.mp h7
    obtain ⟨_, user, h9, huser, rfl⟩ := Checked.seq_eq_ok.mp h8
    obtain ⟨_, bias, h10, hbias, rfl⟩ := Checked.seq_eq_ok.mp h9
    obtain ⟨_, topP, h11, htopP, rfl⟩ := Checked.seq_eq_ok.mp h10
    obtain ⟨_, temperature, h12, htemperature, rfl⟩ := Checked.seq_eq_ok.mp h11
    obtain ⟨_, maxTokens, h13, hmaxTokens, rfl⟩ := Checked.seq_eq_ok.mp h12
    obtain ⟨_, model, h14, hmodel, rfl⟩ := Checked.seq_eq_ok.mp h13
    obtain ⟨messages, hmessages, rfl⟩ := Checked.map_eq_ok.mp h14
    exact {
      messages := (Checked.ok.inj hmessages).symm
      model := Checked.under_eq_ok.mp hmodel
      maxTokens := pick_eq_ok.mp hmaxTokens
      temperature := pick_eq_ok.mp htemperature
      topP := pick_eq_ok.mp htopP
      logitBias := pick_eq_ok.mp hbias
      user := pick_eq_ok.mp huser
      stop := pick_eq_ok.mp hstop
      presencePenalty := pick_eq_ok.mp hpresence
      frequencyPenalty := pick_eq_ok.mp hfrequency
      seed := pick_eq_ok.mp hseed
      tools := (Checked.ok.inj htools).symm
      forcedTool := (Checked.ok.inj hforced).symm
      format := (Checked.ok.inj hformat).symm
      strictSchema := Checked.under_eq_ok.mp hstrict }
  · intro h
    rw [merge, Checked.under_eq_ok.mpr h.model, pick_eq_ok.mpr h.maxTokens,
      pick_eq_ok.mpr h.temperature, pick_eq_ok.mpr h.topP, pick_eq_ok.mpr h.logitBias,
      pick_eq_ok.mpr h.user, pick_eq_ok.mpr h.stop, pick_eq_ok.mpr h.presencePenalty,
      pick_eq_ok.mpr h.frequencyPenalty, pick_eq_ok.mpr h.seed,
      Checked.under_eq_ok.mpr h.strictSchema, ← h.messages, ← h.tools, ← h.forcedTool,
      ← h.format]
    rfl

/-- The options of a request, before it is counted. -/
def options (c : Client) (r : ChatRequest) : Outcome Options := do
  r.check
  let forced ← r.forcedTool
  (c.merge r forced).toOutcome

/-- A request comes to these options. -/
structure Settles (c : Client) (r : ChatRequest) (o : Options) : Prop where
  check : r.check = .ok ()
  forced : r.forcedTool = .ok o.forcedTool
  merges : c.Merges r o.forcedTool o

/-- A request is refused with this fault: by the checks, for a tool that cannot be forced, or
    for defaults that cannot be read. -/
inductive Refuses (c : Client) (r : ChatRequest) (fault : Fault) : Prop
  | check (h : r.check = .error fault)
  | tool (hcheck : r.check = .ok ()) (h : r.forcedTool = .error fault)
  | defaults {forced : Option ToolSpec} (hcheck : r.check = .ok ())
      (hforced : r.forcedTool = .ok forced) (h : (c.merge r forced).toOutcome = .error fault)

theorem options_eq_ok {c : Client} {r : ChatRequest} {o : Options} :
    c.options r = .ok o ↔ c.Settles r o := by
  constructor
  · intro h
    cases hcheck : r.check with
    | error raised =>
        rw [options, hcheck] at h
        exact nomatch h
    | ok =>
        cases hforced : r.forcedTool with
        | error raised =>
            rw [options, hcheck, hforced] at h
            exact nomatch h
        | ok forced =>
            rw [options, hcheck, hforced] at h
            have hmerges := merge_eq_ok.mp (Checked.toOutcome_eq_ok.mp h)
            obtain rfl := hmerges.forcedTool
            exact ⟨hcheck, hforced, hmerges⟩
  · intro h
    rw [options, h.check, h.forced]
    exact Checked.toOutcome_eq_ok.mpr (merge_eq_ok.mpr h.merges)

theorem options_eq_error {c : Client} {r : ChatRequest} {fault : Fault} :
    c.options r = .error fault ↔ c.Refuses r fault := by
  constructor
  · intro h
    cases hcheck : r.check with
    | error raised =>
        rw [options, hcheck] at h
        obtain rfl := Except.error.inj h
        exact .check hcheck
    | ok =>
        cases hforced : r.forcedTool with
        | error raised =>
            rw [options, hcheck, hforced] at h
            obtain rfl := Except.error.inj h
            exact .tool hcheck hforced
        | ok forced =>
            rw [options, hcheck, hforced] at h
            exact .defaults hcheck hforced h
  · intro h
    cases h with
    | check h =>
        rw [options, h]
        rfl
    | tool hcheck h =>
        rw [options, hcheck, h]
        rfl
    | defaults hcheck hforced h =>
        rw [options, hcheck, hforced]
        exact h

theorem prepare_eq (c : Client) (r : ChatRequest) (scene : Scene) :
    c.prepare r scene =
      match c.options r with
      | .error fault => (.error fault, scene)
      | .ok o =>
        let (count, left) := scene.counting (c.estimator.countMessages r.messages)
        (count.map fun n => ⟨o, sentRequest r o, n⟩, left) := rfl

/-- **A preparation that goes well**: the request comes to options, and it can be counted. -/
theorem prepare_eq_ok {c : Client} {r : ChatRequest} {scene left : Scene} {p : Prepared} :
    c.prepare r scene = (.ok p, left)
      ↔ c.Settles r p.options ∧ p.request = sentRequest r p.options
        ∧ scene.counting (c.estimator.countMessages r.messages) = (.ok p.inputTokens, left) := by
  rw [prepare_eq, ← options_eq_ok]
  cases hoptions : c.options r with
  | error fault => exact ⟨fun h => (nomatch h), fun h => (nomatch h.1)⟩
  | ok o =>
      obtain ⟨count, counted⟩ := scene.counting (c.estimator.countMessages r.messages)
      cases count with
      | error fault => exact ⟨fun h => (nomatch h), fun h => (nomatch h.2.2)⟩
      | ok n =>
          constructor
          · rintro ⟨⟩
            exact ⟨rfl, rfl, rfl⟩
          · obtain ⟨po, pr, pn⟩ := p
            rintro ⟨⟨⟩, hrequest, ⟨⟩⟩
            obtain rfl : pr = sentRequest r po := hrequest
            rfl

/-- **A preparation that fails**: the request is refused on an untouched scene, or it comes to
    options and cannot be counted. -/
theorem prepare_eq_error {c : Client} {r : ChatRequest} {scene left : Scene} {fault : Fault} :
    c.prepare r scene = (.error fault, left)
      ↔ (c.Refuses r fault ∧ left = scene)
        ∨ ((∃ o, c.Settles r o)
            ∧ scene.counting (c.estimator.countMessages r.messages) = (.error fault, left)) := by
  simp only [prepare_eq, ← options_eq_error, ← options_eq_ok]
  cases hoptions : c.options r with
  | error raised =>
      constructor
      · rintro ⟨⟩
        exact .inl ⟨rfl, rfl⟩
      · rintro (⟨⟨⟩, rfl⟩ | ⟨⟨o, ⟨⟩⟩, -⟩)
        rfl
  | ok o =>
      obtain ⟨count, counted⟩ := scene.counting (c.estimator.countMessages r.messages)
      cases count with
      | error raised =>
          constructor
          · rintro ⟨⟩
            exact .inr ⟨⟨o, rfl⟩, rfl⟩
          · rintro (⟨⟨⟩, -⟩ | ⟨-, ⟨⟩⟩)
            rfl
      | ok n =>
          constructor
          · exact fun h => (nomatch h)
          · rintro (⟨⟨⟩, -⟩ | ⟨-, ⟨⟩⟩)

/-- A request that is refused leaves the scene alone. -/
theorem prepare_of_refuses {c : Client} {r : ChatRequest} {fault : Fault}
    (h : c.Refuses r fault) (scene : Scene) : c.prepare r scene = (.error fault, scene) :=
  prepare_eq_error.mpr (.inl ⟨h, rfl⟩)

-- ── Clients ────────────────────────────────────────────────────────────────────────

/-- **A client is made if it has one transport and its stop sequences can be walked through**,
    and then it has what it was given and defaults for the rest. -/
theorem make_eq_ok {sync async : Bool} {vocabulary : Vocabulary} {given : Ingredients}
    {c : Client} :
    make sync async vocabulary given = .ok c
      ↔ sync ≠ async ∧ ∃ stop, stopOf given.defaults.stop = .ok stop
        ∧ c = { deployment := deploymentOr given.deployment
                estimator := estimatorOr vocabulary given.estimator
                listeners := given.listeners
                format := given.format
                strictSchema := given.strictSchema
                provider := given.provider
                defaults := { given.defaults with stop } } := by
  rw [make, checkTransports]
  by_cases htransports : sync = async
  · rw [if_pos htransports]
    exact iff_of_false (fun h => nomatch h) fun h => h.1 htransports
  · rw [if_neg htransports, and_iff_right htransports]
    cases hstop : stopOf given.defaults.stop with
    | error fault =>
        refine iff_of_false (fun h => nomatch h) ?_
        rintro ⟨stop, herror, -⟩
        exact nomatch herror
    | ok stop =>
        constructor
        · intro h
          exact ⟨stop, rfl, (Except.ok.inj h).symm⟩
        · rintro ⟨_, ⟨⟩, rfl⟩
          rfl

/-- Stop sequences that are texts already are taken as they are. -/
theorem stopOf_texts (given : Option (List String)) :
    stopOf (.ofOption textTuple given) = .ok (.ofOption textTuple given) := by
  cases given <;> rfl

-- ── Nothing is asked before that ───────────────────────────────────────────────────

/-- A request that cannot be prepared asks for nothing. -/
theorem chat_eq_error {c : Client} {r : ChatRequest} {scene left : Scene} {fault : Fault}
    (h : c.prepare r scene = (.error fault, left)) (transport : Transport) (handler : Handler)
    (number : Nat) :
    c.chat transport r handler number scene = (.error fault, ⟨none, none, left⟩) := by
  rw [chat, h]

theorem run_asked (transport : Transport) (o : Options) (s : Session) :
    (run transport o s).2.asked = some o := by
  cases transport <;> rfl

/-- A prepared request goes to the transport if what its listeners raise is ordinary. -/
theorem asked_prepared {c : Client} (hlisteners : ∀ l ∈ c.listeners, l.Ordinary)
    {r : ChatRequest} {scene counted : Scene} {p : Prepared}
    (hprepare : c.prepare r scene = (.ok p, counted)) (transport : Transport)
    (handler : Handler) (number : Nat) :
    (c.chat transport r handler number scene).2.asked = some p.options := by
  let s := c.session p handler number counted
  obtain ⟨told, htell, -⟩ := Listener.tellAll_ordinary hlisteners
    (show (Listener.hookOf (.started s.exchange)).isSome from rfl) s.scene
  have hstart : s.tell (.started s.exchange) = (.ok (), { s with scene := told }) := by
    rw [Session.tell, show s.listeners = c.listeners from rfl, htell]
  rw [chat, hprepare]
  dsimp only
  rw [hstart]
  exact run_asked _ _ _

/-- **What a transport is asked for** are the options that the request was prepared with. -/
theorem chat_asked {c : Client} {transport : Transport} {r : ChatRequest} {handler : Handler}
    {number : Nat} {scene : Scene} {o : Options}
    (h : (c.chat transport r handler number scene).2.asked = some o) : c.Settles r o := by
  rw [chat] at h
  rcases hprepare : c.prepare r scene with ⟨fault | p, left⟩
  · rw [hprepare] at h
    exact nomatch h
  · rw [hprepare] at h
    dsimp only at h
    split at h
    · exact nomatch h
    · rw [run_asked] at h
      obtain rfl := Option.some.inj h
      exact (prepare_eq_ok.mp hprepare).1

end Client

end CompletionStream
