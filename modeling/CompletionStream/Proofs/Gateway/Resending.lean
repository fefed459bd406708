import CompletionStream.Proofs.Client.Script
import CompletionStream.Proofs.Gateway.Sending
import CompletionStream.Proofs.Session.Bag

/-!
# Resending — what listeners see is what was sent

Listeners see a request that was merged with the defaults of the client (`Client.sentRequest`).
Once its model is cleared it can be sent itself, and merging it is merging nothing: a parameter
that was chosen is chosen again, whether its default is still there or not (`Chosen.again`), a
tool that was forced is forced again (`forcedTool_unnamed`), and a request merged with defaults
that lie within their ranges passes the gate as the first one did (`Merges.fits`).

So it settles on the options it was made from (`Settles.again`), and listeners see of it what
they saw before (`sentRequest_unnamed`), over the client that merged it as over one that has
nothing to merge it with (`Client.Repeats`).  What is prepared is sent, unless a listener
interrupts its start (`asked_exactly`), and the call depends on the options alone.
-/

namespace CompletionStream

/-- What was chosen is chosen again, over the same default and over none. -/
theorem Chosen.again {α : Type} {read : Reader α} {default : Value} {own chosen : Option α}
    (h : Chosen read default own chosen) {v : Value} (hv : v = default ∨ v = .null) :
    Chosen read v chosen chosen := by
  cases h with
  | own a => exact .own a
  | fallback hread =>
      cases chosen with
      | some a => exact .own a
      | none =>
          rcases hv with rfl | rfl
          · exact .fallback hread
          · exact .fallback rfl

/-- A request that leaves the model to the client. -/
def ChatRequest.unnamed (r : ChatRequest) : ChatRequest :=
  { r with modelName := none }

namespace Client

-- ── The merged request ─────────────────────────────────────────────────────────────

section

variable {r : ChatRequest} {o : Options}

/-- The tools on offer are those of the request. -/
theorem tools_sentRequest (h : o.tools = r.offeredTools) : (sentRequest r o).tools = r.tools := by
  rw [sentRequest, h, ChatRequest.offeredTools]
  cases r.tools <;> rfl

theorem offeredTools_unnamed (h : o.tools = r.offeredTools) :
    (sentRequest r o).unnamed.offeredTools = o.tools := by
  have htools : (sentRequest r o).unnamed.tools = r.tools := tools_sentRequest h
  rw [ChatRequest.offeredTools, htools, h, ChatRequest.offeredTools]

/-- A tool is demanded of the merged request if it is of the request and there is one. -/
theorem toolChoice_sentRequest (h : o.tools = r.offeredTools) :
    (sentRequest r o).toolChoice = if r.tools = [] then none else r.toolChoice := by
  rw [sentRequest, h, ChatRequest.offeredTools]
  cases r.tools <;> rfl

/-- The same tool is forced. -/
theorem forcedTool_unnamed (h : o.tools = r.offeredTools) :
    (sentRequest r o).unnamed.forcedTool = r.forcedTool := by
  have htools : (sentRequest r o).unnamed.tools = r.tools := tools_sentRequest h
  have hchoice : (sentRequest r o).unnamed.toolChoice = _ := toolChoice_sentRequest h
  rw [ChatRequest.forcedTool.eq_def, ChatRequest.forcedTool.eq_def, htools, hchoice]
  cases r.tools with
  | nil =>
      cases r.toolChoice with
      | none => rfl
      | some choice => cases choice <;> rfl
  | cons tool rest => rfl

/-- **What listeners see of the merged request is itself.** -/
theorem sentRequest_unnamed (r : ChatRequest) (o : Options) :
    sentRequest (sentRequest r o).unnamed o = sentRequest r o := by
  have hchoice : (if o.tools.isSome then (if o.tools.isSome then r.toolChoice else none) else none)
      = if o.tools.isSome then r.toolChoice else none := by
    cases o.tools <;> rfl
  exact congrArg (fun toolChoice => { sentRequest r o with toolChoice }) hchoice

/-- **The merged request passes the gate** if the request did and the defaults lie within their
    ranges. -/
theorem Merges.fits {c : Client} {forced : Option ToolSpec} (h : c.Merges r forced o)
    (hdefaults : c.defaults.Ranged) (hr : r.Fits Range.Lets) :
    (sentRequest r o).unnamed.Fits Range.Lets := by
  have htools : (sentRequest r o).unnamed.tools = r.tools := tools_sentRequest h.tools
  exact {
    messages := by
      show o.messages ≠ []
      rw [h.messages]
      exact hr.messages
    modelName := rfl
    topK := rfl
    sampling := h.within (fun _ _ hx => .inl hx) hdefaults hr.sampling
    named := htools ▸ hr.named
    distinct := htools ▸ hr.distinct
    forced := by
      rintro ⟨hchoice, htwo⟩
      rw [htools] at htwo
      rw [show (sentRequest r o).unnamed.toolChoice = _ from toolChoice_sentRequest h.tools]
        at hchoice
      split at hchoice
      · exact nomatch hchoice
      · exact hr.forced ⟨hchoice, htwo⟩ }

end

-- ── Clients that add nothing ───────────────────────────────────────────────────────

/-- A client that has nothing to add to what another has merged: the deployment and the strictness
    are the same, and whatever else it falls back on are the defaults of the other or none. -/
structure Repeats (c c' : Client) : Prop where
  deployment : c'.deployment = c.deployment
  strictSchema : c'.strictSchema = c.strictSchema
  defaults : c'.defaults = c.defaults ∨ c'.defaults = .none
  format : c'.format = c.format ∨ c'.format = none

theorem Repeats.refl (c : Client) : c.Repeats c :=
  ⟨rfl, rfl, .inl rfl, .inl rfl⟩

/-- A default of a client that adds nothing is that of the other, or there is none. -/
theorem Repeats.default {c c' : Client} (h : c.Repeats c') (parameter : Defaults → Value)
    (hnone : parameter .none = .null) :
    parameter c'.defaults = parameter c.defaults ∨ parameter c'.defaults = .null := by
  rcases h.defaults with hsame | hbare
  · exact .inl (congrArg parameter hsame)
  · exact .inr (hbare ▸ hnone)

/-- **MERGING IS IDEMPOTENT.**  A merged request comes to the options it was made from. -/
theorem Merges.again {c c' : Client} (hc : c.Repeats c') {r : ChatRequest}
    {forced : Option ToolSpec} {o : Options} (h : c.Merges r forced o) :
    c'.Merges (sentRequest r o).unnamed forced o where
  messages := rfl
  model := hc.deployment ▸ h.model
  maxTokens := h.maxTokens.again (hc.default (·.maxTokens) rfl)
  temperature := h.temperature.again (hc.default (·.temperature) rfl)
  topP := h.topP.again (hc.default (·.topP) rfl)
  logitBias := h.logitBias.again (hc.default (·.logitBias) rfl)
  user := h.user.again (hc.default (·.user) rfl)
  stop := h.stop.again (hc.default (·.stop) rfl)
  presencePenalty := h.presencePenalty.again (hc.default (·.presencePenalty) rfl)
  frequencyPenalty := h.frequencyPenalty.again (hc.default (·.frequencyPenalty) rfl)
  seed := h.seed.again (hc.default (·.seed) rfl)
  tools := (offeredTools_unnamed h.tools).symm
  forcedTool := h.forcedTool
  format := by
    show o.format = o.format.or c'.format
    rcases hc.format with hsame | hbare
    · rw [hsame, h.format, Option.or_assoc, Option.or_self]
    · rw [hbare, Option.or_none]
  strictSchema := hc.strictSchema ▸ h.strictSchema

/-- A merged request settles on the options it was made from. -/
theorem Settles.again {c c' : Client} (hc : c.Repeats c') (hdefaults : c.defaults.Ranged)
    {r : ChatRequest} {o : Options} (h : c.Settles r o) :
    c'.Settles (sentRequest r o).unnamed o := by
  have hfits : r.Fits Range.Lets :=
    ChatRequest.passes_iff.mp (ChatRequest.passes_of_settles h)
  exact {
    check := (ChatRequest.passes_iff.mpr (h.merges.fits hdefaults hfits)).1
    forced := (forcedTool_unnamed h.merges.tools).trans h.forced
    merges := h.merges.again hc }

/-- The second client can count on its scene what the first counted on its own: it counts the
    same way with the same encoding, or its count goes well for reasons of its own. -/
def Recounts (c c' : Client) (messages : List Message) (scene scene' : Scene) : Prop :=
  (c'.estimator = c.estimator
      ∧ scene'.tally.encodingFor (some c.estimator) = scene.tally.encodingFor (some c.estimator))
    ∨ ∃ n, (c'.estimator.countMessages messages scene'.tally).1 = .ok n

/-- What was counted is counted again. -/
theorem Recounts.counting {c c' : Client} {messages : List Message} {scene scene' : Scene}
    (h : c.Recounts c' messages scene scene') {n : Int}
    (hn : (scene.counting (c.estimator.countMessages messages)).1 = .ok n) :
    ∃ n, (scene'.counting (c'.estimator.countMessages messages)).1 = .ok n := by
  rcases h with ⟨hsame, hencoding⟩ | ⟨n, hn⟩
  · have hsteady := c.estimator.steady_countMessages messages
    refine ⟨n, ?_⟩
    rw [hsame, Scene.counting_answer hsteady hencoding, ← Scene.counting_answer hsteady rfl]
    exact hn
  · have hsteady := c'.estimator.steady_countMessages messages
    exact ⟨n, (Scene.counting_answer hsteady rfl).trans hn⟩

/-- **A merged request is prepared** where its messages can be counted: its options and what
    listeners see of it are those that it was made from. -/
theorem prepare_again {c c' : Client} (hc : c.Repeats c') (hdefaults : c.defaults.Ranged)
    {r : ChatRequest} {scene counted : Scene} {p : Prepared}
    (hprepare : c.prepare r scene = (.ok p, counted)) {scene' : Scene}
    (hcounts : c.Recounts c' r.messages scene scene') :
    ∃ n left, c'.prepare p.request.unnamed scene' = (.ok ⟨p.options, p.request, n⟩, left) := by
  obtain ⟨hsettles, hrequest, hcount⟩ := prepare_eq_ok.mp hprepare
  obtain ⟨n, hn⟩ := hcounts.counting (congrArg Prod.fst hcount)
  have hmessages : p.request.messages = r.messages := by
    rw [hrequest]
    exact hsettles.merges.messages
  refine ⟨n, _, prepare_eq_ok.mpr ⟨?_, ?_, Prod.ext ?_ rfl⟩⟩
  · rw [hrequest]
    exact hsettles.again hc hdefaults
  · rw [hrequest]
    exact (sentRequest_unnamed r p.options).symm
  · show (scene'.counting (c'.estimator.countMessages p.request.messages)).1 = _
    rw [hmessages, hn]

end Client

-- ── What listeners are told ────────────────────────────────────────────────────────

namespace Client

/-- **A prepared request goes to the transport exactly if no listener interrupts its start**,
    where the first of them finds an empty bag. -/
theorem asked_exactly {c : Client} {r : ChatRequest} {scene counted : Scene} {p : Prepared}
    (hprepare : c.prepare r scene = (.ok p, counted)) (transport : Transport)
    (handler : Handler) (number : Nat) :
    let start := Listener.LetStart ⟨p.request, c.provider, number, number⟩ c.listeners
      ⟨[], scene.clock⟩
    (start → (c.chat transport r handler number scene).2.asked = some p.options)
      ∧ (¬ start → (c.chat transport r handler number scene).2.asked = none) := by
  -- counting reads no clock
  have hclock : counted.clock = scene.clock := by
    have hleft : _ = counted := congrArg Prod.snd (prepare_eq_ok.mp hprepare).2.2
    rw [← hleft]
    rfl
  let s := c.session p handler number counted
  have htold : (s.tell (.started s.exchange)).1 = .ok () ↔ Listener.LetStart
      ⟨p.request, c.provider, number, number⟩ c.listeners ⟨[], scene.clock⟩ := by
    rw [← hclock]
    exact Listener.tellFrom_started c.listeners 0 s.exchange counted.unmarked
  rw [← htold, chat, hprepare]
  dsimp only
  cases htell : s.tell (.started s.exchange) with
  | mk outcome told =>
      cases outcome with
      | ok u => exact ⟨fun _ => run_asked _ _ _, fun hnot => absurd rfl hnot⟩
      | error fault => exact ⟨fun hok => (by cases hok), fun _ => rfl⟩

/-- A request whose listeners are ordinary leaves the encoding as it is. -/
theorem encodingFor_chat (c : Client) (hlisteners : ∀ l ∈ c.listeners, l.Ordinary)
    (transport : Transport) (r : ChatRequest) (handler : Handler) (number : Nat) (scene : Scene) :
    (c.chat transport r handler number scene).2.scene.tally.encodingFor (some c.estimator)
      = scene.tally.encodingFor (some c.estimator) := by
  obtain ⟨outcome, asked, pulled, script, -, -, hchat⟩ :=
    c.chat_script transport r handler number scene.tally
  have hplayed : c.chat transport r handler number scene = _ :=
    hchat c.listeners scene hlisteners rfl
  rw [hplayed]
  refine (Scene.encodingFor_play _ _ _).trans ?_
  cases asked <;> rfl

/-- **Observers are told of the start first**, and then of nothing but this request. -/
theorem heardBy_prepared {c : Client} {r : ChatRequest} {scene counted : Scene} {p : Prepared}
    (hprepare : c.prepare r scene = (.ok p, counted))
    (hlisteners : ∀ l ∈ c.listeners, l.Ordinary) (transport : Transport) (handler : Handler)
    (number : Nat) {i : Nat} {o : Observer} (ho : c.listeners[i]? = some (.observer o)) :
    ∃ rest, (c.chat transport r handler number scene).2.scene.heardBy i
        = scene.heardBy i ++ .started ⟨p.request, c.provider, number, number⟩ :: rest
      ∧ ∀ event ∈ rest, event.exchange? = some ⟨p.request, c.provider, number, number⟩ := by
  let x : Exchange := ⟨p.request, c.provider, number, number⟩
  obtain ⟨result, s', counting, rest, hsecret, hfollows, hchat⟩ :=
    prepared_follows hprepare hlisteners transport handler number
  have htold : Move.told (counting ++ .tell (.started x) :: rest)
      = .started x :: Move.told rest := by
    rw [Move.told_append, ← Move.told_shown counting, hsecret]
    rfl
  have habout : ∀ event ∈ Move.told rest, event.exchange? = some x := hfollows.about
  have hhooks : ∀ event ∈ Move.told (counting ++ .tell (.started x) :: rest),
      (Listener.hookOf event).isSome := by
    intro event hevent
    rw [htold] at hevent
    rcases List.mem_cons.mp hevent with rfl | hevent
    · rfl
    · exact Event.hooked (habout event hevent)
  refine ⟨Move.told rest, ?_, habout⟩
  rw [hchat, ← htold]
  exact scene.unmarked.heardBy_play _ hhooks ho

end Client

-- ── What is sent again ─────────────────────────────────────────────────────────────

namespace Gateway

/-- A request is accepted, it comes to a call with these arguments, and what listeners are told
    of is this request. -/
structure Delivers (g : Gateway) (r : ChatRequest) (raw : RawStream) (handler : Handler)
    (number : Nat) (scene : Scene) (args : List (String × Value)) (seen : ChatRequest) :
    Prop where
  accepted : ∃ p counted, g.client.prepare r scene = (.ok p, counted) ∧ p.request = seen
  sent : Listener.LetStart ⟨seen, g.client.provider, number, number⟩ g.client.listeners
      ⟨[], scene.clock⟩ → (g.chat raw r handler number scene).sent = [.object args]
  /-- Whoever interrupts the start of a request keeps it from being sent. -/
  stopped : ¬ Listener.LetStart ⟨seen, g.client.provider, number, number⟩ g.client.listeners
      ⟨[], scene.clock⟩ → (g.chat raw r handler number scene).sent = []
  /-- An observer is told of the start first, and all that it is told is about this request. -/
  told : (∀ l ∈ g.client.listeners, l.Ordinary) →
    ∀ i o, g.client.listeners[i]? = some (.observer o) → ∃ rest,
      (g.chat raw r handler number scene).report.scene.heardBy i
          = scene.heardBy i ++ .started ⟨seen, g.client.provider, number, number⟩ :: rest
        ∧ ∀ event ∈ rest, event.exchange? = some ⟨seen, g.client.provider, number, number⟩

/-- **A prepared request is delivered.** -/
theorem delivers {g : Gateway} {r : ChatRequest} {scene counted : Scene} {p : Client.Prepared}
    (hprepare : g.client.prepare r scene = (.ok p, counted)) (raw : RawStream)
    (handler : Handler) (number : Nat) :
    g.Delivers r raw handler number scene
      (Wire.argumentsFor g.client.deployment p.options g.includeUsage) p.request where
  accepted := ⟨p, counted, hprepare, rfl⟩
  sent hstart := by
    obtain ⟨transport, hsent⟩ := g.sent_eq raw r handler number scene
    rw [hsent, (Client.asked_exactly hprepare transport handler number).1 hstart]
    rfl
  stopped hstart := by
    obtain ⟨transport, hsent⟩ := g.sent_eq raw r handler number scene
    rw [hsent, (Client.asked_exactly hprepare transport handler number).2 hstart]
    rfl
  told hlisteners i o ho := Client.heardBy_prepared hprepare hlisteners _ handler number ho

/-- **WHAT LISTENERS SEE IS WHAT WAS SENT.**  Over defaults that lie within their ranges, the
    request that is told of comes to the very same call when it is sent itself, its model
    cleared, and listeners are then told of it again.  So it does over the same gateway
    (`Client.Repeats.refl`), also on the scene that the first request has left, and over any
    other whose client has the same deployment and strictness, no defaults, and a way to count
    the messages. -/
theorem resent {g : Gateway} (hdefaults : g.client.defaults.Ranged) {r : ChatRequest}
    {scene counted : Scene} {p : Client.Prepared}
    (hprepare : g.client.prepare r scene = (.ok p, counted)) (raw : RawStream)
    (handler : Handler) (number : Nat) :
    ∃ args, g.Delivers r raw handler number scene args p.request
      ∧ (∀ g' : Gateway, g.client.Repeats g'.client → g'.includeUsage = g.includeUsage →
          ∀ raw' handler' number' scene', g.client.Recounts g'.client r.messages scene scene' →
            g'.Delivers p.request.unnamed raw' handler' number' scene' args p.request)
      ∧ ((∀ l ∈ g.client.listeners, l.Ordinary) → g.client.Recounts g.client r.messages scene
          (g.chat raw r handler number scene).report.scene) := by
  refine ⟨_, delivers hprepare raw handler number, ?_, fun hlisteners => ?_⟩
  · intro g' hrepeats husage raw' handler' number' scene' hcounts
    obtain ⟨n, left, hagain⟩ := Client.prepare_again hrepeats hdefaults hprepare hcounts
    rw [← husage, ← hrepeats.deployment]
    exact delivers hagain raw' handler' number'
  · exact .inl ⟨rfl, g.client.encodingFor_chat hlisteners _ r handler number scene⟩

-- ── A default that is gone ─────────────────────────────────────────────────────────

/-- A gateway with a default temperature and a default format. -/
def mild : Gateway where
  connection := ⟨.openAI, .sync, []⟩
  includeUsage := true
  client := { Client.lukewarm with
    listeners := [.observer .surly, .silent], format := some ⟨.json, none, none⟩ }

/-- The same in the other mode and without defaults. -/
def unset : Gateway where
  connection := ⟨.azure, .async, []⟩
  includeUsage := true
  client := { mild.client with defaults := .none, format := none }

/-- A request that demands its only tool. -/
def demanding : ChatRequest :=
  { Client.greeting with tools := [⟨"t", none, default⟩], toolChoice := some .required }

/-- The merged request has the default temperature and format itself, and makes the same call where
    they are and where they are not, as it does on the scene that the first request has left. -/
theorem resent_unset :
    ∃ args seen, (mild.chat garbled demanding .steady 0 (.fresh [])).sent = [.object args]
      ∧ (mild.chat garbled seen.unnamed .steady 1
          (mild.chat garbled demanding .steady 0 (.fresh [])).report.scene).sent = [.object args]
      ∧ (unset.chat garbled seen.unnamed .steady 1 (.fresh [])).sent = [.object args]
      ∧ (∃ p counted, mild.client.prepare demanding (.fresh []) = (.ok p, counted)
          ∧ p.request = seen)
      ∧ seen.modelName = some "d" ∧ seen.sampling.temperature = some 0.5
      ∧ seen.format = some ⟨.json, none, none⟩ := by
  have hstart := Listener.letStart_of_ordinary Observer.surly_ordinary
  obtain ⟨args, hfirst, hagain, hleft⟩ :=
    @resent mild Client.lukewarm_ranged demanding (.fresh []) _ _ rfl garbled .steady 0
  have hsame := hagain mild (Client.Repeats.refl _) rfl garbled .steady 1 _
    (hleft Observer.surly_ordinary)
  have hbare := hagain unset ⟨rfl, rfl, .inr rfl, .inr rfl⟩ rfl garbled .steady 1 (.fresh [])
    (.inl ⟨rfl, rfl⟩)
  exact ⟨args, _, hfirst.sent (hstart _ _), hsame.sent (hstart _ _), hbare.sent (hstart _ _),
    hfirst.accepted, rfl, rfl, rfl⟩

end Gateway

end CompletionStream
