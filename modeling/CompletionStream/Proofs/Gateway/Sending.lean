import CompletionStream.Proofs.Client.Admitted
import CompletionStream.Proofs.Client.Defaults
import CompletionStream.Proofs.Gateway.Modes
import CompletionStream.Proofs.Wire.Written

/-!
# Sending — the call that a gateway makes of a request

A request that passes and can be counted is sent in one call.  `Sends` says what that call
holds, keyword by keyword and member by member, from the request and the defaults alone:
nothing of how they were merged into options and written out is left in it.

Over typed defaults every such request is prepared (`prepare_typed`) and comes to the merged
options (`options_typed`), and the call that is made of these holds what it should
(`sends_merged`).  A gateway that was assembled
from settings has typed defaults, namely those of the settings (`assemble_typed`).
-/

namespace CompletionStream

namespace Gateway

/-- What the call for a request holds under its keywords, where `s` are the defaults of the
    client and `format` is its output format. -/
structure Sends (name : String) (s : Sampling) (strict includeUsage : Bool)
    (format : Option ResponseFormat) (r : ChatRequest) (args : List (String × Value)) :
    Prop where
  model : args.lookup "model" = some (.str name)
  stream : args.lookup "stream" = some (.bool true)
  messages : ∃ vs, args.lookup "messages" = some (.list vs)
    ∧ List.Forall₂ Wire.WritesMessage r.messages vs
  maxTokens : args.lookup "max_tokens" = (r.sampling.maxTokens.or s.maxTokens).map .int
  temperature :
    args.lookup "temperature" = (r.sampling.temperature.or s.temperature).map .float
  topP : args.lookup "top_p" = (r.sampling.topP.or s.topP).map .float
  logitBias : args.lookup "logit_bias" = (r.sampling.logitBias.or s.logitBias).map
    fun bias => .object (bias.map fun (token, n) => (token, .int n))
  user : args.lookup "user" = (r.sampling.user.or s.user).map .str
  presencePenalty : args.lookup "presence_penalty"
    = (r.sampling.presencePenalty.or s.presencePenalty).map .float
  frequencyPenalty : args.lookup "frequency_penalty"
    = (r.sampling.frequencyPenalty.or s.frequencyPenalty).map .float
  seed : args.lookup "seed" = (r.sampling.seed.or s.seed).map .int
  /-- An empty list of stop sequences counts as given, and is not sent. -/
  stop : args.lookup "stop" = ((r.sampling.stop.or s.stop).filter (!·.isEmpty)).map
    fun texts => .list (texts.map .str)
  noTools : r.tools = [] → args.lookup "tools" = none
  tools : r.tools ≠ [] → ∃ vs, args.lookup "tools" = some (.list vs)
    ∧ List.Forall₂ Wire.WritesTool r.tools vs
  toolChoice : (args.lookup "tool_choice").isSome
    ↔ r.toolChoice = some .required ∧ r.tools ≠ []
  /-- A choice of tool names the one tool on offer. -/
  forced : ∀ v, args.lookup "tool_choice" = some v → ∃ tool, r.tools = [tool]
    ∧ v = .object [("type", .str "function"), ("function", .object [("name", .str tool.name)])]
  format : Option.Rel (Wire.WritesFormat strict) (r.format.or format)
    (args.lookup "response_format")
  streamOptions : args.lookup "stream_options"
    = if includeUsage then some (.object [("include_usage", .bool true)]) else none
  distinct : (args.map (·.1)).Nodup
  only : args.map (·.1) ⊆ Wire.keywords

-- ── The merged request ─────────────────────────────────────────────────────────────

/-- Over typed defaults the options that a request comes to are the merged ones. -/
theorem options_typed {c : Client} {name : String} {s : Sampling} {strict : Bool}
    (h : c.Typed name s strict) {r : ChatRequest} {o : Options} (hsettles : c.Settles r o) :
    o = c.merged name s strict r o.forcedTool := by
  have hmerge := Client.merge_eq_ok.mpr hsettles.merges
  rw [Client.merge_eq_ok.mpr (c.merges_merged h r o.forcedTool)] at hmerge
  exact (Checked.ok.inj hmerge).symm

/-- Over typed defaults a request that passes and can be counted is prepared. -/
theorem prepare_typed {c : Client} {name : String} {s : Sampling} {strict : Bool}
    (h : c.Typed name s strict) {r : ChatRequest} (hpasses : r.Passes) {scene : Scene} {n : Int}
    (hcount : (scene.counting (c.estimator.countMessages r.messages)).1 = .ok n) :
    ∃ p counted, c.prepare r scene = (.ok p, counted) := by
  obtain ⟨hcheck, forced, hforced⟩ := hpasses
  have hsettles : c.Settles r (c.merged name s strict r forced) :=
    ⟨hcheck, hforced, c.merges_merged h r forced⟩
  exact ⟨⟨_, Client.sentRequest r _, n⟩, _,
    Client.prepare_eq_ok.mpr ⟨hsettles, rfl, Prod.ext hcount rfl⟩⟩

/-- **The call for a merged request** holds what it should. -/
theorem sends_merged (c : Client) (name : String) (s : Sampling) (strict includeUsage : Bool)
    {r : ChatRequest} {forced : Option ToolSpec} (hforced : r.forcedTool = .ok forced) :
    Sends name s strict includeUsage c.format r
      (Wire.argumentsFor (.str name) (c.merged name s strict r forced) includeUsage) := by
  have hoffered : (r.offeredTools.filter (!·.isEmpty)).map (fun ts => Value.list (ts.map Wire.tool))
      = if r.tools = [] then none else some (.list (r.tools.map Wire.tool)) := by
    rw [ChatRequest.offeredTools]
    cases r.tools <;> rfl
  have hkeys := Wire.keys_argumentsFor (.str name) (c.merged name s strict r forced) includeUsage
  have hlookup {keyword : String} {v : Option Value}
      (hslot : (keyword, v)
        ∈ Wire.slots (.str name) (c.merged name s strict r forced) includeUsage) :=
    Wire.lookup_argumentsFor hslot
  generalize Wire.argumentsFor (.str name) (c.merged name s strict r forced) includeUsage = args
    at hkeys hlookup ⊢
  have hbias : args.lookup "logit_bias" = (r.sampling.logitBias.or s.logitBias).map biasValue :=
    hlookup (by simp [Wire.slots, Client.merged, Sampling.or])
  have hmessages : args.lookup "messages" = some (.list (r.messages.map Wire.message)) :=
    hlookup (by simp [Wire.slots, Client.merged])
  have htools : args.lookup "tools"
      = if r.tools = [] then none else some (.list (r.tools.map Wire.tool)) :=
    hoffered ▸ hlookup (by simp [Wire.slots, Client.merged])
  have hchoice : args.lookup "tool_choice" = forced.map Wire.toolChoice :=
    hlookup (by simp [Wire.slots, Client.merged])
  have hformat : args.lookup "response_format"
      = (r.format.or c.format).map (Wire.format · strict) :=
    hlookup (by simp [Wire.slots, Client.merged])
  refine {
    model := hlookup (by simp [Wire.slots])
    stream := hlookup (by simp [Wire.slots])
    messages := ⟨_, hmessages, ?_⟩
    maxTokens := hlookup (by simp [Wire.slots, Client.merged, Sampling.or])
    temperature := hlookup (by simp [Wire.slots, Client.merged, Sampling.or])
    topP := hlookup (by simp [Wire.slots, Client.merged, Sampling.or])
    logitBias := hbias
    user := hlookup (by simp [Wire.slots, Client.merged, Sampling.or])
    presencePenalty := hlookup (by simp [Wire.slots, Client.merged, Sampling.or])
    frequencyPenalty := hlookup (by simp [Wire.slots, Client.merged, Sampling.or])
    seed := hlookup (by simp [Wire.slots, Client.merged, Sampling.or])
    stop := hlookup (by simp [Wire.slots, Client.merged, Sampling.or])
    noTools := fun hnone => htools.trans (if_pos hnone)
    tools := fun hsome => ⟨_, htools.trans (if_neg hsome), ?_⟩
    toolChoice := ?_
    forced := ?_
    format := ?_
    streamOptions := hlookup (by simp [Wire.slots])
    distinct := hkeys.nodup Wire.keywords_nodup
    only := hkeys.subset }
  · exact List.forall₂_map_right_iff.mpr
      (List.forall₂_same.mpr fun m _ => Wire.message_writes m)
  · exact List.forall₂_map_right_iff.mpr (List.forall₂_same.mpr fun t _ => Wire.tool_writes t)
  · rw [hchoice, Option.isSome_map]
    cases forced with
    | none => exact iff_of_false Bool.false_ne_true (ChatRequest.forcedTool_eq_none.mp hforced)
    | some tool =>
        obtain ⟨hdemanded, hone⟩ := ChatRequest.forcedTool_eq_some.mp hforced
        exact iff_of_true rfl ⟨hdemanded, by rw [hone]; exact List.cons_ne_nil _ _⟩
  · intro v hv
    rw [hchoice] at hv
    obtain ⟨tool, rfl, rfl⟩ := Option.map_eq_some_iff.mp hv
    exact ⟨tool, (ChatRequest.forcedTool_eq_some.mp hforced).2, rfl⟩
  · rw [hformat]
    cases r.format.or c.format with
    | none => exact .none
    | some f => exact .some (Wire.format_writes f strict)

-- ── A gateway from settings ────────────────────────────────────────────────────────

/-- The defaults of settings are of their types. -/
theorem defaultsOf_typed (s : Settings.DefaultSettings) : (defaultsOf s).Typed s.sampling := by
  have hnumber (given : Option Float) : Defaults.Number (.ofOption .float given) given := by
    cases given with
    | none => exact .absent
    | some x => exact .float x
  exact ⟨rfl, hnumber _, hnumber _, rfl, rfl, rfl, hnumber _, hnumber _, rfl⟩

/-- A gateway from settings has the values of the settings. -/
structure Configured (s : Settings.AppSettings) (g : Gateway) : Prop where
  typed : g.client.Typed (Client.nameOr s.client.deployment) s.defaults.sampling
    s.defaults.strictSchema
  includeUsage : g.includeUsage = s.client.includeUsage
  format : defaultFormat s.defaults.format = .ok g.client.format

/-- **An assembled gateway is configured by its settings.** -/
theorem assemble_configured {s : Settings.AppSettings} {listeners : List Listener}
    {estimator : Option Estimator} {vocabulary : Vocabulary} {g : Gateway}
    (h : (assemble s listeners estimator vocabulary).outcome = .ok g) : g.Configured s := by
  obtain ⟨c, format, -, hformat, rfl⟩ := assemble_eq_ok h
  exact ⟨⟨Client.deploymentOr_text (some s.client.deployment), defaultsOf_typed s.defaults, rfl⟩,
    rfl, hformat⟩

-- ── What is sent ───────────────────────────────────────────────────────────────────

/-- What is sent are the arguments for what the transport is asked for. -/
theorem sent_eq (g : Gateway) (raw : RawStream) (r : ChatRequest) (handler : Handler)
    (number : Nat) (scene : Scene) :
    ∃ transport, (g.chat raw r handler number scene).sent
      = (g.client.chat transport r handler number scene).2.asked.toList.map fun o =>
          .object (Wire.argumentsFor g.client.deployment o g.includeUsage) :=
  ⟨_, rfl⟩

/-- Settings with defaults for three parameters. -/
def tuned : Settings.AppSettings :=
  { keyed with
    defaults := { keyed.defaults with
      sampling := { (default : Sampling) with
        temperature := some 0.5, stop := some ["x"], maxTokens := some 5 } } }

/-- A request that sets a temperature of zero and no stop sequences, and demands its tool. -/
def cold : ChatRequest :=
  { Client.greeting with
    tools := [⟨"freeze", none, []⟩], toolChoice := some .required
    sampling := { (default : Sampling) with temperature := some 0.0, stop := some [] } }

end Gateway

end CompletionStream
