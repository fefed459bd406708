import CompletionStream.Proofs.Client.Preparing

/-!
# Defaults — what a request is merged with

A client takes its defaults as they come and reads them only when a request leaves a parameter
out.  `Typed` says that they come as values of their types, and what they amount to: then none
of them can fail to be read, and the merge of any request comes to exactly one bag of options
(`merges_merged`), in which every parameter is the request's own or else the default.  A client
that is made of values of their types has typed defaults (`make_typed`).
-/

namespace CompletionStream

namespace Defaults

/-- A decimal may be given as a double, or as an integer within the range of doubles. -/
inductive Number : Value → Option Float → Prop
  | absent : Number .null Option.none
  | float (x : Float) : Number (.float x) (some x)
  | int (n : Int) {negative : Bool} {mantissa : Nat} {exponent : Int}
      (hfinite : FloatClass.ofFloat (nearestFloat n) = .finite negative mantissa exponent) :
      Number (.int n) (some (nearestFloat n))

/-- Every default is of its type or null, and together they amount to these parameters. -/
structure Typed (d : Defaults) (s : Sampling) : Prop where
  maxTokens : d.maxTokens = .ofOption .int s.maxTokens
  temperature : Number d.temperature s.temperature
  topP : Number d.topP s.topP
  logitBias : d.logitBias = .ofOption biasValue s.logitBias
  user : d.user = .ofOption .str s.user
  stop : d.stop = .ofOption textTuple s.stop
  presencePenalty : Number d.presencePenalty s.presencePenalty
  frequencyPenalty : Number d.frequencyPenalty s.frequencyPenalty
  seed : d.seed = .ofOption .int s.seed

/-- A number that was given is read as what it amounts to. -/
theorem Number.read {v : Value} {given : Option Float} (h : Number v given) :
    Reader.nullable .decimal v = .ok given := by
  cases h with
  | absent => rfl
  | float x => rfl
  | int n hfinite =>
      rw [Reader.nullable_of_ne_null _ Value.noConfusion, Reader.decimal, hfinite]
      rfl

end Defaults

/-- Parameters that fall back on others where they are not given. -/
def Sampling.or (own fallback : Sampling) : Sampling where
  temperature := own.temperature.or fallback.temperature
  topP := own.topP.or fallback.topP
  presencePenalty := own.presencePenalty.or fallback.presencePenalty
  frequencyPenalty := own.frequencyPenalty.or fallback.frequencyPenalty
  logitBias := own.logitBias.or fallback.logitBias
  stop := own.stop.or fallback.stop
  seed := own.seed.or fallback.seed
  maxTokens := own.maxTokens.or fallback.maxTokens
  user := own.user.or fallback.user

/-- A default that can be read stands in where nothing is given. -/
theorem Chosen.or {α : Type} {read : Reader α} {default : Value} {fallback : Option α}
    (h : Reader.nullable read default = .ok fallback) (own : Option α) :
    Chosen read default own (own.or fallback) := by
  cases own with
  | none => exact .fallback h
  | some a => exact .own a

/-- What a client is made of is of its types.  Stop sequences may come in any form that texts can
    be taken from. -/
structure Ingredients.Typed (given : Ingredients) (name : Option String) (s : Sampling)
    (strict : Bool) : Prop where
  deployment : given.deployment = .ofOption .str name
  stop : Client.stopOf given.defaults.stop = .ok (.ofOption textTuple s.stop)
  defaults : { given.defaults with stop := .ofOption textTuple s.stop }.Typed s
  strictSchema : given.strictSchema = .bool strict

namespace Client

/-- A client whose deployment, defaults and switches are of their types. -/
structure Typed (c : Client) (name : String) (s : Sampling) (strict : Bool) : Prop where
  deployment : c.deployment = .str name
  defaults : c.defaults.Typed s
  strictSchema : c.strictSchema = .bool strict

/-- The name of the deployment that is given, or the default. -/
def nameOr (given : Option String) : String :=
  if given.getD "" = "" then defaultDeployment else given.getD ""

theorem deploymentOr_text (given : Option String) :
    deploymentOr (.ofOption .str given) = .str (nameOr given) := by
  rw [deploymentOr, nameOr]
  cases given with
  | none => rfl
  | some name =>
      by_cases hname : name = ""
      · rw [hname]
        rfl
      · rw [Value.ofOption, Value.truthy, if_pos (decide_eq_true hname), Option.getD_some,
          if_neg hname]

/-- **A client that is made of values of their types has typed defaults.** -/
theorem make_typed {sync async : Bool} {vocabulary : Vocabulary} {given : Ingredients}
    {name : Option String} {s : Sampling} {strict : Bool} (h : given.Typed name s strict)
    {c : Client} (hmake : make sync async vocabulary given = .ok c) :
    c.Typed (nameOr name) s strict := by
  obtain ⟨-, stop, hstop, rfl⟩ := make_eq_ok.mp hmake
  obtain rfl := Except.ok.inj (hstop.symm.trans h.stop)
  exact ⟨h.deployment ▸ deploymentOr_text name, h.defaults, h.strictSchema⟩

/-- What a request is merged into over typed defaults. -/
def merged (c : Client) (name : String) (s : Sampling) (strict : Bool) (r : ChatRequest)
    (forced : Option ToolSpec) : Options where
  messages := r.messages
  model := name
  sampling := r.sampling.or s
  tools := r.offeredTools
  forcedTool := forced
  format := r.format.or c.format
  strictSchema := strict

/-- **Over typed defaults every request is merged**, each parameter its own or the default. -/
theorem merges_merged {c : Client} {name : String} {s : Sampling} {strict : Bool}
    (h : c.Typed name s strict) (r : ChatRequest) (forced : Option ToolSpec) :
    c.Merges r forced (c.merged name s strict r forced) where
  messages := rfl
  model := by rw [h.deployment]; rfl
  maxTokens := .or (h.defaults.maxTokens ▸ Reader.nullable_integer _) _
  temperature := .or h.defaults.temperature.read _
  topP := .or h.defaults.topP.read _
  logitBias := .or (h.defaults.logitBias ▸ Reader.nullable_biasValue _) _
  user := .or (h.defaults.user ▸ Reader.nullable_text _) _
  stop := .or (h.defaults.stop ▸ Reader.nullable_textTuple _) _
  presencePenalty := .or h.defaults.presencePenalty.read _
  frequencyPenalty := .or h.defaults.frequencyPenalty.read _
  seed := .or (h.defaults.seed ▸ Reader.nullable_integer _) _
  tools := rfl
  forcedTool := rfl
  format := rfl
  strictSchema := by rw [h.strictSchema]; rfl

end Client

end CompletionStream
