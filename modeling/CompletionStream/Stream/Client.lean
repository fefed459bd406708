import CompletionStream.Chat.Gate
import CompletionStream.Chat.Options
import CompletionStream.Stream.Push

/-!
# Client — requests over one transport

A client has exactly one transport and defaults for the parameters that a request may leave
out. The defaults are taken as they come and are checked only when they are about to be sent.

A request is checked, merged with the defaults and counted before anyone is told of it. From
then on every outcome reaches the handler; only an interrupt leaves `chat` as a fault.
-/

namespace CompletionStream

/-- What opening a transport reports, and what comes of it. -/
structure Opening (α : Type) where
  log : List LogRecord
  outcome : Outcome α

/-- How chunks are had. -/
inductive Transport where
  | pull (opening : Options → Opening PullStream)
  | push (opening : Options → Opening PushSource)

/-- Whether chunks are pulled or pushed. -/
inductive Mode where
  | sync
  | async
  deriving DecidableEq, Repr, Inhabited

/-- The word for a mode. -/
def Mode.word : Mode → String
  | .sync => "sync"
  | .async => "async"

/-- The mode of a transport. -/
def Transport.mode : Transport → Mode
  | .pull _ => .sync
  | .push _ => .async

/-- Defaults for parameters that a request leaves out, as they come. -/
structure Defaults where
  maxTokens : Value
  temperature : Value
  topP : Value
  logitBias : Value
  user : Value
  stop : Value
  presencePenalty : Value
  frequencyPenalty : Value
  seed : Value
  deriving Inhabited

/-- No defaults. -/
def Defaults.none : Defaults :=
  ⟨.null, .null, .null, .null, .null, .null, .null, .null, .null⟩

/-- A client, apart from its transport. -/
structure Client where
  deployment : Value
  estimator : Estimator
  listeners : List Listener
  format : Option ResponseFormat
  strictSchema : Value
  provider : Provider
  defaults : Defaults

/-- What a client is made of, as its caller gives it. -/
structure Ingredients where
  deployment : Value
  estimator : Option Estimator
  listeners : List Listener
  format : Option ResponseFormat
  strictSchema : Value
  provider : Provider
  defaults : Defaults

namespace Client

/-- The deployment of a client that names none. -/
def defaultDeployment : String := "gpt-35-turbo"

/-- The model whose vocabulary is used where none is named. -/
def defaultModel : String := "gpt-3.5-turbo"

/-- A client has one transport, not two and not none. -/
def checkTransports (sync async : Bool) : Outcome Unit :=
  if sync = async then
    .error (.of .configuration
      "exactly one of sync_transport or async_transport must be configured")
  else .ok ()

/-- The estimator that is given, else a count over the vocabulary of the default model. -/
def estimatorOr (vocabulary : Vocabulary) (given : Option Estimator) : Estimator :=
  given.getD (.vocabulary vocabulary defaultModel)

/-- The deployment that is given, else the default. -/
def deploymentOr (given : Value) : Value :=
  if given.truthy then given else .str defaultDeployment

/-- The stop sequences that are given, in whatever form they can be walked through. -/
def stopOf (given : Value) : Outcome Value :=
  match given with
  | .null => .ok .null
  | v => v.walk.map .tuple

/-- Makes a client, where it is known which transports there are. Its stop sequences are walked
    through at once; all other defaults are left as they come. -/
def make (sync async : Bool) (vocabulary : Vocabulary) (given : Ingredients) :
    Outcome Client := do
  checkTransports sync async
  let stop ← stopOf given.defaults.stop
  return {
    deployment := deploymentOr given.deployment
    estimator := estimatorOr vocabulary given.estimator
    listeners := given.listeners
    format := given.format
    strictSchema := given.strictSchema
    provider := given.provider
    defaults := { given.defaults with stop } }

/-- A parameter of the request, else the default, which is still to be read. -/
def pick {α : Type} (name : String) (own : Option α) (read : Reader α) (default : Value) :
    Checked (Option α) :=
  match own with
  | some a => .ok (some a)
  | none => (Reader.nullable read default).under (.name name)

/-- The request merged with the defaults. -/
def merge (c : Client) (r : ChatRequest) (forced : Option ToolSpec) : Checked Options :=
  Options.ofFields
    <$> .ok r.messages
    <*> (Reader.text c.deployment).under (.name "model")
    <*> pick "max_tokens" r.sampling.maxTokens .integer c.defaults.maxTokens
    <*> pick "temperature" r.sampling.temperature .decimal c.defaults.temperature
    <*> pick "top_p" r.sampling.topP .decimal c.defaults.topP
    <*> pick "logit_bias" r.sampling.logitBias readBias c.defaults.logitBias
    <*> pick "user" r.sampling.user .text c.defaults.user
    <*> pick "stop" r.sampling.stop (.tupleOf .text) c.defaults.stop
    <*> pick "presence_penalty" r.sampling.presencePenalty .decimal c.defaults.presencePenalty
    <*> pick "frequency_penalty" r.sampling.frequencyPenalty .decimal
          c.defaults.frequencyPenalty
    <*> pick "seed" r.sampling.seed .integer c.defaults.seed
    <*> .ok r.offeredTools
    <*> .ok forced
    <*> .ok (r.format.or c.format)
    <*> (Reader.switch c.strictSchema).under (.name "strict_json_schema")

/-- The request as listeners see it: what is sent, with the deployment as its model. -/
def sentRequest (r : ChatRequest) (o : Options) : ChatRequest :=
  { messages := o.messages
    tools := o.tools.getD []
    toolChoice := if o.tools.isSome then r.toolChoice else none
    format := o.format
    modelName := some o.model
    topK := none
    sampling := o.sampling }

/-- A request that may be sent: its options and its estimate. -/
structure Prepared where
  options : Options
  request : ChatRequest
  inputTokens : Int

/-- Checks, merges and counts a request. -/
def prepare (c : Client) (r : ChatRequest) (scene : Scene) : Outcome Prepared × Scene :=
  let checked : Outcome Options := do
    r.check
    let forced ← r.forcedTool
    (c.merge r forced).toOutcome
  match checked with
  | .error fault => (.error fault, scene)
  | .ok options =>
    let (count, scene) := scene.counting (c.estimator.countMessages r.messages)
    (count.map fun n => ⟨options, sentRequest r options, n⟩, scene)

/-- The session of a prepared request, with a bag of attributes of its own. -/
def session (c : Client) (p : Prepared) (handler : Handler) (number : Nat) (scene : Scene) :
    Session :=
  Session.fresh ⟨p.request, c.provider, number, number⟩ handler c.listeners (some c.estimator)
    (.int p.inputTokens) scene.unmarked

/-- Reports that a request is about to be sent. -/
def announce (c : Client) (p : Prepared) (mode : Mode) (s : Session) : Session :=
  s.report LogRecord.debug "stream requested" []
    [("deployment", c.deployment), ("mode", .str mode.word), ("input_tokens", .int p.inputTokens),
     ("tools", .int (p.options.tools.getD []).length),
     ("forced_tool", .ofOption (fun t => .str t.name) p.options.forcedTool)]

/-- What came of a request: what the transport was asked to send, if it got as far, what
    became of a stream that was opened, and the scene it leaves. -/
structure Report where
  asked : Option Options
  pulled : Option PullReport
  scene : Scene

/-- Adds what opening a transport reports. -/
def reportAll (s : Session) (log : List LogRecord) : Session :=
  { s with scene := log.foldl Scene.report s.scene }

/-- Runs a session over the transport. -/
def run (transport : Transport) (options : Options) (s : Session) : Outcome Unit × Report :=
  match transport with
  | .pull opening =>
    let opening := opening options
    let (outcome, pulled, s) := (reportAll s opening.log).pull opening.outcome
    (outcome, ⟨some options, pulled, s.scene⟩)
  | .push opening =>
    let opening := opening options
    let (outcome, s) := (reportAll s opening.log).push opening.outcome
    (outcome, ⟨some options, none, s.scene⟩)

/-- Sends a request and has the handler receive what comes of it. -/
def chat (c : Client) (transport : Transport) (r : ChatRequest) (handler : Handler)
    (number : Nat) (scene : Scene) : Outcome Unit × Report :=
  match c.prepare r scene with
  | (.error fault, scene) => (.error fault, ⟨none, none, scene⟩)
  | (.ok p, scene) =>
    let s := c.session p handler number scene
    match s.tell (.started s.exchange) with
    | (.error interrupt, s) => (.error interrupt, ⟨none, none, s.scene⟩)
    | (.ok (), s) => run transport p.options (c.announce p transport.mode s)

/-- The scene of the next request: the clock goes on and the tally is kept. -/
def nextScene (scene : Scene) : Scene :=
  { scene with log := [], timeline := [] }

end Client

end CompletionStream
