import CompletionStream.Gateway.Connection
import CompletionStream.Stream.Remote

/-!
# Assembly — a client made from settings

A gateway is a client together with its connection: the settings say which connection, which
defaults, and whether requests are logged. It is reported before the default output format is
looked at, so a format that nobody knows fails an assembly that was reported already.
-/

namespace CompletionStream

/-- A client over a connection. -/
structure Gateway where
  connection : Connection
  includeUsage : Bool
  client : Client

namespace Gateway

/-- The output format that the defaults name, in any letter case. -/
def defaultFormat (name : Option String) : Outcome (Option ResponseFormat) :=
  match name with
  | none => .ok none
  | some name =>
    if name = "" then .ok none
    else
      match FormatKind.ofWord? (Text.lower name) with
      | some kind => .ok (some ⟨kind, none, none⟩)
      | none =>
        .error (.of .configuration
          ("unknown default response format " ++ Text.quoted name ++ "; expected text or json"))

/-- The listeners of a gateway: those of the caller, then the log of requests if it is on. -/
def listenersFor (s : Settings.LogSettings) (own : List Listener) : List Listener :=
  own ++ if s.requests then [.logging LogRecord.info] else []

/-- The defaults of the settings as a client takes them. -/
def defaultsOf (s : Settings.DefaultSettings) : Defaults :=
  { maxTokens := .ofOption .int s.sampling.maxTokens
    temperature := .ofOption .float s.sampling.temperature
    topP := .ofOption .float s.sampling.topP
    logitBias := .ofOption biasValue s.sampling.logitBias
    user := .ofOption .str s.sampling.user
    stop := .ofOption textTuple s.sampling.stop
    presencePenalty := .ofOption .float s.sampling.presencePenalty
    frequencyPenalty := .ofOption .float s.sampling.frequencyPenalty
    seed := .ofOption .int s.sampling.seed }

/-- What is reported once a connection is chosen. -/
def report (c : Connection) (s : Settings.ClientSettings) : LogRecord :=
  { logger := "chatstream.models.gateway", level := LogRecord.info
    template := "streaming model configured", arguments := []
    extra := [("provider", .str c.provider.word), ("deployment", .str s.deployment),
      ("mode", .str c.mode.word)]
    fault := none }

/-- What came of an assembly: the connection if there is one, the reports, and the gateway. -/
structure Assembly where
  connection : Option Connection
  log : List LogRecord
  outcome : Outcome Gateway

/-- The estimator that is given, else a count over the vocabulary of the model that the defaults
    name. -/
def estimatorFor (s : Settings.DefaultSettings) (given : Option Estimator)
    (vocabulary : Vocabulary) : Estimator :=
  given.getD (.vocabulary vocabulary s.estimatorModel)

/-- A gateway over a connection: its client has the one transport that the connection is for. -/
def ofConnection (c : Connection) (s : Settings.AppSettings) (listeners : List Listener)
    (estimator : Option Estimator) (vocabulary : Vocabulary) : Outcome Gateway := do
  let format ← defaultFormat s.defaults.format
  let client ← Client.make (c.mode = .sync) (c.mode = .async) vocabulary {
    deployment := .str s.client.deployment
    estimator := some (estimatorFor s.defaults estimator vocabulary)
    listeners := listenersFor s.logging listeners
    format
    strictSchema := .bool s.defaults.strictSchema
    provider := c.provider
    defaults := defaultsOf s.defaults }
  return ⟨c, s.client.includeUsage, client⟩

/-- Assembles a gateway. Without an estimator tokens are counted over a vocabulary. -/
def assemble (s : Settings.AppSettings) (listeners : List Listener)
    (estimator : Option Estimator) (vocabulary : Vocabulary) : Assembly :=
  match Connection.ofSettings s.client with
  | .error fault => ⟨none, [], .error fault⟩
  | .ok c => ⟨some c, [report c s.client], ofConnection c s listeners estimator vocabulary⟩

/-- What came of a request through a gateway: the outcome, the calls that were sent, and the
    client's report. -/
structure Reply where
  outcome : Outcome Unit
  sent : List Value
  report : Client.Report

/-- Sends a request through a gateway whose provider delivers a stream, on a loop that does not
    run yet. -/
def chat (g : Gateway) (raw : RawStream) (r : ChatRequest) (handler : Handler) (number : Nat)
    (scene : Scene) : Reply :=
  let remote : Remote := ⟨g.includeUsage, raw, .idle EventLoop.defaultName⟩
  let transport := remote.transport g.connection.mode g.client.deployment
  let (outcome, report) := g.client.chat transport r handler number scene
  ⟨outcome, report.asked.toList.map (remote.arguments g.client.deployment), report⟩

end Gateway

end CompletionStream
