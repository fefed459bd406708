import CompletionStream.Console.Arguments
import CompletionStream.Console.Printer
import CompletionStream.Gateway.Assembly
import CompletionStream.Log.Line
import CompletionStream.Settings.Load

/-!
# Run — one prompt from the command line

A run reads the command line, loads the settings, sets logging up, assembles a gateway and
sends one request, whose response is printed as it arrives. It ends with status 0 when the
response is complete, 1 when it has failed, and 2 when the library refuses the settings or the
request. Every other failure before the request is sent is the run's own.

The records of a run are all made before the printer tells how the response ended, so on the
error output they come first.
-/

namespace CompletionStream.Console

/-- The request of a command line, its parts still unread. The system's message is left out if
    it is empty, and the schema if no file is named. A schema is named for its file. -/
def buildRequest (prompt system : Value) (schemaPath : String) (files : Settings.Files) :
    Outcome ChatRequest := do
  let instructions ←
    if system.truthy then ((Message.system system).map fun m => [m]).toOutcome else .ok []
  let question ← (Message.user prompt).toOutcome
  let format ←
    if schemaPath = "" then .ok none
    else do
      let schema ← files.loadJson schemaPath
      ((ResponseFormat.json schema (.str (Settings.Files.stem schemaPath))).map some).toOutcome
  return {
    messages := instructions ++ [question]
    tools := []
    toolChoice := none
    format
    modelName := none
    topK := none
    sampling := ⟨none, none, none, none, none, none, none, none, none⟩ }

/-- What a run draws on besides its arguments. -/
structure World where
  env : Settings.Environment
  files : Settings.Files
  /-- What the provider delivers. -/
  raw : RawStream
  vocabulary : Vocabulary
  clock : List Float
  /-- The time as it stands in the lines of the log. -/
  timestamp : String
  /-- The logger of the run's own reports. -/
  logger : String

/-- A run: how it ended, the connection it made, the calls it sent, and what it has written. -/
structure Run where
  outcome : Outcome Int
  connection : Option Connection
  sent : List Value
  out : String
  err : String

namespace Run

/-- A run that ends before anything is written. -/
def silent (fault : Fault) : Run :=
  ⟨.error fault, none, [], "", ""⟩

/-- The lines of records on the error output. -/
def logLines (root : Log.Root) (timestamp : String) (log : List LogRecord) : String :=
  String.join ((log.flatMap (root.linesOf timestamp)).map (· ++ "\n"))

/-- The logger of a run's own reports, unless the run is told otherwise. -/
def loggerName : String := "chatstream.main"

/-- What is reported when the library refuses something. -/
def rejection (logger : String) (fault : Fault) : LogRecord :=
  { logger, level := LogRecord.error
    template := "request rejected: %s", arguments := [.fault fault], extra := [], fault := none }

/-- The status of a printer that is done. -/
def statusOf (p : Printer) : Int :=
  if p.error.isSome then 1 else 0

/-- How a run ends that was stopped by a fault, and what it reports then. -/
def stopped (logger : String) (fault : Fault) : Outcome Int × List LogRecord :=
  if fault.kind.isOwn then (.ok 2, [rejection logger fault]) else (.error fault, [])

/-- Sends the request of a command line through a gateway. -/
def send (args : Arguments) (world : World) (g : Gateway) : Gateway.Reply :=
  let scene := Scene.fresh world.clock
  match buildRequest (.str args.prompt) (.ofOption .str args.system) (args.schema.getD "")
      world.files with
  | .error fault => ⟨.error fault, [], ⟨none, none, scene⟩⟩
  | .ok request => g.chat world.raw request .steady 0 scene

/-- Runs with settings and logging in place. -/
def withSettings (args : Arguments) (world : World) (settings : Settings.AppSettings)
    (root : Log.Root) : Run :=
  let assembly := Gateway.assemble settings [] none world.vocabulary
  let finish (outcome : Outcome Int) (sent : List Value) (log : List LogRecord) (p : Printer) :
      Run :=
    ⟨outcome, assembly.connection, sent, p.out,
      logLines root world.timestamp (assembly.log ++ log) ++ p.err⟩
  match assembly.outcome with
  | .error fault =>
    let (outcome, log) := stopped world.logger fault
    finish outcome [] log .fresh
  | .ok gateway =>
    let reply := send args world gateway
    let p := Printer.fresh.tellAll reply.report.scene.timeline
    let log := reply.report.scene.log
    match reply.outcome with
    | .ok () => finish (.ok (statusOf p)) reply.sent log p
    | .error fault =>
      let (outcome, more) := stopped world.logger fault
      finish outcome reply.sent (log ++ more) p

/-- Runs a command line. -/
def ofArguments (argv : List String) (world : World) : Run :=
  match Arguments.read argv with
  | .error fault => silent fault
  | .ok args =>
    let prepared : Outcome (Settings.AppSettings × Log.Root) := do
      let settings ← Settings.AppSettings.load (args.config.getD "") world.files world.env
      let kind : Log.LineKind := if settings.logging.json then .json else .keyValue
      return (settings, ← (Log.Root.untouched []).setUp settings.logging.level kind)
    match prepared with
    | .error fault => silent fault
    | .ok (settings, root) => withSettings args world settings root

end Run

end CompletionStream.Console
