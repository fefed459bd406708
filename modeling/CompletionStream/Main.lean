import CompletionStream.Console.Run
import Std.Time.DateTime.Timestamp

/-!
# Main — the command

The command answers one prompt with what a provider delivers on the standard input, a chunk a
line. Before the run it reads the files and the variables that the run may ask for, after it
it writes what the run has written, and it ends with the run's status. A token is counted for
each byte, and times are universal.
-/

namespace CompletionStream.Console

open Settings

/-- The names of the variables that are looked for. -/
def variableNames : List String :=
  let ofGroup (group : Group) : List String :=
    let lead := Text.upper group.name
    lead :: group.fields.flatMap fun field =>
      (lead ++ "__" ++ Text.upper field.name) ::
        (group.fieldVariables field).map fun (_, name) => Text.upper name
  let single := ["CHATSTREAM_ENV_PREFIX", "CHATSTREAM_DEPLOYMENT"]
  (single ++ [clientGroup, defaultsGroup, loggingGroup].flatMap ofGroup).eraseDups

/-- The files that a command line and the environment name. -/
def paths (argv : List String) (env : Environment) : List String :=
  match Arguments.read argv with
  | .ok args => args.config.toList ++ args.schema.toList ++ (stagePath? env).toList
  | .error _ => []

/-- What a provider delivers, a chunk a line. It ends at a line that is not JSON. -/
def provided (lines : List String) : RawStream :=
  let documents := (lines.filter fun line => !line.trimAscii.isEmpty).map Document.readJson?
  { openFault := none
    chunks := (documents.takeWhile Option.isSome).filterMap id
    ending := if documents.all Option.isSome then none else some .notJson
    stalls := false
    closable := true
    closeFault := none }

/-- How the command is used. -/
def usage : String :=
  "usage: chatstream [-h] [--system SYSTEM] [--config CONFIG] [--json-schema JSON_SCHEMA] prompt\n"

/-- What a run that was stopped by a fault says of it, and its status. -/
def farewell (fault : Fault) : String × Int :=
  match fault.name, fault.message.toInt? with
  | "SystemExit", some status => (usage, status)
  | name, _ => (name ++ ": " ++ fault.message ++ "\n", 1)

/-- The variables that are set. -/
def readEnvironment : IO Environment :=
  variableNames.filterMapM fun name => do
    return (← IO.getEnv name).map fun value => (name, value)

/-- The files of a list of paths that can be read. -/
def readFiles (paths : List String) : IO Files :=
  paths.filterMapM fun (path : String) => do
    try
      return some (path, Content.text (← IO.FS.readFile path))
    catch _ =>
      return none

/-- All lines of the input. -/
partial def readLines (input : IO.FS.Stream) : IO (List String) := do
  let line ← input.getLine
  if line.isEmpty then return []
  return line :: (← readLines input)

/-- The time as it stands in the log. -/
def readTimestamp : IO String := do
  let milliseconds := (← Std.Time.Timestamp.now).toMillisecondsSinceUnixEpoch.val
  return Log.momentText (milliseconds.fdiv 1000) ++ "," ++
    Log.padded 3 (milliseconds.fmod 1000).toNat

end CompletionStream.Console

open CompletionStream.Console in
/-- Runs the command line. -/
def main (argv : List String) : IO UInt32 := do
  let env ← readEnvironment
  let files ← readFiles (paths argv env)
  let raw := provided (← readLines (← IO.getStdin))
  let world : World :=
    { env, files, raw
      vocabulary := ⟨fun _ => none, fun _ text => some text.utf8ByteSize⟩
      clock := [(← IO.monoMsNow).toFloat / 1000]
      timestamp := ← readTimestamp
      logger := Run.loggerName }
  let run := Run.ofArguments argv world
  IO.print run.out
  IO.eprint run.err
  match run.outcome with
  | .ok status => return UInt32.ofNat status.toNat
  | .error fault =>
    let (words, status) := farewell fault
    if status = 0 then IO.print words else IO.eprint words
    return UInt32.ofNat status.toNat
