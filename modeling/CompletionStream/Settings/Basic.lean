import CompletionStream.Chat.Request
import CompletionStream.Settings.Environment

/-!
# Settings — what can be configured

Settings come in three groups: the provider's client, the defaults for requests, and logging.
Each group is read from data and the environment together. A group for which there is no data
at all is read from the environment alone, and what does not fit then ends the reading.
-/

namespace CompletionStream.Settings

/-- Settings of the provider's client. -/
structure ClientSettings where
  endpoint : Option String
  azureKey : String
  plainKey : String
  apiVersion : String
  deployment : String
  useAsync : Bool
  includeUsage : Bool
  timeout : Float
  maxRetries : Int
  headers : List (String × String)

/-- Defaults for requests. -/
structure DefaultSettings where
  sampling : Sampling
  format : Option String
  strictSchema : Bool
  estimatorModel : String

/-- Settings of logging. -/
structure LogSettings where
  level : String
  json : Bool
  requests : Bool

/-- All settings. -/
structure AppSettings where
  client : ClientSettings
  defaults : DefaultSettings
  logging : LogSettings

/-- The fields of the client's group. -/
def clientGroup : Group where
  name := "client"
  lead := "chatstream_"
  fields :=
    [.named "endpoint", ⟨"api_key", some "AZURE_OPENAI_API_KEY", .plain⟩,
      ⟨"non_azure_api_key", some "OPENAI_API_KEY", .plain⟩, .named "api_version",
      .named "deployment_name", .named "use_async", .named "include_usage",
      .named "timeout_seconds", .named "max_retries", ⟨"custom_headers", none, .structured⟩]

/-- The fields of the group of defaults. -/
def defaultsGroup : Group where
  name := "defaults"
  lead := "chatstream_default_"
  fields :=
    [.named "max_tokens", .named "temperature", .named "top_p", .named "presence_penalty",
      .named "frequency_penalty", ⟨"logit_bias", none, .perhapsStructured⟩,
      ⟨"stop", none, .perhapsStructured⟩, .named "seed", .named "user",
      .named "response_format", .named "strict_json_schema", .named "token_estimator_model"]

/-- The fields of the group of logging. -/
def loggingGroup : Group where
  name := "logging"
  lead := "chatstream_log_"
  fields := [.named "level", ⟨"json_format", some "json", .plain⟩, .named "log_requests"]

/-- What is given for the fields of a group, by the fields' names. -/
abbrev Given := List (String × Option (String × Value))

/-- Everything that is given for a group. Data has text keys only. -/
def Group.allGiven (group : Group) (env : Environment) (data : Members) : Outcome Given :=
  if data.all fun member => member.1.text?.isSome then
    group.fields.mapM fun field => do return (field.name, ← group.given env data field)
  else .error .wrongType

/-- Reads a field, whose default stands where nothing is given. -/
def Given.read {α : Type} (given : Given) (name : String) (read : Reader α) (default : α) :
    Checked α :=
  match given.find? (·.1 == name) with
  | some (_, some (spelled, v)) => (read v).under (.name spelled)
  | _ => .ok default

/-- Reads a field that may be missing. -/
def Given.maybe {α : Type} (given : Given) (name : String) (read : Reader α) :
    Checked (Option α) :=
  given.read name (Reader.nullable read) none

/-- Reads the client's settings from what is given. -/
def ClientSettings.ofGiven (given : Given) : Checked ClientSettings :=
  ClientSettings.mk
    <$> given.maybe "endpoint" Reader.text
    <*> given.read "api_key" Reader.text ""
    <*> given.read "non_azure_api_key" Reader.text ""
    <*> given.read "api_version" Reader.text "2024-10-21"
    <*> given.read "deployment_name" Reader.text "gpt-35-turbo"
    <*> given.read "use_async" Reader.switch true
    <*> given.read "include_usage" Reader.switch true
    <*> given.read "timeout_seconds" Reader.decimal 60.0
    <*> given.read "max_retries" Reader.integer 2
    <*> given.read "custom_headers" (Reader.mappingOf Reader.text) []

/-- The defaults with their fields in the order in which they are read. -/
def DefaultSettings.ofFields (maxTokens : Option Int)
    (temperature topP presencePenalty frequencyPenalty : Option Float)
    (logitBias : Option (List (String × Int))) (stop : Option (List String))
    (seed : Option Int) (user : Option String) (format : Option String) (strictSchema : Bool)
    (estimatorModel : String) : DefaultSettings :=
  { sampling :=
      { maxTokens, temperature, topP, presencePenalty, frequencyPenalty
        logitBias, stop, seed, user }
    format, strictSchema, estimatorModel }

/-- Reads the defaults from what is given. -/
def DefaultSettings.ofGiven (given : Given) : Checked DefaultSettings :=
  DefaultSettings.ofFields
    <$> given.maybe "max_tokens" Reader.integer
    <*> given.maybe "temperature" Reader.decimal
    <*> given.maybe "top_p" Reader.decimal
    <*> given.maybe "presence_penalty" Reader.decimal
    <*> given.maybe "frequency_penalty" Reader.decimal
    <*> given.maybe "logit_bias" readBias
    <*> given.maybe "stop" (Reader.listOf Reader.text)
    <*> given.maybe "seed" Reader.integer
    <*> given.maybe "user" Reader.text
    <*> given.maybe "response_format" Reader.text
    <*> given.read "strict_json_schema" Reader.switch false
    <*> given.read "token_estimator_model" Reader.text "gpt-3.5-turbo"

/-- Reads the settings of logging from what is given. -/
def LogSettings.ofGiven (given : Given) : Checked LogSettings :=
  LogSettings.mk
    <$> given.read "level" Reader.text "INFO"
    <*> given.read "json_format" Reader.switch true
    <*> given.read "log_requests" Reader.switch false

/-- Reads a group from data that is its own. What cannot be read from the environment is a
    misfit of the whole group. -/
def readGroup {α : Type} (group : Group) (env : Environment) (ofGiven : Given → Checked α) :
    Reader α :=
  Reader.record fun data =>
    match group.allGiven env data with
    | .ok given => ofGiven given
    | .error fault =>
      if fault.name = Fault.badSetting.name then .problem "value_error" else .abandoned fault

/-- Reads a group on its own, so that all that does not fit ends the reading. -/
def groupAlone {α : Type} (group : Group) (env : Environment) (ofGiven : Given → Checked α)
    (data : Members) : Outcome α := do
  (ofGiven (← group.allGiven env data)).toOutcome

/-- Reads a group as a part of all settings. -/
def groupIn {α : Type} (group : Group) (env : Environment) (data : Given)
    (ofGiven : Given → Checked α) : Checked α :=
  match data.find? (·.1 == group.name) with
  | some (_, some (_, v)) => (readGroup group env ofGiven v).under (.name group.name)
  | _ =>
    match groupAlone group env ofGiven [] with
    | .ok a => .ok a
    | .error fault => .abandoned fault

/-- Reads the three groups from data of their own. -/
def AppSettings.ofGroups (env : Environment) (client defaults logging : Members) :
    Outcome AppSettings := do
  let client ← groupAlone clientGroup env ClientSettings.ofGiven client
  let defaults ← groupAlone defaultsGroup env DefaultSettings.ofGiven defaults
  let logging ← groupAlone loggingGroup env LogSettings.ofGiven logging
  return ⟨client, defaults, logging⟩

/-- What is given for a group as a whole, data counting before the environment. -/
def wholeGiven (env : Environment) (data : Members) (group : Group) :
    Outcome (String × Option (String × Value)) := do
  let outer ← group.wholeFrom env
  let v :=
    match data.get? group.name, outer with
    | some v, some base => some (overlay (some base) v)
    | some v, none => some v
    | none, outer => outer
  return (group.name, v.map fun v => (group.name, v))

/-- Reads all settings from data and the environment. -/
def AppSettings.read (env : Environment) (data : Value) : Outcome AppSettings :=
  match data with
  | .dict members =>
    if members.all fun member => member.1.text?.isSome then do
      let given ← [clientGroup, defaultsGroup, loggingGroup].mapM (wholeGiven env members)
      let settings : Checked AppSettings :=
        AppSettings.mk
          <$> groupIn clientGroup env given ClientSettings.ofGiven
          <*> groupIn defaultsGroup env given DefaultSettings.ofGiven
          <*> groupIn loggingGroup env given LogSettings.ofGiven
      settings.toOutcome
    else .error .wrongType
  | _ => .error .wrongType

end CompletionStream.Settings
