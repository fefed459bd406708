import CompletionStream.Settings.Basic
import CompletionStream.Settings.Files

/-!
# Loading — settings from files and the environment

The settings of a path, or those that come with the program where no path is given, are
overlaid with the settings of the deployment stage that the environment names. Six variables
then set single fields, whatever the files say. What the files and these variables leave open
is looked for in the environment once more, field by field.
-/

namespace CompletionStream.Settings

/-- The settings that come with the program. -/
def packaged : Value :=
  .object
    [("client", .object
        [("endpoint", .null), ("api_version", .str "2024-10-21"),
          ("deployment_name", .str "gpt-35-turbo"), ("use_async", .bool true),
          ("include_usage", .bool true), ("timeout_seconds", .int 60), ("max_retries", .int 2)]),
      ("defaults", .object
        [("strict_json_schema", .bool false), ("token_estimator_model", .str "gpt-3.5-turbo")]),
      ("logging", .object
        [("level", .str "INFO"), ("json", .bool true), ("log_requests", .bool false)])]

/-- What switches asynchronous calls on. -/
def switchedOn : List String := ["1", "true", "yes", "on"]

/-- Changes a group of the settings, which is empty if it is not there. Only a mapping has
    groups, and a group that is something else is refused with a fault of the change's own. -/
def changeGroup (group : String) (refusal : Value → Fault) (change : Members → Members)
    (settings : Value) : Outcome Value :=
  match settings with
  | .dict members =>
    match (Members.get? members group).getD (.dict []) with
    | .dict inner => .ok (.dict (Members.set members group (.dict (change inner))))
    | v => .error (refusal v)
  | _ => .error .noMember

/-- Sets a field of a group. -/
def setField (group field : String) (v : Value) : Value → Outcome Value :=
  changeGroup group (fun _ => .wrongType) fun inner => Members.set inner field v

/-- Sets a key: the field is removed under its own name and set under the other one. -/
def setKey (field otherName : String) (key : String) : Value → Outcome Value :=
  let refusal (v : Value) : Fault :=
    match v with
    | .list _ => .wrongType
    | _ => .noMember
  changeGroup "client" refusal fun inner =>
    Members.set (Members.without inner field) otherName (.str key)

/-- Applies a change if a variable is set. -/
def whenSet (env : Environment) (name : String) (change : String → Value → Outcome Value)
    (settings : Value) : Outcome Value :=
  match env.get? name with
  | some value => change value settings
  | none => .ok settings

/-- The file of the settings of the stage that the environment names. -/
def stagePath? (env : Environment) : Option String :=
  (env.get? "CHATSTREAM_ENV_PREFIX").map fun stage => "config/" ++ stage ++ ".yaml"

/-- The settings of the stage that the environment names, laid over the others. -/
def overlayStage (env : Environment) (files : Files) (settings : Value) : Outcome Value :=
  match stagePath? env with
  | none => .ok settings
  | some path => do merge settings (← files.loadYaml path)

/-- The fields that variables set, one after the other. -/
def overrideFields (env : Environment) (settings : Value) : Outcome Value := do
  let settings ← whenSet env "CHATSTREAM_ENDPOINT"
    (fun s => setField "client" "endpoint" (.str s)) settings
  let settings ← whenSet env "CHATSTREAM_DEPLOYMENT"
    (fun s => setField "client" "deployment_name" (.str s)) settings
  let settings ← whenSet env "CHATSTREAM_USE_ASYNC"
    (fun s => setField "client" "use_async" (.bool (switchedOn.contains (Text.lower s)))) settings
  let settings ← whenSet env "AZURE_OPENAI_API_KEY"
    (setKey "api_key" "AZURE_OPENAI_API_KEY") settings
  let settings ← whenSet env "OPENAI_API_KEY"
    (setKey "non_azure_api_key" "OPENAI_API_KEY") settings
  whenSet env "CHATSTREAM_LOG_LEVEL" (fun s => setField "logging" "level" (.str s)) settings

/-- Loads the settings of a path, or of the program where the path is empty. -/
def AppSettings.load (path : String) (files : Files) (env : Environment) :
    Outcome AppSettings := do
  let settings ← if path = "" then .ok packaged else files.loadYaml path
  let settings ← overlayStage env files settings
  AppSettings.read env (← overrideFields env settings)

/-- The client's settings as a value. -/
def ClientSettings.toValue (s : ClientSettings) : Value :=
  .object
    [("endpoint", .ofOption .str s.endpoint), ("api_key", .str s.azureKey),
      ("non_azure_api_key", .str s.plainKey), ("api_version", .str s.apiVersion),
      ("deployment_name", .str s.deployment), ("use_async", .bool s.useAsync),
      ("include_usage", .bool s.includeUsage), ("timeout_seconds", .float s.timeout),
      ("max_retries", .int s.maxRetries),
      ("custom_headers", .object (s.headers.map fun (name, v) => (name, .str v)))]

/-- The defaults as a value. -/
def DefaultSettings.toValue (s : DefaultSettings) : Value :=
  .object
    [("max_tokens", .ofOption .int s.sampling.maxTokens),
      ("temperature", .ofOption .float s.sampling.temperature),
      ("top_p", .ofOption .float s.sampling.topP),
      ("presence_penalty", .ofOption .float s.sampling.presencePenalty),
      ("frequency_penalty", .ofOption .float s.sampling.frequencyPenalty),
      ("logit_bias", .ofOption biasValue s.sampling.logitBias),
      ("stop", .ofOption (fun texts => .list (texts.map .str)) s.sampling.stop),
      ("seed", .ofOption .int s.sampling.seed), ("user", .ofOption .str s.sampling.user),
      ("response_format", .ofOption .str s.format),
      ("strict_json_schema", .bool s.strictSchema),
      ("token_estimator_model", .str s.estimatorModel)]

/-- The settings of logging as a value. -/
def LogSettings.toValue (s : LogSettings) : Value :=
  .object
    [("level", .str s.level), ("json_format", .bool s.json), ("log_requests", .bool s.requests)]

/-- All settings as a value. -/
def AppSettings.toValue (s : AppSettings) : Value :=
  .object
    [("client", s.client.toValue), ("defaults", s.defaults.toValue),
      ("logging", s.logging.toValue)]

end CompletionStream.Settings
