import CompletionStream.Settings.Basic
import CompletionStream.Stream.Client

/-!
# Connection — which client of a provider is used

An Azure key makes a connection to Azure, which needs an endpoint. Without one, a plain key
makes a connection to the endpoint that is given, or else to the provider's own. A connection
is known by the provider, the mode, and the arguments that the provider's client is built with.
-/

namespace CompletionStream

/-- A connection to a provider. -/
structure Connection where
  provider : Provider
  mode : Mode
  arguments : List (String × Value)

namespace Connection

/-- The endpoint of plain keys. -/
def openEndpoint : String := "https://api.openai.com/v1"

/-- The class of the client. -/
def className (c : Connection) : String :=
  let plain :=
    match c.provider with
    | .azure => "AzureOpenAI"
    | .openAI => "OpenAI"
  match c.mode with
  | .sync => plain
  | .async => "Async" ++ plain

/-- The mode that settings ask for. -/
def modeOf (s : Settings.ClientSettings) : Mode :=
  if s.useAsync then .async else .sync

/-- The arguments that every client takes. -/
def common (s : Settings.ClientSettings) : List (String × Value) :=
  [("timeout", .float s.timeout), ("max_retries", .int s.maxRetries)] ++
  (if s.headers.isEmpty then []
   else [("default_headers", .object (s.headers.map fun (name, v) => (name, .str v)))])

/-- The endpoint, if it is not empty. -/
def endpoint? (s : Settings.ClientSettings) : Option String :=
  s.endpoint.filter (· ≠ "")

/-- The connection that settings ask for. -/
def ofSettings (s : Settings.ClientSettings) : Outcome Connection :=
  if s.azureKey ≠ "" then
    match endpoint? s with
    | none =>
      .error (.of .configuration "Azure OpenAI needs client.endpoint (CHATSTREAM_ENDPOINT)")
    | some endpoint =>
      .ok ⟨.azure, modeOf s,
        [("azure_endpoint", .str endpoint), ("api_key", .str s.azureKey),
          ("api_version", .str s.apiVersion)] ++ common s⟩
  else if s.plainKey ≠ "" then
    .ok ⟨.openAI, modeOf s,
      [("api_key", .str s.plainKey), ("base_url", .str ((endpoint? s).getD openEndpoint))] ++
        common s⟩
  else
    .error (.of .configuration
      "no API key configured: set AZURE_OPENAI_API_KEY or OPENAI_API_KEY")

end Connection

end CompletionStream
