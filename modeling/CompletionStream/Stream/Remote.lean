import CompletionStream.Stream.Client
import CompletionStream.Stream.EventLoop
import CompletionStream.Wire.Encode

/-!
# Remote streams — a transport over a provider's client

A remote is a provider's client together with what every call of it says about usage. A
pulling transport calls the provider when the stream is opened; a pushing transport prepares
the call and makes it at each subscription.
-/

namespace CompletionStream

/-- A provider's client: whether calls ask for the usage, what the next call meets, and the
    loop that pushes what comes of it. -/
structure Remote where
  includeUsage : Bool
  raw : RawStream
  loop : EventLoop

namespace Remote

/-- What is reported when a stream is opened or prepared. -/
def report (mode : Mode) (deployment : Value) : LogRecord :=
  let (logger, template) :=
    match mode with
    | .sync => ("chatstream.models.openai_sync", "opening chat completions stream")
    | .async => ("chatstream.models.openai_async", "prepared chat completions stream")
  { logger, level := LogRecord.debug, template, arguments := []
    extra := [("deployment", deployment), ("mode", .str mode.word)], fault := none }

/-- The arguments of a call. -/
def arguments (remote : Remote) (deployment : Value) (o : Options) : Value :=
  .object (Wire.argumentsFor deployment o remote.includeUsage)

/-- Opens a stream to pull from. -/
def openPull (remote : Remote) (deployment : Value) : Opening PullStream :=
  ⟨[report .sync deployment], remote.raw.toPull⟩

/-- Prepares a source that pushes. Its subscription follows at once and is work for the loop. -/
def openPush (remote : Remote) (deployment : Value) : Opening PushSource :=
  ⟨report .async deployment :: remote.loop.submitLog, .ok (.detached remote.raw)⟩

/-- The transport of a mode over a provider's client. -/
def transport (remote : Remote) (mode : Mode) (deployment : Value) : Transport :=
  match mode with
  | .sync => .pull fun _ => remote.openPull deployment
  | .async => .push fun _ => remote.openPush deployment

end Remote

namespace Subscriber

variable {σ : Type}

/-- A cancelled run as the one who waits for it sees it: it tells nothing more. -/
def awaited (outcome : Outcome Unit) : Outcome Unit :=
  match outcome with
  | .error fault => if fault.isCancellation then .error (.mute fault) else outcome
  | .ok () => outcome

/-- Runs a source as many times as it is subscribed to, one after the other, and waits for
    each. The first that fails is the last. The number is that of the runs. -/
def subscribeTimes (sub : Subscriber σ) (raw : RawStream) :
    Nat → σ → Outcome Unit × Nat × σ
  | 0, state => (.ok (), 0, state)
  | n + 1, state =>
    match sub.consume raw state with
    | (.error fault, state) => (awaited (.error fault), 1, state)
    | (.ok (), state) =>
      let (outcome, runs, state) := subscribeTimes sub raw n state
      (outcome, runs + 1, state)

end Subscriber

end CompletionStream
