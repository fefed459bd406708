import CompletionStream.Chat.Request
import CompletionStream.Chat.Response
import CompletionStream.Stream.TokenCount

/-!
# Listeners — observers of a request

A listener is told when a request starts, and when it is completed or has failed. Listeners
are told one after the other in the order of their registration, and all that are told of one
request share one bag of attributes. What a listener raises is reported and dropped, so that
it can keep no other listener from being told; only an interrupt gets through.

`Scene` is everything a request leaves behind or draws on: the clock, the log, the timeline of
what handlers and listeners were told, the attributes, and what counting tokens remembers.
-/

namespace CompletionStream

/-- Who serves the requests. -/
inductive Provider where
  | azure
  | openAI
  deriving DecidableEq, Repr, Inhabited

/-- The word for a provider. -/
def Provider.word : Provider → String
  | .azure => "azure_open_ai"
  | .openAI => "open_ai"

/-- One request on its way: what is sent, to whom, and the numbers of the request and of its
    bag of attributes, by which the events of one request can be recognised. -/
structure Exchange where
  request : ChatRequest
  provider : Provider
  number : Nat
  bag : Nat

/-- What listeners are told. -/
inductive Event where
  | started (exchange : Exchange)
  | completed (exchange : Exchange) (response : Response)
  | failed (exchange : Exchange) (fault : Fault)
  /-- Something that is no event, known by the name of its class. -/
  | stray (className : String)

/-- The name of an event's class. -/
def Event.className : Event → String
  | .started _ => "RequestStarted"
  | .completed _ _ => "ResponseCompleted"
  | .failed _ _ => "ErrorRaised"
  | .stray name => name

/-- The kinds of events. -/
inductive Hook where
  | request
  | response
  | error
  deriving DecidableEq, Repr

/-- What happened, in order: what the handler and the observers were told. -/
inductive Entry where
  | partialText (text : String)
  | completion (response : Response)
  | failure (fault : Fault)
  /-- An observer was told of an event; the attributes are those after its own update. -/
  | notice (listener : Nat) (name : String) (event : Event) (attributes : Members)

/-- Everything a request draws on and leaves behind. -/
structure Scene where
  clock : List Float
  log : List LogRecord
  timeline : List Entry
  attributes : Members
  tally : Tally

namespace Scene

/-- A scene on which nothing happened yet. -/
def fresh (clock : List Float) : Scene :=
  ⟨clock, [], [], [], Tally.fresh⟩

/-- The scene with an empty bag. -/
def unmarked (scene : Scene) : Scene :=
  { scene with attributes := [] }

/-- Reports something. -/
def report (scene : Scene) (record : LogRecord) : Scene :=
  { scene with log := scene.log ++ [record] }

/-- Adds to the timeline. -/
def add (scene : Scene) (entry : Entry) : Scene :=
  { scene with timeline := scene.timeline ++ [entry] }

/-- Reads the clock; its last reading repeats. -/
def now (scene : Scene) : Float × Scene :=
  match scene.clock with
  | [] => (0.0, scene)
  | [t] => (t, scene)
  | t :: rest => (t, { scene with clock := rest })

/-- Counts tokens; what is reported meanwhile goes to the log. -/
def counting {α : Type} (scene : Scene) (count : Tally → α × Tally) : α × Scene :=
  let (a, tally) := count { scene.tally with log := [] }
  (a, { scene with tally, log := scene.log ++ tally.log })

end Scene

/-- A listener of a caller's own, which keeps nothing for itself: all that it goes by is the
    event that it is told of and the attributes that it finds. -/
structure Observer where
  className : String
  name : String
  /-- What it makes of the attributes. -/
  updates : Event → Members → Members
  /-- What it raises after that. -/
  faults : Event → Members → Option Fault

/-- Who is told of requests. -/
inductive Listener where
  | observer (o : Observer)
  /-- Reports each request with its latency and its cost. -/
  | logging (level : Int)
  | silent

namespace Listener

/-- The name of a listener's class. -/
def className : Listener → String
  | .observer o => o.className
  | .logging _ => "LoggingChatModelListener"
  | .silent => "ChatModelListener"

/-- The attribute that holds when a request started. -/
def startTime : String := "chatstream.start_time"

/-- The logger of this module. -/
def loggerName : String := "chatstream.core.listeners"

/-- Milliseconds between two readings of the clock, cut off toward zero. -/
def milliseconds (start stop : Float) : Outcome Int :=
  (FloatClass.ofFloat ((stop - start) * 1000.0)).truncated

/-- The time since the start that the attributes hold, if they hold one. -/
def elapsed (scene : Scene) : Outcome (Option Int) × Scene :=
  match scene.attributes.getOrNull startTime with
  | .null => (.ok none, scene)
  | start =>
    let (stop, scene) := scene.now
    match Text.realNumber start with
    | .error fault => (.error fault, scene)
    | .ok start => ((milliseconds start stop).map some, scene)

/-- A report of this module. Levels from zero down are never reported. -/
def report (scene : Scene) (level : Int) (template : String) (arguments : List LogArgument)
    (extra : List (String × Value)) (fault : Option Fault := none) : Scene :=
  if level ≤ 0 then scene
  else scene.report { logger := loggerName, level, template, arguments, extra, fault }

/-- Reports an event of a request. -/
def logEvent (level : Int) (event : Event) (scene : Scene) : Outcome Unit × Scene :=
  match event with
  | .stray _ => (.error .wrongType, scene)
  | .started x =>
    let (t, scene) := scene.now
    let scene := { scene with attributes := scene.attributes.set startTime (.float t) }
    (.ok (), report scene level "chat request started" []
      [("provider", .str x.provider.word), ("messages", .int x.request.messages.length),
       ("tools", .int x.request.tools.length)])
  | .completed x response =>
    match elapsed scene with
    | (.error fault, scene) => (.error fault, scene)
    | (.ok ms, scene) =>
      (.ok (), report scene level "chat response completed" []
        [("provider", .str x.provider.word), ("response_id", .ofOption .str response.id),
         ("finish_reason", .ofOption (fun r => .str r.word) response.finishReason),
         ("input_tokens", .int response.usage.inputTokens),
         ("output_tokens", .int response.usage.outputTokens),
         ("elapsed_ms", .ofOption .int ms)])
  | .failed x fault =>
    match elapsed scene with
    | (.error fault, scene) => (.error fault, scene)
    | (.ok ms, scene) =>
      (.ok (), report scene (max level LogRecord.warning) "chat request failed: %s"
        [.fault fault]
        [("provider", .str x.provider.word), ("error_type", .str fault.name),
         ("elapsed_ms", .ofOption .int ms)])

/-- The hook that an event calls. -/
def hookOf : Event → Option Hook
  | .started _ => some .request
  | .completed _ _ => some .response
  | .failed _ _ => some .error
  | .stray _ => none

/-- Tells one listener of an event; its number is its place in the order of registration. -/
def tell (listener : Listener) (number : Nat) (event : Event) (scene : Scene) :
    Outcome Unit × Scene :=
  match hookOf event with
  | none => (.error .wrongType, scene)
  | some _ =>
    match listener with
    | .silent => (.ok (), scene)
    | .logging level => logEvent level event scene
    | .observer o =>
      let attributes := o.updates event scene.attributes
      let told := { scene with attributes }.add (.notice number o.name event attributes)
      match o.faults event scene.attributes with
      | some fault => (.error fault, told)
      | none => (.ok (), told)

/-- The report of a listener that raised something. -/
def complain (listener : Listener) (event : Event) (fault : Fault) (scene : Scene) : Scene :=
  report scene LogRecord.warning "Exception while calling model listener: %s" [.fault fault]
    [("listener", .str listener.className), ("event", .str event.className)] (some fault)

/-- Tells listeners of an event, the first of them with the given number. -/
def tellFrom (number : Nat) (event : Event) : List Listener → Scene → Outcome Unit × Scene
  | [], scene => (.ok (), scene)
  | listener :: rest, scene =>
    match listener.tell number event scene with
    | (.ok (), scene) => tellFrom (number + 1) event rest scene
    | (.error fault, scene) =>
      if fault.isOrdinary then
        tellFrom (number + 1) event rest (listener.complain event fault scene)
      else (.error fault, scene)

/-- Tells all listeners of an event. -/
def tellAll (listeners : List Listener) (event : Event) (scene : Scene) : Outcome Unit × Scene :=
  tellFrom 0 event listeners scene

end Listener

end CompletionStream
