import CompletionStream.Stream.Accumulator
import CompletionStream.Stream.Listener

/-!
# Session — one request, at most one ending

A session takes the signals of one stream: its start, its chunks, and its completion or
failure. Chunks count only between the start and the ending; the first ending stands and
everything after it is ignored. At the ending the listeners are told first and the handler
last, and nothing that either raises can change what has been decided.

A handler may, while it is told of some text, send further signals to the same session before
it returns or raises. How deep such calls may nest is limited: beyond the limit the handler's
call fails, as any other call of a handler can.
-/

namespace CompletionStream

/-- How far a session has come. -/
inductive Phase where
  | requesting
  | streaming
  | completed
  | failed
  deriving DecidableEq, Repr, Inhabited

namespace Phase

/-- The word for a phase. -/
def word : Phase → String
  | .requesting => "requesting"
  | .streaming => "streaming"
  | .completed => "completed"
  | .failed => "failed"

/-- Whether the session has ended. -/
def ended : Phase → Bool
  | .completed | .failed => true
  | _ => false

end Phase

/-- What a session can be told. -/
inductive Signal where
  | start
  | next (chunk : PartialChunk)
  | complete
  | error (fault : Fault)
  /-- Replaces the id under which the response is known. -/
  | rename (id : Option String)

/-- What a handler does when it is told of some text: it sends signals, then it may raise. -/
structure Reaction where
  signals : List Signal
  fault : Option Fault

/-- A reaction that does nothing. -/
def Reaction.none : Reaction := ⟨[], .none⟩

/-- Who receives the response: its reaction to each text, by the number of texts it was told
    of before, and what it raises at the ending. -/
structure Handler where
  onPartial : Nat → Reaction
  onComplete : Option Fault
  onError : Option Fault

/-- A handler that never fails. -/
def Handler.steady : Handler := ⟨fun _ => .none, .none, .none⟩

/-- One request, from its start to its ending. -/
structure Session where
  exchange : Exchange
  handler : Handler
  listeners : List Listener
  estimator : Option Estimator
  inputTokens : Value
  phase : Phase
  accumulator : Accumulator
  responseId : Option String
  partials : Nat
  scene : Scene

namespace Session

/-- The logger of this module. -/
def loggerName : String := "chatstream.core.orchestrator"

/-- A session that has just been set up. -/
def fresh (exchange : Exchange) (handler : Handler) (listeners : List Listener)
    (estimator : Option Estimator) (inputTokens : Value) (scene : Scene) : Session :=
  { exchange, handler, listeners, estimator, inputTokens, scene
    phase := .requesting
    accumulator := .fresh
    responseId := none
    partials := 0 }

/-- Whether the session has ended. -/
def ended (s : Session) : Bool :=
  s.phase.ended

/-- Adds to the timeline. -/
def add (s : Session) (entry : Entry) : Session :=
  { s with scene := s.scene.add entry }

/-- Reports something. -/
def report (s : Session) (level : Int) (template : String) (arguments : List LogArgument)
    (extra : List (String × Value)) (fault : Option Fault := none) : Session :=
  let record : LogRecord := { logger := loggerName, level, template, arguments, extra, fault }
  { s with scene := s.scene.report record }

/-- Tells the listeners of an event. -/
def tell (s : Session) (event : Event) : Outcome Unit × Session :=
  let (outcome, scene) := Listener.tellAll s.listeners event s.scene
  (outcome, { s with scene })

/-- Tells the handler of the ending. What it raises is reported and dropped. -/
def conclude (s : Session) (entry : Entry) (callback : String) (raised : Option Fault) :
    Outcome Unit × Session :=
  let s := s.add entry
  match raised with
  | none => (.ok (), s)
  | some fault =>
    if fault.isOrdinary then
      (.ok (), s.report LogRecord.error "response handler %s raised" [.text callback] []
        (some fault))
    else (.error fault, s)

/-- Starts the stream. -/
def start (s : Session) : Session :=
  if s.phase = .requesting then { s with phase := .streaming } else s

/-- The stream fails. -/
def fail (s : Session) (fault : Fault) : Outcome Unit × Session :=
  if s.ended then
    (.ok (), s.report LogRecord.debug "error after terminal state ignored: %s" [.fault fault] [])
  else
    let s := { s with phase := .failed }
    let s := s.report LogRecord.debug "stream failed: %s" [.fault fault]
      [("response_id", .ofOption .str s.responseId), ("error_type", .str fault.name)]
    match s.tell (.failed s.exchange fault) with
    | (.error interrupt, s) => (.error interrupt, s)
    | (.ok (), s) => s.conclude (.failure fault) "on_error" s.handler.onError

/-- The stream is completed with a response. -/
def deliver (s : Session) (response : Response) : Outcome Unit × Session :=
  let s := { s with phase := .completed }
  let response := { response with id := s.responseId }
  let s := s.report LogRecord.debug "stream completed" []
    [("response_id", .ofOption .str s.responseId),
     ("finish_reason", .ofOption (fun r => .str r.word) response.finishReason),
     ("output_tokens", .int response.usage.outputTokens)]
  match s.tell (.completed s.exchange response) with
  | (.error interrupt, s) => (.error interrupt, s)
  | (.ok (), s) => s.conclude (.completion response) "on_complete_response" s.handler.onComplete

/-- Finalizes the accumulator. -/
def finalize (s : Session) : Outcome Response × Session :=
  let ((outcome, accumulator), scene) := s.scene.counting fun tally =>
    let (outcome, accumulator, tally) := s.accumulator.finalize s.estimator s.inputTokens tally
    ((outcome, accumulator), tally)
  (outcome, { s with accumulator, scene })

/-- The stream has ended by itself. A response that cannot be finalized is a failure. -/
def complete (s : Session) : Outcome Unit × Session :=
  if s.ended then (.ok (), s)
  else
    match s.finalize with
    | (.ok response, s) => s.deliver response
    | (.error fault, s) => if fault.isOrdinary then s.fail fault else (.error fault, s)

/-- Takes in a chunk and notes its id. -/
def absorb (s : Session) (chunk : PartialChunk) : Outcome Session :=
  (s.accumulator.append chunk).map fun accumulator =>
    { s with accumulator, responseId := newer chunk.id s.responseId }

/-- Performs signals until one of them is interrupted. -/
def performAll (perform : Session → Signal → Outcome Unit × Session) :
    List Signal → Session → Outcome Unit × Session
  | [], s => (.ok (), s)
  | signal :: rest, s =>
    match perform s signal with
    | (.ok (), s) => performAll perform rest s
    | (.error fault, s) => (.error fault, s)

/-- Tells the handler of some text. -/
def handOver (perform : Session → Signal → Outcome Unit × Session) (s : Session)
    (text : String) : Outcome Unit × Session :=
  let reaction := s.handler.onPartial s.partials
  let s := { s.add (.partialText text) with partials := s.partials + 1 }
  match performAll perform reaction.signals s with
  | (.error fault, s) => (.error fault, s)
  | (.ok (), s) =>
    match reaction.fault with
    | some fault => (.error fault, s)
    | none => (.ok (), s)

/-- What may be raised while a chunk is taken in. -/
def attempt (perform : Session → Signal → Outcome Unit × Session) (s : Session)
    (chunk : PartialChunk) : Outcome Unit × Session :=
  match s.absorb chunk with
  | .error fault => (.error fault, s)
  | .ok s =>
    match chunk.text with
    | some text => if text = "" then (.ok (), s) else s.handOver perform text
    | none => (.ok (), s)

/-- A chunk arrives. Whatever is raised meanwhile is a failure of the stream. -/
def next (perform : Session → Signal → Outcome Unit × Session) (s : Session)
    (chunk : PartialChunk) : Outcome Unit × Session :=
  if s.phase = .streaming then
    match s.attempt perform chunk with
    | (.ok (), s) => (.ok (), s)
    | (.error fault, s) => if fault.isOrdinary then s.fail fault else (.error fault, s)
  else (.ok (), s)

/-- A call that is nested too deeply. -/
def tooDeep : Fault := .ofName "RecursionError"

/-- Takes a signal; calls from inside a handler may be nested `depth` times. -/
def step : Nat → Session → Signal → Outcome Unit × Session
  | _, s, .start => (.ok (), s.start)
  | _, s, .complete => s.complete
  | _, s, .error fault => s.fail fault
  | _, s, .rename id => (.ok (), { s with responseId := id })
  | 0, s, .next chunk => s.next (fun s _ => (.error tooDeep, s)) chunk
  | depth + 1, s, .next chunk => s.next (step depth) chunk

end Session

end CompletionStream
