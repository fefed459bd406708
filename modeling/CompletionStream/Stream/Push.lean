import CompletionStream.Stream.Pull

/-!
# Pushing — the transport calls with the chunks

A source of chunks is subscribed to with three callbacks: one for each chunk, and one each for
the completion and the failure of the stream. A source over a provider's client makes exactly
one of the two final calls, and makes all calls on a thread of its own.

`consume` is such a run over a provider's stream. The callbacks work on a state of any type,
so that it can be said what they are called with, whatever they do.
-/

namespace CompletionStream

/-- The three callbacks of a subscription. -/
structure Subscriber (σ : Type) where
  onNext : PartialChunk → σ → Outcome Unit × σ
  onError : Fault → σ → Outcome Unit × σ
  onComplete : σ → Outcome Unit × σ

/-- What is raised when a run is cancelled. -/
def cancelled : Fault := .of (.interrupt "CancelledError") ""

/-- What the subscriber is told when a run is cancelled. -/
def transportClosed : Fault := .of (.transport .null none) "transport closed"

/-- Whether a fault cancels a run. -/
def Fault.isCancellation (fault : Fault) : Bool :=
  match fault.kind with
  | .interrupt name => name == "CancelledError"
  | _ => false

namespace Subscriber

variable {σ : Type}

/-- A run ends with a fault. A cancellation goes on after the subscriber was told; other
    interrupts go on at once. -/
def abort (sub : Subscriber σ) (fault : Fault) (state : σ) : Outcome Unit × σ :=
  if fault.isCancellation then
    match sub.onError transportClosed state with
    | (.ok (), state) => (.error fault, state)
    | (.error raised, state) => (.error raised, state)
  else if fault.isOrdinary then sub.onError (Wire.relayed fault) state
  else (.error fault, state)

/-- The end of a provider's stream. -/
def finish (sub : Subscriber σ) (ending : Option Fault) (state : σ) : Outcome Unit × σ :=
  match ending with
  | some fault => sub.abort fault state
  | none => sub.onComplete state

/-- Delivers chunks until one cannot be read or cannot be delivered, then the end. -/
def deliver (sub : Subscriber σ) (ending : Option Fault) : List Value → σ → Outcome Unit × σ
  | [], state => sub.finish ending state
  | raw :: rest, state =>
    match Wire.chunk raw with
    | .error fault => sub.abort fault state
    | .ok chunk =>
      match sub.onNext chunk state with
      | (.ok (), state) => deliver sub ending rest state
      | (.error fault, state) => sub.abort fault state

/-- Runs a provider's stream to its end. A stream that stalls waits until it is cancelled. -/
def consume (sub : Subscriber σ) (raw : RawStream) (state : σ) : Outcome Unit × σ :=
  match raw.openFault with
  | some fault => sub.abort fault state
  | none => sub.deliver (if raw.stalls then some cancelled else raw.ending) raw.chunks state

end Subscriber

/-- What a source does on the caller's thread. -/
inductive Delivery where
  | signal (signal : Signal)
  | raised (fault : Fault)

/-- A source of chunks. -/
inductive PushSource where
  /-- Makes its calls while it is being subscribed to. -/
  | inline (deliveries : List Delivery)
  /-- Makes its calls on a thread of its own. -/
  | detached (raw : RawStream)

namespace Session

/-- Deliveries reach the session until one is raised. -/
def deliverAll : List Delivery → Session → Outcome Unit × Session
  | [], s => (.ok (), s)
  | .raised fault :: _, s => (.error fault, s)
  | .signal signal :: rest, s =>
    match s.receive signal with
    | (.ok (), s) => deliverAll rest s
    | (.error fault, s) => (.error fault, s)

/-- A session as a subscriber. -/
def subscriber : Subscriber Session where
  onNext chunk s := s.receive (.next chunk)
  onError fault s := s.receive (.error fault)
  onComplete s := s.receive .complete

/-- Subscribes a session to a source. What is raised on another thread stays there. -/
def subscribe (s : Session) : PushSource → Outcome Unit × Session
  | .inline deliveries => deliverAll deliveries s
  | .detached raw => (.ok (), (subscriber.consume raw s).2)

/-- Runs a session over a source, if the source can be had. -/
def push (s : Session) (opened : Outcome PushSource) : Outcome Unit × Session :=
  match opened with
  | .error fault => s.settle (some fault)
  | .ok source =>
    match s.start.subscribe source with
    | (.ok (), s) => (.ok (), s)
    | (.error fault, s) => s.settle (some fault)

end Session

end CompletionStream
