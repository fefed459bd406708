import CompletionStream.Stream.Session
import CompletionStream.Wire.Decode
import CompletionStream.Wire.Failure

/-!
# Pulling — the caller takes the chunks one by one

A pull stream yields its chunks and then ends, by itself or with a fault. Most streams are
closed by whoever pulls, once the session has ended in whatever way. The stream over a
provider's client closes what it draws on itself as soon as it is used up or fails, so that what
that raises takes the place of how it ended; closing it again then does nothing. It has nothing
to close either as long as nobody has asked it for a chunk.
-/

namespace CompletionStream

/-- A stream to pull chunks from. -/
structure PullStream where
  chunks : List PartialChunk
  ending : Option Fault
  closesItself : Bool
  closable : Bool
  closeFault : Option Fault

/-- What a provider's client delivers: it may fail to open, then it yields raw chunks and ends,
    by itself or with a fault. A stalled stream waits after its last chunk. -/
structure RawStream where
  openFault : Option Fault
  chunks : List Value
  ending : Option Fault
  stalls : Bool
  closable : Bool
  closeFault : Option Fault

/-- The chunks that can be read, up to the first that cannot, and the fault of that one. -/
def decodeAll : List Value → List PartialChunk × Option Fault
  | [] => ([], none)
  | raw :: rest =>
    match Wire.chunk raw with
    | .error fault => ([], some fault)
    | .ok chunk =>
      let (chunks, fault) := decodeAll rest
      (chunk :: chunks, fault)

/-- A provider's stream as a stream to pull from. -/
def RawStream.toPull (raw : RawStream) : Outcome PullStream :=
  match raw.openFault with
  | some fault => .error (Wire.relayed fault)
  | none =>
    let (chunks, fault) := decodeAll raw.chunks
    .ok { chunks
          ending := fault.or (raw.ending.map Wire.relayed)
          closesItself := true
          closable := raw.closable
          closeFault := raw.closeFault }

namespace PullStream

/-- What closing raises. -/
def closing (stream : PullStream) : Option Fault :=
  if stream.closable then stream.closeFault else none

/-- What is raised after the last chunk. -/
def lastFault (stream : PullStream) : Option Fault :=
  if stream.closesItself then stream.closing.or stream.ending else stream.ending

end PullStream

/-- What became of a stream that was opened: how many chunks it yielded and how often it was
    closed. -/
structure PullReport where
  yielded : Nat
  closed : Nat
  deriving DecidableEq, Repr

/-- Where a stream stands that was opened. -/
inductive Standing where
  /-- It was not asked for a chunk yet. -/
  | untouched
  /-- It yielded a chunk and waits to be asked for more. -/
  | waiting
  | spent
  deriving DecidableEq, Repr

/-- A stream that was opened: where it stands, and how often what it draws on was closed. -/
structure Hold where
  standing : Standing
  closed : Nat
  deriving DecidableEq, Repr

/-- A stream that yielded some chunks and was asked for nothing else. -/
def Hold.after (yielded : Nat) : Hold :=
  ⟨if yielded = 0 then .untouched else .waiting, 0⟩

namespace PullStream

/-- What a stream draws on is closed, if it can be. -/
def shut (stream : PullStream) (hold : Hold) : Option Fault × Hold :=
  let hold := { hold with standing := .spent }
  if stream.closable then (stream.closeFault, { hold with closed := hold.closed + 1 })
  else (none, hold)

/-- A stream is asked for more after its last chunk. One that closes itself does so now, and
    what that raises takes the place of how it ended. -/
def runOut (stream : PullStream) (hold : Hold) : Option Fault × Hold :=
  if stream.closesItself then
    let (fault, hold) := stream.shut hold
    (fault.or stream.ending, hold)
  else (stream.ending, { hold with standing := .spent })

/-- A stream is closed by whoever pulls it. One that closes itself has something to close only
    while it waits to be asked for more. -/
def close (stream : PullStream) (hold : Hold) : Option Fault × Hold :=
  if stream.closesItself ∧ hold.standing ≠ .waiting then
    (none, { hold with standing := .spent })
  else stream.shut hold

/-- The outcome of a step that may raise a fault. -/
def outcomeOf : Option Fault → Outcome Unit
  | none => .ok ()
  | some fault => .error fault

/-- Takes all chunks of a stream, or leaves it after as many as the limit says and closes it:
    the chunks, how it ended, and how often what it draws on was closed. -/
def takeAtMost (stream : PullStream) (limit : Option Nat) :
    List PartialChunk × Outcome Unit × Nat :=
  match limit.filter (· ≤ stream.chunks.length) with
  | some n =>
    let (fault, hold) := stream.close (.after n)
    (stream.chunks.take n, outcomeOf fault, hold.closed)
  | none =>
    let (fault, hold) := stream.runOut (.after stream.chunks.length)
    (stream.chunks, outcomeOf fault, hold.closed)

end PullStream

/-- How taking chunks from a stream ended. -/
inductive Drained where
  | exhausted
  | left
  | interrupted (fault : Fault)

namespace Session

/-- A signal from a transport. Its handlers have no session to send signals to. -/
def receive (s : Session) (signal : Signal) : Outcome Unit × Session :=
  s.step 0 signal

/-- Takes chunks until they are used up, the session has ended, or it was interrupted. The
    number is that of the chunks taken so far. -/
def drain : List PartialChunk → Nat → Session → Drained × Nat × Session
  | [], taken, s => (.exhausted, taken, s)
  | chunk :: rest, taken, s =>
    match s.receive (.next chunk) with
    | (.error fault, s) => (.interrupted fault, taken + 1, s)
    | (.ok (), s) => if s.ended then (.left, taken + 1, s) else drain rest (taken + 1) s

/-- The stream's own end reaches the session. -/
def settle (s : Session) (fault : Option Fault) : Outcome Unit × Session :=
  match fault with
  | none => s.complete
  | some fault => if fault.isOrdinary then s.fail fault else (.error fault, s)

/-- A stream is closed; what that raises is reported, unless it is an interrupt. -/
def closeStream (s : Session) (outcome : Outcome Unit) (fault : Option Fault) :
    Outcome Unit × Session :=
  match fault with
  | none => (outcome, s)
  | some fault =>
    if fault.isOrdinary then
      (outcome, s.report LogRecord.debug "closing chunk stream failed: %s" [.fault fault] [])
    else (.error fault, s)

/-- Pulls a stream that was opened. However that ends, the stream is closed in the end. -/
def pullStream (s : Session) (stream : PullStream) : Outcome Unit × PullReport × Session :=
  let (drained, yielded, s) := drain stream.chunks 0 s
  let hold := Hold.after yielded
  let (outcome, hold, s) :=
    match drained with
    | .exhausted =>
      let (fault, hold) := stream.runOut hold
      let (outcome, s) := s.settle fault
      (outcome, hold, s)
    | .left =>
      let (outcome, s) := s.complete
      (outcome, hold, s)
    | .interrupted fault => (.error fault, hold, s)
  let (fault, hold) := stream.close hold
  let (outcome, s) := s.closeStream outcome fault
  (outcome, ⟨yielded, hold.closed⟩, s)

/-- Runs a session over a stream, if the stream can be opened. -/
def pull (s : Session) (opened : Outcome PullStream) :
    Outcome Unit × Option PullReport × Session :=
  let s := s.start
  match opened with
  | .error fault =>
    let (outcome, s) := s.settle (some fault)
    (outcome, none, s)
  | .ok stream =>
    let (outcome, report, s) := s.pullStream stream
    (outcome, some report, s)

end Session

end CompletionStream
