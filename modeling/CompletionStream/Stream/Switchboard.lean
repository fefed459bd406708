import CompletionStream.Stream.Client

/-!
# Switchboard — many requests of one client

Requests whose chunks are pushed are under way at the same time. They share all that belongs to
the client: its clock, the log, and what counting tokens remembers. A session and a bag of
attributes belong to each request alone. A request is taken up by its source, which from then on
sends signals, in any order with the signals to the other requests; each signal is dealt with as
a whole before the next. The timeline says of each entry which request it came up in.

Requests whose chunks are pulled follow one another (`Client.chats`), since each of them is over
before `chat` returns.
-/

namespace CompletionStream

/-- What may happen: a request is made, with a source that may fail to take it up, or its source
    sends a signal. -/
inductive Action where
  | request (number : Nat) (opening : Options → Opening Unit) (r : ChatRequest)
      (handler : Handler)
  | signal (number : Nat) (signal : Signal)

/-- The number of the request that an action belongs to. -/
def Action.number : Action → Nat
  | .request number _ _ _ => number
  | .signal number _ => number

/-- All requests of a client that are under way. -/
structure Switchboard where
  clock : List Float
  log : List LogRecord
  tally : Tally
  timeline : List (Nat × Entry)
  sessions : Nat → Option Session

namespace Client

/-- Makes a request with a source that calls later. There is a session if the request was told
    of, even if the source failed to take it up. -/
def launch (c : Client) (opening : Options → Opening Unit) (r : ChatRequest) (handler : Handler)
    (number : Nat) (scene : Scene) : Option Session × Scene :=
  match c.prepare r scene with
  | (.error _, scene) => (none, scene)
  | (.ok p, scene) =>
    let s := c.session p handler number scene
    match s.tell (.started s.exchange) with
    | (.error _, s) => (none, s.scene)
    | (.ok (), s) =>
      let opening := opening p.options
      let s := reportAll (c.announce p .async s) opening.log
      let s := (s.push (opening.outcome.map fun _ => .inline [])).2
      (some s, s.scene)

end Client

namespace Switchboard

/-- A switchboard on which nothing happened yet. -/
def fresh (clock : List Float) : Switchboard :=
  ⟨clock, [], Tally.fresh, [], fun _ => none⟩

/-- The scene on which a request goes on: all that is shared, and its own attributes. -/
def scene (board : Switchboard) (attributes : Members) : Scene :=
  { clock := board.clock
    log := board.log
    timeline := []
    attributes
    tally := board.tally }

/-- What a request has left goes back to the switchboard. -/
def keep (board : Switchboard) (number : Nat) (session : Option Session) (scene : Scene) :
    Switchboard :=
  { clock := scene.clock
    log := scene.log
    tally := scene.tally
    timeline := board.timeline ++ scene.timeline.map fun entry => (number, entry)
    sessions := fun n => if n = number then session else board.sessions n }

/-- One thing happens. A signal to a request that has no session goes nowhere. -/
def act (c : Client) (board : Switchboard) : Action → Switchboard
  | .request number opening r handler =>
    let (session, scene) := c.launch opening r handler number (board.scene [])
    board.keep number session scene
  | .signal number signal =>
    match board.sessions number with
    | none => board
    | some s =>
      let s := { s with scene := board.scene s.scene.attributes }
      let s := (s.receive signal).2
      board.keep number (some s) s.scene

/-- Many things happen, one after the other. -/
def run (c : Client) (board : Switchboard) (actions : List Action) : Switchboard :=
  actions.foldl (act c) board

end Switchboard

/-- One of several requests. -/
structure Turn where
  transport : Transport
  request : ChatRequest
  handler : Handler

namespace Client

/-- Requests that follow one another, the first of them with the given number. -/
def chats (c : Client) : List Turn → Nat → Scene → List (Outcome Unit × Report)
  | [], _, _ => []
  | turn :: rest, number, scene =>
    let (outcome, report) := c.chat turn.transport turn.request turn.handler number scene
    (outcome, report) :: c.chats rest (number + 1) (nextScene report.scene)

end Client

end CompletionStream
