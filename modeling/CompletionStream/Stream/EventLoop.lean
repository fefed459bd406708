import CompletionStream.Log.Record

/-!
# Event loop — the thread that pushing transports call from

The loop runs on a thread of its own, started by the first work that is submitted to it. To
stop it is to cancel what is pending, to wait for that, and to give the thread up; work that
is submitted later starts a new thread. Stopping a loop that does not run does nothing.
-/

namespace CompletionStream

/-- An event loop: the name of its threads, the number of the thread it runs on, and how many
    threads it has started. -/
structure EventLoop where
  name : String
  running : Option Nat
  started : Nat
  deriving DecidableEq, Repr

namespace EventLoop

/-- The name of the threads of a loop that is given none. -/
def defaultName : String := "chatstream-transport"

/-- How long a stop waits, in seconds, unless it is told otherwise. -/
def defaultPatience : Float := 5.0

/-- A loop before any work. -/
def idle (name : String) : EventLoop := ⟨name, none, 0⟩

/-- Work arrives; the number of the thread it runs on. -/
def submit (loop : EventLoop) : Nat × EventLoop :=
  match loop.running with
  | some thread => (thread, loop)
  | none => (loop.started, { loop with running := some loop.started, started := loop.started + 1 })

/-- What is reported when work arrives: a loop that does not run says what it starts with. -/
def submitLog (loop : EventLoop) : List LogRecord :=
  match loop.running with
  | some _ => []
  | none =>
    [{ logger := "asyncio", level := LogRecord.debug, template := "Using selector: %s"
       arguments := [.text "EpollSelector"], extra := [], fault := none }]

/-- The loop gives its thread up. Called from the thread itself this does not wait. -/
def leave (loop : EventLoop) : EventLoop :=
  { loop with running := none }

/-- What is reported when cancelled work does not end in time. -/
def impatience (patience : Float) : LogRecord :=
  { logger := "chatstream.models.openai_async", level := LogRecord.warning
    template := "pending streams did not finish cancelling within %ss"
    arguments := [.text (floatText patience)], extra := [], fault := none }

/-- Stops the loop. Whether pending work heeds its cancellation is up to the work. -/
def stop (loop : EventLoop) (heeds : Bool) (patience : Float) : List LogRecord × EventLoop :=
  match loop.running with
  | none => ([], loop)
  | some _ => (if heeds then [] else [impatience patience], loop.leave)

end EventLoop

end CompletionStream
