import CompletionStream.Stream.Listener

/-!
# Printer — a response on the console

The texts of a response go to the standard output as they arrive. When the response is
complete, a line break and one line for each tool call follow there, and one line about the
finish and the usage goes to the error output. A failure is told on the error output.
-/

namespace CompletionStream.Console

/-- A printer: what it has written so far, whether the response is over, and how it ended. -/
structure Printer where
  out : String
  err : String
  done : Bool
  error : Option Fault
  response : Option Response

namespace Printer

/-- A printer that has written nothing. -/
def fresh : Printer := ⟨"", "", false, none, none⟩

/-- A text arrives. -/
def write (p : Printer) (text : String) : Printer :=
  { p with out := p.out ++ text }

/-- The line of a tool call. -/
def callLine (call : ToolCall) : String :=
  "[tool call] " ++ call.name ++ "(" ++ call.arguments ++ ")\n"

/-- The line about the finish and the usage. -/
def usageLine (r : Response) : String :=
  "finish_reason=" ++ ((r.finishReason.map FinishReason.word).getD "None") ++
    " input_tokens=" ++ toString r.usage.inputTokens ++
    " output_tokens=" ++ toString r.usage.outputTokens ++ "\n"

/-- The response is complete. -/
def complete (p : Printer) (r : Response) : Printer :=
  { p with
    out := p.out ++ "\n" ++ String.join (r.toolCalls.map callLine)
    err := p.err ++ usageLine r
    done := true
    response := some r }

/-- The response has failed. -/
def fail (p : Printer) (fault : Fault) : Printer :=
  { p with
    err := p.err ++ "\nerror: " ++ fault.message ++ "\n"
    done := true
    error := some fault }

/-- An entry of a timeline, as far as it concerns the handler. -/
def tell (p : Printer) : Entry → Printer
  | .partialText text => p.write text
  | .completion r => p.complete r
  | .failure fault => p.fail fault
  | .notice _ _ _ _ => p

/-- A whole timeline. -/
def tellAll (p : Printer) (timeline : List Entry) : Printer :=
  timeline.foldl tell p

end Printer

end CompletionStream.Console
