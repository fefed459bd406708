import CompletionStream.Fault
import CompletionStream.Text.Class

/-!
# Root logger — where records go and how they are written

The root logger has a level and a list of handlers. A handler either has a format of its own
or writes structured lines, in JSON or as `key=value` pairs. Setting logging up again changes
the level and the kind of the structured lines; it adds a handler only where there is none.
-/

namespace CompletionStream.Log

/-- How a structured line is written. -/
inductive LineKind where
  | json
  | keyValue
  deriving DecidableEq, Repr

/-- How a handler writes its records. -/
inductive Handler where
  | plain
  | structured (kind : LineKind)
  deriving DecidableEq, Repr

namespace Handler

/-- Changes the kind of a structured handler's lines. -/
def use (kind : LineKind) : Handler → Handler
  | .plain => .plain
  | .structured _ => .structured kind

end Handler

/-- The logger at the root of all loggers. -/
structure Root where
  level : Int
  handlers : List Handler
  deriving DecidableEq, Repr

/-- The level that a name stands for, in any letter case; an unknown name stands for `INFO`.
    Two names belong to the logging facility itself and are no levels: its default format, a
    text that is refused as the name of a level, and its table of styles. -/
def levelOf (name : String) : Outcome Int :=
  match Text.upper name with
  | "CRITICAL" | "FATAL" => .ok 50
  | "ERROR" => .ok 40
  | "WARNING" | "WARN" => .ok 30
  | "INFO" => .ok 20
  | "DEBUG" => .ok 10
  | "NOTSET" => .ok 0
  | "BASIC_FORMAT" => .error .wrongValue
  | "_STYLES" => .error .wrongType
  | _ => .ok 20

namespace Root

/-- A root logger that nobody set up yet. -/
def untouched (handlers : List Handler) : Root := ⟨30, handlers⟩

/-- Sets the level and the kind of structured lines. -/
def use (root : Root) (level : Int) (kind : LineKind) : Root :=
  let handlers :=
    if root.handlers.isEmpty then [.structured kind] else root.handlers.map (Handler.use kind)
  ⟨level, handlers⟩

/-- Sets logging up. A level that is refused changes nothing. -/
def setUp (root : Root) (level : String) (kind : LineKind) : Outcome Root := do
  return root.use (← levelOf level) kind

end Root

end CompletionStream.Log
