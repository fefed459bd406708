import CompletionStream.Document.JsonText
import CompletionStream.Log.Calendar
import CompletionStream.Log.Record
import CompletionStream.Log.Redact
import CompletionStream.Log.Root

/-!
# Structured lines — records written for machines

A sheet is a record laid out for formatting: its own attributes and the extra members that
came with it. The attributes can be overwritten by extra members of the same names, so that
each may hold any value. A line tells the time, the level's name, the logger and the message,
then the fault if there is one, then the extra members with their secrets redacted. An extra
member named like one of the first entries takes that entry's place.
-/

namespace CompletionStream.Log

/-- What a record tells of a fault. -/
inductive Trace where
  | none
  | fault (fault : Fault)
  /-- Something that is no fault. -/
  | other (value : Value)

/-- A record laid out for formatting. -/
structure Sheet where
  logger : Value
  level : Value
  template : Value
  arguments : Text.Supply
  created : Value
  milliseconds : Value
  trace : Trace
  extra : Members

/-- The attributes of every record that no line shows by their names. -/
def silentAttributes : List String :=
  ["args", "asctime", "created", "exc_info", "exc_text", "filename", "funcName", "levelname",
    "levelno", "lineno", "message", "module", "msecs", "msg", "name", "pathname", "process",
    "processName", "relativeCreated", "stack_info", "taskName", "thread", "threadName"]

namespace Sheet

/-- No arguments: the template is the message. -/
def noArguments : Text.Supply := .row []

/-- What the places of a template draw on when the arguments are a value. A value that is not
    given means that there are no arguments. -/
def supplyOf (v : Value) : Text.Supply :=
  if v.truthy then
    match v with
    | .tuple items => .row items
    | v => .single v false
  else noArguments

/-- What the places of a template draw on when the arguments come one by one. A single mapping
    that is not empty stands for its members. -/
def supplyOfAll : List Value → Text.Supply
  | [.dict (m :: ms)] => .single (.dict (m :: ms)) false
  | values => .row values

/-- Sets an attribute of a sheet. -/
def assign (sheet : Sheet) (key value : Value) : Sheet :=
  let kept := { sheet with extra := sheet.extra.put key value }
  match key with
  | .str "name" => { sheet with logger := value }
  | .str "levelname" => { sheet with level := value }
  | .str "msg" => { sheet with template := value }
  | .str "args" => { sheet with arguments := supplyOf value }
  | .str "created" => { sheet with created := value }
  | .str "msecs" => { sheet with milliseconds := value }
  | .str "exc_info" => { sheet with trace := if value.truthy then .other value else .none }
  | .str name => if silentAttributes.contains name then sheet else kept
  | _ => kept

/-- Sets the members of a mapping as attributes, one after the other. -/
def assignAll (sheet : Sheet) (members : Members) : Sheet :=
  members.foldl (fun sheet member => sheet.assign member.1 member.2) sheet

/-- A record of the library, made at a moment. -/
def ofRecord (record : LogRecord) (created milliseconds : Value) : Sheet :=
  let sheet : Sheet :=
    { logger := .str record.logger
      level := .str (LogRecord.levelName record.level)
      template := .str record.message
      arguments := noArguments
      created, milliseconds
      trace := match record.fault with
        | some fault => .fault fault
        | none => .none
      extra := [] }
  sheet.assignAll (record.extra.map fun (name, value) => (.str name, value))

/-- The whole number next to a number on the side of minus infinity. -/
def floorOf : Value → Outcome Int
  | .int n => .ok n
  | .bool b => .ok (if b then 1 else 0)
  | .float x =>
    match FloatClass.ofFloat x with
    | .nan => .error .wrongValue
    | .infinite _ => .error .overflow
    | .finite negative mantissa exponent =>
      let whole := FloatClass.signed negative (FloatClass.whole mantissa exponent)
      .ok (if negative && !FloatClass.isWhole mantissa exponent then whole - 1 else whole)
  | _ => .error .wrongType

/-- The moment of a sheet: date and time, a comma, and the milliseconds. Seconds are counted in
    64 bits and years in 32. -/
def timestamp (sheet : Sheet) : Outcome String := do
  let seconds ← floorOf sheet.created
  if !fitsWord seconds then .error .overflow
  let year := (Date.ofDay (seconds.fdiv 86400)).year
  if year < -2147481748 ∨ 2147483648 ≤ year then .error (.ofName "OSError")
  Text.fill "%s,%03d" (.row [.str (momentText seconds), sheet.milliseconds])

/-- The message of a sheet. Without arguments the template stands as it is. An extra member
    `getMessage` hides how a message is made. -/
def message (sheet : Sheet) : Outcome String :=
  if (Members.get? sheet.extra "getMessage").isSome then .error .wrongType
  else
    match sheet.arguments with
    | .row [] => .ok sheet.template.plain
    | supply => Text.fill sheet.template.plain supply

/-- The name of a fault's class, with the place where the class belongs. -/
def className (fault : Fault) : String :=
  if fault.kind.isOwn then "chatstream.core.errors." ++ fault.name
  else if fault.name = "CancelledError" then "asyncio.exceptions.CancelledError"
  else fault.name

/-- A fault in one line: its class, a colon and its text, if it has one. -/
def faultText (fault : Fault) : String :=
  if fault.message = "" then className fault else className fault ++ ": " ++ fault.message

/-- A part of a value by its position. -/
def partAt (v : Value) (i : Nat) : Outcome Value :=
  let orRaise (name : String) : Option Value → Outcome Value
    | some part => .ok part
    | none => .error (.ofName name)
  match v with
  | .list items | .tuple items => orRaise "IndexError" items[i]?
  | .str s => orRaise "IndexError" (s.toList[i]?.map fun c => .str c.toString)
  | .dict members => orRaise "KeyError" (Members.lookup? members (.int i))
  | _ => .error .wrongType

/-- What a sheet tells of its fault. A value that is no fault has to have three parts, of which
    the second is a fault and the third its trace; here only null can stand for either. -/
def traceText (sheet : Sheet) : Outcome (Option String) :=
  match sheet.trace with
  | .none => .ok none
  | .fault fault => .ok (some (faultText fault))
  | .other v => do
    let trace ← partAt v 2
    let _ ← partAt v 0
    match ← partAt v 1, trace with
    | .null, .null => return some "NoneType: None"
    | _, _ => .error .noMember

/-- The entries of a line, in order, with the time given as a text. -/
def entriesAt (sheet : Sheet) (timestamp : String) : Outcome Members := do
  let message ← sheet.message
  let trace ← sheet.traceText
  let own : Members :=
    [(.str "timestamp", .str timestamp), (.str "level", sheet.level),
      (.str "logger", sheet.logger), (.str "message", .str message)]
  let told : Members :=
    match trace with
    | some text => own ++ [(.str "exception", .str text)]
    | none => own
  return told.update (sheet.extra.map fun (key, value) => (key, redact key value))

/-- The entries of a line, in order. -/
def entries (sheet : Sheet) : Outcome Members := do
  sheet.entriesAt (← sheet.timestamp)

/-- Entries as a line. -/
def write (kind : LineKind) (entries : Members) : Outcome String :=
  match kind with
  | .json => Document.writeJson (.dict entries)
  | .keyValue =>
    .ok (" ".intercalate (entries.map fun (key, value) => key.plain ++ "=" ++ value.literal))

/-- The line of a sheet. -/
def line (sheet : Sheet) (kind : LineKind) : Outcome String := do
  write kind (← sheet.entries)

end Sheet

namespace Root

/-- The lines that the structured handlers write for a record, if the level lets it through. A
    line that cannot be written is left out. -/
def linesOf (root : Root) (timestamp : String) (record : LogRecord) : List String :=
  if record.level < root.level then []
  else root.handlers.filterMap fun handler =>
    match handler with
    | .plain => none
    | .structured kind =>
      match (Sheet.ofRecord record .null .null).entriesAt timestamp >>= Sheet.write kind with
      | .ok line => some line
      | .error _ => none

end Root

end CompletionStream.Log
