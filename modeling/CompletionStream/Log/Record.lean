import CompletionStream.Text.Template

/-!
# Log records — what the library reports about itself

A record names its logger, has a level, a template with arguments, extra members, and the
fault it reports, if it reports one. A fault whose wording is not known cannot be put into a
template; the record then shows the template itself.
-/

namespace CompletionStream

/-- What may stand in a record's template. -/
inductive LogArgument where
  | text (s : String)
  | fault (fault : Fault)

/-- A record of a logger. -/
structure LogRecord where
  logger : String
  level : Int
  template : String
  arguments : List LogArgument
  extra : List (String × Value)
  fault : Option Fault

namespace LogRecord

def debug : Int := 10

def info : Int := 20

def warning : Int := 30

def error : Int := 40

def critical : Int := 50

/-- The name of a level. -/
def levelName (level : Int) : String :=
  if level = 0 then "NOTSET"
  else if level = debug then "DEBUG"
  else if level = info then "INFO"
  else if level = warning then "WARNING"
  else if level = error then "ERROR"
  else if level = critical then "CRITICAL"
  else "Level " ++ toString level

/-- The text of an argument, if it is known. -/
def argumentText? : LogArgument → Option String
  | .text s => some s
  | .fault f => f.message?

/-- The record's message. -/
def message (record : LogRecord) : String :=
  if record.arguments.isEmpty then record.template
  else
    match record.arguments.mapM argumentText? with
    | none => record.template
    | some texts =>
      match Text.fillTemplate record.template (texts.map .str) with
      | .ok s => s
      | .error _ => record.template

end LogRecord

end CompletionStream
