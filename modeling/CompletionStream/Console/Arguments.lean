import CompletionStream.Fault
import CompletionStream.Text.Number

/-!
# Arguments — the command line

The command line has one prompt and options, each of which takes one text, given as the next
argument or behind an equals sign. The name of an option may be cut short as long as it is
clear which one is meant. Two dashes end the options. A dash alone, what looks like a negative
number and what has a blank in it are no options.

Whatever does not fit ends the program with status 2. A demand for help ends it with status 0,
unless something before it on the line cannot be right; a superfluous or unknown argument, or a
missing prompt, is noticed only at the end of the line.
-/

namespace CompletionStream.Console

/-- What the command line says. -/
structure Arguments where
  prompt : String
  system : Option String
  config : Option String
  schema : Option String
  deriving DecidableEq, Repr

/-- The options. -/
inductive Flag where
  | help
  | system
  | config
  | schema
  deriving DecidableEq, Repr

/-- The long names of the options. -/
def Flag.longNames : List (String × Flag) :=
  [("--help", .help), ("--system", .system), ("--config", .config), ("--json-schema", .schema)]

/-- What an argument is taken for. -/
inductive Token where
  | word (s : String)
  | dashes
  | flag (flag : Flag) (value : Option String)
  /-- Short options behind a single dash, the first of which demands help. -/
  | cluster (more : List Char)
  | unknown
  deriving DecidableEq, Repr

/-- Splits a text at its first equals sign. -/
def splitEquals (s : String) : String × Option String :=
  let (front, rest) := Text.breakAt (· == '=') s.toList
  match rest with
  | '=' :: value => (String.ofList front, some (String.ofList value))
  | _ => (s, none)

/-- Whether a text, the dash taken off, is digits, or a point and digits with digits before it
    or not. A line break at the end does not count. -/
def isNumeral (cs : List Char) : Bool :=
  let cs := if cs.getLast? = some '\n' then cs.dropLast else cs
  let isDigit (c : Char) : Bool := (Text.digitValue? c).isSome
  match cs.dropWhile isDigit with
  | [] => !cs.isEmpty
  | '.' :: rest => !rest.isEmpty && rest.all isDigit
  | _ => false

/-- An argument that starts with a dash but names no option. -/
def strayToken (s : String) (afterDash : List Char) : Token :=
  if isNumeral afterDash || s.toList.contains ' ' then .word s else .unknown

/-- What an argument is taken for, as long as the options have not ended. A name that is cut too
    short is an error. -/
def Token.ofArgument (s : String) : Outcome Token :=
  match s.toList with
  | ['-', '-'] => .ok .dashes
  | ['-'] => .ok (.word s)
  | '-' :: '-' :: rest =>
    let (name, value) := splitEquals s
    match Flag.longNames.find? (·.1 == name) with
    | some (_, which) => .ok (.flag which value)
    | none =>
      match Flag.longNames.filter fun option => name.toList.isPrefixOf option.1.toList with
      | [(_, which)] => .ok (.flag which value)
      | [] => .ok (strayToken s ('-' :: rest))
      | _ => .error (.exit 2)
  | '-' :: 'h' :: more => .ok (.cluster more)
  | '-' :: rest => .ok (strayToken s rest)
  | _ => .ok (.word s)

/-- The tokens of a command line. -/
def tokens : List String → Outcome (List Token)
  | [] => .ok []
  | s :: rest => do
    match ← Token.ofArgument s with
    | .dashes => return .dashes :: rest.map .word
    | token => return token :: (← tokens rest)

/-- The status with which short options behind a demand for help end the program. An unknown
    one is not looked at any more. -/
def clusterStatus : List Char → Int
  | [] => 0
  | c :: rest =>
    if c = '=' ∨ c = '-' then 2
    else if c = 'h' then clusterStatus rest
    else 0

/-- What was found so far. -/
structure Found where
  prompt : Option String
  system : Option String
  config : Option String
  schema : Option String
  superfluous : Bool

namespace Found

/-- Nothing yet. -/
def nothing : Found := ⟨none, none, none, none, false⟩

/-- Sets an option's value. -/
def set (found : Found) (value : String) : Flag → Found
  | .help => found
  | .system => { found with system := some value }
  | .config => { found with config := some value }
  | .schema => { found with schema := some value }

/-- The arguments, if the prompt is there and nothing is superfluous. -/
def finish (found : Found) : Outcome Arguments :=
  match found.prompt with
  | some prompt =>
    if found.superfluous then .error (.exit 2)
    else .ok ⟨prompt, found.system, found.config, found.schema⟩
  | none => .error (.exit 2)

/-- Goes through the tokens of a command line. -/
def takeAll : List Token → Found → Outcome Arguments
  | [], found => found.finish
  | .cluster more :: _, _ => .error (.exit (clusterStatus more))
  | .flag .help none :: _, _ => .error (.exit 0)
  | .flag .help (some _) :: _, _ => .error (.exit 2)
  | .flag flag (some value) :: rest, found => takeAll rest (found.set value flag)
  | .flag flag none :: .word value :: rest, found => takeAll rest (found.set value flag)
  | .flag _ none :: _, _ => .error (.exit 2)
  | .unknown :: rest, found => takeAll rest { found with superfluous := true }
  | .dashes :: .word s :: rest, found =>
    match found.prompt with
    | none => takeAll rest { found with prompt := some s }
    | some _ => takeAll rest { found with superfluous := true }
  | .dashes :: rest, found => takeAll rest { found with superfluous := true }
  | .word s :: .dashes :: rest, found =>
    match found.prompt with
    | none => takeAll rest { found with prompt := some s }
    | some _ => takeAll rest { found with superfluous := true }
  | .word s :: rest, found =>
    match found.prompt with
    | none => takeAll rest { found with prompt := some s }
    | some _ => takeAll rest { found with superfluous := true }

end Found

/-- Reads a command line. -/
def Arguments.read (args : List String) : Outcome Arguments := do
  Found.takeAll (← tokens args) .nothing

end CompletionStream.Console
