import CompletionStream.Fault
import CompletionStream.Value.Literal

/-!
# JSON text — values written as a JSON document

The text is in ASCII: every other character is written as one or two `\uXXXX` units. A comma
and a colon are followed by a blank. Keys that are not texts are written as the text of their
JSON form, and an object of an unknown kind as its text. Infinities and NaN keep their names.
-/

namespace CompletionStream.Document

/-- One `\uXXXX` unit. -/
def unit (code : Nat) : List Char :=
  '\\' :: 'u' :: Text.hex 4 code

/-- A character inside a JSON text. -/
def jsonChar (c : Char) : List Char :=
  if c = '"' then ['\\', '"']
  else if c = '\\' then ['\\', '\\']
  else if c = '\n' then ['\\', 'n']
  else if c = '\r' then ['\\', 'r']
  else if c = '\t' then ['\\', 't']
  else if c = '\x08' then ['\\', 'b']
  else if c = '\x0c' then ['\\', 'f']
  else if 0x20 ≤ c.toNat ∧ c.toNat < 0x7f then [c]
  else if c.toNat < 0x10000 then unit c.toNat
  else
    let rest := c.toNat - 0x10000
    unit (0xd800 + rest / 0x400) ++ unit (0xdc00 + rest % 0x400)

/-- A text between double quotes. -/
def jsonString (s : String) : String :=
  String.ofList ('"' :: s.toList.flatMap jsonChar ++ ['"'])

/-- The text of a number in JSON. -/
def jsonFloat (x : Float) : String :=
  floatTextWith .document Decimal.default x

/-- The text that stands for a key. -/
def jsonKey : Value → String
  | .null => "null"
  | .bool b => if b then "true" else "false"
  | .int n => toString n
  | .float x => jsonFloat x
  | v => v.plain

/-- Whether a key has a form in JSON. -/
def isJsonKey : Value → Bool
  | .list _ | .tuple _ | .dict _ | .foreign _ => false
  | _ => true

mutual

/-- The JSON text of a value. -/
def jsonText : Value → String
  | .null => "null"
  | .bool b => if b then "true" else "false"
  | .int n => toString n
  | .float x => jsonFloat x
  | .str s => jsonString s
  | .list items => "[" ++ Value.commaSeparated (jsonItems items) ++ "]"
  | .tuple items => "[" ++ Value.commaSeparated (jsonItems items) ++ "]"
  | .dict members => "\x7b" ++ Value.commaSeparated (jsonMembers members) ++ "\x7d"
  | .foreign s => jsonString s
  termination_by structural v => v

/-- The JSON texts of the items of a sequence. -/
def jsonItems : List Value → List String
  | [] => []
  | v :: vs => jsonText v :: jsonItems vs
  termination_by structural vs => vs

/-- The JSON texts of the members of a mapping. -/
def jsonMembers : List (Value × Value) → List String
  | [] => []
  | (k, v) :: ms => (jsonString (jsonKey k) ++ ": " ++ jsonText v) :: jsonMembers ms
  termination_by structural ms => ms

end

mutual

/-- Whether every key in a value can be written: a text, a number, a truth value or null. -/
def hasJsonKeys : Value → Bool
  | .list items => allHaveJsonKeys items
  | .tuple items => allHaveJsonKeys items
  | .dict members => membersHaveJsonKeys members
  | _ => true
  termination_by structural v => v

/-- Whether every key in the items of a sequence can be written. -/
def allHaveJsonKeys : List Value → Bool
  | [] => true
  | v :: vs => hasJsonKeys v && allHaveJsonKeys vs
  termination_by structural vs => vs

/-- Whether the keys of a mapping, and those in its values, can be written. -/
def membersHaveJsonKeys : List (Value × Value) → Bool
  | [] => true
  | (k, v) :: ms => isJsonKey k && hasJsonKeys v && membersHaveJsonKeys ms
  termination_by structural ms => ms

end

/-- Writes a value as JSON, refusing keys that have no form in it. -/
def writeJson (v : Value) : Outcome String :=
  if hasJsonKeys v then .ok (jsonText v) else .error .wrongType

end CompletionStream.Document
