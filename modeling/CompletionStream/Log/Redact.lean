import CompletionStream.Text.Class
import CompletionStream.Value.Literal

/-!
# Redaction — secrets never reach a log

A value is secret when it stands under a name that speaks of a secret, or when it is a text
that starts like a key or a bearer token. The mark `[REDACTED]` takes its place. What is not
given (null, zero, everything empty) is no secret: it tells nothing, and that it is missing
is worth knowing.

Sequences come out as lists and mappings keep their keys, so that only secrets are lost.
-/

namespace CompletionStream.Log

/-- What stands in place of a secret. -/
def mark : String := "[REDACTED]"

/-- The words that make a name secret. -/
def secretWords : List String :=
  ["api_key", "apikey", "authorization", "password", "secret", "access_token"]

/-- How a secret text starts. -/
def secretStarts : List String :=
  ["bearer ", "sk-"]

/-- Whether the text of a key, letter case aside, holds one of the secret words. A missing key
    is no name. -/
def namesSecret (key : Value) : Bool :=
  if key.isNull then false
  else
    let name := (Text.lower key.plain).toList
    secretWords.any fun word => Text.occursIn word.toList name

/-- Whether a text, letter case aside, starts like a secret. -/
def startsSecret (s : String) : Bool :=
  let cs := (Text.lower s).toList
  secretStarts.any fun start => start.toList.isPrefixOf cs

mutual

/-- Puts the mark in place of the secrets of a value that stands under a key, null where it
    stands under none. -/
def redact (key : Value) (v : Value) : Value :=
  if namesSecret key && v.truthy then .str mark
  else
    match v with
    | .dict members => .dict (redactMembers members)
    | .list items => .list (redactItems items)
    | .tuple items => .list (redactItems items)
    | .str s => if startsSecret s then .str mark else .str s
    | v => v
  termination_by structural v

/-- Redacts the items of a sequence. -/
def redactItems : List Value → List Value
  | [] => []
  | v :: vs => redact .null v :: redactItems vs
  termination_by structural vs => vs

/-- Redacts the members of a mapping, each under its key. -/
def redactMembers : List (Value × Value) → List (Value × Value)
  | [] => []
  | (k, v) :: ms => (k, redact k v) :: redactMembers ms
  termination_by structural ms => ms

end

end CompletionStream.Log
