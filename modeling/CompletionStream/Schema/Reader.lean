import CompletionStream.Schema.Checked
import CompletionStream.Text.Number
import CompletionStream.Value.Literal

/-!
# Readers — what fits a field

A reader turns a value into data of a field's type or says why it does not fit. Readers are
lenient where no information is lost: a whole double fits an integer field, a text of digits
fits a number field, `1` fits a switch.
-/

namespace CompletionStream

/-- Reads a value as a field of some type. -/
abbrev Reader (α : Type) := Value → Checked α

/-- Walks through data: the items of a sequence, the characters of a text, the keys of a
    mapping. Nothing else can be walked through. -/
def Value.walk : Value → Outcome (List Value)
  | .list items => .ok items
  | .tuple items => .ok items
  | .str s => .ok (s.toList.map fun c => .str c.toString)
  | .dict members => .ok (members.map (·.1))
  | _ => .error .wrongType

namespace Reader

variable {α : Type}

/-- Any value. -/
def anything : Reader Value := .ok

/-- A text. -/
def text : Reader String
  | .str s => .ok s
  | _ => .problem "string_type"

/-- One of the given words. -/
def oneOf (words : List (String × α)) : Reader α
  | .str s =>
    match words.find? (·.1 == s) with
    | some (_, a) => .ok a
    | none => .problem "enum"
  | _ => .problem "enum"

/-- A whole double strictly inside the range of 64-bit integers. -/
def wholeFloat (x : Float) : Checked Int :=
  match FloatClass.ofFloat x with
  | .finite negative mantissa exponent =>
    match (FloatClass.finite negative mantissa exponent).integer? with
    | none => .problem "int_from_float"
    | some n => if n.natAbs < Nat.pow 2 63 then .ok n else .problem "int_parsing_size"
  | _ => .problem "finite_number"

/-- An integer. -/
def integer : Reader Int
  | .int n => .ok n
  | .bool b => .ok (if b then 1 else 0)
  | .float x => wholeFloat x
  | .str s =>
    match Text.fieldInt s with
    | .ok n => .ok n
    | .error .tooLong => .problem "int_parsing_size"
    | .error .unreadable => .problem "int_parsing"
  | _ => .problem "int_type"

/-- A decimal. An integer beyond the largest double does not fit. -/
def decimal : Reader Float
  | .float x => .ok x
  | .int n =>
    match FloatClass.ofFloat (nearestFloat n) with
    | .finite _ _ _ => .ok (nearestFloat n)
    | _ => .problem "float_type"
  | .bool b => .ok (if b then 1.0 else 0.0)
  | .str s =>
    match Text.fieldFloat? s with
    | some x => .ok x
    | none => .problem "float_parsing"
  | _ => .problem "float_type"

/-- The words for the two positions of a switch. -/
def switchWords : List (String × Bool) :=
  [("1", true), ("t", true), ("true", true), ("y", true), ("yes", true), ("on", true),
   ("0", false), ("f", false), ("false", false), ("n", false), ("no", false), ("off", false)]

/-- A number as a switch. -/
def numberSwitch (n : Int) : Checked Bool :=
  if n = 0 then .ok false else if n = 1 then .ok true else .problem "bool_parsing"

/-- A switch. -/
def switch : Reader Bool
  | .bool b => .ok b
  | .int n => numberSwitch n
  | .float x =>
    match wholeFloat x with
    | .ok n => numberSwitch n
    | _ => .problem "bool_type"
  | .str s =>
    match switchWords.find? (·.1 == s.map Char.toLower) with
    | some (_, b) => .ok b
    | none => .problem "bool_parsing"
  | _ => .problem "bool_type"

/-- Null, or what another reader takes. -/
def nullable (read : Reader α) : Reader (Option α)
  | .null => .ok none
  | v => (read v).map some

/-- Reads items, each located by its position from `start` on. -/
def itemsFrom (read : Reader α) (start : Nat) (items : List Value) : Checked (List α) :=
  .all ((items.zipIdx start).map fun (v, i) => (read v).under (.index i))

/-- A list or a tuple; `problem` names the misfit of anything else. -/
def sequence (problem : String) (read : Reader α) : Reader (List α)
  | .list items => itemsFrom read 0 items
  | .tuple items => itemsFrom read 0 items
  | _ => .problem problem

/-- A tuple, for which a list will do. -/
def tupleOf (read : Reader α) : Reader (List α) :=
  sequence "tuple_type" read

/-- A list, for which a tuple will do. -/
def listOf (read : Reader α) : Reader (List α) :=
  sequence "list_type" read

/-- Where the member of a mapping stands. -/
def keyLocator : Value → Locator
  | .str s => .name s
  | .bool b => .index (if b then 1 else 0)
  | .int n => if fitsWord n then .index n else .name (toString n)
  | v => .name v.literal

/-- Reads one member of a mapping with text keys. -/
def memberOf (read : Reader α) (member : Value × Value) : Checked (String × α) :=
  let place := keyLocator member.1
  Checked.apply
    (Checked.map Prod.mk (((text member.1).under (.name "[key]")).under place))
    ((read member.2).under place)

/-- A mapping with text keys. -/
def mappingOf (read : Reader α) : Reader (List (String × α))
  | .dict members => .all (members.map (memberOf read))
  | _ => .problem "dict_type"

/-- A record. -/
def record (read : Members → Checked α) : Reader α
  | .dict members => read members
  | _ => .problem "model_type"

/-- A field that must be there. -/
def required (members : Members) (name : String) (read : Reader α) : Checked α :=
  match members.get? name with
  | some v => (read v).under (.name name)
  | none => (Checked.problem "missing").under (.name name)

/-- A field with a default. -/
def optional (members : Members) (name : String) (read : Reader α) (default : α) : Checked α :=
  match members.get? name with
  | some v => (read v).under (.name name)
  | none => .ok default

/-- A field that may be absent or null. -/
def maybe (members : Members) (name : String) (read : Reader α) : Checked (Option α) :=
  optional members name (nullable read) none

/-- A record cannot be changed: setting a field is always a misfit of that field. -/
def frozen (field : String) : Fault :=
  ⟨.misfit [⟨"frozen_instance", [.name field]⟩], none⟩

end Reader

end CompletionStream
