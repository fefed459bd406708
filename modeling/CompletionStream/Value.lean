/-!
# Value — the dynamic data that enters and leaves the library

Requests, chunks and configuration arrive as untyped data: numbers, text, sequences and
mappings nested in each other. `Value` is that data. A mapping keeps its members in order of
insertion, and its keys may be any value.

Two keys are the same key when their normal forms agree: numbers are compared by what they
amount to, so that `1`, `1.0` and `true` name one member. `Value.key` is the normal form, and
`Members` is an association list with at most one member per key.
-/

namespace CompletionStream

/-- Untyped data, as it is read from a document or handed over by a caller. -/
inductive Value where
  | null
  | bool (b : Bool)
  | int (n : Int)
  | float (x : Float)
  | str (s : String)
  | list (items : List Value)
  | tuple (items : List Value)
  | dict (members : List (Value × Value))
  /-- An object of some other kind, known only by its text. -/
  | foreign (text : String)
  deriving Inhabited, BEq, Repr

/-- The members of a mapping, in order of insertion. -/
abbrev Members := List (Value × Value)

/-- What a double stands for, with its magnitude as a whole number of powers of two. -/
inductive FloatClass where
  | nan
  | infinite (negative : Bool)
  /-- The magnitude is `mantissa * 2 ^ exponent`. -/
  | finite (negative : Bool) (mantissa : Nat) (exponent : Int)
  deriving Repr, DecidableEq

namespace FloatClass

/-- Reads the sign, exponent and fraction fields of a double. -/
def ofFloat (x : Float) : FloatClass :=
  let bits : Nat := x.toBits.toNat
  let negative := bits / Nat.pow 2 63 == 1
  let exponent : Nat := bits / Nat.pow 2 52 % 2048
  let fraction : Nat := bits % Nat.pow 2 52
  if exponent = 2047 then
    if fraction = 0 then .infinite negative else .nan
  else if exponent = 0 then .finite negative fraction (-1074)
  else .finite negative (Nat.pow 2 52 + fraction) ((exponent : Int) - 1075)

/-- The magnitude of a finite double without its fraction. -/
def whole (mantissa : Nat) (exponent : Int) : Nat :=
  if 0 ≤ exponent then mantissa * Nat.pow 2 exponent.toNat
  else mantissa / Nat.pow 2 (-exponent).toNat

/-- Whether a finite double has no fraction. -/
def isWhole (mantissa : Nat) (exponent : Int) : Bool :=
  0 ≤ exponent || mantissa % Nat.pow 2 (-exponent).toNat == 0

/-- Restores the sign of a magnitude. -/
def signed (negative : Bool) (magnitude : Nat) : Int :=
  if negative then -(magnitude : Int) else magnitude

/-- The integer that a double equals, if it equals one. -/
def integer? : FloatClass → Option Int
  | .finite negative mantissa exponent =>
    if isWhole mantissa exponent then some (signed negative (whole mantissa exponent)) else none
  | _ => none

end FloatClass

/-- Whether an integer fits into a signed word of 64 bits. -/
def fitsWord (n : Int) : Bool :=
  -(Nat.pow 2 63 : Nat) ≤ n && n < (Nat.pow 2 63 : Nat)

/-- The double nearest to an integer; beyond the largest double this is an infinity. -/
def nearestFloat (n : Int) : Float :=
  let magnitude := Float.ofScientific n.natAbs false 0
  if n < 0 then -magnitude else magnitude

namespace Value

/-- One piece of a key's normal form. -/
inductive KeyPart where
  | null
  | int (n : Int)
  | float (bits : UInt64)
  | text (s : String)
  | foreign (s : String)
  | mapping
  | opening
  | closing
  deriving DecidableEq, Repr

mutual

/-- The normal form of a key: numbers that amount to the same have the same form. -/
def key : Value → List KeyPart
  | .null => [.null]
  | .bool b => [.int (if b then 1 else 0)]
  | .int n => [.int n]
  | .float x =>
    match (FloatClass.ofFloat x).integer? with
    | some n => [.int n]
    | none => [.float x.toBits]
  | .str s => [.text s]
  | .list items => .opening :: keyAll items
  | .tuple items => .opening :: keyAll items
  | .dict _ => [.mapping]
  | .foreign s => [.foreign s]
  termination_by structural v => v

/-- The normal forms of the items of a sequence, closed at the end. -/
def keyAll : List Value → List KeyPart
  | [] => [.closing]
  | v :: vs => key v ++ keyAll vs
  termination_by structural vs => vs

end

/-- Whether a value counts as given: null, false, zero and everything empty do not. -/
def truthy : Value → Bool
  | .null => false
  | .bool b => b
  | .int n => n ≠ 0
  | .float x => !(x == 0.0)
  | .str s => s ≠ ""
  | .list items => !items.isEmpty
  | .tuple items => !items.isEmpty
  | .dict members => !members.isEmpty
  | .foreign _ => true

/-- Whether a value is null. -/
def isNull : Value → Bool
  | .null => true
  | _ => false

/-- The text of a text value. -/
def text? : Value → Option String
  | .str s => some s
  | _ => none

/-- The items of a list or tuple. -/
def items? : Value → Option (List Value)
  | .list items => some items
  | .tuple items => some items
  | _ => none

/-- The members of a mapping. -/
def members? : Value → Option Members
  | .dict members => some members
  | _ => none

/-- Writes an optional value, null when it is absent. -/
def ofOption {α : Type} (write : α → Value) : Option α → Value
  | none => .null
  | some a => write a

end Value

namespace Members

/-- The value under a key. -/
def lookup? (members : Members) (key : Value) : Option Value :=
  (List.find? (fun member => member.1.key == key.key) members).map (·.2)

/-- The value under a text key. -/
def get? (members : Members) (name : String) : Option Value :=
  members.lookup? (.str name)

/-- The value under a text key, null when there is none. -/
def getOrNull (members : Members) (name : String) : Value :=
  (members.get? name).getD .null

/-- Sets a key. A key that is present keeps its place and its spelling. -/
def put : Members → Value → Value → Members
  | [], key, value => [(key, value)]
  | (k, v) :: rest, key, value =>
    if k.key == key.key then (k, value) :: rest else (k, v) :: put rest key value

/-- Sets a text key. -/
def set (members : Members) (name : String) (value : Value) : Members :=
  members.put (.str name) value

/-- Removes a text key. -/
def without (members : Members) (name : String) : Members :=
  List.filter (fun member => !(member.1.key == (Value.str name).key)) members

/-- Sets every member of `updates` in turn. -/
def update (members updates : Members) : Members :=
  updates.foldl (fun acc member => acc.put member.1 member.2) members

/-- Collects pairs into a mapping; of two pairs with one key the later value stands. -/
def ofPairs (pairs : List (Value × Value)) : Members :=
  update [] pairs

end Members

namespace Value

/-- The value under a text key of a mapping, null when there is none. -/
def member (value : Value) (name : String) : Value :=
  match value with
  | .dict members => Members.getOrNull members name
  | _ => .null

/-- A mapping with text keys. -/
def object (members : List (String × Value)) : Value :=
  .dict (members.map fun (name, value) => (.str name, value))

end Value

end CompletionStream
