import CompletionStream.Fault
import CompletionStream.Text.Number
import CompletionStream.Value.Literal

/-!
# Templates — texts with places for values

Two percent signs stand for one. A place starts with a percent sign and ends with the letter
that says how its value is written; between them may stand a name in parentheses, flags, a
width and a precision. A place without a name takes the next value, one with a name looks it
up in a mapping. Every value has to be used, and there has to be one for every place.
-/

namespace CompletionStream.Text

/-- A place in a template. -/
structure Place where
  name : Option String
  left : Bool
  plus : Bool
  blank : Bool
  alternate : Bool
  zero : Bool
  width : Nat
  precision : Option Nat
  letter : Char

/-- What the places of a template draw on. -/
inductive Supply where
  /-- Values to be used one after the other. -/
  | row (values : List Value)
  /-- One value, for a place without a name. A mapping also answers places with names, and
      neither a mapping nor a list has to be used. -/
  | single (value : Value) (used : Bool)

/-- The next value, and what is left. -/
def Supply.next : Supply → Outcome (Value × Supply)
  | .row (v :: rest) => .ok (v, .row rest)
  | .row [] => .error .wrongType
  | .single v false => .ok (v, .single v true)
  | .single _ true => .error .wrongType

/-- The value under a name. -/
def Supply.named (supply : Supply) (name : String) : Outcome Value :=
  match supply with
  | .single (.dict members) _ =>
    match Members.get? members name with
    | some v => .ok v
    | none => .error (.ofName "KeyError")
  | _ => .error .wrongType

/-- Whether no value is left that has to be used. -/
def Supply.done : Supply → Bool
  | .row values => values.isEmpty
  | .single (.dict _) _ => true
  | .single (.list _) _ => true
  | .single _ used => used

/-- Fills a text up to a width. -/
def Place.pad (place : Place) (sign : List Char) (body : List Char) (numeric : Bool) :
    List Char :=
  let missing := place.width - (sign.length + body.length)
  if place.left then sign ++ body ++ List.replicate missing ' '
  else if place.zero && numeric then sign ++ List.replicate missing '0' ++ body
  else List.replicate missing ' ' ++ sign ++ body

/-- The sign of a number. -/
def Place.sign (place : Place) (negative : Bool) : List Char :=
  if negative then ['-'] else if place.plus then ['+'] else if place.blank then [' '] else []

/-- A whole number in a base, with at least as many digits as the precision asks for. -/
def Place.writeInt (place : Place) (n : Int) (base : Nat) (lead : String) (capital : Bool) :
    List Char :=
  let digits := Nat.toDigits base n.natAbs
  let digits := if capital then digits.map Char.toUpper else digits
  let digits := List.replicate (place.precision.getD 0 - digits.length) '0' ++ digits
  place.pad (place.sign (n < 0) ++ (if place.alternate then lead.toList else [])) digits true

/-- A double, its magnitude spelled as the letter says. -/
def Place.writeFloat (place : Place) (x : Float) : List Char :=
  let count := place.precision.getD 6
  let capital := place.letter.isUpper
  let finish (cs : List Char) : List Char := if capital then cs.map Char.toUpper else cs
  match FloatClass.ofFloat x with
  | .nan => { place with zero := false }.pad (place.sign false) (finish "nan".toList) true
  | .infinite negative =>
    { place with zero := false }.pad (place.sign negative) (finish "inf".toList) true
  | .finite negative mantissa exponent =>
    let pointed (cs : List Char) : List Char :=
      if place.alternate then Decimal.withPoint cs else cs
    let body :=
      match place.letter.toLower with
      | 'e' => pointed (Decimal.exponential mantissa exponent count)
      | 'f' => pointed (Decimal.fixed mantissa exponent count)
      | _ => Decimal.general mantissa exponent count place.alternate
    place.pad (place.sign negative) (finish body) true

/-- A value as a whole number, fractions cut off where `cut` allows it. -/
def wholeNumber (cut : Bool) : Value → Outcome Int
  | .int n => .ok n
  | .bool b => .ok (if b then 1 else 0)
  | .float x =>
    if cut then (FloatClass.ofFloat x).truncated else .error .wrongType
  | _ => .error .wrongType

/-- A value as a double. -/
def realNumber : Value → Outcome Float
  | .float x => .ok x
  | .bool b => .ok (if b then 1.0 else 0.0)
  | .int n =>
    match FloatClass.ofFloat (nearestFloat n) with
    | .finite _ _ _ => .ok (nearestFloat n)
    | _ => .error .overflow
  | _ => .error .wrongType

/-- A value as a single character. -/
def oneCharacter : Value → Outcome (List Char)
  | .str s => if s.length = 1 then .ok s.toList else .error .wrongType
  | .int n => if 0 ≤ n ∧ n < 0x110000 then .ok [Char.ofNat n.toNat] else .error .overflow
  | .bool b => .ok [if b then '\x01' else '\x00']
  | _ => .error .wrongType

/-- Writes a value at a place. -/
def Place.write (place : Place) (v : Value) : Outcome (List Char) :=
  let text (s : String) : Outcome (List Char) :=
    let cs := s.toList
    let cs := match place.precision with
      | some n => cs.take n
      | none => cs
    .ok (place.pad [] cs false)
  match place.letter with
  | 's' => text v.plain
  | 'r' => text v.literal
  | 'a' => text (asciiOnly v.literal)
  | 'd' | 'i' | 'u' => (wholeNumber true v).map fun n => place.writeInt n 10 "" false
  | 'o' => (wholeNumber false v).map fun n => place.writeInt n 8 "0o" false
  | 'x' => (wholeNumber false v).map fun n => place.writeInt n 16 "0x" false
  | 'X' => (wholeNumber false v).map fun n => place.writeInt n 16 "0X" true
  | 'e' | 'E' | 'f' | 'F' | 'g' | 'G' => (realNumber v).map place.writeFloat
  | 'c' => (oneCharacter v).map fun cs => place.pad [] cs false
  | _ => .error .wrongValue

/-- A name in parentheses, which may hold parentheses itself. -/
def readName (depth : Nat) (acc : List Char) : List Char → Option (String × List Char)
  | [] => none
  | ')' :: rest =>
    match depth with
    | 0 => some (String.ofList acc.reverse, rest)
    | depth + 1 => readName depth (')' :: acc) rest
  | '(' :: rest => readName (depth + 1) ('(' :: acc) rest
  | c :: rest => readName depth (c :: acc) rest

/-- A width or precision: digits, or a star that takes it from the supply. -/
def readCount (supply : Supply) (cs : List Char) : Outcome (Option Int × Supply × List Char) :=
  match cs with
  | '*' :: rest => do
    let (v, supply) ← supply.next
    match v with
    | .int n => return (some n, supply, rest)
    | .bool b => return (some (if b then 1 else 0), supply, rest)
    | _ => .error .wrongType
  | _ =>
    let digits := cs.takeWhile Char.isDigit
    if digits.isEmpty then .ok (none, supply, cs)
    else .ok (some (ofDigits (digits.filterMap asciiDigit?)), supply, cs.dropWhile Char.isDigit)

/-- Reads a place, the percent sign already taken off, together with its value. -/
def readPlace (supply : Supply) (cs : List Char) :
    Outcome (Place × Value × Supply × List Char) := do
  let (name, cs) ←
    match cs with
    | '(' :: rest =>
      match supply with
      | .single (.dict _) _ | .single (.list _) _ =>
        match readName 0 [] rest with
        | some (name, rest) => .ok (some name, rest)
        | none => .error .wrongValue
      | _ => .error .wrongType
    | _ => .ok (none, cs)
  let isFlag (c : Char) : Bool := c == '-' || c == '+' || c == ' ' || c == '#' || c == '0'
  let flags := cs.takeWhile isFlag
  let (width, supply, cs) ← readCount supply (cs.dropWhile isFlag)
  let (precision, supply, cs) ←
    match cs with
    | '.' :: rest => do
      let (n, supply, rest) ← readCount supply rest
      .ok (some (n.getD 0), supply, rest)
    | _ => .ok (none, supply, cs)
  let cs :=
    match cs with
    | 'h' :: rest | 'l' :: rest | 'L' :: rest => rest
    | _ => cs
  match cs with
  | [] => .error .wrongValue
  | letter :: rest =>
    let width := width.getD 0
    let place : Place :=
      { name, left := flags.contains '-' || width < 0, plus := flags.contains '+'
        blank := flags.contains ' ', alternate := flags.contains '#'
        zero := flags.contains '0', width := width.natAbs
        precision := precision.map Int.toNat, letter }
    match name with
    | some name => return (place, ← supply.named name, supply, rest)
    | none => do
      let (v, supply) ← supply.next
      return (place, v, supply, rest)

/-- Fills the places of a template, at most `fuel` characters and places of it. -/
def fillPlaces : Nat → Supply → List Char → Outcome (List Char)
  | 0, _, _ => .ok []
  | _ + 1, supply, [] => if supply.done then .ok [] else .error .wrongType
  | fuel + 1, supply, '%' :: '%' :: cs => do
    return '%' :: (← fillPlaces fuel supply cs)
  | fuel + 1, supply, '%' :: cs => do
    let (place, v, supply, rest) ← readPlace supply cs
    let written ← place.write v
    return written ++ (← fillPlaces fuel supply rest)
  | fuel + 1, supply, c :: cs => do
    return c :: (← fillPlaces fuel supply cs)

/-- Fills the places of a template from a supply. -/
def fill (template : String) (supply : Supply) : Outcome String :=
  let cs := template.toList
  (fillPlaces (cs.length + 1) supply cs).map String.ofList

/-- Fills the places of a template with the given values. A single mapping that is not empty
    stands for its members. -/
def fillTemplate (template : String) (values : List Value) : Outcome String :=
  match values with
  | [.dict (m :: ms)] => fill template (.single (.dict (m :: ms)) false)
  | _ => fill template (.row values)

end CompletionStream.Text
