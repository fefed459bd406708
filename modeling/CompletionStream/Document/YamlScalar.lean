import CompletionStream.Document.JsonReader
import CompletionStream.Fault

/-!
# YAML scalars — what a plain word means

A plain word of a YAML document is null, a truth value, a number, a date or a text, by its
form alone. The forms are those of YAML 1.1: `off` is a truth value, underscores may stand in
numbers, a leading zero means octal, digits joined by colons count in sixties, and a double
needs a point and a signed exponent. A date is kept as an object of a kind of its own.
-/

namespace CompletionStream.Document

/-- The words for null. -/
def yamlNulls : List String := ["~", "null", "Null", "NULL", ""]

/-- The words for the truth values. -/
def yamlSwitches : List (String × Bool) :=
  [("yes", true), ("Yes", true), ("YES", true), ("no", false), ("No", false), ("NO", false),
   ("true", true), ("True", true), ("TRUE", true), ("false", false), ("False", false),
   ("FALSE", false), ("on", true), ("On", true), ("ON", true), ("off", false), ("Off", false),
   ("OFF", false)]

/-- A digit or an underscore. -/
def isDigitOrGap (c : Char) : Bool := c.isDigit || c == '_'

/-- The digits of a word in a base, underscores left out. -/
def digitsIn (base : Nat) (cs : List Char) : Nat :=
  (cs.filterMap hexDigit?).foldl (fun n d => base * n + d) 0

/-- The parts of a word between colons. -/
def splitColons (cs : List Char) : List (List Char) :=
  let (first, rest) :=
    cs.foldr (fun c (acc : List Char × List (List Char)) =>
      if c = ':' then ([], acc.1 :: acc.2) else (c :: acc.1, acc.2)) ([], [])
  first :: rest

/-- A place of a number that counts in sixties: up to two digits, less than sixty. -/
def isSixtieth (cs : List Char) : Bool :=
  match cs with
  | [a] => a.isDigit
  | [a, b] => decide ('0' ≤ a ∧ a ≤ '5') && b.isDigit
  | _ => false

/-- Digits that start with no zero. -/
def isLeading (cs : List Char) : Bool :=
  match cs with
  | c :: rest => decide ('1' ≤ c ∧ c ≤ '9') && rest.all isDigitOrGap
  | [] => false

/-- An unsigned integer. -/
def yamlNat? (cs : List Char) : Option Nat :=
  match cs with
  | ['0'] => some 0
  | '0' :: 'b' :: rest =>
    if !rest.isEmpty && rest.all (fun c => c == '0' || c == '1' || c == '_') then
      some (digitsIn 2 rest)
    else none
  | '0' :: 'x' :: rest =>
    if !rest.isEmpty && rest.all (fun c => (hexDigit? c).isSome || c == '_') then
      some (digitsIn 16 rest)
    else none
  | '0' :: rest =>
    if rest.all (fun c => decide ('0' ≤ c ∧ c ≤ '7') || c == '_') then some (digitsIn 8 rest)
    else none
  | _ =>
    match splitColons cs with
    | [digits] => if isLeading digits then some (digitsIn 10 digits) else none
    | first :: places =>
      if isLeading first && places.all isSixtieth then
        some (places.foldl (fun n place => 60 * n + digitsIn 10 place) (digitsIn 10 first))
      else none
    | [] => none

/-- An integer. -/
def yamlInt? (cs : List Char) : Option Int :=
  let (negative, digits) := Text.splitSign cs
  (yamlNat? digits).map (FloatClass.signed negative)

/-- The exponent of a double: nothing, or a letter, a sign and digits. -/
def yamlExponent? (cs : List Char) : Option Int :=
  match cs with
  | [] => some 0
  | c :: sign :: digits =>
    if (c = 'e' ∨ c = 'E') ∧ (sign = '+' ∨ sign = '-') ∧ !digits.isEmpty ∧
        digits.all Char.isDigit then
      some (FloatClass.signed (sign == '-') (digitsIn 10 digits))
    else none
  | _ => none

/-- The magnitude of a double that counts in sixties before its point. -/
def yamlSixties? (cs : List Char) : Option Float :=
  let (front, fraction) := Text.breakAt (· == '.') cs
  match splitColons front with
  | first :: place :: places =>
    let starts := match first with
      | c :: rest => c.isDigit && rest.all isDigitOrGap
      | [] => false
    if starts && (place :: places).all isSixtieth && !fraction.isEmpty &&
        (fraction.drop 1).all isDigitOrGap then
      let whole := (place :: places).foldl (fun n p => 60 * n + digitsIn 10 p) (digitsIn 10 first)
      let tail := (fraction.drop 1).filter Char.isDigit
      some (Text.decimalFloat (whole * Nat.pow 10 tail.length + digitsIn 10 tail) (-tail.length))
    else none
  | _ => none

/-- The magnitude of a double. Without a digit in front of the point there has to be one
    behind it, and no sign. -/
def yamlMagnitude? (signless : Bool) (cs : List Char) : Option Float :=
  let (whole, rest) := Text.breakAt (· == '.') cs
  match rest with
  | '.' :: behind =>
    let fraction := behind.takeWhile isDigitOrGap
    let opening :=
      match whole with
      | c :: more => c.isDigit && more.all isDigitOrGap
      | [] => signless && (fraction.head?.map Char.isDigit).getD false
    if opening then do
      let exponent ← yamlExponent? (behind.dropWhile isDigitOrGap)
      let tail := fraction.filter Char.isDigit
      return Text.decimalFloat (digitsIn 10 (whole ++ tail)) (exponent - tail.length)
    else none
  | _ => none

/-- A double. -/
def yamlFloat? (cs : List Char) : Option Float :=
  let (negative, magnitude) := Text.splitSign cs
  let signless := cs.length == magnitude.length
  let word := String.ofList magnitude
  let signed (x : Float) : Float := if negative then -x else x
  if [".inf", ".Inf", ".INF"].contains word then some (signed (1.0 / 0.0))
  else if signless && [".nan", ".NaN", ".NAN"].contains word then some (0.0 / 0.0)
  else ((yamlMagnitude? signless magnitude).or (yamlSixties? magnitude)).map signed

/-- Between `low` and `high` digits in front of a text, and the rest. -/
def countedDigits? (low high : Nat) (cs : List Char) : Option (Nat × List Char) :=
  let digits := (cs.takeWhile Char.isDigit).take high
  if digits.length < low then none else some (digitsIn 10 digits, cs.drop digits.length)

/-- What follows a given character. -/
def after? (c : Char) : List Char → Option (List Char)
  | d :: rest => if d = c then some rest else none
  | [] => none

/-- The hour of a time zone: `Z`, or a sign, an hour and perhaps minutes. -/
def isZone (cs : List Char) : Bool :=
  match cs.dropWhile fun c => c == ' ' || c == '\t' with
  | [] => cs.isEmpty
  | ['Z'] => true
  | sign :: rest =>
    (sign == '+' || sign == '-') &&
      match countedDigits? 1 2 rest with
      | some (_, []) => true
      | some (_, ':' :: rest) => (countedDigits? 2 2 rest).any (·.2.isEmpty)
      | _ => false

/-- Whether a text is a time of day with an optional fraction and zone. -/
def isTimeOfDay (cs : List Char) : Bool :=
  (do
    let (_, rest) ← countedDigits? 1 2 cs
    let (_, rest) ← countedDigits? 2 2 (← after? ':' rest)
    let (_, rest) ← countedDigits? 2 2 (← after? ':' rest)
    let rest := match rest with
      | '.' :: rest => rest.dropWhile Char.isDigit
      | rest => rest
    return isZone rest : Option Bool).getD false

/-- Whether what follows a date is a time. -/
def isTimePart (cs : List Char) : Bool :=
  match cs with
  | 'T' :: rest => isTimeOfDay rest
  | 't' :: rest => isTimeOfDay rest
  | ' ' :: _ => isTimeOfDay (cs.dropWhile (· == ' '))
  | _ => false

/-- The year, month and day of a date or moment. A date alone has two digits for the month and
    for the day. -/
def yamlDate? (cs : List Char) : Option (Nat × Nat × Nat) := do
  let (year, rest) ← countedDigits? 4 4 cs
  let (month, afterMonth) ← countedDigits? 1 2 (← after? '-' rest)
  let (day, rest) ← countedDigits? 1 2 (← after? '-' afterMonth)
  if isTimePart rest || (rest.isEmpty && cs.length = 10) then some (year, month, day) else none

/-- The days of a month. -/
def daysOf (year month : Nat) : Nat :=
  let leap := year % 4 = 0 ∧ (year % 100 ≠ 0 ∨ year % 400 = 0)
  if month = 2 then (if leap then 29 else 28)
  else if [4, 6, 9, 11].contains month then 30 else 31

/-- Whether there is such a date. -/
def isDate (year month day : Nat) : Bool :=
  1 ≤ year && 1 ≤ month && month ≤ 12 && 1 ≤ day && day ≤ daysOf year month

/-- What a plain word means. A date that there is not makes no sense, and nothing is known
    that a lone `=` could mean. -/
def yamlScalar (s : String) : Outcome Value :=
  let cs := s.toList
  if yamlNulls.contains s then .ok .null
  else
    match yamlSwitches.find? (·.1 == s) with
    | some (_, b) => .ok (.bool b)
    | none =>
      match yamlInt? cs with
      | some n => .ok (.int n)
      | none =>
        match yamlFloat? cs with
        | some x => .ok (.float x)
        | none =>
          match yamlDate? cs with
          | some (year, month, day) =>
            if isDate year month day then .ok (.foreign s) else .error .wrongValue
          | none => if s = "=" then .error .notYaml else .ok (.str s)

end CompletionStream.Document
