import CompletionStream.Text.Class
import CompletionStream.Value

/-!
# Numbers in text — two readers of integers and one of decimals

A run of digits may hold single underscores between its digits. The lenient reader of integers
takes the digits of any script; the reader for fields takes ASCII digits, and a fraction as
long as it is zero. Both stop at 4300 digits.
-/

namespace CompletionStream.Text

/-- Digits with single underscores between them; at least one digit. -/
def digitRun? (digit : Char → Option Nat) : List Char → Option (List Nat)
  | [] => none
  | [c] => (digit c).map ([·])
  | c :: '_' :: rest => do
    let d ← digit c
    let ds ← digitRun? digit rest
    return d :: ds
  | c :: rest => do
    let d ← digit c
    let ds ← digitRun? digit rest
    return d :: ds

/-- The number that decimal digits write. -/
def ofDigits (ds : List Nat) : Nat :=
  ds.foldl (fun n d => 10 * n + d) 0

/-- Splits a sign off. -/
def splitSign : List Char → Bool × List Char
  | '-' :: cs => (true, cs)
  | '+' :: cs => (false, cs)
  | cs => (false, cs)

/-- The most digits an integer may be written with. -/
def maxDigits : Nat := 4300

/-- The lenient reader of integers. -/
def lenientInt? (s : String) : Option Int := do
  let (negative, cs) := splitSign (trim isSpace s.toList)
  let ds ← digitRun? digitValue? cs
  if maxDigits < ds.length then none
  else some (FloatClass.signed negative (ofDigits ds))

/-- Drops a fraction that is a point and one or more zeros, if the text ends in one. -/
def dropZeroFraction (cs : List Char) : List Char :=
  let rest := cs.reverse.dropWhile (· == '0')
  match rest with
  | '.' :: front => if rest.length < cs.length then front.reverse else cs
  | _ => cs

/-- Why a field's text is no integer. -/
inductive IntProblem where
  | unreadable
  | tooLong

/-- The reader of integers for fields. -/
def fieldInt (s : String) : Except IntProblem Int :=
  let cs := trim isSpace s.toList
  if maxDigits < (String.ofList cs).utf8ByteSize then .error .tooLong
  else
    let (negative, digits) := splitSign cs
    match digitRun? asciiDigit? (dropZeroFraction digits) with
    | some ds => .ok (FloatClass.signed negative (ofDigits ds))
    | none => .error .unreadable

/-- The double nearest to `digits * 10 ^ exponent`. Powers that lie beyond all doubles are
    decided by their size alone. -/
def decimalFloat (digits : Nat) (exponent : Int) : Float :=
  let size : Int := (Nat.toDigits 10 digits).length + exponent
  if digits = 0 ∨ size < -400 then 0.0
  else if 400 < size then Float.ofScientific 1 false 400
  else if 0 ≤ exponent then Float.ofScientific digits false exponent.toNat
  else Float.ofScientific digits true (-exponent).toNat

/-- Splits a text before the first character of a kind. -/
def breakAt (stop : Char → Bool) (cs : List Char) : List Char × List Char :=
  (cs.takeWhile (!stop ·), cs.dropWhile (!stop ·))

/-- A possibly empty run of digits. -/
def optionalRun? : List Char → Option (List Nat)
  | [] => some []
  | cs => digitRun? asciiDigit? cs

/-- The exponent behind its letter, zero when there is no letter. -/
def exponentOf? : List Char → Option Int
  | [] => some 0
  | _ :: cs => do
    let (negative, digits) := splitSign cs
    let ds ← digitRun? asciiDigit? digits
    return FloatClass.signed negative (ofDigits ds)

/-- An unsigned decimal: digits, a point and digits, either of which may be absent but not
    both, and an exponent. -/
def decimal? (cs : List Char) : Option Float := do
  let (mantissa, power) := breakAt (fun c => c == 'e' || c == 'E') cs
  let (whole, fraction) := breakAt (· == '.') mantissa
  let wholeDigits ← optionalRun? whole
  let fractionDigits ← optionalRun? (fraction.drop 1)
  let exponent ← exponentOf? power
  if wholeDigits.isEmpty ∧ fractionDigits.isEmpty then none
  else
    let digits := ofDigits (wholeDigits ++ fractionDigits)
    some (decimalFloat digits (exponent - fractionDigits.length))

/-- The reader of decimals for fields, which also knows infinities and NaN by name. -/
def fieldFloat? (s : String) : Option Float := do
  let (negative, cs) := splitSign (trim isSpace s.toList)
  let name := String.ofList (cs.map Char.toLower)
  let magnitude ←
    if name = "inf" ∨ name = "infinity" then some (1.0 / 0.0)
    else if name = "nan" then some (0.0 / 0.0)
    else decimal? cs
  return if negative then -magnitude else magnitude

end CompletionStream.Text
