import CompletionStream.Decimal.Shortest

/-!
# Notation — how a decimal is spelled

Three spellings of a double: the default one, with the fewest digits that read back
(`0.1`, `1e+16`, `1e-05`), and the two with a given number of digits, positional and
scientific. A given number of digits is reached by rounding the exact value to nearest, a
half going to the even neighbour.
-/

namespace CompletionStream

namespace Decimal

/-- The natural nearest to a quotient; a half goes to the even neighbour. -/
def roundDiv (num den : Nat) : Nat :=
  let q := num / den
  let r := num % den
  if 2 * r < den then q
  else if den < 2 * r then q + 1
  else if q % 2 = 0 then q
  else q + 1

/-- Fills digits up with zeros in front. -/
def padZeros (count : Nat) (digits : List Char) : List Char :=
  List.replicate (count - digits.length) '0' ++ digits

/-- An exponent has a sign and at least two digits. -/
def exponentText (e : Int) : List Char :=
  (if e < 0 then '-' else '+') :: padZeros 2 (digitsOf e.natAbs)

/-- Digits with the point after the first one, followed by the exponent. -/
def scientific (digits : List Char) (exponent : Int) : List Char :=
  match digits with
  | [] => []
  | [d] => d :: 'e' :: exponentText exponent
  | d :: rest => d :: '.' :: rest ++ 'e' :: exponentText exponent

/-- Digits with the point after the first `point` of them, filled up with zeros. -/
def positional (digits : List Char) (point : Int) : List Char :=
  if point ≤ 0 then '0' :: '.' :: List.replicate (-point).toNat '0' ++ digits
  else
    let whole := digits.take point.toNat
    let fraction := digits.drop point.toNat
    whole ++ List.replicate (point.toNat - whole.length) '0' ++ '.' ::
      (if fraction.isEmpty then ['0'] else fraction)

/-- The default spelling of a magnitude: positional from `1e-4` up to below `1e16`,
    scientific elsewhere; a whole number keeps `.0`. -/
def default (mantissa : Nat) (exponent : Int) : List Char :=
  let d := shortest mantissa exponent
  let digits := digitsOf d.digits
  let point : Int := digits.length + d.exponent
  if d.digits = 0 then ['0', '.', '0']
  else if -4 < point ∧ point ≤ 16 then positional digits point
  else scientific digits (point - 1)

/-- The magnitude as numerator and denominator. -/
def ratio (mantissa : Nat) (exponent : Int) : Nat × Nat :=
  let (up, down) := twoPower exponent
  (mantissa * up, down)

/-- The magnitude rounded to `places` digits behind the point. -/
def fixed (mantissa : Nat) (exponent : Int) (places : Nat) : List Char :=
  let (num, den) := ratio mantissa exponent
  let digits := padZeros (places + 1) (digitsOf (roundDiv (num * Nat.pow 10 places) den))
  let whole := digits.take (digits.length - places)
  let fraction := digits.drop (digits.length - places)
  if places = 0 then whole else whole ++ '.' :: fraction

/-- The magnitude rounded to `count` significant digits, and the exponent of the first. -/
def significant (mantissa : Nat) (exponent : Int) (count : Nat) : List Char × Int :=
  if mantissa = 0 then (List.replicate count '0', 0)
  else
    let (num, den) := ratio mantissa exponent
    let p := magnitude num den
    let (up, down) := tenPower ((count : Int) - p)
    let rounded := roundDiv (num * up) (den * down)
    let digits := digitsOf rounded
    if digits.length = count then (digits, p - 1) else (digits.take count, p)

/-- The scientific spelling with `places` digits behind the point. -/
def exponential (mantissa : Nat) (exponent : Int) (places : Nat) : List Char :=
  let (digits, e) := significant mantissa exponent (places + 1)
  scientific digits e

/-- Puts a point behind the digits of a spelling that has none. -/
def withPoint (cs : List Char) : List Char :=
  if cs.contains '.' then cs
  else cs.takeWhile (· ≠ 'e') ++ '.' :: cs.dropWhile (· ≠ 'e')

/-- Drops final zeros of a fraction, and the point when nothing remains behind it. -/
def dropZeros (digits : List Char) : List Char :=
  ((digits.reverse.dropWhile (· == '0')).dropWhile (· == '.')).reverse

/-- The general spelling with `count` significant digits: scientific for exponents below
    `-4` or from `count` on, without final zeros unless `keep` asks for them. -/
def general (mantissa : Nat) (exponent : Int) (count : Nat) (keep : Bool) : List Char :=
  let count := max count 1
  let (digits, e) := significant mantissa exponent count
  if e < -4 ∨ (count : Int) ≤ e then
    match digits with
    | [] => []
    | d :: rest =>
      let rest := if keep then rest else (rest.reverse.dropWhile (· == '0')).reverse
      if rest.isEmpty then d :: (if keep then ['.'] else []) ++ 'e' :: exponentText e
      else d :: '.' :: rest ++ 'e' :: exponentText e
  else
    let point := (e + 1)
    let text :=
      if point ≤ 0 then '0' :: '.' :: List.replicate (-point).toNat '0' ++ digits
      else digits.take point.toNat ++ '.' :: digits.drop point.toNat
    if keep then text else dropZeros text

end Decimal

/-- How infinities and NaN are written. -/
structure NonFinite where
  nan : String
  infinity : String

/-- Lower-case names, as in printed values. -/
def NonFinite.printed : NonFinite := ⟨"nan", "inf"⟩

/-- Capitalised names, as in documents. -/
def NonFinite.document : NonFinite := ⟨"NaN", "Infinity"⟩

/-- The text of a double, its magnitude spelled by `spell`. -/
def floatTextWith (names : NonFinite) (spell : Nat → Int → List Char) (x : Float) : String :=
  match FloatClass.ofFloat x with
  | .nan => names.nan
  | .infinite negative => if negative then "-" ++ names.infinity else names.infinity
  | .finite negative mantissa exponent =>
    String.ofList (if negative then '-' :: spell mantissa exponent else spell mantissa exponent)

/-- The default text of a double. -/
def floatText (x : Float) : String :=
  floatTextWith .printed Decimal.default x

end CompletionStream
