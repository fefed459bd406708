import CompletionStream.Value

/-!
# Shortest decimals — the fewest digits that read back

Between the two neighbours of a double lies an interval of reals that all round to it. The
decimal chosen here is the one with the fewest digits inside that interval, and of those the
one nearest to the double. On a grid of decimals with `n` digits only the two neighbours of
the exact value can be nearest, so it suffices to test those two, for `n = 1, 2, …, 17`.

All arithmetic is on naturals: the value, the ends of its interval and the grid are brought
to one denominator.
-/

namespace CompletionStream

/-- A positive decimal: `digits` times ten to the power `exponent`. -/
structure Decimal where
  digits : Nat
  exponent : Int
  deriving Repr, DecidableEq

namespace Decimal

/-- Moves final zeros of the digits into the exponent, at most `fuel` of them. -/
def trim : Nat → Decimal → Decimal
  | 0, d => d
  | fuel + 1, d =>
    if d.digits % 10 = 0 ∧ d.digits ≠ 0 then trim fuel ⟨d.digits / 10, d.exponent + 1⟩ else d

/-- The decimal digits of a natural, most significant first. -/
def digitsOf (n : Nat) : List Char :=
  Nat.toDigits 10 n

/-- How many decimal digits a natural has. -/
def width (n : Nat) : Nat :=
  (digitsOf n).length

/-- The power of ten, as numerator and denominator. -/
def tenPower (e : Int) : Nat × Nat :=
  if 0 ≤ e then (Nat.pow 10 e.toNat, 1) else (1, Nat.pow 10 (-e).toNat)

/-- The power of two, as numerator and denominator. -/
def twoPower (e : Int) : Nat × Nat :=
  if 0 ≤ e then (Nat.pow 2 e.toNat, 1) else (1, Nat.pow 2 (-e).toNat)

/-- The exponent `p` with `10 ^ (p - 1) ≤ num / den < 10 ^ p`, for a positive quotient. -/
def magnitude (num den : Nat) : Int :=
  let guess : Int := (width num : Int) - width den
  let (up, down) := tenPower guess
  if num * down < den * up then guess else guess + 1

/-- The reals that round to a double, in units of a quarter of its last place. -/
structure Interval where
  low : Nat
  value : Nat
  high : Nat
  closed : Bool

/-- The interval of a double with this mantissa and exponent. Below a power of two the
    doubles lie twice as close, and both ends belong to an even mantissa. -/
def Interval.of (mantissa : Nat) (exponent : Int) : Interval :=
  let boundary := mantissa = Nat.pow 2 52 ∧ exponent ≠ -1074
  { low := 4 * mantissa - (if boundary then 1 else 2)
    value := 4 * mantissa
    high := 4 * mantissa + 2
    closed := mantissa % 2 == 0 }

/-- The point with `n` digits, of the two next to the value, that lies in the interval and
    nearer to the value. `up / down` is a quarter of the last place. -/
def candidate? (interval : Interval) (up down : Nat) (p : Int) (n : Nat) : Option Decimal :=
  let exponent := p - n
  let (gridUp, gridDown) := tenPower exponent
  let scale := up * gridDown
  let unit := down * gridUp
  let value := interval.value * scale
  let below := value / unit
  let inside (c : Nat) : Bool :=
    if interval.closed then interval.low * scale ≤ c * unit ∧ c * unit ≤ interval.high * scale
    else interval.low * scale < c * unit ∧ c * unit < interval.high * scale
  let above := below + 1
  let remainder := value - below * unit
  match inside below, inside above with
  | false, false => none
  | true, false => some ⟨below, exponent⟩
  | false, true => some ⟨above, exponent⟩
  | true, true =>
    if 2 * remainder < unit then some ⟨below, exponent⟩
    else if unit < 2 * remainder then some ⟨above, exponent⟩
    else if below % 2 = 0 then some ⟨below, exponent⟩
    else some ⟨above, exponent⟩

/-- The shortest decimal of a finite double; zero has the digit zero. -/
def shortest (mantissa : Nat) (exponent : Int) : Decimal :=
  if mantissa = 0 then ⟨0, 0⟩
  else
    let interval := Interval.of mantissa exponent
    let (up, down) := twoPower (exponent - 2)
    let p := magnitude (interval.value * up) down
    let found := (List.range 17).findSome? fun n => candidate? interval up down p (n + 1)
    trim 17 (found.getD ⟨mantissa, 0⟩)

end Decimal

end CompletionStream
