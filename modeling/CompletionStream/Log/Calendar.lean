/-!
# Calendar — the date and time of a moment

A moment is a number of seconds since the start of 1970 in universal time, negative before
it. Dates are those of the Gregorian calendar, extended to all years. Years are counted here
from the first of March, so that the day that leap years add is a year's last.
-/

namespace CompletionStream.Log

/-- A date, with month and day counted from one. -/
structure Date where
  year : Int
  month : Nat
  day : Nat
  deriving DecidableEq, Repr

/-- The days of the months from March to January; February takes what is left of the year. -/
def monthLengths : List Nat :=
  [31, 30, 31, 30, 31, 31, 30, 31, 30, 31, 31]

/-- The month, counted from March as zero, and the day in it, counted from zero, of a day of
    a year. -/
def monthAndDay : List Nat → Nat → Nat × Nat
  | [], day => (0, day)
  | length :: rest, day =>
    if day < length then (0, day)
    else
      let (month, day) := monthAndDay rest (day - length)
      (month + 1, day)

namespace Date

/-- The date of a day, counted from the first of January 1970. Four hundred years have 146097
    days, a century of them 36524 and four years of a century 1461; the last of four such
    centuries and the last of four such years have one day more. -/
def ofDay (day : Int) : Date :=
  let since : Int := day + 719468
  let era : Int := since.fdiv 146097
  let rest : Nat := (since.fmod 146097).toNat
  let century := min 3 (rest / 36524)
  let rest := rest - century * 36524
  let four := rest / 1461
  let rest := rest - four * 1461
  let single := min 3 (rest / 365)
  let rest := rest - single * 365
  let (month, day) := monthAndDay monthLengths rest
  let year : Int := era * 400 + (century * 100 + four * 4 + single : Nat)
  if month < 10 then ⟨year, month + 3, day + 1⟩ else ⟨year + 1, month - 9, day + 1⟩

end Date

/-- A number with at least `count` digits. -/
def padded (count : Nat) (n : Nat) : String :=
  let digits := toString n
  String.ofList (List.replicate (count - digits.length) '0') ++ digits

/-- The date and time of a moment, down to the second. -/
def momentText (seconds : Int) : String :=
  let date := Date.ofDay (seconds.fdiv 86400)
  let clock := (seconds.fmod 86400).toNat
  toString date.year ++ "-" ++ padded 2 date.month ++ "-" ++ padded 2 date.day ++ " " ++
    padded 2 (clock / 3600) ++ ":" ++ padded 2 (clock / 60 % 60) ++ ":" ++ padded 2 (clock % 60)

end CompletionStream.Log
