/-!
# Moments

A moment is written as date and time of day in the Gregorian calendar at Greenwich. The fraction of
the second has three, six or nine digits, the fewest that lose nothing, and is left out where it is
zero.
-/

namespace Stratalog

/-- Time since the beginning of 1970. -/
structure Moment where
  seconds : Nat
  nanoseconds : Nat := 0
  deriving DecidableEq, Repr, Inhabited

namespace Moment

/-- A number with zeros before it up to a width. -/
def digits (width n : Nat) : String :=
  let text := toString n
  "".pushn '0' (width - text.length) ++ text

/-- Year, month and day of a day counted from the beginning of 1970. The count is moved to a first
of March, from where the lengths of months follow one linear rule and a leap day ends its year. -/
def date (day : Nat) : Nat × Nat × Nat :=
  let shifted := day + 719468
  let era := shifted / 146097
  let dayOfEra := shifted % 146097
  let yearOfEra := (dayOfEra - dayOfEra / 1460 + dayOfEra / 36524 - dayOfEra / 146096) / 365
  let dayOfYear := dayOfEra - (365 * yearOfEra + yearOfEra / 4 - yearOfEra / 100)
  let march := (5 * dayOfYear + 2) / 153
  let month := if march < 10 then march + 3 else march - 9
  (yearOfEra + era * 400 + (if month ≤ 2 then 1 else 0), month,
    dayOfYear - (153 * march + 2) / 5 + 1)

/-- A fraction of a second. -/
def fraction (nanoseconds : Nat) : String :=
  if nanoseconds = 0 then ""
  else if nanoseconds % 1000000 = 0 then "." ++ digits 3 (nanoseconds / 1000000)
  else if nanoseconds % 1000 = 0 then "." ++ digits 6 (nanoseconds / 1000)
  else "." ++ digits 9 nanoseconds

/-- The written form of a moment. -/
def text (moment : Moment) : String :=
  let (year, month, day) := date (moment.seconds / 86400)
  let second := moment.seconds % 86400
  digits 4 year ++ "-" ++ digits 2 month ++ "-" ++ digits 2 day ++ "T" ++
    digits 2 (second / 3600) ++ ":" ++ digits 2 (second / 60 % 60) ++ ":" ++
    digits 2 (second % 60) ++ fraction moment.nanoseconds ++ "+00:00"

example : date 0 = (1970, 1, 1) ∧ date 11016 = (2000, 2, 29) ∧ date 19722 = (2023, 12, 31) := by
  decide

end Moment

end Stratalog
