/-!
Days of the proleptic Gregorian calendar and times of day. A day is kept as its year and its
number within the year, from 1 on.
-/

namespace EntityQuery

/-- A day, as a year and the number of the day in it. -/
structure Date where
  year : Int
  dayOfYear : Nat
deriving DecidableEq

/-- A time of day, to the nanosecond. -/
structure Time where
  hour : Nat
  minute : Nat
  second : Nat
  nanosecond : Nat
deriving DecidableEq

/-- A day and a time of day, in no particular time zone. -/
structure Timestamp where
  date : Date
  time : Time
deriving DecidableEq

namespace Date

/-- Every fourth year is a leap year, except the full centuries that 400 does not divide. -/
def isLeap (year : Int) : Bool :=
  year % 4 == 0 && (year % 100 != 0 || year % 400 == 0)

/-- The lengths of the twelve months of a year. -/
def monthLengths (year : Int) : List Nat :=
  [31, if isLeap year then 29 else 28, 31, 30, 31, 30, 31, 31, 30, 31, 30, 31]

/-- The day with the given month and day of the month, if the calendar has it. -/
def ofCalendar? (year : Int) (month day : Nat) : Option Date :=
  let lengths := monthLengths year
  if month = 0 ∨ day = 0 then none
  else match lengths[month - 1]? with
    | none => none
    | some length =>
      if day ≤ length then some ⟨year, (lengths.take (month - 1)).foldr (· + ·) day⟩ else none

end Date

/-- The time with the given parts, if there is one. -/
def Time.ofParts? (hour minute second nanosecond : Nat) : Option Time :=
  if hour < 24 ∧ minute < 60 ∧ second < 60 ∧ nanosecond < 1000000000 then
    some ⟨hour, minute, second, nanosecond⟩
  else none

end EntityQuery
