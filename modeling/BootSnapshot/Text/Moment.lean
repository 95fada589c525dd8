import BootSnapshot.Decimal.Natural

set_option autoImplicit false

namespace BootSnapshot.Text.Moment

def isLeapYear (year : Nat) : Bool :=
  year % 4 = 0 && (year % 100 ≠ 0 || year % 400 = 0)

def daysInMonth (year month : Nat) : Nat :=
  if month = 2 then if isLeapYear year then 29 else 28
  else if month ∈ [4, 6, 9, 11] then 30
  else 31

def daysInYear (year : Nat) : Nat := if isLeapYear year then 366 else 365

theorem daysInYear_pos (year : Nat) : 0 < daysInYear year := by
  unfold daysInYear
  split <;> decide

def number? (digits : List Char) : Option Nat :=
  if digits.all Char.isDigit then Decimal.readNat? 10 digits else none

def offset? (cs : List Char) : Option Int :=
  match cs with
  | ['Z'] => some 0
  | ['z'] => some 0
  | [sign, h1, h2, ':', m1, m2] =>
    match number? [h1, h2], number? [m1, m2] with
    | some hours, some minutes =>
      if hours ≤ 23 ∧ minutes ≤ 59 then
        if sign = '+' then some (hours * 60 + minutes)
        else if sign = '-' then some (-(hours * 60 + minutes : Int))
        else none
      else none
    | _, _ => none
  | _ => none

/-- What follows a fraction of a second, if there is one. -/
def afterFraction? (cs : List Char) : Option (List Char) :=
  match cs with
  | '.' :: rest =>
    if (rest.takeWhile Char.isDigit).isEmpty then none else some (rest.dropWhile Char.isDigit)
  | _ => some cs

/-- Whether the last minute of a month in universal time is meant. -/
def isLastMinute (year month day minute : Nat) (offset : Int) : Bool :=
  let universal := (minute : Int) - offset
  let last := daysInMonth year month
  if universal < 0 then universal + 1440 = 1439 && day = 1
  else if universal < 1440 then universal = 1439 && day = last
  else universal - 1440 = 1439 && day + 1 = last

/-- Whether the numbers of a time stamp are those of a moment. -/
def isMoment (year month day hour minute second : Nat) (offset : Int) : Bool :=
  1 ≤ month && month ≤ 12 && 1 ≤ day && day ≤ daysInMonth year month &&
    hour ≤ 23 && minute ≤ 59 &&
    (second ≤ 59 || second = 60 && isLastMinute year month day (hour * 60 + minute) offset)

/-- A date, one separating character, a time of day with an optional fraction of a second, and an
offset: `2020-01-31T23:59:00Z`. A sixtieth second is admitted where a leap second can be, in the
last minute of a month in universal time. -/
def isTimeStamp (cs : List Char) : Bool :=
  match cs with
  | y1 :: y2 :: y3 :: y4 :: '-' :: m1 :: m2 :: '-' :: d1 :: d2 :: separator ::
      h1 :: h2 :: ':' :: n1 :: n2 :: ':' :: s1 :: s2 :: rest =>
    match number? [y1, y2, y3, y4], number? [m1, m2], number? [d1, d2], number? [h1, h2],
      number? [n1, n2], number? [s1, s2], (afterFraction? rest).bind offset? with
    | some year, some month, some day, some hour, some minute, some second, some offset =>
      separator.toNat < 128 && isMoment year month day hour minute second offset
    | _, _, _, _, _, _, _ => false
  | _ => false

/-- The year, and the days that have passed in it, so many days after the beginning of a year. -/
def yearAfter (year days : Nat) : Nat × Nat :=
  if _whole : daysInYear year ≤ days then yearAfter (year + 1) (days - daysInYear year)
  else (year, days)
termination_by days
decreasing_by
  have positive := daysInYear_pos year
  omega

/-- The month, and the day of the month, so many days after the beginning of a month. -/
def monthAfter (year month days : Nat) : Nat × Nat :=
  if month < 12 ∧ daysInMonth year month ≤ days then
    monthAfter year (month + 1) (days - daysInMonth year month)
  else (month, days + 1)
termination_by 12 - month

/-- A number with zeros in front up to a count of digits. -/
def padded (count number : Nat) : String :=
  let digits := Decimal.natDigits number
  String.ofList (List.replicate (count - digits.length) '0' ++ digits)

/-- A fraction of a second in three, six or nine digits; none if it is zero. -/
def fractionText (nanoseconds : Nat) : String :=
  if nanoseconds = 0 then ""
  else if nanoseconds % 1000000 = 0 then "." ++ padded 3 (nanoseconds / 1000000)
  else if nanoseconds % 1000 = 0 then "." ++ padded 6 (nanoseconds / 1000)
  else "." ++ padded 9 nanoseconds

/-- The time stamp of the moment so many nanoseconds after the beginning of 1970. -/
def timeStamp (nanoseconds : Nat) : String :=
  let seconds := nanoseconds / 1000000000
  let (year, days) := yearAfter 1970 (seconds / 86400)
  let (month, day) := monthAfter year 1 days
  let ofDay := seconds % 86400
  padded 4 year ++ "-" ++ padded 2 month ++ "-" ++ padded 2 day ++ "T" ++
    padded 2 (ofDay / 3600) ++ ":" ++ padded 2 (ofDay / 60 % 60) ++ ":" ++ padded 2 (ofDay % 60) ++
    fractionText (nanoseconds % 1000000000) ++ "+00:00"

end BootSnapshot.Text.Moment
