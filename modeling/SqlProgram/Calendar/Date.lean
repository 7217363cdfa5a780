import SqlProgram.Decimal.Reader

/-!
Days of the proleptic Gregorian calendar, from the year -262143 to the year 262142. A date is kept
as its distance from the first of January 2000, the day from which the wire counts.
-/

namespace SqlProgram.Calendar

/-- The day of a civil date, counted from 2000-01-01. Years are taken to begin in March, so that a
leap day comes last, and run in cycles of four hundred. -/
def dayOfCivil (year : Int) (month day : Nat) : Int :=
  let year := if month ≤ 2 then year - 1 else year
  let cycle := year.fdiv 400
  let yearOfCycle := year.fmod 400
  let dayOfYear : Int := (153 * ((month + 9) % 12) + 2) / 5 + day - 1
  let dayOfCycle := yearOfCycle * 365 + yearOfCycle / 4 - yearOfCycle / 100 + dayOfYear
  cycle * 146097 + dayOfCycle - 730425

def civilOfDay (day : Int) : Int × Nat × Nat :=
  let shifted := day + 730425
  let cycle := shifted.fdiv 146097
  let dayOfCycle := (shifted.fmod 146097).toNat
  let yearOfCycle :=
    (dayOfCycle - dayOfCycle / 1460 + dayOfCycle / 36524 - dayOfCycle / 146096) / 365
  let dayOfYear := dayOfCycle - (365 * yearOfCycle + yearOfCycle / 4 - yearOfCycle / 100)
  let marchMonth := (5 * dayOfYear + 2) / 153
  let month := if marchMonth < 10 then marchMonth + 3 else marchMonth - 9
  let year := cycle * 400 + yearOfCycle + if month ≤ 2 then 1 else 0
  (year, month, dayOfYear - (153 * marchMonth + 2) / 5 + 1)

def firstDay : Int := dayOfCivil (-262143) 1 1
def lastDay : Int := dayOfCivil 262142 12 31

/-- A day of the calendar, counted from 2000-01-01. -/
structure Date where
  day : Int
  inCalendar : firstDay ≤ day ∧ day ≤ lastDay
  deriving DecidableEq

namespace Date

/-- The day so many days after 2000-01-01, if the calendar reaches that far. -/
def ofDay? (day : Int) : Option Date :=
  if h : firstDay ≤ day ∧ day ≤ lastDay then some ⟨day, h⟩ else none

def ofCivil? (year : Int) (month day : Nat) : Option Date :=
  let count := dayOfCivil year month day
  if civilOfDay count = (year, month, day) then ofDay? count else none

def padded (width number : Nat) : List Char :=
  let digits := Nat.toDigits 10 number
  List.replicate (width - digits.length) '0' ++ digits

/-- Years of four digits stand alone; all others carry a sign. -/
def yearText (year : Int) : List Char :=
  if 0 ≤ year ∧ year ≤ 9999 then padded 4 year.natAbs
  else (if year < 0 then '-' else '+') :: padded 4 year.natAbs

def chars (date : Date) : List Char :=
  let (year, month, day) := civilOfDay date.day
  yearText year ++ '-' :: (padded 2 month ++ '-' :: padded 2 day)

def text (date : Date) : String := String.ofList date.chars

def readDigits? (text : List Char) : Option (Nat × List Char) :=
  let digits := text.takeWhile Char.isDigit
  if digits.isEmpty then none else some (Decimal.ofDigits digits, text.dropWhile Char.isDigit)

def read? (text : List Char) : Option (Date × List Char) :=
  let (negative, body) := Decimal.splitSign text
  match readDigits? body with
  | some (year, '-' :: rest) =>
    match readDigits? rest with
    | some (month, '-' :: rest) =>
      match readDigits? rest with
      | some (day, rest) =>
        (ofCivil? (if negative then -year else year) month day).map fun date => (date, rest)
      | none => none
    | _ => none
  | _ => none

def ofText? (text : String) : Option Date :=
  match read? text.toList with
  | some (date, []) => some date
  | _ => none

end Date

end SqlProgram.Calendar
