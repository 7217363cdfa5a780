import SqlProgram.Calendar.Date

/-!
Moments of a day, to the nanosecond, without a time zone. The wire counts microseconds from the
beginning of the year 2000.
-/

namespace SqlProgram.Calendar

/-- A second of a day and the nanoseconds into it; those past a full second make a leap second. -/
structure Timestamp where
  date : Date
  second : Nat
  nano : Nat
  second_lt : second < 86400
  nano_lt : nano < 2000000000
  deriving DecidableEq

namespace Timestamp

/-- Nanoseconds since the beginning of the year 2000. -/
def nanos (timestamp : Timestamp) : Int :=
  (timestamp.date.day * 86400 + timestamp.second) * 1000000000 + timestamp.nano

/-- Whole microseconds since the beginning of the year 2000, rounded toward it. -/
def micros (timestamp : Timestamp) : Int := timestamp.nanos.tdiv 1000

def ofMicros? (micros : Int) : Option Timestamp :=
  let day := micros.fdiv 86400000000
  let rest := (micros.fmod 86400000000).toNat
  match Date.ofDay? day with
  | none => none
  | some date =>
    if h : rest / 1000000 < 86400 then
      some ⟨date, rest / 1000000, rest % 1000000 * 1000, h, by omega⟩
    else none

/-- No digits, or three, six or nine of them: the fewest that are exact. -/
def fraction (nano : Nat) : List Char :=
  if nano = 0 then []
  else if nano % 1000000 = 0 then '.' :: Date.padded 3 (nano / 1000000)
  else if nano % 1000 = 0 then '.' :: Date.padded 6 (nano / 1000)
  else '.' :: Date.padded 9 nano

/-- Date and time of day with the given separator; a leap second is the sixtieth. -/
def chars (separator : Char) (timestamp : Timestamp) : List Char :=
  let leap := timestamp.nano / 1000000000
  let second := timestamp.second
  timestamp.date.chars ++ separator ::
    (Date.padded 2 (second / 3600) ++ ':' :: (Date.padded 2 (second / 60 % 60) ++ ':' ::
      (Date.padded 2 (second % 60 + leap) ++ fraction (timestamp.nano % 1000000000))))

/-- The form used inside statements. -/
def text (timestamp : Timestamp) : String := String.ofList (timestamp.chars ' ')

def isoText (timestamp : Timestamp) : String := String.ofList (timestamp.chars 'T')

/-- The moment of the given numbers, if they name one; a sixtieth second is a leap second. -/
def ofTime? (date : Date) (hour minute second nano : Nat) : Option Timestamp :=
  let leap := if second = 60 then 1 else 0
  let count := hour * 3600 + minute * 60 + (second - leap)
  if h : hour < 24 ∧ minute < 60 ∧ second ≤ 60 ∧ nano < 1000000000 ∧ count < 86400 ∧ leap ≤ 1 then
    some ⟨date, count, nano + leap * 1000000000, h.2.2.2.2.1, by
      have small := h.2.2.2.1
      have once := h.2.2.2.2.2
      omega⟩
  else none

def afterMark? (mark : Char) : List Char → Option (List Char)
  | [] => none
  | c :: rest => if c = mark then some rest else none

/-- The digits of a fraction of a second as nanoseconds; what is smaller than one is dropped. -/
def readNano? : List Char → Option Nat
  | [] => some 0
  | '.' :: digits =>
    let counted := digits.take 9
    if digits.isEmpty || !digits.all Char.isDigit then none
    else some (Decimal.ofDigits counted * Nat.pow 10 (9 - counted.length))
  | _ => none

def ofText? (text : String) : Option Timestamp := do
  let (date, rest) ← Date.read? text.toList
  let (hour, rest) ← Date.readDigits? (← afterMark? 'T' rest)
  let (minute, rest) ← Date.readDigits? (← afterMark? ':' rest)
  let (second, rest) ← Date.readDigits? (← afterMark? ':' rest)
  ofTime? date hour minute second (← readNano? rest)

end Timestamp

end SqlProgram.Calendar
