import SqlProgram.Decimal.Reader
import SqlProgram.Text.Hex

/-!
Internet addresses as text: four decimal numbers, or eight hexadecimal words of which one run of
zeros may be left out and the last two may be written as four decimal numbers.
-/

namespace SqlProgram.Postgres.Address

def splitAt (mark : Char) : List Char → List (List Char)
  | [] => [[]]
  | c :: rest =>
    if c = mark then [] :: splitAt mark rest
    else match splitAt mark rest with
      | [] => [[c]]
      | first :: later => (c :: first) :: later

/-- A number of one byte, without needless zeros. -/
def isByte (digits : List Char) : Bool :=
  !digits.isEmpty && digits.length ≤ 3 && digits.all Char.isDigit &&
    (digits.length = 1 || digits.head? != some '0') && Decimal.ofDigits digits ≤ 255

def isFourth (text : List Char) : Bool :=
  let parts := splitAt '.' text
  parts.length = 4 && parts.all isByte

def isWord (digits : List Char) : Bool :=
  !digits.isEmpty && digits.length ≤ 4 && digits.all fun c => (Text.Hex.value? c).isSome

/-- How many words the parts stand for, if each is one; the last may be four decimal numbers. -/
def countWords? : List (List Char) → Option Nat
  | [] => some 0
  | [last] => if isWord last then some 1 else if isFourth last then some 2 else none
  | part :: rest => if isWord part then (countWords? rest).map (· + 1) else none

def splitGap? : List Char → Option (List Char × List Char)
  | ':' :: ':' :: rest => some ([], rest)
  | c :: rest => (splitGap? rest).map fun (before, after) => (c :: before, after)
  | [] => none

/-- The parts of a side of a gap; an empty side has none. -/
def sideParts (text : List Char) : List (List Char) := if text.isEmpty then [] else splitAt ':' text

/-- Eight words, or fewer with a gap. -/
def isSixth (text : List Char) : Bool :=
  match splitGap? text with
  | none => countWords? (splitAt ':' text) == some 8
  | some (before, after) =>
    let before := sideParts before
    match before.all isWord, countWords? (sideParts after) with
    | true, some count => before.length + count ≤ 7
    | _, _ => false

def isAddress (text : List Char) : Bool := isFourth text || isSixth text

end SqlProgram.Postgres.Address
