import SqlProgram.Failure.Basic
import SqlProgram.Text.Blank
import SqlProgram.Text.Fold
import SqlProgram.Text.Quoted

/-!
Names in statements: segments with dots between them, each a plain word or any text in double
quotes. A name can only be built from text that has this form.
-/

namespace SqlProgram

def isWordStart (c : Char) : Bool := c == '_' || c.isAlpha

def isWordPart (c : Char) : Bool := c == '_' || c == '$' || c.isAlphanum

/-- A letter or underscore, then letters, digits, underscores and dollars. -/
def isWord : List Char → Bool
  | [] => false
  | c :: rest => isWordStart c && rest.all isWordPart

def isQuotable (text : List Char) : Bool := !text.isEmpty && text.all fun c => c != '\x00'

inductive Segment where
  | plain (name : String) (word : isWord name.toList)
  | quoted (name : String) (quotable : isQuotable name.toList)
  deriving DecidableEq

namespace Segment

def name : Segment → String
  | .plain name _ => name
  | .quoted name _ => name

/-- The segment as written. -/
def chars : Segment → List Char
  | .plain name _ => name.toList
  | .quoted name _ => Text.Quoted.enclose '"' name.toList

/-- Whether a live column of the given name is meant; plain words ignore case. -/
def names (segment : Segment) (column : String) : Bool :=
  match segment with
  | .plain name _ => Text.sameFolded name column
  | .quoted name _ => name == column

def ofQuoted (name : String) : Except Rejection Segment :=
  if h : isQuotable name.toList then .ok (.quoted name h)
  else if name.toList.isEmpty then .error .emptyQuotedIdentifier
  else .error .nulInIdentifier

/-- Why a text is no plain word: its first character that cannot stand where it does. -/
def wordFault : List Char → Rejection
  | [] => .emptySegment
  | c :: rest =>
    let name := String.ofList (c :: rest)
    if isWordStart c then .segmentCharacter ((rest.find? (!isWordPart ·)).getD c) name
    else .segmentStart name

def ofPlain (name : List Char) : Except Rejection Segment :=
  if h : isWord name then .ok (.plain (String.ofList name) (by simpa using h))
  else .error (wordFault name)

def isStop (c : Char) : Bool := c == '.' || c == '"'

/-- The segment at the beginning of a text, and what follows it. -/
def read : List Char → Except Rejection (Segment × List Char)
  | [] => .error .emptySegment
  | c :: rest =>
    if c = '"' then
      match Text.Quoted.readRest '"' rest with
      | none => .error .unclosedQuotedIdentifier
      | some (name, tail) => (ofQuoted (String.ofList name)).map fun segment => (segment, tail)
    else
      (ofPlain ((c :: rest).takeWhile (!isStop ·))).map fun segment =>
        (segment, (c :: rest).dropWhile (!isStop ·))

theorem read_length_lt {text tail : List Char} {segment : Segment}
    (found : read text = .ok (segment, tail)) : tail.length < text.length := by
  cases text with
  | nil => simp [read] at found
  | cons c rest =>
    simp only [read] at found
    split at found
    · split at found
      · cases found
      next name tail' inner =>
        have shorter := Text.Quoted.readRest_length_lt inner
        cases quoted : ofQuoted (String.ofList name) with
        | error => simp [quoted, Except.map] at found
        | ok =>
          simp only [quoted, Except.map, Except.ok.injEq, Prod.mk.injEq] at found
          simp only [← found.2, List.length_cons]
          omega
    next plain =>
      cases word : ofPlain ((c :: rest).takeWhile (!isStop ·)) with
      | error => simp [word, Except.map] at found
      | ok =>
        simp only [word, Except.map, Except.ok.injEq, Prod.mk.injEq] at found
        rw [← found.2]
        by_cases stop : isStop c
        · simp [stop, ofPlain, isWord] at word
        · have shorter := (List.dropWhile_suffix (!isStop ·) (l := rest)).length_le
          simp only [List.dropWhile_cons, stop, Bool.not_false, if_true, List.length_cons]
          omega

end Segment

structure Ident where
  qualifiers : List Segment
  last : Segment
  deriving DecidableEq

namespace Ident

def segments (ident : Ident) : List Segment := ident.qualifiers ++ [ident.last]

def chars (ident : Ident) : List Char :=
  ident.qualifiers.foldr (fun segment rest => segment.chars ++ '.' :: rest) ident.last.chars

def text (ident : Ident) : String := String.ofList ident.chars

def names (ident : Ident) (column : String) : Bool := ident.last.names column

def ofSegment (segment : Segment) : Ident := ⟨[], segment⟩

def quoted (name : String) : Except Rejection Ident := (Segment.ofQuoted name).map ofSegment

/-- The segments of a text with dots between them; `whole` is the text in messages. -/
def read (whole : String) (text : List Char) : Except Rejection (List Segment × Segment) :=
  match _found : Segment.read text with
  | .error rejection => .error rejection
  | .ok (segment, []) => .ok ([], segment)
  | .ok (segment, c :: rest) =>
    if c = '.' then
      if rest.isEmpty then .error (.trailingDot whole)
      else (read whole rest).map fun (qualifiers, last) => (segment :: qualifiers, last)
    else .error (.textAfterSegment whole)
termination_by text.length
decreasing_by
  have shorter := Segment.read_length_lt _found
  simp only [List.length_cons] at shorter
  omega

def parse (text : String) : Except Rejection Ident :=
  if Text.isBlankText text then .error .blankIdentifier
  else if text.toList.any (· == '\x00') then .error .nulInIdentifier
  else (read text text.toList).map fun (qualifiers, last) => ⟨qualifiers, last⟩

def qualifier? (ident : Ident) : Option Ident :=
  match ident.qualifiers.getLast? with
  | none => none
  | some last => some ⟨ident.qualifiers.dropLast, last⟩

end Ident

end SqlProgram
