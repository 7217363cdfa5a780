import SqlProgram.Text.Hex
import SqlProgram.Text.Utf8

/-!
Universally unique identifiers: sixteen bytes, written as groups of hexadecimal digits.
-/

namespace SqlProgram

inductive Uuid.Fault where
  | length (bytes : Nat)
  | character (c : Char) (offset : Nat)
  | groupCount (found : Nat)
  | groupLength (group expected found : Nat)

structure Uuid where
  bytes : List UInt8
  length_bytes : bytes.length = 16

namespace Uuid

def Fault.message : Fault → String
  | .length bytes => s!"invalid length: found {bytes}"
  | .character c offset => s!"invalid character: found `{c}` at {offset}"
  | .groupCount found => s!"invalid group count: expected 5, found {found}"
  | .groupLength group expected found =>
    s!"invalid group length in group {group}: expected {expected}, found {found}"

def ofBytes? (bytes : List UInt8) : Option Uuid :=
  if h : bytes.length = 16 then some ⟨bytes, h⟩ else none

/-- Groups of four, two, two, two and six bytes with hyphens between them. -/
def chars (uuid : Uuid) : List Char :=
  let digits := Text.Hex.encode uuid.bytes
  digits.take 8 ++ '-' :: ((digits.drop 8).take 4 ++ '-' :: ((digits.drop 12).take 4 ++ '-' ::
    ((digits.drop 16).take 4 ++ '-' :: digits.drop 20)))

def text (uuid : Uuid) : String := String.ofList uuid.chars

/-- The lengths of the groups of digits, and where each begins. -/
def groupLengths : List Nat := [8, 4, 4, 4, 12]
def groupStarts : List Nat := [0, 9, 14, 19, 24]

def ofHyphenated? (text : List Char) : Option Uuid :=
  let isHyphen (index : Nat) : Bool := index == 8 || index == 13 || index == 18 || index == 23
  if text.length = 36 ∧ text.zipIdx.all (fun (c, index) => (c == '-') == isHyphen index) then
    (Text.Hex.decode? (text.filter (· != '-'))).bind ofBytes?
  else none

def ofSimple? (text : List Char) : Option Uuid := (Text.Hex.decode? text).bind ofBytes?

def inBraces? : List Char → Option (List Char)
  | c :: rest =>
    if c.toNat = 123 ∧ rest.getLast?.map Char.toNat = some 125 then some rest.dropLast else none
  | [] => none

def scheme : List Char := "urn:uuid:".toList

def afterScheme? (text : List Char) : Option (List Char) :=
  if (text.take scheme.length).map Char.toLower = scheme then some (text.drop scheme.length)
  else none

/-- The hyphenated digits of a text of a length that just holds them: alone, in braces or after the
name of the scheme. -/
def hyphenated? (text : String) : Option (List Char) :=
  let chars := text.toList
  match text.utf8ByteSize with
  | 36 => some chars
  | 38 => inBraces? chars
  | 45 => afterScheme? chars
  | _ => none

/-- A part of a text that ought to be digits and hyphens: how far into the text it begins, and
whether it may be bare digits. -/
structure Part where
  chars : List Char
  offset : Nat
  bare : Bool

def partOf (text : String) : Part :=
  let chars := text.toList
  match inBraces? chars, afterScheme? chars with
  | some inner, _ => ⟨inner, 1, false⟩
  | none, some inner => ⟨inner, scheme.length, false⟩
  | none, none => ⟨chars, 0, true⟩

/-- The first character that is neither digit nor hyphen, with its byte offset. -/
def strayCharacter? (offset : Nat) : List Char → Option (Char × Nat)
  | [] => none
  | c :: rest =>
    if c = '-' ∨ (Text.Hex.value? c).isSome then strayCharacter? (offset + c.utf8Size) rest
    else some (c, offset)

def hyphens (text : List Char) : List Nat :=
  (text.zipIdx.filter fun (c, _) => c == '-').map Prod.snd

/-- The first group that ends elsewhere than it should; the last one if all others are right. -/
def wrongGroup (bytes : Nat) (ends : List Nat) : Fault :=
  let groups := (ends.zip groupStarts).zipIdx
  match groups.find? fun ((stop, start), group) => stop != start + groupLengths.getD group 0 with
  | some ((stop, start), group) => .groupLength group (groupLengths.getD group 0) (stop - start)
  | none => .groupLength 4 12 (bytes - 24)

/-- Why a part is no identifier; `bytes` is the length from which its last group is told. -/
def Part.fault (part : Part) (bytes : Nat) : Fault :=
  match strayCharacter? part.offset part.chars with
  | some (c, offset) => .character c offset
  | none =>
    let ends := hyphens part.chars
    if ends.isEmpty && part.bare then .length bytes
    else if ends.length ≠ 4 then .groupCount (ends.length + 1)
    else wrongGroup bytes ends

/-- The identifier that a text writes: bare or hyphenated digits, the latter also in braces or
after the name of the scheme. What is wrong with hyphenated digits is told from their own
beginning, all else from the beginning of the text. -/
def ofText (text : String) : Except Fault Uuid :=
  let bytes := text.utf8ByteSize
  match hyphenated? text with
  | some chars =>
    match ofHyphenated? chars with
    | some uuid => .ok uuid
    | none => .error (Part.fault ⟨chars, 0, false⟩ chars.length)
  | none =>
    match ofSimple? text.toList with
    | some uuid => .ok uuid
    | none =>
      if bytes = 0 ∨ 45 < bytes then .error (.length bytes) else .error ((partOf text).fault bytes)

end Uuid

end SqlProgram
