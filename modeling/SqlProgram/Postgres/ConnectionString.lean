import SqlProgram.Postgres.Address
import SqlProgram.Text.Blank
import SqlProgram.Text.Utf8

/-!
Connection strings: where a database is and how to connect to it, as settings with an equals sign
each or as a URL.
-/

namespace SqlProgram.Postgres

structure Setting where
  key : String
  value : String
  deriving DecidableEq

namespace Setting

def isSigned64 (text : List Char) : Bool :=
  (Decimal.readSigned? Int64.minValue.toInt Int64.maxValue.toInt text).isSome

def isUnsigned (bits : Nat) (text : List Char) : Bool :=
  (Decimal.readUnsigned? (Nat.pow 2 bits - 1) text).isSome

/-- A port, or nothing for the usual one. -/
def isPort (text : List Char) : Bool := text.isEmpty || isUnsigned 16 text

def isValid (setting : Setting) : Bool :=
  let value := setting.value.toList
  match setting.key with
  | "user" | "password" | "dbname" | "options" | "application_name" | "host" => true
  | "sslmode" => ["disable", "prefer", "require"].contains setting.value
  | "sslnegotiation" => ["postgres", "direct"].contains setting.value
  | "hostaddr" => (Address.splitAt ',' value).all Address.isAddress
  | "port" => (Address.splitAt ',' value).all isPort
  | "connect_timeout" | "tcp_user_timeout" | "keepalives_idle" | "keepalives_interval" =>
    isSigned64 value
  | "keepalives" => isUnsigned 64 value
  | "keepalives_retries" => isUnsigned 32 value
  | "target_session_attrs" => ["any", "read-write", "read-only"].contains setting.value
  | "channel_binding" => ["disable", "prefer", "require"].contains setting.value
  | "load_balance_hosts" => ["disable", "random"].contains setting.value
  | _ => false

def check? (key value : List Char) : Option Setting :=
  let setting : Setting := ⟨String.ofList key, String.ofList value⟩
  if setting.isValid then some setting else none

end Setting

namespace ConnectionString

/-! ### Settings with equals signs -/

/-- A value in quotes, after the first, and what follows it; a backslash takes the next character
as it is. -/
def quotedValue? : List Char → Option (List Char × List Char)
  | [] => none
  | '\'' :: rest => some ([], rest)
  | ['\\'] => none
  | '\\' :: c :: rest => (quotedValue? rest).map fun (value, tail) => (c :: value, tail)
  | c :: rest => (quotedValue? rest).map fun (value, tail) => (c :: value, tail)

def plainValue : List Char → List Char × List Char
  | [] => ([], [])
  | ['\\'] => ([], [])
  | '\\' :: c :: rest =>
    let (value, tail) := plainValue rest
    (c :: value, tail)
  | c :: rest =>
    if Text.isBlank c then ([], c :: rest)
    else
      let (value, tail) := plainValue rest
      (c :: value, tail)

def value? : List Char → Option (List Char × List Char)
  | '\'' :: rest => quotedValue? rest
  | text =>
    match plainValue text with
    | ([], _) => none
    | found => some found

def endsKey (c : Char) : Bool := Text.isBlank c || c == '='

def afterEquals? (text : List Char) : Option (List Char) :=
  match text.dropWhile Text.isBlank with
  | '=' :: rest => some (rest.dropWhile Text.isBlank)
  | _ => none

/-- The settings of a text; `fuel` is more than there are characters. A missing key ends them. -/
def settingsFrom? : (fuel : Nat) → List Char → Option (List Setting)
  | 0, _ => none
  | fuel + 1, text =>
    let text := text.dropWhile Text.isBlank
    match text.takeWhile (!endsKey ·) with
    | [] => some []
    | key => do
      let rest ← afterEquals? (text.dropWhile (!endsKey ·))
      let (value, rest) ← value? rest
      let setting ← Setting.check? key value
      return setting :: (← settingsFrom? fuel rest)

def settings? (text : List Char) : Option (List Setting) := settingsFrom? (text.length + 1) text

/-! ### URLs -/

/-- The bytes of a text in which a percent sign and two digits stand for one byte. -/
def percentBytes : List Char → List UInt8
  | '%' :: high :: low :: rest =>
    match Text.Hex.value? high, Text.Hex.value? low with
    | some high, some low => UInt8.ofNat (16 * high + low) :: percentBytes rest
    | _, _ => Text.Utf8.encode "%" ++ percentBytes (high :: low :: rest)
  | c :: rest => Text.Utf8.encode (String.singleton c) ++ percentBytes rest
  | [] => []

def percentText? (text : List Char) : Option (List Char) :=
  (Text.Utf8.decode? (percentBytes text)).map String.toList

def cut (isMark : Char → Bool) (text : List Char) : List Char × List Char :=
  (text.takeWhile (!isMark ·), text.dropWhile (!isMark ·))

/-- A user, and a password after a colon; a password may be any bytes. -/
def credentials? (text : List Char) : Option (List Setting) := do
  let (user, password) := cut (· == ':') text
  let user ← percentText? user
  let password := match password with
    | [] => []
    | _ :: password => [⟨"password", String.ofList password⟩]
  return ⟨"user", String.ofList user⟩ :: password

/-- A host; one that begins with a slash is a path and may be any bytes. -/
def host? (text : List Char) : Option Setting :=
  match percentBytes text with
  | 0x2F :: _ => some ⟨"host", String.ofList text⟩
  | _ => (percentText? text).bind (Setting.check? "host".toList)

/-- One host and its port. The address of a host may stand in brackets. -/
def hostAndPort? (text : List Char) : Option (List Setting) := do
  let (host, rest) ← match text with
    | '[' :: inner =>
      match cut (· == ']') inner with
      | (_, []) => none
      | (host, _ :: rest) => some (host, rest)
    | text => some (cut (· == ':') text)
  let port ← match rest with
    | [] => some "5432".toList
    | ':' :: port => some port
    | _ => none
  let host ← host? host
  let port ← Setting.check? "port".toList (← percentText? port)
  return [host, port]

def parameters? : (fuel : Nat) → List Char → Option (List Setting)
  | 0, _ => none
  | _, [] => some []
  | fuel + 1, text => do
    let (key, rest) := cut (· == '=') text
    let key ← if rest.isEmpty then none else percentText? key
    let (value, rest) := cut (· == '&') (rest.drop 1)
    let setting ← if key = "host".toList then host? value
      else (percentText? value).bind (Setting.check? key)
    return setting :: (← parameters? fuel (rest.drop 1))

def url? (text : List Char) : Option (List Setting) := do
  let (user, rest) ← match cut (· == '@') text with
    | (_, []) => some ([], text)
    | (credentials, _ :: rest) => (credentials? credentials).map fun user => (user, rest)
  let (hosts, rest) := cut (fun c => c == '/' || c == '?') rest
  let hosts ← if hosts.isEmpty then some []
    else (Address.splitAt ',' hosts).mapM hostAndPort?
  let (name, rest) := match rest with
    | '/' :: path => cut (· == '?') path
    | rest => ([], rest)
  let name ← if name.isEmpty then some []
    else (percentText? name).map fun name => [(⟨"dbname", String.ofList name⟩ : Setting)]
  let parameters ← match rest with
    | '?' :: rest => parameters? (rest.length + 1) rest
    | _ => some []
  return user ++ hosts.flatten ++ name ++ parameters

def schemes : List (List Char) := ["postgres://".toList, "postgresql://".toList]

def read? (text : String) : Option (List Setting) :=
  let chars := text.toList
  match schemes.find? (·.isPrefixOf chars) with
  | some scheme => url? (chars.drop scheme.length)
  | none => settings? chars

end ConnectionString

end SqlProgram.Postgres
