import SqlProgram.Decimal.Reader
import SqlProgram.Failure.Basic
import SqlProgram.Text.Blank
import SqlProgram.Text.Utf8

/-!
Settings of the PostgreSQL backends, by hand or from the environment.
-/

namespace SqlProgram.Postgres

/-- Settings of a backend. There is always room for one connection and one worker. -/
structure Config where
  databaseUrl : String
  maxPoolSize : Nat := 16
  workerThreads : Nat := 1
  /-- How long one statement may take. -/
  queryTimeout : Option Calendar.Duration := none
  /-- How many bytes of a statement are told to observers. -/
  maxSqlLogLength : Option Nat := none
  maxPoolSize_pos : 0 < maxPoolSize := by decide
  workerThreads_pos : 0 < workerThreads := by decide

namespace Config

def ofUrl (url : String) : Config := { databaseUrl := url }

def withMaxPoolSize (size : Nat) (config : Config) : Config :=
  { config with
    maxPoolSize := max size 1
    maxPoolSize_pos := Nat.lt_of_lt_of_le Nat.zero_lt_one (Nat.le_max_right size 1) }

def withWorkerThreads (threads : Nat) (config : Config) : Config :=
  { config with
    workerThreads := max threads 1
    workerThreads_pos := Nat.lt_of_lt_of_le Nat.zero_lt_one (Nat.le_max_right threads 1) }

def withQueryTimeout (timeout : Calendar.Duration) (config : Config) : Config :=
  { config with queryTimeout := some timeout }

def withMaxSqlLogLength (length : Nat) (config : Config) : Config :=
  { config with maxSqlLogLength := some length }

/-- A statement as it is told to observers: cut between two characters and marked where it is too
long. -/
def truncateSql (config : Config) (sql : String) : String :=
  match config.maxSqlLogLength with
  | none => sql
  | some length =>
    if sql.utf8ByteSize ≤ length then sql
    else String.ofList (Text.Utf8.takeBytes length sql.toList) ++ "..."

/-- Settings that the environment may override. -/
def urlKey : String := "DATABASE_URL"
def poolSizeKey : String := "PGDSL_POOL_SIZE"
def workerThreadsKey : String := "PGDSL_WORKER_THREADS"
def queryTimeoutKey : String := "PGDSL_QUERY_TIMEOUT_MS"

def readNumber (environment : String → Option String) (key : String) :
    Except Rejection (Option Nat) :=
  match environment key with
  | none => .ok none
  | some text =>
    match Decimal.readUnsigned? (UInt64.size - 1) (Text.trimBlanks text.toList) with
    | some number => .ok (some number)
    | none => .error (.settingNotNumber key text)

def ofEnvironment (environment : String → Option String) : Except Rejection Config := do
  let some url := environment urlKey | throw .missingUrl
  let poolSize ← readNumber environment poolSizeKey
  let workerThreads ← readNumber environment workerThreadsKey
  let millis ← readNumber environment queryTimeoutKey
  let config := ofUrl url
  let config := (poolSize.map fun size => config.withMaxPoolSize size).getD config
  let config := (workerThreads.map fun threads => config.withWorkerThreads threads).getD config
  return (millis.map fun millis => config.withQueryTimeout (.ofMillis millis)).getD config

end Config

end SqlProgram.Postgres
