import SqlProgram.Backend.Reply
import SqlProgram.Row.Basic

/-!
Rows that arrive one by one. What a stream will deliver is fixed when it is opened; reading it only
uncovers it.
-/

namespace SqlProgram

structure RowStep where
  delay : Delay
  item : Outcome Row

inductive RowPhase where
  | flowing
  | failed
  | ended
  deriving DecidableEq

structure RowStream where
  layout : RowLayout
  steps : List RowStep
  /-- How long the end takes after the last step. -/
  closing : Delay
  /-- The rows are already here, so nothing is aborted when they are dropped. -/
  inMemory : Bool
  atEnd : List DatabaseEvent
  ifDropped : List DatabaseEvent
  read : Nat
  phase : RowPhase

namespace RowStream

def ofRows (layout : RowLayout) (rows : List Row) : RowStream where
  layout := layout
  steps := rows.map fun row => ⟨.now, .ok row⟩
  closing := .now
  inMemory := true
  atEnd := []
  ifDropped := []
  read := 0
  phase := .flowing

def delay (rows : RowStream) : Delay :=
  match rows.steps with
  | [] => rows.closing
  | step :: _ => step.delay

def waiting (rows : RowStream) (left : Delay) : RowStream :=
  match rows.steps with
  | [] => { rows with closing := left }
  | step :: rest => { rows with steps := ⟨left, step.item⟩ :: rest }

def advance (rows : RowStream) : RowStream :=
  match rows.steps with
  | [] => { rows with phase := .ended }
  | ⟨_, .ok _⟩ :: rest => { rows with steps := rest, read := rows.read + 1 }
  | ⟨_, .failed _⟩ :: rest => { rows with steps := rest, phase := .failed }
  | ⟨_, .panicked _⟩ :: rest => { rows with steps := rest }

def dropEvents (rows : RowStream) : List DatabaseEvent :=
  if rows.phase = .flowing then rows.ifDropped else []

def poll (patient : Bool) (rows : RowStream) : Polled (Outcome Row) × RowStream :=
  match rows.delay.left patient with
  | some left => (.pending, rows.waiting left)
  | none =>
    match rows.steps with
    | [] => (.ended, rows.advance)
    | step :: _ => (.item step.item, rows.advance)

/-- All rows of the given steps at once, after those that were read, the latest first. -/
def collectFrom (rows : RowStream) (read : List Row) (waited : Delay) : List RowStep → Reply Cursor
  | [] => ⟨waited.plus rows.closing, .ok ⟨rows.layout, read.reverse⟩, rows.atEnd⟩
  | ⟨delay, .ok row⟩ :: rest => collectFrom rows (row :: read) (waited.plus delay) rest
  | ⟨delay, .failed failure⟩ :: _ => ⟨waited.plus delay, .failed failure, []⟩
  | ⟨delay, .panicked panic⟩ :: _ => ⟨waited.plus delay, .panicked panic, rows.ifDropped⟩

def collect (rows : RowStream) : Reply Cursor := rows.collectFrom [] .now rows.steps

end RowStream

end SqlProgram
