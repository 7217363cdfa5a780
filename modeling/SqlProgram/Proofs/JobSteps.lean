import Mathlib.Logic.Function.Iterate
import SqlProgram.Proofs.JobRules

/-!
Jobs one step at a time, so that others may use the backend in between. A job may be let go of wherever it waits, and
what it holds goes back step by step as well.
-/

namespace SqlProgram

namespace Job

/-- One entry, one call of the backend, or one look at what is waited for. -/
def step (backend : Backend σ κ) (patient : Bool) : Job κ α → World σ κ → Job κ α × World σ κ
  | .done outcome, world => (.done outcome, world)
  | .record entry next, world => (next, world.add entry)
  | .giveBack lease next, world => (next, backend.giveBack lease world)
  | .pause held delay entries next, world =>
    match delay.left patient with
    | none => (next, world.addAll entries)
    | some left => (.pause held left entries next, world)
  | .acquire next, world =>
    let (reply, state) := backend.acquire world.state
    (.pause .nothing reply.delay reply.acquireEntries (next reply.outcome), { world with state }.add .acquiring)
  | .call lease asked next, world =>
    let (reply, state) := backend.call lease.connection asked world.state
    (.pause (.lease lease) reply.delay (reply.callEntries lease.connection asked) (next reply.outcome),
      { world with state }.add (.called lease.connection asked))

/-- To run a job until it has to wait is to take steps. -/
theorem advance_eq_steps (backend : Backend σ κ) (patient : Bool) (job : Job κ α) (world : World σ κ) :
    ∃ count, (fun stood : Job κ α × World σ κ => stood.1.step backend patient stood.2)^[count] (job, world) =
      job.advance backend patient world := by
  induction job generalizing world with
  | done outcome => exact ⟨0, rfl⟩
  | record entry next ih =>
    obtain ⟨count, same⟩ := ih (world.add entry)
    exact ⟨count + 1, same⟩
  | giveBack lease next ih =>
    obtain ⟨count, same⟩ := ih (backend.giveBack lease world)
    exact ⟨count + 1, same⟩
  | pause held delay entries next ih =>
    cases waits : delay.left patient with
    | none =>
      obtain ⟨count, same⟩ := ih (world.addAll entries)
      refine ⟨count + 1, ?_⟩
      simpa only [Function.iterate_succ_apply, step, advance, waits] using same
    | some left =>
      refine ⟨1, ?_⟩
      simp only [Function.iterate_one, step, advance, waits]
  | acquire next ih =>
    cases waits : (backend.acquire world.state).1.delay.left patient with
    | none =>
      obtain ⟨count, same⟩ := ih _ _
      refine ⟨count + 2, ?_⟩
      simpa only [Function.iterate_succ_apply, step, advance, waits] using same
    | some left =>
      refine ⟨2, ?_⟩
      simp only [Function.iterate_succ_apply, Function.iterate_zero_apply, step, advance, waits]
  | call lease asked next ih =>
    cases waits : (backend.call lease.connection asked world.state).1.delay.left patient with
    | none =>
      obtain ⟨count, same⟩ := ih _ _
      refine ⟨count + 2, ?_⟩
      simpa only [Function.iterate_succ_apply, step, advance, waits] using same
    | some left =>
      refine ⟨2, ?_⟩
      simp only [Function.iterate_succ_apply, Function.iterate_zero_apply, step, advance, waits]

variable {rule : Rule κ S}

theorem step_obeys (backend : Backend σ κ) (patient : Bool) {job : Job κ α} (obeys : job.Obeys rule state)
    (world : World σ κ) :
    ∃ later, rule.Leads state world later (job.step backend patient world).2 ∧
      (job.step backend patient world).1.Obeys rule later := by
  cases job with
  | done outcome => exact ⟨state, .refl state world, obeys⟩
  | record entry next =>
    obtain ⟨later, runs, rest⟩ := obeys
    exact ⟨later, .add runs world, rest⟩
  | giveBack lease next =>
    obtain ⟨later, runs, rest⟩ := obeys
    exact ⟨later, .giveBack runs backend world, rest⟩
  | pause held delay entries next =>
    obtain ⟨drops, later, runs, rest⟩ := obeys
    simp only [step]
    cases delay.left patient with
    | none => exact ⟨later, .addAll runs world, rest⟩
    | some left => exact ⟨state, .refl state world, drops, later, runs, rest⟩
  | acquire next =>
    obtain ⟨asked, asking, finished, answered⟩ := obeys
    exact ⟨asked, .add asking _, finished, answered _⟩
  | call lease call next =>
    obtain ⟨asked, asking, drops, answered⟩ := obeys
    exact ⟨asked, .add asking _, drops, answered _⟩

end Job

/-- A run as others see it: it goes on, or it was let go of and gives back what it held. -/
inductive Task (κ α : Type) where
  | running (job : Job κ α)
  | leaving (held : Held κ)

inductive Move where
  /-- The run goes on by a step. -/
  | look (patient : Bool)
  | cancel

namespace Task

/-- A run that was cancelled. Between two waits it cannot be. -/
def cancelled : Task κ α → Task κ α
  | .running (.pause held _ _ _) => .leaving held
  | task => task

/-- Lets go of rows before their connection. -/
def leave (backend : Backend σ κ) : Held κ → World σ κ → Held κ × World σ κ
  | .nothing, world => (.nothing, world)
  | .lease lease, world => (.nothing, backend.giveBack lease world)
  | .rows lease rows, world => (.lease lease, world.addAll (rows.dropEntries lease.connection))

def move (backend : Backend σ κ) : Move → Task κ α → World σ κ → Task κ α × World σ κ
  | .cancel, task, world => (task.cancelled, world)
  | .look patient, .running job, world =>
    let (job, world) := job.step backend patient world
    (.running job, world)
  | .look _, .leaving held, world =>
    let (held, world) := leave backend held world
    (.leaving held, world)

def moveAll (backend : Backend σ κ) (moves : List Move) (stood : Task κ α × World σ κ) : Task κ α × World σ κ :=
  moves.foldl (fun stood move => stood.1.move backend move stood.2) stood

theorem moveAll_advance (backend : Backend σ κ) (patient : Bool) (job : Job κ α) (world : World σ κ) :
    ∃ count, moveAll backend (List.replicate count (.look patient)) (.running job, world) =
      (.running (job.advance backend patient world).1, (job.advance backend patient world).2) := by
  obtain ⟨count, same⟩ := job.advance_eq_steps backend patient world
  refine ⟨count, ?_⟩
  rw [← same]
  clear same
  induction count generalizing job world with
  | zero => rfl
  | succ count ih => exact ih (job.step backend patient world).1 (job.step backend patient world).2

theorem moveAll_drop (backend : Backend σ κ) (held : Held κ) (delay : Delay) (entries : List (Entry κ))
    (next : Job κ α) (world : World σ κ) :
    moveAll backend [.cancel, .look true, .look true] (.running (.pause held delay entries next), world) =
      (.leaving .nothing, backend.drop (.pause held delay entries next) world) := by
  cases held <;> rfl

def Obeys (rule : Rule κ S) : Task κ α → S → Prop
  | .running job, state => job.Obeys rule state
  | .leaving held, state => rule.Drops state held

variable {rule : Rule κ S}

theorem cancelled_obeys {task : Task κ α} (obeys : task.Obeys rule state) : task.cancelled.Obeys rule state := by
  cases task with
  | leaving held => exact obeys
  | running job =>
    cases job with
    | pause held delay entries next => exact obeys.1
    | _ => exact obeys

theorem leave_obeys (backend : Backend σ κ) {held : Held κ} (drops : rule.Drops state held) (world : World σ κ) :
    ∃ later, rule.Leads state world later (leave backend held world).2 ∧
      rule.Drops later (leave backend held world).1 := by
  cases held with
  | nothing => exact ⟨state, .refl state world, drops⟩
  | lease lease =>
    obtain ⟨later, runs, finished⟩ := drops
    exact ⟨later, .giveBack runs backend world, finished⟩
  | rows lease rows => exact ⟨state, .addAll (.dropEntries ..) world, drops⟩

/-- Whatever happens to a run, what it records is allowed and it obeys the rule afterwards. -/
theorem move_obeys (backend : Backend σ κ) (move : Move) {task : Task κ α} (obeys : task.Obeys rule state)
    (world : World σ κ) :
    ∃ later, rule.Leads state world later (task.move backend move world).2 ∧
      (task.move backend move world).1.Obeys rule later := by
  cases move with
  | cancel => exact ⟨state, .refl state world, cancelled_obeys obeys⟩
  | look patient =>
    cases task with
    | running job => exact Job.step_obeys backend patient obeys world
    | leaving held => exact leave_obeys backend obeys world

end Task

end SqlProgram
