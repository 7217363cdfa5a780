import SqlProgram.Proofs.StatementCalls
import SqlProgram.Run.Strategy

/-!
Jobs that came to their end, taken apart from the front: what was said on a connection in each step, and
from which world the rest of the job came to the same end.
-/

namespace SqlProgram

structure Exchange where
  call : Call
  outcome : Outcome call.Answer

def Exchange.entries (connection : κ) (exchange : Exchange) : List (Entry κ) :=
  [.called connection exchange.call, .answered connection exchange.call exchange.outcome.isOk]

namespace Entry

/-- Whether a leaf is reached, a call is made or an answer to one arrives. -/
def isStep : Entry κ → Bool
  | .called .. | .answered .. => true
  | entry => entry.isLeaf

theorem isStep_of_silent {entry : Entry κ} (silent : entry.counts = false) : entry.isStep = false := by
  cases entry with
  | told event =>
    cases event with
    | running leaf => cases silent
    | _ => rfl
  | called connection call => cases silent
  | answered connection call succeeded => cases silent
  | _ => rfl

theorem filter_isStep_silent {entries : List (Entry κ)} (silent : ∀ entry ∈ entries, entry.counts = false) :
    entries.filter isStep = [] := by
  rw [List.filter_eq_nil_iff]
  intro entry member
  rw [isStep_of_silent (silent entry member)]
  exact Bool.false_ne_true

end Entry

namespace World

def steps (world : World σ κ) : List (Entry κ) := world.history.filter Entry.isStep

theorem steps_addAll (entries : List (Entry κ)) (world : World σ κ) :
    (world.addAll entries).steps = world.steps ++ entries.filter Entry.isStep := by
  rw [steps, history_addAll, List.filter_append]
  rfl

theorem steps_add (entry : Entry κ) (world : World σ κ) :
    (world.add entry).steps = world.steps ++ [entry].filter Entry.isStep :=
  steps_addAll [entry] world

theorem steps_quiet {entry : Entry κ} (quiet : entry.isStep = false) (world : World σ κ) :
    (world.add entry).steps = world.steps := by
  rw [steps_add, List.filter_cons_of_neg (by rw [quiet]; exact Bool.false_ne_true)]
  exact List.append_nil _

theorem steps_silent {entries : List (Entry κ)} (silent : ∀ entry ∈ entries, entry.counts = false)
    (world : World σ κ) : (world.addAll entries).steps = world.steps := by
  rw [steps_addAll, Entry.filter_isStep_silent silent, List.append_nil]

end World

theorem Reply.steps_callEntries (connection : κ) (asked : Call) (reply : Reply asked.Answer) :
    (reply.callEntries connection asked).filter Entry.isStep = [.answered connection asked reply.outcome.isOk] := by
  rw [callEntries, List.filter_append, Entry.filter_isStep_silent (Entry.silent_database _)]
  rfl

theorem Reply.steps_acquireEntries (reply : Reply κ) : reply.acquireEntries.filter Entry.isStep = [] := by
  rw [acquireEntries, List.filter_append, Entry.filter_isStep_silent (Entry.silent_database _)]
  cases reply.outcome <;> rfl

namespace Backend

/-- What a connection says in answer to calls, from one state to another. -/
inductive Answers (backend : Backend σ κ) (connection : κ) : σ → List Exchange → σ → Prop where
  | nil : Answers backend connection state [] state
  | cons {call : Call} {reply : Outcome call.Answer}
      (answered : backend.reply connection call state = (some reply, middle))
      (rest : Answers backend connection middle exchanges later) :
      Answers backend connection state (⟨call, reply⟩ :: exchanges) later

theorem Answers.append {backend : Backend σ κ} {connection : κ}
    (first : backend.Answers connection state exchanges middle)
    (second : backend.Answers connection middle others later) :
    backend.Answers connection state (exchanges ++ others) later := by
  induction first with
  | nil => exact second
  | cons answered _ ih => exact .cons answered (ih second)

structure Talks (backend : Backend σ κ) (connection : κ) (world : World σ κ) (exchanges : List Exchange)
    (later : World σ κ) : Prop where
  answers : backend.Answers connection world.state exchanges later.state
  steps : later.steps = world.steps ++ exchanges.flatMap (Exchange.entries connection)

variable {backend : Backend σ κ} {connection : κ} {world between later : World σ κ}

theorem Talks.silent (state : later.state = world.state) (steps : later.steps = world.steps) :
    backend.Talks connection world [] later := by
  refine ⟨?_, steps.trans (List.append_nil _).symm⟩
  rw [state]
  exact .nil

theorem Talks.trans (first : backend.Talks connection world exchanges between)
    (second : backend.Talks connection between others later) :
    backend.Talks connection world (exchanges ++ others) later := by
  refine ⟨first.answers.append second.answers, ?_⟩
  rw [second.steps, first.steps, List.append_assoc, List.flatMap_append]

theorem Talks.addAll {entries : List (Entry κ)} (talks : backend.Talks connection world exchanges later)
    (silent : ∀ entry ∈ entries, entry.counts = false) :
    backend.Talks connection world exchanges (later.addAll entries) := by
  rw [← List.append_nil exchanges]
  exact talks.trans (.silent (World.state_addAll _ _) (World.steps_silent silent _))

theorem steps_giveBack (backend : Backend σ κ) (lease : Lease κ) (world : World σ κ) :
    (backend.giveBack lease world).steps = world.steps := by
  unfold giveBack
  split
  · refine (World.steps_silent (Entry.silent_database _) _).trans ?_
    exact (World.steps_quiet rfl _).trans (World.steps_quiet rfl world)
  · exact (World.steps_quiet rfl _).trans (World.steps_quiet rfl world)

end Backend

namespace Job

/-- A job that ends for whoever waits as long as it takes. -/
def Ends (backend : Backend σ κ) (job : Job κ α) (world : World σ κ) (outcome : Outcome α)
    (after : World σ κ) : Prop :=
  job.advance backend true world = (.done outcome, after)

/-- How a job goes on with an answer; a panic gives the connection back and ends it. -/
def proceed (lease : Lease κ) (next : Except Failure β → Job κ α) : Outcome β → Job κ α
  | .ok value => next (.ok value)
  | .failed failure => next (.error failure)
  | .panicked panic => finish lease (.panicked panic)

variable {backend : Backend σ κ} {world after : World σ κ} {outcome : Outcome α}

theorem Ends.of_done {result : Outcome α} (ends : (Job.done result).Ends backend world outcome after) :
    outcome = result ∧ after = world := by
  cases ends
  exact ⟨rfl, rfl⟩

theorem Ends.of_recordAll {entries : List (Entry κ)} {next : Job κ α}
    (ends : (recordAll entries next).Ends backend world outcome after) :
    next.Ends backend (world.addAll entries) outcome after := by
  induction entries generalizing world with
  | nil => exact ends
  | cons entry entries ih =>
    have rest : (recordAll entries next).Ends backend (world.add entry) outcome after := ends
    exact ih rest

theorem Ends.of_giveBack {lease : Lease κ} {next : Job κ α}
    (ends : (Job.giveBack lease next).Ends backend world outcome after) :
    next.Ends backend (backend.giveBack lease world) outcome after := ends

/-- What a job waits for arrives, or it would not end. -/
theorem Ends.of_pause {held : Held κ} {delay : Delay} {entries : List (Entry κ)} {next : Job κ α}
    (ends : (Job.pause held delay entries next).Ends backend world outcome after) :
    (∃ count, delay = .polls count) ∧ next.Ends backend (world.addAll entries) outcome after := by
  cases delay with
  | never => cases ends
  | polls count =>
    refine ⟨⟨count, rfl⟩, ?_⟩
    cases count <;> exact ends

theorem Ends.of_reply {reply : Reply β} {held : Held κ} {entries : List (Entry κ)} {next : Outcome β → Job κ α}
    (ends : (Job.pause held reply.delay entries (next reply.outcome)).Ends backend world outcome after) :
    reply.answer? = some reply.outcome ∧ (next reply.outcome).Ends backend (world.addAll entries) outcome after := by
  obtain ⟨⟨count, arrives⟩, rest⟩ := ends.of_pause
  refine ⟨?_, rest⟩
  rw [Reply.answer?, arrives]

theorem Ends.of_acquire {next : Outcome κ → Job κ α} (ends : (Job.acquire next).Ends backend world outcome after) :
    ∃ reply later, (backend.acquire world.state).1.answer? = some reply ∧
      later.state = (backend.acquire world.state).2 ∧ later.steps = world.steps ∧
      (next reply).Ends backend later outcome after := by
  have waits : (Job.pause .nothing (backend.acquire world.state).1.delay (backend.acquire world.state).1.acquireEntries
      (next (backend.acquire world.state).1.outcome)).Ends backend
        ({ world with state := (backend.acquire world.state).2 }.add .acquiring) outcome after := ends
  obtain ⟨arrived, rest⟩ := waits.of_reply
  refine ⟨_, _, arrived, World.state_addAll _ _, ?_, rest⟩
  rw [World.steps_addAll, Reply.steps_acquireEntries, List.append_nil]
  exact World.steps_quiet rfl _

theorem Ends.of_call {lease : Lease κ} {call : Call} {next : Outcome call.Answer → Job κ α}
    (ends : (Job.call lease call next).Ends backend world outcome after) :
    ∃ reply later, backend.Talks lease.connection world [⟨call, reply⟩] later ∧
      (next reply).Ends backend later outcome after := by
  have waits : (Job.pause (.lease lease) (backend.call lease.connection call world.state).1.delay
      ((backend.call lease.connection call world.state).1.callEntries lease.connection call)
      (next (backend.call lease.connection call world.state).1.outcome)).Ends backend
        ({ world with state := (backend.call lease.connection call world.state).2 }.add
          (.called lease.connection call)) outcome after := ends
  obtain ⟨arrived, rest⟩ := waits.of_reply
  refine ⟨_, _, ⟨.cons (Prod.ext arrived rfl) ?_, ?_⟩, rest⟩
  · rw [World.state_addAll]
    exact .nil
  · rw [World.steps_addAll, Reply.steps_callEntries, World.steps_add, List.append_assoc]
    rfl

theorem Ends.of_request {lease : Lease κ} {call : Call} {next : Except Failure call.Answer → Job κ α}
    (ends : (request lease call next).Ends backend world outcome after) :
    ∃ reply later, backend.Talks lease.connection world [⟨call, reply⟩] later ∧
      (proceed lease next reply).Ends backend later outcome after := by
  obtain ⟨reply, later, talks, rest⟩ := ends.of_call
  refine ⟨reply, later, talks, ?_⟩
  cases reply <;> exact rest

/-- Rows read one by one end a job as if they had come all at once. -/
theorem Ends.of_drainFrom {lease : Lease κ} {next : Except Failure Cursor → Job κ α} {rows current : RowStream}
    (same : current.closing = rows.closing ∧ current.layout = rows.layout) {read : List Row}
    {steps : List RowStep} (waited : Nat)
    (ends : (drainFrom lease current read next steps).Ends backend world outcome after) :
    ∃ reply entries, (rows.collectFrom read (.polls waited) steps).answer? = some reply ∧
      (∀ entry ∈ entries, entry.counts = false) ∧
      (proceed lease next reply).Ends backend (world.addAll entries) outcome after := by
  induction steps generalizing current read waited world with
  | nil =>
    obtain ⟨⟨count, arrives⟩, rest⟩ := ends.of_pause
    have closing : rows.closing = .polls count := same.1.symm.trans arrives
    refine ⟨.ok ⟨rows.layout, read.reverse⟩, _, ?_, fun entry member => ?_, same.2 ▸ rest⟩
    · rw [RowStream.collectFrom, closing]
      rfl
    · rcases List.mem_append.mp member with told | dropped
      · exact Entry.silent_database _ entry told
      · exact RowStream.silent_dropEntries _ _ entry dropped
  | cons step steps ih =>
    obtain ⟨delay, item⟩ := step
    obtain ⟨⟨count, arrives⟩, rest⟩ := ends.of_pause
    cases arrives
    have kept := { current with steps := ⟨.polls count, item⟩ :: steps }.advance_keeps
    cases item with
    | ok row => exact ih ⟨kept.1.trans same.1, kept.2.trans same.2⟩ (waited + count) rest
    | failed failure => exact ⟨.failed failure, _, rfl, RowStream.silent_dropEntries _ _, rest.of_recordAll⟩
    | panicked panic => exact ⟨.panicked panic, _, rfl, RowStream.silent_dropEntries _ _, rest.of_recordAll⟩

theorem Ends.of_drain {lease : Lease κ} {next : Except Failure Cursor → Job κ α} {rows : RowStream}
    (ends : (drain lease rows next).Ends backend world outcome after) :
    ∃ reply entries, rows.collect.answer? = some reply ∧ (∀ entry ∈ entries, entry.counts = false) ∧
      (proceed lease next reply).Ends backend (world.addAll entries) outcome after :=
  Ends.of_drainFrom ⟨rfl, rfl⟩ 0 ends

end Job

end SqlProgram
