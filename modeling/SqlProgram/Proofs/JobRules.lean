import SqlProgram.Proofs.RecordRules
import SqlProgram.Run.Strategy

/-!
Jobs under a rule. A job that obeys a rule obeys it whatever the backend answers, however often it has
to wait and wherever it is let go of.
-/

namespace SqlProgram

namespace Job

/-- A job that keeps to a rule from a state on, whatever it is answered. Wherever it can come to a
halt it may be let go of. -/
def Obeys (rule : Rule κ S) : Job κ α → S → Prop
  | .done _, state => rule.Over state
  | .record entry next, state => ∃ later, rule.Runs state [entry] later ∧ next.Obeys rule later
  | .acquire next, state =>
    ∃ asked, rule.Runs state [.acquiring] asked ∧ rule.Over asked ∧
      ∀ reply : Reply κ, ∃ later, rule.Runs asked reply.acquireEntries later ∧
        (next reply.outcome).Obeys rule later
  | .call lease asked next, state =>
    ∃ calling, rule.Runs state [.called lease.connection asked] calling ∧
      rule.Drops calling (.lease lease) ∧
      ∀ reply : Reply asked.Answer, ∃ later,
        rule.Runs calling (reply.callEntries lease.connection asked) later ∧
          (next reply.outcome).Obeys rule later
  | .pause held _ entries next, state =>
    rule.Drops state held ∧ ∃ later, rule.Runs state entries later ∧ next.Obeys rule later
  | .giveBack lease next, state =>
    ∃ later, rule.Runs state [lease.farewell] later ∧ next.Obeys rule later

variable {rule : Rule κ S}

theorem obeys_recordAll {next : Job κ α} {entries : List (Entry κ)}
    (runs : rule.Runs state entries later) (obeys : next.Obeys rule later) :
    (recordAll entries next).Obeys rule state := by
  induction runs with
  | nil => exact obeys
  | quiet silent _ ih => exact ⟨_, .quiet silent .nil, ih obeys⟩
  | step first _ ih => exact ⟨_, .one first, ih obeys⟩

theorem obeys_finish {lease : Lease κ} (outcome : Outcome α) (drops : rule.Drops state (.lease lease)) :
    (finish lease outcome).Obeys rule state := drops

theorem obeys_borrow {next : κ → Job κ α} {refused : Failure → Job κ α} {asked : S}
    (asking : rule.Step state .acquiring asked) (finished : rule.Over asked)
    (given : ∀ connection, ∃ later, rule.Step asked (.acquired connection) later ∧
      (next connection).Obeys rule later)
    (failed : ∀ failure, (refused failure).Obeys rule asked) :
    (borrow next refused).Obeys rule state := by
  refine ⟨asked, .one asking, finished, fun reply => ?_⟩
  unfold Reply.acquireEntries
  cases reply.outcome with
  | ok connection =>
    obtain ⟨later, step, obeys⟩ := given connection
    exact ⟨later, (Rule.Runs.database _).append (.one step), obeys⟩
  | failed failure => exact ⟨asked, (Rule.Runs.database _).append (.quiet rfl .nil), failed failure⟩
  | panicked panic => exact ⟨asked, (Rule.Runs.database _).append .nil, finished⟩

theorem obeys_request {lease : Lease κ} {call : Call} {next : Except Failure call.Answer → Job κ α} {asked : S}
    (asking : rule.Step state (.called lease.connection call) asked) (drops : rule.Drops asked (.lease lease))
    (answered : ∀ answer, ∃ later, rule.Step asked (.answered lease.connection call true) later ∧
      (next (.ok answer)).Obeys rule later)
    (refused : ∃ later, rule.Step asked (.answered lease.connection call false) later ∧
      rule.Drops later (.lease lease) ∧ ∀ failure, (next (.error failure)).Obeys rule later) :
    (request lease call next).Obeys rule state := by
  refine ⟨asked, .one asking, drops, fun reply => ?_⟩
  unfold Reply.callEntries
  cases reply.outcome with
  | ok answer =>
    obtain ⟨later, step, obeys⟩ := answered answer
    exact ⟨later, (Rule.Runs.database _).append (.one step), obeys⟩
  | failed failure =>
    obtain ⟨later, step, _, obeys⟩ := refused
    exact ⟨later, (Rule.Runs.database _).append (.one step), obeys failure⟩
  | panicked panic =>
    obtain ⟨later, step, last, _⟩ := refused
    exact ⟨later, (Rule.Runs.database _).append (.one step), last⟩

theorem obeys_drainFrom {lease : Lease κ} {next : Except Failure Cursor → Job κ α}
    (drops : rule.Drops state (.lease lease)) (later : ∀ answer, (next answer).Obeys rule state)
    (steps : List RowStep) (rows : RowStream) (read : List Row) :
    (drainFrom lease rows read next steps).Obeys rule state := by
  induction steps generalizing rows read with
  | nil => exact ⟨drops, state, (Rule.Runs.database _).append (.dropEntries ..), later _⟩
  | cons step rest ih =>
    refine ⟨drops, state, .nil, ?_⟩
    cases step.item with
    | ok row => exact ih _ (row :: read)
    | failed failure => exact obeys_recordAll (.dropEntries ..) (later (.error failure))
    | panicked panic => exact obeys_recordAll (.dropEntries ..) (obeys_finish _ drops)

theorem obeys_drain {lease : Lease κ} {next : Except Failure Cursor → Job κ α}
    (drops : rule.Drops state (.lease lease)) (later : ∀ answer, (next answer).Obeys rule state)
    (rows : RowStream) : (drain lease rows next).Obeys rule state :=
  obeys_drainFrom drops later rows.steps rows []

/-- One look at a job: what it records is allowed, what is left obeys the rule, and it may be let go
of then. -/
theorem advance_obeys (backend : Backend σ κ) (patient : Bool) {job : Job κ α}
    (obeys : job.Obeys rule state) (world : World σ κ) :
    ∃ later, rule.Leads state world later (job.advance backend patient world).2 ∧
      (job.advance backend patient world).1.Obeys rule later ∧
      rule.Drops later (job.advance backend patient world).1.held := by
  induction job generalizing state world with
  | done outcome => exact ⟨state, .refl state world, obeys, obeys⟩
  | record entry next ih =>
    obtain ⟨middle, runs, rest⟩ := obeys
    obtain ⟨later, leads, left⟩ := ih rest (world.add entry)
    exact ⟨later, (Rule.Leads.add runs world).trans leads, left⟩
  | giveBack lease next ih =>
    obtain ⟨middle, runs, rest⟩ := obeys
    obtain ⟨later, leads, left⟩ := ih rest (backend.giveBack lease world)
    exact ⟨later, (Rule.Leads.giveBack runs backend world).trans leads, left⟩
  | pause held delay entries next ih =>
    obtain ⟨drops, middle, runs, rest⟩ := obeys
    simp only [advance]
    cases delay.left patient with
    | none =>
      obtain ⟨later, leads, left⟩ := ih rest (world.addAll entries)
      exact ⟨later, (Rule.Leads.addAll runs world).trans leads, left⟩
    | some remaining => exact ⟨state, .refl state world, ⟨drops, middle, runs, rest⟩, drops⟩
  | acquire next ih =>
    obtain ⟨asked, asking, finished, answered⟩ := obeys
    obtain ⟨middle, runs, rest⟩ := answered (backend.acquire world.state).1
    have begun := Rule.Leads.add asking { world with state := (backend.acquire world.state).2 }
    simp only [advance]
    split
    · obtain ⟨later, leads, left⟩ := ih _ rest _
      exact ⟨later, (begun.trans (.addAll runs _)).trans leads, left⟩
    · exact ⟨asked, begun, ⟨finished, middle, runs, rest⟩, finished⟩
  | call lease call next ih =>
    obtain ⟨asked, asking, drops, answered⟩ := obeys
    obtain ⟨middle, runs, rest⟩ := answered (backend.call lease.connection call world.state).1
    have begun := Rule.Leads.add asking
      { world with state := (backend.call lease.connection call world.state).2 }
    simp only [advance]
    split
    · obtain ⟨later, leads, left⟩ := ih _ rest _
      exact ⟨later, (begun.trans (.addAll runs _)).trans leads, left⟩
    · exact ⟨asked, begun, ⟨drops, middle, runs, rest⟩, drops⟩

theorem obeys_lax (lax : ∀ entry, rule.Step state entry state) (finished : rule.Over state) (job : Job κ α) :
    job.Obeys rule state := by
  have runs (entries : List (Entry κ)) : rule.Runs state entries state := by
    induction entries with
    | nil => exact .nil
    | cons entry rest ih => exact .step (lax entry) ih
  have drops (held : Held κ) : rule.Drops state held := by
    cases held with
    | nothing => exact finished
    | lease lease => exact ⟨state, runs _, finished⟩
    | rows lease rows => exact ⟨state, runs _, finished⟩
  induction job with
  | done outcome => exact finished
  | record entry next ih => exact ⟨state, runs _, ih⟩
  | acquire next ih => exact ⟨state, runs _, finished, fun reply => ⟨state, runs _, ih reply.outcome⟩⟩
  | call lease asked next ih =>
    exact ⟨state, runs _, drops (.lease lease), fun reply => ⟨state, runs _, ih reply.outcome⟩⟩
  | pause held delay entries next ih => exact ⟨drops held, state, runs _, ih⟩
  | giveBack lease next ih => exact ⟨state, runs _, ih⟩

/-- A look at a job takes back nothing that was recorded. -/
theorem advance_grows (backend : Backend σ κ) (patient : Bool) (job : Job κ α) (world : World σ κ) :
    ∃ entries, (job.advance backend patient world).2.history = world.history ++ entries := by
  have free : job.Obeys (⟨fun _ _ _ => True, fun _ => True⟩ : Rule κ Unit) () :=
    obeys_lax (fun _ => trivial) trivial job
  obtain ⟨_, ⟨entries, grown, _⟩, _⟩ := advance_obeys backend patient free world
  exact ⟨entries, grown⟩

theorem acquire_grows (backend : Backend σ κ) (patient : Bool) (next : Outcome κ → Job κ α) (world : World σ κ) :
    ∃ entries, ((Job.acquire next).advance backend patient world).2.history =
      world.history ++ .acquiring :: entries := by
  simp only [advance]
  split
  · obtain ⟨entries, grown⟩ := (next (backend.acquire world.state).1.outcome).advance_grows backend patient
      (({ world with state := (backend.acquire world.state).2 }.add .acquiring).addAll
        (backend.acquire world.state).1.acquireEntries)
    refine ⟨(backend.acquire world.state).1.acquireEntries ++ entries, grown.trans ?_⟩
    rw [World.history_addAll, World.history_add, List.append_assoc, List.append_assoc]
    rfl
  · exact ⟨[], World.history_add ..⟩

theorem call_grows (backend : Backend σ κ) (patient : Bool) (lease : Lease κ) (call : Call)
    (next : Outcome call.Answer → Job κ α) (world : World σ κ) :
    ∃ entries, ((Job.call lease call next).advance backend patient world).2.history =
      world.history ++ .called lease.connection call :: entries := by
  let reply := (backend.call lease.connection call world.state).1
  simp only [advance]
  split
  · obtain ⟨entries, grown⟩ := (next reply.outcome).advance_grows backend patient
      (({ world with state := (backend.call lease.connection call world.state).2 }.add
        (.called lease.connection call)).addAll (reply.callEntries lease.connection call))
    refine ⟨reply.callEntries lease.connection call ++ entries, grown.trans ?_⟩
    rw [World.history_addAll, World.history_add, List.append_assoc, List.append_assoc]
    rfl
  · exact ⟨[], World.history_add ..⟩

theorem reclaim_obeys (backend : Backend σ κ) {held : Held κ} (drops : rule.Drops state held)
    (world : World σ κ) :
    ∃ later, rule.Leads state world later (backend.reclaim held world) ∧ rule.Over later := by
  cases held with
  | nothing => exact ⟨state, .refl state world, drops⟩
  | lease lease =>
    obtain ⟨later, runs, finished⟩ := drops
    exact ⟨later, .giveBack runs backend world, finished⟩
  | rows lease rows =>
    obtain ⟨later, runs, finished⟩ := drops
    exact ⟨later, (Rule.Leads.addAll (.dropEntries ..) world).trans (.giveBack runs backend _), finished⟩

/-- A job that came to its end did all that the rule wants of it. -/
theorem toAction_obeys (backend : Backend σ κ) {job : Job κ α} (obeys : job.Obeys rule state)
    (world : World σ κ) (ended : (job.toAction backend world).1 = some outcome) :
    ∃ later, rule.Leads state world later (job.toAction backend world).2 ∧ rule.Over later := by
  obtain ⟨later, leads, left, _⟩ := advance_obeys backend true obeys world
  refine ⟨later, leads, ?_⟩
  unfold toAction at ended
  revert ended left
  generalize job.advance backend true world = looked
  obtain ⟨rest, after⟩ := looked
  intro ended left
  cases rest with
  | done _ => exact left
  | _ => cases ended

end Job

namespace Strategy

variable {rule : Rule κ S} {action : Action σ κ α} {world : World σ κ}

/-- To tell of a panic is of no account. -/
theorem capture_leads (leads : rule.Leads state world later (action world).2) :
    rule.Leads state world later (capture action world).2 := by
  unfold capture
  split
  next panic after ended =>
    rw [ended] at leads
    exact leads.trans (.add (.quiet rfl .nil) after)
  next => exact leads

theorem capture_ended (ended : (capture action world).1 = some outcome) :
    ∃ result, (action world).1 = some result := by
  unfold capture at ended
  split at ended
  next panic after ran => exact ⟨.panicked panic, congrArg Prod.fst ran⟩
  next => exact ⟨outcome, ended⟩

theorem capture_obeys (backend : Backend σ κ) {job : Job κ α} (obeys : job.Obeys rule state) (world : World σ κ)
    (ended : (capture (job.toAction backend) world).1 = some outcome) :
    ∃ later, rule.Leads state world later (capture (job.toAction backend) world).2 ∧ rule.Over later := by
  obtain ⟨result, finished⟩ := capture_ended ended
  obtain ⟨later, leads, last⟩ := Job.toAction_obeys backend obeys world finished
  exact ⟨later, capture_leads leads, last⟩

end Strategy

end SqlProgram
