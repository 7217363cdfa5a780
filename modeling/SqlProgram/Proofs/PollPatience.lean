import SqlProgram.Proofs.StreamPolling

/-!
Looking too early changes nothing. A stream that is looked at often enough yields what a patient run
yields, after as many early looks as its answers take at most.
-/

namespace SqlProgram

theorem Delay.left_polls (count : Nat) : (Delay.polls count).left true = none := by
  cases count <;> rfl

def Delay.looks : Delay → Nat
  | .polls count => count
  | .never => 0

namespace Job

def looks (backend : Backend σ κ) : Job κ α → World σ κ → Nat
  | .done _, _ => 0
  | .record entry next, world => next.looks backend (world.add entry)
  | .giveBack lease next, world => next.looks backend (backend.giveBack lease world)
  | .pause _ delay entries next, world => delay.looks + next.looks backend (world.addAll entries)
  | .acquire next, world =>
    let (reply, state) := backend.acquire world.state
    let world := { world with state }.add .acquiring
    reply.delay.looks + (next reply.outcome).looks backend (world.addAll reply.acquireEntries)
  | .call lease asked next, world =>
    let (reply, state) := backend.call lease.connection asked world.state
    let world := { world with state }.add (.called lease.connection asked)
    reply.delay.looks +
      (next reply.outcome).looks backend (world.addAll (reply.callEntries lease.connection asked))

/-- A job that was looked at too early: it waits, and it will end as it would have ended. -/
def Postpones (backend : Backend σ κ) (later : Job κ α × World σ κ) (job : Job κ α) (world : World σ κ) : Prop :=
  (∀ outcome, later.1 ≠ .done outcome) ∧
    later.1.advance backend true later.2 = job.advance backend true world ∧
    later.1.looks backend later.2 < job.looks backend world

/-- An early wait either is over at once or is put off, with one look less to come too early. -/
theorem postpones_pause (backend : Backend σ κ) (held : Held κ) (delay : Delay) (entries : List (Entry κ))
    (next : Job κ α) (world : World σ κ)
    (rest : next.advance backend false (world.addAll entries) = next.advance backend true (world.addAll entries) ∨
      Postpones backend (next.advance backend false (world.addAll entries)) next (world.addAll entries)) :
    (Job.pause held delay entries next).advance backend false world =
        (Job.pause held delay entries next).advance backend true world ∨
      Postpones backend ((Job.pause held delay entries next).advance backend false world)
        (.pause held delay entries next) world := by
  cases delay with
  | never => exact .inl rfl
  | polls count =>
    cases count with
    | zero =>
      rcases rest with same | ⟨waits, same, fewer⟩
      · exact .inl same
      · refine .inr ⟨waits, same, ?_⟩
        simp only [looks, Delay.looks, Nat.zero_add]
        exact fewer
    | succ count =>
      right
      refine ⟨?_, ?_, ?_⟩
      · intro outcome impossible
        cases impossible
      · cases count <;> rfl
      · simp only [advance, Delay.left, Bool.false_eq_true, if_false, looks, Delay.looks]
        omega

theorem advance_early (backend : Backend σ κ) (job : Job κ α) (world : World σ κ) :
    job.advance backend false world = job.advance backend true world ∨
      Postpones backend (job.advance backend false world) job world := by
  induction job generalizing world with
  | done outcome => exact .inl rfl
  | record entry next ih => exact ih (world.add entry)
  | giveBack lease next ih => exact ih (backend.giveBack lease world)
  | pause held delay entries next ih =>
    exact postpones_pause backend held delay entries next world (ih (world.addAll entries))
  | acquire next ih =>
    exact postpones_pause backend .nothing _ _ _ _ (ih _ _)
  | call lease asked next ih =>
    exact postpones_pause backend (.lease lease) _ _ _ _ (ih _ _)

theorem again_pause {backend : Backend σ κ} (patient : Bool) (held : Held κ) (delay : Delay)
    (entries : List (Entry κ)) {next : Job κ α}
    (again : ∀ world, (next.advance backend true world).1.advance backend patient (next.advance backend true world).2 =
      next.advance backend true world) (world : World σ κ) :
    ((Job.pause held delay entries next).advance backend true world).1.advance backend patient
        ((Job.pause held delay entries next).advance backend true world).2 =
      (Job.pause held delay entries next).advance backend true world := by
  cases delay with
  | never => rfl
  | polls count => cases count <;> exact again (world.addAll entries)

/-- Whoever waited as long as it takes finds nothing new at another look. -/
theorem advance_again (backend : Backend σ κ) (patient : Bool) (job : Job κ α) (world : World σ κ) :
    (job.advance backend true world).1.advance backend patient (job.advance backend true world).2 =
      job.advance backend true world := by
  induction job generalizing world with
  | done outcome => rfl
  | record entry next ih => exact ih (world.add entry)
  | giveBack lease next ih => exact ih (backend.giveBack lease world)
  | pause held delay entries next ih => exact again_pause patient held delay entries ih world
  | acquire next ih => exact again_pause patient .nothing _ _ (ih _) _
  | call lease asked next ih => exact again_pause patient (.lease lease) _ _ (ih _) _

/-- A look, early or not, leaves the end of a job where it was. -/
theorem advance_resumes (backend : Backend σ κ) (patient : Bool) (job : Job κ α) (world : World σ κ) :
    (job.advance backend patient world).1.advance backend true (job.advance backend patient world).2 =
      job.advance backend true world := by
  cases patient with
  | true => exact advance_again backend true job world
  | false =>
    rcases job.advance_early backend world with same | ⟨_, later, _⟩
    · rw [same]
      exact advance_again backend true job world
    · exact later

end Job

namespace ProgramStream

/-- Looked at often enough, a stream waits, hands its result out once and then has nothing more to say. -/
theorem pollAll_finds (backend : Backend σ κ) (looks : List Bool) {job : Job κ α} {world after : World σ κ}
    (ends : job.advance backend true world = (.done outcome, after))
    (enough : job.looks backend world < looks.length) :
    ∃ early late, early ≤ job.looks backend world ∧ looks.length = early + 1 + late ∧
      pollAll backend looks ⟨some job⟩ world =
        (List.replicate early .pending ++ .item outcome :: List.replicate late (afterwards outcome),
          spent outcome, after) := by
  induction looks generalizing job world with
  | nil => cases enough
  | cons patient looks ih =>
    have found (now : job.advance backend patient world = (.done outcome, after)) :
        pollAll backend (patient :: looks) ⟨some job⟩ world =
          (.item outcome :: List.replicate looks.length (afterwards outcome), spent outcome, after) := by
      simp only [pollAll, poll_done backend patient now, pollAll_spent]
    cases patient with
    | true => exact ⟨0, looks.length, Nat.zero_le _, by simp; omega, found ends⟩
    | false =>
      -- The look ends the run, or the same end is still ahead and fewer looks are needed for it.
      rcases job.advance_early backend world with same | ⟨waits, later, fewer⟩
      · exact ⟨0, looks.length, Nat.zero_le _, by simp; omega, found (same.trans ends)⟩
      · have left : (job.advance backend false world).1.looks backend (job.advance backend false world).2 <
            looks.length := by
          simp only [List.length_cons] at enough
          omega
        obtain ⟨early, late, bound, count, rest⟩ := ih (later.trans ends) left
        refine ⟨early + 1, late, by omega, by simp only [List.length_cons]; omega, ?_⟩
        simp only [pollAll, poll_waiting backend false waits rfl, rest, List.replicate_succ, List.cons_append]

theorem pollAll_patient (backend : Backend σ κ) {looks : List Bool} (waited : true ∈ looks) (job : Job κ α)
    (world : World σ κ) : (pollAll backend looks ⟨some job⟩ world).2.2 = (job.advance backend true world).2 := by
  have settled (looks : List Bool) {rest : Job κ α} {after : World σ κ}
      (again : ∀ patient, rest.advance backend patient after = (rest, after)) :
      (pollAll backend looks ⟨some rest⟩ after).2.2 = after := by
    induction looks with
    | nil => rfl
    | cons patient looks ih =>
      rcases done_or_waits rest with ⟨outcome, rfl⟩ | waits
      · simp only [pollAll, poll_done backend patient (again patient), pollAll_spent]
      · simp only [pollAll, poll_waiting backend patient waits (again patient), ih]
  induction looks generalizing job world with
  | nil => cases waited
  | cons patient looks ih =>
    have resumes := job.advance_resumes backend patient world
    have again := fun other => job.advance_again backend other world
    cases left : job.advance backend patient world with
    | mk rest after =>
      rw [left] at resumes
      rcases done_or_waits rest with ⟨outcome, rfl⟩ | waits
      · simp only [pollAll, poll_done backend patient left, pollAll_spent, ← resumes]
        rfl
      · simp only [pollAll, poll_waiting backend patient waits left]
        cases patient with
        | false =>
          rcases List.mem_cons.mp waited with now | later
          · cases now
          · rw [ih later, resumes]
        | true =>
          rw [left] at again
          rw [settled looks again, left]

/-- What a stream says, if not that it waits, is the end of a patient run or what is left of one. -/
theorem pollAll_ends (backend : Backend σ κ) (looks : List Bool) {job : Job κ α} {world : World σ κ}
    {outcome : Outcome α}
    (found : .item outcome ∈ (pollAll backend looks ⟨some job⟩ world).1) :
    ∃ ended, job.advance backend true world = (.done ended, (pollAll backend looks ⟨some job⟩ world).2.2) ∧
      (outcome = ended ∨ afterwards ended = .item outcome) := by
  induction looks generalizing job world with
  | nil => cases found
  | cons patient looks ih =>
    have resumes := job.advance_resumes backend patient world
    cases left : job.advance backend patient world with
    | mk rest after =>
      rw [left] at resumes
      rcases done_or_waits rest with ⟨ended, rfl⟩ | waits
      · simp only [pollAll, poll_done backend patient left, pollAll_spent] at found ⊢
        refine ⟨ended, resumes.symm, ?_⟩
        rcases List.mem_cons.mp found with now | later
        · cases now
          exact .inl rfl
        · exact .inr (List.eq_of_mem_replicate later).symm
      · simp only [pollAll, poll_waiting backend patient waits left] at found ⊢
        rcases List.mem_cons.mp found with now | later
        · cases now
        · obtain ⟨ended, ends, same⟩ := ih later
          exact ⟨ended, resumes.symm.trans ends, same⟩

end ProgramStream

end SqlProgram
