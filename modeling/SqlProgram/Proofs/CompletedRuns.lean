import SqlProgram.Proofs.AnsweredRuns
import SqlProgram.Proofs.BlockingTurns
import SqlProgram.Proofs.ReactiveTurns
import SqlProgram.Proofs.RunAgreement

/-!
Runs that came to their end, whichever way they were run: the turns that they took, as their histories
tell them.
-/

namespace SqlProgram

/-- The turns of a run on one connection, which its history tells and nothing else. -/
structure Blocking.Took (backend : Backend σ κ) (program : Program α) (world : World σ κ) (turns : List (Turn κ))
    (outcome : Outcome α) (after : World σ κ) : Prop where
  conducted : Conducted backend program world.state turns outcome
  recorded : after.steps = world.steps ++ turns.flatMap Turn.entries

structure Reactive.Took (backend : Backend σ κ) (program : Program α) (world : World σ κ) (turns : List (Turn κ))
    (outcome : Outcome α) (after : World σ κ) : Prop where
  served : ∃ later, program.course.Served (Serves backend) world.state turns outcome later
  recorded : after.steps = world.steps ++ turns.flatMap Turn.entries

/-- What is so of the turns and the end of every run of a program that ends. A captured run ends as the
run that it captures, and a stream says how its run ended or, after a panic, that it is resumed. -/
structure Program.EveryRun (backend : Backend σ κ) (program : Program α) (world : World σ κ)
    (holds : List (Turn κ) → Outcome α → Prop) : Prop where
  direct : ∀ outcome, (program.runDirect backend world).1 = some outcome →
    ∃ turns, Blocking.Took backend program world turns outcome (program.runDirect backend world).2 ∧ holds turns outcome
  captured : ∀ outcome, (program.runCaptured backend world).1 = some outcome →
    ∃ turns ended, Blocking.Took backend program world turns ended (program.runCaptured backend world).2 ∧
      holds turns ended ∧ outcome = ended.captured
  deferred : ∃ deferred, program.runDeferred backend world = (some (.ok deferred), world) ∧
    ∀ later outcome, (deferred.force later).1 = some outcome →
      ∃ turns, Blocking.Took backend program later turns outcome (deferred.force later).2 ∧ holds turns outcome
  async : ∀ outcome, (program.runAsync backend world).1 = some outcome →
    ∃ turns, Reactive.Took backend program world turns outcome (program.runAsync backend world).2 ∧ holds turns outcome
  stream : ∀ looks outcome,
    .item outcome ∈ (ProgramStream.pollAll backend looks (program.stream backend) world).1 →
      ∃ turns ended, Reactive.Took backend program world turns ended
          (ProgramStream.pollAll backend looks (program.stream backend) world).2.2 ∧
        holds turns ended ∧ (outcome = ended ∨ ProgramStream.afterwards ended = .item outcome)

theorem Strategy.capture_ends {action : Action σ κ α} {world : World σ κ} {outcome : Outcome α}
    (captured : (capture action world).1 = some outcome) :
    ∃ ended, (action world).1 = some ended ∧ outcome = ended.captured ∧
      (capture action world).2.steps = (action world).2.steps := by
  unfold capture at captured ⊢
  revert captured
  generalize action world = ran
  obtain ⟨result, after⟩ := ran
  intro captured
  match result with
  | none => cases captured
  | some (.ok value) =>
    cases captured
    exact ⟨_, rfl, rfl, rfl⟩
  | some (.failed failure) =>
    cases captured
    exact ⟨_, rfl, rfl, rfl⟩
  | some (.panicked (.message message)) =>
    cases captured
    exact ⟨_, rfl, rfl, World.steps_quiet rfl after⟩
  | some (.panicked .other) =>
    cases captured
    exact ⟨_, rfl, rfl, World.steps_quiet rfl after⟩

/-- Where all answers arrive, every run has the end of which something is so. -/
theorem Program.EveryRun.reached {backend : Backend σ κ} {program : Program α} {world : World σ κ}
    {holds : List (Turn κ) → Outcome α → Prop} (every : program.EveryRun backend world holds)
    (completes : program.Completes backend world) :
    (∃ turns outcome, (program.runDirect backend world).1 = some outcome ∧ holds turns outcome) ∧
      (∃ turns ended, (program.runCaptured backend world).1 = some ended.captured ∧ holds turns ended) ∧
      (∃ deferred, program.runDeferred backend world = (some (.ok deferred), world) ∧
        ∃ turns outcome, (deferred.force world).1 = some outcome ∧ holds turns outcome) ∧
      (∃ turns outcome, (program.runAsync backend world).1 = some outcome ∧ holds turns outcome) ∧
      ∃ enough, ∀ looks, enough < looks.length → ∃ turns ended outcome,
        .item outcome ∈ (ProgramStream.pollAll backend looks (program.stream backend) world).1 ∧
          holds turns ended ∧ (outcome = ended ∨ ProgramStream.afterwards ended = .item outcome) := by
  refine ⟨?_, ?_, ?_, ?_, ?_⟩
  · obtain ⟨outcome, ended⟩ := completes.direct
    obtain ⟨turns, _, holding⟩ := every.direct outcome ended
    exact ⟨turns, outcome, ended, holding⟩
  · obtain ⟨outcome, captured⟩ := completes.captured
    obtain ⟨turns, ended, _, holding, rfl⟩ := every.captured outcome captured
    exact ⟨turns, ended, captured, holding⟩
  · obtain ⟨deferred, ran, outcome, ended⟩ := completes.deferred
    obtain ⟨other, same, forced⟩ := every.deferred
    cases ran.symm.trans same
    obtain ⟨turns, _, holding⟩ := forced world outcome ended
    exact ⟨deferred, ran, turns, outcome, ended, holding⟩
  · obtain ⟨outcome, ended⟩ := completes.async
    obtain ⟨turns, _, holding⟩ := every.async outcome ended
    exact ⟨turns, outcome, ended, holding⟩
  · obtain ⟨enough, found⟩ := completes.stream
    refine ⟨enough, fun looks long => ?_⟩
    obtain ⟨outcome, item⟩ := found looks long
    obtain ⟨turns, ended, _, holding, same⟩ := every.stream looks outcome item
    exact ⟨turns, ended, outcome, item, holding, same⟩

/-- What is so of all turns on one connection and of all turns on many is so of every run. -/
theorem Program.everyRun {backend : Backend σ κ} {program : Program α} {holds : List (Turn κ) → Outcome α → Prop}
    (blocking : ∀ state turns outcome, Blocking.Conducted backend program state turns outcome → holds turns outcome)
    (reactive : ∀ state turns outcome later,
      program.course.Served (Reactive.Serves backend) state turns outcome later → holds turns outcome)
    (world : World σ κ) : program.EveryRun backend world holds := by
  have direct (world : World σ κ) (outcome : Outcome α) (ended : (program.runDirect backend world).1 = some outcome) :
      ∃ turns, Blocking.Took backend program world turns outcome (program.runDirect backend world).2 ∧
        holds turns outcome := by
    obtain ⟨turns, conducted, recorded⟩ := Blocking.job_conducted program (Job.advance_of_toAction ended)
    exact ⟨turns, ⟨conducted, recorded⟩, blocking _ _ _ conducted⟩
  refine ⟨direct world, fun outcome ended => ?_, ⟨_, rfl, direct⟩, fun outcome ended => ?_,
    fun looks outcome found => ?_⟩
  · obtain ⟨result, ran, same, steps⟩ := Strategy.capture_ends ended
    obtain ⟨turns, took, holding⟩ := direct world result ran
    exact ⟨turns, result, ⟨took.conducted, steps.trans took.recorded⟩, holding, same⟩
  · obtain ⟨turns, later, served, recorded⟩ := Reactive.job_conducted program (Job.advance_of_toAction ended)
    exact ⟨turns, ⟨⟨later, served⟩, recorded⟩, reactive _ _ _ _ served⟩
  · obtain ⟨ended, ends, same⟩ := ProgramStream.pollAll_ends backend looks found
    obtain ⟨turns, later, served, recorded⟩ := Reactive.job_conducted program ends
    exact ⟨turns, ended, ⟨⟨later, served⟩, recorded⟩, reactive _ _ _ _ served, same⟩

theorem Program.everyRun_of_served {backend : Backend σ κ} {program : Program α}
    {holds : List (Turn κ) → Outcome α → Prop} (refused : ∀ outcome, outcome.isOk = false → holds [] outcome)
    (served : ∀ {service : Service σ κ} {state turns outcome later}, service.Sound →
      program.course.Served service state turns outcome later → holds turns outcome)
    (world : World σ κ) : program.EveryRun backend world holds := by
  refine everyRun (fun state turns outcome conducted => ?_) (fun state turns outcome later taken => ?_) world
  · cases conducted with
    | refused => exact refused _ rfl
    | panicked => exact refused _ rfl
    | lent lent taken => exact served (Blocking.service_sound backend _) taken
  · exact served (Reactive.serves_sound backend) taken

end SqlProgram
