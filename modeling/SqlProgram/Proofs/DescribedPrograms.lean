import Mathlib.Data.List.Permutation
import SqlProgram.Proofs.FlatPrograms
import SqlProgram.Proofs.OpeningCalls
import SqlProgram.Proofs.StreamRules
import SqlProgram.Script.Backend

/-!
What a program says of itself before it runs. The leaf that it names is reached first by every run, and of all statements
that of the leaf is called first.
-/

namespace SqlProgram

/-- Between two worlds a leaf came first. -/
def Leaf.CameFirst (leaf : Leaf) (call : Call) (world after : World σ κ) : Prop :=
  ∃ entries, after.history = world.history ++ entries ∧ leaf.ComesFirst call entries

namespace Onset

variable {leaf : Leaf} {call : Call} {world after : World σ κ} {stage : Onset κ}

theorem cameFirst_of_leads (leads : (onset leaf call).Leads (.unlent false) world stage after)
    (finished : stage.IsOver) : leaf.CameFirst call world after := by
  obtain ⟨entries, grown, runs⟩ := leads
  exact ⟨entries, grown, comesFirst_of_runs runs finished⟩

/-- Wherever a job may be let go of, its first call was made or never will be. -/
theorem over_of_drops {held : Held κ} (drops : (onset leaf call).Drops stage held) : stage.IsOver := by
  have gone (lease : Lease κ) (given : ∃ later, (onset leaf call).Runs stage [lease.farewell] later ∧
      (onset leaf call).Over later) : stage.IsOver := by
    obtain ⟨later, runs, _⟩ := given
    obtain ⟨middle, step, _⟩ := runs.first (by unfold Lease.farewell; split <;> rfl)
    unfold Lease.farewell at step
    -- Neither right after it was lent nor right after a begin may a connection go back.
    cases stage with
    | lent connection => split at step <;> cases step
    | begun connection => split at step <;> cases step
    | _ => exact trivial
  cases held with
  | nothing => exact drops
  | lease lease => exact gone lease drops
  | rows lease rows => exact gone lease drops

theorem over_of_stream {stream : ProgramStream κ α} (obeys : stream.Obeys (onset leaf call) stage) : stage.IsOver := by
  obtain ⟨running⟩ := stream
  cases running with
  | none => exact obeys
  | some job => exact over_of_drops obeys.2

end Onset

namespace Program

/-- Every run of a program from a world on begins with a leaf, by what its backend answers. So does a stream that was
once looked at for as long as it takes; however else it was looked at, and if it was let go of then, no other statement
came before that of the leaf. -/
structure BeginsWith (backend : Backend σ κ) (program : Program α) (leaf : Leaf) (world : World σ κ) : Prop where
  direct : leaf.Opened backend (leaf.call backend.describes .query) [] world (program.runDirect backend world).2
  captured : leaf.Opened backend (leaf.call backend.describes .query) [] world (program.runCaptured backend world).2
  deferred : ∃ deferred, program.runDeferred backend world = (some (.ok deferred), world) ∧
    ∀ later, leaf.Opened backend (leaf.call backend.describes .query) [] later (deferred.force later).2
  async : leaf.Opened backend (leaf.call backend.describes .openRows) [.told (.running leaf)] world
    (program.runAsync backend world).2
  stream : ∀ looks,
    let looked := ProgramStream.pollAll backend looks (program.stream backend) world
    leaf.CameFirst (leaf.call backend.describes .openRows) world looked.2.2 ∧
      leaf.CameFirst (leaf.call backend.describes .openRows) world (looked.2.1.drop backend looked.2.2) ∧
      (true ∈ looks → leaf.Opened backend (leaf.call backend.describes .openRows) [.told (.running leaf)] world
        looked.2.2)

theorem meaning_of_first {leaf : Leaf} {read : leaf.Answer → Outcome β} :
    ∀ program : Program α, program.first = ⟨β, .step leaf read⟩ → ∃ next, program.meaning = .ofLeaf leaf next
  | .step own other, same => by
    cases same
    exact ⟨_, rfl⟩
  | .queued head queue, same => by
    obtain ⟨next, begins⟩ := meaning_of_first head same
    rw [meaning, begins, Dialogue.bind_ofLeaf]
    exact ⟨_, rfl⟩

/-- A run begins with what runs first. -/
theorem beginsWith_of_first (backend : Backend σ κ) {program : Program α} {leaf : Leaf}
    {read : leaf.Answer → Outcome β} (first : program.first = ⟨β, .step leaf read⟩) (world : World σ κ) :
    program.BeginsWith backend leaf world := by
  obtain ⟨next, begins⟩ := meaning_of_first program first
  rw [← dialogue_eq_meaning] at begins
  have direct (later : World σ κ) : leaf.Opened backend (leaf.call backend.describes .query) [] later
      (program.runDirect backend later).2 := Blocking.job_opens begins later
  have async : leaf.Opened backend (leaf.call backend.describes .openRows) [.told (.running leaf)] world
      (program.runAsync backend world).2 := Reactive.job_opens begins world
  refine ⟨direct world, (direct world).captured, ⟨_, rfl, direct⟩, async, ?_⟩
  intro looks
  have kept : (program.stream backend).Obeys
      (Onset.onset (κ := κ) leaf (leaf.call backend.describes .openRows)) (.unlent false) := by
    have reactive := Reactive.serve_ofLeaf (κ := κ) backend.describes leaf next
    rw [← begins] at reactive
    refine ⟨reactive, ?_⟩
    rw [Reactive.job, begins]
    exact trivial
  obtain ⟨stage, leads, obeys⟩ := ProgramStream.pollAll_obeys backend looks kept world
  obtain ⟨later, last, finished⟩ := ProgramStream.drop_obeys backend obeys
    (ProgramStream.pollAll backend looks (program.stream backend) world).2.2
  refine ⟨Onset.cameFirst_of_leads leads (Onset.over_of_stream obeys),
    Onset.cameFirst_of_leads (leads.trans last) finished, ?_⟩
  intro waited
  have same := ProgramStream.pollAll_patient backend waited (Reactive.job backend.describes program) world
  exact same ▸ async

/-- A program that was put together is flat, and grows by one continuation with every extension. What it says of itself
is the leaf that runs first, and with that leaf all its runs begin. -/
theorem described_first {program : Program α} (built : program.Built) :
    program.IsFlat ∧
      (∀ β (extensions : Extensions α β), program.isFail = false →
        (extensions.apply program).head = program.head ∧
          (extensions.apply program).pending = program.pending + extensions.length) ∧
      (∀ β (extensions : Extensions α β) failure, program = .fail failure →
        extensions.apply program = .fail failure) ∧
      ∀ leaf, (program.describe = some leaf ↔ ∃ β read, program.first = ⟨β, .step leaf read⟩) ∧
        (program.describe = some leaf →
          ∀ {σ κ : Type} (backend : Backend σ κ) (world : World σ κ), program.BeginsWith backend leaf world) := by
  have flat := built.isFlat
  have described (leaf : Leaf) :
      program.describe = some leaf ↔ ∃ β read, program.first = ⟨β, .step leaf read⟩ := by
    rw [flat.first_eq_head]
    exact describe_eq_some_iff
  refine ⟨flat, ?_, ?_, fun leaf => ⟨described leaf, ?_⟩⟩
  · intro β extensions running
    exact (extensions_grow running extensions).2
  · intro β extensions failure failed
    rw [failed]
    exact extensions_fail failure extensions
  · intro known σ κ backend world
    obtain ⟨β, read, first⟩ := (described leaf).mp known
    exact beginsWith_of_first backend first world

/-- A leaf with a transaction of its own, extended three times, and how a run of it begins with one connection and with
a connection for each leaf. -/
theorem described_first_inserted :
    let leaf : Leaf := ⟨.updateReturning "id", ⟨"insert into t values (1)", []⟩⟩
    let inserted : Program (Option Row) := Extension.apply (.step leaf .ok) (.tryMap .ok)
    let extensions : Extensions (Option Row) Nat := .snoc (.snoc .none (.map Option.isSome)) (.andThen (.pure 3))
    let world : World Script.State Nat := .ofState {
      acquire := [], begin := [⟨.polls 1, .ok (), []⟩], commit := [], rollback := [], update := []
      updateReturning := [], query := [], lent := 0 }
    (extensions.apply inserted).pending = 3 ∧ inserted.describe = some leaf ∧
      inserted.BeginsWith (Script.backend false) leaf world ∧
      ((inserted.runDirect (Script.backend false) world).2.steps.take 4 =
        leaf.opening (.updateReturning leaf.statement "id") 1) ∧
      ((inserted.runAsync (Script.backend false) world).2.steps.take 4 =
        leaf.opening (.updateReturning leaf.statement "id") 1) := by
  intro leaf inserted extensions world
  have built : inserted.Built := .extended (.step leaf .ok) (.tryMap .ok)
  obtain ⟨_, grown, _, known⟩ := described_first built
  refine ⟨(grown Nat extensions rfl).2, rfl, (known leaf).2 rfl (Script.backend false) world, ?_, ?_⟩
  · rw [runDirect, runWith, Blocking.job, dialogue_eq_meaning]
    cbv
  · rw [runAsync, Reactive.job, dialogue_eq_meaning]
    cbv

end Program

end SqlProgram
