import SqlProgram.Run.ProgramStream

/-!
What a stream says: that it waits, its result once, and then that it has ended or, after a panic, the
panic of a run that is resumed.
-/

namespace SqlProgram.ProgramStream

def spent : Outcome α → ProgramStream κ α
  | .panicked _ => ⟨some poisoned⟩
  | _ => ⟨none⟩

/-- What such a stream says. -/
def afterwards : Outcome α → Polled (Outcome α)
  | .panicked _ => .item (.panicked resumedPanic)
  | _ => .ended

theorem poll_done (backend : Backend σ κ) (patient : Bool) {job : Job κ α} {world after : World σ κ}
    (ends : job.advance backend patient world = (.done outcome, after)) :
    poll backend patient ⟨some job⟩ world = (.item outcome, spent outcome, after) := by
  simp only [poll, ends]
  cases outcome <;> rfl

theorem poll_waiting (backend : Backend σ κ) (patient : Bool) {job rest : Job κ α} {world after : World σ κ}
    (waits : ∀ outcome, rest ≠ .done outcome) (left : job.advance backend patient world = (rest, after)) :
    poll backend patient ⟨some job⟩ world = (.pending, ⟨some rest⟩, after) := by
  simp only [poll, left]
  cases rest with
  | done outcome => exact absurd rfl (waits outcome)
  | _ => rfl

theorem poll_spent (backend : Backend σ κ) (patient : Bool) (outcome : Outcome α) (world : World σ κ) :
    (spent outcome).poll backend patient world = (afterwards outcome, spent outcome, world) := by
  cases outcome <;> rfl

theorem pollAll_spent (backend : Backend σ κ) (looks : List Bool) (outcome : Outcome α) (world : World σ κ) :
    pollAll backend looks (spent outcome) world =
      (List.replicate looks.length (afterwards outcome), spent outcome, world) := by
  induction looks with
  | nil => rfl
  | cons patient looks ih =>
    simp only [pollAll, poll_spent, ih]
    rfl

theorem done_or_waits (job : Job κ α) : (∃ outcome, job = .done outcome) ∨ ∀ outcome, job ≠ .done outcome := by
  cases job with
  | done outcome => exact .inl ⟨outcome, rfl⟩
  | _ => exact .inr fun _ => nofun

theorem pollAll_item (backend : Backend σ κ) (looks : List Bool) {job : Job κ α} (world : World σ κ)
    (found : .item outcome ∈ (pollAll backend looks ⟨some job⟩ world).1) :
    ∃ result, (pollAll backend looks ⟨some job⟩ world).2.1 = spent result := by
  induction looks generalizing job world with
  | nil => cases found
  | cons patient looks ih =>
    cases left : job.advance backend patient world with
    | mk rest after =>
      rcases done_or_waits rest with ⟨result, rfl⟩ | waits
      · simp only [pollAll, poll_done backend patient left, pollAll_spent]
        exact ⟨result, rfl⟩
      · simp only [pollAll, poll_waiting backend patient waits left] at found ⊢
        rcases List.mem_cons.mp found with now | later
        · cases now
        · exact ih after later

/-- Nothing is left to be given back once a run is over. -/
theorem drop_spent (backend : Backend σ κ) (outcome : Outcome α) (world : World σ κ) :
    (spent outcome).drop backend world = world := by
  cases outcome <;> rfl

end SqlProgram.ProgramStream
