import SqlProgram.Proofs.JobRules
import SqlProgram.Proofs.StreamPolling

/-!
Streams under a rule: whatever a stream was looked at for, it may be let go of.
-/

namespace SqlProgram.ProgramStream

variable {rule : Rule κ S}

def Obeys (rule : Rule κ S) (stream : ProgramStream κ α) (state : S) : Prop :=
  match stream.running with
  | none => rule.Over state
  | some job => job.Obeys rule state ∧ rule.Drops state job.held

theorem spent_obeys {outcome : Outcome α} (finished : rule.Over state) :
    (spent outcome : ProgramStream κ α).Obeys rule state := by
  cases outcome with
  | panicked panic => exact ⟨finished, finished⟩
  | _ => exact finished

theorem poll_obeys (backend : Backend σ κ) (patient : Bool) {stream : ProgramStream κ α}
    (obeys : stream.Obeys rule state) (world : World σ κ) :
    ∃ later, rule.Leads state world later (stream.poll backend patient world).2.2 ∧
      (stream.poll backend patient world).2.1.Obeys rule later := by
  obtain ⟨running⟩ := stream
  cases running with
  | none => exact ⟨state, .refl state world, obeys⟩
  | some job =>
    obtain ⟨later, leads, kept, drops⟩ := Job.advance_obeys backend patient obeys.1 world
    cases left : job.advance backend patient world with
    | mk rest after =>
      rw [left] at leads kept drops
      rcases done_or_waits rest with ⟨outcome, rfl⟩ | waits
      · rw [poll_done backend patient left]
        exact ⟨later, leads, spent_obeys kept⟩
      · rw [poll_waiting backend patient waits left]
        exact ⟨later, leads, kept, drops⟩

theorem pollAll_obeys (backend : Backend σ κ) (looks : List Bool) {stream : ProgramStream κ α}
    (obeys : stream.Obeys rule state) (world : World σ κ) :
    ∃ later, rule.Leads state world later (pollAll backend looks stream world).2.2 ∧
      (pollAll backend looks stream world).2.1.Obeys rule later := by
  induction looks generalizing stream state world with
  | nil => exact ⟨state, .refl state world, obeys⟩
  | cons patient looks ih =>
    obtain ⟨middle, first, kept⟩ := poll_obeys backend patient obeys world
    obtain ⟨later, rest, left⟩ := ih kept (stream.poll backend patient world).2.2
    exact ⟨later, first.trans rest, left⟩

theorem drop_obeys (backend : Backend σ κ) {stream : ProgramStream κ α}
    (obeys : stream.Obeys rule state) (world : World σ κ) :
    ∃ later, rule.Leads state world later (stream.drop backend world) ∧ rule.Over later := by
  obtain ⟨running⟩ := stream
  cases running with
  | none => exact ⟨state, .refl state world, obeys⟩
  | some job => exact Job.reclaim_obeys backend obeys.2 world

end SqlProgram.ProgramStream
