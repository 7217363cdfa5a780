import Mathlib.Logic.Function.Basic
import SqlProgram.Proofs.JobSteps

/-!
Any number of runs over one backend. They take turns as somebody else decides, step by step, and each may be cancelled.
-/

namespace SqlProgram

section Own

variable [DecidableEq ι] {run other : ι} {said : List (ι × Entry κ)}

def own (run : ι) (said : List (ι × Entry κ)) : List (Entry κ) :=
  (said.filter fun spoken => spoken.1 = run).map Prod.snd

theorem own_append (run : ι) (said later : List (ι × Entry κ)) :
    own run (said ++ later) = own run said ++ own run later := by
  simp only [own, List.filter_append, List.map_append]

theorem own_cons_self (run : ι) (entry : Entry κ) (said : List (ι × Entry κ)) :
    own run ((run, entry) :: said) = entry :: own run said := by
  simp [own]

theorem own_cons_other (different : other ≠ run) (entry : Entry κ) (said : List (ι × Entry κ)) :
    own run ((other, entry) :: said) = own run said := by
  simp [own, different]

theorem own_snoc_self (run : ι) (entry : Entry κ) (said : List (ι × Entry κ)) :
    own run (said ++ [(run, entry)]) = own run said ++ [entry] := by
  rw [own_append, own_cons_self]
  rfl

theorem own_snoc_other (different : other ≠ run) (entry : Entry κ) (said : List (ι × Entry κ)) :
    own run (said ++ [(other, entry)]) = own run said := by
  rw [own_append, own_cons_other different]
  exact List.append_nil _

theorem own_tagged_self (run : ι) (entries : List (Entry κ)) : own run (entries.map (run, ·)) = entries := by
  induction entries with
  | nil => rfl
  | cons entry entries ih => rw [List.map_cons, own_cons_self, ih]

theorem own_tagged_other (different : other ≠ run) (entries : List (Entry κ)) :
    own run (entries.map (other, ·)) = [] := by
  induction entries with
  | nil => rfl
  | cons entry entries ih => rw [List.map_cons, own_cons_other different, ih]

theorem mem_own {entry : Entry κ} : entry ∈ own run said ↔ (run, entry) ∈ said := by
  simp [own]

end Own

structure Shared (σ κ : Type) {ι : Type} (α : ι → Type) where
  state : σ
  tasks : ∀ run, Task κ (α run)
  /-- What was recorded so far, and by whom. -/
  said : List (ι × Entry κ)

namespace Shared

variable {ι : Type} [DecidableEq ι] {α : ι → Type}

def move (backend : Backend σ κ) (run : ι) (move : Move) (shared : Shared σ κ α) : Shared σ κ α :=
  let moved := (shared.tasks run).move backend move (.ofState shared.state)
  { state := moved.2.state
    tasks := Function.update shared.tasks run moved.1
    said := shared.said ++ moved.2.history.map (run, ·) }

def play (backend : Backend σ κ) (schedule : List (ι × Move)) (shared : Shared σ κ α) : Shared σ κ α :=
  schedule.foldl (fun shared turn => shared.move backend turn.1 turn.2) shared

variable (backend : Backend σ κ) {run other : ι} {shared : Shared σ κ α}

theorem move_tasks_self (run : ι) (move : Move) (shared : Shared σ κ α) :
    (shared.move backend run move).tasks run = ((shared.tasks run).move backend move (.ofState shared.state)).1 :=
  Function.update_self ..

theorem move_tasks_other (different : other ≠ run) (move : Move) (shared : Shared σ κ α) :
    (shared.move backend run move).tasks other = shared.tasks other :=
  Function.update_of_ne different ..

theorem own_move_self (run : ι) (move : Move) (shared : Shared σ κ α) :
    own run (shared.move backend run move).said = own run shared.said ++
      ((shared.tasks run).move backend move (.ofState shared.state)).2.history := by
  rw [Shared.move, own_append, own_tagged_self]

theorem own_move_other (different : other ≠ run) (move : Move) (shared : Shared σ κ α) :
    own other (shared.move backend run move).said = own other shared.said := by
  rw [Shared.move, own_append, own_tagged_other different.symm, List.append_nil]

variable {rule : Rule κ S} {initial : S}

/-- Each run kept to the rule and obeys it from where it stands. -/
def Keeps (rule : Rule κ S) (initial : S) (shared : Shared σ κ α) : Prop :=
  ∀ run, ∃ state, rule.Runs initial (own run shared.said) state ∧ (shared.tasks run).Obeys rule state

theorem Keeps.move (keeps : shared.Keeps rule initial) (run : ι) (move : Move) :
    (shared.move backend run move).Keeps rule initial := by
  intro other
  obtain ⟨state, runs, obeys⟩ := keeps other
  by_cases same : other = run
  · subst same
    obtain ⟨later, ⟨entries, grown, more⟩, left⟩ := Task.move_obeys backend move obeys (.ofState shared.state)
    refine ⟨later, ?_, ?_⟩
    · rw [own_move_self, grown]
      exact runs.append more
    · rw [move_tasks_self]
      exact left
  · refine ⟨state, ?_, ?_⟩
    · rw [own_move_other backend same]
      exact runs
    · rw [move_tasks_other backend same]
      exact obeys

/-- However the runs take turns, each keeps to the rule. -/
theorem Keeps.play (keeps : shared.Keeps rule initial) (schedule : List (ι × Move)) :
    (shared.play backend schedule).Keeps rule initial := by
  induction schedule generalizing shared with
  | nil => exact keeps
  | cons turn schedule ih => exact ih (keeps.move backend turn.1 turn.2)

end Shared

end SqlProgram
