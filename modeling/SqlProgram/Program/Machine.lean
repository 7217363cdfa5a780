import SqlProgram.Program.Basic
import SqlProgram.Program.Dialogue

/-!
The machine that runs programs. What waits for a value lies on a stack, so neither the length of a
chain of programs nor the way it was put together makes a run nest.
-/

namespace SqlProgram

/-- What waits for a value, the first to run on top. -/
inductive Pending : Type → Type → Type 1 where
  | empty : Pending α α
  | push (next : α → Program β) (rest : Pending β γ) : Pending α γ

/-- The stack with a queue above it; the last of the queue goes down first. -/
def Continuations.onto : Continuations α β → Pending β γ → Pending α γ
  | .one next, pending => .push next pending
  | .snoc queue next, pending => queue.onto (.push next pending)

/-- What runs now and what waits for its value. -/
structure Machine (α : Type) where
  {value : Type}
  current : Program value
  pending : Pending value α

namespace Machine

/-- How a machine goes on by itself or with an answer: the later machine stands first. -/
inductive Follows : Machine α → Machine α → Prop where
  | resumed (value : β) (next : β → Program γ) (rest : Pending γ α) :
      Follows ⟨next value, rest⟩ ⟨.pure value, .push next rest⟩
  | described (body : Unit → Program β) (pending : Pending β α) :
      Follows ⟨body (), pending⟩ ⟨.suspend body, pending⟩
  | answered (leaf : Leaf) (read : leaf.Answer → Outcome β) (value : β) (pending : Pending β α) :
      Follows ⟨.pure value, pending⟩ ⟨.step leaf read, pending⟩
  | unfolded (head : Program β) (queue : Continuations β γ) (pending : Pending γ α) :
      Follows ⟨head, queue.onto pending⟩ ⟨.queued head queue, pending⟩

mutual

/-- A program ends if what waits for it ends with every value. -/
theorem acc_program (program : Program β) (pending : Pending β α)
    (later : ∀ value, Acc Follows (⟨.pure value, pending⟩ : Machine α)) :
    Acc Follows (⟨program, pending⟩ : Machine α) :=
  match program with
  | .pure value => later value
  | .fail _ => ⟨_, fun _ follows => nomatch follows⟩
  | .panic _ => ⟨_, fun _ follows => nomatch follows⟩
  | .suspend body => ⟨_, fun _ follows => by
      cases follows
      exact acc_program (body ()) pending later⟩
  | .step leaf read => ⟨_, fun _ follows => by
      cases follows
      exact later _⟩
  | .queued head queue => ⟨_, fun _ follows => by
      cases follows
      exact acc_program head (queue.onto pending) (acc_queue queue pending later)⟩

theorem acc_queue (queue : Continuations β γ) (pending : Pending γ α)
    (later : ∀ value, Acc Follows (⟨.pure value, pending⟩ : Machine α)) (value : β) :
    Acc Follows (⟨.pure value, queue.onto pending⟩ : Machine α) :=
  match queue with
  | .one next => ⟨_, fun _ follows => by
      cases follows
      exact acc_program (next value) pending later⟩
  | .snoc queue next => acc_queue queue (.push next pending)
      (fun value => ⟨_, fun _ follows => by
        cases follows
        exact acc_program (next value) pending later⟩) value

end

theorem acc_pending (pending : Pending β α) (value : β) :
    Acc Follows (⟨.pure value, pending⟩ : Machine α) := by
  induction pending with
  | empty => exact ⟨_, fun _ follows => nomatch follows⟩
  | push next rest ih =>
    refine ⟨_, fun _ follows => ?_⟩
    cases follows
    exact acc_program (next value) rest ih

/-- Every run ends, whatever is answered. -/
theorem wellFounded_follows : WellFounded (Follows (α := α)) :=
  ⟨fun machine => acc_program machine.current machine.pending (acc_pending machine.pending)⟩

instance : WellFoundedRelation (Machine α) := ⟨Follows, wellFounded_follows⟩

/-- The dialogue of a machine: it ends with the last value, or with the first failure. -/
def dialogue : Machine α → Dialogue α
  | ⟨.pure value, .empty⟩ => .done (.ok value)
  | ⟨.pure value, .push next rest⟩ => dialogue ⟨next value, rest⟩
  | ⟨.fail failure, _⟩ => .done (.failed failure)
  | ⟨.panic cause, _⟩ => .done (.panicked cause)
  | ⟨.suspend body, pending⟩ => dialogue ⟨body (), pending⟩
  | ⟨.step leaf read, pending⟩ =>
    .ofLeaf leaf fun answer =>
      .ofOutcome (fun value => dialogue ⟨.pure value, pending⟩) (read answer)
  | ⟨.queued head queue, pending⟩ => dialogue ⟨head, queue.onto pending⟩
termination_by machine => machine
decreasing_by
  all_goals constructor

end Machine

def Program.dialogue (program : Program α) : Dialogue α := Machine.dialogue ⟨program, .empty⟩

end SqlProgram
