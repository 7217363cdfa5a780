import SqlProgram.Proofs.ProgramMeaning

/-!
The course of a program: its leaves, and what follows each answer to one. Every dialogue of a program is
held leaf by leaf along its course.
-/

namespace SqlProgram

inductive Course (α : Type) where
  | done (outcome : Outcome α)
  | reach (leaf : Leaf) (next : leaf.Answer → Course α)

namespace Course

def ofOutcome (next : α → Course β) : Outcome α → Course β
  | .ok value => next value
  | .failed failure => .done (.failed failure)
  | .panicked panic => .done (.panicked panic)

def bind (first : Course α) (next : α → Course β) : Course β :=
  match first with
  | .done outcome => ofOutcome next outcome
  | .reach leaf rest => .reach leaf fun answer => (rest answer).bind next

def dialogue : Course α → Dialogue α
  | .done outcome => .done outcome
  | .reach leaf next => .ofLeaf leaf fun answer => (next answer).dialogue

theorem dialogue_ofOutcome (next : α → Course β) (outcome : Outcome α) :
    (ofOutcome next outcome).dialogue = .ofOutcome (fun value => (next value).dialogue) outcome := by
  cases outcome <;> rfl

theorem dialogue_bind (first : Course α) (next : α → Course β) :
    (first.bind next).dialogue = first.dialogue.bind fun value => (next value).dialogue := by
  induction first with
  | done outcome => exact dialogue_ofOutcome next outcome
  | reach leaf rest ih => simp only [bind, dialogue, Dialogue.bind_ofLeaf, ih]

/-- A course that may end in a failure of its own, after answers that are all well. -/
inductive Raises (failure : Failure) : Course α → Prop where
  | done : Raises failure (.done (.failed failure))
  | reach {leaf : Leaf} {next : leaf.Answer → Course α} (answer : leaf.Answer) (rest : Raises failure (next answer)) :
      Raises failure (.reach leaf next)

end Course

mutual

def Program.course : Program α → Course α
  | .pure value => .done (.ok value)
  | .fail failure => .done (.failed failure)
  | .panic cause => .done (.panicked cause)
  | .suspend body => (body ()).course
  | .step leaf read => .reach leaf fun answer => .done (read answer)
  | .queued head queue => head.course.bind queue.course

def Continuations.course : Continuations α β → α → Course β
  | .one next, value => (next value).course
  | .snoc queue next, value => (queue.course value).bind fun value => (next value).course

end

mutual

theorem Program.meaning_eq_course (program : Program α) : program.meaning = program.course.dialogue :=
  match program with
  | .pure _ | .fail _ | .panic _ | .step _ _ => rfl
  | .suspend body => (body ()).meaning_eq_course
  | .queued head queue => by
    rw [Program.meaning, Program.course, Course.dialogue_bind, head.meaning_eq_course]
    congr 1
    funext value
    exact queue.meaning_eq_course value

theorem Continuations.meaning_eq_course (queue : Continuations α β) (value : α) :
    queue.meaning value = (queue.course value).dialogue :=
  match queue with
  | .one next => (next value).meaning_eq_course
  | .snoc queue next => by
    rw [Continuations.meaning, Continuations.course, Course.dialogue_bind, queue.meaning_eq_course value]
    congr 1
    funext value
    exact (next value).meaning_eq_course

end

theorem Program.dialogue_eq_course (program : Program α) : program.dialogue = program.course.dialogue :=
  program.dialogue_eq_meaning.trans program.meaning_eq_course

end SqlProgram
