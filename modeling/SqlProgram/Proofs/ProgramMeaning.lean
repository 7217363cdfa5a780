import SqlProgram.Program.Machine

/-!
What programs mean, said by recursion over their parts, and that the machine with its stack holds
exactly the dialogues that are meant.
-/

namespace SqlProgram

namespace Dialogue

theorem bind_assoc (first : Dialogue α) (next : α → Dialogue β) (last : β → Dialogue γ) :
    (first.bind next).bind last = first.bind fun value => (next value).bind last := by
  induction first with
  | done outcome => cases outcome <;> rfl
  | note event rest ih => exact congrArg (Dialogue.note event) ih
  | ask request rest ih =>
    simp only [bind]
    congr 1
    funext answer
    exact ih answer

theorem bind_done (first : Dialogue α) : (first.bind fun value => .done (.ok value)) = first := by
  induction first with
  | done outcome => cases outcome <;> rfl
  | note event rest ih => exact congrArg (Dialogue.note event) ih
  | ask request rest ih =>
    simp only [bind]
    congr 1
    funext answer
    exact ih answer

theorem bind_orFail (next : α → Dialogue β) (last : β → Dialogue γ) (answer : Except Failure α) :
    (orFail next answer).bind last = orFail (fun value => (next value).bind last) answer := by
  cases answer <;> rfl

theorem bind_transaction (statement : Statement) (column : String) (next : Option Row → Dialogue α)
    (last : α → Dialogue β) :
    (transaction statement column next).bind last =
      transaction statement column fun row => (next row).bind last := by
  simp only [transaction, bind]
  congr 1
  funext begun
  rw [bind_orFail]
  congr 1
  funext _
  simp only [bind]
  congr 1
  funext changed
  cases changed with
  | ok row =>
    simp only [bind]
    congr 1
    funext committed
    exact bind_orFail _ last committed
  | error failure =>
    simp only [bind]
    congr 1
    funext taken
    cases taken <;> rfl

theorem bind_ofKind (statement : Statement) (kind : LeafKind) (next : kind.Answer → Dialogue α)
    (last : α → Dialogue β) :
    (ofKind statement kind next).bind last =
      ofKind statement kind fun answer => (next answer).bind last := by
  cases kind with
  | updateReturning column => exact bind_transaction statement column next last
  | update | queryOne | queryIterable | queryMeta =>
    simp only [ofKind, bind]
    congr 1
    funext answer
    exact bind_orFail _ last answer
  | query =>
    simp only [ofKind, bind]
    congr 1
    funext answer
    rw [bind_orFail]
    congr 1
    funext cursor
    unfold firstRow
    cases cursor.next.1 <;> rfl

theorem bind_ofLeaf (leaf : Leaf) (next : leaf.Answer → Dialogue α) (last : α → Dialogue β) :
    (ofLeaf leaf next).bind last = ofLeaf leaf fun answer => (next answer).bind last :=
  congrArg (Dialogue.note (.running leaf)) (bind_ofKind leaf.statement leaf.kind next last)

end Dialogue

mutual

/-- The meaning of a program: that of its first part, and after its value that of what waits. -/
def Program.meaning : Program α → Dialogue α
  | .pure value => .done (.ok value)
  | .fail failure => .done (.failed failure)
  | .panic cause => .done (.panicked cause)
  | .suspend body => (body ()).meaning
  | .step leaf read => .ofLeaf leaf fun answer => .done (read answer)
  | .queued head queue => head.meaning.bind queue.meaning

def Continuations.meaning : Continuations α β → α → Dialogue β
  | .one next, value => (next value).meaning
  | .snoc queue next, value => (queue.meaning value).bind fun value => (next value).meaning

end

def Pending.meaning : Pending α β → α → Dialogue β
  | .empty, value => .done (.ok value)
  | .push next rest, value => (next value).meaning.bind rest.meaning

theorem Continuations.onto_meaning (queue : Continuations α β) (pending : Pending β γ) (value : α) :
    (queue.onto pending).meaning value = (queue.meaning value).bind pending.meaning := by
  cases queue with
  | one next => rfl
  | snoc queue next =>
    rw [onto, onto_meaning queue, meaning, Dialogue.bind_assoc]
    rfl

/-- The invariant of the machine: at every moment it holds the meaning of what runs, followed by the
meanings of what lies on the stack, from the top down. -/
theorem Machine.dialogue_eq_meaning (machine : Machine α) :
    machine.dialogue = machine.current.meaning.bind machine.pending.meaning := by
  -- The recursion of the machine itself: one case for each transition, a value alone ends it.
  induction machine using Machine.dialogue.induct with
  | case1 =>
    rw [Machine.dialogue]
    rfl
  | case2 _ _ value next rest ih =>
    rw [Machine.dialogue, ih]
    rfl
  | case3 =>
    rw [Machine.dialogue]
    rfl
  | case4 =>
    rw [Machine.dialogue]
    rfl
  | case5 _ body pending ih =>
    rw [Machine.dialogue, ih]
    rfl
  | case6 _ leaf read pending ih =>
    rw [Machine.dialogue, Program.meaning, Dialogue.bind_ofLeaf]
    congr 1
    funext answer
    cases read answer with
    | ok value => exact ih value
    | failed failure => rfl
    | panicked cause => rfl
  | case7 _ _ head queue pending ih =>
    rw [Machine.dialogue, ih, Program.meaning, Dialogue.bind_assoc]
    congr 1
    funext value
    exact queue.onto_meaning pending value

namespace Program

theorem dialogue_eq_meaning (program : Program α) : program.dialogue = program.meaning := by
  rw [dialogue, Machine.dialogue_eq_meaning]
  exact Dialogue.bind_done program.meaning

/-- A queue grows at its end, and a failure takes none; both keep the meaning. -/
theorem meaning_bind (program : Program α) (next : α → Program β) :
    (program.bind next).meaning = program.meaning.bind fun value => (next value).meaning := by
  cases program with
  | pure value => rfl
  | fail failure => rfl
  | panic cause => rfl
  | suspend body => rfl
  | step leaf read => rfl
  | queued head queue =>
    rw [bind, meaning, meaning, Dialogue.bind_assoc]
    rfl

theorem dialogue_bind (program : Program α) (next : α → Program β) :
    (program.bind next).dialogue = program.dialogue.bind fun value => (next value).dialogue := by
  simp only [dialogue_eq_meaning, meaning_bind]

end Program

end SqlProgram
