import SqlProgram.Proofs.ProgramMeaning

/-!
The order of requests. Leaves come one after the other, each with one request outside transactions
or with a transaction of its own; after the first request that fails, nothing is begun any more.
-/

namespace SqlProgram

def Leaf.isPlain (leaf : Leaf) : Bool :=
  match leaf.kind with
  | .updateReturning _ => false
  | _ => true

def Leaf.request (leaf : Leaf) : Request :=
  match leaf.kind with
  | .update => .update leaf.statement
  | .updateReturning column => .updateReturning leaf.statement column
  | .query | .queryOne | .queryIterable => .query leaf.statement
  | .queryMeta => .describe leaf.statement

theorem Leaf.request_ne (leaf : Leaf) :
    leaf.request ≠ .begin ∧ leaf.request ≠ .commit ∧ leaf.request ≠ .rollback := by
  obtain ⟨kind, statement⟩ := leaf
  cases kind <;> exact ⟨nofun, nofun, nofun⟩

inductive Phase where
  | between
  | reached (leaf : Leaf)
  | begun (leaf : Leaf)
  /-- The statement of a transaction succeeded. -/
  | changed
  /-- The statement of a transaction failed. -/
  | unchanged
  /-- A request failed, and so will the run. -/
  | finished

namespace Dialogue

/-- A dialogue that goes on as one should from where it stands. -/
inductive Orderly {α : Type} : Phase → Dialogue α → Prop where
  | done (outcome : Outcome α) : Orderly .between (.done outcome)
  | failed (failure : Failure) : Orderly .finished (.done (.failed failure))
  | rollbackFailed (failure : Failure) (rest : Orderly .finished next) :
      Orderly .finished (.note (.rollbackFailed failure) next)
  | running (leaf : Leaf) (rest : Orderly (.reached leaf) next) :
      Orderly .between (.note (.running leaf) next)
  | plain {request : Request} {next : Except Failure request.Answer → Dialogue α}
      (plain : leaf.isPlain) (asked : leaf.request = request)
      (answered : ∀ answer, Orderly .between (next (.ok answer)))
      (refused : ∀ failure, Orderly .finished (next (.error failure))) :
      Orderly (.reached leaf) (.ask request next)
  | begin {next : Except Failure Request.begin.Answer → Dialogue α} (transaction : leaf.isPlain = false)
      (answered : ∀ answer, Orderly (.begun leaf) (next (.ok answer)))
      (refused : ∀ failure, Orderly .finished (next (.error failure))) :
      Orderly (.reached leaf) (.ask .begin next)
  | updateReturning {next : Except Failure (Request.updateReturning statement column).Answer → Dialogue α}
      (asked : leaf.request = .updateReturning statement column)
      (answered : ∀ answer, Orderly .changed (next (.ok answer)))
      (refused : ∀ failure, Orderly .unchanged (next (.error failure))) :
      Orderly (.begun leaf) (.ask (.updateReturning statement column) next)
  | commit {next : Except Failure Request.commit.Answer → Dialogue α}
      (answered : ∀ answer, Orderly .between (next (.ok answer)))
      (refused : ∀ failure, Orderly .finished (next (.error failure))) :
      Orderly .changed (.ask .commit next)
  | rollback {next : Except Failure Request.rollback.Answer → Dialogue α}
      (rest : ∀ answer, Orderly .finished (next answer)) :
      Orderly .unchanged (.ask .rollback next)

theorem Orderly.bind {phase : Phase} {first : Dialogue α} {next : α → Dialogue β}
    (orderly : Orderly phase first) (later : ∀ value, Orderly .between (next value)) :
    Orderly phase (first.bind next) := by
  induction orderly with
  | done outcome =>
    cases outcome with
    | ok value => exact later value
    | failed failure => exact .done (.failed failure)
    | panicked panic => exact .done (.panicked panic)
  | failed failure => exact .failed failure
  | rollbackFailed failure _ ih => exact .rollbackFailed failure ih
  | running leaf _ ih => exact .running leaf ih
  | plain plain asked _ _ answered refused => exact .plain plain asked answered refused
  | begin transaction _ _ answered refused => exact .begin transaction answered refused
  | updateReturning asked _ _ answered refused => exact .updateReturning asked answered refused
  | commit _ _ answered refused => exact .commit answered refused
  | rollback _ ih => exact .rollback ih

theorem orderly_transaction {leaf : Leaf} {statement : Statement} {column : String}
    {next : Option Row → Dialogue α} (transaction : leaf.isPlain = false)
    (asked : leaf.request = .updateReturning statement column)
    (later : ∀ row, Orderly .between (next row)) :
    Orderly (.reached leaf) (Dialogue.transaction statement column next) := by
  refine .begin transaction (fun _ => .updateReturning asked (fun row => ?_) fun failure => ?_) .failed
  · exact .commit (fun _ => later row) .failed
  · refine .rollback fun answer => ?_
    cases answer with
    | ok => exact .failed failure
    | error rollback => exact .rollbackFailed rollback (.failed (.rollbackFailed failure rollback))

theorem orderly_firstRow {statement : Statement} {next : Row → Dialogue α}
    (later : ∀ row, Orderly .between (next row)) (cursor : Cursor) :
    Orderly .between (firstRow statement next cursor) := by
  unfold firstRow
  cases cursor.next.1 with
  | some row => exact later row
  | none => exact .done _

theorem orderly_ofLeaf (leaf : Leaf) {next : leaf.Answer → Dialogue α}
    (later : ∀ answer, Orderly .between (next answer)) : Orderly .between (ofLeaf leaf next) := by
  refine .running leaf ?_
  obtain ⟨kind, statement⟩ := leaf
  cases kind with
  | update => exact .plain rfl rfl later .failed
  | updateReturning column => exact orderly_transaction rfl rfl later
  | query => exact .plain rfl rfl (orderly_firstRow later) .failed
  | queryOne => exact .plain rfl rfl (fun cursor => later cursor.next.1) .failed
  | queryIterable => exact .plain rfl rfl (fun cursor => later cursor.rows) .failed
  | queryMeta => exact .plain rfl rfl later .failed

end Dialogue

mutual

theorem Program.meaning_orderly (program : Program α) : Dialogue.Orderly .between program.meaning :=
  match program with
  | .pure value => .done (.ok value)
  | .fail failure => .done (.failed failure)
  | .panic cause => .done (.panicked cause)
  | .suspend body => (body ()).meaning_orderly
  | .step leaf read => Dialogue.orderly_ofLeaf leaf fun answer => .done (read answer)
  | .queued head queue => head.meaning_orderly.bind queue.meaning_orderly

theorem Continuations.meaning_orderly (queue : Continuations α β) (value : α) :
    Dialogue.Orderly .between (queue.meaning value) :=
  match queue with
  | .one next => (next value).meaning_orderly
  | .snoc queue next => (queue.meaning_orderly value).bind fun value => (next value).meaning_orderly

end

theorem Program.orderly (program : Program α) : Dialogue.Orderly .between program.dialogue := by
  rw [program.dialogue_eq_meaning]
  exact program.meaning_orderly

end SqlProgram
