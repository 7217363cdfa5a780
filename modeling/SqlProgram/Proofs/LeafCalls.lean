import SqlProgram.Proofs.JobRules
import SqlProgram.Proofs.TransactionOrder
import SqlProgram.Run.Reactive

/-!
The leaf that a call is made for. Only a leaf with a transaction of its own begins one, and from then on it calls
nothing but its statement, a commit or a rollback.
-/

namespace SqlProgram

def Leaf.Asks (leaf : Leaf) (call : Call) : Prop :=
  call.request = leaf.request ∨ call = .commit ∨ call = .rollback

theorem Leaf.not_asks_begin (leaf : Leaf) : ¬ leaf.Asks .begin := by
  rintro (same | impossible | impossible)
  · exact leaf.request_ne.1 same.symm
  · cases impossible
  · cases impossible

theorem Leaf.kind_of_transaction {leaf : Leaf} (transaction : leaf.isPlain = false) :
    ∃ column, leaf.kind = .updateReturning column := by
  obtain ⟨kind, statement⟩ := leaf
  cases kind with
  | updateReturning column => exact ⟨column, rfl⟩
  | _ => cases transaction

theorem Leaf.Asks.cases {leaf : Leaf} {call : Call} (asked : leaf.Asks call)
    (transaction : leaf.kind = .updateReturning column) :
    call = .updateReturning leaf.statement column ∨ call = .commit ∨ call = .rollback := by
  refine asked.imp_left fun same => ?_
  rw [Leaf.request, transaction] at same
  cases call with
  | updateReturning statement other =>
    cases same
    rfl
  | _ => cases same

def Entry.isCall : Entry κ → Bool
  | .called .. => true
  | _ => false

namespace Reactive

/-- The leaf that was reached last, and whether it has begun a transaction. -/
inductive Caller where
  | nobody
  | reached (leaf : Leaf)
  | begun (leaf : Leaf)

/-- Calls are made for the leaf that was reached last. -/
inductive Calls : Caller → Entry κ → Caller → Prop where
  | running (caller : Caller) (leaf : Leaf) : Calls caller (.told (.running leaf)) (.reached leaf)
  | plain (leaf : Leaf) (connection : κ) {call : Call} (plain : call ≠ .begin) :
      Calls (.reached leaf) (.called connection call) (.reached leaf)
  | begin (leaf : Leaf) (connection : κ) (transaction : leaf.isPlain = false) :
      Calls (.reached leaf) (.called connection .begin) (.begun leaf)
  | inside (leaf : Leaf) (connection : κ) {call : Call} (asked : leaf.Asks call) :
      Calls (.begun leaf) (.called connection call) (.begun leaf)
  | other (caller : Caller) {entry : Entry κ} (told : entry.isLeaf = false) (called : entry.isCall = false) :
      Calls caller entry caller

/-- A run may end anywhere: what has to be called is not said here. -/
def calls : Rule κ Caller := ⟨Calls, fun _ => True⟩

theorem Calls.farewell (caller : Caller) (lease : Lease κ) : Calls caller lease.farewell caller := by
  unfold Lease.farewell
  split
  · exact .other caller rfl rfl
  · exact .other caller rfl rfl

variable {caller later : Caller}

theorem calls_drops (caller : Caller) (lease : Lease κ) : calls.Drops caller (.lease lease) :=
  ⟨caller, .one (.farewell caller lease), trivial⟩

theorem calls_giveBack (lease : Lease κ) {next : Job κ α} (obeys : next.Obeys calls caller) :
    (Job.giveBack lease next).Obeys calls caller :=
  ⟨caller, .one (.farewell caller lease), obeys⟩

theorem calls_borrow {next : κ → Job κ α} {refused : Failure → Job κ α}
    (given : ∀ connection, (next connection).Obeys calls caller)
    (failed : ∀ failure, (refused failure).Obeys calls caller) : (Job.borrow next refused).Obeys calls caller := by
  refine Job.obeys_borrow (.other caller rfl rfl) trivial (fun connection => ?_) failed
  exact ⟨caller, .other caller rfl rfl, given connection⟩

theorem calls_request {lease : Lease κ} {call : Call} {next : Except Failure call.Answer → Job κ α}
    (asked : Calls caller (.called lease.connection call) later)
    (answered : ∀ answer, (next answer).Obeys calls later) :
    (Job.request lease call next).Obeys calls caller := by
  refine Job.obeys_request asked (calls_drops later lease) (fun answer => ?_) ?_
  · exact ⟨later, .other later rfl rfl, answered (.ok answer)⟩
  · exact ⟨later, .other later rfl rfl, calls_drops later lease, fun failure => answered (.error failure)⟩

theorem calls_unpin (pinned : Option (Lease κ)) {next : Job κ α} (obeys : next.Obeys calls caller) :
    (unpin pinned next).Obeys calls caller := by
  cases pinned with
  | none => exact obeys
  | some lease => exact calls_giveBack lease obeys

theorem calls_onLease (pinned : Option (Lease κ)) {call : Call} {next : Except Failure call.Answer → Job κ α}
    (asked : ∀ connection : κ, Calls caller (.called connection call) caller)
    (answered : ∀ answer, (next answer).Obeys calls caller) : (onLease pinned call next).Obeys calls caller := by
  cases pinned with
  | some lease => exact calls_request (asked lease.connection) answered
  | none =>
    refine calls_borrow (fun connection => ?_) fun failure => answered (.error failure)
    exact calls_request (asked connection) fun answer => calls_giveBack _ (answered answer)

theorem calls_readRows (pinned : Option (Lease κ)) {statement : Statement} {read : Reader κ β}
    {next : Except Failure β → Job κ α}
    (asked : ∀ connection : κ, Calls caller (.called connection (.openRows statement)) caller)
    (reads : ∀ {lease : Lease κ} {rows : RowStream} {next : Except Failure β → Job κ α},
      (∀ answer, (next answer).Obeys calls caller) → (read lease rows next).Obeys calls caller)
    (answered : ∀ answer, (next answer).Obeys calls caller) :
    (readRows pinned statement read next).Obeys calls caller := by
  unfold readRows
  cases pinned with
  | some lease =>
    refine calls_request (asked lease.connection) fun opened => ?_
    cases opened with
    | ok rows => exact reads answered
    | error failure => exact answered (.error failure)
  | none =>
    have later (connection : κ) (answer : Except Failure β) := calls_giveBack ⟨connection, false⟩ (answered answer)
    refine calls_borrow (fun connection => ?_) fun failure => answered (.error failure)
    refine calls_request (asked connection) fun opened => ?_
    cases opened with
    | ok rows => exact reads (later connection)
    | error failure => exact later connection (.error failure)

theorem calls_describe (describes : Bool) (pinned : Option (Lease κ)) {leaf : Leaf} {statement : Statement}
    {next : Except Failure RowLayout → Job κ α} (answered : ∀ answer, (next answer).Obeys calls (.reached leaf)) :
    (describe describes pinned statement next).Obeys calls (.reached leaf) := by
  unfold describe
  split
  · exact calls_onLease pinned (fun connection => .plain leaf connection nofun) answered
  · refine calls_readRows pinned (fun connection => .plain leaf connection nofun) (fun later => ?_) answered
    exact Job.obeys_recordAll (.dropEntries ..) (later _)

theorem calls_close (pinned : Option (Lease κ)) {call : Call} {next : Except Failure call.Answer → Job κ α}
    (asked : ∀ connection : κ, Calls caller (.called connection call) caller)
    (answered : ∀ answer, (next answer).Obeys calls caller) : (close pinned call next).Obeys calls caller := by
  cases pinned with
  | none => exact answered (.error .noTransaction)
  | some lease =>
    unfold close
    refine calls_request (asked lease.connection) fun answer => ?_
    cases answer with
    | ok answer => exact calls_giveBack _ (answered (.ok answer))
    | error failure => exact calls_giveBack _ (answered (.error failure))

def Fits : Phase → Caller → Prop
  | .between, _ | .finished, _ => True
  | .reached leaf, caller => caller = .reached leaf
  | .begun leaf, caller => caller = .begun leaf
  | .changed, caller | .unchanged, caller => ∃ leaf, caller = .begun leaf

theorem serve_calls (describes : Bool) {phase : Phase} {dialogue : Dialogue α} (orderly : dialogue.Orderly phase)
    (pinned : Option (Lease κ)) {caller : Caller} (fits : Fits phase caller) :
    (serve describes dialogue pinned).Obeys calls caller := by
  -- On the order: it tells which leaf every request is for.
  induction orderly generalizing pinned caller with
  | done outcome => exact calls_unpin pinned trivial
  | failed failure => exact calls_unpin pinned trivial
  | rollbackFailed failure _ ih => exact ⟨caller, .quiet rfl .nil, ih pinned trivial⟩
  | running leaf _ ih => exact ⟨.reached leaf, .one (.running caller leaf), ih pinned rfl⟩
  | @plain leaf request next plain asked _ _ answered refused =>
    cases fits
    have resumes (pinned : Option (Lease κ)) (answer : Except Failure request.Answer) :
        (serve describes (next answer) pinned).Obeys calls (.reached leaf) := by
      cases answer with
      | ok answer => exact answered answer pinned trivial
      | error failure => exact refused failure pinned trivial
    cases request with
    | update statement =>
      exact calls_onLease pinned (fun connection => .plain leaf connection nofun) (resumes pinned)
    | updateReturning statement column =>
      exact calls_onLease pinned (fun connection => .plain leaf connection nofun) (resumes pinned)
    | query statement =>
      refine calls_readRows pinned (fun connection => .plain leaf connection nofun) (fun later => ?_) (resumes pinned)
      exact Job.obeys_drain (calls_drops _ _) later _
    | describe statement => exact calls_describe describes pinned (resumes pinned)
    | begin => exact absurd asked leaf.request_ne.1
    | commit => exact absurd asked leaf.request_ne.2.1
    | rollback => exact absurd asked leaf.request_ne.2.2
  | @begin leaf _ transaction _ _ answered refused =>
    cases fits
    simp only [serve]
    refine calls_borrow (fun connection => ?_) fun failure => refused failure pinned trivial
    refine calls_request (.begin leaf connection transaction) fun answer => ?_
    cases answer with
    | ok answer => exact calls_unpin pinned (answered answer _ rfl)
    | error failure => exact calls_giveBack _ (refused failure pinned trivial)
  | @updateReturning statement column leaf next asked _ _ answered refused =>
    cases fits
    refine calls_onLease pinned (fun connection => .inside leaf connection (.inl asked.symm)) fun answer => ?_
    cases answer with
    | ok row => exact answered row pinned ⟨leaf, rfl⟩
    | error failure => exact refused failure pinned ⟨leaf, rfl⟩
  | commit _ _ answered refused =>
    obtain ⟨leaf, rfl⟩ := fits
    refine calls_close pinned (fun connection => .inside leaf connection (.inr (.inl rfl))) fun answer => ?_
    cases answer with
    | ok answer => exact answered answer none trivial
    | error failure => exact refused failure none trivial
  | rollback _ ih =>
    obtain ⟨leaf, rfl⟩ := fits
    exact calls_close pinned (fun connection => .inside leaf connection (.inr (.inr rfl)))
      fun answer => ih answer none trivial

theorem job_calls (describes : Bool) (program : Program α) :
    (job describes program : Job κ α).Obeys calls .nobody :=
  serve_calls describes program.orderly none trivial

end Reactive

end SqlProgram
