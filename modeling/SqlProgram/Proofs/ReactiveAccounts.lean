import SqlProgram.Proofs.LoanRecords
import SqlProgram.Proofs.StreamRules
import SqlProgram.Proofs.TransactionOrder

/-!
The accounts of a run that borrows for each leaf: a leaf asks for one connection and gives it back
before the next leaf, wherever the run ends or is let go of.
-/

namespace SqlProgram.Reactive

inductive Stage (κ : Type) where
  | idle
  | reached (leaf : Leaf)
  | asking (leaf : Leaf)
  | lent (leaf : Leaf) (lease : Lease κ)

/-- A leaf is reached, a connection is asked for, and it goes back before anything else. -/
inductive Accounts : Stage κ → Entry κ → Stage κ → Prop where
  | reached (leaf : Leaf) : Accounts .idle (.told (.running leaf)) (.reached leaf)
  | asking (leaf : Leaf) : Accounts (.reached leaf) .acquiring (.asking leaf)
  | acquired (leaf : Leaf) (connection : κ) :
      Accounts (.asking leaf) (.acquired connection) (.lent leaf ⟨connection, false⟩)
  | used (leaf : Leaf) (lease : Lease κ) (use : Use) :
      Accounts (.lent leaf lease) (use.entry lease.connection) (.lent leaf (lease.used use))
  | farewell (leaf : Leaf) (lease : Lease κ) : Accounts (.lent leaf lease) lease.farewell .idle

def Stage.IsOver : Stage κ → Prop
  | .idle | .asking _ => True
  | _ => False

def accounts : Rule κ (Stage κ) := ⟨Accounts, Stage.IsOver⟩

theorem lends (leaf : Leaf) : (accounts (κ := κ)).Lends (.lent leaf) .idle :=
  ⟨.used leaf, .farewell leaf, trivial⟩

theorem obeys_borrow {leaf : Leaf} {next : κ → Job κ α} {refused : Failure → Job κ α}
    (given : ∀ connection, (next connection).Obeys accounts (.lent leaf ⟨connection, false⟩))
    (failed : ∀ failure, (refused failure).Obeys accounts (.asking leaf)) :
    (Job.borrow next refused).Obeys accounts (.reached leaf) := by
  refine Job.obeys_borrow (.asking leaf) trivial (fun connection => ?_) failed
  exact ⟨_, .acquired leaf connection, given connection⟩

def Resumes (next : Except Failure β → Job κ α) : Prop :=
  (∀ answer, (next (.ok answer)).Obeys accounts .idle) ∧
    ∀ failure stage, stage.IsOver → (next (.error failure)).Obeys accounts stage

theorem Resumes.idle {next : Except Failure β → Job κ α} (resumes : Resumes next) (answer : Except Failure β) :
    (next answer).Obeys accounts .idle := by
  cases answer with
  | ok answer => exact resumes.1 answer
  | error failure => exact resumes.2 failure .idle trivial

theorem onLease_obeys {leaf : Leaf} {call : Call} {next : Except Failure call.Answer → Job κ α}
    (asked : Use.begins (.asked call) = false) (settled : Use.settles (.answered call true) = false)
    (resumes : Resumes next) : (onLease none call next).Obeys accounts (.reached leaf) := by
  refine obeys_borrow (fun connection => ?_) fun failure => resumes.2 failure _ trivial
  refine (lends leaf).obeys_plain _ call asked settled fun answer => ?_
  exact (lends leaf).obeys_giveBack _ (resumes.idle answer)

theorem readRows_obeys {leaf : Leaf} {statement : Statement} {read : Reader κ β}
    {next : Except Failure β → Job κ α}
    (reads : ∀ {lease : Lease κ} {rows : RowStream} {next : Except Failure β → Job κ α},
      (∀ answer, (next answer).Obeys accounts (.lent leaf lease)) →
        (read lease rows next).Obeys accounts (.lent leaf lease))
    (resumes : Resumes next) : (readRows none statement read next).Obeys accounts (.reached leaf) := by
  refine obeys_borrow (fun connection => ?_) fun failure => resumes.2 failure _ trivial
  have later (answer : Except Failure β) :
      (Job.giveBack ⟨connection, false⟩ (next answer)).Obeys accounts (.lent leaf ⟨connection, false⟩) :=
    (lends leaf).obeys_giveBack _ (resumes.idle answer)
  refine (lends leaf).obeys_plain ⟨connection, false⟩ (.openRows statement) rfl rfl fun opened => ?_
  cases opened with
  | ok rows => exact reads later
  | error failure => exact later (.error failure)

theorem describe_obeys (describes : Bool) {leaf : Leaf} {statement : Statement}
    {next : Except Failure RowLayout → Job κ α} (resumes : Resumes next) :
    (describe describes none statement next).Obeys accounts (.reached leaf) := by
  unfold describe
  split
  · exact onLease_obeys rfl rfl resumes
  · refine readRows_obeys (fun later => ?_) resumes
    exact Job.obeys_recordAll (.dropEntries ..) (later _)

theorem close_obeys {leaf : Leaf} {lease : Lease κ} {call : Call} {next : Except Failure call.Answer → Job κ α}
    (asked : Use.begins (.asked call) = false) (settled : Use.settles (.answered call true) = true)
    (resumes : Resumes next) : (close (some lease) call next).Obeys accounts (.lent leaf lease) := by
  unfold close
  refine (lends leaf).obeys_request (lease.used_neutral asked rfl) (fun answer => ?_) fun failure => ?_
  · rw [lease.used_settling settled]
    exact (lends leaf).obeys_giveBack _ (resumes.1 answer)
  · exact (lends leaf).obeys_giveBack _ (resumes.2 failure .idle trivial)

/-- Which connection is kept and how far the accounts are where a dialogue stands. -/
inductive Stands : Phase → Option (Lease κ) → Stage κ → Prop where
  | between : Stands .between none .idle
  | reached (leaf : Leaf) : Stands (.reached leaf) none (.reached leaf)
  | begun (leaf : Leaf) (lease : Lease κ) : Stands (.begun leaf) (some lease) (.lent leaf lease)
  | changed (leaf : Leaf) (lease : Lease κ) : Stands .changed (some lease) (.lent leaf lease)
  | unchanged (leaf : Leaf) (lease : Lease κ) : Stands .unchanged (some lease) (.lent leaf lease)
  | finished (stage : Stage κ) (finished : stage.IsOver) : Stands .finished none stage

/-- The invariant of a run: in the order that programs keep, a connection is held exactly inside a
transaction, and every other request borrows one of its own. -/
theorem serve_obeys (describes : Bool) {phase : Phase} {dialogue : Dialogue α}
    (orderly : dialogue.Orderly phase) {pinned : Option (Lease κ)} {stage : Stage κ}
    (stands : Stands phase pinned stage) : (serve describes dialogue pinned).Obeys accounts stage := by
  -- On the order and not on the dialogue: only the phase tells which connection is held.
  induction orderly generalizing pinned stage with
  | done outcome =>
    cases stands
    exact trivial
  | failed failure =>
    cases stands with
    | finished stage finished => exact finished
  | rollbackFailed failure _ ih => exact ⟨stage, .quiet rfl .nil, ih stands⟩
  | running leaf _ ih =>
    cases stands
    exact ⟨.reached leaf, .one (.reached leaf), ih (.reached leaf)⟩
  | @plain leaf request next plain asked _ _ answered refused =>
    cases stands
    have resumes : Resumes fun answer => serve describes (next answer) none :=
      ⟨fun answer => answered answer .between,
        fun failure stage finished => refused failure (.finished stage finished)⟩
    cases request with
    | update statement => exact onLease_obeys rfl rfl resumes
    | query statement =>
      exact readRows_obeys (fun later => Job.obeys_drain ((lends leaf).drops _) later _) resumes
    | describe statement => exact describe_obeys describes resumes
    | updateReturning statement column => exact onLease_obeys rfl rfl resumes
    | begin => exact absurd asked leaf.request_ne.1
    | commit => exact absurd asked leaf.request_ne.2.1
    | rollback => exact absurd asked leaf.request_ne.2.2
  | @begin leaf _ transaction _ _ answered refused =>
    cases stands with
    | reached =>
      simp only [serve]
      refine obeys_borrow (fun connection => ?_) fun failure => refused failure (.finished _ trivial)
      have opened : (⟨connection, false⟩ : Lease κ).used (.asked .begin) = ⟨connection, true⟩ := rfl
      refine (lends leaf).obeys_request opened (fun answer => ?_) fun failure => ?_
      · exact answered answer (.begun leaf ⟨connection, true⟩)
      · exact (lends leaf).obeys_giveBack _ (refused failure (.finished .idle trivial))
  | @updateReturning statement column leaf _ asked _ _ answered refused =>
    cases stands with
    | begun _ lease =>
      simp only [serve, onLease]
      refine (lends leaf).obeys_plain lease (.updateReturning statement column) rfl rfl fun answer => ?_
      cases answer with
      | ok row => exact answered row (.changed leaf lease)
      | error failure => exact refused failure (.unchanged leaf lease)
  | commit _ _ answered refused =>
    cases stands with
    | changed leaf lease =>
      exact close_obeys rfl rfl ⟨fun answer => answered answer .between,
        fun failure stage finished => refused failure (.finished stage finished)⟩
  | rollback _ ih =>
    cases stands with
    | unchanged leaf lease =>
      exact close_obeys rfl rfl ⟨fun answer => ih (.ok answer) (.finished .idle trivial),
        fun failure stage finished => ih (.error failure) (.finished stage finished)⟩

theorem job_obeys (describes : Bool) (program : Program α) :
    (job describes program : Job κ α).Obeys accounts .idle :=
  serve_obeys describes program.orderly .between

theorem serve_held (describes : Bool) {dialogue : Dialogue α} (orderly : dialogue.Orderly .between) :
    (serve describes dialogue none : Job κ α).held = .nothing := by
  cases orderly with
  | done outcome => rfl
  | running leaf rest => rfl

theorem stream_obeys (backend : Backend σ κ) (program : Program α) :
    (program.stream backend).Obeys accounts .idle := by
  refine ⟨job_obeys backend.describes program, ?_⟩
  have held := serve_held (κ := κ) backend.describes program.orderly
  rw [job, held]
  trivial

def leafEntries (leaf : Leaf × Option (Loan κ)) : List (Entry κ) :=
  .told (.running leaf.1) :: .acquiring :: Loan.entriesOf leaf.2

def Stage.Opens : Stage κ → List (Entry κ) → Prop
  | .idle, entries => entries = []
  | .reached leaf, entries => entries = [.told (.running leaf)]
  | .asking leaf, entries => entries = [.told (.running leaf), .acquiring]
  | .lent leaf lease, entries => ∃ connection uses, lease = .afterAll connection uses ∧
      entries = .told (.running leaf) :: .acquiring :: .acquired connection :: uses.map (Use.entry connection)

def Stage.Tells (stage : Stage κ) (entries : List (Entry κ)) : Prop :=
  ∃ (leaves : List (Leaf × Option (Loan κ))) (opening : List (Entry κ)),
    entries = leaves.flatMap leafEntries ++ opening ∧ stage.Opens opening

theorem Accounts.tells {stage later : Stage κ} {entry : Entry κ} {entries : List (Entry κ)}
    (step : Accounts stage entry later) (told : stage.Tells entries) :
    entry.counts = true ∧ later.Tells (entries ++ [entry]) := by
  obtain ⟨leaves, opening, rfl, opens⟩ := told
  rw [List.append_assoc]
  cases step with
  | reached leaf =>
    cases opens
    exact ⟨rfl, leaves, _, rfl, rfl⟩
  | asking leaf =>
    cases opens
    exact ⟨rfl, leaves, _, rfl, rfl⟩
  | acquired leaf connection =>
    cases opens
    exact ⟨rfl, leaves, _, rfl, connection, [], rfl, rfl⟩
  | used leaf lease use =>
    obtain ⟨connection, uses, rfl, rfl⟩ := opens
    have counted : (use.entry connection).isConnection = true := by cases use <;> rfl
    rw [Lease.afterAll_connection]
    refine ⟨by simp [Entry.counts, counted], leaves, _, rfl, connection, uses ++ [use], ?_, ?_⟩
    · exact (Lease.afterAll_append connection uses use).symm
    · simp
  | farewell leaf lease =>
    obtain ⟨connection, uses, rfl, rfl⟩ := opens
    obtain ⟨loan, recorded⟩ := Loan.of_lease connection uses
    have counted := (Lease.afterAll connection uses).isConnection_farewell
    refine ⟨by simp [Entry.counts, counted], leaves ++ [(leaf, some loan)], [], ?_, rfl⟩
    simp [leafEntries, Loan.entriesOf, recorded]

/-- Between two worlds every leaf that was reached asked for one connection, and if one was handed out,
it went back before the next leaf. -/
def Accounted (world after : World σ κ) : Prop :=
  ∃ (entries : List (Entry κ)) (leaves : List (Leaf × Option (Loan κ))),
    after.history = world.history ++ entries ∧ entries.filter Entry.counts = leaves.flatMap leafEntries

theorem Accounted.of_leads {world after : World σ κ} {stage : Stage κ}
    (leads : accounts.Leads .idle world stage after) (finished : stage.IsOver) : Accounted world after := by
  obtain ⟨entries, grown, runs⟩ := leads
  have nothing : (Stage.idle : Stage κ).Tells [] := ⟨[], [], rfl, rfl⟩
  obtain ⟨leaves, opening, told, opens⟩ := runs.keeps Stage.Tells Accounts.tells nothing
  rw [List.nil_append] at told
  cases stage with
  | idle =>
    cases opens
    exact ⟨entries, leaves, grown, told.trans (List.append_nil _)⟩
  | asking leaf =>
    cases opens
    refine ⟨entries, leaves ++ [(leaf, none)], grown, ?_⟩
    simpa [leafEntries, Loan.entriesOf] using told
  | reached leaf => cases finished
  | lent leaf lease => cases finished

end SqlProgram.Reactive
