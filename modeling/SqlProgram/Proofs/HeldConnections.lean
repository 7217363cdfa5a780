import SqlProgram.Proofs.LeafCalls
import SqlProgram.Proofs.OpenStreams
import SqlProgram.Proofs.ReactiveAccounts

/-!
What the entries of one run tell of the connections it holds: it uses none but the one it has on loan, and from a begin
until the transaction is closed it keeps that one and stays with the leaf that began.
-/

namespace SqlProgram

/-- A connection was handed out and has not gone back since. -/
def OnLoan (connection : κ) : List (Entry κ) → Prop := Since (· = .acquired connection) (Entry.Returns connection)

def Latest (leaf : Leaf) : List (Entry κ) → Prop := Since (· = .told (.running leaf)) (fun entry => entry.isLeaf)

namespace Entry

/-- Something is done with a connection. -/
def Uses (connection : κ) : Entry κ → Prop
  | .called other _ | .answered other _ _ | .released other | .discarded other => other = connection
  | _ => False

/-- What closes the transaction on a connection: a commit or a rollback that succeeds, or a discard. -/
def Closes (connection : κ) : Entry κ → Prop
  | .answered other .commit true | .answered other .rollback true | .discarded other => other = connection
  | _ => False

variable {connection other : κ} {entry : Entry κ}

theorem Uses.unique (uses : entry.Uses connection) (same : entry.Uses other) : connection = other := by
  cases entry with
  | called | answered | released | discarded => exact uses.symm.trans same
  | _ => cases uses

theorem Uses.counts (uses : entry.Uses connection) : entry.counts = true := by
  cases entry with
  | called | answered | released | discarded => rfl
  | _ => cases uses

theorem Returns.uses (returns : entry.Returns connection) : entry.Uses connection := by
  cases entry with
  | released | discarded => exact returns
  | _ => cases returns

end Entry

theorem Use.uses_entry (use : Use) (connection : κ) : (use.entry connection).Uses connection := by
  cases use <;> rfl

theorem Lease.uses_farewell (lease : Lease κ) : lease.farewell.Uses lease.connection := by
  unfold Lease.farewell
  split <;> rfl

def Held.connection? : Held κ → Option κ
  | .nothing => none
  | .lease loan | .rows loan _ => some loan.connection

namespace Reactive

variable {stage later : Stage κ} {connection : κ} {leaf : Leaf} {entries : List (Entry κ)}

def Stage.Lends (connection : κ) : Stage κ → Prop
  | .lent _ lease => lease.connection = connection
  | _ => False

theorem Accounts.lends {entry : Entry κ} (step : Accounts stage entry later) (uses : entry.Uses connection) :
    stage.Lends connection := by
  cases step with
  | used leaf lease use => exact (use.uses_entry lease.connection).unique uses
  | farewell leaf lease => exact lease.uses_farewell.unique uses
  | _ => cases uses

theorem Accounts.onLoan {entry : Entry κ} (step : Accounts stage entry later)
    (told : stage.Lends connection → OnLoan connection entries) (lends : later.Lends connection) :
    OnLoan connection (entries ++ [entry]) := by
  rw [OnLoan, since_snoc]
  cases step with
  | acquired leaf other =>
    cases lends
    exact .inl rfl
  | used leaf lease use =>
    refine .inr ⟨told lends, ?_⟩
    cases use <;> exact id
  | _ => cases lends

/-- What a run holds was handed out to it and has not gone back since. -/
theorem onLoan_of_runs (runs : accounts.Runs .idle entries stage) (lends : stage.Lends connection) :
    OnLoan connection entries := by
  let tells (stage : Stage κ) (entries : List (Entry κ)) : Prop := stage.Lends connection → OnLoan connection entries
  have nothing : tells .idle [] := nofun
  refine runs.tells tells ?_ ?_ nothing lends
  · intro stage entry entries silent told lends
    rw [OnLoan, since_snoc]
    refine .inr ⟨told lends, fun returns => ?_⟩
    cases silent.symm.trans returns.uses.counts
  · intro stage entry later entries step told
    exact step.onLoan told

theorem Accounts.begins (step : Accounts stage (.called connection .begin) later) :
    ∃ leaf, later = .lent leaf ⟨connection, true⟩ := by
  generalize begins : Entry.called connection Call.begin = entry at step
  cases step with
  | used leaf lease use =>
    cases use with
    | asked call =>
      cases begins
      exact ⟨leaf, rfl⟩
    | answered => cases begins
  | farewell leaf lease =>
    unfold Lease.farewell at begins
    split at begins <;> cases begins
  | _ => cases begins

/-- Inside a transaction no step but one that closes it leaves the leaf or lets the connection go. -/
theorem Accounts.dirty {entry : Entry κ} (step : Accounts (.lent leaf ⟨connection, true⟩) entry later)
    (opened : ¬ entry.Closes connection) : later = .lent leaf ⟨connection, true⟩ ∧ entry.isLeaf = false := by
  generalize held : Stage.lent leaf ⟨connection, true⟩ = stage at step
  cases step with
  | used other lease use =>
    cases held
    have stays : use.settles = false := by
      unfold Use.settles
      split
      · exact absurd rfl opened
      · exact absurd rfl opened
      · rfl
    refine ⟨?_, ?_⟩
    · simp [Lease.used, stays]
    · cases use <;> rfl
  | farewell other lease =>
    cases held
    exact absurd rfl opened
  | _ => cases held

theorem dirty_of_runs (runs : accounts.Runs (.lent leaf ⟨connection, true⟩) entries later)
    (opened : ∀ entry ∈ entries, ¬ entry.Closes connection) :
    later = .lent leaf ⟨connection, true⟩ ∧ ∀ entry ∈ entries, entry.isLeaf = false :=
  runs.stays Accounts.dirty Entry.isLeaf_of_silent opened

theorem lends_of_drops {held : Held κ} (drops : accounts.Drops stage held)
    (holds : held.connection? = some connection) : stage.Lends connection := by
  cases held with
  | nothing => cases holds
  | lease lease | rows lease rows =>
    cases holds
    obtain ⟨returned, runs, _⟩ := drops
    obtain ⟨_, step, _⟩ := runs.first lease.uses_farewell.counts
    exact step.lends lease.uses_farewell

theorem lends_of_obeys {job : Job κ α} (obeys : job.Obeys accounts stage)
    (holds : job.held.connection? = some connection) : stage.Lends connection := by
  cases job with
  | pause held delay entries next => exact lends_of_drops obeys.1 holds
  | call lease asked next =>
    obtain ⟨calling, runs, _⟩ := obeys
    obtain ⟨_, step, _⟩ := runs.first rfl
    cases holds
    exact step.lends rfl
  | giveBack lease next =>
    obtain ⟨returned, runs, _⟩ := obeys
    obtain ⟨_, step, _⟩ := runs.first lease.uses_farewell.counts
    cases holds
    exact step.lends lease.uses_farewell
  | _ => cases holds

def Caller.IsAt (leaf : Leaf) : Caller → Prop
  | .reached other | .begun other => other = leaf
  | .nobody => False

theorem latest_of_runs {caller : Caller} (runs : calls.Runs .nobody entries caller) (at_leaf : caller.IsAt leaf) :
    Latest leaf entries := by
  let tells (caller : Caller) (entries : List (Entry κ)) : Prop := caller.IsAt leaf → Latest leaf entries
  have nothing : tells .nobody [] := nofun
  refine runs.tells tells ?_ ?_ nothing at_leaf
  · intro caller entry entries silent told at_leaf
    rw [Latest, since_snoc]
    refine .inr ⟨told at_leaf, ?_⟩
    rw [Entry.isLeaf_of_silent silent]
    exact nofun
  · intro caller entry later entries step told at_leaf
    rw [Latest, since_snoc]
    cases step with
    | running caller other =>
      cases at_leaf
      exact .inl rfl
    | other caller quiet called =>
      refine .inr ⟨told at_leaf, ?_⟩
      rw [quiet]
      exact nofun
    | _ => exact .inr ⟨told at_leaf, nofun⟩

/-- As long as no other leaf is reached, whoever began a transaction makes all calls. -/
theorem begun_of_runs {caller : Caller} (runs : calls.Runs (.begun leaf) entries caller)
    (stays : ∀ entry ∈ entries, entry.isLeaf = false) : caller = .begun leaf := by
  have kept : caller = .begun leaf ∧ ∀ entry ∈ entries, True := by
    refine runs.stays ?_ (fun _ => trivial) stays
    intro entry later step none
    cases step with
    | running => cases none
    | inside => exact ⟨rfl, trivial⟩
    | other => exact ⟨rfl, trivial⟩
  exact kept.1

/-- Entries of a run that keeps its accounts and makes its calls leaf by leaf. -/
structure Faithful (entries : List (Entry κ)) : Prop where
  accounts : ∃ stage, accounts.Runs .idle entries stage
  calls : ∃ caller, calls.Runs .nobody entries caller

namespace Faithful

variable {earlier middle after : List (Entry κ)}

theorem before (faithful : Faithful (earlier ++ after)) : Faithful earlier := by
  obtain ⟨⟨stage, accounted⟩, caller, called⟩ := faithful
  obtain ⟨_, first, _⟩ := accounted.split
  obtain ⟨_, second, _⟩ := called.split
  exact ⟨⟨_, first⟩, _, second⟩

theorem onLoan {entry : Entry κ} (faithful : Faithful (earlier ++ entry :: after)) (uses : entry.Uses connection) :
    OnLoan connection earlier := by
  obtain ⟨stage, runs⟩ := faithful.accounts
  obtain ⟨middle, first, rest⟩ := runs.split
  obtain ⟨later, step, _⟩ := rest.first uses.counts
  exact onLoan_of_runs first (step.lends uses)

theorem begun (faithful : Faithful (earlier ++ .called connection .begin :: middle))
    (opened : ∀ entry ∈ middle, ¬ entry.Closes connection) :
    OnLoan connection (earlier ++ .called connection .begin :: middle) ∧ ∀ entry ∈ middle, entry.isLeaf = false := by
  obtain ⟨stage, runs⟩ := faithful.accounts
  obtain ⟨reached, first, rest⟩ := runs.split
  obtain ⟨begun, step, inside⟩ := rest.first rfl
  obtain ⟨leaf, rfl⟩ := step.begins
  obtain ⟨rfl, none⟩ := dirty_of_runs inside opened
  exact ⟨onLoan_of_runs runs rfl, none⟩

/-- A begin is called for a leaf with a transaction of its own, and so is all that is called before the next leaf. -/
theorem asks (faithful : Faithful (earlier ++ .called connection .begin :: after)) :
    ∃ leaf, leaf.isPlain = false ∧ Latest leaf earlier ∧
      ∀ middle other call rest, after = middle ++ .called other call :: rest →
        (∀ entry ∈ middle, entry.isLeaf = false) → leaf.Asks call := by
  obtain ⟨caller, runs⟩ := faithful.calls
  obtain ⟨reached, first, rest⟩ := runs.split
  obtain ⟨begun, step, inside⟩ := rest.first rfl
  cases step with
  | plain leaf _ plain => exact absurd rfl plain
  | inside leaf _ asked => exact absurd asked leaf.not_asks_begin
  | other _ _ called => cases called
  | begin leaf _ transaction =>
    refine ⟨leaf, transaction, latest_of_runs first rfl, ?_⟩
    rintro middle other call rest rfl stays
    obtain ⟨calling, second, last⟩ := inside.split
    cases begun_of_runs second stays
    obtain ⟨called, step, _⟩ := last.first rfl
    cases step with
    | inside _ _ asked => exact asked
    | other _ _ impossible => cases impossible

end Faithful

end Reactive

end SqlProgram
