import SqlProgram.Proofs.CompletedJobs
import SqlProgram.Proofs.JobRules
import SqlProgram.Proofs.TransactionOrder

/-!
The first call of a run on a connection for each leaf. A dialogue that begins with a leaf tells of that leaf first, and
of all statements it calls that of the leaf first, however far the run comes and wherever it is let go of.
-/

namespace SqlProgram

/-- What is called for a leaf. A run reads rows in its own way, and columns too if the backend cannot tell them. -/
def Leaf.call (leaf : Leaf) (describes : Bool) (rows : Statement → Call) : Call :=
  match leaf.kind with
  | .update => .update leaf.statement
  | .updateReturning column => .updateReturning leaf.statement column
  | .query | .queryOne | .queryIterable => rows leaf.statement
  | .queryMeta => if describes then .describe leaf.statement else rows leaf.statement

/-- What a run does up to the first statement: a leaf with a transaction of its own begins that before. -/
def Leaf.opening (leaf : Leaf) (call : Call) (connection : κ) : List (Entry κ) :=
  if leaf.isPlain then [.told (.running leaf), .called connection call]
  else [.told (.running leaf), .called connection .begin, .answered connection .begin true, .called connection call]

/-- Records of which a leaf is the first. No statement is called without a connection or before the transaction of
the leaf was begun. -/
inductive Leaf.ComesFirst (leaf : Leaf) (call : Call) (entries : List (Entry κ)) : Prop where
  | unlent (nobody : ∀ connection, .acquired connection ∉ entries)
      (steps : entries.filter Entry.isStep = [] ∨ entries.filter Entry.isStep = [.told (.running leaf)])
  | beginning (transaction : leaf.isPlain = false)
      (steps : entries.filter Entry.isStep = [.told (.running leaf), .called connection .begin])
  | refused (transaction : leaf.isPlain = false)
      (steps : entries.filter Entry.isStep =
        [.told (.running leaf), .called connection .begin, .answered connection .begin false])
  | served (steps : entries.filter Entry.isStep = leaf.opening call connection ++ rest)

/-- How far a run came with its first statement, and whether its leaf was told yet. -/
inductive Onset (κ : Type) where
  | unlent (told : Bool)
  | lent (connection : κ)
  | beginning (connection : κ)
  | refused
  | begun (connection : κ)
  | served

namespace Onset

variable {leaf : Leaf} {call : Call}

inductive Starts (leaf : Leaf) (call : Call) : Onset κ → Entry κ → Onset κ → Prop where
  | asking : Starts leaf call (.unlent true) .acquiring (.unlent true)
  | acquired (connection : κ) : Starts leaf call (.unlent true) (.acquired connection) (.lent connection)
  | reached : Starts leaf call (.unlent false) (.told (.running leaf)) (.unlent true)
  | plain (plain : leaf.isPlain = true) (connection : κ) :
      Starts leaf call (.lent connection) (.called connection call) .served
  | begin (transaction : leaf.isPlain = false) (connection : κ) :
      Starts leaf call (.lent connection) (.called connection .begin) (.beginning connection)
  | begun (connection : κ) :
      Starts leaf call (.beginning connection) (.answered connection .begin true) (.begun connection)
  | refused (connection : κ) :
      Starts leaf call (.beginning connection) (.answered connection .begin false) .refused
  | inside (connection : κ) : Starts leaf call (.begun connection) (.called connection call) .served
  | farewellBeginning (connection : κ) (lease : Lease κ) :
      Starts leaf call (.beginning connection) lease.farewell (.beginning connection)
  | farewellRefused (lease : Lease κ) : Starts leaf call .refused lease.farewell .refused
  /-- Whatever a run does after its first statement is not said here. -/
  | served (entry : Entry κ) : Starts leaf call .served entry .served

/-- A run never comes to a halt between a connection and the call that it was borrowed for. -/
def IsOver : Onset κ → Prop
  | .lent _ | .begun _ => False
  | _ => True

def onset (leaf : Leaf) (call : Call) : Rule κ (Onset κ) := ⟨Starts leaf call, IsOver⟩

def toldEntries (leaf : Leaf) (told : Bool) : List (Entry κ) := if told then [.told (.running leaf)] else []

def Tells (leaf : Leaf) (call : Call) : Onset κ → List (Entry κ) → Prop
  | .unlent told, entries =>
    (∀ connection, .acquired connection ∉ entries) ∧ entries.filter Entry.isStep = toldEntries leaf told
  | .lent _, entries => entries.filter Entry.isStep = [.told (.running leaf)]
  | .beginning connection, entries => leaf.isPlain = false ∧
      entries.filter Entry.isStep = [.told (.running leaf), .called connection .begin]
  | .refused, entries => ∃ connection, leaf.isPlain = false ∧ entries.filter Entry.isStep =
      [.told (.running leaf), .called connection .begin, .answered connection .begin false]
  | .begun connection, entries => leaf.isPlain = false ∧ entries.filter Entry.isStep =
      [.told (.running leaf), .called connection .begin, .answered connection .begin true]
  | .served, entries =>
    ∃ connection rest, entries.filter Entry.isStep = leaf.opening call connection ++ rest

theorem Tells.quiet {stage : Onset κ} {entries : List (Entry κ)} {entry : Entry κ} (told : stage.Tells leaf call entries)
    (quiet : entry.isStep = false) (nobody : ∀ connection, entry ≠ .acquired connection) :
    stage.Tells leaf call (entries ++ [entry]) := by
  have same : (entries ++ [entry]).filter Entry.isStep = entries.filter Entry.isStep := by
    rw [List.filter_append, List.filter_cons_of_neg (by rw [quiet]; exact Bool.false_ne_true), List.filter_nil,
      List.append_nil]
  cases stage with
  | unlent =>
    refine ⟨fun connection member => ?_, same.trans told.2⟩
    rcases List.mem_append.mp member with before | last
    · exact told.1 connection before
    · exact nobody connection (List.mem_singleton.mp last).symm
  | refused =>
    obtain ⟨connection, transaction, steps⟩ := told
    exact ⟨connection, transaction, same.trans steps⟩
  | served =>
    obtain ⟨connection, rest, steps⟩ := told
    exact ⟨connection, rest, same.trans steps⟩
  | lent => exact same.trans told
  | beginning => exact ⟨told.1, same.trans told.2⟩
  | begun => exact ⟨told.1, same.trans told.2⟩

theorem Tells.farewell {stage : Onset κ} {entries : List (Entry κ)} (told : stage.Tells leaf call entries)
    (lease : Lease κ) : stage.Tells leaf call (entries ++ [lease.farewell]) := by
  unfold Lease.farewell
  split
  · exact told.quiet rfl fun _ => nofun
  · exact told.quiet rfl fun _ => nofun

theorem Starts.tells {stage later : Onset κ} {entry : Entry κ} {entries : List (Entry κ)}
    (step : Starts leaf call stage entry later) (told : stage.Tells leaf call entries) :
    later.Tells leaf call (entries ++ [entry]) := by
  have grown : (entries ++ [entry]).filter Entry.isStep = entries.filter Entry.isStep ++ [entry].filter Entry.isStep :=
    List.filter_append ..
  cases step with
  | asking => exact told.quiet rfl fun _ => nofun
  | acquired connection =>
    have same : (entries ++ [Entry.acquired connection]).filter Entry.isStep = entries.filter Entry.isStep :=
      grown.trans (List.append_nil _)
    exact same.trans told.2
  | reached =>
    refine ⟨fun connection member => ?_, ?_⟩
    · rcases List.mem_append.mp member with before | last
      · exact told.1 connection before
      · cases List.mem_singleton.mp last
    · rw [grown, told.2]
      rfl
  | plain plain connection =>
    have only : entries.filter Entry.isStep = [.told (.running leaf)] := told
    refine ⟨connection, [], grown.trans ?_⟩
    rw [only, Leaf.opening, if_pos plain]
    rfl
  | begin transaction connection =>
    have only : entries.filter Entry.isStep = [.told (.running leaf)] := told
    refine ⟨transaction, grown.trans ?_⟩
    rw [only]
    rfl
  | begun connection =>
    refine ⟨told.1, grown.trans ?_⟩
    rw [told.2]
    rfl
  | refused connection =>
    refine ⟨connection, told.1, grown.trans ?_⟩
    rw [told.2]
    rfl
  | inside connection =>
    refine ⟨connection, [], grown.trans ?_⟩
    rw [told.2, Leaf.opening, if_neg (by rw [told.1]; exact Bool.false_ne_true)]
    rfl
  | farewellBeginning connection lease => exact told.farewell lease
  | farewellRefused lease => exact told.farewell lease
  | served =>
    obtain ⟨connection, rest, steps⟩ := told
    refine ⟨connection, rest ++ [entry].filter Entry.isStep, grown.trans ?_⟩
    rw [steps, List.append_assoc]

theorem Tells.comesFirst {stage : Onset κ} {entries : List (Entry κ)} (told : stage.Tells leaf call entries)
    (finished : stage.IsOver) : leaf.ComesFirst call entries := by
  cases stage with
  | unlent had =>
    obtain ⟨nobody, steps⟩ := told
    cases had with
    | false => exact .unlent nobody (.inl steps)
    | true => exact .unlent nobody (.inr steps)
  | beginning => exact .beginning told.1 told.2
  | refused =>
    obtain ⟨connection, transaction, steps⟩ := told
    exact .refused transaction steps
  | served =>
    obtain ⟨connection, rest, steps⟩ := told
    exact .served steps
  | lent => exact finished.elim
  | begun => exact finished.elim

theorem comesFirst_of_runs {stage : Onset κ} {entries : List (Entry κ)}
    (runs : (onset leaf call).Runs (.unlent false) entries stage) (finished : stage.IsOver) :
    leaf.ComesFirst call entries := by
  have quiet {stage : Onset κ} {entry : Entry κ} {entries : List (Entry κ)} (silent : entry.counts = false)
      (told : stage.Tells leaf call entries) : stage.Tells leaf call (entries ++ [entry]) := by
    refine told.quiet (Entry.isStep_of_silent silent) fun connection same => ?_
    subst same
    cases silent
  have nothing : (Onset.unlent false : Onset κ).Tells leaf call [] := ⟨fun _ => nofun, rfl⟩
  have told := runs.tells (Tells leaf call) quiet Starts.tells nothing
  exact told.comesFirst finished

/-- After its first statement a job may do what it likes. -/
theorem obeys_served (job : Job κ α) : job.Obeys (onset leaf call) .served :=
  Job.obeys_lax Starts.served trivial job

theorem obeys_called {stage : Onset κ} {lease : Lease κ} {next : Except Failure call.Answer → Job κ α}
    (asked : Starts leaf call stage (.called lease.connection call) .served) :
    (Job.request lease call next).Obeys (onset leaf call) stage := by
  have drops : (onset leaf call).Drops .served (.lease lease) := ⟨.served, .one (.served _), trivial⟩
  refine Job.obeys_request asked drops (fun answer => ?_) ?_
  · exact ⟨.served, .served _, obeys_served _⟩
  · exact ⟨.served, .served _, drops, fun failure => obeys_served _⟩

/-- A begin, after which the statement is called on the same connection, or nothing if it was refused. -/
theorem obeys_begin (transaction : leaf.isPlain = false) (lease : Lease κ)
    {next : Except Failure Unit → Job κ α}
    (begun : ∀ answer, (next (.ok answer)).Obeys (onset leaf call) (.begun lease.connection))
    (refused : ∀ failure, (next (.error failure)).Obeys (onset leaf call) .refused) :
    (Job.request lease .begin next).Obeys (onset leaf call) (.lent lease.connection) := by
  refine Job.obeys_request (.begin transaction lease.connection) ?_ (fun answer => ?_) ?_
  · exact ⟨_, .one (.farewellBeginning lease.connection lease), trivial⟩
  · exact ⟨_, .begun lease.connection, begun answer⟩
  · exact ⟨.refused, .refused lease.connection, ⟨.refused, .one (.farewellRefused lease), trivial⟩, refused⟩

theorem obeys_borrow {next : κ → Job κ α} {refused : Failure → Job κ α}
    (given : ∀ connection, (next connection).Obeys (onset leaf call) (.lent connection))
    (failed : ∀ failure, (refused failure).Obeys (onset leaf call) (.unlent true)) :
    (Job.borrow next refused).Obeys (onset leaf call) (.unlent true) := by
  refine Job.obeys_borrow .asking trivial (fun connection => ?_) failed
  exact ⟨.lent connection, .acquired connection, given connection⟩

end Onset

namespace Reactive

open Onset

variable {leaf : Leaf} {call : Call}

theorem onLease_onset (plain : leaf.isPlain = true) {next : Except Failure call.Answer → Job κ α}
    (failed : ∀ failure, (next (.error failure)).Obeys (onset leaf call) (.unlent true)) :
    (onLease none call next).Obeys (onset leaf call) (.unlent true) :=
  obeys_borrow (fun connection => obeys_called (.plain plain connection)) failed

theorem readRows_onset (plain : leaf.isPlain = true) {statement : Statement} {read : Reader κ β}
    {next : Except Failure β → Job κ α}
    (failed : ∀ failure, (next (.error failure)).Obeys (onset leaf (.openRows statement)) (.unlent true)) :
    (readRows none statement read next).Obeys (onset leaf (.openRows statement)) (.unlent true) :=
  obeys_borrow (fun connection => obeys_called (.plain plain connection)) failed

theorem serve_ofLeaf (describes : Bool) (leaf : Leaf) (next : leaf.Answer → Dialogue α) :
    (serve describes (.ofLeaf leaf next) none : Job κ α).Obeys (onset leaf (leaf.call describes .openRows))
      (.unlent false) := by
  refine ⟨.unlent true, .one .reached, ?_⟩
  -- Where no connection is lent, the failure ends the dialogue before anything is called.
  obtain ⟨kind, statement⟩ := leaf
  cases kind with
  | update => exact onLease_onset rfl fun failure => trivial
  | updateReturning column =>
    simp only [Dialogue.ofKind, Dialogue.transaction, serve]
    refine obeys_borrow (fun connection => ?_) fun failure => trivial
    refine obeys_begin rfl ⟨connection, true⟩ (fun answer => ?_) fun failure => ?_
    · simp only [unpin, Dialogue.orFail, serve, onLease]
      exact obeys_called (.inside connection)
    · exact ⟨.refused, .one (.farewellRefused _), trivial⟩
  | query => exact readRows_onset rfl fun failure => trivial
  | queryOne => exact readRows_onset rfl fun failure => trivial
  | queryIterable => exact readRows_onset rfl fun failure => trivial
  | queryMeta =>
    cases describes with
    | true => exact onLease_onset rfl fun failure => trivial
    | false => exact readRows_onset rfl fun failure => trivial

end Reactive

end SqlProgram
