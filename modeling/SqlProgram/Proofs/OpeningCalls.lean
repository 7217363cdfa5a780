import SqlProgram.Proofs.FirstCalls
import SqlProgram.Proofs.PollPatience
import SqlProgram.Run.Blocking

/-!
How a run begins, by what its backend answers. Once a connection was lent, the statement of the first leaf is called on
it; only a begin comes before, and only one that does not succeed is in the way.
-/

namespace SqlProgram

/-- The steps of a run that begins with a leaf in a state of its backend. Those that it takes without a connection
are given. -/
inductive Leaf.Opens (leaf : Leaf) (backend : Backend σ κ) (call : Call) (state : σ) (alone : List (Entry κ)) :
    List (Entry κ) → Prop where
  | unlent (nobody : ∀ connection, (backend.acquire state).1.answer? ≠ some (.ok connection)) :
      Opens leaf backend call state alone alone
  | unanswered (lent : (backend.acquire state).1.answer? = some (.ok connection)) (transaction : leaf.isPlain = false)
      (silent : (backend.reply connection .begin (backend.acquire state).2).1 = none) :
      Opens leaf backend call state alone [.told (.running leaf), .called connection .begin]
  | refused (lent : (backend.acquire state).1.answer? = some (.ok connection)) (transaction : leaf.isPlain = false)
      (begun : (backend.reply connection .begin (backend.acquire state).2).1 = some outcome)
      (unsuccessful : outcome.isOk = false) :
      Opens leaf backend call state alone
        [.told (.running leaf), .called connection .begin, .answered connection .begin false]
  | served (lent : (backend.acquire state).1.answer? = some (.ok connection))
      (begun : leaf.isPlain = false →
        (backend.reply connection .begin (backend.acquire state).2).1 = some (.ok ()))
      (rest : List (Entry κ)) : Opens leaf backend call state alone (leaf.opening call connection ++ rest)

/-- Between two worlds a run began with a leaf. -/
def Leaf.Opened (leaf : Leaf) (backend : Backend σ κ) (call : Call) (alone : List (Entry κ))
    (world after : World σ κ) : Prop :=
  ∃ steps, after.steps = world.steps ++ steps ∧ leaf.Opens backend call world.state alone steps

namespace Job

variable {backend : Backend σ κ} {state : σ} {shown : List (Entry κ) → Prop}

/-- A job that asks for a connection waits in vain, or goes on with the answer. -/
theorem advance_acquire (backend : Backend σ κ) (next : Outcome κ → Job κ α) (world : World σ κ) :
    ((backend.acquire world.state).1.answer? = none ∧
        ((Job.acquire next).advance backend true world).2.steps = world.steps) ∨
      ∃ outcome later, (backend.acquire world.state).1.answer? = some outcome ∧
        later.state = (backend.acquire world.state).2 ∧ later.steps = world.steps ∧
        (Job.acquire next).advance backend true world = (next outcome).advance backend true later := by
  have asked : ({ world with state := (backend.acquire world.state).2 }.add .acquiring).steps = world.steps :=
    World.steps_quiet rfl _
  simp only [advance]
  cases delay : (backend.acquire world.state).1.delay with
  | never =>
    left
    exact ⟨by rw [Reply.answer?, delay], asked⟩
  | polls count =>
    right
    simp only [Delay.left_polls]
    refine ⟨_, _, by rw [Reply.answer?, delay], World.state_addAll _ _, ?_, rfl⟩
    rw [World.steps_addAll, Reply.steps_acquireEntries, List.append_nil, asked]

theorem advance_call (backend : Backend σ κ) (lease : Lease κ) (call : Call) (next : Outcome call.Answer → Job κ α)
    (world : World σ κ) :
    ((backend.reply lease.connection call world.state).1 = none ∧
        ((Job.call lease call next).advance backend true world).2.steps =
          world.steps ++ [.called lease.connection call]) ∨
      ∃ outcome later, (backend.reply lease.connection call world.state).1 = some outcome ∧
        later.steps = world.steps ++ [.called lease.connection call, .answered lease.connection call outcome.isOk] ∧
        (Job.call lease call next).advance backend true world = (next outcome).advance backend true later := by
  simp only [advance, Backend.reply]
  cases delay : (backend.call lease.connection call world.state).1.delay with
  | never =>
    left
    exact ⟨by rw [Reply.answer?, delay], World.steps_add ..⟩
  | polls count =>
    right
    simp only [Delay.left_polls]
    refine ⟨_, _, by rw [Reply.answer?, delay], ?_, rfl⟩
    rw [World.steps_addAll, Reply.steps_callEntries, World.steps_add, List.append_assoc]
    rfl

/-- What the steps of a job are from a state on, for whoever waits as long as it takes. -/
def Shows (backend : Backend σ κ) (state : σ) (job : Job κ α) (shown : List (Entry κ) → Prop) : Prop :=
  ∀ world : World σ κ, world.state = state →
    ∃ steps, (job.advance backend true world).2.steps = world.steps ++ steps ∧ shown steps

def Stops (backend : Backend σ κ) (job : Job κ α) : Prop :=
  ∀ world : World σ κ, (job.advance backend true world).2.steps = world.steps

theorem stops_finish (lease : Lease κ) (outcome : Outcome α) : (finish lease outcome).Stops backend :=
  fun world => backend.steps_giveBack lease world

theorem shows_told {leaf : Leaf} {next : Job κ α}
    (shows : next.Shows backend state fun rest => shown (.told (.running leaf) :: rest)) :
    (Job.record (.told (.running leaf)) next).Shows backend state shown := by
  intro world here
  obtain ⟨rest, grown, holds⟩ := shows (world.add (.told (.running leaf))) here
  rw [World.steps_add, List.append_assoc] at grown
  exact ⟨_, grown, holds⟩

theorem shows_borrow {next : κ → Job κ α} {refused : Failure → Job κ α}
    (lent : ∀ connection, (backend.acquire state).1.answer? = some (.ok connection) →
      (next connection).Shows backend (backend.acquire state).2 shown)
    (failed : ∀ failure, (refused failure).Stops backend)
    (nobody : (∀ connection, (backend.acquire state).1.answer? ≠ some (.ok connection)) → shown []) :
    (borrow next refused).Shows backend state shown := by
  intro world here
  subst here
  rw [borrow]
  rcases advance_acquire backend _ world with ⟨silent, stood⟩ | ⟨outcome, later, answer, found, stood, went⟩
  · refine ⟨[], stood.trans (List.append_nil _).symm, nobody ?_⟩
    intro connection
    rw [silent]
    exact nofun
  · rw [went, ← stood]
    cases outcome with
    | ok connection => exact lent connection answer later found
    | failed failure =>
      refine ⟨[], (failed failure later).trans (List.append_nil _).symm, nobody ?_⟩
      intro connection
      rw [answer]
      exact nofun
    | panicked panic =>
      refine ⟨[], (List.append_nil _).symm, nobody ?_⟩
      intro connection
      rw [answer]
      exact nofun

theorem shows_request (lease : Lease κ) (call : Call) (next : Except Failure call.Answer → Job κ α) :
    (request lease call next).Shows backend state fun steps =>
      ∃ rest, steps = .called lease.connection call :: rest := by
  intro world _
  obtain ⟨entries, grown⟩ := call_grows backend true lease call _ world
  refine ⟨(.called lease.connection call :: entries).filter Entry.isStep, ?_, entries.filter Entry.isStep, rfl⟩
  rw [World.steps, World.steps, ← List.filter_append]
  exact congrArg (List.filter Entry.isStep) grown

/-- A begin, and what comes of it. -/
theorem shows_begin (lease : Lease κ) {next : Except Failure Unit → Job κ α}
    (silent : (backend.reply lease.connection .begin state).1 = none → shown [.called lease.connection .begin])
    (begun : (backend.reply lease.connection .begin state).1 = some (.ok ()) →
      ∀ later, (next (.ok ())).Shows backend later fun rest =>
        shown (.called lease.connection .begin :: .answered lease.connection .begin true :: rest))
    (failed : ∀ failure, (next (.error failure)).Stops backend)
    (refused : ∀ outcome, (backend.reply lease.connection .begin state).1 = some outcome → outcome.isOk = false →
      shown [.called lease.connection .begin, .answered lease.connection .begin false]) :
    (request lease .begin next).Shows backend state shown := by
  intro world here
  subst here
  rw [request]
  rcases advance_call backend lease .begin _ world with ⟨none, stood⟩ | ⟨outcome, later, answer, stood, went⟩
  · exact ⟨_, stood, silent none⟩
  · rw [went]
    cases outcome with
    | ok value =>
      obtain ⟨rest, grown, holds⟩ := begun answer later.state later rfl
      rw [stood, List.append_assoc] at grown
      exact ⟨_, grown, holds⟩
    | failed failure => exact ⟨_, (failed failure later).trans stood, refused _ answer rfl⟩
    | panicked panic => exact ⟨_, (stops_finish lease _ later).trans stood, refused _ answer rfl⟩

end Job

namespace Leaf

variable {leaf : Leaf} {backend : Backend σ κ} {call : Call} {state : σ} {alone : List (Entry κ)} {connection : κ}

theorem opens_plain (plain : leaf.isPlain = true) (lent : (backend.acquire state).1.answer? = some (.ok connection))
    (next : Except Failure call.Answer → Job κ α) (later : σ) :
    (Job.request ⟨connection, false⟩ call next).Shows backend later fun rest =>
      leaf.Opens backend call state alone (.told (.running leaf) :: rest) := by
  intro world here
  obtain ⟨steps, grown, rest, rfl⟩ := Job.shows_request ⟨connection, false⟩ call next world here
  have opening : leaf.opening call connection = [.told (.running leaf), .called connection call] := if_pos plain
  have opened : leaf.Opens backend call state alone (leaf.opening call connection ++ rest) :=
    .served lent (fun transaction => nomatch plain.symm.trans transaction) rest
  rw [opening] at opened
  exact ⟨_, grown, opened⟩

/-- A leaf that begins a transaction on the connection that was lent, and calls its statement on the same. -/
theorem opens_begin (transaction : leaf.isPlain = false)
    (lent : (backend.acquire state).1.answer? = some (.ok connection)) {next : Except Failure Unit → Job κ α}
    (begun : ∀ later, (next (.ok ())).Shows backend later fun steps => ∃ rest, steps = .called connection call :: rest)
    (failed : ∀ failure, (next (.error failure)).Stops backend) :
    (Job.request ⟨connection, true⟩ .begin next).Shows backend (backend.acquire state).2 fun rest =>
      leaf.Opens backend call state alone (.told (.running leaf) :: rest) := by
  apply Job.shows_begin
  · exact .unanswered lent transaction
  · intro answer later world here
    obtain ⟨steps, grown, rest, rfl⟩ := begun later world here
    have opening : leaf.opening call connection =
        [.told (.running leaf), .called connection .begin, .answered connection .begin true, .called connection call] :=
      if_neg (by rw [transaction]; exact Bool.false_ne_true)
    have opened : leaf.Opens backend call state alone (leaf.opening call connection ++ rest) :=
      .served lent (fun _ => answer) rest
    rw [opening] at opened
    exact ⟨_, grown, opened⟩
  · exact failed
  · exact fun outcome answer unsuccessful => .refused lent transaction answer unsuccessful

end Leaf

variable {backend : Backend σ κ}

theorem Blocking.serve_opens (leaf : Leaf) (next : leaf.Answer → Dialogue α) {state : σ} {connection : κ}
    (lent : (backend.acquire state).1.answer? = some (.ok connection)) (alone : List (Entry κ)) :
    (serve backend.describes (.ofLeaf leaf next) ⟨connection, false⟩).Shows backend (backend.acquire state).2
      (leaf.Opens backend (leaf.call backend.describes .query) state alone) := by
  apply Job.shows_told
  obtain ⟨kind, statement⟩ := leaf
  cases kind with
  | update => exact Leaf.opens_plain rfl lent _ _
  | updateReturning column =>
    simp only [Dialogue.ofKind, Dialogue.transaction, serve]
    apply Leaf.opens_begin rfl lent
    · exact fun later => Job.shows_request _ _ _
    · exact fun failure => Job.stops_finish _ _
  | query => exact Leaf.opens_plain rfl lent _ _
  | queryOne => exact Leaf.opens_plain rfl lent _ _
  | queryIterable => exact Leaf.opens_plain rfl lent _ _
  | queryMeta =>
    simp only [Dialogue.ofKind, serve, describe, Leaf.call]
    split
    · exact Leaf.opens_plain rfl lent _ _
    · exact Leaf.opens_plain rfl lent _ _

namespace Reactive

theorem onLease_opens {leaf : Leaf} {call : Call} (plain : leaf.isPlain = true)
    {next : Except Failure call.Answer → Job κ α} (failed : ∀ failure, (next (.error failure)).Stops backend)
    (state : σ) : (onLease none call next).Shows backend state fun rest =>
      leaf.Opens backend call state [.told (.running leaf)] (.told (.running leaf) :: rest) := by
  apply Job.shows_borrow
  · exact fun connection lent => Leaf.opens_plain plain lent _ _
  · exact failed
  · exact .unlent

theorem readRows_opens {leaf : Leaf} {statement : Statement} (plain : leaf.isPlain = true) {read : Reader κ β}
    {next : Except Failure β → Job κ α} (failed : ∀ failure, (next (.error failure)).Stops backend)
    (state : σ) : (readRows none statement read next).Shows backend state fun rest =>
      leaf.Opens backend (.openRows statement) state [.told (.running leaf)] (.told (.running leaf) :: rest) := by
  apply Job.shows_borrow
  · exact fun connection lent => Leaf.opens_plain plain lent _ _
  · exact failed
  · exact .unlent

theorem serve_opens (leaf : Leaf) (next : leaf.Answer → Dialogue α) (state : σ) :
    (serve backend.describes (.ofLeaf leaf next) none : Job κ α).Shows backend state
      (leaf.Opens backend (leaf.call backend.describes .openRows) state [.told (.running leaf)]) := by
  have stops (failure : Failure) : (Job.done (.failed failure) : Job κ α).Stops backend := fun _ => rfl
  apply Job.shows_told
  obtain ⟨kind, statement⟩ := leaf
  cases kind with
  | update => exact onLease_opens rfl stops state
  | updateReturning column =>
    simp only [Dialogue.ofKind, Dialogue.transaction, serve]
    apply Job.shows_borrow
    · intro connection lent
      apply Leaf.opens_begin rfl lent
      · intro later
        simp only [unpin, Dialogue.orFail, serve, onLease]
        exact Job.shows_request _ _ _
      · exact fun failure => Job.stops_finish _ _
    · exact stops
    · exact .unlent
  | query => exact readRows_opens rfl stops state
  | queryOne => exact readRows_opens rfl stops state
  | queryIterable => exact readRows_opens rfl stops state
  | queryMeta =>
    simp only [Dialogue.ofKind, serve, describe, Leaf.call]
    split
    · exact onLease_opens rfl stops state
    · exact readRows_opens rfl stops state

end Reactive

section
variable {leaf : Leaf} {next : leaf.Answer → Dialogue α} {program : Program α}

theorem Blocking.job_opens (begins : program.dialogue = .ofLeaf leaf next) (world : World σ κ) :
    leaf.Opened backend (leaf.call backend.describes .query) [] world
      ((job backend.describes program).toAction backend world).2 := by
  have shows : (job backend.describes program).Shows backend world.state
      (leaf.Opens backend (leaf.call backend.describes .query) world.state []) := by
    apply Job.shows_borrow
    · intro connection lent
      rw [begins]
      exact serve_opens leaf next lent []
    · exact fun failure _ => rfl
    · exact .unlent
  exact shows world rfl

theorem Reactive.job_opens (begins : program.dialogue = .ofLeaf leaf next) (world : World σ κ) :
    leaf.Opened backend (leaf.call backend.describes .openRows) [.told (.running leaf)] world
      ((job backend.describes program).toAction backend world).2 := by
  have shows : (job backend.describes program : Job κ α).Shows backend world.state
      (leaf.Opens backend (leaf.call backend.describes .openRows) world.state [.told (.running leaf)]) := by
    rw [job, begins]
    exact serve_opens leaf next world.state
  exact shows world rfl

end

theorem Leaf.Opened.captured {leaf : Leaf} {call : Call} {alone : List (Entry κ)} {action : Action σ κ α}
    {world : World σ κ} (opened : leaf.Opened backend call alone world (action world).2) :
    leaf.Opened backend call alone world (Strategy.capture action world).2 := by
  obtain ⟨steps, grown, opens⟩ := opened
  refine ⟨steps, ?_, opens⟩
  rw [← grown]
  unfold Strategy.capture
  split
  next panic after ran =>
    rw [ran]
    exact World.steps_quiet rfl after
  next => rfl

end SqlProgram
