import SqlProgram.Postgres.Backend
import SqlProgram.Proofs.FreeingJobs
import SqlProgram.Proofs.ReactiveAccounts
import SqlProgram.Proofs.RowLoans
import SqlProgram.Script.Server

/-!
Connections that go back with no stream open on them. A running program lets go of each stream first; a row query whose
rows still flow when it is let go of does not.
-/

namespace SqlProgram

namespace Reactive

variable {traced : Prop}

theorem onLease_frees {pinned : Option (Lease κ)} {call : Call} {next : Except Failure call.Answer → Job κ α}
    (plain : ∀ connection answered, (.answered connection call answered : Entry κ).isPlain)
    (resumes : ∀ answer, (next answer).Resumes traced) : (onLease pinned call next).Resumes traced := by
  cases pinned with
  | some lease => exact Job.frees_request (plain lease.connection) resumes
  | none =>
    refine Job.frees_borrow (fun connection => ?_) fun failure => resumes (.error failure)
    exact Job.frees_request (plain connection) fun answer => Job.frees_giveBack _ (resumes answer)

theorem readRows_frees {pinned : Option (Lease κ)} {statement : Statement} {reader : Reader κ β}
    {next : Except Failure β → Job κ α}
    (reads : ∀ {lease : Lease κ} {rows : RowStream} {next : Except Failure β → Job κ α},
      (traced → rows.inMemory = false) → (∀ answer, (next answer).Resumes traced) →
        (reader lease rows next).Frees traced (some lease.connection))
    (resumes : ∀ answer, (next answer).Resumes traced) : (readRows pinned statement reader next).Resumes traced := by
  have onConnection (lease : Lease κ) {next : Except Failure β → Job κ α}
      (resumes : ∀ answer, (next answer).Resumes traced) :
      (readRows (some lease) statement reader next).Resumes traced := by
    simp only [readRows]
    exact Job.frees_openRows (fun _ traces => reads traces resumes) fun failure => resumes (.error failure)
  cases pinned with
  | some lease => exact onConnection lease resumes
  | none =>
    refine Job.frees_borrow (fun connection => ?_) fun failure => resumes (.error failure)
    exact onConnection ⟨connection, false⟩ fun answer => Job.frees_giveBack _ (resumes answer)

theorem describe_frees (describes : Bool) {pinned : Option (Lease κ)} {statement : Statement}
    {next : Except Failure RowLayout → Job κ α} (resumes : ∀ answer, (next answer).Resumes traced) :
    (describe describes pinned statement next).Resumes traced := by
  unfold describe
  split
  · exact onLease_frees (fun _ _ => rfl) resumes
  · exact readRows_frees (fun traces resumes => Job.frees_dropEntries traces (resumes _)) resumes

theorem unpin_frees (pinned : Option (Lease κ)) {next : Job κ α} (resumes : next.Resumes traced) :
    (unpin pinned next).Resumes traced := by
  cases pinned with
  | some lease => exact Job.frees_giveBack lease resumes
  | none => exact resumes

theorem close_frees {pinned : Option (Lease κ)} {call : Call} {next : Except Failure call.Answer → Job κ α}
    (plain : ∀ connection answered, (.answered connection call answered : Entry κ).isPlain)
    (resumes : ∀ answer, (next answer).Resumes traced) : (close pinned call next).Resumes traced := by
  cases pinned with
  | none => exact resumes _
  | some lease =>
    simp only [close]
    refine Job.frees_request (plain lease.connection) fun answer => ?_
    cases answer with
    | ok answer => exact Job.frees_giveBack _ (resumes (.ok answer))
    | error failure => exact Job.frees_giveBack _ (resumes (.error failure))

/-- Whatever is asked for, each stream is let go of before anything else is done. -/
theorem serve_frees (describes : Bool) (dialogue : Dialogue α) (pinned : Option (Lease κ)) :
    (serve describes dialogue pinned).Resumes traced := by
  induction dialogue generalizing pinned with
  | done outcome => exact unpin_frees pinned fun _ idle => idle
  | note event next ih => exact fun busy idle => ⟨busy, .plain rfl .nil, ih pinned busy idle⟩
  | ask request next ih =>
    cases request with
    | begin =>
      simp only [serve]
      refine Job.frees_borrow (fun connection => ?_) fun failure => ih (.error failure) pinned
      refine Job.frees_request (fun _ => rfl) fun answer => ?_
      cases answer with
      | ok _ => exact unpin_frees pinned (ih (.ok ()) (some ⟨connection, true⟩))
      | error failure => exact Job.frees_giveBack _ (ih (.error failure) pinned)
    | commit => exact close_frees (fun _ _ => rfl) fun answer => ih answer none
    | rollback => exact close_frees (fun _ _ => rfl) fun answer => ih answer none
    | update statement => exact onLease_frees (fun _ _ => rfl) fun answer => ih answer pinned
    | updateReturning statement column => exact onLease_frees (fun _ _ => rfl) fun answer => ih answer pinned
    | query statement =>
      refine readRows_frees (fun traces resumes => ?_) fun answer => ih answer pinned
      exact Job.frees_drainFrom resumes _ traces []
    | describe statement => exact describe_frees describes fun answer => ih answer pinned

theorem stream_frees (backend : Backend σ κ) (program : Program α) : (program.stream backend).Frees traced none := by
  refine ⟨serve_frees backend.describes program.dialogue none none fun _ => rfl, ?_⟩
  have held := serve_held (κ := κ) backend.describes program.orderly
  rw [job, held]
  exact fun _ => rfl

end Reactive

/-- Between two worlds no connection went back before its stream was let go of, nor was one let go of later. -/
def Freed (traced : Prop) (world after : World σ κ) : Prop :=
  ∃ entries, after.history = world.history ++ entries ∧ InTime traced entries

theorem World.Tells.freed {traced : Prop} {busy : Option κ} {world after : World σ κ}
    (tells : after.Tells traced world.history busy) : Freed traced world after := by
  obtain ⟨entries, grown, told⟩ := tells
  exact ⟨entries, grown, told.inTime⟩

namespace RowQuery

inductive Lends (backend : Backend σ κ) (target : Opening κ) (recorded : List (Entry κ)) :
    RowQuery κ → World σ κ → Prop where
  | opening (unopened : ∀ entry ∈ recorded, ∀ connection, ¬ entry.Opens connection ∧ ¬ entry.Returns connection)
      (dropped : (drop backend (.opening job) world).dealings = world.dealings ++ returns recorded) :
      Lends backend target recorded (.opening job) world
  | reading (lent : target = .lent connection (.ok opened)) (phase : rows.phase = opened.phase)
      (kept : ∀ entry ∈ recorded, ∀ connection, ¬ entry.Returns connection)
      (late : (drop backend (.reading ⟨connection, false⟩ true rows) world).history =
        world.history ++ .told .releasing :: .released connection :: rows.dropEntries connection) :
      Lends backend target recorded (.reading ⟨connection, false⟩ true rows) world
  | back (returned : Returned query) (dropped : (query.drop backend world).dealings = world.dealings) :
      Lends backend target recorded query world

theorem lends_of_stands {backend : Backend σ κ} {mapper : Row → Outcome α} {statement : Statement} {target : Opening κ}
    {prompt : Prop} {query : RowQuery κ} {world : World σ κ} {recorded before : List (Entry κ)}
    {arrived : List (Polled (Outcome α))}
    (stands : Stands backend mapper statement target prompt query world.state recorded arrived)
    (told : world.dealings = before ++ recorded) : Lends backend target recorded query world := by
  obtain ⟨lead, _, _, grown, dropped⟩ := drop_stands stands told
  cases stands with
  | waiting waits =>
    have same : recorded = lead := by simpa using grown
    refine .opening ?_ ?_
    · cases waits <;> simp [Entry.Opens, Entry.Returns]
    · rw [dropped, told, same, List.append_assoc]
  | reading lent split flowing phase finite =>
    refine .reading lent phase ?_ ?_
    · subst lent
      simp [Opening.lead, Entry.Returns]
    · rw [drop, if_pos rfl, World.history_addAll, World.history_giveBack, List.append_assoc]
      rfl
  | returned gone late beyond =>
    refine .back gone ?_
    cases gone with
    | closed => rfl
    | failed connection rows phase => exact World.dealings_dropEntries ..

end RowQuery

namespace Postgres

theorem Client.timed_ok {client : Client σ} {sql : String} {params : Nat} {exchange : Exchange σ α} {state : σ}
    (ok : (client.timed sql params exchange state).1.outcome = .ok value) :
    ∃ after, exchange.run.run state = (.ok value, after) := by
  unfold timed at ok
  revert ok
  generalize exchange.run.run state = ran
  obtain ⟨result, after⟩ := ran
  intro ok
  cases result with
  | ok found =>
    cases ok
    exact ⟨after, rfl⟩
  | error interruption =>
    cases interruption with
    | failed failure => cases ok
    | silence =>
      revert ok
      cases client.config.queryTimeout <;> exact nofun

/-- Rows are fetched from the server one by one, and whoever lets go of them early aborts them. -/
theorem backend_traces (client : Client σ) : (backend client).Traces := by
  intro connection call state
  cases call with
  | openRows statement =>
    show Call.Traces (.openRows statement) (client.openRows connection statement state.server).1.outcome
    cases opened : (client.openRows connection statement state.server).1.outcome with
    | ok rows =>
      obtain ⟨after, ran⟩ := Client.timed_ok opened
      rw [ExceptT.run_bind, StateT.run_bind] at ran
      revert ran
      generalize (client.start connection statement).run.run state.server = started
      obtain ⟨result, later⟩ := started
      intro ran
      cases result with
      | ok found =>
        cases ran
        rfl
      | error interruption => cases ran
    | failed failure => exact trivial
    | panicked panic => exact trivial
  | _ => exact trivial

end Postgres

/-- A program that is run lets go of each stream before its connection goes back, wherever the run is let go of. So does
a row query, unless it is let go of while its rows flow: then they are let go of after their connection went back. -/
theorem streams_let_go_first (backend : Backend σ κ) (world : World σ κ) :
    (∀ (α : Type) (program : Program α),
      Freed backend.Traces world (program.runAsync backend world).2 ∧
        ∀ looks,
          let looked := ProgramStream.pollAll backend looks (program.stream backend) world
          Freed backend.Traces world looked.2.2 ∧ Freed backend.Traces world (looked.2.1.drop backend looked.2.2)) ∧
      ∀ (α : Type) (mapper : Row → Outcome α) (statement : Statement) (looks : List Bool),
        let looked := RowQuery.pollAll backend mapper looks (.ofStatement statement) world
        ∃ recorded, looked.2.2.dealings = world.dealings ++ recorded ∧
          RowQuery.Lends backend (RowQuery.attempt backend statement world.state) recorded looked.2.1 looked.2.2 := by
  refine ⟨fun α program => ⟨?_, fun looks => ?_⟩, fun α mapper statement looks => ?_⟩
  · have frees : (Reactive.job backend.describes program : Job κ α).Resumes backend.Traces :=
      Reactive.serve_frees backend.describes program.dialogue none
    obtain ⟨_, tells, _⟩ := Job.advance_frees id true (frees none fun _ => rfl) (.refl _ world)
    exact tells.freed
  · have start : (program.stream backend).Frees backend.Traces none := Reactive.stream_frees backend program
    obtain ⟨_, tells, frees⟩ := ProgramStream.pollAll_frees id looks start (.refl _ world)
    obtain ⟨_, dropped⟩ := ProgramStream.drop_frees backend frees tells
    exact ⟨tells.freed, dropped.freed⟩
  · have start := RowQuery.stands_ofStatement backend mapper statement world.state
    obtain ⟨recorded, stands, told, _⟩ := RowQuery.pollAll_stands looks start (List.append_nil world.dealings).symm
    exact ⟨recorded, told, RowQuery.lends_of_stands stands told⟩

/-- A running program is let go of while the server is silent. -/
theorem streams_let_go_first_silence :
    let server : Script.ServerState := {
      connect := [], simple := [], prepare := [], execute := [⟨[], .silence⟩], latest := [], connections := 0
      silent := [] }
    let client : Postgres.Client Script.ServerState := ⟨Script.server, .ofUrl ""⟩
    let backend := Postgres.backend client
    let world : World (Postgres.PoolState Script.ServerState) Nat := .ofState ⟨.ofSize 1, server⟩
    let leaf : Leaf := ⟨.queryIterable, ⟨"select id from t", []⟩⟩
    let program : Program (List Row) := .step leaf .ok
    let looked := ProgramStream.pollAll backend [false] (program.stream backend) world
    backend.Traces ∧
      (looked.2.1.drop backend looked.2.2).history =
        [.told (.running leaf), .acquiring, .acquired 1, .called 1 (.openRows leaf.statement),
          .told (.database (.executed "select id from t" 0)), .answered 1 (.openRows leaf.statement) true,
          .told (.database (.rowsAborted "select id from t")), .rowsDropped 1 0 false, .told .releasing, .released 1] ∧
      Freed backend.Traces world (looked.2.1.drop backend looked.2.2) := by
  intro server client backend world leaf program looked
  have started : program.stream backend = ⟨some (Reactive.serve true program.meaning none)⟩ := by
    rw [Program.stream, ProgramStream.ofProgram, Reactive.job, Program.dialogue_eq_meaning]
    rfl
  have ran : looked =
      ProgramStream.pollAll backend [false] ⟨some (Reactive.serve true program.meaning none)⟩ world := by
    rw [← started]
  refine ⟨Postgres.backend_traces client, ?_, (((streams_let_go_first backend world).1 _ program).2 [false]).2⟩
  rw [ran]
  subst server client backend world leaf program
  rfl

/-- A row query that is let go of after the first of two rows. -/
theorem RowQuery.stream_let_go_late :
    let backend := Script.backend false
    let layout : RowLayout := ⟨[⟨"id", "", none⟩]⟩
    let first : Row := ⟨layout, [.int 1], rfl⟩
    let rows : Script.Rows := ⟨layout, [first, ⟨layout, [.int 2], rfl⟩], none, false, .now, false⟩
    let world : World Script.State Nat := .ofState {
      acquire := [], begin := [], commit := [], rollback := [], update := [], updateReturning := []
      query := [.ofOutcome (.ok rows)], lent := 0 }
    let statement : Statement := ⟨"select id", []⟩
    let looked := pollAll backend .ok [false] (ofStatement statement) world
    let dropped := looked.2.1.drop backend looked.2.2
    rows.stream.inMemory = false ∧ looked.1 = [.item (.ok first)] ∧
      dropped.history =
        [.told (.streaming statement), .acquiring, .acquired 1, .called 1 (.openRows statement),
          .answered 1 (.openRows statement) true, .told .releasing, .released 1, .rowsDropped 1 1 false] ∧
      ¬ Freed True world dropped := by
  intro backend layout first rows world statement looked dropped
  refine ⟨rfl, rfl, rfl, ?_⟩
  rintro ⟨entries, grown, inTime⟩
  cases grown
  let before : List (Entry Nat) :=
    [.told (.streaming statement), .acquiring, .acquired 1, .called 1 (.openRows statement)]
  let opened : Entry Nat := .answered 1 (.openRows statement) true
  have busy : Busy 1 (before ++ [opened, .told .releasing]) := by
    refine ⟨before, opened, [.told .releasing], rfl, rfl, ?_⟩
    simp [Entry.Drops]
  exact (inTime _ (.released 1) [.rowsDropped 1 1 false] 1 rfl).1 trivial rfl busy

end SqlProgram
