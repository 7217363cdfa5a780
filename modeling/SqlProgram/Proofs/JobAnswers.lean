import SqlProgram.Proofs.StatementCalls
import SqlProgram.Run.Strategy

/-!
What a job asks of a backend, and how it goes on with each answer. Only calls that carry out requests
count; which connections they go to does not.
-/

namespace SqlProgram

/-- An action that ends in the given way after the given requests. -/
def Action.Yields (action : Action σ κ α) (world : World σ κ) (outcome : Option (Outcome α))
    (requests : List Request) : Prop :=
  (action world).1 = outcome ∧ (action world).2.requests = world.requests ++ requests

namespace Job

/-- How a job ends that is waited for, and what it asks for until then, in whatever world. -/
def Yields (backend : Backend σ κ) (job : Job κ α) (state : σ) (outcome : Option (Outcome α))
    (requests : List Request) : Prop :=
  ∀ world : World σ κ, world.state = state → (job.toAction backend).Yields world outcome requests

variable {backend : Backend σ κ}

theorem yields_done (state : σ) (outcome : Outcome α) :
    (Job.done outcome).Yields backend state (some outcome) [] :=
  fun _ _ => ⟨rfl, (List.append_nil _).symm⟩

theorem yields_record {next : Job κ α} {entry : Entry κ} (silent : entry.request? = none)
    (rest : next.Yields backend state outcome requests) :
    (Job.record entry next).Yields backend state outcome requests := by
  intro world same
  obtain ⟨ends, asked⟩ := rest (world.add entry) same
  rw [World.requests_quiet silent] at asked
  exact ⟨ends, asked⟩

theorem yields_recordAll {next : Job κ α} {entries : List (Entry κ)}
    (silent : ∀ entry ∈ entries, entry.counts = false)
    (rest : next.Yields backend state outcome requests) :
    (recordAll entries next).Yields backend state outcome requests := by
  induction entries with
  | nil => exact rest
  | cons entry entries ih =>
    have first := Entry.request?_of_silent (silent entry (List.mem_cons_self ..))
    refine yields_record first (ih fun other member => ?_)
    exact silent other (List.mem_cons_of_mem _ member)

theorem yields_giveBack {next : Job κ α} {lease : Lease κ}
    (rest : next.Yields backend (backend.returned lease state) outcome requests) :
    (Job.giveBack lease next).Yields backend state outcome requests := by
  rintro world rfl
  obtain ⟨ends, asked⟩ := rest (backend.giveBack lease world) (backend.state_giveBack lease world)
  rw [backend.requests_giveBack] at asked
  exact ⟨ends, asked⟩

theorem yields_finish (lease : Lease κ) (state : σ) (outcome : Outcome α) :
    (finish lease outcome).Yields backend state (some outcome) [] :=
  yields_giveBack (yields_done _ outcome)

theorem yields_pause {next : Job κ α} {entries : List (Entry κ)} (held : Held κ) (count : Nat)
    (silent : ∀ entry ∈ entries, entry.request? = none)
    (rest : next.Yields backend state outcome requests) :
    (Job.pause held (.polls count) entries next).Yields backend state outcome requests := by
  rintro world rfl
  obtain ⟨ends, asked⟩ := rest (world.addAll entries) (World.state_addAll entries world)
  rw [World.requests_addAll silent] at asked
  have finished : (Job.pause held (.polls count) entries next).toAction backend world =
      next.toAction backend (world.addAll entries) := by cases count <;> rfl
  rw [Action.Yields, finished]
  exact ⟨ends, asked⟩

theorem yields_forever (held : Held κ) (entries : List (Entry κ)) (next : Job κ α) (state : σ) :
    (Job.pause held .never entries next).Yields backend state none [] :=
  fun _ _ => ⟨rfl, (List.append_nil _).symm⟩

theorem yields_reply {reply : Reply β} {next : Outcome β → Job κ α} {result : Outcome β}
    {entries : List (Entry κ)}
    (held : Held κ) (silent : ∀ entry ∈ entries, entry.request? = none) (arrived : reply.answer? = some result)
    (rest : (next result).Yields backend state outcome requests) :
    (Job.pause held reply.delay entries (next reply.outcome)).Yields backend state outcome requests := by
  obtain ⟨delay, found, events⟩ := reply
  cases delay with
  | never => cases arrived
  | polls count =>
    cases arrived
    exact yields_pause held count silent rest

theorem yields_silence {reply : Reply β} (held : Held κ) (entries : List (Entry κ)) (next : Job κ α) (state : σ)
    (silence : reply.answer? = none) :
    (Job.pause held reply.delay entries next).Yields backend state none [] := by
  obtain ⟨delay, found, events⟩ := reply
  cases delay with
  | never => exact yields_forever held entries next state
  | polls count => cases silence

theorem yields_calling {lease : Lease κ} {call : Call} {next : Outcome call.Answer → Job κ α} {state : σ}
    (rest : (Job.pause (.lease lease) (backend.call lease.connection call state).1.delay
        ((backend.call lease.connection call state).1.callEntries lease.connection call)
        (next (backend.call lease.connection call state).1.outcome)).Yields backend
      (backend.call lease.connection call state).2 outcome requests) :
    (Job.call lease call next).Yields backend state outcome (call.request :: requests) := by
  rintro world rfl
  obtain ⟨ends, asked⟩ := rest
    ({ world with state := (backend.call lease.connection call world.state).2 }.add (.called lease.connection call)) rfl
  refine ⟨ends, asked.trans ?_⟩
  rw [World.requests_add, List.append_assoc]
  rfl

theorem request?_callEntries (connection : κ) (call : Call) (reply : Reply call.Answer) :
    ∀ entry ∈ reply.callEntries connection call, entry.request? = none := by
  intro entry member
  rcases List.mem_append.mp member with told | answered
  · exact Entry.request?_of_silent (Entry.silent_database _ entry told)
  · cases List.mem_singleton.mp answered
    rfl

theorem yields_call {lease : Lease κ} {call : Call} {next : Outcome call.Answer → Job κ α} {state : σ}
    {result : Outcome call.Answer} (arrived : (backend.reply lease.connection call state).1 = some result)
    (rest : (next result).Yields backend (backend.reply lease.connection call state).2 outcome requests) :
    (Job.call lease call next).Yields backend state outcome (call.request :: requests) :=
  yields_calling (yields_reply _ (request?_callEntries lease.connection call _) arrived rest)

theorem yields_unanswered {lease : Lease κ} {call : Call} {next : Outcome call.Answer → Job κ α} {state : σ}
    (silence : (backend.reply lease.connection call state).1 = none) :
    (Job.call lease call next).Yields backend state none [call.request] :=
  yields_calling (yields_silence _ _ _ _ silence)

theorem request?_acquireEntries (reply : Reply κ) : ∀ entry ∈ reply.acquireEntries, entry.request? = none := by
  intro entry member
  rcases List.mem_append.mp member with told | acquired
  · exact Entry.request?_of_silent (Entry.silent_database _ entry told)
  · revert acquired
    cases reply.outcome with
    | panicked panic => exact fun impossible => nomatch impossible
    | _ =>
      intro acquired
      cases List.mem_singleton.mp acquired
      rfl

theorem yields_acquire {next : Outcome κ → Job κ α} {state : σ} {result : Outcome κ}
    (arrived : (backend.acquire state).1.answer? = some result)
    (rest : (next result).Yields backend (backend.acquire state).2 outcome requests) :
    (Job.acquire next).Yields backend state outcome requests := by
  rintro world rfl
  have waits := yields_reply .nothing (request?_acquireEntries (backend.acquire world.state).1) arrived rest
  obtain ⟨ends, asked⟩ := waits ({ world with state := (backend.acquire world.state).2 }.add .acquiring) rfl
  rw [World.requests_quiet rfl] at asked
  exact ⟨ends, asked⟩

/-- A job that makes some requests and goes on with an answer. A panic ends it, and so does an answer
that never comes. -/
def Asks (backend : Backend σ κ) (job : Job κ α) (state : σ) (requests : List Request)
    (answer : Option (Outcome β)) (later : σ) (next : Except Failure β → Job κ α) : Prop :=
  match answer with
  | some (.ok value) => ∀ outcome more, (next (.ok value)).Yields backend later outcome more →
      job.Yields backend state outcome (requests ++ more)
  | some (.failed failure) => ∀ outcome more, (next (.error failure)).Yields backend later outcome more →
      job.Yields backend state outcome (requests ++ more)
  | some (.panicked panic) => job.Yields backend state (some (.panicked panic)) requests
  | none => job.Yields backend state none requests

theorem Asks.preceded {job whole : Job κ α} {answer : Option (Outcome β)} {next : Except Failure β → Job κ α}
    (asks : job.Asks backend state requests answer later next)
    (steps : ∀ outcome more, job.Yields backend state outcome more →
      whole.Yields backend before outcome (earlier ++ more)) :
    whole.Asks backend before (earlier ++ requests) answer later next := by
  match answer with
  | some (.ok value) =>
    intro outcome more rest
    rw [List.append_assoc]
    exact steps outcome _ (asks outcome more rest)
  | some (.failed failure) =>
    intro outcome more rest
    rw [List.append_assoc]
    exact steps outcome _ (asks outcome more rest)
  | some (.panicked panic) => exact steps _ _ asks
  | none => exact steps _ _ asks

theorem Asks.delayed {job whole : Job κ α} {answer : Option (Outcome β)} {next : Except Failure β → Job κ α}
    (asks : job.Asks backend state requests answer later next)
    (steps : ∀ outcome more, job.Yields backend state outcome more → whole.Yields backend before outcome more) :
    whole.Asks backend before requests answer later next := by
  rw [← List.nil_append requests]
  exact asks.preceded steps

theorem asks_request (backend : Backend σ κ) (lease : Lease κ) (call : Call) (state : σ)
    (next : Except Failure call.Answer → Job κ α) :
    (request lease call next).Asks backend state [call.request] (backend.reply lease.connection call state).1
      (backend.reply lease.connection call state).2 next := by
  unfold Asks
  split
  next value found => exact fun outcome more rest => yields_call found rest
  next failure found => exact fun outcome more rest => yields_call found rest
  next panic found => exact yields_call found (yields_finish lease _ (.panicked panic))
  next found => exact yields_unanswered found

theorem asks_borrow {next : κ → Job κ α} {refused : Failure → Job κ α} {connection : κ}
    {answer : Option (Outcome β)} {resumed : Except Failure β → Job κ α}
    (arrived : (backend.acquire state).1.answer? = some (.ok connection))
    (asks : (next connection).Asks backend (backend.acquire state).2 requests answer later resumed) :
    (borrow next refused).Asks backend state requests answer later resumed :=
  asks.delayed fun _ _ rest => yields_acquire arrived rest

theorem Asks.andThen {job : Job κ α} {answer : Option (Outcome β)} {middle : Except Failure β → Job κ α}
    {read : β → Option (Outcome γ)} {next : Except Failure γ → Job κ α}
    (asks : job.Asks backend state requests answer later middle)
    (reads : ∀ value, (middle (.ok value)).Asks backend later [] (read value) later next)
    (passes : ∀ failure, middle (.error failure) = next (.error failure)) :
    job.Asks backend state requests (whenAnswered answer read) later next := by
  match answer with
  | some (.ok value) =>
    have whole := (reads value).preceded asks
    rwa [List.append_nil] at whole
  | some (.failed failure) =>
    intro outcome more rest
    rw [← passes failure] at rest
    exact asks outcome more rest
  | some (.panicked panic) => exact asks
  | none => exact asks

/-- Reading row by row comes to the same as all rows at once. -/
theorem asks_drainFrom (lease : Lease κ) (state : σ) (next : Except Failure Cursor → Job κ α)
    (steps : List RowStep) {rows current : RowStream}
    (same : current.closing = rows.closing ∧ current.layout = rows.layout) (read : List Row) (count : Nat) :
    (drainFrom lease current read next steps).Asks backend state []
      (rows.collectFrom read (.polls count) steps).answer? state next := by
  induction steps generalizing current read count with
  | nil =>
    unfold drainFrom RowStream.collectFrom
    rw [same.1, same.2]
    cases rows.closing with
    | never => exact yields_forever _ _ _ state
    | polls more =>
      refine fun outcome requests rest => yields_pause _ more (fun entry member => ?_) rest
      rcases List.mem_append.mp member with told | dropped
      · exact Entry.request?_of_silent (Entry.silent_database _ entry told)
      · exact Entry.request?_of_silent (RowStream.silent_dropEntries _ _ entry dropped)
  | cons step rest ih =>
    obtain ⟨delay, item⟩ := step
    have kept := { current with steps := ⟨delay, item⟩ :: rest }.advance_keeps
    cases delay with
    | never =>
      have silence : (rows.collectFrom read (.polls count) (⟨.never, item⟩ :: rest)).answer? = none := by
        cases item with
        | ok row => exact rows.collectFrom_never (row :: read) rest
        | failed failure => rfl
        | panicked panic => rfl
      rw [silence]
      exact yields_forever _ _ _ state
    | polls more =>
      refine Asks.delayed ?_ fun _ _ => yields_pause _ more fun _ impossible => nomatch impossible
      cases item with
      | ok row => exact ih ⟨kept.1.trans same.1, kept.2.trans same.2⟩ (row :: read) (count + more)
      | failed failure => exact fun _ _ => yields_recordAll (RowStream.silent_dropEntries _ _)
      | panicked panic =>
        exact yields_recordAll (RowStream.silent_dropEntries _ _) (yields_finish lease state (.panicked panic))

theorem asks_drain (lease : Lease κ) (rows : RowStream) (state : σ) (next : Except Failure Cursor → Job κ α) :
    (drain lease rows next).Asks backend state [] rows.collect.answer? state next :=
  asks_drainFrom lease state next rows.steps ⟨rfl, rfl⟩ [] 0

theorem asks_columns (lease : Lease κ) (rows : RowStream) (state : σ)
    (next : Except Failure RowLayout → Job κ α) :
    (Reactive.columnsOf lease rows next).Asks backend state [] (some (.ok rows.layout)) state next :=
  fun _ _ rest => yields_recordAll (rows.silent_dropEntries lease.connection) rest

end Job

end SqlProgram
