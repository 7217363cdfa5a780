import SqlProgram.Proofs.RecordRules
import SqlProgram.Run.RowQuery

/-!
The course of a row query: what it waits for, what it has said and what was recorded of its connection. One look takes
it from one place of this course to a later one, and wherever it is let go of, its connection has gone back.
-/

namespace SqlProgram

theorem Entry.filter_silent {entries : List (Entry κ)} (silent : ∀ entry ∈ entries, entry.counts = false) :
    entries.filter isConnection = [] := by
  rw [List.filter_eq_nil_iff]
  intro entry member counted
  have uncounted := silent entry member
  rw [counts, counted, Bool.or_true] at uncounted
  cases uncounted

namespace World

/-- What happened to connections so far, in order. -/
def dealings (world : World σ κ) : List (Entry κ) := world.history.filter Entry.isConnection

theorem dealings_addAll (entries : List (Entry κ)) (world : World σ κ) :
    (world.addAll entries).dealings = world.dealings ++ entries.filter Entry.isConnection := by
  rw [dealings, history_addAll, List.filter_append]
  rfl

theorem dealings_add (entry : Entry κ) (world : World σ κ) :
    (world.add entry).dealings = world.dealings ++ [entry].filter Entry.isConnection :=
  dealings_addAll [entry] world

theorem dealings_quiet {entries : List (Entry κ)} (silent : ∀ entry ∈ entries, entry.counts = false)
    (world : World σ κ) : (world.addAll entries).dealings = world.dealings := by
  rw [dealings_addAll, Entry.filter_silent silent, List.append_nil]

theorem dealings_tellAll (events : List DatabaseEvent) (world : World σ κ) :
    (world.tellAll events).dealings = world.dealings :=
  dealings_quiet (Entry.silent_database events) world

theorem dealings_dropEntries (connection : κ) (rows : RowStream) (world : World σ κ) :
    (world.addAll (rows.dropEntries connection)).dealings = world.dealings :=
  dealings_quiet (rows.silent_dropEntries connection) world

theorem dealings_acquireEntries (reply : Reply κ) (world : World σ κ) :
    (world.addAll reply.acquireEntries).dealings =
      world.dealings ++ match reply.outcome with | .ok connection => [.acquired connection] | _ => [] := by
  rw [dealings_addAll, Reply.acquireEntries, List.filter_append, Entry.filter_silent (Entry.silent_database _)]
  cases reply.outcome <;> rfl

theorem dealings_callEntries {call : Call} (connection : κ) (reply : Reply call.Answer) (world : World σ κ) :
    (world.addAll (reply.callEntries connection call)).dealings =
      world.dealings ++ [.answered connection call reply.outcome.isOk] := by
  rw [dealings_addAll, Reply.callEntries, List.filter_append, Entry.filter_silent (Entry.silent_database _)]
  rfl

theorem history_giveBack (backend : Backend σ κ) (connection : κ) (world : World σ κ) :
    (backend.giveBack ⟨connection, false⟩ world).history =
      world.history ++ [.told .releasing, .released connection] := by
  simp [Backend.giveBack, history, add]

theorem dealings_giveBack (backend : Backend σ κ) (connection : κ) (world : World σ κ) :
    (backend.giveBack ⟨connection, false⟩ world).dealings = world.dealings ++ [.released connection] := by
  rw [dealings, history_giveBack, List.filter_append]
  rfl

end World

namespace RowStream

/-- What a stream delivers, up to and including the first failure. -/
def arriving : List RowStep → List (Outcome Row)
  | [] => []
  | ⟨_, .failed failure⟩ :: _ => [.failed failure]
  | ⟨_, item⟩ :: rest => item :: arriving rest

def goesOn : Outcome Row → Bool
  | .failed _ => false
  | _ => true

def delays (rows : RowStream) : List Delay := rows.closing :: rows.steps.map RowStep.delay

/-- One look at a stream: it waits and nothing is lost, it is at its end, or it delivers its next item. -/
inductive Looked (patient : Bool) (rows : RowStream) : Polled (Outcome Row) → RowStream → Prop where
  | waits {later : RowStream} (same : arriving later.steps = arriving rows.steps) (phase : later.phase = rows.phase)
      (early : Delay.never ∉ rows.delays → patient = false ∧ Delay.never ∉ later.delays) :
      Looked patient rows .pending later
  | ends (last : rows.steps = []) : Looked patient rows .ended rows.advance
  | delivers (next : rows.steps = step :: rest) : Looked patient rows (.item step.item) rows.advance

theorem poll_looked (patient : Bool) (rows : RowStream) :
    Looked patient rows (rows.poll patient).1 (rows.poll patient).2 := by
  unfold poll
  cases wait : rows.delay.left patient with
  | some left =>
    have finite : rows.delay ≠ .never → patient = false ∧ left ≠ .never := by
      intro arrives
      cases found : rows.delay with
      | never => exact absurd found arrives
      | polls count =>
        rw [found] at wait
        cases count with
        | zero => cases wait
        | succ count =>
          cases patient with
          | true => cases wait
          | false =>
            cases wait
            exact ⟨rfl, nofun⟩
    unfold delay at finite
    unfold waiting
    cases steps : rows.steps with
    | nil =>
      rw [steps] at finite
      refine .waits (by rw [steps]) rfl fun arrives => ?_
      simp only [delays, steps, List.map_nil, List.mem_singleton] at arrives ⊢
      obtain ⟨early, later⟩ := finite (Ne.symm arrives)
      exact ⟨early, Ne.symm later⟩
    | cons step rest =>
      rw [steps] at finite
      refine .waits ?_ rfl fun arrives => ?_
      · rw [steps]
        obtain ⟨delay, item⟩ := step
        cases item <;> rfl
      · simp only [delays, steps, List.map_cons, List.mem_cons, not_or] at arrives ⊢
        obtain ⟨closing, first, others⟩ := arrives
        obtain ⟨early, later⟩ := finite (Ne.symm first)
        exact ⟨early, closing, Ne.symm later, others⟩
  | none =>
    cases steps : rows.steps with
    | nil => exact .ends steps
    | cons step rest => exact .delivers steps

theorem arriving_cons {item : Outcome Row} (goes : goesOn item) (delay : Delay) (rest : List RowStep) :
    arriving (⟨delay, item⟩ :: rest) = item :: arriving rest := by
  cases item with
  | failed failure => cases goes
  | ok row | panicked panic => rfl

theorem advance_onward {rows : RowStream} {delay : Delay} {item : Outcome Row} {rest : List RowStep}
    (next : rows.steps = ⟨delay, item⟩ :: rest) (goes : goesOn item) :
    rows.advance.steps = rest ∧ rows.advance.phase = rows.phase ∧ rows.advance.closing = rows.closing := by
  rw [advance, next]
  cases item with
  | failed failure => cases goes
  | ok row | panicked panic => exact ⟨rfl, rfl, rfl⟩

end RowStream

inductive Opening (κ : Type) where
  | refused (failure : Failure)
  | panicked (panic : Panic)
  | lent (connection : κ) (result : Outcome RowStream)

namespace Opening

def result : Opening κ → Outcome RowStream
  | .refused failure => .failed failure
  | .panicked panic => .panicked panic
  | .lent _ result => result

/-- All that is delivered: the rows, or why there are none. -/
def items (opening : Opening κ) : List (Outcome Row) :=
  match opening.result with
  | .ok rows => RowStream.arriving rows.steps
  | .failed failure => [.failed failure]
  | .panicked panic => [.panicked panic]

/-- How many of the items are delivered while the connection is on loan. -/
def kept (opening : Opening κ) : Nat :=
  match opening.result with
  | .ok rows => ((RowStream.arriving rows.steps).takeWhile RowStream.goesOn).length
  | _ => 0

def lead (statement : Statement) : Opening κ → List (Entry κ)
  | .refused _ | .panicked _ => [.acquiring]
  | .lent connection result =>
    [.acquiring, .acquired connection, .called connection (.openRows statement),
      .answered connection (.openRows statement) result.isOk]

end Opening

/-- One release for every connection that was acquired. -/
def returns (entries : List (Entry κ)) : List (Entry κ) :=
  entries.filterMap fun
    | .acquired connection => some (.released connection)
    | _ => none

def Polled.arrives : Polled α → Bool
  | .pending => false
  | _ => true

namespace RowQuery

section
variable (backend : Backend σ κ) (statement : Statement)

def granted : Outcome κ → σ → Opening κ
  | .ok connection, state => .lent connection (backend.call connection (.openRows statement) state).1.outcome
  | .failed failure, _ => .refused failure
  | .panicked panic, _ => .panicked panic

def attempt (state : σ) : Opening κ :=
  granted backend statement (backend.acquire state).1.outcome (backend.acquire state).2

def grantedDelays : Outcome κ → σ → List Delay
  | .ok connection, state =>
    let reply := (backend.call connection (.openRows statement) state).1
    reply.delay :: match reply.outcome with
      | .ok rows => rows.delays
      | _ => []
  | _, _ => []

def delays (state : σ) : List Delay :=
  (backend.acquire state).1.delay ::
    grantedDelays backend statement (backend.acquire state).1.outcome (backend.acquire state).2

end

def onOpened (connection : κ) : Outcome RowStream → Job κ (Lease κ × RowStream)
  | .ok rows => .done (.ok (⟨connection, false⟩, rows))
  | .failed failure => .finish ⟨connection, false⟩ (.failed failure)
  | .panicked panic => .finish ⟨connection, false⟩ (.panicked panic)

def onGranted (statement : Statement) : Outcome κ → Job κ (Lease κ × RowStream)
  | .ok connection => .call ⟨connection, false⟩ (.openRows statement) (onOpened connection)
  | .failed failure => .done (.failed failure)
  | .panicked panic => .done (.panicked panic)

theorem ofStatement_eq (statement : Statement) :
    (ofStatement statement : RowQuery κ) =
      .opening (.record (.told (.streaming statement)) (.acquire (onGranted statement))) := by
  unfold ofStatement Job.borrow Job.request
  refine congrArg (fun next => RowQuery.opening (.record _ (.acquire next))) ?_
  funext answer
  cases answer with
  | ok connection =>
    refine congrArg (Job.call ⟨connection, false⟩ (.openRows statement)) ?_
    funext opened
    cases opened <;> rfl
  | failed failure => rfl
  | panicked panic => rfl

def said (mapper : Row → Outcome α) (items : List (Outcome Row)) : List (Polled (Outcome α)) :=
  items.map fun item => .item (item.bind mapper)

section
variable (backend : Backend σ κ) (mapper : Row → Outcome α) (statement : Statement) (target : Opening κ) (prompt : Prop)

/-- A query that still waits to be opened, with what was recorded of connections so far. -/
inductive Waits : Job κ (Lease κ × RowStream) → σ → List (Entry κ) → Prop where
  | fresh (same : attempt backend statement state = target)
      (finite : prompt → Delay.never ∉ delays backend statement state) :
      Waits (.record (.told (.streaming statement)) (.acquire (onGranted statement))) state []
  | asking (reply : Reply κ) (same : granted backend statement reply.outcome state = target)
      (finite : prompt → delay ≠ .never ∧ Delay.never ∉ grantedDelays backend statement reply.outcome state) :
      Waits (.pause .nothing delay reply.acquireEntries (onGranted statement reply.outcome)) state [.acquiring]
  | calling (connection : κ) (reply : Reply RowStream) (same : target = .lent connection reply.outcome)
      (finite : prompt → delay ≠ .never ∧ ∀ rows, reply.outcome = .ok rows → Delay.never ∉ rows.delays) :
      Waits (.pause (.lease ⟨connection, false⟩) delay (reply.callEntries connection (.openRows statement))
          (onOpened connection reply.outcome)) state
        [.acquiring, .acquired connection, .called connection (.openRows statement)]

/-- A query that has nothing more to say and whose connection, if it had one, is back. -/
inductive Returned : RowQuery κ → Prop where
  | closed : Returned .closed
  | failed (connection : κ) (rows : RowStream) (phase : rows.phase = .failed) :
      Returned (.reading ⟨connection, false⟩ false rows)

/-- Where a query stands, with what was recorded of connections and what was said so far. -/
inductive Stands : RowQuery κ → σ → List (Entry κ) → List (Polled (Outcome α)) → Prop where
  | waiting (waits : Waits backend statement target prompt job state recorded) :
      Stands (.opening job) state recorded []
  | reading (lent : target = .lent connection (.ok opened))
      (split : target.items = past ++ RowStream.arriving rows.steps) (flowing : ∀ item ∈ past, RowStream.goesOn item)
      (phase : rows.phase = opened.phase) (finite : prompt → Delay.never ∉ rows.delays) :
      Stands (.reading ⟨connection, false⟩ true rows) state (target.lead statement) (said mapper past)
  | returned (gone : Returned query) (late : Nat) (beyond : target.kept < target.items.length + late) :
      Stands query state (target.lead statement ++ returns (target.lead statement))
        (said mapper target.items ++ List.replicate late .ended)

/-- A look after which a query stands somewhere, with all that was recorded of connections since `before`. -/
def Leads (patient : Bool) (before : List (Entry κ)) (arrived : List (Polled (Outcome α))) (look : Look σ κ α) : Prop :=
  ∃ recorded, Stands backend mapper statement target prompt look.2.1 look.2.2.state recorded
      (arrived ++ [look.1].filter Polled.arrives) ∧
    look.2.2.dealings = before ++ recorded ∧ (prompt → patient = true → look.1.arrives = true)

end

variable {backend : Backend σ κ} {mapper : Row → Outcome α} {statement : Statement} {target : Opening κ} {prompt : Prop}

/-- The rows before a failure, or all of them, are delivered while the connection is on loan. -/
theorem kept_of_flowing {connection : κ} {opened : RowStream} {past rest : List (Outcome Row)}
    (lent : target = .lent connection (.ok opened)) (split : target.items = past ++ rest)
    (flowing : ∀ item ∈ past, RowStream.goesOn item) (stops : ∀ item ∈ rest.head?, RowStream.goesOn item = false) :
    target.kept = past.length := by
  subst lent
  have whole : RowStream.arriving opened.steps = past ++ rest := split
  have none : rest.takeWhile RowStream.goesOn = [] := by
    cases rest with
    | nil => rfl
    | cons item rest => exact List.takeWhile_cons_of_neg (by simp [stops item rfl])
  simp only [Opening.kept, Opening.result, whole, List.takeWhile_append_of_pos flowing, none, List.append_nil]

section
variable {connection : κ} {opened rows : RowStream} {past : List (Outcome Row)} {world : World σ κ}
  (lent : target = .lent connection (.ok opened)) (split : target.items = past ++ RowStream.arriving rows.steps)
  (flowing : ∀ item ∈ past, RowStream.goesOn item) (told : world.dealings = before ++ target.lead statement)
include lent split flowing told

theorem onward_leads (patient : Bool) (phase : rows.phase = opened.phase) (finite : prompt → Delay.never ∉ rows.delays)
    {item : Outcome Row} {delay : Delay} {rest : List RowStep} (next : rows.steps = ⟨delay, item⟩ :: rest)
    (goes : RowStream.goesOn item) :
    Leads backend mapper statement target prompt patient before (said mapper past)
      (.item (item.bind mapper), .reading ⟨connection, false⟩ true rows.advance, world) := by
  obtain ⟨steps, same, closing⟩ := RowStream.advance_onward next goes
  have extended : said mapper past ++ [.item (item.bind mapper)] = said mapper (past ++ [item]) := by
    rw [said, said, List.map_append]
    rfl
  refine ⟨_, ?_, told, fun _ _ => rfl⟩
  rw [List.filter_cons_of_pos rfl, List.filter_nil, extended]
  refine .reading lent ?_ ?_ (same.trans phase) fun arrives => ?_
  · rw [split, next, RowStream.arriving_cons goes, steps, List.append_assoc]
    rfl
  · intro other member
    rcases List.mem_append.mp member with before | now
    · exact flowing other before
    · rw [List.mem_singleton.mp now]
      exact goes
  · have waits := finite arrives
    rw [RowStream.delays, next, List.map_cons, List.mem_cons, List.mem_cons, not_or, not_or] at waits
    rw [RowStream.delays, steps, closing, List.mem_cons, not_or]
    exact ⟨waits.1, waits.2.2⟩

/-- The first row that fails: the connection goes back, and the rows stay until the next look. -/
theorem failed_leads (patient : Bool) {failure : Failure} {delay : Delay} {rest : List RowStep}
    (next : rows.steps = ⟨delay, .failed failure⟩ :: rest) :
    Leads backend mapper statement target prompt patient before (said mapper past)
      (.item (.failed failure), .reading ⟨connection, false⟩ false rows.advance,
        backend.giveBack ⟨connection, false⟩ world) := by
  have last : RowStream.arriving rows.steps = [.failed failure] := by
    rw [next]
    rfl
  rw [last] at split
  have kept := kept_of_flowing lent split flowing fun _ found => by cases found; rfl
  have failed : rows.advance.phase = .failed := by rw [RowStream.advance, next]
  have all : said mapper past ++ [.item (.failed failure)] = said mapper target.items ++ List.replicate 0 .ended := by
    rw [split, said, said, List.map_append, List.replicate_zero, List.append_nil]
    rfl
  refine ⟨target.lead statement ++ returns (target.lead statement), ?_, ?_, fun _ _ => rfl⟩
  · rw [List.filter_cons_of_pos rfl, List.filter_nil, all]
    have beyond : target.kept < target.items.length + 0 := by
      rw [kept, split, List.length_append, List.length_singleton]
      omega
    exact .returned (.failed connection _ failed) 0 beyond
  · rw [World.dealings_giveBack, told, lent, List.append_assoc]
    rfl

theorem ended_leads (patient : Bool) (last : rows.steps = []) (events : List DatabaseEvent) (left : RowStream) :
    Leads backend mapper statement target prompt patient before (said mapper past)
      (.ended, .closed,
        (backend.giveBack ⟨connection, false⟩ (world.tellAll events)).addAll (left.dropEntries connection)) := by
  have nothing : RowStream.arriving rows.steps = [] := by
    rw [last]
    rfl
  rw [nothing] at split
  have kept := kept_of_flowing lent split flowing nofun
  have all : target.items = past := split.trans (List.append_nil past)
  refine ⟨target.lead statement ++ returns (target.lead statement), ?_, ?_, fun _ _ => rfl⟩
  · rw [← all]
    exact .returned .closed 1 (by rw [kept, all]; omega)
  · rw [World.dealings_dropEntries, World.dealings_giveBack, World.dealings_tellAll, told, lent, List.append_assoc]
    rfl

theorem pollRows_leads (patient : Bool) (phase : rows.phase = opened.phase)
    (finite : prompt → Delay.never ∉ rows.delays) :
    Leads backend mapper statement target prompt patient before (said mapper past)
      (pollRows backend mapper patient ⟨connection, false⟩ rows world) := by
  have looked := rows.poll_looked patient
  unfold pollRows
  revert looked
  generalize rows.poll patient = found
  obtain ⟨polled, later⟩ := found
  intro looked
  dsimp only at looked
  cases looked with
  | waits same kept early =>
    refine ⟨_, ?_, told, fun arrives patience => ?_⟩
    · rw [List.filter_cons_of_neg Bool.false_ne_true, List.filter_nil, List.append_nil]
      exact .reading lent (same ▸ split) flowing (kept.trans phase) fun arrives => (early (finite arrives)).2
    · rw [(early (finite arrives)).1] at patience
      cases patience
  | ends last => exact ended_leads lent split flowing told patient last _ _
  | @delivers step rest next =>
    obtain ⟨delay, item⟩ := step
    cases item with
    | ok row => exact onward_leads lent split flowing told patient phase finite next rfl
    | panicked panic => exact onward_leads lent split flowing told patient phase finite next rfl
    | failed failure => exact failed_leads lent split flowing told patient next

end

def settle (backend : Backend σ κ) (mapper : Row → Outcome α) (patient : Bool) :
    Job κ (Lease κ × RowStream) × World σ κ → Look σ κ α
  | (.done (.ok (lease, rows)), world) => pollRows backend mapper patient lease rows world
  | (.done (.failed failure), world) => (.item (.failed failure), .closed, world)
  | (.done (.panicked panic), world) => (.item (.panicked panic), .closed, world)
  | (job, world) => (.pending, .opening job, world)

theorem poll_opening (backend : Backend σ κ) (mapper : Row → Outcome α) (patient : Bool)
    (job : Job κ (Lease κ × RowStream)) (world : World σ κ) :
    poll backend mapper patient (.opening job) world =
      settle backend mapper patient (job.advance backend patient world) := by
  unfold poll settle
  rfl

theorem leads_unopened {look : Look σ κ α} {item : Outcome Row} (patient : Bool)
    (only : target.items = [item]) (kept : target.kept = 0) (spoken : look.1 = .item (item.bind mapper))
    (closed : look.2.1 = .closed)
    (told : look.2.2.dealings = before ++ (target.lead statement ++ returns (target.lead statement))) :
    Leads backend mapper statement target prompt patient before [] look := by
  refine ⟨_, ?_, told, fun _ _ => by rw [spoken]; rfl⟩
  have standing : Stands backend mapper statement target prompt .closed look.2.2.state
      (target.lead statement ++ returns (target.lead statement))
      (said mapper target.items ++ List.replicate 0 .ended) :=
    .returned .closed 0 (by rw [kept, only]; exact Nat.zero_lt_one)
  rw [only] at standing
  rw [spoken, closed]
  exact standing

theorem onOpened_leads (patient : Bool) {connection : κ} {result : Outcome RowStream}
    (lent : target = .lent connection result) (finite : prompt → ∀ rows, result = .ok rows → Delay.never ∉ rows.delays)
    {world : World σ κ} (told : world.dealings = before ++ target.lead statement) :
    Leads backend mapper statement target prompt patient before []
      (settle backend mapper patient ((onOpened connection result).advance backend patient world)) := by
  have returned : (backend.giveBack ⟨connection, false⟩ world).dealings =
      before ++ (target.lead statement ++ returns (target.lead statement)) := by
    rw [World.dealings_giveBack, told, lent, List.append_assoc]
    rfl
  cases result with
  | ok rows =>
    subst lent
    have nothing : ∀ item ∈ ([] : List (Outcome Row)), RowStream.goesOn item := fun _ member => nomatch member
    have split : Opening.items (.lent connection (.ok rows)) = [] ++ RowStream.arriving rows.steps := rfl
    exact pollRows_leads rfl split nothing told patient rfl fun arrives => finite arrives rows rfl
  | failed failure =>
    subst lent
    exact leads_unopened patient rfl rfl rfl rfl returned
  | panicked panic =>
    subst lent
    exact leads_unopened patient rfl rfl rfl rfl returned

theorem settle_pause (patient : Bool) (held : Held κ) (delay : Delay) (entries : List (Entry κ))
    (next : Job κ (Lease κ × RowStream)) (world : World σ κ) :
    (∃ left, settle backend mapper patient ((Job.pause held delay entries next).advance backend patient world) =
        (.pending, .opening (.pause held left entries next), world) ∧
      (delay ≠ .never → patient = false ∧ left ≠ .never)) ∨
      settle backend mapper patient ((Job.pause held delay entries next).advance backend patient world) =
        settle backend mapper patient (next.advance backend patient (world.addAll entries)) := by
  cases delay with
  | never => exact .inl ⟨.never, rfl, fun finite => absurd rfl finite⟩
  | polls count =>
    cases count with
    | zero => exact .inr rfl
    | succ count =>
      cases patient with
      | true => exact .inr rfl
      | false => exact .inl ⟨.polls count, rfl, fun _ => ⟨rfl, nofun⟩⟩

theorem calling_leads (patient : Bool) {connection : κ} {reply : Reply RowStream} {delay : Delay}
    (lent : target = .lent connection reply.outcome)
    (finite : prompt → delay ≠ .never ∧ ∀ rows, reply.outcome = .ok rows → Delay.never ∉ rows.delays)
    {world : World σ κ}
    (told : world.dealings =
      before ++ [.acquiring, .acquired connection, .called connection (.openRows statement)]) :
    Leads backend mapper statement target prompt patient before []
      (settle backend mapper patient ((Job.pause (.lease ⟨connection, false⟩) delay
        (reply.callEntries connection (.openRows statement)) (onOpened connection reply.outcome)).advance
          backend patient world)) := by
  rcases settle_pause patient _ delay _ _ world with ⟨left, waits, early⟩ | elapsed
  · rw [waits]
    refine ⟨_, .waiting (.calling connection reply lent fun arrives => ?_), told, fun arrives patience => ?_⟩
    · obtain ⟨wait, rows⟩ := finite arrives
      exact ⟨(early wait).2, rows⟩
    · rw [(early (finite arrives).1).1] at patience
      cases patience
  · rw [elapsed]
    refine onOpened_leads patient lent (fun arrives => (finite arrives).2) ?_
    rw [World.dealings_callEntries, told, lent, List.append_assoc]
    rfl

theorem onGranted_leads (patient : Bool) {answer : Outcome κ} {world : World σ κ}
    (same : granted backend statement answer world.state = target)
    (finite : prompt → Delay.never ∉ grantedDelays backend statement answer world.state)
    (told : world.dealings =
      before ++ (.acquiring :: match answer with | .ok connection => [.acquired connection] | _ => [])) :
    Leads backend mapper statement target prompt patient before []
      (settle backend mapper patient ((onGranted statement answer).advance backend patient world)) := by
  cases answer with
  | failed failure =>
    subst same
    exact leads_unopened patient rfl rfl rfl rfl told
  | panicked panic =>
    subst same
    exact leads_unopened patient rfl rfl rfl rfl told
  | ok connection =>
    -- The call is recorded and waited for.
    let reply := (backend.call connection (.openRows statement) world.state).1
    let asked : World σ κ := { world with state := (backend.call connection (.openRows statement) world.state).2 }.add
      (.called connection (.openRows statement))
    have calls : (onGranted statement (.ok connection)).advance backend patient world =
        (Job.pause (.lease ⟨connection, false⟩) reply.delay (reply.callEntries connection (.openRows statement))
          (onOpened connection reply.outcome)).advance backend patient asked := rfl
    rw [calls]
    refine calling_leads patient same.symm (fun arrives => ?_) ?_
    · have waits := finite arrives
      rw [grantedDelays, List.mem_cons, not_or] at waits
      refine ⟨Ne.symm waits.1, fun rows found => ?_⟩
      have others := waits.2
      rw [found] at others
      exact others
    · have grown : asked.dealings = world.dealings ++ [.called connection (.openRows statement)] :=
        World.dealings_add ..
      rw [grown, told, List.append_assoc]
      rfl

theorem asking_leads (patient : Bool) {reply : Reply κ} {delay : Delay} {world : World σ κ}
    (same : granted backend statement reply.outcome world.state = target)
    (finite : prompt → delay ≠ .never ∧ Delay.never ∉ grantedDelays backend statement reply.outcome world.state)
    (told : world.dealings = before ++ [.acquiring]) :
    Leads backend mapper statement target prompt patient before []
      (settle backend mapper patient ((Job.pause .nothing delay reply.acquireEntries
        (onGranted statement reply.outcome)).advance backend patient world)) := by
  rcases settle_pause patient _ delay _ _ world with ⟨left, waits, early⟩ | elapsed
  · rw [waits]
    refine ⟨_, .waiting (.asking reply same fun arrives => ?_), told, fun arrives patience => ?_⟩
    · obtain ⟨wait, rows⟩ := finite arrives
      exact ⟨(early wait).2, rows⟩
    · rw [(early (finite arrives).1).1] at patience
      cases patience
  · rw [elapsed]
    have state : (world.addAll reply.acquireEntries).state = world.state := World.state_addAll _ _
    rw [← state] at same finite
    refine onGranted_leads patient same (fun arrives => (finite arrives).2) ?_
    rw [World.dealings_acquireEntries, told, List.append_assoc]
    rfl

/-- One look leads on from every place of the course. -/
theorem poll_leads (patient : Bool) {query : RowQuery κ} {world : World σ κ} {recorded : List (Entry κ)}
    {arrived : List (Polled (Outcome α))}
    (stands : Stands backend mapper statement target prompt query world.state recorded arrived)
    (told : world.dealings = before ++ recorded) :
    Leads backend mapper statement target prompt patient before arrived (poll backend mapper patient query world) := by
  cases stands with
  | waiting waits =>
    rw [poll_opening]
    cases waits with
    | fresh same finite =>
      let reply := (backend.acquire world.state).1
      let asked : World σ κ :=
        { world.add (.told (.streaming statement)) with state := (backend.acquire world.state).2 }.add .acquiring
      have asks : (Job.record (.told (.streaming statement)) (.acquire (onGranted statement))).advance
          backend patient world =
            (Job.pause .nothing reply.delay reply.acquireEntries (onGranted statement reply.outcome)).advance
              backend patient asked := rfl
      rw [asks]
      refine asking_leads patient same (fun arrives => ?_) ?_
      · have waits := finite arrives
        rw [delays, List.mem_cons, not_or] at waits
        exact ⟨Ne.symm waits.1, waits.2⟩
      · have grown : asked.dealings = (world.add (.told (.streaming statement))).dealings ++ [.acquiring] :=
          World.dealings_add ..
        rw [grown, World.dealings_add, told, List.append_nil]
        exact List.append_nil _ ▸ rfl
    | asking reply same finite => exact asking_leads patient same finite told
    | calling connection reply same finite => exact calling_leads patient same finite told
  | reading lent split flowing phase finite => exact pollRows_leads lent split flowing told patient phase finite
  | returned gone late beyond =>
    have longer : said mapper target.items ++ List.replicate late .ended ++ [.ended] =
        said mapper target.items ++ List.replicate (late + 1) .ended := by
      rw [List.replicate_succ', List.append_assoc]
    cases gone with
    | closed =>
      refine ⟨_, ?_, told, fun _ _ => rfl⟩
      rw [poll, List.filter_cons_of_pos rfl, List.filter_nil, longer]
      exact .returned .closed (late + 1) (by omega)
    | failed connection rows phase =>
      refine ⟨_, ?_, (World.dealings_dropEntries ..).trans told, fun _ _ => rfl⟩
      rw [poll, List.filter_cons_of_pos rfl, List.filter_nil, longer]
      exact .returned .closed (late + 1) (by omega)

end RowQuery

end SqlProgram
