import SqlProgram.Proofs.OpenStreams
import SqlProgram.Proofs.StreamPolling
import SqlProgram.Run.Strategy

/-!
Jobs that let go of each stream in time. They do so whatever the backend answers, however often they have to wait and
wherever they are let go of.
-/

namespace SqlProgram

variable {traced : Prop} {busy later : Option κ} {entries before : List (Entry κ)}

/-- What a world has recorded since the given entries. -/
def World.Tells (traced : Prop) (before : List (Entry κ)) (busy : Option κ) (world : World σ κ) : Prop :=
  ∃ entries, world.history = before ++ entries ∧ Told traced busy entries

namespace World.Tells

variable {world : World σ κ}

theorem refl (traced : Prop) (world : World σ κ) : world.Tells traced world.history none :=
  ⟨[], (List.append_nil _).symm, told_nil⟩

theorem addAll (tells : world.Tells traced before busy) (tracks : Tracks traced busy entries later) :
    (world.addAll entries).Tells traced before later := by
  obtain ⟨recorded, grown, told⟩ := tells
  refine ⟨recorded ++ entries, ?_, tracks.tells told⟩
  rw [history_addAll, grown, List.append_assoc]

theorem add {entry : Entry κ} (tells : world.Tells traced before busy) (tracks : Tracks traced busy [entry] later) :
    (world.add entry).Tells traced before later :=
  tells.addAll tracks

theorem giveBack (tells : world.Tells traced before busy) (idle : traced → busy = none) (backend : Backend σ κ)
    (lease : Lease κ) : (backend.giveBack lease world).Tells traced before none := by
  unfold Backend.giveBack
  split
  · have discarded : Tracks traced busy [.told .abandoning, .discarded lease.connection] none :=
      .plain rfl (.returned idle rfl .nil)
    exact World.Tells.addAll (tells.addAll discarded) (.database (backend.discard lease.connection world.state).1)
  · have released : Tracks traced busy [.told .releasing, .released lease.connection] none :=
      .plain rfl (.returned idle rfl .nil)
    exact tells.addAll released

end World.Tells

/-- Whether it leaves a trace to let go of what a call opened. -/
def Call.Traces : (call : Call) → Outcome call.Answer → Prop
  | .openRows _, .ok (rows : RowStream) => rows.inMemory = false
  | _, _ => True

def Backend.Traces (backend : Backend σ κ) : Prop :=
  ∀ connection (call : Call) state, call.Traces (backend.call connection call state).1.outcome

def Held.Keeps (traced : Prop) (busy : Option κ) : Held κ → Prop
  | .nothing | .lease _ => traced → busy = none
  | .rows loan stream => busy = some loan.connection ∧ (traced → stream.inMemory = false)

namespace Job

/-- A job that lets go of each stream before anything else is done with its connection, whatever is answered. -/
def Frees (traced : Prop) : Job κ α → Option κ → Prop
  | .done _, busy => traced → busy = none
  | .record entry next, busy => ∃ later, Tracks traced busy [entry] later ∧ next.Frees traced later
  | .acquire next, busy => (traced → busy = none) ∧ ∀ answer, (next answer).Frees traced busy
  | .call lease asked next, busy =>
    (traced → busy = none) ∧ ∀ reply : Reply asked.Answer, (traced → asked.Traces reply.outcome) →
      ∃ later, Tracks traced busy (reply.callEntries lease.connection asked) later ∧
        (next reply.outcome).Frees traced later
  | .pause held _ entries next, busy =>
    held.Keeps traced busy ∧ ∃ later, Tracks traced busy entries later ∧ next.Frees traced later
  | .giveBack _ next, busy => (traced → busy = none) ∧ next.Frees traced none

/-- One look at a job: what it records is in time, and the rest lets go of each stream in time, too. -/
theorem advance_frees {backend : Backend σ κ} (traces : traced → backend.Traces) (patient : Bool) {job : Job κ α}
    (frees : job.Frees traced busy) {world : World σ κ} (tells : world.Tells traced before busy) :
    ∃ later, (job.advance backend patient world).2.Tells traced before later ∧
      (job.advance backend patient world).1.Frees traced later ∧
      (job.advance backend patient world).1.held.Keeps traced later := by
  -- On the job: it runs on until it has to wait, and what it holds then tells which stream is open.
  induction job generalizing busy world with
  | done outcome => exact ⟨busy, tells, frees, frees⟩
  | record entry next ih =>
    obtain ⟨later, tracks, rest⟩ := frees
    exact ih rest (tells.add tracks)
  | giveBack lease next ih =>
    obtain ⟨idle, rest⟩ := frees
    exact ih rest (tells.giveBack idle backend lease)
  | pause held delay entries next ih =>
    obtain ⟨keeps, later, tracks, rest⟩ := frees
    simp only [advance]
    cases delay.left patient with
    | none => exact ih rest (tells.addAll tracks)
    | some left => exact ⟨busy, tells, ⟨keeps, later, tracks, rest⟩, keeps⟩
  | acquire next ih =>
    obtain ⟨idle, rest⟩ := frees
    have asking : Tracks traced busy [.acquiring] busy := .plain rfl .nil
    have asked := tells.add asking
    simp only [advance]
    split
    · exact ih _ (rest _) (World.Tells.addAll asked (.acquireEntries _))
    · exact ⟨busy, asked, ⟨idle, busy, .acquireEntries _, rest _⟩, idle⟩
  | call lease call next ih =>
    obtain ⟨idle, answered⟩ := frees
    have calling : Tracks traced busy [.called lease.connection call] busy := .plain rfl .nil
    have asked := tells.add calling
    obtain ⟨later, tracks, rest⟩ := answered (backend.call lease.connection call world.state).1 fun traced =>
      traces traced lease.connection call world.state
    simp only [advance]
    split
    · exact ih _ rest (World.Tells.addAll asked tracks)
    · exact ⟨busy, asked, ⟨idle, later, tracks, rest⟩, idle⟩

theorem reclaim_frees (backend : Backend σ κ) {held : Held κ} (keeps : held.Keeps traced busy) {world : World σ κ}
    (tells : world.Tells traced before busy) : ∃ later, (backend.reclaim held world).Tells traced before later := by
  cases held with
  | nothing => exact ⟨busy, tells⟩
  | lease lease => exact ⟨none, tells.giveBack keeps backend lease⟩
  | rows lease rows =>
    obtain ⟨rfl, traces⟩ := keeps
    obtain ⟨later, tracks, idle⟩ := Tracks.dropEntries lease.connection traces
    exact ⟨none, (tells.addAll tracks).giveBack idle backend lease⟩

variable {lease : Lease κ}

abbrev Resumes (traced : Prop) (job : Job κ α) : Prop := ∀ busy, (traced → busy = none) → job.Frees traced busy

theorem frees_finish (lease : Lease κ) (outcome : Outcome α) : (finish lease outcome).Resumes traced :=
  fun _ idle => ⟨idle, fun _ => rfl⟩

theorem frees_giveBack (lease : Lease κ) {next : Job κ α} (frees : next.Resumes traced) :
    (Job.giveBack lease next).Resumes traced :=
  fun _ idle => ⟨idle, frees none fun _ => rfl⟩

theorem frees_borrow {next : κ → Job κ α} {refused : Failure → Job κ α}
    (given : ∀ connection, (next connection).Resumes traced) (failed : ∀ failure, (refused failure).Resumes traced) :
    (borrow next refused).Resumes traced := by
  refine fun busy idle => ⟨idle, fun answer => ?_⟩
  cases answer with
  | ok connection => exact given connection busy idle
  | failed failure => exact failed failure busy idle
  | panicked panic => exact idle

theorem frees_request {asked : Call} {next : Except Failure asked.Answer → Job κ α}
    (plain : ∀ answered, (.answered lease.connection asked answered : Entry κ).isPlain)
    (resumes : ∀ answer, (next answer).Resumes traced) : (request lease asked next).Resumes traced := by
  refine fun busy idle => ⟨idle, fun reply _ => ⟨busy, (Tracks.database _).append (.plain (plain _) .nil), ?_⟩⟩
  cases reply.outcome with
  | ok answer => exact resumes (.ok answer) busy idle
  | failed failure => exact resumes (.error failure) busy idle
  | panicked panic => exact frees_finish lease _ busy idle

theorem frees_openRows {statement : Statement} {next : Except Failure RowStream → Job κ α}
    (opened : ∀ rows, (traced → rows.inMemory = false) → (next (.ok rows)).Frees traced (some lease.connection))
    (refused : ∀ failure, (next (.error failure)).Resumes traced) :
    (request lease (.openRows statement) next).Resumes traced := by
  refine fun busy idle => ⟨idle, fun reply traces => ?_⟩
  unfold Reply.callEntries
  cases result : reply.outcome with
  | ok rows =>
    rw [result] at traces
    exact ⟨_, (Tracks.database _).append (.opened idle .nil), opened rows traces⟩
  | failed failure => exact ⟨busy, (Tracks.database _).append (.plain rfl .nil), refused failure busy idle⟩
  | panicked panic => exact ⟨busy, (Tracks.database _).append (.plain rfl .nil), frees_finish lease _ busy idle⟩

theorem frees_recordAll {next : Job κ α} (tracks : Tracks traced busy entries later) (frees : next.Frees traced later) :
    (recordAll entries next).Frees traced busy := by
  induction tracks with
  | nil => exact frees
  | opened idle _ ih => exact ⟨_, .opened idle .nil, ih frees⟩
  | dropped _ ih => exact ⟨_, .dropped .nil, ih frees⟩
  | returned idle back _ ih => exact ⟨_, .returned idle back .nil, ih frees⟩
  | plain plain _ ih => exact ⟨_, .plain plain .nil, ih frees⟩

theorem frees_dropEntries {next : Job κ α} {rows : RowStream} (traces : traced → rows.inMemory = false)
    (resumes : next.Resumes traced) :
    (recordAll (rows.dropEntries lease.connection) next).Frees traced (some lease.connection) := by
  obtain ⟨later, tracks, idle⟩ := Tracks.dropEntries lease.connection traces
  exact frees_recordAll tracks (resumes later idle)

theorem inMemory_advance (rows : RowStream) : rows.advance.inMemory = rows.inMemory := by
  unfold RowStream.advance
  split <;> rfl

theorem frees_drainFrom {next : Except Failure Cursor → Job κ α} (resumes : ∀ answer, (next answer).Resumes traced)
    (steps : List RowStep) {rows : RowStream} (traces : traced → rows.inMemory = false) (read : List Row) :
    (drainFrom lease rows read next steps).Frees traced (some lease.connection) := by
  induction steps generalizing rows read with
  | nil =>
    have kept : traced → ({ rows with steps := [] } : RowStream).advance.inMemory = false := traces
    obtain ⟨later, tracks, idle⟩ := Tracks.dropEntries lease.connection kept
    exact ⟨⟨rfl, traces⟩, later, (Tracks.database _).append tracks, resumes _ later idle⟩
  | cons step rest ih =>
    have kept : traced → ({ rows with steps := step :: rest } : RowStream).advance.inMemory = false := by
      rw [inMemory_advance]
      exact traces
    refine ⟨⟨rfl, traces⟩, _, .nil, ?_⟩
    cases step.item with
    | ok row => exact ih kept (row :: read)
    | failed failure => exact frees_dropEntries kept (resumes (.error failure))
    | panicked panic => exact frees_dropEntries kept (frees_finish lease _)

end Job

namespace ProgramStream

/-- A stream that frees each connection in time, and may be let go of as it stands. -/
def Frees (traced : Prop) (stream : ProgramStream κ α) (busy : Option κ) : Prop :=
  match stream.running with
  | none => True
  | some job => job.Frees traced busy ∧ job.held.Keeps traced busy

theorem poll_frees {backend : Backend σ κ} (traces : traced → backend.Traces) (patient : Bool)
    {stream : ProgramStream κ α} (frees : stream.Frees traced busy) {world : World σ κ}
    (tells : world.Tells traced before busy) :
    ∃ later, (stream.poll backend patient world).2.2.Tells traced before later ∧
      (stream.poll backend patient world).2.1.Frees traced later := by
  obtain ⟨running⟩ := stream
  cases running with
  | none => exact ⟨busy, tells, trivial⟩
  | some job =>
    obtain ⟨later, grown, kept, keeps⟩ := Job.advance_frees traces patient frees.1 tells
    cases left : job.advance backend patient world with
    | mk rest after =>
      rw [left] at grown kept keeps
      rcases done_or_waits rest with ⟨outcome, rfl⟩ | waits
      · rw [poll_done backend patient left]
        refine ⟨later, grown, ?_⟩
        cases outcome with
        | panicked panic => exact ⟨kept, kept⟩
        | _ => exact trivial
      · rw [poll_waiting backend patient waits left]
        exact ⟨later, grown, kept, keeps⟩

theorem pollAll_frees {backend : Backend σ κ} (traces : traced → backend.Traces) (looks : List Bool)
    {stream : ProgramStream κ α} (frees : stream.Frees traced busy) {world : World σ κ}
    (tells : world.Tells traced before busy) :
    ∃ later, (pollAll backend looks stream world).2.2.Tells traced before later ∧
      (pollAll backend looks stream world).2.1.Frees traced later := by
  induction looks generalizing stream busy world with
  | nil => exact ⟨busy, tells, frees⟩
  | cons patient looks ih =>
    obtain ⟨_, grown, kept⟩ := poll_frees traces patient frees tells
    exact ih kept grown

theorem drop_frees (backend : Backend σ κ) {stream : ProgramStream κ α} (frees : stream.Frees traced busy)
    {world : World σ κ} (tells : world.Tells traced before busy) :
    ∃ later, (stream.drop backend world).Tells traced before later := by
  obtain ⟨running⟩ := stream
  cases running with
  | none => exact ⟨busy, tells⟩
  | some job => exact Job.reclaim_frees backend frees.2 tells

end ProgramStream

end SqlProgram
