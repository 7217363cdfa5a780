import SqlProgram.Proofs.ProgramMeaning
import SqlProgram.Proofs.RowCourse
import SqlProgram.Proofs.StatementCalls
import SqlProgram.Run.Strategy

/-!
What a backend delivers for a statement to whoever waits for it: rows, and how they end. A program that collects the
rows reads all of them before it maps the first one; the connection goes back whatever was delivered.
-/

namespace SqlProgram

/-- Rows, and how they end; they have no end if the backend falls silent. -/
structure Delivery where
  rows : List Row
  close : Option (Outcome Unit)

theorem Outcome.mapList_cases (f : α → Outcome β) (items : List α) :
    (∃ values, mapList f items = .ok values) ∨
      ∃ early item late, items = early ++ item :: late ∧ (∀ other ∈ early, (f other).isOk = true) ∧
        (f item).isOk = false ∧ mapList f items = (f item).map ([·]) := by
  induction items with
  | nil => exact .inl ⟨[], rfl⟩
  | cons item rest ih =>
    cases found : f item with
    | failed failure =>
      exact .inr ⟨[], item, rest, rfl, nofun, by rw [found]; rfl, by rw [mapList, found]; rfl⟩
    | panicked panic =>
      exact .inr ⟨[], item, rest, rfl, nofun, by rw [found]; rfl, by rw [mapList, found]; rfl⟩
    | ok value =>
      rcases ih with ⟨values, mapped⟩ | ⟨early, other, late, rfl, accepted, rejected, mapped⟩
      · exact .inl ⟨value :: values, by rw [mapList, found, Outcome.bind, mapped]; rfl⟩
      · refine .inr ⟨item :: early, other, late, rfl, ?_, rejected, ?_⟩
        · exact List.forall_mem_cons.mpr ⟨by rw [found]; rfl, accepted⟩
        · rw [mapList, found, Outcome.bind, mapped]
          cases next : f other with
          | ok value =>
            rw [next] at rejected
            cases rejected
          | failed | panicked => rfl

namespace Delivery

def after (answer : Option (Outcome α)) (next : α → Delivery) : Delivery :=
  match answer with
  | some (.ok value) => next value
  | some (.failed failure) => ⟨[], some (.failed failure)⟩
  | some (.panicked panic) => ⟨[], some (.panicked panic)⟩
  | none => ⟨[], none⟩

/-- What comes of rows that are mapped once all of them are there. -/
def gathered (mapper : Row → Outcome α) (delivery : Delivery) : Option (Outcome (List α)) :=
  delivery.close.map (·.bind fun _ => Outcome.mapList mapper delivery.rows)

/-- What comes of rows that are mapped one by one, up to the first that is rejected. -/
def streamed (mapper : Row → Outcome α) (delivery : Delivery) : Option (Outcome (List α)) :=
  match Outcome.mapList mapper delivery.rows with
  | .ok values => delivery.close.map (Outcome.map fun _ => values)
  | rejection => some rejection

theorem streamed_cons (mapper : Row → Outcome α) (row : Row) (rows : List Row)
    (close : Option (Outcome Unit)) :
    (Delivery.mk (row :: rows) close).streamed mapper =
      match mapper row with
      | .ok value => ((Delivery.mk rows close).streamed mapper).map (Outcome.map (value :: ·))
      | .failed failure => some (.failed failure)
      | .panicked panic => some (.panicked panic) := by
  unfold streamed
  cases found : mapper row with
  | failed | panicked => simp only [Outcome.mapList, found, Outcome.bind]
  | ok value =>
    simp only [Outcome.mapList, found, Outcome.bind]
    cases Outcome.mapList mapper rows with
    | failed | panicked => rfl
    | ok values =>
      match close with
      | none | some (.ok ()) | some (.failed _) | some (.panicked _) => rfl

theorem streamed_rejected {mapper : Row → Outcome α} {rows : List Row} {row : Row} (close : Option (Outcome Unit))
    (rejected : (mapper row).isOk = false) (mapped : Outcome.mapList mapper rows = (mapper row).map ([·])) :
    (Delivery.mk rows close).streamed mapper = some ((mapper row).map ([·])) := by
  rw [streamed, mapped]
  cases found : mapper row with
  | ok value =>
    rw [found] at rejected
    cases rejected
  | failed | panicked => rfl

/-- When rows are mapped matters only if one is rejected and, behind it, the rows do not come to their end. -/
theorem streamed_cases (mapper : Row → Outcome α) (delivery : Delivery) :
    delivery.gathered mapper = delivery.streamed mapper ∨
      ∃ early row late, delivery.rows = early ++ row :: late ∧ (∀ other ∈ early, (mapper other).isOk = true) ∧
        (mapper row).isOk = false ∧ delivery.close ≠ some (.ok ()) ∧
        delivery.streamed mapper = some ((mapper row).map ([·])) ∧
        delivery.gathered mapper = delivery.close.map (Outcome.map fun _ => []) := by
  obtain ⟨rows, close⟩ := delivery
  rcases Outcome.mapList_cases mapper rows with ⟨values, mapped⟩ | ⟨early, row, late, split, accepted, rejected, mapped⟩
  · left
    rw [streamed, gathered, mapped]
    match close with
    | none | some (.ok ()) | some (.failed _) | some (.panicked _) => rfl
  · have stopped := streamed_rejected close rejected mapped
    match close with
    | some (.ok ()) => exact .inl (stopped.trans (congrArg some mapped.symm)).symm
    | none | some (.failed _) | some (.panicked _) =>
      exact .inr ⟨early, row, late, split, accepted, rejected, nofun, stopped, rfl⟩

/-- If one way of mapping succeeds, so does the other. -/
theorem same_values (mapper : Row → Outcome α) (delivery : Delivery) (values : List α) :
    delivery.gathered mapper = some (.ok values) ↔ delivery.streamed mapper = some (.ok values) := by
  obtain ⟨rows, close⟩ := delivery
  unfold streamed gathered
  cases Outcome.mapList mapper rows with
  | ok mapped =>
    match close with
    | none | some (.ok ()) | some (.failed _) | some (.panicked _) => rfl
  | failed | panicked =>
    match close with
    | none | some (.ok ()) | some (.failed _) | some (.panicked _) => exact iff_of_false nofun nofun

end Delivery

def RowStep.delivery (closing : Delay) : List RowStep → Delivery
  | [] =>
    match closing with
    | .polls _ => ⟨[], some (.ok ())⟩
    | .never => ⟨[], none⟩
  | ⟨.never, _⟩ :: _ => ⟨[], none⟩
  | ⟨.polls _, .ok row⟩ :: rest => ⟨row :: (delivery closing rest).rows, (delivery closing rest).close⟩
  | ⟨.polls _, .failed failure⟩ :: _ => ⟨[], some (.failed failure)⟩
  | ⟨.polls _, .panicked panic⟩ :: _ => ⟨[], some (.panicked panic)⟩

def RowStream.delivery (rows : RowStream) : Delivery := RowStep.delivery rows.closing rows.steps

namespace Backend

section
variable (backend : Backend σ κ) (statement : Statement)

def deliveryOn (connection : κ) (state : σ) : Delivery :=
  .after (backend.reply connection (.openRows statement) state).1 RowStream.delivery

def delivery (state : σ) : Delivery :=
  .after (backend.acquire state).1.answer? fun connection =>
    backend.deliveryOn statement connection (backend.acquire state).2

def loanOf (connection : κ) (state : σ) : List (Entry κ) :=
  [.acquired connection, .called connection (.openRows statement)] ++
    (match (backend.reply connection (.openRows statement) state).1 with
      | some answer => [.answered connection (.openRows statement) answer.isOk]
      | none => []) ++
    [.released connection]

/-- What is recorded of connections if one is borrowed for a statement. -/
def loan (state : σ) : List (Entry κ) :=
  .acquiring ::
    match (backend.acquire state).1.answer? with
    | some (.ok connection) => backend.loanOf statement connection (backend.acquire state).2
    | _ => []

end

end Backend

theorem Reply.outcome_of_answer? {reply : Reply α} {answer : Outcome α} (found : reply.answer? = some answer) :
    reply.outcome = answer := by
  unfold answer? at found
  split at found
  · exact Option.some.inj found
  · cases found

theorem Backend.dealings_returned (backend : Backend σ κ) (connection : κ) {entries : List (Entry κ)}
    (silent : ∀ entry ∈ entries, entry.counts = false) (world : World σ κ) :
    (backend.giveBack ⟨connection, false⟩ (world.addAll entries)).dealings =
      world.dealings ++ [.released connection] := by
  rw [World.dealings_giveBack, World.dealings_quiet silent]

namespace Job

/-- How a job ends that is waited for, and the world after it. One that waits forever is let go of. -/
def left (backend : Backend σ κ) (job : Job κ α) (world : World σ κ) : Option (Outcome α) × World σ κ :=
  let ran := job.advance backend true world
  (ran.1.outcome?, backend.drop ran.1 ran.2)

theorem left_of_toAction (backend : Backend σ κ) (job : Job κ α) (world : World σ κ)
    (ended : (job.toAction backend world).1 ≠ none) : job.left backend world = job.toAction backend world := by
  unfold left toAction at *
  generalize job.advance backend true world = ran at ended ⊢
  obtain ⟨rest, after⟩ := ran
  cases rest with
  | done outcome => rfl
  | record | acquire | call | pause | giveBack => exact absurd rfl ended

variable {backend : Backend σ κ}

theorem left_pause (held : Held κ) (delay : Delay) (entries : List (Entry κ)) (next : Job κ α) (world : World σ κ) :
    (Job.pause held delay entries next).left backend world =
      match delay with
      | .polls _ => next.left backend (world.addAll entries)
      | .never => (none, backend.reclaim held world) := by
  cases delay with
  | never => rfl
  | polls count => cases count <;> rfl

theorem left_recordAll (entries : List (Entry κ)) (next : Job κ α) (world : World σ κ) :
    (recordAll entries next).left backend world = next.left backend (world.addAll entries) := by
  induction entries generalizing world with
  | nil => rfl
  | cons entry entries ih => exact ih (world.add entry)

theorem advance_reply (held : Held κ) (reply : Reply β) (entries : List (Entry κ)) (next : Outcome β → Job κ α)
    (world : World σ κ) :
    (Job.pause held reply.delay entries (next reply.outcome)).advance backend true world =
      match reply.answer? with
      | some answer => (next answer).advance backend true (world.addAll entries)
      | none => (.pause held .never entries (next reply.outcome), world) := by
  obtain ⟨delay, outcome, events⟩ := reply
  cases delay with
  | never => rfl
  | polls count => cases count <;> rfl

def granted (statement : Statement) (opened : κ → Outcome RowStream → Job κ α) : Outcome κ → Job κ α
  | .ok connection => .call ⟨connection, false⟩ (.openRows statement) (opened connection)
  | .failed failure => .done (.failed failure)
  | .panicked panic => .done (.panicked panic)

section
variable (backend : Backend σ κ) (statement : Statement) (opened : κ → Outcome RowStream → Job κ α) (state : σ)
  (before : List (Entry κ))

/-- How far a job comes that borrows a connection and opens a statement on it, if it is waited for. -/
inductive Reaches : Job κ α × World σ κ → Prop where
  | ungranted (silent : backend.delivery statement state = ⟨[], none⟩)
      (told : world.dealings = before ++ backend.loan statement state) :
      Reaches (.pause .nothing .never entries next, world)
  | refused {failure : Failure} (refused : backend.delivery statement state = ⟨[], some (.failed failure)⟩)
      (told : world.dealings = before ++ backend.loan statement state) : Reaches (.done (.failed failure), world)
  | panicked {panic : Panic} (panicked : backend.delivery statement state = ⟨[], some (.panicked panic)⟩)
      (told : world.dealings = before ++ backend.loan statement state) : Reaches (.done (.panicked panic), world)
  | unopened (silent : backend.delivery statement state = ⟨[], none⟩)
      (told : world.dealings ++ [.released connection] = before ++ backend.loan statement state) :
      Reaches (.pause (.lease ⟨connection, false⟩) .never entries next, world)
  | opened (delivered : backend.delivery statement state = .after (some answer) RowStream.delivery)
      (told : world.dealings ++ [.released connection] = before ++ backend.loan statement state) :
      Reaches ((opened connection answer).advance backend true world)

theorem reaches_lent {connection : κ} {world : World σ κ}
    (lent : (backend.acquire state).1.answer? = some (.ok connection)) (same : world.state = (backend.acquire state).2)
    (told : world.dealings = before ++ [.acquiring, .acquired connection]) :
    Reaches backend statement opened state before
      ((granted statement opened (.ok connection)).advance backend true world) := by
  let reply := (backend.call connection (.openRows statement) world.state).1
  let calling : World σ κ :=
    { world with state := (backend.call connection (.openRows statement) world.state).2 }.add
      (.called connection (.openRows statement))
  have calls : (granted statement opened (.ok connection)).advance backend true world =
      (Job.pause (.lease ⟨connection, false⟩) reply.delay (reply.callEntries connection (.openRows statement))
        (opened connection reply.outcome)).advance backend true calling := rfl
  have called : calling.dealings =
      before ++ [.acquiring, .acquired connection, .called connection (.openRows statement)] := by
    have grown : calling.dealings = world.dealings ++ [.called connection (.openRows statement)] :=
      World.dealings_add ..
    rw [grown, told, List.append_assoc]
    rfl
  have replied : (backend.reply connection (.openRows statement) (backend.acquire state).2).1 = reply.answer? := by
    rw [← same]
    rfl
  have delivered : backend.delivery statement state = .after reply.answer? RowStream.delivery := by
    simp only [Backend.delivery, lent, Delivery.after, Backend.deliveryOn, replied]
  have loan : backend.loan statement state =
      .acquiring :: backend.loanOf statement connection (backend.acquire state).2 := by
    simp only [Backend.loan, lent]
  rw [calls, advance_reply]
  cases opening : reply.answer? with
  | none =>
    refine .unopened (by rw [delivered, opening]; rfl) ?_
    rw [loan, Backend.loanOf, replied, opening, called, List.append_assoc]
    rfl
  | some answer =>
    refine .opened (by rw [delivered, opening]) ?_
    rw [loan, Backend.loanOf, replied, opening, World.dealings_callEntries, called, Reply.outcome_of_answer? opening,
      List.append_assoc, List.append_assoc]
    rfl

theorem reaches_opening (entry : Entry κ) (silent : [entry].filter Entry.isConnection = []) (world : World σ κ) :
    Reaches backend statement opened world.state world.dealings
      ((Job.record entry (.acquire (granted statement opened))).advance backend true world) := by
  let reply := (backend.acquire world.state).1
  let asked : World σ κ := { world.add entry with state := (backend.acquire world.state).2 }.add .acquiring
  have asks : (Job.record entry (.acquire (granted statement opened))).advance backend true world =
      (Job.pause .nothing reply.delay reply.acquireEntries (granted statement opened reply.outcome)).advance
        backend true asked := rfl
  have told : asked.dealings = world.dealings ++ [.acquiring] := by
    have grown : asked.dealings = (world.add entry).dealings ++ [.acquiring] := World.dealings_add ..
    rw [grown, World.dealings_add, silent, List.append_nil]
  have delivered : backend.delivery statement world.state = .after reply.answer? fun connection =>
      backend.deliveryOn statement connection (backend.acquire world.state).2 := rfl
  have loan : backend.loan statement world.state = .acquiring :: match reply.answer? with
      | some (.ok connection) => backend.loanOf statement connection (backend.acquire world.state).2
      | _ => [] := rfl
  rw [asks, advance_reply]
  cases granting : reply.answer? with
  | none => exact .ungranted (by rw [delivered, granting]; rfl) (by rw [loan, granting, told])
  | some answer =>
    have grown := World.dealings_acquireEntries reply asked
    rw [Reply.outcome_of_answer? granting, told, List.append_assoc] at grown
    cases answer with
    | failed failure => exact .refused (by rw [delivered, granting]; rfl) (by rw [loan, granting]; exact grown)
    | panicked panic => exact .panicked (by rw [delivered, granting]; rfl) (by rw [loan, granting]; exact grown)
    | ok connection => exact reaches_lent _ _ _ _ _ granting (World.state_addAll ..) grown

end

end Job

namespace Reactive

variable (mapper : Row → Outcome α) (connection : κ)

def collected : Except Failure Cursor → Outcome (List α)
  | .ok cursor => Outcome.mapList mapper cursor.rows
  | .error failure => .failed failure

def settled (answer : Except Failure Cursor) : Job κ (List α) :=
  .giveBack ⟨connection, false⟩ (.done (collected mapper answer))

def drained : Outcome RowStream → Job κ (List α)
  | .ok rows => .drain ⟨connection, false⟩ rows (settled mapper connection)
  | .failed failure => settled mapper connection (.error failure)
  | .panicked panic => .finish ⟨connection, false⟩ (.panicked panic)

theorem job_queryIterable (describes : Bool) (statement : Statement) :
    (job describes (Program.queryIterable statement mapper) : Job κ (List α)) =
      .record (.told (.running ⟨.queryIterable, statement⟩)) (.acquire (Job.granted statement (drained mapper))) := by
  rw [job, Program.dialogue_eq_meaning]
  refine congrArg (fun next => Job.record _ (.acquire next)) ?_
  funext answer
  cases answer with
  | failed failure => rfl
  | panicked panic => rfl
  | ok connection =>
    refine congrArg (Job.call ⟨connection, false⟩ (.openRows statement)) ?_
    funext opened
    cases opened with
    | failed failure => rfl
    | panicked panic => rfl
    | ok rows =>
      refine congrArg (Job.drain ⟨connection, false⟩ rows) ?_
      funext answer
      cases answer <;> rfl

/-- What a program comes to that still reads rows; `read` holds those so far, the latest first. -/
theorem left_drainFrom (backend : Backend σ κ) (steps : List RowStep) {rows : RowStream} {closing : Delay}
    (same : rows.closing = closing) (read : List Row) (world : World σ κ) :
    let left := (Job.drainFrom ⟨connection, false⟩ rows read (settled mapper connection) steps).left backend world
    left.1 = (RowStep.delivery closing steps).close.map (·.bind fun _ =>
        Outcome.mapList mapper (read.reverse ++ (RowStep.delivery closing steps).rows)) ∧
      left.2.dealings = world.dealings ++ [.released connection] := by
  induction steps generalizing rows read world with
  | nil =>
    subst same
    unfold Job.drainFrom
    rw [Job.left_pause]
    simp only [RowStep.delivery]
    cases rows.closing with
    | never => exact ⟨rfl, backend.dealings_returned connection (RowStream.silent_dropEntries _ _) world⟩
    | polls count =>
      refine ⟨by rw [List.append_nil]; rfl, backend.dealings_returned connection (fun entry member => ?_) world⟩
      rcases List.mem_append.mp member with told | dropped
      · exact Entry.silent_database _ entry told
      · exact RowStream.silent_dropEntries _ _ entry dropped
  | cons step rest ih =>
    obtain ⟨delay, item⟩ := step
    have kept := { rows with steps := ⟨delay, item⟩ :: rest }.advance_keeps
    unfold Job.drainFrom
    rw [Job.left_pause]
    cases delay with
    | never => exact ⟨rfl, backend.dealings_returned connection (RowStream.silent_dropEntries _ _) world⟩
    | polls count =>
      cases item with
      | ok row =>
        obtain ⟨ends, told⟩ := ih (kept.1.trans same) (row :: read) world
        refine ⟨ends.trans ?_, told⟩
        simp only [RowStep.delivery, List.reverse_cons, List.append_assoc, List.singleton_append]
      | failed failure =>
        dsimp only
        rw [Job.left_recordAll]
        exact ⟨rfl, backend.dealings_returned connection (RowStream.silent_dropEntries _ _) world⟩
      | panicked panic =>
        dsimp only
        rw [Job.left_recordAll]
        exact ⟨rfl, backend.dealings_returned connection (RowStream.silent_dropEntries _ _) world⟩

/-- A program that collects rows maps them once all of them are there, and its connection goes back. -/
theorem left_queryIterable (backend : Backend σ κ) (describes : Bool) (statement : Statement) (world : World σ κ) :
    let left := (job describes (Program.queryIterable statement mapper)).left backend world
    left.1 = (backend.delivery statement world.state).gathered mapper ∧
      left.2.dealings = world.dealings ++ backend.loan statement world.state := by
  have reaches := Job.reaches_opening backend statement (drained mapper)
    (.told (.running ⟨.queryIterable, statement⟩)) rfl world
  unfold Job.left
  rw [job_queryIterable]
  revert reaches
  generalize (Job.record (.told (.running ⟨.queryIterable, statement⟩))
    (.acquire (Job.granted statement (drained mapper)))).advance backend true world = ran
  intro reaches
  cases reaches with
  | ungranted silent told =>
    rw [silent]
    exact ⟨rfl, told⟩
  | refused refused told =>
    rw [refused]
    exact ⟨rfl, told⟩
  | panicked panicked told =>
    rw [panicked]
    exact ⟨rfl, told⟩
  | unopened silent told =>
    rw [silent, ← told]
    exact ⟨rfl, World.dealings_giveBack ..⟩
  | @opened answer connection after delivered told =>
    rw [delivered, ← told]
    cases answer with
    | ok rows => exact left_drainFrom mapper connection backend rows.steps rfl [] after
    | failed failure => exact ⟨rfl, World.dealings_giveBack ..⟩
    | panicked panic => exact ⟨rfl, World.dealings_giveBack ..⟩

end Reactive

end SqlProgram
