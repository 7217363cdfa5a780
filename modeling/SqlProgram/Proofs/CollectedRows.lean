import SqlProgram.Proofs.PollPatience
import SqlProgram.Proofs.RowDelivery
import SqlProgram.Script.Backend

/-!
Rows that are collected from a query beside rows that a program collects. The one stops at the first row that cannot be
mapped, the other reads on to the end of the rows, so they differ if something goes wrong behind such a row.
-/

namespace SqlProgram

namespace RowStream

theorem poll_forever {rows : RowStream} (silent : rows.delay = .never) :
    rows.poll true = (.pending, rows.waiting .never) := by
  rw [poll, silent]
  rfl

theorem poll_arrived {rows : RowStream} (arrives : rows.delay = .polls count) :
    rows.poll true =
      match rows.steps with
      | [] => (.ended, rows.advance)
      | step :: _ => (.item step.item, rows.advance) := by
  rw [poll, arrives]
  cases count <;> rfl

theorem delay_waiting (rows : RowStream) (left : Delay) : (rows.waiting left).delay = left := by
  obtain ⟨layout, steps⟩ := rows
  cases steps <;> rfl

theorem waiting_waiting (rows : RowStream) (first second : Delay) :
    (rows.waiting first).waiting second = rows.waiting second := by
  obtain ⟨layout, steps⟩ := rows
  cases steps <;> rfl

theorem poll_early {rows held : RowStream} (early : rows.poll false = (.pending, held)) :
    ∃ left, held = rows.waiting left ∧ (rows.delay = .never ↔ left = .never) := by
  unfold poll at early
  cases wait : rows.delay with
  | never =>
    rw [wait] at early
    cases early
    exact ⟨.never, rfl, iff_of_true rfl rfl⟩
  | polls count =>
    rw [wait] at early
    cases count with
    | succ count =>
      cases early
      exact ⟨.polls count, rfl, iff_of_false nofun nofun⟩
    | zero =>
      dsimp only [Delay.left] at early
      split at early <;> cases early

end RowStream

def Polled.isValue : Polled (Outcome α) → Bool
  | .item (.ok _) => true
  | _ => false

namespace RowQuery

/-- What a consumer has in hand that stops at what it finds: nothing if it would wait forever. -/
def concluded : Polled (Outcome α) → Option (Outcome (List α))
  | .pending => none
  | .ended => some (.ok [])
  | .item outcome => some (outcome.map ([·]))

section
variable (backend : Backend σ κ) (mapper : Row → Outcome α)

/-- A consumer that collects what a query yields. It may look too early, but it waits for each item as long as it takes,
stops at the first that is no value, at the end or where it would wait forever, and lets go of the query there. -/
inductive Collects : RowQuery κ → World σ κ → Option (Outcome (List α)) → World σ κ → Prop where
  | early (found : query.poll backend mapper false world = (.pending, later, seen))
      (rest : Collects later seen result final) : Collects query world result final
  | value {value : α} (found : query.poll backend mapper true world = (.item (.ok value), later, seen))
      (rest : Collects later seen result final) :
      Collects query world (result.map (Outcome.map (value :: ·))) final
  | stopped (found : query.poll backend mapper true world = (polled, later, seen))
      (stops : polled.isValue = false) :
      Collects query world (concluded polled) (later.drop backend seen)

end

variable {backend : Backend σ κ} {mapper : Row → Outcome α} {query other later : RowQuery κ}
  {world before seen : World σ κ} {result : Option (Outcome (List α))} {final : World σ κ}

theorem pollRows_resumes (lease : Lease κ) {rows : RowStream}
    (early : pollRows backend mapper false lease rows world = (.pending, later, seen)) :
    later.poll backend mapper true seen = pollRows backend mapper true lease rows world := by
  have waits : ∃ held, rows.poll false = (.pending, held) ∧ later = .reading lease true held ∧ seen = world := by
    unfold pollRows at early
    split at early
    next held looked =>
      cases early
      exact ⟨held, looked, rfl, rfl⟩
    all_goals cases early
  obtain ⟨held, looked, rfl, rfl⟩ := waits
  obtain ⟨left, rfl, forever⟩ := RowStream.poll_early looked
  have waited : (rows.waiting left).delay = left := rows.delay_waiting left
  rw [poll, pollRows, pollRows]
  cases left with
  | never => rw [RowStream.poll_forever waited, RowStream.poll_forever (forever.mpr rfl), RowStream.waiting_waiting]
  | polls count =>
    cases delay : rows.delay with
    | never => cases forever.mp delay
    | polls more =>
      rw [RowStream.poll_arrived waited, RowStream.poll_arrived delay]
      obtain ⟨layout, steps⟩ := rows
      cases steps with
      | nil => rfl
      | cons step rest =>
        obtain ⟨_, item⟩ := step
        cases item <;> rfl

/-- A look that comes too early takes nothing from the next. -/
theorem poll_resumes (early : query.poll backend mapper false world = (.pending, later, seen)) :
    later.poll backend mapper true seen = query.poll backend mapper true world := by
  cases query with
  | closed => cases early
  | reading lease onLoan rows =>
    cases onLoan with
    | true => exact pollRows_resumes lease early
    | false => cases early
  | opening job =>
    rw [poll_opening] at early ⊢
    rw [← job.advance_resumes backend false world]
    generalize job.advance backend false world = ran at early
    obtain ⟨rest, after⟩ := ran
    cases rest with
    | done outcome =>
      cases outcome with
      | ok opened => exact pollRows_resumes opened.1 early
      | failed | panicked => cases early
    | record | acquire | call | pause | giveBack =>
      cases early
      exact poll_opening ..

/-- Two consumers that would find the same collect the same. -/
theorem Collects.unique {found : Option (Outcome (List α))} {last : World σ κ}
    (collects : Collects backend mapper query world result final)
    (same : other.poll backend mapper true before = query.poll backend mapper true world)
    (again : Collects backend mapper other before found last) : found = result ∧ last = final := by
  -- Early looks are passed over on either side, so the runs are compared by what they find when they wait.
  induction collects generalizing other before found last with
  | early looked rest ih => exact ih (same.trans (poll_resumes looked).symm) again
  | value polled rest ih =>
    induction again with
    | early looked more again => exact again ((poll_resumes looked).trans same)
    | value twice more =>
      cases polled.symm.trans (same.symm.trans twice)
      obtain ⟨rfl, rfl⟩ := ih rfl more
      exact ⟨rfl, rfl⟩
    | stopped twice stops =>
      cases polled.symm.trans (same.symm.trans twice)
      cases stops
  | stopped polled stops =>
    induction again with
    | early looked more again => exact again ((poll_resumes looked).trans same)
    | value twice more =>
      cases polled.symm.trans (same.symm.trans twice)
      cases stops
    | stopped twice =>
      cases polled.symm.trans (same.symm.trans twice)
      exact ⟨rfl, rfl⟩

/-- Only what a query says when it is waited for matters. -/
theorem Collects.replace (collects : Collects backend mapper query world result final)
    (same : other.poll backend mapper true before = query.poll backend mapper true world) :
    Collects backend mapper other before result final := by
  induction collects generalizing other before with
  | early looked rest ih => exact ih (same.trans (poll_resumes looked).symm)
  | value found rest => exact .value (same.trans found) rest
  | stopped found stops => exact .stopped (same.trans found) stops

theorem dealings_drop (backend : Backend σ κ) (connection : κ) (rows : RowStream) (world : World σ κ) :
    (drop backend (.reading ⟨connection, false⟩ true rows) world).dealings =
      world.dealings ++ [.released connection] :=
  (World.dealings_dropEntries ..).trans (World.dealings_giveBack ..)

theorem collects_reading (backend : Backend σ κ) (mapper : Row → Outcome α) (connection : κ) {closing : Delay}
    (steps : List RowStep) {rows : RowStream} (same : rows.steps = steps ∧ rows.closing = closing) (world : World σ κ) :
    ∃ final, Collects backend mapper (.reading ⟨connection, false⟩ true rows) world
        ((RowStep.delivery closing steps).streamed mapper) final ∧
      final.dealings = world.dealings ++ [.released connection] := by
  induction steps generalizing rows world with
  | nil =>
    obtain ⟨last, rfl⟩ := same
    have delay : rows.delay = rows.closing := by rw [RowStream.delay, last]
    cases closing : rows.closing with
    | never =>
      have found : poll backend mapper true (.reading ⟨connection, false⟩ true rows) world =
          (.pending, .reading ⟨connection, false⟩ true (rows.waiting .never), world) := by
        rw [poll, pollRows, RowStream.poll_forever (delay.trans closing)]
      exact ⟨_, .stopped found rfl, dealings_drop ..⟩
    | polls count =>
      have found : poll backend mapper true (.reading ⟨connection, false⟩ true rows) world =
          (.ended, .closed, (backend.giveBack ⟨connection, false⟩ (world.tellAll rows.advance.atEnd)).addAll
            (rows.advance.dropEntries connection)) := by
        rw [poll, pollRows, RowStream.poll_arrived (delay.trans closing), last]
      refine ⟨_, .stopped found rfl, (World.dealings_dropEntries ..).trans ?_⟩
      rw [World.dealings_giveBack, World.dealings_tellAll]
  | cons step rest ih =>
    obtain ⟨delay, item⟩ := step
    obtain ⟨next, rfl⟩ := same
    have waits : rows.delay = delay := by rw [RowStream.delay, next]
    cases delay with
    | never =>
      have found : poll backend mapper true (.reading ⟨connection, false⟩ true rows) world =
          (.pending, .reading ⟨connection, false⟩ true (rows.waiting .never), world) := by
        rw [poll, pollRows, RowStream.poll_forever waits]
      exact ⟨_, .stopped found rfl, dealings_drop ..⟩
    | polls count =>
      have looked : rows.poll true = (.item item, rows.advance) := by rw [RowStream.poll_arrived waits, next]
      cases item with
      | failed failure =>
        have found : poll backend mapper true (.reading ⟨connection, false⟩ true rows) world =
            (.item (.failed failure), .reading ⟨connection, false⟩ false rows.advance,
              backend.giveBack ⟨connection, false⟩ world) := by
          rw [poll, pollRows, looked]
        exact ⟨_, .stopped found rfl, (World.dealings_dropEntries ..).trans (World.dealings_giveBack ..)⟩
      | panicked panic =>
        have found : poll backend mapper true (.reading ⟨connection, false⟩ true rows) world =
            (.item (.panicked panic), .reading ⟨connection, false⟩ true rows.advance, world) := by
          rw [poll, pollRows, looked]
        exact ⟨_, .stopped found rfl, dealings_drop ..⟩
      | ok row =>
        have found : poll backend mapper true (.reading ⟨connection, false⟩ true rows) world =
            (.item (mapper row), .reading ⟨connection, false⟩ true rows.advance, world) := by
          rw [poll, pollRows, looked]
        have onward := RowStream.advance_onward next rfl
        obtain ⟨final, others, told⟩ := ih ⟨onward.1, onward.2.2⟩ world
        simp only [RowStep.delivery, Delivery.streamed_cons]
        cases mapped : mapper row with
        | ok value => exact ⟨final, .value (mapped ▸ found) others, told⟩
        | failed failure => exact ⟨_, .stopped (mapped ▸ found) rfl, dealings_drop ..⟩
        | panicked panic => exact ⟨_, .stopped (mapped ▸ found) rfl, dealings_drop ..⟩

theorem ofStatement_granted (statement : Statement) :
    (ofStatement statement : RowQuery κ) =
      .opening (.record (.told (.streaming statement)) (.acquire (Job.granted statement onOpened))) := by
  rw [ofStatement_eq]
  refine congrArg (fun next => RowQuery.opening (.record _ (.acquire next))) ?_
  funext answer
  cases answer <;> rfl

/-- What is collected of a query: rows are mapped as they are delivered. The connection goes back. -/
theorem collects_ofStatement (backend : Backend σ κ) (mapper : Row → Outcome α) (statement : Statement)
    (world : World σ κ) :
    ∃ final, Collects backend mapper (ofStatement statement) world
        ((backend.delivery statement world.state).streamed mapper) final ∧
      final.dealings = world.dealings ++ backend.loan statement world.state := by
  rw [ofStatement_granted]
  have reaches := Job.reaches_opening backend statement onOpened (.told (.streaming statement)) rfl world
  have polls := poll_opening backend mapper true
    (.record (.told (.streaming statement)) (.acquire (Job.granted statement onOpened))) world
  revert reaches polls
  generalize (Job.record (.told (.streaming statement)) (.acquire (Job.granted statement onOpened))).advance
    backend true world = ran
  intro reaches polls
  cases reaches with
  | ungranted silent told =>
    rw [silent]
    exact ⟨_, .stopped polls rfl, told⟩
  | refused refused told =>
    rw [refused]
    exact ⟨_, .stopped polls rfl, told⟩
  | panicked panicked told =>
    rw [panicked]
    exact ⟨_, .stopped polls rfl, told⟩
  | unopened silent told =>
    rw [silent, ← told]
    exact ⟨_, .stopped polls rfl, World.dealings_giveBack ..⟩
  | @opened answer connection after delivered told =>
    rw [delivered, ← told]
    cases answer with
    | ok rows =>
      obtain ⟨final, collects, returned⟩ := collects_reading backend mapper connection rows.steps ⟨rfl, rfl⟩ after
      exact ⟨final, collects.replace polls, returned⟩
    | failed failure => exact ⟨_, .stopped polls rfl, World.dealings_giveBack ..⟩
    | panicked panic => exact ⟨_, .stopped polls rfl, World.dealings_giveBack ..⟩

/-- Rows are collected from a query to the same end as a program collects them, be it a list, a failure or a wait
without end, unless the mapper rejects a row and behind it the rows fail or fall silent. Then the query is left with
what the mapper said, and the program with what the backend did. Either way a connection that is lent goes back once;
a program that waits forever gives it back when it is let go of. -/
theorem collected_agrees (backend : Backend σ κ) (mapper : Row → Outcome α) (statement : Statement)
    (world : World σ κ) :
    let program := Program.queryIterable statement mapper
    let delivery := backend.delivery statement world.state
    let ran := program.runAsync backend world
    let left := (Reactive.job backend.describes program).left backend world
    ∃ collected final,
      (∀ result last, Collects backend mapper (ofStatement statement) world result last ↔
        result = collected ∧ last = final) ∧
      (ran.1 = collected ∨
        ∃ early row late, delivery.rows = early ++ row :: late ∧ (∀ other ∈ early, (mapper other).isOk = true) ∧
          (mapper row).isOk = false ∧ delivery.close ≠ some (.ok ()) ∧
          collected = some ((mapper row).map ([·])) ∧
          ran.1 = delivery.close.map (Outcome.map fun _ => [])) ∧
      (∀ values, ran.1 = some (.ok values) ↔ collected = some (.ok values)) ∧
      (ran.1 ≠ none → left = ran) ∧
      final.dealings = world.dealings ++ backend.loan statement world.state ∧
      left.2.dealings = world.dealings ++ backend.loan statement world.state := by
  intro program delivery ran left
  obtain ⟨final, collects, streamed⟩ := collects_ofStatement backend mapper statement world
  obtain ⟨ends, gathered⟩ := Reactive.left_queryIterable mapper backend backend.describes statement world
  have result : ran.1 = delivery.gathered mapper := ends
  refine ⟨delivery.streamed mapper, final, fun result last => ⟨collects.unique rfl, ?_⟩, ?_, fun values => ?_,
    Job.left_of_toAction _ _ _, streamed, gathered⟩
  · rintro ⟨rfl, rfl⟩
    exact collects
  · rw [result]
    exact delivery.streamed_cases mapper
  · rw [result]
    exact delivery.same_values mapper values

/-- A row is rejected before the rows fail: the query tells of the row, the program of the failure. -/
theorem collected_agrees_overtaken :
    let backend := Script.backend false
    let layout : RowLayout := ⟨[⟨"id", "", none⟩]⟩
    let rows : Script.Rows :=
      ⟨layout, [⟨layout, [.int 7], rfl⟩, ⟨layout, [.text "x"], rfl⟩], some (.backend "gone"), false, .polls 1, false⟩
    let world : World Script.State Nat := .ofState {
      acquire := [⟨.polls 1, .ok (), []⟩], begin := [], commit := [], rollback := [], update := []
      updateReturning := [], query := [.ofOutcome (.ok rows)], lent := 0 }
    let statement : Statement := ⟨"select id from t", []⟩
    let mapper (row : Row) : Outcome Int64 := .ofExcept (row.getAt .int64 0)
    let ran := (Program.queryIterable statement mapper).runAsync backend world
    let loan : List (Entry Nat) := [.acquiring, .acquired 1, .called 1 (.openRows statement),
      .answered 1 (.openRows statement) true, .released 1]
    ∃ final,
      Collects backend mapper (ofStatement statement) world
        (some (.failed (.decode "id" (.mismatch (.kind "i64" (.text "x")))))) final ∧
      ran.1 = some (.failed (.backend "gone")) ∧ final.dealings = loan ∧ ran.2.dealings = loan := by
  intro backend layout rows world statement mapper ran loan
  obtain ⟨collected, final, collects, _, _, ended, streamed, gathered⟩ :=
    collected_agrees backend mapper statement world
  have failed : ran.1 = some (.failed (.backend "gone")) := by
    simp only [ran, Program.runAsync, Reactive.job_queryIterable]
    rfl
  have mismatch : some (.failed (.decode "id" (.mismatch (.kind "i64" (.text "x"))))) = collected :=
    ((collects _ _).mp (.value rfl (.stopped rfl rfl))).1
  refine ⟨final, mismatch ▸ (collects _ _).mpr ⟨rfl, rfl⟩, failed, streamed, ?_⟩
  have settled := ended fun silent => nomatch failed.symm.trans silent
  exact (congrArg (fun after => after.2.dealings) settled).symm.trans gathered

/-- Behind a row that is rejected the rows may fall silent. Then the query fails and the program does not end. -/
theorem collected_alone :
    let backend := Script.backend false
    let layout : RowLayout := ⟨[⟨"id", "", none⟩]⟩
    let rows : Script.Rows := ⟨layout, [⟨layout, [.text "x"], rfl⟩], none, true, .now, false⟩
    let world : World Script.State Nat := .ofState {
      acquire := [], begin := [], commit := [], rollback := [], update := []
      updateReturning := [], query := [.ofOutcome (.ok rows)], lent := 0 }
    let statement : Statement := ⟨"select id from t", []⟩
    let mapper (row : Row) : Outcome Int64 := .ofExcept (row.getAt .int64 0)
    let ran := (Program.queryIterable statement mapper).runAsync backend world
    ∃ collected final, Collects backend mapper (ofStatement statement) world collected final ∧
      ¬ ((∃ values, ran.1 = some (.ok values) ∧ collected = some (.ok values)) ∨
        ∃ failure other, ran.1 = some (.failed failure) ∧ collected = some (.failed other)) := by
  intro backend layout rows world statement mapper ran
  have waits : ran.1 = none := by
    simp only [ran, Program.runAsync, Reactive.job_queryIterable]
    rfl
  refine ⟨_, _, .stopped rfl rfl, ?_⟩
  rw [waits]
  rintro (⟨_, impossible, _⟩ | ⟨_, _, impossible, _⟩) <;> cases impossible

end RowQuery

end SqlProgram
