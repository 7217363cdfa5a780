import SqlProgram.Proofs.PlayedScript
import SqlProgram.Script.Backend

/-!
The scripted backend plays its script, as long as it has connections to lend and its rows come to an
end.
-/

namespace SqlProgram

theorem RowStream.collectFrom_arriving {rows : RowStream} {last : Nat} (closing : rows.closing = .polls last)
    (each : Nat) (read arriving : List Row) (count : Nat) :
    (rows.collectFrom read (.polls count) (arriving.map fun row => ⟨.polls each, .ok row⟩)).answer? =
      some (.ok ⟨rows.layout, read.reverse ++ arriving⟩) := by
  induction arriving generalizing read count with
  | nil =>
    rw [List.map_nil, RowStream.collectFrom, closing, List.append_nil]
    rfl
  | cons row arriving ih =>
    rw [List.map_cons, RowStream.collectFrom]
    refine (ih (row :: read) (count + each)).trans ?_
    rw [List.reverse_cons, List.append_assoc]
    rfl

namespace Script

structure Rows.IsWhole (rows : Rows) : Prop where
  sound : rows.failure = none
  ends : rows.hangs = false
  arrive : ∃ each, rows.delay = .polls each

theorem Rows.cursor_whole {rows : Rows} (whole : rows.IsWhole) : rows.cursor = .ok ⟨rows.layout, rows.rows⟩ := by
  rw [cursor, whole.sound]

theorem Rows.layout_stream (rows : Rows) : rows.stream.layout = rows.layout := by
  unfold stream
  split <;> rfl

theorem Rows.collect_stream {rows : Rows} (whole : rows.IsWhole) :
    rows.stream.collect.answer? = some (.ok ⟨rows.layout, rows.rows⟩) := by
  obtain ⟨each, arrive⟩ := whole.arrive
  unfold stream
  split
  · exact RowStream.collectFrom_arriving rfl 0 [] rows.rows 0
  · have steps : (rows.rows.map Outcome.ok ++ (rows.failure.map Outcome.failed).toList).map
        (fun item => (⟨rows.delay, item⟩ : RowStep)) = rows.rows.map fun row => ⟨.polls each, .ok row⟩ := by
      rw [whole.sound, arrive]
      simp
    rw [steps, whole.ends, arrive]
    exact RowStream.collectFrom_arriving rfl each [] rows.rows 0

/-- A script to be played: no request for a connection fails, and all rows arrive. The number of
connections that were lent is of no account. -/
structure Stage (state script : State) : Prop where
  lends : state.acquire = []
  whole : ∀ reply ∈ state.query, ∀ rows, reply.outcome = .ok rows → rows.IsWhole
  same : script = { state with lent := 0 }

def session (prompt : Bool) : Session State where
  answer request state := (backend prompt).answerBlocking 0 request state
  tell _ state := state

theorem nextReply_mem {default : α} {replies : List (Reply α)} {reply : Reply α}
    (member : reply ∈ (nextReply default replies).2) : reply ∈ replies := by
  cases replies with
  | nil => exact member
  | cons first rest => exact List.mem_cons_of_mem first member

theorem nextReply_whole {state script : State} (stage : Stage state script) {rows : Rows}
    (next : (nextReply .empty state.query).1.outcome = .ok rows) : rows.IsWhole := by
  have whole := stage.whole
  revert next whole
  cases state.query with
  | nil =>
    rintro next _
    cases next
    exact ⟨rfl, rfl, 0, rfl⟩
  | cons reply rest => exact fun next whole => whole reply (List.mem_cons_self ..) rows next

theorem blocking_plays (prompt : Bool) {state script : State} (stage : Stage state script) (connection : Nat)
    (request : Request) :
    ((backend prompt).answerBlocking connection request state).1 = ((session prompt).answer request script).1 ∧
      Stage ((backend prompt).answerBlocking connection request state).2
        ((session prompt).answer request script).2 := by
  obtain ⟨lends, whole, rfl⟩ := stage
  have left : ∀ reply ∈ (nextReply .empty state.query).2, ∀ rows, reply.outcome = .ok rows → rows.IsWhole :=
    fun reply member => whole reply (nextReply_mem member)
  cases request with
  | query statement => cases prompt <;> exact ⟨rfl, lends, left, rfl⟩
  | describe statement => cases prompt <;> exact ⟨rfl, lends, left, rfl⟩
  | _ => cases prompt <;> exact ⟨rfl, lends, whole, rfl⟩

theorem drained_eq {reply : Reply Rows} (whole : ∀ rows, reply.outcome = .ok rows → rows.IsWhole) :
    whenAnswered (reply.bind fun rows => .ok rows.stream).answer? (fun rows => rows.collect.answer?) =
      (reply.bind Rows.cursor).answer? := by
  obtain ⟨delay, outcome, events⟩ := reply
  cases delay with
  | never => rfl
  | polls count =>
    cases outcome with
    | failed failure => rfl
    | panicked panic => rfl
    | ok rows =>
      have cursor := Rows.cursor_whole (whole rows rfl)
      have drained := Rows.collect_stream (whole rows rfl)
      exact drained.trans (congrArg some cursor.symm)

theorem columns_eq {reply : Reply Rows} (whole : ∀ rows, reply.outcome = .ok rows → rows.IsWhole) :
    whenAnswered (reply.bind fun rows => .ok rows.stream).answer? (fun rows => some (.ok rows.layout)) =
      whenAnswered (reply.bind Rows.cursor).answer? fun cursor => some (.ok cursor.layout) := by
  obtain ⟨delay, outcome, events⟩ := reply
  cases delay with
  | never => rfl
  | polls count =>
    cases outcome with
    | failed failure => rfl
    | panicked panic => rfl
    | ok rows =>
      have cursor : (Reply.bind ⟨.polls count, .ok rows, events⟩ Rows.cursor).answer? =
          some (.ok ⟨rows.layout, rows.rows⟩) := congrArg some (Rows.cursor_whole (whole rows rfl))
      rw [cursor]
      exact congrArg (fun layout => some (Outcome.ok layout)) rows.layout_stream

theorem reactive_plays (prompt : Bool) {state script : State} (stage : Stage state script) (connection : Nat)
    (request : Request) :
    ((backend prompt).answerReactive connection request state).1 = ((session prompt).answer request script).1 ∧
      Stage ((backend prompt).answerReactive connection request state).2
        ((session prompt).answer request script).2 := by
  have blocking := blocking_plays prompt stage connection request
  have next : ∀ rows, (nextReply .empty state.query).1.outcome = .ok rows → rows.IsWhole :=
    fun rows => nextReply_whole stage
  have hastened : ∀ rows,
      ({ (nextReply Rows.empty state.query).1 with delay := .now } : Reply Rows).outcome = .ok rows →
      rows.IsWhole := next
  cases request with
  | query statement =>
    cases prompt with
    | false => exact ⟨(drained_eq next).trans blocking.1, blocking.2⟩
    | true => exact ⟨(drained_eq hastened).trans blocking.1, blocking.2⟩
  | describe statement =>
    cases prompt with
    | false => exact ⟨(columns_eq next).trans blocking.1, blocking.2⟩
    | true => exact ⟨(columns_eq hastened).trans blocking.1, blocking.2⟩
  | _ => exact blocking

theorem acquire_plays (prompt : Bool) {state script : State} (stage : Stage state script) :
    (∃ connection, ((backend prompt).acquire state).1.answer? = some (.ok connection)) ∧
      Stage ((backend prompt).acquire state).2 script := by
  obtain ⟨lends, whole, rfl⟩ := stage
  obtain ⟨acquire, begin, commit, rollback, update, updateReturning, query, lent⟩ := state
  cases lends
  cases prompt <;> exact ⟨⟨lent + 1, rfl⟩, rfl, whole, rfl⟩

/-- Blocking and asynchronous runs, whatever connections they use, go through one and the same script. -/
theorem backend_plays (prompt : Bool) : (backend prompt).Plays (session prompt) Stage where
  acquire := acquire_plays prompt
  returned := by
    rintro state script ⟨connection, dirty⟩ stage
    cases dirty <;> exact stage
  tell _ stage := stage
  blocking connection request stage := blocking_plays prompt stage connection request
  reactive connection request stage := reactive_plays prompt stage connection request

end Script

end SqlProgram
