import SqlProgram.Proofs.LeafTurns

/-!
The failures of runs: where each of them comes from, and what is told of a transaction that could not be
taken back.
-/

namespace SqlProgram

/-- A failure of the backend's own. -/
inductive Backend.Raises (backend : Backend σ κ) (failure : Failure) : Prop where
  | acquire {state : σ} (raised : (backend.acquire state).1.answer? = some (.failed failure))
  | call {connection : κ} {call : Call} {state : σ}
      (raised : (backend.reply connection call state).1 = some (.failed failure))
  | rows {connection : κ} {statement : Statement} {state : σ} {rows : RowStream}
      (opened : (backend.reply connection (.openRows statement) state).1 = some (.ok rows))
      (raised : rows.collect.answer? = some (.failed failure))

inductive Backend.Blamed (backend : Backend σ κ) : Failure → Prop where
  | itself {failure : Failure} (raised : backend.Raises failure) : Blamed backend failure
  | noRow (statement : Statement) : Blamed backend (.notFound s!"no row for `{statement.sql}`")
  | twice {statement rollback : Failure} (raised : backend.Raises statement) (again : backend.Raises rollback) :
      Blamed backend (.rollbackFailed statement rollback)

inductive Failure.IsPartOf (part : Failure) : Failure → Prop where
  | itself : IsPartOf part part
  | statement {statement rollback : Failure} (rest : IsPartOf part statement) :
      IsPartOf part (.rollbackFailed statement rollback)
  | rollback {statement rollback : Failure} (rest : IsPartOf part rollback) :
      IsPartOf part (.rollbackFailed statement rollback)

def Failure.Tells (failure told : Failure) : Prop :=
  ∃ before after, failure.message = before ++ told.message ++ after

theorem Failure.message_rollbackFailed (statement rollback : Failure) :
    (rollbackFailed statement rollback).message =
      statement.message ++ " (rollback failed: " ++ rollback.message ++ ")" := rfl

theorem Failure.rollbackFailed_tells (statement rollback : Failure) :
    (rollbackFailed statement rollback).Tells statement ∧ (rollbackFailed statement rollback).Tells rollback := by
  unfold Tells
  rw [message_rollbackFailed]
  refine ⟨⟨"", " (rollback failed: " ++ rollback.message ++ ")", ?_⟩,
    statement.message ++ " (rollback failed: ", ")", rfl⟩
  simp only [String.empty_append, String.append_assoc]

theorem Outcome.eq_failed_of_map {f : α → β} {outcome : Outcome α} {failure : Failure}
    (failed : outcome.map f = .failed failure) : outcome = .failed failure := by
  cases outcome with
  | failed other =>
    cases failed
    rfl
  | ok value => cases failed
  | panicked panic => cases failed

section

variable {backend : Backend σ κ} {connection : κ} {failure : Failure}

theorem Backend.Answers.raises {call : Call} (answers : backend.Answers connection state exchanges later)
    (failed : ⟨call, .failed failure⟩ ∈ exchanges) : backend.Raises failure := by
  induction answers with
  | nil => cases failed
  | cons answered _ ih =>
    rcases List.mem_cons.mp failed with first | rest
    · cases first
      exact .call (congrArg Prod.fst answered)
    · exact ih rest

theorem Exchange.Reads.raises {exchange : Exchange} (reads : exchange.Reads statement (.failed failure))
    (answers : backend.Answers connection state [exchange] later) : backend.Raises failure := by
  cases reads with
  | atOnce => exact answers.raises (List.mem_cons_self ..)
  | @oneByOne opened _ read =>
    cases opened with
    | ok rows =>
      cases answers with
      | cons answered _ => exact .rows (congrArg Prod.fst answered) read
    | failed other =>
      cases read
      exact answers.raises (List.mem_cons_self ..)
    | panicked panic => cases read

theorem Exchange.Describes.raises {exchange : Exchange} (describes : exchange.Describes statement layout)
    (failed : layout = .failed failure) (answers : backend.Answers connection state [exchange] later) :
    backend.Raises failure := by
  cases describes with
  | itself =>
    subst failed
    exact answers.raises (List.mem_cons_self ..)
  | atOnce rows =>
    cases Outcome.eq_failed_of_map failed
    exact answers.raises (List.mem_cons_self ..)
  | oneByOne opened =>
    cases Outcome.eq_failed_of_map failed
    exact answers.raises (List.mem_cons_self ..)

end

namespace Leaf.Carried

variable {leaf : Leaf} {exchanges : List Exchange} {result : Outcome leaf.Answer}

theorem rollbackFailed {statement : Statement} {column : String} {failure rollback : Failure}
    (carried : leaf.Carried exchanges result)
    (failed : ⟨.updateReturning statement column, .failed failure⟩ ∈ exchanges)
    (stuck : ⟨.rollback, .failed rollback⟩ ∈ exchanges) : result = .failed (.rollbackFailed failure rollback) := by
  cases carried with
  | takenBack statement column other undone =>
    simp only [List.mem_cons, Exchange.mk.injEq, reduceCtorEq, false_and, List.not_mem_nil, or_false, false_or,
      Call.updateReturning.injEq, heq_eq_eq, Outcome.failed.injEq, true_and] at failed stuck
    rw [← stuck, failed.2]
    rfl
  | query reads | queryOne reads | queryIterable reads => cases reads <;> simp at stuck
  | queryMeta describes => cases describes <;> simp at stuck
  | _ => simp at stuck

/-- A leaf that fails passes on what the backend said, unless there is no row. -/
theorem blame {backend : Backend σ κ} {failure : Failure} (carried : leaf.Carried exchanges result)
    (failed : result = .failed failure) (answers : backend.Answers connection state exchanges later) :
    backend.Blamed failure := by
  cases carried with
  | update statement count =>
    subst failed
    exact .itself (answers.raises (List.mem_cons_self ..))
  | @query exchange rows statement reads =>
    cases rows with
    | ok cursor =>
      simp only [Outcome.bind, Cursor.first] at failed
      split at failed <;> cases failed
      exact .noRow statement
    | failed other =>
      cases failed
      exact .itself (reads.raises answers)
    | panicked panic => cases failed
  | queryOne reads =>
    cases Outcome.eq_failed_of_map failed
    exact .itself (reads.raises answers)
  | queryIterable reads =>
    cases Outcome.eq_failed_of_map failed
    exact .itself (reads.raises answers)
  | queryMeta describes => exact .itself (describes.raises failed answers)
  | unbegun statement column other =>
    cases failed
    exact .itself (answers.raises (List.mem_cons_self ..))
  | kept statement column row committed =>
    cases Outcome.eq_failed_of_map failed
    exact .itself (answers.raises (List.mem_cons_of_mem _ (List.mem_cons_of_mem _ (List.mem_cons_self ..))))
  | takenBack statement column other undone =>
    have changed : backend.Raises other := answers.raises (List.mem_cons_of_mem _ (List.mem_cons_self ..))
    cases undone with
    | ok =>
      cases failed
      exact .itself changed
    | failed rollback =>
      cases failed
      exact .twice changed (answers.raises (List.mem_cons_of_mem _ (List.mem_cons_of_mem _ (List.mem_cons_self ..))))
    | panicked panic => cases failed
  | beginPanicked => cases failed
  | statementPanicked => cases failed

end Leaf.Carried

theorem Backend.Blamed.noTransaction {backend : Backend σ κ} {failure : Failure} (blamed : backend.Blamed failure)
    (told : Failure.noTransaction.IsPartOf failure) :
    ∃ cause, Failure.noTransaction.IsPartOf cause ∧ backend.Raises cause := by
  cases blamed with
  | itself raised => exact ⟨failure, told, raised⟩
  | noRow statement => cases told
  | twice raised again =>
    cases told with
    | statement rest => exact ⟨_, rest, raised⟩
    | rollback rest => exact ⟨_, rest, again⟩

theorem Course.Served.rollbackFailed {service : Service σ κ} (sound : service.Sound) {course : Course α}
    {failure rollback : Failure} (served : course.Served service state turns outcome later) {turn : Turn κ}
    {talk : Talk κ} (member : turn ∈ turns) (talked : turn.talk = some talk) {statement : Statement} {column : String}
    (failed : ⟨.updateReturning statement column, .failed failure⟩ ∈ talk.exchanges)
    (stuck : ⟨.rollback, .failed rollback⟩ ∈ talk.exchanges) :
    outcome = .failed (.rollbackFailed failure rollback) := by
  induction served with
  | done outcome state => cases member
  | reach first rest ih =>
    rcases List.mem_cons.mp member with rfl | earlier
    · cases talked
      exact (rest.of_failed ((sound.carried first).rollbackFailed failed stuck)).2
    · exact ih earlier

end SqlProgram
