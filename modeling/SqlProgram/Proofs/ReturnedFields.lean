import SqlProgram.Proofs.CompletedRuns
import SqlProgram.Script.Backend

/-!
Fields of changed rows. A transaction is kept or taken back by what the backend says of its statement; the
row is decoded afterwards, so what cannot be decoded was kept all the same.
-/

namespace SqlProgram

def Committed (said : List (κ × Exchange)) : Prop := ∃ connection, (connection, ⟨.commit, .ok ()⟩) ∈ said

/-- A statement was answered with a row. -/
def Changed (said : List (κ × Exchange)) (row : Row) : Prop :=
  ∃ connection statement column, (connection, ⟨.updateReturning statement column, .ok (some row)⟩) ∈ said

theorem changed_iff {statement : Statement} {column : String} (row : Option Row) (committed : Outcome Unit)
    (connection : κ) (other : Row) :
    Changed [(connection, ⟨.begin, .ok ()⟩), (connection, ⟨.updateReturning statement column, .ok row⟩),
      (connection, ⟨.commit, committed⟩)] other ↔ row = some other := by
  simp only [Changed, List.mem_cons, Prod.mk.injEq, Exchange.mk.injEq, reduceCtorEq, false_and, and_false, false_or,
    List.not_mem_nil, or_false, Call.updateReturning.injEq]
  constructor
  · rintro ⟨_, _, _, rfl, ⟨rfl, rfl⟩, same⟩
    cases same
    rfl
  · rintro rfl
    exact ⟨connection, statement, column, rfl, ⟨rfl, rfl⟩, .rfl⟩

/-- What was said for a field of the row that a statement changed, and how that ended. -/
structure FieldReturned (field : Field) (said : List (κ × Exchange)) (outcome : Outcome (Option field.type.Carrier)) :
    Prop where
  /-- No value is yielded unless the change was kept. -/
  kept : outcome.isOk → Committed said
  /-- A failure after a change that was kept is one to decode the row. -/
  undecoded : ∀ failure, outcome = .failed failure → Committed said →
    ∃ row, Changed said row ∧ row.get field = .error failure
  /-- A change that was kept is not taken back for a row that cannot be decoded. -/
  late : ∀ row failure, Changed said row → Committed said → row.get field = .error failure → outcome = .failed failure

theorem Course.ofOutcome_done (read : β → Outcome α) (result : Outcome β) :
    ofOutcome (fun value => .done (read value)) result = .done (result.bind read) := by
  cases result <;> rfl

theorem Course.Served.of_last {service : Service σ κ} {leaf : Leaf} {read : leaf.Answer → Outcome α}
    (served : (Course.reach leaf fun answer => Course.done (read answer)).Served service state turns outcome later) :
    ∃ talk result middle, turns = [⟨leaf, talk⟩] ∧ service leaf state talk result middle ∧
      outcome = result.bind read := by
  cases served with
  | @reach _ talk middle turns _ _ _ result _ first rest =>
    rw [Course.ofOutcome_done] at rest
    obtain ⟨rfl, ended, _⟩ := rest.of_done
    exact ⟨talk, result, middle, rfl, first, ended⟩

theorem Course.Served.of_returning {service : Service σ κ} (sound : service.Sound) {statement : Statement}
    {field : Field} {outcome : Outcome (Option field.type.Carrier)}
    (served : (Program.updateReturning statement field).course.Served service state turns outcome later) :
    (turns.flatMap Turn.said = [] ∧ outcome.isOk = false) ∨
      ∃ connection exchanges result, Leaf.Carried ⟨.updateReturning field.bareText, statement⟩ exchanges result ∧
        turns.flatMap Turn.said = exchanges.map (fun exchange => (connection, exchange)) ∧
        outcome = result.bind (Program.readOptional fun row => .ofExcept (row.get field)) := by
  obtain ⟨talk, result, middle, rfl, first, rfl⟩ := served.of_last
  rw [List.flatMap_singleton]
  cases talk with
  | none =>
    refine .inl ⟨rfl, ?_⟩
    have refused := sound.refused first
    cases result with
    | ok answer => cases refused
    | failed failure => rfl
    | panicked panic => rfl
  | some talk => exact .inr ⟨talk.connection, talk.exchanges, result, sound.carried first, rfl, rfl⟩

namespace FieldReturned

theorem of_uncommitted {field : Field} {said : List (κ × Exchange)} {outcome : Outcome (Option field.type.Carrier)}
    (lost : ¬ Committed said) (unsuccessful : outcome.isOk = false) : FieldReturned field said outcome where
  kept successful := absurd (successful.symm.trans unsuccessful) Bool.noConfusion
  undecoded _ _ committed := absurd committed lost
  late _ _ _ committed := absurd committed lost

theorem of_committed {statement : Statement} {column : String} {field : Field} (row : Option Row) (connection : κ) :
    FieldReturned field
      [(connection, ⟨.begin, .ok ()⟩), (connection, ⟨.updateReturning statement column, .ok row⟩),
        (connection, ⟨.commit, .ok ()⟩)]
      (Program.readOptional (fun row => .ofExcept (row.get field)) row) := by
  refine ⟨fun _ => ⟨connection, by simp⟩, ?_, ?_⟩
  · intro failure failed _
    cases row with
    | none => cases failed
    | some row =>
      refine ⟨row, (changed_iff ..).mpr rfl, ?_⟩
      simp only [Program.readOptional] at failed
      cases decoded : row.get field with
      | ok value =>
        rw [decoded] at failed
        cases failed
      | error other =>
        rw [decoded] at failed
        cases failed
        rfl
  · intro other failure answered _ undecoded
    cases (changed_iff ..).mp answered
    simp only [Program.readOptional, undecoded]
    rfl

theorem of_carried {statement : Statement} {field : Field} {exchanges : List Exchange} {result : Outcome (Option Row)}
    (carried : Leaf.Carried ⟨.updateReturning field.bareText, statement⟩ exchanges result) (connection : κ) :
    FieldReturned field (exchanges.map fun exchange => (connection, exchange))
      (result.bind (Program.readOptional fun row => .ofExcept (row.get field))) := by
  cases carried with
  | kept _ _ row committed =>
    cases committed with
    | ok => exact of_committed row connection
    | failed failure => exact of_uncommitted (by simp [Committed]) rfl
    | panicked panic => exact of_uncommitted (by simp [Committed]) rfl
  | unbegun => exact of_uncommitted (by simp [Committed]) rfl
  | beginPanicked => exact of_uncommitted (by simp [Committed]) rfl
  | statementPanicked => exact of_uncommitted (by simp [Committed]) rfl
  | takenBack _ _ failure undone => cases undone <;> exact of_uncommitted (by simp [Committed]) rfl

theorem of_served {service : Service σ κ} (sound : service.Sound) {statement : Statement} {field : Field}
    {outcome : Outcome (Option field.type.Carrier)}
    (served : (Program.updateReturning statement field).course.Served service state turns outcome later) :
    FieldReturned field (turns.flatMap Turn.said) outcome := by
  rcases served.of_returning sound with ⟨said, unsuccessful⟩ | ⟨connection, exchanges, result, carried, said, rfl⟩
  · rw [said]
    exact of_uncommitted (by simp [Committed]) unsuccessful
  · rw [said]
    exact of_carried carried connection

end FieldReturned

/-- However it is run, whatever the backend answers: a leaf that fails left no change behind, unless it
failed for the row, which is decoded only after the change was kept. -/
theorem Program.updateReturning_late (backend : Backend σ κ) (statement : Statement) (field : Field)
    (world : World σ κ) :
    (updateReturning statement field).EveryRun backend world fun turns outcome =>
      FieldReturned field (turns.flatMap Turn.said) outcome := by
  refine everyRun (fun state turns outcome conducted => ?_) (fun state turns outcome later served => ?_) world
  · cases conducted with
    | refused => exact .of_uncommitted (by simp [Committed]) rfl
    | panicked => exact .of_uncommitted (by simp [Committed]) rfl
    | lent lent served => exact .of_served (Blocking.service_sound backend _) served
  · exact .of_served (Reactive.serves_sound backend) served

def Script.undecodable : Script.State where
  acquire := []
  begin := []
  commit := []
  rollback := []
  update := []
  updateReturning := [.ofOutcome (.ok (some ⟨⟨[⟨"id", "", none⟩]⟩, [.text "x"], rfl⟩))]
  query := []
  lent := 0

theorem Program.updateReturning_late_undecodable :
    let statement : Statement := ⟨"insert into t values (1)", []⟩
    let field : Field := .ofIdent .int64 ⟨[], .plain "id" (by decide)⟩
    let program := updateReturning statement field
    let backend := Script.backend false
    let world : World Script.State Nat := .ofState Script.undecodable
    let outcome := .failed (.decode "id" (.mismatch (.kind "i64" (.text "x"))))
    (program.runDirect backend world).1 = some outcome ∧
      (program.runDirect backend world).2.steps =
        [.told (.running ⟨.updateReturning "id", statement⟩), .called 1 .begin, .answered 1 .begin true,
          .called 1 (.updateReturning statement "id"), .answered 1 (.updateReturning statement "id") true,
          .called 1 .commit, .answered 1 .commit true] ∧
      ∃ turns, Blocking.Took backend program world turns outcome (program.runDirect backend world).2 ∧
        FieldReturned field (turns.flatMap Turn.said) outcome := by
  intro statement field program backend world outcome
  have failed : (program.runDirect backend world).1 = some outcome := by
    rw [runDirect, runWith, Blocking.job, dialogue_eq_meaning]
    rfl
  refine ⟨failed, ?_, (updateReturning_late backend statement field world).direct outcome failed⟩
  rw [runDirect, runWith, Blocking.job, dialogue_eq_meaning]
  rfl

/-- A leaf that fails may have left its change behind. -/
theorem Program.updateReturning_not_taken_back :
    ¬ ∀ (σ κ : Type) (backend : Backend σ κ) (statement : Statement) (field : Field) (state : σ) (failure : Failure),
      ((updateReturning statement field).runDirect backend (.ofState state)).1 = some (.failed failure) →
        ∀ connection, .answered connection .commit true ∉
          ((updateReturning statement field).runDirect backend (.ofState state)).2.steps := by
  intro takenBack
  refine takenBack Script.State Nat (Script.backend false) ⟨"insert into t values (1)", []⟩
    (.ofIdent .int64 ⟨[], .plain "id" (by decide)⟩) Script.undecodable
    (.decode "id" (.mismatch (.kind "i64" (.text "x")))) ?_ 1 ?_
  · rw [runDirect, runWith, Blocking.job, dialogue_eq_meaning]
    rfl
  · rw [runDirect, runWith, Blocking.job, dialogue_eq_meaning]
    exact List.mem_of_getLast? rfl

end SqlProgram
