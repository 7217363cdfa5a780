import SqlProgram.Proofs.CompletedJobs
import SqlProgram.Proofs.ProgramCourse
import SqlProgram.Proofs.TransactionOrder

/-!
The turns of a run: one leaf after the other, each with all that is said for it on one connection. What
may be said for a leaf is a grammar of exchanges, and so is what comes of it.
-/

namespace SqlProgram

def Cursor.first (statement : Statement) (cursor : Cursor) : Outcome Row :=
  match cursor.next.1 with
  | some row => .ok row
  | none => .failed (.notFound s!"no row for `{statement.sql}`")

theorem Dialogue.ofOutcome_firstRow (statement : Statement) (next : Row → Dialogue α) (rows : Outcome Cursor) :
    ofOutcome (firstRow statement next) rows = ofOutcome next (rows.bind (Cursor.first statement)) := by
  cases rows with
  | ok cursor =>
    simp only [ofOutcome, firstRow, Outcome.bind, Cursor.first]
    cases cursor.next.1 <;> rfl
  | failed failure => rfl
  | panicked panic => rfl

theorem Dialogue.ofOutcome_map (f : α → β) (next : β → Dialogue γ) (outcome : Outcome α) :
    ofOutcome (fun value => next (f value)) outcome = ofOutcome next (outcome.map f) := by
  cases outcome <;> rfl

/-- What is left of a statement that failed in a transaction once that was taken back, or was not. -/
def Outcome.afterRollback (failure : Failure) : Outcome Unit → Outcome α
  | .ok _ => .failed failure
  | .failed rollback => .failed (.rollbackFailed failure rollback)
  | .panicked panic => .panicked panic

namespace Exchange

/-- Rows are asked for all at once, or one by one until they end. -/
inductive Reads (statement : Statement) : Exchange → Outcome Cursor → Prop where
  | atOnce (rows : Outcome Cursor) : Reads statement ⟨.query statement, rows⟩ rows
  | oneByOne {opened : Outcome RowStream} {rows : Outcome Cursor}
      (read : whenAnswered (some opened) (fun stream => stream.collect.answer?) = some rows) :
      Reads statement ⟨.openRows statement, opened⟩ rows

/-- Columns are asked for, or told by rows that are let go of. -/
inductive Describes (statement : Statement) : Exchange → Outcome RowLayout → Prop where
  | itself (layout : Outcome RowLayout) : Describes statement ⟨.describe statement, layout⟩ layout
  | atOnce (rows : Outcome Cursor) : Describes statement ⟨.query statement, rows⟩ (rows.map Cursor.layout)
  | oneByOne (opened : Outcome RowStream) :
      Describes statement ⟨.openRows statement, opened⟩ (opened.map RowStream.layout)

end Exchange

/-- What is said for a leaf, in order, and how the leaf ends: one plain call, or a transaction that is
kept exactly if its statement succeeds and taken back exactly if it fails. -/
inductive Leaf.Carried : (leaf : Leaf) → List Exchange → Outcome leaf.Answer → Prop where
  | update (statement : Statement) (count : Outcome Nat) :
      Carried ⟨.update, statement⟩ [⟨.update statement, count⟩] count
  | query {statement : Statement} (reads : exchange.Reads statement rows) :
      Carried ⟨.query, statement⟩ [exchange] (rows.bind (Cursor.first statement))
  | queryOne {statement : Statement} (reads : exchange.Reads statement rows) :
      Carried ⟨.queryOne, statement⟩ [exchange] (rows.map fun cursor => cursor.next.1)
  | queryIterable {statement : Statement} (reads : exchange.Reads statement rows) :
      Carried ⟨.queryIterable, statement⟩ [exchange] (rows.map Cursor.rows)
  | queryMeta {statement : Statement} (describes : exchange.Describes statement layout) :
      Carried ⟨.queryMeta, statement⟩ [exchange] layout
  | unbegun (statement : Statement) (column : String) (failure : Failure) :
      Carried ⟨.updateReturning column, statement⟩ [⟨.begin, .failed failure⟩] (.failed failure)
  | kept (statement : Statement) (column : String) (row : Option Row) (committed : Outcome Unit) :
      Carried ⟨.updateReturning column, statement⟩
        [⟨.begin, .ok ()⟩, ⟨.updateReturning statement column, .ok row⟩, ⟨.commit, committed⟩]
        (committed.map fun _ => row)
  | takenBack (statement : Statement) (column : String) (failure : Failure) (undone : Outcome Unit) :
      Carried ⟨.updateReturning column, statement⟩
        [⟨.begin, .ok ()⟩, ⟨.updateReturning statement column, .failed failure⟩, ⟨.rollback, undone⟩]
        (undone.afterRollback failure)
  /-- A backend that panics is asked for nothing more. -/
  | beginPanicked (statement : Statement) (column : String) (panic : Panic) :
      Carried ⟨.updateReturning column, statement⟩ [⟨.begin, .panicked panic⟩] (.panicked panic)
  | statementPanicked (statement : Statement) (column : String) (panic : Panic) :
      Carried ⟨.updateReturning column, statement⟩
        [⟨.begin, .ok ()⟩, ⟨.updateReturning statement column, .panicked panic⟩] (.panicked panic)

/-- All that is said on one connection for one leaf. -/
structure Talk (κ : Type) where
  connection : κ
  exchanges : List Exchange

structure Turn (κ : Type) where
  leaf : Leaf
  /-- Nothing is said if no connection is handed out. -/
  talk : Option (Talk κ)

namespace Turn

def said (turn : Turn κ) : List (κ × Exchange) :=
  match turn.talk with
  | none => []
  | some talk => talk.exchanges.map fun exchange => (talk.connection, exchange)

def entries (turn : Turn κ) : List (Entry κ) :=
  .told (.running turn.leaf) :: turn.said.flatMap fun (connection, exchange) => exchange.entries connection

theorem steps_talk {leaf : Leaf} {connection : κ} {world later : World σ κ}
    (steps : later.steps =
      (world.add (.told (.running leaf))).steps ++ exchanges.flatMap (Exchange.entries connection)) :
    later.steps = world.steps ++ entries ⟨leaf, some ⟨connection, exchanges⟩⟩ := by
  rw [steps, World.steps_add, List.append_assoc, entries, said, List.flatMap_map]
  rfl

end Turn

/-- How a leaf may be served: from which state, with what said, to which end and to which state. -/
abbrev Service (σ κ : Type) := (leaf : Leaf) → σ → Option (Talk κ) → Outcome leaf.Answer → σ → Prop

structure Service.Sound (service : Service σ κ) : Prop where
  carried {leaf : Leaf} {result : Outcome leaf.Answer} :
    service leaf state (some talk) result later → leaf.Carried talk.exchanges result
  refused {leaf : Leaf} {result : Outcome leaf.Answer} :
    service leaf state none result later → result.isOk = false

/-- A course that is taken turn by turn, from one state to another. What a leaf comes to decides which
leaf is next, and whether there is one. -/
inductive Course.Served (service : Service σ κ) : Course α → σ → List (Turn κ) → Outcome α → σ → Prop where
  | done (outcome : Outcome α) (state : σ) : Served service (.done outcome) state [] outcome state
  | reach {leaf : Leaf} {result : Outcome leaf.Answer} {next : leaf.Answer → Course α}
      (served : service leaf state talk result middle)
      (rest : Served service (.ofOutcome next result) middle turns outcome later) :
      Served service (.reach leaf next) state (⟨leaf, talk⟩ :: turns) outcome later

namespace Course

variable {service : Service σ κ}

theorem Served.of_done {result : Outcome α} (served : (Course.done result).Served service state turns outcome later) :
    turns = [] ∧ outcome = result ∧ later = state := by
  cases served
  exact ⟨rfl, rfl, rfl⟩

theorem Served.of_failed {result : Outcome β} {next : β → Course α} {failure : Failure}
    (failed : result = .failed failure)
    (served : (ofOutcome next result).Served service state turns outcome later) :
    turns = [] ∧ outcome = .failed failure := by
  subst failed
  obtain ⟨none_left, ended, _⟩ := served.of_done
  exact ⟨none_left, ended⟩

/-- Only a leaf that ends well has another after it. -/
theorem Served.of_unsuccessful {result : Outcome β} {next : β → Course α} (unsuccessful : result.isOk = false)
    (served : (ofOutcome next result).Served service state turns outcome later) : turns = [] := by
  cases result with
  | ok value => cases unsuccessful
  | failed failure => exact served.of_done.1
  | panicked panic => exact served.of_done.1

theorem Served.carried (sound : service.Sound) {course : Course α}
    (served : course.Served service state turns outcome later) :
    ∀ turn ∈ turns, ∀ talk, turn.talk = some talk → ∃ result, turn.leaf.Carried talk.exchanges result := by
  induction served with
  | done outcome state => exact fun _ impossible => nomatch impossible
  | reach first _ ih =>
    intro turn member
    rcases List.mem_cons.mp member with rfl | later
    · rintro talk rfl
      exact ⟨_, sound.carried first⟩
    · exact ih turn later

/-- A failure comes from the program itself, or some leaf ended with it. -/
theorem Served.blame {course : Course α} {failure : Failure}
    (served : course.Served service state turns (.failed failure) later) :
    course.Raises failure ∨
      ∃ leaf talk before after, service leaf before talk (.failed failure : Outcome leaf.Answer) after := by
  generalize ended : (Outcome.failed failure : Outcome α) = outcome at served
  induction served with
  | done outcome state =>
    subst ended
    exact .inl .done
  | @reach state talk middle turns outcome later leaf result next first rest ih =>
    cases result with
    | ok answer => exact (ih ended).imp_left (.reach answer)
    | failed other =>
      obtain ⟨_, last⟩ := rest.of_failed rfl
      cases ended.trans last
      exact .inr ⟨leaf, talk, state, middle, first⟩
    | panicked panic => cases ended.trans rest.of_done.2.1

end Course

end SqlProgram
