import SqlProgram.Proofs.LeafTurns

/-!
The discipline of calls. What belongs into a transaction is called inside one and all else outside, and
a connection is left alone once a transaction on it could not be opened or closed.
-/

namespace SqlProgram

namespace Call

def belongsInside : Call → Bool
  | .updateReturning .. | .commit | .rollback => true
  | _ => false

def isBoundary : Call → Bool
  | .begin | .commit | .rollback => true
  | _ => false

end Call

namespace Exchange

def opens : Exchange → Bool
  | ⟨.begin, outcome⟩ => outcome.isOk
  | _ => false

def closes : Exchange → Bool
  | ⟨.commit, outcome⟩ | ⟨.rollback, outcome⟩ => outcome.isOk
  | _ => false

/-- After such an exchange nobody knows whether a transaction is open. -/
def spoils (exchange : Exchange) : Bool := exchange.call.isBoundary && !exchange.outcome.isOk

theorem opens_of_plain {exchange : Exchange} (plain : exchange.call.isBoundary = false) : exchange.opens = false := by
  obtain ⟨call, outcome⟩ := exchange
  cases call with
  | begin => cases plain
  | _ => rfl

theorem spoils_of_plain {exchange : Exchange} (plain : exchange.call.isBoundary = false) : exchange.spoils = false := by
  rw [spoils, plain, Bool.false_and]

end Exchange

/-- A transaction was opened on a connection and not closed since. -/
def Inside (connection : κ) (said : List (κ × Exchange)) : Prop :=
  ∃ before opening after, said = before ++ (connection, opening) :: after ∧ opening.opens ∧
    ∀ exchange, (connection, exchange) ∈ after → exchange.closes = false

def Spoiled (connection : κ) (said : List (κ × Exchange)) : Prop :=
  ∃ exchange, (connection, exchange) ∈ said ∧ exchange.spoils

/-- Nothing is called on a spoiled connection, and a call stands inside a transaction on its connection
exactly if it belongs there. -/
def Disciplined (said : List (κ × Exchange)) : Prop :=
  ∀ before connection exchange after, said = before ++ (connection, exchange) :: after →
    ¬ Spoiled connection before ∧ (exchange.call.belongsInside ↔ Inside connection before)

/-- No connection is inside a transaction or spoiled. -/
def Settled (said : List (κ × Exchange)) : Prop :=
  ∀ connection, ¬ Inside connection said ∧ ¬ Spoiled connection said

variable {connection : κ} {said first second : List (κ × Exchange)}

theorem settled_nil : Settled ([] : List (κ × Exchange)) := by
  refine fun connection => ⟨?_, fun ⟨_, impossible, _⟩ => nomatch impossible⟩
  rintro ⟨before, opening, after, split, _⟩
  cases before <;> cases split

theorem inside_cons (head : κ × Exchange) : Inside connection (head :: said) ↔
    (head.1 = connection ∧ head.2.opens ∧ ∀ exchange, (connection, exchange) ∈ said → exchange.closes = false) ∨
      Inside connection said := by
  constructor
  · rintro ⟨before, opening, after, split, opens, open_since⟩
    cases before with
    | nil =>
      cases split
      exact .inl ⟨rfl, opens, open_since⟩
    | cons other before =>
      cases split
      exact .inr ⟨before, opening, after, rfl, opens, open_since⟩
  · rintro (⟨rfl, opens, open_since⟩ | ⟨before, opening, after, rfl, opens, open_since⟩)
    · exact ⟨[], head.2, said, rfl, opens, open_since⟩
    · exact ⟨head :: before, opening, after, rfl, opens, open_since⟩

theorem inside_append : Inside connection (first ++ second) ↔
    (Inside connection first ∧ ∀ exchange, (connection, exchange) ∈ second → exchange.closes = false) ∨
      Inside connection second := by
  induction first with
  | nil => simp [(settled_nil connection).1]
  | cons head first ih =>
    simp only [List.cons_append, inside_cons, ih, List.mem_append, or_imp, forall_and, or_and_right, and_assoc,
      or_assoc]

theorem spoiled_append :
    Spoiled connection (first ++ second) ↔ Spoiled connection first ∨ Spoiled connection second := by
  simp only [Spoiled, List.mem_append, or_and_right, exists_or]

theorem disciplined_nil : Disciplined ([] : List (κ × Exchange)) := by
  intro before connection exchange after split
  cases before <;> cases split

theorem Disciplined.snoc {exchange : Exchange} (disciplined : Disciplined said) (fresh : ¬ Spoiled connection said)
    (fits : exchange.call.belongsInside ↔ Inside connection said) :
    Disciplined (said ++ [(connection, exchange)]) := by
  intro before other asked after split
  obtain ⟨rfl, same, rfl⟩ | ⟨rest, rfl, earlier⟩ := snoc_split split
  · cases same
    exact ⟨fresh, fits⟩
  · exact disciplined before other asked rest earlier

/-- What is said after all is settled need not know what was said before. -/
theorem Disciplined.append (earlier : Disciplined first) (settled : Settled first) (later : Disciplined second) :
    Disciplined (first ++ second) := by
  intro before connection exchange after split
  rcases List.append_eq_append_iff.mp split with ⟨more, rfl, rest⟩ | ⟨more, rfl, rest⟩
  · obtain ⟨fresh, fits⟩ := later more connection exchange after rest
    obtain ⟨outside, unspoiled⟩ := settled connection
    rw [spoiled_append, inside_append, fits]
    exact ⟨not_or.mpr ⟨unspoiled, fresh⟩, .inr, fun inside => inside.resolve_left fun before => outside before.1⟩
  · cases more with
    | nil =>
      -- The call is the first after all was settled.
      obtain ⟨fresh, fits⟩ := later [] connection exchange after rest.symm
      rw [List.append_nil] at settled
      rw [fits]
      exact ⟨(settled connection).2, fun inside => absurd inside (settled_nil connection).1,
        fun inside => absurd inside (settled connection).1⟩
    | cons head more =>
      cases rest
      exact earlier before connection exchange more rfl

theorem spoiled_cons (head : κ × Exchange) :
    Spoiled connection (head :: said) ↔ (head.1 = connection ∧ head.2.spoils) ∨ Spoiled connection said := by
  obtain ⟨other, exchange⟩ := head
  simp only [Spoiled, List.mem_cons, Prod.mk.injEq, or_and_right, exists_or]
  constructor
  · rintro (⟨_, ⟨rfl, rfl⟩, spoils⟩ | rest)
    · exact .inl ⟨rfl, spoils⟩
    · exact .inr rest
  · rintro (⟨rfl, spoils⟩ | rest)
    · exact .inl ⟨exchange, ⟨rfl, rfl⟩, spoils⟩
    · exact .inr rest

theorem disciplined_one {exchange : Exchange} (outer : exchange.call.belongsInside = false) (connection : κ) :
    Disciplined [(connection, exchange)] := by
  refine disciplined_nil.snoc (settled_nil connection).2 ?_
  simp [outer, (settled_nil connection).1]

theorem disciplined_two {exchange : Exchange} (inner : exchange.call.belongsInside) (connection : κ) :
    Disciplined [(connection, ⟨.begin, .ok ()⟩), (connection, exchange)] := by
  have begun : Disciplined [(connection, ⟨.begin, .ok ()⟩)] := disciplined_one rfl connection
  refine begun.snoc ?_ ?_
  · simp [spoiled_cons, (settled_nil connection).2, Exchange.spoils, Call.isBoundary, Outcome.isOk]
  · simp [inside_cons, inner, Exchange.opens, Outcome.isOk]

theorem disciplined_three {closing : Exchange} (inner : closing.call.belongsInside) (statement : Statement)
    (column : String) (row : Outcome (Option Row)) (connection : κ) :
    Disciplined [(connection, ⟨.begin, .ok ()⟩), (connection, ⟨.updateReturning statement column, row⟩),
      (connection, closing)] := by
  have stated : Disciplined [(connection, ⟨.begin, .ok ()⟩), (connection, ⟨.updateReturning statement column, row⟩)] :=
    disciplined_two rfl connection
  refine stated.snoc ?_ ?_
  · simp [spoiled_cons, (settled_nil connection).2, Exchange.spoils, Call.isBoundary, Outcome.isOk]
  · simp [inside_cons, inner, Exchange.opens, Exchange.closes, Outcome.isOk]

theorem settled_one {exchange : Exchange} (plain : exchange.call.isBoundary = false) (connection : κ) :
    Settled [(connection, exchange)] := by
  intro other
  simp [inside_cons, spoiled_cons, settled_nil other, exchange.opens_of_plain plain, exchange.spoils_of_plain plain]

theorem settled_kept (statement : Statement) (column : String) (row : Outcome (Option Row)) (connection : κ) :
    Settled [(connection, ⟨.begin, .ok ()⟩), (connection, ⟨.updateReturning statement column, row⟩),
      (connection, ⟨.commit, .ok ()⟩)] := by
  intro other
  constructor
  · simp only [inside_cons, (settled_nil other).1, or_false]
    rintro (⟨rfl, _, open_since⟩ | ⟨_, impossible, _⟩ | ⟨_, impossible, _⟩)
    · cases open_since ⟨.commit, .ok ()⟩ (by simp)
    · cases impossible
    · cases impossible
  · simp [spoiled_cons, (settled_nil other).2, Exchange.spoils, Call.isBoundary, Outcome.isOk]

theorem Exchange.Reads.plain {exchange : Exchange} (reads : exchange.Reads statement rows) :
    exchange.call.isBoundary = false ∧ exchange.call.belongsInside = false := by
  cases reads <;> exact ⟨rfl, rfl⟩

theorem Exchange.Describes.plain {exchange : Exchange} (describes : exchange.Describes statement layout) :
    exchange.call.isBoundary = false ∧ exchange.call.belongsInside = false := by
  cases describes <;> exact ⟨rfl, rfl⟩

namespace Leaf.Carried

variable {leaf : Leaf} {exchanges : List Exchange} {result : Outcome leaf.Answer}

theorem disciplined (carried : leaf.Carried exchanges result) (connection : κ) :
    Disciplined (exchanges.map fun exchange => (connection, exchange)) := by
  cases carried with
  | update statement count => exact disciplined_one rfl connection
  | query reads => exact disciplined_one reads.plain.2 connection
  | queryOne reads => exact disciplined_one reads.plain.2 connection
  | queryIterable reads => exact disciplined_one reads.plain.2 connection
  | queryMeta describes => exact disciplined_one describes.plain.2 connection
  | unbegun statement column failure => exact disciplined_one rfl connection
  | kept statement column row committed => exact disciplined_three rfl statement column _ connection
  | takenBack statement column failure undone => exact disciplined_three rfl statement column _ connection
  | beginPanicked statement column panic => exact disciplined_one rfl connection
  | statementPanicked statement column panic => exact disciplined_two rfl connection

/-- A leaf that ends well leaves no transaction open. -/
theorem settled (carried : leaf.Carried exchanges result) (successful : result.isOk) (connection : κ) :
    Settled (exchanges.map fun exchange => (connection, exchange)) := by
  cases carried with
  | update statement count => exact settled_one rfl connection
  | query reads => exact settled_one reads.plain.1 connection
  | queryOne reads => exact settled_one reads.plain.1 connection
  | queryIterable reads => exact settled_one reads.plain.1 connection
  | queryMeta describes => exact settled_one describes.plain.1 connection
  | kept statement column row committed =>
    cases committed with
    | ok => exact settled_kept statement column _ connection
    | failed failure => cases successful
    | panicked panic => cases successful
  | takenBack statement column failure undone => cases undone <;> cases successful
  | unbegun => cases successful
  | beginPanicked => cases successful
  | statementPanicked => cases successful

end Leaf.Carried

/-- All that is said in a run is disciplined: each leaf that has another after it leaves all settled. -/
theorem Course.Served.disciplined {service : Service σ κ} (sound : service.Sound) {course : Course α}
    (served : course.Served service state turns outcome later) : Disciplined (turns.flatMap Turn.said) := by
  induction served with
  | done outcome state => exact disciplined_nil
  | @reach state talk middle turns outcome later leaf result next first rest ih =>
    rw [List.flatMap_cons]
    cases talk with
    | none =>
      cases rest.of_unsuccessful (sound.refused first)
      exact disciplined_nil
    | some talk =>
      have carried := sound.carried first
      cases successful : result.isOk with
      | true => exact (carried.disciplined talk.connection).append (carried.settled successful talk.connection) ih
      | false =>
        cases rest.of_unsuccessful successful
        exact (List.append_nil _).symm ▸ carried.disciplined talk.connection

end SqlProgram
