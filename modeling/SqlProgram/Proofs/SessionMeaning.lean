import SqlProgram.Proofs.ProgramMeaning

/-!
Sessions in general, and what each program does to each of them. Programs put together are run one
after the other: with the same requests in the same order, up to the first failure.
-/

namespace SqlProgram

/-- Whoever answers the requests of programs. To a request that is never answered there is no
outcome. -/
structure Session (σ : Type) where
  answer : (request : Request) → σ → Option (Outcome request.Answer) × σ
  tell : Event → σ → σ

structure Interpretation (σ α : Type) where
  outcome : Option (Outcome α)
  requests : List Request
  state : σ

namespace Interpretation

def after (request : Request) (later : Interpretation σ α) : Interpretation σ α :=
  { later with requests := request :: later.requests }

/-- Another interpretation after this one, from its value and its state. Without a value it is never
begun. -/
def andThen (first : Interpretation σ α) (next : α → σ → Interpretation σ β) : Interpretation σ β :=
  match first.outcome with
  | some (.ok value) =>
    let second := next value first.state
    { second with requests := first.requests ++ second.requests }
  | some (.failed failure) => ⟨some (.failed failure), first.requests, first.state⟩
  | some (.panicked panic) => ⟨some (.panicked panic), first.requests, first.state⟩
  | none => ⟨none, first.requests, first.state⟩

def withOutcome (f : Outcome α → Outcome β) (first : Interpretation σ α) : Interpretation σ β :=
  ⟨first.outcome.map f, first.requests, first.state⟩

theorem after_andThen (request : Request) (first : Interpretation σ α)
    (next : α → σ → Interpretation σ β) :
    (first.after request).andThen next = (first.andThen next).after request := by
  obtain ⟨outcome, requests, state⟩ := first
  cases outcome with
  | none => rfl
  | some outcome => cases outcome <;> rfl

theorem andThen_done (first : Interpretation σ α) (f : α → Outcome β) :
    (first.andThen fun value state => ⟨some (f value), [], state⟩) = first.withOutcome (·.bind f) := by
  obtain ⟨outcome, requests, state⟩ := first
  cases outcome with
  | none => rfl
  | some outcome =>
    cases outcome with
    | ok value => simp [andThen, withOutcome, Outcome.bind]
    | failed failure => rfl
    | panicked panic => rfl

theorem andThen_map (first : Interpretation σ α) (f : α → β) :
    (first.andThen fun value state => ⟨some (.ok (f value)), [], state⟩) = first.withOutcome (·.map f) := by
  have same : (fun outcome : Outcome α => outcome.bind fun value => .ok (f value)) = (·.map f) := by
    funext outcome
    cases outcome <;> rfl
  rw [first.andThen_done fun value => .ok (f value), same]

end Interpretation

namespace Session

def hold (session : Session σ) : Dialogue α → σ → Interpretation σ α
  | .done outcome, state => ⟨some outcome, [], state⟩
  | .note event next, state => session.hold next (session.tell event state)
  | .ask request next, state =>
    match session.answer request state with
    | (some (.ok answer), state) => (session.hold (next (.ok answer)) state).after request
    | (some (.failed failure), state) => (session.hold (next (.error failure)) state).after request
    | (some (.panicked panic), state) => ⟨some (.panicked panic), [request], state⟩
    | (none, state) => ⟨none, [request], state⟩

def interpret (session : Session σ) (program : Program α) (state : σ) : Interpretation σ α :=
  session.hold program.dialogue state

theorem hold_bind (session : Session σ) (first : Dialogue α) (next : α → Dialogue β) (state : σ) :
    session.hold (first.bind next) state =
      (session.hold first state).andThen fun value => session.hold (next value) := by
  induction first generalizing state with
  | done outcome => cases outcome <;> rfl
  | note event rest ih => exact ih (session.tell event state)
  | ask request rest ih =>
    simp only [Dialogue.bind, hold]
    cases answered : session.answer request state with
    | mk outcome later =>
      cases outcome with
      | none => rfl
      | some outcome =>
        cases outcome with
        | ok answer => simp only [ih, Interpretation.after_andThen]
        | failed failure => simp only [ih, Interpretation.after_andThen]
        | panicked panic => rfl

theorem interpret_bind (session : Session σ) (program : Program α) (next : α → Program β) (state : σ) :
    session.interpret (program.bind next) state =
      (session.interpret program state).andThen fun value => session.interpret (next value) := by
  rw [interpret, Program.dialogue_bind, hold_bind]
  rfl

theorem interpret_pure (session : Session σ) (value : α) (state : σ) :
    session.interpret (.pure value) state = ⟨some (.ok value), [], state⟩ := by
  rw [interpret, Program.dialogue_eq_meaning]
  rfl

theorem interpret_ofOutcome (session : Session σ) (outcome : Outcome α) (state : σ) :
    session.interpret (.ofOutcome outcome) state = ⟨some outcome, [], state⟩ := by
  rw [interpret, Program.dialogue_eq_meaning]
  cases outcome <;> rfl

end Session

namespace Program

/-- Programs that no session can tell apart: they end alike after the same requests in the same
order. -/
def Same (first second : Program α) : Prop :=
  ∀ {σ : Type} (session : Session σ) (state : σ),
    session.interpret first state = session.interpret second state

theorem Same.of_dialogue {first second : Program α} (equal : first.dialogue = second.dialogue) :
    first.Same second := by
  intro σ session state
  rw [Session.interpret, equal]
  rfl

theorem same_pure_bind (value : α) (next : α → Program β) : ((pure value).bind next).Same (next value) := by
  apply Same.of_dialogue
  rw [dialogue_bind, dialogue_eq_meaning (pure value)]
  rfl

theorem same_bind_pure (program : Program α) : (program.bind pure).Same program := by
  apply Same.of_dialogue
  rw [dialogue_bind]
  have ends : (fun value : α => (pure value).dialogue) = fun value => .done (.ok value) := by
    funext value
    rw [dialogue_eq_meaning]
    rfl
  rw [ends, Dialogue.bind_done]

theorem same_bind_bind (program : Program α) (next : α → Program β) (last : β → Program γ) :
    ((program.bind next).bind last).Same (program.bind fun value => (next value).bind last) := by
  apply Same.of_dialogue
  simp only [dialogue_bind, Dialogue.bind_assoc]

theorem Same.bind {first second : Program α} {next last : α → Program β}
    (heads : first.Same second) (tails : ∀ value, (next value).Same (last value)) :
    (first.bind next).Same (second.bind last) := by
  intro σ session state
  have later : (fun value => session.interpret (next value)) = fun value => session.interpret (last value) := by
    funext value state
    exact tails value session state
  rw [session.interpret_bind, session.interpret_bind, heads session state, later]

theorem same_suspend (body : Unit → Program α) : (suspend body).Same (body ()) := by
  apply Same.of_dialogue
  rw [dialogue_eq_meaning, dialogue_eq_meaning]
  rfl

/-- To every session a chain of programs means its parts, one after the other up to the first
failure, however it was put together. -/
theorem interpret_compositional (session : Session σ) (state : σ) (program : Program α) (second : Program β)
    (next : α → Program β) (last : β → Program γ) (change : α → β) (read : α → Outcome β) :
    (session.interpret (program.bind next) state =
        (session.interpret program state).andThen fun value => session.interpret (next value)) ∧
      (session.interpret (program.andThen second) state =
        (session.interpret program state).andThen fun _ => session.interpret second) ∧
      session.interpret (program.map change) state =
        (session.interpret program state).withOutcome (·.map change) ∧
      session.interpret (program.tryMap read) state =
        (session.interpret program state).withOutcome (·.bind read) ∧
      (∀ failure, session.interpret ((fail failure).bind next) state = ⟨some (.failed failure), [], state⟩) ∧
      (∀ body, (suspend body).Same (body ()) ∧ ((suspend body).bind next).Same ((body ()).bind next)) ∧
      (∀ value, ((pure value).bind next).Same (next value)) ∧
      (program.bind pure).Same program ∧
      ((program.bind next).bind last).Same (program.bind fun value => (next value).bind last) ∧
      ∀ (other : Program α) (rest : α → Program β), program.Same other →
        (∀ value, (next value).Same (rest value)) → (program.bind next).Same (other.bind rest) := by
  refine ⟨session.interpret_bind program next state, ?_, ?_, ?_, ?_, ?_, fun value => same_pure_bind value next,
    same_bind_pure program, same_bind_bind program next last, fun _ _ heads tails => heads.bind tails⟩
  · exact session.interpret_bind program (fun _ => second) state
  · have ends : (fun value => session.interpret (pure (change value))) =
        fun value state => ⟨some (.ok (change value)), [], state⟩ := by
      funext value state
      exact session.interpret_pure (change value) state
    rw [map, session.interpret_bind, ends, Interpretation.andThen_map]
  · have ends : (fun value => session.interpret (ofOutcome (read value))) =
        fun value state => ⟨some (read value), [], state⟩ := by
      funext value state
      exact session.interpret_ofOutcome (read value) state
    rw [tryMap, session.interpret_bind, ends, Interpretation.andThen_done]
  · intro failure
    exact session.interpret_ofOutcome (.failed failure) state
  · intro body
    exact ⟨same_suspend body, Same.bind (same_suspend body) fun _ _ _ _ => rfl⟩

/-- The last of three programs is not begun if the second fails, and a description put off may stand
for what it describes. -/
theorem interpret_compositional_failure :
    let statement : Statement := ⟨"update t set n = 1", []⟩
    let session : Session Nat := {
      answer := fun request count => match request with
        | .update _ => (some (.ok count), count + 1)
        | _ => (some (.failed (.backend "busy")), count + 1)
      tell := fun _ count => count }
    let first : Program Nat := .suspend fun _ => updateCount statement
    let next (count : Nat) : Program Nat := query statement fun _ => .ok count
    let last (count : Nat) : Program Nat := (updateCount statement).map (count + ·)
    session.interpret ((first.bind next).bind last) 7 =
        ⟨some (.failed (.backend "busy")), [.update statement, .query statement], 9⟩ ∧
      (first.bind next).Same ((updateCount statement).bind next) := by
  intro statement session first next last
  have chained := (interpret_compositional session 7 (first.bind next) (.pure 0) last last id .ok).1
  obtain ⟨begun, _, _, _, _, _, _, _, _, kept⟩ :=
    interpret_compositional session 7 first (.pure 0) next last id .ok
  have described : first.Same (updateCount statement) := same_suspend _
  have changed : session.interpret (updateCount statement) 7 = ⟨some (.ok 7), [.update statement], 8⟩ := by
    rw [Session.interpret, dialogue_eq_meaning]
    rfl
  have refused : session.interpret (next 7) 8 =
      ⟨some (.failed (.backend "busy")), [.query statement], 9⟩ := by
    rw [Session.interpret, dialogue_eq_meaning]
    rfl
  refine ⟨?_, kept (updateCount statement) next described fun _ _ _ _ => rfl⟩
  rw [chained, begun, described, changed]
  simp only [Interpretation.andThen, refused]
  rfl

end Program

end SqlProgram
