/-!
Truth values as they are written and read: words between operands, and parentheses. A reader takes parentheses first,
then `not`, then `and`, then `or`, and what an operand says is of no concern to it. A text has at most one reading.
-/

namespace SqlProgram

/-- A truth value put together from operands of some kind. -/
inductive Formula (α : Type) where
  | atom (name : α)
  | not (operand : Formula α)
  | and (left right : Formula α)
  | or (left right : Formula α)

namespace Formula

variable {α : Type}

def value (truth : α → Bool) : Formula α → Bool
  | .atom name => truth name
  | .not operand => !operand.value truth
  | .and left right => left.value truth && right.value truth
  | .or left right => left.value truth || right.value truth

inductive Word (α : Type) where
  | atom (name : α)
  | not
  | and
  | or
  | opening
  | closing

inductive Level where
  | operand
  | conjunction
  | disjunction

/-- What a text says, by the precedence of its words. -/
inductive Reads : Level → List (Word α) → Formula α → Prop where
  | atom (name : α) : Reads .operand [.atom name] (.atom name)
  | enclosed {inner formula} : Reads .disjunction inner formula →
      Reads .operand (.opening :: (inner ++ [.closing])) formula
  | not {text operand} : Reads .operand text operand → Reads .operand (.not :: text) (.not operand)
  | operand {text formula} : Reads .operand text formula → Reads .conjunction text formula
  | and {first second left right} : Reads .conjunction first left → Reads .operand second right →
      Reads .conjunction (first ++ .and :: second) (.and left right)
  | conjunction {text formula} : Reads .conjunction text formula → Reads .disjunction text formula
  | or {first second left right} : Reads .disjunction first left → Reads .conjunction second right →
      Reads .disjunction (first ++ .or :: second) (.or left right)

/-! The reader goes over the words once and keeps what waits for the operand after it. -/

inductive Waiting (α : Type) where
  | not
  | and (left : Formula α)
  | or (left : Formula α)
  | enclosed

/-- What waits for an operand, the last one first, and the operand that was read last. -/
abbrev Reader (α : Type) := List (Waiting α) × Option (Formula α)

def negated : List (Waiting α) → Formula α → List (Waiting α) × Formula α
  | .not :: waiting, operand => negated waiting (.not operand)
  | waiting, operand => (waiting, operand)

def conjoined : List (Waiting α) → Formula α → List (Waiting α) × Formula α
  | .and left :: waiting, right => (waiting, .and left right)
  | waiting, operand => (waiting, operand)

def disjoined : List (Waiting α) → Formula α → List (Waiting α) × Formula α
  | .or left :: waiting, right => (waiting, .or left right)
  | waiting, operand => (waiting, operand)

/-- Everything that binds more tightly than a closing parenthesis. -/
def settled (waiting : List (Waiting α)) (last : Formula α) : List (Waiting α) × Formula α :=
  let (waiting, conjunction) := conjoined waiting last
  disjoined waiting conjunction

def took : List (Waiting α) × Formula α → Reader α
  | (waiting, operand) => (waiting, some operand)

def step : Reader α → Word α → Option (Reader α)
  | (waiting, none), .atom name => some (took (negated waiting (.atom name)))
  | (waiting, none), .not => some (.not :: waiting, none)
  | (waiting, none), .opening => some (.enclosed :: waiting, none)
  | (waiting, some last), .and =>
    let (waiting, left) := conjoined waiting last
    some (.and left :: waiting, none)
  | (waiting, some last), .or =>
    let (waiting, left) := settled waiting last
    some (.or left :: waiting, none)
  | (waiting, some last), .closing =>
    match settled waiting last with
    | (.enclosed :: waiting, inner) => some (took (negated waiting inner))
    | _ => none
  | _, _ => none

def Level.Bounds : Level → List (Waiting α) → Prop
  | .operand, _ => True
  | .conjunction, waiting => ∀ last, negated waiting last = (waiting, last) ∧ conjoined waiting last = (waiting, last)
  | .disjunction, waiting => ∀ last, negated waiting last = (waiting, last) ∧ conjoined waiting last = (waiting, last) ∧
      disjoined waiting last = (waiting, last)

def Level.Passes (waiting : List (Waiting α)) (text : List (Word α)) (formula : Formula α) : Level → Prop
  | .operand => text.foldlM step (waiting, none) = some (took (negated waiting formula))
  | .conjunction => ∃ now last, text.foldlM step (waiting, none) = some (now, some last) ∧
      conjoined now last = (waiting, formula)
  | .disjunction => ∃ now last, text.foldlM step (waiting, none) = some (now, some last) ∧
      settled now last = (waiting, formula)

theorem Level.bounds_enclosed (waiting : List (Waiting α)) : Level.disjunction.Bounds (.enclosed :: waiting) :=
  fun _ => ⟨rfl, rfl, rfl⟩

theorem Level.bounds_or (left : Formula α) (waiting : List (Waiting α)) :
    Level.conjunction.Bounds (.or left :: waiting) :=
  fun _ => ⟨rfl, rfl⟩

/-- By induction on the reading: after each part the reader holds what the part says. -/
theorem Reads.passes {level : Level} {text : List (Word α)} {formula : Formula α} (reads : Reads level text formula) :
    ∀ waiting, level.Bounds waiting → level.Passes waiting text formula := by
  induction reads with
  | atom name => exact fun _ _ => rfl
  | @enclosed inner formula _ ih =>
    intro waiting _
    obtain ⟨now, last, passed, held⟩ := ih (.enclosed :: waiting) (Level.bounds_enclosed waiting)
    have closes : step (now, some last) .closing = some (took (negated waiting formula)) := by simp only [step, held]
    have opens : step (waiting, none) (.opening : Word α) = some (.enclosed :: waiting, none) := rfl
    simp only [Level.Passes, List.foldlM_cons, List.foldlM_append, opens, Option.bind_eq_bind, Option.bind_some, passed,
      closes, List.foldlM_nil, pure]
  | not _ ih =>
    intro waiting _
    exact ih (.not :: waiting) trivial
  | @operand text formula _ ih =>
    intro waiting bounds
    have passed := ih waiting trivial
    rw [Level.Passes, (bounds formula).1] at passed
    exact ⟨waiting, formula, passed, (bounds formula).2⟩
  | @and first second left right _ _ before after =>
    intro waiting bounds
    obtain ⟨now, last, passed, held⟩ := before waiting bounds
    have joins : step (now, some last) .and = some (.and left :: waiting, none) := by simp only [step, held]
    refine ⟨.and left :: waiting, right, ?_, rfl⟩
    have operand : second.foldlM step (.and left :: waiting, none) = some (.and left :: waiting, some right) :=
      after (.and left :: waiting) trivial
    simp only [List.foldlM_append, passed, List.foldlM_cons, joins, operand, Option.bind_eq_bind, Option.bind_some]
  | @conjunction text formula _ ih =>
    intro waiting bounds
    obtain ⟨now, last, passed, held⟩ := ih waiting fun last => ⟨(bounds last).1, (bounds last).2.1⟩
    refine ⟨now, last, passed, ?_⟩
    simp only [settled, held, (bounds formula).2.2]
  | @or first second left right _ _ before after =>
    intro waiting bounds
    obtain ⟨now, last, passed, held⟩ := before waiting bounds
    have joins : step (now, some last) .or = some (.or left :: waiting, none) := by simp only [step, held]
    obtain ⟨later, final, rest, holds⟩ := after (.or left :: waiting) (Level.bounds_or left waiting)
    refine ⟨later, final, ?_, ?_⟩
    · simp only [List.foldlM_append, passed, List.foldlM_cons, joins, rest, Option.bind_eq_bind, Option.bind_some]
    · simp only [settled, holds, disjoined]

/-- No text of words has two readings. -/
theorem Reads.unique {text : List (Word α)} {one other : Formula α} (first : Reads .disjunction text one)
    (second : Reads .disjunction text other) : one = other := by
  have outermost : Level.disjunction.Bounds ([] : List (Waiting α)) := fun _ => ⟨rfl, rfl, rfl⟩
  obtain ⟨now, last, passed, held⟩ := first.passes [] outermost
  obtain ⟨later, final, again, holds⟩ := second.passes [] outermost
  rw [passed] at again
  cases again
  rw [held] at holds
  exact (Prod.mk.inj holds).2

end Formula

end SqlProgram
