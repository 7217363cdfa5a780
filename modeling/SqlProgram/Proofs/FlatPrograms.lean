import SqlProgram.Program.Basic

/-!
Programs that are put together stay flat: however they were extended, the part that runs first is one step away, and
every extension waits in one queue behind it.
-/

namespace SqlProgram

/-- One way to go on after a program. -/
inductive Extension (α : Type) : Type → Type 1 where
  | bind (next : α → Program β) : Extension α β
  | andThen (second : Program β) : Extension α β
  | map (f : α → β) : Extension α β
  | tryMap (f : α → Outcome β) : Extension α β

inductive Extensions (α : Type) : Type → Type 1 where
  | none : Extensions α α
  | snoc (earlier : Extensions α β) (last : Extension β γ) : Extensions α γ

namespace Extension

def apply (program : Program α) : Extension α β → Program β
  | .bind next => program.bind next
  | .andThen second => program.andThen second
  | .map f => program.map f
  | .tryMap f => program.tryMap f

def next : Extension α β → α → Program β
  | .bind next => next
  | .andThen second => fun _ => second
  | .map f => fun value => .pure (f value)
  | .tryMap f => fun value => .ofOutcome (f value)

theorem apply_eq_bind (extension : Extension α β) (program : Program α) :
    extension.apply program = program.bind extension.next := by
  cases extension <;> rfl

end Extension

namespace Extensions

def length : Extensions α β → Nat
  | .none => 0
  | .snoc earlier _ => earlier.length + 1

def apply (program : Program α) : Extensions α β → Program β
  | .none => program
  | .snoc earlier last => last.apply (earlier.apply program)

end Extensions

namespace Program

def isFail : Program α → Bool
  | .fail _ => true
  | _ => false

def isQueued : Program α → Bool
  | .queued .. => true
  | _ => false

/-- What stands in front of the queue, if there is one. -/
def head : Program α → (β : Type) × Program β
  | .queued head _ => ⟨_, head⟩
  | program => ⟨_, program⟩

/-- What runs first, however deep it lies. -/
def first : Program α → (β : Type) × Program β
  | .queued head _ => head.first
  | program => ⟨_, program⟩

/-- A queue is not empty, and neither another queue nor a failure stands in front of it. -/
def IsFlat (program : Program α) : Prop :=
  program.isQueued = true →
    program.head.2.isQueued = false ∧ program.head.2.isFail = false ∧ 0 < program.pending

/-- Programs that are put together. What functions yield when they are called may be any programs. -/
inductive Built : {α : Type} → Program α → Prop where
  | pure (value : α) : Built (.pure value)
  | fail (failure : Failure) : Built (.fail failure : Program α)
  | suspend (body : Unit → Program α) : Built (.suspend body)
  | step (leaf : Leaf) (read : leaf.Answer → Outcome α) : Built (.step leaf read)
  | extended {program : Program α} (built : Built program) (extension : Extension α β) :
      Built (extension.apply program)

theorem isFlat_bind {program : Program α} (flat : program.IsFlat) (next : α → Program β) :
    (program.bind next).IsFlat := by
  intro queued
  cases program with
  | fail failure => cases queued
  | queued head queue =>
    obtain ⟨single, running, _⟩ := flat rfl
    exact ⟨single, running, Nat.succ_pos _⟩
  | _ => exact ⟨rfl, rfl, Nat.one_pos⟩

theorem Built.isFlat {program : Program α} (built : program.Built) : program.IsFlat := by
  induction built with
  | extended _ extension ih =>
    rw [extension.apply_eq_bind]
    exact isFlat_bind ih extension.next
  | _ => exact nofun

theorem bind_grows {program : Program α} (running : program.isFail = false) (next : α → Program β) :
    (program.bind next).isFail = false ∧ (program.bind next).head = program.head ∧
      (program.bind next).pending = program.pending + 1 := by
  cases program with
  | fail failure => cases running
  | _ => exact ⟨rfl, rfl, rfl⟩

/-- Extensions make the queue longer by as many as they are. -/
theorem extensions_grow {program : Program α} (running : program.isFail = false) (extensions : Extensions α β) :
    (extensions.apply program).isFail = false ∧ (extensions.apply program).head = program.head ∧
      (extensions.apply program).pending = program.pending + extensions.length := by
  induction extensions with
  | none => exact ⟨running, rfl, rfl⟩
  | snoc earlier last ih =>
    obtain ⟨still, same, grown⟩ := ih
    obtain ⟨further, kept, longer⟩ := bind_grows still last.next
    rw [Extensions.apply, last.apply_eq_bind, Extensions.length]
    refine ⟨further, kept.trans same, ?_⟩
    rw [longer, grown, Nat.add_assoc]

theorem extensions_fail (failure : Failure) (extensions : Extensions α β) :
    extensions.apply (.fail failure) = .fail failure := by
  induction extensions with
  | none => rfl
  | snoc earlier last ih =>
    rw [Extensions.apply, ih, last.apply_eq_bind]
    rfl

theorem IsFlat.first_eq_head {program : Program α} (flat : program.IsFlat) : program.first = program.head := by
  cases program with
  | queued head queue =>
    have single := (flat rfl).1
    cases head with
    | queued => cases single
    | _ => rfl
  | _ => rfl

theorem describe_eq_some_iff {program : Program α} {leaf : Leaf} :
    program.describe = some leaf ↔ ∃ β read, program.head = ⟨β, .step leaf read⟩ := by
  cases program with
  | step own read =>
    constructor
    · intro same
      cases same
      exact ⟨_, read, rfl⟩
    · intro ⟨β, other, same⟩
      cases same
      rfl
  | queued head queue =>
    cases head with
    | step own read =>
      constructor
      · intro same
        cases same
        exact ⟨_, read, rfl⟩
      · intro ⟨β, other, same⟩
        cases same
        rfl
    | _ => exact ⟨nofun, fun ⟨_, _, same⟩ => nomatch same⟩
  | _ => exact ⟨nofun, fun ⟨_, _, same⟩ => nomatch same⟩

end Program

end SqlProgram
