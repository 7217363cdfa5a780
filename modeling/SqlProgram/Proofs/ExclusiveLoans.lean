import SqlProgram.Proofs.HeldConnections
import SqlProgram.Proofs.SharedBackend

/-!
Loans that do not overlap. If no connection is handed out that is still on loan, and each run uses nothing but what it
has on loan, then no connection is held by two runs.
-/

namespace SqlProgram

/-- No connection is handed out that is still on loan. -/
def Exclusive (entries : List (Entry κ)) : Prop :=
  ∀ before connection after, entries = before ++ .acquired connection :: after → ¬ OnLoan connection before

theorem not_onLoan_nil (connection : κ) : ¬ OnLoan connection [] := by
  rintro ⟨before, entry, after, split, _⟩
  cases before <;> cases split

namespace Exclusive

variable {entries after : List (Entry κ)} {entry : Entry κ}

theorem nil : Exclusive ([] : List (Entry κ)) := by
  intro before connection after split
  cases before <;> cases split

theorem before (exclusive : Exclusive (entries ++ after)) : Exclusive entries := by
  rintro before connection rest rfl
  exact exclusive before connection (rest ++ after) (by simp)

theorem snoc_iff : Exclusive (entries ++ [entry]) ↔
    Exclusive entries ∧ ∀ connection, entry = .acquired connection → ¬ OnLoan connection entries := by
  constructor
  · intro exclusive
    refine ⟨exclusive.before, ?_⟩
    rintro connection rfl
    exact exclusive entries connection [] rfl
  · intro ⟨exclusive, fresh⟩ before connection after split
    obtain ⟨rfl, rfl, rfl⟩ | ⟨rest, rfl, earlier⟩ := snoc_split split
    · exact fresh connection rfl
    · exact exclusive before connection rest earlier

section Decide

variable [DecidableEq κ]

def lentAfter (lent : List κ) : Entry κ → List κ
  | .acquired connection => connection :: lent
  | .released connection | .discarded connection => lent.filter (· ≠ connection)
  | _ => lent

def isFresh (lent : List κ) : Entry κ → Bool
  | .acquired connection => connection ∉ lent
  | _ => true

def allows (lent : List κ) : List (Entry κ) → Bool
  | [] => true
  | entry :: entries => isFresh lent entry && allows (lentAfter lent entry) entries

variable {lent : List κ}

theorem mem_lentAfter (known : ∀ connection, OnLoan connection entries ↔ connection ∈ lent) (connection : κ) :
    OnLoan connection (entries ++ [entry]) ↔ connection ∈ lentAfter lent entry := by
  rw [OnLoan, since_snoc, ← OnLoan, known]
  cases entry with
  | acquired other =>
    rw [lentAfter, List.mem_cons]
    constructor
    · exact Or.imp (fun same => (Entry.acquired.inj same).symm) And.left
    · exact Or.imp (fun same => congrArg Entry.acquired same.symm) fun earlier => ⟨earlier, id⟩
  | released other | discarded other =>
    have turned : other = connection ↔ connection = other := eq_comm
    simp [lentAfter, Entry.Returns, turned]
  | _ => simp [lentAfter, Entry.Returns]

theorem isFresh_iff (known : ∀ connection, OnLoan connection entries ↔ connection ∈ lent) :
    isFresh lent entry ↔ ∀ connection, entry = .acquired connection → ¬ OnLoan connection entries := by
  cases entry with
  | acquired other =>
    simp only [isFresh, decide_eq_true_eq, Entry.acquired.injEq, forall_eq', known]
  | _ => simp [isFresh]

theorem append_iff (known : ∀ connection, OnLoan connection entries ↔ connection ∈ lent)
    (exclusive : Exclusive entries) : Exclusive (entries ++ after) ↔ allows lent after := by
  induction after generalizing entries lent with
  | nil => simp [allows, exclusive]
  | cons entry after ih =>
    rw [List.append_cons, allows, Bool.and_eq_true, isFresh_iff known]
    constructor
    · intro whole
      exact ⟨(snoc_iff.mp whole.before).2, (ih (mem_lentAfter known) whole.before).mp whole⟩
    · intro ⟨fresh, rest⟩
      exact (ih (mem_lentAfter known) (snoc_iff.mpr ⟨exclusive, fresh⟩)).mpr rest

instance (entries : List (Entry κ)) : Decidable (Exclusive entries) :=
  decidable_of_iff (allows [] entries = true) (append_iff (fun connection => by simp [not_onLoan_nil]) nil).symm

end Decide

end Exclusive

section Apart

variable {ι : Type} [DecidableEq ι] {said : List (ι × Entry κ)}

/-- No connection is held by two runs, and the backend knows of every loan. -/
structure Apart (said : List (ι × Entry κ)) : Prop where
  alone : ∀ run other connection, OnLoan connection (own run said) → OnLoan connection (own other said) → run = other
  known : ∀ run connection, OnLoan connection (own run said) → OnLoan connection (said.map Prod.snd)

theorem apart_nil : Apart ([] : List (ι × Entry κ)) where
  alone _ _ connection held := absurd held (not_onLoan_nil connection)
  known _ connection held := absurd held (not_onLoan_nil connection)

theorem Apart.only {run speaker : ι} {entry : Entry κ} {connection : κ} (apart : Apart said)
    (fresh : ∀ connection, entry = .acquired connection → ¬ OnLoan connection (said.map Prod.snd))
    (held : OnLoan connection (own run said)) (now : OnLoan connection (own speaker said ++ [entry])) :
    run = speaker := by
  rw [OnLoan, since_snoc] at now
  rcases now with handed | ⟨before, _⟩
  · exact absurd (apart.known run connection held) (fresh connection handed)
  · exact apart.alone run speaker connection held before

theorem Apart.snoc {speaker : ι} {entry : Entry κ} (apart : Apart said)
    (fresh : ∀ connection, entry = .acquired connection → ¬ OnLoan connection (said.map Prod.snd))
    (uses : ∀ connection, entry.Uses connection → OnLoan connection (own speaker said)) :
    Apart (said ++ [(speaker, entry)]) := by
  constructor
  · intro run other connection first second
    by_cases same : speaker = run
    · by_cases also : speaker = other
      · exact same.symm.trans also
      · subst same
        rw [own_snoc_self] at first
        rw [own_snoc_other also] at second
        exact (apart.only fresh second first).symm
    · rw [own_snoc_other same] at first
      by_cases also : speaker = other
      · subst also
        rw [own_snoc_self] at second
        exact apart.only fresh first second
      · rw [own_snoc_other also] at second
        exact apart.alone run other connection first second
  · intro run connection held
    rw [List.map_append, List.map_singleton, OnLoan, since_snoc]
    by_cases same : speaker = run
    · subst same
      rw [own_snoc_self, OnLoan, since_snoc] at held
      rcases held with handed | ⟨before, kept⟩
      · exact .inl handed
      · exact .inr ⟨apart.known _ connection before, kept⟩
    · rw [own_snoc_other same] at held
      refine .inr ⟨apart.known run connection held, fun returns => same ?_⟩
      exact (apart.alone run speaker connection held (uses connection returns.uses)).symm

/-- Each run is faithful in what it recorded. -/
def Faithful (said : List (ι × Entry κ)) : Prop := ∀ run, Reactive.Faithful (own run said)

namespace Faithful

variable {earlier after : List (ι × Entry κ)}

theorem before (faithful : Faithful (said ++ after)) : Faithful said := by
  intro run
  have whole := faithful run
  rw [own_append] at whole
  exact whole.before

theorem onLoan {run : ι} {entry : Entry κ} {connection : κ} (faithful : Faithful (earlier ++ (run, entry) :: after))
    (uses : entry.Uses connection) : OnLoan connection (own run earlier) := by
  have whole := faithful run
  rw [own_append, own_cons_self] at whole
  exact whole.onLoan uses

/-- If nothing is handed out twice, no two runs hold the same. -/
theorem apart (faithful : Faithful said) (exclusive : Exclusive (said.map Prod.snd)) : Apart said := by
  induction said using List.reverseRecOn with
  | nil => exact apart_nil
  | append_singleton said spoken ih =>
    have kept : Faithful said := faithful.before
    rw [List.map_append] at exclusive
    refine (ih kept exclusive.before).snoc ?_ fun connection uses => Faithful.onLoan faithful uses
    intro connection handed
    exact exclusive _ connection [] (by rw [← handed]; rfl)

/-- From a begin until the transaction is closed, the connection stays with the run, and the run with its leaf. -/
theorem begun {run : ι} {connection : κ} {middle : List (ι × Entry κ)}
    (faithful : Faithful (earlier ++ (run, .called connection .begin) :: middle))
    (opened : ∀ spoken ∈ middle, ¬ spoken.2.Closes connection) :
    OnLoan connection (own run (earlier ++ (run, .called connection .begin) :: middle)) ∧
      ∀ entry ∈ own run middle, entry.isLeaf = false := by
  have whole := faithful run
  rw [own_append, own_cons_self] at whole ⊢
  exact whole.begun fun entry member => opened (run, entry) (mem_own.mp member)

end Faithful

end Apart

end SqlProgram
