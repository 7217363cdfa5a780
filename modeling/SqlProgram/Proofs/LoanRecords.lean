import Mathlib.Data.List.Induction
import SqlProgram.Proofs.JobRules

/-!
What is recorded of a connection on loan, and that the mark on a lease tells whether a transaction
may still be open.
-/

namespace SqlProgram

inductive Use where
  | asked (call : Call)
  | answered (call : Call) (succeeded : Bool)

namespace Use

def entry (connection : κ) : Use → Entry κ
  | .asked call => .called connection call
  | .answered call succeeded => .answered connection call succeeded

def begins : Use → Bool
  | .asked .begin => true
  | _ => false

def settles : Use → Bool
  | .answered .commit true | .answered .rollback true => true
  | _ => false

/-- Some begin was attempted, and the last one was not followed by a commit or a rollback that
succeeded. -/
def Unsettled (uses : List Use) : Prop :=
  ∃ before after, uses = before ++ .asked .begin :: after ∧
    ∀ use ∈ after, use.begins = false ∧ use.settles = false

theorem eq_begin {use : Use} (begins : use.begins = true) : use = .asked .begin := by
  unfold Use.begins at begins
  split at begins
  · rfl
  · cases begins

theorem not_unsettled_nil : ¬ Unsettled [] := by
  rintro ⟨before, after, split, _⟩
  cases before <;> cases split

theorem unsettled_append (uses : List Use) (use : Use) :
    Unsettled (uses ++ [use]) ↔ use.begins = true ∨ (Unsettled uses ∧ use.settles = false) := by
  constructor
  · rintro ⟨before, after, split, calm⟩
    obtain ⟨_, rfl, rfl⟩ | ⟨rest, rfl, same⟩ := snoc_split split
    · exact .inl rfl
    · refine .inr ⟨⟨before, rest, same, fun other member => ?_⟩, ?_⟩
      · exact calm other (by simp [member])
      · exact (calm use (by simp)).2
  · rintro (begins | ⟨⟨before, after, split, calm⟩, unsettled⟩)
    · cases eq_begin begins
      exact ⟨uses, [], rfl, fun _ member => nomatch member⟩
    · cases begins : use.begins with
      | true =>
        cases eq_begin begins
        exact ⟨uses, [], rfl, fun _ member => nomatch member⟩
      | false =>
        refine ⟨before, after ++ [use], by rw [split, List.append_assoc]; rfl, fun other member => ?_⟩
        rcases List.mem_append.mp member with inside | last
        · exact calm other inside
        · cases List.mem_singleton.mp last
          exact ⟨begins, unsettled⟩

end Use

def Lease.used (lease : Lease κ) (use : Use) : Lease κ :=
  { lease with dirty := use.begins || (lease.dirty && !use.settles) }

theorem Lease.used_neutral (lease : Lease κ) {use : Use} (begins : use.begins = false)
    (settles : use.settles = false) : lease.used use = lease := by
  simp [Lease.used, begins, settles]

theorem Lease.used_settling (lease : Lease κ) {use : Use} (settles : use.settles = true) :
    lease.used use = { lease with dirty := false } := by
  have begins : use.begins = false := by
    cases use with
    | asked call => cases settles
    | answered call succeeded => rfl
  simp [Lease.used, begins, settles]

def Lease.afterAll (connection : κ) (uses : List Use) : Lease κ :=
  uses.foldl Lease.used ⟨connection, false⟩

theorem Lease.afterAll_append (connection : κ) (uses : List Use) (use : Use) :
    afterAll connection (uses ++ [use]) = (afterAll connection uses).used use := by
  simp only [afterAll, List.foldl_append, List.foldl_cons, List.foldl_nil]

theorem Lease.afterAll_connection (connection : κ) (uses : List Use) :
    (afterAll connection uses).connection = connection := by
  induction uses using List.reverseRecOn with
  | nil => rfl
  | append_singleton uses use ih => exact (congrArg Lease.connection (afterAll_append ..)).trans ih

/-- The mark on a lease tells what the history of its connection says. -/
theorem Lease.afterAll_dirty (connection : κ) (uses : List Use) :
    (afterAll connection uses).dirty = true ↔ Use.Unsettled uses := by
  -- From the end: the last begin decides, and what came before it is of no account.
  induction uses using List.reverseRecOn with
  | nil =>
    constructor
    · intro impossible
      cases impossible
    · exact fun impossible => absurd impossible Use.not_unsettled_nil
  | append_singleton uses use ih =>
    rw [afterAll_append, Use.unsettled_append, ← ih]
    simp [Lease.used]

theorem Lease.isConnection_farewell (lease : Lease κ) : lease.farewell.isConnection = true := by
  unfold Lease.farewell
  split <;> rfl

/-- A connection from where it is handed out to where it goes back. -/
structure Loan (κ : Type) where
  connection : κ
  uses : List Use
  discarded : Bool
  fair : discarded = true ↔ Use.Unsettled uses

def Loan.entries (loan : Loan κ) : List (Entry κ) :=
  .acquired loan.connection :: (loan.uses.map (Use.entry loan.connection) ++
    [if loan.discarded then .discarded loan.connection else .released loan.connection])

def Loan.entriesOf : Option (Loan κ) → List (Entry κ)
  | none => []
  | some loan => loan.entries

theorem Loan.of_lease (connection : κ) (uses : List Use) :
    ∃ loan : Loan κ, loan.entries =
      .acquired connection :: (uses.map (Use.entry connection) ++ [(Lease.afterAll connection uses).farewell]) := by
  refine ⟨⟨connection, uses, (Lease.afterAll connection uses).dirty, Lease.afterAll_dirty connection uses⟩, ?_⟩
  simp only [Loan.entries, Lease.farewell, Lease.afterAll_connection]

/-- A rule that lets a connection be used and given back in the states of a loan. -/
structure Rule.Lends (rule : Rule κ S) (lent : Lease κ → S) (returned : S) : Prop where
  used : ∀ lease use, rule.Step (lent lease) (Use.entry lease.connection use) (lent (lease.used use))
  farewell : ∀ lease, rule.Step (lent lease) lease.farewell returned
  finished : rule.Over returned

namespace Rule.Lends

variable {rule : Rule κ S} {lent : Lease κ → S} {returned : S}

theorem drops (lends : rule.Lends lent returned) (lease : Lease κ) : rule.Drops (lent lease) (.lease lease) :=
  ⟨returned, .one (lends.farewell lease), lends.finished⟩

theorem obeys_giveBack (lends : rule.Lends lent returned) (lease : Lease κ) {next : Job κ α}
    (obeys : next.Obeys rule returned) : (Job.giveBack lease next).Obeys rule (lent lease) :=
  ⟨returned, .one (lends.farewell lease), obeys⟩

theorem obeys_request (lends : rule.Lends lent returned) {before lease : Lease κ} {call : Call}
    {next : Except Failure call.Answer → Job κ α} (asked : before.used (.asked call) = lease)
    (answered : ∀ answer, (next (.ok answer)).Obeys rule (lent (lease.used (.answered call true))))
    (refused : ∀ failure, (next (.error failure)).Obeys rule (lent lease)) :
    (Job.request lease call next).Obeys rule (lent before) := by
  subst asked
  have failed : (before.used (.asked call)).used (.answered call false) = before.used (.asked call) :=
    Lease.used_neutral _ rfl (by cases call <;> rfl)
  refine Job.obeys_request (lends.used before (.asked call)) (lends.drops _) (fun answer => ?_) ?_
  · exact ⟨_, lends.used _ (.answered call true), answered answer⟩
  · have step := lends.used (before.used (.asked call)) (.answered call false)
    rw [failed] at step
    exact ⟨_, step, lends.drops _, refused⟩

theorem obeys_plain (lends : rule.Lends lent returned) (lease : Lease κ) (call : Call)
    {next : Except Failure call.Answer → Job κ α} (asked : Use.begins (.asked call) = false)
    (settled : Use.settles (.answered call true) = false)
    (later : ∀ answer, (next answer).Obeys rule (lent lease)) :
    (Job.request lease call next).Obeys rule (lent lease) := by
  refine lends.obeys_request (lease.used_neutral asked rfl) (fun answer => ?_) fun failure => later (.error failure)
  rw [lease.used_neutral rfl settled]
  exact later (.ok answer)

end Rule.Lends

end SqlProgram
