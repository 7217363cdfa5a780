import SqlProgram.Proofs.LoanRecords

/-!
The accounts of a blocking run: its one connection goes back, however the run ends.
-/

namespace SqlProgram.Blocking

inductive Stage (κ : Type) where
  | unasked
  | asking
  | lent (lease : Lease κ)
  | returned

/-- One connection is asked for, and leaves are reached while it is on loan. -/
inductive Accounts : Stage κ → Entry κ → Stage κ → Prop where
  | asking : Accounts .unasked .acquiring .asking
  | acquired (connection : κ) : Accounts .asking (.acquired connection) (.lent ⟨connection, false⟩)
  | reached (lease : Lease κ) (leaf : Leaf) : Accounts (.lent lease) (.told (.running leaf)) (.lent lease)
  | used (lease : Lease κ) (use : Use) :
      Accounts (.lent lease) (use.entry lease.connection) (.lent (lease.used use))
  | farewell (lease : Lease κ) : Accounts (.lent lease) lease.farewell .returned

def Stage.IsOver : Stage κ → Prop
  | .asking | .returned => True
  | _ => False

def accounts : Rule κ (Stage κ) := ⟨Accounts, Stage.IsOver⟩

theorem lends : (accounts (κ := κ)).Lends .lent .returned := ⟨.used, .farewell, trivial⟩

theorem describe_obeys (describes : Bool) (lease : Lease κ) (statement : Statement)
    {next : Except Failure RowLayout → Job κ α}
    (later : ∀ answer, (next answer).Obeys accounts (.lent lease)) :
    (describe describes lease statement next).Obeys accounts (.lent lease) := by
  unfold describe
  split
  · exact lends.obeys_plain lease _ rfl rfl later
  · exact lends.obeys_plain lease _ rfl rfl fun answer => later (answer.map Cursor.layout)

/-- Whatever is asked for in whatever order, one connection serves it and goes back. -/
theorem serve_obeys (describes : Bool) (dialogue : Dialogue α) (lease : Lease κ) :
    (serve describes dialogue lease).Obeys accounts (.lent lease) := by
  induction dialogue generalizing lease with
  | done outcome => exact Job.obeys_finish outcome (lends.drops lease)
  | note event next ih =>
    cases event with
    | running leaf => exact ⟨_, .one (.reached lease leaf), ih lease⟩
    | _ => exact ⟨_, .quiet rfl .nil, ih lease⟩
  | ask request next ih =>
    cases request with
    | begin =>
      have opened : lease.used (.asked .begin) = { lease with dirty := true } := rfl
      simp only [serve]
      refine lends.obeys_request opened (fun answer => ?_) fun failure => ?_
      · exact ih (.ok answer) { lease with dirty := true }
      · exact ih (.error failure) { lease with dirty := true }
    | commit =>
      refine lends.obeys_request (lease.used_neutral rfl rfl) (fun answer => ?_) fun failure => ?_
      · rw [lease.used_settling rfl]
        exact ih (.ok answer) { lease with dirty := false }
      · exact ih (.error failure) lease
    | rollback =>
      refine lends.obeys_request (lease.used_neutral rfl rfl) (fun answer => ?_) fun failure => ?_
      · rw [lease.used_settling rfl]
        exact ih (.ok answer) { lease with dirty := false }
      · exact ih (.error failure) lease
    | update statement => exact lends.obeys_plain lease _ rfl rfl fun answer => ih answer lease
    | updateReturning statement column => exact lends.obeys_plain lease _ rfl rfl fun answer => ih answer lease
    | query statement => exact lends.obeys_plain lease _ rfl rfl fun answer => ih answer lease
    | describe statement => exact describe_obeys describes lease statement fun answer => ih answer lease

theorem job_obeys (describes : Bool) (program : Program α) :
    (job describes program : Job κ α).Obeys accounts .unasked := by
  refine Job.obeys_borrow .asking trivial (fun connection => ?_) fun _ => trivial
  exact ⟨_, .acquired connection, serve_obeys describes program.dialogue ⟨connection, false⟩⟩

def Stage.Tells : Stage κ → List (Entry κ) → Prop
  | .unasked, entries => entries = []
  | .asking, entries => entries = [.acquiring]
  | .lent lease, entries => ∃ rest connection uses, entries = .acquiring :: rest ∧
      lease = .afterAll connection uses ∧
      rest.filter Entry.isConnection = .acquired connection :: uses.map (Use.entry connection)
  | .returned, entries => ∃ rest loan, entries = .acquiring :: rest ∧
      rest.filter Entry.isConnection = Loan.entries loan

theorem Accounts.tells {stage later : Stage κ} {entry : Entry κ} {entries : List (Entry κ)}
    (step : Accounts stage entry later) (told : stage.Tells entries) :
    entry.counts = true ∧ later.Tells (entries ++ [entry]) := by
  cases step with
  | asking =>
    cases told
    exact ⟨rfl, rfl⟩
  | acquired connection =>
    cases told
    exact ⟨rfl, [.acquired connection], connection, [], rfl, rfl, rfl⟩
  | reached lease leaf =>
    obtain ⟨rest, connection, uses, rfl, same, filtered⟩ := told
    refine ⟨rfl, rest ++ [.told (.running leaf)], connection, uses, rfl, same, ?_⟩
    simpa [Entry.isConnection] using filtered
  | used lease use =>
    obtain ⟨rest, connection, uses, rfl, rfl, filtered⟩ := told
    have counted : (use.entry connection).isConnection = true := by cases use <;> rfl
    rw [Lease.afterAll_connection]
    refine ⟨by simp [Entry.counts, counted], rest ++ [use.entry connection], connection, uses ++ [use], rfl,
      (Lease.afterAll_append connection uses use).symm, ?_⟩
    simp [filtered, counted]
  | farewell lease =>
    obtain ⟨rest, connection, uses, rfl, rfl, filtered⟩ := told
    obtain ⟨loan, recorded⟩ := Loan.of_lease connection uses
    have counted := (Lease.afterAll connection uses).isConnection_farewell
    refine ⟨by simp [Entry.counts, counted], rest ++ [(Lease.afterAll connection uses).farewell], loan, rfl, ?_⟩
    rw [recorded]
    simp [filtered, counted]

/-- Between two worlds a run asked for one connection, before it reached a leaf, and if one was handed
out, it went back. -/
def Accounted (world after : World σ κ) : Prop :=
  ∃ entries rest loan, after.history = world.history ++ entries ∧
    entries.filter Entry.counts = .acquiring :: rest ∧
    rest.filter Entry.isConnection = Loan.entriesOf loan

theorem Accounted.of_leads {world after : World σ κ} {stage : Stage κ}
    (leads : accounts.Leads .unasked world stage after) (finished : stage.IsOver) : Accounted world after := by
  obtain ⟨entries, grown, runs⟩ := leads
  have told : stage.Tells ([] ++ entries.filter Entry.counts) := runs.keeps Stage.Tells Accounts.tells rfl
  rw [List.nil_append] at told
  cases stage with
  | unasked => cases finished
  | asking => exact ⟨entries, [], none, grown, told, rfl⟩
  | lent lease => cases finished
  | returned =>
    obtain ⟨rest, loan, begun, filtered⟩ := told
    exact ⟨entries, rest, some loan, grown, begun, filtered⟩

/-- Between two worlds a run asked for a connection, once and before anything else that counts. -/
def AskedOnce (world after : World σ κ) : Prop :=
  ∃ entries rest, after.history = world.history ++ entries ∧
    entries.filter Entry.counts = .acquiring :: rest ∧ .acquiring ∉ rest

theorem not_acquiring_of_filter {rest uses : List (Entry κ)} (filtered : rest.filter Entry.isConnection = uses)
    (never : .acquiring ∉ uses) : .acquiring ∉ rest := by
  intro member
  apply never
  rw [← filtered]
  exact List.mem_filter.mpr ⟨member, rfl⟩

theorem not_acquiring_uses (connection : κ) (uses : List Use) :
    .acquiring ∉ .acquired connection :: uses.map (Use.entry connection) := by
  intro member
  rcases List.mem_cons.mp member with first | later
  · cases first
  · obtain ⟨use, _, same⟩ := List.mem_map.mp later
    cases use <;> cases same

theorem not_acquiring_loan (loan : Loan κ) : .acquiring ∉ loan.entries := by
  intro member
  unfold Loan.entries at member
  rw [← List.cons_append] at member
  rcases List.mem_append.mp member with inside | last
  · exact not_acquiring_uses loan.connection loan.uses inside
  · have returned := List.mem_singleton.mp last
    split at returned <;> cases returned

theorem AskedOnce.of_leads {world after : World σ κ} {stage : Stage κ}
    (leads : accounts.Leads .unasked world stage after) (asked : stage ≠ .unasked) : AskedOnce world after := by
  obtain ⟨entries, grown, runs⟩ := leads
  have told : stage.Tells ([] ++ entries.filter Entry.counts) := runs.keeps Stage.Tells Accounts.tells rfl
  rw [List.nil_append] at told
  cases stage with
  | unasked => exact absurd rfl asked
  | asking => exact ⟨entries, [], grown, told, List.not_mem_nil⟩
  | lent lease =>
    obtain ⟨rest, connection, uses, begun, _, filtered⟩ := told
    exact ⟨entries, rest, grown, begun, not_acquiring_of_filter filtered (not_acquiring_uses connection uses)⟩
  | returned =>
    obtain ⟨rest, loan, begun, filtered⟩ := told
    exact ⟨entries, rest, grown, begun, not_acquiring_of_filter filtered (not_acquiring_loan loan)⟩

/-- Wherever a run stands when it ends or waits, it has asked for its connection. -/
theorem job_asks (backend : Backend σ κ) (describes : Bool) (program : Program α) (world : World σ κ) :
    ∃ stage, accounts.Leads .unasked world stage ((job describes program).toAction backend world).2 ∧
      stage ≠ .unasked := by
  obtain ⟨stage, leads, _⟩ := Job.advance_obeys backend true (job_obeys describes program) world
  refine ⟨stage, leads, ?_⟩
  rintro rfl
  obtain ⟨entries, grown, runs⟩ := leads
  have told : Stage.unasked.Tells ([] ++ entries.filter Entry.counts) := runs.keeps Stage.Tells Accounts.tells rfl
  obtain ⟨rest, begun⟩ := Job.acquire_grows backend true _ world
  cases List.append_cancel_left (grown.symm.trans begun)
  cases told

end SqlProgram.Blocking
