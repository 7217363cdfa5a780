import SqlProgram.Proofs.HistoryEntries

/-!
Rules for what may be recorded, and worlds between which nothing else was.
-/

namespace SqlProgram

def Lease.farewell (lease : Lease κ) : Entry κ :=
  if lease.dirty then .discarded lease.connection else .released lease.connection

/-- What may be recorded in which state, and in which states a run may be over. -/
structure Rule (κ S : Type) where
  Step : S → Entry κ → S → Prop
  Over : S → Prop

namespace Rule

/-- Entries recorded in order. Those of no account may stand anywhere. -/
inductive Runs (rule : Rule κ S) : S → List (Entry κ) → S → Prop where
  | nil : Runs rule state [] state
  | quiet {entry : Entry κ} (silent : entry.counts = false) (rest : Runs rule state entries later) :
      Runs rule state (entry :: entries) later
  | step {entry : Entry κ} (first : rule.Step state entry middle)
      (rest : Runs rule middle entries later) : Runs rule state (entry :: entries) later

variable {rule : Rule κ S}

theorem Runs.one {entry : Entry κ} (first : rule.Step state entry later) :
    rule.Runs state [entry] later :=
  .step first .nil

theorem Runs.append (first : rule.Runs state entries middle) (second : rule.Runs middle others later) :
    rule.Runs state (entries ++ others) later := by
  induction first with
  | nil => exact second
  | quiet silent _ ih => exact .quiet silent (ih second)
  | step first _ ih => exact .step first (ih second)

theorem Runs.of_silent {entries : List (Entry κ)} (silent : ∀ entry ∈ entries, entry.counts = false) :
    rule.Runs state entries state := by
  induction entries with
  | nil => exact .nil
  | cons entry entries ih =>
    refine .quiet (silent entry (List.mem_cons_self ..)) (ih fun other member => ?_)
    exact silent other (List.mem_cons_of_mem _ member)

theorem Runs.database (events : List DatabaseEvent) :
    rule.Runs state (events.map .ofDatabase) state :=
  .of_silent (Entry.silent_database events)

theorem Runs.dropEntries (connection : κ) (rows : RowStream) :
    rule.Runs state (rows.dropEntries connection) state :=
  .of_silent (rows.silent_dropEntries connection)

theorem Runs.split (runs : rule.Runs state (entries ++ others) later) :
    ∃ middle, rule.Runs state entries middle ∧ rule.Runs middle others later := by
  induction entries generalizing state with
  | nil => exact ⟨state, .nil, runs⟩
  | cons entry entries ih =>
    cases runs with
    | quiet silent rest =>
      obtain ⟨middle, first, second⟩ := ih rest
      exact ⟨middle, .quiet silent first, second⟩
    | step step rest =>
      obtain ⟨middle, first, second⟩ := ih rest
      exact ⟨middle, .step step first, second⟩

theorem Runs.first {entry : Entry κ} (counts : entry.counts = true) (runs : rule.Runs state (entry :: entries) later) :
    ∃ middle, rule.Step state entry middle ∧ rule.Runs middle entries later := by
  cases runs with
  | quiet silent rest => cases silent.symm.trans counts
  | step step rest => exact ⟨_, step, rest⟩

/-- What every entry keeps true of a state and of all that was recorded before is kept by a whole run. -/
theorem Runs.tells (tells : S → List (Entry κ) → Prop)
    (quiet : ∀ {state entry entries}, entry.counts = false → tells state entries → tells state (entries ++ [entry]))
    (step : ∀ {state entry later entries}, rule.Step state entry later → tells state entries →
      tells later (entries ++ [entry]))
    (runs : rule.Runs state entries later) {before : List (Entry κ)} (told : tells state before) :
    tells later (before ++ entries) := by
  induction runs generalizing before with
  | nil => exact (List.append_nil before).symm ▸ told
  | quiet silent _ ih =>
    rw [List.append_cons]
    exact ih (quiet silent told)
  | step first _ ih =>
    rw [List.append_cons]
    exact ih (step first told)

theorem Runs.stays {allowed told : Entry κ → Prop}
    (step : ∀ {entry later}, rule.Step state entry later → allowed entry → later = state ∧ told entry)
    (quiet : ∀ {entry}, entry.counts = false → told entry) (runs : rule.Runs state entries later)
    (all : ∀ entry ∈ entries, allowed entry) : later = state ∧ ∀ entry ∈ entries, told entry := by
  induction entries with
  | nil =>
    cases runs
    exact ⟨rfl, nofun⟩
  | cons entry entries ih =>
    obtain ⟨first, rest⟩ := List.forall_mem_cons.mp all
    cases runs with
    | quiet silent runs =>
      obtain ⟨same, others⟩ := ih runs rest
      exact ⟨same, List.forall_mem_cons.mpr ⟨quiet silent, others⟩⟩
    | step stepped runs =>
      obtain ⟨rfl, one⟩ := step stepped first
      obtain ⟨same, others⟩ := ih runs rest
      exact ⟨same, List.forall_mem_cons.mpr ⟨one, others⟩⟩

/-- What every step keeps true of a state and of the entries that count is kept by a whole run. -/
theorem Runs.keeps (tells : S → List (Entry κ) → Prop)
    (step : ∀ {state entry later entries}, rule.Step state entry later → tells state entries →
      entry.counts = true ∧ tells later (entries ++ [entry]))
    (runs : rule.Runs state entries later) {before : List (Entry κ)} (told : tells state before) :
    tells later (before ++ entries.filter Entry.counts) := by
  induction runs generalizing before with
  | nil => simpa using told
  | quiet silent _ ih =>
    rw [List.filter_cons_of_neg (by simp [silent])]
    exact ih told
  | step first _ ih =>
    obtain ⟨counts, kept⟩ := step first told
    rw [List.filter_cons_of_pos counts, List.append_cons]
    exact ih kept

/-- Worlds between which nothing but what the rule allows was recorded. -/
def Leads (rule : Rule κ S) (state : S) (world : World σ κ) (later : S) (after : World σ κ) : Prop :=
  ∃ entries, after.history = world.history ++ entries ∧ rule.Runs state entries later

theorem Leads.refl (state : S) (world : World σ κ) : rule.Leads state world state world :=
  ⟨[], (List.append_nil _).symm, .nil⟩

theorem Leads.trans {world between after : World σ κ} (first : rule.Leads state world middle between)
    (second : rule.Leads middle between later after) : rule.Leads state world later after := by
  obtain ⟨entries, grown, runs⟩ := first
  obtain ⟨others, more, go⟩ := second
  refine ⟨entries ++ others, ?_, runs.append go⟩
  rw [more, grown, List.append_assoc]

theorem Leads.add {entry : Entry κ} (runs : rule.Runs state [entry] later) (world : World σ κ) :
    rule.Leads state world later (world.add entry) :=
  ⟨[entry], world.history_add entry, runs⟩

theorem Leads.addAll (runs : rule.Runs state entries later) (world : World σ κ) :
    rule.Leads state world later (world.addAll entries) :=
  ⟨entries, world.history_addAll entries, runs⟩

theorem Leads.giveBack {lease : Lease κ} (runs : rule.Runs state [lease.farewell] later)
    (backend : Backend σ κ) (world : World σ κ) :
    rule.Leads state world later (backend.giveBack lease world) := by
  unfold Backend.giveBack
  cases dirty : lease.dirty with
  | false =>
    simp only [Lease.farewell, dirty, Bool.false_eq_true, if_false] at runs ⊢
    exact (Leads.add (.quiet rfl .nil) world).trans (Leads.add runs _)
  | true =>
    simp only [Lease.farewell, dirty, if_true] at runs ⊢
    exact ((Leads.add (.quiet rfl .nil) world).trans (Leads.add runs _)).trans (Leads.addAll (.database _) _)

def Drops (rule : Rule κ S) (state : S) : Held κ → Prop
  | .nothing => rule.Over state
  | .lease lease | .rows lease _ => ∃ later, rule.Runs state [lease.farewell] later ∧ rule.Over later

end Rule

end SqlProgram
