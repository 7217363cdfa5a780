import SqlProgram.Proofs.RowCourse
import SqlProgram.Script.Backend

/-!
The connection of a row query over any number of looks. It goes back once, as soon as nothing more can come or the
query is let go of, and what is said until then is what the rows are mapped to.
-/

namespace SqlProgram.RowQuery

section
variable {backend : Backend σ κ} {mapper : Row → Outcome α} {statement : Statement} {target : Opening κ} {prompt : Prop}
  {query : RowQuery κ} {world : World σ κ} {recorded before : List (Entry κ)} {arrived : List (Polled (Outcome α))}

theorem pollAll_stands (looks : List Bool)
    (stands : Stands backend mapper statement target prompt query world.state recorded arrived)
    (told : world.dealings = before ++ recorded) :
    let looked := pollAll backend mapper looks query world
    ∃ later, Stands backend mapper statement target prompt looked.2.1 looked.2.2.state later
        (arrived ++ looked.1.filter Polled.arrives) ∧
      looked.2.2.dealings = before ++ later ∧
      (prompt → looks.count true ≤ (looked.1.filter Polled.arrives).length) := by
  intro looked
  -- The place after the first look is where the others start from, so all of it is generalised.
  induction looks generalizing query world recorded arrived with
  | nil =>
    refine ⟨recorded, ?_, told, fun _ => Nat.le_refl 0⟩
    exact (List.append_nil arrived).symm ▸ stands
  | cons patient looks ih =>
    obtain ⟨next, first, grown, early⟩ := poll_leads patient stands told
    obtain ⟨later, rest, more, enough⟩ := ih first grown
    let one := poll backend mapper patient query world
    let others := pollAll backend mapper looks one.2.1 one.2.2
    have all : looked.1 = [one.1] ++ others.1 := rfl
    refine ⟨later, ?_, more, fun arrives => ?_⟩
    · rw [all, List.filter_append, ← List.append_assoc]
      exact rest
    · have later := enough arrives
      rw [all, List.filter_append, List.length_append]
      cases patient with
      | true =>
        have now : [one.1].filter Polled.arrives = [one.1] := List.filter_cons_of_pos (early arrives rfl)
        rw [now, List.count_cons_self, List.length_singleton, Nat.add_comm]
        exact Nat.add_le_add_left later 1
      | false =>
        rw [List.count_cons_of_ne Bool.false_ne_true]
        exact Nat.le_trans later (Nat.le_add_left ..)

theorem length_said (items : List (Outcome Row)) : (said mapper items).length = items.length := List.length_map _

/-- Whenever a query is let go of, each connection that it acquired has gone back, once. -/
theorem drop_stands (stands : Stands backend mapper statement target prompt query world.state recorded arrived)
    (told : world.dealings = before ++ recorded) :
    ∃ lead, lead <+: target.lead statement ∧ (arrived ≠ [] → lead = target.lead statement) ∧
      recorded = lead ++ (if target.kept < arrived.length then returns lead else []) ∧
      (query.drop backend world).dealings = before ++ (lead ++ returns lead) := by
  cases stands with
  | waiting waits =>
    refine ⟨recorded, ?_⟩
    cases waits with
    | fresh same finite => exact ⟨List.nil_prefix, fun said => absurd rfl said, rfl, told⟩
    | asking reply same finite =>
      refine ⟨?_, fun said => absurd rfl said, rfl, told⟩
      subst same
      cases reply.outcome with
      | ok connection => exact ⟨_, rfl⟩
      | failed failure => exact List.prefix_refl _
      | panicked panic => exact List.prefix_refl _
    | @calling delay _ connection reply same finite =>
      subst same
      refine ⟨⟨_, rfl⟩, fun said => absurd rfl said, rfl, ?_⟩
      have dropped : (drop backend (.opening (.pause (.lease ⟨connection, false⟩) delay
          (reply.callEntries connection (.openRows statement)) (onOpened connection reply.outcome))) world).dealings =
          (backend.giveBack ⟨connection, false⟩ world).dealings := rfl
      rw [dropped, World.dealings_giveBack, told, List.append_assoc]
      rfl
  | @reading connection opened past rows _ lent split flowing phase finite =>
    have kept : past.length ≤ target.kept := by
      subst lent
      have whole : RowStream.arriving opened.steps = past ++ RowStream.arriving rows.steps := split
      simp only [Opening.kept, Opening.result, whole, List.takeWhile_append_of_pos flowing, List.length_append]
      exact Nat.le_add_right ..
    have onLoan : ¬ target.kept < (said mapper past).length := by
      rw [length_said]
      omega
    refine ⟨target.lead statement, List.prefix_refl _, fun _ => rfl, ?_, ?_⟩
    · rw [if_neg onLoan, List.append_nil]
    · have dropped : (drop backend (.reading ⟨connection, false⟩ true rows) world).dealings =
          (backend.giveBack ⟨connection, false⟩ world).dealings := World.dealings_dropEntries ..
      rw [dropped, World.dealings_giveBack, told, lent, List.append_assoc]
      rfl
  | returned gone late beyond =>
    let all : List (Polled (Outcome α)) := said mapper target.items ++ List.replicate late .ended
    have more : target.kept < all.length := by
      rw [List.length_append, length_said, List.length_replicate]
      exact beyond
    refine ⟨target.lead statement, List.prefix_refl _, fun _ => rfl, by rw [if_pos more], ?_⟩
    cases gone with
    | closed => exact told
    | failed connection rows phase => exact (World.dealings_dropEntries ..).trans told

theorem arrived_prefix {late : Nat}
    (stands : Stands backend mapper statement target prompt query world.state recorded arrived)
    (enough : arrived.length ≤ late) : arrived <+: said mapper target.items ++ List.replicate late .ended := by
  cases stands with
  | waiting waits => exact List.nil_prefix
  | reading lent split flowing phase finite =>
    rw [split, said, said, List.map_append, List.append_assoc]
    exact List.prefix_append ..
  | returned gone ends beyond =>
    rw [List.length_append, List.length_replicate] at enough
    have fewer : ends ≤ late := by omega
    rw [List.prefix_append_right_inj]
    exact ⟨List.replicate (late - ends) .ended, by rw [List.replicate_append_replicate, Nat.add_sub_cancel' fewer]⟩

end

theorem length_pollAll (backend : Backend σ κ) (mapper : Row → Outcome α) (looks : List Bool) (query : RowQuery κ)
    (world : World σ κ) : (pollAll backend mapper looks query world).1.length = looks.length := by
  induction looks generalizing query world with
  | nil => rfl
  | cons patient looks ih => exact congrArg Nat.succ (ih ..)

/-- A query that was not looked at yet. The promise that nothing is waited for forever is carried along from here. -/
theorem stands_ofStatement (backend : Backend σ κ) (mapper : Row → Outcome α) (statement : Statement) (state : σ) :
    Stands backend mapper statement (attempt backend statement state) (Delay.never ∉ delays backend statement state)
      (ofStatement statement) state [] [] := by
  rw [ofStatement_eq]
  exact .waiting (.fresh rfl id)

/-- A row query gives its connection back exactly once. However often it is looked at before it is let go of, it
acquires at most one connection, which is released as soon as the rows failed, ran out or could not be opened, or else
when the query is let go of. What is said is what the rows are mapped to, up to the first failure of a row. -/
theorem loan_returned_once (backend : Backend σ κ) (mapper : Row → Outcome α) (statement : Statement)
    (world : World σ κ) (looks : List Bool) :
    let opened := attempt backend statement world.state
    let looked := pollAll backend mapper looks (ofStatement statement) world
    let arrived := looked.1.filter Polled.arrives
    (ofStatement statement).drop backend world = world ∧
      arrived <+: said mapper opened.items ++ List.replicate looks.length .ended ∧
      (Delay.never ∉ delays backend statement world.state → looks.count true ≤ arrived.length) ∧
      ∃ lead, lead <+: opened.lead statement ∧ (arrived ≠ [] → lead = opened.lead statement) ∧
        looked.2.2.dealings = world.dealings ++ (lead ++ if opened.kept < arrived.length then returns lead else []) ∧
        (looked.2.1.drop backend looked.2.2).dealings = world.dealings ++ (lead ++ returns lead) := by
  intro opened looked arrived
  have start := stands_ofStatement backend mapper statement world.state
  obtain ⟨later, stands, told, enough⟩ := pollAll_stands looks start (List.append_nil world.dealings).symm
  have few : arrived.length ≤ looks.length :=
    Nat.le_trans (List.length_filter_le ..) (Nat.le_of_eq (length_pollAll ..))
  obtain ⟨lead, within, whole, recorded, dropped⟩ := drop_stands stands told
  have current := told.trans (congrArg (world.dealings ++ ·) recorded)
  exact ⟨rfl, arrived_prefix stands few, enough, lead, within, whole, current, dropped⟩

/-- A row that cannot be mapped comes before one that can and before the failure of the rows. -/
theorem loan_returned_once_failure :
    let backend := Script.backend false
    let layout : RowLayout := ⟨[⟨"id", "", none⟩]⟩
    let rows : Script.Rows :=
      ⟨layout, [⟨layout, [.text "x"], rfl⟩, ⟨layout, [.int 7], rfl⟩], some (.backend "gone"), false, .now, false⟩
    let world : World Script.State Nat := .ofState {
      acquire := [⟨.polls 1, .ok (), []⟩], begin := [], commit := [], rollback := [], update := []
      updateReturning := [], query := [.ofOutcome (.ok rows)], lent := 0 }
    let statement : Statement := ⟨"select id from t", []⟩
    let mapper (row : Row) : Outcome Int64 := .ofExcept (row.getAt .int64 0)
    let looked (looks : List Bool) := pollAll backend mapper looks (ofStatement statement) world
    let lent := [.acquiring, .acquired 1, .called 1 (.openRows statement), .answered 1 (.openRows statement) true]
    let mismatch := .failed (.decode "id" (.mismatch (.kind "i64" (.text "x"))))
    (looked [false, true, true, true, true]).1 =
        [.pending, .item mismatch, .item (.ok 7), .item (.failed (.backend "gone")), .ended] ∧
      (looked [false, true, true]).2.2.dealings = lent ∧
      (looked [false, true, true, true]).2.2.dealings = lent ++ [.released 1] ∧
      (attempt backend statement world.state).kept = 2 ∧
      Delay.never ∉ delays backend statement world.state ∧
      4 ≤ ((looked [false, true, true, true, true]).1.filter Polled.arrives).length := by
  intro backend layout rows world statement mapper looked lent mismatch
  have prompt : Delay.never ∉ delays backend statement world.state := by decide
  obtain ⟨_, _, enough, _⟩ := loan_returned_once backend mapper statement world [false, true, true, true, true]
  exact ⟨rfl, rfl, rfl, rfl, prompt, enough prompt⟩

end SqlProgram.RowQuery
