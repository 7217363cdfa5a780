import SqlProgram.Backend.Job
import SqlProgram.Program.Dialogue

/-!
What entries of a history tell: leaves that are reached, what happens to connections, and requests that
are carried out. All else is of no account.
-/

namespace SqlProgram

theorem snoc_split {items before after : List β} (split : items ++ [last] = before ++ item :: after) :
    (before = items ∧ item = last ∧ after = []) ∨ ∃ rest, after = rest ++ [last] ∧ items = before ++ item :: rest := by
  obtain rfl | ⟨rest, final, rfl⟩ := after.eq_nil_or_concat
  · obtain ⟨rfl, same⟩ := List.append_inj' split rfl
    cases same
    exact .inl ⟨rfl, rfl, rfl⟩
  · rw [List.concat_eq_append, ← List.cons_append, ← List.append_assoc] at split
    obtain ⟨same, final⟩ := List.append_inj' split rfl
    cases final
    exact .inr ⟨rest, List.concat_eq_append .., same⟩

namespace Entry

def isLeaf : Entry κ → Bool
  | .told (.running _) => true
  | _ => false

/-- Whether a connection is asked for, handed out, used or given back. -/
def isConnection : Entry κ → Bool
  | .acquiring | .acquired _ | .called .. | .answered .. | .released _ | .discarded _ => true
  | .acquireFailed | .rowsDropped .. | .told _ => false

def counts (entry : Entry κ) : Bool := entry.isLeaf || entry.isConnection

end Entry

def Call.request : Call → Request
  | .begin => .begin
  | .commit => .commit
  | .rollback => .rollback
  | .update statement => .update statement
  | .updateReturning statement column => .updateReturning statement column
  | .query statement | .openRows statement => .query statement
  | .describe statement => .describe statement

namespace Entry

def request? : Entry κ → Option Request
  | .called _ call => some call.request
  | _ => none

theorem isLeaf_of_silent {entry : Entry κ} (silent : entry.counts = false) : entry.isLeaf = false :=
  (Bool.or_eq_false_iff.mp silent).1

theorem request?_of_silent {entry : Entry κ} (silent : entry.counts = false) : entry.request? = none := by
  cases entry with
  | called connection call => cases silent
  | _ => rfl

theorem silent_database (events : List DatabaseEvent) :
    ∀ entry ∈ (events.map .ofDatabase : List (Entry κ)), entry.counts = false := by
  intro entry member
  obtain ⟨event, _, rfl⟩ := List.mem_map.mp member
  rfl

end Entry

theorem RowStream.silent_dropEntries (connection : κ) (rows : RowStream) :
    ∀ entry ∈ rows.dropEntries connection, entry.counts = false := by
  intro entry member
  unfold RowStream.dropEntries at member
  split at member
  · cases member
  · rcases List.mem_append.mp member with told | dropped
    · exact Entry.silent_database _ entry told
    · cases List.mem_singleton.mp dropped
      rfl

namespace World

def requests (world : World σ κ) : List Request := world.history.filterMap Entry.request?

theorem requests_add (entry : Entry κ) (world : World σ κ) :
    (world.add entry).requests = world.requests ++ entry.request?.toList := by
  rw [requests, history_add, List.filterMap_append]
  cases entry <;> rfl

theorem requests_quiet {entry : Entry κ} (silent : entry.request? = none) (world : World σ κ) :
    (world.add entry).requests = world.requests := by
  rw [requests_add, silent]
  exact List.append_nil _

theorem requests_addAll {entries : List (Entry κ)} (silent : ∀ entry ∈ entries, entry.request? = none)
    (world : World σ κ) : (world.addAll entries).requests = world.requests := by
  rw [requests, history_addAll, List.filterMap_append, List.filterMap_eq_nil_iff.mpr silent, List.append_nil]
  rfl

theorem requests_tellAll (events : List DatabaseEvent) (world : World σ κ) :
    (world.tellAll events).requests = world.requests :=
  requests_addAll (fun entry member => Entry.request?_of_silent (Entry.silent_database events entry member)) world

end World

end SqlProgram
