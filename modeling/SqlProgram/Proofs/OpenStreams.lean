import SqlProgram.Proofs.HistoryEntries

/-!
Streams and the connections that they were opened on, as a history tells of them. No connection is to go back before its
stream is let go of, and none is let go of afterwards.
-/

namespace SqlProgram

namespace Entry

def Opens (connection : κ) : Entry κ → Prop
  | .answered other (.openRows _) true => other = connection
  | _ => False

def Drops (connection : κ) : Entry κ → Prop
  | .rowsDropped other _ _ => other = connection
  | _ => False

def Returns (connection : κ) : Entry κ → Prop
  | .released other | .discarded other => other = connection
  | _ => False

def isPlain : Entry κ → Bool
  | .answered _ (.openRows _) true | .rowsDropped .. | .released _ | .discarded _ => false
  | _ => true

theorem neither_of_plain {entry : Entry κ} (plain : entry.isPlain) (connection : κ) :
    ¬ entry.Opens connection ∧ ¬ entry.Drops connection ∧ ¬ entry.Returns connection := by
  unfold Opens Drops Returns
  refine ⟨?_, ?_, ?_⟩
  · split
    · cases plain
    · exact id
  · split
    · cases plain
    · exact id
  · split
    · cases plain
    · cases plain
    · exact id

theorem plain_database (events : List DatabaseEvent) :
    ∀ entry ∈ (events.map .ofDatabase : List (Entry κ)), entry.isPlain := by
  intro entry member
  obtain ⟨event, _, rfl⟩ := List.mem_map.mp member
  rfl

end Entry

/-- Something happened and was not undone since. -/
def Since (happens undoes : Entry κ → Prop) (entries : List (Entry κ)) : Prop :=
  ∃ before entry after, entries = before ++ entry :: after ∧ happens entry ∧ ∀ other ∈ after, ¬ undoes other

theorem since_snoc {happens undoes : Entry κ → Prop} {entries : List (Entry κ)} {entry : Entry κ} :
    Since happens undoes (entries ++ [entry]) ↔ happens entry ∨ (Since happens undoes entries ∧ ¬ undoes entry) := by
  constructor
  · rintro ⟨before, first, after, split, happened, kept⟩
    obtain ⟨rfl, rfl, rfl⟩ | ⟨rest, rfl, rfl⟩ := snoc_split split
    · exact .inl happened
    · have since (other : Entry κ) (member : other ∈ rest) : ¬ undoes other := kept other (by simp [member])
      exact .inr ⟨⟨before, first, rest, rfl, happened, since⟩, kept entry (by simp)⟩
  · rintro (happened | ⟨⟨before, first, after, rfl, happened, kept⟩, last⟩)
    · exact ⟨entries, entry, [], rfl, happened, nofun⟩
    · refine ⟨before, first, after ++ [entry], by simp, happened, fun other member => ?_⟩
      rcases List.mem_append.mp member with earlier | now
      · exact kept other earlier
      · rw [List.mem_singleton.mp now]
        exact last

/-- A stream of the connection was not let go of yet. -/
def Busy (connection : κ) : List (Entry κ) → Prop := Since (Entry.Opens connection) (Entry.Drops connection)

/-- The connection has not gone back since a stream was opened on it. -/
def Lent (connection : κ) : List (Entry κ) → Prop := Since (Entry.Opens connection) (Entry.Returns connection)

/-- No connection goes back before its stream is let go of, if streams leave a trace then, and no stream is let go of
after its connection went back. -/
def InTime (traced : Prop) (entries : List (Entry κ)) : Prop :=
  ∀ before entry after connection, entries = before ++ entry :: after →
    (traced → entry.Returns connection → ¬ Busy connection before) ∧ (entry.Drops connection → Lent connection before)

theorem InTime.snoc {traced : Prop} {entries : List (Entry κ)} {entry : Entry κ} (inTime : InTime traced entries)
    (returns : ∀ connection, traced → entry.Returns connection → ¬ Busy connection entries)
    (drops : ∀ connection, entry.Drops connection → Lent connection entries) : InTime traced (entries ++ [entry]) := by
  intro before other after connection split
  obtain ⟨rfl, rfl, rfl⟩ | ⟨rest, rfl, earlier⟩ := snoc_split split
  · exact ⟨returns connection, drops connection⟩
  · exact inTime before other rest connection earlier

/-- Entries of a run that has one stream open at a time, with the connection of the one that may be open before them and
after them. -/
inductive Tracks (traced : Prop) : Option κ → List (Entry κ) → Option κ → Prop where
  | nil : Tracks traced busy [] busy
  | opened (idle : traced → busy = none) (rest : Tracks traced (some connection) entries later) :
      Tracks traced busy (.answered connection (.openRows statement) true :: entries) later
  | dropped (rest : Tracks traced none entries later) :
      Tracks traced (some connection) (.rowsDropped connection count ended :: entries) later
  | returned {entry : Entry κ} (idle : traced → busy = none) (back : entry.Returns connection)
      (rest : Tracks traced none entries later) : Tracks traced busy (entry :: entries) later
  | plain {entry : Entry κ} (plain : entry.isPlain) (rest : Tracks traced busy entries later) :
      Tracks traced busy (entry :: entries) later

structure Told (traced : Prop) (busy : Option κ) (entries : List (Entry κ)) : Prop where
  only : traced → ∀ connection, Busy connection entries → busy = some connection
  lent : ∀ connection, busy = some connection → Lent connection entries
  inTime : InTime traced entries

variable {traced : Prop} {busy later : Option κ} {entries before : List (Entry κ)}

theorem told_nil : Told traced none ([] : List (Entry κ)) := by
  refine ⟨fun _ connection => ?_, nofun, ?_⟩
  · rintro ⟨before, entry, after, split, _⟩
    cases before <;> cases split
  · intro before entry after connection split
    cases before <;> cases split

namespace Told

theorem opened (told : Told traced busy entries) (idle : traced → busy = none) (connection : κ)
    (statement : Statement) :
    Told traced (some connection) (entries ++ [.answered connection (.openRows statement) true]) := by
  refine ⟨fun traces other => ?_, fun other => ?_, told.inTime.snoc nofun nofun⟩
  · rw [Busy, since_snoc]
    rintro (rfl | ⟨earlier, _⟩)
    · rfl
    · -- One stream at a time: none that leaves a trace was open before.
      rw [idle traces] at told
      cases told.only traces other earlier
  · rintro ⟨⟩
    exact since_snoc.mpr (.inl rfl)

theorem dropped {connection : κ} (told : Told traced (some connection) entries) (count : Nat) (ended : Bool) :
    Told traced none (entries ++ [.rowsDropped connection count ended]) := by
  refine ⟨fun traces other => ?_, nofun, told.inTime.snoc nofun fun other => ?_⟩
  · rw [Busy, since_snoc]
    rintro (impossible | ⟨earlier, kept⟩)
    · cases impossible
    · cases told.only traces other earlier
      exact absurd rfl kept
  · rintro ⟨⟩
    exact told.lent connection rfl

theorem returned (told : Told traced busy entries) (idle : traced → busy = none) {entry : Entry κ} {connection : κ}
    (back : entry.Returns connection) : Told traced none (entries ++ [entry]) := by
  have others (other : κ) : ¬ entry.Opens other ∧ ¬ entry.Drops other := by
    cases entry with
    | released | discarded => exact ⟨id, id⟩
    | _ => cases back
  refine ⟨fun traces other => ?_, nofun, told.inTime.snoc (fun other traces _ earlier => ?_) fun other => ?_⟩
  · rw [Busy, since_snoc]
    rintro (impossible | ⟨earlier, _⟩)
    · exact absurd impossible (others other).1
    · exact (idle traces).symm.trans (told.only traces other earlier)
  · cases (idle traces).symm.trans (told.only traces other earlier)
  · exact fun drops => absurd drops (others other).2

theorem plain (told : Told traced busy entries) {entry : Entry κ} (plain : entry.isPlain) :
    Told traced busy (entries ++ [entry]) := by
  have neither := entry.neither_of_plain plain
  refine ⟨fun traces other => ?_, fun other lent => ?_, told.inTime.snoc (fun other _ back => ?_) fun other drops => ?_⟩
  · rw [Busy, since_snoc]
    rintro (impossible | ⟨earlier, _⟩)
    · exact absurd impossible (neither other).1
    · exact told.only traces other earlier
  · exact since_snoc.mpr (.inr ⟨told.lent other lent, (neither other).2.2⟩)
  · exact absurd back (neither other).2.2
  · exact absurd drops (neither other).2.1

end Told

namespace Tracks

theorem tells (tracks : Tracks traced busy entries later) (told : Told traced busy before) :
    Told traced later (before ++ entries) := by
  induction tracks generalizing before with
  | nil => exact (List.append_nil before).symm ▸ told
  | opened idle _ ih =>
    rw [List.append_cons]
    exact ih (told.opened idle _ _)
  | dropped _ ih =>
    rw [List.append_cons]
    exact ih (told.dropped _ _)
  | returned idle back _ ih =>
    rw [List.append_cons]
    exact ih (told.returned idle back)
  | plain silent _ ih =>
    rw [List.append_cons]
    exact ih (told.plain silent)

theorem append {middle : Option κ} {others : List (Entry κ)} (first : Tracks traced busy entries middle)
    (second : Tracks traced middle others later) : Tracks traced busy (entries ++ others) later := by
  induction first with
  | nil => exact second
  | opened idle _ ih => exact .opened idle (ih second)
  | dropped _ ih => exact .dropped (ih second)
  | returned idle back _ ih => exact .returned idle back (ih second)
  | plain silent _ ih => exact .plain silent (ih second)

theorem of_plain (plain : ∀ entry ∈ entries, entry.isPlain) : Tracks traced busy entries busy := by
  induction entries with
  | nil => exact .nil
  | cons entry entries ih =>
    refine .plain (plain entry (List.mem_cons_self ..)) (ih fun other member => ?_)
    exact plain other (List.mem_cons_of_mem _ member)

theorem database (events : List DatabaseEvent) : Tracks traced busy (events.map .ofDatabase) busy :=
  .of_plain (Entry.plain_database events)

theorem acquireEntries (reply : Reply κ) : Tracks traced busy reply.acquireEntries busy := by
  refine (database _).append ?_
  cases reply.outcome with
  | ok connection => exact .plain rfl .nil
  | failed failure => exact .plain rfl .nil
  | panicked panic => exact .nil

theorem dropEntries (connection : κ) {rows : RowStream} (traces : traced → rows.inMemory = false) :
    ∃ later, Tracks traced (some connection) (rows.dropEntries connection) later ∧ (traced → later = none) := by
  unfold RowStream.dropEntries
  cases memory : rows.inMemory with
  | true => exact ⟨_, .nil, fun traced => nomatch (traces traced).symm.trans memory⟩
  | false => exact ⟨none, (database _).append (.dropped .nil), fun _ => rfl⟩

end Tracks

end SqlProgram
