import Dmanager.Db.Containers
import Dmanager.Frontend.UseContainers

/-!
# The list of the browser and the table of the server

Three parties: the writers of the server, each of which writes to the table `containers`, then reads the row again
if it is still there, and publishes it; one browser, which reads the table once with `listContainers` and sets its
list when the answer arrives; and its stream, which is connected, delivers what was published in the meantime in
order, is cut off, and is connected again, any number of times.

* `Sync.Safe` — the condition on a step: a writer publishes what is in the table, nothing that the browser does
  not know yet is published or still on its way when the stream is cut off, a response that is applied before the
  answer of `listContainers` is in that answer, and no response calls off the deletion of another container or
  takes its row.
* `converges` — after a run whose steps are all safe, once everything has been written, published, delivered and
  removed, the list has exactly the rows of the table.
* `reconnect_misses_write` — a write while the stream is cut off is missing for good: the browser reads the table
  when it mounts, but not when it connects again.
-/

namespace Dmanager
namespace Frontend

open Go Lib Db

/-! ## The server -/

/-- `MapContainerRecord`; `rfc3339` is `Format(time.RFC3339)`. -/
def mapContainerRecord (rfc3339 : Int → GoString) (r : Db.Container) : ProtoContainer where
  id := some r.id
  name := some r.name
  image := some r.image
  imageId := some r.imageID
  state := some r.state
  autoUpdate := some (decide (r.autoUpdate ≠ 0))
  updateAvailable := some (decide (r.updateAvailable ≠ 0))
  latestImageDigest := some (r.latestImageDigest.getD [])
  lastCheckedAt := some ((r.lastCheckedAt.map rfc3339).getD [])
  lastUpdatedAt := some ((r.lastUpdatedAt.map rfc3339).getD [])

/-- The row of the list that shows a row of the table. -/
def shownRow (rfc3339 : Int → GoString) (r : Db.Container) : Container :=
  mapProtoContainer (mapContainerRecord rfc3339 r)

/-- The row of the list has the id, the name, the image and the state of its row in the table, a flag for each of its
two numbers, and its times in words; what the table does not know is empty. -/
structure Container.Shows (rfc3339 : Int → GoString) (r : Db.Container) (shown : Container) : Prop where
  id : shown.id = r.id
  name : shown.name = r.name
  image : shown.image = r.image
  imageId : shown.imageId = r.imageID
  state : shown.state = r.state
  autoUpdate : shown.autoUpdate = true ↔ r.autoUpdate ≠ 0
  updateAvailable : shown.updateAvailable = true ↔ r.updateAvailable ≠ 0
  latestImageDigest : shown.latestImageDigest = r.latestImageDigest.getD []
  lastCheckedAt : shown.lastCheckedAt = r.lastCheckedAt.elim [] rfc3339
  lastUpdatedAt : shown.lastUpdatedAt = r.lastUpdatedAt.elim [] rfc3339

theorem getD_map_nil (rfc3339 : Int → GoString) (time : Option Int) :
    (time.map rfc3339).getD [] = time.elim [] rfc3339 := by
  cases time <;> rfl

theorem shows_shownRow (rfc3339 : Int → GoString) (r : Db.Container) : (shownRow rfc3339 r).Shows rfc3339 r where
  id := rfl
  name := rfl
  image := rfl
  imageId := rfl
  state := rfl
  autoUpdate := decide_eq_true_iff
  updateAvailable := decide_eq_true_iff
  latestImageDigest := rfl
  lastCheckedAt := getD_map_nil rfc3339 r.lastCheckedAt
  lastUpdatedAt := getD_map_nil rfc3339 r.lastUpdatedAt

/-- What a writer still has to tell the browsers: that a row is gone, or, after it has read the row again, what is
in it. -/
inductive Announcement where
  | deleted (id : GoString)
  | saved (id : GoString)
  deriving DecidableEq, Repr

/-- The writes that are published: `StartContainer` and `StopContainer` save the row, `SetContainerAutoUpdate` and
`checkContainerUpdatesInternal` update it, `UpgradeContainer` moves it to another id, or saves it when there is none
to move, and the event monitor upserts and deletes. -/
inductive TableWrite where
  | saveContainer (arg : SaveContainerParams)
  | setContainerAutoUpdate (id : GoString) (autoUpdate : Int)
  | updateContainerUpdateState (arg : UpdateContainerUpdateStateParams)
  | updateContainerForUpgrade (arg : UpdateContainerForUpgradeParams)
  | saveUpgraded (oldID : GoString) (arg : SaveContainerParams)
  | upsertContainerFromEvent (arg : UpsertContainerFromEventParams)
  | deleteContainer (id : GoString)
  deriving DecidableEq, Repr

/-- The table after the write, and what the writer announces afterwards.  An upgrade whose statement fails returns,
and one that moves no row goes on with `saveUpgraded`. -/
def TableWrite.run (write : TableWrite) (table : Containers) (now : Int) : Containers × List Announcement :=
  match write with
  | .saveContainer arg => (table.saveContainer arg now, [.saved arg.id])
  | .setContainerAutoUpdate id autoUpdate => (table.setContainerAutoUpdate id autoUpdate now, [.saved id])
  | .updateContainerUpdateState arg => (table.updateContainerUpdateState arg now, [.saved arg.id])
  | .updateContainerForUpgrade arg =>
      match table.updateContainerForUpgrade arg now with
      | none => (table, [])
      | some (_, 0) => (table, [])
      | some (next, _) =>
          (next, (if arg.id = arg.oldID then [] else [.deleted arg.oldID]) ++ [.saved arg.id])
  | .saveUpgraded oldID arg =>
      (table.saveContainer arg now, (if arg.id = oldID then [] else [.deleted oldID]) ++ [.saved arg.id])
  | .upsertContainerFromEvent arg => (table.upsertContainerFromEvent arg now, [.saved arg.id])
  | .deleteContainer id => (table.deleteContainer id, [.deleted id])

/-- A writer: the row that it has read again and publishes next, and what it announces after that. -/
structure Writer where
  row : Option Db.Container
  todo : List Announcement
  deriving DecidableEq, Repr

/-- A writer that has nothing to announce. -/
def Writer.idle : Writer := ⟨none, []⟩

/-! ## The browser -/

/-- The call of `listContainers`: before the server reads the table, with the answer on its way, and after
`setContainers`. -/
inductive FetchStage where
  | unread
  | read (items : List Container)
  | applied
  deriving DecidableEq, Repr

/-- The server, the stream with what was published and not delivered, and the hook. -/
structure Sync (W : Type) where
  table : Containers
  writers : W → Writer
  connected : Bool
  stream : List StreamContainersResponse
  fetch : FetchStage
  hook : HookState

/-- Nobody has written anything, and the hook has just mounted. -/
def Sync.start {W : Type} (table : Containers) : Sync W where
  table := table
  writers := fun _ => .idle
  connected := false
  stream := []
  fetch := .unread
  hook := .start []

/-- The steps of the parties. -/
inductive SyncLabel (W : Type) where
  | write (w : W) (write : TableWrite) (now : Int)
  | reread (w : W)
  | publish (w : W)
  | listContainers (rows : List Db.Container)
  | setContainers
  | connect
  | disconnect
  | deliver
  | fire (timer : DeleteTimer)
  deriving DecidableEq, Repr

namespace Sync

variable {W : Type} [DecidableEq W] (rfc3339 : Int → GoString)

/-- What a writer publishes next. -/
def publication? (s : Sync W) (w : W) : Option StreamContainersResponse :=
  match s.writers w with
  | ⟨some row, _⟩ => some ⟨str "save", row.id, some (mapContainerRecord rfc3339 row)⟩
  | ⟨none, .deleted id :: _⟩ => some ⟨str "delete", id, none⟩
  | _ => none

/-- The writer when it has published it. -/
def afterPublication (writer : Writer) : Writer :=
  match writer with
  | ⟨some _, todo⟩ => ⟨none, todo⟩
  | ⟨none, todo⟩ => ⟨none, todo.tail⟩

/-- One step. -/
def step (s : Sync W) : SyncLabel W → Option (Sync W)
  | .write w write now =>
    if s.writers w = .idle then
      let (table, todo) := write.run s.table now
      some { s with table := table, writers := Function.update s.writers w ⟨none, todo⟩ }
    else none
  | .reread w =>
    match s.writers w with
    | ⟨none, .saved id :: todo⟩ =>
      some { s with writers := Function.update s.writers w ⟨s.table.getContainer id, todo⟩ }
    | _ => none
  | .publish w =>
    (s.publication? rfc3339 w).map fun response =>
      { s with
        writers := Function.update s.writers w (afterPublication (s.writers w))
        stream := if s.connected then s.stream ++ [response] else s.stream }
  | .listContainers rows =>
    if s.fetch = .unread ∧ s.table.IsListing rows then
      some { s with fetch := .read (rows.map (shownRow rfc3339)) }
    else none
  | .setContainers =>
    match s.fetch with
    | .read items => some { s with fetch := .applied, hook := { s.hook with containers := items } }
    | _ => none
  | .connect => if s.connected then none else some { s with connected := true }
  | .disconnect => if s.connected then some { s with connected := false, stream := [] } else none
  | .deliver =>
    match s.stream with
    | [] => none
    | response :: rest => some { s with stream := rest, hook := s.hook.reduce response }
  | .fire timer => (s.hook.step (.fire timer)).map fun hook => { s with hook := hook }

end Sync

/-! ## Safe steps -/

/-- What a change leaves of its container. -/
def Change.row? : Change → Option Container
  | .delete _ => none
  | .save mapped => some mapped

/-- The last one of the changes that is about the container. -/
def lastChange? (changes : List Change) (id : GoString) : Option Change :=
  changes.reverse.find? fun change => change.id = id

/-- The answer of `listContainers` while it is on its way. -/
def FetchStage.answer? : FetchStage → Option (List Container)
  | .read items => some items
  | _ => none

namespace Sync

variable {W : Type} (rfc3339 : Int → GoString) (s : Sync W)

/-- The row of the table, as the list shows it. -/
def entry (id : GoString) : Option Container := (s.table.getContainer id).map (shownRow rfc3339)

/-- The changes that are on their way to the browser. -/
def changes : List Change := s.stream.filterMap StreamContainersResponse.change?

/-- What the browser has of the container, or will have when the answer arrives. -/
def known? (id : GoString) : Option (Option Container) :=
  match s.fetch with
  | .unread => none
  | .read items => some (items.find? fun c => c.id = id)
  | .applied => some (s.hook.row? id)

/-- The browser need not be told: it will read the table, or has what the change says, and is not about to remove
the container. -/
def Knows (change : Change) : Prop :=
  ¬ s.hook.Removing change.id ∧ ∀ row ∈ s.known? change.id, row = change.row?

/-- A change that is published is what the table says, and reaches the browser if the browser needs it. -/
def Publishes (change : Change) : Prop :=
  change.row? = s.entry rfc3339 change.id ∧ (s.connected = true ∨ s.Knows change)

/-- A change that is applied, with those that follow it.  Unless another one of its container follows, it leaves no
timer behind that would remove a saved container, and is part of the answer that is on its way; unless a change of
the other container follows, it neither takes the row of one that is not being removed nor strands one that is. -/
def Applies (change : Change) (rest : List Change) : Prop :=
  (lastChange? rest change.id = none →
      (change.row? ≠ none → ∀ timer ∈ s.hook.timers, timer.containerId = change.id →
        (s.hook.lookupName? change).bind s.hook.pendingDeletes = some timer.timeoutId) ∧
      ∀ items ∈ s.fetch.answer?, (items.find? fun c => c.id = change.id) = change.row?) ∧
    (s.fetch = .applied →
      (∀ other ∈ s.hook.replacedBy? change, lastChange? rest other = none → s.hook.Removing other) ∧
      ∀ timer ∈ s.hook.timers, lastChange? rest timer.containerId = none →
        ¬ s.hook.Strands change timer.containerId)

/-- The step gives no cause for a difference between the list and the table. -/
def Safe : SyncLabel W → Prop
  | .publish w =>
    ∀ response ∈ s.publication? rfc3339 w, ∀ change ∈ response.change?, s.Publishes rfc3339 change
  | .disconnect => ∀ change ∈ s.changes, lastChange? s.changes change.id = some change → s.Knows change
  | .deliver =>
    ∀ response ∈ s.stream.head?, ∀ change ∈ response.change?,
      s.Applies change (s.stream.tail.filterMap StreamContainersResponse.change?)
  | _ => True

/-- Everything has been written, published, delivered and removed, and the stream is connected. -/
def Settled : Prop :=
  (∀ w, s.writers w = .idle) ∧ s.connected = true ∧ s.stream = [] ∧ s.hook.timers = [] ∧ s.fetch = .applied

instance (change : Change) : Decidable (s.Knows change) := inferInstanceAs (Decidable (_ ∧ _))

instance (change : Change) : Decidable (s.Publishes rfc3339 change) := inferInstanceAs (Decidable (_ ∧ _))

instance (change : Change) (rest : List Change) : Decidable (s.Applies change rest) :=
  inferInstanceAs (Decidable (_ ∧ _))

instance (label : SyncLabel W) : Decidable (s.Safe rfc3339 label) :=
  match label with
  | .publish w => inferInstanceAs (Decidable (∀ response ∈ s.publication? rfc3339 w, _))
  | .disconnect => inferInstanceAs (Decidable (∀ change ∈ s.changes, _))
  | .deliver => inferInstanceAs (Decidable (∀ response ∈ s.stream.head?, _))
  | .write .. | .reread _ | .listContainers _ | .setContainers | .connect | .fire _ => isTrue trivial

end Sync

/-! ## The last change of a container -/

section LastChange

variable {changes rest : List Change} {change : Change} {id : GoString}

theorem lastChange?_append : lastChange? (changes ++ [change]) id =
    if change.id = id then some change else lastChange? changes id := by
  unfold lastChange?
  rw [List.reverse_append, List.reverse_singleton, List.singleton_append, List.find?_cons]
  by_cases hid : change.id = id
  · simp [hid]
  · simp [hid]

theorem lastChange?_cons : lastChange? (change :: rest) id =
    (lastChange? rest id).or (if change.id = id then some change else none) := by
  unfold lastChange?
  rw [List.reverse_cons, List.find?_append, List.find?_singleton]
  simp

theorem id_of_lastChange? (hlast : lastChange? changes id = some change) : change ∈ changes ∧ change.id = id := by
  unfold lastChange? at hlast
  exact ⟨List.mem_reverse.mp (List.mem_of_find?_eq_some hlast), by simpa using List.find?_some hlast⟩

end LastChange

/-! ## What a write announces -/

/-- The announcements cover the difference between two tables. -/
def Covers (before after : Containers) (todo : List Announcement) : Prop :=
  ∀ id, after.get? id ≠ before.get? id →
    (after.get? id = none → .deleted id ∈ todo) ∧ (after.get? id ≠ none → .saved id ∈ todo)

section Writes

variable {before after table : Containers} {todo : List Announcement} {target : GoString} {row : Db.Container}

/-- A write to one row, which is there afterwards if it was there before. -/
theorem covers_of_saved (hothers : ∀ id ≠ target, after.get? id = before.get? id)
    (hthere : after.get? target = none → before.get? target = none) (htodo : .saved target ∈ todo) :
    Covers before after todo := by
  intro id hchanged
  have hid : id = target := by
    by_contra hne
    exact hchanged (hothers id hne)
  subst hid
  refine ⟨fun hnone => ?_, fun _ => htodo⟩
  rw [hnone, hthere hnone] at hchanged
  exact absurd rfl hchanged

theorem covers_saveContainer (arg : SaveContainerParams) (now : Int) (htodo : .saved arg.id ∈ todo) :
    Covers table (table.saveContainer arg now) todo := by
  refine covers_of_saved (fun id hid => ?_) (fun hnone => ?_) htodo
  · rw [Containers.get?_saveContainer, if_neg hid]
  · rw [Containers.get?_saveContainer, if_pos rfl] at hnone
    cases hnone

/-- Every row that a write changes is announced, as it is afterwards. -/
theorem covers_run (write : TableWrite) (table : Containers) (now : Int) :
    Covers table (write.run table now).1 (write.run table now).2 := by
  cases write with
  | saveContainer arg => exact covers_saveContainer arg now (List.mem_singleton.mpr rfl)
  | setContainerAutoUpdate target autoUpdate =>
      refine covers_of_saved (fun id hid => ?_) (fun hnone => ?_) (List.mem_singleton.mpr rfl)
      · exact (Containers.get?_setContainerAutoUpdate target id autoUpdate).trans (if_neg hid)
      · replace hnone : (table.setContainerAutoUpdate target autoUpdate now).get? target = none := hnone
        rw [Containers.get?_setContainerAutoUpdate, if_pos rfl] at hnone
        exact Option.map_eq_none_iff.mp hnone
  | updateContainerUpdateState arg =>
      refine covers_of_saved (fun id hid => ?_) (fun hnone => ?_) (List.mem_singleton.mpr rfl)
      · exact (Containers.get?_updateContainerUpdateState arg id).trans (if_neg hid)
      · replace hnone : (table.updateContainerUpdateState arg now).get? arg.id = none := hnone
        rw [Containers.get?_updateContainerUpdateState, if_pos rfl] at hnone
        exact Option.map_eq_none_iff.mp hnone
  | updateContainerForUpgrade arg =>
      cases hupdate : table.updateContainerForUpgrade arg now with
      | none =>
          simp only [TableWrite.run, hupdate]
          exact fun id hchanged => absurd rfl hchanged
      | some result =>
          obtain ⟨next, rows⟩ := result
          cases rows with
          | zero =>
              simp only [TableWrite.run, hupdate]
              exact fun id hchanged => absurd rfl hchanged
          | succ n =>
              cases hrow : table.get? arg.oldID with
              | none =>
                  rw [Containers.updateContainerForUpgrade_of_none hrow] at hupdate
                  cases hupdate
              | some row =>
                  -- two rows change: that of the old id goes, that of the new one appears
                  simp only [TableWrite.run, hupdate]
                  intro id hchanged
                  have hget := Containers.get?_updateContainerForUpgrade hrow hupdate id
                  rw [hget] at hchanged ⊢
                  by_cases hnew : arg.id = id
                  · subst hnew
                    simp
                  · rw [if_neg hnew] at hchanged ⊢
                    by_cases hold : id = arg.oldID
                    · subst hold
                      simp [hnew]
                    · exact absurd (if_neg hold) hchanged
  | saveUpgraded oldID arg => exact covers_saveContainer arg now (by simp [TableWrite.run])
  | upsertContainerFromEvent arg =>
      refine covers_of_saved (fun id hid => ?_) (fun hnone => ?_) (List.mem_singleton.mpr rfl)
      · exact (Containers.get?_upsertContainerFromEvent arg id).trans (if_neg hid)
      · replace hnone : (table.upsertContainerFromEvent arg now).get? arg.id = none := hnone
        rw [Containers.get?_upsertContainerFromEvent, if_pos rfl] at hnone
        cases hnone
  | deleteContainer target =>
      intro id hchanged
      replace hchanged : (table.delete target).get? id ≠ table.get? id := hchanged
      show ((table.delete target).get? id = none → _) ∧ ((table.delete target).get? id ≠ none → _)
      rw [KeyedTable.get?_delete] at hchanged ⊢
      by_cases hid : id = target
      · subst hid
        simp [TableWrite.run]
      · exact absurd (if_neg hid) hchanged

end Writes

/-! ## What the parties owe each other -/

namespace Sync

/-- The rows in `dirty` have been written since they were last published; some writer will still announce each of
them as it is. -/
def Owed {W : Type} (s : Sync W) (dirty : Set GoString) : Prop :=
  ∀ id ∈ dirty,
    (s.table.get? id = none → ∃ w, .deleted id ∈ (s.writers w).todo) ∧
      (s.table.get? id ≠ none → ∃ w, .saved id ∈ (s.writers w).todo ∨ ∃ row ∈ (s.writers w).row, row.id = id)

/-- For every other row the browser has what the table says, or the stream will still tell it. -/
structure Mirrored {W : Type} (rfc3339 : Int → GoString) (s : Sync W) (dirty : Set GoString) : Prop where
  distinct : DistinctIds s.hook.containers
  answer : ∀ items ∈ s.fetch.answer?, DistinctIds items
  timers : s.hook.TimersInv
  offline : s.connected = false → s.stream = []
  told : ∀ id ∉ dirty, ∀ change, lastChange? s.changes id = some change → change.row? = s.entry rfc3339 id
  removal : ∀ id ∉ dirty, lastChange? s.changes id = none → s.hook.Removing id → s.entry rfc3339 id = none
  read : ∀ id ∉ dirty, lastChange? s.changes id = none →
    ∀ items ∈ s.fetch.answer?, (items.find? fun c => c.id = id) = s.entry rfc3339 id
  shown : ∀ id ∉ dirty, lastChange? s.changes id = none → s.fetch = .applied → ¬ s.hook.Removing id →
    s.hook.row? id = s.entry rfc3339 id

variable {W : Type} {rfc3339 : Int → GoString} {s next : Sync W} {dirty : Set GoString}

/-- More rows may be written, as long as the others stay as they are. -/
theorem Mirrored.write (hinv : s.Mirrored rfc3339 dirty) {table : Containers} {writers : W → Writer} :
    Mirrored rfc3339 { s with table := table, writers := writers }
      (dirty ∪ { id | table.get? id ≠ s.table.get? id }) := by
  have hentry : ∀ id ∉ dirty ∪ { id | table.get? id ≠ s.table.get? id },
      id ∉ dirty ∧ ({ s with table := table, writers := writers } : Sync W).entry rfc3339 id = s.entry rfc3339 id := by
    intro id hid
    simp only [Set.mem_union, Set.mem_ofPred_eq, not_or, not_not] at hid
    exact ⟨hid.1, congrArg (Option.map _) hid.2⟩
  refine ⟨hinv.distinct, hinv.answer, hinv.timers, hinv.offline, ?_, ?_, ?_, ?_⟩
  · intro id hid
    rw [(hentry id hid).2]
    exact hinv.told id (hentry id hid).1
  · intro id hid
    rw [(hentry id hid).2]
    exact hinv.removal id (hentry id hid).1
  · intro id hid
    rw [(hentry id hid).2]
    exact hinv.read id (hentry id hid).1
  · intro id hid
    rw [(hentry id hid).2]
    exact hinv.shown id (hentry id hid).1

theorem Owed.write [DecidableEq W] (howed : s.Owed dirty) {table : Containers} {w : W} {todo : List Announcement}
    (hidle : s.writers w = .idle) (hcovers : Covers s.table table todo) :
    Owed { s with table := table, writers := Function.update s.writers w ⟨none, todo⟩ }
      (dirty ∪ { id | table.get? id ≠ s.table.get? id }) := by
  have hothers : ∀ w', w' ≠ w → Function.update s.writers w ⟨none, todo⟩ w' = s.writers w' :=
    fun w' hw => Function.update_of_ne hw _ _
  intro id hid
  by_cases hchanged : table.get? id = s.table.get? id
  · have hdirty : id ∈ dirty := by
      simpa [hchanged] using hid
    obtain ⟨hdeleted, hsaved⟩ := howed id hdirty
    rw [← hchanged] at hdeleted hsaved
    constructor
    · intro hnone
      obtain ⟨w', hw'⟩ := hdeleted hnone
      refine ⟨w', ?_⟩
      have hne : w' ≠ w := by
        rintro rfl
        rw [hidle] at hw'
        cases hw'
      show _ ∈ (Function.update s.writers w _ w').todo
      rw [hothers w' hne]
      exact hw'
    · intro hthere
      obtain ⟨w', hw'⟩ := hsaved hthere
      refine ⟨w', ?_⟩
      have hne : w' ≠ w := by
        rintro rfl
        rw [hidle] at hw'
        rcases hw' with hw' | ⟨row, hrow, -⟩
        · cases hw'
        · cases hrow
      show _ ∈ (Function.update s.writers w _ w').todo ∨ ∃ row ∈ (Function.update s.writers w _ w').row, _
      rw [hothers w' hne]
      exact hw'
  · obtain ⟨hdeleted, hsaved⟩ := hcovers id hchanged
    refine ⟨fun hnone => ⟨w, ?_⟩, fun hthere => ⟨w, Or.inl ?_⟩⟩
    · show _ ∈ (Function.update s.writers w _ w).todo
      rw [Function.update_self]
      exact hdeleted hnone
    · show _ ∈ (Function.update s.writers w _ w).todo
      rw [Function.update_self]
      exact hsaved hthere

/-- One writer goes on; what it no longer announces is not dirty, or not as it announced it. -/
theorem Owed.moved [DecidableEq W] (howed : s.Owed dirty) {dirty' : Set GoString} (hless : dirty' ⊆ dirty) {w : W}
    {writer : Writer} (htable : next.table = s.table) (hwriters : next.writers = Function.update s.writers w writer)
    (hdeleted : ∀ id ∈ dirty', s.table.get? id = none → .deleted id ∈ (s.writers w).todo → .deleted id ∈ writer.todo)
    (hsaved : ∀ id ∈ dirty', s.table.get? id ≠ none →
      (.saved id ∈ (s.writers w).todo ∨ ∃ row ∈ (s.writers w).row, row.id = id) →
      (.saved id ∈ writer.todo ∨ ∃ row ∈ writer.row, row.id = id)) : next.Owed dirty' := by
  intro id hid
  rw [htable, hwriters]
  constructor
  · intro hnone
    obtain ⟨w', hw'⟩ := (howed id (hless hid)).1 hnone
    refine ⟨w', ?_⟩
    by_cases hsame : w' = w
    · subst hsame
      rw [Function.update_self]
      exact hdeleted id hid hnone hw'
    · rw [Function.update_of_ne hsame]
      exact hw'
  · intro hthere
    obtain ⟨w', hw'⟩ := (howed id (hless hid)).2 hthere
    refine ⟨w', ?_⟩
    by_cases hsame : w' = w
    · subst hsame
      rw [Function.update_self]
      exact hsaved id hid hthere hw'
    · rw [Function.update_of_ne hsame]
      exact hw'

/-- A writer that finds no row has nothing to publish, and nobody relied on it. -/
theorem Owed.reread [DecidableEq W] (howed : s.Owed dirty) {w : W} {target : GoString} {todo : List Announcement}
    (hwriter : s.writers w = ⟨none, .saved target :: todo⟩) :
    Owed { s with writers := Function.update s.writers w ⟨s.table.getContainer target, todo⟩ } dirty := by
  refine howed.moved (Set.Subset.refl dirty) rfl rfl ?_ ?_
  · intro id hid hnone htodo
    rw [hwriter] at htodo
    exact (List.mem_cons.mp htodo).resolve_left nofun
  · intro id hid hthere hsaved
    rw [hwriter] at hsaved
    rcases hsaved with htodo | ⟨row, hrow, -⟩
    · rcases List.mem_cons.mp htodo with heq | hrest
      · cases heq
        obtain ⟨row, hrow⟩ := Option.ne_none_iff_exists'.mp hthere
        exact Or.inr ⟨row, hrow, (KeyedTable.get?_eq_some_iff.mp hrow).2⟩
      · exact Or.inl hrest
    · cases hrow

/-- What a writer publishes, as a change of the list. -/
theorem change?_publication {w : W} {response : StreamContainersResponse}
    (hresponse : s.publication? rfc3339 w = some response) :
    (∃ row, (s.writers w).row = some row ∧ response.change? = some (.save (shownRow rfc3339 row))) ∨
      ∃ id rest, s.writers w = ⟨none, .deleted id :: rest⟩ ∧ response.change? = some (.delete id) := by
  unfold publication? at hresponse
  split at hresponse
  · rename_i row todo hwriter
    cases hresponse
    refine Or.inl ⟨row, by rw [hwriter], ?_⟩
    unfold StreamContainersResponse.change?
    rw [if_neg (show str "save" ≠ str "delete" by decide), if_pos rfl]
    rfl
  · rename_i id rest hwriter
    cases hresponse
    refine Or.inr ⟨id, rest, hwriter, ?_⟩
    unfold StreamContainersResponse.change?
    rw [if_pos rfl]
  · cases hresponse

/-- The announcements that are left when a writer has published one of them. -/
theorem Owed.publish [DecidableEq W] (howed : s.Owed dirty) {w : W} {response : StreamContainersResponse}
    {change : Change} {stream : List StreamContainersResponse} (hresponse : s.publication? rfc3339 w = some response)
    (hchange : response.change? = some change) :
    Owed { s with writers := Function.update s.writers w (afterPublication (s.writers w)), stream := stream }
      (dirty \ {change.id}) := by
  rcases change?_publication hresponse with ⟨row, hrow, hsave⟩ | ⟨target, rest, hwriter, hdelete⟩
  · rw [hchange] at hsave
    cases hsave
    have hafter : afterPublication (s.writers w) = ⟨none, (s.writers w).todo⟩ := by
      cases hwriter : s.writers w with
      | mk row' todo =>
          rw [hwriter] at hrow
          cases hrow
          rfl
    refine howed.moved Set.sdiff_subset rfl rfl ?_ ?_
    · intro id hid hnone htodo
      rw [hafter]
      exact htodo
    · rintro id ⟨-, hid⟩ hthere hsaved
      rw [hafter]
      refine Or.inl (hsaved.resolve_right ?_)
      rintro ⟨other, hother, rfl⟩
      rw [hrow] at hother
      cases hother
      exact hid rfl
  · rw [hchange] at hdelete
    cases hdelete
    refine howed.moved Set.sdiff_subset rfl rfl ?_ ?_
    · rintro id ⟨-, hid⟩ hnone htodo
      rw [hwriter] at htodo ⊢
      refine (List.mem_cons.mp htodo).resolve_left fun heq => ?_
      cases heq
      exact hid rfl
    · intro id hid hthere hsaved
      rw [hwriter] at hsaved ⊢
      rcases hsaved with htodo | ⟨row, hrow, -⟩
      · exact Or.inl ((List.mem_cons.mp htodo).resolve_left nofun)
      · cases hrow

/-- The stream with one more response at its end. -/
theorem lastChange?_published {writers : W → Writer} {response : StreamContainersResponse} {change : Change}
    (hchange : response.change? = some change) (id : GoString) :
    lastChange? ({ s with writers := writers, stream := s.stream ++ [response] } : Sync W).changes id =
      if change.id = id then some change else lastChange? s.changes id := by
  have hchanges : ({ s with writers := writers, stream := s.stream ++ [response] } : Sync W).changes =
      s.changes ++ [change] := by
    simp [changes, List.filterMap_append, hchange]
  rw [hchanges, lastChange?_append]

/-- What is published is the last that the browser is told about the container. -/
theorem Mirrored.published (hinv : s.Mirrored rfc3339 dirty) {writers : W → Writer}
    {response : StreamContainersResponse} {change : Change} (hconnected : s.connected = true)
    (hchange : response.change? = some change) (hfresh : change.row? = s.entry rfc3339 change.id) :
    Mirrored rfc3339 { s with writers := writers, stream := s.stream ++ [response] } (dirty \ {change.id}) := by
  have hclean : ∀ {id}, id ∉ dirty \ {change.id} → change.id ≠ id → id ∉ dirty :=
    fun hid hne hmem => hid ⟨hmem, Ne.symm hne⟩
  refine ⟨hinv.distinct, hinv.answer, hinv.timers, ?_, ?_, ?_, ?_, ?_⟩
  · intro hoffline
    rw [show _ = false from hoffline] at hconnected
    cases hconnected
  · intro id hid last hlast
    rw [lastChange?_published hchange] at hlast
    split at hlast
    · rename_i hsame
      cases hlast
      exact hsame ▸ hfresh
    · rename_i hne
      exact hinv.told id (hclean hid hne) last hlast
  all_goals
    intro id hid hnone
    rw [lastChange?_published hchange] at hnone
    split at hnone
    · cases hnone
    rename_i hne
  · exact hinv.removal id (hclean hid hne) hnone
  · exact hinv.read id (hclean hid hne) hnone
  · exact hinv.shown id (hclean hid hne) hnone

/-- While the stream is cut off the browser need not be told what it knows. -/
theorem Mirrored.known (hinv : s.Mirrored rfc3339 dirty) {writers : W → Writer} {change : Change}
    (hstream : s.stream = []) (hfresh : change.row? = s.entry rfc3339 change.id) (hknows : s.Knows change) :
    Mirrored rfc3339 { s with writers := writers } (dirty \ {change.id}) := by
  obtain ⟨hstays, hknown⟩ := hknows
  have hnothing : ∀ id, lastChange? s.changes id = none := by
    intro id
    rw [changes, hstream]
    rfl
  have hclean : ∀ {id}, id ∉ dirty \ {change.id} → id ≠ change.id → id ∉ dirty := fun hid hne hmem => hid ⟨hmem, hne⟩
  refine ⟨hinv.distinct, hinv.answer, hinv.timers, hinv.offline, ?_, ?_, ?_, ?_⟩
  · intro id hid last hlast
    exact absurd ((hnothing id).symm.trans hlast) nofun
  · intro id hid hnone hremoving
    by_cases hsame : id = change.id
    · exact absurd (hsame ▸ hremoving) hstays
    · exact hinv.removal id (hclean hid hsame) hnone hremoving
  · intro id hid hnone items hitems
    by_cases hsame : id = change.id
    · subst hsame
      refine (hknown _ ?_).trans hfresh
      unfold known?
      cases hfetch : s.fetch <;> simp_all [FetchStage.answer?]
    · exact hinv.read id (hclean hid hsame) hnone items hitems
  · intro id hid hnone happlied hremoving
    by_cases hsame : id = change.id
    · subst hsame
      refine (hknown _ ?_).trans hfresh
      unfold known?
      rw [show s.fetch = .applied from happlied]
      rfl
    · exact hinv.shown id (hclean hid hsame) hnone happlied hremoving

/-! ## What the steps of the browser keep -/

/-- The answer of `listContainers` has the rows of the table. -/
theorem distinctIds_listing {rows : List Db.Container} (hlisting : s.table.IsListing rows) :
    DistinctIds (rows.map (shownRow rfc3339)) := by
  have hids : (rows.map (shownRow rfc3339)).map Container.id = rows.map Db.Container.id := by
    rw [List.map_map]
    rfl
  rw [DistinctIds, hids]
  exact (hlisting.1.map Db.Container.id).nodup_iff.mpr s.table.nodup

theorem find?_listing {rows : List Db.Container} (hlisting : s.table.IsListing rows) (id : GoString) :
    ((rows.map (shownRow rfc3339)).find? fun c => c.id = id) = s.entry rfc3339 id := by
  cases hentry : s.entry rfc3339 id with
  | none =>
      rw [find?_id_eq_none]
      intro hmem
      obtain ⟨row, hrow, rfl⟩ := List.mem_map.mp hmem
      obtain ⟨record, hrecord, rfl⟩ := List.mem_map.mp hrow
      have hnone := KeyedTable.get?_eq_none_iff.mp (Option.map_eq_none_iff.mp hentry)
      exact hnone record (hlisting.1.mem_iff.mp hrecord) rfl
  | some row =>
      obtain ⟨record, hrecord, rfl⟩ := Option.map_eq_some_iff.mp hentry
      obtain ⟨hmem, hkey⟩ := KeyedTable.get?_eq_some_iff.mp hrecord
      rw [← hkey]
      exact find?_id_eq_some (distinctIds_listing hlisting)
        (List.mem_map_of_mem (hlisting.1.mem_iff.mpr hmem))

theorem Mirrored.listContainers (hinv : s.Mirrored rfc3339 dirty) {rows : List Db.Container}
    (hlisting : s.table.IsListing rows) :
    Mirrored rfc3339 { s with fetch := .read (rows.map (shownRow rfc3339)) } dirty := by
  refine ⟨hinv.distinct, ?_, hinv.timers, hinv.offline, hinv.told, hinv.removal, ?_, nofun⟩
  · intro items hitems
    cases hitems
    exact distinctIds_listing hlisting
  · intro id _ _ items hitems
    cases hitems
    exact find?_listing hlisting id

theorem Mirrored.setContainers (hinv : s.Mirrored rfc3339 dirty) {items : List Container}
    (hfetch : s.fetch = .read items) :
    Mirrored rfc3339 { s with fetch := .applied, hook := { s.hook with containers := items } } dirty := by
  have hitems : items ∈ s.fetch.answer? := by
    rw [hfetch]
    rfl
  refine ⟨hinv.answer items hitems, nofun, ⟨hinv.timers.nodup, hinv.timers.fresh⟩, hinv.offline, hinv.told,
    hinv.removal, nofun, ?_⟩
  intro id hid hnone _ _
  exact hinv.read id hid hnone items hitems

theorem Mirrored.connect (hinv : s.Mirrored rfc3339 dirty) :
    Mirrored rfc3339 { s with connected := true } dirty :=
  ⟨hinv.distinct, hinv.answer, hinv.timers, nofun, hinv.told, hinv.removal, hinv.read, hinv.shown⟩

/-- What is lost with the stream was known. -/
theorem Mirrored.disconnect (hinv : s.Mirrored rfc3339 dirty)
    (hsafe : ∀ change ∈ s.changes, lastChange? s.changes change.id = some change → s.Knows change) :
    Mirrored rfc3339 { s with connected := false, stream := [] } dirty := by
  have hknows : ∀ id ∉ dirty, lastChange? s.changes id = none ∨
      ¬ s.hook.Removing id ∧ ∀ row ∈ s.known? id, row = s.entry rfc3339 id := by
    intro id hid
    cases hlast : lastChange? s.changes id with
    | none => exact Or.inl rfl
    | some change =>
        obtain ⟨hmem, rfl⟩ := id_of_lastChange? hlast
        obtain ⟨hstays, hknown⟩ := hsafe change hmem hlast
        refine Or.inr ⟨hstays, fun row hrow => ?_⟩
        rw [hknown row hrow, hinv.told change.id hid change hlast]
  refine ⟨hinv.distinct, hinv.answer, hinv.timers, fun _ => rfl, nofun, ?_, ?_, ?_⟩
  · intro id hid _ hremoving
    rcases hknows id hid with hnone | ⟨hstays, -⟩
    · exact hinv.removal id hid hnone hremoving
    · exact absurd hremoving hstays
  · intro id hid _ items hitems
    rcases hknows id hid with hnone | ⟨-, hknown⟩
    · exact hinv.read id hid hnone items hitems
    · refine hknown _ ?_
      unfold known?
      cases hfetch : s.fetch <;> simp_all [FetchStage.answer?]
  · intro id hid _ happlied hstays
    rcases hknows id hid with hnone | ⟨-, hknown⟩
    · exact hinv.shown id hid hnone happlied hstays
    · refine hknown _ ?_
      unfold known?
      rw [show s.fetch = .applied from happlied]
      rfl

/-- A timer that fires removes a row that the table does not have. -/
theorem Mirrored.fire (hinv : s.Mirrored rfc3339 dirty) {timer : DeleteTimer} (htimer : timer ∈ s.hook.timers) :
    Mirrored rfc3339 { s with hook := s.hook.fire timer } dirty := by
  have hstep : s.hook.step (.fire timer) = some (s.hook.fire timer) := if_pos htimer
  refine ⟨HookState.distinctIds_step hinv.distinct hstep, hinv.answer, HookState.timersInv_step hinv.timers hstep,
    hinv.offline, hinv.told, ?_, hinv.read, ?_⟩
  · rintro id hid hnone ⟨other, hother, hsame⟩
    exact hinv.removal id hid hnone ⟨other, (HookState.mem_timers_fire.mp hother).1, hsame⟩
  · intro id hid hnone happlied hstays
    show (s.hook.fire timer).row? id = _
    rw [HookState.row?_fire]
    by_cases hsame : id = timer.containerId
    · rw [if_pos hsame]
      exact (hinv.removal id hid hnone ⟨timer, htimer, hsame.symm⟩).symm
    · rw [if_neg hsame]
      refine hinv.shown id hid hnone happlied ?_
      rintro ⟨other, hother, hcontainer⟩
      refine hstays ⟨other, HookState.mem_timers_fire.mpr ⟨hother, fun heq => hsame ?_⟩, hcontainer⟩
      rw [← hcontainer, hinv.timers.eq_of_timeoutId htimer hother heq]

/-- A response that is applied leaves the browser with what the table says about its container, unless the stream
still tells it, and takes nothing away from the others. -/
theorem Mirrored.deliver (hinv : s.Mirrored rfc3339 dirty) {response : StreamContainersResponse}
    {rest : List StreamContainersResponse} {change : Change} (hstream : s.stream = response :: rest)
    (hchange : response.change? = some change)
    (happlies : s.Applies change (rest.filterMap StreamContainersResponse.change?)) :
    Mirrored rfc3339 { s with stream := rest, hook := s.hook.change change } dirty := by
  obtain ⟨hown, hothers⟩ := happlies
  have hchanges : s.changes = change :: rest.filterMap StreamContainersResponse.change? := by
    rw [changes, hstream, List.filterMap_cons, hchange]
  have hlast : ∀ id, lastChange? s.changes id =
      (lastChange? (rest.filterMap StreamContainersResponse.change?) id).or
        (if change.id = id then some change else none) := by
    intro id
    rw [hchanges, lastChange?_cons]
  have hrest : ∀ {id}, id ≠ change.id →
      lastChange? (rest.filterMap StreamContainersResponse.change?) id = none → lastChange? s.changes id = none := by
    intro id hid hnone
    rw [hlast, hnone, if_neg (Ne.symm hid)]
    rfl
  -- the table says of the container what the last change about it says
  have hentry : ∀ id ∉ dirty, id = change.id →
      lastChange? (rest.filterMap StreamContainersResponse.change?) id = none →
        change.row? = s.entry rfc3339 id := by
    intro id hid hsame hnone
    refine hinv.told id hid change ?_
    rw [hlast, hnone, if_pos hsame.symm]
    rfl
  refine ⟨HookState.distinctIds_change hinv.distinct, hinv.answer, hinv.timers.change change, ?_, ?_, ?_, ?_, ?_⟩
  · intro hoffline
    rw [hinv.offline hoffline] at hstream
    cases hstream
  · intro id hid last hsome
    refine hinv.told id hid last ?_
    replace hsome : lastChange? (rest.filterMap StreamContainersResponse.change?) id = some last := hsome
    rw [hlast, hsome]
    rfl
  · intro id hid hnone hremoving
    show s.entry rfc3339 id = none
    by_cases hsame : id = change.id
    · rw [← hentry id hid hsame hnone]
      subst hsame
      cases change with
      | delete containerId => rfl
      | save mapped =>
          -- the timers of the saved container have been found under its name
          obtain ⟨timer, htimer, hcontainer⟩ := hremoving
          obtain ⟨hold, hkept⟩ := HookState.mem_timers_save.mp htimer
          exact absurd ((hown hnone).1 nofun timer hold hcontainer) hkept
    · exact hinv.removal id hid (hrest hsame hnone) (HookState.removing_of_change hsame hremoving)
  · intro id hid hnone items hitems
    show _ = s.entry rfc3339 id
    by_cases hsame : id = change.id
    · rw [← hentry id hid hsame hnone]
      subst hsame
      exact (hown hnone).2 items hitems
    · exact hinv.read id hid (hrest hsame hnone) items hitems
  · intro id hid hnone happlied hstays
    show (s.hook.change change).row? id = s.entry rfc3339 id
    by_cases hsame : id = change.id
    · rw [← hentry id hid hsame hnone]
      subst hsame
      cases change with
      | delete containerId => exact HookState.removal_of_delete.resolve_right hstays
      | save mapped => exact (HookState.row?_save hinv.distinct).trans (if_pos rfl)
    · obtain ⟨htakes, hstrands⟩ := hothers happlied
      by_cases hremoving : s.hook.Removing id
      · obtain ⟨timer, htimer, rfl⟩ := hremoving
        have hgone := HookState.removal_of_not_strands hinv.distinct hsame (hstrands timer htimer hnone)
        rw [hgone.resolve_right hstays]
        exact (hinv.removal _ hid (hrest hsame hnone) ⟨timer, htimer, rfl⟩).symm
      · have htaken : s.hook.replacedBy? change ≠ some id := by
          intro hreplaced
          exact hremoving (htakes id hreplaced hnone)
        rw [HookState.row?_change_of_ne hinv.distinct hsame, if_neg htaken]
        exact hinv.shown id hid (hrest hsame hnone) happlied hremoving

/-- A response that the reducer drops. -/
theorem Mirrored.drop (hinv : s.Mirrored rfc3339 dirty) {response : StreamContainersResponse}
    {rest : List StreamContainersResponse} (hstream : s.stream = response :: rest) (hnone : response.change? = none) :
    Mirrored rfc3339 { s with stream := rest } dirty := by
  have hchanges : s.changes = rest.filterMap StreamContainersResponse.change? := by
    rw [changes, hstream, List.filterMap_cons, hnone]
  have hlast : ∀ id, lastChange? ({ s with stream := rest } : Sync W).changes id = lastChange? s.changes id := by
    intro id
    rw [hchanges]
    rfl
  refine ⟨hinv.distinct, hinv.answer, hinv.timers, fun hoffline => ?_, fun id hid change hsome => ?_,
    fun id hid hnothing => ?_, fun id hid hnothing => ?_, fun id hid hnothing => ?_⟩
  · have hempty := hinv.offline hoffline
    rw [hstream] at hempty
    cases hempty
  · exact hinv.told id hid change ((hlast id).symm.trans hsome)
  · exact hinv.removal id hid ((hlast id).symm.trans hnothing)
  · exact hinv.read id hid ((hlast id).symm.trans hnothing)
  · exact hinv.shown id hid ((hlast id).symm.trans hnothing)

/-! ## Every run -/

/-- The parties owe each other what the browser does not have. -/
def Inv (rfc3339 : Int → GoString) (s : Sync W) : Prop := ∃ dirty, s.Owed dirty ∧ s.Mirrored rfc3339 dirty

theorem inv_start (table : Containers) : Inv rfc3339 (start table : Sync W) := by
  refine ⟨∅, fun id hid => absurd hid (Set.notMem_empty id), ?_⟩
  refine ⟨List.nodup_nil, nofun, HookState.timersInv_start [], fun _ => rfl, nofun, ?_, nofun, nofun⟩
  rintro id _ _ ⟨timer, htimer, -⟩
  cases htimer

theorem inv_step [DecidableEq W] {label : SyncLabel W} (hinv : Inv rfc3339 s) (hsafe : s.Safe rfc3339 label)
    (hstep : s.step rfc3339 label = some next) : Inv rfc3339 next := by
  obtain ⟨dirty, howed, hmirrored⟩ := hinv
  cases label with
  | write w write now =>
      obtain ⟨hidle, heq⟩ := Option.ite_none_right_eq_some.mp hstep
      cases heq
      exact ⟨_, howed.write hidle (covers_run write s.table now), hmirrored.write⟩
  | reread w =>
      simp only [step] at hstep
      split at hstep
      · rename_i hwriter
        cases hstep
        refine ⟨dirty, howed.reread hwriter, ?_⟩
        exact ⟨hmirrored.distinct, hmirrored.answer, hmirrored.timers, hmirrored.offline, hmirrored.told,
          hmirrored.removal, hmirrored.read, hmirrored.shown⟩
      · cases hstep
  | publish w =>
      obtain ⟨response, hresponse, rfl⟩ := Option.map_eq_some_iff.mp hstep
      obtain ⟨change, hchange⟩ : ∃ change, response.change? = some change := by
        rcases change?_publication hresponse with ⟨row, -, hchange⟩ | ⟨id, rest, -, hchange⟩
        · exact ⟨_, hchange⟩
        · exact ⟨_, hchange⟩
      -- a message with the row as it is pays what was owed for its id
      obtain ⟨hfresh, hreaches⟩ := hsafe response hresponse change hchange
      refine ⟨dirty \ {change.id}, howed.publish hresponse hchange, ?_⟩
      by_cases hconnected : s.connected = true
      · rw [if_pos hconnected]
        exact hmirrored.published hconnected hchange hfresh
      · rw [if_neg hconnected]
        exact hmirrored.known (hmirrored.offline (by simpa using hconnected)) hfresh (hreaches.resolve_left hconnected)
  | listContainers rows =>
      obtain ⟨⟨-, hlisting⟩, heq⟩ := Option.ite_none_right_eq_some.mp hstep
      cases heq
      exact ⟨dirty, howed, hmirrored.listContainers hlisting⟩
  | setContainers =>
      simp only [step] at hstep
      split at hstep
      · rename_i items hfetch
        cases hstep
        exact ⟨dirty, howed, hmirrored.setContainers hfetch⟩
      · cases hstep
  | connect =>
      simp only [step] at hstep
      split at hstep
      · cases hstep
      · cases hstep
        exact ⟨dirty, howed, hmirrored.connect⟩
  | disconnect =>
      obtain ⟨-, heq⟩ := Option.ite_none_right_eq_some.mp hstep
      cases heq
      exact ⟨dirty, howed, hmirrored.disconnect hsafe⟩
  | deliver =>
      simp only [step] at hstep
      split at hstep
      · cases hstep
      · rename_i response rest hstream
        cases hstep
        refine ⟨dirty, howed, ?_⟩
        simp only [Safe, hstream, List.head?_cons, List.tail_cons] at hsafe
        unfold HookState.reduce
        split
        · rename_i change hchange
          exact hmirrored.deliver hstream hchange (hsafe response rfl change hchange)
        · rename_i hnone
          exact hmirrored.drop hstream hnone
  | fire timer =>
      obtain ⟨hook, hhook, rfl⟩ := Option.map_eq_some_iff.mp hstep
      obtain ⟨htimer, heq⟩ := Option.ite_none_right_eq_some.mp hhook
      cases heq
      exact ⟨dirty, howed, hmirrored.fire htimer⟩

/-- When nothing is left to do, nobody owes anything, and the list has the rows of the table. -/
theorem Inv.perm_of_settled (hinv : Inv rfc3339 s) (hsettled : s.Settled) :
    s.hook.containers.Perm (s.table.rows.map (shownRow rfc3339)) := by
  obtain ⟨dirty, howed, hmirrored⟩ := hinv
  obtain ⟨hidle, -, hstream, htimers, happlied⟩ := hsettled
  have hclean : ∀ id, id ∉ dirty := by
    intro id hid
    obtain ⟨hdeleted, hsaved⟩ := howed id hid
    by_cases hnone : s.table.get? id = none
    · obtain ⟨w, hw⟩ := hdeleted hnone
      rw [hidle] at hw
      cases hw
    · obtain ⟨w, hw⟩ := hsaved hnone
      rw [hidle] at hw
      rcases hw with hw | ⟨row, hrow, -⟩
      · cases hw
      · cases hrow
  have hrow : ∀ id, s.hook.row? id = s.entry rfc3339 id := by
    intro id
    refine hmirrored.shown id (hclean id) ?_ happlied ?_
    · rw [changes, hstream]
      rfl
    · rintro ⟨timer, htimer, -⟩
      rw [htimers] at htimer
      cases htimer
  have htable : DistinctIds (s.table.rows.map (shownRow rfc3339)) := by
    rw [DistinctIds, List.map_map]
    exact s.table.nodup
  refine (List.perm_ext_iff_of_nodup (List.Nodup.of_map _ hmirrored.distinct) (List.Nodup.of_map _ htable)).mpr ?_
  intro row
  constructor
  · intro hmem
    have hentry := (hrow row.id).symm.trans (find?_id_eq_some hmirrored.distinct hmem)
    obtain ⟨record, hrecord, rfl⟩ := Option.map_eq_some_iff.mp hentry
    exact List.mem_map_of_mem (KeyedTable.get?_eq_some_iff.mp hrecord).1
  · intro hmem
    obtain ⟨record, hrecord, rfl⟩ := List.mem_map.mp hmem
    have hget : s.table.getContainer record.id = some record := KeyedTable.get?_eq_some_iff.mpr ⟨hrecord, rfl⟩
    have hentry := hrow record.id
    rw [entry, hget] at hentry
    exact List.mem_of_find?_eq_some hentry

/-- After a run of safe steps the list has exactly the rows of the table, with the same values, once everything has
been written, published, delivered and removed. -/
theorem converges [DecidableEq W] (rfc3339 : Int → GoString) (table : Containers) (labels : List (SyncLabel W))
    (final : Sync W) (hsafe : Guarded (step rfc3339) (Safe rfc3339) (start table) labels)
    (hrun : exec (step rfc3339) (start table) labels = some final) (hsettled : final.Settled) :
    final.hook.containers.Perm (final.table.rows.map (shownRow rfc3339)) ∧
      List.Forall₂ (Container.Shows rfc3339) final.table.rows (final.table.rows.map (shownRow rfc3339)) := by
  have hinv : Inv rfc3339 final :=
    exec_invariant_of_guarded (Inv rfc3339) (fun _ _ _ => inv_step) hsafe hrun (inv_start table)
  exact ⟨hinv.perm_of_settled hsettled,
    List.forall₂_map_right_iff.mpr (List.forall₂_same.mpr fun r _ => shows_shownRow rfc3339 r)⟩

/-- The row of a running container. -/
def tableRow (id name : GoString) (autoUpdate : Int) : Db.Container where
  id := id
  name := name
  image := str "nginx:latest"
  imageID := str "sha256:1"
  state := str "running"
  autoUpdate := autoUpdate
  updateAvailable := 0
  latestImageDigest := none
  lastCheckedAt := none
  lastUpdatedAt := none
  createdAt := 0
  updatedAt := 0

def twoRows : Containers where
  rows := [tableRow (str "b") (str "db") 0, tableRow (str "a") (str "web") 0]
  nodup := by decide

/-- One writer removes a container, another one changes the settings of the second one; the browser reads the table
in between. -/
def mountedRun : List (SyncLabel Bool) :=
  [.connect, .write true (.setContainerAutoUpdate (str "a") 1) 0,
    .listContainers [tableRow (str "b") (str "db") 0, tableRow (str "a") (str "web") 1],
    .reread true, .publish true, .deliver, .setContainers,
    .write false (.deleteContainer (str "b")) 0, .publish false, .deliver, .fire ⟨1, str "b", str "db"⟩]

theorem exec_mountedRun :
    (exec (step fun _ => []) (start twoRows) mountedRun).map
        (fun s => (decide (s.writers = fun _ => .idle) && s.connected &&
            decide (s.stream = [] ∧ s.hook.timers = [] ∧ s.fetch = .applied),
          s.hook.containers.map Container.id, s.table.rows)) =
      some (true, [str "a"], [tableRow (str "a") (str "web") 1]) := by
  decide +kernel

theorem converges_mountedRun :
    Guarded (step fun _ => []) (Safe fun _ => []) (start twoRows) mountedRun ∧
      ∃ final, exec (step fun _ => []) (start twoRows) mountedRun = some final ∧ final.Settled ∧
        final.table.rows = [tableRow (str "a") (str "web") 1] ∧
        final.hook.containers.Perm (final.table.rows.map (shownRow fun _ => [])) ∧
        List.Forall₂ (Container.Shows fun _ => []) final.table.rows (final.table.rows.map (shownRow fun _ => [])) := by
  have hsafe : Guarded (step fun _ => []) (Safe fun _ => []) (start twoRows) mountedRun := by decide +kernel
  obtain ⟨final, hfinal, hend⟩ := Option.map_eq_some_iff.mp exec_mountedRun
  simp only [Prod.mk.injEq, Bool.and_eq_true, decide_eq_true_eq] at hend
  obtain ⟨⟨⟨hidle, hconnected⟩, hstream, htimers, happlied⟩, -, hrows⟩ := hend
  have hsettled : final.Settled := ⟨congrFun hidle, hconnected, hstream, htimers, happlied⟩
  exact ⟨hsafe, final, hfinal, hsettled, hrows, converges _ twoRows mountedRun final hsafe hfinal hsettled⟩

/-- A write while the stream is cut off. -/
def reconnectedRun : List (SyncLabel Bool) :=
  [.listContainers [tableRow (str "b") (str "db") 0, tableRow (str "a") (str "web") 0], .setContainers,
    .connect, .disconnect, .write true (.setContainerAutoUpdate (str "a") 1) 0, .reread true, .publish true,
    .connect]

theorem exec_reconnectedRun :
    (exec (step fun _ => []) (start twoRows) reconnectedRun).map
        (fun s => (decide (s.writers = fun _ => .idle) && s.connected &&
            decide (s.stream = [] ∧ s.hook.timers = [] ∧ s.fetch = .applied),
          s.hook.containers.map Container.autoUpdate, s.table.rows.map Db.Container.autoUpdate)) =
      some (true, [false, false], [0, 1]) := by
  decide +kernel

/-- Everything has come to rest, and the list does not have the row of the table. -/
theorem reconnect_misses_write :
    ∃ final, exec (step fun _ => []) (start twoRows) reconnectedRun = some final ∧ final.Settled ∧
      ¬ final.hook.containers.Perm (final.table.rows.map (shownRow fun _ => [])) := by
  obtain ⟨final, hfinal, hend⟩ := Option.map_eq_some_iff.mp exec_reconnectedRun
  simp only [Prod.mk.injEq, Bool.and_eq_true, decide_eq_true_eq] at hend
  obtain ⟨⟨⟨hidle, hconnected⟩, hstream, htimers, happlied⟩, hlist, htable⟩ := hend
  refine ⟨final, hfinal, ⟨congrFun hidle, hconnected, hstream, htimers, happlied⟩, fun hperm => ?_⟩
  have hflags := hperm.map Container.autoUpdate
  have hshown : (final.table.rows.map (shownRow fun _ => [])).map Container.autoUpdate =
      (final.table.rows.map Db.Container.autoUpdate).map fun autoUpdate => decide (autoUpdate ≠ 0) := by
    rw [List.map_map, List.map_map]
    rfl
  rw [hshown, hlist, htable] at hflags
  exact absurd hflags (by decide)

end Sync

end Frontend
end Dmanager
