import Dmanager.Db.Sessions
import Dmanager.Server.Calls

/-!
# The `containers` table

The statements of `internal/db/containers.sql.go` that the modelled code sends, one definition each, over a
table keyed by its primary key `id`.  `now` is the clock of the database, which fills the columns that a
statement sets to `CURRENT_TIMESTAMP`.

Two of the statements are upserts.  `saveContainer` writes every column but the two timestamps, and
`upsertContainerFromEvent` only those that the Docker host knows about, so that a row keeps its
`auto_update` and the result of the last registry check.
-/

namespace Dmanager
namespace Db

open Go Lib

/-- The table: rows with pairwise different container ids. -/
abbrev Containers := KeyedTable Container.id

namespace Containers

/-- `SELECT ... FROM containers WHERE id = ? LIMIT 1`; `none` is `sql.ErrNoRows`. -/
def getContainer (containers : Containers) (id : GoString) : Option Container := containers.get? id

/-- `SELECT ... FROM containers ORDER BY name ASC`: a list is a result of the query if it has the rows of the
table in the order of their names; names are compared byte by byte. -/
def IsListing (containers : Containers) (rows : List Container) : Prop :=
  rows.Perm containers.rows ∧ rows.Pairwise fun earlier later => ¬ later.name < earlier.name

instance (containers : Containers) (rows : List Container) : Decidable (IsListing containers rows) :=
  inferInstanceAs (Decidable (_ ∧ _))

/-- The row that `SaveContainer` leaves, given the one with its id before. -/
def savedRow (arg : SaveContainerParams) (now : Int) (old : Option Container) : Container where
  id := arg.id
  name := arg.name
  image := arg.image
  imageID := arg.imageID
  state := arg.state
  autoUpdate := arg.autoUpdate
  updateAvailable := arg.updateAvailable
  latestImageDigest := arg.latestImageDigest
  lastCheckedAt := arg.lastCheckedAt
  lastUpdatedAt := arg.lastUpdatedAt
  createdAt :=
    match old with
    | none => currentTimestamp now
    | some row => row.createdAt
  updatedAt :=
    match old with
    | none => arg.updatedAt
    | some _ => currentTimestamp now

/-- `INSERT INTO containers (...) VALUES (...) ON CONFLICT(id) DO UPDATE SET ...`, all columns. -/
def saveContainer (containers : Containers) (arg : SaveContainerParams) (now : Int) : Containers :=
  containers.put (savedRow arg now (containers.get? arg.id))

/-- The row that `UpsertContainerFromEvent` leaves, given the one with its id before. -/
def upsertedRow (arg : UpsertContainerFromEventParams) (now : Int) : Option Container → Container
  | none =>
    { id := arg.id
      name := arg.name
      image := arg.image
      imageID := arg.imageID
      state := arg.state
      autoUpdate := 0
      updateAvailable := 0
      latestImageDigest := none
      lastCheckedAt := none
      lastUpdatedAt := none
      createdAt := currentTimestamp now
      updatedAt := currentTimestamp now }
  | some row =>
    { row with
      id := arg.id
      name := arg.name
      image := arg.image
      imageID := arg.imageID
      state := arg.state
      updatedAt := currentTimestamp now }

/-- `INSERT INTO containers (id, name, image, image_id, state) VALUES (...) ON CONFLICT(id) DO UPDATE ...`. -/
def upsertContainerFromEvent (containers : Containers) (arg : UpsertContainerFromEventParams) (now : Int) :
    Containers :=
  containers.put (upsertedRow arg now (containers.get? arg.id))

/-- The number of rows that a statement with `WHERE id = ?` is about. -/
def rowsOf (containers : Containers) (id : GoString) : Nat := if (containers.get? id).isSome then 1 else 0

/-- `UPDATE containers SET auto_update = ?, updated_at = CURRENT_TIMESTAMP WHERE id = ?`. -/
def setContainerAutoUpdate (containers : Containers) (id : GoString) (autoUpdate now : Int) : Containers :=
  containers.update id
    (fun row => { row with autoUpdate := autoUpdate, updatedAt := currentTimestamp now }) fun _ => rfl

/-- `UPDATE containers SET update_available = ?, latest_image_digest = ?, last_checked_at = ?, ...`. -/
def updateContainerUpdateState (containers : Containers) (arg : UpdateContainerUpdateStateParams)
    (now : Int) : Containers :=
  containers.update arg.id
    (fun row =>
      { row with
        updateAvailable := arg.updateAvailable
        latestImageDigest := some arg.latestImageDigest
        lastCheckedAt := some arg.lastCheckedAt
        updatedAt := currentTimestamp now })
    fun _ => rfl

/-- The row of the old container as that of the new one. -/
def upgradedRow (arg : UpdateContainerForUpgradeParams) (now : Int) (row : Container) : Container :=
  { row with
    id := arg.id
    name := arg.name
    image := arg.image
    imageID := arg.imageID
    state := arg.state
    updateAvailable := 0
    lastUpdatedAt := some arg.lastUpdatedAt
    updatedAt := currentTimestamp now }

/-- `UPDATE containers SET id = ?, ..., update_available = 0, ... WHERE id = ?` with the number of rows it
changes; `none` is a violation of the primary key. -/
def updateContainerForUpgrade (containers : Containers) (arg : UpdateContainerForUpgradeParams)
    (now : Int) : Option (Containers × Nat) :=
  match containers.get? arg.oldID with
  | none => some (containers, 0)
  | some row => ((containers.delete arg.oldID).insert? (upgradedRow arg now row)).map fun next => (next, 1)

/-- `DELETE FROM containers WHERE id = ?`. -/
def deleteContainer (containers : Containers) (id : GoString) : Containers := containers.delete id

/-- `DELETE FROM containers WHERE id NOT IN (...)`; without ids the list is `NULL`, and `NOT IN (NULL)` holds
of no row. -/
def deleteOrphanContainers (containers : Containers) (activeIDs : List GoString) : Containers :=
  if activeIDs = [] then containers else containers.deleteWhere fun row => decide (row.id ∉ activeIDs)

/-! ## What the statements do to the row of an id -/

variable {containers : Containers} {now : Int}

theorem get?_saveContainer (arg : SaveContainerParams) (id : GoString) :
    (saveContainer containers arg now).get? id =
      if id = arg.id then some (savedRow arg now (containers.get? arg.id)) else containers.get? id :=
  KeyedTable.get?_put _ id

theorem id_upsertedRow (arg : UpsertContainerFromEventParams) (old : Option Container) :
    (upsertedRow arg now old).id = arg.id := by
  cases old with
  | none => rfl
  | some row => rfl

theorem get?_upsertContainerFromEvent (arg : UpsertContainerFromEventParams) (id : GoString) :
    (upsertContainerFromEvent containers arg now).get? id =
      if id = arg.id then some (upsertedRow arg now (containers.get? arg.id)) else containers.get? id := by
  rw [upsertContainerFromEvent, KeyedTable.get?_put, id_upsertedRow]

theorem get?_setContainerAutoUpdate (target id : GoString) (autoUpdate : Int) :
    (setContainerAutoUpdate containers target autoUpdate now).get? id =
      if id = target then
        (containers.get? id).map fun row =>
          { row with autoUpdate := autoUpdate, updatedAt := currentTimestamp now }
      else containers.get? id :=
  KeyedTable.get?_update id

theorem get?_updateContainerUpdateState (arg : UpdateContainerUpdateStateParams) (id : GoString) :
    (updateContainerUpdateState containers arg now).get? id =
      if id = arg.id then
        (containers.get? id).map fun row =>
          { row with
            updateAvailable := arg.updateAvailable
            latestImageDigest := some arg.latestImageDigest
            lastCheckedAt := some arg.lastCheckedAt
            updatedAt := currentTimestamp now }
      else containers.get? id :=
  KeyedTable.get?_update id

section Upgrade

variable {arg : UpdateContainerForUpgradeParams} {row : Container}

/-- Without a row of the old container nothing changes. -/
theorem updateContainerForUpgrade_of_none (hnone : containers.get? arg.oldID = none) :
    updateContainerForUpgrade containers arg now = some (containers, 0) := by
  rw [updateContainerForUpgrade, hnone]

/-- The primary key is not violated when there is no row of the new container. -/
theorem isSome_updateContainerForUpgrade (hfree : containers.get? arg.id = none) :
    (updateContainerForUpgrade containers arg now).isSome := by
  unfold updateContainerForUpgrade
  split
  · rfl
  · rename_i row hrow
    have hdeleted : (containers.delete arg.oldID).get? arg.id = none := by
      rw [KeyedTable.get?_delete, hfree, ite_self]
    cases hinsert : (containers.delete arg.oldID).insert? (upgradedRow arg now row) with
    | none =>
        obtain ⟨other, hother, hkey⟩ := KeyedTable.insert?_eq_none_iff.mp hinsert
        exact absurd hkey (KeyedTable.get?_eq_none_iff.mp hdeleted other hother)
    | some next => rfl

/-- The row of the old container becomes that of the new one. -/
theorem get?_of_updateContainerForUpgrade {next : Containers} {rows : Nat}
    (hrow : containers.get? arg.oldID = some row)
    (hupdate : updateContainerForUpgrade containers arg now = some (next, rows)) :
    rows = 1 ∧ next.get? arg.id = some (upgradedRow arg now row) := by
  rw [updateContainerForUpgrade, hrow] at hupdate
  obtain ⟨table, hinsert, heq⟩ := Option.map_eq_some_iff.mp hupdate
  cases heq
  exact ⟨rfl, by rw [KeyedTable.get?_of_insert? hinsert]; exact if_pos rfl⟩

/-- All rows after an upgrade that moves one. -/
theorem get?_updateContainerForUpgrade {next : Containers} {rows : Nat}
    (hrow : containers.get? arg.oldID = some row)
    (hupdate : updateContainerForUpgrade containers arg now = some (next, rows)) (id : GoString) :
    next.get? id =
      if arg.id = id then some (upgradedRow arg now row)
      else if id = arg.oldID then none
      else containers.get? id := by
  rw [updateContainerForUpgrade, hrow] at hupdate
  obtain ⟨table, hinsert, heq⟩ := Option.map_eq_some_iff.mp hupdate
  cases heq
  rw [KeyedTable.get?_of_insert? hinsert, KeyedTable.get?_delete]
  rfl

/-- The other rows stay: an update that would meet one of them is refused. -/
theorem get?_updateContainerForUpgrade_of_ne {next : Containers} {rows : Nat} {id : GoString}
    (hupdate : updateContainerForUpgrade containers arg now = some (next, rows)) (hid : id ≠ arg.oldID)
    (hthere : containers.get? id ≠ none) : next.get? id = containers.get? id := by
  have hkept : (containers.delete arg.oldID).get? id = containers.get? id := by
    rw [KeyedTable.get?_delete, if_neg hid]
  cases hrow : containers.get? arg.oldID with
  | none =>
      rw [updateContainerForUpgrade_of_none hrow] at hupdate
      cases hupdate
      rfl
  | some row =>
      rw [updateContainerForUpgrade, hrow] at hupdate
      obtain ⟨table, hinsert, heq⟩ := Option.map_eq_some_iff.mp hupdate
      cases heq
      rw [KeyedTable.get?_of_insert? hinsert, hkept]
      refine if_neg fun hkey => ?_
      -- the row of `id` would have been in the way
      obtain ⟨other, hother⟩ := Option.ne_none_iff_exists'.mp hthere
      rw [← hkept] at hother
      obtain ⟨hmem, hotherKey⟩ := KeyedTable.get?_eq_some_iff.mp hother
      have hrefused := KeyedTable.insert?_eq_none_iff.mpr ⟨other, hmem, hotherKey.trans hkey.symm⟩
      rw [hrefused] at hinsert
      cases hinsert

end Upgrade

end Containers

end Db
end Dmanager
