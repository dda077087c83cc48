import Dmanager.Db.Sessions
import Dmanager.Go.Calendar

/-!
# The `auth_events` table

The statements of `internal/db/auth_events.sql.go` that the modelled code sends.  `user_id` is a foreign key and
may be `NULL`; `id` is an `INTEGER PRIMARY KEY AUTOINCREMENT` with its counter `seq`, as in `Dmanager.Db.Users`.
As for sessions, the comparison of the stored times is SQLite's own and a parameter `sqlLess`, except where a time is
compared with a parameter of a statement.
-/

namespace Dmanager
namespace Db

open Go Lib

/-- `db.AuthEvent`. -/
structure AuthEvent where
  id : Int
  userID : Option Int
  username : GoString
  event : GoString
  detail : GoString
  createdAt : Int
  deriving DecidableEq, Repr

/-- `db.CreateAuthEventParams`. -/
structure CreateAuthEventParams where
  userID : Option Int
  username : GoString
  event : GoString
  detail : GoString
  deriving DecidableEq, Repr

/-- The table, with the counter of its ids. -/
structure AuthEvents where
  table : KeyedTable AuthEvent.id
  seq : Int
  ids_le_seq : ∀ row ∈ table, row.id ≤ seq

namespace AuthEvents

/-- The row that an insert writes at instant `now`. -/
def newRow (events : AuthEvents) (arg : CreateAuthEventParams) (now : Int) : AuthEvent where
  id := events.seq + 1
  userID := arg.userID
  username := arg.username
  event := arg.event
  detail := arg.detail
  createdAt := currentTimestamp now

/-- The table with one more row. -/
def append (events : AuthEvents) (arg : CreateAuthEventParams) (now : Int) : AuthEvents where
  table :=
    { rows := events.table.rows ++ [events.newRow arg now]
      nodup := by
        rw [List.map_append, List.map_singleton, List.nodup_append]
        refine ⟨events.table.nodup, by simp, ?_⟩
        intro taken htaken fresh hfresh heq
        obtain ⟨old, hold, rfl⟩ := List.mem_map.mp htaken
        have hle := events.ids_le_seq old hold
        have hid : old.id = events.seq + 1 := heq.trans (List.mem_singleton.mp hfresh)
        omega }
  seq := events.seq + 1
  ids_le_seq := by
    intro row hrow
    rcases List.mem_append.mp hrow with hold | hnew
    · have hle := events.ids_le_seq row hold
      omega
    · rw [List.mem_singleton.mp hnew]
      exact le_refl _

/-- `INSERT INTO auth_events (user_id, username, event, detail) VALUES (?, ?, ?, ?) RETURNING ...`; `none` is the
violated foreign key. -/
def createAuthEvent (users : Users) (events : AuthEvents) (arg : CreateAuthEventParams) (now : Int) :
    Option AuthEvents :=
  match arg.userID with
  | none => some (events.append arg now)
  | some userID =>
    match users.getUser userID with
    | none => none
    | some _ => some (events.append arg now)

/-- `ORDER BY created_at DESC, id DESC`: the first row comes before the second one. -/
def Before (sqlLess : Int → Int → Bool) (first second : AuthEvent) : Prop :=
  sqlLess second.createdAt first.createdAt = true ∨
    sqlLess first.createdAt second.createdAt = false ∧ second.id < first.id

instance (sqlLess : Int → Int → Bool) (first second : AuthEvent) : Decidable (Before sqlLess first second) :=
  inferInstanceAs (Decidable (_ ∨ _))

/-- `ORDER BY created_at DESC, id DESC LIMIT ? OFFSET ?` on some rows: a part of a list of them whose order the
comparison does not contradict. -/
def IsPage (sqlLess : Int → Int → Bool) (selected : List AuthEvent) (limit offset : Nat) (rows : List AuthEvent) :
    Prop :=
  ∃ ordered : List AuthEvent, ordered.Perm selected ∧
    (ordered.Pairwise fun earlier later => ¬ Before sqlLess later earlier) ∧
    rows = (ordered.drop offset).take limit

/-- The rows of a user, in the order of the table. -/
def ofUser (events : AuthEvents) (userID : Int) : List AuthEvent :=
  events.table.rows.filter fun row => decide (row.userID = some userID)

/-- `DELETE FROM auth_events WHERE created_at < ?`: the text that `CURRENT_TIMESTAMP` wrote is compared with that of the
parameter. -/
def purgeExpiredAuthEvents (events : AuthEvents) (createdAt : GoString) : AuthEvents where
  table := events.table.deleteWhere fun row => decide (dateTime (str " ") row.createdAt < createdAt)
  seq := events.seq
  ids_le_seq row hrow := events.ids_le_seq row (KeyedTable.mem_deleteWhere.mp hrow).1

/-- `SELECT COUNT(*) FROM auth_events`. -/
def countAuthEvents (events : AuthEvents) : Nat := events.table.rows.length

/-- `SELECT COUNT(*) FROM auth_events WHERE user_id = ?`. -/
def countAuthEventsByUser (events : AuthEvents) (userID : Int) : Nat := (events.ofUser userID).length

end AuthEvents

end Db
end Dmanager
