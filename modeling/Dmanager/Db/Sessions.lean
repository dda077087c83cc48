import Dmanager.Lib.KeyedTable
import Dmanager.Db.Users
import Dmanager.Go.Time

/-!
# The `sessions` table

The statements of `internal/db/sessions.sql.go`, one definition each, over a table keyed by its primary
key `session_id`.  `user_id` is a foreign key (`PRAGMA foreign_keys = ON`), so `createSession` looks at
the users table as well.

SQLite compares the stored time values itself; how it does so is left to a parameter `sqlLess` of the one
statement that compares (`purgeExpiredSessions`).
-/

namespace Dmanager
namespace Db

open Go Lib

/-- `db.Session`. -/
structure Session where
  sessionID : GoString
  userID : Int
  expiresAt : Int
  createdAt : Int
  lastSeenAt : Int
  absoluteExpiresAt : Int
  userAgent : GoString
  deriving DecidableEq, Repr

/-- The table: rows with pairwise different session ids. -/
abbrev Sessions := KeyedTable Session.sessionID

/-- Both tables of the authentication subsystem. -/
structure Store where
  users : Users
  sessions : Sessions

/-- `db.CreateSessionParams`. -/
structure CreateSessionParams where
  sessionID : GoString
  userID : Int
  userAgent : GoString
  expiresAt : Int
  lastSeenAt : Int
  absoluteExpiresAt : Int
  deriving DecidableEq, Repr

/-- SQLite's `CURRENT_TIMESTAMP`: the clock, to the whole second. -/
def currentTimestamp (now : Int) : Int := now - now % second

/-- The row an insert writes; `created_at` is the default `CURRENT_TIMESTAMP` of the database. -/
def CreateSessionParams.row (arg : CreateSessionParams) (now : Int) : Session where
  sessionID := arg.sessionID
  userID := arg.userID
  expiresAt := arg.expiresAt
  createdAt := currentTimestamp now
  lastSeenAt := arg.lastSeenAt
  absoluteExpiresAt := arg.absoluteExpiresAt
  userAgent := arg.userAgent

/-- `db.TouchSessionParams`. -/
structure TouchSessionParams where
  expiresAt : Int
  lastSeenAt : Int
  sessionID : GoString
  deriving DecidableEq, Repr

/-- `UPDATE sessions SET expires_at = ?, last_seen_at = ?`, on one row. -/
def TouchSessionParams.apply (arg : TouchSessionParams) (row : Session) : Session :=
  { row with expiresAt := arg.expiresAt, lastSeenAt := arg.lastSeenAt }

/-- `db.ListSessionsByUserRow`: a session with the name of its user. -/
structure ListSessionsByUserRow where
  session : Session
  username : GoString
  deriving DecidableEq, Repr

namespace Sessions

/-- `INSERT INTO sessions ...` at instant `now`; `none` is a violated primary or foreign key. -/
def createSession (users : Users) (sessions : Sessions) (arg : CreateSessionParams) (now : Int) :
    Option Sessions :=
  match users.getUser arg.userID with
  | none => none
  | some _ => sessions.insert? (arg.row now)

/-- `SELECT ... FROM sessions WHERE session_id = ? LIMIT 1`; `none` is `sql.ErrNoRows`. -/
def getSession (sessions : Sessions) (sessionID : GoString) : Option Session :=
  sessions.get? sessionID

/-- `UPDATE sessions SET expires_at = ?, last_seen_at = ? WHERE session_id = ?`. -/
def touchSession (sessions : Sessions) (arg : TouchSessionParams) : Sessions :=
  sessions.update arg.sessionID arg.apply fun _ => rfl

/-- `DELETE FROM sessions WHERE session_id = ?`. -/
def deleteSession (sessions : Sessions) (sessionID : GoString) : Sessions :=
  sessions.deleteWhere fun row => decide (row.sessionID = sessionID)

/-- `DELETE FROM sessions WHERE session_id = ? AND user_id = ?`. -/
def deleteSessionByIDAndUser (sessions : Sessions) (sessionID : GoString) (userID : Int) : Sessions :=
  sessions.deleteWhere fun row => decide (row.sessionID = sessionID ∧ row.userID = userID)

/-- `DELETE FROM sessions WHERE user_id = ? AND session_id != ?`. -/
def deleteSessionsByUser (sessions : Sessions) (userID : Int) (sessionID : GoString) : Sessions :=
  sessions.deleteWhere fun row => decide (row.userID = userID ∧ row.sessionID ≠ sessionID)

/-- The rows of a user, in the order of the table. -/
def ofUser (sessions : Sessions) (userID : Int) : List Session :=
  sessions.rows.filter fun row => decide (row.userID = userID)

/-- `SELECT s.*, u.username FROM sessions s JOIN users u ON u.id = s.user_id WHERE s.user_id = ?
ORDER BY s.last_seen_at DESC`: a list is a result of the query if it has the rows of the join in an order that
the comparison does not contradict. -/
def IsListOfUser (sqlLess : Int → Int → Bool) (users : Users) (sessions : Sessions) (userID : Int)
    (rows : List ListSessionsByUserRow) : Prop :=
  rows.Perm ((users.getUser userID).elim [] fun user => (sessions.ofUser userID).map fun row => ⟨row, user.username⟩) ∧
    rows.Pairwise fun earlier later => sqlLess earlier.session.lastSeenAt later.session.lastSeenAt = false

instance (sqlLess : Int → Int → Bool) (users : Users) (sessions : Sessions) (userID : Int)
    (rows : List ListSessionsByUserRow) : Decidable (IsListOfUser sqlLess users sessions userID rows) :=
  inferInstanceAs (Decidable (_ ∧ _))

/-- A list has rows of the table only. -/
theorem IsListOfUser.mem {sqlLess : Int → Int → Bool} {users : Users} {sessions : Sessions} {userID : Int}
    {rows : List ListSessionsByUserRow} (hlist : IsListOfUser sqlLess users sessions userID rows)
    {row : ListSessionsByUserRow} (hrow : row ∈ rows) : row.session ∈ sessions := by
  have hjoin := hlist.1.mem_iff.mp hrow
  cases huser : users.getUser userID with
  | none =>
      rw [huser] at hjoin
      cases hjoin
  | some user =>
      rw [huser] at hjoin
      obtain ⟨session, hsession, rfl⟩ := List.mem_map.mp hjoin
      exact List.mem_of_mem_filter hsession

/-- `DELETE FROM sessions WHERE expires_at < ? OR absolute_expires_at < ?`. -/
def purgeExpiredSessions (sqlLess : Int → Int → Bool) (sessions : Sessions)
    (expiresAt absoluteExpiresAt : Int) : Sessions :=
  sessions.deleteWhere fun row =>
    sqlLess row.expiresAt expiresAt || sqlLess row.absoluteExpiresAt absoluteExpiresAt

/-- What an insert that was not refused did: the key was free, the owner exists, the row is there. -/
theorem createSession_eq_some {users : Users} {sessions next : Sessions} {arg : CreateSessionParams}
    {now : Int} (hcreate : createSession users sessions arg now = some next) :
    (∃ user, users.getUser arg.userID = some user) ∧
      sessions.insert? (arg.row now) = some next := by
  unfold createSession at hcreate
  cases huser : users.getUser arg.userID with
  | none => simp [huser] at hcreate
  | some user => exact ⟨⟨user, rfl⟩, by simpa [huser] using hcreate⟩

/-- A row after a touch is the touched one or an untouched old one. -/
theorem mem_touchSession {sessions : Sessions} {arg : TouchSessionParams} {row : Session} :
    row ∈ touchSession sessions arg ↔
      ∃ old ∈ sessions,
        (old.sessionID = arg.sessionID ∧ row = arg.apply old) ∨
          (old.sessionID ≠ arg.sessionID ∧ row = old) :=
  KeyedTable.mem_update

theorem getSession_touchSession {sessions : Sessions} {arg : TouchSessionParams}
    (sessionID : GoString) :
    getSession (touchSession sessions arg) sessionID =
      if sessionID = arg.sessionID then (getSession sessions sessionID).map arg.apply
      else getSession sessions sessionID :=
  KeyedTable.get?_update sessionID

/-- A deleted session cannot be read back. -/
@[simp] theorem getSession_deleteSession_self {sessions : Sessions} (sessionID : GoString) :
    getSession (deleteSession sessions sessionID) sessionID = none := by
  unfold getSession
  rw [KeyedTable.get?_eq_none_iff]
  intro row hrow hkey
  obtain ⟨-, hkept⟩ := KeyedTable.mem_deleteWhere.mp hrow
  simp [hkey] at hkept

theorem sessionID_of_getSession {sessions : Sessions} {sessionID : GoString} {row : Session}
    (hget : getSession sessions sessionID = some row) : row.sessionID = sessionID :=
  (KeyedTable.get?_eq_some_iff.mp hget).2

end Sessions

end Db
end Dmanager
