import Dmanager.Go.Calendar
import Dmanager.Server.Api

/-!
# The `audit_logs` table

The column `created_at` holds the text that `CURRENT_TIMESTAMP` writes, and the trim compares it as text with what
SQLite's `datetime` makes of the cutoff.
-/

namespace Dmanager
namespace Db

open Go Server

/-- `db.AuditLog`. -/
structure AuditLog where
  id : Nat
  createdAt : GoString
  actor : GoString
  actorRole : GoString
  source : AuditSource
  action : GoString
  resourceType : GoString
  resourceID : GoString
  outcome : AuditOutcome
  detail : GoString
  deriving DecidableEq, Repr

/-- The table; `nextId` is the next id of `AUTOINCREMENT`. -/
structure AuditLogs where
  rows : List AuditLog
  nextId : Nat
  fresh : ∀ row ∈ rows, row.id < nextId

/-- The text of an instant in the layout `2006-01-02 15:04:05`, which is also that of `CURRENT_TIMESTAMP`. -/
def timestampText (t : Int) : GoString := dateTime (str " ") t

/-- SQLite's `datetime`: a text in its own layout is left as it is, as long as the year has four digits. -/
structure SqlDatetime where
  datetime : GoString → Option GoString
  datetime_timestampText : ∀ t, FourDigitYear t → datetime (timestampText t) = some (timestampText t)

namespace AuditLogs

/-- The row that an `INSERT INTO audit_logs ...` writes. -/
def newRow (logs : AuditLogs) (now : Int) (arg : Entry) : AuditLog where
  id := logs.nextId
  createdAt := timestampText now
  actor := arg.actor
  actorRole := arg.actorRole
  source := arg.source
  action := arg.action
  resourceType := arg.resourceType
  resourceID := arg.resourceID
  outcome := arg.outcome
  detail := arg.detail

/-- `INSERT INTO audit_logs ...`. -/
def createAuditLog (logs : AuditLogs) (now : Int) (arg : Entry) : AuditLogs where
  rows := logs.rows ++ [logs.newRow now arg]
  nextId := logs.nextId + 1
  fresh := by
    intro row hrow
    rcases List.mem_append.mp hrow with hold | hnew
    · exact Nat.lt_succ_of_lt (logs.fresh row hold)
    · rw [List.mem_singleton.mp hnew]
      exact Nat.lt_succ_self _

/-- `created_at < datetime(cutoff)`; a comparison with `NULL` is not true. -/
def olderThan (sqlite : SqlDatetime) (cutoff : GoString) (row : AuditLog) : Bool :=
  match sqlite.datetime cutoff with
  | some text => row.createdAt < text
  | none => false

/-- `DELETE FROM audit_logs WHERE created_at < datetime(?)`. -/
def trimAuditLogsBefore (sqlite : SqlDatetime) (logs : AuditLogs) (cutoff : GoString) : AuditLogs where
  rows := logs.rows.filter fun row => !olderThan sqlite cutoff row
  nextId := logs.nextId
  fresh row hrow := logs.fresh row (List.mem_of_mem_filter hrow)

end AuditLogs

end Db
end Dmanager
