import Dmanager.Db.AuditLogs
import Dmanager.Go.Runes
import Dmanager.Lib.KeyedTable
import Dmanager.Lib.Paging
import Dmanager.Lib.Wildcard

/-!
# Searching `audit_logs`

`ListAuditLogs` and `CountAuditLogs` of `internal/db/audit_logs.sql.go`, over the table as it is stored: `source` and
`outcome` are texts without a constraint, and `id` is the primary key.

`LIKE` is taken as SQLite documents it, over the runes of both texts: `%` stands for any text, `_` for any rune, and
ASCII letters match without regard to case.
-/

namespace Dmanager
namespace Db

open Go Lib Server

/-- A row of `audit_logs`. -/
structure AuditLogRow where
  id : Int
  createdAt : GoString
  actor : GoString
  actorRole : GoString
  source : GoString
  action : GoString
  resourceType : GoString
  resourceID : GoString
  outcome : GoString
  detail : GoString
  deriving DecidableEq, Repr

/-- The table. -/
abbrev AuditTable := KeyedTable AuditLogRow.id

/-! ## The rows that the recorder writes -/

/-- The text of a source. -/
def sourceText : AuditSource → GoString
  | .user => str "user"
  | .system => str "system"

/-- The text of an outcome. -/
def outcomeText : AuditOutcome → GoString
  | .success => str "success"
  | .failure => str "failure"
  | .denied => str "denied"

/-- A row of the recorder, as it is stored. -/
def AuditLog.stored (row : AuditLog) : AuditLogRow where
  id := row.id
  createdAt := row.createdAt
  actor := row.actor
  actorRole := row.actorRole
  source := sourceText row.source
  action := row.action
  resourceType := row.resourceType
  resourceID := row.resourceID
  outcome := outcomeText row.outcome
  detail := row.detail

/-! ## The condition -/

/-- The wildcards of `LIKE`. -/
def likeToken (c : Char) : Token Char := if c = '%' then .any else if c = '_' then .one else .letter c

/-- `text LIKE pattern`. -/
def like (text pattern : GoString) : Bool := Token.matchesText Char.toLower ((runes pattern).map likeToken) (runes text)

/-- `COALESCE(?, '')`; `none` is `NULL`. -/
def coalesce (param : Option GoString) : GoString := param.getD []

/-- `column LIKE '%' || COALESCE(?, '') || '%'`. -/
def likeAround (column : GoString) (param : Option GoString) : Bool :=
  like column (str "%" ++ coalesce param ++ str "%")

/-- `db.CountAuditLogsParams`. -/
structure CountAuditLogsParams where
  column1 : Option GoString
  column2 : Option GoString
  column3 : Option GoString
  column4 : Option GoString
  column5 : Option GoString
  column6 : Option GoString
  source : GoString
  column8 : Option GoString
  outcome : GoString
  deriving DecidableEq, Repr

/-- `db.ListAuditLogsParams`. -/
structure ListAuditLogsParams where
  column1 : Option GoString
  column2 : Option GoString
  column3 : Option GoString
  column4 : Option GoString
  column5 : Option GoString
  column6 : Option GoString
  source : GoString
  column8 : Option GoString
  outcome : GoString
  limit : Int
  offset : Int
  deriving DecidableEq, Repr

/-- The `WHERE` of `countAuditLogs`, with its nine parameters in their order. -/
def countWhere (arg : CountAuditLogsParams) (row : AuditLogRow) : Bool :=
  (decide (coalesce arg.column1 = [])
    || likeAround row.actor arg.column2
    || likeAround row.action arg.column3
    || likeAround row.resourceID arg.column4
    || likeAround row.detail arg.column5)
  && (decide (coalesce arg.column6 = []) || decide (row.source = coalesce (some arg.source)))
  && (decide (coalesce arg.column8 = []) || decide (row.outcome = coalesce (some arg.outcome)))

/-- The `WHERE` of `listAuditLogs`, a copy of the other one. -/
def listWhere (arg : ListAuditLogsParams) (row : AuditLogRow) : Bool :=
  (decide (coalesce arg.column1 = [])
    || likeAround row.actor arg.column2
    || likeAround row.action arg.column3
    || likeAround row.resourceID arg.column4
    || likeAround row.detail arg.column5)
  && (decide (coalesce arg.column6 = []) || decide (row.source = coalesce (some arg.source)))
  && (decide (coalesce arg.column8 = []) || decide (row.outcome = coalesce (some arg.outcome)))

/-! ## The statements -/

namespace AuditLogRow

/-- `ORDER BY created_at DESC, id DESC`: the first row comes before the second one. -/
def Before (first second : AuditLogRow) : Prop :=
  second.createdAt < first.createdAt ∨ first.createdAt = second.createdAt ∧ second.id < first.id

instance decidableBefore (first second : AuditLogRow) : Decidable (first.Before second) :=
  inferInstanceAs (Decidable (_ ∨ _ ∧ _))

/-- Of two rows one comes before the other, unless they have the same id. -/
theorem id_eq_of_not_before {first second : AuditLogRow} (hnot : ¬ first.Before second)
    (hnot' : ¬ second.Before first) : first.id = second.id := by
  unfold Before at hnot hnot'
  have hcreated : first.createdAt = second.createdAt :=
    List.le_antisymm (fun hlt => hnot (Or.inl hlt)) fun hlt => hnot' (Or.inl hlt)
  have hle : ¬ second.id < first.id := fun hlt => hnot (Or.inr ⟨hcreated, hlt⟩)
  have hle' : ¬ first.id < second.id := fun hlt => hnot' (Or.inr ⟨hcreated.symm, hlt⟩)
  omega

theorem not_before_trans {first second third : AuditLogRow} (hnot : ¬ second.Before first)
    (hnot' : ¬ third.Before second) : ¬ third.Before first := by
  unfold Before at hnot hnot'
  have hle : second.createdAt ≤ first.createdAt := fun hlt => hnot (Or.inl hlt)
  have hle' : third.createdAt ≤ second.createdAt := fun hlt => hnot' (Or.inl hlt)
  rintro (hlt | ⟨heq, hid⟩)
  · exact List.le_trans hle' hle hlt
  · rw [heq] at hle' hnot'
    have hsame : second.createdAt = first.createdAt := List.le_antisymm hle hle'
    have hids : ¬ first.id < second.id := fun hlt => hnot (Or.inr ⟨hsame, hlt⟩)
    have hids' : ¬ second.id < third.id := fun hlt => hnot' (Or.inr ⟨hsame.symm, hlt⟩)
    omega

theorem not_before_total (first second : AuditLogRow) : ¬ second.Before first ∨ ¬ first.Before second := by
  rw [← not_and_or]
  rintro ⟨hlt | ⟨heq, hid⟩, hlt' | ⟨heq', hid'⟩⟩
  · exact List.lt_asymm hlt hlt'
  · exact List.lt_irrefl _ (heq' ▸ hlt)
  · exact List.lt_irrefl _ (heq ▸ hlt')
  · omega

end AuditLogRow

/-- `LIMIT ? OFFSET ?`: a negative limit is none, a negative offset is 0. -/
def limited (limit offset : Int) (rows : List AuditLogRow) : List AuditLogRow :=
  if limit < 0 then rows.drop offset.toNat else (rows.drop offset.toNat).take limit.toNat

theorem mem_of_mem_limited {limit offset : Int} {rows : List AuditLogRow} {row : AuditLogRow}
    (hrow : row ∈ limited limit offset rows) : row ∈ rows := by
  unfold limited at hrow
  split at hrow
  · exact List.mem_of_mem_drop hrow
  · exact List.mem_of_mem_drop (List.mem_of_mem_take hrow)

namespace AuditTable

/-- `SELECT COUNT(*) FROM audit_logs WHERE ...`. -/
def countAuditLogs (table : AuditTable) (arg : CountAuditLogsParams) : Int :=
  (table.rows.filter (countWhere arg)).length

/-- `SELECT ... FROM audit_logs WHERE ... ORDER BY created_at DESC, id DESC LIMIT ? OFFSET ?`. -/
def IsList (table : AuditTable) (arg : ListAuditLogsParams) (rows : List AuditLogRow) : Prop :=
  ∃ ordered, Arranged AuditLogRow.Before (table.rows.filter (listWhere arg)) ordered ∧
    rows = limited arg.limit arg.offset ordered

/-- A list has rows of the table only. -/
theorem IsList.mem {table : AuditTable} {arg : ListAuditLogsParams} {rows : List AuditLogRow}
    (hlist : table.IsList arg rows) {row : AuditLogRow} (hrow : row ∈ rows) : row ∈ table.rows := by
  obtain ⟨ordered, harranged, rfl⟩ := hlist
  exact List.mem_of_mem_filter (harranged.1.mem_iff.mp (mem_of_mem_limited hrow))

/-- The selected rows have one order. -/
theorem arranged_unique {table : AuditTable} {selected : AuditLogRow → Bool} {rows rows' : List AuditLogRow}
    (harranged : Arranged AuditLogRow.Before (table.rows.filter selected) rows)
    (harranged' : Arranged AuditLogRow.Before (table.rows.filter selected) rows') : rows = rows' := by
  refine harranged.unique harranged' fun first hfirst second hsecond hnot hnot' => ?_
  exact KeyedTable.eq_of_key_eq (List.mem_of_mem_filter hfirst) (List.mem_of_mem_filter hsecond)
    (AuditLogRow.id_eq_of_not_before hnot hnot')

/-- In the order of the query, each row comes before the later ones. -/
theorem pairwise_before {table : AuditTable} {selected : AuditLogRow → Bool} {rows : List AuditLogRow}
    (harranged : Arranged AuditLogRow.Before (table.rows.filter selected) rows) :
    rows.Pairwise AuditLogRow.Before := by
  have hids : (rows.map AuditLogRow.id).Nodup :=
    (harranged.1.map AuditLogRow.id).nodup_iff.mpr (table.nodup.sublist (List.filter_sublist.map AuditLogRow.id))
  refine (harranged.2.and (List.pairwise_map.mp hids)).imp fun hboth => ?_
  by_contra hnot
  exact hboth.2 (AuditLogRow.id_eq_of_not_before hnot hboth.1)

/-- The selected rows, put in the order of the query. -/
theorem arranged_mergeSort (rows : List AuditLogRow) :
    Arranged AuditLogRow.Before rows (rows.mergeSort fun first second => decide (¬ second.Before first)) := by
  refine ⟨List.mergeSort_perm rows _, ?_⟩
  refine (List.pairwise_mergeSort ?_ ?_ rows).imp of_decide_eq_true
  · intro first second third hle hle'
    exact decide_eq_true (AuditLogRow.not_before_trans (of_decide_eq_true hle) (of_decide_eq_true hle'))
  · intro first second
    rw [Bool.or_eq_true, decide_eq_true_eq, decide_eq_true_eq]
    exact AuditLogRow.not_before_total first second

end AuditTable

end Db
end Dmanager
