import Dmanager.Db.AuditLogs
import Dmanager.Lib.TransitionSystem
import Dmanager.Settings.Stored

/-!
# The retention of the audit trail

`Record` of `internal/audit/audit.go` inserts an entry and deletes what is older than the window, which it reads from
the settings table each time.

`record_retains` says what the table holds after any record of any run, whatever is written to the setting in
between: nothing older than the window that `GetSettings` reports, the new entry, and everything from the last week.
The ages are those of the texts in the table, to the second.
-/

namespace Dmanager
namespace Audit

open Go Db Lib Server Settings
open Db.Settings (Listing)

/-- A reading of the clock that SQLite can write, and any cutoff with it: the year has four digits and is not 0. -/
structure Reading where
  now : Int
  year_pos : 1 ≤ (date now).year
  year_le : (date now).year ≤ 9999

/-- The two tables. -/
structure AuditDb where
  auditLogs : AuditLogs
  settings : Db.Settings

/-- `maxDetailLen`. -/
def maxDetailLen : Nat := 2000

/-- What `Record` inserts of an entry. -/
def truncated (e : Entry) : Entry := { e with detail := e.detail.take maxDetailLen }

/-- `Record`, when its statements succeed. -/
def record (sqlite : SqlDatetime) (db : AuditDb) (now : Int) (e : Entry) : AuditDb :=
  let inserted := db.auditLogs.createAuditLog now (truncated e)
  let cutoff := timestampText (addDays now (-retentionDays db.settings))
  { db with auditLogs := inserted.trimAuditLogsBefore sqlite cutoff }

/-- The steps: a record, and a write of a setting. -/
inductive AuditLabel where
  | record (reading : Reading) (e : Entry)
  | updateSetting (key value : GoString)

/-- One step. -/
def auditStep (sqlite : SqlDatetime) (db : AuditDb) : AuditLabel → Option AuditDb
  | .record reading e => some (record sqlite db reading.now e)
  | .updateSetting key value => some { db with settings := db.settings.updateSetting key value }

/-- The entries that are recorded, in their order. -/
def entriesOf : List AuditLabel → List Entry
  | [] => []
  | .record _ e :: rest => e :: entriesOf rest
  | .updateSetting _ _ :: rest => entriesOf rest

/-- Every `created_at` is the text of an instant. -/
def Stamped (logs : AuditLogs) : Prop :=
  ∀ row ∈ logs.rows, ∃ created, FourDigitYear created ∧ row.createdAt = timestampText created

/-! ## The cutoff -/

theorem Reading.fourDigitYear (reading : Reading) : FourDigitYear reading.now :=
  ⟨Int.le_of_lt reading.year_pos, reading.year_le⟩

/-- A year before a reading the year still has four digits. -/
theorem Reading.fourDigitYear_addDays (reading : Reading) {days : Int} (hpos : 0 ≤ days) (hle : days ≤ 365) :
    FourDigitYear (addDays reading.now (-days)) := by
  have hyear := reading.year_pos
  have hyear' := reading.year_le
  have hdays : addDays reading.now (-days) / day = reading.now / day - days := by
    unfold addDays day hour minute second
    omega
  have hspec : daysBeforeYear (yearOf (reading.now / day)) ≤ reading.now / day := (yearOf_spec _).1
  have hfirst : daysBeforeYear 1 ≤ daysBeforeYear (yearOf (reading.now / day)) :=
    daysBeforeYear_strictMono.monotone hyear
  have hzero : daysBeforeYear 1 = 0 := by decide
  constructor
  · show 0 ≤ yearOf (addDays reading.now (-days) / day)
    rw [hdays]
    calc
      (0 : Int) = yearOf (-365) := by decide
      _ ≤ yearOf (reading.now / day - days) := yearOf_mono (by omega)
  · show yearOf (addDays reading.now (-days) / day) ≤ 9999
    rw [hdays]
    exact (yearOf_mono (by omega)).trans hyear'

theorem retentionDays_bounds (settings : Db.Settings) : 7 ≤ retentionDays settings ∧ retentionDays settings ≤ 365 := by
  have hpresets : ∀ days ∈ validRetentionDayList, 7 ≤ days ∧ days ≤ 365 := by decide
  exact hpresets _ (retentionDays_mem settings)

/-- A row is older than a cutoff when it was created in an earlier second. -/
theorem olderThan_iff {sqlite : SqlDatetime} {row : AuditLog} {created cutoff : Int}
    (hrow : row.createdAt = timestampText created) (hcreated : FourDigitYear created)
    (hcutoff : FourDigitYear cutoff) :
    AuditLogs.olderThan sqlite (timestampText cutoff) row = true ↔ created / second < cutoff / second := by
  rw [AuditLogs.olderThan, sqlite.datetime_timestampText cutoff hcutoff]
  simp only [decide_eq_true_eq]
  rw [hrow]
  exact dateTime_lt_iff hcreated hcutoff

/-! ## A record -/

section

variable {sqlite : SqlDatetime} {db : AuditDb} (hstamped : Stamped db.auditLogs) (reading : Reading) (e : Entry)

/-- The rows after a record are those before it and the new one, less what is older than the window. -/
theorem mem_record {row : AuditLog} {created : Int} (hrow : row.createdAt = timestampText created)
    (hcreated : FourDigitYear created) :
    row ∈ (record sqlite db reading.now e).auditLogs.rows ↔
      (row ∈ db.auditLogs.rows ∨ row = db.auditLogs.newRow reading.now (truncated e)) ∧
        addDays reading.now (-retentionDays db.settings) / second ≤ created / second := by
  have hbounds := retentionDays_bounds db.settings
  have hcutoff := reading.fourDigitYear_addDays (by omega) hbounds.2
  show row ∈ (db.auditLogs.rows ++ [db.auditLogs.newRow reading.now (truncated e)]).filter _ ↔ _
  rw [List.mem_filter, List.mem_append, List.mem_singleton, Bool.not_eq_true', ← Bool.not_eq_true,
    olderThan_iff hrow hcreated hcutoff, Int.not_lt]

/-- The new row is kept. -/
theorem newRow_mem_record :
    db.auditLogs.newRow reading.now (truncated e) ∈ (record sqlite db reading.now e).auditLogs.rows := by
  have hbounds := retentionDays_bounds db.settings
  rw [mem_record reading e rfl reading.fourDigitYear]
  refine ⟨Or.inr rfl, ?_⟩
  unfold addDays day hour minute second
  omega

include hstamped

theorem stamped_record : Stamped (record sqlite db reading.now e).auditLogs := by
  intro row hrow
  rcases List.mem_append.mp (List.mem_of_mem_filter hrow) with hold | hnew
  · exact hstamped row hold
  · rw [List.mem_singleton.mp hnew]
    exact ⟨reading.now, reading.fourDigitYear, rfl⟩

/-- Nothing older than the window is left. -/
theorem created_le_of_mem_record {row : AuditLog} (hrow : row ∈ (record sqlite db reading.now e).auditLogs.rows) :
    ∃ created, FourDigitYear created ∧ row.createdAt = timestampText created ∧
      addDays reading.now (-retentionDays db.settings) / second ≤ created / second := by
  obtain ⟨created, hcreated, htext⟩ := stamped_record hstamped reading e row hrow
  exact ⟨created, hcreated, htext, ((mem_record reading e htext hcreated).mp hrow).2⟩

end

theorem stamped_step {sqlite : SqlDatetime} {db next : AuditDb} {label : AuditLabel}
    (hstep : auditStep sqlite db label = some next) (hstamped : Stamped db.auditLogs) : Stamped next.auditLogs := by
  cases label with
  | record reading e =>
      cases hstep
      exact stamped_record hstamped reading e
  | updateSetting key value =>
      cases hstep
      exact hstamped

/-- What holds of the rows at the start and of those that are inserted holds of every row after the run. -/
theorem forall_row_of_run (P : AuditLog → Prop) {sqlite : SqlDatetime} {start db : AuditDb} {labels : List AuditLabel}
    (hrun : exec (auditStep sqlite) start labels = some db) (hstart : ∀ row ∈ start.auditLogs.rows, P row)
    (hnew : ∀ e ∈ entriesOf labels, ∀ (logs : AuditLogs) (now : Int), P (logs.newRow now (truncated e))) :
    ∀ row ∈ db.auditLogs.rows, P row := by
  -- the entries that are still to be recorded are part of the invariant
  refine (exec_invariant_of_rest
    (fun rest db => (∀ row ∈ db.auditLogs.rows, P row) ∧
      ∀ e ∈ entriesOf rest, ∀ (logs : AuditLogs) (now : Int), P (logs.newRow now (truncated e)))
    (fun db label rest next hinv hstep => ?_) hrun ⟨hstart, hnew⟩).1
  obtain ⟨hrows, hrest⟩ := hinv
  cases label with
  | record reading e =>
      cases hstep
      refine ⟨fun row hrow => ?_, fun e' he' => hrest e' (List.mem_cons_of_mem e he')⟩
      rcases List.mem_append.mp (List.mem_of_mem_filter hrow) with hold | hinserted
      · exact hrows row hold
      · rw [List.mem_singleton.mp hinserted]
        exact hrest e List.mem_cons_self db.auditLogs reading.now
  | updateSetting key value =>
      cases hstep
      exact ⟨hrows, hrest⟩

/-- After any record of any run the table holds nothing that is older than the window `GetSettings` reports; the entry
just recorded is there, and so is every row that is less than seven days old. -/
theorem record_retains {sqlite : SqlDatetime} {start db : AuditDb} (hstart : Stamped start.auditLogs)
    {labels : List AuditLabel} (hrun : exec (auditStep sqlite) start labels = some db) (reading : Reading) (e : Entry) :
    (∀ ctx rows response, Listing (record sqlite db reading.now e).settings rows →
      getSettings ctx (.ok rows) = .done response →
        ∀ row ∈ (record sqlite db reading.now e).auditLogs.rows,
          ∃ created, FourDigitYear created ∧ row.createdAt = timestampText created ∧
            addDays reading.now (-response.auditRetentionDays.toInt) / second ≤ created / second) ∧
      db.auditLogs.newRow reading.now (truncated e) ∈ (record sqlite db reading.now e).auditLogs.rows ∧
      ∀ row ∈ db.auditLogs.rows, ∀ created, FourDigitYear created → row.createdAt = timestampText created →
        addDays reading.now (-7) / second ≤ created / second →
          row ∈ (record sqlite db reading.now e).auditLogs.rows := by
  have hstamped : Stamped db.auditLogs :=
    exec_invariant (fun db => Stamped db.auditLogs) (fun _ _ _ hinv hstep => stamped_step hstep hinv) hrun hstart
  refine ⟨fun ctx rows response hlisting hdone row hrow => ?_, newRow_mem_record reading e,
    fun row hrow created hcreated htext hyoung => ?_⟩
  · rw [eq_settingsResponse hdone, auditRetentionDays_settingsResponse hlisting]
    exact created_le_of_mem_record hstamped reading e hrow
  · rw [mem_record reading e htext hcreated]
    refine ⟨Or.inl hrow, le_trans ?_ hyoung⟩
    have hbounds := retentionDays_bounds db.settings
    unfold addDays day hour minute second
    omega

/-- SQLite's `datetime` on texts that are in its layout already. -/
def keepingDatetime : SqlDatetime := ⟨some, fun _ _ => rfl⟩

/-- An afternoon in July 2026. -/
def july : Reading := ⟨63918867600 * second, by decide +kernel, by decide +kernel⟩

def deletion : Entry :=
  ⟨str "admin", str "admin", .user, str "container.delete", str "container", str "c1", .success, []⟩

/-- A row of a hundred days before, and no setting. -/
def agedDb : AuditDb where
  auditLogs :=
    { rows :=
        [⟨1, timestampText (addDays july.now (-100)), str "admin", str "admin", .user, str "container.delete",
          str "container", str "c0", .success, []⟩]
      nextId := 2
      fresh := by decide }
  settings := KeyedTable.empty

/-- With a year as the window the aged row outlives a record; then the setting is overwritten with no number. -/
def corruptedRun : List AuditLabel :=
  [.updateSetting retentionSettingKey (str "365"), .record july deletion,
    .updateSetting retentionSettingKey (str "bogus")]

theorem exec_corruptedRun :
    (exec (auditStep keepingDatetime) agedDb corruptedRun).map
        (fun db => (db.auditLogs.rows.map AuditLog.id,
          (record keepingDatetime db july.now deletion).auditLogs.rows.map AuditLog.id, db.auditLogs.nextId)) =
      some ([1, 2], [2, 3], 3) := by
  decide +kernel

theorem record_retains_corruptedRun :
    ∃ db, exec (auditStep keepingDatetime) agedDb corruptedRun = some db ∧
      (record keepingDatetime db july.now deletion).auditLogs.rows.map AuditLog.id = [2, 3] ∧
      db.auditLogs.newRow july.now (truncated deletion) ∈
        (record keepingDatetime db july.now deletion).auditLogs.rows ∧
      ∀ row ∈ db.auditLogs.rows, ∀ created, FourDigitYear created → row.createdAt = timestampText created →
        addDays july.now (-7) / second ≤ created / second →
          row ∈ (record keepingDatetime db july.now deletion).auditLogs.rows := by
  obtain ⟨db, hrun, hend⟩ := Option.map_eq_some_iff.mp exec_corruptedRun
  simp only [Prod.mk.injEq] at hend
  have hstart : Stamped agedDb.auditLogs := by
    intro row hrow
    rw [List.mem_singleton.mp hrow]
    exact ⟨_, july.fourDigitYear_addDays (by decide) (by decide), rfl⟩
  obtain ⟨-, hnew, hyoung⟩ := record_retains hstart hrun july deletion
  exact ⟨db, hrun, hend.2.1, hnew, hyoung⟩

end Audit
end Dmanager
