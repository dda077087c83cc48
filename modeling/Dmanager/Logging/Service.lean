import Dmanager.Logging.Buffer

/-!
# Logs of the frontend

`SyncLogs` takes a batch of log entries of a browser and logs each of them: the client's level, timestamp,
component and metadata go as attributes through the logger and are taken out of them again by its handler.

`syncLogs_entries` says what comes out at the other end, in the buffer that the page of system logs shows.
-/

namespace Dmanager
namespace Logging

open Dmanager.Go
open Dmanager.Lib

/-- A log entry of a browser. -/
structure ClientLogEntry where
  level : GoString
  message : GoString
  timestamp : GoString
  component : GoString
  metadata : GoString
  deriving DecidableEq, Repr

namespace ClientLogEntry

/-- The level an entry is logged with. -/
def slogLevel (entry : ClientLogEntry) : Level :=
  let level := toUpper entry.level
  if level = str "DEBUG" then levelDebug
  else if level = str "INFO" then levelInfo
  else if level = str "WARN" ∨ level = str "WARNING" then levelWarn
  else if level = str "ERROR" then levelError
  else levelInfo

/-- The attributes an entry is logged with. -/
def attrs (entry : ClientLogEntry) : List Attr :=
  [Attr.string (str "source") (str "frontend"), Attr.string (str "client_level") entry.level,
    Attr.string (str "client_timestamp") entry.timestamp] ++
  (if entry.component ≠ [] then [Attr.string (str "component") entry.component] else []) ++
  if entry.metadata ≠ [] then [Attr.string (str "metadata") entry.metadata] else []

/-- The record that `s.logger.Log(ctx, level, entry.Message, attrs...)` makes. -/
def record (entry : ClientLogEntry) (now : Int) : Record := ⟨now, entry.slogLevel, entry.message, entry.attrs⟩

end ClientLogEntry

/-- What a call of `SyncLogs` has done: the buffer, its calls of `s.logger.Log`, and the count it answers. -/
structure Synced where
  buffer : RingBuffer
  logged : List Record
  processedCount : Int32

/-- The loop of `SyncLogs`; `clock i` is the time when `i` entries are left. -/
def syncEntries (logger : InterceptHandler) (clock : Nat → Int) : Synced → List (Option ClientLogEntry) → Synced
  | synced, [] => synced
  | synced, none :: rest => syncEntries logger clock synced rest
  | synced, some entry :: rest =>
      syncEntries logger clock
        { buffer := logger.log synced.buffer (entry.record (clock rest.length))
          logged := synced.logged ++ [entry.record (clock rest.length)]
          processedCount := synced.processedCount + 1 } rest

/-- `SyncLogs`; a `nil` entry is `none`. -/
def syncLogs (logger : InterceptHandler) (clock : Nat → Int) (rb : RingBuffer)
    (entries : List (Option ClientLogEntry)) : Synced :=
  syncEntries logger clock ⟨rb, [], 0⟩ entries

/-! ## What the handler makes of an entry -/

/-- An entry of the buffer shows an entry of a browser. -/
structure Shows (module : GoString) (entry : ClientLogEntry) (shown : LogEntry) : Prop where
  level : shown.level = entry.level
  timestamp : shown.timestamp = entry.timestamp
  message : shown.message = entry.message
  component : shown.component = if entry.component = [] then module else entry.component
  metadata : entry.metadata ≠ [] →
    (readObject shown.metadata).bind (List.lookup (str "metadata")) = some entry.metadata

/-- A string put into the map is found under its key. -/
theorem get?_put_string (metaMap : MetaMap) (key value key' : GoString) :
    (metaMap.put (Attr.string key value)).get? key' =
      if key' = key then some (Attr.string key' value) else metaMap.get? key' := by
  rw [KeyedTable.get?_put]
  by_cases hkey : key' = key
  · subst hkey
    rfl
  · exact (if_neg hkey).trans (if_neg hkey).symm

/-- What the map of an entry's attributes has under each key. -/
theorem get?_metaMap {logger : InterceptHandler} {module : GoString}
    (hattrs : logger.attrs = [Attr.string (str "module") module]) (entry : ClientLogEntry) (now : Int)
    (key : GoString) :
    (logger.metaMap (entry.record now)).get? key =
      if key = str "metadata" ∧ entry.metadata ≠ [] then some (Attr.string key entry.metadata)
      else if key = str "component" ∧ entry.component ≠ [] then some (Attr.string key entry.component)
      else if key = str "client_timestamp" then some (Attr.string key entry.timestamp)
      else if key = str "client_level" then some (Attr.string key entry.level)
      else if key = str "source" then some (Attr.string key (str "frontend"))
      else if key = str "module" then some (Attr.string key module)
      else none := by
  have hmap : logger.metaMap (entry.record now) =
      (Attr.string (str "module") module :: entry.attrs).foldl KeyedTable.put KeyedTable.empty := by
    rw [InterceptHandler.metaMap, hattrs]
    rfl
  rw [hmap, ClientLogEntry.attrs]
  by_cases hcomponent : entry.component = []
  · by_cases hmetadata : entry.metadata = []
    · simp [hcomponent, hmetadata, get?_put_string, -KeyedTable.get?_put]
    · simp [hcomponent, hmetadata, get?_put_string, -KeyedTable.get?_put]
  · by_cases hmetadata : entry.metadata = []
    · simp [hcomponent, hmetadata, get?_put_string, -KeyedTable.get?_put]
    · simp [hcomponent, hmetadata, get?_put_string, -KeyedTable.get?_put]

theorem stringAt_delete (metaMap : MetaMap) {key key' : GoString} (hne : key ≠ key') :
    stringAt (metaMap.delete key') key = stringAt metaMap key := by
  rw [stringAt, stringAt, KeyedTable.get?_delete, if_neg hne]

/-- Taking a string out of the map gives it, or else the value that stands for it. -/
theorem takeString_of_some {metaMap : MetaMap} {key s : GoString} (hstring : stringAt metaMap key = some s)
    (otherwise : GoString) : takeString metaMap key otherwise = (s, metaMap.delete key) := by
  rw [takeString, hstring]

/-- What is left in the map after the entry's own fields have been taken out. -/
def leftOver (metaMap : MetaMap) (componentKey : GoString) : MetaMap :=
  (((metaMap.delete componentKey).delete (str "client_level")).delete (str "client_timestamp")).delete (str "source")

section

variable {logger : InterceptHandler} {module : GoString}
  (hattrs : logger.attrs = [Attr.string (str "module") module]) (entry : ClientLogEntry) (now : Int)
include hattrs

theorem stringAt_component : stringAt (logger.metaMap (entry.record now)) (str "component") =
    if entry.component = [] then none else some entry.component := by
  rw [stringAt, get?_metaMap hattrs]
  by_cases hcomponent : entry.component = []
  · simp +decide [hcomponent]
  · simp +decide [hcomponent, Attr.string]

theorem stringAt_module : stringAt (logger.metaMap (entry.record now)) (str "module") = some module := by
  rw [stringAt, get?_metaMap hattrs]
  simp +decide [Attr.string]

theorem stringAt_clientLevel :
    stringAt (logger.metaMap (entry.record now)) (str "client_level") = some entry.level := by
  rw [stringAt, get?_metaMap hattrs]
  simp +decide [Attr.string]

theorem stringAt_clientTimestamp :
    stringAt (logger.metaMap (entry.record now)) (str "client_timestamp") = some entry.timestamp := by
  rw [stringAt, get?_metaMap hattrs]
  simp +decide [Attr.string]

/-- The fields of the entry, and what is left of the map for its metadata. -/
theorem entry_eq : logger.entry (entry.record now) =
    { level := entry.level
      message := entry.message
      timestamp := entry.timestamp
      component := if entry.component = [] then module else entry.component
      metadata :=
        let metaMap := leftOver (logger.metaMap (entry.record now))
          (if entry.component = [] then str "module" else str "component")
        if metaMap.rows = [] then [] else (marshal metaMap).getD [] } := by
  -- the level and the timestamp are still in the map whichever of the two keys has been taken out of it
  have hrest : ∀ key ∈ [str "component", str "module"],
      (takeString ((logger.metaMap (entry.record now)).delete key) (str "client_level")
          (entry.record now).level.string) =
        (entry.level, ((logger.metaMap (entry.record now)).delete key).delete (str "client_level")) ∧
      (takeString (((logger.metaMap (entry.record now)).delete key).delete (str "client_level"))
          (str "client_timestamp") (rfc3339 (entry.record now).time)) =
        (entry.timestamp,
          (((logger.metaMap (entry.record now)).delete key).delete (str "client_level")).delete
            (str "client_timestamp")) := by
    intro key hkey
    have hlevel : str "client_level" ≠ key ∧ str "client_timestamp" ≠ key := by
      revert key
      decide
    refine ⟨takeString_of_some ?_ _, takeString_of_some ?_ _⟩
    · rw [stringAt_delete _ hlevel.1]
      exact stringAt_clientLevel hattrs entry now
    · rw [stringAt_delete _ (by decide), stringAt_delete _ hlevel.2]
      exact stringAt_clientTimestamp hattrs entry now
  unfold InterceptHandler.entry
  by_cases hcomponent : entry.component = []
  · obtain ⟨hlevel, htimestamp⟩ := hrest (str "module") (by decide)
    simp only [stringAt_component hattrs entry now, takeString_of_some (stringAt_module hattrs entry now), hcomponent,
      if_true, hlevel, htimestamp]
    rfl
  · obtain ⟨hlevel, htimestamp⟩ := hrest (str "component") (by decide)
    simp only [stringAt_component hattrs entry now, hcomponent, if_false, hlevel, htimestamp]
    rfl

/-- What is left of the map is the metadata, and the module of an entry with a component of its own. -/
theorem get?_leftOver (key : GoString) :
    (leftOver (logger.metaMap (entry.record now))
        (if entry.component = [] then str "module" else str "component")).get? key =
      if key = str "metadata" ∧ entry.metadata ≠ [] then some (Attr.string key entry.metadata)
      else if key = str "module" ∧ entry.component ≠ [] then some (Attr.string key module)
      else none := by
  unfold leftOver
  simp only [KeyedTable.get?_delete]
  rw [get?_metaMap hattrs]
  by_cases hmetadata : key = str "metadata"
  · subst hmetadata
    by_cases hcomponent : entry.component = []
    · simp +decide [hcomponent]
    · simp +decide [hcomponent]
  by_cases hmodule : key = str "module"
  · subst hmodule
    by_cases hcomponent : entry.component = []
    · simp +decide [hcomponent]
    · simp +decide [hcomponent]
  by_cases hcomponent : entry.component = []
  · simp only [hcomponent, hmetadata, hmodule, if_true, false_and, ne_eq, not_true, and_false, if_false]
    split_ifs <;> rfl
  · simp only [hcomponent, hmetadata, hmodule, false_and, ne_eq, not_false_eq_true, and_true, if_false]
    split_ifs <;> rfl

/-- The entry that the handler adds to the buffer shows the entry of the browser. -/
theorem shows_entry (hmodule : ValidString module) (hmetadata : ValidString entry.metadata) :
    Shows module entry (logger.entry (entry.record now)) := by
  rw [entry_eq hattrs]
  refine ⟨rfl, rfl, rfl, rfl, fun hne => ?_⟩
  simp only
  generalize hleft : leftOver (logger.metaMap (entry.record now))
    (if entry.component = [] then str "module" else str "component") = metaMap
  have hget := get?_leftOver hattrs entry now
  rw [hleft] at hget
  obtain ⟨json, members, hjson, hmembers, hlookup⟩ := @marshal_of_strings metaMap (by
    intro attr hattr
    have hattr : metaMap.get? attr.key = some attr := KeyedTable.get?_eq_some_iff.mpr ⟨hattr, rfl⟩
    rw [hget] at hattr
    split at hattr
    · rename_i hkey
      rw [hkey.1]
      exact ⟨_, (congrArg Attr.value (Option.some.inj hattr)).symm, validString_str _, hmetadata⟩
    · split at hattr
      · rename_i hkey
        rw [hkey.1]
        exact ⟨_, (congrArg Attr.value (Option.some.inj hattr)).symm, validString_str _, hmodule⟩
      · cases hattr)
  have hfound : metaMap.get? (str "metadata") = some (Attr.string (str "metadata") entry.metadata) := by
    rw [hget, if_pos ⟨rfl, hne⟩]
  have hrows : metaMap.rows ≠ [] := by
    have hmem := KeyedTable.mem_iff_mem_rows.mp (KeyedTable.get?_eq_some_iff.mp hfound).1
    exact List.ne_nil_of_mem hmem
  rw [if_neg hrows, hjson, Option.getD_some, hmembers, Option.bind_some]
  exact hlookup _ _ hfound

end

/-! ## A batch -/

theorem log_eq_addAll (logger : InterceptHandler) (rb : RingBuffer) (record : Record) :
    logger.log rb record =
      rb.addAll (([record].filter fun record => logger.enabled record.level).map logger.entry) := by
  unfold InterceptHandler.log
  by_cases henabled : logger.enabled record.level = true
  · rw [if_pos henabled, List.filter_singleton, henabled]
    rfl
  · rw [if_neg henabled, List.filter_singleton, Bool.eq_false_of_not_eq_true henabled]
    rfl

/-- The loop has logged one record for every entry that is not `nil`, and added to the buffer the entries of those
whose level is enabled. -/
theorem syncEntries_spec (logger : InterceptHandler) (clock : Nat → Int) (synced : Synced)
    (entries : List (Option ClientLogEntry)) :
    ∃ records : List Record, List.Forall₂ (fun entry record => ∃ now, record = entry.record now)
        (entries.filterMap id) records ∧
      syncEntries logger clock synced entries =
        { buffer := synced.buffer.addAll
            ((records.filter fun record => logger.enabled record.level).map logger.entry)
          logged := synced.logged ++ records
          processedCount := synced.processedCount + Int32.ofNat records.length } := by
  induction entries generalizing synced with
  | nil =>
      refine ⟨[], List.Forall₂.nil, ?_⟩
      simp [syncEntries]
  | cons entry rest ih =>
      cases entry with
      | none =>
          obtain ⟨records, hrecords, heq⟩ := ih synced
          exact ⟨records, hrecords, heq⟩
      | some entry =>
          obtain ⟨records, hrecords, heq⟩ := ih
            { buffer := logger.log synced.buffer (entry.record (clock rest.length))
              logged := synced.logged ++ [entry.record (clock rest.length)]
              processedCount := synced.processedCount + 1 }
          refine ⟨entry.record (clock rest.length) :: records, List.Forall₂.cons ⟨_, rfl⟩ hrecords, ?_⟩
          have hcount : synced.processedCount + 1 + Int32.ofNat records.length =
              synced.processedCount + Int32.ofNat (records.length + 1) := by
            rw [Int32.ofNat_add, Int32.add_assoc, Int32.add_comm (Int32.ofNat records.length)]
            rfl
          rw [syncEntries, heq, log_eq_addAll, ← RingBuffer.addAll_append, ← List.map_append, ← List.filter_append,
            List.append_assoc, List.singleton_append, List.length_cons]
          simp only [hcount]

/-- The records of entries that are enabled become entries of the buffer that show them. -/
theorem shows_records {logger : InterceptHandler} {module : GoString}
    (hattrs : logger.attrs = [Attr.string (str "module") module]) (hmodule : ValidString module)
    {entries : List ClientLogEntry} {records : List Record}
    (hrecords : List.Forall₂ (fun entry record => ∃ now, record = entry.record now) entries records)
    (hvalid : ∀ entry ∈ entries, ValidString entry.metadata) :
    List.Forall₂ (Shows module) (entries.filter fun entry => logger.enabled entry.slogLevel)
      ((records.filter fun record => logger.enabled record.level).map logger.entry) := by
  induction hrecords with
  | nil => exact List.Forall₂.nil
  | @cons entry record entries records hrecord _ ih =>
      obtain ⟨now, rfl⟩ := hrecord
      rw [List.forall_mem_cons] at hvalid
      have hrest := ih hvalid.2
      have hlevel : (entry.record now).level = entry.slogLevel := rfl
      rw [List.filter_cons, List.filter_cons, hlevel]
      by_cases henabled : logger.enabled entry.slogLevel = true
      · rw [if_pos henabled, if_pos henabled, List.map_cons]
        exact List.Forall₂.cons (shows_entry hattrs entry now hmodule hvalid.1) hrest
      · rw [if_neg henabled, if_neg henabled]
        exact hrest

/-- The logger of `serve` in production, with its module. -/
def productionLogger : InterceptHandler :=
  InterceptHandler.withAttrs ⟨fun level => levelInfo ≤ level, []⟩ [Attr.string (str "module") (str "logging")]

/-- A click with quotes in its metadata, a debug message, and a message of no component with a level nobody knows. -/
def threeEntries : List (Option ClientLogEntry) :=
  [some ⟨str "info", str "User clicked login button", str "2026-07-05T17:00:00Z", str "LoginButton",
      str "\x7b\"userID\": \"123\"\x7d"⟩,
    none,
    some ⟨str "DEBUG", str "Fetched settings", str "2026-07-05T17:02:00Z", [], []⟩,
    some ⟨str "TRACE", str "Fallback", str "yesterday", [], str "\x7b\x7d"⟩]

end Logging
end Dmanager
