import Dmanager.Go.Calendar
import Dmanager.Go.Json
import Dmanager.Lib.KeyedTable
import Mathlib.Data.List.DropRight
import Mathlib.Data.List.Sort

/-!
# The log buffer and its handler

`RingBuffer` holds the last log entries for the page of system logs; `InterceptHandler` is the `slog` handler that
fills it.  The handler collects the attributes of its logger and of the record in a map, takes out of it what has a
field of its own in an entry, and writes what is left as JSON.

* `RingBuffer.chronological_addAll` — the buffer holds the last entries that were added, in order.
* `marshal_of_strings` — a map of strings is written so that each of them is read back under its key.

The handler under this one (`next`) only says which levels are enabled; what it prints is not modelled.
-/

namespace Dmanager
namespace Logging

open Dmanager.Go
open Dmanager.Lib

/-- A log entry. -/
structure LogEntry where
  level : GoString
  message : GoString
  timestamp : GoString
  component : GoString
  metadata : GoString
  deriving DecidableEq, Repr

/-! ## The buffer -/

/-- A buffer of fixed capacity; when it is full, `cursor` is the place of the oldest entry. -/
structure RingBuffer where
  capacity : Nat
  entries : List LogEntry
  cursor : Nat
  length_le : entries.length ≤ capacity
  cursor_lt : cursor < capacity
  cursor_eq_zero : entries.length < capacity → cursor = 0

namespace RingBuffer

/-- `NewRingBuffer`.  With a capacity of zero the first `Add` would panic. -/
def new (capacity : Nat) (hpos : 0 < capacity) : RingBuffer where
  capacity := capacity
  entries := []
  cursor := 0
  length_le := Nat.zero_le _
  cursor_lt := hpos
  cursor_eq_zero _ := rfl

/-- `Add`. -/
def add (rb : RingBuffer) (entry : LogEntry) : RingBuffer :=
  if hroom : rb.entries.length < rb.capacity then
    { rb with
      entries := rb.entries ++ [entry]
      length_le := by
        rw [List.length_append, List.length_singleton]
        exact hroom
      cursor_eq_zero := fun _ => rb.cursor_eq_zero hroom }
  else
    { rb with
      entries := rb.entries.set rb.cursor entry
      cursor := (rb.cursor + 1) % rb.capacity
      length_le := by
        rw [List.length_set]
        exact rb.length_le
      cursor_lt := Nat.mod_lt _ (Nat.zero_lt_of_lt rb.cursor_lt)
      cursor_eq_zero := by
        intro hlt
        rw [List.length_set] at hlt
        exact absurd hlt hroom }

/-- The entries from the oldest to the newest, as `Get` gathers them. -/
def chronological (rb : RingBuffer) : List LogEntry :=
  if rb.entries.length < rb.capacity then rb.entries
  else (List.range rb.capacity).filterMap fun i => rb.entries[(rb.cursor + i) % rb.capacity]?

/-- Entries added one after another. -/
def addAll (rb : RingBuffer) (entries : List LogEntry) : RingBuffer := entries.foldl add rb

@[simp] theorem addAll_nil (rb : RingBuffer) : rb.addAll [] = rb := rfl

theorem addAll_append (rb : RingBuffer) (entries entries' : List LogEntry) :
    rb.addAll (entries ++ entries') = (rb.addAll entries).addAll entries' := List.foldl_append

theorem addAll_concat (rb : RingBuffer) (entries : List LogEntry) (entry : LogEntry) :
    rb.addAll (entries ++ [entry]) = (rb.addAll entries).add entry := List.foldl_append

theorem filterMap_range_getElem? {α : Type*} (l : List α) :
    (List.range l.length).filterMap (fun i => l[i]?) = l := by
  induction l using List.reverseRecOn with
  | nil => rfl
  | append_singleton l a ih =>
      rw [List.length_append, List.length_singleton, List.range_succ, List.filterMap_append]
      have hfirst : (List.range l.length).filterMap (fun i => (l ++ [a])[i]?) = l := by
        conv_rhs => rw [← ih]
        apply List.filterMap_congr
        intro i hi
        exact List.getElem?_append_left (List.mem_range.mp hi)
      rw [hfirst]
      simp

/-- The entries are read from the cursor to the end and then from the start. -/
theorem chronological_eq_rotate (rb : RingBuffer) : rb.chronological = rb.entries.rotate rb.cursor := by
  unfold chronological
  split
  · rename_i hroom
    rw [rb.cursor_eq_zero hroom, List.rotate_zero]
  · rename_i hfull
    have hlength : rb.entries.length = rb.capacity := by
      have hle := rb.length_le
      omega
    conv_rhs => rw [← filterMap_range_getElem? (rb.entries.rotate rb.cursor)]
    rw [List.length_rotate, hlength]
    apply List.filterMap_congr
    intro i hi
    rw [List.getElem?_rotate (by rw [hlength]; exact List.mem_range.mp hi), hlength, Nat.add_comm]

theorem length_chronological (rb : RingBuffer) : rb.chronological.length ≤ rb.capacity := by
  rw [chronological_eq_rotate, List.length_rotate]
  exact rb.length_le

@[simp] theorem capacity_add (rb : RingBuffer) (entry : LogEntry) : (rb.add entry).capacity = rb.capacity := by
  unfold add
  split <;> rfl

/-- An entry that is added is the newest one, and the oldest makes place for it. -/
theorem chronological_add (rb : RingBuffer) (entry : LogEntry) :
    (rb.add entry).chronological = (rb.chronological ++ [entry]).rtake rb.capacity := by
  rw [chronological_eq_rotate, chronological_eq_rotate]
  by_cases hroom : rb.entries.length < rb.capacity
  · have hlength : (rb.entries ++ [entry]).length ≤ rb.capacity := by
      rw [List.length_append, List.length_singleton]
      exact hroom
    rw [add, dif_pos hroom]
    simp only
    rw [rb.cursor_eq_zero hroom, List.rotate_zero, List.rotate_zero, List.rtake, Nat.sub_eq_zero_of_le hlength,
      List.drop_zero]
  · have hlength : rb.entries.length = rb.capacity := by
      have hle := rb.length_le
      omega
    have hcursor : rb.cursor < rb.entries.length := by
      rw [hlength]
      exact rb.cursor_lt
    rw [add, dif_neg hroom]
    simp only
    -- the cursor stands between the newest entries and the oldest one
    have hset : rb.entries.set rb.cursor entry =
        rb.entries.take rb.cursor ++ [entry] ++ rb.entries.drop (rb.cursor + 1) := by
      rw [List.set_eq_take_append_cons_drop, if_pos hcursor, List.append_assoc, List.singleton_append]
    have htake : (rb.entries.take rb.cursor ++ [entry]).length = rb.cursor + 1 := by
      rw [List.length_append, List.length_take, List.length_singleton]
      omega
    have hnew : (rb.entries.set rb.cursor entry).rotate ((rb.cursor + 1) % rb.capacity) =
        rb.entries.drop (rb.cursor + 1) ++ (rb.entries.take rb.cursor ++ [entry]) := by
      rw [← hlength, ← List.length_set, List.rotate_mod, hset, ← htake, List.rotate_append_length_eq]
    rw [hnew, List.rotate_eq_drop_append_take hcursor.le, List.drop_eq_getElem_cons hcursor, List.rtake]
    have hone : ((rb.entries[rb.cursor] :: rb.entries.drop (rb.cursor + 1)) ++ rb.entries.take rb.cursor ++
        [entry]).length - rb.capacity = 1 := by
      simp only [List.length_append, List.length_cons, List.length_drop, List.length_take, List.length_nil]
      omega
    rw [hone, List.cons_append, List.cons_append, List.drop_one, List.tail_cons, List.append_assoc]

/-- The buffer holds the last entries, as many as it has room for, in the order they were added. -/
theorem chronological_addAll (rb : RingBuffer) (entries : List LogEntry) :
    (rb.addAll entries).chronological = (rb.chronological ++ entries).rtake rb.capacity ∧
      (rb.addAll entries).capacity = rb.capacity := by
  induction entries using List.reverseRecOn with
  | nil =>
      have hle := rb.length_chronological
      rw [addAll_nil, List.append_nil, List.rtake, Nat.sub_eq_zero_of_le hle, List.drop_zero]
      exact ⟨rfl, rfl⟩
  | append_singleton entries entry ih =>
      obtain ⟨ih, hcapacity⟩ := ih
      rw [addAll_concat, chronological_add, capacity_add, hcapacity, ih]
      refine ⟨?_, rfl⟩
      rw [← List.append_assoc]
      generalize rb.chronological ++ entries = all
      have hdrop : all.length - rb.capacity ≤ all.length := Nat.sub_le _ _
      unfold List.rtake
      rw [← List.drop_append_of_le_length hdrop, List.drop_drop, List.length_drop, List.length_append,
        List.length_singleton]
      congr 1
      omega

end RingBuffer

/-! ## The handler -/

/-- `slog.Value`: a string, or a value of another kind with what `json.Marshal` writes for it when it can. -/
inductive Value where
  | string (s : GoString)
  | other (json : Option GoString)
  deriving DecidableEq, Repr

/-- What `json.Marshal` writes for a value. -/
def Value.json? : Value → Option GoString
  | .string s => some (writeString s)
  | .other json => json

/-- `slog.Attr`. -/
structure Attr where
  key : GoString
  value : Value
  deriving DecidableEq, Repr

/-- `slog.String`. -/
def Attr.string (key value : GoString) : Attr := ⟨key, .string value⟩

/-- `slog.Level`. -/
abbrev Level := Int

def levelDebug : Level := -4
def levelInfo : Level := 0
def levelWarn : Level := 4
def levelError : Level := 8

/-- `Level.String`: the level below, and how far above it this one is. -/
def Level.string (l : Level) : GoString :=
  let text (base : String) (val : Int) : GoString :=
    if val = 0 then str base else str base ++ (if 0 < val then str "+" else []) ++ intString val
  if l < levelInfo then text "DEBUG" (l - levelDebug)
  else if l < levelWarn then text "INFO" (l - levelInfo)
  else if l < levelError then text "WARN" (l - levelWarn)
  else text "ERROR" (l - levelError)

/-- `slog.Record`. -/
structure Record where
  time : Int
  level : Level
  message : GoString
  attrs : List Attr
  deriving DecidableEq, Repr

/-- The map of the attributes by their keys. -/
abbrev MetaMap := KeyedTable Attr.key

/-- `metaMap[key].(string)`. -/
def stringAt (metaMap : MetaMap) (key : GoString) : Option GoString :=
  match metaMap.get? key with
  | some ⟨_, .string s⟩ => some s
  | _ => none

/-- A string is taken out of the map; without one `otherwise` stands for it. -/
def takeString (metaMap : MetaMap) (key otherwise : GoString) : GoString × MetaMap :=
  match stringAt metaMap key with
  | some s => (s, metaMap.delete key)
  | none => (otherwise, metaMap)

/-- The attributes of the map in the order of their keys. -/
def sorted (metaMap : MetaMap) : List Attr :=
  metaMap.rows.insertionSort fun (first second : Attr) => first.key ≤ second.key

/-- `json.Marshal` of the map: its members by key. -/
def marshal (metaMap : MetaMap) : Option GoString :=
  ((sorted metaMap).mapM fun (attr : Attr) => attr.value.json?.map fun json => (attr.key, json)).map writeObject

theorem mem_sorted {metaMap : MetaMap} {attr : Attr} : attr ∈ sorted metaMap ↔ attr ∈ metaMap :=
  List.mem_insertionSort _

theorem nodup_sorted (metaMap : MetaMap) : ((sorted metaMap).map Attr.key).Nodup :=
  ((List.perm_insertionSort _ metaMap.rows).map Attr.key).nodup_iff.mpr metaMap.nodup

/-- Of members with different keys each is found by its key. -/
theorem lookup_of_mem {members : List (GoString × GoString)} (hnodup : (members.map Prod.fst).Nodup)
    {key s : GoString} (hmem : (key, s) ∈ members) : members.lookup key = some s := by
  obtain ⟨before, later, rfl⟩ := List.append_of_mem hmem
  rw [List.map_append, List.map_cons, List.nodup_append] at hnodup
  obtain ⟨-, -, hdisjoint⟩ := hnodup
  rw [List.lookup_eq_some_iff]
  refine ⟨before, later, rfl, fun member hmember => bne_iff_ne.mpr fun heq => ?_⟩
  exact hdisjoint member.1 (List.mem_map_of_mem hmember) key List.mem_cons_self heq.symm

/-- A map of strings that are valid is written so that each of them is read back under its key. -/
theorem marshal_of_strings {metaMap : MetaMap}
    (hstrings : ∀ attr ∈ metaMap, ∃ s, attr.value = .string s ∧ ValidString attr.key ∧ ValidString s) :
    ∃ json members, marshal metaMap = some json ∧ readObject json = some members ∧
      ∀ key s, metaMap.get? key = some (Attr.string key s) → members.lookup key = some s := by
  have hrange : sorted metaMap ∈ Set.range (List.map fun member : GoString × GoString =>
      Attr.string member.1 member.2) := by
    rw [Set.range_list_map]
    intro attr hattr
    obtain ⟨s, hs, -⟩ := hstrings attr (mem_sorted.mp hattr)
    refine ⟨(attr.key, s), ?_⟩
    show Attr.mk attr.key (.string s) = attr
    rw [← hs]
  obtain ⟨members, hmembers⟩ := hrange
  have hmem : ∀ member ∈ members, Attr.string member.1 member.2 ∈ metaMap := by
    intro member hmember
    rw [← mem_sorted, ← hmembers]
    exact List.mem_map_of_mem hmember
  have hvalid : ∀ member ∈ members, ValidString member.1 ∧ ValidString member.2 := by
    intro member hmember
    obtain ⟨s, hs, hkey, hvalue⟩ := hstrings _ (hmem member hmember)
    cases hs
    exact ⟨hkey, hvalue⟩
  have hnodup : (members.map Prod.fst).Nodup := by
    have hkeys := nodup_sorted metaMap
    rw [← hmembers, List.map_map] at hkeys
    exact hkeys
  refine ⟨_, members, ?_, readObject_writeObject members hvalid, ?_⟩
  · have hjson : (members.map fun member => Attr.string member.1 member.2).mapM (fun (attr : Attr) =>
        attr.value.json?.map fun json => (attr.key, json)) =
          some (members.map fun member => (member.1, writeString member.2)) := by
      rw [List.mapM_map]
      exact List.mapM_pure
    rw [marshal, ← hmembers, hjson, Option.map_some]
  · intro key s hget
    have hattr := (KeyedTable.get?_eq_some_iff.mp hget).1
    rw [← mem_sorted, ← hmembers] at hattr
    obtain ⟨member, hmember, heq⟩ := List.mem_map.mp hattr
    cases heq
    exact lookup_of_mem hnodup hmember

/-- `InterceptHandler`; `enabled` is `next.Enabled`. -/
structure InterceptHandler where
  enabled : Level → Bool
  attrs : List Attr

namespace InterceptHandler

/-- `WithAttrs`. -/
def withAttrs (h : InterceptHandler) (attrs : List Attr) : InterceptHandler := { h with attrs := h.attrs ++ attrs }

/-- The attributes of the logger and of a record; of two with one key the later one is kept. -/
def metaMap (h : InterceptHandler) (record : Record) : MetaMap :=
  (h.attrs ++ record.attrs).foldl KeyedTable.put KeyedTable.empty

/-- The entry that `Handle` makes of a record. -/
def entry (h : InterceptHandler) (record : Record) : LogEntry :=
  let metaMap := h.metaMap record
  let (component, metaMap) :=
    match stringAt metaMap (str "component") with
    | some comp => (comp, metaMap.delete (str "component"))
    | none => takeString metaMap (str "module") []
  let (level, metaMap) := takeString metaMap (str "client_level") record.level.string
  let (timestamp, metaMap) := takeString metaMap (str "client_timestamp") (rfc3339 record.time)
  let metaMap := metaMap.delete (str "source")
  { level := level
    message := record.message
    timestamp := timestamp
    component := component
    metadata := if metaMap.rows = [] then [] else (marshal metaMap).getD [] }

/-- `Handle`, on the buffer. -/
def handle (h : InterceptHandler) (rb : RingBuffer) (record : Record) : RingBuffer := rb.add (h.entry record)

/-- `Logger.Log` of a logger with this handler. -/
def log (h : InterceptHandler) (rb : RingBuffer) (record : Record) : RingBuffer :=
  if h.enabled record.level then h.handle rb record else rb

end InterceptHandler

end Logging
end Dmanager
