import Mathlib.Tactic

/-!
# Tables with a unique key

A table is a list of rows no two of which have the same key; the uniqueness is part of the type, so a
table that breaks its primary key cannot be built.  The operations are the kinds of statement a
program sends to such a table: `get?` (select by key), `insert?` (insert, refused when the key is taken),
`update` (rewrite the row of a key, leaving its key alone) and `deleteWhere` (delete by a condition).  An
upsert is a `put`: the row takes the place of the one with its key, if there is one.

The lemmas say what each statement does to `get?`, and where the rows of the table after it come from;
proofs about programs use these and never look inside the list.
-/

namespace Dmanager
namespace Lib

/-- Rows with pairwise different keys. -/
structure KeyedTable {ρ κ : Type*} (key : ρ → κ) where
  rows : List ρ
  nodup : (rows.map key).Nodup

namespace KeyedTable

variable {ρ κ : Type*} {key : ρ → κ}

/-- The table without rows. -/
def empty : KeyedTable key := ⟨[], by simp⟩

/-- Membership of a row in a table. -/
instance : Membership ρ (KeyedTable key) := ⟨fun table row => row ∈ table.rows⟩

theorem mem_iff_mem_rows {table : KeyedTable key} {row : ρ} : row ∈ table ↔ row ∈ table.rows := Iff.rfl

@[simp] theorem not_mem_empty (row : ρ) : row ∉ (empty : KeyedTable key) := by
  simp [mem_iff_mem_rows, empty]

theorem eq_of_rows_eq {first second : KeyedTable key} (hrows : first.rows = second.rows) : first = second := by
  cases first
  cases second
  cases hrows
  rfl

/-- Two rows of a table with the same key are the same row. -/
theorem eq_of_key_eq {table : KeyedTable key} {first second : ρ}
    (hfirst : first ∈ table) (hsecond : second ∈ table) (hkey : key first = key second) :
    first = second :=
  List.inj_on_of_nodup_map table.nodup hfirst hsecond hkey

/-- Delete the rows that meet a condition. -/
def deleteWhere (table : KeyedTable key) (doomed : ρ → Bool) : KeyedTable key where
  rows := table.rows.filter fun row => !doomed row
  nodup := table.nodup.sublist (List.filter_sublist.map key)

@[simp] theorem mem_deleteWhere {table : KeyedTable key} {doomed : ρ → Bool} {row : ρ} :
    row ∈ table.deleteWhere doomed ↔ row ∈ table ∧ doomed row = false := by
  simp [mem_iff_mem_rows, deleteWhere]

theorem rows_nodup (table : KeyedTable key) : table.rows.Nodup := table.nodup.of_map

/-- The tables have the same rows among those that meet a condition. -/
def AgreeOn (p : ρ → Prop) (first second : KeyedTable key) : Prop := ∀ row, p row → (row ∈ first ↔ row ∈ second)

theorem AgreeOn.refl {p : ρ → Prop} (table : KeyedTable key) : AgreeOn p table table := fun _ _ => Iff.rfl

theorem AgreeOn.symm {p : ρ → Prop} {first second : KeyedTable key} (hagree : AgreeOn p first second) :
    AgreeOn p second first := fun row hp => (hagree row hp).symm

theorem AgreeOn.trans {p : ρ → Prop} {first second third : KeyedTable key} (hfirst : AgreeOn p first second)
    (hsecond : AgreeOn p second third) : AgreeOn p first third :=
  fun row hp => (hfirst row hp).trans (hsecond row hp)

/-- Tables that agree on some rows select the same ones among them, up to their order. -/
theorem AgreeOn.filter_perm {p : ρ → Prop} {first second : KeyedTable key} (hagree : AgreeOn p first second)
    {selected : ρ → Bool} (hselected : ∀ row, selected row = true → p row) :
    (first.rows.filter selected).Perm (second.rows.filter selected) := by
  apply (List.perm_ext_iff_of_nodup (first.rows_nodup.filter _) (second.rows_nodup.filter _)).mpr
  intro row
  rw [List.mem_filter, List.mem_filter]
  exact and_congr_left fun hrow => hagree row (hselected row hrow)

theorem AgreeOn.deleteWhere {p : ρ → Prop} {first second : KeyedTable key} (hagree : AgreeOn p first second)
    (doomed : ρ → Bool) : AgreeOn p (first.deleteWhere doomed) (second.deleteWhere doomed) := by
  intro row hp
  rw [mem_deleteWhere, mem_deleteWhere, hagree row hp]

/-- A delete changes nothing among the rows that it spares. -/
theorem agreeOn_deleteWhere {p : ρ → Prop} {doomed : ρ → Bool} (table : KeyedTable key)
    (hspared : ∀ row, doomed row = true → ¬ p row) : AgreeOn p table (table.deleteWhere doomed) := by
  intro row hp
  rw [mem_deleteWhere, and_iff_left]
  exact Bool.eq_false_iff.mpr fun hdoomed => hspared row hdoomed hp

/-- How many rows a delete removes. -/
theorem length_sub_deleteWhere (table : KeyedTable key) (doomed : ρ → Bool) :
    table.rows.length - (table.deleteWhere doomed).rows.length = (table.rows.filter doomed).length := by
  have hsplit := List.length_eq_length_filter_add (l := table.rows) doomed
  show table.rows.length - (table.rows.filter fun row => !doomed row).length = _
  omega

/-- Deletes among the rows on which two tables agree remove as many of the one as of the other. -/
theorem AgreeOn.length_sub_deleteWhere {p : ρ → Prop} {first second : KeyedTable key} (hagree : AgreeOn p first second)
    {doomed : ρ → Bool} (hdoomed : ∀ row, doomed row = true → p row) :
    first.rows.length - (first.deleteWhere doomed).rows.length =
      second.rows.length - (second.deleteWhere doomed).rows.length := by
  rw [KeyedTable.length_sub_deleteWhere, KeyedTable.length_sub_deleteWhere]
  exact (hagree.filter_perm hdoomed).length_eq

variable [DecidableEq κ]

/-- The row of a key, if there is one. -/
def get? (table : KeyedTable key) (k : κ) : Option ρ :=
  table.rows.find? fun row => decide (key row = k)

/-- Insert a row; refused when its key is taken. -/
def insert? (table : KeyedTable key) (row : ρ) : Option (KeyedTable key) :=
  if hfresh : key row ∈ table.rows.map key then
    none
  else
    some
      { rows := table.rows ++ [row]
        nodup := by
          rw [List.map_append, List.map_singleton, List.nodup_append]
          refine ⟨table.nodup, by simp, ?_⟩
          intro taken htaken k hk heq
          rw [List.mem_singleton] at hk
          exact hfresh (hk ▸ heq ▸ htaken) }

/-- Rewrite the row of a key with a function that leaves the key alone. -/
def update (table : KeyedTable key) (k : κ) (f : ρ → ρ) (hf : ∀ row, key (f row) = key row) :
    KeyedTable key where
  rows := table.rows.map fun row => if key row = k then f row else row
  nodup := by
    have hsame : (key ∘ fun row => if key row = k then f row else row) = key := by
      funext row
      by_cases hrow : key row = k
      · simp [hrow, hf]
      · simp [hrow]
    rw [List.map_map, hsame]
    exact table.nodup

theorem get?_eq_some_iff {table : KeyedTable key} {k : κ} {row : ρ} :
    table.get? k = some row ↔ row ∈ table ∧ key row = k := by
  constructor
  · intro hget
    exact ⟨List.mem_of_find?_eq_some hget, by simpa using List.find?_some hget⟩
  · rintro ⟨hmem, hkey⟩
    cases hget : table.get? k with
    | none =>
        have habsent := List.find?_eq_none.mp hget row hmem
        simp [hkey] at habsent
    | some other =>
        have hother : other ∈ table := List.mem_of_find?_eq_some hget
        have hotherKey : key other = k := by simpa using List.find?_some hget
        rw [eq_of_key_eq hother hmem (hotherKey.trans hkey.symm)]

theorem get?_eq_none_iff {table : KeyedTable key} {k : κ} :
    table.get? k = none ↔ ∀ row ∈ table, key row ≠ k := by
  constructor
  · intro hget row hmem
    simpa using List.find?_eq_none.mp hget row hmem
  · intro habsent
    apply List.find?_eq_none.mpr
    intro row hmem
    simpa using habsent row hmem

@[simp] theorem get?_empty (k : κ) : (empty : KeyedTable key).get? k = none := rfl

theorem insert?_eq_none_iff {table : KeyedTable key} {row : ρ} :
    table.insert? row = none ↔ ∃ other ∈ table, key other = key row := by
  simp [insert?, mem_iff_mem_rows]

/-- The rows after an insert that was not refused. -/
theorem mem_of_insert? {table next : KeyedTable key} {row : ρ} (hinsert : table.insert? row = some next)
    {other : ρ} : other ∈ next ↔ other ∈ table ∨ other = row := by
  unfold insert? at hinsert
  split at hinsert
  · cases hinsert
  · cases hinsert
    simp [mem_iff_mem_rows]

theorem get?_of_insert? {table next : KeyedTable key} {row : ρ} (hinsert : table.insert? row = some next)
    (k : κ) : next.get? k = if key row = k then some row else table.get? k := by
  by_cases hkey : key row = k
  · rw [if_pos hkey, get?_eq_some_iff]
    exact ⟨(mem_of_insert? hinsert).mpr (Or.inr rfl), hkey⟩
  · rw [if_neg hkey]
    cases hget : table.get? k with
    | none =>
        rw [get?_eq_none_iff] at hget ⊢
        intro other hother
        rcases (mem_of_insert? hinsert).mp hother with hold | rfl
        · exact hget other hold
        · exact hkey
    | some other =>
        rw [get?_eq_some_iff] at hget ⊢
        exact ⟨(mem_of_insert? hinsert).mpr (Or.inl hget.1), hget.2⟩

theorem mem_update {table : KeyedTable key} {k : κ} {f : ρ → ρ} {hf : ∀ row, key (f row) = key row}
    {row : ρ} :
    row ∈ table.update k f hf ↔
      ∃ old ∈ table, (key old = k ∧ row = f old) ∨ (key old ≠ k ∧ row = old) := by
  simp only [mem_iff_mem_rows, update, List.mem_map]
  constructor
  · rintro ⟨old, hold, rfl⟩
    by_cases hkey : key old = k
    · exact ⟨old, hold, Or.inl ⟨hkey, by simp [hkey]⟩⟩
    · exact ⟨old, hold, Or.inr ⟨hkey, by simp [hkey]⟩⟩
  · rintro ⟨old, hold, ⟨hkey, rfl⟩ | ⟨hkey, rfl⟩⟩
    · exact ⟨old, hold, by simp [hkey]⟩
    · exact ⟨row, hold, by simp [hkey]⟩

theorem get?_update {table : KeyedTable key} {k : κ} {f : ρ → ρ} {hf : ∀ row, key (f row) = key row}
    (k' : κ) :
    (table.update k f hf).get? k' = if k' = k then (table.get? k').map f else table.get? k' := by
  have hfind : (table.update k f hf).get? k' =
      (table.get? k').map fun row => if key row = k then f row else row := by
    unfold get? update
    rw [List.find?_map]
    congr 2
    funext row
    by_cases hrow : key row = k <;> simp [hrow, hf]
  rw [hfind]
  cases hget : table.get? k' with
  | none => simp
  | some row =>
      have hkey : key row = k' := (get?_eq_some_iff.mp hget).2
      by_cases hk : k' = k <;> simp [hkey, hk]

theorem get?_deleteWhere {table : KeyedTable key} {doomed : ρ → Bool} (k : κ) :
    (table.deleteWhere doomed).get? k = (table.get? k).filter fun row => !doomed row := by
  cases hget : table.get? k with
  | none =>
      rw [Option.filter_none, get?_eq_none_iff]
      intro row hrow
      exact get?_eq_none_iff.mp hget row (mem_deleteWhere.mp hrow).1
  | some row =>
      obtain ⟨hmem, hkey⟩ := get?_eq_some_iff.mp hget
      cases hdoomed : doomed row with
      | true =>
          simp only [Option.filter_some, hdoomed, Bool.not_true, Bool.false_eq_true, if_false]
          rw [get?_eq_none_iff]
          intro other hother hotherKey
          obtain ⟨holdMem, hkept⟩ := mem_deleteWhere.mp hother
          rw [eq_of_key_eq holdMem hmem (hotherKey.trans hkey.symm), hdoomed] at hkept
          cases hkept
      | false =>
          simp only [Option.filter_some, hdoomed, Bool.not_false, if_true]
          exact get?_eq_some_iff.mpr ⟨mem_deleteWhere.mpr ⟨hmem, hdoomed⟩, hkey⟩

/-- Delete the row of a key. -/
def delete (table : KeyedTable key) (k : κ) : KeyedTable key :=
  table.deleteWhere fun row => decide (key row = k)

/-- Insert a row in the place of the one with its key. -/
def put (table : KeyedTable key) (row : ρ) : KeyedTable key where
  rows := (table.delete (key row)).rows ++ [row]
  nodup := by
    rw [List.map_append, List.map_singleton, List.nodup_append]
    refine ⟨(table.delete (key row)).nodup, by simp, ?_⟩
    intro taken htaken k hk heq
    obtain ⟨other, hother, rfl⟩ := List.mem_map.mp htaken
    have hkept : decide (key other = key row) = false := (mem_deleteWhere.mp hother).2
    rw [List.mem_singleton] at hk
    simp [heq, hk] at hkept

@[simp] theorem get?_delete {table : KeyedTable key} (k k' : κ) :
    (table.delete k).get? k' = if k' = k then none else table.get? k' := by
  rw [delete, get?_deleteWhere]
  cases hget : table.get? k' with
  | none => simp
  | some row =>
      have hkey : key row = k' := (get?_eq_some_iff.mp hget).2
      by_cases hk : k' = k
      · simp [Option.filter, hkey, hk]
      · simp [Option.filter, hkey, hk]

@[simp] theorem get?_put {table : KeyedTable key} (row : ρ) (k : κ) :
    (table.put row).get? k = if k = key row then some row else table.get? k := by
  have hmem : ∀ other, other ∈ table.put row ↔ other ∈ table.delete (key row) ∨ other = row := by
    intro other
    simp [mem_iff_mem_rows, put]
  by_cases hk : k = key row
  · rw [if_pos hk, get?_eq_some_iff]
    exact ⟨(hmem row).mpr (Or.inr rfl), hk.symm⟩
  · rw [if_neg hk]
    have hdelete : (table.delete (key row)).get? k = table.get? k := by simp [hk]
    rw [← hdelete]
    cases hget : (table.delete (key row)).get? k with
    | none =>
        rw [get?_eq_none_iff] at hget ⊢
        intro other hother
        rcases (hmem other).mp hother with hold | rfl
        · exact hget other hold
        · exact Ne.symm hk
    | some other =>
        rw [get?_eq_some_iff] at hget ⊢
        exact ⟨(hmem other).mpr (Or.inl hget.1), hget.2⟩

end KeyedTable

end Lib
end Dmanager
