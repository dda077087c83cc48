import Dmanager.Go.Strings
import Dmanager.Lib.KeyedTable

/-!
# The `settings` table

Its key is the name of the setting.  The column `updated_at` is left out: no modelled function reads it.
-/

namespace Dmanager
namespace Db

open Go Lib

/-- `db.Setting`. -/
structure Setting where
  key : GoString
  value : GoString
  deriving DecidableEq, Repr

/-- The table. -/
abbrev Settings := KeyedTable Setting.key

namespace Settings

/-- `SELECT ... FROM settings WHERE key = ? LIMIT 1`. -/
def getSetting (settings : Settings) (key : GoString) : Option Setting := settings.get? key

/-- `INSERT INTO settings ... ON CONFLICT(key) DO UPDATE SET value = excluded.value`. -/
def updateSetting (settings : Settings) (key value : GoString) : Settings := settings.put ⟨key, value⟩

/-- `SELECT ... FROM settings`, in no particular order. -/
def Listing (settings : Settings) (rows : List Setting) : Prop := rows.Perm settings.rows

theorem Listing.mem_iff {settings : Settings} {rows : List Setting} (hlisting : Listing settings rows)
    {row : Setting} : row ∈ rows ↔ settings.getSetting row.key = some row := by
  rw [getSetting, KeyedTable.get?_eq_some_iff, KeyedTable.mem_iff_mem_rows, List.Perm.mem_iff hlisting]
  exact (and_iff_left rfl).symm

theorem Listing.nodup {settings : Settings} {rows : List Setting} (hlisting : Listing settings rows) :
    (rows.map Setting.key).Nodup := (hlisting.map Setting.key).nodup_iff.mpr settings.nodup

end Settings

end Db
end Dmanager
