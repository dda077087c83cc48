import Dmanager.Db.Settings
import Dmanager.Server.Config
import Dmanager.Settings.Mutations

/-!
# The stored settings

`GetSettings` of `internal/settings/service.go`, and the retention window of the audit trail as the recorder of
`internal/audit/audit.go` reads it.  The two resolve the stored text each in its own way;
`auditRetentionDays_settingsResponse` says that they agree on every table.
-/

namespace Dmanager
namespace Settings

open Go Db Lib Server Auth
open Db.Settings (Listing)

/-- `audit.RetentionSettingKey`. -/
def retentionSettingKey : GoString := str "audit_retention_days"

/-- `audit.DefaultRetentionDays`. -/
def defaultRetentionDays : Int := 90

/-- `retentionDays` of the recorder. -/
def retentionDays (settings : Db.Settings) : Int :=
  match settings.getSetting retentionSettingKey with
  | none => defaultRetentionDays
  | some setting =>
      match atoi setting.value with
      | none => defaultRetentionDays
      | some days => if isValidRetentionDays days then days else defaultRetentionDays

/-- `v1.GetSettingsResponse`. -/
structure GetSettingsResponse where
  gotifyUrl : GoString
  gotifyToken : GoString
  auditRetentionDays : Int32
  deriving DecidableEq, Repr

/-- What a row does to the response. -/
def applySetting (res : GetSettingsResponse) (setting : Setting) : GetSettingsResponse :=
  if setting.key = str "gotify_url" then { res with gotifyUrl := setting.value }
  else if setting.key = str "gotify_token" then { res with gotifyToken := setting.value }
  else if setting.key = retentionSettingKey then
    match atoi setting.value with
    | some days => if isValidRetentionDays days then { res with auditRetentionDays := Int32.ofInt days } else res
    | none => res
  else res

/-- The response for a list of rows. -/
def settingsResponse (rows : List Setting) : GetSettingsResponse :=
  rows.foldl applySetting ⟨[], [], Int32.ofInt defaultRetentionDays⟩

/-- `GetSettings`, with the answer of `ListSettings`. -/
def getSettings (ctx : Ctx) (listed : Except GoString (List Setting)) : Handler GetSettingsResponse := do
  checkAdmin ctx
  match listed with
  | .error message => .fail (wrapError .internal "failed to retrieve settings" message)
  | .ok rows => .done (settingsResponse rows)

/-- The window that a stored text stands for. -/
def windowOf (value : GoString) : Int :=
  match atoi value with
  | none => defaultRetentionDays
  | some days => if isValidRetentionDays days then days else defaultRetentionDays

theorem toInt_ofInt_of_valid : ∀ days ∈ validRetentionDayList, (Int32.ofInt days).toInt = days := by decide

/-- The window is one of the presets. -/
theorem retentionDays_mem (settings : Db.Settings) : retentionDays settings ∈ validRetentionDayList := by
  have hdefault : defaultRetentionDays ∈ validRetentionDayList := by decide
  unfold retentionDays
  split
  · exact hdefault
  · split
    · exact hdefault
    · split
      · rename_i hvalid
        exact List.contains_iff_mem.mp hvalid
      · exact hdefault

theorem applySetting_of_other {res : GetSettingsResponse} {setting : Setting}
    (hkey : setting.key ≠ retentionSettingKey) :
    (applySetting res setting).auditRetentionDays = res.auditRetentionDays := by
  unfold applySetting
  rw [if_neg hkey]
  split
  · rfl
  · split <;> rfl

theorem applySetting_of_retention {res : GetSettingsResponse} {setting : Setting}
    (hkey : setting.key = retentionSettingKey) (hres : res.auditRetentionDays.toInt = defaultRetentionDays) :
    (applySetting res setting).auditRetentionDays.toInt = windowOf setting.value := by
  have hurl : setting.key ≠ str "gotify_url" := by
    rw [hkey]
    decide
  have htoken : setting.key ≠ str "gotify_token" := by
    rw [hkey]
    decide
  unfold applySetting windowOf
  rw [if_neg hurl, if_neg htoken, if_pos hkey]
  cases atoi setting.value with
  | none => exact hres
  | some days =>
      simp only
      by_cases hvalid : isValidRetentionDays days = true
      · rw [if_pos hvalid, if_pos hvalid]
        exact toInt_ofInt_of_valid _ (List.contains_iff_mem.mp hvalid)
      · rw [if_neg hvalid, if_neg hvalid]
        exact hres

theorem foldl_applySetting_of_other (rows : List Setting) (res : GetSettingsResponse)
    (hkeys : ∀ row ∈ rows, row.key ≠ retentionSettingKey) :
    (rows.foldl applySetting res).auditRetentionDays = res.auditRetentionDays := by
  induction rows generalizing res with
  | nil => rfl
  | cons row rest ih =>
      rw [List.forall_mem_cons] at hkeys
      rw [List.foldl_cons, ih _ hkeys.2, applySetting_of_other hkeys.1]

/-- The one row of the window decides what the response says of it. -/
theorem foldl_applySetting_of_mem {rows : List Setting} {row : Setting} (hmem : row ∈ rows)
    (hnodup : (rows.map Setting.key).Nodup) (hkey : row.key = retentionSettingKey) {res : GetSettingsResponse}
    (hres : res.auditRetentionDays.toInt = defaultRetentionDays) :
    (rows.foldl applySetting res).auditRetentionDays.toInt = windowOf row.value := by
  obtain ⟨before, later, rfl⟩ := List.append_of_mem hmem
  rw [List.map_append, List.map_cons, List.nodup_append] at hnodup
  obtain ⟨-, hlater, hdisjoint⟩ := hnodup
  rw [List.nodup_cons] at hlater
  have hbefore : ∀ other ∈ before, other.key ≠ retentionSettingKey := fun other hother =>
    hkey ▸ hdisjoint other.key (List.mem_map_of_mem hother) row.key List.mem_cons_self
  have hafter : ∀ other ∈ later, other.key ≠ retentionSettingKey := fun other hother heq =>
    hlater.1 (hkey.trans heq.symm ▸ List.mem_map_of_mem hother)
  rw [List.foldl_append, List.foldl_cons, foldl_applySetting_of_other later _ hafter]
  apply applySetting_of_retention hkey
  rw [foldl_applySetting_of_other before _ hbefore]
  exact hres

/-- The window that the settings page reports is the one that the recorder enforces. -/
theorem auditRetentionDays_settingsResponse {settings : Db.Settings} {rows : List Setting}
    (hlisting : Listing settings rows) :
    (settingsResponse rows).auditRetentionDays.toInt = retentionDays settings := by
  have hdefault : (Int32.ofInt defaultRetentionDays).toInt = defaultRetentionDays := by decide
  unfold retentionDays
  cases hget : settings.getSetting retentionSettingKey with
  | none =>
      have hkeys : ∀ row ∈ rows, row.key ≠ retentionSettingKey := by
        intro row hrow heq
        rw [hlisting.mem_iff, heq, hget] at hrow
        cases hrow
      rw [settingsResponse, foldl_applySetting_of_other rows _ hkeys]
      exact hdefault
  | some setting =>
      have hkey : setting.key = retentionSettingKey := (KeyedTable.get?_eq_some_iff.mp hget).2
      have hmem : setting ∈ rows := by
        rw [hlisting.mem_iff, hkey]
        exact hget
      exact foldl_applySetting_of_mem hmem hlisting.nodup hkey hdefault

/-- A call of `GetSettings` that is answered is answered with the response for the rows. -/
theorem eq_settingsResponse {ctx : Ctx} {rows : List Setting} {response : GetSettingsResponse}
    (hdone : getSettings ctx (.ok rows) = .done response) : response = settingsResponse rows := by
  unfold getSettings checkAdmin at hdone
  cases huser : ctx.user with
  | none =>
      rw [huser] at hdone
      cases hdone
  | some user =>
      rw [huser] at hdone
      simp only [Program.ensure] at hdone
      split at hdone
      · cases hdone
        rfl
      · cases hdone

end Settings
end Dmanager
