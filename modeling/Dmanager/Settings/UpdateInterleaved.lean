import Dmanager.Lib.Interleaving
import Dmanager.Settings.Stored

/-!
# Updates of the settings at the same time

`UpdateSettings` writes its three rows with three statements and without a transaction.  Here any number of
requests run at the same time, statement by statement, and any statement may fail.

A request that fails has written the rows whose statements come before the one that failed (`FailedAs`), and the
retention window is the last of them.  Each stored value is the one of some request, or the one from before, but the
three need not be from one request.  `updateSettings_allOrNothing` says when they are: when the requests come one after
the other, and a statement fails only if it is the first of its request.
-/

namespace Dmanager
namespace Settings

open Go Db Lib Server Auth
open Program (ensure)

/-! ## The requests -/

/-- `v1.UpdateSettingsRequest`, with its context. -/
structure UpdateRequest where
  ctx : Ctx
  gotifyUrl : GoString
  gotifyToken : GoString
  auditRetentionDays : Int
  deriving DecidableEq, Repr

def UpdateRequest.handler (request : UpdateRequest) : Handler AnyResponse :=
  updateSettings request.ctx request.gotifyUrl request.gotifyToken request.auditRetentionDays

/-- The rows that the request is to write. -/
def UpdateRequest.settings (request : UpdateRequest) : List (GoString × GoString) :=
  savedSettings request.gotifyUrl request.gotifyToken request.auditRetentionDays

/-- The request is not refused: it comes from an administrator and asks for a window that exists. -/
def UpdateRequest.Accepted (request : UpdateRequest) : Prop :=
  (∃ user, request.ctx.user = some user ∧ user.role = adminRole) ∧
    isValidRetentionDays request.auditRetentionDays = true

/-- The settings table; a statement that fails changes nothing. -/
def settingsBackend : System Db.Settings Empty Call Answer where
  answer settings
    | ⟨.updateSetting key value, .ok _⟩ => some (settings.updateSetting key value)
    | ⟨.updateSetting _ _, .error _⟩ => some settings
    | _ => none
  env _ e := e.elim

/-- The requests, each up to its response or its error. -/
abbrev Updates (ι : Type) := Config ι Db.Settings Call Answer ConnectError (Except ConnectError AnyResponse)

/-- A statement of one of them. -/
abbrev UpdateLabel (ι : Type) := Label ι Empty Call Answer

/-- The requests before their first statement. -/
def updatesStart {ι : Type} (settings : Db.Settings) (requests : ι → UpdateRequest) : Updates ι :=
  Config.start settings fun i => (requests i).handler.attempt

/-! ## The text of `UpdateSettings` -/

/-- The statements are those for the rows of the request, in their order, each after the success of the one
before. -/
def UpdateCall (request : UpdateRequest) (past : List CallEvent) (op : Call) : Prop :=
  ∃ earlier setting later, request.settings = earlier ++ setting :: later ∧
    past = (earlier.map saved).reverse ∧ op = .updateSetting setting.1 setting.2

/-- What a request has done when it is over: all its statements, or none because it was refused, or some up to one that
has failed. -/
def UpdateEnd (request : UpdateRequest) (past : List CallEvent) : Except ConnectError AnyResponse → Prop
  | .ok _ => past = (request.settings.map saved).reverse
  | .error _ => ¬ request.Accepted ∧ past = [] ∨ request.Accepted ∧ ∃ earlier setting later message,
      request.settings = earlier ++ setting :: later ∧
        past = ⟨.updateSetting setting.1 setting.2, .error message⟩ :: (earlier.map saved).reverse

/-- One statement: the rows before it are written, and it is the next. -/
theorem alongOr_saveSetting {request : UpdateRequest} (haccepted : request.Accepted)
    (earlier : List (GoString × GoString))
    {later : List (GoString × GoString)} {key : String} {value : GoString}
    (hsettings : request.settings = earlier ++ (str key, value) :: later) {Q : List CallEvent → Unit → Prop}
    (hQ : Q ((earlier ++ [(str key, value)]).map saved).reverse ()) :
    (saveSetting key value).AlongOr (UpdateCall request) Q (fun past err => UpdateEnd request past (.error err))
      (earlier.map saved).reverse := by
  unfold saveSetting
  rw [Program.alongOr_bind, Program.alongOr_perform]
  refine ⟨⟨earlier, _, later, hsettings, rfl, rfl⟩, fun answer => ?_⟩
  rw [Program.alongOr_orFail]
  constructor
  · rintro ⟨⟩ rfl
    simpa [saved] using hQ
  · rintro message rfl
    exact Or.inr ⟨haccepted, earlier, _, later, message, hsettings, rfl⟩

theorem along_handler (request : UpdateRequest) :
    (request.handler.attempt : Program _ _ ConnectError _).Along (UpdateCall request) (UpdateEnd request) [] := by
  rw [Program.along_attempt]
  unfold UpdateRequest.handler updateSettings
  rw [Program.alongOr_bind]
  have hrest (hadmin : ∃ user, request.ctx.user = some user ∧ user.role = adminRole) : ((do
      ensure (isValidRetentionDays request.auditRetentionDays = true)
        (newError .invalidArgument "audit_retention_days must be one of [7 30 90 180 365]")
      saveSetting "gotify_url" request.gotifyUrl
      saveSetting "gotify_token" request.gotifyToken
      saveSetting "audit_retention_days" (intString request.auditRetentionDays)
      .done .updateSettings) : Handler AnyResponse).AlongOr (UpdateCall request)
        (fun past response => UpdateEnd request past (.ok response))
        (fun past err => UpdateEnd request past (.error err)) [] := by
    simp only [Program.alongOr_bind, Program.alongOr_ensure, Program.alongOr_done]
    refine ⟨fun hwindow => ?_, fun hwindow => Or.inl ⟨fun haccepted => hwindow haccepted.2, rfl⟩⟩
    have haccepted : request.Accepted := ⟨hadmin, hwindow⟩
    refine alongOr_saveSetting haccepted [] rfl ?_
    refine alongOr_saveSetting haccepted [(str "gotify_url", request.gotifyUrl)] rfl ?_
    exact alongOr_saveSetting haccepted
      [(str "gotify_url", request.gotifyUrl), (str "gotify_token", request.gotifyToken)] rfl rfl
  unfold checkAdmin
  split
  · rename_i hnobody
    refine Or.inl ⟨?_, rfl⟩
    rintro ⟨⟨user, huser, -⟩, -⟩
    rw [hnobody] at huser
    cases huser
  · rename_i user huser
    rw [Program.alongOr_ensure]
    refine ⟨fun hrole => hrest ⟨user, huser, hrole⟩, fun hrole => Or.inl ⟨?_, rfl⟩⟩
    rintro ⟨⟨other, hother, hadmin⟩, -⟩
    rw [huser] at hother
    exact hrole (Option.some.inj hother ▸ hadmin)

/-! ## What is stored -/

/-- The stored text of a setting, `none` where there is no row. -/
def stored (settings : Db.Settings) (key : GoString) : Option GoString := (settings.getSetting key).map Setting.value

/-- The three settings. -/
structure Triple where
  gotifyUrl : Option GoString
  gotifyToken : Option GoString
  auditRetentionDays : Option GoString
  deriving DecidableEq, Repr

/-- The three settings that are stored. -/
def tripleOf (settings : Db.Settings) : Triple :=
  ⟨stored settings (str "gotify_url"), stored settings (str "gotify_token"), stored settings retentionSettingKey⟩

/-- The three settings of a request. -/
def UpdateRequest.triple (request : UpdateRequest) : Triple :=
  ⟨some request.gotifyUrl, some request.gotifyToken, some (intString request.auditRetentionDays)⟩

/-- One row is written. -/
def Triple.write (triple : Triple) (setting : GoString × GoString) : Triple :=
  if setting.1 = str "gotify_url" then { triple with gotifyUrl := some setting.2 }
  else if setting.1 = str "gotify_token" then { triple with gotifyToken := some setting.2 }
  else if setting.1 = retentionSettingKey then { triple with auditRetentionDays := some setting.2 }
  else triple

@[simp] theorem stored_updateSetting (settings : Db.Settings) (key value other : GoString) :
    stored (settings.updateSetting key value) other = if other = key then some value else stored settings other := by
  unfold stored Db.Settings.getSetting Db.Settings.updateSetting
  rw [KeyedTable.get?_put]
  split
  · rfl
  · rfl

theorem tripleOf_updateSetting (settings : Db.Settings) (key value : GoString) :
    tripleOf (settings.updateSetting key value) = (tripleOf settings).write (key, value) := by
  have hkeys : str "gotify_url" ≠ str "gotify_token" ∧ str "gotify_url" ≠ retentionSettingKey ∧
      str "gotify_token" ≠ retentionSettingKey := by decide
  obtain ⟨htoken, hwindow, hboth⟩ := hkeys
  unfold tripleOf Triple.write
  simp only [stored_updateSetting]
  by_cases hurl : key = str "gotify_url"
  · subst hurl
    simp [htoken.symm, hwindow.symm]
  · by_cases hkey : key = str "gotify_token"
    · subst hkey
      simp [htoken, hurl, hboth.symm]
    · by_cases hlast : key = retentionSettingKey
      · subst hlast
        simp [hurl, hkey, Ne.symm hurl, Ne.symm hkey]
      · simp [hurl, hkey, hlast, Ne.symm hurl, Ne.symm hkey, Ne.symm hlast]

/-- All the rows of a request. -/
theorem foldl_write_settings (request : UpdateRequest) (triple : Triple) :
    request.settings.foldl Triple.write triple = request.triple := by
  have hkeys : str "gotify_url" ≠ str "gotify_token" ∧ str "gotify_url" ≠ retentionSettingKey ∧
      str "gotify_token" ≠ retentionSettingKey := by decide
  obtain ⟨htoken, hwindow, hboth⟩ := hkeys
  have hrows : request.settings = [(str "gotify_url", request.gotifyUrl),
    (str "gotify_token", request.gotifyToken), (retentionSettingKey, intString request.auditRetentionDays)] := rfl
  rw [hrows]
  simp [Triple.write, UpdateRequest.triple, htoken.symm, hwindow.symm, hboth.symm]

/-! ## Every run -/

variable {ι : Type} [DecidableEq ι] {requests : ι → UpdateRequest} {settings : Db.Settings}
variable {c next final : Updates ι} {i : ι} {event : CallEvent}

/-- The request has written this row. -/
def Wrote (c : Updates ι) (i : ι) (setting : GoString × GoString) : Prop := saved setting ∈ c.past i

/-- The request has returned this error. -/
def Failed (c : Updates ι) (i : ι) (err : ConnectError) : Prop := c.threads i = .done (.error err)

/-- The request has ended. -/
def Finished (c : Updates ι) (i : ι) : Prop := ∃ result, c.threads i = .done result

/-- How a request fails.  It is refused, and sends nothing; or the statement for one of its rows fails, and it has
written exactly the rows whose statements come before. -/
def FailedAs (request : UpdateRequest) (c : Updates ι) (i : ι) : Prop :=
  ¬ request.Accepted ∧ c.past i = [] ∨ request.Accepted ∧ ∃ earlier setting later message,
    request.settings = earlier ++ setting :: later ∧
      ⟨.updateSetting setting.1 setting.2, .error message⟩ ∈ c.past i ∧ ∀ row, Wrote c i row ↔ row ∈ earlier

/-- A statement that has failed. -/
def FailedStatement (event : CallEvent) : Prop :=
  ∃ key value message, event = ⟨.updateSetting key value, .error message⟩

/-- What holds in every state of a run. -/
structure UpdateInv (requests : ι → UpdateRequest) (initial : Db.Settings) (c : Updates ι) : Prop where
  follows : Follows (fun i => UpdateCall (requests i)) (fun i => UpdateEnd (requests i)) c
  total : ∀ i, (c.threads i).Total
  fromRequest : ∀ key, stored c.shared key = stored initial key ∨
    ∃ i value, Wrote c i (key, value) ∧ stored c.shared key = some value

/-- A step is a statement that its request has come to, and it writes its row or fails. -/
theorem update_step (hinv : UpdateInv requests settings c)
    (hstep : settingsBackend.step c (.call i event) = some next) :
    ∃ earlier setting later, (requests i).settings = earlier ++ setting :: later ∧
      c.past i = (earlier.map saved).reverse ∧
      (event = saved setting ∧ next.shared = c.shared.updateSetting setting.1 setting.2 ∨
        FailedStatement event ∧ next.shared = c.shared) := by
  obtain ⟨rest, shared, hcall, hanswer, rfl⟩ := step_call_eq_some_iff.mp hstep
  obtain ⟨earlier, setting, later, hsettings, hpast, hop⟩ := hinv.follows.call hcall
  refine ⟨earlier, setting, later, hsettings, hpast, ?_⟩
  obtain ⟨op, answer⟩ := event
  obtain rfl : op = .updateSetting setting.1 setting.2 := hop
  cases answer with
  | ok _ =>
      cases hanswer
      exact Or.inl ⟨rfl, rfl⟩
  | error message =>
      cases hanswer
      exact Or.inr ⟨⟨_, _, message, rfl⟩, rfl⟩

theorem updateInv_start (requests : ι → UpdateRequest) (settings : Db.Settings) :
    UpdateInv requests settings (updatesStart settings requests) where
  follows := follows_start fun i => along_handler (requests i)
  total _ := Program.total_attempt _
  fromRequest _ := Or.inl rfl

theorem updateInv_step (hinv : UpdateInv requests settings c) {label : UpdateLabel ι}
    (hstep : settingsBackend.step c label = some next) : UpdateInv requests settings next := by
  refine ⟨hinv.follows.step hstep, total_step hinv.total hstep, fun key => ?_⟩
  cases label with
  | env e => exact e.elim
  | call i event =>
      obtain ⟨hself, hothers⟩ := past_of_step_call hstep
      have hmono : ∀ j, c.past j ⊆ next.past j := by
        intro j
        by_cases hj : j = i
        · subst hj
          rw [hself]
          exact List.subset_cons_self _ _
        · rw [hothers j hj]
          exact List.Subset.refl _
      have hold : stored c.shared key = stored settings key ∨
          ∃ j value, Wrote next j (key, value) ∧ stored c.shared key = some value :=
        (hinv.fromRequest key).imp_right fun ⟨j, value, hwrote, hstored⟩ => ⟨j, value, hmono j hwrote, hstored⟩
      obtain ⟨earlier, setting, later, -, -, ⟨hevent, hshared⟩ | ⟨-, hshared⟩⟩ := update_step hinv hstep
      · rw [hshared, stored_updateSetting]
        by_cases hkey : key = setting.1
        · rw [if_pos hkey]
          refine Or.inr ⟨i, setting.2, ?_, rfl⟩
          unfold Wrote
          rw [hself, hevent, hkey]
          exact List.mem_cons_self
        · rw [if_neg hkey]
          exact hold
      · rw [hshared]
        exact hold

theorem UpdateInv.finished_or_call (hinv : UpdateInv requests settings c) (i : ι) :
    Finished c i ∨ ∃ op rest, c.threads i = .call op rest := by
  have htotal := hinv.total i
  cases hthread : c.threads i with
  | done result => exact Or.inl ⟨result, hthread⟩
  | fail err =>
      rw [hthread] at htotal
      cases htotal
  | call op rest => exact Or.inr ⟨op, rest, rfl⟩

/-- What a request has sent: some of its rows, in their order, and then perhaps a statement that has failed. -/
theorem UpdateInv.past_cases (hinv : UpdateInv requests settings c) (i : ι) :
    ∃ earlier later, (requests i).settings = earlier ++ later ∧
      (c.past i = (earlier.map saved).reverse ∨
        ∃ event, FailedStatement event ∧ c.past i = event :: (earlier.map saved).reverse) := by
  rcases hinv.finished_or_call i with ⟨result, hdone⟩ | ⟨op, rest, hcall⟩
  · have hend := hinv.follows.done hdone
    cases result with
    | ok response => exact ⟨(requests i).settings, [], (List.append_nil _).symm, Or.inl hend⟩
    | error err =>
        rcases hend with ⟨-, hnone⟩ | ⟨-, earlier, setting, later, message, hsettings, hpast⟩
        · exact ⟨[], (requests i).settings, rfl, Or.inl hnone⟩
        · exact ⟨earlier, setting :: later, hsettings, Or.inr ⟨_, ⟨_, _, message, rfl⟩, hpast⟩⟩
  · have htext := hinv.follows i
    rw [hcall] at htext
    obtain ⟨⟨earlier, setting, later, hsettings, hpast, -⟩, -⟩ := htext
    exact ⟨earlier, setting :: later, hsettings, Or.inl hpast⟩

theorem saved_injective : Function.Injective saved := by
  intro first second hsame
  have hops : Call.updateSetting first.1 first.2 = .updateSetting second.1 second.2 := congrArg Event.op hsame
  injection hops with hkey hvalue
  exact Prod.ext hkey hvalue

theorem not_failedStatement_saved (setting : GoString × GoString) : ¬ FailedStatement (saved setting) := by
  rintro ⟨key, value, message, heq⟩
  cases heq

theorem mem_map_saved {rows : List (GoString × GoString)} {setting : GoString × GoString} :
    saved setting ∈ (rows.map saved).reverse ↔ setting ∈ rows := by
  rw [List.mem_reverse, List.mem_map_of_injective saved_injective]

/-- A statement that has failed has written nothing. -/
theorem mem_cons_failed {rows : List (GoString × GoString)} (hfailed : FailedStatement event)
    {setting : GoString × GoString} : saved setting ∈ event :: (rows.map saved).reverse ↔ setting ∈ rows := by
  rw [List.mem_cons, mem_map_saved]
  refine or_iff_right ?_
  rintro rfl
  exact not_failedStatement_saved setting hfailed

/-- The rows that a request has written are rows of the request. -/
theorem UpdateInv.mem_settings (hinv : UpdateInv requests settings c) {setting : GoString × GoString}
    (hwrote : Wrote c i setting) : setting ∈ (requests i).settings := by
  unfold Wrote at hwrote
  obtain ⟨earlier, later, hsettings, hpast | ⟨event, hfailed, hpast⟩⟩ := hinv.past_cases i
  · rw [hpast, mem_map_saved] at hwrote
    rw [hsettings]
    exact List.mem_append_left _ hwrote
  · rw [hpast, mem_cons_failed hfailed] at hwrote
    rw [hsettings]
    exact List.mem_append_left _ hwrote

/-- A request that has failed was refused, or one of its statements has failed. -/
theorem UpdateInv.failedAs (hinv : UpdateInv requests settings c) {err : ConnectError} (hfailed : Failed c i err) :
    FailedAs (requests i) c i := by
  rcases hinv.follows.done hfailed with hrefused | ⟨haccepted, earlier, setting, later, message, hsettings, hpast⟩
  · exact Or.inl hrefused
  · refine Or.inr ⟨haccepted, earlier, setting, later, message, hsettings, ?_, fun row => ?_⟩
    · rw [hpast]
      exact List.mem_cons_self
    · unfold Wrote
      rw [hpast]
      exact mem_cons_failed ⟨_, _, message, rfl⟩

/-- The window is the last row of a request. -/
theorem window_not_mem {request : UpdateRequest} {earlier later : List (GoString × GoString)}
    {setting : GoString × GoString} (hsettings : request.settings = earlier ++ setting :: later) (value : GoString) :
    (retentionSettingKey, value) ∉ earlier := by
  have hkeys : retentionSettingKey ≠ str "gotify_url" ∧ retentionSettingKey ≠ str "gotify_token" := by decide
  have hprefix : earlier <+: [(str "gotify_url", request.gotifyUrl), (str "gotify_token", request.gotifyToken)] := by
    have hrows : request.settings.dropLast = earlier ++ (setting :: later).dropLast := by
      rw [hsettings, List.dropLast_append_of_ne_nil (List.cons_ne_nil _ _)]
    exact ⟨(setting :: later).dropLast, hrows.symm⟩
  intro hmem
  have hfront := hprefix.subset hmem
  simp [hkeys.1, hkeys.2] at hfront

/-! ## One request after the other -/

/-- The statement does not come in between those of another request, and does not fail after one of its own. -/
def Undisturbed (c : Updates ι) : UpdateLabel ι → Prop
  | .call i event => (∀ j ≠ i, c.past j = [] ∨ Finished c j) ∧ (FailedStatement event → c.past i = [])
  | .env _ => True

/-- Whether a statement has failed. -/
def isFailedStatement : CallEvent → Bool
  | ⟨.updateSetting _ _, .error _⟩ => true
  | _ => false

theorem isFailedStatement_iff : isFailedStatement event = true ↔ FailedStatement event := by
  constructor
  · intro hfailed
    unfold isFailedStatement at hfailed
    split at hfailed
    · exact ⟨_, _, _, rfl⟩
    · cases hfailed
  · rintro ⟨key, value, message, rfl⟩
    rfl

instance decidableFailedStatement (event : CallEvent) : Decidable (FailedStatement event) :=
  decidable_of_iff _ isFailedStatement_iff

instance decidableFinished (c : Updates ι) (i : ι) : Decidable (Finished c i) :=
  match hthread : c.threads i with
  | .done result => isTrue ⟨result, hthread⟩
  | .fail _ => isFalse fun ⟨_, hdone⟩ => nomatch hthread.symm.trans hdone
  | .call _ _ => isFalse fun ⟨_, hdone⟩ => nomatch hthread.symm.trans hdone

instance decidableUndisturbed [Fintype ι] (c : Updates ι) : (label : UpdateLabel ι) → Decidable (Undisturbed c label)
  | .call _ _ => inferInstanceAs (Decidable (_ ∧ _))
  | .env _ => isTrue trivial

/-- The initial triple, or that of a request. -/
def OneRequest (requests : ι → UpdateRequest) (initial triple : Triple) : Prop :=
  triple = initial ∨ ∃ i, triple = (requests i).triple

/-- The states of such a run: no request is under way, or one has written some of its rows over a whole triple. -/
inductive SerialInv (requests : ι → UpdateRequest) (initial : Triple) (c : Updates ι) : Prop
  | between (hquiet : ∀ j, c.past j = [] ∨ Finished c j) (hstored : OneRequest requests initial (tripleOf c.shared))
  | writing (base : Triple) (hbase : OneRequest requests initial base) (i : ι) (earlier : List (GoString × GoString))
    (hsome : earlier ≠ []) (hpast : c.past i = (earlier.map saved).reverse) (hopen : ¬ Finished c i)
    (hothers : ∀ j ≠ i, c.past j = [] ∨ Finished c j)
    (hstored : tripleOf c.shared = earlier.foldl Triple.write base)

theorem finished_of_step_call (hstep : settingsBackend.step c (.call i event) = some next) {j : ι} (hj : j ≠ i) :
    c.past j = [] ∨ Finished c j → next.past j = [] ∨ Finished next j := by
  rw [(past_of_step_call hstep).2 j hj]
  unfold Finished
  rw [threads_of_step_call hstep j hj]
  exact id

/-- Before a statement, the rows that its request has written lie over a whole triple. -/
theorem SerialInv.before_call {initial : Triple} (hserial : SerialInv requests initial c)
    (hopen : ¬ Finished c i) (hothers : ∀ j ≠ i, c.past j = [] ∨ Finished c j)
    {earlier : List (GoString × GoString)} (hpast : c.past i = (earlier.map saved).reverse) :
    ∃ base, OneRequest requests initial base ∧ tripleOf c.shared = earlier.foldl Triple.write base := by
  cases hserial with
  | between hquiet hstored =>
      have hnone : (earlier.map saved).reverse = [] := hpast ▸ (hquiet i).resolve_right hopen
      obtain rfl : earlier = [] := by simpa using hnone
      exact ⟨_, hstored, rfl⟩
  | writing base hbase k written hsome hwritten hkopen _ hstored =>
      have hki : k = i := by
        by_contra hne
        rcases hothers k hne with hnone | hdone
        · rw [hwritten] at hnone
          exact hsome (by simpa using hnone)
        · exact hkopen hdone
      subst hki
      have hsame : (written.map saved).reverse = (earlier.map saved).reverse := hwritten.symm.trans hpast
      obtain rfl := List.map_injective_iff.mpr saved_injective (List.reverse_injective hsame)
      exact ⟨base, hbase, hstored⟩

theorem serialInv_step {initial : Triple} (hinv : UpdateInv requests settings c)
    (hserial : SerialInv requests initial c) {label : UpdateLabel ι} (hguard : Undisturbed c label)
    (hstep : settingsBackend.step c label = some next) : SerialInv requests initial next := by
  cases label with
  | env e => exact e.elim
  | call i event =>
      obtain ⟨hothers, hfirst⟩ := hguard
      have hnext := updateInv_step hinv hstep
      have hself := (past_of_step_call hstep).1
      have hquiet : ∀ j ≠ i, next.past j = [] ∨ Finished next j :=
        fun j hj => finished_of_step_call hstep hj (hothers j hj)
      obtain ⟨rest, -, hcall, -, -⟩ := step_call_eq_some_iff.mp hstep
      have hopen : ¬ Finished c i := by
        rintro ⟨result, hdone⟩
        rw [hcall] at hdone
        cases hdone
      obtain ⟨earlier, setting, later, hsettings, hpast, hevent⟩ := update_step hinv hstep
      obtain ⟨base, hbase, hstored⟩ := hserial.before_call hopen hothers hpast
      rcases hevent with ⟨rfl, hshared⟩ | ⟨hfailed, hshared⟩
      · have hnextPast : next.past i = ((earlier ++ [setting]).map saved).reverse := by
          rw [hself, hpast]
          simp
        have hnextStored : tripleOf next.shared = (earlier ++ [setting]).foldl Triple.write base := by
          rw [hshared, tripleOf_updateSetting, hstored, List.foldl_append]
          rfl
        by_cases hdone : Finished next i
        · -- the request is over after a success, so it has written all its rows
          obtain ⟨result, hresult⟩ := hdone
          have hend := hnext.follows.done hresult
          cases result with
          | ok response =>
              have hall : ((earlier ++ [setting]).map saved).reverse = ((requests i).settings.map saved).reverse :=
                hnextPast.symm.trans hend
              have hrows := List.map_injective_iff.mpr saved_injective (List.reverse_injective hall)
              refine .between (fun j => ?_) (Or.inr ⟨i, ?_⟩)
              · by_cases hj : j = i
                · exact hj ▸ Or.inr ⟨_, hresult⟩
                · exact hquiet j hj
              · rw [hnextStored, hrows, foldl_write_settings]
          | error err =>
              rcases hend with ⟨-, hnone⟩ | ⟨-, _, _, _, message, -, hlast⟩
              · rw [hself] at hnone
                cases hnone
              · rw [hself] at hlast
                injection hlast with hhead
                exact absurd ⟨_, _, message, hhead⟩ (not_failedStatement_saved setting)
        · exact .writing base hbase i _ (by simp) hnextPast hdone hquiet hnextStored
      · -- a statement that fails is the first of its request, and the last
        have hnone := hfirst hfailed
        rw [hpast] at hnone
        obtain rfl : earlier = [] := by simpa using hnone
        refine .between (fun j => ?_) ?_
        · by_cases hj : j = i
          · subst hj
            rcases hnext.finished_or_call j with hdone | ⟨op, rest', hcall'⟩
            · exact Or.inr hdone
            · have htext := hnext.follows j
              rw [hcall'] at htext
              obtain ⟨⟨rows, _, _, -, hrows, -⟩, -⟩ := htext
              have hmem : event ∈ (rows.map saved).reverse := by
                rw [← hrows, hself]
                exact List.mem_cons_self
              obtain ⟨row, -, rfl⟩ := List.mem_map.mp (List.mem_reverse.mp hmem)
              exact absurd hfailed (not_failedStatement_saved row)
          · exact hquiet j hj
        · rw [hshared, hstored]
          exact hbase

/-- In such a run a statement that has failed is all that its request has sent. -/
def FailsFirst (c : Updates ι) : Prop :=
  ∀ i event earlier, c.past i = event :: earlier → FailedStatement event → earlier = []

theorem failsFirst_step (hfirst : FailsFirst c) {label : UpdateLabel ι} (hguard : Undisturbed c label)
    (hstep : settingsBackend.step c label = some next) : FailsFirst next := by
  cases label with
  | env e => exact e.elim
  | call i event =>
      obtain ⟨hself, hothers⟩ := past_of_step_call hstep
      intro j last earlier hpast hfailed
      by_cases hj : j = i
      · subst hj
        rw [hself] at hpast
        obtain ⟨rfl, rfl⟩ := List.cons.inj hpast
        exact hguard.2 hfailed
      · rw [hothers j hj] at hpast
        exact hfirst j last earlier hpast hfailed

/-- In every run a stored value is the initial one or that of a request, and a request that fails has written the
rows of the statements before the one that failed, so never the window.  When the requests come one after the other,
and a statement fails only as the first of its request, the stored triple is in the end the initial one or that of
one request, and a request that fails has written nothing. -/
theorem updateSettings_allOrNothing (requests : ι → UpdateRequest) (settings : Db.Settings)
    {steps : List (UpdateLabel ι)}
    (hrun : exec settingsBackend.step (updatesStart settings requests) steps = some final) :
    (∀ key, stored final.shared key = stored settings key ∨ ∃ i value, (key, value) ∈ (requests i).settings ∧
      Wrote final i (key, value) ∧ stored final.shared key = some value) ∧
    (∀ i err, Failed final i err →
      FailedAs (requests i) final i ∧ ∀ value, ¬ Wrote final i (retentionSettingKey, value)) ∧
    (Guarded settingsBackend.step Undisturbed (updatesStart settings requests) steps →
      ((∀ i, Finished final i) → OneRequest requests (tripleOf settings) (tripleOf final.shared)) ∧
      ∀ i err, Failed final i err → ∀ setting, ¬ Wrote final i setting) := by
  have hinv : UpdateInv requests settings final :=
    exec_invariant (UpdateInv requests settings) (fun _ _ _ hinv hstep => updateInv_step hinv hstep) hrun
      (updateInv_start requests settings)
  refine ⟨fun key => ?_, fun i err hfailed => ?_, fun hguarded => ?_⟩
  · refine (hinv.fromRequest key).imp_right ?_
    rintro ⟨i, value, hwrote, hstored⟩
    exact ⟨i, value, hinv.mem_settings hwrote, hwrote, hstored⟩
  · have has := hinv.failedAs hfailed
    refine ⟨has, fun value hwindow => ?_⟩
    rcases has with ⟨-, hnone⟩ | ⟨-, earlier, setting, later, message, hsettings, -, hwrote⟩
    · unfold Wrote at hwindow
      rw [hnone] at hwindow
      cases hwindow
    · exact window_not_mem hsettings value ((hwrote _).mp hwindow)
  · have hserial : UpdateInv requests settings final ∧ SerialInv requests (tripleOf settings) final ∧
        FailsFirst final := by
      refine exec_invariant_of_guarded
        (fun c => UpdateInv requests settings c ∧ SerialInv requests (tripleOf settings) c ∧ FailsFirst c) ?_
        hguarded hrun ⟨updateInv_start requests settings, .between (fun _ => Or.inl rfl) (Or.inl rfl), ?_⟩
      · rintro c label next ⟨hinv, hserial, hfirst⟩ hguard hstep
        exact ⟨updateInv_step hinv hstep, serialInv_step hinv hserial hguard hstep,
          failsFirst_step hfirst hguard hstep⟩
      · intro i event earlier hpast
        cases hpast
    obtain ⟨-, hserial, hfirst⟩ := hserial
    refine ⟨fun hall => ?_, fun i err hfailed setting hwrote => ?_⟩
    · cases hserial with
      | between _ hstored => exact hstored
      | writing _ _ i _ _ _ hopen => exact absurd (hall i) hopen
    · unfold Wrote at hwrote
      rcases hinv.follows.done hfailed with ⟨-, hnone⟩ | ⟨-, earlier, row, later, message, -, hpast⟩
      · rw [hnone] at hwrote
        cases hwrote
      · rw [hfirst i _ _ hpast ⟨_, _, message, rfl⟩] at hpast
        rw [hpast, List.mem_singleton] at hwrote
        exact not_failedStatement_saved setting ⟨_, _, message, hwrote⟩

/-! ## Two requests -/

/-- An administrator moves to another server, with another token. -/
def moveTo (server token : String) : UpdateRequest where
  ctx := ⟨some ⟨1, str "admin", [], adminRole⟩, none⟩
  gotifyUrl := str server
  gotifyToken := str token
  auditRetentionDays := 30

/-- A statement that succeeds. -/
def writes (key value : String) : CallEvent := ⟨.updateSetting (str key) (str value), .ok ()⟩

/-- Whether a request has ended, and with success. -/
def outcome : Program Call Answer ConnectError (Except ConnectError AnyResponse) → Option Bool
  | .done (.ok _) => some true
  | .done (.error _) => some false
  | _ => none

theorem eq_done_of_outcome {p : Program Call Answer ConnectError (Except ConnectError AnyResponse)} {b : Bool}
    (houtcome : outcome p = some b) : ∃ result, p = .done result ∧ (b = false → ∃ err, result = .error err) := by
  cases p with
  | fail err => cases houtcome
  | call op rest => cases houtcome
  | done result =>
      refine ⟨result, rfl, ?_⟩
      rintro rfl
      cases result with
      | ok response => cases houtcome
      | error err => exact ⟨err, rfl⟩

/-- Two requests, to two servers. -/
def twoMoves (i : Fin 2) : UpdateRequest := if i = 0 then moveTo "a" "secret of a" else moveTo "b" "secret of b"

/-- The second request comes in when the first one is over, and the database fails at once. -/
def serialSteps : List (UpdateLabel (Fin 2)) :=
  [.call 0 (writes "gotify_url" "a"), .call 0 (writes "gotify_token" "secret of a"),
    .call 0 (writes "audit_retention_days" "30"),
    .call 1 ⟨.updateSetting (str "gotify_url") (str "b"), .error (str "disk full")⟩]

theorem exec_serialSteps :
    (exec settingsBackend.step (updatesStart KeyedTable.empty twoMoves) serialSteps).map
      (fun c => (outcome (c.threads 0), outcome (c.threads 1), tripleOf c.shared)) =
      some (some true, some false, ⟨some (str "a"), some (str "secret of a"), some (str "30")⟩) := by
  decide +kernel

theorem undisturbed_serialSteps :
    Guarded settingsBackend.step Undisturbed (updatesStart KeyedTable.empty twoMoves) serialSteps := by
  decide +kernel

theorem updateSettings_allOrNothing_serial :
    ∃ final err, exec settingsBackend.step (updatesStart KeyedTable.empty twoMoves) serialSteps = some final ∧
      OneRequest twoMoves ⟨none, none, none⟩ (tripleOf final.shared) ∧ Failed final 1 err ∧
      FailedAs (twoMoves 1) final 1 ∧ ∀ setting, ¬ Wrote final 1 setting := by
  obtain ⟨final, hfinal, hend⟩ := Option.map_eq_some_iff.mp exec_serialSteps
  simp only [Prod.mk.injEq] at hend
  obtain ⟨hfirst, hsecond, -⟩ := hend
  obtain ⟨result, hdone, -⟩ := eq_done_of_outcome hfirst
  obtain ⟨result', hdone', hfailed⟩ := eq_done_of_outcome hsecond
  obtain ⟨err, rfl⟩ := hfailed rfl
  obtain ⟨-, hfails, hserial⟩ := updateSettings_allOrNothing _ _ hfinal
  obtain ⟨hone, hnothing⟩ := hserial undisturbed_serialSteps
  refine ⟨final, err, hfinal, hone fun i => ?_, hdone', (hfails 1 err hdone').1, hnothing 1 err hdone'⟩
  fin_cases i
  · exact ⟨result, hdone⟩
  · exact ⟨_, hdone'⟩

/-- The second request comes in after the first statement of the first one. -/
def crossedSteps : List (UpdateLabel (Fin 2)) :=
  [.call 0 (writes "gotify_url" "a"), .call 1 (writes "gotify_url" "b"),
    .call 1 (writes "gotify_token" "secret of b"), .call 1 (writes "audit_retention_days" "30"),
    .call 0 (writes "gotify_token" "secret of a"), .call 0 (writes "audit_retention_days" "30")]

theorem exec_crossedSteps :
    (exec settingsBackend.step (updatesStart KeyedTable.empty twoMoves) crossedSteps).map
      (fun c => (outcome (c.threads 0), outcome (c.threads 1), tripleOf c.shared)) =
      some (some true, some true, ⟨some (str "b"), some (str "secret of a"), some (str "30")⟩) := by
  decide +kernel

/-- The second statement of a request fails. -/
def brokenSteps : List (UpdateLabel (Fin 1)) :=
  [.call 0 (writes "gotify_url" "a"),
    .call 0 ⟨.updateSetting (str "gotify_token") (str "secret"), .error (str "disk full")⟩]

theorem exec_brokenSteps :
    (exec settingsBackend.step (updatesStart KeyedTable.empty fun _ => moveTo "a" "secret") brokenSteps).map
      (fun c => (outcome (c.threads 0), (tripleOf c.shared).gotifyUrl)) = some (some false, some (str "a")) := by
  decide +kernel

/-- Two successful requests leave the token of one with the server of the other, and a request that fails leaves
its server behind. -/
theorem updateSettings_torn :
    (∃ final, exec settingsBackend.step (updatesStart KeyedTable.empty twoMoves) crossedSteps = some final ∧
      (∀ i, Finished final i) ∧ ¬ OneRequest twoMoves ⟨none, none, none⟩ (tripleOf final.shared)) ∧
    ∃ final err, exec settingsBackend.step (updatesStart KeyedTable.empty fun _ : Fin 1 => moveTo "a" "secret")
        brokenSteps = some final ∧ Failed final 0 err ∧ (tripleOf final.shared).gotifyUrl = some (str "a") := by
  constructor
  · obtain ⟨final, hfinal, hend⟩ := Option.map_eq_some_iff.mp exec_crossedSteps
    simp only [Prod.mk.injEq] at hend
    obtain ⟨hfirst, hsecond, htriple⟩ := hend
    refine ⟨final, hfinal, fun i => ?_, ?_⟩
    · fin_cases i
      · obtain ⟨result, hdone, -⟩ := eq_done_of_outcome hfirst
        exact ⟨result, hdone⟩
      · obtain ⟨result, hdone, -⟩ := eq_done_of_outcome hsecond
        exact ⟨result, hdone⟩
    · rw [htriple]
      unfold OneRequest
      decide
  · obtain ⟨final, hfinal, hend⟩ := Option.map_eq_some_iff.mp exec_brokenSteps
    obtain ⟨hfirst, hurl⟩ := Prod.mk.inj hend
    obtain ⟨result, hdone, hfailed⟩ := eq_done_of_outcome hfirst
    obtain ⟨err, rfl⟩ := hfailed rfl
    exact ⟨final, err, hfinal, hdone, hurl⟩

end Settings
end Dmanager
