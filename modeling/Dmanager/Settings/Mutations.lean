import Dmanager.Auth.Session
import Dmanager.Server.Calls

/-!
# The mutations of the settings service

`UpdateSettings` and `TestGotifyNotification` of `internal/settings/service.go`.

An update writes three rows, one after the other, and succeeds when all three are written
(`succeeds_updateSettings`).  The notification test is different from every other handler: most of its
failures are reported inside a successful response, so that the request succeeds whether or not the
notification was delivered (`succeeds_testGotifyNotification`, `occurs_testGotifyNotification`).
-/

namespace Dmanager
namespace Settings

open Go Db Lib Server Auth
open Program (perform orFail ensure Succeeds Occurs)

/-- `checkAdmin`. -/
def checkAdmin (ctx : Ctx) : Handler Unit :=
  match ctx.user with
  | none => .fail (newError .unauthenticated "unauthenticated")
  | some user => ensure (user.role = adminRole) (newError .permissionDenied "admin privilege required")

/-! ## The update -/

/-- `audit.ValidRetentionDayList`. -/
def validRetentionDayList : List Int := [7, 30, 90, 180, 365]

/-- `audit.IsValidRetentionDays`. -/
def isValidRetentionDays (days : Int) : Bool := validRetentionDayList.contains days

/-- `UpdateSetting` with the error it is mapped to. -/
def saveSetting (key : String) (value : GoString) : Handler Unit := do
  orFail (wrapError .internal ("failed to save " ++ key)) (← perform (.updateSetting (str key) value))

/-- `UpdateSettings`. -/
def updateSettings (ctx : Ctx) (gotifyUrl gotifyToken : GoString) (auditRetentionDays : Int) :
    Handler AnyResponse := do
  checkAdmin ctx
  ensure (isValidRetentionDays auditRetentionDays = true)
    (newError .invalidArgument "audit_retention_days must be one of [7 30 90 180 365]")
  saveSetting "gotify_url" gotifyUrl
  saveSetting "gotify_token" gotifyToken
  saveSetting "audit_retention_days" (intString auditRetentionDays)
  .done .updateSettings

/-! ## The notification test -/

/-- The value of a setting: the one of the request, or else the stored one.  A missing row is no error of
the request; it yields the text for the response. -/
def resolveSetting (given : GoString) (key missing : String) : Handler (Except GoString GoString) :=
  if given ≠ [] then .done (.ok given)
  else do
    let stored ← perform (Call.getSetting (str key))
    match stored with
    | .ok value => .done (.ok value)
    | .error .noRows => .done (.error (str missing))
    | .error (.other message) => .fail (wrapError .internal ("failed to query " ++ key) message)

/-- The address the notification is posted to. -/
def targetURL (url : GoString) : GoString :=
  let withScheme :=
    if hasPrefix url (str "http://") = false ∧ hasPrefix url (str "https://") = false then
      str "http://" ++ url
    else url
  trimSuffix withScheme (str "/") ++ str "/message"

/-- What the response says about the answer of the Gotify server. -/
def gotifyResponse : Except GoString HttpResponse → AnyResponse
  | .error message => .testGotifyNotification false (str "Failed to connect to Gotify: " ++ message)
  | .ok response =>
    if response.statusCode ≠ 200 then
      .testGotifyNotification false
        (str "Gotify returned status " ++ intString response.statusCode ++ str ": " ++ response.body)
    else .testGotifyNotification true []

/-- The part of `TestGotifyNotification` after both settings are resolved. -/
def postTest (url token : GoString) : Handler AnyResponse :=
  if url = [] ∨ token = [] then
    .done (.testGotifyNotification false (str "Both Gotify URL and Application Token must be configured"))
  else do
    orFail (wrapError .internal "failed to create http request") (← perform (.newRequest (targetURL url)))
    let answer ← perform (Call.postMessage (targetURL url) token)
    .done (gotifyResponse answer)

/-- The part of `TestGotifyNotification` after the URL is resolved. -/
def testToken (gotifyToken url : GoString) : Handler AnyResponse := do
  let token ← resolveSetting gotifyToken "gotify_token" "Gotify token is not configured"
  match token with
  | .error message => .done (.testGotifyNotification false message)
  | .ok token => postTest url token

/-- `TestGotifyNotification`. -/
def testGotifyNotification (ctx : Ctx) (gotifyUrl gotifyToken : GoString) : Handler AnyResponse := do
  checkAdmin ctx
  let url ← resolveSetting gotifyUrl "gotify_url" "Gotify URL is not configured"
  match url with
  | .error message => .done (.testGotifyNotification false message)
  | .ok url => testToken gotifyToken url

/-! ## When an update succeeds -/

variable {w : Outside} {ctx : Ctx} {user : User} {gotifyUrl gotifyToken : GoString} {days : Int}

theorem checkAdmin_of_admin (huser : ctx.user = some user) (hadmin : user.role = adminRole) :
    checkAdmin ctx = .done () := by
  simp [checkAdmin, huser, hadmin, ensure]

/-- The rows that an update writes. -/
def savedSettings (gotifyUrl gotifyToken : GoString) (auditRetentionDays : Int) :
    List (GoString × GoString) :=
  [(str "gotify_url", gotifyUrl), (str "gotify_token", gotifyToken),
    (str "audit_retention_days", intString auditRetentionDays)]

/-- A row is written. -/
def saved (setting : GoString × GoString) : CallEvent := ⟨.updateSetting setting.1 setting.2, .ok ()⟩

/-- An update succeeds exactly when it writes all its rows. -/
theorem succeeds_updateSettings (huser : ctx.user = some user) (hadmin : user.role = adminRole) :
    Succeeds w [] (updateSettings ctx gotifyUrl gotifyToken days) ↔
      ∀ setting ∈ savedSettings gotifyUrl gotifyToken days,
        Occurs w [] (updateSettings ctx gotifyUrl gotifyToken days) (saved setting) := by
  have hkeys : str "gotify_url" ≠ str "audit_retention_days" ∧
      str "gotify_token" ≠ str "audit_retention_days" := by decide
  unfold updateSettings
  rw [checkAdmin_of_admin huser hadmin]
  simp only [saveSetting, bind_assoc, Program.done_bind, Program.succeeds_ensure_bind,
    Program.succeeds_perform_bind, Program.succeeds_orFail_bind, Program.occurs_ensure_bind,
    Program.occurs_perform_bind, Program.occurs_orFail_bind, savedSettings, saved, List.forall_mem_cons]
  constructor
  · rintro ⟨hvalid, _, hurl, _, htoken, _, hdays, -⟩
    refine ⟨⟨hvalid, Or.inl ?_⟩, ⟨hvalid, Or.inr ⟨(), hurl, Or.inl ?_⟩⟩,
      ⟨hvalid, Or.inr ⟨(), hurl, Or.inr ⟨(), htoken, Or.inl ?_⟩⟩⟩, by simp⟩
    · rw [hurl]
    · rw [htoken]
    · rw [hdays]
  · -- the last row is written only after the other two
    rintro ⟨-, -, ⟨hvalid, hlast⟩, -⟩
    rcases hlast with hfirst | ⟨_, hurl, hsecond | ⟨_, htoken, hlast | ⟨_, -, hdone⟩⟩⟩
    · simp [hkeys.1.symm] at hfirst
    · simp [hkeys.2.symm] at hsecond
    · exact ⟨hvalid, (), hurl, (), htoken, (), (eq_of_heq (Event.mk.inj hlast).2).symm, Program.succeeds_done _⟩
    · exact absurd hdone (Program.not_occurs_done _)

/-! ## When a test notification is delivered -/

/-- The value of a setting in the test: the one of the request, or else the stored one. -/
def configured (w : Outside) (given : GoString) (key : String) : Except QueryError GoString :=
  if given ≠ [] then .ok given else w (.getSetting (str key)) 0

/-- The Gotify server accepts the notification. -/
def AcceptedBy (w : Outside) (url token : GoString) : Prop :=
  w (.newRequest (targetURL url)) 0 = .ok () ∧
    ∃ response, w (.postMessage (targetURL url) token) 0 = .ok response ∧ response.statusCode = 200

/-- The notification is delivered. -/
def Delivered (w : Outside) (gotifyUrl gotifyToken : GoString) : Prop :=
  ∃ url token, configured w gotifyUrl "gotify_url" = .ok url ∧
    configured w gotifyToken "gotify_token" = .ok token ∧ url ≠ [] ∧ token ≠ [] ∧ AcceptedBy w url token

/-- The failures that the handler reports inside a successful response. -/
inductive Undelivered (w : Outside) (gotifyUrl gotifyToken : GoString) : Prop where
  | noURL (hurl : configured w gotifyUrl "gotify_url" = .error .noRows)
  | noToken (url : GoString) (hurl : configured w gotifyUrl "gotify_url" = .ok url)
      (htoken : configured w gotifyToken "gotify_token" = .error .noRows)
  | empty (url token : GoString) (hurl : configured w gotifyUrl "gotify_url" = .ok url)
      (htoken : configured w gotifyToken "gotify_token" = .ok token) (hempty : url = [] ∨ token = [])
  | refused (url token : GoString) (hurl : configured w gotifyUrl "gotify_url" = .ok url)
      (htoken : configured w gotifyToken "gotify_token" = .ok token)
      (hrequest : w (.newRequest (targetURL url)) 0 = .ok ()) (hpost : ¬ AcceptedBy w url token)

/-- A notification is delivered. -/
def Delivers (event : CallEvent) : Prop :=
  ∃ (url token : GoString) (response : HttpResponse),
    event = ⟨.postMessage url token, .ok response⟩ ∧ response.statusCode = 200

variable {past : List Call} {url token given : GoString} {key missing : String}

theorem returns_resolveSetting (hfresh : past.count (.getSetting (str key)) = 0)
    {resolved : Except GoString GoString} :
    Program.Returns w past (resolveSetting given key missing) resolved ↔
      (∃ value, configured w given key = .ok value ∧ resolved = .ok value) ∨
        configured w given key = .error .noRows ∧ resolved = .error (str missing) := by
  unfold resolveSetting configured
  split
  · simp [eq_comm]
  · rw [Program.returns_perform_bind, hfresh]
    cases w (.getSetting (str key)) 0 with
    | ok value => simp [eq_comm]
    | error err =>
        cases err with
        | noRows => simp [eq_comm]
        | other message => simp

theorem never_resolveSetting {R : Call → Prop} (hR : ¬ R (.getSetting (str key))) :
    (resolveSetting given key missing).Never R := by
  unfold resolveSetting
  split
  · trivial
  · refine ⟨hR, ?_⟩
    rintro ((_ | message) | value)
    · trivial
    · trivial
    · trivial

/-- No call of `postTest` has been made before. -/
structure Unposted (past : List Call) : Prop where
  request : ∀ url, past.count (.newRequest url) = 0
  post : ∀ url token, past.count (.postMessage url token) = 0

theorem succeeds_postTest (hunposted : Unposted past) :
    Succeeds w past (postTest url token) ↔
      (url = [] ∨ token = []) ∨ w (.newRequest (targetURL url)) 0 = .ok () := by
  unfold postTest
  split
  · simp_all
  · rename_i hset
    simp only [Program.succeeds_perform_bind, hunposted.request, Program.succeeds_orFail_bind,
      Program.succeeds_done, and_true, hset, false_or]
    constructor
    · rintro ⟨_, hrequest⟩
      exact hrequest
    · exact fun hrequest => ⟨(), hrequest⟩

theorem delivers_postTest (hunposted : Unposted past) :
    (∃ event, Delivers event ∧ Occurs w past (postTest url token) event) ↔
      url ≠ [] ∧ token ≠ [] ∧ AcceptedBy w url token := by
  unfold postTest
  split
  · rename_i hempty
    simp only [Program.not_occurs_done, and_false, exists_false, false_iff]
    rintro ⟨hurl, htoken, -⟩
    exact hempty.elim hurl htoken
  · rename_i hset
    have hpost : (Call.newRequest (targetURL url) :: past).count (.postMessage (targetURL url) token) = 0 := by
      simp [hunposted.post]
    simp only [Program.occurs_perform_bind, hunposted.request, Program.occurs_orFail_bind, hpost,
      Program.not_occurs_done, or_false]
    constructor
    · rintro ⟨_, ⟨url', token', response, rfl, hstatus⟩, hrequest | ⟨_, hrequest, hpost⟩⟩
      · simp at hrequest
      -- the call that delivers can only be this one
      · cases hanswer : w (.postMessage (targetURL url) token) 0 with
        | error err => simp [hanswer] at hpost
        | ok response' =>
            simp only [hanswer, Event.mk.injEq, Call.postMessage.injEq] at hpost
            obtain ⟨⟨rfl, rfl⟩, hresponse⟩ := hpost
            cases hresponse
            exact ⟨fun hurl => hset (Or.inl hurl), fun htoken => hset (Or.inr htoken), hrequest,
              response, hanswer, hstatus⟩
    · rintro ⟨-, -, hrequest, response, hanswer, hstatus⟩
      exact ⟨_, ⟨_, _, response, rfl, hstatus⟩, Or.inr ⟨(), hrequest, by rw [hanswer]⟩⟩

/-- Resolving a setting posts nothing. -/
theorem Unposted.after_resolveSetting (hunposted : Unposted past) :
    Unposted (Program.after w past (resolveSetting given key missing)) := by
  constructor
  · intro url
    rw [Program.count_after_of_never (never_resolveSetting (R := (· = .newRequest url)) nofun) rfl]
    exact hunposted.request url
  · intro url token
    rw [Program.count_after_of_never (never_resolveSetting (R := (· = .postMessage url token)) nofun) rfl]
    exact hunposted.post url token

theorem succeeds_testToken (hunposted : Unposted past)
    (hfresh : past.count (.getSetting (str "gotify_token")) = 0) :
    Succeeds w past (testToken gotifyToken url) ↔
      configured w gotifyToken "gotify_token" = .error .noRows ∨
        ∃ token, configured w gotifyToken "gotify_token" = .ok token ∧
          ((url = [] ∨ token = []) ∨ w (.newRequest (targetURL url)) 0 = .ok ()) := by
  rw [testToken, Program.succeeds_bind]
  simp only [returns_resolveSetting hfresh]
  constructor
  · rintro ⟨_, ⟨token, htoken, rfl⟩ | ⟨htoken, rfl⟩, hrest⟩
    · exact Or.inr ⟨token, htoken, (succeeds_postTest hunposted.after_resolveSetting).mp hrest⟩
    · exact Or.inl htoken
  · rintro (htoken | ⟨token, htoken, hrest⟩)
    · exact ⟨_, Or.inr ⟨htoken, rfl⟩, Program.succeeds_done _⟩
    · exact ⟨_, Or.inl ⟨token, htoken, rfl⟩, (succeeds_postTest hunposted.after_resolveSetting).mpr hrest⟩

/-- A call that resolves a setting delivers nothing. -/
theorem delivers_resolveSetting_bind {f : Except GoString GoString → Handler AnyResponse} :
    (∃ event, Delivers event ∧ Occurs w past (resolveSetting given key missing >>= f) event) ↔
      ∃ resolved, Program.Returns w past (resolveSetting given key missing) resolved ∧
        ∃ event, Delivers event ∧
          Occurs w (Program.after w past (resolveSetting given key missing)) (f resolved) event := by
  constructor
  · rintro ⟨event, hdelivers, hoccurs⟩
    -- the first part reads a setting, which delivers nothing
    rcases Program.occurs_bind.mp hoccurs with hfirst | ⟨resolved, hreturns, hrest⟩
    · obtain ⟨url, token, response, rfl, -⟩ := hdelivers
      refine absurd hfirst (Program.Never.not_occurs (R := (· = .postMessage url token)) ?_ rfl)
      exact never_resolveSetting nofun
    · exact ⟨resolved, hreturns, event, hdelivers, hrest⟩
  · rintro ⟨resolved, hreturns, event, hdelivers, hrest⟩
    exact ⟨event, hdelivers, Program.occurs_bind.mpr (Or.inr ⟨resolved, hreturns, hrest⟩)⟩

theorem delivers_testToken (hunposted : Unposted past)
    (hfresh : past.count (.getSetting (str "gotify_token")) = 0) :
    (∃ event, Delivers event ∧ Occurs w past (testToken gotifyToken url) event) ↔
      ∃ token, configured w gotifyToken "gotify_token" = .ok token ∧ url ≠ [] ∧ token ≠ [] ∧
        AcceptedBy w url token := by
  rw [testToken, delivers_resolveSetting_bind]
  simp only [returns_resolveSetting hfresh]
  constructor
  · rintro ⟨_, ⟨token, htoken, rfl⟩ | ⟨htoken, rfl⟩, hrest⟩
    · exact ⟨token, htoken, (delivers_postTest hunposted.after_resolveSetting).mp hrest⟩
    · simp at hrest
  · rintro ⟨token, htoken, hrest⟩
    exact ⟨_, Or.inl ⟨token, htoken, rfl⟩, (delivers_postTest hunposted.after_resolveSetting).mpr hrest⟩

/-- The token has not been read when the URL is resolved. -/
theorem count_getSetting_token :
    (Program.after w [] (resolveSetting gotifyUrl "gotify_url" missing)).count
      (.getSetting (str "gotify_token")) = 0 := by
  have hkeys : str "gotify_url" ≠ str "gotify_token" := by decide
  rw [Program.count_after_of_never
    (never_resolveSetting (R := (· = .getSetting (str "gotify_token"))) (by simpa using hkeys)) rfl]
  rfl

theorem unposted_nil : Unposted [] := ⟨fun _ => rfl, fun _ _ => rfl⟩

/-- The request succeeds whether or not the notification is delivered. -/
theorem succeeds_testGotifyNotification (huser : ctx.user = some user) (hadmin : user.role = adminRole) :
    Succeeds w [] (testGotifyNotification ctx gotifyUrl gotifyToken) ↔
      Delivered w gotifyUrl gotifyToken ∨ Undelivered w gotifyUrl gotifyToken := by
  rw [testGotifyNotification, checkAdmin_of_admin huser hadmin, Program.done_bind, Program.succeeds_bind]
  simp only [returns_resolveSetting (List.count_nil)]
  constructor
  · rintro ⟨_, ⟨url, hurl, rfl⟩ | ⟨hurl, rfl⟩, hrest⟩
    · rcases (succeeds_testToken unposted_nil.after_resolveSetting count_getSetting_token).mp hrest with
        htoken | ⟨token, htoken, hempty | hrequest⟩
      · exact Or.inr (.noToken url hurl htoken)
      · exact Or.inr (.empty url token hurl htoken hempty)
      · by_cases hempty : url = [] ∨ token = []
        · exact Or.inr (.empty url token hurl htoken hempty)
        · by_cases hpost : AcceptedBy w url token
          · rw [not_or] at hempty
            exact Or.inl ⟨url, token, hurl, htoken, hempty.1, hempty.2, hpost⟩
          · exact Or.inr (.refused url token hurl htoken hrequest hpost)
    · exact Or.inr (.noURL hurl)
  · intro hcases
    by_cases hnone : configured w gotifyUrl "gotify_url" = .error .noRows
    · exact ⟨_, Or.inr ⟨hnone, rfl⟩, Program.succeeds_done _⟩
    · obtain ⟨url, hurl, hrest⟩ : ∃ url, configured w gotifyUrl "gotify_url" = .ok url ∧
          (configured w gotifyToken "gotify_token" = .error .noRows ∨
            ∃ token, configured w gotifyToken "gotify_token" = .ok token ∧
              ((url = [] ∨ token = []) ∨ w (.newRequest (targetURL url)) 0 = .ok ())) := by
        rcases hcases with ⟨url, token, hurl, htoken, -, -, hrequest, -⟩ | hundelivered
        · exact ⟨url, hurl, Or.inr ⟨token, htoken, Or.inr hrequest⟩⟩
        · cases hundelivered with
          | noURL hurl => exact absurd hurl hnone
          | noToken url hurl htoken => exact ⟨url, hurl, Or.inl htoken⟩
          | empty url token hurl htoken hempty =>
              exact ⟨url, hurl, Or.inr ⟨token, htoken, Or.inl hempty⟩⟩
          | refused url token hurl htoken hrequest hpost =>
              exact ⟨url, hurl, Or.inr ⟨token, htoken, Or.inr hrequest⟩⟩
      exact ⟨_, Or.inl ⟨url, hurl, rfl⟩,
        (succeeds_testToken unposted_nil.after_resolveSetting count_getSetting_token).mpr hrest⟩

/-- The notification is delivered exactly with the answers of `Delivered`. -/
theorem occurs_testGotifyNotification (huser : ctx.user = some user) (hadmin : user.role = adminRole) :
    (∃ event, Delivers event ∧ Occurs w [] (testGotifyNotification ctx gotifyUrl gotifyToken) event) ↔
      Delivered w gotifyUrl gotifyToken := by
  rw [testGotifyNotification, checkAdmin_of_admin huser hadmin, Program.done_bind,
    delivers_resolveSetting_bind]
  simp only [returns_resolveSetting (List.count_nil)]
  constructor
  · rintro ⟨_, ⟨url, hurl, rfl⟩ | ⟨hurl, rfl⟩, hrest⟩
    · obtain ⟨token, htoken, hdelivered⟩ :=
        (delivers_testToken unposted_nil.after_resolveSetting count_getSetting_token).mp hrest
      exact ⟨url, token, hurl, htoken, hdelivered⟩
    · simp at hrest
  · rintro ⟨url, token, hurl, htoken, hdelivered⟩
    exact ⟨_, Or.inl ⟨url, hurl, rfl⟩,
      (delivers_testToken unposted_nil.after_resolveSetting count_getSetting_token).mpr
        ⟨token, htoken, hdelivered⟩⟩

/-- A notification is not both delivered and reported undelivered. -/
theorem Delivered.not_undelivered (hdelivered : Delivered w gotifyUrl gotifyToken) :
    ¬ Undelivered w gotifyUrl gotifyToken := by
  obtain ⟨url, token, hurl, htoken, hurl_ne, htoken_ne, haccepted⟩ := hdelivered
  rintro (hurl' | ⟨url', -, htoken'⟩ | ⟨url', token', hurl', htoken', hempty⟩ |
    ⟨url', token', hurl', htoken', -, hpost⟩)
  · simp [hurl] at hurl'
  · simp [htoken] at htoken'
  · simp_all
  · simp_all

end Settings
end Dmanager
