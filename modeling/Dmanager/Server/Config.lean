import Dmanager.Go.Strings
import Dmanager.Go.Time

/-!
# The configuration and `Config.Validate`

The sections of `config.Config` that `Validate` reads, and the function itself with its error texts.
`Validate` has a pointer receiver and fills in two defaults on the way (`RequireUserVerification` and
`SMTP.TimeoutSeconds`), so the model returns the configuration it leaves behind.

What the rest of the development uses is `validate_auth`: the inequalities between the four session
timeouts that an accepted configuration satisfies.
-/

namespace Dmanager
namespace Server

open Go

/-- `config.AuthConfig`; the timeouts are in nanoseconds. -/
structure AuthConfig where
  sessionIdleTimeout : Int
  sessionAbsoluteTimeout : Int
  rememberMeIdleTimeout : Int
  rememberMeAbsoluteTimeout : Int
  secureCookies : GoString
  bcryptCost : Int
  breachedPasswordCheck : Bool
  deriving DecidableEq, Repr

/-- `config.WebAuthnConfig`. -/
structure WebAuthnConfig where
  rpID : GoString
  origins : List GoString
  requireUserVerification : GoString
  deriving DecidableEq, Repr

/-- `config.SMTPConfig`, the fields its check reads. -/
structure SMTPConfig where
  enabled : Bool
  host : GoString
  port : GoString
  fromEmail : GoString
  tlsMode : GoString
  timeoutSeconds : Int
  deriving DecidableEq, Repr

/-- `config.TailscaleConfig`, the fields its check reads. -/
structure TailscaleConfig where
  authKey : GoString
  hostname : GoString
  stateDir : GoString
  port : Int
  deriving DecidableEq, Repr

/-- `config.Config`, the sections `Validate` reads; `dbPath` is `Server.DBPath`. -/
structure Config where
  dbPath : GoString
  auth : AuthConfig
  webAuthn : WebAuthnConfig
  smtp : SMTPConfig
  tailscale : TailscaleConfig
  deriving DecidableEq, Repr

def secureCookiesAuto : GoString := str "auto"
def secureCookiesAlways : GoString := str "always"
def secureCookiesNever : GoString := str "never"
def userVerificationPreferred : GoString := str "preferred"
def userVerificationRequired : GoString := str "required"
def userVerificationDiscouraged : GoString := str "discouraged"
def tlsModeNone : GoString := str "none"
def tlsModeStartTLS : GoString := str "starttls"
def tlsModeTLS : GoString := str "tls"

/-- An error of `Validate`: a fixed text, a text around a quoted value (`%q`), or one that ends in a
number (`%d`). -/
inductive ConfigError where
  | text (message : GoString)
  | quoted (front got back : GoString)
  | number (message : GoString) (got : Int)
  deriving DecidableEq, Repr

/-- `strconv.Atoi`: an optional sign and at least one digit, within `int64`. -/
def atoi (s : GoString) : Option Int :=
  let (sign, digits) : Int × GoString :=
    match s with
    | 0x2D :: rest => (-1, rest)
    | 0x2B :: rest => (1, rest)
    | _ => (1, s)
  if digits ≠ [] ∧ digits.all (fun c => 0x30 ≤ c && c ≤ 0x39) then
    let value := sign * digits.foldl (fun acc c => acc * 10 + ((c.toNat : Int) - 0x30)) 0
    if -2 ^ 63 ≤ value ∧ value < 2 ^ 63 then some value else none
  else
    none

/-- One element of a path in `filepath.Clean`: `..` removes the element before it, if there is one. -/
def cleanElement (rooted : Bool) (acc : List GoString) (element : GoString) : List GoString :=
  if element = [] ∨ element = str "." then acc
  else if element = str ".." then
    match acc.getLast? with
    | some last => if last = str ".." then acc ++ [element] else acc.dropLast
    | none => if rooted then acc else acc ++ [element]
  else acc ++ [element]

/-- `filepath.Clean` with `/` as the separator. -/
def filepathClean (path : GoString) : GoString :=
  let rooted := hasPrefix path (str "/")
  let elements := (split path 0x2F).foldl (cleanElement rooted) []
  let body := join elements (str "/")
  if rooted then str "/" ++ body else if body = [] then str "." else body

/-- `filepath.Dir`: everything up to the last separator, cleaned. -/
def filepathDir (path : GoString) : GoString :=
  filepathClean (path.reverse.dropWhile (fun c => c != 0x2F)).reverse

/-- The loop of `isValidTailscaleHostname`, at index `i` of a string of length `len`. -/
def validHostnameByte (len i : Nat) (c : UInt8) : Bool :=
  ((0x61 ≤ c && c ≤ 0x7A) || (0x30 ≤ c && c ≤ 0x39)) ||
    (c == 0x2D && decide (0 < i) && decide ((i : Int) < (len : Int) - 1))

/-- `isValidTailscaleHostname`. -/
def isValidTailscaleHostname (s : GoString) : Bool :=
  if s = [] ∨ 63 < s.length then false
  else s.zipIdx.all fun (c, i) => validHostnameByte s.length i c

/-- The port check of `SMTPConfig.Validate`. -/
def validPort (port : GoString) : Bool :=
  match atoi port with
  | none => false
  | some n => decide (1 ≤ n ∧ n ≤ 65535)

/-- `SMTPConfig.Validate`. -/
def SMTPConfig.validate (c : SMTPConfig) : Except ConfigError SMTPConfig :=
  if trimSpace c.host = [] then
    .error (.text (str "smtp.host is required when smtp.enabled is true"))
  else if trimSpace c.port = [] then
    .error (.text (str "smtp.port is required when smtp.enabled is true"))
  else if ¬ validPort c.port then
    .error (.quoted (str "smtp.port must be a valid port number, got ") c.port [])
  else if ¬ contains c.fromEmail (str "@") then
    .error (.quoted (str "smtp.from_email must be a valid address, got ") c.fromEmail [])
  else if c.tlsMode ∉ [tlsModeNone, tlsModeStartTLS, tlsModeTLS] then
    .error (.quoted (str "smtp.tls_mode must be one of 'none', 'starttls', 'tls', got ") c.tlsMode [])
  else
    let c := if c.timeoutSeconds = 0 then { c with timeoutSeconds := 15 } else c
    if c.timeoutSeconds < 1 ∨ 120 < c.timeoutSeconds then
      .error (.number (str "smtp.timeout_seconds must be between 1 and 120, got ") c.timeoutSeconds)
    else .ok c

/-- `TailscaleConfig.Validate`; `dbDir` is the directory of the database. -/
def TailscaleConfig.validate (c : TailscaleConfig) (dbDir : GoString) : Except ConfigError Unit :=
  if ¬ isValidTailscaleHostname c.hostname then
    .error (.quoted (str ("tailscale.hostname must use lowercase letters, digits and hyphens, start " ++
      "and end with a letter or digit, and be at most 63 characters, got ")) c.hostname [])
  else if c.port < 1 ∨ 65535 < c.port then
    .error (.number (str "tailscale.port must be between 1 and 65535, got ") c.port)
  else if trimSpace c.stateDir = [] then
    .error (.text (str "tailscale.state_dir must not be empty when tailscale.auth_key is set"))
  else if filepathClean c.stateDir = str "/" ∨ filepathClean c.stateDir = filepathClean dbDir then
    .error (.quoted (str "tailscale.state_dir ") c.stateDir
      (str " must be a dedicated directory, not the database directory or root"))
  else .ok ()

/-- The checks of `Config.Validate` on the `auth` section, in the order of the source. -/
def AuthConfig.validate (c : AuthConfig) : Except ConfigError Unit :=
  if c.sessionIdleTimeout ≤ 0 then
    .error (.text (str "auth.session_idle_timeout must be greater than 0"))
  else if c.sessionAbsoluteTimeout < c.sessionIdleTimeout then
    .error (.text (str ("auth.session_absolute_timeout must be greater than or equal to " ++
      "auth.session_idle_timeout")))
  else if c.rememberMeIdleTimeout ≤ 0 then
    .error (.text (str "auth.remember_me_idle_timeout must be greater than 0"))
  else if c.rememberMeAbsoluteTimeout < c.rememberMeIdleTimeout then
    .error (.text (str ("auth.remember_me_absolute_timeout must be greater than or equal to " ++
      "auth.remember_me_idle_timeout")))
  else if c.secureCookies ∉ [secureCookiesAuto, secureCookiesAlways, secureCookiesNever] then
    .error (.quoted (str "auth.secure_cookies must be one of 'auto', 'always', 'never', got ")
      c.secureCookies [])
  else if c.bcryptCost < 4 ∨ 31 < c.bcryptCost then
    .error (.number (str "auth.bcrypt_cost must be between 4 and 31, got ") c.bcryptCost)
  else .ok ()

/-- The checks of `Config.Validate` on the `webauthn` section, with its default. -/
def WebAuthnConfig.validate (c : WebAuthnConfig) : Except ConfigError WebAuthnConfig :=
  let c := if c.requireUserVerification = [] then
      { c with requireUserVerification := userVerificationPreferred } else c
  if c.requireUserVerification ∉
      [userVerificationPreferred, userVerificationRequired, userVerificationDiscouraged] then
    .error (.quoted (str ("webauthn.require_user_verification must be one of 'preferred', " ++
      "'required', 'discouraged', got ")) c.requireUserVerification [])
  else if c.rpID ≠ [] ∧ c.origins.length = 0 then
    .error (.text (str "webauthn.origins cannot be empty when webauthn.rp_id is set"))
  else .ok c

/-- `Config.Validate`.  The SMTP section is inert while disabled, the tailscale section while no auth key
is configured. -/
def Config.validate (c : Config) : Except ConfigError Config :=
  match c.auth.validate, c.webAuthn.validate,
      (if c.smtp.enabled then c.smtp.validate else .ok c.smtp),
      (if c.tailscale.authKey ≠ [] then c.tailscale.validate (filepathDir c.dbPath) else .ok ()) with
  | .error e, _, _, _ => .error e
  | .ok _, .error e, _, _ => .error e
  | .ok _, .ok _, .error e, _ => .error e
  | .ok _, .ok _, .ok _, .error e => .error e
  | .ok _, .ok webAuthn, .ok smtp, .ok _ => .ok { c with webAuthn := webAuthn, smtp := smtp }

/-- The fallback values of `Load`, with the state directory it derives from the database path. -/
def Config.defaults : Config where
  dbPath := str "dmanager.db"
  auth := ⟨168 * hour, 720 * hour, 720 * hour, 2160 * hour, secureCookiesAuto, 12, false⟩
  webAuthn := ⟨[], [], userVerificationPreferred⟩
  smtp := ⟨false, [], str "25", [], tlsModeNone, 15⟩
  tailscale := ⟨[], str "dmanager", str "tailscale", 80⟩

/-- The relations between the four session timeouts that the checks establish. -/
structure AuthConfig.Valid (c : AuthConfig) : Prop where
  idle_pos : 0 < c.sessionIdleTimeout
  idle_le_absolute : c.sessionIdleTimeout ≤ c.sessionAbsoluteTimeout
  rememberMe_idle_pos : 0 < c.rememberMeIdleTimeout
  rememberMe_idle_le_absolute : c.rememberMeIdleTimeout ≤ c.rememberMeAbsoluteTimeout

theorem AuthConfig.valid_of_validate {c : AuthConfig} (h : c.validate = .ok ()) : c.Valid := by
  unfold AuthConfig.validate at h
  split at h
  · cases h
  · split at h
    · cases h
    · split at h
      · cases h
      · split at h
        · cases h
        · exact ⟨by omega, by omega, by omega, by omega⟩

/-- An accepted configuration has its `auth` section unchanged and valid. -/
theorem Config.validate_auth {c accepted : Config} (h : c.validate = .ok accepted) :
    accepted.auth = c.auth ∧ c.auth.Valid := by
  unfold Config.validate at h
  split at h
  · cases h
  · cases h
  · cases h
  · cases h
  · rename_i hauth _ _ _
    cases h
    exact ⟨rfl, AuthConfig.valid_of_validate hauth⟩

theorem Config.validate_defaults : Config.defaults.validate = .ok Config.defaults := by decide +kernel

end Server
end Dmanager
