import Dmanager.Auth.Calls

/-!
# The login and passkey handlers

`Login`, `BeginPasskeyLogin`, `FinishPasskeyLogin`, `FinishPasskeyRegistration` and `DeletePasskey` of
`internal/auth/service.go`, with the functions of `internal/auth/webauthn.go` that they use, as programs over
`AuthCall`.  A request carries the client IP that `ExtractClientIP` finds for it.

Pieces that several handlers share word for word are one definition with the values that differ as parameters
(`requireUnlocked`, `recordFailureNow`).
-/

namespace Dmanager
namespace Auth

open Go Db Lib Server
open Program (perform orFail ensure)

/-- `auth.Service`, the fields that the handlers read; `webauthn` is whether the relying party is set up, and
`conversion` how `Duration.Seconds` is converted. -/
structure AuthService where
  cfg : AuthConfig
  webauthnCfg : WebAuthnConfig
  webauthn : Bool
  dummyHash : GoString
  conversion : SecondsConversion

def challengeKindRegistration : GoString := str "registration"

def challengeKindLogin : GoString := str "login"

/-- The username under which passkey logins are throttled before a user is known. -/
def passkeyLoginKey : GoString := str "passkey_login"

namespace Handlers

/-! ## Shared pieces -/

/-- `int(math.Ceil(retryAfter.Seconds()))`, at least one.  A lockout is at most `maxLockout`, so its seconds
are exact enough in `float64` for the ceiling to be right. -/
def retrySeconds (retryAfter : Int) : Int := max 1 (-((-retryAfter) / second))

/-- The error of a client that is locked out. -/
def rateLimited (retryAfter : Int) : ConnectError :=
  ⟨.resourceExhausted, str "too many failed login attempts, please try again in " ++
    intString (retrySeconds retryAfter) ++ str " seconds"⟩

/-- `Check` for a username and an IP, and the answer to a client that is locked out. -/
def requireUnlocked (key clientIP : GoString) (userID : Option Int) (name : GoString) : AuthHandler Unit := do
  let now ← perform .timeNow
  let checked ← perform (AuthCall.check key clientIP now)
  if checked.1 then do
    perform (AuthCall.recordAuthEvent userID name (str "rate_limited") (str "ip: " ++ clientIP))
    .fail (rateLimited checked.2)
  else .done ()

section Shared

variable {past : List AuthEvent} {P : List AuthEvent → AuthCall → Prop}
variable {E : List AuthEvent → ConnectError → Prop}

/-- The check of the limiter: two calls, and an event and the end if the client is locked out. -/
theorem alongOr_requireUnlocked {key clientIP name : GoString} {userID : Option Int}
    {Q : List AuthEvent → Unit → Prop} (hnow : P past .timeNow)
    (hcheck : ∀ now, P (⟨.timeNow, now⟩ :: past) (.check key clientIP now))
    (hrecord : ∀ now wait, P (⟨.check key clientIP now, (true, wait)⟩ :: ⟨.timeNow, now⟩ :: past)
      (.recordAuthEvent userID name (str "rate_limited") (str "ip: " ++ clientIP)))
    (hE : ∀ now wait, E (⟨.recordAuthEvent userID name (str "rate_limited") (str "ip: " ++ clientIP), ()⟩ ::
      ⟨.check key clientIP now, (true, wait)⟩ :: ⟨.timeNow, now⟩ :: past) (rateLimited wait))
    (hQ : ∀ now wait, Q (⟨.check key clientIP now, (false, wait)⟩ :: ⟨.timeNow, now⟩ :: past) ()) :
    (requireUnlocked key clientIP userID name).AlongOr P Q E past := by
  unfold requireUnlocked
  simp only [Program.alongOr_bind, Program.alongOr_perform]
  refine ⟨hnow, fun now => ⟨hcheck now, fun checked => ?_⟩⟩
  obtain ⟨locked, wait⟩ := checked
  cases locked with
  | true => exact ⟨hrecord now wait, fun _ => hE now wait⟩
  | false => exact hQ now wait

end Shared

/-- `s.rateLimiter.RecordFailure(key, clientIP, time.Now())`. -/
def recordFailureNow (key clientIP : GoString) : AuthHandler Unit := do
  let now ← perform .timeNow
  perform (AuthCall.recordFailure key clientIP now)

/-- `issueSession`; its callers turn its errors into internal ones. -/
def issueSession (s : AuthService) (userID : Int) (rememberMe : Bool) (reqHeader : Header) :
    AuthHandler SetCookie := do
  let tokenBytes ← orFail (wrapError .internal "failed to generate session token") (← perform .randRead)
  let now ← perform .timeNow
  let arg := issueParams s.cfg userID rememberMe tokenBytes reqHeader now
  orFail (wrapError .internal "failed to save session") (← perform (.createSession arg))
  .done (formatSessionCookie arg.sessionID (s.conversion.seconds (tierIdle s.cfg rememberMe))
    s.cfg.secureCookies reqHeader)

/-! ## Login -/

/-- `v1.LoginRequest`, with the header and the client IP of the request. -/
structure LoginRequest where
  username : GoString
  password : GoString
  rememberMe : Bool
  reqHeader : Header
  clientIP : GoString

/-- `v1.LoginResponse`, with its cookie. -/
structure LoginResponse where
  username : GoString
  role : GoString
  setCookie : SetCookie
  deriving DecidableEq, Repr

/-- The end of a login with the wrong password, or with a name that does not exist. -/
def rejectPassword (req : LoginRequest) (userID : Option Int) (name : GoString) : AuthHandler LoginResponse := do
  recordFailureNow req.username req.clientIP
  perform (AuthCall.recordAuthEvent userID name (str "login_failed")
    (str "method: password, reason: invalid credentials, ip: " ++ req.clientIP))
  .fail (newError .unauthenticated "invalid credentials")

/-- The end of a login that succeeds. -/
def completeLogin (s : AuthService) (user : User) (rememberMe : Bool) (reqHeader : Header)
    (method clientIP : GoString) : AuthHandler LoginResponse := do
  let cookieHeader ← issueSession s user.id rememberMe reqHeader
  perform (AuthCall.recordAuthEvent (some user.id) user.username (str "login_success")
    (str "method: " ++ method ++ str ", ip: " ++ clientIP))
  .done ⟨user.username, user.role, cookieHeader⟩

/-- A name that does not exist: the password is compared with a dummy hash, if there is one. -/
def unknownUser (s : AuthService) (req : LoginRequest) : AuthHandler LoginResponse := do
  if s.dummyHash ≠ [] then
    let _ ← perform (AuthCall.compareHashAndPassword s.dummyHash req.password)
  rejectPassword req none req.username

/-- A name that exists. -/
def knownUser (s : AuthService) (req : LoginRequest) (user : User) : AuthHandler LoginResponse := do
  let compared ← perform (AuthCall.compareHashAndPassword user.passwordHash req.password)
  match compared with
  | .error _ => rejectPassword req (some user.id) user.username
  | .ok _ => do
    perform (AuthCall.recordSuccess req.username)
    completeLogin s user req.rememberMe req.reqHeader (str "password") req.clientIP

/-- `Login`. -/
def login (s : AuthService) (req : LoginRequest) : AuthHandler LoginResponse := do
  ensure (req.username ≠ [] ∧ req.password ≠ [])
    (newError .invalidArgument "username and password are required")
  requireUnlocked req.username req.clientIP none req.username
  let found ← perform (AuthCall.getUserByUsername req.username)
  match found with
  | .error .noRows => unknownUser s req
  | .error (.other message) => .fail (wrapError .internal "failed to query user" message)
  | .ok user => knownUser s req user

/-! ## Credentials and their rows -/

/-- `strings.ToLower` on ASCII; the words it is compared with have no other lower-case forms. -/
def asciiLower (s : GoString) : GoString := s.map fun c => if 0x41 ≤ c && c ≤ 0x5A then c + 0x20 else c

/-- `getUserVerificationRequirement`. -/
def getUserVerificationRequirement (uv : GoString) : UserVerification :=
  if asciiLower uv = str "required" then .required
  else if asciiLower uv = str "discouraged" then .discouraged
  else .preferred

/-- The eight bytes of a number, the most significant one first. -/
def bigEndian64 (n : Nat) : List UInt8 := (List.range 8).map fun k => UInt8.ofNat (n / 256 ^ (7 - k))

/-- `WebAuthnID`. -/
def webAuthnID (userID : Int) : List UInt8 := if 0 < userID then bigEndian64 userID.toNat else bigEndian64 0

/-- `math.MaxUint32`. -/
def maxUint32 : Int := 4294967295

/-- The sign count that `dbCredToWebAuthn` reads off a row. -/
def storedSignCount (signCount : Int) : UInt32 :=
  if 0 < signCount ∧ signCount ≤ maxUint32 then UInt32.ofNat signCount.toNat else 0

/-- `dbCredToWebAuthn`. -/
def dbCredToWebAuthn (c : WebauthnCredential) : Credential where
  id := c.credentialID
  publicKey := c.publicKey
  attestationType := c.attestationType
  transport :=
    if c.transport = [] then [] else ((split c.transport 0x2C).map trimSpace).filter fun t => decide (t ≠ [])
  userPresent := true
  userVerified := true
  backupEligible := decide (c.backupEligible = 1)
  backupState := decide (c.backupState = 1)
  aaguid := c.aaguid
  signCount := storedSignCount c.signCount

/-- The AAGUIDs that `aaguidToDeviceName` knows. -/
def deviceNames : List (GoString × GoString) :=
  [(str "adce0002-35bc-c60a-648b-0b25f1f05503", str "Chrome on Mac"),
    (str "08987058-cadc-4b81-b6e1-30de50dcbe96", str "Windows Hello"),
    (str "6028b012-b1a8-444a-89a1-7787cf3d3b76", str "iCloud Keychain"),
    (str "fbfc3007-154e-4ecc-8c0b-6e020557d7b1", str "YubiKey 5 Series"),
    (str "cb69481e-8ff7-4039-93ec-0a2729a1d67b", str "YubiKey 5 NFC"),
    (str "fa2b99dc-9e39-4257-8f92-4a30d23c4118", str "YubiKey 5Ci"),
    (str "ee882879-721c-4916-be20-320099538356", str "Google Password Manager"),
    (str "ea9b8d66-4d01-1d21-3ce4-b6b48cb575d4", str "1Password"),
    (str "53b27b38-d652-4467-96a4-c0ec5f97ec9e", str "Bitwarden")]

/-- `aaguidToDeviceName`. -/
def aaguidToDeviceName (aaguid : List UInt8) : GoString :=
  if aaguid.length ≠ 16 then str "Passkey / Security Key"
  else
    let aaguidStr := join [hexEncode (aaguid.take 4), hexEncode ((aaguid.drop 4).take 2),
      hexEncode ((aaguid.drop 6).take 2), hexEncode ((aaguid.drop 8).take 2), hexEncode (aaguid.drop 10)] (str "-")
    (deviceNames.lookup aaguidStr).getD (str "Passkey / Security Key")

/-- `v1.Passkey`. -/
structure Passkey where
  id : GoString
  name : GoString
  aaguid : GoString
  friendlyDeviceName : GoString
  backupEligible : Bool
  backupState : Bool
  signCount : Int
  cloneWarning : Bool
  createdAt : Int
  lastUsedAt : Option Int
  deriving DecidableEq, Repr

/-- `math.MaxInt32`. -/
def maxInt32 : Int := 2147483647

/-- `formatPasskeyProto`. -/
def formatPasskeyProto (c : WebauthnCredential) : Passkey where
  id := hexEncode c.credentialID
  name := if c.name = [] then aaguidToDeviceName c.aaguid else c.name
  aaguid := hexEncode c.aaguid
  friendlyDeviceName := aaguidToDeviceName c.aaguid
  backupEligible := decide (c.backupEligible = 1)
  backupState := decide (c.backupState = 1)
  signCount := if 0 < c.signCount ∧ c.signCount ≤ maxInt32 then c.signCount else 0
  cloneWarning := decide (c.cloneWarning = 1)
  createdAt := c.createdAt
  lastUsedAt := c.lastUsedAt

/-- `boolToInt`. -/
def boolToInt (b : Bool) : Int := if b then 1 else 0

/-- The stored extensions of a challenge; a challenge from before they were stored has none. -/
def readExtensions (extensions : GoString) : AuthHandler (Option GoString) :=
  if extensions = [] then .done none
  else do
    let read ← perform (AuthCall.unmarshalExtensions extensions)
    orFail (wrapError .invalidArgument "stored WebAuthn session extensions are invalid") (read.map some)

/-- Reading the extensions is at most one call. -/
theorem alongOr_readExtensions {past : List AuthEvent} {P : List AuthEvent → AuthCall → Prop}
    {extensions : GoString} {Q : List AuthEvent → Option GoString → Prop} {E : List AuthEvent → ConnectError → Prop}
    (hP : ∀ data, P past (.unmarshalExtensions data)) (hnone : Q past none)
    (hQ : ∀ data read ext, Q (⟨.unmarshalExtensions data, read⟩ :: past) ext)
    (hE : ∀ data read err, E (⟨.unmarshalExtensions data, read⟩ :: past) err) :
    (readExtensions extensions).AlongOr P Q E past := by
  unfold readExtensions
  split
  · exact hnone
  · simp only [Program.alongOr_bind, Program.alongOr_perform, Program.alongOr_orFail]
    exact ⟨hP _, fun read => ⟨fun ext _ => hQ _ read ext, fun err _ => hE _ read _⟩⟩

/-- The check that passkeys are configured. -/
def requireWebauthn (s : AuthService) : AuthHandler Unit :=
  ensure (s.webauthn = true)
    (newError .failedPrecondition "passkey support is not configured on this server")

/-! ## BeginPasskeyLogin -/

/-- `BeginPasskeyLogin`; the response is the JSON of the options. -/
def beginPasskeyLogin (s : AuthService) (clientIP : GoString) : AuthHandler GoString := do
  requireWebauthn s
  requireUnlocked passkeyLoginKey clientIP none (str "unknown")
  let begun ← orFail (wrapError .internal "failed to begin passkey login")
    (← perform (.beginDiscoverableLogin
      (getUserVerificationRequirement s.webauthnCfg.requireUserVerification)))
  let extJSON ← orFail (wrapError .internal "failed to encode WebAuthn session extensions")
    (← perform (.marshalExtensions begun.extensions))
  let now ← perform AuthCall.timeNow
  let _ ← orFail (wrapError .internal "failed to store login challenge")
    (← perform (.createWebAuthnChallenge
      ⟨begun.challenge, challengeKindLogin, none, now + 120 * second, extJSON⟩))
  orFail (wrapError .internal "failed to serialize login options") (← perform (.marshalOptions begun.options))

/-! ## FinishPasskeyLogin -/

/-- `v1.FinishPasskeyLoginRequest`, with the header and the client IP of the request. -/
structure FinishPasskeyLoginRequest where
  responseJSON : GoString
  rememberMe : Bool
  reqHeader : Header
  clientIP : GoString

/-- The end of a passkey login that fails before its user is known, with an auth event. -/
def rejectUnresolved (req : FinishPasskeyLoginRequest) (reason : String) (err : ConnectError) :
    AuthHandler LoginResponse := do
  recordFailureNow passkeyLoginKey req.clientIP
  perform (AuthCall.recordAuthEvent none (str "unknown") (str "login_failed")
    (str "method: passkey, reason: " ++ str reason ++ str ", ip: " ++ req.clientIP))
  .fail err

/-- The end of a passkey login that fails when its user is known. -/
def rejectAssertion (req : FinishPasskeyLoginRequest) (user : User) (reason : String) (err : ConnectError) :
    AuthHandler LoginResponse := do
  recordFailureNow user.username req.clientIP
  perform (AuthCall.recordAuthEvent (some user.id) user.username (str "login_failed")
    (str "method: passkey, reason: " ++ str reason ++ str ", ip: " ++ req.clientIP))
  .fail err

/-- The condition of the clone detection. -/
def CounterRegressed (credRow : WebauthnCredential) (newCounter : UInt32) : Prop :=
  0 < credRow.signCount ∧ credRow.signCount ≤ maxUint32 ∧ newCounter ≤ UInt32.ofNat credRow.signCount.toNat ∧
    newCounter ≠ 0

instance (credRow : WebauthnCredential) (newCounter : UInt32) : Decidable (CounterRegressed credRow newCounter) :=
  inferInstanceAs (Decidable (_ ∧ _))

/-- The usage that is written when the counter has regressed. -/
def cloneUsage (credRow : WebauthnCredential) : UpdateWebAuthnCredentialUsageParams where
  signCount := credRow.signCount
  lastUsedAt := credRow.lastUsedAt
  backupState := credRow.backupState
  cloneWarning := 1
  credentialID := credRow.credentialID

/-- The usage that is written otherwise. -/
def loginUsage (credRow : WebauthnCredential) (validCred : Credential) (now : Int) :
    UpdateWebAuthnCredentialUsageParams where
  signCount := validCred.signCount.toNat
  lastUsedAt := some now
  backupState := boolToInt validCred.backupState
  cloneWarning := credRow.cloneWarning
  credentialID := credRow.credentialID

/-- The user that the library validates an assertion for. -/
def assertionUser (user : User) (credRow : WebauthnCredential) : WebAuthnUser :=
  ⟨user.id, user.username, user.username, [dbCredToWebAuthn credRow]⟩

def assertionSession (s : AuthService) (challenge : GoString) (extensions : Option GoString) : SessionData :=
  ⟨challenge, [], getUserVerificationRequirement s.webauthnCfg.requireUserVerification, false, extensions⟩

/-- From the credential that the library has verified to the session. -/
def acceptAssertion (s : AuthService) (req : FinishPasskeyLoginRequest) (response : ParsedAssertion)
    (credRow : WebauthnCredential) (user : User) (validCred : Credential) : AuthHandler LoginResponse :=
  if CounterRegressed credRow response.counter then do
    let _ ← perform (AuthCall.updateWebAuthnCredentialUsage (cloneUsage credRow))
    rejectAssertion req user "clone_warning" (newError .unauthenticated
      "authenticator counter regression detected (possible cloned passkey)")
  else do
    let now ← perform AuthCall.timeNow
    let _ ← perform (AuthCall.updateWebAuthnCredentialUsage (loginUsage credRow validCred now))
    perform (AuthCall.recordSuccess user.username)
    completeLogin s user req.rememberMe req.reqHeader (str "passkey") req.clientIP

/-- What follows the validation of the assertion. -/
def concludeAssertion (s : AuthService) (req : FinishPasskeyLoginRequest) (response : ParsedAssertion)
    (credRow : WebauthnCredential) (user : User) : Except GoString Credential → AuthHandler LoginResponse
  | .error err =>
    rejectAssertion req user "validation failed" (wrapError .unauthenticated "passkey verification failed" err)
  | .ok validCred => acceptAssertion s req response credRow user validCred

/-- From the stored extensions to the validation of the assertion. -/
def validateAssertion (s : AuthService) (req : FinishPasskeyLoginRequest) (response : ParsedAssertion)
    (dbChallenge : WebauthnChallenge) (credRow : WebauthnCredential) (user : User) :
    AuthHandler LoginResponse := do
  let extensions ← readExtensions dbChallenge.extensions
  let valid ← perform (AuthCall.validateDiscoverableLogin (assertionUser user credRow)
    (assertionSession s response.challenge extensions) response)
  concludeAssertion s req response credRow user valid

/-- From the credential to its user. -/
def resolveUser (s : AuthService) (req : FinishPasskeyLoginRequest) (response : ParsedAssertion)
    (dbChallenge : WebauthnChallenge) : AuthHandler LoginResponse := do
  let foundCred ← perform (AuthCall.getWebAuthnCredential response.rawID)
  match foundCred with
  | .error _ =>
    rejectUnresolved req "credential not found" (newError .unauthenticated "passkey credential not found")
  | .ok credRow => do
    let foundUser ← perform (AuthCall.getUser credRow.userID)
    match foundUser with
    | .error err => do
      recordFailureNow passkeyLoginKey req.clientIP
      .fail (wrapError .internal "failed to fetch user" err.text)
    | .ok user => do
      requireUnlocked user.username req.clientIP (some user.id) user.username
      validateAssertion s req response dbChallenge credRow user

/-- `FinishPasskeyLogin`. -/
def finishPasskeyLogin (s : AuthService) (req : FinishPasskeyLoginRequest) : AuthHandler LoginResponse := do
  requireWebauthn s
  let parsed ← perform (AuthCall.parseCredentialRequestResponseBody req.responseJSON)
  match parsed with
  | .error err => do
    recordFailureNow passkeyLoginKey req.clientIP
    .fail (wrapError .invalidArgument "invalid login assertion response json" err)
  | .ok response => do
    let now ← perform AuthCall.timeNow
    let found ← perform (AuthCall.getUnconsumedWebAuthnChallenge ⟨response.challenge, challengeKindLogin, now⟩)
    match found with
    | .error _ =>
      rejectUnresolved req "invalid or expired challenge"
        (newError .unauthenticated "invalid or expired passkey challenge")
    | .ok dbChallenge => do
      let _ ← perform (AuthCall.consumeWebAuthnChallenge dbChallenge.id)
      resolveUser s req response dbChallenge

/-! ## FinishPasskeyRegistration -/

/-- `v1.FinishPasskeyRegistrationRequest`. -/
structure FinishPasskeyRegistrationRequest where
  responseJSON : GoString
  name : GoString
  deriving DecidableEq, Repr

/-- `UserFromContext`, and the answer to a client that is not logged in. -/
def requireUser (ctx : Ctx) : AuthHandler User :=
  match ctx.user with
  | none => .fail (newError .unauthenticated "unauthenticated")
  | some user => .done user

/-- The row of a new credential. -/
def credentialRow (cred : Credential) (userID : Int) (name : GoString) (now : Int) :
    CreateWebAuthnCredentialParams where
  credentialID := cred.id
  userID := userID
  publicKey := cred.publicKey
  attestationType := cred.attestationType
  transport := join cred.transport (str ",")
  aaguid := cred.aaguid
  signCount := cred.signCount.toNat
  cloneWarning := 0
  backupEligible := boolToInt cred.backupEligible
  backupState := boolToInt cred.backupState
  name := name
  createdAt := now
  lastUsedAt := none

/-- The name of a new credential. -/
def credentialName (name : GoString) (cred : Credential) : GoString :=
  if trimSpace name = [] then aaguidToDeviceName cred.aaguid else trimSpace name

/-- From a new credential that the library has verified to its row. -/
def saveCredential (user : User) (req : FinishPasskeyRegistrationRequest) (cred : Credential) :
    AuthHandler Passkey := do
  let registered ← perform (AuthCall.getWebAuthnCredential cred.id)
  ensure (registered.toOption = none) (newError .alreadyExists "credential already registered")
  let now ← perform AuthCall.timeNow
  let created ← orFail (wrapError .internal "failed to save credential")
    (← perform (.createWebAuthnCredential (credentialRow cred user.id (credentialName req.name cred) now)))
  perform (AuthCall.recordAuthEvent (some user.id) user.username (str "passkey_added")
    (str "name: " ++ credentialName req.name cred))
  .done (formatPasskeyProto created)

/-- From the user's credentials to the verification of the new one. -/
def storeCredential (s : AuthService) (user : User) (req : FinishPasskeyRegistrationRequest)
    (response : ParsedCreation) (dbChallenge : WebauthnChallenge) : AuthHandler Passkey := do
  let dbCreds ← orFail (wrapError .internal "failed to list credentials")
    (← perform (.listWebAuthnCredentialsByUser user.id))
  let webUser : WebAuthnUser := ⟨user.id, user.username, user.username, dbCreds.map dbCredToWebAuthn⟩
  let extensions ← readExtensions dbChallenge.extensions
  let sessionData : SessionData :=
    ⟨response.challenge, webAuthnID user.id,
      getUserVerificationRequirement s.webauthnCfg.requireUserVerification, true, extensions⟩
  let cred ← orFail (wrapError .invalidArgument "failed to verify credential creation")
    (← perform (.createCredential webUser sessionData response))
  saveCredential user req cred

/-- `FinishPasskeyRegistration`. -/
def finishPasskeyRegistration (s : AuthService) (ctx : Ctx) (req : FinishPasskeyRegistrationRequest) :
    AuthHandler Passkey := do
  let user ← requireUser ctx
  requireWebauthn s
  let response ← orFail (wrapError .invalidArgument "invalid registration response json")
    (← perform (.parseCredentialCreationResponseBody req.responseJSON))
  let now ← perform AuthCall.timeNow
  let found ← perform
    (AuthCall.getUnconsumedWebAuthnChallenge ⟨response.challenge, challengeKindRegistration, now⟩)
  match found with
  | .error .noRows => .fail (newError .invalidArgument "invalid or expired registration challenge")
  | .error (.other message) => .fail (wrapError .internal "failed to check challenge" message)
  | .ok dbChallenge => do
    ensure (dbChallenge.userID = some user.id)
      (newError .permissionDenied "challenge does not belong to the authenticated user")
    let _ ← perform (AuthCall.consumeWebAuthnChallenge dbChallenge.id)
    storeCredential s user req response dbChallenge

/-! ## DeletePasskey -/

/-- The value of a hexadecimal digit. -/
def hexValue (c : UInt8) : Option UInt8 :=
  if 0x30 ≤ c && c ≤ 0x39 then some (c - 0x30)
  else if 0x61 ≤ c && c ≤ 0x66 then some (c - 0x57)
  else if 0x41 ≤ c && c ≤ 0x46 then some (c - 0x37)
  else none

/-- The rune of one byte, in UTF-8. -/
def utf8Byte (c : UInt8) : GoString := if c < 0x80 then [c] else [0xC0 + c / 64, 0x80 + c % 64]

/-- `unicode.IsPrint` below U+0100. -/
def printableByte (c : UInt8) : Bool := (0x20 ≤ c && c ≤ 0x7E) || (0xA1 ≤ c && c != 0xAD)

/-- The upper-case hexadecimal digit of a number below sixteen. -/
def upperHexDigit (n : UInt8) : UInt8 := if n < 10 then 0x30 + n else 0x37 + n

/-- `hex.InvalidByteError`, printed with `%#U`. -/
def invalidHexByte (c : UInt8) : GoString :=
  str "encoding/hex: invalid byte: U+00" ++ [upperHexDigit (c / 16), upperHexDigit (c % 16)] ++
    (if printableByte c then str " '" ++ utf8Byte c ++ str "'" else [])

/-- `hex.DecodeString`: the first byte that is no digit is reported before an odd length. -/
def hexDecode : GoString → Except GoString (List UInt8)
  | [] => .ok []
  | [c] =>
    match hexValue c with
    | none => .error (invalidHexByte c)
    | some _ => .error (str "encoding/hex: odd length hex string")
  | high :: low :: rest =>
    match hexValue high, hexValue low with
    | some h, some l => (hexDecode rest).map fun bytes => (h * 16 + l) :: bytes
    | none, _ => .error (invalidHexByte high)
    | some _, none => .error (invalidHexByte low)

/-- `DeletePasskey`. -/
def deletePasskey (ctx : Ctx) (reqID : GoString) : AuthHandler Unit := do
  let user ← requireUser ctx
  let id := trimSpace reqID
  ensure (id ≠ []) (newError .invalidArgument "id is required")
  let credID ← orFail (wrapError .invalidArgument "invalid credential id hex") (hexDecode id)
  let count ← orFail (wrapError .internal "failed to check passkey count")
    (← perform (.countWebAuthnCredentialsByUser user.id))
  let u ← orFail (fun err => wrapError .internal "failed to check user" (QueryError.text err))
    (← perform (.getUser user.id))
  ensure (¬ (count ≤ 1 ∧ u.passwordHash = []))
    (newError .failedPrecondition "cannot remove the last remaining login method for this account")
  let rowsAffected ← orFail (wrapError .internal "failed to delete passkey")
    (← perform (.deleteWebAuthnCredential credID user.id))
  ensure (rowsAffected ≠ 0) (newError .notFound "passkey not found")
  perform (AuthCall.recordAuthEvent (some user.id) user.username (str "passkey_removed")
    (str "credential_id: " ++ id.take 8 ++ str "..."))

end Handlers

/-! ## A small installation -/

/-- The service with the default settings. -/
def defaultService : AuthService := ⟨Config.defaults.auth, Config.defaults.webAuthn, true, [], .truncating⟩

/-- A user without a password. -/
def passkeyUser : User := ⟨1, str "admin", [], adminRole⟩

/-- One of the user's passkeys. -/
def passkeyRow (credID : List UInt8) (signCount : Int) : WebauthnCredential where
  credentialID := credID
  userID := 1
  publicKey := []
  attestationType := str "none"
  transport := []
  aaguid := []
  signCount := signCount
  cloneWarning := 0
  backupEligible := 0
  backupState := 0
  name := str "key"
  createdAt := 0
  lastUsedAt := none

/-- A challenge for a login. -/
def loginChallenge (id : Int) (challenge : String) : WebauthnChallenge where
  id := id
  challenge := str challenge
  kind := challengeKindLogin
  userID := none
  expiresAt := 120 * second
  consumed := 0
  extensions := []

/-- The user with two passkeys, and two challenges for a login. -/
def passkeyState : AuthState where
  users := ⟨[passkeyUser], 1, by decide, by decide, by decide⟩
  sessions := KeyedTable.empty
  credentials := ⟨[passkeyRow [1] 5, passkeyRow [2] 0], by decide⟩
  challenges := ⟨⟨[loginChallenge 1 "first", loginChallenge 2 "second"], by decide⟩, 2, by decide⟩
  limiter := newRateLimiter
  clock := 0

/-- No call fails without a reason, instants are compared as they are, and the library answers as it likes. -/
def calmWorld : AuthWorld := ⟨.amd64, fun s t => decide (s < t), fun _ => false, fun _ => true⟩

end Auth
end Dmanager
