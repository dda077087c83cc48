import Dmanager.Db.Sessions

/-!
# The `webauthn_credentials` and `webauthn_challenges` tables

The statements of `internal/db/webauthn.sql.go` that the modelled code sends, one definition each.  Credentials
are keyed by `credential_id`, and their `user_id` is a foreign key.  Challenges are keyed by an
`INTEGER PRIMARY KEY AUTOINCREMENT`; `seq` is SQLite's counter for it, as in `Dmanager.Db.Users`.  The column
`challenge` is not unique.

As for sessions, the comparison of the stored times is SQLite's own and a parameter `sqlLess`.
-/

namespace Dmanager
namespace Db

open Go Lib

/-! ## Credentials -/

/-- `db.WebauthnCredential`. -/
structure WebauthnCredential where
  credentialID : List UInt8
  userID : Int
  publicKey : List UInt8
  attestationType : GoString
  transport : GoString
  aaguid : List UInt8
  signCount : Int
  cloneWarning : Int
  backupEligible : Int
  backupState : Int
  name : GoString
  createdAt : Int
  lastUsedAt : Option Int
  deriving DecidableEq, Repr

/-- `db.CreateWebAuthnCredentialParams`: all columns of the row. -/
abbrev CreateWebAuthnCredentialParams := WebauthnCredential

/-- `db.UpdateWebAuthnCredentialUsageParams`. -/
structure UpdateWebAuthnCredentialUsageParams where
  signCount : Int
  lastUsedAt : Option Int
  backupState : Int
  cloneWarning : Int
  credentialID : List UInt8
  deriving DecidableEq, Repr

/-- The row after the statement. -/
def UpdateWebAuthnCredentialUsageParams.apply (arg : UpdateWebAuthnCredentialUsageParams)
    (row : WebauthnCredential) : WebauthnCredential :=
  { row with
    signCount := arg.signCount
    lastUsedAt := arg.lastUsedAt
    backupState := arg.backupState
    cloneWarning := arg.cloneWarning }

/-- The table: rows with pairwise different credential ids. -/
abbrev Credentials := KeyedTable WebauthnCredential.credentialID

namespace Credentials

/-- `SELECT ... FROM webauthn_credentials WHERE credential_id = ? LIMIT 1`; `none` is `sql.ErrNoRows`. -/
def getWebAuthnCredential (credentials : Credentials) (credentialID : List UInt8) :
    Option WebauthnCredential :=
  credentials.get? credentialID

/-- The rows of a user, in the order of the table. -/
def ofUser (credentials : Credentials) (userID : Int) : List WebauthnCredential :=
  credentials.rows.filter fun row => decide (row.userID = userID)

/-- `SELECT ... FROM webauthn_credentials WHERE user_id = ? ORDER BY created_at ASC`: a list is a result of
the query if it has the rows of the user in an order that the comparison does not contradict. -/
def IsListOfUser (sqlLess : Int → Int → Bool) (credentials : Credentials) (userID : Int)
    (rows : List WebauthnCredential) : Prop :=
  rows.Perm (credentials.ofUser userID) ∧
    rows.Pairwise fun earlier later => sqlLess later.createdAt earlier.createdAt = false

instance (sqlLess : Int → Int → Bool) (credentials : Credentials) (userID : Int)
    (rows : List WebauthnCredential) : Decidable (IsListOfUser sqlLess credentials userID rows) :=
  inferInstanceAs (Decidable (_ ∧ _))

/-- `SELECT COUNT(*) FROM webauthn_credentials WHERE user_id = ?`. -/
def countWebAuthnCredentialsByUser (credentials : Credentials) (userID : Int) : Int :=
  (credentials.ofUser userID).length

/-- `INSERT INTO webauthn_credentials ...`; `none` is a violated primary or foreign key. -/
def createWebAuthnCredential (users : Users) (credentials : Credentials)
    (arg : CreateWebAuthnCredentialParams) : Option Credentials :=
  match users.getUser arg.userID with
  | none => none
  | some _ => credentials.insert? arg

/-- `DELETE FROM webauthn_credentials WHERE credential_id = ? AND user_id = ?`, with the number of rows. -/
def deleteWebAuthnCredential (credentials : Credentials) (credentialID : List UInt8) (userID : Int) :
    Credentials × Nat :=
  let left := credentials.deleteWhere fun row => decide (row.credentialID = credentialID ∧ row.userID = userID)
  (left, credentials.rows.length - left.rows.length)

/-- `UPDATE webauthn_credentials SET sign_count = ?, ... WHERE credential_id = ?`. -/
def updateWebAuthnCredentialUsage (credentials : Credentials) (arg : UpdateWebAuthnCredentialUsageParams) :
    Credentials :=
  credentials.update arg.credentialID arg.apply fun _ => rfl

/-- `SET name = ?` on the rows of a user. -/
def named (name : GoString) (userID : Int) (row : WebauthnCredential) : WebauthnCredential :=
  if row.userID = userID then { row with name := name } else row

theorem credentialID_named (name : GoString) (userID : Int) (row : WebauthnCredential) :
    (named name userID row).credentialID = row.credentialID := by
  unfold named
  split
  · rfl
  · rfl

/-- `UPDATE webauthn_credentials SET name = ? WHERE credential_id = ? AND user_id = ?`, with the number of rows. -/
def renameWebAuthnCredential (credentials : Credentials) (name : GoString) (credentialID : List UInt8)
    (userID : Int) : Credentials × Nat :=
  (credentials.update credentialID (named name userID) (credentialID_named name userID),
    (credentials.rows.filter fun row => decide (row.credentialID = credentialID ∧ row.userID = userID)).length)

/-- A renamed row, or one that was there before. -/
theorem mem_renameWebAuthnCredential {credentials : Credentials} {name : GoString} {credentialID : List UInt8}
    {userID : Int} {row : WebauthnCredential} :
    row ∈ (credentials.renameWebAuthnCredential name credentialID userID).1 ↔
      (∃ old ∈ credentials, old.credentialID = credentialID ∧ old.userID = userID ∧ row = { old with name := name }) ∨
        row ∈ credentials ∧ ¬ (row.credentialID = credentialID ∧ row.userID = userID) := by
  show row ∈ credentials.update credentialID (named name userID) (credentialID_named name userID) ↔ _
  rw [KeyedTable.mem_update]
  unfold named
  constructor
  · rintro ⟨old, hold, ⟨hid, hrow⟩ | ⟨hid, rfl⟩⟩
    · by_cases howner : old.userID = userID
      · rw [if_pos howner] at hrow
        exact Or.inl ⟨old, hold, hid, howner, hrow⟩
      · rw [if_neg howner] at hrow
        subst hrow
        exact Or.inr ⟨hold, fun hboth => howner hboth.2⟩
    · exact Or.inr ⟨hold, fun hboth => hid hboth.1⟩
  · rintro (⟨old, hold, hid, howner, hrow⟩ | ⟨hrow, hother⟩)
    · exact ⟨old, hold, Or.inl ⟨hid, by rw [if_pos howner, hrow]⟩⟩
    · refine ⟨row, hrow, ?_⟩
      by_cases hid : row.credentialID = credentialID
      · exact Or.inl ⟨hid, by rw [if_neg fun howner => hother ⟨hid, howner⟩]⟩
      · exact Or.inr ⟨hid, rfl⟩

theorem get?_updateWebAuthnCredentialUsage {credentials : Credentials}
    (arg : UpdateWebAuthnCredentialUsageParams) (credentialID : List UInt8) :
    (updateWebAuthnCredentialUsage credentials arg).getWebAuthnCredential credentialID =
      if credentialID = arg.credentialID then (credentials.getWebAuthnCredential credentialID).map arg.apply
      else credentials.getWebAuthnCredential credentialID :=
  KeyedTable.get?_update credentialID

end Credentials

/-! ## Challenges -/

/-- `db.WebauthnChallenge`. -/
structure WebauthnChallenge where
  id : Int
  challenge : GoString
  kind : GoString
  userID : Option Int
  expiresAt : Int
  consumed : Int
  extensions : GoString
  deriving DecidableEq, Repr

/-- `db.CreateWebAuthnChallengeParams`. -/
structure CreateWebAuthnChallengeParams where
  challenge : GoString
  kind : GoString
  userID : Option Int
  expiresAt : Int
  extensions : GoString
  deriving DecidableEq, Repr

/-- `db.GetUnconsumedWebAuthnChallengeParams`. -/
structure GetUnconsumedWebAuthnChallengeParams where
  challenge : GoString
  kind : GoString
  expiresAt : Int
  deriving DecidableEq, Repr

/-- The table, with the counter of its ids. -/
structure Challenges where
  table : KeyedTable WebauthnChallenge.id
  seq : Int
  ids_le_seq : ∀ row ∈ table, row.id ≤ seq

namespace Challenges

/-- `WHERE challenge = ? AND kind = ? AND consumed = 0 AND expires_at > ?`. -/
def Unconsumed (sqlLess : Int → Int → Bool) (arg : GetUnconsumedWebAuthnChallengeParams)
    (row : WebauthnChallenge) : Prop :=
  row.challenge = arg.challenge ∧ row.kind = arg.kind ∧ row.consumed = 0 ∧
    sqlLess arg.expiresAt row.expiresAt = true

instance (sqlLess : Int → Int → Bool) (arg : GetUnconsumedWebAuthnChallengeParams) :
    DecidablePred (Unconsumed sqlLess arg) :=
  fun _ => inferInstanceAs (Decidable (_ ∧ _))

/-- `SELECT ... FROM webauthn_challenges WHERE ... LIMIT 1`: without an `ORDER BY` the result is any of the
rows that match. -/
def IsUnconsumed (sqlLess : Int → Int → Bool) (challenges : Challenges)
    (arg : GetUnconsumedWebAuthnChallengeParams) (row : WebauthnChallenge) : Prop :=
  row ∈ challenges.table.rows ∧ Unconsumed sqlLess arg row

instance (sqlLess : Int → Int → Bool) (challenges : Challenges)
    (arg : GetUnconsumedWebAuthnChallengeParams) (row : WebauthnChallenge) :
    Decidable (IsUnconsumed sqlLess challenges arg row) :=
  inferInstanceAs (Decidable (_ ∧ _))

/-- `UPDATE webauthn_challenges SET consumed = 1 WHERE id = ?`. -/
def consumeWebAuthnChallenge (challenges : Challenges) (id : Int) : Challenges where
  table := challenges.table.update id (fun row => { row with consumed := 1 }) fun _ => rfl
  seq := challenges.seq
  ids_le_seq := by
    intro row hrow
    obtain ⟨old, hold, ⟨-, rfl⟩ | ⟨-, rfl⟩⟩ := KeyedTable.mem_update.mp hrow
    · exact challenges.ids_le_seq old hold
    · exact challenges.ids_le_seq row hold

/-- A consumed row, or another one that was there before. -/
theorem mem_consumeWebAuthnChallenge {challenges : Challenges} {id : Int} {row : WebauthnChallenge} :
    row ∈ (challenges.consumeWebAuthnChallenge id).table ↔
      (∃ old ∈ challenges.table, old.id = id ∧ row = { old with consumed := 1 }) ∨
        row ∈ challenges.table ∧ row.id ≠ id := by
  unfold consumeWebAuthnChallenge
  rw [KeyedTable.mem_update]
  constructor
  · rintro ⟨old, hold, ⟨hid, hrow⟩ | ⟨hid, rfl⟩⟩
    · exact Or.inl ⟨old, hold, hid, hrow⟩
    · exact Or.inr ⟨hold, hid⟩
  · rintro (⟨old, hold, hid, hrow⟩ | ⟨hrow, hid⟩)
    · exact ⟨old, hold, Or.inl ⟨hid, hrow⟩⟩
    · exact ⟨row, hrow, Or.inr ⟨hid, rfl⟩⟩

/-- No row of this id can be found any more: every one of them is consumed. -/
theorem not_isUnconsumed_of_consumed {sqlLess : Int → Int → Bool} {challenges : Challenges}
    {arg : GetUnconsumedWebAuthnChallengeParams} {found : WebauthnChallenge} {id : Int}
    (hconsumed : ∀ row ∈ challenges.table, row.id = id → row.consumed = 1)
    (hfound : IsUnconsumed sqlLess challenges arg found) : found.id ≠ id := by
  intro hid
  obtain ⟨hmem, -, -, hzero, -⟩ := hfound
  have hone : found.consumed = 1 := hconsumed found hmem hid
  omega

theorem consumed_consumeWebAuthnChallenge (challenges : Challenges) (id : Int) :
    ∀ row ∈ (challenges.consumeWebAuthnChallenge id).table, row.id = id → row.consumed = 1 := by
  intro row hrow hid
  rcases mem_consumeWebAuthnChallenge.mp hrow with ⟨old, -, -, rfl⟩ | ⟨-, hother⟩
  · rfl
  · exact absurd hid hother

/-- `INSERT INTO webauthn_challenges (...) VALUES (?, ?, ?, ?, ?, 0) RETURNING ...`. -/
def createWebAuthnChallenge (challenges : Challenges) (arg : CreateWebAuthnChallengeParams) :
    Challenges × WebauthnChallenge :=
  let row : WebauthnChallenge :=
    ⟨challenges.seq + 1, arg.challenge, arg.kind, arg.userID, arg.expiresAt, 0, arg.extensions⟩
  ({ table :=
      { rows := challenges.table.rows ++ [row]
        nodup := by
          rw [List.map_append, List.map_singleton, List.nodup_append]
          refine ⟨challenges.table.nodup, by simp, ?_⟩
          intro taken htaken fresh hfresh heq
          obtain ⟨old, hold, rfl⟩ := List.mem_map.mp htaken
          have hle := challenges.ids_le_seq old hold
          have hid : old.id = challenges.seq + 1 := heq.trans (List.mem_singleton.mp hfresh)
          omega }
     seq := challenges.seq + 1
     ids_le_seq := by
      intro other hother
      rcases List.mem_append.mp hother with hold | hnew
      · have hle := challenges.ids_le_seq other hold
        omega
      · rw [List.mem_singleton.mp hnew] }, row)

end Challenges

end Db
end Dmanager
