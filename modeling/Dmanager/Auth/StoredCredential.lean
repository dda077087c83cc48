import Dmanager.Auth.Handlers

/-!
# A passkey and its row

`FinishPasskeyRegistration` writes a credential to a row and `dbCredToWebAuthn` reads it back for every later login.
The transports go through one text with commas, the sign count through `int64`, and the flags through `0` and `1`.
-/

namespace Dmanager
namespace Auth

open Go Db Lib Server
open Handlers

/-- What a transport has to be so that the commas of the row separate it from the others. -/
structure PlainTransport (transport : GoString) : Prop where
  ne_nil : transport ≠ []
  no_comma : 0x2C ∉ transport
  unpadded : Unpadded transport

/-- The transports are read back in their order. -/
theorem transports_of_join {transports : List GoString} (hplain : ∀ t ∈ transports, PlainTransport t) :
    (if join transports (str ",") = [] then []
      else ((split (join transports (str ",")) 0x2C).map trimSpace).filter fun t => decide (t ≠ [])) = transports := by
  cases transports with
  | nil => rfl
  | cons first rest =>
      obtain ⟨hfirst, hrest⟩ := List.forall_mem_cons.mp hplain
      have hne : join (first :: rest) (str ",") ≠ [] := by
        cases rest with
        | nil => exact hfirst.ne_nil
        | cons second rest =>
            rw [join_cons_cons, List.append_assoc]
            exact List.append_ne_nil_of_left_ne_nil hfirst.ne_nil _
      have hsplit : split (join (first :: rest) (str ",")) 0x2C = first :: rest := by
        have hcomma : str "," = 0x2C :: [] := by decide
        rw [hcomma, split_join List.not_mem_nil hfirst.no_comma fun t ht => (hrest t ht).no_comma]
        exact congrArg (first :: ·) (List.map_id rest)
      have htrim : (first :: rest).map trimSpace = (first :: rest).map id :=
        List.map_congr_left fun t ht => trimSpace_of_unpadded (hplain t ht).unpadded
      rw [if_neg hne, hsplit, htrim, List.map_id, List.filter_eq_self]
      exact fun t ht => decide_eq_true (hplain t ht).ne_nil

/-- Every counter is read back. -/
theorem storedSignCount_toNat (signCount : UInt32) : storedSignCount signCount.toNat = signCount := by
  have hlt := signCount.toNat_lt
  unfold storedSignCount maxUint32
  by_cases hzero : signCount = 0
  · subst hzero
    rfl
  · have hpos : 0 < signCount.toNat := Nat.pos_of_ne_zero fun heq => hzero (UInt32.toNat_inj.mp heq)
    rw [if_pos (by omega), Int.toNat_natCast, UInt32.ofNat_toNat]

theorem boolToInt_eq_one_iff (b : Bool) : decide (boolToInt b = 1) = b := by
  cases b with
  | false => rfl
  | true => rfl

/-- A credential is read back as it was stored.  That the user was present and verified is not stored, and is set. -/
theorem dbCredToWebAuthn_credentialRow (cred : Credential) (userID : Int) (name : GoString) (now : Int)
    (hplain : ∀ t ∈ cred.transport, PlainTransport t) :
    dbCredToWebAuthn (credentialRow cred userID name now) =
      { cred with userPresent := true, userVerified := true } := by
  unfold dbCredToWebAuthn credentialRow
  dsimp only
  rw [transports_of_join hplain, storedSignCount_toNat, boolToInt_eq_one_iff, boolToInt_eq_one_iff]

/-- A synced passkey with two transports, its counter at the end of the range. -/
def syncedPasskey : Credential :=
  ⟨[1, 2, 3], [4, 5], str "none", [str "hybrid", str "internal"], true, false, true, true, [6], 4294967295⟩

theorem dbCredToWebAuthn_credentialRow_synced :
    dbCredToWebAuthn (credentialRow syncedPasskey 1 (str "Phone") 0) =
      { syncedPasskey with userPresent := true, userVerified := true } := by
  refine dbCredToWebAuthn_credentialRow syncedPasskey 1 (str "Phone") 0 fun t ht => ?_
  rcases List.mem_pair.mp ht with rfl | rfl
  · exact ⟨by decide, by decide, by decide +kernel⟩
  · exact ⟨by decide, by decide, by decide +kernel⟩

end Auth
end Dmanager
