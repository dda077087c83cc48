import Dmanager.Auth.SelfService
import Dmanager.Go.Unicode

/-!
# The label of a device

`formatDeviceLabel` looks for words in the user agent.  If it finds none, the label is the user agent itself, cut off
after 30 bytes, and the cut may split a rune.
-/

namespace Dmanager
namespace Auth

open Go
open Handlers

/-! ## Words -/

/-- The user agent has the word, in letters of either case. -/
def hasWord (ua : GoString) (word : String) : Bool := contains (toLower ua) (str word)

/-- The words that tell the operating system. -/
def osWords : List String :=
  ["windows", "android", "iphone", "ipad", "ipod", "ios", "macintosh", "mac os", "linux"]

/-- The words that tell the client. -/
def clientWords : List String :=
  ["edg/", "edge/", "opr/", "opera/", "chrome/", "crios/", "firefox/", "fxios/", "curl/", "postman"]

/-- One of the words is there; for `safari/` it counts only without `chrome`. -/
def recognized (ua : GoString) : Bool :=
  osWords.any (hasWord ua) || clientWords.any (hasWord ua) || hasWord ua "safari/" && !hasWord ua "chrome"

variable {ua : GoString}

theorem deviceOS_eq_unknown_iff : deviceOS (toLower ua) = str "Unknown OS" ↔ osWords.any (hasWord ua) = false := by
  simp only [deviceOS, osWords, hasWord, List.any_cons, List.any_nil, Bool.or_false]
  split_ifs with hwindows handroid hios hmac hlinux
  · exact iff_of_false (by decide) (by simp [hwindows])
  · exact iff_of_false (by decide) (by simp [handroid])
  · exact iff_of_false (by decide) (by grind)
  · exact iff_of_false (by decide) (by grind)
  · exact iff_of_false (by decide) (by simp [hlinux])
  · exact iff_of_true rfl (by simp_all)

theorem validString_deviceOS (uaLower : GoString) : ValidString (deviceOS uaLower) := by
  unfold deviceOS
  dsimp only
  split_ifs
  all_goals exact validString_str _

theorem validString_append {s t : GoString} (hs : ValidString s) (ht : ValidString t) : ValidString (s ++ t) := by
  obtain ⟨first, rfl⟩ := hs
  obtain ⟨second, rfl⟩ := ht
  exact ⟨first ++ second, List.flatMap_append.symm⟩

/-- A label of a known client or system is text of its own. -/
theorem validString_deviceLabel {os browser : GoString}
    (hknown : ¬ (os = str "Unknown OS" ∧ browser = str "Browser")) (hos : ValidString os)
    (hbrowser : ValidString browser) : ValidString (deviceLabel ua os browser) := by
  unfold deviceLabel
  rw [if_neg hknown]
  exact validString_append (validString_append hbrowser (validString_str _)) hos

theorem validString_formatDeviceLabel_of_recognized (hrecognized : recognized ua = true) :
    ValidString (formatDeviceLabel ua) := by
  have hclient (client : String) (hclient : str client ≠ str "Browser") :
      ValidString (deviceLabel ua (deviceOS (toLower ua)) (str client)) :=
    validString_deviceLabel (fun hboth => hclient hboth.2) (validString_deviceOS _) (validString_str _)
  unfold formatDeviceLabel
  dsimp only
  split_ifs
  · exact validString_str _
  · exact hclient "Edge" (by decide)
  · exact hclient "Opera" (by decide)
  · exact hclient "Chrome" (by decide)
  · exact hclient "Firefox" (by decide)
  · exact hclient "Safari" (by decide)
  · exact validString_str _
  · exact validString_str _
  · refine validString_deviceLabel (fun hboth => ?_) (validString_deviceOS _) (validString_str _)
    have hos := deviceOS_eq_unknown_iff.mp hboth.1
    simp_all [recognized, clientWords, hasWord]

theorem formatDeviceLabel_of_not_recognized (hne : ua ≠ []) (hnone : recognized ua = false) :
    formatDeviceLabel ua = if 30 < ua.length then ua.take 30 ++ str "..." else ua := by
  unfold recognized at hnone
  rw [Bool.or_eq_false_iff, Bool.or_eq_false_iff, ← deviceOS_eq_unknown_iff] at hnone
  obtain ⟨⟨hos, hclient⟩, hsafari⟩ := hnone
  simp only [clientWords, hasWord, List.any_cons, List.any_nil, Bool.or_eq_false_iff] at hclient
  simp_all [formatDeviceLabel, deviceLabel, hasWord]

/-- The label of a valid user agent is valid exactly if there is a word in it or the cut after 30 bytes does not split a
rune. -/
theorem validString_formatDeviceLabel_iff (hvalid : ValidString ua) :
    ValidString (formatDeviceLabel ua) ↔ recognized ua = true ∨ CutsBetween 30 ua := by
  by_cases hrecognized : recognized ua = true
  · exact iff_of_true (validString_formatDeviceLabel_of_recognized hrecognized) (Or.inl hrecognized)
  · rw [or_iff_right hrecognized, ← validString_take_iff hvalid]
    by_cases hne : ua = []
    · subst hne
      exact iff_of_true (validString_str _) validString_nil
    · have hdots : str "..." = 0x2E :: [0x2E, 0x2E] := by decide
      have hrest : ValidString [0x2E, 0x2E] := validString_str ".."
      rw [formatDeviceLabel_of_not_recognized hne (Bool.not_eq_true _ ▸ hrecognized), hdots]
      split
      · rw [validString_append_cons (by decide)]
        exact and_iff_left hrest
      · rename_i hshort
        rw [List.take_of_length_le (Nat.not_lt.mp hshort)]

end Auth
end Dmanager
