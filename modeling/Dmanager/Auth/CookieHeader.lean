import Dmanager.Auth.Session

/-!
# The session id among other cookies

A browser sends all its cookies for the site in one header, and `parseSessionCookie` looks for the session id in it.
The names and values of the others may contain `session_id` as well; what matters is that no name contains a `=`, so
that a part of the header starts with `session_id=` only if that is its name.
-/

namespace Dmanager
namespace Auth

open Go Db Lib Server

/-- The name of the session cookie. -/
def sessionIDName : GoString := str "session_id"

/-- A cookie of a request: the name has no separator and no space in it, and the value no space at its ends. -/
structure Cookie where
  name : GoString
  value : GoString
  name_equals : 0x3D ∉ name
  name_semicolon : 0x3B ∉ name
  name_space : ∀ rune ∈ spaceRunes, ¬ rune <:+: name
  value_semicolon : 0x3B ∉ value
  value_unpadded : Unpadded value

/-- `name=value`. -/
def Cookie.pair (c : Cookie) : GoString := c.name ++ 0x3D :: c.value

/-- The `Cookie` header. -/
def cookieHeader (cookies : List Cookie) : GoString := join (cookies.map Cookie.pair) (str "; ")

/-! ## One cookie -/

theorem equals_not_mem_spaceRunes : ∀ rune ∈ spaceRunes, 0x3D ∉ rune := by decide

namespace Cookie

variable (c : Cookie)

theorem semicolon_not_mem_pair : 0x3B ∉ c.pair := by
  unfold pair
  rw [List.mem_append, List.mem_cons]
  rintro (hname | hequals | hvalue)
  · exact c.name_semicolon hname
  · cases hequals
  · exact c.value_semicolon hvalue

/-- A space at the front would be in the name, and one at the end would be at the end of the value. -/
theorem unpadded_pair : Unpadded c.pair := by
  intro rune hrune
  have hequals := equals_not_mem_spaceRunes rune hrune
  refine ⟨fun hstart => ?_, fun hend => ?_⟩
  · exact c.name_space rune hrune (prefix_of_prefix_append_cons hequals hstart).isInfix
  · exact (c.value_unpadded rune hrune).2 (suffix_of_suffix_append_cons hequals hend)

/-- The text before the first `=` is the name. -/
theorem hasPrefix_pair : hasPrefix c.pair (str "session_id=") = decide (c.name = sessionIDName) := by
  have hliteral : str "session_id=" = sessionIDName ++ [0x3D] := by decide
  rw [Bool.eq_iff_iff, decide_eq_true_eq, hliteral]
  unfold hasPrefix pair
  rw [List.isPrefixOf_iff_prefix]
  constructor
  · rintro ⟨rest, hrest⟩
    rw [List.append_assoc, List.singleton_append] at hrest
    exact (eq_of_append_cons_eq (by decide) c.name_equals hrest).symm
  · rintro hname
    rw [hname, ← List.singleton_append, ← List.append_assoc]
    exact List.prefix_append _ _

theorem trimPrefix_pair (hname : c.name = sessionIDName) : trimPrefix c.pair (str "session_id=") = c.value := by
  have hstart : hasPrefix c.pair (str "session_id=") = true := by rw [hasPrefix_pair, decide_eq_true hname]
  unfold trimPrefix
  rw [if_pos hstart, pair, hname]
  rfl

end Cookie

/-! ## The headers -/

/-- The parts of the header are the cookies. -/
theorem map_trimSpace_split_cookieHeader {cookies : List Cookie} (hne : cookies ≠ []) :
    (split (cookieHeader cookies) 0x3B).map trimSpace = cookies.map Cookie.pair := by
  obtain ⟨first, rest, rfl⟩ := List.exists_cons_of_ne_nil hne
  have hsep : str "; " = 0x3B :: [0x20] := by decide
  have hrest : ∀ part ∈ rest.map Cookie.pair, 0x3B ∉ part := by
    intro part hpart
    obtain ⟨c, -, rfl⟩ := List.mem_map.mp hpart
    exact c.semicolon_not_mem_pair
  unfold cookieHeader
  rw [hsep, List.map_cons, split_join (by decide) first.semicolon_not_mem_pair hrest, List.map_cons, List.map_map,
    trimSpace_of_unpadded first.unpadded_pair, List.map_map]
  congr 1
  refine List.map_congr_left fun c _ => ?_
  show trimSpace (0x20 :: c.pair) = c.pair
  rw [trimSpace_blank_cons, trimSpace_of_unpadded c.unpadded_pair]

theorem parseSessionCookie_cookieHeader (cookies : List Cookie) :
    parseSessionCookie (cookieHeader cookies) =
      ((cookies.find? fun c => c.name = sessionIDName).map Cookie.value).getD [] := by
  by_cases hne : cookies = []
  · subst hne
    decide
  · have hcondition : (fun part => hasPrefix part (str "session_id=")) ∘ Cookie.pair =
        fun c : Cookie => decide (c.name = sessionIDName) := funext Cookie.hasPrefix_pair
    unfold parseSessionCookie
    dsimp only
    rw [map_trimSpace_split_cookieHeader hne, List.find?_map, hcondition]
    cases hfound : cookies.find? fun c => decide (c.name = sessionIDName) with
    | none => rfl
    | some c =>
        have hname := List.find?_some hfound
        exact c.trimPrefix_pair (of_decide_eq_true hname)

/-- What follows the first cookie does not matter if that is the session's. -/
theorem parseSessionCookie_pair_append {c : Cookie} (hname : c.name = sessionIDName) (rest : GoString) :
    parseSessionCookie (c.pair ++ 0x3B :: rest) = c.value := by
  have hstart : hasPrefix c.pair (str "session_id=") = true := by rw [c.hasPrefix_pair, decide_eq_true hname]
  have hsplit : split (c.pair ++ 0x3B :: rest) 0x3B = c.pair :: split rest 0x3B :=
    List.splitOn_append_cons_self_of_not_mem c.semicolon_not_mem_pair rest
  unfold parseSessionCookie
  dsimp only
  rw [hsplit, List.map_cons, trimSpace_of_unpadded c.unpadded_pair, List.find?_cons, hstart]
  exact c.trimPrefix_pair hname

/-- Hexadecimal digits. -/
def hexDigits : List UInt8 := str "0123456789abcdefABCDEF"

/-- A string of hexadecimal digits. -/
abbrev HexString := { s : GoString // ∀ c ∈ s, c ∈ hexDigits }

/-- The session cookie. -/
def sessionCookie (sessionID : HexString) : Cookie where
  name := sessionIDName
  value := sessionID
  name_equals := by decide
  name_semicolon := by decide
  name_space := by decide +kernel
  value_semicolon hmem := absurd (sessionID.property _ hmem) (by decide)
  value_unpadded := by
    have hvisible : ∀ c ∈ hexDigits, visible c = true := by decide +kernel
    exact unpadded_of_visible fun c hc => hvisible c (sessionID.property c hc)

theorem parseSessionCookie_formatSessionCookie (sessionID : HexString) (maxAge : Int) (secureCookies : GoString)
    (reqHeader : Header) :
    parseSessionCookie (formatSessionCookie sessionID maxAge secureCookies reqHeader).header = sessionID := by
  obtain ⟨rest, hrest⟩ : ∃ rest, (formatSessionCookie sessionID maxAge secureCookies reqHeader).header =
      (sessionCookie sessionID).pair ++ 0x3B :: rest := by
    have hname : str "session_id=" = sessionIDName ++ [0x3D] := by decide
    have hattributes : str "; Path=/; HttpOnly; SameSite=Lax; Max-Age=" =
        0x3B :: str " Path=/; HttpOnly; SameSite=Lax; Max-Age=" := by decide
    unfold SetCookie.header Cookie.pair
    rw [hname, hattributes]
    simp only [List.append_assoc, List.cons_append, List.nil_append]
    exact ⟨_, rfl⟩
  rw [hrest]
  exact parseSessionCookie_pair_append rfl rest

/-- From a header with any cookies the session id is the value of the first one with its name, the empty string if there
is none; and the header that sets the session cookie has the session id in it. -/
theorem parseSessionCookie_of_cookies (cookies : List Cookie) (sessionID : HexString) (maxAge : Int)
    (secureCookies : GoString) (reqHeader : Header) :
    parseSessionCookie (cookieHeader cookies) =
        ((cookies.find? fun c => c.name = sessionIDName).map Cookie.value).getD [] ∧
      parseSessionCookie (formatSessionCookie sessionID maxAge secureCookies reqHeader).header = sessionID :=
  ⟨parseSessionCookie_cookieHeader cookies,
    parseSessionCookie_formatSessionCookie sessionID maxAge secureCookies reqHeader⟩

-- the value of the first cookie and the name of the second contain the text
example :
    parseSessionCookie (str "theme=session_id=x; old_session_id=y; session_id=ab; session_id=cd") = str "ab" := by
  decide +kernel

end Auth
end Dmanager
