import Dmanager.Auth.Session

/-!
# `ExtractClientIP`

The limiter keys its second map by the address that `ExtractClientIP` reads.  Without a trusted proxy that is the
host of the remote address, whatever the client sends.  Behind one it is the first element of `X-Forwarded-For`.
A proxy appends the address it sees, so the first element is the client's own as soon as the client sends the
header; the tests and the documentation ask for that element.

* `extractClientIP_untrusted` — without a proxy the headers do not matter.
* `extractClientIP_trusted` — behind a proxy the first element decides, and the remote address if it is blank.
* `extractClientIP_steered` — two clients with one peer address that choose their keys.
-/

namespace Dmanager
namespace Go

/-! ## Host and port -/

/-- `strings.IndexByte`. -/
def indexByte (s : GoString) (c : UInt8) : Option Nat := s.findIdx? (· == c)

/-- `strings.LastIndexByte`. -/
def lastIndexByte (s : GoString) (c : UInt8) : Option Nat :=
  (indexByte s.reverse c).map fun i => s.length - 1 - i

/-- The text of a `net.AddrError`. -/
def addrError (addr : GoString) (why : String) : GoString := str "address " ++ addr ++ str ": " ++ str why

/-- What `net.SplitHostPort` makes of a host, when no other bracket stands from `j` and from `k` on. -/
def splitHostPortAt (hostport host : GoString) (i j k : Nat) : Except GoString (GoString × GoString) :=
  if (indexByte (hostport.drop j) 0x5B).isSome then .error (addrError hostport "unexpected '[' in address")
  else if (indexByte (hostport.drop k) 0x5D).isSome then .error (addrError hostport "unexpected ']' in address")
  else .ok (host, hostport.drop (i + 1))

/-- `net.SplitHostPort`; `i` is the last colon. -/
def splitHostPort (hostport : GoString) : Except GoString (GoString × GoString) :=
  match lastIndexByte hostport 0x3A with
  | none => .error (addrError hostport "missing port in address")
  | some i =>
    if hostport.head? = some 0x5B then
      match indexByte hostport 0x5D with
      | none => .error (addrError hostport "missing ']' in address")
      | some close =>
        if close + 1 = i then splitHostPortAt hostport ((hostport.take close).drop 1) i 1 (close + 1)
        else if hostport[close + 1]? = some 0x3A then .error (addrError hostport "too many colons in address")
        else .error (addrError hostport "missing port in address")
    else if (indexByte (hostport.take i) 0x3A).isSome then
      .error (addrError hostport "too many colons in address")
    else splitHostPortAt hostport (hostport.take i) i 0 0

example : splitHostPort (str "[2001:db8::1]:443") = .ok (str "2001:db8::1", str "443") := by decide +kernel

end Go

namespace Auth

open Go

/-! ## The address of the client -/

def xForwardedFor : GoString := str "X-Forwarded-For"

/-- The end of `ExtractClientIP`, which looks at the remote address alone. -/
def remoteHost (remoteAddr : GoString) : GoString :=
  if remoteAddr = [] then []
  else
    match splitHostPort remoteAddr with
    | .ok (host, _) => host
    | .error _ => remoteAddr

/-- `ExtractClientIP`; 0x2C is the comma. -/
def extractClientIP (reqHeader : Header) (remoteAddr : GoString) (trustedProxy : Bool) : GoString :=
  match trustedProxy, reqHeader with
  | true, some get =>
    let xff := get xForwardedFor
    if xff ≠ [] then
      match split xff 0x2C with
      | [] => remoteHost remoteAddr
      | first :: _ => if trimSpace first ≠ [] then trimSpace first else remoteHost remoteAddr
    else remoteHost remoteAddr
  | _, _ => remoteHost remoteAddr

/-- The list that reaches the server: the client's own, with the peer address that a proxy sees at its end. -/
def forwarded (trustedProxy : Bool) (p : GoString) (x : Option GoString) : Option GoString :=
  if trustedProxy then
    match x with
    | some list => some (list ++ str ", " ++ p)
    | none => some p
  else x

/-- A header with this `X-Forwarded-For`, if any. -/
def headerWith (others : GoString → GoString) (value : Option GoString) : Header :=
  some (Function.update others xForwardedFor (value.getD []))

/-- The first element of a list, without the blanks around it. -/
def firstElement (list : GoString) : GoString := trimSpace ((split list 0x2C).headD [])

/-- The address that counts behind a proxy: the first that the client names, or the one that the proxy sees. -/
def namedAddress (p : GoString) (x : Option GoString) : GoString := firstElement (x.getD p)

/-- What a proxy appends does not change the first element. -/
theorem firstElement_append (list p : GoString) : firstElement (list ++ str ", " ++ p) = firstElement list := by
  have hcomma : list ++ str ", " ++ p = list ++ 0x2C :: (0x20 :: p) := by
    rw [List.append_assoc]
    exact congrArg (list ++ ·) rfl
  have hsplit : split (list ++ str ", " ++ p) 0x2C = split list 0x2C ++ split (0x20 :: p) 0x2C := by
    rw [hcomma]
    exact List.splitOn_append_cons_of_beq list _ (beq_self_eq_true _)
  obtain ⟨first, rest, hfirst⟩ := List.exists_cons_of_ne_nil (List.splitOn_ne_nil (0x2C : UInt8) list)
  have hfirst : split list 0x2C = first :: rest := hfirst
  unfold firstElement
  rw [hsplit, hfirst]
  rfl

/-- Behind a proxy the first element of the list is the address, and the remote address if that element is blank. -/
theorem extractClientIP_of_list (get : GoString → GoString) (remoteAddr : GoString) :
    extractClientIP (some get) remoteAddr true =
      if firstElement (get xForwardedFor) ≠ [] then firstElement (get xForwardedFor) else remoteHost remoteAddr := by
  unfold extractClientIP firstElement
  by_cases hlist : get xForwardedFor = []
  · have hblank : trimSpace ((split [] 0x2C).headD []) = [] := by decide
    simp only [hlist, hblank, ne_eq, not_true_eq_false, if_false]
  · obtain ⟨first, rest, hfirst⟩ :=
      List.exists_cons_of_ne_nil (List.splitOn_ne_nil (0x2C : UInt8) (get xForwardedFor))
    have hsplit : split (get xForwardedFor) 0x2C = first :: rest := hfirst
    simp only [hsplit, hlist, ne_eq, not_false_eq_true, if_true, List.headD_cons]

/-- Without a trusted proxy no header matters. -/
theorem extractClientIP_untrusted (reqHeader : Header) (remoteAddr : GoString) :
    extractClientIP reqHeader remoteAddr false = remoteHost remoteAddr := by
  cases reqHeader <;> rfl

/-- Behind a proxy the address is the one that the client or else the proxy names first. -/
theorem extractClientIP_trusted (others : GoString → GoString) (remoteAddr p : GoString) (x : Option GoString) :
    extractClientIP (headerWith others (forwarded true p x)) remoteAddr true =
      if namedAddress p x ≠ [] then namedAddress p x else remoteHost remoteAddr := by
  have hlist : firstElement ((forwarded true p x).getD []) = namedAddress p x := by
    cases x with
    | none => rfl
    | some list => exact firstElement_append list p
  unfold headerWith
  rw [extractClientIP_of_list, Function.update_self, hlist]

/-- For every remote address, peer address and other headers: without a trusted proxy all values that a client may
send give the same result, the host of the remote address.  Behind a trusted proxy the result is the first element
of the list that the client sends, the peer address if it sends none, and the host of the remote address if that
element is blank; so two values with the same first element give the same result. -/
theorem extractClientIP_steering (others : GoString → GoString) (remoteAddr p : GoString)
    (x₁ x₂ : Option GoString) :
    extractClientIP (headerWith others (forwarded false p x₁)) remoteAddr false =
        extractClientIP (headerWith others (forwarded false p x₂)) remoteAddr false ∧
      (extractClientIP (headerWith others (forwarded true p x₁)) remoteAddr true =
        if namedAddress p x₁ ≠ [] then namedAddress p x₁ else remoteHost remoteAddr) ∧
      (namedAddress p x₁ = namedAddress p x₂ →
        extractClientIP (headerWith others (forwarded true p x₁)) remoteAddr true =
          extractClientIP (headerWith others (forwarded true p x₂)) remoteAddr true) := by
  refine ⟨?_, extractClientIP_trusted others remoteAddr p x₁, fun hsame => ?_⟩
  · rw [extractClientIP_untrusted, extractClientIP_untrusted]
  · rw [extractClientIP_trusted, extractClientIP_trusted, hsame]

theorem extractClientIP_steering_sameFirst :
    extractClientIP (headerWith (fun _ => []) (forwarded true (str "198.51.100.7") (some (str " 1.1.1.1 "))))
        (str "10.0.0.1:8080") true =
      extractClientIP (headerWith (fun _ => []) (forwarded true (str "198.51.100.7") (some (str "1.1.1.1, 3.3.3.3"))))
        (str "10.0.0.1:8080") true :=
  (extractClientIP_steering (fun _ => []) (str "10.0.0.1:8080") (str "198.51.100.7") (some (str " 1.1.1.1 "))
    (some (str "1.1.1.1, 3.3.3.3"))).2.2 (by decide +kernel)

/-- One client, behind one proxy, picks the address that it is counted under. -/
theorem extractClientIP_steered :
    let header (x : Option GoString) := headerWith (fun _ => []) (forwarded true (str "198.51.100.7") x)
    extractClientIP (header (some (str "1.1.1.1"))) (str "10.0.0.1:8080") true = str "1.1.1.1" ∧
      extractClientIP (header (some (str "2.2.2.2"))) (str "10.0.0.1:8080") true = str "2.2.2.2" ∧
      extractClientIP (header none) (str "10.0.0.1:8080") true = str "198.51.100.7" ∧
      extractClientIP (header (some (str "1.1.1.1"))) (str "10.0.0.1:8080") true ≠
        extractClientIP (header (some (str "2.2.2.2"))) (str "10.0.0.1:8080") true := by
  decide +kernel

end Auth
end Dmanager
