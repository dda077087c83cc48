import Dmanager.Lib.Interleaving

/-!
# Two runs side by side

Whether what one client does can be noticed by another is a question about two runs: the same visits, one run
with some more that are to stay hidden.  The two runs are taken together, and a visit is a program
(`Dmanager.Lib.Program`) that runs to its end on the state of the server.

* `serve` — the run of one program on a shared state, up to its end; `serve_invariant` is its invariant rule.
* `AlongBoth` — a condition on the calls that a program makes in both runs, for as long as it gets the same
  answers.  `serve_lockstep` takes a program through both runs until they part.
* `Twins`, `twinStep` — the states of the two runs, and the outcomes of the visits that both have seen.
* `twins_agree` — the unwinding rule: a relation between the states that common visits and hidden visits keep
  makes all common visits end alike.
-/

namespace Dmanager
namespace Lib

/-! ## One program, run to its end -/

/-- What a program leaves behind: the shared state, its calls, the latest one first, and how it ended. -/
structure Served (σ : Type) (Op : Type) (Ans : Op → Type) (ε α : Type) where
  shared : σ
  past : List (Event Op Ans)
  result : Except ε α

namespace Program

variable {σ : Type} {Op : Type} {Ans : Op → Type} {ε α : Type}

/-- Run a program to its end.  `reply past s op` is the answer to a call and the state after it; it is `none`
when the call is not answered. -/
def serve (reply : List (Event Op Ans) → σ → (op : Op) → Option (Ans op × σ)) :
    List (Event Op Ans) → σ → Program Op Ans ε α → Option (Served σ Op Ans ε α)
  | past, s, .done a => some ⟨s, past, .ok a⟩
  | past, s, .fail e => some ⟨s, past, .error e⟩
  | past, s, .call op next =>
      (reply past s op).bind fun r => serve reply (⟨op, r.1⟩ :: past) r.2 (next r.1)

variable {reply : List (Event Op Ans) → σ → (op : Op) → Option (Ans op × σ)}
variable {past : List (Event Op Ans)} {s t : σ} {p : Program Op Ans ε α}
variable {P : List (Event Op Ans) → Op → Prop} {Q : List (Event Op Ans) → α → Prop}
variable {E : List (Event Op Ans) → ε → Prop}

theorem serve_call_eq_some_iff {op : Op} {next : Ans op → Program Op Ans ε α} {r : Served σ Op Ans ε α} :
    (Program.call op next).serve reply past s = some r ↔
      ∃ answer s', reply past s op = some (answer, s') ∧
        (next answer).serve reply (⟨op, answer⟩ :: past) s' = some r := by
  simp only [serve, Option.bind_eq_some_iff, Prod.exists]

/-- What every call of the text preserves holds at the end, and so does what the text says about its end. -/
theorem serve_invariant (Inv : List (Event Op Ans) → σ → Prop)
    (hstep : ∀ past s op answer s', P past op → Inv past s → reply past s op = some (answer, s') →
      Inv (⟨op, answer⟩ :: past) s')
    (htext : p.AlongOr P Q E past) (hinit : Inv past s) {r : Served σ Op Ans ε α}
    (hserve : p.serve reply past s = some r) :
    Inv r.past r.shared ∧ (∀ a, r.result = .ok a → Q r.past a) ∧ ∀ e, r.result = .error e → E r.past e := by
  induction p generalizing past s with
  | done a =>
      cases hserve
      refine ⟨hinit, fun b hb => ?_, nofun⟩
      cases hb
      exact htext
  | fail e =>
      cases hserve
      refine ⟨hinit, nofun, fun b hb => ?_⟩
      cases hb
      exact htext
  | call op next ih =>
      obtain ⟨answer, s', hreply, hrest⟩ := serve_call_eq_some_iff.mp hserve
      exact ih answer (htext.2 answer) (hstep past s op answer s' htext.1 hinit hreply) hrest

/-- Every call that the program makes in both runs meets `C`, as long as both runs give it the same answers. -/
def AlongBoth (reply : List (Event Op Ans) → σ → (op : Op) → Option (Ans op × σ))
    (C : List (Event Op Ans) → σ → σ → Op → Prop) : List (Event Op Ans) → σ → σ → Program Op Ans ε α → Prop
  | _, _, _, .done _ => True
  | _, _, _, .fail _ => True
  | past, s, t, .call op next =>
      C past s t op ∧ ∀ answer s' t', reply past s op = some (answer, s') → reply past t op = some (answer, t') →
        AlongBoth reply C (⟨op, answer⟩ :: past) s' t' (next answer)

variable {C : List (Event Op Ans) → σ → σ → Op → Prop}

/-- A program in two runs.  At every call the runs get the same answer and stay related by `R`, or they part,
and then whatever is left of the program ends in `D` in the two of them. -/
theorem serve_lockstep (R : List (Event Op Ans) → σ → σ → Prop) (D : σ → Except ε α → σ → Except ε α → Prop)
    (hend : ∀ past s t result, R past s t → D s result t result)
    (hcall : ∀ past s t op (next : Ans op → Program Op Ans ε α) left s' right t', R past s t → C past s t op →
      (Program.call op next).AlongOr P Q E past →
      reply past s op = some (left, s') → reply past t op = some (right, t') →
        (left = right ∧ R (⟨op, left⟩ :: past) s' t') ∨
          ∀ r r', (next left).serve reply (⟨op, left⟩ :: past) s' = some r →
            (next right).serve reply (⟨op, right⟩ :: past) t' = some r' →
            D r.shared r.result r'.shared r'.result)
    (htext : p.AlongOr P Q E past) (hboth : p.AlongBoth reply C past s t) (hinit : R past s t)
    {r r' : Served σ Op Ans ε α} (hleft : p.serve reply past s = some r)
    (hright : p.serve reply past t = some r') : D r.shared r.result r'.shared r'.result := by
  induction p generalizing past s t with
  | done a =>
      cases hleft
      cases hright
      exact hend past s t _ hinit
  | fail e =>
      cases hleft
      cases hright
      exact hend past s t _ hinit
  | call op next ih =>
      obtain ⟨left, s', hreply, hrest⟩ := serve_call_eq_some_iff.mp hleft
      obtain ⟨right, t', hreply', hrest'⟩ := serve_call_eq_some_iff.mp hright
      rcases hcall past s t op next left s' right t' hinit hboth.1 htext hreply hreply' with ⟨hsame, hnext⟩ | hparted
      · subst hsame
        exact ih left (htext.2 left) (hboth.2 left s' t' hreply hreply') hnext hrest hrest'
      · exact hparted r r' hrest hrest'

end Program

/-! ## Two runs -/

/-- A turn of the two runs: a visit of both, or one that only the left or only the right run has. -/
inductive Turn (ν : Type) where
  | both (v : ν)
  | left (v : ν)
  | right (v : ν)

/-- The states of the two runs, and the visits of both with what they ended with in each. -/
structure Twins (σ ν ο : Type) where
  left : σ
  right : σ
  seen : List (ν × ο × ο)

section Twins

variable {σ ν ο : Type} {visit : σ → ν → Option (σ × ο)} {hidden : ν → ο → Bool}

/-- One turn.  What only one run has is hidden. -/
def twinStep (visit : σ → ν → Option (σ × ο)) (hidden : ν → ο → Bool) (c : Twins σ ν ο) :
    Turn ν → Option (Twins σ ν ο)
  | .both v =>
      (visit c.left v).bind fun r => (visit c.right v).map fun r' => ⟨r.1, r'.1, (v, r.2, r'.2) :: c.seen⟩
  | .left v => (visit c.left v).bind fun r => if hidden v r.2 then some { c with left := r.1 } else none
  | .right v => (visit c.right v).bind fun r => if hidden v r.2 then some { c with right := r.1 } else none

/-- A condition on the visits of both runs. -/
def Turn.Common (guard : σ → σ → ν → Prop) (c : Twins σ ν ο) : Turn ν → Prop
  | .both v => guard c.left c.right v
  | _ => True

/-- The unwinding rule: if the states of the two runs stay related, every visit of both ends alike. -/
theorem twins_agree (R : σ → σ → Prop) (Same : ν → ο → ο → Prop) {guard : σ → σ → ν → Prop}
    (hboth : ∀ s t v r r', R s t → guard s t v → visit s v = some r → visit t v = some r' →
      R r.1 r'.1 ∧ Same v r.2 r'.2)
    (hleft : ∀ s t v r, R s t → visit s v = some r → hidden v r.2 = true → R r.1 t)
    (hright : ∀ s t v r, R s t → visit t v = some r → hidden v r.2 = true → R s r.1)
    {s t : σ} {turns : List (Turn ν)} {final : Twins σ ν ο}
    (hguarded : Guarded (twinStep visit hidden) (Turn.Common guard) ⟨s, t, []⟩ turns)
    (hrun : exec (twinStep visit hidden) ⟨s, t, []⟩ turns = some final) (hinit : R s t) :
    ∀ entry ∈ final.seen, Same entry.1 entry.2.1 entry.2.2 := by
  have hfinal : R final.left final.right ∧ ∀ entry ∈ final.seen, Same entry.1 entry.2.1 entry.2.2 := by
    refine exec_invariant_of_guarded
      (fun c => R c.left c.right ∧ ∀ entry ∈ c.seen, Same entry.1 entry.2.1 entry.2.2) ?_ hguarded hrun
      ⟨hinit, nofun⟩
    intro c turn next hinv hguard hstep
    obtain ⟨hrel, hseen⟩ := hinv
    cases turn with
    | both v =>
        simp only [twinStep, Option.bind_eq_some_iff, Option.map_eq_some_iff] at hstep
        obtain ⟨r, hr, r', hr', rfl⟩ := hstep
        obtain ⟨hnext, hsame⟩ := hboth _ _ v r r' hrel hguard hr hr'
        exact ⟨hnext, List.forall_mem_cons.mpr ⟨hsame, hseen⟩⟩
    | left v =>
        simp only [twinStep, Option.bind_eq_some_iff, Option.ite_none_right_eq_some, Option.some.injEq] at hstep
        obtain ⟨r, hr, hhidden, rfl⟩ := hstep
        exact ⟨hleft _ _ v r hrel hr hhidden, hseen⟩
    | right v =>
        simp only [twinStep, Option.bind_eq_some_iff, Option.ite_none_right_eq_some, Option.some.injEq] at hstep
        obtain ⟨r, hr, hhidden, rfl⟩ := hstep
        exact ⟨hright _ _ v r hrel hr hhidden, hseen⟩
  exact hfinal.2

end Twins

end Lib
end Dmanager
