import Dmanager.Lib.TwinRuns

/-!
# One program, alone on a state

A program (`Dmanager.Lib.Program`) runs to its end and nothing else touches the state meanwhile.  A call may have
several answers, and may leave several states behind, so how a program ends is a relation.

* `MayEnd` — the ends of a program on a state.
* `MayEnd.invariant` — what every call of the text preserves holds at the end.
* `MayEnd.of_serve` — what a run in which every call has one reply ends like (`Dmanager.Lib.TwinRuns`).
* `Program.Ensures` — the weakest condition on the start with which every end meets a postcondition, read along the
  text; `MayEnd.ensured` is its soundness.
* `MayEnd.transfer` — the unwinding rule for two states: if a relation between them lets one of them repeat every
  call that the text makes on the other, with the same answer, then the program can end alike on both.
-/

namespace Dmanager
namespace Lib

variable {σ : Type} {Op : Type} {Ans : Op → Type} {ε α : Type}

/-- The program, started on the state `s` after the calls `past`, may end so. -/
inductive MayEnd (step : σ → Event Op Ans → σ → Prop) :
    List (Event Op Ans) → σ → Program Op Ans ε α → Served σ Op Ans ε α → Prop
  | done (past : List (Event Op Ans)) (s : σ) (a : α) : MayEnd step past s (.done a) ⟨s, past, .ok a⟩
  | fail (past : List (Event Op Ans)) (s : σ) (e : ε) : MayEnd step past s (.fail e) ⟨s, past, .error e⟩
  | call {past : List (Event Op Ans)} {s mid : σ} {op : Op} {next : Ans op → Program Op Ans ε α} {answer : Ans op}
      {r : Served σ Op Ans ε α} (hstep : step s ⟨op, answer⟩ mid)
      (hrest : MayEnd step (⟨op, answer⟩ :: past) mid (next answer) r) : MayEnd step past s (.call op next) r

namespace MayEnd

variable {step : σ → Event Op Ans → σ → Prop} {past : List (Event Op Ans)} {s t : σ} {p : Program Op Ans ε α}
variable {P : List (Event Op Ans) → Op → Prop} {Q : List (Event Op Ans) → α → Prop}
variable {E : List (Event Op Ans) → ε → Prop} {r : Served σ Op Ans ε α}

@[simp] theorem done_iff {a : α} : MayEnd step past s (.done a : Program Op Ans ε α) r ↔ r = ⟨s, past, .ok a⟩ := by
  constructor
  · rintro ⟨⟩
    rfl
  · rintro rfl
    exact .done past s a

@[simp] theorem fail_iff {e : ε} :
    MayEnd step past s (.fail e : Program Op Ans ε α) r ↔ r = ⟨s, past, .error e⟩ := by
  constructor
  · rintro ⟨⟩
    rfl
  · rintro rfl
    exact .fail past s e

@[simp] theorem perform_bind_iff {β : Type} {op : Op} {k : Ans op → Program Op Ans ε β}
    {r : Served σ Op Ans ε β} :
    MayEnd step past s (Program.perform op >>= k) r ↔
      ∃ answer mid, step s ⟨op, answer⟩ mid ∧ MayEnd step (⟨op, answer⟩ :: past) mid (k answer) r := by
  constructor
  · rintro ⟨⟩
    exact ⟨_, _, ‹_›, ‹_›⟩
  · rintro ⟨answer, mid, hstep, hrest⟩
    exact .call hstep hrest

/-- What every call of the text preserves holds at the end, and so does what the text says about its end. -/
theorem invariant (Inv : List (Event Op Ans) → σ → Prop)
    (hstep : ∀ past s event s', P past event.op → Inv past s → step s event s' → Inv (event :: past) s')
    (hrun : MayEnd step past s p r) (htext : p.AlongOr P Q E past) (hinit : Inv past s) :
    Inv r.past r.shared ∧ (∀ a, r.result = .ok a → Q r.past a) ∧ ∀ e, r.result = .error e → E r.past e := by
  induction hrun with
  | done past s a =>
      refine ⟨hinit, fun b hb => ?_, nofun⟩
      cases hb
      exact htext
  | fail past s e =>
      refine ⟨hinit, nofun, fun b hb => ?_⟩
      cases hb
      exact htext
  | call hcall _ ih => exact ih (htext.2 _) (hstep _ _ _ _ htext.1 hinit hcall)

/-- A run on one state is a run on the other, with the same calls, the same answers and the same end. -/
theorem transfer (R : List (Event Op Ans) → σ → σ → Prop)
    (hstep : ∀ past s t event s', P past event.op → R past s t → step s event s' →
      ∃ t', step t event t' ∧ R (event :: past) s' t')
    (hrun : MayEnd step past s p r) (htext : p.AlongOr P Q E past) (hinit : R past s t) :
    ∃ t', MayEnd step past t p ⟨t', r.past, r.result⟩ ∧ R r.past r.shared t' := by
  induction hrun generalizing t with
  | done past s a => exact ⟨t, .done past t a, hinit⟩
  | fail past s e => exact ⟨t, .fail past t e, hinit⟩
  | call hcall _ ih =>
      obtain ⟨mid, hother, hmid⟩ := hstep _ _ _ _ _ htext.1 hinit hcall
      obtain ⟨t', hrest, hend⟩ := ih (htext.2 _) hmid
      exact ⟨t', .call hother hrest, hend⟩

/-- A run whose replies are steps. -/
theorem of_serve {reply : List (Event Op Ans) → σ → (op : Op) → Option (Ans op × σ)}
    (hreply : ∀ past s op answer s', reply past s op = some (answer, s') → step s ⟨op, answer⟩ s')
    (hserve : p.serve reply past s = some r) : MayEnd step past s p r := by
  induction p generalizing past s with
  | done a =>
      cases hserve
      exact .done past s a
  | fail e =>
      cases hserve
      exact .fail past s e
  | call op next ih =>
      obtain ⟨answer, s', hanswer, hrest⟩ := Program.serve_call_eq_some_iff.mp hserve
      exact .call (hreply past s op answer s' hanswer) (ih answer hrest)

end MayEnd

/-! ## Postconditions -/

namespace Program

/-- Every end of the program, started on `s` after the calls `past`, meets `Q` when it returns and `E` when it
fails. -/
def Ensures (step : σ → Event Op Ans → σ → Prop) (Q : List (Event Op Ans) → σ → α → Prop)
    (E : List (Event Op Ans) → σ → ε → Prop) : List (Event Op Ans) → σ → Program Op Ans ε α → Prop
  | past, s, .done a => Q past s a
  | past, s, .fail e => E past s e
  | past, s, .call op next =>
    ∀ answer mid, step s ⟨op, answer⟩ mid → Ensures step Q E (⟨op, answer⟩ :: past) mid (next answer)

section Ensures

variable {step : σ → Event Op Ans → σ → Prop} {past : List (Event Op Ans)} {s : σ} {p : Program Op Ans ε α}
variable {Q Q' : List (Event Op Ans) → σ → α → Prop} {E E' : List (Event Op Ans) → σ → ε → Prop}

@[simp] theorem ensures_done {a : α} : (.done a : Program Op Ans ε α).Ensures step Q E past s ↔ Q past s a := Iff.rfl

@[simp] theorem ensures_fail {e : ε} : (.fail e : Program Op Ans ε α).Ensures step Q E past s ↔ E past s e := Iff.rfl

theorem ensures_perform_bind {β : Type} {op : Op} {k : Ans op → Program Op Ans ε β}
    {R : List (Event Op Ans) → σ → β → Prop} :
    (perform op >>= k).Ensures step R E past s ↔
      ∀ answer mid, step s ⟨op, answer⟩ mid → (k answer).Ensures step R E (⟨op, answer⟩ :: past) mid :=
  Iff.rfl

theorem ensures_bind {β : Type} {k : α → Program Op Ans ε β} {R : List (Event Op Ans) → σ → β → Prop} :
    (p >>= k).Ensures step R E past s ↔
      p.Ensures step (fun past s a => (k a).Ensures step R E past s) E past s := by
  induction p generalizing past s with
  | done a => exact Iff.rfl
  | fail e => exact Iff.rfl
  | call op next ih => exact forall_congr' fun answer => forall_congr' fun mid => imp_congr_right fun _ => ih answer

/-- Postconditions may be relaxed. -/
theorem Ensures.imp (hp : p.Ensures step Q E past s) (hQ : ∀ past s a, Q past s a → Q' past s a)
    (hE : ∀ past s e, E past s e → E' past s e) : p.Ensures step Q' E' past s := by
  induction p generalizing past s with
  | done a => exact hQ past s a hp
  | fail e => exact hE past s e hp
  | call op next ih => exact fun answer mid hstep => ih answer (hp answer mid hstep)

/-- Fewer steps ensure no less. -/
theorem Ensures.of_step {step' : σ → Event Op Ans → σ → Prop} (hp : p.Ensures step Q E past s)
    (hsub : ∀ s event next, step' s event next → step s event next) : p.Ensures step' Q E past s := by
  induction p generalizing past s with
  | done a => exact hp
  | fail e => exact hp
  | call op next ih => exact fun answer mid hstep => ih answer (hp answer mid (hsub _ _ _ hstep))

/-- A postcondition may count on the calls made before. -/
theorem Ensures.with_past (hp : p.Ensures step Q E past s) :
    p.Ensures step (fun later s a => past <:+ later ∧ Q later s a) (fun later s e => past <:+ later ∧ E later s e)
      past s := by
  induction p generalizing past s with
  | done a => exact ⟨List.suffix_rfl, hp⟩
  | fail e => exact ⟨List.suffix_rfl, hp⟩
  | call op next ih =>
      intro answer mid hstep
      have hcons : past <:+ ⟨op, answer⟩ :: past := List.suffix_cons _ _
      exact (ih answer (hp answer mid hstep)).imp (fun _ _ _ h => ⟨hcons.trans h.1, h.2⟩)
        fun _ _ _ h => ⟨hcons.trans h.1, h.2⟩

/-- What every call of the text preserves, and what the text says about its end. -/
theorem AlongOr.ensures {P : List (Event Op Ans) → Op → Prop} {Qt : List (Event Op Ans) → α → Prop}
    {Et : List (Event Op Ans) → ε → Prop} (htext : p.AlongOr P Qt Et past) {Inv : σ → Prop}
    (hstep : ∀ past s event s', P past event.op → Inv s → step s event s' → Inv s') (hinit : Inv s) :
    p.Ensures step (fun past s a => Inv s ∧ Qt past a) (fun past s e => Inv s ∧ Et past e) past s := by
  induction p generalizing past s with
  | done a => exact ⟨hinit, htext⟩
  | fail e => exact ⟨hinit, htext⟩
  | call op next ih =>
      intro answer mid hcall
      exact ih answer (htext.2 answer) (hstep past s ⟨op, answer⟩ mid htext.1 hinit hcall)

end Ensures

end Program

/-- How a program ends meets its postconditions. -/
theorem MayEnd.ensured {step : σ → Event Op Ans → σ → Prop} {past : List (Event Op Ans)} {s : σ}
    {p : Program Op Ans ε α} {Q : List (Event Op Ans) → σ → α → Prop} {E : List (Event Op Ans) → σ → ε → Prop}
    {r : Served σ Op Ans ε α} (hrun : MayEnd step past s p r) (hp : p.Ensures step Q E past s) :
    (∀ a, r.result = .ok a → Q r.past r.shared a) ∧ ∀ e, r.result = .error e → E r.past r.shared e := by
  induction hrun with
  | done past s a =>
      refine ⟨fun b hb => ?_, nofun⟩
      cases hb
      exact hp
  | fail past s e =>
      refine ⟨nofun, fun b hb => ?_⟩
      cases hb
      exact hp
  | call hcall _ ih => exact ih (hp _ _ hcall)

end Lib
end Dmanager
