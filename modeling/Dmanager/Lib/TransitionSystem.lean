import Mathlib.Tactic

/-!
# Runs of guarded transition functions

A concurrent program is modelled by one function `step : σ → ι → Option σ`: the state before, the label
of the atomic step that some party takes, and the state after it (`none` when that party cannot take the
step).  An interleaving of any number of parties is then just a list of labels, and `exec` runs it.

* `exec` — the run of a list of labels, defined when every step of it is enabled.
* `exec_invariant` — what every enabled step preserves holds after every run; `exec_invariant_of_rest` is
  the same for what also depends on the steps to come.
* `Reaches` — some run of allowed steps leads from one state to another; what can still happen.
* `Guarded` / `exec_invariant_of_guarded` — the same for the runs whose steps all meet a condition on the
  state just before them; `guarded_congr` and `guarded_congr_of_exec` exchange one such condition for
  another, and `forall_reached_iff_guarded` turns a property of all states of a run into one, as
  `forall_later_iff_guarded` does for a preorder between the states of a run.

The second half is about machines that answer every input: `finalState` and `outputs` are the state after
a run and the list of its answers, `finalState_invariant` is the invariant rule, and
`outputs_eq_of_simulation` derives equal answers from a simulation relation kept by every step.
-/

namespace Dmanager
namespace Lib

section Exec

variable {σ ι : Type*} {step : σ → ι → Option σ}

/-- Run a list of labels; `none` as soon as one of them is not enabled. -/
def exec (step : σ → ι → Option σ) : σ → List ι → Option σ
  | s, [] => some s
  | s, label :: rest =>
      match step s label with
      | none => none
      | some next => exec step next rest

@[simp] theorem exec_nil (s : σ) : exec step s [] = some s := rfl

theorem exec_cons_eq_some_iff {s final : σ} {label : ι} {rest : List ι} :
    exec step s (label :: rest) = some final ↔
      ∃ next, step s label = some next ∧ exec step next rest = some final := by
  cases hstep : step s label with
  | none => simp [exec, hstep]
  | some next => simp [exec, hstep]

/-- A run, and one step after it. -/
theorem exec_append_singleton {s mid : σ} {labels : List ι} {label : ι}
    (hrun : exec step s labels = some mid) : exec step s (labels ++ [label]) = step mid label := by
  induction labels generalizing s with
  | nil =>
      cases hrun
      simp only [List.nil_append, exec]
      cases step mid label with
      | none => rfl
      | some next => rfl
  | cons first rest ih =>
      obtain ⟨next, hnext, hrest⟩ := exec_cons_eq_some_iff.mp hrun
      simp only [List.cons_append, exec, hnext]
      exact ih hrest

/-- What every enabled step preserves holds after every run. -/
theorem exec_invariant (Inv : σ → Prop)
    (hstep : ∀ s label next, Inv s → step s label = some next → Inv next)
    {s final : σ} {labels : List ι} (hrun : exec step s labels = some final) (hinit : Inv s) :
    Inv final := by
  induction labels generalizing s with
  | nil =>
      cases hrun
      exact hinit
  | cons label rest ih =>
      obtain ⟨next, hnext, hrest⟩ := exec_cons_eq_some_iff.mp hrun
      exact ih hrest (hstep s label next hinit hnext)

/-- `final` is reached from `s` by steps that are all allowed. -/
def Reaches (step : σ → ι → Option σ) (allowed : ι → Prop) : σ → σ → Prop :=
  Relation.ReflTransGen fun s next => ∃ label, allowed label ∧ step s label = some next

theorem Reaches.head {allowed : ι → Prop} {s next final : σ} {label : ι} (hnext : step s label = some next)
    (hallowed : allowed label) (hrest : Reaches step allowed next final) : Reaches step allowed s final :=
  Relation.ReflTransGen.head ⟨label, hallowed, hnext⟩ hrest

/-- Allowing more steps loses nothing. -/
theorem Reaches.mono {allowed allowed' : ι → Prop} (himp : ∀ label, allowed label → allowed' label) {s final : σ}
    (hreaches : Reaches step allowed s final) : Reaches step allowed' s final :=
  hreaches.lift id fun _ _ ⟨label, hallowed, hnext⟩ => ⟨label, himp label hallowed, hnext⟩

/-- What every enabled step preserves holds of every state that is reached. -/
theorem Reaches.invariant (Inv : σ → Prop)
    (hstep : ∀ s label next, Inv s → step s label = some next → Inv next) {allowed : ι → Prop} {s final : σ}
    (hreaches : Reaches step allowed s final) (hinit : Inv s) : Inv final := by
  induction hreaches with
  | refl => exact hinit
  | tail _ hlast ih =>
      obtain ⟨label, -, hnext⟩ := hlast
      exact hstep _ label _ ih hnext

/-- The invariant rule for an invariant that may depend on the steps that are still to come. -/
theorem exec_invariant_of_rest (Inv : List ι → σ → Prop)
    (hstep : ∀ s label rest next, Inv (label :: rest) s → step s label = some next → Inv rest next)
    {s final : σ} {labels : List ι} (hrun : exec step s labels = some final) (hinit : Inv labels s) :
    Inv [] final := by
  induction labels generalizing s with
  | nil =>
      cases hrun
      exact hinit
  | cons label rest ih =>
      obtain ⟨next, hnext, hrest⟩ := exec_cons_eq_some_iff.mp hrun
      exact ih hrest (hstep s label rest next hinit hnext)

/-- Every step of the run meets `guard` in the state it is taken from. -/
def Guarded (step : σ → ι → Option σ) (guard : σ → ι → Prop) : σ → List ι → Prop
  | _, [] => True
  | s, label :: rest =>
      guard s label ∧ ∀ next, step s label = some next → Guarded step guard next rest

/-- Whether the steps of a run meet a guard is decided by taking them. -/
instance decidableGuarded {guard : σ → ι → Prop} [∀ s label, Decidable (guard s label)] :
    ∀ (labels : List ι) (s : σ), Decidable (Guarded step guard s labels)
  | [], _ => isTrue trivial
  | label :: rest, s =>
      match hstep : step s label with
      | none => decidable_of_iff (guard s label) (by simp [Guarded, hstep])
      | some next =>
          have : Decidable (Guarded step guard next rest) := decidableGuarded rest next
          decidable_of_iff (guard s label ∧ Guarded step guard next rest) (by simp [Guarded, hstep])

/-- A run that meets two guards meets both at every step. -/
theorem Guarded.and {guard guard' : σ → ι → Prop} {s : σ} {labels : List ι}
    (hguarded : Guarded step guard s labels) (hguarded' : Guarded step guard' s labels) :
    Guarded step (fun s label => guard s label ∧ guard' s label) s labels := by
  induction labels generalizing s with
  | nil => trivial
  | cons label rest ih =>
      exact ⟨⟨hguarded.1, hguarded'.1⟩, fun next hnext => ih (hguarded.2 next hnext) (hguarded'.2 next hnext)⟩

theorem Guarded.imp {guard guard' : σ → ι → Prop} (himp : ∀ s label, guard s label → guard' s label) {s : σ}
    {labels : List ι} (hguarded : Guarded step guard s labels) : Guarded step guard' s labels := by
  induction labels generalizing s with
  | nil => trivial
  | cons label rest ih => exact ⟨himp s label hguarded.1, fun next hnext => ih (hguarded.2 next hnext)⟩

/-- Steps that meet the guard wherever they are taken from. -/
theorem guarded_of_forall {guard : σ → ι → Prop} {labels : List ι}
    (hguard : ∀ label ∈ labels, ∀ s, guard s label) (s : σ) : Guarded step guard s labels := by
  induction labels generalizing s with
  | nil => trivial
  | cons label rest ih =>
      rw [List.forall_mem_cons] at hguard
      exact ⟨hguard.1 s, fun next _ => ih hguard.2 next⟩

/-- The invariant rule for the runs whose steps all meet a guard. -/
theorem exec_invariant_of_guarded (Inv : σ → Prop) {guard : σ → ι → Prop}
    (hstep : ∀ s label next, Inv s → guard s label → step s label = some next → Inv next)
    {s final : σ} {labels : List ι} (hguarded : Guarded step guard s labels)
    (hrun : exec step s labels = some final) (hinit : Inv s) :
    Inv final := by
  induction labels generalizing s with
  | nil =>
      cases hrun
      exact hinit
  | cons label rest ih =>
      obtain ⟨hguard, hafter⟩ := hguarded
      obtain ⟨next, hnext, hrest⟩ := exec_cons_eq_some_iff.mp hrun
      exact ih (hafter next hnext) hrest (hstep s label next hinit hguard hnext)

/-- Two conditions on the steps of a run that agree wherever an invariant holds, which the steps that meet
one of them preserve, are met by the same runs. -/
theorem guarded_congr (Inv : σ → Prop) {guard guard' : σ → ι → Prop}
    (hagree : ∀ s label, Inv s → (guard s label ↔ guard' s label))
    (hstep : ∀ s label next, Inv s → guard' s label → step s label = some next → Inv next)
    {s : σ} (labels : List ι) (hinit : Inv s) :
    Guarded step guard s labels ↔ Guarded step guard' s labels := by
  induction labels generalizing s with
  | nil => exact Iff.rfl
  | cons label rest ih =>
      constructor
      · rintro ⟨hguard, hafter⟩
        have hguard' : guard' s label := (hagree s label hinit).mp hguard
        exact ⟨hguard', fun next hnext =>
          (ih (hstep s label next hinit hguard' hnext)).mp (hafter next hnext)⟩
      · rintro ⟨hguard', hafter⟩
        exact ⟨(hagree s label hinit).mpr hguard', fun next hnext =>
          (ih (hstep s label next hinit hguard' hnext)).mpr (hafter next hnext)⟩

/-- The same for a run that can be taken to its end, where only steps that can be taken are compared. -/
theorem guarded_congr_of_exec (Inv : σ → Prop) {guard guard' : σ → ι → Prop}
    (hagree : ∀ s label next, Inv s → step s label = some next → (guard s label ↔ guard' s label))
    (hstep : ∀ s label next, Inv s → guard' s label → step s label = some next → Inv next)
    {s final : σ} {labels : List ι} (hrun : exec step s labels = some final) (hinit : Inv s) :
    Guarded step guard s labels ↔ Guarded step guard' s labels := by
  induction labels generalizing s with
  | nil => exact Iff.rfl
  | cons label rest ih =>
      obtain ⟨next, hnext, hrest⟩ := exec_cons_eq_some_iff.mp hrun
      have hguards : guard s label ↔ guard' s label := hagree s label next hinit hnext
      -- `next` is the only state that the rest of the run can start from
      have honly : ∀ g : σ → ι → Prop,
          (∀ other, step s label = some other → Guarded step g other rest) ↔ Guarded step g next rest := by
        intro g
        simp [hnext]
      simp only [Guarded, honly, hguards]
      refine and_congr_right fun hguard' => ?_
      exact ih hrest (hstep s label next hinit hguard' hnext)

/-- A property holds in every state of a run exactly when it holds at its start and every step leads to a
state with the property. -/
theorem forall_reached_iff_guarded (P : σ → Prop) {s : σ} (labels : List ι) :
    (∀ earlier later final, labels = earlier ++ later → exec step s earlier = some final → P final) ↔
      P s ∧ Guarded step (fun s label => ∀ next, step s label = some next → P next) s labels := by
  induction labels generalizing s with
  | nil =>
      constructor
      · intro hall
        exact ⟨hall [] [] s rfl rfl, trivial⟩
      · rintro ⟨hstart, -⟩ earlier later final hsplit hrun
        obtain ⟨rfl, -⟩ := List.append_eq_nil_iff.mp hsplit.symm
        cases hrun
        exact hstart
  | cons label rest ih =>
      constructor
      · intro hall
        -- the states reached from `next` are the ones reached by this label and what follows it
        have hafter : ∀ next, step s label = some next →
            ∀ earlier later final, rest = earlier ++ later → exec step next earlier = some final →
              P final := by
          rintro next hnext earlier later final rfl hrun
          exact hall (label :: earlier) later final rfl
            (exec_cons_eq_some_iff.mpr ⟨next, hnext, hrun⟩)
        exact ⟨hall [] (label :: rest) s rfl rfl,
          fun next hnext => (ih.mp (hafter next hnext)).1,
          fun next hnext => (ih.mp (hafter next hnext)).2⟩
      · rintro ⟨hstart, hstep, hrest⟩ earlier later final hsplit hrun
        cases earlier with
        | nil =>
            cases hrun
            exact hstart
        | cons first earlier =>
            obtain ⟨rfl, hrestSplit⟩ := List.cons.inj hsplit
            obtain ⟨next, hnext, hrun⟩ := exec_cons_eq_some_iff.mp hrun
            exact ih.mpr ⟨hstep next hnext, hrest next hnext⟩ earlier later final hrestSplit hrun

/-- A preorder that every step goes up is gone up between any two states of a run. -/
theorem rel_of_guarded (R : σ → σ → Prop) (hrefl : ∀ s, R s s) (htrans : ∀ s t u, R s t → R t u → R s u)
    {s final : σ} {labels later : List ι}
    (hsteps : Guarded step (fun s label => ∀ next, step s label = some next → R s next) s (labels ++ later))
    (hrun : exec step s labels = some final) : R s final := by
  induction labels generalizing s with
  | nil =>
      cases hrun
      exact hrefl _
  | cons label rest ih =>
      obtain ⟨hfirst, hafter⟩ := hsteps
      obtain ⟨next, hnext, hrest⟩ := exec_cons_eq_some_iff.mp hrun
      exact htrans s next final (hfirst next hnext) (ih (hafter next hnext) hrest)

/-- A preorder is gone up between any two states of a run exactly when every step goes it up. -/
theorem forall_later_iff_guarded (R : σ → σ → Prop) (hrefl : ∀ s, R s s)
    (htrans : ∀ s t u, R s t → R t u → R s u) {s : σ} (labels : List ι) :
    (∀ earlier between later t u, labels = earlier ++ between ++ later → exec step s earlier = some t →
        exec step t between = some u → R t u) ↔
      Guarded step (fun s label => ∀ next, step s label = some next → R s next) s labels := by
  induction labels generalizing s with
  | nil =>
      constructor
      · intro _
        trivial
      · intro _ earlier between later t u hsplit hearlier hbetween
        obtain ⟨hfirst, -⟩ := List.append_eq_nil_iff.mp hsplit.symm
        obtain ⟨rfl, rfl⟩ := List.append_eq_nil_iff.mp hfirst
        cases hearlier
        cases hbetween
        exact hrefl _
  | cons label rest ih =>
      constructor
      · intro hall
        refine ⟨fun next hnext => ?_, fun next hnext => ih.mp ?_⟩
        · exact hall [] [label] rest s next rfl rfl (exec_cons_eq_some_iff.mpr ⟨next, hnext, rfl⟩)
        · rintro earlier between later t u rfl hearlier hbetween
          exact hall (label :: earlier) between later t u rfl
            (exec_cons_eq_some_iff.mpr ⟨next, hnext, hearlier⟩) hbetween
      · intro hsteps earlier between later t u hsplit hearlier hbetween
        cases earlier with
        | nil =>
            cases hearlier
            rw [List.nil_append] at hsplit
            rw [hsplit] at hsteps
            exact rel_of_guarded R hrefl htrans hsteps hbetween
        | cons first earlier =>
            obtain ⟨rfl, hrest⟩ := List.cons.inj hsplit
            obtain ⟨next, hnext, hearlier⟩ := exec_cons_eq_some_iff.mp hearlier
            exact ih.mpr (hsteps.2 next hnext) earlier between later t u hrest hearlier hbetween

end Exec

section Outputs

variable {σ τ ι ο : Type*}

/-- The state after a list of inputs. -/
def finalState (step : σ → ι → σ × ο) (s : σ) (inputs : List ι) : σ :=
  inputs.foldl (fun state input => (step state input).1) s

/-- The answers of a machine to a list of inputs, in order. -/
def outputs (step : σ → ι → σ × ο) : σ → List ι → List ο
  | _, [] => []
  | s, input :: rest => (step s input).2 :: outputs step (step s input).1 rest

@[simp] theorem outputs_nil (step : σ → ι → σ × ο) (s : σ) : outputs step s [] = [] := rfl

/-- The invariant rule for such machines.  The invariant may depend on what is left of the input, so a
side condition on the whole input list (such as the order of its timestamps) can be carried in it. -/
theorem finalState_invariant {step : σ → ι → σ × ο} (Inv : List ι → σ → Prop)
    (hstep : ∀ input rest s, Inv (input :: rest) s → Inv rest (step s input).1)
    {inputs : List ι} (rest : List ι) {s : σ} (hinit : Inv (inputs ++ rest) s) :
    Inv rest (finalState step s inputs) := by
  induction inputs generalizing s with
  | nil => exact hinit
  | cons input inputs ih => exact ih (hstep input (inputs ++ rest) s hinit)

/-- Two machines answer alike on every input list along which a simulation relation can be kept; like
the invariant above it may look at what is left of the input. -/
theorem outputs_eq_of_simulation {left : σ → ι → σ × ο} {right : τ → ι → τ × ο}
    (Sim : List ι → σ → τ → Prop)
    (hstep : ∀ input rest s t, Sim (input :: rest) s t →
      (left s input).2 = (right t input).2 ∧ Sim rest (left s input).1 (right t input).1)
    {inputs : List ι} {s : σ} {t : τ} (hsim : Sim inputs s t) :
    outputs left s inputs = outputs right t inputs := by
  induction inputs generalizing s t with
  | nil => rfl
  | cons input rest ih =>
      obtain ⟨hanswer, hnext⟩ := hstep input rest s t hsim
      simp only [outputs]
      rw [hanswer, ih hnext]

end Outputs

end Lib
end Dmanager
