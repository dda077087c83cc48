import Dmanager.Lib.Interleaving

/-!
# Steps that nobody notices

Two machines that take the same steps, except for those that are hidden: only the first machine takes these.  If its
steps keep a relation between the states, the hidden ones included, then the two have the same runs, and end them in
related states.  The relation may depend on what has happened so far, through a history that every step notes.

* `Heeds` — every step of a list meets a guard that looks at the history.
* `exec_rel_of_hidden` — the rule, in both directions at once: `Option.Rel` says that both runs exist or neither.
* `Config.Alike` — the rule for programs that run at the same time: the shared states are related, what is left of the
  programs and what they have called are the same.
-/

namespace Dmanager
namespace Lib

section Machines

variable {σ τ ι H : Type*} {step : σ → ι → Option σ} {step' : τ → ι → Option τ}
variable {note : H → ι → H} {guard : H → ι → Prop} {hidden : ι → Bool} {R : H → σ → τ → Prop}

/-- Two optional values that are related are both there or both not. -/
theorem cases_of_rel {r : σ → τ → Prop} {x : Option σ} {y : Option τ} (hrel : Option.Rel r x y) :
    (x = none ∧ y = none) ∨ ∃ a b, x = some a ∧ y = some b ∧ r a b := by
  cases hrel with
  | none => exact Or.inl ⟨rfl, rfl⟩
  | some hab => exact Or.inr ⟨_, _, rfl, rfl, hab⟩

/-- Every step of the list meets the guard, for the history before it. -/
def Heeds (note : H → ι → H) (guard : H → ι → Prop) : H → List ι → Prop
  | _, [] => True
  | h, label :: rest => guard h label ∧ Heeds note guard (note h label) rest

instance decidableHeeds [∀ h label, Decidable (guard h label)] :
    ∀ (h : H) (labels : List ι), Decidable (Heeds note guard h labels)
  | _, [] => isTrue trivial
  | h, label :: rest =>
      have : Decidable (Heeds note guard (note h label) rest) := decidableHeeds (note h label) rest
      inferInstanceAs (Decidable (guard h label ∧ Heeds note guard (note h label) rest))

/-- The steps that are not hidden. -/
def shown (hidden : ι → Bool) (labels : List ι) : List ι := labels.filter fun label => !hidden label

/-- A machine with hidden steps and one without them have the same runs. -/
theorem exec_rel_of_hidden
    (hshown : ∀ h s t label, hidden label = false → guard h label → R h s t →
      Option.Rel (R (note h label)) (step s label) (step' t label))
    (hhidden : ∀ h s t label, hidden label = true → guard h label → R h s t →
      ∃ s', step s label = some s' ∧ R (note h label) s' t)
    {h : H} {s : σ} {t : τ} {labels : List ι} (hheeds : Heeds note guard h labels) (hinit : R h s t) :
    Option.Rel (R (labels.foldl note h)) (exec step s labels) (exec step' t (shown hidden labels)) := by
  induction labels generalizing h s t with
  | nil => exact Option.Rel.some hinit
  | cons label rest ih =>
      obtain ⟨hguard, hrest⟩ := hheeds
      cases hlabel : hidden label with
      | true =>
          obtain ⟨s', hstep, hnext⟩ := hhidden h s t label hlabel hguard hinit
          have hshort : shown hidden (label :: rest) = shown hidden rest := by simp [shown, hlabel]
          rw [hshort, exec, hstep]
          exact ih hrest hnext
      | false =>
          have hlong : shown hidden (label :: rest) = label :: shown hidden rest := by simp [shown, hlabel]
          have hboth := hshown h s t label hlabel hguard hinit
          rw [hlong, exec, exec]
          obtain ⟨hs, ht⟩ | ⟨s', t', hs, ht, hnext⟩ := cases_of_rel hboth
          · rw [hs, ht]
            exact Option.Rel.none
          · rw [hs, ht]
            exact ih hrest hnext

end Machines

/-! ## Programs that run at the same time -/

section Configs

variable {ι σ η : Type} {Op : Type} {Ans : Op → Type} {ε α : Type} [DecidableEq ι] [DecidableEq Op]
variable {sys : System σ η Op Ans} {R R' : σ → σ → Prop} {c d : Config ι σ Op Ans ε α}

/-- The programs are at the same point, on related states. -/
structure Config.Alike (R : σ → σ → Prop) (c d : Config ι σ Op Ans ε α) : Prop where
  shared : R c.shared d.shared
  threads : c.threads = d.threads
  log : c.log = d.log

/-- A call that both states answer, or neither. -/
theorem Config.Alike.step_call (halike : c.Alike R d) {i : ι} {event : Event Op Ans}
    (hanswer : Option.Rel R' (sys.answer c.shared event) (sys.answer d.shared event)) :
    Option.Rel (Config.Alike R') (sys.step c (.call i event)) (sys.step d (.call i event)) := by
  obtain ⟨shared, threads, log⟩ := c
  obtain ⟨shared', threads', log'⟩ := d
  obtain ⟨-, rfl, rfl⟩ := halike
  simp only [System.step]
  cases hresume : (threads i).resume event with
  | none => exact Option.Rel.none
  | some rest =>
      simp only [Option.bind_some]
      obtain ⟨hs, ht⟩ | ⟨s, t, hs, ht, hnext⟩ := cases_of_rel hanswer
      · dsimp only at hs ht
        rw [hs, ht]
        exact Option.Rel.none
      · dsimp only at hs ht
        rw [hs, ht]
        exact Option.Rel.some ⟨hnext, rfl, rfl⟩

/-- A step of the environment that both states take, or neither. -/
theorem Config.Alike.step_env (halike : c.Alike R d) {e : η}
    (henv : Option.Rel R' (sys.env c.shared e) (sys.env d.shared e)) :
    Option.Rel (Config.Alike R') (sys.step c (.env e)) (sys.step d (.env e)) := by
  simp only [System.step]
  obtain ⟨hs, ht⟩ | ⟨s, t, hs, ht, hnext⟩ := cases_of_rel henv
  · rw [hs, ht]
    exact Option.Rel.none
  · rw [hs, ht]
    exact Option.Rel.some ⟨hnext, halike.threads, halike.log⟩

end Configs

end Lib
end Dmanager
