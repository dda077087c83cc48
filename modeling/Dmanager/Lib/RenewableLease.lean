import Mathlib.Tactic

/-!
# Leases with a lazily renewed deadline

A lease has a deadline and a cap that no renewal may pass.  A use at time `t` finds it live when `t` is
past neither.  The *eager* owner sets the deadline to `min (t + idle) cap` on every use; the *lazy* owner
writes only when the use comes within `slack` of the deadline.  Time is any linearly ordered additive
group, so the results hold for integer clocks of any unit as well as for real time.

* `deadline_le_renew`, `renew_le_cap` — renewing never moves a deadline backwards, nor past the cap.
* `renew_le_eager`, `eager_le_renew_add` — after a use the lazy deadline is at most the eager one and
  behind it by at most `idle - slack`.
* `renew_eq_cap` — a deadline at the cap stays there.
* `min_slack_le_renew` — after a use at `t` the deadline is at least `min (t + slack) cap`, which is why
  uses at most `slack` apart always find the lease live (`live_of_min_slack_le`).
-/

namespace Dmanager
namespace Lib

/-- A deadline, and the latest value it may ever take. -/
@[ext]
structure Lease (α : Type*) where
  deadline : α
  cap : α

namespace Lease

variable {α : Type*} [AddCommGroup α] [LinearOrder α]
variable {idle slack t : α} {lease : Lease α}

/-- The lease can be used at time `t`. -/
def Live (lease : Lease α) (t : α) : Prop := t ≤ lease.cap ∧ t ≤ lease.deadline

instance (lease : Lease α) (t : α) : Decidable (lease.Live t) :=
  inferInstanceAs (Decidable (_ ∧ _))

/-- The deadline an owner sets who writes on every use. -/
def eager (idle cap t : α) : α := min (t + idle) cap

/-- One use at time `t`: write the eager deadline when `t` is within `slack` of the stored one. -/
def renew (idle slack : α) (lease : Lease α) (t : α) : Lease α :=
  if lease.deadline - slack < t then { lease with deadline := eager idle lease.cap t } else lease

@[simp] theorem renew_cap : (lease.renew idle slack t).cap = lease.cap := by
  unfold renew
  split <;> rfl

theorem renew_of_lt (h : lease.deadline - slack < t) :
    (lease.renew idle slack t).deadline = eager idle lease.cap t := by
  simp [renew, h]

theorem renew_of_le (h : t ≤ lease.deadline - slack) : lease.renew idle slack t = lease := by
  simp [renew, not_lt.mpr h]

/-- A use at most `gap` after one that left `gap` of the lease finds it live, up to the cap. -/
theorem live_of_min_slack_le {last gap : α} (hleft : min (last + gap) lease.cap ≤ lease.deadline)
    (hgap : t ≤ last + gap) (hcap : t ≤ lease.cap) : lease.Live t :=
  ⟨hcap, (le_min hgap hcap).trans hleft⟩

theorem renew_le_cap (hcap : lease.deadline ≤ lease.cap) :
    (lease.renew idle slack t).deadline ≤ lease.cap := by
  rcases lt_or_ge (lease.deadline - slack) t with hlt | hge
  · rw [renew_of_lt hlt]
    exact min_le_right _ _
  · rwa [renew_of_le hge]

/-- The lazy deadline is at most the eager one, if it was before the use. -/
theorem renew_le_eager (hcap : lease.deadline ≤ lease.cap) (hidle : lease.deadline ≤ t + idle) :
    (lease.renew idle slack t).deadline ≤ eager idle lease.cap t := by
  rcases lt_or_ge (lease.deadline - slack) t with hlt | hge
  · rw [renew_of_lt hlt]
  · rw [renew_of_le hge]
    exact le_min hidle hcap

variable [IsOrderedAddMonoid α]

/-- A renewal never moves the deadline backwards. -/
theorem deadline_le_renew (hslack : slack ≤ idle) (hcap : lease.deadline ≤ lease.cap) :
    lease.deadline ≤ (lease.renew idle slack t).deadline := by
  rcases lt_or_ge (lease.deadline - slack) t with hlt | hge
  · rw [renew_of_lt hlt]
    have hreach : lease.deadline ≤ t + idle := by
      calc
        lease.deadline = lease.deadline - slack + slack := by abel
        _ ≤ t + idle := add_le_add hlt.le hslack
    exact le_min hreach hcap
  · rw [renew_of_le hge]

/-- The eager deadline is ahead of the lazy one by at most `idle - slack`. -/
theorem eager_le_renew_add (hslack : slack ≤ idle) :
    eager idle lease.cap t ≤ (lease.renew idle slack t).deadline + (idle - slack) := by
  rcases lt_or_ge (lease.deadline - slack) t with hlt | hge
  · rw [renew_of_lt hlt]
    exact le_add_of_nonneg_right (sub_nonneg.mpr hslack)
  · rw [renew_of_le hge]
    calc
      eager idle lease.cap t ≤ t + idle := min_le_left _ _
      _ ≤ lease.deadline - slack + idle := add_le_add hge le_rfl
      _ = lease.deadline + (idle - slack) := by abel

/-- A lease that reaches up to its cap stays that way. -/
theorem renew_eq_cap (hslack : slack ≤ idle) (hcap : lease.deadline = lease.cap) :
    (lease.renew idle slack t).deadline = lease.cap := by
  apply le_antisymm (renew_le_cap hcap.le)
  calc
    lease.cap = lease.deadline := hcap.symm
    _ ≤ (lease.renew idle slack t).deadline := deadline_le_renew hslack hcap.le

/-- After a use at `t` at least `slack` of the lease is left, unless the cap comes first. -/
theorem min_slack_le_renew (hslack : slack ≤ idle) :
    min (t + slack) lease.cap ≤ (lease.renew idle slack t).deadline := by
  rcases lt_or_ge (lease.deadline - slack) t with hlt | hge
  · rw [renew_of_lt hlt]
    exact min_le_min (add_le_add le_rfl hslack) le_rfl
  · rw [renew_of_le hge]
    exact (min_le_left _ _).trans (le_sub_iff_add_le.mp hge)

end Lease

end Lib
end Dmanager
