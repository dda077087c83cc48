import Mathlib.Tactic

/-!
# Calls in flight

A client starts asynchronous calls while others of its calls are in flight.  A call comes back when it likes, and may
by then have been overtaken: the client has marked it, and drops what it comes back with.  The calls are numbered by
their starts, and each is made for a purpose.

* `launch`, `cancel`, `land` — a call is started, the calls for some purposes are overtaken, a call comes back.
* `live p` — the calls for the purposes `p` that have not been overtaken.  It has one equation for each operation, so
  what a client keeps about its calls is said about lists such as `[]` and `[f]`.
* `Gate` — a flag that lets one call of a class through at a time; one rule for each operation.
* `Numbered` — the numbers tell the calls apart.
-/

namespace Dmanager
namespace Lib

/-- A call in flight: the how-manieth it is, what for, and whether it has been overtaken. -/
structure Flight (κ : Type) where
  number : Nat
  purpose : κ
  cancelled : Bool
  deriving DecidableEq, Repr

/-- The calls in flight, in the order of their starts, and how many have been started. -/
structure Flights (κ : Type) where
  pending : List (Flight κ)
  started : Nat
  deriving DecidableEq, Repr

namespace Flights

variable {κ : Type}

/-- Nothing has been started. -/
def idle : Flights κ := ⟨[], 0⟩

/-- The call that is started next. -/
def next (s : Flights κ) (k : κ) : Flight κ := ⟨s.started + 1, k, false⟩

/-- A call is started. -/
def launch (s : Flights κ) (k : κ) : Flights κ := ⟨s.pending ++ [s.next k], s.started + 1⟩

/-- The calls for the purposes `p` are overtaken. -/
def cancel (s : Flights κ) (p : κ → Bool) : Flights κ :=
  { s with pending := s.pending.map fun f => { f with cancelled := f.cancelled || p f.purpose } }

/-- A call comes back. -/
def land [DecidableEq κ] (s : Flights κ) (f : Flight κ) : Flights κ := { s with pending := s.pending.erase f }

/-- The calls for the purposes `p` that have not been overtaken. -/
def live (s : Flights κ) (p : κ → Bool) : List (Flight κ) :=
  s.pending.filter fun f => p f.purpose && !f.cancelled

/-- The numbers tell the calls apart. -/
structure Numbered (s : Flights κ) : Prop where
  nodup : (s.pending.map Flight.number).Nodup
  number_le : ∀ f ∈ s.pending, f.number ≤ s.started

/-! ## Live calls -/

section Live

variable {s : Flights κ} {p q : κ → Bool} {f : Flight κ}

theorem mem_live : f ∈ s.live p ↔ f ∈ s.pending ∧ p f.purpose = true ∧ f.cancelled = false := by
  simp [live]

@[simp] theorem live_idle : (idle : Flights κ).live p = [] := rfl

@[simp] theorem next_number (k : κ) : (s.next k).number = s.started + 1 := rfl

@[simp] theorem next_purpose (k : κ) : (s.next k).purpose = k := rfl

@[simp] theorem next_cancelled (k : κ) : (s.next k).cancelled = false := rfl

theorem live_launch (k : κ) : (s.launch k).live p = s.live p ++ if p k then [s.next k] else [] := by
  by_cases hk : p k
  · simp [live, launch, hk]
  · simp [live, launch, hk]

@[simp] theorem live_launch_of_purpose {k : κ} (hk : p k = true) :
    (s.launch k).live p = s.live p ++ [s.next k] := by
  rw [live_launch, if_pos hk]

@[simp] theorem live_launch_of_other {k : κ} (hk : p k = false) : (s.launch k).live p = s.live p := by
  simp [live_launch, hk]

theorem live_cancel : (s.cancel q).live p = (s.live p).filter fun f => !q f.purpose := by
  unfold cancel live
  rw [List.filter_map, List.filter_filter]
  have hkeep : ∀ f ∈ s.pending.filter fun f => (p f.purpose && !(f.cancelled || q f.purpose)),
      ({ f with cancelled := f.cancelled || q f.purpose } : Flight κ) = f := by
    intro f hf
    obtain ⟨number, purpose, cancelled⟩ := f
    simp_all
  calc (s.pending.filter _).map _
      = (s.pending.filter fun f => (p f.purpose && !(f.cancelled || q f.purpose))).map id :=
        List.map_congr_left hkeep
    _ = _ := by
        rw [List.map_id]
        refine List.filter_congr fun f _ => ?_
        cases p f.purpose <;> cases q f.purpose <;> cases f.cancelled <;> rfl

/-- Nothing that has been overtaken is live. -/
@[simp] theorem live_cancel_self : (s.cancel p).live p = [] := by
  rw [live_cancel, List.filter_eq_nil_iff]
  intro f hf
  simp [(mem_live.mp hf).2.1]

/-- Overtaking calls for some purposes leaves those for others alone. -/
theorem live_cancel_of_disjoint (hdisjoint : ∀ k, p k = true → q k = false) : (s.cancel q).live p = s.live p := by
  rw [live_cancel, List.filter_eq_self]
  intro f hf
  simp [hdisjoint _ (mem_live.mp hf).2.1]

variable [DecidableEq κ]

theorem live_land (f : Flight κ) : (s.land f).live p = (s.live p).erase f :=
  List.erase_filter.symm

/-- A call that is not live changes nothing about those that are. -/
theorem live_land_of_not_mem (hf : f ∉ s.live p) : (s.land f).live p = s.live p := by
  rw [live_land, List.erase_of_not_mem hf]

/-- A live call comes back when one is live: it is that call, and afterwards none is live. -/
theorem live_land_of_singleton {g : Flight κ} (hlive : s.live p = [g]) (hf : f ∈ s.live p) :
    f = g ∧ (s.land f).live p = [] := by
  rw [hlive, List.mem_singleton] at hf
  subst hf
  exact ⟨rfl, by rw [live_land, hlive]; simp⟩

end Live

/-! ## One at a time -/

/-- A gate that lets one call for the purposes `p` through at a time: none is live and the gate is `down`, or one is,
and it is `up` for its purpose. -/
inductive Gate (s : Flights κ) (p : κ → Bool) (up : κ → Prop) (down : Prop) : Prop where
  | idle (hlive : s.live p = []) (hdown : down)
  | busy (f : Flight κ) (hlive : s.live p = [f]) (hup : up f.purpose)

section Gate

variable {s : Flights κ} {p q : κ → Bool} {up up' : κ → Prop} {down down' : Prop} {k : κ} {f : Flight κ}

theorem Gate.imp (hgate : s.Gate p up down) (hup : ∀ k, up k → up' k) (hdown : down → down') :
    s.Gate p up' down' := by
  cases hgate with
  | idle hlive h => exact .idle hlive (hdown h)
  | busy f hlive h => exact .busy f hlive (hup _ h)

theorem Gate.length_le_one (hgate : s.Gate p up down) : (s.live p).length ≤ 1 := by
  cases hgate with
  | idle hlive _ => simp [hlive]
  | busy f hlive _ => simp [hlive]

/-- The gate is up for a live call. -/
theorem Gate.up_of_live (hgate : s.Gate p up down) (hf : f ∈ s.live p) : up f.purpose := by
  cases hgate with
  | idle hlive _ => rw [hlive] at hf; cases hf
  | busy g hlive hup =>
      rw [hlive, List.mem_singleton] at hf
      exact hf ▸ hup

/-- Two live calls are one. -/
theorem Gate.eq_of_live (hgate : s.Gate p up down) {g : Flight κ} (hf : f ∈ s.live p) (hg : g ∈ s.live p) : f = g := by
  cases hgate with
  | idle hlive _ => rw [hlive] at hf; cases hf
  | busy only hlive _ =>
      rw [hlive, List.mem_singleton] at hf hg
      exact hf.trans hg.symm

/-- A gate that is not up lets a call through. -/
theorem Gate.live_eq_nil (hgate : s.Gate p up down) (hdown : ∀ k, ¬ up k) : s.live p = [] := by
  cases hgate with
  | idle hlive _ => exact hlive
  | busy f _ hup => exact absurd hup (hdown _)

theorem Gate.of_live (hgate : s.Gate p up down) {s' : Flights κ} (hlive : s'.live p = s.live p) :
    s'.Gate p up down := by
  cases hgate with
  | idle h hdown => exact .idle (hlive.trans h) hdown
  | busy f h hup => exact .busy f (hlive.trans h) hup

theorem Gate.launch_other (hgate : s.Gate p up down) (hk : p k = false) : (s.launch k).Gate p up down :=
  hgate.of_live (live_launch_of_other hk)

theorem Gate.cancel_other (hgate : s.Gate p up down) (hdisjoint : ∀ k, p k = true → q k = false) :
    (s.cancel q).Gate p up down :=
  hgate.of_live (live_cancel_of_disjoint hdisjoint)

theorem Gate.of_launch (hlive : s.live p = []) (hk : p k = true) (hup : up k) : (s.launch k).Gate p up down := by
  refine .busy (s.next k) ?_ hup
  rw [live_launch_of_purpose hk, hlive, List.nil_append]

variable [DecidableEq κ]

theorem Gate.land_other (hgate : s.Gate p up down) (hf : f ∉ s.live p) : (s.land f).Gate p up down :=
  hgate.of_live (live_land_of_not_mem hf)

theorem Gate.land_live (hgate : s.Gate p up down) (hf : f ∈ s.live p) (hdown : down') :
    (s.land f).Gate p up' down' := by
  cases hgate with
  | idle hlive _ => rw [hlive] at hf; cases hf
  | busy g hlive _ => exact .idle (live_land_of_singleton hlive hf).2 hdown

end Gate

/-! ## Numbers -/

theorem numbered_idle : (idle : Flights κ).Numbered := ⟨List.nodup_nil, nofun⟩

variable {s : Flights κ}

theorem Numbered.launch (hs : s.Numbered) (k : κ) : (s.launch k).Numbered where
  nodup := by
    have hfresh : s.started + 1 ∉ s.pending.map Flight.number := by
      intro hmem
      obtain ⟨f, hf, hnumber⟩ := List.mem_map.mp hmem
      have hle := hs.number_le f hf
      omega
    have hmap : (s.launch k).pending.map Flight.number = s.pending.map Flight.number ++ [s.started + 1] := by
      simp [Flights.launch]
    rw [hmap, List.nodup_append]
    refine ⟨hs.nodup, List.nodup_singleton _, fun number hnumber other hother => ?_⟩
    rw [List.mem_singleton] at hother
    rintro rfl
    exact hfresh (hother ▸ hnumber)
  number_le f hf := by
    rcases List.mem_append.mp hf with hold | hnew
    · exact (hs.number_le f hold).trans (Nat.le_succ _)
    · rw [List.mem_singleton.mp hnew]
      exact le_refl _

theorem map_number_cancel (p : κ → Bool) : (s.cancel p).pending.map Flight.number = s.pending.map Flight.number := by
  simp [Flights.cancel, Function.comp_def]

theorem Numbered.cancel (hs : s.Numbered) (p : κ → Bool) : (s.cancel p).Numbered where
  nodup := by
    rw [map_number_cancel]
    exact hs.nodup
  number_le f hf := by
    obtain ⟨g, hg, rfl⟩ := List.mem_map.mp hf
    exact hs.number_le g hg

theorem Numbered.land [DecidableEq κ] (hs : s.Numbered) (f : Flight κ) : (s.land f).Numbered where
  nodup := hs.nodup.sublist (List.erase_sublist.map _)
  number_le g hg := hs.number_le g (List.mem_of_mem_erase hg)

/-- A call that has come back is in flight no more. -/
theorem Numbered.not_mem_land [DecidableEq κ] (hs : s.Numbered) (f : Flight κ) : f ∉ (s.land f).pending :=
  (List.Nodup.of_map _ hs.nodup).not_mem_erase

end Flights

end Lib
end Dmanager
