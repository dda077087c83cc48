import Dmanager.Lib.Flights
import Dmanager.Lib.Interleaving

/-!
# Remote calls

The calls that a client has in flight (`Dmanager.Lib.Flights`) are served by programs which share a state
(`Dmanager.Lib.Interleaving`): a call is started together with its program, the program runs among the others, and the
client may give a call up while its program goes on.

* `Program.through` — what is left of a program after some calls.
* `Remote.Coherent` — every call in flight is served by its own program; no program runs without having been started.
* `Slice` — what a client keeps of the calls of a class, of which the latest overtakes the others.  One rule for each
  operation says how it is kept up; `Slice.settled` is what it is for: what is shown comes after the awaited calls.
* `DoneBefore` — in the log of the shared state, everything one call has done comes before everything another has done.
  It holds of any call and one that is only started (`doneBefore_of_unused`), and lasts once the first one is over.
-/

namespace Dmanager
namespace Lib

variable {κ σ η : Type} {Op : Type} {Ans : Op → Type} {ε α : Type}

/-- What is left of a program after some calls, the first one first. -/
def Program.through [DecidableEq Op] (p : Program Op Ans ε α) (events : List (Event Op Ans)) :
    Option (Program Op Ans ε α) :=
  exec Program.resume p events

theorem Program.through_append_singleton [DecidableEq Op] {p q : Program Op Ans ε α} {events : List (Event Op Ans)}
    (hthrough : p.through events = some q) (event : Event Op Ans) :
    p.through (events ++ [event]) = q.resume event :=
  exec_append_singleton hthrough

/-- What the text of a program gives to its end holds when its calls have led there. -/
theorem Program.Along.of_through [DecidableEq Op] {P : List (Event Op Ans) → Op → Prop}
    {Q : List (Event Op Ans) → α → Prop} {past events : List (Event Op Ans)} {p : Program Op Ans ε α} {a : α}
    (halong : p.Along P Q past) (hthrough : p.through events = some (.done a)) : Q (events.reverse ++ past) a := by
  induction events generalizing p past with
  | nil =>
      cases hthrough
      exact halong
  | cons event rest ih =>
      obtain ⟨q, hresume, hrest⟩ := exec_cons_eq_some_iff.mp hthrough
      obtain ⟨next, rfl, rfl⟩ := Program.resume_eq_some_iff.mp hresume
      have hafter := ih (halong.2 event.answer) hrest
      simpa using hafter

/-- A program that has been led to its end by answers that depend on the call alone: so it runs in the world that gives
these answers. -/
theorem Program.run_of_through [DecidableEq Op] {answer : (op : Op) → Ans op} {events : List (Event Op Ans)}
    {p : Program Op Ans ε α} {a : α} (hthrough : p.through events = some (.done a))
    (hanswers : ∀ event ∈ events, event.answer = answer event.op) (past : List Op) :
    p.run (fun op _ => answer op) past = ⟨events, .ok a⟩ := by
  induction events generalizing p past with
  | nil =>
      cases hthrough
      rfl
  | cons event rest ih =>
      obtain ⟨q, hresume, hrest⟩ := exec_cons_eq_some_iff.mp hthrough
      obtain ⟨next, rfl, rfl⟩ := Program.resume_eq_some_iff.mp hresume
      obtain ⟨op, _⟩ := event
      obtain ⟨hanswer, hrest_answers⟩ := List.forall_mem_cons.mp hanswers
      change _ = answer op at hanswer
      subst hanswer
      rw [Program.run_call, ih hrest hrest_answers (op :: past)]

/-- The calls of a client, and what serves them. -/
structure Remote (κ σ : Type) (Op : Type) (Ans : Op → Type) (ε α : Type) where
  flights : Flights κ
  server : Config ℕ σ Op Ans ε α

/-! ## What comes before what -/

/-- Every call of program `m` has been made before every call of program `n`. -/
def DoneBefore (log : List (ℕ × Event Op Ans)) (m n : ℕ) : Prop :=
  ∃ later earlier, log = later ++ earlier ∧ callsOf m later = [] ∧ callsOf n earlier = []

theorem doneBefore_of_unused {log : List (ℕ × Event Op Ans)} (m : ℕ) {n : ℕ} (hunused : callsOf n log = []) :
    DoneBefore log m n :=
  ⟨[], log, rfl, rfl, hunused⟩

theorem DoneBefore.cons {log : List (ℕ × Event Op Ans)} {m n i : ℕ} (hdone : DoneBefore log m n) (hi : i ≠ m)
    (event : Event Op Ans) : DoneBefore ((i, event) :: log) m n := by
  obtain ⟨later, earlier, rfl, hlater, hearlier⟩ := hdone
  exact ⟨(i, event) :: later, earlier, rfl, (callsOf_cons_of_ne hi).trans hlater, hearlier⟩

variable [DecidableEq Op] {sys : System σ η Op Ans}

/-- A program that is over stays so. -/
theorem threads_of_isOver {c next : Config ℕ σ Op Ans ε α} {label : Label ℕ η Op Ans} {m : ℕ}
    (hover : (c.threads m).isOver = true) (hstep : sys.step c label = some next) :
    next.threads m = c.threads m := by
  cases label with
  | env e =>
      obtain ⟨shared, -, rfl⟩ := step_env_eq_some_iff.mp hstep
      rfl
  | call i event =>
      refine threads_of_step_call hstep m ?_
      rintro rfl
      obtain ⟨rest, shared, hcall, -, -⟩ := step_call_eq_some_iff.mp hstep
      rw [hcall] at hover
      cases hover

/-- A program that is over makes no call. -/
theorem past_of_isOver {c next : Config ℕ σ Op Ans ε α} {label : Label ℕ η Op Ans} {n : ℕ}
    (hover : (c.threads n).isOver = true) (hstep : sys.step c label = some next) : next.past n = c.past n := by
  cases label with
  | env e =>
      obtain ⟨shared, -, rfl⟩ := step_env_eq_some_iff.mp hstep
      rfl
  | call i event =>
      refine (past_of_step_call hstep).2 n ?_
      rintro rfl
      obtain ⟨rest, shared, hcall, -, -⟩ := step_call_eq_some_iff.mp hstep
      rw [hcall] at hover
      cases hover

/-- The calls that a program has made lead to what is left of it, also after a step. -/
theorem through_step {c next : Config ℕ σ Op Ans ε α} {label : Label ℕ η Op Ans} {n : ℕ} {p : Program Op Ans ε α}
    (hthrough : p.through (c.past n).reverse = some (c.threads n)) (hstep : sys.step c label = some next) :
    p.through (next.past n).reverse = some (next.threads n) := by
  cases label with
  | env e =>
      obtain ⟨shared, -, rfl⟩ := step_env_eq_some_iff.mp hstep
      exact hthrough
  | call i event =>
      by_cases hi : n = i
      · obtain ⟨rest, shared, hcall, -, rfl⟩ := step_call_eq_some_iff.mp hstep
        subst hi
        change p.through (callsOf n ((n, event) :: c.log)).reverse =
          some (Function.update c.threads n (rest event.answer) n)
        rw [callsOf_cons_self, List.reverse_cons, Function.update_self]
        exact (Program.through_append_singleton hthrough event).trans
          (Program.resume_eq_some_iff.mpr ⟨rest, hcall, rfl⟩)
      · rw [(past_of_step_call hstep).2 _ hi, threads_of_step_call hstep _ hi]
        exact hthrough

/-- What a program that is over has done stays before what another one does. -/
theorem DoneBefore.step {c next : Config ℕ σ Op Ans ε α} {label : Label ℕ η Op Ans} {m n : ℕ}
    (hdone : DoneBefore c.log m n) (hover : (c.threads m).isOver = true)
    (hstep : sys.step c label = some next) : DoneBefore next.log m n := by
  cases label with
  | env e =>
      obtain ⟨shared, -, rfl⟩ := step_env_eq_some_iff.mp hstep
      exact hdone
  | call i event =>
      obtain ⟨rest, shared, hcall, -, rfl⟩ := step_call_eq_some_iff.mp hstep
      refine hdone.cons ?_ event
      rintro rfl
      rw [hcall] at hover
      cases hover

namespace Remote

/-- Nothing has been started; `e` is the error of the programs that have not been. -/
def start (shared : σ) (e : ε) : Remote κ σ Op Ans ε α := ⟨Flights.idle, Config.start shared fun _ => .fail e⟩

/-- A call is started, and with it its program. -/
def launch (s : Remote κ σ Op Ans ε α) (handler : κ → Program Op Ans ε α) (k : κ) : Remote κ σ Op Ans ε α where
  flights := s.flights.launch k
  server := { s.server with threads := Function.update s.server.threads (s.flights.started + 1) (handler k) }

/-- The calls for the purposes `p` are overtaken. -/
def cancel (s : Remote κ σ Op Ans ε α) (p : κ → Bool) : Remote κ σ Op Ans ε α :=
  { s with flights := s.flights.cancel p }

/-- A call comes back to the client. -/
def land [DecidableEq κ] (s : Remote κ σ Op Ans ε α) (f : Flight κ) : Remote κ σ Op Ans ε α :=
  { s with flights := s.flights.land f }

/-- How the program of a call has ended. -/
def result? (s : Remote κ σ Op Ans ε α) (f : Flight κ) : Option (Except ε α) := (s.server.threads f.number).result?

/-- Every call in flight is served by its own program, and no other program has been started. -/
structure Coherent (handler : κ → Program Op Ans ε α) (s : Remote κ σ Op Ans ε α) : Prop where
  numbered : s.flights.Numbered
  through : ∀ f ∈ s.flights.pending,
    (handler f.purpose).through (s.server.past f.number).reverse = some (s.server.threads f.number)
  unused : ∀ n, s.flights.started < n → s.server.past n = [] ∧ (s.server.threads n).isOver = true

variable {handler : κ → Program Op Ans ε α} {s : Remote κ σ Op Ans ε α}

theorem coherent_start (shared : σ) (e : ε) : Coherent handler (start shared e) where
  numbered := Flights.numbered_idle
  through := nofun
  unused _ _ := ⟨rfl, rfl⟩

theorem Coherent.launch (hs : Coherent handler s) (k : κ) : Coherent handler (s.launch handler k) where
  numbered := hs.numbered.launch k
  through f hf := by
    rcases List.mem_append.mp hf with hold | hnew
    · have hne : f.number ≠ s.flights.started + 1 := by
        have hle := hs.numbered.number_le f hold
        omega
      change (handler f.purpose).through (s.server.past f.number).reverse =
        some (Function.update s.server.threads (s.flights.started + 1) (handler k) f.number)
      rw [Function.update_of_ne hne]
      exact hs.through f hold
    · rw [List.mem_singleton.mp hnew]
      have hpast : s.server.past (s.flights.started + 1) = [] := (hs.unused _ (Nat.lt_succ_self _)).1
      change (handler k).through (s.server.past (s.flights.started + 1)).reverse =
        some (Function.update s.server.threads (s.flights.started + 1) (handler k) (s.flights.started + 1))
      rw [hpast, Function.update_self]
      rfl
  unused n hn := by
    have hlt : s.flights.started + 1 < n := hn
    change s.server.past n = [] ∧
      (Function.update s.server.threads (s.flights.started + 1) (handler k) n).isOver = true
    rw [Function.update_of_ne (ne_of_gt hlt)]
    exact hs.unused n (by omega)

/-- A call that is only started comes after all others. -/
theorem Coherent.doneBefore_launch (hs : Coherent handler s) (k : κ) (m : ℕ) :
    DoneBefore (s.launch handler k).server.log m (s.flights.next k).number :=
  doneBefore_of_unused m (hs.unused _ (Nat.lt_succ_self _)).1

omit [DecidableEq Op] in
/-- Starting a call does not touch the programs of the others. -/
theorem threads_launch_of_le {m : ℕ} (hm : m ≤ s.flights.started) (k : κ) :
    (s.launch handler k).server.threads m = s.server.threads m :=
  Function.update_of_ne (by omega) _ _

theorem Coherent.cancel (hs : Coherent handler s) (p : κ → Bool) : Coherent handler (s.cancel p) where
  numbered := hs.numbered.cancel p
  through f hf := by
    obtain ⟨g, hg, rfl⟩ := List.mem_map.mp hf
    exact hs.through g hg
  unused := hs.unused

theorem Coherent.land [DecidableEq κ] (hs : Coherent handler s) (f : Flight κ) : Coherent handler (s.land f) where
  numbered := hs.numbered.land f
  through g hg := hs.through g (List.mem_of_mem_erase hg)
  unused := hs.unused

/-- The programs go on. -/
theorem Coherent.serve (hs : Coherent handler s) {server : Config ℕ σ Op Ans ε α} {label : Label ℕ η Op Ans}
    (hstep : sys.step s.server label = some server) : Coherent handler { s with server := server } where
  numbered := hs.numbered
  through f hf := through_step (hs.through f hf) hstep
  unused n hn := by
    obtain ⟨hpast, hover⟩ := hs.unused n hn
    refine ⟨(past_of_isOver hover hstep).trans hpast, ?_⟩
    change (server.threads n).isOver = true
    rw [threads_of_isOver hover hstep]
    exact hover

/-! ## What a client keeps -/

/-- A client keeps what the calls for the purposes `p` come back with, and ought to have a response to `k` that comes
after the calls `awaited`.  It is fetching one, by the only live call; or it shows one; or the fetch has failed. -/
inductive Slice (handler : κ → Program Op Ans ε α) (s : Remote κ σ Op Ans ε α) (awaited : List ℕ) (p : κ → Bool)
    (k : κ) (loading : Bool) (shows : α → Prop) (failed : Prop) : Prop where
  | fetching (hloading : loading = true) (f : Flight κ) (hlive : s.flights.live p = [f]) (hpurpose : f.purpose = k)
      (hlater : ∀ m ∈ awaited, DoneBefore s.server.log m f.number)
  | shown (hloading : loading = false) (hlive : s.flights.live p = []) (n : ℕ) (resp : α)
      (hn : n ≤ s.flights.started) (hshows : shows resp) (hthread : s.server.threads n = .done resp)
      (hthrough : (handler k).through (s.server.past n).reverse = some (.done resp))
      (hlater : ∀ m ∈ awaited, DoneBefore s.server.log m n)
  | failed (hloading : loading = false) (hlive : s.flights.live p = []) (hfailed : failed)

section Slice

variable {awaited : List ℕ} {p q : κ → Bool} {k k' : κ} {loading : Bool} {shows shows' : α → Prop}
variable {failed failed' : Prop}

/-- The programs go on, those of the awaited calls being over. -/
theorem Slice.serve (hslice : Slice handler s awaited p k loading shows failed)
    (hover : ∀ m ∈ awaited, (s.server.threads m).isOver = true) {server : Config ℕ σ Op Ans ε α}
    {label : Label ℕ η Op Ans} (hstep : sys.step s.server label = some server) :
    Slice handler { s with server := server } awaited p k loading shows failed := by
  have hlog : ∀ n, (∀ m ∈ awaited, DoneBefore s.server.log m n) → ∀ m ∈ awaited, DoneBefore server.log m n :=
    fun n hlater m hm => (hlater m hm).step (hover m hm) hstep
  cases hslice with
  | fetching hloading f hlive hpurpose hlater =>
      exact .fetching hloading f hlive hpurpose (hlog f.number hlater)
  | shown hloading hlive n resp hn hshows hthread hthrough hlater =>
      have hdone : (s.server.threads n).isOver = true := by rw [hthread]; rfl
      refine .shown hloading hlive n resp hn hshows ((threads_of_isOver hdone hstep).trans hthread) ?_ (hlog n hlater)
      change (handler k).through (server.past n).reverse = some (.done resp)
      rw [past_of_isOver hdone hstep]
      exact hthrough
  | failed hloading hlive hfailed => exact .failed hloading hlive hfailed

theorem Slice.imp (hslice : Slice handler s awaited p k loading shows failed) (hshows : ∀ resp, shows resp → shows' resp)
    (hfailed : failed → failed') : Slice handler s awaited p k loading shows' failed' := by
  cases hslice with
  | fetching hloading f hlive hpurpose hlater => exact .fetching hloading f hlive hpurpose hlater
  | shown hloading hlive n resp hn hresp hthread hthrough hlater =>
      exact .shown hloading hlive n resp hn (hshows resp hresp) hthread hthrough hlater
  | failed hloading hlive h => exact .failed hloading hlive (hfailed h)

/-- A call for another purpose is started. -/
theorem Slice.launch_other (hslice : Slice handler s awaited p k loading shows failed) (hk' : p k' = false) :
    Slice handler (s.launch handler k') awaited p k loading shows failed := by
  have hsame : (s.launch handler k').flights.live p = s.flights.live p := Flights.live_launch_of_other hk'
  cases hslice with
  | fetching hloading f hlive hpurpose hlater =>
      exact .fetching hloading f (hsame.trans hlive) hpurpose hlater
  | shown hloading hlive n resp hn hshows hthread hthrough hlater =>
      exact .shown hloading (hsame.trans hlive) n resp (Nat.le_succ_of_le hn) hshows
        ((threads_launch_of_le hn k').trans hthread) hthrough hlater
  | failed hloading hlive hfailed => exact .failed hloading (hsame.trans hlive) hfailed

/-- Calls for other purposes are overtaken. -/
theorem Slice.cancel_other (hslice : Slice handler s awaited p k loading shows failed)
    (hdisjoint : ∀ k, p k = true → q k = false) : Slice handler (s.cancel q) awaited p k loading shows failed := by
  have hsame : (s.cancel q).flights.live p = s.flights.live p := Flights.live_cancel_of_disjoint hdisjoint
  cases hslice with
  | fetching hloading f hlive hpurpose hlater => exact .fetching hloading f (hsame.trans hlive) hpurpose hlater
  | shown hloading hlive n resp hn hshows hthread hthrough hlater =>
      exact .shown hloading (hsame.trans hlive) n resp hn hshows hthread hthrough hlater
  | failed hloading hlive hfailed => exact .failed hloading (hsame.trans hlive) hfailed

/-- A call comes back that is not live, or is for another purpose. -/
theorem Slice.land_other [DecidableEq κ] (hslice : Slice handler s awaited p k loading shows failed) {f : Flight κ}
    (hf : f ∉ s.flights.live p) : Slice handler (s.land f) awaited p k loading shows failed := by
  have hsame : (s.land f).flights.live p = s.flights.live p := Flights.live_land_of_not_mem hf
  cases hslice with
  | fetching hloading g hlive hpurpose hlater => exact .fetching hloading g (hsame.trans hlive) hpurpose hlater
  | shown hloading hlive n resp hn hshows hthread hthrough hlater =>
      exact .shown hloading (hsame.trans hlive) n resp hn hshows hthread hthrough hlater
  | failed hloading hlive hfailed => exact .failed hloading (hsame.trans hlive) hfailed

/-- A live call is one by which something is being fetched. -/
theorem Slice.loading_of_live (hslice : Slice handler s awaited p k loading shows failed) {f : Flight κ}
    (hf : f ∈ s.flights.live p) : loading = true := by
  cases hslice with
  | fetching hloading => exact hloading
  | shown hloading hlive => rw [hlive] at hf; cases hf
  | failed hloading hlive => rw [hlive] at hf; cases hf

/-- The live call comes back with a response, which is shown. -/
theorem Slice.land_ok [DecidableEq κ] (hslice : Slice handler s awaited p k loading shows failed)
    (hs : Coherent handler s) {f : Flight κ} (hf : f ∈ s.flights.live p) {resp : α}
    (hresult : s.result? f = some (.ok resp)) (hshows : shows' resp) :
    Slice handler (s.land f) awaited p k false shows' failed' := by
  have hpending : f ∈ s.flights.pending := (Flights.mem_live.mp hf).1
  cases hslice with
  | fetching hloading g hlive hpurpose hlater =>
      obtain ⟨rfl, hnone⟩ := Flights.live_land_of_singleton hlive hf
      have hdone : s.server.threads f.number = .done resp := Program.eq_done_of_result? hresult
      have hthrough := hs.through f hpending
      rw [hpurpose, hdone] at hthrough
      exact .shown rfl hnone f.number resp (hs.numbered.number_le f hpending) hshows hdone hthrough hlater
  | shown hloading hlive => rw [hlive] at hf; cases hf
  | failed hloading hlive => rw [hlive] at hf; cases hf

/-- The live call fails. -/
theorem Slice.land_error [DecidableEq κ] (hslice : Slice handler s awaited p k loading shows failed) {f : Flight κ}
    (hf : f ∈ s.flights.live p) (hfailed : failed') : Slice handler (s.land f) awaited p k false shows' failed' := by
  cases hslice with
  | fetching hloading g hlive hpurpose hlater =>
      exact .failed rfl (Flights.live_land_of_singleton hlive hf).2 hfailed
  | shown hloading hlive => rw [hlive] at hf; cases hf
  | failed hloading hlive => rw [hlive] at hf; cases hf

/-- A call is started when none is live: it comes after all others. -/
theorem Slice.of_launch (hs : Coherent handler s) (hlive : s.flights.live p = []) (hk : p k = true)
    (awaited : List ℕ) : Slice handler (s.launch handler k) awaited p k true shows failed := by
  refine .fetching rfl (s.flights.next k) ?_ rfl fun m _ => hs.doneBefore_launch k m
  change (s.flights.launch k).live p = [s.flights.next k]
  rw [Flights.live_launch_of_purpose hk, hlive, List.nil_append]

/-- Once nothing is being fetched, the fetch has failed, or a response is shown that comes after the awaited calls. -/
theorem Slice.settled (hslice : Slice handler s awaited p k loading shows failed) (hloading : loading = false) :
    failed ∨ ∃ resp, shows resp ∧ ∃ n, (handler k).through (s.server.past n).reverse = some (.done resp) ∧
      ∀ m ∈ awaited, DoneBefore s.server.log m n := by
  cases hslice with
  | fetching hfetching => rw [hloading] at hfetching; cases hfetching
  | shown _ _ n resp _ hshows _ hthrough hlater => exact Or.inr ⟨resp, hshows, n, hthrough, hlater⟩
  | failed _ _ hfailed => exact Or.inl hfailed

/-- Something is being fetched exactly while a call that has not been overtaken fetches it. -/
theorem Slice.loading_iff (hslice : Slice handler s awaited p k loading shows failed) (hk : p k = true) :
    loading = true ↔ ∃ f ∈ s.flights.pending, f.cancelled = false ∧ f.purpose = k := by
  have hnone : s.flights.live p = [] → ¬ ∃ f ∈ s.flights.pending, f.cancelled = false ∧ f.purpose = k := by
    rintro hlive ⟨f, hf, hcancelled, rfl⟩
    have hmem : f ∈ s.flights.live p := Flights.mem_live.mpr ⟨hf, hk, hcancelled⟩
    rw [hlive] at hmem
    cases hmem
  cases hslice with
  | fetching hloading f hlive hpurpose hlater =>
      have hmem : f ∈ s.flights.live p := by rw [hlive]; exact List.mem_singleton_self f
      obtain ⟨hf, -, hcancelled⟩ := Flights.mem_live.mp hmem
      exact iff_of_true hloading ⟨f, hf, hcancelled, hpurpose⟩
  | shown hloading hlive => exact iff_of_false (by simp [hloading]) (hnone hlive)
  | failed hloading hlive => exact iff_of_false (by simp [hloading]) (hnone hlive)

end Slice

end Remote

end Lib
end Dmanager
