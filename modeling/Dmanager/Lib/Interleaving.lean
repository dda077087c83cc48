import Dmanager.Lib.Program
import Dmanager.Lib.TransitionSystem

/-!
# Programs that run at the same time

Several programs (`Dmanager.Lib.Program`) share one state, such as a database, and run in any order: one
step of the system is one call of one of the programs, with the answer the shared state gives to it, or a
step of the environment.  A run is a list of such steps, executed by `exec`.

* `System` — which answers the shared state may give to a call, and what it is afterwards.
* `Config` — the shared state, what is left of each program, and the log of the calls so far.
* `Along` — a property that the text of a program gives to each of its calls, in terms of the calls that the
  same program has made before it.  It is proved once about a text, alone, and then holds of every call in
  every interleaving (`Follows.step`, `Follows.call`).  `AlongOr` also says what holds when a program fails.
* `active` — the programs that are in a certain phase; one step changes the phase of one program.
-/

namespace Dmanager
namespace Lib

/-- The numerals of `Fin 1` and `Fin 2`, the names of one program and of two. -/
instance neZeroOne : NeZero 1 := ⟨one_ne_zero⟩

instance neZeroTwo : NeZero 2 := ⟨two_ne_zero⟩

section Text

variable {Op : Type} {Ans : Op → Type} {ε ε' α β : Type}

namespace Program

/-- What is left of a program after its next call, if the event is that call. -/
def resume [DecidableEq Op] (p : Program Op Ans ε α) (event : Event Op Ans) :
    Option (Program Op Ans ε α) :=
  match p with
  | .call op next => if h : event.op = op then some (next (h ▸ event.answer)) else none
  | .done _ => none
  | .fail _ => none

theorem resume_eq_some_iff [DecidableEq Op] {p q : Program Op Ans ε α} {event : Event Op Ans} :
    p.resume event = some q ↔ ∃ next, p = .call event.op next ∧ q = next event.answer := by
  obtain ⟨op, answer⟩ := event
  cases p with
  | done a => simp [resume]
  | fail e => simp [resume]
  | call op' next =>
      by_cases hop : op = op'
      · subst hop
        simp [resume, eq_comm]
      · simp [resume, hop, Ne.symm hop]

/-- How the program has ended, if it makes no further call. -/
def result? : Program Op Ans ε α → Option (Except ε α)
  | .done a => some (.ok a)
  | .fail e => some (.error e)
  | .call _ _ => none

/-- The program makes no further call. -/
def isOver (p : Program Op Ans ε α) : Bool := p.result?.isSome

theorem eq_done_of_result? {p : Program Op Ans ε α} {a : α} (hresult : p.result? = some (.ok a)) :
    p = .done a := by
  cases p with
  | done b => simpa [result?] using hresult
  | fail e => simp [result?] at hresult
  | call op next => simp [result?] at hresult

/-- The program without its result, so that programs with different results can run side by side. -/
def void (p : Program Op Ans ε α) : Program Op Ans ε Unit := p >>= fun _ => .done ()

/-- Every call `op` of the program is made with `P past op`, and if the program is done with `a` it is done
with `Q past a`, where `past` are the calls it has made before, the latest one first. -/
def Along (P : List (Event Op Ans) → Op → Prop) (Q : List (Event Op Ans) → α → Prop) :
    List (Event Op Ans) → Program Op Ans ε α → Prop
  | past, .done a => Q past a
  | _, .fail _ => True
  | past, .call op next => P past op ∧ ∀ answer, Along P Q (⟨op, answer⟩ :: past) (next answer)

variable {P : List (Event Op Ans) → Op → Prop} {Q : List (Event Op Ans) → α → Prop}
variable {R : List (Event Op Ans) → β → Prop} {past : List (Event Op Ans)}
variable {p : Program Op Ans ε α} {f : α → Program Op Ans ε β}

@[simp] theorem along_done (a : α) : (.done a : Program Op Ans ε α).Along P Q past ↔ Q past a := Iff.rfl

@[simp] theorem along_pure (a : α) : (pure a : Program Op Ans ε α).Along P Q past ↔ Q past a := Iff.rfl

@[simp] theorem along_fail (err : ε) : (.fail err : Program Op Ans ε α).Along P Q past := trivial

@[simp] theorem along_perform {op : Op} {Q : List (Event Op Ans) → Ans op → Prop} :
    (perform op : Program Op Ans ε (Ans op)).Along P Q past ↔
      P past op ∧ ∀ answer, Q (⟨op, answer⟩ :: past) answer := Iff.rfl

@[simp] theorem along_orFail {δ : Type} {e : δ → ε} {r : Except δ α} :
    (orFail e r : Program Op Ans ε α).Along P Q past ↔ ∀ a, r = .ok a → Q past a := by
  cases r with
  | ok a => simp [orFail]
  | error err => simp [orFail]

@[simp] theorem along_ensure {c : Prop} [Decidable c] {err : ε} {Q : List (Event Op Ans) → Unit → Prop} :
    (ensure c err : Program Op Ans ε Unit).Along P Q past ↔ (c → Q past ()) := by
  unfold ensure
  split
  · simp_all
  · simp_all

/-- What a composition does is what its first part does, with the rest as what has to hold then. -/
@[simp] theorem along_bind :
    (p >>= f).Along P R past ↔ p.Along P (fun past a => (f a).Along P R past) past := by
  induction p generalizing past with
  | done a => exact Iff.rfl
  | fail err => exact Iff.rfl
  | call op next ih => exact and_congr_right fun _ => forall_congr' fun answer => ih answer

@[simp] theorem along_mapError {g : ε → ε'} : (p.mapError g).Along P Q past ↔ p.Along P Q past := by
  induction p generalizing past with
  | done a => exact Iff.rfl
  | fail err => exact Iff.rfl
  | call op next ih => exact and_congr_right fun _ => forall_congr' fun answer => ih answer

@[simp] theorem along_void {Q : List (Event Op Ans) → Unit → Prop} :
    p.void.Along P Q past ↔ p.Along P (fun past _ => Q past ()) past :=
  along_bind

/-- Conditions that always hold. -/
theorem along_true (p : Program Op Ans ε α) : p.Along (fun _ _ => True) (fun _ _ => True) past := by
  induction p generalizing past with
  | done a => trivial
  | fail err => trivial
  | call op next ih => exact ⟨trivial, fun answer => ih answer⟩

/-- The conditions may be relaxed. -/
theorem Along.mono {P' : List (Event Op Ans) → Op → Prop} {Q' : List (Event Op Ans) → α → Prop}
    (halong : p.Along P Q past) (hP : ∀ past op, P past op → P' past op)
    (hQ : ∀ past a, Q past a → Q' past a) : p.Along P' Q' past := by
  induction p generalizing past with
  | done a => exact hQ past a halong
  | fail err => trivial
  | call op next ih => exact ⟨hP past op halong.1, fun answer => ih answer (halong.2 answer)⟩

/-- The same with a condition `E` on the failures. -/
def AlongOr (P : List (Event Op Ans) → Op → Prop) (Q : List (Event Op Ans) → α → Prop)
    (E : List (Event Op Ans) → ε → Prop) : List (Event Op Ans) → Program Op Ans ε α → Prop
  | past, .done a => Q past a
  | past, .fail e => E past e
  | past, .call op next => P past op ∧ ∀ answer, AlongOr P Q E (⟨op, answer⟩ :: past) (next answer)

section AlongOr

variable {E : List (Event Op Ans) → ε → Prop}

@[simp] theorem alongOr_done (a : α) : (.done a : Program Op Ans ε α).AlongOr P Q E past ↔ Q past a := Iff.rfl

@[simp] theorem alongOr_fail (err : ε) : (.fail err : Program Op Ans ε α).AlongOr P Q E past ↔ E past err :=
  Iff.rfl

@[simp] theorem alongOr_perform {op : Op} {Q : List (Event Op Ans) → Ans op → Prop} :
    (perform op : Program Op Ans ε (Ans op)).AlongOr P Q E past ↔
      P past op ∧ ∀ answer, Q (⟨op, answer⟩ :: past) answer := Iff.rfl

@[simp] theorem alongOr_orFail {δ : Type} {e : δ → ε} {r : Except δ α} :
    (orFail e r : Program Op Ans ε α).AlongOr P Q E past ↔
      (∀ a, r = .ok a → Q past a) ∧ ∀ d, r = .error d → E past (e d) := by
  cases r with
  | ok a => simp [orFail]
  | error err => simp [orFail]

@[simp] theorem alongOr_ensure {c : Prop} [Decidable c] {err : ε} {Q : List (Event Op Ans) → Unit → Prop} :
    (ensure c err : Program Op Ans ε Unit).AlongOr P Q E past ↔ (c → Q past ()) ∧ (¬ c → E past err) := by
  unfold ensure
  split
  · simp_all
  · simp_all

@[simp] theorem alongOr_bind :
    (p >>= f).AlongOr P R E past ↔ p.AlongOr P (fun past a => (f a).AlongOr P R E past) E past := by
  induction p generalizing past with
  | done a => exact Iff.rfl
  | fail err => exact Iff.rfl
  | call op next ih => exact and_congr_right fun _ => forall_congr' fun answer => ih answer

@[simp] theorem alongOr_void {Q : List (Event Op Ans) → Unit → Prop} :
    p.void.AlongOr P Q E past ↔ p.AlongOr P (fun past _ => Q past ()) E past :=
  alongOr_bind

/-- The conditions on the end may be relaxed. -/
theorem AlongOr.imp {Q' : List (Event Op Ans) → α → Prop} {E' : List (Event Op Ans) → ε → Prop}
    (halong : p.AlongOr P Q E past) (hQ : ∀ past a, Q past a → Q' past a) (hE : ∀ past e, E past e → E' past e) :
    p.AlongOr P Q' E' past := by
  induction p generalizing past with
  | done a => exact hQ past a halong
  | fail e => exact hE past e halong
  | call op next ih => exact ⟨halong.1, fun answer => ih answer (halong.2 answer)⟩

theorem AlongOr.mono {Q' : List (Event Op Ans) → α → Prop} (halong : p.AlongOr P Q E past)
    (hQ : ∀ past a, Q past a → Q' past a) : p.AlongOr P Q' E past :=
  halong.imp hQ fun _ _ hE => hE

/-- The condition on the failures may be dropped. -/
theorem AlongOr.along (halong : p.AlongOr P Q E past) : p.Along P Q past := by
  induction p generalizing past with
  | done a => exact halong
  | fail e => trivial
  | call op next ih => exact ⟨halong.1, fun answer => ih answer (halong.2 answer)⟩

/-- An attempt is done with the result of the program, be it an error or not. -/
theorem along_attempt {S : List (Event Op Ans) → Except ε α → Prop} :
    (p.attempt : Program Op Ans ε' (Except ε α)).Along P S past ↔
      p.AlongOr P (fun past a => S past (.ok a)) (fun past e => S past (.error e)) past := by
  induction p generalizing past with
  | done a => exact Iff.rfl
  | fail err => exact Iff.rfl
  | call op next ih => exact and_congr_right fun _ => forall_congr' fun answer => ih answer

end AlongOr

/-- An attempt does not fail. -/
theorem total_attempt (p : Program Op Ans ε α) : (p.attempt : Program Op Ans ε' (Except ε α)).Total := by
  induction p with
  | done a => trivial
  | fail e => trivial
  | call op next ih => exact ih

/-- `later` is what the calls were after `past`, and some calls that are not in `R`. -/
def Quietly (R : Op → Prop) (past later : List (Event Op Ans)) : Prop :=
  ∃ recent, later = recent ++ past ∧ ∀ event ∈ recent, ¬ R event.op

theorem Quietly.refl {R : Op → Prop} (past : List (Event Op Ans)) : Quietly R past past :=
  ⟨[], rfl, nofun⟩

theorem Quietly.mem_iff {R : Op → Prop} {later : List (Event Op Ans)} (hquiet : Quietly R past later)
    {event : Event Op Ans} (hR : R event.op) : event ∈ later ↔ event ∈ past := by
  obtain ⟨recent, rfl, hrecent⟩ := hquiet
  rw [List.mem_append]
  exact or_iff_right fun hmem => hrecent event hmem hR

/-- A program that makes no call in `R` adds only others. -/
theorem Never.alongOr {R : Op → Prop} (hnever : p.Never R) (hP : ∀ past op, ¬ R op → P past op)
    {start : List (Event Op Ans)} (hstart : Quietly R start past) :
    p.AlongOr P (fun later _ => Quietly R start later) (fun later _ => Quietly R start later) past := by
  induction p generalizing past with
  | done a => exact hstart
  | fail e => exact hstart
  | call op next ih =>
      refine ⟨hP past op hnever.1, fun answer => ih answer (hnever.2 answer) ?_⟩
      obtain ⟨recent, rfl, hrecent⟩ := hstart
      refine ⟨⟨op, answer⟩ :: recent, rfl, ?_⟩
      rw [List.forall_mem_cons]
      exact ⟨hnever.1, hrecent⟩

end Program

end Text

/-! ## Systems and their steps -/

variable {ι σ η : Type} {Op : Type} {Ans : Op → Type} {ε α : Type}

/-- A shared state: `answer s event` is the state after the call and the answer of `event`, `none` when the
state `s` does not give that answer; `env` is what happens without a call. -/
structure System (σ η : Type) (Op : Type) (Ans : Op → Type) where
  answer : σ → Event Op Ans → Option σ
  env : σ → η → Option σ

/-- A step: the next call of program `i` with its answer, or a step of the environment. -/
inductive Label (ι η : Type) (Op : Type) (Ans : Op → Type) where
  | call (i : ι) (event : Event Op Ans)
  | env (e : η)

/-- The shared state, the rest of each program, and the calls so far, the latest one first. -/
structure Config (ι σ : Type) (Op : Type) (Ans : Op → Type) (ε α : Type) where
  shared : σ
  threads : ι → Program Op Ans ε α
  log : List (ι × Event Op Ans)

/-- The programs before their first call. -/
def Config.start (shared : σ) (threads : ι → Program Op Ans ε α) : Config ι σ Op Ans ε α :=
  ⟨shared, threads, []⟩

/-- The calls of program `i` among those of a log. -/
def callsOf [DecidableEq ι] (i : ι) (log : List (ι × Event Op Ans)) : List (Event Op Ans) :=
  log.filterMap fun entry => if entry.1 = i then some entry.2 else none

/-- The calls that program `i` has made, the latest one first. -/
def Config.past [DecidableEq ι] (c : Config ι σ Op Ans ε α) (i : ι) : List (Event Op Ans) :=
  callsOf i c.log

/-! ## What the texts of the programs give to every run -/

section Log

variable [DecidableEq ι] {log : List (ι × Event Op Ans)} {i j : ι} {event : Event Op Ans}

@[simp] theorem callsOf_nil : callsOf i ([] : List (ι × Event Op Ans)) = [] := rfl

@[simp] theorem callsOf_cons_self : callsOf i ((i, event) :: log) = event :: callsOf i log := by
  simp [callsOf]

theorem callsOf_cons_of_ne (hne : i ≠ j) : callsOf j ((i, event) :: log) = callsOf j log := by
  simp [callsOf, hne]

theorem mem_callsOf : event ∈ callsOf i log ↔ (i, event) ∈ log := by
  simp only [callsOf, List.mem_filterMap, Option.ite_none_right_eq_some, Option.some.injEq]
  constructor
  · rintro ⟨⟨j, other⟩, hmem, rfl, rfl⟩
    exact hmem
  · intro hmem
    exact ⟨(i, event), hmem, rfl, rfl⟩

/-- The calls of a program that meet a condition, counted in the log of all programs. -/
theorem countP_callsOf {p : Event Op Ans → Bool} :
    (callsOf i log).countP p = log.countP fun entry => decide (entry.1 = i) && p entry.2 := by
  unfold callsOf
  rw [List.countP_filterMap]
  congr 1
  funext entry
  by_cases hentry : entry.1 = i
  · simp [hentry]
  · simp [hentry]

end Log

variable [DecidableEq ι]

/-- Every program still keeps to its text. -/
def Follows (P : ι → List (Event Op Ans) → Op → Prop) (Q : ι → List (Event Op Ans) → α → Prop)
    (c : Config ι σ Op Ans ε α) : Prop :=
  ∀ i, (c.threads i).Along (P i) (Q i) (c.past i)

variable {P : ι → List (Event Op Ans) → Op → Prop} {Q : ι → List (Event Op Ans) → α → Prop}
variable {c next : Config ι σ Op Ans ε α} {i j : ι} {event : Event Op Ans}

theorem follows_start {shared : σ} {threads : ι → Program Op Ans ε α}
    (htext : ∀ i, (threads i).Along (P i) (Q i) []) : Follows P Q (Config.start shared threads) := htext

/-- The call that a program makes is one that its text allows there. -/
theorem Follows.call (hfollows : Follows P Q c) {rest : Ans event.op → Program Op Ans ε α}
    (hcall : c.threads i = .call event.op rest) : P i (c.past i) event.op := by
  have htext := hfollows i
  rw [hcall] at htext
  exact htext.1

/-- What holds when a program is done. -/
theorem Follows.done (hfollows : Follows P Q c) {a : α} (hdone : c.threads i = .done a) :
    Q i (c.past i) a := by
  have htext := hfollows i
  rw [hdone] at htext
  exact htext

variable [DecidableEq Op] {sys : System σ η Op Ans}

/-- One step. -/
def System.step (sys : System σ η Op Ans) (c : Config ι σ Op Ans ε α) :
    Label ι η Op Ans → Option (Config ι σ Op Ans ε α)
  | .call i event =>
      ((c.threads i).resume event).bind fun rest =>
        (sys.answer c.shared event).map fun shared =>
          ⟨shared, Function.update c.threads i rest, (i, event) :: c.log⟩
  | .env e => (sys.env c.shared e).map fun shared => { c with shared := shared }

/-- What a call does. -/
theorem step_call_eq_some_iff :
    sys.step c (.call i event) = some next ↔
      ∃ rest shared, c.threads i = .call event.op rest ∧ sys.answer c.shared event = some shared ∧
        next = ⟨shared, Function.update c.threads i (rest event.answer), (i, event) :: c.log⟩ := by
  simp only [System.step, Option.bind_eq_some_iff, Option.map_eq_some_iff, Program.resume_eq_some_iff]
  constructor
  · rintro ⟨-, ⟨rest, hcall, rfl⟩, shared, hanswer, rfl⟩
    exact ⟨rest, shared, hcall, hanswer, rfl⟩
  · rintro ⟨rest, shared, hcall, hanswer, rfl⟩
    exact ⟨_, ⟨rest, hcall, rfl⟩, shared, hanswer, rfl⟩

/-- What a step of the environment does. -/
theorem step_env_eq_some_iff {e : η} :
    sys.step c (.env e) = some next ↔
      ∃ shared, sys.env c.shared e = some shared ∧ next = { c with shared := shared } := by
  simp only [System.step, Option.map_eq_some_iff]
  constructor
  · rintro ⟨shared, henv, rfl⟩
    exact ⟨shared, henv, rfl⟩
  · rintro ⟨shared, henv, rfl⟩
    exact ⟨shared, henv, rfl⟩

/-- A call of program `i` is added to the calls of `i`, and to those of no other program. -/
theorem past_of_step_call (hstep : sys.step c (.call i event) = some next) :
    next.past i = event :: c.past i ∧ ∀ j ≠ i, next.past j = c.past j := by
  obtain ⟨rest, shared, -, -, rfl⟩ := step_call_eq_some_iff.mp hstep
  exact ⟨callsOf_cons_self, fun j hj => callsOf_cons_of_ne (Ne.symm hj)⟩

theorem threads_of_step_call (hstep : sys.step c (.call i event) = some next) :
    ∀ j ≠ i, next.threads j = c.threads j := by
  obtain ⟨rest, shared, -, -, rfl⟩ := step_call_eq_some_iff.mp hstep
  exact fun j hj => Function.update_of_ne hj _ _

theorem Follows.step (hfollows : Follows P Q c) {label : Label ι η Op Ans}
    (hstep : sys.step c label = some next) : Follows P Q next := by
  cases label with
  | env e =>
      obtain ⟨shared, -, rfl⟩ := step_env_eq_some_iff.mp hstep
      exact hfollows
  | call i event =>
      obtain ⟨rest, shared, hcall, -, rfl⟩ := step_call_eq_some_iff.mp hstep
      intro j
      by_cases hij : i = j
      · subst hij
        have htext := hfollows i
        rw [hcall] at htext
        simpa [Config.past] using htext.2 event.answer
      · simpa [Config.past, callsOf_cons_of_ne hij, Function.update_of_ne (Ne.symm hij)] using hfollows j

/-- What holds of every call that is answered, and of its caller, holds of all the calls so far. -/
theorem forall_past_step {T : ι → Event Op Ans → Prop} {label : Label ι η Op Ans}
    (hlog : ∀ i, ∀ event ∈ c.past i, T i event)
    (hT : ∀ i event, label = .call i event → T i event) (hstep : sys.step c label = some next) :
    ∀ i, ∀ event ∈ next.past i, T i event := by
  cases label with
  | env e =>
      obtain ⟨shared, -, rfl⟩ := step_env_eq_some_iff.mp hstep
      exact hlog
  | call i event =>
      obtain ⟨hself, hothers⟩ := past_of_step_call hstep
      intro j other hother
      by_cases hj : j = i
      · subst hj
        rw [hself] at hother
        rcases List.mem_cons.mp hother with rfl | hold
        · exact hT j other rfl
        · exact hlog j other hold
      · rw [hothers j hj] at hother
        exact hlog j other hother

/-- A condition on the calls that later calls do not undo goes on to hold of all calls that have been made. -/
theorem made_step (hlater : ∀ i past event op, P i past op → P i (event :: past) op) (hfollows : Follows P Q c)
    {label : Label ι η Op Ans} (hmade : ∀ i, ∀ event ∈ c.past i, P i (c.past i) event.op)
    (hstep : sys.step c label = some next) : ∀ i, ∀ event ∈ next.past i, P i (next.past i) event.op := by
  cases label with
  | env e =>
      obtain ⟨shared, -, rfl⟩ := step_env_eq_some_iff.mp hstep
      exact hmade
  | call i event =>
      obtain ⟨hself, hothers⟩ := past_of_step_call hstep
      obtain ⟨rest, shared, hcall, -, -⟩ := step_call_eq_some_iff.mp hstep
      intro j other hother
      by_cases hj : j = i
      · subst hj
        rw [hself] at hother ⊢
        rcases List.mem_cons.mp hother with rfl | hold
        · exact hlater j _ _ _ (hfollows.call hcall)
        · exact hlater j _ _ _ (hmade j other hold)
      · rw [hothers j hj] at hother ⊢
        exact hmade j other hother

/-- Programs that cannot fail remain so. -/
theorem total_step (htotal : ∀ i, (c.threads i).Total) {label : Label ι η Op Ans}
    (hstep : sys.step c label = some next) (j : ι) : (next.threads j).Total := by
  cases label with
  | env e =>
      obtain ⟨shared, -, rfl⟩ := step_env_eq_some_iff.mp hstep
      exact htotal j
  | call i event =>
      obtain ⟨rest, shared, hcall, -, rfl⟩ := step_call_eq_some_iff.mp hstep
      by_cases hij : j = i
      · subst hij
        have htext := htotal j
        rw [hcall] at htext
        simpa using htext event.answer
      · simpa [Function.update_of_ne hij] using htotal j

/-! ## Programs in a phase -/

section Phase

variable [Fintype ι] (phase : List (Event Op Ans) → Program Op Ans ε α → Bool)

/-- The programs in a phase, which is read off the calls a program has made and what is left of it. -/
def active (c : Config ι σ Op Ans ε α) : Finset ι :=
  Finset.univ.filter fun i => phase (c.past i) (c.threads i) = true

omit [DecidableEq Op] in
variable {phase} in
@[simp] theorem mem_active : i ∈ active phase c ↔ phase (c.past i) (c.threads i) = true := by
  simp [active]

/-- A call changes the phase of the program that makes it and of no other. -/
theorem erase_active_of_step_call (hstep : sys.step c (.call i event) = some next) :
    (active phase next).erase i = (active phase c).erase i := by
  ext j
  simp only [Finset.mem_erase, mem_active]
  refine and_congr_right fun hj => ?_
  rw [(past_of_step_call hstep).2 j hj, threads_of_step_call hstep j hj]

omit [DecidableEq Op] in
/-- When only the programs in the phase have made calls of a kind, and none of them more than one, there are
no more such calls than programs in the phase. -/
theorem countP_log_le_card_active {p : Event Op Ans → Bool} (hone : ∀ i, (c.past i).countP p ≤ 1)
    (hphase : ∀ i, 0 < (c.past i).countP p → i ∈ active phase c) :
    (c.log.countP fun entry => p entry.2) ≤ (active phase c).card := by
  have hsum : ∀ log : List (ι × Event Op Ans),
      (log.countP fun entry => p entry.2) = ∑ i, (callsOf i log).countP p := by
    intro log
    induction log with
    | nil => simp
    | cons entry log ih =>
        simp only [countP_callsOf, List.countP_cons] at ih ⊢
        rw [Finset.sum_add_distrib, ← ih]
        cases hp : p entry.2 with
        | false => simp
        | true => simp
  calc (c.log.countP fun entry => p entry.2)
    _ = ∑ i, (c.past i).countP p := hsum c.log
    _ ≤ ∑ i, if i ∈ active phase c then 1 else 0 := by
        apply Finset.sum_le_sum
        intro i _
        by_cases hi : i ∈ active phase c
        · rw [if_pos hi]
          exact hone i
        · rw [if_neg hi]
          by_contra hpos
          exact hi (hphase i (by omega))
    _ = (active phase c).card := by
        rw [Finset.sum_ite_mem, Finset.univ_inter, Finset.card_eq_sum_ones]

end Phase

end Lib
end Dmanager
