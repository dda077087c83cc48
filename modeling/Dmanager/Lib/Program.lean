import Mathlib.Tactic

/-!
# Programs that call the outside world

A handler is a sequence of calls to services it does not own (a daemon, a database, another host), with
ordinary code in between that looks at the answers.  `Program` is such a sequence: the program is done, has
failed, or makes a call `op` and goes on with the answer, whose type depends on the call.

* `World` — what the outside answers: to each call, and to each repetition of it in the same run.
* `run` — the run of a program in a world: the trace of its calls with their answers, and how it ended.
  The calls made before (`past`) only decide which repetition a call is.
* `run_bind` — runs compose along `>>=`.
* `Succeeds`, `Occurs` — whether the run ends well, and which calls it makes, with a simp set that reads
  both off the text of a program.

A world is arbitrary, so a statement about all worlds is one about all answers and all failures of the
outside.
-/

namespace Dmanager
namespace Lib

/-- A program with calls `Op`, answers `Ans`, errors `ε` and results `α`. -/
inductive Program (Op : Type) (Ans : Op → Type) (ε α : Type) where
  | done (a : α)
  | fail (e : ε)
  | call (op : Op) (next : Ans op → Program Op Ans ε α)

/-- A call with its answer. -/
structure Event (Op : Type) (Ans : Op → Type) where
  op : Op
  answer : Ans op

/-- The answer to the call `op` when it is made for the `n`-th time, counted from zero. -/
abbrev World (Op : Type) (Ans : Op → Type) := (op : Op) → Nat → Ans op

/-- The trace and the end of a run. -/
structure Outcome (Op : Type) (Ans : Op → Type) (ε α : Type) where
  trace : List (Event Op Ans)
  result : Except ε α

namespace Program

variable {Op : Type} {Ans : Op → Type} {ε ε' α β : Type}

/-- Sequential composition. -/
protected def bind (p : Program Op Ans ε α) (f : α → Program Op Ans ε β) : Program Op Ans ε β :=
  match p with
  | .done a => f a
  | .fail e => .fail e
  | .call op next => .call op fun answer => (next answer).bind f

instance : Monad (Program Op Ans ε) where
  pure := .done
  bind := Program.bind

instance : LawfulMonad (Program Op Ans ε) := LawfulMonad.mk' _
  (fun p => by
    induction p with
    | done a => rfl
    | fail e => rfl
    | call op next ih => exact congrArg (Program.call op) (funext ih))
  (fun _ _ => rfl)
  (fun p f g => by
    induction p with
    | done a => rfl
    | fail e => rfl
    | call op next ih => exact congrArg (Program.call op) (funext ih))

@[simp] theorem done_bind (a : α) (f : α → Program Op Ans ε β) : (.done a : Program Op Ans ε α) >>= f = f a :=
  rfl

@[simp] theorem fail_bind (e : ε) (f : α → Program Op Ans ε β) :
    (.fail e : Program Op Ans ε α) >>= f = .fail e := rfl

/-- One call. -/
def perform (op : Op) : Program Op Ans ε (Ans op) := .call op .done

/-- Rename the errors. -/
def mapError (f : ε → ε') : Program Op Ans ε α → Program Op Ans ε' α
  | .done a => .done a
  | .fail e => .fail (f e)
  | .call op next => .call op fun answer => (next answer).mapError f

/-- Stop with an error when an answer is one. -/
def orFail {δ : Type} (f : δ → ε) : Except δ α → Program Op Ans ε α
  | .ok a => .done a
  | .error e => .fail (f e)

/-- Stop with an error unless a condition holds. -/
def ensure (c : Prop) [Decidable c] (e : ε) : Program Op Ans ε Unit := if c then .done () else .fail e

/-- Run a program to its end and hand its result over, be it an error or not. -/
def attempt : Program Op Ans ε α → Program Op Ans ε' (Except ε α)
  | .done a => .done (.ok a)
  | .fail e => .done (.error e)
  | .call op next => .call op fun answer => (next answer).attempt

/-! ## What the text of a program says

These properties hold of a program in every world. -/

/-- The program makes no call in `R`. -/
def Never (R : Op → Prop) : Program Op Ans ε α → Prop
  | .done _ => True
  | .fail _ => True
  | .call op next => ¬ R op ∧ ∀ answer, (next answer).Never R

/-- The program does not fail. -/
def Total : Program Op Ans ε α → Prop
  | .done _ => True
  | .fail _ => False
  | .call _ next => ∀ answer, (next answer).Total

/-- The program cannot be done before it has made a call in `D`, and cannot fail afterwards. -/
def Commits (D : Event Op Ans → Prop) : Program Op Ans ε α → Prop
  | .done _ => False
  | .fail _ => True
  | .call op next =>
      ∀ answer, D ⟨op, answer⟩ ∧ (next answer).Total ∨ ¬ D ⟨op, answer⟩ ∧ (next answer).Commits D

section Text

variable {R : Op → Prop} {D : Event Op Ans → Prop} {p : Program Op Ans ε α} {f : α → Program Op Ans ε β}
variable {δ : Type} {e : δ → ε} {r : Except δ α} {c : Prop} [Decidable c] {err : ε} {op : Op}
variable {g : Unit → Program Op Ans ε β} {k : Ans op → Program Op Ans ε β}

@[simp] theorem never_done (a : α) : (.done a : Program Op Ans ε α).Never R := trivial

@[simp] theorem never_perform : (perform op : Program Op Ans ε (Ans op)).Never R ↔ ¬ R op :=
  and_iff_left fun _ => trivial

@[simp] theorem never_perform_bind :
    (perform op >>= k).Never R ↔ ¬ R op ∧ ∀ answer, (k answer).Never R := Iff.rfl

@[simp] theorem never_orFail_bind :
    (orFail e r >>= f).Never R ↔ ∀ a, r = .ok a → (f a).Never R := by
  cases r with
  | ok a => simp [orFail]
  | error err => simp [orFail, Never]

@[simp] theorem never_ensure_bind : (ensure c err >>= g).Never R ↔ (c → (g ()).Never R) := by
  unfold ensure
  split
  · simp_all
  · simp_all [Never]

theorem Never.bind (hp : p.Never R) (hf : ∀ a, (f a).Never R) : (p >>= f).Never R := by
  induction p with
  | done a => exact hf a
  | fail e => trivial
  | call op next ih => exact ⟨hp.1, fun answer => ih answer (hp.2 answer)⟩

theorem Never.mapError {g : ε → ε'} (hp : p.Never R) : (p.mapError g).Never R := by
  induction p with
  | done a => trivial
  | fail e => trivial
  | call op next ih => exact ⟨hp.1, fun answer => ih answer (hp.2 answer)⟩

theorem Never.attempt (hp : p.Never R) : (p.attempt : Program Op Ans ε' (Except ε α)).Never R := by
  induction p with
  | done a => trivial
  | fail e => trivial
  | call op next ih => exact ⟨hp.1, fun answer => ih answer (hp.2 answer)⟩

@[simp] theorem total_done (a : α) : (.done a : Program Op Ans ε α).Total := trivial

theorem Total.bind (hp : p.Total) (hf : ∀ a, (f a).Total) : (p >>= f).Total := by
  induction p with
  | done a => exact hf a
  | fail e => cases hp
  | call op next ih => exact fun answer => ih answer (hp answer)

theorem Total.mapError {g : ε → ε'} (hp : p.Total) : (p.mapError g).Total := by
  induction p with
  | done a => trivial
  | fail e => cases hp
  | call op next ih => exact fun answer => ih answer (hp answer)

@[simp] theorem commits_orFail_bind :
    (orFail e r >>= f).Commits D ↔ ∀ a, r = .ok a → (f a).Commits D := by
  cases r with
  | ok a => simp [orFail]
  | error err => simp [orFail, Commits]

@[simp] theorem commits_ensure_bind : (ensure c err >>= g).Commits D ↔ (c → (g ()).Commits D) := by
  unfold ensure
  split
  · simp_all
  · simp_all [Commits]

/-- A call that is never in `D`. -/
theorem commits_of_other (hother : ∀ answer, ¬ D ⟨op, answer⟩) (hrest : ∀ answer, (k answer).Commits D) :
    (perform op >>= k).Commits D :=
  fun answer => Or.inr ⟨hother answer, hrest answer⟩

/-- The call that commits: it is in `D` when its answer is not an error, and nothing fails after that. -/
theorem commits_of_deed {view : Ans op → Except δ α}
    (hdeed : ∀ answer, D ⟨op, answer⟩ ↔ ∃ a, view answer = .ok a) (hrest : ∀ a, (f a).Total) :
    (perform op >>= fun answer => orFail e (view answer) >>= f).Commits D := by
  intro answer
  cases hview : view answer with
  | ok a =>
      refine Or.inl ⟨(hdeed answer).mpr ⟨a, hview⟩, ?_⟩
      change (orFail e (view answer) >>= f).Total
      rw [hview]
      exact hrest a
  | error err =>
      refine Or.inr ⟨?_, ?_⟩
      · rw [hdeed answer, hview]
        simp
      · change (orFail e (view answer) >>= f).Commits D
        rw [hview]
        trivial

theorem Commits.bind (hp : p.Commits D) (hf : ∀ a, (f a).Total) : (p >>= f).Commits D := by
  induction p with
  | done a => cases hp
  | fail e => trivial
  | call op next ih =>
      intro answer
      exact (hp answer).imp (fun hdeed => ⟨hdeed.1, hdeed.2.bind hf⟩)
        fun hrest => ⟨hrest.1, ih answer hrest.2⟩

/-- A part that makes no call in `D` may come first. -/
theorem Never.bind_commits (hp : p.Never R) (hD : ∀ event, D event → R event.op)
    (hf : ∀ a, (f a).Commits D) : (p >>= f).Commits D := by
  induction p with
  | done a => exact hf a
  | fail e => trivial
  | call op next ih =>
      intro answer
      exact Or.inr ⟨fun hdeed => hp.1 (hD _ hdeed), ih answer (hp.2 answer)⟩

theorem Commits.mapError {g : ε → ε'} (hp : p.Commits D) : (p.mapError g).Commits D := by
  induction p with
  | done a => cases hp
  | fail e => trivial
  | call op next ih =>
      intro answer
      exact (hp answer).imp (fun hdeed => ⟨hdeed.1, hdeed.2.mapError⟩)
        fun hrest => ⟨hrest.1, ih answer hrest.2⟩

end Text

/-! ## Runs -/

variable [DecidableEq Op]

/-- Run a program after the calls `past`. -/
def run (w : World Op Ans) (past : List Op) : Program Op Ans ε α → Outcome Op Ans ε α
  | .done a => ⟨[], .ok a⟩
  | .fail e => ⟨[], .error e⟩
  | .call op next =>
      let rest := run w (op :: past) (next (w op (past.count op)))
      ⟨⟨op, w op (past.count op)⟩ :: rest.trace, rest.result⟩

/-- The calls made when a run is over. -/
def after (w : World Op Ans) (past : List Op) (p : Program Op Ans ε α) : List Op :=
  ((run w past p).trace.map Event.op).reverse ++ past

variable {w : World Op Ans} {past : List Op} {p : Program Op Ans ε α} {f : α → Program Op Ans ε β}

/-! ## Runs of the operators -/

@[simp] theorem run_done (a : α) : run w past (.done a : Program Op Ans ε α) = ⟨[], .ok a⟩ := rfl

@[simp] theorem run_fail (e : ε) : run w past (.fail e : Program Op Ans ε α) = ⟨[], .error e⟩ := rfl

/-- A call, then the rest. -/
@[simp] theorem run_perform_bind (op : Op) (g : Ans op → Program Op Ans ε β) :
    run w past (perform op >>= g) =
      ⟨⟨op, w op (past.count op)⟩ :: (run w (op :: past) (g (w op (past.count op)))).trace,
        (run w (op :: past) (g (w op (past.count op)))).result⟩ := rfl

theorem run_call (op : Op) (next : Ans op → Program Op Ans ε α) :
    run w past (.call op next) =
      ⟨⟨op, w op (past.count op)⟩ :: (run w (op :: past) (next (w op (past.count op)))).trace,
        (run w (op :: past) (next (w op (past.count op)))).result⟩ := rfl

/-- The run of a composition is the run of the first part, and, if that is done, the run of the rest. -/
theorem run_bind :
    run w past (p >>= f) =
      match (run w past p).result with
      | .ok a =>
        ⟨(run w past p).trace ++ (run w (after w past p) (f a)).trace,
          (run w (after w past p) (f a)).result⟩
      | .error e => ⟨(run w past p).trace, .error e⟩ := by
  induction p generalizing past with
  | done a => rfl
  | fail e => rfl
  | call op next ih =>
      have hrest : run w (op :: past) (next (w op (past.count op)) >>= f) = _ := ih (w op (past.count op))
      have hstep : run w past (Program.call op next >>= f) =
          ⟨⟨op, w op (past.count op)⟩ :: (run w (op :: past) (next (w op (past.count op)) >>= f)).trace,
            (run w (op :: past) (next (w op (past.count op)) >>= f)).result⟩ := rfl
      have hafter : after w past (Program.call op next) =
          after w (op :: past) (next (w op (past.count op))) := by
        simp [after, run_call]
      rw [hstep, hrest, run_call, hafter]
      dsimp only
      cases (run w (op :: past) (next (w op (past.count op)))).result with
      | ok a => rfl
      | error e => rfl

@[simp] theorem after_done (a : α) : after w past (.done a : Program Op Ans ε α) = past := rfl

@[simp] theorem after_perform_bind (op : Op) (g : Ans op → Program Op Ans ε β) :
    after w past (perform op >>= g) = after w (op :: past) (g (w op (past.count op))) := by
  simp [after]

/-- A call that the program never makes has been made as often after it as before. -/
theorem count_after_of_never {R : Op → Prop} (hnever : p.Never R) {op : Op} (hop : R op) :
    (after w past p).count op = past.count op := by
  induction p generalizing past with
  | done a => rfl
  | fail e => rfl
  | call op' next ih =>
      obtain ⟨hother, hrest⟩ := hnever
      have hafter : after w past (Program.call op' next) =
          after w (op' :: past) (next (w op' (past.count op'))) := by
        simp [after, run_call]
      have hne : op' ≠ op := by
        rintro rfl
        exact hother hop
      rw [hafter, ih _ (hrest _), List.count_cons_of_ne hne]

/-- An attempt makes the calls of the program and never fails. -/
theorem run_attempt : run w past (attempt p : Program Op Ans ε' (Except ε α)) =
    ⟨(run w past p).trace, .ok (run w past p).result⟩ := by
  induction p generalizing past with
  | done a => rfl
  | fail e => rfl
  | call op next ih =>
      have hrest : run w (op :: past) (attempt (next (w op (past.count op)))) = _ :=
        ih (w op (past.count op))
      rw [attempt, run_call, hrest, run_call]

/-- Renaming the errors changes no call. -/
theorem run_mapError {g : ε → ε'} : run w past (p.mapError g) =
    ⟨(run w past p).trace, (run w past p).result.mapError g⟩ := by
  induction p generalizing past with
  | done a => rfl
  | fail e => rfl
  | call op next ih =>
      have hrest : run w (op :: past) ((next (w op (past.count op))).mapError g) = _ :=
        ih (w op (past.count op))
      rw [mapError, run_call, hrest, run_call]

/-! ## What a run does -/

/-- The run ends with the value `a`. -/
def Returns (w : World Op Ans) (past : List Op) (p : Program Op Ans ε α) (a : α) : Prop :=
  (run w past p).result = .ok a

/-- The run ends without an error. -/
def Succeeds (w : World Op Ans) (past : List Op) (p : Program Op Ans ε α) : Prop :=
  ∃ a, Returns w past p a

/-- The run makes the call, and gets this answer. -/
def Occurs (w : World Op Ans) (past : List Op) (p : Program Op Ans ε α) (event : Event Op Ans) : Prop :=
  event ∈ (run w past p).trace

variable {event : Event Op Ans}

@[simp] theorem returns_done (a b : α) : Returns w past (.done a : Program Op Ans ε α) b ↔ a = b := by
  simp [Returns]

@[simp] theorem not_returns_fail (e : ε) (a : α) : ¬ Returns w past (.fail e : Program Op Ans ε α) a := by
  simp [Returns]

@[simp] theorem returns_perform_bind (op : Op) (g : Ans op → Program Op Ans ε β) (b : β) :
    Returns w past (perform op >>= g) b ↔ Returns w (op :: past) (g (w op (past.count op))) b := Iff.rfl

@[simp] theorem returns_orFail_bind {δ : Type} (e : δ → ε) (r : Except δ α)
    (g : α → Program Op Ans ε β) (b : β) :
    Returns w past (orFail e r >>= g) b ↔ ∃ a, r = .ok a ∧ Returns w past (g a) b := by
  cases r with
  | ok a => simp [orFail]
  | error err => simp [orFail]

@[simp] theorem returns_ensure_bind (c : Prop) [Decidable c] (e : ε) (g : Unit → Program Op Ans ε β)
    (b : β) : Returns w past (ensure c e >>= g) b ↔ c ∧ Returns w past (g ()) b := by
  unfold ensure
  split
  · simp_all
  · simp_all

theorem returns_bind {b : β} :
    Returns w past (p >>= f) b ↔
      ∃ a, Returns w past p a ∧ Returns w (after w past p) (f a) b := by
  unfold Returns
  rw [run_bind]
  cases (run w past p).result with
  | ok a => simp
  | error e => simp

@[simp] theorem succeeds_done (a : α) : Succeeds w past (.done a : Program Op Ans ε α) := ⟨a, rfl⟩

@[simp] theorem not_succeeds_fail (e : ε) : ¬ Succeeds w past (.fail e : Program Op Ans ε α) := by
  simp [Succeeds]

@[simp] theorem succeeds_perform_bind (op : Op) (g : Ans op → Program Op Ans ε β) :
    Succeeds w past (perform op >>= g) ↔ Succeeds w (op :: past) (g (w op (past.count op))) := Iff.rfl

@[simp] theorem succeeds_orFail {δ : Type} (e : δ → ε) (r : Except δ α) :
    Succeeds w past (orFail e r : Program Op Ans ε α) ↔ ∃ a, r = .ok a := by
  cases r with
  | ok a => simp [orFail]
  | error err => simp [orFail]

@[simp] theorem succeeds_orFail_bind {δ : Type} (e : δ → ε) (r : Except δ α)
    (g : α → Program Op Ans ε β) :
    Succeeds w past (orFail e r >>= g) ↔ ∃ a, r = .ok a ∧ Succeeds w past (g a) := by
  cases r with
  | ok a => simp [orFail]
  | error err => simp [orFail]

@[simp] theorem succeeds_ensure_bind (c : Prop) [Decidable c] (e : ε) (g : Unit → Program Op Ans ε β) :
    Succeeds w past (ensure c e >>= g) ↔ c ∧ Succeeds w past (g ()) := by
  unfold ensure
  split
  · simp_all
  · simp_all

theorem succeeds_bind :
    Succeeds w past (p >>= f) ↔ ∃ a, Returns w past p a ∧ Succeeds w (after w past p) (f a) := by
  simp only [Succeeds, returns_bind]
  constructor
  · rintro ⟨b, a, hfirst, hrest⟩
    exact ⟨a, hfirst, b, hrest⟩
  · rintro ⟨a, hfirst, b, hrest⟩
    exact ⟨b, a, hfirst, hrest⟩

theorem succeeds_mapError {g : ε → ε'} : Succeeds w past (p.mapError g) ↔ Succeeds w past p := by
  unfold Succeeds Returns
  rw [run_mapError]
  cases (run w past p).result with
  | ok a => simp [Except.mapError]
  | error e => simp [Except.mapError]

theorem succeeds_bind_done {g : α → β} :
    Succeeds w past (p >>= fun a => (.done (g a) : Program Op Ans ε β)) ↔ Succeeds w past p := by
  rw [succeeds_bind]
  exact exists_congr fun a => and_iff_left (succeeds_done (g a))

@[simp] theorem not_occurs_done (a : α) : ¬ Occurs w past (.done a : Program Op Ans ε α) event := by
  simp [Occurs]

@[simp] theorem not_occurs_fail (e : ε) : ¬ Occurs w past (.fail e : Program Op Ans ε α) event := by
  simp [Occurs]

@[simp] theorem occurs_perform_bind (op : Op) (g : Ans op → Program Op Ans ε β) :
    Occurs w past (perform op >>= g) event ↔
      event = ⟨op, w op (past.count op)⟩ ∨
        Occurs w (op :: past) (g (w op (past.count op))) event := by
  simp [Occurs]

@[simp] theorem occurs_orFail_bind {δ : Type} (e : δ → ε) (r : Except δ α)
    (g : α → Program Op Ans ε β) :
    Occurs w past (orFail e r >>= g) event ↔ ∃ a, r = .ok a ∧ Occurs w past (g a) event := by
  cases r with
  | ok a => simp [orFail]
  | error err => simp [orFail]

@[simp] theorem occurs_ensure_bind (c : Prop) [Decidable c] (e : ε) (g : Unit → Program Op Ans ε β) :
    Occurs w past (ensure c e >>= g) event ↔ c ∧ Occurs w past (g ()) event := by
  unfold ensure
  split
  · simp_all
  · simp_all

theorem occurs_bind :
    Occurs w past (p >>= f) event ↔
      Occurs w past p event ∨ ∃ a, Returns w past p a ∧ Occurs w (after w past p) (f a) event := by
  unfold Occurs Returns
  rw [run_bind]
  cases (run w past p).result with
  | ok a => simp
  | error e => simp

theorem occurs_bind_done {g : α → β} :
    Occurs w past (p >>= fun a => (.done (g a) : Program Op Ans ε β)) event ↔ Occurs w past p event := by
  simp [occurs_bind]

theorem occurs_attempt :
    Occurs w past (attempt p : Program Op Ans ε' (Except ε α)) event ↔ Occurs w past p event := by
  unfold Occurs
  rw [run_attempt]

theorem occurs_mapError {g : ε → ε'} : Occurs w past (p.mapError g) event ↔ Occurs w past p event := by
  unfold Occurs
  rw [run_mapError]

/-! ## What every run of a text does -/

section EveryWorld

variable {R : Op → Prop} {D : Event Op Ans → Prop}

theorem Never.not_occurs (hnever : p.Never R) (hop : R event.op) : ¬ Occurs w past p event := by
  induction p generalizing past with
  | done a => simp
  | fail e => simp
  | call op next ih =>
      obtain ⟨hnot, hrest⟩ := hnever
      intro hoccurs
      rcases List.mem_cons.mp hoccurs with rfl | hlater
      · exact hnot hop
      · exact ih _ (hrest _) hlater

/-- What the events of such calls are mapped to is not in the trace. -/
theorem Never.filterMap_trace {γ : Type} {f : Event Op Ans → Option γ} (hnever : p.Never R)
    (hf : ∀ event, f event ≠ none → R event.op) : (run w past p).trace.filterMap f = [] := by
  rw [List.filterMap_eq_nil_iff]
  intro event hevent
  by_contra hsome
  exact hnever.not_occurs (hf event hsome) hevent

theorem occurs_bind_of_never (hf : ∀ a, (f a).Never R) (hop : R event.op) :
    Occurs w past (p >>= f) event ↔ Occurs w past p event := by
  rw [occurs_bind, or_iff_left]
  rintro ⟨a, -, hoccurs⟩
  exact (hf a).not_occurs hop hoccurs

theorem Total.succeeds (htotal : p.Total) : Succeeds w past p := by
  induction p generalizing past with
  | done a => exact succeeds_done a
  | fail e => cases htotal
  | call op next ih => exact ih _ (htotal _)

/-- A program that commits with the calls in `D` is done exactly when it makes one of them. -/
theorem Commits.succeeds_iff (hcommits : p.Commits D) :
    Succeeds w past p ↔ ∃ event, D event ∧ Occurs w past p event := by
  induction p generalizing past with
  | done a => cases hcommits
  | fail e => simp
  | call op next ih =>
      rcases hcommits (w op (past.count op)) with ⟨hdeed, htotal⟩ | ⟨hnot, hrest⟩
      · exact ⟨fun _ => ⟨_, hdeed, List.mem_cons_self⟩, fun _ => htotal.succeeds⟩
      · refine (ih _ hrest).trans ⟨?_, ?_⟩
        · rintro ⟨event, hevent, hoccurs⟩
          exact ⟨event, hevent, List.mem_cons_of_mem _ hoccurs⟩
        · rintro ⟨event, hevent, hoccurs⟩
          rcases List.mem_cons.mp hoccurs with rfl | hlater
          · exact absurd hevent hnot
          · exact ⟨event, hevent, hlater⟩

end EveryWorld

end Program

end Lib
end Dmanager
