import Dmanager.Tailscale.Node

/-!
# The embedded Tailscale node: `Serve`, `ServeHTTPS` and `Close`

The goroutine of `cmd/serve.go` that starts the node goes on to `Serve`, and begins a second one for `ServeHTTPS`, while
any number of calls of `Close` may come.  Every access to the flags, to `closeOnce` and to tsnet is one step here; the
steps of `Start` are those of `Dmanager.Tailscale.Node`.

* `LifecycleInv` — what the flags and the phases of the calls say about each other.
* `close_agrees` — when a `Close` has returned, tsnet has been closed if and only if the first `Close` saw the flag
  `started`; all calls return what became of that, and no later call closes tsnet any more.
* `close_agrees_leak` — so a node stays open for good when `Start` stores the flag after a `Close` has looked at it.
* `serve_quiet` — when a `Close` has begun, no failure of tsnet that comes later is reported by `Serve` or `ServeHTTPS`.
-/

namespace Dmanager
namespace Tailscale
namespace Closing

open Go Lib

/-! ## Close -/

/-- What becomes of `n.srv.Close()`. -/
inductive CloseOutcome where
  | returned (err : Option GoString)
  | panicked (value : GoString)
  deriving DecidableEq, Repr

/-- What `closeErr` is then; a panic is recovered. -/
def CloseOutcome.err : CloseOutcome → Option GoString
  | .returned err => err
  | .panicked value => some (str "tsnet close panicked: " ++ value)

/-- `closeOnce`: who is inside is remembered. -/
inductive Once (κ : Type) where
  | fresh
  | running (k : κ)
  | finished
  deriving DecidableEq

/-- How far a call of `Close` has come. -/
inductive ClosePhase where
  | idle
  | entering
  | inside
  | closing
  | recording (outcome : CloseOutcome)
  | leaving
  | reading
  | returned (err : Option GoString)
  deriving DecidableEq

/-- A step of `Close`. -/
inductive CloseStep where
  | storeClosing
  | enter
  | loadStarted
  | closeServer (outcome : CloseOutcome)
  | record
  | leave
  | readErr
  deriving DecidableEq

/-! ## Serve and ServeHTTPS -/

/-- `ipnstate.Status`, with the field that only `ServeHTTPS` reads. -/
structure TailnetStatus extends Status where
  magicDNSEnabled : Bool
  deriving DecidableEq, Repr

/-- How far `Serve` or `ServeHTTPS` has come. -/
inductive ServingPhase where
  | waiting
  | connecting
  | asking
  | binding
  | serving
  | failing (err : GoString)
  | ended (err : Option GoString)
  deriving DecidableEq

/-- A step of them, with the answer of the call that it makes. -/
inductive ServingStep where
  | begin
  | up (outcome : Except GoString TailnetStatus)
  | localClient (failure : Option GoString)
  | listen (failure : Option GoString)
  | serve (failure : Option GoString)
  | loadClosing
  deriving DecidableEq

def magicDNSDisabled : GoString :=
  str "tailscale: you must enable MagicDNS in the DNS page of the admin panel to proceed. " ++
    str "See https://tailscale.com/s/https"

def certificatesDisabled : GoString :=
  str "tailscale: you must enable HTTPS in the admin panel to proceed. See https://tailscale.com/s/https"

/-- The steps that `Serve` and `ServeHTTPS` share, with the texts of their errors. -/
def listenStep (listenFailed serveFailed : String) (closing : Bool) :
    ServingPhase → ServingStep → Option ServingPhase
  | .binding, .listen (some err) => some (.failing (str listenFailed ++ err))
  | .binding, .listen none => some .serving
  | .serving, .serve (some err) => some (.failing (str serveFailed ++ err))
  | .serving, .serve none => some (.ended none)
  | .failing err, .loadClosing => some (.ended (if closing then none else some err))
  | _, _ => none

/-- One step of `Serve`, which begins when `Start` has returned nil. -/
def serveStep (closing : Bool) (start : StartPhase) : ServingPhase → ServingStep → Option ServingPhase
  | .waiting, .begin => if start = .returned (.ok ()) then some .binding else none
  | phase, move => listenStep "tailscale listen failed: " "tailscale serve loop failed: " closing phase move

/-- One step of `ServeHTTPS`. -/
def serveHTTPSStep (httpsEnabled closing : Bool) (start : StartPhase) :
    ServingPhase → ServingStep → Option ServingPhase
  | .waiting, .begin => if httpsEnabled = true ∧ start = .returned (.ok ()) then some .connecting else none
  | .connecting, .up (.error err) => some (.failing (str "tailscale TLS listen failed: " ++ err))
  | .connecting, .up (.ok st) =>
    if st.magicDNSEnabled = false then some (.ended (some magicDNSDisabled))
    else if st.certDomains = [] then some (.ended (some certificatesDisabled))
    else some .asking
  | .asking, .localClient (some err) => some (.failing (str "tailscale local client failed: " ++ err))
  | .asking, .localClient none => some .binding
  | phase, move => listenStep "tailscale TLS listen failed: " "tailscale HTTPS serve loop failed: " closing phase move

/-! ## The node and its goroutines -/

/-- The node, the goroutines, and what is only remembered: what the first `Close` saw in `started`, and what became of
tsnet's `Close`, with the number of its calls. -/
structure State (κ : Type) where
  node : Node
  closing : Bool
  once : Once κ
  closeErr : Option GoString
  start : StartPhase
  serve : ServingPhase
  serveHTTPS : ServingPhase
  closers : κ → ClosePhase
  saw : Option Bool
  outcome : Option CloseOutcome
  closes : Nat

/-- The node after `New`. -/
def State.init {κ : Type} (cfg : TailscaleConfig) : State κ where
  node := Node.new cfg
  closing := false
  once := .fresh
  closeErr := none
  start := .creating
  serve := .waiting
  serveHTTPS := .waiting
  closers := fun _ => .idle
  saw := none
  outcome := none
  closes := 0

/-- A step of one of the goroutines. -/
inductive Label (κ : Type) where
  | start (move : StartStep)
  | serve (move : ServingStep)
  | serveHTTPS (move : ServingStep)
  | close (k : κ) (move : CloseStep)

variable {κ : Type} [DecidableEq κ]

def State.setCloser (s : State κ) (k : κ) (phase : ClosePhase) : State κ :=
  { s with closers := Function.update s.closers k phase }

/-- One step of `Close`. -/
def closeStep (s : State κ) (k : κ) : ClosePhase → CloseStep → Option (State κ)
  | .idle, .storeClosing => some (State.setCloser { s with closing := true } k .entering)
  | .entering, .enter =>
    match s.once with
    | .fresh => some (State.setCloser { s with once := .running k } k .inside)
    | .running _ => none
    | .finished => some (s.setCloser k .reading)
  | .inside, .loadStarted =>
    if s.node.started then some (State.setCloser { s with saw := some true } k .closing)
    else some (State.setCloser { s with saw := some false } k .leaving)
  | .closing, .closeServer outcome =>
    some (State.setCloser { s with outcome := some outcome, closes := s.closes + 1 } k (.recording outcome))
  | .recording outcome, .record => some (State.setCloser { s with closeErr := outcome.err } k .leaving)
  | .leaving, .leave => some (State.setCloser { s with once := .finished } k .reading)
  | .reading, .readErr => some (s.setCloser k (.returned s.closeErr))
  | _, _ => none

/-- One atomic step. -/
def step (s : State κ) : Label κ → Option (State κ)
  | .start move => (startStep s.node s.start move).map fun result => { s with node := result.1, start := result.2 }
  | .serve move => (serveStep s.closing s.start s.serve move).map fun phase => { s with serve := phase }
  | .serveHTTPS move =>
    (serveHTTPSStep s.node.httpsEnabled s.closing s.start s.serveHTTPS move).map fun phase =>
      { s with serveHTTPS := phase }
  | .close k move => closeStep s k (s.closers k) move

/-! ## What the flags and the phases say about each other -/

/-- The function under `closeOnce` has run. -/
structure Settled (s : State κ) : Prop where
  looked : s.saw.isSome = true
  closed_iff : s.outcome.isSome = true ↔ s.saw = some true
  closeErr : s.closeErr = s.outcome.bind CloseOutcome.err

/-- The call that is inside `closeOnce`. -/
def InsideInv (s : State κ) : ClosePhase → Prop
  | .inside => s.saw = none ∧ s.outcome = none ∧ s.closeErr = none
  | .closing => s.saw = some true ∧ s.outcome = none ∧ s.closeErr = none
  | .recording outcome => s.saw = some true ∧ s.outcome = some outcome
  | .leaving => Settled s
  | _ => False

/-- How far `closeOnce` has come. -/
def TurnInv (s : State κ) : Once κ → Prop
  | .fresh => s.saw = none ∧ s.outcome = none ∧ s.closeErr = none
  | .running k => InsideInv s (s.closers k)
  | .finished => Settled s

/-- A call that is not inside `closeOnce`. -/
def OutsideInv (s : State κ) : ClosePhase → Prop
  | .idle => True
  | .entering => s.closing = true
  | .reading => s.closing = true ∧ s.once = .finished
  | .returned err => s.closing = true ∧ s.once = .finished ∧ err = s.closeErr
  | _ => False

/-- What holds of every state. -/
structure LifecycleInv (s : State κ) : Prop where
  turn : TurnInv s s.once
  outside : ∀ k, s.once ≠ .running k → OutsideInv s (s.closers k)
  started : s.saw = some true → s.node.started = true
  closes : s.closes = if s.outcome.isSome then 1 else 0
  announced : s.once ≠ .fresh → s.closing = true

@[simp] theorem closers_setCloser_self (s : State κ) (k : κ) (phase : ClosePhase) :
    (s.setCloser k phase).closers k = phase := by
  simp [State.setCloser]

@[simp] theorem closers_setCloser_of_ne (s : State κ) {j k : κ} (phase : ClosePhase) (hne : j ≠ k) :
    (s.setCloser k phase).closers j = s.closers j := by
  simp [State.setCloser, hne]

theorem startStep_started {n next : Node} {phase after : StartPhase} {move : StartStep}
    (hstep : startStep n phase move = some (next, after)) (hstarted : n.started = true) : next.started = true := by
  unfold startStep at hstep
  split at hstep
  all_goals first
    | cases hstep; exact hstarted
    | cases hstep; rfl
    | cases hstep

omit [DecidableEq κ] in
theorem lifecycleInv_init (cfg : TailscaleConfig) : LifecycleInv (State.init cfg : State κ) where
  turn := ⟨rfl, rfl, rfl⟩
  outside _ _ := trivial
  started hsaw := nomatch hsaw
  closes := rfl
  announced hne := absurd rfl hne

/-- The phases in which a call is not inside `closeOnce`. -/
def ClosePhase.IsOutside : ClosePhase → Prop
  | .idle | .entering | .reading | .returned _ => True
  | _ => False

omit [DecidableEq κ] in
/-- A call that is not inside is not the one that `closeOnce` remembers. -/
theorem LifecycleInv.not_running {s : State κ} (hinv : LifecycleInv s) {k : κ} (houtside : (s.closers k).IsOutside) :
    s.once ≠ .running k := by
  intro hrunning
  have hturn := hinv.turn
  rw [hrunning] at hturn
  change InsideInv s (s.closers k) at hturn
  cases hphase : s.closers k with
  | idle | entering | reading | returned err => simp [hphase, InsideInv] at hturn
  | inside | closing | recording outcome | leaving => simp [hphase, ClosePhase.IsOutside] at houtside

omit [DecidableEq κ] in
/-- A call that is inside is the one that `closeOnce` remembers. -/
theorem LifecycleInv.running {s : State κ} (hinv : LifecycleInv s) {k : κ} (hinside : ¬ (s.closers k).IsOutside) :
    s.once = .running k := by
  by_contra hne
  have houtside := hinv.outside k hne
  cases hphase : s.closers k with
  | idle | entering | reading | returned err => simp [hphase, ClosePhase.IsOutside] at hinside
  | inside | closing | recording outcome | leaving => simp [hphase, OutsideInv] at houtside

omit [DecidableEq κ] in
/-- What the calls outside know does not change while `closing` and `closeOnce` only go forward. -/
theorem OutsideInv.mono {s next : State κ} {phase : ClosePhase} (houtside : OutsideInv s phase)
    (hclosing : s.closing = true → next.closing = true)
    (hover : s.once = .finished → next.once = .finished ∧ next.closeErr = s.closeErr) : OutsideInv next phase := by
  cases phase with
  | idle => trivial
  | entering => exact hclosing houtside
  | reading => exact ⟨hclosing houtside.1, (hover houtside.2).1⟩
  | returned err =>
      obtain ⟨hset, honce, rfl⟩ := houtside
      exact ⟨hclosing hset, (hover honce).1, (hover honce).2.symm⟩
  | inside | closing | recording outcome | leaving => exact houtside

omit [DecidableEq κ] in
/-- What the function under `closeOnce` does is not affected by calls outside of it. -/
theorem TurnInv.congr {s next : State κ} {once : Once κ} (hturn : TurnInv s once) (hsaw : next.saw = s.saw)
    (houtcome : next.outcome = s.outcome) (hcloseErr : next.closeErr = s.closeErr)
    (hclosers : ∀ k, once = .running k → next.closers k = s.closers k) : TurnInv next once := by
  have hsettled : Settled s → Settled next := fun ⟨hlooked, hclosed, herr⟩ =>
    ⟨by rw [hsaw]; exact hlooked, by rw [hsaw, houtcome]; exact hclosed, by rw [hcloseErr, houtcome]; exact herr⟩
  cases once with
  | fresh =>
      unfold TurnInv
      rw [hsaw, houtcome, hcloseErr]
      exact hturn
  | finished => exact hsettled hturn
  | running k =>
      change InsideInv s (s.closers k) at hturn
      change InsideInv next (next.closers k)
      rw [hclosers k rfl]
      cases hphase : s.closers k with
      | leaving =>
          rw [hphase] at hturn
          exact hsettled hturn
      | idle | entering | reading | returned err =>
          rw [hphase] at hturn
          exact hturn
      | inside | closing | recording outcome =>
          rw [hphase] at hturn
          simpa only [InsideInv, hsaw, houtcome, hcloseErr] using hturn

/-- The steps of a call outside `closeOnce`. -/
theorem LifecycleInv.setCloser {s : State κ} (hinv : LifecycleInv s) {k : κ} {phase : ClosePhase}
    (hold : (s.closers k).IsOutside) (hnew : OutsideInv s phase) : LifecycleInv (s.setCloser k phase) where
  turn := by
    refine hinv.turn.congr rfl rfl rfl fun j hrunning => ?_
    rw [closers_setCloser_of_ne]
    rintro rfl
    exact hinv.not_running hold hrunning
  outside j hj := by
    by_cases hjk : j = k
    · subst hjk
      rw [closers_setCloser_self]
      exact hnew.mono id fun honce => ⟨honce, rfl⟩
    · rw [closers_setCloser_of_ne _ _ hjk]
      exact (hinv.outside j hj).mono id fun honce => ⟨honce, rfl⟩
  started := hinv.started
  closes := hinv.closes
  announced := hinv.announced

/-- The steps of the call that is inside, or comes inside. -/
theorem LifecycleInv.of_inside {s next : State κ} (hinv : LifecycleInv s) {k : κ} {phase : ClosePhase}
    (honce : s.once = .fresh ∨ s.once = .running k) (hclosers : next.closers = Function.update s.closers k phase)
    (hset : s.closing = true) (hclosing : next.closing = s.closing)
    (hnext : next.once = .running k ∧ InsideInv next phase ∨
      next.once = .finished ∧ Settled next ∧ OutsideInv next phase)
    (hstarted : next.saw = some true → next.node.started = true)
    (hcloses : next.closes = if next.outcome.isSome then 1 else 0) : LifecycleInv next where
  turn := by
    obtain ⟨hrunning, hinside⟩ | ⟨hfinished, hsettled, -⟩ := hnext
    · rw [hrunning]
      show InsideInv next (next.closers k)
      rw [hclosers, Function.update_self]
      exact hinside
    · rw [hfinished]
      exact hsettled
  outside j hj := by
    rw [hclosers]
    by_cases hjk : j = k
    · subst hjk
      rw [Function.update_self]
      obtain ⟨hrunning, -⟩ | ⟨-, -, hleft⟩ := hnext
      · exact absurd hrunning hj
      · exact hleft
    · rw [Function.update_of_ne hjk]
      have hother : s.once ≠ .running j ∧ s.once ≠ .finished := by
        rcases honce with hfresh | hrunning
        · simp [hfresh]
        · simpa [hrunning] using Ne.symm hjk
      exact (hinv.outside j hother.1).mono (fun _ => hclosing.trans hset) fun hfinished =>
        absurd hfinished hother.2
  started := hstarted
  closes := hcloses
  announced _ := hclosing.trans hset

/-- What one step of a `Close` preserves. -/
theorem lifecycleInv_close {s next : State κ} {k : κ} {phase : ClosePhase} {move : CloseStep} (hinv : LifecycleInv s)
    (hphase : s.closers k = phase) (hstep : closeStep s k phase move = some next) : LifecycleInv next := by
  have houtside : phase.IsOutside → OutsideInv s phase := by
    intro hout
    rw [← hphase] at hout ⊢
    exact hinv.outside k (hinv.not_running hout)
  have hinside : ¬ phase.IsOutside → s.once = .running k ∧ s.closing = true ∧ InsideInv s phase := by
    intro hin
    have hrunning := hinv.running (k := k) (by rw [hphase]; exact hin)
    have hturn := hinv.turn
    rw [hrunning] at hturn
    rw [← hphase]
    exact ⟨hrunning, hinv.announced (by simp [hrunning]), hturn⟩
  unfold closeStep at hstep
  split at hstep
  case h_1 =>
    -- storeClosing
    cases hstep
    have hset : LifecycleInv { s with closing := true } :=
      ⟨hinv.turn.congr rfl rfl rfl fun _ _ => rfl,
        fun j hj => (hinv.outside j hj).mono (fun _ => rfl) fun hfinished => ⟨hfinished, rfl⟩,
        hinv.started, hinv.closes, fun _ => rfl⟩
    exact hset.setCloser (hphase ▸ trivial) rfl
  case h_2 =>
    -- enter
    split at hstep
    · rename_i hfresh
      cases hstep
      have hturn := hinv.turn
      rw [hfresh] at hturn
      exact hinv.of_inside (Or.inl hfresh) rfl (houtside trivial) rfl (Or.inl ⟨rfl, hturn⟩) hinv.started hinv.closes
    · cases hstep
    · rename_i hfinished
      cases hstep
      exact hinv.setCloser (hphase ▸ trivial) ⟨houtside trivial, hfinished⟩
  case h_3 =>
    -- loadStarted
    obtain ⟨hrunning, hset, hsaw, houtcome, herr⟩ := hinside id
    split at hstep
    · rename_i hstarted
      cases hstep
      exact hinv.of_inside (Or.inr hrunning) rfl hset rfl (Or.inl ⟨hrunning, rfl, houtcome, herr⟩)
        (fun _ => hstarted) hinv.closes
    · cases hstep
      have hsettled : Settled (State.setCloser { s with saw := some false } k .leaving) :=
        ⟨rfl, by simp [State.setCloser, houtcome], by simp [State.setCloser, houtcome, herr]⟩
      exact hinv.of_inside (Or.inr hrunning) rfl hset rfl (Or.inl ⟨hrunning, hsettled⟩)
        (fun hfalse => nomatch hfalse) hinv.closes
  case h_4 outcome =>
    -- closeServer
    obtain ⟨hrunning, hset, hsaw, houtcome, herr⟩ := hinside id
    cases hstep
    refine hinv.of_inside (Or.inr hrunning) rfl hset rfl (Or.inl ⟨hrunning, hsaw, rfl⟩) hinv.started ?_
    show s.closes + 1 = 1
    rw [hinv.closes, houtcome]
    rfl
  case h_5 outcome =>
    -- record
    obtain ⟨hrunning, hset, hsaw, houtcome⟩ := hinside id
    cases hstep
    have hsettled : Settled (State.setCloser { s with closeErr := outcome.err } k .leaving) :=
      ⟨by simp [State.setCloser, hsaw], by simp [State.setCloser, hsaw, houtcome],
        by simp [State.setCloser, houtcome]⟩
    exact hinv.of_inside (Or.inr hrunning) rfl hset rfl (Or.inl ⟨hrunning, hsettled⟩) hinv.started hinv.closes
  case h_6 =>
    -- leave
    obtain ⟨hrunning, hset, hlooked, hclosed, herr⟩ := hinside id
    cases hstep
    exact hinv.of_inside (Or.inr hrunning) rfl hset rfl
      (Or.inr ⟨rfl, ⟨hlooked, hclosed, herr⟩, hset, rfl⟩) hinv.started hinv.closes
  case h_7 =>
    -- readErr
    obtain ⟨hset, hfinished⟩ := houtside trivial
    cases hstep
    exact hinv.setCloser (hphase ▸ trivial) ⟨hset, hfinished, rfl⟩
  case h_8 => cases hstep

/-- What one step preserves. -/
theorem lifecycleInv_step {s next : State κ} {label : Label κ} (hinv : LifecycleInv s)
    (hstep : step s label = some next) : LifecycleInv next := by
  cases label with
  | start move =>
      obtain ⟨⟨node, phase⟩, hmove, rfl⟩ := Option.map_eq_some_iff.mp hstep
      exact ⟨hinv.turn.congr rfl rfl rfl fun _ _ => rfl,
        fun j hj => (hinv.outside j hj).mono id fun hfinished => ⟨hfinished, rfl⟩,
        fun hsaw => startStep_started hmove (hinv.started hsaw), hinv.closes, hinv.announced⟩
  | serve move =>
      obtain ⟨phase, -, rfl⟩ := Option.map_eq_some_iff.mp hstep
      exact ⟨hinv.turn.congr rfl rfl rfl fun _ _ => rfl,
        fun j hj => (hinv.outside j hj).mono id fun hfinished => ⟨hfinished, rfl⟩,
        hinv.started, hinv.closes, hinv.announced⟩
  | serveHTTPS move =>
      obtain ⟨phase, -, rfl⟩ := Option.map_eq_some_iff.mp hstep
      exact ⟨hinv.turn.congr rfl rfl rfl fun _ _ => rfl,
        fun j hj => (hinv.outside j hj).mono id fun hfinished => ⟨hfinished, rfl⟩,
        hinv.started, hinv.closes, hinv.announced⟩
  | close k move => exact lifecycleInv_close hinv rfl hstep

theorem lifecycleInv_of_run {cfg : TailscaleConfig} {labels : List (Label κ)} {s : State κ}
    (hrun : exec step (State.init cfg) labels = some s) : LifecycleInv s :=
  exec_invariant LifecycleInv (fun _ _ _ => lifecycleInv_step) hrun (lifecycleInv_init cfg)

/-! ## Close agrees -/

/-- What is left as it was when the function under `closeOnce` has run. -/
structure SameClose (s next : State κ) : Prop where
  once : next.once = .finished
  saw : next.saw = s.saw
  outcome : next.outcome = s.outcome
  closes : next.closes = s.closes

/-- A `Close` that comes after it does nothing but read the error. -/
theorem sameClose_step {s next : State κ} {label : Label κ} (hinv : LifecycleInv s) (honce : s.once = .finished)
    (hstep : step s label = some next) : SameClose s next := by
  have hout : ∀ k, (s.closers k).IsOutside := by
    intro k
    by_contra hin
    have hrunning := hinv.running hin
    rw [honce] at hrunning
    cases hrunning
  cases label with
  | start move =>
      obtain ⟨result, -, rfl⟩ := Option.map_eq_some_iff.mp hstep
      exact ⟨honce, rfl, rfl, rfl⟩
  | serve move =>
      obtain ⟨phase, -, rfl⟩ := Option.map_eq_some_iff.mp hstep
      exact ⟨honce, rfl, rfl, rfl⟩
  | serveHTTPS move =>
      obtain ⟨phase, -, rfl⟩ := Option.map_eq_some_iff.mp hstep
      exact ⟨honce, rfl, rfl, rfl⟩
  | close k move =>
      have houtside := hout k
      change closeStep s k (s.closers k) move = some next at hstep
      unfold closeStep at hstep
      split at hstep
      case h_1 =>
        cases hstep
        exact ⟨honce, rfl, rfl, rfl⟩
      case h_2 =>
        split at hstep
        · rename_i hfresh
          rw [honce] at hfresh
          cases hfresh
        · cases hstep
        · cases hstep
          exact ⟨honce, rfl, rfl, rfl⟩
      case h_7 =>
        cases hstep
        exact ⟨honce, rfl, rfl, rfl⟩
      case h_8 => cases hstep
      all_goals
        rename_i hphase
        rw [hphase] at houtside
        exact houtside.elim

/-- When a `Close` has returned, tsnet has been closed, and then once, if and only if the first `Close` saw that `Start`
had stored its flag.  That is final, whatever comes later, and every `Close` returns what became of it. -/
theorem close_agrees (cfg : TailscaleConfig) (labels later : List (Label κ)) (s final : State κ)
    (hrun : exec step (State.init cfg) labels = some s) (k : κ) (err : Option GoString)
    (hreturned : s.closers k = .returned err) (hlater : exec step s later = some final) :
    err = s.outcome.bind CloseOutcome.err ∧ (∀ j err', final.closers j = .returned err' → err' = err) ∧
      final.closes = s.closes ∧ s.closes ≤ 1 ∧ (s.closes = 1 ↔ s.saw = some true) ∧
      (s.saw = some true → s.node.started = true) := by
  have hinv := lifecycleInv_of_run hrun
  have hfinal : LifecycleInv final ∧ SameClose s final := by
    have hinside := hinv.outside k (hinv.not_running (by rw [hreturned]; trivial))
    rw [hreturned] at hinside
    refine exec_invariant (fun state => LifecycleInv state ∧ SameClose s state) ?_ hlater
      ⟨hinv, hinside.2.1, rfl, rfl, rfl⟩
    rintro mid label next ⟨hmid, hsame⟩ hstep
    have hnext := sameClose_step hmid hsame.once hstep
    exact ⟨lifecycleInv_step hmid hstep, hnext.once, hnext.saw.trans hsame.saw, hnext.outcome.trans hsame.outcome,
      hnext.closes.trans hsame.closes⟩
  -- a call that has returned has returned the error that has been recorded
  have hrecorded : ∀ state : State κ, LifecycleInv state → ∀ j err', state.closers j = .returned err' →
      Settled state ∧ err' = state.outcome.bind CloseOutcome.err := by
    intro state hstate j err' hj
    have houtside := hstate.outside j (hstate.not_running (by rw [hj]; trivial))
    rw [hj] at houtside
    have hturn := hstate.turn
    rw [houtside.2.1] at hturn
    exact ⟨hturn, houtside.2.2.trans hturn.closeErr⟩
  obtain ⟨hsettled, herr⟩ := hrecorded s hinv k err hreturned
  refine ⟨herr, fun j err' hj => ?_, hfinal.2.closes, ?_, ?_, hinv.started⟩
  · rw [(hrecorded final hfinal.1 j err' hj).2, hfinal.2.outcome, herr]
  · rw [hinv.closes]
    split
    · rfl
    · exact Nat.zero_le 1
  · rw [hinv.closes, ← hsettled.closed_iff]
    split
    · rename_i hclosed
      simp [hclosed]
    · rename_i hopen
      simp [hopen]

/-! ## A node that stays open -/

/-- A `Close` that comes while `Start` creates the directory, and `Start` goes on. -/
def closeEarly : List (Label Unit) :=
  [.start (.mkdirAll none), .close () .storeClosing, .close () .enter, .close () .loadStarted, .close () .leave,
    .close () .readErr]

/-- What comes after it: the node connects and is served. -/
def connectLate : List (Label Unit) :=
  [.start .storeStarted, .start (.up (.ok ⟨str "Running", [], none, []⟩)), .start .record, .start .leave,
    .serve .begin, .serve (.listen none)]

def earlyConfig : TailscaleConfig := ⟨⟨str "key", str "dmanager", str "/var/lib/dmanager", 80⟩, false⟩

theorem exec_closeEarly :
    ((exec step (State.init earlyConfig) closeEarly).bind fun s =>
      (exec step s connectLate).map fun final => (s.closers (), s.saw, final.serve)) =
      some (.returned none, some false, .serving) := by
  decide +kernel

/-- The node is served when a `Close` has returned nil, and tsnet has not been closed. -/
theorem close_agrees_leak :
    ∃ s final : State Unit, exec step (State.init earlyConfig) closeEarly = some s ∧
      exec step s connectLate = some final ∧ s.closers () = .returned none ∧ final.serve = .serving ∧
      final.closes = s.closes ∧ s.closes ≠ 1 := by
  obtain ⟨s, hs, hrest⟩ := Option.bind_eq_some_iff.mp exec_closeEarly
  obtain ⟨final, hfinal, hview⟩ := Option.map_eq_some_iff.mp hrest
  simp only [Prod.mk.injEq] at hview
  obtain ⟨hreturned, hsaw, hserving⟩ := hview
  obtain ⟨-, -, hsame, -, hclosed, -⟩ :=
    close_agrees earlyConfig closeEarly connectLate s final hs () none hreturned hfinal
  refine ⟨s, final, hs, hfinal, hreturned, hserving, hsame, fun hone => ?_⟩
  rw [hclosed.mp hone] at hsaw
  cases hsaw

/-! ## What Serve reports -/

/-- It has not ended with an error, other than `guards`. -/
def Quiet (guards : GoString → Prop) : ServingPhase → Prop
  | .ended (some err) => guards err
  | _ => True

theorem quiet_listenStep {listenFailed serveFailed : String} {guards : GoString → Prop} {phase next : ServingPhase}
    {move : ServingStep} (hquiet : Quiet guards phase)
    (hstep : listenStep listenFailed serveFailed true phase move = some next) : Quiet guards next := by
  unfold listenStep at hstep
  split at hstep
  all_goals
    cases hstep
    try trivial

theorem quiet_serveStep {start : StartPhase} {guards : GoString → Prop} {phase next : ServingPhase}
    {move : ServingStep} (hquiet : Quiet guards phase) (hstep : serveStep true start phase move = some next) :
    Quiet guards next := by
  unfold serveStep at hstep
  split at hstep
  · rw [Option.ite_none_right_eq_some] at hstep
    cases hstep.2
    trivial
  · exact quiet_listenStep hquiet hstep

/-- The errors of `ServeHTTPS` that do not look at `closing`. -/
def TailnetGuard (err : GoString) : Prop := err = magicDNSDisabled ∨ err = certificatesDisabled

theorem quiet_serveHTTPSStep {httpsEnabled : Bool} {start : StartPhase} {phase next : ServingPhase}
    {move : ServingStep} (hquiet : Quiet TailnetGuard phase)
    (hstep : serveHTTPSStep httpsEnabled true start phase move = some next) : Quiet TailnetGuard next := by
  unfold serveHTTPSStep at hstep
  split at hstep
  case h_1 =>
    rw [Option.ite_none_right_eq_some] at hstep
    cases hstep.2
    trivial
  case h_3 st =>
    split at hstep
    · cases hstep
      exact Or.inl rfl
    · split at hstep
      · cases hstep
        exact Or.inr rfl
      · cases hstep
        trivial
  case h_6 => exact quiet_listenStep hquiet hstep
  all_goals
    cases hstep
    trivial

/-- A `Close` leaves the other goroutines alone, and never clears `closing`. -/
theorem closeStep_frame {s next : State κ} {k : κ} {phase : ClosePhase} {move : CloseStep}
    (hstep : closeStep s k phase move = some next) :
    next.serve = s.serve ∧ next.serveHTTPS = s.serveHTTPS ∧ (s.closing = true → next.closing = true) := by
  unfold closeStep at hstep
  split at hstep
  case h_1 =>
    cases hstep
    exact ⟨rfl, rfl, fun _ => rfl⟩
  all_goals
    try split at hstep
    all_goals
      cases hstep
      try exact ⟨rfl, rfl, id⟩

/-- When a `Close` has begun, `Serve` ends without an error, and `ServeHTTPS` without one that came of a call of tsnet,
unless it has ended with one before. -/
theorem serve_quiet (cfg : TailscaleConfig) (labels later : List (Label κ)) (s final : State κ)
    (hrun : exec step (State.init cfg) labels = some s) (k : κ) (hbegun : s.closers k ≠ .idle)
    (hserve : ∀ err, s.serve ≠ .ended (some err)) (hhttps : ∀ err, s.serveHTTPS ≠ .ended (some err))
    (hlater : exec step s later = some final) :
    (∀ err, final.serve ≠ .ended (some err)) ∧
      ∀ err, final.serveHTTPS = .ended (some err) → err = magicDNSDisabled ∨ err = certificatesDisabled := by
  have hinv := lifecycleInv_of_run hrun
  have hclosing : s.closing = true := by
    by_cases hin : s.once = .running k
    · exact hinv.announced (by simp [hin])
    · have houtside := hinv.outside k hin
      cases hphase : s.closers k with
      | idle => exact absurd hphase hbegun
      | entering => rw [hphase] at houtside; exact houtside
      | reading => rw [hphase] at houtside; exact houtside.1
      | returned err => rw [hphase] at houtside; exact houtside.1
      | inside | closing | recording outcome | leaving => rw [hphase] at houtside; exact houtside.elim
  have hquiet : ∀ {guards : GoString → Prop} {phase : ServingPhase}, (∀ err, phase ≠ .ended (some err)) →
      Quiet guards phase := by
    intro guards phase hphase
    unfold Quiet
    split
    · exact absurd rfl (hphase _)
    · trivial
  have hfinal : final.closing = true ∧ Quiet (fun _ => False) final.serve ∧ Quiet TailnetGuard final.serveHTTPS := by
    refine exec_invariant (fun state => state.closing = true ∧ Quiet (fun _ => False) state.serve ∧
      Quiet TailnetGuard state.serveHTTPS) ?_ hlater ⟨hclosing, hquiet hserve, hquiet hhttps⟩
    rintro mid label next ⟨hset, hserving, hsecure⟩ hstep
    cases label with
    | start move =>
        obtain ⟨result, -, rfl⟩ := Option.map_eq_some_iff.mp hstep
        exact ⟨hset, hserving, hsecure⟩
    | serve move =>
        obtain ⟨phase, hmove, rfl⟩ := Option.map_eq_some_iff.mp hstep
        rw [hset] at hmove
        exact ⟨hset, quiet_serveStep hserving hmove, hsecure⟩
    | serveHTTPS move =>
        obtain ⟨phase, hmove, rfl⟩ := Option.map_eq_some_iff.mp hstep
        rw [hset] at hmove
        exact ⟨hset, hserving, quiet_serveHTTPSStep hsecure hmove⟩
    | close k move =>
        obtain ⟨hsame, hsame', hkept⟩ := closeStep_frame hstep
        exact ⟨hkept hset, hsame ▸ hserving, hsame' ▸ hsecure⟩
  refine ⟨fun err hended => ?_, fun err hended => ?_⟩
  · have hno := hfinal.2.1
    rw [hended] at hno
    exact hno
  · have hguard := hfinal.2.2
    rw [hended] at hguard
    exact hguard

/-- The node is served, and a `Close` begins. -/
def serveThenClose : List (Label Unit) := .start (.mkdirAll none) :: (connectLate ++ [.close () .storeClosing])

/-- It closes tsnet, and the serve loop fails. -/
def drained : List (Label Unit) :=
  [.close () .enter, .close () .loadStarted, .close () (.closeServer (.returned none)),
    .serve (.serve (some (str "tsnet: closed"))), .serve .loadClosing]

theorem exec_drained :
    ((exec step (State.init earlyConfig) serveThenClose).bind fun s =>
      (exec step s drained).map fun _ => (s.closers (), s.serve, s.serveHTTPS)) =
      some (.entering, .serving, .waiting) := by
  decide +kernel

theorem serve_quiet_drained :
    ∃ s final : State Unit, exec step (State.init earlyConfig) serveThenClose = some s ∧
      exec step s drained = some final ∧ ∀ err, final.serve ≠ .ended (some err) := by
  obtain ⟨s, hs, hrest⟩ := Option.bind_eq_some_iff.mp exec_drained
  obtain ⟨final, hfinal, hview⟩ := Option.map_eq_some_iff.mp hrest
  simp only [Prod.mk.injEq] at hview
  obtain ⟨hbegun, hserving, hwaiting⟩ := hview
  exact ⟨s, final, hs, hfinal, (serve_quiet earlyConfig serveThenClose drained s final hs () (by simp [hbegun])
    (by simp [hserving]) (by simp [hwaiting]) hfinal).1⟩

end Closing
end Tailscale
end Dmanager
