import Dmanager.Go.Time
import Dmanager.Lib.TransitionSystem
import Dmanager.Server.Config

/-!
# The embedded Tailscale node: `Start` and `Snapshot`

`Start` runs once, in a goroutine of its own, while status requests call `Snapshot`.  They share the atomic flag
`started` and the fields under `mu`; every access is one step here.  The state constants say what `Snapshot`
reports: "starting" until `Start` has returned, then "running", or "failed" with the text of the error.

`Snapshot` decides between them by the flag and by `startErr`, and neither says whether `Start` has returned: the
flag is set before `Up` connects, and an error of `MkdirAll` is returned without a trace.

* `Lifecycle` — what the fields say about `Start`, at each of its steps.
* `exec_callSteps` — the steps of one call, without others between them, are `Node.snapshot`.
* `snapshot_documents_iff` — in every run, a `Snapshot` reports what the constants say about the moment at which it
  loads the flag, if and only if the flag says at that moment whether `Start` has returned.
* `snapshot_running_too_early` and `snapshot_starting_forever` — one run for each way in which it does not.
-/

namespace Dmanager
namespace Tailscale

open Go Lib

/-! ## The node -/

/-- `config.TailscaleConfig`, with the field that its check does not read. -/
structure TailscaleConfig extends Server.TailscaleConfig where
  httpsEnabled : Bool
  deriving DecidableEq, Repr

/-- `ipnstate.PeerStatus`, the fields that are read. -/
structure PeerStatus where
  dnsName : GoString
  keyExpiry : Option Int
  deriving DecidableEq, Repr

/-- `ipnstate.Status`, the fields that are read; the addresses are printed. -/
structure Status where
  backendState : GoString
  tailscaleIPs : List GoString
  self : Option PeerStatus
  certDomains : List GoString
  deriving DecidableEq, Repr

/-- `Node`; of the tsnet server, its directory. -/
structure Node where
  dir : GoString
  port : Int
  hostname : GoString
  httpsEnabled : Bool
  started : Bool
  startErr : Option GoString
  backendState : GoString
  dnsName : GoString
  ips : List GoString
  certDomains : List GoString
  keyExpiry : Int
  deriving DecidableEq, Repr

/-- `New`. -/
def Node.new (cfg : TailscaleConfig) : Node where
  dir := cfg.stateDir
  port := cfg.port
  hostname := cfg.hostname
  httpsEnabled := cfg.httpsEnabled
  started := false
  startErr := none
  backendState := []
  dnsName := []
  ips := []
  certDomains := []
  keyExpiry := zeroTime

/-- `cacheStatus`. -/
def Node.cacheStatus (n : Node) (st : Status) : Node :=
  { n with
    backendState := st.backendState
    ips := st.tailscaleIPs
    dnsName := match st.self with
      | some self => trimSuffix self.dnsName (str ".")
      | none => n.dnsName
    keyExpiry := (st.self.bind PeerStatus.keyExpiry).getD n.keyExpiry
    certDomains := st.certDomains }

@[simp] theorem Node.cacheStatus_started (n : Node) (st : Status) : (n.cacheStatus st).started = n.started := rfl

@[simp] theorem Node.cacheStatus_startErr (n : Node) (st : Status) : (n.cacheStatus st).startErr = n.startErr := rfl

def stateDisabled : GoString := str "disabled"
def stateStarting : GoString := str "starting"
def stateRunning : GoString := str "running"
def stateFailed : GoString := str "failed"

theorem stateStarting_ne_failed : stateStarting ≠ stateFailed := by decide

theorem stateRunning_ne_starting : stateRunning ≠ stateStarting := by decide

/-- `Snapshot`. -/
structure Snapshot where
  enabled : Bool
  state : GoString
  backendState : GoString
  hostname : GoString
  dnsName : GoString
  ips : List GoString
  port : Int
  httpsEnabled : Bool
  certDomains : List GoString
  keyExpiry : Int
  err : GoString
  deriving DecidableEq, Repr

/-- The snapshot of a nil node. -/
def disabledSnapshot : Snapshot := ⟨false, stateDisabled, [], [], [], [], 0, false, [], zeroTime, []⟩

/-- A snapshot that carries no status. -/
def Node.bareSnapshot (n : Node) (state err : GoString) : Snapshot :=
  ⟨true, state, [], n.hostname, [], [], n.port, n.httpsEnabled, [], zeroTime, err⟩

/-- A snapshot with the cached status; `err` is the failure of the probe. -/
def Node.runningSnapshot (n : Node) (err : GoString) : Snapshot :=
  ⟨true, stateRunning, n.backendState, n.hostname, n.dnsName, n.ips, n.port, n.httpsEnabled, n.certDomains,
    n.keyExpiry, err⟩

/-- The node after a probe. -/
def Node.refresh (n : Node) : Except GoString Status → Node
  | .ok st => n.cacheStatus st
  | .error _ => n

/-- The text that a probe leaves in the snapshot. -/
def probeText : Except GoString Status → GoString
  | .ok _ => []
  | .error err => str "live status unavailable: " ++ err

/-- `Snapshot` of a node that nothing else touches meanwhile; `probe` is what `probeStatus` answers. -/
def Node.snapshot (n : Node) (probe : Except GoString Status) : Node × Snapshot :=
  if n.started then
    match n.startErr with
    | some err => (n, n.bareSnapshot stateFailed err)
    | none => (n.refresh probe, (n.refresh probe).runningSnapshot (probeText probe))
  else (n, n.bareSnapshot stateStarting [])

/-! ## The steps of `Start` -/

/-- How far `Start` has come. -/
inductive StartPhase where
  | creating
  | marking
  | connecting
  | recording (result : Except GoString Status)
  | returning (result : Except GoString Unit)
  | returned (result : Except GoString Unit)
  deriving DecidableEq

/-- `Start` has returned. -/
def StartPhase.Returned : StartPhase → Prop
  | .returned _ => True
  | _ => False

instance decidableReturned : (phase : StartPhase) → Decidable phase.Returned
  | .creating | .marking | .connecting | .recording _ | .returning _ => isFalse id
  | .returned _ => isTrue trivial

/-- A step of `Start`, with the answer of the call it makes. -/
inductive StartStep where
  | mkdirAll (failure : Option GoString)
  | storeStarted
  | up (outcome : Except GoString Status)
  | record
  | leave
  deriving DecidableEq

def mkdirFailed (n : Node) (err : GoString) : GoString :=
  str "failed to create tailscale state directory " ++ n.dir ++ str ": " ++ err

def upFailed (err : GoString) : GoString := str "tailscale node failed to connect: " ++ err

/-- One step of `Start`. -/
def startStep (n : Node) : StartPhase → StartStep → Option (Node × StartPhase)
  | .creating, .mkdirAll (some err) => some (n, .returning (.error (mkdirFailed n err)))
  | .creating, .mkdirAll none => some (n, .marking)
  | .marking, .storeStarted => some ({ n with started := true }, .connecting)
  | .connecting, .up (.error err) => some (n, .recording (.error (upFailed err)))
  | .connecting, .up (.ok st) => some (n, .recording (.ok st))
  | .recording (.error err), .record => some ({ n with startErr := some err }, .returning (.error err))
  | .recording (.ok st), .record => some (n.cacheStatus st, .returning (.ok ()))
  | .returning result, .leave => some (n, .returned result)
  | _, _ => none

/-! ## One `Start` and any number of `Snapshot` calls -/

/-- What a call of `Snapshot` finds when it loads the flag. -/
structure Moment where
  start : StartPhase
  started : Bool
  deriving DecidableEq

/-- How far a call of `Snapshot` has come; `began` is only remembered to say what it should report. -/
inductive SnapshotPhase where
  | idle
  | loaded (began : Moment)
  | probing (began : Moment)
  | probed (began : Moment) (outcome : Except GoString Status)
  | refreshed (began : Moment) (err : GoString)
  | done (began : Moment) (snap : Snapshot)
  deriving DecidableEq

structure State where
  node : Node
  start : StartPhase
  snapshots : Nat → SnapshotPhase

/-- The node after `New`. -/
def State.init (cfg : TailscaleConfig) : State := ⟨Node.new cfg, .creating, fun _ => .idle⟩

def State.setSnapshot (s : State) (i : Nat) (phase : SnapshotPhase) : State :=
  { s with snapshots := Function.update s.snapshots i phase }

/-- A step of `Start`, or of the `i`-th call of `Snapshot`. -/
inductive Label where
  | start (step : StartStep)
  | load (i : Nat)
  | readErr (i : Nat)
  | probe (i : Nat) (outcome : Except GoString Status)
  | refresh (i : Nat)
  | read (i : Nat)
  deriving DecidableEq

/-- One atomic step. -/
def step (s : State) : Label → Option State
  | .start move =>
    (startStep s.node s.start move).map fun result => { s with node := result.1, start := result.2 }
  | .load i =>
    match s.snapshots i with
    | .idle =>
      if s.node.started then some (s.setSnapshot i (.loaded ⟨s.start, true⟩))
      else some (s.setSnapshot i (.done ⟨s.start, false⟩ (s.node.bareSnapshot stateStarting [])))
    | _ => none
  | .readErr i =>
    match s.snapshots i with
    | .loaded began =>
      match s.node.startErr with
      | some err => some (s.setSnapshot i (.done began (s.node.bareSnapshot stateFailed err)))
      | none => some (s.setSnapshot i (.probing began))
    | _ => none
  | .probe i outcome =>
    match s.snapshots i with
    | .probing began => some (s.setSnapshot i (.probed began outcome))
    | _ => none
  | .refresh i =>
    match s.snapshots i with
    | .probed began outcome =>
      some (State.setSnapshot { s with node := s.node.refresh outcome } i (.refreshed began (probeText outcome)))
    | _ => none
  | .read i =>
    match s.snapshots i with
    | .refreshed began err => some (s.setSnapshot i (.done began (s.node.runningSnapshot err)))
    | _ => none

/-- What the state constants say that a snapshot reports. -/
def Documents : StartPhase → Snapshot → Prop
  | .returned (.ok _), snap => snap.state = stateRunning
  | .returned (.error err), snap => snap.state = stateFailed ∧ snap.err = err
  | _, snap => snap.state = stateStarting

instance decidableDocuments : (phase : StartPhase) → (snap : Snapshot) → Decidable (Documents phase snap)
  | .returned (.ok _), snap => inferInstanceAs (Decidable (snap.state = stateRunning))
  | .returned (.error err), snap => inferInstanceAs (Decidable (snap.state = stateFailed ∧ snap.err = err))
  | .creating, snap | .marking, snap | .connecting, snap | .recording _, snap | .returning _, snap =>
    inferInstanceAs (Decidable (snap.state = stateStarting))

/-- The flag is set exactly when `Start` has returned. -/
def Moment.FlagTells (m : Moment) : Prop := m.started = true ↔ m.start.Returned

instance (m : Moment) : Decidable m.FlagTells := inferInstanceAs (Decidable (_ ↔ _))

/-! ## A call alone -/

/-- The steps of one call. -/
def callSteps (n : Node) (i : Nat) (outcome : Except GoString Status) : List Label :=
  if n.started then
    if n.startErr.isSome then [.load i, .readErr i]
    else [.load i, .readErr i, .probe i outcome, .refresh i, .read i]
  else [.load i]

/-- A call whose steps nothing comes between is `Node.snapshot`. -/
theorem exec_callSteps (s : State) {i : Nat} (hidle : s.snapshots i = .idle) (outcome : Except GoString Status) :
    ∃ final, exec step s (callSteps s.node i outcome) = some final ∧ final.start = s.start ∧
      final.node = (s.node.snapshot outcome).1 ∧
      final.snapshots i = .done ⟨s.start, s.node.started⟩ (s.node.snapshot outcome).2 := by
  unfold callSteps Node.snapshot
  by_cases hstarted : s.node.started = true
  · cases herr : s.node.startErr with
    | some err => simp [exec, step, hidle, hstarted, herr, State.setSnapshot]
    | none => simp [exec, step, hidle, hstarted, herr, State.setSnapshot]
  · simp [exec, step, hidle, hstarted, State.setSnapshot]

/-! ## What the fields say about `Start` -/

/-- The flag is set from `storeStarted` on, and the error is there once it has been recorded; an error of
`MkdirAll` leaves both as they were. -/
def Lifecycle (n : Node) : StartPhase → Prop
  | .creating | .marking => n.started = false ∧ n.startErr = none
  | .connecting | .recording _ => n.started = true ∧ n.startErr = none
  | .returning (.ok _) | .returned (.ok _) => n.started = true ∧ n.startErr = none
  | .returning (.error err) | .returned (.error err) =>
    n.started = true ∧ n.startErr = some err ∨ n.started = false ∧ n.startErr = none

/-- The cached status is not part of it. -/
theorem Lifecycle.refresh {n : Node} {phase : StartPhase} (hlife : Lifecycle n phase)
    (outcome : Except GoString Status) : Lifecycle (n.refresh outcome) phase := by
  cases outcome with
  | error err => exact hlife
  | ok st => cases phase <;> exact hlife

theorem lifecycle_new (cfg : TailscaleConfig) : Lifecycle (Node.new cfg) .creating := ⟨rfl, rfl⟩

/-- Everything a step of `Start` does to the fields that `Snapshot` looks at. -/
theorem startStep_lifecycle {n next : Node} {phase after : StartPhase} {move : StartStep}
    (hstep : startStep n phase move = some (next, after)) (hlife : Lifecycle n phase) :
    Lifecycle next after ∧ (n.started = true → next.started = true) ∧ ¬ phase.Returned := by
  unfold startStep at hstep
  split at hstep
  -- `MkdirAll`
  · cases hstep
    exact ⟨Or.inr hlife, id, id⟩
  · cases hstep
    exact ⟨hlife, id, id⟩
  -- the flag
  · cases hstep
    exact ⟨⟨rfl, hlife.2⟩, fun _ => rfl, id⟩
  -- `Up`
  · cases hstep
    exact ⟨hlife, id, id⟩
  · cases hstep
    exact ⟨hlife, id, id⟩
  -- the error, or the status
  · cases hstep
    exact ⟨Or.inl ⟨hlife.1, rfl⟩, id, id⟩
  · cases hstep
    exact ⟨hlife, id, id⟩
  · rename_i result
    cases hstep
    cases result with
    | ok _ => exact ⟨hlife, id, id⟩
    | error err => exact ⟨hlife, id, id⟩
  · cases hstep

/-- What a call of `Snapshot` has found out. -/
def Found (n : Node) (start : StartPhase) : SnapshotPhase → Prop
  | .idle => True
  | .loaded began => began.started = true ∧ n.started = true ∧ (began.start.Returned → began.start = start)
  | .probing began | .probed began _ | .refreshed began _ =>
    began.started = true ∧ (began.start.Returned → began.start = .returned (.ok ()))
  | .done began snap => Documents began.start snap ↔ began.FlagTells

/-- The fields of the node tell what they should, and so does every call. -/
structure Told (s : State) : Prop where
  lifecycle : Lifecycle s.node s.start
  found : ∀ i, Found s.node s.start (s.snapshots i)

theorem told_init (cfg : TailscaleConfig) : Told (State.init cfg) := ⟨lifecycle_new cfg, fun _ => trivial⟩

/-! ## What a call reports -/

theorem returned_iff {phase : StartPhase} : phase.Returned ↔ ∃ result, phase = .returned result := by
  constructor
  · intro hreturned
    cases phase with
    | returned result => exact ⟨result, rfl⟩
    | creating | marking | connecting | recording | returning => cases hreturned
  · rintro ⟨result, rfl⟩
    trivial

theorem documents_of_not_returned {phase : StartPhase} {snap : Snapshot} (hnot : ¬ phase.Returned) :
    Documents phase snap ↔ snap.state = stateStarting := by
  cases phase with
  | returned result => exact absurd trivial hnot
  | creating | marking | connecting | recording | returning => exact Iff.rfl

/-- A call that finds the flag unset reports "starting", which is wrong exactly when `Start` has failed before it
set the flag. -/
theorem found_of_not_started {n : Node} {start : StartPhase} (hlife : Lifecycle n start)
    (hnot : n.started = false) :
    Documents start (n.bareSnapshot stateStarting []) ↔ Moment.FlagTells ⟨start, false⟩ := by
  by_cases hreturned : start.Returned
  · have hfails : ¬ Moment.FlagTells ⟨start, false⟩ := fun htells => nomatch htells.mpr hreturned
    refine iff_of_false ?_ hfails
    obtain ⟨result, rfl⟩ := returned_iff.mp hreturned
    cases result with
    | ok _ =>
        rw [hlife.1] at hnot
        cases hnot
    | error err => exact fun hdoc => stateStarting_ne_failed hdoc.1
  · have htells : Moment.FlagTells ⟨start, false⟩ := ⟨nofun, fun h => absurd h hreturned⟩
    exact iff_of_true ((documents_of_not_returned hreturned).mpr rfl) htells

/-- A call that has found the flag set reports something else than "starting", which is wrong exactly when `Start`
had not returned at that moment. -/
theorem found_of_started {began : Moment} {snap : Snapshot} (hstarted : began.started = true)
    (hstate : snap.state ≠ stateStarting) (hreturned : began.start.Returned → Documents began.start snap) :
    Documents began.start snap ↔ began.FlagTells := by
  by_cases hback : began.start.Returned
  · exact iff_of_true (hreturned hback) (iff_of_true hstarted hback)
  · refine iff_of_false (fun hdoc => hstate ((documents_of_not_returned hback).mp hdoc)) ?_
    exact fun htells => hback (htells.mp hstarted)

/-! ## Every run -/

/-- A step of one call leaves what the others have found. -/
theorem Told.setSnapshot {s : State} (htold : Told s) (i : Nat) {phase : SnapshotPhase}
    (hfound : Found s.node s.start phase) : Told (s.setSnapshot i phase) := by
  refine ⟨htold.lifecycle, fun j => ?_⟩
  by_cases hj : j = i
  · subst hj
    simpa [State.setSnapshot] using hfound
  · simpa [State.setSnapshot, hj] using htold.found j

/-- The cached status does not matter to any call. -/
theorem Told.refresh {s : State} (htold : Told s) (outcome : Except GoString Status) :
    Told { s with node := s.node.refresh outcome } := by
  refine ⟨htold.lifecycle.refresh outcome, fun i => ?_⟩
  have hfound := htold.found i
  have hstarted : (s.node.refresh outcome).started = s.node.started := by cases outcome <;> rfl
  show Found (s.node.refresh outcome) s.start (s.snapshots i)
  cases hphase : s.snapshots i with
  | loaded began =>
      rw [hphase] at hfound
      exact ⟨hfound.1, hstarted.trans hfound.2.1, hfound.2.2⟩
  | idle | probing | probed | refreshed | done =>
      rw [hphase] at hfound
      exact hfound

/-- A step of `Start`: the flag stays set, and `Start` has not returned before it. -/
theorem Told.start {s : State} (htold : Told s) {move : StartStep} {n : Node} {after : StartPhase}
    (hstep : startStep s.node s.start move = some (n, after)) : Told { s with node := n, start := after } := by
  obtain ⟨hlife, hstarted, hrunning⟩ := startStep_lifecycle hstep htold.lifecycle
  refine ⟨hlife, fun i => ?_⟩
  have hfound := htold.found i
  show Found n after (s.snapshots i)
  cases hphase : s.snapshots i with
  | loaded began =>
      rw [hphase] at hfound
      refine ⟨hfound.1, hstarted hfound.2.1, fun hreturned => ?_⟩
      rw [hfound.2.2 hreturned] at hreturned
      exact absurd hreturned hrunning
  | idle | probing | probed | refreshed | done =>
      rw [hphase] at hfound
      exact hfound

/-- The two ways out of `readErr`. -/
theorem Told.readErr {s : State} (htold : Told s) {i : Nat} {began : Moment}
    (hphase : s.snapshots i = .loaded began) :
    match s.node.startErr with
    | some err => Found s.node s.start (.done began (s.node.bareSnapshot stateFailed err))
    | none => Found s.node s.start (.probing began) := by
  have hfound := htold.found i
  rw [hphase] at hfound
  obtain ⟨hbegan, hstarted, hsame⟩ := hfound
  have hlife := htold.lifecycle
  cases hstart : s.node.startErr with
  | some err =>
      -- if `Start` had returned when the flag was loaded, the error is the one that it returned
      refine found_of_started hbegan stateStarting_ne_failed.symm fun hreturned => ?_
      obtain ⟨result, hresult⟩ := returned_iff.mp hreturned
      rw [hsame hreturned] at hresult ⊢
      rw [hresult] at hlife ⊢
      cases result with
      | ok _ =>
          rw [hlife.2] at hstart
          cases hstart
      | error failure =>
          rcases hlife with ⟨-, herr⟩ | ⟨-, herr⟩
          · rw [hstart] at herr
            cases herr
            exact ⟨rfl, rfl⟩
          · rw [hstart] at herr
            cases herr
  | none =>
      -- an error that `Start` returns after it has set the flag is recorded, so it has not failed
      refine ⟨hbegan, fun hreturned => ?_⟩
      obtain ⟨result, hresult⟩ := returned_iff.mp hreturned
      rw [hsame hreturned] at hresult ⊢
      rw [hresult] at hlife ⊢
      cases result with
      | ok _ => rfl
      | error failure =>
          rcases hlife with ⟨-, herr⟩ | ⟨hnot, -⟩
          · rw [hstart] at herr
            cases herr
          · rw [hstarted] at hnot
            cases hnot

theorem told_step (s : State) (label : Label) (next : State) (htold : Told s) (hstep : step s label = some next) :
    Told next := by
  cases label with
  | start move =>
      obtain ⟨result, hresult, rfl⟩ := Option.map_eq_some_iff.mp hstep
      exact htold.start hresult
  | load i =>
      simp only [step] at hstep
      split at hstep
      · split at hstep
        · rename_i hstarted
          cases hstep
          exact htold.setSnapshot i ⟨rfl, hstarted, fun _ => rfl⟩
        · rename_i hnot
          cases hstep
          exact htold.setSnapshot i (found_of_not_started htold.lifecycle (by simpa using hnot))
      · cases hstep
  | readErr i =>
      simp only [step] at hstep
      split at hstep
      · rename_i began hphase
        have hfound := htold.readErr hphase
        split at hstep
        · rename_i err herr
          cases hstep
          rw [herr] at hfound
          exact htold.setSnapshot i hfound
        · rename_i herr
          cases hstep
          rw [herr] at hfound
          exact htold.setSnapshot i hfound
      · cases hstep
  | probe i outcome =>
      simp only [step] at hstep
      split at hstep
      · rename_i began hphase
        have hfound := htold.found i
        rw [hphase] at hfound
        cases hstep
        exact htold.setSnapshot i hfound
      · cases hstep
  | refresh i =>
      simp only [step] at hstep
      split at hstep
      · rename_i began outcome hphase
        have hfound := htold.found i
        rw [hphase] at hfound
        cases hstep
        exact (htold.refresh outcome).setSnapshot i hfound
      · cases hstep
  | read i =>
      simp only [step] at hstep
      split at hstep
      · rename_i began err hphase
        have hfound := htold.found i
        rw [hphase] at hfound
        cases hstep
        refine htold.setSnapshot i (found_of_started hfound.1 stateRunning_ne_starting fun hreturned => ?_)
        rw [hfound.2 hreturned]
        rfl
      · cases hstep

/-- In every run of one `Start` and any number of `Snapshot` calls: a call reports what the constants say about the
moment at which it loads the flag, if and only if the flag tells at that moment whether `Start` has returned. -/
theorem snapshot_documents_iff (cfg : TailscaleConfig) {labels : List Label} {s : State}
    (hrun : exec step (State.init cfg) labels = some s) {i : Nat} {began : Moment} {snap : Snapshot}
    (hdone : s.snapshots i = .done began snap) : Documents began.start snap ↔ began.FlagTells := by
  have htold : Told s := exec_invariant Told told_step hrun (told_init cfg)
  have hfound := htold.found i
  rw [hdone] at hfound
  exact hfound

/-- A node as the default configuration makes it. -/
def sampleConfig : TailscaleConfig := ⟨⟨str "tskey-auth-sample", str "dmanager", str "/data/tailscale", 80⟩, false⟩

/-- A call that comes after `Start` has connected. -/
def calmRun : List Label :=
  [.start (.mkdirAll none), .start .storeStarted, .start (.up (.ok ⟨str "Running", [], none, []⟩)), .start .record,
    .start .leave, .load 0, .readErr 0, .probe 0 (.error (str "no backend")), .refresh 0, .read 0]

theorem exec_calmRun :
    (exec step (State.init sampleConfig) calmRun).map (fun s => s.snapshots 0) =
      some (.done ⟨.returned (.ok ()), true⟩
        (Node.runningSnapshot ((Node.new sampleConfig).cacheStatus ⟨str "Running", [], none, []⟩)
          (str "live status unavailable: no backend"))) := by
  decide +kernel

theorem snapshot_documents_iff_calmRun :
    ∃ s began snap, exec step (State.init sampleConfig) calmRun = some s ∧ s.snapshots 0 = .done began snap ∧
      snap.state = stateRunning ∧ (Documents began.start snap ↔ began.FlagTells) := by
  obtain ⟨s, hrun, hdone⟩ := Option.map_eq_some_iff.mp exec_calmRun
  exact ⟨s, _, _, hrun, hdone, rfl, snapshot_documents_iff sampleConfig hrun hdone⟩

/-! ## The two ways in which the flag does not tell -/

/-- `Up` is still connecting when a call comes. -/
def earlyRun : List Label :=
  [.start (.mkdirAll none), .start .storeStarted, .load 0, .readErr 0, .probe 0 (.error (str "no backend")),
    .refresh 0, .read 0]

theorem exec_earlyRun :
    (exec step (State.init sampleConfig) earlyRun).map (fun s => (s.start, s.snapshots 0)) =
      some (.connecting, .done ⟨.connecting, true⟩
        (Node.runningSnapshot (Node.new sampleConfig) (str "live status unavailable: no backend"))) := by
  decide +kernel

/-- The call is over before `Start` has returned, and reports "running". -/
theorem snapshot_running_too_early :
    ∃ s began snap, exec step (State.init sampleConfig) earlyRun = some s ∧ ¬ s.start.Returned ∧
      s.snapshots 0 = .done began snap ∧ snap.state = stateRunning ∧ ¬ Documents began.start snap ∧
      ¬ Documents s.start snap := by
  obtain ⟨s, hrun, hend⟩ := Option.map_eq_some_iff.mp exec_earlyRun
  obtain ⟨hstart, hdone⟩ := Prod.mk.inj hend
  refine ⟨s, _, _, hrun, ?_, hdone, rfl, stateRunning_ne_starting, ?_⟩
  · rw [hstart]
    exact id
  · rw [hstart]
    exact stateRunning_ne_starting

/-- A call that comes after the directory could not be created. -/
def failedRun : List Label :=
  [.start (.mkdirAll (some (str "permission denied"))), .start .leave, .load 0]

theorem exec_failedRun :
    (exec step (State.init sampleConfig) failedRun).map (fun s => s.snapshots 0) =
      some (.done ⟨.returned (.error (mkdirFailed (Node.new sampleConfig) (str "permission denied"))), false⟩
        (Node.bareSnapshot (Node.new sampleConfig) stateStarting [])) := by
  decide +kernel

/-- `Start` has returned an error for good, and the call reports "starting". -/
theorem snapshot_starting_forever :
    ∃ s began snap, exec step (State.init sampleConfig) failedRun = some s ∧ began.start.Returned ∧
      s.snapshots 0 = .done began snap ∧ snap.state = stateStarting ∧ ¬ Documents began.start snap := by
  obtain ⟨s, hrun, hdone⟩ := Option.map_eq_some_iff.mp exec_failedRun
  refine ⟨s, _, _, hrun, ?_, hdone, rfl, fun hdoc => stateStarting_ne_failed hdoc.1⟩
  trivial

end Tailscale
end Dmanager
