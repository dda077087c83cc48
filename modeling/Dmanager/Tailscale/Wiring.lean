import Dmanager.Tailscale.Node

/-!
# `GetTailscaleStatus` in the server of `cmd/serve.go`

The admin service reports on the node that it was given when it was made.  `cmd/serve.go` makes it with the
variable `tsNode` before the section that assigns the variable, and Go copies the pointer, so the service keeps the
nil of the declaration whatever the section does.

* `Server` and `serveStep` — the wiring, the steps of `Start`, and requests, in any order that the program allows.
* `Wired` — the service holds a nil node in every state of every run.
* `getTailscaleStatus_reports_iff` — the status is the one of the node exactly when no auth key is configured.
* `getTailscaleStatus_disabled_while_running` — with a key, the node is running and the status is "disabled".
-/

namespace Dmanager
namespace Tailscale

open Go Lib

/-- `*tailscale.Node`: nil, or the index of a node that has been made. -/
abbrev NodePtr := Option Nat

/-- `Snapshot` on a pointer. -/
def NodePtr.snapshot (ptr : NodePtr) (nodes : List Node) (probe : Except GoString Status) : List Node × Snapshot :=
  match ptr with
  | none => (nodes, disabledSnapshot)
  | some a =>
    match nodes[a]? with
    | none => (nodes, disabledSnapshot)
    | some n => (nodes.set a (n.snapshot probe).1, (n.snapshot probe).2)

/-- `TailscaleStatusSource`, a nil interface or one that holds a pointer to a node. -/
abbrev TailscaleStatusSource := Option NodePtr

/-- `admin.Service`, the field that the status reads. -/
structure AdminService where
  tsNode : TailscaleStatusSource
  deriving DecidableEq, Repr

/-- `admin.NewService`. -/
def newService (tsNode : NodePtr) : AdminService := ⟨some tsNode⟩

structure GetTailscaleStatusResponse where
  enabled : Bool
  state : GoString
  backendState : GoString
  hostname : GoString
  dnsName : GoString
  ips : List GoString
  port : Int
  httpsEnabled : Bool
  certDomains : List GoString
  error : GoString
  keyExpiry : Option Int
  deriving DecidableEq, Repr

/-- The response that carries a snapshot; `int32` wraps. -/
def statusResponse (snap : Snapshot) : GetTailscaleStatusResponse where
  enabled := snap.enabled
  state := snap.state
  backendState := snap.backendState
  hostname := snap.hostname
  dnsName := snap.dnsName
  ips := snap.ips
  port := Int.bmod snap.port (2 ^ 32)
  httpsEnabled := snap.httpsEnabled
  certDomains := snap.certDomains
  error := snap.err
  keyExpiry := if snap.keyExpiry = zeroTime then none else some snap.keyExpiry

/-- `GetTailscaleStatus`. -/
def getTailscaleStatus (s : AdminService) (nodes : List Node) (probe : Except GoString Status) :
    List Node × GetTailscaleStatusResponse :=
  match s.tsNode with
  | some tsNode => ((tsNode.snapshot nodes probe).1, statusResponse (tsNode.snapshot nodes probe).2)
  | none => (nodes, statusResponse disabledSnapshot)

/-! ## The server -/

/-- The section of `cmd/serve.go` that comes next. -/
inductive ServePhase where
  | registering
  | constructing
  | listening
  deriving DecidableEq, Repr

/-- The variable `tsNode`, the admin service, the nodes that have been made, and the goroutine that starts one. -/
structure Server where
  phase : ServePhase
  tsNode : NodePtr
  adminSvc : Option AdminService
  nodes : List Node
  start : Option StartPhase
  deriving DecidableEq

/-- `var tsNode *tailscale.Node`. -/
def Server.init : Server := ⟨.registering, none, none, [], none⟩

/-- A step of `cmd/serve.go`, of the goroutine in `Start`, or a request for the status. -/
inductive ServeStep where
  | registerAdmin
  | constructNode
  | start (move : StartStep)
  | status (probe : Except GoString Status)

/-- One step of the server. -/
def serveStep (cfg : TailscaleConfig) (s : Server) : ServeStep → Option Server
  | .registerAdmin =>
    if s.phase = .registering then
      some { s with adminSvc := some (newService s.tsNode), phase := .constructing }
    else none
  | .constructNode =>
    if s.phase = .constructing then
      if cfg.authKey ≠ [] then
        some { s with
          nodes := s.nodes ++ [Node.new cfg]
          tsNode := some s.nodes.length
          start := some .creating
          phase := .listening }
      else some { s with phase := .listening }
    else none
  | .start move =>
    match s.tsNode, s.start with
    | some a, some phase =>
      match s.nodes[a]? with
      | some n =>
        (startStep n phase move).map fun result =>
          { s with nodes := s.nodes.set a result.1, start := some result.2 }
      | none => none
    | _, _ => none
  | .status probe =>
    match s.phase, s.adminSvc with
    | .listening, some svc => some { s with nodes := (getTailscaleStatus svc s.nodes probe).1 }
    | _, _ => none

/-- What a status should say: whether a key is configured, and the state of the node that was made. -/
def ReportsNode (cfg : TailscaleConfig) (s : Server) (svc : AdminService) (probe : Except GoString Status) : Prop :=
  ((getTailscaleStatus svc s.nodes probe).2.enabled = true ↔ cfg.authKey ≠ []) ∧
    (getTailscaleStatus svc s.nodes probe).2.state = (s.tsNode.snapshot s.nodes probe).2.state

/-! ## What the service holds -/

/-- The variable is nil until the section that assigns it, and stays so without a key; the service keeps the nil
that it was made with. -/
structure Wired (cfg : TailscaleConfig) (s : Server) : Prop where
  undeclared : s.phase = .registering → s.tsNode = none
  keyless : cfg.authKey = [] → s.tsNode = none
  captured : ∀ svc, s.adminSvc = some svc → svc.tsNode = some none

theorem wired_init (cfg : TailscaleConfig) : Wired cfg Server.init := ⟨fun _ => rfl, fun _ => rfl, nofun⟩

theorem wired_serveStep (cfg : TailscaleConfig) (s : Server) (move : ServeStep) (next : Server)
    (hwired : Wired cfg s) (hstep : serveStep cfg s move = some next) : Wired cfg next := by
  cases move with
  | registerAdmin =>
      simp only [serveStep, Option.ite_none_right_eq_some, Option.some.injEq] at hstep
      obtain ⟨hphase, rfl⟩ := hstep
      refine ⟨nofun, hwired.keyless, fun svc hsvc => ?_⟩
      cases hsvc
      exact congrArg some (hwired.undeclared hphase)
  | constructNode =>
      simp only [serveStep, Option.ite_none_right_eq_some] at hstep
      obtain ⟨hphase, hstep⟩ := hstep
      split at hstep
      · rename_i hkey
        cases hstep
        exact ⟨nofun, fun hnone => absurd hnone hkey, hwired.captured⟩
      · cases hstep
        exact ⟨nofun, hwired.keyless, hwired.captured⟩
  | start move =>
      simp only [serveStep] at hstep
      split at hstep
      · split at hstep
        · obtain ⟨result, -, rfl⟩ := Option.map_eq_some_iff.mp hstep
          exact ⟨hwired.undeclared, hwired.keyless, hwired.captured⟩
        · cases hstep
      · cases hstep
  | status probe =>
      simp only [serveStep] at hstep
      split at hstep
      · cases hstep
        exact ⟨hwired.undeclared, hwired.keyless, hwired.captured⟩
      · cases hstep

/-- A service that holds a nil node reports "disabled". -/
theorem getTailscaleStatus_of_nil {svc : AdminService} (hnil : svc.tsNode = some none) (nodes : List Node)
    (probe : Except GoString Status) :
    getTailscaleStatus svc nodes probe = (nodes, statusResponse disabledSnapshot) := by
  simp [getTailscaleStatus, hnil, NodePtr.snapshot]

/-- For every configuration and every run of the server: the status reports the node that was made if and only if
no auth key is configured. -/
theorem getTailscaleStatus_reports_iff (cfg : TailscaleConfig) {moves : List ServeStep} {s : Server}
    (hrun : exec (serveStep cfg) Server.init moves = some s) {svc : AdminService} (hsvc : s.adminSvc = some svc)
    (probe : Except GoString Status) : ReportsNode cfg s svc probe ↔ cfg.authKey = [] := by
  have hwired : Wired cfg s := exec_invariant (Wired cfg) (wired_serveStep cfg) hrun (wired_init cfg)
  unfold ReportsNode
  rw [getTailscaleStatus_of_nil (hwired.captured svc hsvc)]
  constructor
  · rintro ⟨henabled, -⟩
    by_contra hkey
    have hdisabled : false = true := henabled.mpr hkey
    cases hdisabled
  · intro hkey
    rw [hwired.keyless hkey]
    exact ⟨iff_of_false nofun fun hne => hne hkey, rfl⟩

/-- The node has been made, and `Start` has connected it. -/
def wiredRun : List ServeStep :=
  [.registerAdmin, .constructNode, .start (.mkdirAll none), .start .storeStarted,
    .start (.up (.ok ⟨str "Running", [str "100.64.0.1"], none, []⟩)), .start .record, .start .leave]

theorem exec_wiredRun :
    (exec (serveStep sampleConfig) Server.init wiredRun).map (fun s => (s.phase, s.adminSvc, s.tsNode, s.start)) =
        some (.listening, some ⟨some none⟩, some 0, some (.returned (.ok ()))) := by
  decide +kernel

theorem getTailscaleStatus_reports_iff_wiredRun :
    ∃ s svc, exec (serveStep sampleConfig) Server.init wiredRun = some s ∧ s.adminSvc = some svc ∧
      (ReportsNode sampleConfig s svc (.error (str "no backend")) ↔ sampleConfig.authKey = []) := by
  obtain ⟨s, hrun, hend⟩ := Option.map_eq_some_iff.mp exec_wiredRun
  simp only [Prod.mk.injEq] at hend
  obtain ⟨-, hsvc, -, -⟩ := hend
  exact ⟨s, _, hrun, hsvc, getTailscaleStatus_reports_iff sampleConfig hrun hsvc _⟩

/-- The node is running and the status says "disabled". -/
theorem getTailscaleStatus_disabled_while_running :
    ∃ s svc, exec (serveStep sampleConfig) Server.init wiredRun = some s ∧ s.adminSvc = some svc ∧
      sampleConfig.authKey ≠ [] ∧
      (s.tsNode.snapshot s.nodes (.error (str "no backend"))).2.state = stateRunning ∧
      (getTailscaleStatus svc s.nodes (.error (str "no backend"))).2.enabled = false ∧
      (getTailscaleStatus svc s.nodes (.error (str "no backend"))).2.state = stateDisabled ∧
      ¬ ReportsNode sampleConfig s svc (.error (str "no backend")) := by
  have hexec : (exec (serveStep sampleConfig) Server.init wiredRun).map (fun s =>
      (s.adminSvc, (s.tsNode.snapshot s.nodes (.error (str "no backend"))).2.state)) =
        some (some ⟨some none⟩, stateRunning) := by
    decide +kernel
  obtain ⟨s, hrun, hend⟩ := Option.map_eq_some_iff.mp hexec
  obtain ⟨hsvc, hstate⟩ := Prod.mk.inj hend
  have hkey : sampleConfig.authKey ≠ [] := by decide
  have hstatus := @getTailscaleStatus_of_nil ⟨some none⟩ rfl s.nodes (.error (str "no backend"))
  refine ⟨s, _, hrun, hsvc, hkey, hstate, by rw [hstatus]; rfl, by rw [hstatus]; rfl, ?_⟩
  rintro ⟨henabled, -⟩
  rw [hstatus] at henabled
  have hdisabled : false = true := henabled.mpr hkey
  cases hdisabled

end Tailscale
end Dmanager
