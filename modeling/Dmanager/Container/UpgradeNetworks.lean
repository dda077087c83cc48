import Dmanager.Audit.Coverage

/-!
# The networks of an upgraded container

Docker takes one network in the call that creates a container, so `upgradeContainerInternal` splits the networks of
the old container while it iterates over the map: the first one goes into the create call, the others are connected
one by one afterwards.  Both iterations may go through the map in any order.

* `splitNetworks_eq` — when no network has an empty name, the loop splits the entries into the first and the rest.
* `attaching_recreate` — what a run that starts the new container has created and connected.
* `upgrade_reattaches` — an upgrade that succeeds has created one container, with the old name, configuration and
  host configuration, and attached it to the networks of the old one, each once and with its own settings.
-/

namespace Dmanager
namespace Container

open Go Db Lib Server
open Program (perform orFail ensure Returns Succeeds Occurs)

/-! ## The split of the networks -/

/-- Once a network with a name is set aside, the others are kept as they come. -/
theorem foldl_takeNetwork_of_taken {first : GoString × GoString} (hfirst : first.1 ≠ [])
    (entries others : List (GoString × GoString)) :
    entries.foldl takeNetwork (first, others) = (first, others ++ entries) := by
  induction entries generalizing others with
  | nil => simp
  | cons entry rest ih =>
      have htake : takeNetwork (first, others) entry = (first, others ++ [entry]) := by simp [takeNetwork, hfirst]
      rw [List.foldl_cons, htake, ih, List.append_assoc, List.singleton_append]

/-- Without an empty name, the split is that of the list. -/
theorem splitNetworks_eq {networks : NetworkMap} (hnames : ∀ entry ∈ networks.1, entry.1 ≠ []) :
    splitNetworks networks = (networks.1.headD ([], []), networks.1.tail) := by
  obtain ⟨entries, hnodup⟩ := networks
  cases entries with
  | nil => rfl
  | cons entry rest => exact foldl_takeNetwork_of_taken (hnames entry List.mem_cons_self) rest []

/-- The network in the create call is the first one, if there is any. -/
theorem createOptions_network {inspect : ContainerInspect} (hnames : ∀ entry ∈ inspect.networks.1, entry.1 ≠ []) :
    (createOptions inspect).network = inspect.networks.1.head? := by
  unfold createOptions
  rw [splitNetworks_eq hnames]
  cases hentries : inspect.networks.1 with
  | nil => rfl
  | cons entry rest =>
      have hname : entry.1 ≠ [] := hnames entry (by rw [hentries]; exact List.mem_cons_self)
      exact if_pos hname

/-! ## What a run creates and connects -/

/-- A container that has been created, with its options. -/
def createdBy : CallEvent → Option (ContainerCreateOptions × GoString)
  | ⟨.containerCreate options, .ok id⟩ => some (options, id)
  | _ => none

/-- A container that has been connected, with the network and its settings. -/
def connectedBy : CallEvent → Option (GoString × GoString × GoString)
  | ⟨.networkConnect network container endpoint, .ok _⟩ => some (container, network, endpoint)
  | _ => none

def creations (trace : List CallEvent) : List (ContainerCreateOptions × GoString) := trace.filterMap createdBy

def connections (trace : List CallEvent) : List (GoString × GoString × GoString) := trace.filterMap connectedBy

/-- The calls that attach a container to a network. -/
def IsAttaching : Call → Prop
  | .containerCreate _ => True
  | .networkConnect _ _ _ => True
  | _ => False

theorem isAttaching_of_createdBy {event : CallEvent} (hevent : createdBy event ≠ none) : IsAttaching event.op := by
  unfold createdBy at hevent
  split at hevent
  · trivial
  · exact absurd rfl hevent

theorem isAttaching_of_connectedBy {event : CallEvent} (hevent : connectedBy event ≠ none) :
    IsAttaching event.op := by
  unfold connectedBy at hevent
  split at hevent
  · trivial
  · exact absurd rfl hevent

variable {w : Outside} {s : Service} {containerID newID : GoString} {past : List Call} {r : Recreated}

/-- The loop of `NetworkConnect` calls, when it is done. -/
theorem trace_connectNetworks {order : List (GoString × GoString)}
    (hdone : Returns w past (connectNetworks newID order) ()) :
    ((connectNetworks newID order).run w past).trace =
      order.map fun entry => ⟨.networkConnect entry.1 newID entry.2, .ok ()⟩ := by
  induction order generalizing past with
  | nil => rfl
  | cons entry rest ih =>
      obtain ⟨name, endpoint⟩ := entry
      rw [connectNetworks, Program.returns_perform_bind] at hdone
      rw [connectNetworks, Program.run_perform_bind]
      cases hanswer : w (.networkConnect name newID endpoint)
          (past.count (.networkConnect name newID endpoint)) with
      | ok _ =>
          rw [hanswer] at hdone
          rw [List.map_cons, ← ih hdone]
      | error err =>
          rw [hanswer] at hdone
          simp at hdone

/-- From the first connection to the start. -/
theorem trace_connectAndStart {order : List (GoString × GoString)} (hnodup : (order.map Prod.fst).Nodup)
    (huntouched : Untouched newID past)
    (hconnected : ∀ entry ∈ order, w (.networkConnect entry.1 newID entry.2) 0 = .ok ()) :
    ∃ last : CallEvent, last.op = .containerStart newID ∧
      ((connectAndStart newID order r).run w past).trace =
        (order.map fun entry => (⟨.networkConnect entry.1 newID entry.2, .ok ()⟩ : CallEvent)) ++ [last] := by
  have hdone : Returns w past (connectNetworks newID order) () :=
    (returns_connectNetworks hnodup fun entry _ => huntouched.connect entry.1 entry.2).mpr hconnected
  have htrace := trace_connectNetworks hdone
  unfold Returns at hdone
  unfold connectAndStart
  rw [Program.run_bind, hdone]
  dsimp only
  rw [htrace, Program.run_perform_bind]
  cases w (.containerStart newID)
      ((Program.after w past (connectNetworks newID order)).count (.containerStart newID)) with
  | ok _ => exact ⟨_, rfl, rfl⟩
  | error err => exact ⟨_, rfl, rfl⟩

/-- The calls up to the creation: one container is created, with these options, and none is connected. -/
theorem attaching_recreate (hstarted : Started s w containerID r) :
    creations ((recreate s containerID).run w []).trace = [(createOptions r.inspect, r.newID)] ∧
      connections ((recreate s containerID).run w []).trace =
        (w (.mapOrder (splitNetworks r.inspect.networks).2) 0).1.map fun entry => (r.newID, entry.1, entry.2) := by
  obtain ⟨digests, hnewImage⟩ := hstarted.newImage
  have hnodup : ((w (.mapOrder (splitNetworks r.inspect.networks).2) 0).1.map Prod.fst).Nodup :=
    ((w (.mapOrder (splitNetworks r.inspect.networks).2) 0).2.map Prod.fst).nodup_iff.mpr
      (nodup_splitNetworks r.inspect.networks)
  obtain ⟨last, hlast, htail⟩ := @trace_connectAndStart w r.newID (callsToCreate containerID r.inspect) r _ hnodup
    (untouched_callsToCreate r.inspect) hstarted.connected
  -- everything before the creation, with the answers of this run
  have hrun : ((recreate s containerID).run w []).trace =
      [⟨.getContainer containerID, .ok r.existing⟩, ⟨.containerInspect containerID, .ok r.inspect⟩,
          ⟨.imagePull r.inspect.config.image, .ok ()⟩,
          ⟨.copyProgress r.inspect.config.image, w (.copyProgress r.inspect.config.image) 0⟩,
          ⟨.imageInspect r.inspect.config.image, .ok ⟨r.newImageID, digests⟩⟩] ++
        (if r.inspect.running then [⟨.containerStop containerID, .ok ()⟩] else []) ++
          [⟨.containerRemove containerID, .ok ()⟩, ⟨.containerCreate (createOptions r.inspect), .ok r.newID⟩,
            ⟨.mapOrder (splitNetworks r.inspect.networks).2, w (.mapOrder (splitNetworks r.inspect.networks).2) 0⟩] ++
            ((connectAndStart r.newID (w (.mapOrder (splitNetworks r.inspect.networks).2) 0).1 r).run w
              (callsToCreate containerID r.inspect)).trace := by
    cases hrunning : r.inspect.running with
    | false =>
        simp [recreate, requireDockerClient, replaceContainer, ensure, orFail, stopRunning, hrunning, hstarted.existing,
          hstarted.dockerClient, hstarted.inspected, hstarted.image_ne, hstarted.pulled, hnewImage, hstarted.removed,
          hstarted.created, connectAndStart, callsToCreate, stopCalls]
    | true =>
        simp [recreate, requireDockerClient, replaceContainer, ensure, orFail, stopRunning, hrunning, hstarted.existing,
          hstarted.dockerClient, hstarted.inspected, hstarted.image_ne, hstarted.pulled, hnewImage, hstarted.removed,
          hstarted.created, hstarted.stopped hrunning, connectAndStart, callsToCreate, stopCalls]
  have hstart : ¬ IsAttaching last.op := by
    rw [hlast]
    exact id
  have hlastCreated : createdBy last = none := not_not.mp fun hsome => hstart (isAttaching_of_createdBy hsome)
  have hlastConnected : connectedBy last = none := not_not.mp fun hsome => hstart (isAttaching_of_connectedBy hsome)
  have hconnects (order : List (GoString × GoString)) :
      order.filterMap (createdBy ∘ fun entry => ⟨.networkConnect entry.1 r.newID entry.2, .ok ()⟩) = [] :=
    List.filterMap_eq_nil_iff.mpr fun _ _ => rfl
  have hconnected (order : List (GoString × GoString)) :
      order.filterMap (connectedBy ∘ fun entry => ⟨.networkConnect entry.1 r.newID entry.2, .ok ()⟩) =
        order.map fun entry => (r.newID, entry.1, entry.2) := by
    rw [← List.filterMap_eq_map]
    rfl
  have hstopped {β : Type} (f : CallEvent → Option β) (hf : f ⟨.containerStop containerID, .ok ()⟩ = none) :
      (if r.inspect.running then [⟨.containerStop containerID, .ok ()⟩] else []).filterMap f = [] := by
    cases r.inspect.running with
    | false => rfl
    | true => exact List.filterMap_cons_none hf
  rw [hrun, htail]
  constructor
  · simp only [creations, List.filterMap_append, hstopped createdBy rfl, List.filterMap_map, hconnects,
      List.filterMap_cons_none hlastCreated]
    rfl
  · simp only [connections, List.filterMap_append, hstopped connectedBy rfl, List.filterMap_map, hconnected,
      List.filterMap_cons_none hlastConnected]
    exact List.append_nil _

/-- Nothing is attached once the new container is started. -/
theorem attaching_upgradeContainerInternal (hstarted : Started s w containerID r) :
    creations ((upgradeContainerInternal s containerID).run w []).trace =
        creations ((recreate s containerID).run w []).trace ∧
      connections ((upgradeContainerInternal s containerID).run w []).trace =
        connections ((recreate s containerID).run w []).trace := by
  have hfinish (op : Call) (hop : IsFinishing op) : ¬ IsAttaching op := by
    cases op <;> first | exact id | exact False.elim hop
  have hrecreate : ((recreate s containerID).run w []).result = .ok r := returns_recreate.mpr hstarted
  have hnever := @never_finish containerID r.newID r IsAttaching hfinish ⟨r.newID, r.inspect.image, r.newImageID⟩
  unfold upgradeContainerInternal
  rw [Program.run_bind, hrecreate]
  dsimp only
  constructor
  · rw [creations, List.filterMap_append, hnever.filterMap_trace fun _ => isAttaching_of_createdBy,
      List.append_nil, creations]
  · rw [connections, List.filterMap_append, hnever.filterMap_trace fun _ => isAttaching_of_connectedBy,
      List.append_nil, connections]

/-- An upgrade that returns has started the container whose id it returns. -/
theorem started_of_returns {resp : UpgradeContainerResponse}
    (hreturns : Returns w [] (upgradeContainerInternal s containerID) resp) :
    ∃ r, Started s w containerID r ∧ r.newID = resp.id := by
  obtain ⟨r, hrecreated, hrest⟩ := Program.returns_bind.mp hreturns
  obtain ⟨_, _, hrest⟩ := Program.returns_bind.mp hrest
  obtain ⟨_, _, hdone⟩ := Program.returns_bind.mp hrest
  have hresp : (⟨r.newID, r.inspect.image, r.newImageID⟩ : UpgradeContainerResponse) = resp :=
    (Program.returns_done _ _).mp hdone
  exact ⟨r, returns_recreate.mp hrecreated, congrArg UpgradeContainerResponse.id hresp⟩

/-- An upgrade that succeeds has created one container, which has the name of the old one without its leading slash,
its configuration and its host configuration.  It has been attached to the networks of the old one, each once and
with its own settings: to the first one of the map in the call that created it, to every other by one
`NetworkConnect`. -/
theorem upgrade_reattaches {resp : UpgradeContainerResponse} {inspect : ContainerInspect}
    (hreturns : Returns w [] (upgradeContainerInternal s containerID) resp)
    (hinspect : w (.containerInspect containerID) 0 = .ok inspect)
    (hnames : ∀ entry ∈ inspect.networks.1, entry.1 ≠ []) :
    ∃ network others,
      creations ((upgradeContainerInternal s containerID).run w []).trace =
          [(⟨inspect.config, inspect.hostConfig, network, trimPrefix inspect.name (str "/")⟩, resp.id)] ∧
        connections ((upgradeContainerInternal s containerID).run w []).trace =
          others.map (fun entry => (resp.id, entry.1, entry.2)) ∧
        network = inspect.networks.1.head? ∧
        (network.toList ++ others).Perm inspect.networks.1 ∧
        ((network.toList ++ others).map Prod.fst).Nodup := by
  obtain ⟨r, hstarted, hid⟩ := started_of_returns hreturns
  have hsame : inspect = r.inspect := Except.ok.inj (hinspect.symm.trans hstarted.inspected)
  subst hsame
  have hinternal := attaching_upgradeContainerInternal hstarted
  have hrecreate := attaching_recreate hstarted
  have hrest : (splitNetworks r.inspect.networks).2 = r.inspect.networks.1.tail := by rw [splitNetworks_eq hnames]
  have hperm : (r.inspect.networks.1.head?.toList ++
      (w (.mapOrder (splitNetworks r.inspect.networks).2) 0).1).Perm r.inspect.networks.1 := by
    have hothers := (w (.mapOrder (splitNetworks r.inspect.networks).2) 0).2
    rw [hrest] at hothers ⊢
    refine (hothers.append_left _).trans (List.Perm.of_eq ?_)
    cases r.inspect.networks.1 with
    | nil => rfl
    | cons entry rest => rfl
  refine ⟨r.inspect.networks.1.head?, (w (.mapOrder (splitNetworks r.inspect.networks).2) 0).1, ?_, ?_, rfl,
    hperm, ?_⟩
  · rw [hinternal.1, hrecreate.1, hid, ← createOptions_network hnames]
    rfl
  · rw [hinternal.2, hrecreate.2, hid]
  · exact (hperm.map Prod.fst).nodup_iff.mpr r.inspect.networks.2

/-! ## An upgrade with three networks -/

def threeNetworks : ContainerInspect where
  name := str "/web"
  image := str "sha256:1"
  config := ⟨str "nginx:1", []⟩
  hostConfig := str "on-failure"
  status := str "exited"
  running := false
  networks :=
    ⟨[(str "front", str "10.0.0.2"), (str "back", str "10.1.0.2"), (str "logs", str "10.2.0.2")], by decide⟩

/-- The container is there, every call on it succeeds, and `otherNetworks` is iterated backwards. -/
def threeNetworksOutside (op : Call) (n : Nat) : Answer op :=
  match op with
  | .getContainer _ =>
    .ok ⟨str "old", str "web", str "nginx:1", str "sha256:1", str "exited", 0, 1, none, none, none, 0, 0⟩
  | .containerInspect _ => .ok threeNetworks
  | .imagePull _ => .ok ()
  | .copyProgress _ => .ok ()
  | .imageInspect _ => .ok ⟨str "sha256:2", []⟩
  | .containerRemove _ => .ok ()
  | .containerCreate _ => .ok (str "new")
  | .networkConnect _ _ _ => .ok ()
  | .containerStart _ => .ok ()
  | .updateContainerForUpgrade _ => .ok 1
  | .mapOrder entries => ⟨entries.reverse, entries.reverse_perm⟩
  | op => Audit.sampleOutside op n

theorem returns_threeNetworks :
    Returns threeNetworksOutside [] (upgradeContainerInternal ⟨true, true⟩ (str "old"))
      ⟨str "new", str "sha256:1", str "sha256:2"⟩ := by
  unfold Returns
  decide +kernel

theorem upgrade_reattaches_threeNetworks :
    ∃ network others,
      creations ((upgradeContainerInternal ⟨true, true⟩ (str "old")).run threeNetworksOutside []).trace =
          [(⟨threeNetworks.config, threeNetworks.hostConfig, network, str "web"⟩, str "new")] ∧
        connections ((upgradeContainerInternal ⟨true, true⟩ (str "old")).run threeNetworksOutside []).trace =
          others.map (fun entry => (str "new", entry.1, entry.2)) ∧
        network = some (str "front", str "10.0.0.2") ∧
        (network.toList ++ others).Perm threeNetworks.networks.1 ∧
        ((network.toList ++ others).map Prod.fst).Nodup :=
  upgrade_reattaches (s := ⟨true, true⟩) returns_threeNetworks rfl (by decide)

end Container
end Dmanager
