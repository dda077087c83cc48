import Dmanager.Container.Upgrade
import Dmanager.Docker.Host

/-!
# An upgrade that fails

`upgradeContainerInternal` removes the old container before it creates the new one, and every call on the way
may fail.  This module follows the container through the upgrade (`Replacement`): the old one stands, or it is
removed and the new one is missing, or the new one has taken its place.

`upgrade_keeps_service` says what an upgrade that returns an error leaves on the host: a container with the
name, the `Config` and the `HostConfig` of the old one, unless the new one could not be created after the old
one was removed, or was removed again because it could not be connected to one of its networks (`Lost`).

A call that is answered by an error has had no effect on the host here.  A daemon may carry out a call that was
cancelled, so a removal that failed for that reason may leave no container either.
-/

namespace Dmanager
namespace Container

open Go Db Lib Server Auth Docker
open Program (perform orFail ensure)

/-! ## The container and its replacement -/

/-- What has become of the container, with what the upgrade knows of the old one. -/
inductive Replacement where
  | standing (inspect : Option ContainerInspect)
  | missing (inspect : ContainerInspect)
  | replaced (inspect : ContainerInspect) (newID : GoString)
  deriving DecidableEq, Repr

/-- What has become of it after a call. -/
def Replacement.after : Replacement → CallEvent → Replacement
  | .standing _, ⟨.containerInspect _, .ok inspect⟩ => .standing (some inspect)
  | .standing (some inspect), ⟨.containerRemove _, .ok _⟩ => .missing inspect
  | .missing inspect, ⟨.containerCreate _, .ok newID⟩ => .replaced inspect newID
  | .replaced inspect _, ⟨.containerRemove _, .ok _⟩ => .missing inspect
  | replacement, _ => replacement

def replacementOf (past : List CallEvent) : Replacement :=
  past.foldr (fun event replacement => replacement.after event) (.standing none)

@[simp] theorem replacementOf_cons (event : CallEvent) (past : List CallEvent) :
    replacementOf (event :: past) = (replacementOf past).after event := rfl

/-- The calls that touch neither the host nor the replacement. -/
def Harmless : Call → Prop
  | .getContainer _ => True
  | .imagePull _ => True
  | .copyProgress _ => True
  | .imageInspect _ => True
  | .mapOrder _ => True
  | .networkConnect _ _ _ => True
  | .timeNow => True
  | .updateContainerForUpgrade _ => True
  | .saveContainer _ => True
  | .publishDelete _ => True
  | .publishSave _ => True
  | _ => False

/-- The calls that the upgrade makes then. -/
def Replacement.Allows (containerID : GoString) (op : Call) : Replacement → Prop
  | .standing inspect =>
    Harmless op ∨ op = .containerInspect containerID ∨ op = .containerStop containerID ∨
      (op = .containerRemove containerID ∧ inspect.isSome)
  | .missing inspect => op = .containerCreate (createOptions inspect)
  | .replaced _ newID =>
    Harmless op ∨ op = .containerInspect newID ∨ op = .containerStart newID ∨ op = .containerRemove newID

def ReplacementCall (containerID : GoString) (past : List CallEvent) (op : Call) : Prop :=
  (replacementOf past).Allows containerID op

/-- The old container was removed, and the new one could not be created, or was removed again. -/
def Lost (containerID : GoString) (past : List CallEvent) : Prop :=
  ⟨.containerRemove containerID, .ok ()⟩ ∈ past ∧
    ((∃ options err, ⟨.containerCreate options, .error err⟩ ∈ past) ∨
      ∃ network newID endpoint err, ⟨.networkConnect network newID endpoint, .error err⟩ ∈ past ∧
        ⟨.containerRemove newID, .ok ()⟩ ∈ past)

/-- A container is missing only if it is lost. -/
def Accounted (containerID : GoString) (past : List CallEvent) : Prop :=
  ∀ inspect, replacementOf past = .missing inspect → Lost containerID past

/-! ## The text of the upgrade -/

/-- Every call of the program is one of the upgrade, and when it fails the container is accounted for. -/
abbrev Upgrades {α : Type} (containerID : GoString) (Q : List CallEvent → α → Prop) (past : List CallEvent)
    (p : Handler α) : Prop :=
  p.AlongOr (ReplacementCall containerID) Q (fun past _ => Accounted containerID past) past

section Text

variable {s : Service} {containerID newID : GoString} {past : List CallEvent} {inspect : ContainerInspect}
variable {known : Option ContainerInspect} {event : CallEvent}

theorem after_of_harmless (replacement : Replacement) (hharmless : Harmless event.op) :
    replacement.after event = replacement := by
  obtain ⟨op, answer⟩ := event
  cases replacement with
  | standing known => cases known <;> cases op <;> first | exact hharmless.elim | rfl
  | missing inspect => cases op <;> first | exact hharmless.elim | rfl
  | replaced inspect newID => cases op <;> first | exact hharmless.elim | rfl

theorem replacementOf_harmless (hharmless : Harmless event.op) :
    replacementOf (event :: past) = replacementOf past := by
  rw [replacementOf_cons, after_of_harmless _ hharmless]

theorem accounted_of_standing (hstanding : replacementOf past = .standing known) :
    Accounted containerID past := by
  intro inspect hmissing
  rw [hstanding] at hmissing
  cases hmissing

theorem accounted_of_replaced (hreplaced : replacementOf past = .replaced inspect newID) :
    Accounted containerID past := by
  intro other hmissing
  rw [hreplaced] at hmissing
  cases hmissing

theorem upgrades_stopRunning (running : Bool) (hstage : replacementOf past = .standing known) :
    Upgrades containerID (fun past _ => replacementOf past = .standing known) past
      (stopRunning containerID running) := by
  cases running with
  | false => exact hstage
  | true =>
      have hnext (answer) : replacementOf (⟨.containerStop containerID, answer⟩ :: past) = .standing known := by
        rw [replacementOf_cons, hstage]
        cases known with
        | none => rfl
        | some inspect => rfl
      simp only [stopRunning, if_true, Program.alongOr_bind, Program.alongOr_perform, Program.alongOr_orFail]
      refine ⟨?_, fun answer => ⟨fun _ _ => hnext answer, fun _ _ => accounted_of_standing (hnext answer)⟩⟩
      rw [ReplacementCall, hstage]
      exact Or.inr (Or.inr (Or.inl rfl))

/-- When a network cannot be connected the new container is removed. -/
theorem upgrades_connectNetworks (order : List (GoString × GoString))
    (hremoved : ⟨.containerRemove containerID, .ok ()⟩ ∈ past)
    (hstage : replacementOf past = .replaced inspect newID) :
    Upgrades containerID (fun past _ => replacementOf past = .replaced inspect newID) past
      (connectNetworks newID order) := by
  induction order generalizing past with
  | nil => exact hstage
  | cons entry rest ih =>
      obtain ⟨name, endpoint⟩ := entry
      have hnext (answer) : replacementOf (⟨.networkConnect name newID endpoint, answer⟩ :: past) =
          .replaced inspect newID :=
        (replacementOf_harmless (by exact trivial)).trans hstage
      simp only [connectNetworks, Program.alongOr_bind, Program.alongOr_perform]
      refine ⟨?_, fun answer => ?_⟩
      · rw [ReplacementCall, hstage]
        exact Or.inl trivial
      · cases answer with
        | ok u => exact ih (List.mem_cons_of_mem _ hremoved) (hnext _)
        | error err =>
            simp only [Program.alongOr_bind, Program.alongOr_perform, Program.alongOr_fail]
            refine ⟨?_, fun rollback => ?_⟩
            · rw [ReplacementCall, hnext]
              exact Or.inr (Or.inr (Or.inr rfl))
            · cases rollback with
              | ok u =>
                  intro _ _
                  refine ⟨?_, Or.inr ⟨name, newID, endpoint, err, ?_, ?_⟩⟩
                  · exact List.mem_cons_of_mem _ (List.mem_cons_of_mem _ hremoved)
                  · exact List.mem_cons_of_mem _ List.mem_cons_self
                  · exact List.mem_cons_self
              | error err' =>
                  -- the rollback has failed as well, so the new container is still there
                  have hstill : replacementOf (⟨.containerRemove newID, .error err'⟩ ::
                      ⟨.networkConnect name newID endpoint, .error err⟩ :: past) = .replaced inspect newID := by
                    rw [replacementOf_cons, hnext]
                    rfl
                  exact accounted_of_replaced hstill

theorem upgrades_replaceContainer (existing : Db.Container)
    (hstage : replacementOf past = .standing (some inspect)) :
    Upgrades containerID (fun past r => replacementOf past = .replaced inspect r.newID) past
      (replaceContainer containerID existing inspect) := by
  have hpulled (answer) : replacementOf (⟨.imagePull inspect.config.image, answer⟩ :: past) =
      .standing (some inspect) :=
    (replacementOf_harmless (by exact trivial)).trans hstage
  have hcopied (pulled copied) : replacementOf (⟨.copyProgress inspect.config.image, copied⟩ ::
      ⟨.imagePull inspect.config.image, pulled⟩ :: past) = .standing (some inspect) :=
    (replacementOf_harmless (by exact trivial)).trans (hpulled pulled)
  have hready (pulled copied inspected) : replacementOf (⟨.imageInspect inspect.config.image, inspected⟩ ::
      ⟨.copyProgress inspect.config.image, copied⟩ :: ⟨.imagePull inspect.config.image, pulled⟩ :: past) =
        .standing (some inspect) :=
    (replacementOf_harmless (by exact trivial)).trans (hcopied pulled copied)
  unfold replaceContainer
  simp only [Program.alongOr_bind, Program.alongOr_ensure, Program.alongOr_perform, Program.alongOr_orFail,
    Program.alongOr_done]
  -- the pull and the inspection of the image come before anything that changes the old container
  refine ⟨fun _ => ⟨?_, fun pulled => ⟨fun _ _ => ⟨?_, fun copied => ⟨?_, fun inspected =>
    ⟨fun newImage _ => ?_, ?_⟩⟩⟩, ?_⟩⟩, ?_⟩
  · rw [ReplacementCall, hstage]
    exact Or.inl trivial
  · rw [ReplacementCall, hpulled]
    exact Or.inl trivial
  · rw [ReplacementCall, hcopied]
    exact Or.inl trivial
  · refine (upgrades_stopRunning inspect.running (hready pulled copied inspected)).mono ?_
    intro past _ hstopped
    refine ⟨?_, fun removed => ⟨fun _ hremoved => ?_, fun err hremoved => ?_⟩⟩
    · rw [ReplacementCall, hstopped]
      exact Or.inr (Or.inr (Or.inr ⟨rfl, rfl⟩))
    · subst hremoved
      have hmissing : replacementOf (⟨.containerRemove containerID, .ok ()⟩ :: past) = .missing inspect := by
        rw [replacementOf_cons, hstopped]
        rfl
      refine ⟨?_, fun created => ⟨fun newID hcreated => ?_, fun err hcreated => ?_⟩⟩
      · rw [ReplacementCall, hmissing]
        rfl
      · subst hcreated
        have hreplaced : replacementOf (⟨.containerCreate (createOptions inspect), .ok newID⟩ ::
            ⟨.containerRemove containerID, .ok ()⟩ :: past) = .replaced inspect newID := by
          rw [replacementOf_cons, hmissing]
          rfl
        refine ⟨?_, fun order => ?_⟩
        · rw [ReplacementCall, hreplaced]
          exact Or.inl trivial
        · have hordered : replacementOf (⟨.mapOrder (splitNetworks inspect.networks).2, order⟩ ::
              ⟨.containerCreate (createOptions inspect), .ok newID⟩ ::
              ⟨.containerRemove containerID, .ok ()⟩ :: past) = .replaced inspect newID :=
            (replacementOf_harmless (by exact trivial)).trans hreplaced
          refine (upgrades_connectNetworks order.1
            (List.mem_cons_of_mem _ (List.mem_cons_of_mem _ List.mem_cons_self)) hordered).mono ?_
          intro past _ hconnected
          have hstarted (answer) : replacementOf (⟨.containerStart newID, answer⟩ :: past) =
              .replaced inspect newID := by
            rw [replacementOf_cons, hconnected]
            rfl
          refine ⟨?_, fun answer => ⟨fun _ _ => hstarted answer, fun _ _ => ?_⟩⟩
          · rw [ReplacementCall, hconnected]
            exact Or.inr (Or.inr (Or.inl rfl))
          · -- a container that does not start stays in place of the old one
            exact accounted_of_replaced (hstarted answer)
      · -- the old container is gone and the new one was not created
        subst hcreated
        intro _ _
        exact ⟨List.mem_cons_of_mem _ List.mem_cons_self, Or.inl ⟨_, err, List.mem_cons_self⟩⟩
    · subst hremoved
      have hstill : replacementOf (⟨.containerRemove containerID, .error err⟩ :: past) =
          .standing (some inspect) := by
        rw [replacementOf_cons, hstopped]
        rfl
      -- the old container could not be removed, so it is still there
      exact accounted_of_standing hstill
  · intro err _
    exact accounted_of_standing (hready pulled copied inspected)
  · intro err _
    exact accounted_of_standing (hpulled pulled)
  · intro _
    exact accounted_of_standing hstage

/-- The calls after the start of the new container. -/
def AfterStart (newID : GoString) (_ : List CallEvent) (op : Call) : Prop :=
  Harmless op ∨ op = .containerInspect newID

/-- Nothing happens to the new container after it is started. -/
theorem upgrades_of_afterStart {α : Type} {p : Handler α}
    (hstage : replacementOf past = .replaced inspect newID)
    (htext : p.Along (AfterStart newID) (fun _ _ => True) past) :
    Upgrades containerID (fun past _ => replacementOf past = .replaced inspect newID) past p := by
  induction p generalizing past with
  | done a => exact hstage
  | fail err => exact accounted_of_replaced hstage
  | call op next ih =>
      obtain ⟨hop, hrest⟩ := htext
      refine ⟨?_, fun answer => ih answer ?_ (hrest answer)⟩
      · rw [ReplacementCall, hstage]
        exact hop.imp id Or.inl
      · rcases hop with hharmless | rfl
        · exact (replacementOf_harmless hharmless).trans hstage
        · rw [replacementOf_cons, hstage]
          rfl

theorem along_storeUpgraded_afterStart {r : Recreated} :
    (storeUpgraded containerID r).Along (AfterStart r.newID) (fun _ _ => True) past := by
  unfold storeUpgraded saveFallback
  simp only [Program.along_bind, Program.along_perform, Program.along_orFail]
  refine ⟨Or.inr rfl, fun _ => ⟨Or.inl trivial, fun _ => ⟨Or.inl trivial, fun _ rows _ => ?_⟩⟩⟩
  split
  · simp only [Program.along_bind, Program.along_perform, Program.along_orFail]
    exact ⟨Or.inl trivial, fun _ => ⟨Or.inl trivial, fun _ => ⟨Or.inl trivial, fun _ _ _ => trivial⟩⟩⟩
  · trivial

theorem along_publishUpgraded_afterStart :
    (publishUpgraded containerID newID).Along (AfterStart newID) (fun _ _ => True) past := by
  have hpublish (past) : (publishRow newID : Handler Unit).Along (AfterStart newID) (fun _ _ => True) past := by
    rw [publishRow, Program.along_bind, Program.along_perform]
    refine ⟨Or.inl trivial, fun answer => ?_⟩
    cases answer with
    | ok row => exact ⟨Or.inl trivial, fun _ => trivial⟩
    | error err => trivial
  unfold publishUpgraded
  split
  · rw [Program.along_bind]
    exact ⟨Or.inl trivial, fun _ => hpublish _⟩
  · exact hpublish past

/-- When the upgrade fails the container is accounted for. -/
theorem upgrades_upgradeContainerInternal :
    Upgrades containerID (fun _ _ => True) [] (upgradeContainerInternal s containerID) := by
  unfold upgradeContainerInternal recreate requireDockerClient
  simp only [Upgrades, Program.alongOr_bind, Program.alongOr_ensure, Program.alongOr_perform,
    Program.alongOr_orFail, Program.alongOr_done]
  have hread (answer) : replacementOf [⟨.getContainer containerID, answer⟩] = .standing none :=
    replacementOf_harmless (by exact trivial)
  refine ⟨Or.inl trivial, fun read => ⟨fun existing _ => ⟨fun _ => ⟨?_, fun inspected => ⟨?_, ?_⟩⟩, ?_⟩, ?_⟩⟩
  · rw [ReplacementCall, hread]
    exact Or.inr (Or.inl rfl)
  · intro inspect hinspect
    subst hinspect
    have hinspected : replacementOf [⟨.containerInspect containerID, .ok inspect⟩,
        ⟨.getContainer containerID, read⟩] = .standing (some inspect) := by
      rw [replacementOf_cons, hread]
      rfl
    refine (upgrades_replaceContainer existing hinspected).mono ?_
    intro past r hreplaced
    refine (upgrades_of_afterStart hreplaced along_storeUpgraded_afterStart).mono ?_
    intro past _ hstored
    exact (upgrades_of_afterStart hstored along_publishUpgraded_afterStart).mono fun _ _ _ => trivial
  · intro err hinspect
    subst hinspect
    have hstill : replacementOf [⟨.containerInspect containerID, .error err⟩,
        ⟨.getContainer containerID, read⟩] = .standing none := by
      rw [replacementOf_cons, hread]
      rfl
    exact accounted_of_standing hstill
  · intro _
    exact accounted_of_standing (hread read)
  · intro _ _
    exact accounted_of_standing (hread read)

end Text

/-! ## What the host holds -/

/-- A container with the name, the `Config` and the `HostConfig` of another one. -/
structure SameService (container original : ContainerInspect) : Prop where
  name : trimPrefix container.name (str "/") = trimPrefix original.name (str "/")
  config : container.config = original.config
  hostConfig : container.hostConfig = original.hostConfig

/-- There is such a container under the id. -/
def Holds (host : Host) (id : GoString) (original : ContainerInspect) : Prop :=
  ∃ container, host.containers id = some container ∧ SameService container original

def HoldsService (host : Host) (original : ContainerInspect) : Prop := ∃ id, Holds host id original

/-- What happens to a container leaves its name and its configuration, and the container itself. -/
def KeepsService : HostAction → Prop
  | .destroy _ => False
  | .rename _ _ => False
  | .update _ _ => False
  | _ => True

/-- The host, in terms of what the upgrade has done. -/
def ReplacementOk (containerID : GoString) (host : Host) (original : ContainerInspect) : Replacement → Prop
  | .standing known =>
    Holds host containerID original ∧ ∀ inspect, known = some inspect → SameService inspect original
  | .missing inspect => SameService inspect original
  | .replaced inspect newID => SameService inspect original ∧ Holds host newID original

section Steps

variable {imageID : GoString → GoString} {faults : Call → Bool} {b next : Backend} {host after : Host}
variable {containerID id : GoString} {original inspect : ContainerInspect} {action : HostAction}
variable {event : CallEvent} {replacement : Replacement}

theorem sameService_change (hkeeps : KeepsService action) (hcreate : ∀ id created, action ≠ .create id created)
    (container : ContainerInspect) :
    ∃ changed, action.change container = some changed ∧ SameService changed container := by
  cases action with
  | create id created => exact absurd rfl (hcreate id created)
  | destroy id => exact hkeeps.elim
  | rename id name => exact hkeeps.elim
  | update id hostConfig => exact hkeeps.elim
  | _ => exact ⟨_, rfl, rfl, rfl, rfl⟩

/-- Docker does not hand out the id of a container again, so a new container takes the place of no other. -/
theorem Holds.perform (hholds : Holds host id original) (hcoherent : host.Coherent)
    (hkeeps : KeepsService action) (hperform : host.perform action = some after) : Holds after id original := by
  obtain ⟨container, hthere, hsame⟩ := hholds
  rcases perform_cases hperform with ⟨new, created, -, -, hunused, rfl⟩ | ⟨old, hcreate, hold, rfl⟩
  · have hne : id ≠ new := by
      rintro rfl
      exact hunused (hcoherent.used id (by simp [hthere]))
    exact ⟨container, by simpa [hne] using hthere, hsame⟩
  · by_cases hid : id = action.id
    · subst hid
      rw [hthere, Option.some.injEq] at hold
      subst hold
      obtain ⟨changed, hchanged, hlike⟩ := sameService_change hkeeps hcreate container
      refine ⟨changed, by simpa using hchanged, hlike.name.trans hsame.name, ?_, ?_⟩
      · exact hlike.config.trans hsame.config
      · exact hlike.hostConfig.trans hsame.hostConfig
    · exact ⟨container, by simpa [hid] using hthere, hsame⟩

/-- Only a removal takes a container away. -/
theorem keepsService_of_mem_hostActions (hremove : ∀ target u, event ≠ ⟨.containerRemove target, .ok u⟩)
    (hmem : action ∈ hostActions imageID host event) : KeepsService action := by
  unfold hostActions at hmem
  split at hmem
  · split at hmem
    · split at hmem
      · cases hmem
      · rw [List.mem_singleton.mp hmem]
        trivial
    · cases hmem
  · split at hmem
    · split at hmem
      · rw [List.mem_singleton.mp hmem]
        trivial
      · cases hmem
    · cases hmem
  · rename_i target u
    exact absurd rfl (hremove target u)
  · rw [List.mem_singleton.mp hmem]
    trivial
  · cases hmem

theorem Holds.call (hholds : Holds b.host id original) (hcoherent : b.host.Coherent)
    (hanswer : b.answer imageID faults event = some next)
    (hreceive : ∀ message, event ≠ ⟨.receiveEvent, message⟩)
    (hremove : ∀ target u, event ≠ ⟨.containerRemove target, .ok u⟩) : Holds next.host id original := by
  rcases host_of_call hanswer hreceive with ⟨-, hsame⟩ | ⟨action, hactions, hperform⟩
  · rw [hsame]
    exact hholds
  · have hmem : action ∈ hostActions imageID b.host event := hactions ▸ List.mem_singleton_self action
    exact hholds.perform hcoherent (keepsService_of_mem_hostActions hremove hmem) hperform

theorem sameService_of_holds (hholds : Holds host id original) (hthere : host.containers id = some inspect) :
    SameService inspect original := by
  obtain ⟨container, hcontainer, hsame⟩ := hholds
  rw [hthere, Option.some.injEq] at hcontainer
  rw [hcontainer]
  exact hsame

/-- The new container is like the one that was inspected. -/
theorem sameService_createdContainer (imageID : GoString) (hsame : SameService inspect original) :
    SameService (createdContainer imageID (createOptions inspect)) original := by
  refine ⟨?_, hsame.config, hsame.hostConfig⟩
  rw [← hsame.name]
  simp [createdContainer, createOptions, trimPrefix, hasPrefix]

theorem ne_remove_of_harmless (hharmless : Harmless event.op) :
    (∀ message, event ≠ ⟨.receiveEvent, message⟩) ∧ ∀ target u, event ≠ ⟨.containerRemove target, .ok u⟩ := by
  constructor
  · rintro message rfl
    exact hharmless
  · rintro target u rfl
    exact hharmless

/-- The old container stands until it is removed. -/
theorem replacementOk_standing {known : Option ContainerInspect} (hcoherent : b.host.Coherent)
    (hok : ReplacementOk containerID b.host original (.standing known))
    (hallows : (Replacement.standing known).Allows containerID event.op)
    (hanswer : b.answer imageID faults event = some next) :
    ReplacementOk containerID next.host original ((Replacement.standing known).after event) := by
  obtain ⟨hholds, hknown⟩ := hok
  rcases hallows with hharmless | hop | hop | ⟨hop, hsome⟩
  · obtain ⟨hreceive, hremove⟩ := ne_remove_of_harmless hharmless
    rw [after_of_harmless _ hharmless]
    exact ⟨hholds.call hcoherent hanswer hreceive hremove, hknown⟩
  · obtain ⟨op, answer⟩ := event
    cases hop
    have hnext := hholds.call hcoherent hanswer nofun nofun
    cases answer with
    | ok inspect =>
        have hthere : b.host.containers containerID = some inspect := by
          simpa [allowed] using (answer_eq_some hanswer).1
        refine ⟨hnext, fun other hother => ?_⟩
        cases hother
        exact sameService_of_holds hholds hthere
    | error err => cases known <;> exact ⟨hnext, hknown⟩
  · obtain ⟨op, answer⟩ := event
    cases hop
    have hnext := hholds.call hcoherent hanswer nofun nofun
    cases known <;> exact ⟨hnext, hknown⟩
  · obtain ⟨op, answer⟩ := event
    cases hop
    obtain ⟨inspect, rfl⟩ := Option.isSome_iff_exists.mp hsome
    cases answer with
    | ok u => exact hknown inspect rfl
    | error err => exact ⟨hholds.call hcoherent hanswer nofun nofun, hknown⟩

/-- The new container is created with the name and the configuration of the old one. -/
theorem replacementOk_missing (hok : ReplacementOk containerID b.host original (.missing inspect))
    (hallows : (Replacement.missing inspect).Allows containerID event.op)
    (hanswer : b.answer imageID faults event = some next) :
    ReplacementOk containerID next.host original ((Replacement.missing inspect).after event) := by
  obtain ⟨op, answer⟩ := event
  cases hallows
  cases answer with
  | error err => exact hok
  | ok newID =>
      rcases host_of_call hanswer nofun with ⟨hnone, -⟩ | ⟨action, haction, hperform⟩
      · cases hnone
      · cases haction
        rcases perform_cases hperform with ⟨id, container, heq, -, -, hhost⟩ | ⟨_, hcreate, -⟩
        · cases heq
          refine ⟨hok, _, ?_, sameService_createdContainer (imageID (createOptions inspect).config.image) hok⟩
          rw [hhost]
          exact Function.update_self _ _ _
        · exact absurd rfl (hcreate _ _)

/-- The new container stands unless it is removed. -/
theorem replacementOk_replaced {newID : GoString} (hcoherent : b.host.Coherent)
    (hok : ReplacementOk containerID b.host original (.replaced inspect newID))
    (hallows : (Replacement.replaced inspect newID).Allows containerID event.op)
    (hanswer : b.answer imageID faults event = some next) :
    ReplacementOk containerID next.host original ((Replacement.replaced inspect newID).after event) := by
  obtain ⟨hsame, hholds⟩ := hok
  rcases hallows with hharmless | hop | hop | hop
  · obtain ⟨hreceive, hremove⟩ := ne_remove_of_harmless hharmless
    rw [after_of_harmless _ hharmless]
    exact ⟨hsame, hholds.call hcoherent hanswer hreceive hremove⟩
  · obtain ⟨op, answer⟩ := event
    cases hop
    exact ⟨hsame, hholds.call hcoherent hanswer nofun nofun⟩
  · obtain ⟨op, answer⟩ := event
    cases hop
    exact ⟨hsame, hholds.call hcoherent hanswer nofun nofun⟩
  · obtain ⟨op, answer⟩ := event
    cases hop
    cases answer with
    | ok u => exact hsame
    | error err => exact ⟨hsame, hholds.call hcoherent hanswer nofun nofun⟩

theorem replacementOk_of_call (hcoherent : b.host.Coherent)
    (hok : ReplacementOk containerID b.host original replacement)
    (hallows : replacement.Allows containerID event.op) (hanswer : b.answer imageID faults event = some next) :
    ReplacementOk containerID next.host original (replacement.after event) := by
  cases replacement with
  | standing known => exact replacementOk_standing hcoherent hok hallows hanswer
  | missing inspect => exact replacementOk_missing hok hallows hanswer
  | replaced inspect newID => exact replacementOk_replaced hcoherent hok hallows hanswer

/-- What others do in the meantime. -/
theorem ReplacementOk.perform (hok : ReplacementOk containerID host original replacement)
    (hcoherent : host.Coherent) (hkeeps : KeepsService action) (hperform : host.perform action = some after) :
    ReplacementOk containerID after original replacement := by
  cases replacement with
  | standing known => exact ⟨hok.1.perform hcoherent hkeeps hperform, hok.2⟩
  | missing inspect => exact hok
  | replaced inspect newID => exact ⟨hok.1, hok.2.perform hcoherent hkeeps hperform⟩

end Steps

/-! ## Runs -/

/-- A configuration with one upgrade. -/
abbrev UpgradeConfig := Config Unit Backend Call Answer ConnectError (Except ConnectError UpgradeContainerResponse)

abbrev UpgradeLabel := Label Unit Happening Call Answer

/-- The upgrade of a container, before its first call. -/
def upgradeAlone (s : Service) (containerID : GoString) (b : Backend) : UpgradeConfig :=
  Config.start b fun _ => (upgradeContainerInternal s containerID).attempt

/-- What holds when the upgrade is over. -/
def UpgradeOver (containerID : GoString) (past : List CallEvent) :
    Except ConnectError UpgradeContainerResponse → Prop
  | .ok _ => True
  | .error _ => Accounted containerID past

structure FailureInv (containerID : GoString) (original : ContainerInspect) (c : UpgradeConfig) : Prop where
  coherent : c.shared.host.Coherent
  follows : Follows (fun _ => ReplacementCall containerID) (fun _ => UpgradeOver containerID) c
  host : ReplacementOk containerID c.shared.host original (replacementOf (c.past ()))

section Runs

variable {s : Service} {imageID : GoString → GoString} {faults : Call → Bool} {containerID : GoString}
variable {original : ContainerInspect} {c next : UpgradeConfig} {label : UpgradeLabel}

theorem failureInv_step (hothers : ∀ action, label = .env (.host action) → KeepsService action)
    (hinv : FailureInv containerID original c)
    (hstep : (backend imageID faults).step c label = some next) : FailureInv containerID original next := by
  have hfollows := hinv.follows.step hstep
  cases label with
  | env e =>
      obtain ⟨shared, henv, rfl⟩ := step_env_eq_some_iff.mp hstep
      rcases host_of_happen henv with ⟨action, rfl, hperform⟩ | ⟨-, hsame⟩
      · have hkeeps : KeepsService action := hothers action rfl
        exact ⟨hinv.coherent.perform hperform, hfollows, hinv.host.perform hinv.coherent hkeeps hperform⟩
      · refine ⟨?_, hfollows, ?_⟩
        · show shared.host.Coherent
          rw [hsame]
          exact hinv.coherent
        · show ReplacementOk containerID shared.host original _
          rw [hsame]
          exact hinv.host
  | call i event =>
      have hpast := (past_of_step_call hstep).1
      obtain ⟨rest, shared, hcall, hanswer, rfl⟩ := step_call_eq_some_iff.mp hstep
      have hallows : (replacementOf (c.past ())).Allows containerID event.op := hinv.follows.call hcall
      refine ⟨coherent_of_answer hinv.coherent hanswer, hfollows, ?_⟩
      rw [hpast, replacementOf_cons]
      exact replacementOk_of_call hinv.coherent hinv.host hallows hanswer

/-- An upgrade that returns an error leaves a container with the name, the `Config` and the `HostConfig` of
the old one on the host, unless it has removed the old one and could not create the new one, or has removed
that again because a network could not be connected. -/
theorem upgrade_keeps_service (s : Service) (imageID : GoString → GoString) (faults : Call → Bool)
    (containerID : GoString) (b : Backend) (original : ContainerInspect) (labels : List UpgradeLabel)
    (final : UpgradeConfig) (err : ConnectError) (hcoherent : b.host.Coherent)
    (hthere : b.host.containers containerID = some original)
    (hothers : ∀ action, .env (.host action) ∈ labels → KeepsService action)
    (hrun : exec (backend imageID faults).step (upgradeAlone s containerID b) labels = some final)
    (hfailed : final.threads () = .done (.error err)) :
    HoldsService final.shared.host original ∨ Lost containerID (final.past ()) := by
  have hfollows : Follows (fun _ => ReplacementCall containerID) (fun _ => UpgradeOver containerID)
      (upgradeAlone s containerID b) := by
    intro i
    refine Program.along_attempt.mpr ?_
    exact upgrades_upgradeContainerInternal
  have hstart : FailureInv containerID original (upgradeAlone s containerID b) :=
    ⟨hcoherent, hfollows, ⟨original, hthere, rfl, rfl, rfl⟩, nofun⟩
  have hrunInv := exec_invariant_of_rest
    (fun rest c => (∀ action, .env (.host action) ∈ rest → KeepsService action) ∧
      FailureInv containerID original c)
    (by
      intro c label rest next hbefore hstep
      obtain ⟨hkeep, hinv⟩ := hbefore
      refine ⟨fun action hmem => hkeep action (List.mem_cons_of_mem _ hmem), ?_⟩
      exact failureInv_step (fun action heq => hkeep action (heq ▸ List.mem_cons_self)) hinv hstep)
    hrun ⟨hothers, hstart⟩
  have hinv : FailureInv containerID original final := hrunInv.2
  have haccounted : Accounted containerID (final.past ()) := hinv.follows.done hfailed
  have hhost := hinv.host
  cases hreplacement : replacementOf (final.past ()) with
  | standing known =>
      rw [hreplacement] at hhost
      exact Or.inl ⟨containerID, hhost.1⟩
  | missing inspect => exact Or.inr (haccounted inspect hreplacement)
  | replaced inspect newID =>
      rw [hreplacement] at hhost
      exact Or.inl ⟨newID, hhost.2⟩

end Runs

/-! ## Runs that fail -/

/-- The upgrade of the container up to the removal of the old one. -/
def webRemoved : List UpgradeLabel :=
  [.call () ⟨.getContainer (str "web"), .ok webRow⟩,
    .call () ⟨.containerInspect (str "web"), .ok webContainer⟩,
    .call () ⟨.imagePull (str "nginx:1"), .ok ()⟩,
    .call () ⟨.copyProgress (str "nginx:1"), .ok ()⟩,
    .call () ⟨.imageInspect (str "nginx:1"), .ok ⟨str "sha256:1", []⟩⟩,
    .call () ⟨.containerStop (str "web"), .ok ()⟩,
    .call () ⟨.containerRemove (str "web"), .ok ()⟩]

/-- The new container is created but does not start. -/
def failedStart : List UpgradeLabel :=
  webRemoved ++
    [.call () ⟨.containerCreate (createOptions webContainer), .ok (str "web2")⟩,
      .call () ⟨.mapOrder [], ⟨[], perm_webNetworks⟩⟩,
      .call () ⟨.containerStart (str "web2"), .error ⟨.other, str "port is taken"⟩⟩]

/-- The new container is not created. -/
def failedCreate : List UpgradeLabel :=
  webRemoved ++
    [.call () ⟨.containerCreate (createOptions webContainer), .error ⟨.other, str "no space left"⟩⟩]

/-- A backend where every call may fail. -/
abbrev faultySystem : System Backend Happening Call Answer := backend (fun _ => str "sha256:1") fun _ => true

theorem exec_failedStart :
    (exec faultySystem.step (upgradeAlone ⟨true, true⟩ (str "web") webBackend) failedStart).map
        (fun c => (c.threads ()).result?) =
      some (some (.ok (.error
        ⟨.internal, str "failed to start upgraded container: port is taken"⟩))) := by
  decide +kernel

theorem upgrade_keeps_service_failedStart :
    ∃ final err, exec faultySystem.step (upgradeAlone ⟨true, true⟩ (str "web") webBackend) failedStart =
        some final ∧
      final.threads () = .done (.error err) ∧
      (HoldsService final.shared.host webContainer ∨ Lost (str "web") (final.past ())) := by
  obtain ⟨final, hfinal, hend⟩ := Option.map_eq_some_iff.mp exec_failedStart
  have hfailed := Program.eq_done_of_result? hend
  have hothers : ∀ action, .env (.host action) ∈ failedStart → KeepsService action := by
    intro action hmem
    simp [failedStart, webRemoved] at hmem
  exact ⟨final, _, hfinal, hfailed, upgrade_keeps_service ⟨true, true⟩ _ _ (str "web") webBackend webContainer
    failedStart final _ coherent_webBackend containers_webBackend hothers hfinal hfailed⟩

theorem exec_failedCreate :
    (exec faultySystem.step (upgradeAlone ⟨true, true⟩ (str "web") webBackend) failedCreate).map
        (fun c => ((c.threads ()).result?, c.shared.host.used, c.shared.host.containers (str "web"))) =
      some (some (.ok (.error ⟨.internal, str "failed to re-create container: no space left"⟩)),
        [str "web"], none) := by
  decide +kernel

/-- The upgrade returns an error, and there is no container at all. -/
theorem failed_create_loses_service :
    webBackend.host.containers (str "web") = some webContainer ∧
      ∃ final err, exec faultySystem.step (upgradeAlone ⟨true, true⟩ (str "web") webBackend) failedCreate =
          some final ∧
        final.threads () = .done (.error err) ∧ ¬ HoldsService final.shared.host webContainer := by
  refine ⟨containers_webBackend, ?_⟩
  obtain ⟨final, hfinal, hend⟩ := Option.map_eq_some_iff.mp exec_failedCreate
  simp only [Prod.mk.injEq] at hend
  obtain ⟨hresult, hused, hgone⟩ := hend
  refine ⟨final, _, hfinal, Program.eq_done_of_result? hresult, ?_⟩
  -- the only id that was handed out is that of the removed container
  have hcoherent : final.shared.host.Coherent :=
    exec_invariant (fun c : UpgradeConfig => c.shared.host.Coherent)
      (fun _ _ _ hbefore hstep => coherent_of_step hbefore hstep) hfinal coherent_webBackend
  rintro ⟨id, container, hthere, -⟩
  have hid : id ∈ final.shared.host.used := hcoherent.used id (by simp [hthere])
  rw [hused, List.mem_singleton] at hid
  rw [hid, hgone] at hthere
  cases hthere

end Container
end Dmanager
