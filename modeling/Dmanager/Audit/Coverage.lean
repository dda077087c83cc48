import Dmanager.Admin.Mutations
import Dmanager.Auth.Interceptor
import Dmanager.Container.Upgrade
import Dmanager.Settings.Mutations

/-!
# The coverage of the audit trail

A request passes through the interceptor to its handler.  Either of them may write to the audit trail: the
interceptor from its static table, the handler of an upgrade by itself.  This module puts the two together
(`serve`) and compares what is written with what was done.

`AuditLaw` is what the trail is for: exactly one entry for each mutation, with the outcome that it really
had, and none for anything else.  The source does not keep it on every input; `auditLaw_iff` says on which
inputs it does.
-/

namespace Dmanager
namespace Audit

open Go Db Lib Server Auth
open Program (Succeeds Occurs)

/-! ## Requests -/

/-- The procedure that takes a message. -/
def procedureOf : AnyRequest → Option GoString
  | .deleteImage _ _ => some deleteImageProcedure
  | .pruneImages _ => some pruneImagesProcedure
  | .pruneBuildCache _ => some pruneBuildCacheProcedure
  | .pruneBuildCacheRecord _ => some pruneBuildCacheRecordProcedure
  | .pruneVolumes => some pruneVolumesProcedure
  | .deleteNetwork _ => some deleteNetworkProcedure
  | .pruneNetworks => some pruneNetworksProcedure
  | .startContainer _ => some startContainerProcedure
  | .stopContainer _ => some stopContainerProcedure
  | .upgradeContainer _ => some upgradeContainerProcedure
  | .setContainerAutoUpdate _ _ => some setContainerAutoUpdateProcedure
  | .checkContainerUpdates _ => some checkContainerUpdatesProcedure
  | .updateSettings _ _ _ => some updateSettingsProcedure
  | .testGotifyNotification _ _ => some testGotifyNotificationProcedure
  | .other => none

/-- The router hands a procedure only the messages that it takes. -/
def Routed (procedure : GoString) (message : AnyRequest) : Prop :=
  procedureOf message = some procedure ∨
    message = .other ∧ ∀ message', procedureOf message' ≠ some procedure

/-- A request that has been routed. -/
inductive Request where
  | unary (procedure : GoString) (message : AnyRequest) (routed : Routed procedure message)
  | stream (procedure : GoString) (routed : Routed procedure .other)

def Request.procedure : Request → GoString
  | .unary procedure _ _ => procedure
  | .stream procedure _ => procedure

def Request.message : Request → AnyRequest
  | .unary _ message _ => message
  | .stream _ _ => .other

/-! ## Handlers -/

/-- The handler of a mutation. -/
def mutationHandler (s : Container.Service) (ctx : Ctx) : AnyRequest → Option (Handler AnyResponse)
  | .deleteImage id force => some (Admin.deleteImage id force)
  | .pruneImages danglingOnly => some (Admin.pruneImages danglingOnly)
  | .pruneBuildCache all => some (Admin.pruneBuildCache all)
  | .pruneBuildCacheRecord id => some (Admin.pruneBuildCacheRecord id)
  | .pruneVolumes => some Admin.pruneVolumes
  | .deleteNetwork id => some (Admin.deleteNetwork id)
  | .pruneNetworks => some Admin.pruneNetworks
  | .startContainer id => some (Container.startContainer s ctx id)
  | .stopContainer id => some (Container.stopContainer s ctx id)
  | .upgradeContainer id => some (Container.upgradeContainer s ctx id)
  | .setContainerAutoUpdate id autoUpdate => some (Container.setContainerAutoUpdate ctx id autoUpdate)
  | .checkContainerUpdates id => some (Container.checkContainerUpdates s ctx id)
  | .updateSettings url token days => some (Settings.updateSettings ctx url token days)
  | .testGotifyNotification url token => some (Settings.testGotifyNotification ctx url token)
  | .other => none

/-- What a handler does that has no auditor. -/
structure Reply (ρ : Type) where
  store : Store
  result : Except ConnectError ρ
  setCookie : Option SetCookie

def Reply.toHandlerRun {ρ : Type} (reply : Reply ρ) : HandlerRun ρ :=
  ⟨reply.store, reply.result, reply.setCookie, []⟩

/-- The services behind the interceptor.  Both holders of an auditor have one.  The handlers that are not
mutations are arbitrary, but have no auditor to write to. -/
structure Services where
  interceptor : Interceptor
  containers : Container.Service
  others : GoString → Store → Ctx → Reply AnyResponse
  streams : GoString → Store → Ctx → Reply Unit
  interceptor_auditor : interceptor.auditor = true
  containers_auditor : containers.auditor = true

/-- The handler of a unary request.  The mutations do not touch users and sessions. -/
def unaryHandler (services : Services) (w : Outside) (procedure : GoString) (message : AnyRequest)
    (store : Store) (ctx : Ctx) : HandlerRun AnyResponse :=
  match mutationHandler services.containers ctx message with
  | some handler => ⟨store, (handler.run w []).result, none, recordedEntries (handler.run w []).trace⟩
  | none => (services.others procedure store ctx).toHandlerRun

/-- What a request leaves behind: the entries of the audit trail, and the calls its handler has made. -/
structure Trail where
  entries : List Entry
  calls : List CallEvent

/-- The calls of a mutation whose handler was invoked. -/
def callsOf (services : Services) (w : Outside) (message : AnyRequest) (invoked : Option Ctx) :
    List CallEvent :=
  match invoked with
  | none => []
  | some ctx =>
    match mutationHandler services.containers ctx message with
    | none => []
    | some handler => (handler.run w []).trace

/-- A request through the interceptor and its handler. -/
def serve (services : Services) (w : Outside) (faults : Faults) (store : Store) (now : Int)
    (cookieHeader : GoString) : Request → Trail
  | .unary procedure message _ =>
    let served := wrapUnary services.interceptor faults (unaryHandler services w procedure message) store now
      Ctx.background procedure cookieHeader message
    ⟨served.entries, callsOf services w message served.invoked⟩
  | .stream procedure _ =>
    let served := wrapStreamingHandler services.interceptor faults
      (fun store ctx => (services.streams procedure store ctx).toHandlerRun) store now
      Ctx.background procedure cookieHeader
    ⟨served.entries, []⟩

/-! ## What the trail is for -/

/-- The procedure is an administrative mutation. -/
def AdminMutation (procedure : GoString) : Prop :=
  getProcedureRole procedure = some .admin ∧ procedure ≠ listAuditLogsProcedure

instance (procedure : GoString) : Decidable (AdminMutation procedure) :=
  inferInstanceAs (Decidable (_ ∧ _))

/-- A call of this kind has been made. -/
def Made (calls : List CallEvent) (D : CallEvent → Prop) : Prop := ∃ event, D event ∧ event ∈ calls

/-- The requested action has been carried out, as the answers to the calls show. -/
def CarriedOut (calls : List CallEvent) : AnyRequest → Prop
  | .deleteImage id force => Made calls fun event => ∃ u, event = ⟨.imageRemove id force, .ok u⟩
  | .pruneImages danglingOnly =>
    Made calls fun event => ∃ report, event = ⟨.imagePrune danglingOnly, .ok report⟩
  | .pruneBuildCache all => Made calls fun event => ∃ report, event = ⟨.buildCachePrune all none, .ok report⟩
  | .pruneBuildCacheRecord id => Made calls (Admin.RemovesRecord id)
  | .pruneVolumes => Made calls fun event => ∃ report, event = ⟨.volumePrune, .ok report⟩
  | .deleteNetwork id => Made calls fun event => ∃ u, event = ⟨.networkRemove id, .ok u⟩
  | .pruneNetworks => Made calls fun event => ∃ names, event = ⟨.networkPrune, .ok names⟩
  | .startContainer id => Container.Transition.start.deed id ∈ calls
  | .stopContainer id => Container.Transition.stop.deed id ∈ calls
  -- a new container from the image that was pulled
  | .upgradeContainer _ => Made calls Container.StartsContainer ∧ Made calls Container.CompletesPull
  | .setContainerAutoUpdate id autoUpdate => Made calls (Container.SetsFlag id autoUpdate)
  | .checkContainerUpdates id => Made calls (Container.StoresCheck id)
  | .updateSettings url token days =>
    ∀ setting ∈ Settings.savedSettings url token days, Settings.saved setting ∈ calls
  | .testGotifyNotification _ _ => Made calls Settings.Delivers
  | .other => False

/-- The entry has the outcome that the request of the user really had. -/
structure Truthful (user : User) (message : AnyRequest) (calls : List CallEvent) (entry : Entry) : Prop where
  denied : entry.outcome = .denied ↔ user.role ≠ adminRole
  success : entry.outcome = .success ↔ CarriedOut calls message
  failure : entry.outcome = .failure ↔ user.role = adminRole ∧ ¬ CarriedOut calls message

/-- One truthful entry for a mutation, none for any other request. -/
structure AuditLaw (user : User) (request : Request) (trail : Trail) : Prop where
  mutation : AdminMutation request.procedure →
    ∃ entry, trail.entries = [entry] ∧ Truthful user request.message trail.calls entry
  other : ¬ AdminMutation request.procedure → trail.entries = []

/-! ## Where the source breaks it -/

/-- The requests that are recorded wrongly: by the answers of the outside, an action that has been carried
out is reported as failed or the other way round, or an upgrade is not recorded at all.  A statement that
finds no row to change, and a pull that breaks off, are no errors to the handlers. -/
def Misrecorded (s : Container.Service) (w : Outside) (user : User) : AnyRequest → Prop
  | .startContainer id =>
    user.role = adminRole ∧
      ∃ existing, Container.Changed .start s w id existing ∧ ¬ Container.StateSaved w id existing
  | .stopContainer id =>
    user.role = adminRole ∧
      ∃ existing, Container.Changed .stop s w id existing ∧ ¬ Container.StateSaved w id existing
  | .upgradeContainer id =>
    user.role ≠ adminRole ∨ id = [] ∨
      ∃ r, Container.Started s w id r ∧ ¬ (Container.RowStored w id r ↔ Container.Pulled w r)
  | .setContainerAutoUpdate id autoUpdate => user.role = adminRole ∧ Container.FlagSet w id autoUpdate 0
  | .checkContainerUpdates id => user.role = adminRole ∧ id ≠ [] ∧ Container.CheckSaved s w id 0
  | .pruneBuildCacheRecord id =>
    user.role = adminRole ∧ trimSpace id ≠ [] ∧
      ∃ report, w (.buildCachePrune true (some id)) 0 = .ok report ∧ report.cachesDeleted = []
  | .testGotifyNotification url token => user.role = adminRole ∧ Settings.Undelivered w url token
  | _ => False

/-! ## The tables of the interceptor -/

variable {services : Services} {w : Outside} {faults : Faults} {store : Store} {now : Int}
variable {cookieHeader procedure : GoString} {message : AnyRequest} {ctx : Ctx} {user : User}

/-- The procedures of the mutations. -/
def mutationProcedures : List GoString :=
  [deleteImageProcedure, pruneImagesProcedure, pruneBuildCacheProcedure, pruneBuildCacheRecordProcedure,
    pruneVolumesProcedure, deleteNetworkProcedure, pruneNetworksProcedure, startContainerProcedure,
    stopContainerProcedure, upgradeContainerProcedure, setContainerAutoUpdateProcedure,
    checkContainerUpdatesProcedure, updateSettingsProcedure, testGotifyNotificationProcedure]

theorem exists_message_of_mem (hmem : procedure ∈ mutationProcedures) :
    ∃ message, procedureOf message = some procedure := by
  simp only [mutationProcedures, List.mem_cons, List.not_mem_nil, or_false] at hmem
  rcases hmem with rfl | rfl | rfl | rfl | rfl | rfl | rfl | rfl | rfl | rfl | rfl | rfl | rfl | rfl
  · exact ⟨.deleteImage [] false, rfl⟩
  · exact ⟨.pruneImages false, rfl⟩
  · exact ⟨.pruneBuildCache false, rfl⟩
  · exact ⟨.pruneBuildCacheRecord [], rfl⟩
  · exact ⟨.pruneVolumes, rfl⟩
  · exact ⟨.deleteNetwork [], rfl⟩
  · exact ⟨.pruneNetworks, rfl⟩
  · exact ⟨.startContainer [], rfl⟩
  · exact ⟨.stopContainer [], rfl⟩
  · exact ⟨.upgradeContainer [], rfl⟩
  · exact ⟨.setContainerAutoUpdate [] false, rfl⟩
  · exact ⟨.checkContainerUpdates [], rfl⟩
  · exact ⟨.updateSettings [] [] 0, rfl⟩
  · exact ⟨.testGotifyNotification [] [], rfl⟩

theorem mem_of_procedureOf (hprocedure : procedureOf message = some procedure) :
    procedure ∈ mutationProcedures := by
  cases message <;> simp_all [procedureOf, mutationProcedures]

theorem exists_upgradeContainer (hprocedure : procedureOf message = some upgradeContainerProcedure) :
    ∃ id, message = .upgradeContainer id := by
  cases message with
  | upgradeContainer id => exact ⟨id, rfl⟩
  | other => cases hprocedure
  | _ => exact absurd (Option.some.inj hprocedure) (by decide +kernel)

/-- Of the administrative procedures, only the list of the audit trail is no mutation. -/
theorem mem_of_mem_procedureRoles : ∀ entry ∈ procedureRoles, entry.2 = .admin →
    entry.1 = listAuditLogsProcedure ∨ entry.1 ∈ mutationProcedures := by
  decide +kernel

theorem adminMutation_of_mem : ∀ procedure ∈ mutationProcedures, AdminMutation procedure := by
  decide +kernel

/-- The administrative procedures are the mutations and the list of the audit trail. -/
theorem adminMutation_iff : AdminMutation procedure ↔ procedure ∈ mutationProcedures := by
  constructor
  · rintro ⟨hrole, hne⟩
    obtain ⟨entry, hfind, hadmin⟩ := Option.map_eq_some_iff.mp hrole
    have hentry := mem_of_mem_procedureRoles entry (List.mem_of_find?_eq_some hfind) hadmin
    have hsame : entry.1 = procedure := by simpa using List.find?_some hfind
    rw [hsame] at hentry
    exact hentry.resolve_left hne
  · exact adminMutation_of_mem procedure

/-- The table of the interceptor has the mutations, but for the upgrade. -/
theorem fst_auditSpecs : auditSpecs.map Prod.fst =
    mutationProcedures.filter fun procedure => procedure ≠ upgradeContainerProcedure := by
  decide +kernel

theorem getAuditSpec_isSome_iff :
    (getAuditSpec procedure).isSome ↔
      procedure ∈ mutationProcedures ∧ procedure ≠ upgradeContainerProcedure := by
  have hfound : (getAuditSpec procedure).isSome ↔ procedure ∈ auditSpecs.map Prod.fst := by
    simp only [getAuditSpec, Option.isSome_map, List.find?_isSome, List.mem_map, decide_eq_true_eq]
  rw [hfound, fst_auditSpecs, List.mem_filter, decide_eq_true_eq]

/-! ## What the handlers do -/

variable {s : Container.Service} {handler : Handler AnyResponse}

theorem exists_mutationHandler (hprocedure : procedureOf message = some procedure) :
    ∃ handler, mutationHandler s ctx message = some handler := by
  cases message <;> first | exact ⟨_, rfl⟩ | cases hprocedure

/-- Only the handler of an upgrade has an auditor. -/
theorem never_record_mutationHandler (hhandler : mutationHandler s ctx message = some handler)
    (hupgrade : procedureOf message ≠ some upgradeContainerProcedure) : handler.Never IsRecord := by
  have hcheck {f : Unit → Handler AnyResponse} (hf : (f ()).Never IsRecord) :
      (Settings.checkAdmin ctx >>= f).Never IsRecord := by
    unfold Settings.checkAdmin
    split
    · trivial
    · simp [hf]
  -- the text of each handler but one has no call to the auditor
  cases message with
  | startContainer id =>
      cases hhandler
      exact Container.never_record_changeState .start
  | stopContainer id =>
      cases hhandler
      exact Container.never_record_changeState .stop
  | upgradeContainer id => exact absurd rfl hupgrade
  | setContainerAutoUpdate id autoUpdate =>
      cases hhandler
      exact Container.never_record_setContainerAutoUpdate
  | checkContainerUpdates id =>
      cases hhandler
      exact Container.never_record_checkContainerUpdates
  | updateSettings url token days =>
      cases hhandler
      exact hcheck (by simp [Settings.saveSetting, IsRecord])
  | testGotifyNotification url token =>
      cases hhandler
      refine hcheck ((Settings.never_resolveSetting id).bind ?_)
      rintro (missing | url)
      · trivial
      · refine (Settings.never_resolveSetting id).bind ?_
        rintro (missing | token)
        · trivial
        · simp only [Settings.postTest]
          split
          · trivial
          · simp [IsRecord]
  | other => cases hhandler
  | _ =>
      cases hhandler
      simp [Admin.deleteImage, Admin.deleteNetwork, Admin.pruneImages, Admin.pruneBuildCache,
        Admin.pruneBuildCacheRecord, Admin.pruneVolumes, Admin.pruneNetworks, IsRecord]

/-- Two facts about the only `a` with `P` amount to the same unless one of them holds alone. -/
theorem exists_and_iff_exists_and {α : Type} {P Q R : α → Prop} (hunique : ∀ a b, P a → P b → a = b) :
    ((∃ a, P a ∧ Q a) ↔ ∃ a, P a ∧ R a) ↔ ¬ ∃ a, P a ∧ ¬ (Q a ↔ R a) := by
  by_cases hsome : ∃ a, P a
  · obtain ⟨a, hP⟩ := hsome
    have honly {Q : α → Prop} : (∃ b, P b ∧ Q b) ↔ Q a :=
      ⟨fun ⟨b, hPb, hQ⟩ => hunique b a hPb hP ▸ hQ, fun hQ => ⟨a, hP, hQ⟩⟩
    rw [honly, honly, honly, not_not]
  · have hnone {Q : α → Prop} : ¬ ∃ b, P b ∧ Q b := fun ⟨b, hPb, _⟩ => hsome ⟨b, hPb⟩
    exact iff_of_true (iff_of_false hnone hnone) hnone

theorem exists_and_iff_exists {α : Type} {P Q : α → Prop} (hunique : ∀ a b, P a → P b → a = b) :
    ((∃ a, P a ∧ Q a) ↔ ∃ a, P a) ↔ ¬ ∃ a, P a ∧ ¬ Q a := by
  simpa using exists_and_iff_exists_and (Q := Q) (R := fun _ => True) hunique

/-- The row that a change of state starts from is the one in the database. -/
theorem changed_unique {transition : Container.Transition} {id : GoString} (a b : Db.Container)
    (ha : Container.Changed transition s w id a) (hb : Container.Changed transition s w id b) : a = b :=
  Except.ok.inj (ha.existing_eq.symm.trans hb.existing_eq)

theorem started_unique {id : GoString} (a b : Container.Recreated) (ha : Container.Started s w id a)
    (hb : Container.Started s w id b) : a = b :=
  Except.ok.inj ((Container.returns_recreate.mpr ha).symm.trans (Container.returns_recreate.mpr hb))

/-- Apart from the upgrade, the response of a handler tells whether the action was carried out, unless the
request is one that is misrecorded. -/
theorem succeeds_iff_carriedOut (hhandler : mutationHandler s ctx message = some handler)
    (hupgrade : procedureOf message ≠ some upgradeContainerProcedure) (huser : ctx.user = some user)
    (hadmin : user.role = adminRole) :
    (Succeeds w [] handler ↔ CarriedOut (handler.run w []).trace message) ↔
      ¬ Misrecorded s w user message := by
  have hchange (transition : Container.Transition) (id : GoString) :
      (Succeeds w [] (Container.changeState transition s ctx id) ↔
        Occurs w [] (Container.changeState transition s ctx id) (transition.deed id)) ↔
      ¬ (user.role = adminRole ∧
        ∃ existing, Container.Changed transition s w id existing ∧ ¬ Container.StateSaved w id existing) := by
    rw [Container.succeeds_changeState transition huser hadmin,
      Container.occurs_changeState transition huser hadmin, exists_and_iff_exists changed_unique]
    simp [hadmin]
  have hrows {P : Nat → Prop} (hunique : ∀ rows rows', P rows → P rows' → rows = rows') :
      ((∃ rows, P rows) ↔ ∃ rows, P rows ∧ rows ≠ 0) ↔ ¬ P 0 := by
    refine Iff.trans Iff.comm ((exists_and_iff_exists hunique).trans ?_)
    simp
  -- six handlers know less than the trail needs; the others commit with the call that counts
  cases message with
  | deleteImage id force =>
      cases hhandler
      exact iff_of_true Admin.commits_deleteImage.succeeds_iff not_false
  | pruneImages danglingOnly =>
      cases hhandler
      exact iff_of_true Admin.commits_pruneImages.succeeds_iff not_false
  | pruneBuildCache all =>
      cases hhandler
      exact iff_of_true Admin.commits_pruneBuildCache.succeeds_iff not_false
  | pruneBuildCacheRecord id =>
      cases hhandler
      have hcarried : CarriedOut ((Admin.pruneBuildCacheRecord id).run w []).trace
          (.pruneBuildCacheRecord id) ↔ _ := Admin.occurs_pruneBuildCacheRecord
      rw [Admin.succeeds_pruneBuildCacheRecord, hcarried, Misrecorded]
      constructor
      · rintro hiff ⟨-, hid, report, hanswer, hempty⟩
        obtain ⟨-, report', hanswer', hdeleted⟩ := hiff.mp ⟨hid, report, hanswer⟩
        rw [hanswer, Except.ok.injEq] at hanswer'
        exact hdeleted (hanswer' ▸ hempty)
      · intro hnot
        refine ⟨fun ⟨hid, report, hanswer⟩ => ⟨hid, report, hanswer, fun hempty => ?_⟩,
          fun ⟨hid, report, hanswer, _⟩ => ⟨hid, report, hanswer⟩⟩
        exact hnot ⟨hadmin, hid, report, hanswer, hempty⟩
  | pruneVolumes =>
      cases hhandler
      exact iff_of_true Admin.commits_pruneVolumes.succeeds_iff not_false
  | deleteNetwork id =>
      cases hhandler
      exact iff_of_true Admin.commits_deleteNetwork.succeeds_iff not_false
  | pruneNetworks =>
      cases hhandler
      exact iff_of_true Admin.commits_pruneNetworks.succeeds_iff not_false
  | startContainer id =>
      cases hhandler
      exact hchange .start id
  | stopContainer id =>
      cases hhandler
      exact hchange .stop id
  | upgradeContainer id => exact absurd rfl hupgrade
  | setContainerAutoUpdate id autoUpdate =>
      cases hhandler
      have hcarried : CarriedOut ((Container.setContainerAutoUpdate ctx id autoUpdate).run w []).trace
          (.setContainerAutoUpdate id autoUpdate) ↔ _ := Container.occurs_setContainerAutoUpdate huser hadmin
      rw [Container.succeeds_setContainerAutoUpdate huser hadmin, hcarried, Misrecorded, and_iff_right hadmin]
      exact hrows fun rows rows' hset hset' => Except.ok.inj (hset.changed.symm.trans hset'.changed)
  | checkContainerUpdates id =>
      cases hhandler
      have hcarried : CarriedOut ((Container.checkContainerUpdates s ctx id).run w []).trace
          (.checkContainerUpdates id) ↔ _ := Container.occurs_checkContainerUpdates huser hadmin
      rw [Container.succeeds_checkContainerUpdates huser hadmin, hcarried, Misrecorded, and_iff_right hadmin]
      exact hrows fun rows rows' hsaved hsaved' => Container.checkSaved_unique rows rows' hsaved.2 hsaved'.2
  | updateSettings url token days =>
      cases hhandler
      exact iff_of_true (Settings.succeeds_updateSettings huser hadmin) not_false
  | testGotifyNotification url token =>
      cases hhandler
      have hcarried : CarriedOut ((Settings.testGotifyNotification ctx url token).run w []).trace
          (.testGotifyNotification url token) ↔ _ := Settings.occurs_testGotifyNotification huser hadmin
      rw [Settings.succeeds_testGotifyNotification huser hadmin, hcarried, Misrecorded]
      constructor
      · rintro hiff ⟨-, hundelivered⟩
        exact (hiff.mp (Or.inr hundelivered)).not_undelivered hundelivered
      · intro hnot
        exact or_iff_left fun hundelivered => hnot ⟨hadmin, hundelivered⟩
  | other => cases hhandler

/-! ## What a request leaves behind -/

section Serve

variable {routed : Routed procedure message}
variable (hauth : (authenticate services.interceptor faults store now Ctx.background cookieHeader).2 = .ok ctx)
variable (huser : ctx.user = some user)

include hauth huser

/-- A mutation by an administrator: what its handler records, and what the interceptor makes of its
result. -/
theorem serve_of_admin (hmem : procedure ∈ mutationProcedures) (hadmin : user.role = adminRole)
    (hhandler : mutationHandler services.containers ctx message = some handler) :
    serve services w faults store now cookieHeader (.unary procedure message routed) =
      ⟨recordedEntries (handler.run w []).trace ++
          recordOutcome services.interceptor procedure message (handler.run w []).result user,
        (handler.run w []).trace⟩ := by
  rw [serve, wrapUnary_eq, decideAccess_of_admin (adminMutation_iff.mpr hmem).1, hauth]
  simp [Except.bind, roleOf, huser, hadmin, unaryHandler, hhandler, callsOf]

/-- A mutation by anyone else does not get to its handler. -/
theorem serve_of_not_admin (hmem : procedure ∈ mutationProcedures) (hadmin : user.role ≠ adminRole) :
    serve services w faults store now cookieHeader (.unary procedure message routed) =
      ⟨recordDenied services.interceptor procedure user, []⟩ := by
  have hrole := (adminMutation_iff.mpr hmem).1
  rw [serve, wrapUnary_eq, decideAccess_of_admin hrole, hauth]
  simp [Except.bind, roleOf, huser, hadmin, callsOf, denialEntries, hrole]

end Serve

/-- Nothing is recorded about a procedure that is not a mutation. -/
theorem entries_of_other {request : Request} (hother : request.procedure ∉ mutationProcedures) :
    (serve services w faults store now cookieHeader request).entries = [] := by
  have hspec : getAuditSpec request.procedure = none := by
    rw [← Option.not_isSome_iff_eq_none, getAuditSpec_isSome_iff]
    exact fun hsome => hother hsome.1
  cases request with
  | unary procedure message routed =>
      have hmessage : message = .other :=
        (routed.resolve_left fun hprocedure => hother (mem_of_procedureOf hprocedure)).1
      change getAuditSpec procedure = none at hspec
      rw [serve, wrapUnary_eq]
      -- without an entry in the table neither end of the wrapper records anything
      rcases decideAccess services.interceptor faults store now Ctx.background procedure cookieHeader with
        ⟨store', err | ctx⟩
      · simp only [denialEntries, recordDenied, hspec]
        split
        · split <;> rfl
        · rfl
      · subst hmessage
        simp only [unaryHandler, mutationHandler, Reply.toHandlerRun, recordOutcome, hspec, List.nil_append]
        split <;> rfl
  | stream procedure routed =>
      rw [serve, wrapStreamingHandler_eq]
      split
      · rfl
      · rfl

/-! ## When the law holds -/

/-- The outcome that stands for a result. -/
def outcomeOf {α : Type} : Except ConnectError α → AuditOutcome
  | .ok _ => .success
  | .error _ => .failure

theorem exists_recordOutcome (services : Services) (message : AnyRequest)
    (result : Except ConnectError AnyResponse) (user : User) (hspec : (getAuditSpec procedure).isSome) :
    ∃ entry, recordOutcome services.interceptor procedure message result user = [entry] ∧
      entry.outcome = outcomeOf result := by
  obtain ⟨spec, hspec⟩ := Option.isSome_iff_exists.mp hspec
  unfold recordOutcome
  rw [hspec, services.interceptor_auditor]
  cases result with
  | error err => exact ⟨_, rfl, rfl⟩
  | ok resp => exact ⟨_, rfl, rfl⟩

theorem exists_recordDenied (services : Services) (user : User) (hspec : (getAuditSpec procedure).isSome) :
    ∃ entry, recordDenied services.interceptor procedure user = [entry] ∧ entry.outcome = .denied := by
  obtain ⟨spec, hspec⟩ := Option.isSome_iff_exists.mp hspec
  unfold recordDenied
  rw [hspec, services.interceptor_auditor]
  exact ⟨_, rfl, rfl⟩

theorem upgradeEntry_outcome {source : AuditSource} {actor actorRole containerID : GoString}
    {result : Except ConnectError Container.UpgradeContainerResponse} :
    (Container.upgradeEntry source actor actorRole containerID result).outcome = outcomeOf result := by
  cases result with
  | error err => rfl
  | ok resp => rfl

/-- Nothing is carried out without a call. -/
theorem not_carriedOut_nil : ¬ CarriedOut [] message := by
  cases message with
  | updateSettings url token days =>
      intro hsaved
      exact absurd (hsaved _ List.mem_cons_self) List.not_mem_nil
  | _ => simp [CarriedOut, Made]

/-- An entry about an administrator is truthful when the result tells whether the action was carried
out. -/
theorem truthful_iff {α : Type} {calls : List CallEvent} {entry : Entry} {result : Except ConnectError α}
    (hadmin : user.role = adminRole) (houtcome : entry.outcome = outcomeOf result) :
    Truthful user message calls entry ↔ ((∃ a, result = .ok a) ↔ CarriedOut calls message) := by
  constructor
  · intro htruthful
    rw [← htruthful.success, houtcome]
    cases result with
    | error err => simp [outcomeOf]
    | ok a => simp [outcomeOf]
  · intro hiff
    constructor
    all_goals
      rw [houtcome]
      cases result with
      | error err => simp_all [outcomeOf]
      | ok a => simp_all [outcomeOf]

theorem auditLaw_iff_truthful {request : Request} {trail : Trail} {entry : Entry}
    (hmem : request.procedure ∈ mutationProcedures) (hentries : trail.entries = [entry]) :
    AuditLaw user request trail ↔ Truthful user request.message trail.calls entry := by
  have hmutation := adminMutation_iff.mpr hmem
  constructor
  · intro hlaw
    obtain ⟨entry', hentries', htruthful⟩ := hlaw.mutation hmutation
    rw [hentries, List.singleton_inj] at hentries'
    rwa [hentries']
  · intro htruthful
    exact ⟨fun _ => ⟨entry, hentries, htruthful⟩, fun hnot => absurd hmutation hnot⟩

/-- A mutation that leaves no entry breaks the law. -/
theorem not_auditLaw_of_unrecorded {request : Request} {trail : Trail}
    (hmem : request.procedure ∈ mutationProcedures) (hentries : trail.entries = []) :
    ¬ AuditLaw user request trail := by
  intro hlaw
  obtain ⟨entry, hentry, -⟩ := hlaw.mutation (adminMutation_iff.mpr hmem)
  simp [hentries] at hentry

/-- An upgrade by an administrator is recorded by its handler. -/
theorem auditLaw_upgrade_iff {id : GoString} {routed : Routed procedure (.upgradeContainer id)}
    (hauth : (authenticate services.interceptor faults store now Ctx.background cookieHeader).2 = .ok ctx)
    (huser : ctx.user = some user) (hadmin : user.role = adminRole)
    (hprocedure : procedure = upgradeContainerProcedure) :
    AuditLaw user (.unary procedure (.upgradeContainer id) routed)
        (serve services w faults store now cookieHeader (.unary procedure (.upgradeContainer id) routed)) ↔
      ¬ Misrecorded services.containers w user (.upgradeContainer id) := by
  have hmem : procedure ∈ mutationProcedures := by
    rw [hprocedure]
    simp [mutationProcedures]
  have hspec : getAuditSpec procedure = none := by
    rw [← Option.not_isSome_iff_eq_none, getAuditSpec_isSome_iff]
    exact fun hsome => hsome.2 hprocedure
  have hskip (result : Except ConnectError AnyResponse) :
      recordOutcome services.interceptor procedure (.upgradeContainer id) result user = [] := by
    simp [recordOutcome, hspec]
  rw [serve_of_admin hauth huser hmem hadmin rfl, hskip, List.append_nil,
    Container.recordedEntries_upgradeContainer huser hadmin services.containers_auditor]
  -- an empty id is refused before the one place that records upgrades
  by_cases hid : id = []
  · refine iff_of_false (not_auditLaw_of_unrecorded hmem (if_pos hid)) (not_not.mpr ?_)
    exact Or.inr (Or.inl hid)
  · have hcarried : CarriedOut ((Container.upgradeContainer services.containers ctx id).run w []).trace
        (.upgradeContainer id) ↔ ∃ r, Container.Started services.containers w id r ∧ Container.Pulled w r := by
      refine Iff.trans (and_congr_left' (Container.occurs_start_upgradeContainer huser hadmin)) ?_
      rw [and_iff_right hid, ← exists_and_right]
      refine exists_congr fun r => and_congr_right fun hstarted => ?_
      exact Container.occurs_pull_upgradeContainer huser hadmin hid hstarted
    have hinternal : (∃ resp, ((Container.upgradeContainerInternal services.containers id).run w []).result =
        .ok resp) ↔ _ := Container.succeeds_upgradeContainerInternal
    -- otherwise there is one entry, and it is about the whole upgrade: the start and the rows
    refine Iff.trans (auditLaw_iff_truthful hmem (if_neg hid)) ?_
    refine Iff.trans (truthful_iff hadmin upgradeEntry_outcome) ?_
    refine Iff.trans (iff_congr hinternal hcarried) ?_
    rw [exists_and_iff_exists_and started_unique]
    simp [Misrecorded, hadmin, hid]

/-- Any other mutation by an administrator is recorded by the interceptor. -/
theorem auditLaw_mutation_iff {routed : Routed procedure message}
    (hauth : (authenticate services.interceptor faults store now Ctx.background cookieHeader).2 = .ok ctx)
    (huser : ctx.user = some user) (hadmin : user.role = adminRole)
    (hprocedure : procedureOf message = some procedure) (hupgrade : procedure ≠ upgradeContainerProcedure) :
    AuditLaw user (.unary procedure message routed)
        (serve services w faults store now cookieHeader (.unary procedure message routed)) ↔
      ¬ Misrecorded services.containers w user message := by
  have hmem := mem_of_procedureOf hprocedure
  have hother : procedureOf message ≠ some upgradeContainerProcedure := by
    rw [hprocedure]
    exact fun hsame => hupgrade (Option.some.inj hsame)
  obtain ⟨handler, hhandler⟩ := exists_mutationHandler hprocedure
  obtain ⟨entry, hentry, houtcome⟩ := exists_recordOutcome services message (handler.run w []).result user
    (getAuditSpec_isSome_iff.mpr ⟨hmem, hupgrade⟩)
  rw [serve_of_admin hauth huser hmem hadmin hhandler,
    recordedEntries_of_never (never_record_mutationHandler hhandler hother), List.nil_append]
  refine Iff.trans (auditLaw_iff_truthful hmem hentry) ?_
  refine Iff.trans (truthful_iff hadmin houtcome) ?_
  exact succeeds_iff_carriedOut hhandler hother huser hadmin

/-- A mutation by anyone else is recorded by the interceptor, but for the upgrade. -/
theorem auditLaw_denied_iff {routed : Routed procedure message}
    (hauth : (authenticate services.interceptor faults store now Ctx.background cookieHeader).2 = .ok ctx)
    (huser : ctx.user = some user) (hadmin : user.role ≠ adminRole)
    (hprocedure : procedureOf message = some procedure) :
    AuditLaw user (.unary procedure message routed)
        (serve services w faults store now cookieHeader (.unary procedure message routed)) ↔
      ¬ Misrecorded services.containers w user message := by
  have hmem := mem_of_procedureOf hprocedure
  rw [serve_of_not_admin hauth huser hmem hadmin]
  -- the table lacks the upgrade, and the handler that would record it is not reached
  by_cases hupgrade : procedure = upgradeContainerProcedure
  · have hspec : getAuditSpec procedure = none := by
      rw [← Option.not_isSome_iff_eq_none, getAuditSpec_isSome_iff]
      exact fun hsome => hsome.2 hupgrade
    refine iff_of_false (not_auditLaw_of_unrecorded hmem ?_) (not_not.mpr ?_)
    · simp [recordDenied, hspec]
    · obtain ⟨id, rfl⟩ := exists_upgradeContainer (hupgrade ▸ hprocedure)
      exact Or.inl hadmin
  · obtain ⟨entry, hentry, houtcome⟩ := exists_recordDenied services user
      (getAuditSpec_isSome_iff.mpr ⟨hmem, hupgrade⟩)
    refine iff_of_true (Iff.mpr (auditLaw_iff_truthful hmem hentry) ?_) ?_
    · constructor
      · simp [houtcome, hadmin]
      · simp [houtcome, not_carriedOut_nil]
      · simp [houtcome, hadmin]
    · cases message with
      | upgradeContainer id => exact absurd (Option.some.inj hprocedure).symm hupgrade
      | _ => simp [Misrecorded, hadmin]

/-- For every request of an authenticated user, to any procedure, with any answers of the outside: the
trail is right exactly when the request is not one that is misrecorded. -/
theorem auditLaw_iff (services : Services) (w : Outside) (faults : Faults) (store : Store) (now : Int)
    (cookieHeader : GoString) (request : Request) (ctx : Ctx) (user : User)
    (hauth : (authenticate services.interceptor faults store now Ctx.background cookieHeader).2 = .ok ctx)
    (huser : ctx.user = some user) :
    AuditLaw user request (serve services w faults store now cookieHeader request) ↔
      ¬ Misrecorded services.containers w user request.message := by
  by_cases hmem : request.procedure ∈ mutationProcedures
  · cases request with
    -- no mutation is a stream
    | stream procedure routed =>
        obtain ⟨message, hmessage⟩ := exists_message_of_mem hmem
        exact absurd hmessage ((routed.resolve_left nofun).2 message)
    | unary procedure message routed =>
        have hprocedure : procedureOf message = some procedure := by
          refine routed.resolve_right fun hother => ?_
          obtain ⟨message', hmessage'⟩ := exists_message_of_mem hmem
          exact hother.2 message' hmessage'
        by_cases hadmin : user.role = adminRole
        · by_cases hupgrade : procedure = upgradeContainerProcedure
          · obtain ⟨id, rfl⟩ := exists_upgradeContainer (hupgrade ▸ hprocedure)
            exact auditLaw_upgrade_iff hauth huser hadmin hupgrade
          · exact auditLaw_mutation_iff hauth huser hadmin hprocedure hupgrade
        · exact auditLaw_denied_iff hauth huser hadmin hprocedure
  · have hmessage : request.message = .other := by
      cases request with
      | unary procedure message routed =>
          exact (routed.resolve_left fun hprocedure => hmem (mem_of_procedureOf hprocedure)).1
      | stream procedure routed => rfl
    rw [hmessage]
    refine iff_of_true ⟨fun hmutation => ?_, fun _ => entries_of_other hmem⟩ not_false
    exact absurd (adminMutation_iff.mp hmutation) hmem

/-! ## Two requests -/

/-- One user with a session. -/
def sampleUser (role : GoString) : User := ⟨1, str "alice", [], role⟩

def sampleStore (role : GoString) : Store where
  users := ⟨[sampleUser role], 1, by simp, by simp [sampleUser], by simp⟩
  sessions := ⟨[⟨str "token", 1, 168 * hour, 0, 0, 720 * hour, []⟩], by simp⟩

def sampleCtx (role : GoString) : Ctx := ⟨some (sampleUser role), some (str "token")⟩

/-- The wired server; its other handlers are not called below. -/
def sampleServices : Services where
  interceptor := ⟨168 * hour, true⟩
  containers := ⟨true, true⟩
  others := fun _ store _ => ⟨store, .ok .other, none⟩
  streams := fun _ store _ => ⟨store, .ok (), none⟩
  interceptor_auditor := rfl
  containers_auditor := rfl

theorem authenticate_sample (role : GoString) :
    (authenticate sampleServices.interceptor Faults.none (sampleStore role) 0 Ctx.background
      (cookieHeaderOf (str "token"))).2 = .ok (sampleCtx role) := by
  rfl

/-- A Docker host without containers, which removes what it is asked to, an empty database, and a Gotify
server that cannot be reached. -/
def sampleOutside (op : Call) (_ : Nat) : Answer op :=
  match op with
  | .imageRemove _ _ => .ok ()
  | .imagePrune _ => .ok ⟨[], 0⟩
  | .buildCachePrune _ _ => .ok ⟨[], 0⟩
  | .volumePrune => .ok ⟨[], 0⟩
  | .networkRemove _ => .ok ()
  | .networkPrune => .ok []
  | .containerInspect _ => .error ⟨.notFound, str "no such container"⟩
  | .containerStart _ => .error ⟨.notFound, str "no such container"⟩
  | .containerStop _ => .error ⟨.notFound, str "no such container"⟩
  | .containerRemove _ => .error ⟨.notFound, str "no such container"⟩
  | .containerCreate _ => .error ⟨.notFound, str "no such image"⟩
  | .networkConnect _ _ _ => .error ⟨.notFound, str "no such container"⟩
  | .imagePull _ => .error ⟨.notFound, str "no such image"⟩
  | .copyProgress _ => .error (str "unexpected EOF")
  | .imageInspect _ => .error ⟨.notFound, str "no such image"⟩
  | .distributionInspect _ => .error ⟨.notFound, str "no such image"⟩
  | .containerList => .ok []
  | .receiveEvent => ⟨.other [], []⟩
  | .events => ()
  | .streamNext => .error none
  | .listContainers => .ok []
  | .getContainer _ => .error .noRows
  | .saveContainer _ => .ok ()
  | .setContainerAutoUpdate _ _ => .ok 0
  | .updateContainerUpdateState _ => .ok 0
  | .updateContainerForUpgrade _ => .ok 0
  | .upsertContainerFromEvent _ => .ok ()
  | .deleteContainer _ => .ok ()
  | .deleteOrphanContainers _ => .ok ()
  | .getSetting _ => .error .noRows
  | .updateSetting _ _ => .ok ()
  | .newRequest _ => .ok ()
  | .postMessage _ _ => .error (str "connection refused")
  | .sendGotify _ _ _ => ()
  | .timeNow => 0
  | .mapOrder entries => ⟨entries, List.Perm.refl entries⟩
  | .publishSave _ => ()
  | .publishDelete _ => ()
  | .logInfo _ _ => ()
  | .record _ => ()

/-- An administrator deletes an image. -/
def deleteRequest : Request := .unary deleteImageProcedure (.deleteImage (str "sha256:1") false) (Or.inl rfl)

theorem auditLaw_iff_deleteRequest :
    (authenticate sampleServices.interceptor Faults.none (sampleStore adminRole) 0 Ctx.background
        (cookieHeaderOf (str "token"))).2 = .ok (sampleCtx adminRole) ∧
      AuditLaw (sampleUser adminRole) deleteRequest
        (serve sampleServices sampleOutside Faults.none (sampleStore adminRole) 0
          (cookieHeaderOf (str "token")) deleteRequest) := by
  refine ⟨authenticate_sample adminRole, ?_⟩
  exact (auditLaw_iff sampleServices sampleOutside Faults.none (sampleStore adminRole) 0
    (cookieHeaderOf (str "token")) deleteRequest (sampleCtx adminRole) (sampleUser adminRole)
    (authenticate_sample adminRole) rfl).mpr not_false

/-- A viewer asks for an upgrade. -/
def upgradeRequest : Request :=
  .unary upgradeContainerProcedure (.upgradeContainer (str "web")) (Or.inl rfl)

/-- The viewer is refused, and the trail does not say so. -/
theorem upgrade_denied_unrecorded :
    AdminMutation upgradeRequest.procedure ∧
      (serve sampleServices sampleOutside Faults.none (sampleStore (str "viewer")) 0
        (cookieHeaderOf (str "token")) upgradeRequest).entries = [] ∧
      ¬ ∀ (services : Services) (w : Outside) (faults : Faults) (store : Store) (now : Int)
          (cookieHeader : GoString) (request : Request) (ctx : Ctx) (user : User),
          (authenticate services.interceptor faults store now Ctx.background cookieHeader).2 = .ok ctx →
            ctx.user = some user →
              AuditLaw user request (serve services w faults store now cookieHeader request) := by
  have hmem : upgradeRequest.procedure ∈ mutationProcedures := by
    simp [upgradeRequest, Request.procedure, mutationProcedures]
  have hentries : (serve sampleServices sampleOutside Faults.none (sampleStore (str "viewer")) 0
      (cookieHeaderOf (str "token")) upgradeRequest).entries = [] := by
    decide +kernel
  refine ⟨adminMutation_iff.mpr hmem, hentries, fun hlaw => ?_⟩
  have hviewer := hlaw sampleServices sampleOutside Faults.none (sampleStore (str "viewer")) 0
    (cookieHeaderOf (str "token")) upgradeRequest (sampleCtx (str "viewer")) (sampleUser (str "viewer"))
    (authenticate_sample (str "viewer")) rfl
  exact not_auditLaw_of_unrecorded hmem hentries hviewer

end Audit
end Dmanager
