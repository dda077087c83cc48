import Dmanager.Frontend.LogSyncer

/-!
# The log queue of several tabs

The table of `logger.ts` belongs to the origin and not to the page: all tabs of the console add to one table, while
`isSyncing` and `isUnloading` are variables of each page.  So two tabs may send the same rows, and delete them under
each other's hands.  When the server answers that the session is not valid, `syncPendingLogs` clears the whole table.

* `CallInv` — what is under way for a call, and what the server has done with it.
* `RowInv`, `UniqueIds` and `SentPresent` — what has become of a row, and which rows are sent.

Each of them concerns one call or one row, so a step about another one leaves it alone (`CallInv.frame`,
`RowInv.frame`).  A page that is closed or loaded anew leaves its calls under way.
-/

namespace Dmanager
namespace Frontend
namespace LogTabs

open Go Lib Logging

/-! ## The source -/

/-- `logDb.logs.clear()`; the next id stays as it is. -/
def clear (logs : LogTable) : LogTable where
  rows := []
  nextId := logs.nextId
  sorted := List.Pairwise.nil
  fresh _ hrow := absurd hrow List.not_mem_nil

/-- Where `syncPendingLogs` of a tab is. -/
inductive TabStage where
  | idle
  | reading
  | calling (call : Nat) (entries : List DBClientLogEntry)
  | deleting (call : Nat) (entries : List DBClientLogEntry)
  | clearing (call : Nat)
  deriving DecidableEq, Repr

/-- The variables of a page. -/
structure Tab where
  stage : TabStage
  isUnloading : Bool
  deriving DecidableEq, Repr

/-- A page that has just been loaded. -/
def Tab.fresh : Tab := ⟨.idle, false⟩

/-- What a call is answered: `processedCount`, or an error with the code `Unauthenticated`. -/
inductive SyncAnswer where
  | processed (processedCount : Int32)
  | unauthenticated
  deriving DecidableEq, Repr

/-- What has happened to rows and to calls; `refused` is at the server, `denied` when the tab learns of it. -/
inductive TabEvent where
  | added (row : DBClientLogEntry)
  | sent (tab call : Nat) (entries : List DBClientLogEntry)
  | handled (call : Nat) (entries : List DBClientLogEntry) (logged : List Record)
  | refused (call : Nat)
  | returned (call : Nat) (processedCount : Int32)
  | denied (call : Nat)
  | failed (call : Nat)
  | deleted (call : Nat) (row : DBClientLogEntry)
  | cleared (call : Nat) (row : DBClientLogEntry)
  deriving DecidableEq, Repr

/-- The table of the origin, its tabs, and the server with the requests and answers under way. -/
structure TabsState where
  logs : LogTable
  tabs : Nat → Tab
  nextCall : Nat
  requests : List (Nat × List DBClientLogEntry)
  responses : List (Nat × SyncAnswer)
  server : RingBuffer
  history : List TabEvent

/-- Tabs that have just been loaded, with what an earlier visit has left in the table. -/
def TabsState.start (logs : LogTable) (server : RingBuffer) : TabsState where
  logs := logs
  tabs _ := .fresh
  nextCall := 0
  requests := []
  responses := []
  server := server
  history := []

namespace TabsState

def setTab (s : TabsState) (tab : Nat) (page : Tab) : TabsState := { s with tabs := Function.update s.tabs tab page }

def setStage (s : TabsState) (tab : Nat) (stage : TabStage) : TabsState :=
  s.setTab tab { s.tabs tab with stage := stage }

end TabsState

/-- What a tab leaves undone when it gives up. -/
def TabStage.failed : TabStage → List TabEvent
  | .idle => []
  | .reading => []
  | .calling call _ => [.failed call]
  | .deleting call _ => [.failed call]
  | .clearing call => [.failed call]

/-- The steps of the tabs, of the server and of the interceptor in front of it. -/
inductive TabsLabel where
  | addLogEntry (tab : Nat) (entry : ClientLogEntry)
  | setIsUnloading (tab : Nat) (value : Bool)
  | syncPendingLogs (tab : Nat)
  | read (tab : Nat)
  | handle (call : Nat) (clock : Nat → Int)
  | refuse (call : Nat)
  | respond (tab : Nat)
  | delete (tab : Nat)
  | clear (tab : Nat)
  | fail (tab : Nat)
  | reload (tab : Nat)

/-- One step.  A `fail` is a rejected await: of the table, or of the call with a code other than `Unauthenticated`. -/
def tabsStep (logger : InterceptHandler) (s : TabsState) : TabsLabel → Option TabsState
  | .addLogEntry tab entry =>
      if (s.tabs tab).isUnloading then some s
      else some { s with logs := s.logs.add entry, history := .added (s.logs.newRow entry) :: s.history }
  | .setIsUnloading tab value => some (s.setTab tab { s.tabs tab with isUnloading := value })
  | .syncPendingLogs tab =>
      match (s.tabs tab).stage with
      | .idle => some (s.setStage tab .reading)
      | _ => some s
  | .read tab =>
      match (s.tabs tab).stage with
      | .reading =>
          let entries := s.logs.limit batchSize
          if entries = [] then some (s.setStage tab .idle)
          else
            some
              { s.setStage tab (.calling s.nextCall entries) with
                nextCall := s.nextCall + 1
                requests := (s.nextCall, entries) :: s.requests
                history := .sent tab s.nextCall entries :: s.history }
      | _ => none
  | .handle call clock =>
      match s.requests.find? fun request => request.1 = call with
      | some (_, entries) =>
          let synced := syncLogs logger clock s.server (entries.map fun row => some row.entry)
          some
            { s with
              requests := s.requests.filter fun request => request.1 ≠ call
              responses := (call, .processed synced.processedCount) :: s.responses
              server := synced.buffer
              history := .handled call entries synced.logged :: s.history }
      | none => none
  | .refuse call =>
      match s.requests.find? fun request => request.1 = call with
      | some _ =>
          some
            { s with
              requests := s.requests.filter fun request => request.1 ≠ call
              responses := (call, .unauthenticated) :: s.responses
              history := .refused call :: s.history }
      | none => none
  | .respond tab =>
      match (s.tabs tab).stage with
      | .calling call entries =>
          match s.responses.find? fun response => response.1 = call with
          | some (_, .processed processedCount) =>
              some
                { s.setStage tab (if 0 < processedCount then .deleting call entries else .idle) with
                  history := .returned call processedCount :: s.history }
          | some (_, .unauthenticated) =>
              some { s.setStage tab (.clearing call) with history := .denied call :: s.history }
          | none => none
      | _ => none
  | .delete tab =>
      match (s.tabs tab).stage with
      | .deleting call entries =>
          let idsToDelete := entries.map DBClientLogEntry.id
          some
            { s.setStage tab (if entries.length < batchSize then .idle else .reading) with
              logs := s.logs.bulkDelete idsToDelete
              history := (s.logs.rows.filter fun row => row.id ∈ idsToDelete).map (.deleted call) ++ s.history }
      | _ => none
  | .clear tab =>
      match (s.tabs tab).stage with
      | .clearing call =>
          some
            { s.setStage tab .idle with
              logs := LogTabs.clear s.logs
              history := s.logs.rows.map (.cleared call) ++ s.history }
      | _ => none
  | .fail tab =>
      match (s.tabs tab).stage with
      | .idle => none
      | stage => some { s.setStage tab .idle with history := stage.failed ++ s.history }
  | .reload tab => some { s.setTab tab .fresh with history := (s.tabs tab).stage.failed ++ s.history }

/-! ## What the history says -/

variable {logger : InterceptHandler} {logs : LogTable} {s next : TabsState} {events history : List TabEvent}
  {tab call : Nat} {entries : List DBClientLogEntry} {row : DBClientLogEntry} {stage : TabStage}

/-- The row has been in the table. -/
def Known (logs : LogTable) (history : List TabEvent) (row : DBClientLogEntry) : Prop :=
  row ∈ logs.rows ∨ .added row ∈ history

/-- The row has been removed by the tab of this call. -/
def Gone (history : List TabEvent) (call : Nat) (row : DBClientLogEntry) : Prop :=
  .deleted call row ∈ history ∨ .cleared call row ∈ history

/-- A call has carried a batch to its handler, which has logged every entry of it, and the tab has been told. -/
def Acknowledged (history : List TabEvent) (tab call : Nat) (entries : List DBClientLogEntry)
    (processedCount : Int32) : Prop :=
  ∃ logged, LoggedAs entries logged ∧ Precedes history (.sent tab call entries) (.handled call entries logged) ∧
    Precedes history (.handled call entries logged) (.returned call processedCount)

/-- A call has been turned away, and the tab has been told. -/
def Denied (history : List TabEvent) (tab call : Nat) (entries : List DBClientLogEntry) : Prop :=
  Precedes history (.sent tab call entries) (.refused call) ∧ Precedes history (.refused call) (.denied call)

/-- The row has been deleted after a call that carried it had been acknowledged. -/
def DeliveredBy (history : List TabEvent) (call : Nat) (row : DBClientLogEntry) : Prop :=
  ∃ tab entries processedCount, row ∈ entries ∧ Acknowledged history tab call entries processedCount ∧
    Precedes history (.returned call processedCount) (.deleted call row)

/-- The row has been cleared away with all others after a call had been denied. -/
def DroppedBy (history : List TabEvent) (call : Nat) (row : DBClientLogEntry) : Prop :=
  ∃ tab entries, Denied history tab call entries ∧ Precedes history (.denied call) (.cleared call row)

/-- The row was in the table when this happened: it had been added, and it had not been removed. -/
structure Present (logs : LogTable) (history : List TabEvent) (row : DBClientLogEntry) (event : TabEvent) : Prop where
  entered : row ∈ logs.rows ∨ Precedes history (.added row) event
  not_deleted : ∀ call, ¬ Precedes history (.deleted call row) event
  not_cleared : ∀ call, ¬ Precedes history (.cleared call row) event

theorem Known.append (events : List TabEvent) (hknown : Known logs history row) :
    Known logs (events ++ history) row :=
  hknown.imp_right (List.mem_append_right _)

theorem Acknowledged.append {processedCount : Int32} (events : List TabEvent)
    (hback : Acknowledged history tab call entries processedCount) :
    Acknowledged (events ++ history) tab call entries processedCount := by
  obtain ⟨logged, hlogged, hsent, hreturned⟩ := hback
  exact ⟨logged, hlogged, hsent.append events, hreturned.append events⟩

theorem Denied.append (events : List TabEvent) (hdenied : Denied history tab call entries) :
    Denied (events ++ history) tab call entries :=
  ⟨hdenied.1.append events, hdenied.2.append events⟩

theorem DeliveredBy.append (events : List TabEvent) (hdelivered : DeliveredBy history call row) :
    DeliveredBy (events ++ history) call row := by
  obtain ⟨tab, entries, processedCount, hrow, hback, hdeleted⟩ := hdelivered
  exact ⟨tab, entries, processedCount, hrow, hback.append events, hdeleted.append events⟩

theorem DroppedBy.append (events : List TabEvent) (hdropped : DroppedBy history call row) :
    DroppedBy (events ++ history) call row := by
  obtain ⟨tab, entries, hdenied, hcleared⟩ := hdropped
  exact ⟨tab, entries, hdenied.append events, hcleared.append events⟩

theorem Present.append {event : TabEvent} (events : List TabEvent) (hnew : event ∉ events)
    (hpresent : Present logs history row event) :
    Present logs (events ++ history) row event where
  entered := hpresent.entered.imp_right fun hprecedes => hprecedes.append events
  not_deleted call hprecedes := hpresent.not_deleted call ((precedes_append_of_not_mem hnew).mp hprecedes)
  not_cleared call hprecedes := hpresent.not_cleared call ((precedes_append_of_not_mem hnew).mp hprecedes)

/-! ## Calls -/

/-- The server has not yet answered this call. -/
def Unanswered (history : List TabEvent) (call : Nat) : Prop :=
  (∀ entries logged, .handled call entries logged ∉ history) ∧ .refused call ∉ history

/-- What is under way for a call, and what the server has done with it. -/
structure CallInv (s : TabsState) (call : Nat) : Prop where
  sent_lt : ∀ {tab entries}, .sent tab call entries ∈ s.history → call < s.nextCall
  sent_unique : ∀ {tab tab' entries entries'}, .sent tab call entries ∈ s.history →
    .sent tab' call entries' ∈ s.history → tab = tab' ∧ entries = entries'
  request : ∀ {entries}, (call, entries) ∈ s.requests →
    (∃ tab, .sent tab call entries ∈ s.history) ∧ Unanswered s.history call
  handled : ∀ {entries logged}, .handled call entries logged ∈ s.history → LoggedAs entries logged ∧
    ∃ tab, Precedes s.history (.sent tab call entries) (.handled call entries logged)
  handled_once : ∀ {entries entries' logged logged'},
    ¬ Precedes s.history (.handled call entries logged) (.handled call entries' logged')
  refused : .refused call ∈ s.history →
    (∃ tab entries, Precedes s.history (.sent tab call entries) (.refused call)) ∧
      ∀ entries logged, .handled call entries logged ∉ s.history
  processed : ∀ {processedCount}, (call, .processed processedCount) ∈ s.responses →
    ∃ entries logged, .handled call entries logged ∈ s.history ∧ processedCount = Int32.ofNat entries.length
  unauthenticated : (call, .unauthenticated) ∈ s.responses → .refused call ∈ s.history

/-- The call in which the server takes part. -/
def TabEvent.served? : TabEvent → Option Nat
  | .sent _ call _ => some call
  | .handled call _ _ => some call
  | .refused call => some call
  | _ => none

/-- A call is as before while the server takes part in others. -/
theorem CallInv.frame (events : List TabEvent) (hinv : CallInv s call)
    (hnone : ∀ event ∈ events, event.served? ≠ some call) (hhistory : next.history = events ++ s.history)
    (hcall : s.nextCall ≤ next.nextCall)
    (hrequests : ∀ entries, (call, entries) ∈ next.requests → (call, entries) ∈ s.requests)
    (hresponses : ∀ answer, (call, answer) ∈ next.responses → (call, answer) ∈ s.responses) : CallInv next call := by
  have hsame {event : TabEvent} (hevent : event.served? = some call) :
      event ∈ next.history ↔ event ∈ s.history := by
    rw [hhistory, List.mem_append]
    exact or_iff_right fun hmem => hnone event hmem hevent
  have horder {first second : TabEvent} (hevent : second.served? = some call) :
      Precedes next.history first second ↔ Precedes s.history first second := by
    rw [hhistory]
    exact precedes_append_of_not_mem fun hmem => hnone second hmem hevent
  constructor
  · intro tab entries hmem
    exact Nat.lt_of_lt_of_le (hinv.sent_lt ((hsame rfl).mp hmem)) hcall
  · intro tab tab' entries entries' hmem hmem'
    exact hinv.sent_unique ((hsame rfl).mp hmem) ((hsame rfl).mp hmem')
  · intro entries hmem
    obtain ⟨⟨tab, hsent⟩, hhandled, hrefused⟩ := hinv.request (hrequests entries hmem)
    exact ⟨⟨tab, (hsame rfl).mpr hsent⟩, fun entries logged hmem => hhandled entries logged ((hsame rfl).mp hmem),
      fun hmem => hrefused ((hsame rfl).mp hmem)⟩
  · intro entries logged hmem
    obtain ⟨hlogged, tab, hprecedes⟩ := hinv.handled ((hsame rfl).mp hmem)
    exact ⟨hlogged, tab, (horder rfl).mpr hprecedes⟩
  · intro entries entries' logged logged' hprecedes
    exact hinv.handled_once ((horder rfl).mp hprecedes)
  · intro hmem
    obtain ⟨⟨tab, entries, hprecedes⟩, hhandled⟩ := hinv.refused ((hsame rfl).mp hmem)
    exact ⟨⟨tab, entries, (horder rfl).mpr hprecedes⟩,
      fun entries logged hmem => hhandled entries logged ((hsame rfl).mp hmem)⟩
  · intro processedCount hmem
    obtain ⟨entries, logged, hhandled, hcount⟩ := hinv.processed (hresponses _ hmem)
    exact ⟨entries, logged, (hsame rfl).mpr hhandled, hcount⟩
  · intro hmem
    exact (hsame rfl).mpr (hinv.unauthenticated (hresponses _ hmem))

/-- A number that has not been sent has not been answered either. -/
theorem CallInv.unanswered (hinv : CallInv s call) (hunsent : ∀ tab entries, .sent tab call entries ∉ s.history) :
    Unanswered s.history call := by
  refine ⟨fun entries logged hmem => ?_, fun hmem => ?_⟩
  · obtain ⟨-, tab, hprecedes⟩ := hinv.handled hmem
    exact hunsent tab entries hprecedes.fst_mem
  · obtain ⟨⟨tab, entries, hprecedes⟩, -⟩ := hinv.refused hmem
    exact hunsent tab entries hprecedes.fst_mem

/-- A call that has not been answered has no answer under way. -/
theorem CallInv.not_mem_responses (hinv : CallInv s call) (hunanswered : Unanswered s.history call)
    (answer : SyncAnswer) : (call, answer) ∉ s.responses := by
  intro hmem
  cases answer with
  | processed processedCount =>
      obtain ⟨entries, logged, hhandled, -⟩ := hinv.processed hmem
      exact hunanswered.1 entries logged hhandled
  | unauthenticated => exact hunanswered.2 (hinv.unauthenticated hmem)

/-- A call is sent under a number of its own. -/
theorem CallInv.send (hinv : CallInv s s.nextCall)
    (hhistory : next.history = .sent tab s.nextCall entries :: s.history) (hcall : next.nextCall = s.nextCall + 1)
    (hrequests : next.requests = (s.nextCall, entries) :: s.requests) (hresponses : next.responses = s.responses) :
    CallInv next s.nextCall := by
  have hunsent : ∀ tab entries, .sent tab s.nextCall entries ∉ s.history := fun tab entries hmem =>
    Nat.lt_irrefl _ (hinv.sent_lt hmem)
  have hsent {tab' entries'} (hmem : .sent tab' s.nextCall entries' ∈ next.history) :
      tab' = tab ∧ entries' = entries := by
    rw [hhistory, List.mem_cons] at hmem
    cases hmem.resolve_right (hunsent tab' entries')
    exact ⟨rfl, rfl⟩
  have hunanswered : Unanswered next.history s.nextCall := by
    unfold Unanswered
    rw [hhistory]
    obtain ⟨hhandled, hrefused⟩ := hinv.unanswered hunsent
    exact ⟨fun entries logged => by simpa using hhandled entries logged, by simpa using hrefused⟩
  have hnone := hinv.not_mem_responses (hinv.unanswered hunsent)
  constructor
  · intro _ _ _
    rw [hcall]
    exact Nat.lt_succ_self _
  · intro tab₁ tab₂ entries₁ entries₂ hmem₁ hmem₂
    obtain ⟨rfl, rfl⟩ := hsent hmem₁
    obtain ⟨rfl, rfl⟩ := hsent hmem₂
    exact ⟨rfl, rfl⟩
  · intro entries' hmem
    rw [hrequests, List.mem_cons] at hmem
    rcases hmem with heq | hmem
    · cases heq
      exact ⟨⟨tab, hhistory ▸ List.mem_cons_self⟩, hunanswered⟩
    · obtain ⟨⟨tab', hmem⟩, -⟩ := hinv.request hmem
      exact absurd hmem (hunsent tab' entries')
  · exact fun hmem => absurd hmem (hunanswered.1 _ _)
  · exact fun hprecedes => hunanswered.1 _ _ hprecedes.fst_mem
  · exact fun hmem => absurd hmem hunanswered.2
  · intro processedCount hmem
    exact absurd (hresponses ▸ hmem) (hnone _)
  · intro hmem
    exact absurd (hresponses ▸ hmem) (hnone _)

/-- The request of a call is handled: its entries are logged and counted. -/
theorem CallInv.handle {logged : List Record} {processedCount : Int32} (hinv : CallInv s call)
    (hrequest : (call, entries) ∈ s.requests) (hlogged : LoggedAs entries logged)
    (hcount : processedCount = Int32.ofNat entries.length)
    (hhistory : next.history = .handled call entries logged :: s.history) (hcall : next.nextCall = s.nextCall)
    (hrequests : next.requests = s.requests.filter fun request => request.1 ≠ call)
    (hresponses : next.responses = (call, .processed processedCount) :: s.responses) : CallInv next call := by
  obtain ⟨⟨tab, hsent⟩, hunanswered⟩ := hinv.request hrequest
  have hsame {tab' entries'} (hmem : .sent tab' call entries' ∈ next.history) :
      .sent tab' call entries' ∈ s.history := by
    rw [hhistory, List.mem_cons] at hmem
    exact hmem.resolve_left (by simp)
  have hhandled {entries' logged'} (hmem : .handled call entries' logged' ∈ next.history) :
      entries' = entries ∧ logged' = logged := by
    rw [hhistory, List.mem_cons] at hmem
    cases hmem.resolve_right (hunanswered.1 entries' logged')
    exact ⟨rfl, rfl⟩
  have hunrefused : .refused call ∉ next.history := by
    rw [hhistory, List.mem_cons, not_or]
    exact ⟨by simp, hunanswered.2⟩
  have hnone := hinv.not_mem_responses hunanswered
  constructor
  · intro tab' entries' hmem
    rw [hcall]
    exact hinv.sent_lt (hsame hmem)
  · exact fun hmem hmem' => hinv.sent_unique (hsame hmem) (hsame hmem')
  · intro entries' hmem
    rw [hrequests, List.mem_filter] at hmem
    simp at hmem
  · intro entries' logged' hmem
    obtain ⟨rfl, rfl⟩ := hhandled hmem
    refine ⟨hlogged, tab, ?_⟩
    rw [hhistory]
    exact precedes_cons.mpr (Or.inr ⟨rfl, hsent⟩)
  · -- what is handled first has been handled before
    intro entries₁ entries₂ logged₁ logged₂ hprecedes
    rw [hhistory, precedes_cons] at hprecedes
    rcases hprecedes with hprecedes | ⟨-, hmem⟩
    · exact hunanswered.1 entries₁ logged₁ hprecedes.fst_mem
    · exact hunanswered.1 entries₁ logged₁ hmem
  · exact fun hmem => absurd hmem hunrefused
  · intro processedCount' hmem
    rw [hresponses, List.mem_cons] at hmem
    cases hmem.resolve_right (hnone _)
    exact ⟨entries, logged, hhistory ▸ List.mem_cons_self, hcount⟩
  · intro hmem
    rw [hresponses, List.mem_cons] at hmem
    exact absurd (hmem.resolve_left (by simp)) (hnone _)

/-- The request of a call is turned away, so that it is never handled. -/
theorem CallInv.refuse (hinv : CallInv s call) (hrequest : (call, entries) ∈ s.requests)
    (hhistory : next.history = .refused call :: s.history) (hcall : next.nextCall = s.nextCall)
    (hrequests : next.requests = s.requests.filter fun request => request.1 ≠ call)
    (hresponses : next.responses = (call, .unauthenticated) :: s.responses) : CallInv next call := by
  obtain ⟨⟨tab, hsent⟩, hunanswered⟩ := hinv.request hrequest
  have hsame {tab' entries'} (hmem : .sent tab' call entries' ∈ next.history) :
      .sent tab' call entries' ∈ s.history := by
    rw [hhistory, List.mem_cons] at hmem
    exact hmem.resolve_left (by simp)
  have hunhandled : ∀ entries logged, .handled call entries logged ∉ next.history := by
    intro entries' logged
    rw [hhistory, List.mem_cons, not_or]
    exact ⟨by simp, hunanswered.1 entries' logged⟩
  have hnone := hinv.not_mem_responses hunanswered
  constructor
  · intro tab' entries' hmem
    rw [hcall]
    exact hinv.sent_lt (hsame hmem)
  · exact fun hmem hmem' => hinv.sent_unique (hsame hmem) (hsame hmem')
  · intro entries' hmem
    rw [hrequests, List.mem_filter] at hmem
    simp at hmem
  · exact fun hmem => absurd hmem (hunhandled _ _)
  · exact fun hprecedes => hunhandled _ _ hprecedes.fst_mem
  · refine fun _ => ⟨⟨tab, entries, ?_⟩, hunhandled⟩
    rw [hhistory]
    exact precedes_cons.mpr (Or.inr ⟨rfl, hsent⟩)
  · intro processedCount hmem
    rw [hresponses, List.mem_cons] at hmem
    exact absurd (hmem.resolve_left (by simp)) (hnone _)
  · exact fun _ => hhistory ▸ List.mem_cons_self

/-! ## Rows -/

/-- A row that has been in the table is still there or has been removed for a reason, and then it stays away. -/
structure RowInv (logs : LogTable) (s : TabsState) (row : DBClientLogEntry) : Prop where
  known : row ∈ s.logs.rows → Known logs s.history row
  known_lt : Known logs s.history row → row.id < s.logs.nextId
  kept : Known logs s.history row → row ∈ s.logs.rows ∨ ∃ call, Gone s.history call row
  gone : ∀ {call}, Gone s.history call row → Known logs s.history row ∧ row ∉ s.logs.rows
  deleted : ∀ {call}, .deleted call row ∈ s.history → DeliveredBy s.history call row
  cleared : ∀ {call}, .cleared call row ∈ s.history → DroppedBy s.history call row

/-- The row that enters or leaves the table. -/
def TabEvent.row? : TabEvent → Option DBClientLogEntry
  | .added row => some row
  | .deleted _ row => some row
  | .cleared _ row => some row
  | _ => none

theorem known_append (hnone : ∀ event ∈ events, event.row? ≠ some row) :
    Known logs (events ++ history) row ↔ Known logs history row := by
  unfold Known
  rw [List.mem_append]
  exact or_congr_right (or_iff_right fun hmem => hnone _ hmem rfl)

theorem gone_append (hnone : ∀ event ∈ events, event.row? ≠ some row) :
    Gone (events ++ history) call row ↔ Gone history call row := by
  unfold Gone
  rw [List.mem_append, List.mem_append]
  exact or_congr (or_iff_right fun hmem => hnone _ hmem rfl) (or_iff_right fun hmem => hnone _ hmem rfl)

/-- A row is as before while others enter and leave. -/
theorem RowInv.frame (events : List TabEvent) (hinv : RowInv logs s row)
    (hnone : ∀ event ∈ events, event.row? ≠ some row) (hhistory : next.history = events ++ s.history)
    (hnextId : s.logs.nextId ≤ next.logs.nextId) (hrow : row ∈ next.logs.rows ↔ row ∈ s.logs.rows) :
    RowInv logs next row := by
  have hknown : Known logs next.history row ↔ Known logs s.history row := by
    rw [hhistory]
    exact known_append hnone
  have hgone {call} : Gone next.history call row ↔ Gone s.history call row := by
    rw [hhistory]
    exact gone_append hnone
  constructor
  · exact fun hin => hknown.mpr (hinv.known (hrow.mp hin))
  · exact fun hin => Nat.lt_of_lt_of_le (hinv.known_lt (hknown.mp hin)) hnextId
  · exact fun hin => (hinv.kept (hknown.mp hin)).imp hrow.mpr fun ⟨call, hcall⟩ => ⟨call, hgone.mpr hcall⟩
  · intro call hmem
    obtain ⟨hin, hnot⟩ := hinv.gone (hgone.mp hmem)
    exact ⟨hknown.mpr hin, mt hrow.mp hnot⟩
  · intro call hmem
    rw [hhistory] at hmem ⊢
    exact (hinv.deleted ((List.mem_append.mp hmem).resolve_left fun hnew => hnone _ hnew rfl)).append events
  · intro call hmem
    rw [hhistory] at hmem ⊢
    exact (hinv.cleared ((List.mem_append.mp hmem).resolve_left fun hnew => hnone _ hnew rfl)).append events

/-- A row is added that has not been in the table. -/
theorem RowInv.add (hinv : RowInv logs s row) (hnew : ¬ Known logs s.history row)
    (hhistory : next.history = .added row :: s.history) (hlt : row.id < next.logs.nextId)
    (hrow : row ∈ next.logs.rows) : RowInv logs next row := by
  have hold {event : TabEvent} (hne : event ≠ .added row) (hmem : event ∈ next.history) : event ∈ s.history := by
    rw [hhistory, List.mem_cons] at hmem
    exact hmem.resolve_left hne
  have hstays {call} : ¬ Gone s.history call row := fun hgone => hnew (hinv.gone hgone).1
  constructor
  · exact fun _ => Or.inr (hhistory ▸ List.mem_cons_self)
  · exact fun _ => hlt
  · exact fun _ => Or.inl hrow
  · exact fun hgone => absurd (hgone.imp (hold (by simp)) (hold (by simp))) hstays
  · exact fun hmem => absurd (Or.inl (hold (by simp) hmem)) hstays
  · exact fun hmem => absurd (Or.inr (hold (by simp) hmem)) hstays

/-- A row leaves the table for a reason. -/
theorem RowInv.remove (events : List TabEvent) (hinv : RowInv logs s row) (hin : row ∈ s.logs.rows)
    (hgone : ∃ call, Gone events call row)
    (hdeleted : ∀ call, .deleted call row ∈ events → DeliveredBy (events ++ s.history) call row)
    (hcleared : ∀ call, .cleared call row ∈ events → DroppedBy (events ++ s.history) call row)
    (hhistory : next.history = events ++ s.history) (hnextId : next.logs.nextId = s.logs.nextId)
    (haway : row ∉ next.logs.rows) : RowInv logs next row := by
  have hknown := hinv.known hin
  have hknown' : Known logs next.history row := hhistory ▸ hknown.append events
  constructor
  · exact fun hstill => absurd hstill haway
  · exact fun _ => hnextId ▸ hinv.known_lt hknown
  · obtain ⟨call, hcall⟩ := hgone
    rw [hhistory]
    exact fun _ => Or.inr ⟨call, hcall.imp (List.mem_append_left _) (List.mem_append_left _)⟩
  · exact fun _ => ⟨hknown', haway⟩
  · intro call hmem
    rw [hhistory] at hmem ⊢
    exact (List.mem_append.mp hmem).elim (hdeleted call) fun hold => (hinv.deleted hold).append events
  · intro call hmem
    rw [hhistory] at hmem ⊢
    exact (List.mem_append.mp hmem).elim (hcleared call) fun hold => (hinv.cleared hold).append events

/-- A row keeps its id to itself. -/
def UniqueIds (logs : LogTable) (history : List TabEvent) : Prop :=
  ∀ row row', Known logs history row → Known logs history row' → row.id = row'.id → row = row'

theorem UniqueIds.append (hunique : UniqueIds logs history) (hnone : ∀ row, .added row ∉ events) :
    UniqueIds logs (events ++ history) := by
  have hknown {row} (hin : Known logs (events ++ history) row) : Known logs history row :=
    hin.imp_right fun hmem => (List.mem_append.mp hmem).resolve_left (hnone row)
  exact fun row row' hrow hrow' => hunique row row' (hknown hrow) (hknown hrow')

theorem UniqueIds.add (hunique : UniqueIds logs history) (hnew : ∀ other, Known logs history other → other.id < row.id) :
    UniqueIds logs (.added row :: history) := by
  have hknown {other} (hin : Known logs (.added row :: history) other) : other = row ∨ Known logs history other := by
    unfold Known at hin
    rw [List.mem_cons, TabEvent.added.injEq] at hin
    exact or_left_comm.mp hin
  intro first second hfirst hsecond hid
  rcases hknown hfirst with rfl | hfirst'
  · rcases hknown hsecond with rfl | hsecond'
    · rfl
    · exact absurd (hid ▸ hnew second hsecond') (Nat.lt_irrefl _)
  · rcases hknown hsecond with rfl | hsecond'
    · exact absurd (hid ▸ hnew first hfirst') (Nat.lt_irrefl _)
    · exact hunique first second hfirst' hsecond' hid

/-- What is sent is in the table. -/
def SentPresent (logs : LogTable) (history : List TabEvent) : Prop :=
  ∀ tab call entries, .sent tab call entries ∈ history → ∀ row ∈ entries,
    Present logs history row (.sent tab call entries)

theorem Present.known {event : TabEvent} (hpresent : Present logs history row event) : Known logs history row :=
  hpresent.entered.imp_right Precedes.fst_mem

theorem SentPresent.append (hsent : SentPresent logs history)
    (hnone : ∀ tab call entries, .sent tab call entries ∉ events) : SentPresent logs (events ++ history) := by
  intro tab call entries hmem row hrow
  have hold := (List.mem_append.mp hmem).resolve_left (hnone tab call entries)
  exact (hsent tab call entries hold row hrow).append events (hnone tab call entries)

/-- A batch is sent that is in the table. -/
theorem SentPresent.send (hsent : SentPresent logs s.history) (hrows : ∀ row, RowInv logs s row)
    (hbatch : ∀ row ∈ entries, row ∈ s.logs.rows) (hfresh : .sent tab call entries ∉ s.history) :
    SentPresent logs (.sent tab call entries :: s.history) := by
  intro tab' call' entries' hmem row hrow
  rcases List.mem_cons.mp hmem with heq | hmem
  · cases heq
    -- a row that is in the table has not been removed
    have hin := hbatch row hrow
    have hnot {call'} : ¬ Gone s.history call' row := fun hgone => ((hrows row).gone hgone).2 hin
    have hbefore {event : TabEvent} (hprecedes : Precedes (.sent tab call entries :: s.history) event
        (.sent tab call entries)) : event ∈ s.history :=
      (precedes_cons.mp hprecedes).elim (fun hbefore => absurd hbefore.snd_mem hfresh) And.right
    exact
      { entered := ((hrows row).known hin).imp_right fun hadded => precedes_cons.mpr (Or.inr ⟨rfl, hadded⟩)
        not_deleted := fun _ hprecedes => hnot (Or.inl (hbefore hprecedes))
        not_cleared := fun _ hprecedes => hnot (Or.inr (hbefore hprecedes)) }
  · exact (hsent tab' call' entries' hmem row hrow).append [_] fun hnew => hfresh (List.mem_singleton.mp hnew ▸ hmem)

end LogTabs
end Frontend
end Dmanager
