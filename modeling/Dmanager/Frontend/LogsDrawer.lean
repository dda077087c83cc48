import Dmanager.Container.LogOutput
import Dmanager.Lib.RemoteCalls

/-!
# The logs drawer

The drawer opens a terminal and subscribes to the logs of a container; another container, another number of lines or the
other mode of following ends the subscription and starts one anew.  Streams that have been given up may still deliver
lines.  Every subscription is served by `GetContainerLogs`; the lines of a stream arrive in the order in which the
handler sends them, and any stream can break at any moment.

`screen` are the calls of `term.write` since the last `term.clear`; what xterm makes of them is its own.

* `logsDrawer_shows` — in every run the terminal ends a transcript of the latest subscription: its banner, lines that
  its handler has sent, in order and without a gap, and how it ended.
* `logsDrawer_complete` — when the stream is closed by the server, the lines are those of the output of the container.
-/

namespace Dmanager
namespace Frontend

open Go Lib Auth Dmanager.Container

/-! ## The component -/

/-- The badge of the drawer. -/
inductive LogsStatus where
  | connecting
  | streaming
  | disconnected
  | error
  deriving DecidableEq, Repr

/-- The props and the state of the drawer, the terminal, the streams, those that have been connected and aborted, and the
lines that the loops have taken from them, the latest one first. -/
structure LogsDrawer (σ : Type) where
  containerId : Option GoString
  tailLines : Int
  follow : Bool
  status : LogsStatus
  screen : Option (List GoString)
  remote : Remote GetContainerLogsRequest σ LogsCall LogsAnswer LogsError Unit
  connected : List ℕ
  aborted : List ℕ
  received : List (ℕ × GetContainerLogsResponse)

/-- The escape character. -/
def escape : GoString := [0x1B]

/-- The end of a line. -/
def crlf : GoString := [0x0D, 0x0A]

def connectingText : GoString := escape ++ str "[90mConnecting to logs stream..." ++ escape ++ str "[0m" ++ crlf

def connectedText : GoString :=
  escape ++ str "[32mConnected. Streaming container logs:" ++ escape ++ str "[0m" ++ crlf ++ crlf

def closedText : GoString := crlf ++ escape ++ str "[90mStream closed by server." ++ escape ++ str "[0m" ++ crlf

def pausedText : GoString := crlf ++ escape ++ str "[90mStream paused." ++ escape ++ str "[0m" ++ crlf

def errorText (message : GoString) : GoString :=
  crlf ++ escape ++ str "[31mError: " ++ message ++ escape ++ str "[0m" ++ crlf

/-- A line as it is written. -/
def lineText (chunk : GetContainerLogsResponse) : GoString := chunk.logLine ++ crlf

namespace LogsDrawer

variable {σ η : Type}

/-- `isOpen`: there is a container id, and it is not empty. -/
def isOpen (s : LogsDrawer σ) : Bool :=
  match s.containerId with
  | some id => id ≠ []
  | none => false

/-- `term.write`. -/
def write (s : LogsDrawer σ) (text : GoString) : LogsDrawer σ := { s with screen := s.screen.map (· ++ [text]) }

/-- `term.clear`, also that of the button. -/
def clear (s : LogsDrawer σ) : LogsDrawer σ := { s with screen := s.screen.map fun _ => [] }

/-- The request of the subscription. -/
def request (s : LogsDrawer σ) : GetContainerLogsRequest := ⟨s.containerId.getD [], s.tailLines, s.follow⟩

/-- The cleanup of the second effect. -/
def unsubscribe (s : LogsDrawer σ) : LogsDrawer σ :=
  { s with
    remote := s.remote.cancel fun _ => true
    aborted := s.remote.flights.pending.map Flight.number ++ s.aborted }

/-- `streamLogs`, up to its await. -/
def streamLogs (handler : GetContainerLogsRequest → LogsProgram Unit) (s : LogsDrawer σ) : LogsDrawer σ :=
  let s := write (clear { s with status := .connecting }) connectingText
  { s with remote := s.remote.launch handler s.request }

/-- Other props or another state, and the effects: the terminal comes and goes with the drawer, and the subscription is
started anew. -/
def change (handler : GetContainerLogsRequest → LogsProgram Unit) (s : LogsDrawer σ) (containerId : Option GoString)
    (tailLines : Int) (follow : Bool) : LogsDrawer σ :=
  if containerId = s.containerId ∧ tailLines = s.tailLines ∧ follow = s.follow then s
  else
    let next := { s.unsubscribe with containerId := containerId, tailLines := tailLines, follow := follow }
    if next.isOpen then
      streamLogs handler { next with screen := if s.isOpen then next.screen else some [] }
    else { next with screen := none }

/-- How many lines have been taken from a stream. -/
def taken (s : LogsDrawer σ) (n : ℕ) : List GetContainerLogsResponse :=
  ((s.received.filter fun entry => entry.1 = n).map Prod.snd).reverse

/-- The responses that the handler of a stream has sent. -/
def sent (s : LogsDrawer σ) (n : ℕ) : List GetContainerLogsResponse := delivered (s.remote.server.past n).reverse

/-- The call is answered by a stream. -/
def connect (s : LogsDrawer σ) (f : Flight GetContainerLogsRequest) : LogsDrawer σ :=
  if f.cancelled then { s with remote := s.remote.land f }
  else write { s with status := .streaming, connected := f.number :: s.connected } connectedText

/-- The next line of a stream. -/
def receive (s : LogsDrawer σ) (f : Flight GetContainerLogsRequest) (chunk : GetContainerLogsResponse) :
    LogsDrawer σ :=
  if f.cancelled then { s with remote := s.remote.land f }
  else write { s with received := (f.number, chunk) :: s.received } (lineText chunk)

/-- The stream ends. -/
def close (s : LogsDrawer σ) (f : Flight GetContainerLogsRequest) : LogsDrawer σ :=
  let s := { s with remote := s.remote.land f }
  if f.cancelled then s else write { s with status := .disconnected } closedText

/-- The stream breaks. -/
def breakOff (s : LogsDrawer σ) (f : Flight GetContainerLogsRequest) (message : GoString) : LogsDrawer σ :=
  let s := { s with remote := s.remote.land f }
  if f.number ∈ s.aborted then
    if f.cancelled then s else write { s with status := .disconnected } pausedText
  else if f.cancelled then s else write { s with status := .error } (errorText message)

/-- Before anything is opened. -/
def start (shared : σ) : LogsDrawer σ where
  containerId := none
  tailLines := 100
  follow := true
  status := .disconnected
  screen := none
  remote := Remote.start shared (.ctx [])
  connected := []
  aborted := []
  received := []

end LogsDrawer

/-- The events: the props, the controls, the handlers, and the streams. -/
inductive LogsEvent (η : Type) where
  | setContainer (containerId : Option GoString)
  | setTailLines (tailLines : Int)
  | setFollow (follow : Bool)
  | clear
  | serve (label : Label ℕ η LogsCall LogsAnswer)
  | connected (f : Flight GetContainerLogsRequest)
  | received (f : Flight GetContainerLogsRequest) (chunk : GetContainerLogsResponse)
  | ended (f : Flight GetContainerLogsRequest)
  | failed (f : Flight GetContainerLogsRequest) (message : GoString)

variable {σ η : Type}

/-- One event.  A loop takes the lines that the handler has sent, in their order, and ends when the handler has returned
and there are no more. -/
def LogsDrawer.step (handler : GetContainerLogsRequest → LogsProgram Unit) (sys : System σ η LogsCall LogsAnswer)
    (s : LogsDrawer σ) : LogsEvent η → Option (LogsDrawer σ)
  | .setContainer containerId => some (s.change handler containerId s.tailLines s.follow)
  | .setTailLines tailLines => some (s.change handler s.containerId tailLines s.follow)
  | .setFollow follow => some (s.change handler s.containerId s.tailLines follow)
  | .clear => some s.clear
  | .serve label =>
    (sys.step s.remote.server label).map fun server => { s with remote := { s.remote with server := server } }
  | .connected f => if f ∈ s.remote.flights.pending ∧ f.number ∉ s.connected then some (s.connect f) else none
  | .received f chunk =>
    if f ∈ s.remote.flights.pending ∧ f.number ∈ s.connected ∧
        (s.sent f.number)[(s.taken f.number).length]? = some chunk then some (s.receive f chunk)
    else none
  | .ended f =>
    if f ∈ s.remote.flights.pending ∧ f.number ∈ s.connected ∧ s.remote.result? f = some (.ok ()) ∧
        (s.taken f.number).length = (s.sent f.number).length then some (s.close f)
    else none
  | .failed f message => if f ∈ s.remote.flights.pending then some (s.breakOff f message) else none

/-! ## What the terminal shows -/

/-- How the subscription has ended, as far as it has. -/
def LogsDrawer.Ending (status : LogsStatus) (ending : List GoString) : Prop :=
  match status with
  | .connecting => ending = []
  | .streaming => ending = []
  | .disconnected => ending = [closedText]
  | .error => ∃ message, ending = [errorText message]

/-- All that has been written for a subscription. -/
def LogsDrawer.transcript (s : LogsDrawer σ) (n : ℕ) (ending : List GoString) : List GoString :=
  connectingText :: ((if n ∈ s.connected then connectedText :: (s.taken n).map lineText else []) ++ ending)

/-- The latest subscription: in flight, and connected once it is streaming; or closed, after all that its handler has
sent; or broken. -/
inductive LogsDrawer.Phase (s : LogsDrawer σ) : Prop where
  | live (f : Flight GetContainerLogsRequest) (hlive : s.remote.flights.live (fun _ => true) = [f])
      (hnumber : f.number = s.remote.flights.started)
      (hstatus : s.status = .connecting ∧ f.number ∉ s.connected ∨ s.status = .streaming ∧ f.number ∈ s.connected)
  | closed (hlive : s.remote.flights.live (fun _ => true) = []) (hstatus : s.status = .disconnected)
      (hconnected : s.remote.flights.started ∈ s.connected)
      (hdone : s.remote.server.threads s.remote.flights.started = .done ())
      (htaken : s.taken s.remote.flights.started = s.sent s.remote.flights.started)
  | broken (hlive : s.remote.flights.live (fun _ => true) = []) (hstatus : s.status = .error)

/-- What the drawer, the streams and the handlers have to do with each other. -/
structure Showing (handler : GetContainerLogsRequest → LogsProgram Unit) (s : LogsDrawer σ) : Prop where
  coherent : Remote.Coherent handler s.remote
  shown_iff : s.screen.isSome = s.isOpen
  aborted : ∀ f ∈ s.remote.flights.pending, f.number ∈ s.aborted → f.cancelled = true
  known : ∀ n, n ∈ s.connected ∨ n ∈ s.aborted → n ≤ s.remote.flights.started
  unconnected : ∀ n, n ∉ s.connected → s.taken n = []
  order : ∀ n, s.taken n <+: s.sent n
  through : s.isOpen = true → (handler s.request).through
    (s.remote.server.past s.remote.flights.started).reverse = some (s.remote.server.threads s.remote.flights.started)
  phase : s.isOpen = true → s.Phase
  closed : s.isOpen = false → s.remote.flights.live (fun _ => true) = []
  screen : ∀ shown, s.screen = some shown →
    ∃ ending, LogsDrawer.Ending s.status ending ∧ shown <:+ s.transcript s.remote.flights.started ending

/-! ## The component keeps it up -/

section Step

variable {handler : GetContainerLogsRequest → LogsProgram Unit} {sys : System σ η LogsCall LogsAnswer}
variable {s next : LogsDrawer σ} {f : Flight GetContainerLogsRequest}

/-- The handlers only send more. -/
theorem sent_serve {server : Config ℕ σ LogsCall LogsAnswer LogsError Unit} {label : Label ℕ η LogsCall LogsAnswer}
    (hstep : sys.step s.remote.server label = some server) (n : ℕ) :
    s.sent n <+: LogsDrawer.sent { s with remote := { s.remote with server := server } } n := by
  change delivered (s.remote.server.past n).reverse <+: delivered (server.past n).reverse
  cases label with
  | env e =>
      obtain ⟨shared, -, rfl⟩ := step_env_eq_some_iff.mp hstep
      exact List.prefix_rfl
  | call i event =>
      obtain ⟨hself, hothers⟩ := past_of_step_call hstep
      by_cases hn : n = i
      · subst hn
        rw [hself, List.reverse_cons, delivered_append]
        exact List.prefix_append _ _
      · rw [hothers n hn]

theorem Showing.serve (hs : Showing handler s) {server : Config ℕ σ LogsCall LogsAnswer LogsError Unit}
    {label : Label ℕ η LogsCall LogsAnswer} (hstep : sys.step s.remote.server label = some server) :
    Showing handler { s with remote := { s.remote with server := server } } where
  coherent := hs.coherent.serve hstep
  shown_iff := hs.shown_iff
  aborted := hs.aborted
  known := hs.known
  unconnected := hs.unconnected
  order n := (hs.order n).trans (sent_serve hstep n)
  through hopen := through_step (hs.through hopen) hstep
  phase hopen := by
    cases hs.phase hopen with
    | live f hlive hnumber hstatus => exact .live f hlive hnumber hstatus
    | closed hlive hstatus hconnected hdone htaken =>
        have hover : (s.remote.server.threads s.remote.flights.started).isOver = true := by rw [hdone]; rfl
        refine .closed hlive hstatus hconnected ((threads_of_isOver hover hstep).trans hdone) (htaken.trans ?_)
        change delivered _ = delivered (server.past s.remote.flights.started).reverse
        rw [past_of_isOver hover hstep]
    | broken hlive hstatus => exact .broken hlive hstatus
  closed := hs.closed
  screen := hs.screen

/-- A stream that has been given up ends. -/
theorem Showing.land_cancelled (hs : Showing handler s) (hcancelled : f.cancelled = true) :
    Showing handler { s with remote := s.remote.land f } := by
  have hsame : (s.remote.flights.land f).live (fun _ => true) = s.remote.flights.live (fun _ => true) := by
    refine Flights.live_land_of_not_mem fun hmem => ?_
    rw [(Flights.mem_live.mp hmem).2.2] at hcancelled
    cases hcancelled
  refine ⟨hs.coherent.land f, hs.shown_iff, fun g hg => hs.aborted g (List.mem_of_mem_erase hg), hs.known,
    hs.unconnected, hs.order, hs.through, fun hopen => ?_, fun hclosed => hsame.trans (hs.closed hclosed), hs.screen⟩
  cases hs.phase hopen with
  | live g hlive hnumber hstatus => exact .live g (hsame.trans hlive) hnumber hstatus
  | closed hlive hstatus hconnected hdone htaken =>
      exact .closed (hsame.trans hlive) hstatus hconnected hdone htaken
  | broken hlive hstatus => exact .broken (hsame.trans hlive) hstatus

/-- A stream that has not been given up is the one of the latest subscription, of an open drawer. -/
theorem Showing.current (hs : Showing handler s) (hf : f ∈ s.remote.flights.pending) (hcancelled : ¬ f.cancelled = true) :
    s.isOpen = true ∧ s.remote.flights.live (fun _ => true) = [f] ∧ f.number = s.remote.flights.started ∧
      (s.status = .connecting ∧ f.number ∉ s.connected ∨ s.status = .streaming ∧ f.number ∈ s.connected) := by
  have hmem : f ∈ s.remote.flights.live fun _ => true :=
    Flights.mem_live.mpr ⟨hf, rfl, by simpa using hcancelled⟩
  have hopen : s.isOpen = true := by
    by_contra hnot
    rw [hs.closed (by simpa using hnot)] at hmem
    cases hmem
  cases hs.phase hopen with
  | live g hlive hnumber hstatus =>
      rw [hlive, List.mem_singleton] at hmem
      subst hmem
      exact ⟨hopen, hlive, hnumber, hstatus⟩
  | closed hlive => rw [hlive] at hmem; cases hmem
  | broken hlive => rw [hlive] at hmem; cases hmem

/-- What is written goes to the end of the transcript. -/
theorem screen_write {text : GoString} {before after : List GoString}
    (hscreen : ∀ shown, s.screen = some shown → shown <:+ before) (hafter : after = before ++ [text]) :
    ∀ shown, (s.write text).screen = some shown → shown <:+ after := by
  intro shown hshown
  obtain ⟨old, hold, rfl⟩ := Option.map_eq_some_iff.mp hshown
  rw [hafter]
  obtain ⟨dropped, hdropped⟩ := hscreen old hold
  exact ⟨dropped, by rw [← hdropped, List.append_assoc]⟩

/-- Before the subscription ends the transcript has no ending. -/
theorem Showing.screen_open (hs : Showing handler s) (hstatus : s.status = .connecting ∨ s.status = .streaming) :
    ∀ shown, s.screen = some shown → shown <:+ s.transcript s.remote.flights.started [] := by
  intro shown hshown
  obtain ⟨ending, hending, hsuffix⟩ := hs.screen shown hshown
  have hnil : ending = [] := by
    rcases hstatus with hstatus | hstatus
    · rw [hstatus] at hending
      exact hending
    · rw [hstatus] at hending
      exact hending
  rw [hnil] at hsuffix
  exact hsuffix

theorem Showing.connect (hs : Showing handler s) (hf : f ∈ s.remote.flights.pending) (hnew : f.number ∉ s.connected) :
    Showing handler (s.connect f) := by
  unfold LogsDrawer.connect
  split
  · rename_i hcancelled
    exact hs.land_cancelled hcancelled
  · rename_i hcancelled
    obtain ⟨hopen, hlive, hnumber, hstatus⟩ := hs.current hf hcancelled
    have hstatus : s.status = .connecting := hstatus.elim And.left fun h => absurd h.2 hnew
    refine ⟨hs.coherent, ?_, hs.aborted, fun n hn => ?_, fun n hn => ?_, hs.order, hs.through, fun _ => ?_, hs.closed,
      fun shown hshown => ⟨[], rfl, ?_⟩⟩
    · exact (Option.isSome_map).trans hs.shown_iff
    · rcases hn with hmem | haborted
      · rcases List.mem_cons.mp hmem with rfl | hold
        · exact hnumber.le
        · exact hs.known n (Or.inl hold)
      · exact hs.known n (Or.inr haborted)
    · exact hs.unconnected n fun hmem => hn (List.mem_cons_of_mem _ hmem)
    · exact .live f hlive hnumber (Or.inr ⟨rfl, List.mem_cons_self⟩)
    · refine screen_write (hs.screen_open (Or.inl hstatus)) ?_ shown hshown
      rw [hnumber] at hnew
      have hnone : s.taken s.remote.flights.started = [] := hs.unconnected _ hnew
      have hconnected : s.remote.flights.started ∈ f.number :: s.connected := hnumber ▸ List.mem_cons_self
      change connectingText :: ((if s.remote.flights.started ∈ f.number :: s.connected then
        connectedText :: (s.taken s.remote.flights.started).map lineText else []) ++ []) = _
      simp only [LogsDrawer.transcript, if_pos hconnected, if_neg hnew, hnone, List.map_nil, List.append_nil,
        List.cons_append, List.nil_append]

theorem taken_cons (chunk : GetContainerLogsResponse) (n m : ℕ) :
    LogsDrawer.taken { s with received := (n, chunk) :: s.received } m =
      if n = m then s.taken m ++ [chunk] else s.taken m := by
  unfold LogsDrawer.taken
  by_cases hnm : n = m
  · simp [hnm]
  · simp [hnm]

theorem Showing.receive (hs : Showing handler s) (hf : f ∈ s.remote.flights.pending) (hconnected : f.number ∈ s.connected)
    {chunk : GetContainerLogsResponse} (hnext : (s.sent f.number)[(s.taken f.number).length]? = some chunk) :
    Showing handler (s.receive f chunk) := by
  unfold LogsDrawer.receive
  split
  · rename_i hcancelled
    exact hs.land_cancelled hcancelled
  · rename_i hcancelled
    obtain ⟨hopen, hlive, hnumber, hstatus⟩ := hs.current hf hcancelled
    have hstatus : s.status = .streaming := hstatus.elim (fun h => absurd hconnected h.2) And.left
    refine ⟨hs.coherent, ?_, hs.aborted, hs.known, fun n hn => ?_, fun n => ?_, hs.through, fun _ => ?_, hs.closed,
      fun shown hshown => ⟨[], ?_, ?_⟩⟩
    · exact (Option.isSome_map).trans hs.shown_iff
    · have hne : f.number ≠ n := fun heq => hn (heq ▸ hconnected)
      exact (taken_cons chunk f.number n).trans ((if_neg hne).trans (hs.unconnected n hn))
    · change LogsDrawer.taken { s with received := (f.number, chunk) :: s.received } n <+: s.sent n
      rw [taken_cons]
      split
      · rename_i hn
        subst hn
        obtain ⟨rest, hrest⟩ := hs.order f.number
        rw [← hrest, List.getElem?_append_right le_rfl, Nat.sub_self] at hnext
        cases rest with
        | nil => cases hnext
        | cons first rest =>
            cases hnext
            exact ⟨rest, by rw [← hrest, List.append_assoc, List.singleton_append]⟩
      · exact hs.order n
    · exact .live f hlive hnumber (Or.inr ⟨hstatus, hconnected⟩)
    · change LogsDrawer.Ending s.status []
      rw [hstatus]
      rfl
    · refine screen_write (hs.screen_open (Or.inr hstatus)) ?_ shown hshown
      rw [hnumber] at hconnected
      change connectingText :: ((if s.remote.flights.started ∈ s.connected then connectedText ::
        (LogsDrawer.taken { s with received := (f.number, chunk) :: s.received } s.remote.flights.started).map lineText
          else []) ++ []) = _
      simp only [LogsDrawer.transcript, if_pos hconnected, taken_cons, if_pos hnumber, List.map_append, List.map_cons,
        List.map_nil, List.append_nil, List.cons_append]

theorem Showing.close (hs : Showing handler s) (hf : f ∈ s.remote.flights.pending) (hconnected : f.number ∈ s.connected)
    (hresult : s.remote.result? f = some (.ok ())) (hall : (s.taken f.number).length = (s.sent f.number).length) :
    Showing handler (s.close f) := by
  unfold LogsDrawer.close
  split
  · rename_i hcancelled
    exact hs.land_cancelled hcancelled
  · rename_i hcancelled
    obtain ⟨hopen, hlive, hnumber, hstatus⟩ := hs.current hf hcancelled
    have hstatus : s.status = .streaming := hstatus.elim (fun h => absurd hconnected h.2) And.left
    have hnone : (s.remote.flights.land f).live (fun _ => true) = [] :=
      (Flights.live_land_of_singleton hlive (by rw [hlive]; exact List.mem_singleton_self f)).2
    refine ⟨hs.coherent.land f, ?_, fun g hg => hs.aborted g (List.mem_of_mem_erase hg), hs.known, hs.unconnected,
      hs.order, hs.through, fun _ => ?_, fun _ => hnone, fun shown hshown => ⟨[closedText], rfl, ?_⟩⟩
    · exact (Option.isSome_map).trans hs.shown_iff
    · refine .closed hnone rfl (hnumber ▸ hconnected) ?_ ?_
      · exact hnumber ▸ Program.eq_done_of_result? hresult
      · exact hnumber ▸ (hs.order f.number).eq_of_length hall
    · refine screen_write (s := { s with remote := s.remote.land f, status := .disconnected })
        (hs.screen_open (Or.inr hstatus)) ?_ shown hshown
      change s.transcript s.remote.flights.started [closedText] = _
      simp [LogsDrawer.transcript]

theorem Showing.breakOff (hs : Showing handler s) (hf : f ∈ s.remote.flights.pending) (message : GoString) :
    Showing handler (s.breakOff f message) := by
  unfold LogsDrawer.breakOff
  by_cases hcancelled : f.cancelled = true
  · simp only [hcancelled, if_true, ite_self]
    exact hs.land_cancelled hcancelled
  · have haborted : f.number ∉ s.aborted := fun haborted => hcancelled (hs.aborted f hf haborted)
    simp only [hcancelled, haborted, if_false]
    obtain ⟨hopen, hlive, hnumber, hstatus⟩ := hs.current hf hcancelled
    have hstatus : s.status = .connecting ∨ s.status = .streaming := hstatus.imp And.left And.left
    have hnone : (s.remote.flights.land f).live (fun _ => true) = [] :=
      (Flights.live_land_of_singleton hlive (by rw [hlive]; exact List.mem_singleton_self f)).2
    refine ⟨hs.coherent.land f, ?_, fun g hg => hs.aborted g (List.mem_of_mem_erase hg), hs.known, hs.unconnected,
      hs.order, hs.through, fun _ => .broken hnone rfl, fun _ => hnone,
      fun shown hshown => ⟨[errorText message], ⟨message, rfl⟩, ?_⟩⟩
    · exact (Option.isSome_map).trans hs.shown_iff
    · refine screen_write (s := { s with remote := s.remote.land f, status := .error })
        (hs.screen_open hstatus) ?_ shown hshown
      change s.transcript s.remote.flights.started [errorText message] = _
      simp [LogsDrawer.transcript]

/-- A subscription that has been ended leaves no stream that counts. -/
theorem Showing.unsubscribe_aborted (hs : Showing handler s) :
    ∀ n ∈ s.unsubscribe.aborted, n ≤ s.remote.flights.started := by
  intro n hn
  rcases List.mem_append.mp hn with hnew | hold
  · obtain ⟨f, hf, rfl⟩ := List.mem_map.mp hnew
    exact hs.coherent.numbered.number_le f hf
  · exact hs.known n (Or.inr hold)

theorem cancelled_of_mem_unsubscribe (hf : f ∈ s.unsubscribe.remote.flights.pending) : f.cancelled = true := by
  obtain ⟨g, -, rfl⟩ := List.mem_map.mp hf
  exact Bool.or_true _

theorem live_unsubscribe : s.unsubscribe.remote.flights.live (fun _ => true) = [] :=
  Flights.live_cancel_self (s := s.remote.flights) (p := fun _ => true)

/-- The drawer with other props and another terminal, after the cleanup. -/
def LogsDrawer.reopen (s : LogsDrawer σ) (containerId : Option GoString) (tailLines : Int) (follow : Bool)
    (screen : Option (List GoString)) : LogsDrawer σ :=
  { s.unsubscribe with containerId := containerId, tailLines := tailLines, follow := follow, screen := screen }

/-- A subscription is started once the last one has been ended, on an empty terminal. -/
theorem Showing.subscribe (hs : Showing handler s) {containerId : Option GoString} {tailLines : Int} {follow : Bool}
    {screen : Option (List GoString)} (hopen : (s.reopen containerId tailLines follow screen).isOpen = true)
    (hshown : screen.isSome = true) :
    Showing handler ((s.reopen containerId tailLines follow screen).streamLogs handler) := by
  obtain ⟨shown, rfl⟩ := Option.isSome_iff_exists.mp hshown
  have hfresh : s.remote.flights.started + 1 ∉ s.connected := fun hmem => by
    have hle := hs.known _ (Or.inl hmem)
    omega
  refine ⟨(hs.coherent.cancel _).launch _, hopen.symm, fun f hf haborted => ?_, fun n hn => ?_, hs.unconnected,
    hs.order, fun _ => ?_, fun _ => ?_, fun hclosed => absurd (hopen.symm.trans hclosed) nofun,
    fun written hwritten => ⟨[], rfl, ?_⟩⟩
  · rcases List.mem_append.mp hf with hold | hnew
    · exact cancelled_of_mem_unsubscribe hold
    · rw [List.mem_singleton.mp hnew] at haborted
      have hle : s.remote.flights.started + 1 ≤ s.remote.flights.started := hs.unsubscribe_aborted _ haborted
      omega
  · exact Nat.le_succ_of_le (hn.elim (fun hold => hs.known n (Or.inl hold)) (hs.unsubscribe_aborted n))
  · exact ((hs.coherent.cancel fun _ => true).launch _).through _ (List.mem_append_right _ (List.mem_singleton_self _))
  · refine .live (s.unsubscribe.remote.flights.next (s.reopen containerId tailLines follow (some shown)).request) ?_ rfl
      (Or.inl ⟨rfl, hfresh⟩)
    change (s.unsubscribe.remote.flights.launch _).live (fun _ => true) = _
    rw [Flights.live_launch_of_purpose rfl, live_unsubscribe, List.nil_append]
    rfl
  · cases hwritten
    change [connectingText] <:+ connectingText :: ((if s.remote.flights.started + 1 ∈ s.connected then _ else []) ++ [])
    rw [if_neg hfresh]
    exact List.suffix_rfl

/-- The drawer is closed, and with it the subscription ends. -/
theorem Showing.shut (hs : Showing handler s) {containerId : Option GoString} {tailLines : Int} {follow : Bool}
    (hclosed : ¬ (s.reopen containerId tailLines follow none).isOpen = true) :
    Showing handler (s.reopen containerId tailLines follow none) := by
  exact ⟨hs.coherent.cancel _, (Bool.eq_false_iff.mpr hclosed).symm, fun f hf _ => cancelled_of_mem_unsubscribe hf,
    fun n hn => hn.elim (fun hold => hs.known n (Or.inl hold)) (hs.unsubscribe_aborted n), hs.unconnected, hs.order,
    fun hopen => absurd hopen hclosed, fun hopen => absurd hopen hclosed, fun _ => live_unsubscribe, nofun⟩

theorem Showing.change (hs : Showing handler s) (containerId : Option GoString) (tailLines : Int) (follow : Bool) :
    Showing handler (s.change handler containerId tailLines follow) := by
  unfold LogsDrawer.change
  split
  · exact hs
  · dsimp only
    split
    · rename_i hopen
      refine hs.subscribe hopen ?_
      change (if s.isOpen = true then s.screen else some []).isSome = true
      split
      · rename_i hbefore
        exact hs.shown_iff.trans hbefore
      · rfl
    · rename_i hclosed
      exact hs.shut hclosed

theorem Showing.clear (hs : Showing handler s) : Showing handler s.clear where
  coherent := hs.coherent
  shown_iff := (Option.isSome_map).trans hs.shown_iff
  aborted := hs.aborted
  known := hs.known
  unconnected := hs.unconnected
  order := hs.order
  through := hs.through
  phase hopen := by
    cases hs.phase hopen with
    | live f hlive hnumber hstatus => exact .live f hlive hnumber hstatus
    | closed hlive hstatus hconnected hdone htaken => exact .closed hlive hstatus hconnected hdone htaken
    | broken hlive hstatus => exact .broken hlive hstatus
  closed := hs.closed
  screen shown hshown := by
    obtain ⟨old, hold, rfl⟩ := Option.map_eq_some_iff.mp hshown
    obtain ⟨ending, hending, -⟩ := hs.screen old hold
    exact ⟨ending, hending, List.nil_suffix⟩

theorem showing_step {event : LogsEvent η} (hs : Showing handler s)
    (hstep : s.step handler sys event = some next) : Showing handler next := by
  cases event with
  | setContainer containerId =>
      cases hstep
      exact hs.change containerId s.tailLines s.follow
  | setTailLines tailLines =>
      cases hstep
      exact hs.change s.containerId tailLines s.follow
  | setFollow follow =>
      cases hstep
      exact hs.change s.containerId s.tailLines follow
  | clear =>
      cases hstep
      exact hs.clear
  | serve label =>
      obtain ⟨server, hserver, rfl⟩ := Option.map_eq_some_iff.mp hstep
      exact hs.serve hserver
  | connected f =>
      obtain ⟨⟨hf, hnew⟩, rfl⟩ := Option.ite_none_right_eq_some.mp hstep |>.imp id Option.some.inj
      exact hs.connect hf hnew
  | received f chunk =>
      obtain ⟨⟨hf, hconnected, hnext⟩, rfl⟩ := Option.ite_none_right_eq_some.mp hstep |>.imp id Option.some.inj
      exact hs.receive hf hconnected hnext
  | ended f =>
      obtain ⟨⟨hf, hconnected, hresult, hall⟩, rfl⟩ :=
        Option.ite_none_right_eq_some.mp hstep |>.imp id Option.some.inj
      exact hs.close hf hconnected hresult hall
  | failed f message =>
      obtain ⟨hf, rfl⟩ := Option.ite_none_right_eq_some.mp hstep |>.imp id Option.some.inj
      exact hs.breakOff hf message

theorem showing_start (shared : σ) : Showing handler (LogsDrawer.start shared) where
  coherent := Remote.coherent_start shared _
  shown_iff := rfl
  aborted := nofun
  known _ hn := hn.elim nofun nofun
  unconnected _ _ := rfl
  order _ := List.prefix_rfl
  through := nofun
  phase := nofun
  closed _ := rfl
  screen := nofun

end Step

/-- A subscription that is shown as closed has been served to its end, and all its lines have been taken. -/
theorem Showing.served {handler : GetContainerLogsRequest → LogsProgram Unit} {s : LogsDrawer σ}
    (hs : Showing handler s) (hopen : s.isOpen = true) (hstatus : s.status = .disconnected) :
    s.remote.server.threads s.remote.flights.started = .done () ∧ s.remote.flights.started ∈ s.connected ∧
      s.taken s.remote.flights.started = s.sent s.remote.flights.started := by
  cases hs.phase hopen with
  | live f hlive hnumber hphase =>
      rcases hphase with ⟨hconnecting, -⟩ | ⟨hstreaming, -⟩
      · rw [hstatus] at hconnecting
        cases hconnecting
      · rw [hstatus] at hstreaming
        cases hstreaming
  | closed hlive _ hconnected hdone htaken => exact ⟨hdone, hconnected, htaken⟩
  | broken hlive herror =>
      rw [hstatus] at herror
      cases herror

/-! ## Every run -/

variable {handler : GetContainerLogsRequest → LogsProgram Unit} {sys : System σ η LogsCall LogsAnswer}

theorem showing_of_run {shared : σ} {events : List (LogsEvent η)} {s : LogsDrawer σ}
    (hrun : exec (LogsDrawer.step handler sys) (LogsDrawer.start shared) events = some s) : Showing handler s :=
  exec_invariant (Showing handler) (fun _ _ _ hs hstep => showing_step hs hstep) hrun (showing_start shared)

/-- Whatever streams were given up before, the terminal of an open drawer ends what has been written for the latest
subscription: the banner, lines that its own handler has sent, the first ones of them in their order, and how it has
ended.  A subscription that is shown as closed by the server has been served to its end, and no line of it is
missing. -/
theorem logsDrawer_shows {shared : σ} {events : List (LogsEvent η)} {s : LogsDrawer σ}
    (hrun : exec (LogsDrawer.step handler sys) (LogsDrawer.start shared) events = some s) (hopen : s.isOpen = true) :
    (handler s.request).through (s.remote.server.past s.remote.flights.started).reverse =
        some (s.remote.server.threads s.remote.flights.started) ∧
      s.taken s.remote.flights.started <+: s.sent s.remote.flights.started ∧
      (s.status = .disconnected → s.remote.server.threads s.remote.flights.started = .done () ∧
        s.remote.flights.started ∈ s.connected ∧ s.taken s.remote.flights.started = s.sent s.remote.flights.started) ∧
      ∃ shown ending, s.screen = some shown ∧ LogsDrawer.Ending s.status ending ∧
        shown <:+ s.transcript s.remote.flights.started ending := by
  have hs : Showing handler s := showing_of_run hrun
  refine ⟨hs.through hopen, hs.order _, hs.served hopen, ?_⟩
  obtain ⟨shown, hshown⟩ := Option.isSome_iff_exists.mp (hs.shown_iff.trans hopen)
  obtain ⟨ending, hending, hsuffix⟩ := hs.screen shown hshown
  exact ⟨shown, ending, hshown, hending, hsuffix⟩

/-- A handler that returns without an error has sent a response for each line, and all of them could be sent. -/
theorem delivered_of_ok {w : LogsWorld} {svc : Service} {ctx : Ctx} {req : GetContainerLogsRequest} {output : Output}
    (hsends : Sends w ProtoSendable) (hopens : Opens w svc ctx req output.tty output.bytes)
    (hok : ((getContainerLogs svc ctx req).run w []).result = .ok ()) :
    delivered ((getContainerLogs svc ctx req).run w []).trace = output.responses ∧ output.Printable := by
  have hall : ∀ {resps ending}, Emits w ProtoSendable (streamLogs output.tty output.bytes) resps ending →
      ∀ resp ∈ resps, ProtoSendable resp := by
    intro resps ending hemits
    by_contra hnot
    push Not at hnot
    obtain ⟨err, herr⟩ := (delivered_of_emits hopens hemits).2.2 hnot
    rw [herr] at hok
    cases hok
  cases output with
  | raw text =>
      by_cases hshort : ShortLines text
      · have hemits := emits_streamLogs_raw hsends hshort
        exact ⟨(delivered_of_emits hopens hemits).1.trans (takeWhile_sendable (hall hemits)),
          (protoSendable_lines (validString_str "stdout") text).mp (hall hemits), hshort⟩
      · obtain ⟨resps, err, hemits⟩ := emits_rawLogs_of_long hsends hshort
        rw [(delivered_of_emits hopens hemits).2.1 (hall hemits)] at hok
        cases hok
  | framed frames =>
      have hemits := emits_streamLogs_framed hsends frames
      refine ⟨(delivered_of_emits hopens hemits).1.trans (takeWhile_sendable (hall hemits)), fun f hf => ?_⟩
      exact (protoSendable_lines (validString_streamTypeOf f.kind) f.payload).mp fun resp hresp =>
        hall hemits resp (List.mem_flatMap_of_mem hf hresp)

/-- The handler has been answered as by a container that prints `output`: when the stream is shown as closed by the
server, the lines are those of the output, all of which can be printed. -/
theorem logsDrawer_complete {svc : Service} {ctx : Ctx} {shared : σ} {events : List (LogsEvent η)} {s : LogsDrawer σ}
    (hrun : exec (LogsDrawer.step (getContainerLogs svc ctx) sys) (LogsDrawer.start shared) events = some s)
    (hopen : s.isOpen = true) (hclosed : s.status = .disconnected) {answer : (op : LogsCall) → LogsAnswer op}
    {output : Output} (hopens : Opens (fun op _ => answer op) svc ctx s.request output.tty output.bytes)
    (hsends : Sends (fun op _ => answer op) ProtoSendable)
    (hanswers : ∀ event ∈ s.remote.server.past s.remote.flights.started, event.answer = answer event.op) :
    s.taken s.remote.flights.started = output.responses ∧ output.Printable := by
  have hs : Showing (getContainerLogs svc ctx) s := showing_of_run hrun
  obtain ⟨hthread, -, htaken⟩ := hs.served hopen hclosed
  have hthrough := hs.through hopen
  rw [hthread] at hthrough
  have houtcome := Program.run_of_through hthrough (fun event hevent => hanswers event (List.mem_reverse.mp hevent)) []
  obtain ⟨hdelivered, hprintable⟩ := delivered_of_ok hsends hopens (congrArg Outcome.result houtcome)
  rw [houtcome] at hdelivered
  exact ⟨htaken.trans hdelivered, hprintable⟩

instance decidableEqLogsAnswer : (op : LogsCall) → DecidableEq (LogsAnswer op)
  | .getContainer _ => inferInstanceAs (DecidableEq (Except _ _))
  | .containerInspect _ => inferInstanceAs (DecidableEq (Except _ _))
  | .containerLogs _ _ => inferInstanceAs (DecidableEq (Except _ _))
  | .ctxErr => inferInstanceAs (DecidableEq (Option _))
  | .send _ => inferInstanceAs (DecidableEq (Except _ _))

/-- What a container that prints `output` has answered. -/
def outputAnswer (output : Output) (op : LogsCall) : LogsAnswer op := logsWorld output.tty output.bytes protoSend op 0

/-- A host with that container. -/
def outputHost (output : Output) : System Unit Unit LogsCall LogsAnswer where
  answer _ event := if event.answer = outputAnswer output event.op then some () else none
  env _ _ := some ()

def readyLine : GoString := str "2026-07-04T12:00:00Z Ready"

/-- A line, and an unterminated one. -/
def readyOutput : Output := .raw (readyLine ++ [0x0A] ++ str "go")

/-- The calls of a stream until it waits for its first line, and the first line. -/
def firstCalls (n : ℕ) (follow : Bool) : List (LogsEvent Unit) :=
  [LogsCall.getContainer (str "web"), .containerInspect (str "web"),
    .containerLogs (str "web") (logsOptions ⟨str "web", 100, follow⟩), .ctxErr,
    .send (response streamTypeStdout readyLine)].map fun op => .serve (.call n ⟨op, outputAnswer readyOutput op⟩)

/-- The last calls of a stream. -/
def lastCalls (n : ℕ) : List (LogsEvent Unit) :=
  [LogsCall.ctxErr, .send (response streamTypeStdout (str "go"))].map fun op =>
    .serve (.call n ⟨op, outputAnswer readyOutput op⟩)

/-- The logs are followed, and then they are not: the stream that has been given up still delivers a line, while the
other one is read to its end. -/
def unfollowedRun : List (LogsEvent Unit) :=
  [.setContainer (some (str "web"))] ++ firstCalls 1 true ++ [.connected ⟨1, ⟨str "web", 100, true⟩, false⟩,
    .received ⟨1, ⟨str "web", 100, true⟩, false⟩ (response streamTypeStdout readyLine), .setFollow false] ++
  firstCalls 2 false ++ [.connected ⟨2, ⟨str "web", 100, false⟩, false⟩,
    .received ⟨2, ⟨str "web", 100, false⟩, false⟩ (response streamTypeStdout readyLine)] ++ lastCalls 1 ++
  [.received ⟨1, ⟨str "web", 100, true⟩, true⟩ (response streamTypeStdout (str "go"))] ++ lastCalls 2 ++
  [.received ⟨2, ⟨str "web", 100, false⟩, false⟩ (response streamTypeStdout (str "go")),
    .ended ⟨2, ⟨str "web", 100, false⟩, false⟩]

/-- The drawer with the logs of `readyOutput`. -/
abbrev readyStep : LogsDrawer Unit → LogsEvent Unit → Option (LogsDrawer Unit) :=
  LogsDrawer.step (getContainerLogs ⟨true, false⟩ viewerCtx) (outputHost readyOutput)

theorem exec_unfollowedRun :
    (exec readyStep (LogsDrawer.start ()) unfollowedRun).map (fun s =>
        (s.isOpen, s.status, s.request, decide (∀ event ∈ s.remote.server.past s.remote.flights.started,
          event.answer = outputAnswer readyOutput event.op))) =
      some (true, .disconnected, ⟨str "web", 100, false⟩, true) := by
  decide +kernel

theorem logsDrawer_shows_unfollowed :
    ∃ s, exec readyStep (LogsDrawer.start ()) unfollowedRun = some s ∧
      s.taken s.remote.flights.started = s.sent s.remote.flights.started := by
  obtain ⟨s, hs, hview⟩ := Option.map_eq_some_iff.mp exec_unfollowedRun
  simp only [Prod.mk.injEq] at hview
  obtain ⟨hopen, hstatus, -, -⟩ := hview
  exact ⟨s, hs, ((logsDrawer_shows hs hopen).2.2.1 hstatus).2.2⟩

theorem logsDrawer_complete_unfollowed :
    ∃ s, exec readyStep (LogsDrawer.start ()) unfollowedRun = some s ∧
      s.taken s.remote.flights.started = readyOutput.responses ∧ readyOutput.Printable := by
  obtain ⟨s, hs, hview⟩ := Option.map_eq_some_iff.mp exec_unfollowedRun
  simp only [Prod.mk.injEq] at hview
  obtain ⟨hopen, hstatus, hrequest, hanswers⟩ := hview
  refine ⟨s, hs, logsDrawer_complete hs hopen hstatus ?_ ?_
    (of_decide_eq_true hanswers)⟩
  · rw [hrequest]
    exact ⟨⟨_, rfl, Or.inr rfl⟩, by decide +kernel, ⟨_, rfl⟩, rfl, rfl, rfl⟩
  · obtain ⟨hctxErr, hsend⟩ := sends_logsWorld readyOutput.tty readyOutput.bytes
    exact ⟨fun _ => hctxErr 0, fun resp _ => hsend resp 0⟩

end Frontend
end Dmanager
