import Dmanager.Container.Actions
import Dmanager.Docker.Host
import Dmanager.Go.Readers
import Dmanager.Go.Rfc3339
import Mathlib.Data.List.TakeWhile

/-!
# The logs of a container

`GetContainerLogs` of `internal/container/logs.go`.  Docker delivers the output of a container with a terminal as it
is, and any other output in frames: eight bytes of header, with the stream and the length, and a payload.  The
handler cuts either into lines, takes the timestamp off each line, and sends it to the client.

The handler is a program over the calls it makes while it streams; what `ContainerLogs` returns is a reader, and
what the handler does next depends on the bytes of it.  `Emits` says of a part of the handler which responses it
delivers, up to the first that cannot be sent, and how it ends; the parts compose by `Emits.bind`.

`getContainerLogs_frames` is about framed output that may end anywhere: the lines of the complete frames are
delivered, each with its stream and nothing of it lost.
-/

namespace Dmanager
namespace Container

open Go Db Lib Server Auth Docker
open Program (perform orFail ensure)

/-! ## The source -/

def viewerRole : GoString := str "viewer"

def streamTypeStdout : GoString := str "stdout"
def streamTypeStderr : GoString := str "stderr"

/-- `v1.GetContainerLogsRequest`. -/
structure GetContainerLogsRequest where
  id : GoString
  tailLines : Int
  follow : Bool
  deriving DecidableEq, Repr

/-- `v1.GetContainerLogsResponse`. -/
structure GetContainerLogsResponse where
  logLine : GoString
  timestamp : GoString
  streamType : GoString
  deriving DecidableEq, Repr

/-- `client.ContainerLogsOptions`. -/
structure ContainerLogsOptions where
  showStdout : Bool
  showStderr : Bool
  timestamps : Bool
  follow : Bool
  tail : GoString
  deriving DecidableEq, Repr

/-- The errors of the handler: one of its own, that of the context, or that of `stream.Send`. -/
inductive LogsError where
  | connect (err : ConnectError)
  | ctx (message : GoString)
  | send (message : GoString)
  deriving DecidableEq, Repr

/-- The calls of the handler; `ctxErr` asks whether the request has been cancelled. -/
inductive LogsCall where
  | getContainer (id : GoString)
  | containerInspect (id : GoString)
  | containerLogs (id : GoString) (options : ContainerLogsOptions)
  | ctxErr
  | send (resp : GetContainerLogsResponse)
  deriving DecidableEq, Repr

/-- Of what `ContainerInspect` reports the handler reads `Config.Tty`. -/
@[reducible] def LogsAnswer : LogsCall → Type
  | .getContainer _ => Except QueryError Db.Container
  | .containerInspect _ => Except DockerError Bool
  | .containerLogs _ _ => Except GoString Reader
  | .ctxErr => Option GoString
  | .send _ => Except GoString Unit

abbrev LogsProgram (α : Type) := Program LogsCall LogsAnswer LogsError α

abbrev LogsWorld := World LogsCall LogsAnswer

/-- The timestamp of a line and what follows it; 0x20 is the blank. -/
def splitTimestamp (line : GoString) : GoString × GoString :=
  match line.span fun b => b != 0x20 with
  | (potentialTS, _ :: rest) => if parsesRFC3339Nano potentialTS then (potentialTS, rest) else ([], line)
  | (_, []) => ([], line)

/-- The response for a line. -/
def response (streamType line : GoString) : GetContainerLogsResponse :=
  ⟨(splitTimestamp line).2, (splitTimestamp line).1, streamType⟩

/-- `stream.Send` of a line. -/
def sendLine (streamType line : GoString) : LogsProgram Unit := do
  let sent ← perform (LogsCall.send (response streamType line))
  orFail LogsError.send sent

/-- The check of the context at the top of both loops. -/
def checkContext : LogsProgram Unit := do
  match ← perform LogsCall.ctxErr with
  | some err => .fail (.ctx err)
  | none => .done ()

/-- What the handler makes of the error at which reading ends. -/
def endOfLogs (words : String) : ReadError → LogsProgram Unit
  | .eof => .done ()
  | .canceled => .done ()
  | .other message => .fail (.connect (wrapError .internal words message))

/-- The lines of a scanner. -/
def sendTokens : List GoString → LogsProgram Unit
  | [] => .done ()
  | line :: rest => do
    checkContext
    sendLine streamTypeStdout line
    sendTokens rest

/-- `scanner.Err()`, with `io.EOF` for no error. -/
def scannerErr (scanned : Scanned) (ending : ReadError) : ReadError :=
  if scanned.tooLong then .other (str "bufio.Scanner: token too long") else ending

/-- The raw stream of a container with a terminal. -/
def rawLogs (reader : Reader) : LogsProgram Unit := do
  sendTokens (scanLines reader.bytes).tokens
  endOfLogs "error reading raw logs stream" (scannerErr (scanLines reader.bytes) reader.ending)

/-- The lines of a payload, of which the last one is dropped when it is empty. -/
def sendPieces (streamType : GoString) : List GoString → LogsProgram Unit
  | [] => .done ()
  | [line] => if line = [] then .done () else sendLine streamType (trimSuffix line [0x0D])
  | line :: next :: rest => do
    sendLine streamType (trimSuffix line [0x0D])
    sendPieces streamType (next :: rest)

/-- The stream of a frame. -/
def streamTypeOf (streamTypeVal : UInt8) : GoString :=
  if streamTypeVal = 2 then streamTypeStderr else streamTypeStdout

/-- The multiplexed stream, frame by frame.  Every frame has eight bytes, so that `fuel` may be the length of what is
left to read. -/
def multiplexedLogs : Nat → Reader → LogsProgram Unit
  | 0, _ => .done ()
  | fuel + 1, reader => do
    checkContext
    match reader.readFull 8 with
    | .error err => endOfLogs "error reading logs stream header" err
    | .ok (header, reader) =>
      match reader.readFull (uint32 (header.drop 4)) with
      | .error err => endOfLogs "error reading logs stream payload" err
      | .ok (payload, reader) => do
        sendPieces (streamTypeOf (header.headD 0)) (split payload 0x0A)
        multiplexedLogs fuel reader

/-- The options of `ContainerLogs`. -/
def logsOptions (req : GetContainerLogsRequest) : ContainerLogsOptions where
  showStdout := true
  showStderr := true
  timestamps := true
  follow := req.follow
  tail := if 0 < req.tailLines then intString req.tailLines else if req.tailLines < 0 then str "all" else str "100"

/-- The authorization check. -/
def requireViewer (ctx : Ctx) : LogsProgram Unit :=
  match ctx.user with
  | none => .fail (.connect (newError .unauthenticated "unauthenticated"))
  | some user =>
    if user.role ≠ adminRole ∧ user.role ≠ viewerRole then
      .fail (.connect (newError .permissionDenied "unauthorized role"))
    else .done ()

/-- `GetContainerLogs`. -/
def getContainerLogs (s : Service) (ctx : Ctx) (req : GetContainerLogsRequest) : LogsProgram Unit := do
  requireViewer ctx
  ensure (req.id ≠ []) (.connect (newError .invalidArgument "container ID is required"))
  let _ ← orFail (fun err => .connect (getContainerError err)) (← perform (.getContainer req.id))
  ensure (s.dockerClient = true) (.connect (newError .internal "docker client not initialized"))
  let tty ← orFail (fun err => .connect (inspectError err)) (← perform (.containerInspect req.id))
  let reader ← orFail (fun message => .connect (wrapError .internal "failed to get container logs" message))
    (← perform (.containerLogs req.id (logsOptions req)))
  if tty then rawLogs reader else multiplexedLogs (reader.bytes.length + 1) reader

/-! ## What a part of the handler delivers -/

/-- The responses that were sent. -/
def delivered (trace : List (Event LogsCall LogsAnswer)) : List GetContainerLogsResponse :=
  trace.filterMap fun event =>
    match event with
    | ⟨.send resp, .ok _⟩ => some resp
    | _ => none

/-- The request is not cancelled, and exactly these responses can be sent. -/
structure Sends (w : LogsWorld) (Sendable : GetContainerLogsResponse → Prop) : Prop where
  ctxErr : ∀ n, w .ctxErr n = none
  send_iff : ∀ resp n, (∃ u, w (.send resp) n = .ok u) ↔ Sendable resp

/-- Whenever it is run, this part delivers these responses up to the first that cannot be sent.  If there is none it
ends so, else it fails. -/
def Emits {α : Type} (w : LogsWorld) (Sendable : GetContainerLogsResponse → Prop) [DecidablePred Sendable]
    (p : LogsProgram α) (resps : List GetContainerLogsResponse) (ending : Except LogsError α) : Prop :=
  ∀ past,
    delivered (p.run w past).trace = resps.takeWhile Sendable ∧
      ((∀ resp ∈ resps, Sendable resp) → (p.run w past).result = ending) ∧
      ((∃ resp ∈ resps, ¬ Sendable resp) → ∃ err, (p.run w past).result = .error err)

section Emits

variable {α β : Type} {w : LogsWorld} {Sendable : GetContainerLogsResponse → Prop} [DecidablePred Sendable]
variable {p : LogsProgram α} {f : α → LogsProgram β} {resps resps' : List GetContainerLogsResponse}
variable {streamType line : GoString}

@[simp] theorem delivered_nil : delivered [] = [] := rfl

@[simp] theorem delivered_append (first second : List (Event LogsCall LogsAnswer)) :
    delivered (first ++ second) = delivered first ++ delivered second := List.filterMap_append

theorem emits_done (a : α) : Emits w Sendable (.done a) [] (.ok a) :=
  fun _ => ⟨rfl, fun _ => rfl, fun ⟨_, hmem, _⟩ => absurd hmem List.not_mem_nil⟩

theorem emits_fail (err : LogsError) : Emits w Sendable (.fail err : LogsProgram α) [] (.error err) :=
  fun _ => ⟨rfl, fun _ => rfl, fun ⟨_, hmem, _⟩ => absurd hmem List.not_mem_nil⟩

/-- All of the responses are delivered if they can be sent. -/
theorem takeWhile_sendable (hall : ∀ resp ∈ resps, Sendable resp) : resps.takeWhile Sendable = resps :=
  List.takeWhile_eq_self_iff.mpr fun resp hmem => decide_eq_true (hall resp hmem)

/-- What the first part delivers, and then what the second one does. -/
theorem Emits.bind {a : α} {ending : Except LogsError β} (hp : Emits w Sendable p resps (.ok a))
    (hf : Emits w Sendable (f a) resps' ending) : Emits w Sendable (p >>= f) (resps ++ resps') ending := by
  intro past
  obtain ⟨htrace, hok, herror⟩ := hp past
  obtain ⟨htrace', hok', herror'⟩ := hf (Program.after w past p)
  rw [Program.run_bind]
  by_cases hall : ∀ resp ∈ resps, Sendable resp
  · rw [takeWhile_sendable hall] at htrace
    rw [hok hall]
    refine ⟨?_, ?_, ?_⟩
    · rw [List.takeWhile_append_of_pos fun resp hmem => decide_eq_true (hall resp hmem), ← htrace']
      exact (delivered_append _ _).trans (congrArg (· ++ _) htrace)
    · intro hboth
      exact hok' fun resp hmem => hboth resp (List.mem_append_right _ hmem)
    · rintro ⟨resp, hmem, hnot⟩
      have hsecond : resp ∈ resps' := (List.mem_append.mp hmem).resolve_left fun hfirst => hnot (hall resp hfirst)
      exact herror' ⟨resp, hsecond, hnot⟩
  · -- the first part fails, and the second one is not run
    push Not at hall
    obtain ⟨err, herr⟩ := herror hall
    rw [herr]
    refine ⟨?_, ?_, fun _ => ⟨err, rfl⟩⟩
    · rw [List.takeWhile_append, if_neg]
      · exact htrace
      · intro hlength
        obtain ⟨resp, hmem, hnot⟩ := hall
        have hself := (List.takeWhile_sublist _).eq_of_length hlength
        exact hnot (of_decide_eq_true (List.takeWhile_eq_self_iff.mp hself resp hmem))
    · intro hboth
      obtain ⟨resp, hmem, hnot⟩ := hall
      exact absurd (hboth resp (List.mem_append_left _ hmem)) hnot

theorem emits_checkContext (hsends : Sends w Sendable) : Emits w Sendable checkContext [] (.ok ()) := by
  intro past
  have hrun : checkContext.run w past = ⟨[⟨.ctxErr, none⟩], .ok ()⟩ := by
    unfold checkContext
    rw [Program.run_perform_bind, hsends.ctxErr]
    rfl
  rw [hrun]
  exact ⟨rfl, fun _ => rfl, fun ⟨_, hmem, _⟩ => absurd hmem List.not_mem_nil⟩

theorem emits_sendLine (hsends : Sends w Sendable) :
    Emits w Sendable (sendLine streamType line) [response streamType line] (.ok ()) := by
  intro past
  unfold sendLine
  rw [Program.run_perform_bind]
  have hiff := hsends.send_iff (response streamType line) (past.count (.send (response streamType line)))
  cases hanswer : w (.send (response streamType line)) (past.count (.send (response streamType line))) with
  | ok u =>
      rw [hanswer] at hiff
      have hsendable : Sendable (response streamType line) := hiff.mp ⟨u, rfl⟩
      refine ⟨(takeWhile_sendable (List.forall_mem_singleton.mpr hsendable)).symm, fun _ => rfl, ?_⟩
      rintro ⟨resp, hmem, hnot⟩
      rw [List.mem_singleton.mp hmem] at hnot
      exact absurd hsendable hnot
  | error message =>
      rw [hanswer] at hiff
      have hnot : ¬ Sendable (response streamType line) := fun hsendable => by
        obtain ⟨u, hu⟩ := hiff.mpr hsendable
        cases hu
      refine ⟨?_, fun hall => absurd (hall _ (List.mem_singleton_self _)) hnot, fun _ => ⟨.send message, rfl⟩⟩
      rw [List.takeWhile_cons, decide_eq_false hnot]
      rfl

theorem emits_sendTokens (hsends : Sends w Sendable) (tokens : List GoString) :
    Emits w Sendable (sendTokens tokens) (tokens.map (response streamTypeStdout)) (.ok ()) := by
  induction tokens with
  | nil => exact emits_done ()
  | cons line rest ih => exact (emits_checkContext hsends).bind ((emits_sendLine hsends).bind ih)

/-- The loop over the pieces of a payload sends its lines. -/
theorem emits_sendPieces (hsends : Sends w Sendable) (payload : GoString) :
    Emits w Sendable (sendPieces streamType (split payload 0x0A)) ((lines payload).map (response streamType))
      (.ok ()) := by
  have hloop : ∀ texts : List GoString, Emits w Sendable (sendPieces streamType texts)
      (((dropFinalEmpty texts).map dropCR).map (response streamType)) (.ok ()) := by
    intro texts
    induction texts with
    | nil => exact emits_done ()
    | cons line rest ih =>
        cases rest with
        | nil =>
            by_cases hempty : line = []
            · subst hempty
              exact emits_done ()
            · rw [sendPieces, if_neg hempty, dropFinalEmpty, if_neg hempty]
              exact emits_sendLine hsends
        | cons next rest => exact (emits_sendLine hsends).bind ih
  exact hloop (split payload 0x0A)

/-! ## Frames -/

/-- A frame of the multiplexed stream: the stream, three bytes that mean nothing, and a payload. -/
structure Frame where
  kind : UInt8
  padding : UInt8 × UInt8 × UInt8
  payload : GoString
  length_lt : payload.length < 4294967296

namespace Frame

/-- The eight bytes in front of the payload. -/
def header (f : Frame) : GoString :=
  f.kind :: f.padding.1 :: f.padding.2.1 :: f.padding.2.2 :: putUint32 f.payload.length

/-- The bytes of a frame. -/
def bytes (f : Frame) : GoString := f.header ++ f.payload

/-- The responses for the lines of a frame. -/
def responses (f : Frame) : List GetContainerLogsResponse := (lines f.payload).map (response (streamTypeOf f.kind))

theorem length_header (f : Frame) : f.header.length = 8 := rfl

theorem length_bytes (f : Frame) : f.bytes.length = 8 + f.payload.length := by
  rw [bytes, List.length_append, length_header]

theorem uint32_header (f : Frame) : uint32 (f.header.drop 4) = f.payload.length := uint32_putUint32 f.length_lt

end Frame

/-- The encoding of a list of frames. -/
def encode (frames : List Frame) : GoString := frames.flatMap Frame.bytes

/-- The frames that lie within the first `n` bytes of their encoding. -/
def wholeFrames : List Frame → Nat → List Frame
  | [], _ => []
  | f :: rest, n => if f.bytes.length ≤ n then f :: wholeFrames rest (n - f.bytes.length) else []

/-- A part of a frame that lacks its end: of the header, or of the payload that the header announces. -/
def Torn (cut : GoString) : Prop :=
  cut.length < 8 ∨ cut.length < 8 + uint32 ((cut.take 8).drop 4)

/-- All frames lie within the whole encoding. -/
theorem wholeFrames_encode (frames : List Frame) : wholeFrames frames (encode frames).length = frames := by
  induction frames with
  | nil => rfl
  | cons f rest ih =>
      have hlength : (encode (f :: rest)).length = f.bytes.length + (encode rest).length := List.length_append
      rw [wholeFrames, hlength, if_pos (Nat.le_add_right _ _), Nat.add_sub_cancel_left, ih]

/-- A beginning of the encoding is that of some frames and a torn one. -/
theorem exists_torn {frames : List Frame} {bytes : GoString} (hstart : bytes <+: encode frames) :
    ∃ cut, bytes = encode (wholeFrames frames bytes.length) ++ cut ∧ Torn cut := by
  induction frames generalizing bytes with
  | nil =>
      have hnil : bytes = [] := List.prefix_nil.mp hstart
      exact ⟨[], by rw [hnil]; rfl, Or.inl (by decide)⟩
  | cons f rest ih =>
      have hcons : encode (f :: rest) = f.bytes ++ encode rest := List.flatMap_cons
      rw [hcons] at hstart
      rw [wholeFrames]
      split
      · -- the first frame is there
        rename_i hle
        have hfront : f.bytes <+: bytes := List.prefix_of_prefix_length_le (List.prefix_append _ _) hstart hle
        obtain ⟨left, rfl⟩ := hfront
        obtain ⟨cut, hcut, htorn⟩ := ih ((List.prefix_append_right_inj _).mp hstart)
        refine ⟨cut, ?_, htorn⟩
        rw [List.length_append, Nat.add_sub_cancel_left]
        conv_lhs => rw [hcut]
        rw [← List.append_assoc]
        rfl
      · rename_i hlt
        refine ⟨bytes, rfl, ?_⟩
        by_cases hheader : bytes.length < 8
        · exact Or.inl hheader
        · refine Or.inr ?_
          have htake : bytes.take 8 = f.header := by
            obtain ⟨missing, hmissing⟩ := hstart
            have hsame : (bytes ++ missing).take 8 = (f.header ++ (f.payload ++ encode rest)).take 8 := by
              rw [hmissing, Frame.bytes, List.append_assoc]
            rw [List.take_append_of_le_length (Nat.not_lt.mp hheader)] at hsame
            rw [hsame]
            exact List.take_left' f.length_header
          rw [htake, f.uint32_header, ← f.length_bytes]
          exact Nat.not_le.mp hlt

/-- The lines of the frames are delivered; nothing is of a torn one after them. -/
theorem emits_multiplexedLogs (hsends : Sends w Sendable) (frames : List Frame) {cut : GoString} (htorn : Torn cut)
    {fuel : Nat} (hfuel : frames.length < fuel) :
    Emits w Sendable (multiplexedLogs fuel ⟨encode frames ++ cut, .eof⟩) (frames.flatMap Frame.responses) (.ok ()) := by
  induction frames generalizing fuel with
  | nil =>
      obtain ⟨fuel, rfl⟩ := Nat.exists_eq_add_of_lt hfuel
      have hend : Emits w Sendable (multiplexedLogs (0 + fuel + 1) ⟨cut, .eof⟩) ([] ++ []) (.ok ()) := by
        refine (emits_checkContext hsends).bind ?_
        by_cases hheader : cut.length < 8
        · rw [readFull_of_lt hheader]
          exact emits_done ()
        · have hpayload := htorn.resolve_left hheader
          have hread : (⟨cut, .eof⟩ : Reader).readFull 8 = .ok (cut.take 8, ⟨cut.drop 8, .eof⟩) :=
            if_pos (Nat.not_lt.mp hheader)
          rw [hread]
          dsimp only
          rw [readFull_of_lt]
          · exact emits_done ()
          · rw [List.length_drop]
            omega
      exact hend
  | cons f rest ih =>
      obtain ⟨fuel, rfl⟩ := Nat.exists_eq_add_of_lt hfuel
      have hbytes : encode (f :: rest) ++ cut = f.header ++ (f.payload ++ (encode rest ++ cut)) := by
        show (f.bytes ++ encode rest) ++ cut = _
        rw [Frame.bytes, List.append_assoc, List.append_assoc]
      rw [hbytes]
      refine (emits_checkContext hsends).bind ?_
      rw [← f.length_header, readFull_append]
      dsimp only
      rw [f.uint32_header, readFull_append]
      dsimp only
      exact (emits_sendPieces hsends f.payload).bind (ih (by rw [List.length_cons]; omega))

theorem length_le_encode (frames : List Frame) : frames.length ≤ (encode frames).length := by
  induction frames with
  | nil => exact Nat.le_refl 0
  | cons f rest ih =>
      have hlength : (encode (f :: rest)).length = f.bytes.length + (encode rest).length := List.length_append
      rw [hlength, f.length_bytes, List.length_cons]
      omega

/-- Framed output that may end anywhere. -/
theorem emits_multiplexedLogs_cut (hsends : Sends w Sendable) {frames : List Frame} {bytes : GoString}
    (hstart : bytes <+: encode frames) :
    Emits w Sendable (multiplexedLogs (bytes.length + 1) ⟨bytes, .eof⟩)
      ((wholeFrames frames bytes.length).flatMap Frame.responses) (.ok ()) := by
  obtain ⟨cut, hcut, htorn⟩ := exists_torn hstart
  have hfuel : (wholeFrames frames bytes.length).length < bytes.length + 1 := by
    have hle := length_le_encode (wholeFrames frames bytes.length)
    have hlength := congrArg List.length hcut
    rw [List.length_append] at hlength
    omega
  have hemits := emits_multiplexedLogs hsends (wholeFrames frames bytes.length) htorn hfuel
  rw [← hcut] at hemits
  exact hemits

/-! ## Raw output -/

/-- The lines of a text that a scanner can cut. -/
theorem emits_rawLogs (hsends : Sends w Sendable) {text : GoString} (hshort : ShortLines text) :
    Emits w Sendable (rawLogs ⟨text, .eof⟩) ((lines text).map (response streamTypeStdout)) (.ok ()) := by
  have hscan := (scanLines_spec text).1 hshort
  have hboth := (emits_sendTokens hsends (lines text)).bind
    (f := fun _ => endOfLogs "error reading raw logs stream" .eof) (emits_done ())
  rw [List.append_nil] at hboth
  unfold rawLogs
  rw [hscan]
  exact hboth

/-- A line that is too long makes the handler fail. -/
theorem emits_rawLogs_of_long (hsends : Sends w Sendable) {text : GoString} (hlong : ¬ ShortLines text) :
    ∃ resps err, Emits w Sendable (rawLogs ⟨text, .eof⟩) resps (.error err) := by
  have hscan := (scanLines_spec text).2 hlong
  have hboth := (emits_sendTokens hsends (scanLines text).tokens).bind
    (f := fun _ => endOfLogs "error reading raw logs stream" (scannerErr (scanLines text) .eof)) (by
      rw [scannerErr, if_pos hscan]
      exact emits_fail _)
  exact ⟨_, _, hboth⟩

/-! ## The handler -/

variable {s : Service} {ctx : Ctx} {req : GetContainerLogsRequest} {tty : Bool} {bytes : GoString}

/-- The request gets as far as the logs, which have these bytes and then end. -/
structure Opens (w : LogsWorld) (s : Service) (ctx : Ctx) (req : GetContainerLogsRequest) (tty : Bool)
    (bytes : GoString) : Prop where
  allowed : ∃ user, ctx.user = some user ∧ (user.role = adminRole ∨ user.role = viewerRole)
  id_ne : req.id ≠ []
  known : ∃ row, w (.getContainer req.id) 0 = .ok row
  dockerClient : s.dockerClient = true
  inspected : w (.containerInspect req.id) 0 = .ok tty
  opened : w (.containerLogs req.id (logsOptions req)) 0 = .ok ⟨bytes, .eof⟩

/-- The loop that reads the logs. -/
def streamLogs (tty : Bool) (bytes : GoString) : LogsProgram Unit :=
  if tty then rawLogs ⟨bytes, .eof⟩ else multiplexedLogs (bytes.length + 1) ⟨bytes, .eof⟩

/-- The handler ends as its loop does, and delivers what that delivers. -/
theorem run_getContainerLogs (hopens : Opens w s ctx req tty bytes) :
    ∃ past, ((getContainerLogs s ctx req).run w []).result = ((streamLogs tty bytes).run w past).result ∧
      delivered ((getContainerLogs s ctx req).run w []).trace =
        delivered ((streamLogs tty bytes).run w past).trace := by
  obtain ⟨user, huser, hrole⟩ := hopens.allowed
  obtain ⟨row, hrow⟩ := hopens.known
  have hviewer : requireViewer ctx = .done () := by
    unfold requireViewer
    rw [huser]
    dsimp only
    rw [if_neg]
    rintro ⟨hadmin, hviewer⟩
    exact hrole.elim hadmin hviewer
  refine ⟨[.containerLogs req.id (logsOptions req), .containerInspect req.id, .getContainer req.id], ?_⟩
  simp only [getContainerLogs, hviewer, ensure, hopens.id_ne, hopens.dockerClient, hrow, hopens.inspected,
    hopens.opened, orFail, Program.done_bind, Program.run_perform_bind, List.count_nil, List.count_cons_of_ne, ne_eq,
    reduceCtorEq, not_false_eq_true, if_true]
  exact ⟨rfl, rfl⟩

/-- What the loop emits the handler delivers. -/
theorem delivered_of_emits (hopens : Opens w s ctx req tty bytes) {ending : Except LogsError Unit}
    (hemits : Emits w Sendable (streamLogs tty bytes) resps ending) :
    delivered ((getContainerLogs s ctx req).run w []).trace = resps.takeWhile Sendable ∧
      ((∀ resp ∈ resps, Sendable resp) → ((getContainerLogs s ctx req).run w []).result = ending) ∧
      ((∃ resp ∈ resps, ¬ Sendable resp) → ∃ err, ((getContainerLogs s ctx req).run w []).result = .error err) := by
  obtain ⟨past, hresult, htrace⟩ := run_getContainerLogs hopens
  rw [hresult, htrace]
  exact hemits past

end Emits

/-! ## Framed output -/

/-- The line that a response shows. -/
def GetContainerLogsResponse.line (resp : GetContainerLogsResponse) : GoString :=
  if resp.timestamp ≠ [] then resp.timestamp ++ str " " ++ resp.logLine else resp.logLine

/-- A response shows the line it was made for. -/
theorem line_response (streamType line : GoString) : (response streamType line).line = line := by
  unfold response splitTimestamp
  have hparts : (line.span fun b => b != 0x20) =
      (line.takeWhile fun b => b != 0x20, line.dropWhile fun b => b != 0x20) := List.span_eq_takeWhile_dropWhile _ _
  rw [hparts]
  cases hrest : line.dropWhile fun b => b != 0x20 with
  | nil => rfl
  | cons b rest =>
      dsimp only
      split
      · rename_i hparses
        have hne : (line.takeWhile fun b => b != 0x20) ≠ [] := by
          intro hnil
          rw [hnil, not_parsesRFC3339Nano_nil] at hparses
          cases hparses
        have hblank : b = 0x20 := by
          have hhead := List.head?_dropWhile_not (fun b : UInt8 => b != 0x20) line
          rw [hrest] at hhead
          simpa using hhead
        show (if _ ≠ [] then _ else _) = line
        rw [if_pos hne, List.append_assoc]
        conv_rhs => rw [← List.takeWhile_append_dropWhile (p := fun b => b != 0x20) (l := line), hrest, hblank]
        rfl
      · rfl

variable {w : LogsWorld} {s : Service} {ctx : Ctx} {req : GetContainerLogsRequest}

/-- Of framed output that ends anywhere the handler delivers the lines of the complete frames, each in full and with
its stream, and returns without an error. -/
theorem getContainerLogs_frames (hsends : Sends w fun _ => True) {frames : List Frame} {bytes : GoString}
    (hopens : Opens w s ctx req false bytes) (hstart : bytes <+: encode frames) :
    ((getContainerLogs s ctx req).run w []).result = .ok () ∧
      ((delivered ((getContainerLogs s ctx req).run w []).trace).map fun resp => (resp.streamType, resp.line)) =
        ((wholeFrames frames bytes.length).flatMap fun f =>
          (lines f.payload).map fun line => (if f.kind = 2 then streamTypeStderr else streamTypeStdout, line)) ∧
      (bytes = encode frames → wholeFrames frames bytes.length = frames) := by
  obtain ⟨hdelivered, hresult, -⟩ := delivered_of_emits hopens (emits_multiplexedLogs_cut hsends hstart)
  rw [takeWhile_sendable fun _ _ => trivial] at hdelivered
  refine ⟨hresult fun _ _ => trivial, ?_, ?_⟩
  · rw [hdelivered, List.map_flatMap]
    congr 1
    funext f
    rw [Frame.responses, List.map_map]
    congr 1
    funext line
    exact Prod.ext rfl (line_response _ line)
  · rintro rfl
    exact wholeFrames_encode frames

/-- A container whose logs have these bytes. -/
def logsWorld (tty : Bool) (bytes : GoString) (send : GetContainerLogsResponse → Except GoString Unit) : LogsWorld
  | .getContainer _, _ => .ok webRow
  | .containerInspect _, _ => .ok tty
  | .containerLogs _ _, _ => .ok ⟨bytes, .eof⟩
  | .ctxErr, _ => none
  | .send resp, _ => send resp

def viewerCtx : Ctx := ⟨some ⟨2, str "viewer", str "$2a$12$", viewerRole⟩, none⟩

def webLogs : GetContainerLogsRequest := ⟨str "web", 0, true⟩

theorem opens_logsWorld (tty : Bool) (bytes : GoString) (send : GetContainerLogsResponse → Except GoString Unit) :
    Opens (logsWorld tty bytes send) ⟨true, false⟩ viewerCtx webLogs tty bytes :=
  ⟨⟨_, rfl, Or.inr rfl⟩, by decide +kernel, ⟨_, rfl⟩, rfl, rfl, rfl⟩

/-- A frame with a blank line and a line without a newline, an empty frame, and one of the error stream. -/
def threeFrames : List Frame :=
  [⟨1, (0, 0, 0), str "2026-07-04T12:00:00.1Z Out 1\r\n\nno time", by decide +kernel⟩, ⟨1, (0, 0, 0), [], by decide⟩,
    ⟨2, (0, 0, 0), str "Err 1\n", by decide +kernel⟩]

/-- The last frame lacks its last two bytes. -/
theorem getContainerLogs_frames_torn :
    ((getContainerLogs ⟨true, false⟩ viewerCtx webLogs).run
        (logsWorld false ((encode threeFrames).take 66) fun _ => .ok ()) []).result = .ok () ∧
      ((delivered ((getContainerLogs ⟨true, false⟩ viewerCtx webLogs).run
        (logsWorld false ((encode threeFrames).take 66) fun _ => .ok ()) []).trace).map fun resp =>
          (resp.streamType, resp.line)) =
        [(str "stdout", str "2026-07-04T12:00:00.1Z Out 1"), (str "stdout", []), (str "stdout", str "no time")] := by
  have hsends : Sends (logsWorld false ((encode threeFrames).take 66) fun _ => .ok ()) fun _ => True :=
    ⟨fun _ => rfl, fun _ _ => iff_of_true ⟨(), rfl⟩ trivial⟩
  obtain ⟨hresult, hdelivered, -⟩ :=
    getContainerLogs_frames hsends (opens_logsWorld false _ _) (List.take_prefix 66 (encode threeFrames))
  refine ⟨hresult, hdelivered.trans ?_⟩
  decide +kernel

end Container
end Dmanager
