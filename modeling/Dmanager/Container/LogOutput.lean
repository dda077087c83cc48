import Dmanager.Container.Logs

/-!
# What a container prints

The two loops of `GetContainerLogs` beside each other.  A text that is cut into frames of the standard output at the
ends of lines reads the same through both (`getContainerLogs_same_output`).

Neither loop delivers everything that a container can print.  `stream.Send` refuses strings that are not valid UTF-8,
and the scanner of the raw loop refuses long lines; `getContainerLogs_complete_iff` says that nothing else is lost.
The lines of framed output are those of each frame: a line that the daemon delivers in two frames is two responses.
-/

namespace Dmanager
namespace Container

open Go Db Lib Server Auth Docker

/-! ## One text, raw and framed -/

/-- A text ends with a newline, or is empty. -/
def EndsLine (text : GoString) : Prop := text = [] ∨ text.getLast? = some 0x0A

instance (text : GoString) : Decidable (EndsLine text) := inferInstanceAs (Decidable (_ ∨ _))

/-- The lines of a text whose first part ends with a newline. -/
theorem lines_append {first : GoString} (hends : EndsLine first) (second : GoString) :
    lines (first ++ second) = lines first ++ lines second := by
  induction first using lineInduction with
  | last line hline =>
      have hnil : line = [] := by
        refine hends.resolve_right fun hlast => hline ?_
        exact List.mem_of_getLast? hlast
      rw [hnil]
      rfl
  | next line rest hline ih =>
      have hrest : EndsLine rest := by
        cases rest with
        | nil => exact Or.inl rfl
        | cons b rest =>
            refine Or.inr ?_
            have hlast := hends.resolve_left (List.append_ne_nil_of_right_ne_nil _ (List.cons_ne_nil _ _))
            rw [List.getLast?_append_of_ne_nil _ (List.cons_ne_nil _ _), List.getLast?_cons_cons] at hlast
            exact hlast
      rw [List.append_assoc, List.cons_append, lines_append_newline hline, lines_append_newline hline, ih hrest,
        List.cons_append]

/-- Frames of the standard output that hold a text, cut at the ends of lines. -/
structure CutsAtLines (frames : List Frame) (text : GoString) : Prop where
  stdout : ∀ f ∈ frames, f.kind = 1
  payloads : frames.flatMap Frame.payload = text
  ends : ∀ f ∈ frames.dropLast, EndsLine f.payload

/-- The lines of the frames are those of the text. -/
theorem CutsAtLines.lines_eq {frames : List Frame} {text : GoString} (hcuts : CutsAtLines frames text) :
    (frames.flatMap fun f => lines f.payload) = lines text := by
  obtain ⟨-, rfl, hends⟩ := hcuts
  induction frames with
  | nil => rfl
  | cons f rest ih =>
      rw [List.flatMap_cons, List.flatMap_cons]
      cases rest with
      | nil => rw [List.flatMap_nil, List.flatMap_nil, List.append_nil, List.append_nil]
      | cons next rest =>
          rw [List.dropLast_cons_cons, List.forall_mem_cons] at hends
          rw [ih hends.2, lines_append hends.1]

theorem CutsAtLines.responses_eq {frames : List Frame} {text : GoString} (hcuts : CutsAtLines frames text) :
    frames.flatMap Frame.responses = (lines text).map (response streamTypeStdout) := by
  rw [← hcuts.lines_eq, List.map_flatMap]
  refine List.flatMap_congr fun f hf => ?_
  rw [Frame.responses, hcuts.stdout f hf]
  rfl

variable {w w' : LogsWorld} {s s' : Service} {ctx ctx' : Ctx} {req req' : GetContainerLogsRequest}
variable {Sendable : GetContainerLogsResponse → Prop} [DecidablePred Sendable]

theorem emits_streamLogs_raw (hsends : Sends w Sendable) {text : GoString} (hshort : ShortLines text) :
    Emits w Sendable (streamLogs true text) ((lines text).map (response streamTypeStdout)) (.ok ()) :=
  emits_rawLogs hsends hshort

theorem emits_streamLogs_framed (hsends : Sends w Sendable) (frames : List Frame) :
    Emits w Sendable (streamLogs false (encode frames)) (frames.flatMap Frame.responses) (.ok ()) := by
  have hemits := emits_multiplexedLogs_cut hsends (List.prefix_refl (encode frames))
  rw [wholeFrames_encode] at hemits
  exact hemits

/-- The handler returns without an error when all responses of its loop can be sent. -/
theorem getContainerLogs_ok_iff {tty : Bool} {bytes : GoString} {resps : List GetContainerLogsResponse}
    (hopens : Opens w s ctx req tty bytes) (hemits : Emits w Sendable (streamLogs tty bytes) resps (.ok ())) :
    ((getContainerLogs s ctx req).run w []).result = .ok () ↔ ∀ resp ∈ resps, Sendable resp := by
  obtain ⟨-, hok, herror⟩ := delivered_of_emits hopens hemits
  refine ⟨fun hresult => ?_, hok⟩
  by_contra hnot
  push Not at hnot
  obtain ⟨err, herr⟩ := herror hnot
  rw [herr] at hresult
  cases hresult

/-- A text whose lines fit into the scanner, and the same text in frames cut at the ends of lines: both loops deliver
the same responses, and one returns without an error when the other does. -/
theorem getContainerLogs_same_output (hsends : Sends w Sendable) (hsends' : Sends w' Sendable)
    {text : GoString} {frames : List Frame} (hraw : Opens w s ctx req true text)
    (hframed : Opens w' s' ctx' req' false (encode frames)) (hshort : ShortLines text)
    (hcuts : CutsAtLines frames text) :
    delivered ((getContainerLogs s ctx req).run w []).trace =
        delivered ((getContainerLogs s' ctx' req').run w' []).trace ∧
      (((getContainerLogs s ctx req).run w []).result = .ok () ↔
        ((getContainerLogs s' ctx' req').run w' []).result = .ok ()) := by
  have hemits := emits_streamLogs_raw hsends hshort
  have hemits' := emits_streamLogs_framed hsends' frames
  rw [hcuts.responses_eq] at hemits'
  constructor
  · rw [(delivered_of_emits hraw hemits).1, (delivered_of_emits hframed hemits').1]
  · rw [getContainerLogs_ok_iff hraw hemits, getContainerLogs_ok_iff hframed hemits']

/-- A blank line, a carriage return in a line and one at its end, and a last line without a newline. -/
def twoLines : GoString := str "2026-07-04T12:00:00Z Out\r 1\r\n\nno time\r"

theorem length_take_lt (payload : GoString) : (payload.take 4294967295).length < 4294967296 := by
  rw [List.length_take]
  omega

/-- A frame of the standard output; the header has room for the length of what a payload can have. -/
def stdoutFrame (payload : GoString) : Frame := ⟨1, (0, 0, 0), payload.take 4294967295, length_take_lt payload⟩

/-- `twoLines` in frames, of which one is empty. -/
def twoLinesFrames : List Frame :=
  [stdoutFrame (str "2026-07-04T12:00:00Z Out\r 1\r\n"), stdoutFrame [], stdoutFrame (str "\nno time\r")]

theorem getContainerLogs_same_output_twoLines :
    delivered ((getContainerLogs ⟨true, false⟩ viewerCtx webLogs).run
        (logsWorld true twoLines fun _ => .ok ()) []).trace =
      delivered ((getContainerLogs ⟨true, false⟩ viewerCtx webLogs).run
        (logsWorld false (encode twoLinesFrames) fun _ => .ok ()) []).trace := by
  have hsends : ∀ tty bytes, Sends (logsWorld tty bytes fun _ => .ok ()) fun _ => True :=
    fun _ _ => ⟨fun _ => rfl, fun _ _ => iff_of_true ⟨(), rfl⟩ trivial⟩
  have hcuts : CutsAtLines twoLinesFrames twoLines := ⟨by decide, by decide +kernel, by decide +kernel⟩
  exact (getContainerLogs_same_output (hsends true _) (hsends false _) (opens_logsWorld true _ _)
    (opens_logsWorld false _ _) (by decide +kernel) hcuts).1

/-! ## Everything a container can print -/

/-- The strings of a message must be valid, or `stream.Send` fails. -/
def ProtoSendable (resp : GetContainerLogsResponse) : Prop :=
  ValidString resp.logLine ∧ ValidString resp.timestamp ∧ ValidString resp.streamType

instance decidableProtoSendable : DecidablePred ProtoSendable :=
  fun _ => inferInstanceAs (Decidable (_ ∧ _))

theorem protoSendable_iff_line {resp : GetContainerLogsResponse} (hstream : ValidString resp.streamType) :
    ProtoSendable resp ↔ ValidString resp.line := by
  unfold ProtoSendable GetContainerLogsResponse.line
  split
  · -- a blank stands between the timestamp and the rest
    have hblank : resp.timestamp ++ str " " ++ resp.logLine = resp.timestamp ++ 0x20 :: resp.logLine :=
      List.append_assoc _ _ _
    rw [hblank, validString_append_cons (by decide), and_iff_left hstream, and_comm]
  · rename_i htimestamp
    rw [not_not] at htimestamp
    rw [htimestamp]
    exact and_iff_left ⟨validString_nil, hstream⟩

/-- A response can be sent when its line is valid. -/
theorem protoSendable_response {streamType : GoString} (hstream : ValidString streamType) (line : GoString) :
    ProtoSendable (response streamType line) ↔ ValidString line := by
  have hsend : ProtoSendable (response streamType line) ↔ ValidString (response streamType line).line :=
    protoSendable_iff_line hstream
  rw [hsend, line_response]

theorem validString_streamTypeOf (kind : UInt8) : ValidString (streamTypeOf kind) := by
  unfold streamTypeOf
  split
  · exact validString_str "stderr"
  · exact validString_str "stdout"

/-- The lines of a text can be sent when the text is valid. -/
theorem protoSendable_lines {streamType : GoString} (hstream : ValidString streamType) (text : GoString) :
    (∀ resp ∈ (lines text).map (response streamType), ProtoSendable resp) ↔ ValidString text := by
  rw [List.forall_mem_map, validString_iff_lines]
  exact forall₂_congr fun line _ => protoSendable_response hstream line

/-- What a container prints: bytes, or payloads in frames. -/
inductive Output where
  | raw (text : GoString)
  | framed (frames : List Frame)

namespace Output

def tty : Output → Bool
  | .raw _ => true
  | .framed _ => false

/-- What `ContainerLogs` returns. -/
def bytes : Output → GoString
  | .raw text => text
  | .framed frames => encode frames

/-- A response for each line; the lines of framed output are those of each frame. -/
def responses : Output → List GetContainerLogsResponse
  | .raw text => (lines text).map (response streamTypeStdout)
  | .framed frames => frames.flatMap Frame.responses

/-- Valid text, without a long line where a scanner reads it. -/
def Printable : Output → Prop
  | .raw text => ValidString text ∧ ShortLines text
  | .framed frames => ∀ f ∈ frames, ValidString f.payload

instance decidablePrintable : DecidablePred Printable
  | .raw _ => inferInstanceAs (Decidable (_ ∧ _))
  | .framed _ => inferInstanceAs (Decidable (∀ _ ∈ _, _))

end Output

/-- A response for every line, and no error at the end, is what the client gets exactly of a text that is valid and,
from a terminal, has no long line. -/
theorem getContainerLogs_complete_iff (hsends : Sends w ProtoSendable) (output : Output)
    (hopens : Opens w s ctx req output.tty output.bytes) :
    (delivered ((getContainerLogs s ctx req).run w []).trace = output.responses ∧
        ((getContainerLogs s ctx req).run w []).result = .ok ()) ↔ output.Printable := by
  -- with all responses sent, the loop delivers them
  have hiff : Emits w ProtoSendable (streamLogs output.tty output.bytes) output.responses (.ok ()) →
      ((delivered ((getContainerLogs s ctx req).run w []).trace = output.responses ∧
        ((getContainerLogs s ctx req).run w []).result = .ok ()) ↔ ∀ resp ∈ output.responses, ProtoSendable resp) := by
    intro hemits
    rw [getContainerLogs_ok_iff hopens hemits]
    refine and_iff_right_of_imp fun hall => ?_
    rw [(delivered_of_emits hopens hemits).1, takeWhile_sendable hall]
  cases output with
  | raw text =>
      by_cases hshort : ShortLines text
      · rw [hiff (emits_streamLogs_raw hsends hshort)]
        exact (protoSendable_lines (validString_str "stdout") text).trans (and_iff_left hshort).symm
      · refine iff_of_false ?_ fun hprintable => hshort hprintable.2
        rintro ⟨-, hresult⟩
        obtain ⟨resps, err, hemits⟩ := emits_rawLogs_of_long hsends hshort
        obtain ⟨-, hok, herror⟩ := delivered_of_emits hopens hemits
        by_cases hall : ∀ resp ∈ resps, ProtoSendable resp
        · rw [hok hall] at hresult
          cases hresult
        · push Not at hall
          obtain ⟨err', herr⟩ := herror hall
          rw [herr] at hresult
          cases hresult
  | framed frames =>
      rw [hiff (emits_streamLogs_framed hsends frames), Output.responses, List.forall_mem_flatMap]
      exact forall₂_congr fun f _ => protoSendable_lines (validString_streamTypeOf f.kind) f.payload

/-- `stream.Send` as far as the strings of the message decide. -/
def protoSend (resp : GetContainerLogsResponse) : Except GoString Unit :=
  if ProtoSendable resp then .ok () else .error (str "string field contains invalid UTF-8")

theorem sends_logsWorld (tty : Bool) (bytes : GoString) : Sends (logsWorld tty bytes protoSend) ProtoSendable := by
  refine ⟨fun _ => rfl, fun resp n => ?_⟩
  show (∃ u, protoSend resp = .ok u) ↔ ProtoSendable resp
  unfold protoSend
  split
  · rename_i hsendable
    exact iff_of_true ⟨(), rfl⟩ hsendable
  · rename_i hnot
    refine iff_of_false ?_ hnot
    rintro ⟨u, hu⟩
    cases hu

theorem getContainerLogs_complete_twoLines :
    delivered ((getContainerLogs ⟨true, false⟩ viewerCtx webLogs).run
        (logsWorld true twoLines protoSend) []).trace = (Output.raw twoLines).responses ∧
      ((getContainerLogs ⟨true, false⟩ viewerCtx webLogs).run (logsWorld true twoLines protoSend) []).result =
        .ok () :=
  (getContainerLogs_complete_iff (sends_logsWorld true _) (.raw twoLines) (opens_logsWorld true _ _)).mpr
    (by decide +kernel)

/-- A line that is no valid text, and one after it. -/
def latin1 : GoString := str "2026-07-04T12:00:00Z caf" ++ [0xE9, 0x0A] ++ str "2026-07-04T12:00:01Z Ready\n"

/-- The output has two lines, and the client gets an error and none of them. -/
def BothLinesLost (output : Output) : Prop :=
  output.responses.length = 2 ∧
    delivered ((getContainerLogs ⟨true, false⟩ viewerCtx webLogs).run
      (logsWorld output.tty output.bytes protoSend) []).trace = [] ∧
    ((getContainerLogs ⟨true, false⟩ viewerCtx webLogs).run (logsWorld output.tty output.bytes protoSend) []).result =
      .error (.send (str "string field contains invalid UTF-8"))

/-- The same from a terminal and in a frame. -/
theorem getContainerLogs_latin1 :
    BothLinesLost (.raw latin1) ∧ BothLinesLost (.framed [stdoutFrame latin1]) := by
  unfold BothLinesLost
  constructor
  · decide +kernel
  · decide +kernel

end Container
end Dmanager
