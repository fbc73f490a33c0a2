/-
The asciinema encoder of the audit log: a recording of the output of a program as a file of lines,
a header and then one frame for every piece of output.
-/
import ContainerSSH.AuditIndex
import ContainerSSH.Utf8

namespace ContainerSSH.Asciinema

open AuditLog (Message MessageType Payload AsciinemaIndex MetadataCall toSeconds TypedMessage)

structure Header where
  version : Nat := 2
  width : Nat := 80
  height : Nat := 25
  timestamp : Int := 0
  command : String := ""
  title : String := ""
  env : List (String × String) := []

inductive EventType where
  | output
  | input
deriving DecidableEq

structure Frame (Time : Type) where
  time : Time
  eventType : EventType
  data : List UInt8

def replacement : Char := Char.ofNat 0xFFFD

structure Json where
  Time : Type
  /-- `float64(nanoseconds) / 1000000000`. -/
  seconds : Int → Time
  marshalHeader : Header → List UInt8
  marshalFrame : Frame Time → List UInt8
  unmarshalFrame : List UInt8 → Option (Frame Time)
  newline_notMem_header : ∀ header, 10 ∉ marshalHeader header
  newline_notMem_frame : ∀ frame, 10 ∉ marshalFrame frame
  marshalFrame_ne_nil : ∀ frame, marshalFrame frame ≠ []
  unmarshalFrame_marshalFrame : ∀ frame, unmarshalFrame (marshalFrame frame) = some { frame with
      data := Utf8.encode (Utf8.decode replacement frame.data) }

def hexText (bytes : List UInt8) : List UInt8 := bytes.flatMap fun b => [b / 16 + 65, b % 16 + 65]

def ofHexText : List UInt8 → List UInt8
  | high :: low :: rest => ((high - 65) * 16 + (low - 65)) :: ofHexText rest
  | _ => []

theorem ofHexText_hexText (bytes : List UInt8) : ofHexText (hexText bytes) = bytes := by
  induction bytes with
  | nil => rfl
  | cons b rest ih =>
    have hbyte : (b / 16 + 65 - 65) * 16 + (b % 16 + 65 - 65) = b := by
      have hlt := b.toNat_lt
      rw [← UInt8.toNat_inj]
      simp only [UInt8.toNat_add, UInt8.toNat_sub, UInt8.toNat_mul,
        UInt8.toNat_div, UInt8.toNat_mod, UInt8.reduceToNat]
      omega
    change (_ :: ofHexText (hexText rest)) = _
    rw [hbyte, ih]

theorem newline_notMem_hexText (bytes : List UInt8) : 10 ∉ hexText bytes := by
  simp only [hexText, List.mem_flatMap, List.mem_cons, List.not_mem_nil,
    or_false, not_exists, not_and, not_or, ← UInt8.toNat_inj, UInt8.toNat_add,
    UInt8.toNat_div, UInt8.toNat_mod, UInt8.reduceToNat]
  intro b _
  have hlt := b.toNat_lt
  omega

theorem length_hexText (bytes : List UInt8) : (hexText bytes).length = 2 * bytes.length := by
  simp [hexText, Nat.mul_comm]

/-- An encoding with the laws of `Json`; it is not the text that `encoding/json` writes. -/
def Json.hex : Json where
  Time := UInt64
  seconds nanoseconds := UInt64.ofNat (nanoseconds / 1000000000).toNat
  marshalHeader header := hexText (Utf8.encode (",".intercalate
    ([toString header.version, toString header.width, toString header.height,
      toString header.timestamp, header.command, header.title] ++
      header.env.flatMap fun a => [a.1, a.2])).toList)
  marshalFrame frame :=
    (match frame.eventType with
      | .output => 111
      | .input => 105) :: (hexText (AuditLog.putUint64 frame.time) ++
        hexText (Utf8.encode (Utf8.decode replacement frame.data)))
  unmarshalFrame line :=
    match line with
    | [] => none
    | eventType :: rest => some
        { time := AuditLog.uint64 (ofHexText (rest.take 16))
          eventType := if eventType = 105 then .input else .output
          data := ofHexText (rest.drop 16) }
  newline_notMem_header _ := newline_notMem_hexText _
  newline_notMem_frame frame := by
    simp only [List.mem_cons, List.mem_append, newline_notMem_hexText, or_false]
    cases frame.eventType <;> decide
  marshalFrame_ne_nil _ := List.cons_ne_nil _ _
  unmarshalFrame_marshalFrame frame := by
    have htime : (hexText (AuditLog.putUint64 frame.time)).length = 16 := by
      rw [length_hexText, AuditLog.length_putUint64]
    dsimp only
    rw [List.take_left' htime, List.drop_left' htime, ofHexText_hexText,
      ofHexText_hexText, AuditLog.uint64_putUint64]
    obtain ⟨time, eventType, data⟩ := frame
    cases eventType <;> rfl

inductive StorageCall where
  | setMetadata (call : MetadataCall)
  | write (data : List UInt8)
  | close

abbrev Storage := List StorageCall → List UInt8 → Option String

def StorageCall.written : StorageCall → List UInt8
  | write data => data
  | _ => []

structure EncoderState where
  index : AsciinemaIndex := {}
  header : Header := {}
  headerWritten : Bool := false
  calls : List StorageCall := []

inductive Interruption where
  | failed (s : EncoderState) (err : String)
  | panicked (s : EncoderState)

def shell : String := "/bin/sh"

section Encoder

variable (json : Json) (lookup : String → String) (storage : Storage)

def write (wrap : String → String) (s : EncoderState) (data : List UInt8) :
    Except Interruption EncoderState :=
  let next := { s with calls := s.calls ++ [.write data] }
  match storage s.calls data with
  | none => .ok next
  | some err => .error (.failed next (wrap err))

def sendHeader (s : EncoderState) : Except Interruption EncoderState :=
  write storage id s (json.marshalHeader s.header ++ [10])

def sendFrame (s : EncoderState) (frame : Frame json.Time) :
    Except Interruption EncoderState :=
  write storage (fun err => "failed to write Asciicast frame (" ++ err ++ ")") s
    (json.marshalFrame frame ++ [10])

def handleChannelRequestPty (term : String) (columns rows : UInt32) (header : Header) : Header :=
  { header with env := assign "TERM" term header.env, width := columns.toNat, height := rows.toNat }

def handleRun (s : EncoderState) (program : String) :
    Except Interruption EncoderState :=
  if s.headerWritten then .ok s
  else do
    let s ← sendHeader json storage
      { s with header := { s.header with command := program } }
    .ok { s with headerWritten := true }

def handleIO (s : EncoderState) (msg : Message) :
    Except Interruption EncoderState := do
  let s ← handleRun json storage s shell
  match msg.payload with
  | some (.io stream data) =>
    if stream = .stdout ∨ stream = .stderr then
      sendFrame json storage s
        { time := json.seconds ((msg.timestamp - s.index.startTime).bmod 18446744073709551616)
          eventType := .output
          data := data }
    else .ok s
  | _ => .error (.panicked s)

def encodeMessage (s : EncoderState) (msg : Message) :
    Except Interruption EncoderState :=
  match AuditLog.encodeMessage lookup s.index msg with
  | none => .error (.panicked s)
  | some (index, call) =>
    let s : EncoderState :=
      { s with
        index := index
        header := if msg.messageType = .connect then
            { s.header with timestamp := toSeconds index.startTime }
          else s.header
        calls := s.calls ++ (call.map StorageCall.setMetadata).toList }
    match msg.messageType with
    | .channelRequestSetEnv =>
      match msg.payload with
      | some (.channelRequestSetEnv _ name value) =>
        .ok { s with header := { s.header with env := assign name value s.header.env } }
      | _ => .error (.panicked s)
    | .channelRequestPty =>
      match msg.payload with
      | some (.channelRequestPty _ term columns rows _ _ _) =>
        .ok { s with header := handleChannelRequestPty term columns rows s.header }
      | _ => .error (.panicked s)
    | .channelRequestExec =>
      match msg.payload with
      | some (.channelRequestExec _ program) => handleRun json storage s program
      | _ => .error (.panicked s)
    | .channelRequestShell => handleRun json storage s shell
    | .channelRequestSubsystem => handleRun json storage s shell
    | .io => handleIO json storage s msg
    | _ => .ok s

structure Encoded where
  calls : List StorageCall
  err : Option String := none
  panicked : Bool := false

def Encoded.file (run : Encoded) : List UInt8 := run.calls.flatMap StorageCall.written

def finish : Except Interruption EncoderState → Encoded
  | .ok s => { calls := s.calls ++ [.close] }
  | .error (.failed s err) => { calls := s.calls ++ [.close], err := some err }
  | .error (.panicked s) => { calls := s.calls, panicked := true }

def encode (messages : List Message) : Encoded :=
  finish do
    let s ← messages.foldlM (encodeMessage json lookup storage) {}
    if s.headerWritten then .ok s else sendHeader json storage s

def launched (m : Message) : Option String :=
  match m.messageType with
  | .channelRequestExec =>
    match m.payload with
    | some (.channelRequestExec _ program) => some program
    | _ => none
  | .channelRequestShell => some shell
  | .channelRequestSubsystem => some shell
  | .io => some shell
  | _ => none

def output (m : Message) : Option (List UInt8) :=
  match m.messageType with
  | .io =>
    match m.payload with
    | some (.io stream data) => if stream = .stdout ∨ stream = .stderr then some data else none
    | _ => none
  | _ => none

def assignments (m : Message) : List (String × String) :=
  match m.messageType with
  | .channelRequestSetEnv =>
    match m.payload with
    | some (.channelRequestSetEnv _ name value) => [(name, value)]
    | _ => []
  | .channelRequestPty =>
    match m.payload with
    | some (.channelRequestPty _ term _ _ _ _ _) => [("TERM", term)]
    | _ => []
  | _ => []

def terminalSize (m : Message) : Option (Nat × Nat) :=
  match m.messageType with
  | .channelRequestPty =>
    match m.payload with
    | some (.channelRequestPty _ _ columns rows _ _ _) => some (columns.toNat, rows.toNat)
    | _ => none
  | _ => none

def connectTime (m : Message) : Option Int :=
  match m.messageType with
  | .connect => some m.timestamp
  | _ => none

def beforeLaunch (messages : List Message) : List Message :=
  messages.takeWhile fun m => (launched m).isNone

def latest {α : Type} (f : Message → Option α) (default : α) (messages : List Message) : α :=
  ((messages.filterMap f).getLast?).getD default

def preparedHeader (messages : List Message) : Header where
  width := (latest terminalSize (80, 25) messages).1
  height := (latest terminalSize (80, 25) messages).2
  timestamp := toSeconds (latest connectTime 0 messages)
  env := (messages.flatMap assignments).foldl (fun env a => assign a.1 a.2 env) []

def recordedHeader (messages : List Message) : Header :=
  { preparedHeader (beforeLaunch messages) with
    command := (messages.findSome? launched).getD "" }

def frame? (startTime : Int) (m : Message) : Option (Frame json.Time) :=
  (output m).map fun data =>
    { time := json.seconds ((m.timestamp - startTime).bmod 18446744073709551616)
      eventType := .output
      data := data }

def frames (startTime : Int) : List Message → List (Frame json.Time)
  | [] => []
  | m :: rest =>
    let startTime := (connectTime m).getD startTime
    (frame? json startTime m).toList ++ frames startTime rest

end Encoder

end ContainerSSH.Asciinema
