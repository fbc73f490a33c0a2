/-
What the asciinema encoder leaves in the storage.
-/
import ContainerSSH.Asciinema
import ContainerSSH.ListBlocks

namespace ContainerSSH.Asciinema

open AuditLog (Message MessageType Payload AsciinemaIndex MetadataCall toSeconds TypedMessage)

section Encoder

variable {json : Json} {lookup : String → String} {storage : Storage}

def edited (m : Message) (header : Header) : Header :=
  { header with
    width := ((terminalSize m).getD (header.width, header.height)).1
    height := ((terminalSize m).getD (header.width, header.height)).2
    timestamp := ((connectTime m).map toSeconds).getD header.timestamp
    env := (assignments m).foldl (fun env a => assign a.1 a.2 env) header.env }

def noted (s : EncoderState) (m : Message) (index : AsciinemaIndex)
    (call : Option MetadataCall) : EncoderState :=
  { s with
    index := index
    header := edited m s.header
    calls := s.calls ++ (call.map StorageCall.setMetadata).toList }

variable (json storage) in
def launch (s : EncoderState) : Option String → Except Interruption EncoderState
  | none => .ok s
  | some program => handleRun json storage s program

variable (json storage) in
def record (s : EncoderState) : Option (Frame json.Time) → Except Interruption EncoderState
  | none => .ok s
  | some frame => sendFrame json storage s frame

theorem bind_ok (result : Except Interruption EncoderState) :
    (result >>= fun s => .ok s) = result := by
  cases result <;> rfl

variable {result : Except Interruption EncoderState}

theorem bind_congr_of_ok {f g : EncoderState → Except Interruption EncoderState}
    (hfg : ∀ s, result = .ok s → f s = g s) : result >>= f = result >>= g := by
  cases result with
  | error => rfl
  | ok s => exact hfg s rfl

variable {m : Message}

theorem index_of_typed (lookup : String → String) (hm : m.Typed) (s : AsciinemaIndex) :
    ∃ index call, AuditLog.encodeMessage lookup s m = some (index, call) ∧
      index.startTime = (connectTime m).getD s.startTime := by
  by_cases hconnect : m.messageType = .connect
  · cases hm.indexRole with
    | connect => exact ⟨_, _, rfl, rfl⟩
    | password | pubKey | handshake => cases hconnect
    | other m hother => simp [hconnect] at hother
  · obtain ⟨username, hencode⟩ := @AuditLog.encodeMessage_of_typed lookup s m hm hconnect
    have hnone : connectTime m = none := by
      unfold connectTime
      split
      · contradiction
      · rfl
    exact ⟨_, _, hencode, by rw [hnone]; rfl⟩

theorem payload_of_typed (hm : m.Typed) {t : AuditLog.PayloadType}
    (ht : m.messageType.payload = some t) : ∃ p, m.payload = some p ∧ p.type = t :=
  Option.map_eq_some_iff.mp (Eq.trans hm ht)

variable {s : EncoderState} {program : String}

theorem index_of_handleRun {t : EncoderState}
    (hrun : handleRun json storage s program = .ok t) : t.index = s.index := by
  unfold handleRun at hrun
  split at hrun
  · cases hrun
    rfl
  · cases hsend : storage s.calls
        (json.marshalHeader { s.header with command := program } ++ [10]) with
    | none =>
      simp only [sendHeader, write, hsend] at hrun
      cases hrun
      rfl
    | some =>
      simp only [sendHeader, write, hsend] at hrun
      cases hrun

variable (json lookup storage) in
theorem encodeMessage_of_typed (hm : m.Typed) (s : EncoderState) :
    ∃ index call, index.startTime = (connectTime m).getD s.index.startTime ∧
      encodeMessage json lookup storage s m =
        (launch json storage (noted s m index call) (launched m) >>= fun s =>
          record json storage s (frame? json index.startTime m)) := by
  obtain ⟨index, call, hindex, hstart⟩ := index_of_typed lookup hm s.index
  refine ⟨index, call, hstart, ?_⟩
  obtain ⟨connectionID, timestamp, messageType, payload, channelID⟩ := m
  simp only [encodeMessage, hindex]
  cases messageType
  case connect =>
    rw [show index.startTime = timestamp from hstart]
    rfl
  case channelRequestSetEnv | channelRequestPty =>
    obtain ⟨p, rfl, hp⟩ := payload_of_typed hm rfl
    cases p <;> first | (cases hp; done) | rfl
  case channelRequestExec =>
    obtain ⟨p, rfl, hp⟩ := payload_of_typed hm rfl
    cases p <;> first | (cases hp; done) | exact (bind_ok _).symm
  case channelRequestShell | channelRequestSubsystem => exact (bind_ok _).symm
  case io =>
    obtain ⟨p, rfl, hp⟩ := payload_of_typed hm rfl
    cases p <;> first | (cases hp; done) | skip
    case io stream data =>
      refine bind_congr_of_ok fun t ht => ?_
      have ht' : t.index = index := index_of_handleRun ht
      by_cases hout : stream = .stdout ∨ stream = .stderr
      · simp only [frame?, output, hout, ht', if_true, Option.map_some, record]
      · simp only [frame?, output, hout, if_false, Option.map_none, record]
  all_goals rfl

theorem latest_append_singleton {α : Type} (f : Message → Option α)
    (default : α) (messages : List Message) (m : Message) : latest f default (messages ++ [m]) =
      (f m).getD (latest f default messages) := by
  cases hm : f m <;> simp [latest, hm]

theorem preparedHeader_append (messages : List Message) (m : Message) :
    preparedHeader (messages ++ [m]) = edited m (preparedHeader messages) := by
  simp only [preparedHeader, edited, latest_append_singleton,
    Option.getD_map, List.flatMap_append, List.foldl_append, List.flatMap_cons, List.flatMap_nil,
    List.append_nil]

variable {messages : List Message}

theorem beforeLaunch_append (hnone : messages.findSome? launched = none) (more : List Message) :
    beforeLaunch (messages ++ more) = messages ++ beforeLaunch more := by
  apply List.takeWhile_append_of_pos
  intro m hm
  simp [List.findSome?_eq_none_iff.mp hnone m hm]

theorem recordedHeader_of_none (hnone : messages.findSome? launched = none) :
    recordedHeader messages = preparedHeader messages := by
  have hbefore := beforeLaunch_append hnone []
  rw [List.append_nil] at hbefore
  rw [recordedHeader, hbefore, hnone]
  simp [beforeLaunch, preparedHeader]

theorem recordedHeader_of_launch (hnone : messages.findSome? launched = none)
    (hm : launched m = some program) : recordedHeader (messages ++ [m]) =
      { preparedHeader messages with command := program } := by
  have hbefore : beforeLaunch (messages ++ [m]) = messages := by
    rw [beforeLaunch_append hnone]
    simp [beforeLaunch, hm]
  rw [recordedHeader, hbefore, List.findSome?_append, hnone]
  simp [hm]

theorem recordedHeader_of_some (hsome : (messages.findSome? launched).isSome = true) (m : Message) :
    recordedHeader (messages ++ [m]) = recordedHeader messages := by
  have hbefore : beforeLaunch (messages ++ [m]) = beforeLaunch messages := by
    induction messages with
    | nil => cases hsome
    | cons a rest ih =>
      rw [beforeLaunch, beforeLaunch, List.cons_append, List.takeWhile_cons, List.takeWhile_cons]
      cases ha : launched a with
      | some => simp
      | none =>
        rw [List.findSome?_cons, ha] at hsome
        have hrest := ih hsome
        rw [beforeLaunch, beforeLaunch] at hrest
        simp [hrest]
  obtain ⟨program, hprogram⟩ := Option.isSome_iff_exists.mp hsome
  rw [recordedHeader, recordedHeader, hbefore, List.findSome?_append, hprogram]
  rfl

theorem edited_of_launched (hm : launched m = some program) (header : Header) :
    edited m header = header := by
  obtain ⟨connectionID, timestamp, messageType, payload, channelID⟩ := m
  cases messageType <;> first | rfl | cases hm

theorem frame?_of_launched (hnone : launched m = none) (startTime : Int) :
    frame? json startTime m = none := by
  have houtput : output m = none := by
    unfold launched at hnone
    unfold output
    split at hnone <;> simp_all
  rw [frame?, houtput]
  rfl

theorem frames_append (startTime : Int) (messages : List Message) (m : Message) :
    frames json startTime (messages ++ [m]) = frames json startTime messages ++
      (frame? json ((connectTime m).getD (latest connectTime startTime messages)) m).toList := by
  induction messages generalizing startTime with
  | nil => simp [frames, latest]
  | cons a rest ih =>
    have hlatest : latest connectTime startTime (a :: rest) =
        latest connectTime ((connectTime a).getD startTime) rest := by
      cases ha : connectTime a with
      | none => simp [latest, ha]
      | some => simp [latest, ha, List.getLast?_cons]
    rw [List.cons_append, frames, frames, ih, hlatest, List.append_assoc]

theorem frames_of_none (hnone : messages.findSome? launched = none) (startTime : Int) :
    frames json startTime messages = [] := by
  induction messages generalizing startTime with
  | nil => rfl
  | cons m rest ih =>
    rw [List.findSome?_cons] at hnone
    cases hm : launched m with
    | some => simp [hm] at hnone
    | none =>
      rw [hm] at hnone
      rw [frames, frame?_of_launched hm, ih hnone]
      rfl

theorem frames_data (startTime : Int) (messages : List Message) :
    (frames json startTime messages).map Frame.data = messages.filterMap output := by
  induction messages generalizing startTime with
  | nil => rfl
  | cons m rest ih =>
    rw [frames, List.map_append, ih, List.filterMap_cons, frame?]
    cases output m <;> rfl

def Succeeds (storage : Storage) (P : EncoderState → Prop) : Except Interruption EncoderState → Prop
  | .ok s => P s
  | .error (.failed s _) => .close ∉ s.calls ∧ ∃ before data,
      s.calls = before ++ [.write data] ∧ storage before data ≠ none
  | .error (.panicked _) => False

theorem Succeeds.bind {P Q : EncoderState → Prop}
    {f : EncoderState → Except Interruption EncoderState}
    (hresult : Succeeds storage P result) (hf : ∀ s, P s → Succeeds storage Q (f s)) :
    Succeeds storage Q (result >>= f) := by
  match result, hresult with
  | .ok s, hs => exact hf s hs
  | .error (.failed s err), hs => exact hs

theorem Succeeds.mono {P Q : EncoderState → Prop}
    (hresult : Succeeds storage P result) (hPQ : ∀ s, P s → Q s) : Succeeds storage Q result := by
  match result, hresult with
  | .ok s, hs => exact hPQ s hs
  | .error (.failed s err), hs => exact hs

theorem succeeds_write (wrap : String → String) (hopen : .close ∉ s.calls) (data : List UInt8) :
    Succeeds storage (fun t => t = { s with calls := s.calls ++ [.write data] })
      (write storage wrap s data) := by
  unfold write
  cases hwrite : storage s.calls data with
  | none => exact rfl
  | some err =>
    refine ⟨by simpa using hopen, s.calls, data, rfl, ?_⟩
    rw [hwrite]
    exact Option.some_ne_none err

theorem succeeds_handleRun (hopen : .close ∉ s.calls)
    (hwritten : s.headerWritten = false) (program : String) : Succeeds storage (fun t => t =
        { s with
          header := { s.header with command := program }
          headerWritten := true
          calls := s.calls ++ [.write (json.marshalHeader
            { s.header with command := program } ++ [10])] })
      (handleRun json storage s program) := by
  rw [handleRun, if_neg (by rw [hwritten]; decide)]
  refine Succeeds.bind (succeeds_write id ?_ _) ?_
  · exact hopen
  · rintro t rfl
    rfl

def fileOf (json : Json) (header : Header) (frames : List (Frame json.Time)) :
    List UInt8 :=
  json.marshalHeader header ++ [10] ++ frames.flatMap fun frame => json.marshalFrame frame ++ [10]

theorem fileOf_append (header : Header) (frames more : List (Frame json.Time)) :
    fileOf json header (frames ++ more) = fileOf json header frames ++
      more.flatMap fun frame => json.marshalFrame frame ++ [10] := by
  rw [fileOf, fileOf, List.flatMap_append, List.append_assoc, List.append_assoc, List.append_assoc]

structure Recorded (json : Json) (messages : List Message)
    (frames : List (Frame json.Time)) (s : EncoderState) : Prop where
  startTime : s.index.startTime = latest connectTime 0 messages
  written : s.headerWritten = (messages.findSome? launched).isSome
  header : messages.findSome? launched = none → s.header = preparedHeader messages
  file : s.calls.flatMap StorageCall.written =
    if (messages.findSome? launched).isSome then fileOf json (recordedHeader messages) frames
    else []
  unclosed : .close ∉ s.calls

theorem recorded_init : Recorded json [] (frames json 0 []) {} where
  startTime := rfl
  written := rfl
  header _ := rfl
  file := rfl
  unclosed := List.not_mem_nil

theorem flatMap_written_call (calls : List StorageCall) (call : Option MetadataCall) :
    (calls ++ (call.map StorageCall.setMetadata).toList).flatMap
      StorageCall.written = calls.flatMap StorageCall.written := by
  cases call <;> simp [StorageCall.written]

theorem succeeds_launch (hs : Recorded json messages (frames json 0 messages) s)
    (m : Message) {index : AsciinemaIndex} (call : Option MetadataCall)
    (hstart : index.startTime = (connectTime m).getD s.index.startTime) : Succeeds storage
      (fun t => t.index = index ∧ Recorded json (messages ++ [m]) (frames json 0 messages) t)
      (launch json storage (noted s m index call) (launched m)) := by
  have hstart' : index.startTime = latest connectTime 0 (messages ++ [m]) := by
    rw [hstart, hs.startTime, latest_append_singleton]
  have hunclosed : .close ∉ (noted s m index call).calls := by simpa [noted] using hs.unclosed
  have hfile : (noted s m index call).calls.flatMap StorageCall.written =
      s.calls.flatMap StorageCall.written := flatMap_written_call _ _
  cases hsome : messages.findSome? launched with
  | some program =>
    -- the header has been written long ago
    have hmore : (messages ++ [m]).findSome? launched = some program := by
      rw [List.findSome?_append, hsome, Option.some_or]
    have hkept : Recorded json (messages ++ [m]) (frames json 0 messages)
        (noted s m index call) := by
      refine ⟨hstart', ?_, ?_, ?_, hunclosed⟩
      · rw [hmore, ← hsome]
        exact hs.written
      · rw [hmore]
        exact fun h => absurd h (Option.some_ne_none _)
      · rw [hfile, hs.file, hmore, hsome, recordedHeader_of_some (by rw [hsome]; rfl)]
    have hwritten : (noted s m index call).headerWritten = true := by
      rw [noted, hs.written, hsome]
      rfl
    cases hm : launched m with
    | none => exact ⟨rfl, hkept⟩
    | some =>
      rw [launch, handleRun, if_pos hwritten]
      exact ⟨rfl, hkept⟩
  | none =>
    have hwritten : (noted s m index call).headerWritten = false := by
      rw [noted, hs.written, hsome]
      rfl
    have hempty : s.calls.flatMap StorageCall.written = [] := by
      rw [hs.file, hsome]
      rfl
    have hmore : (messages ++ [m]).findSome? launched = launched m := by
      rw [List.findSome?_append, hsome]
      simp
    cases hm : launched m with
    | none =>
      rw [hm] at hmore
      refine ⟨rfl, hstart', ?_, fun _ => ?_, ?_, hunclosed⟩
      · rw [hwritten, hmore]
        rfl
      · rw [preparedHeader_append, ← hs.header hsome]
        rfl
      · rw [hfile, hempty, hmore]
        rfl
    | some program =>
      rw [hm] at hmore
      refine (succeeds_handleRun hunclosed hwritten program).mono ?_
      rintro t rfl
      have hheader : (noted s m index call).header = preparedHeader messages := by
        rw [noted, edited_of_launched hm, hs.header hsome]
      refine ⟨rfl, hstart', ?_, ?_, ?_, ?_⟩
      · rw [hmore]
        rfl
      · rw [hmore]
        exact fun h => absurd h (Option.some_ne_none _)
      · rw [List.flatMap_append, hfile, hempty, hmore, hheader,
          recordedHeader_of_launch hsome hm, frames_of_none hsome]
        simp [fileOf, StorageCall.written]
      · simpa using hunclosed

theorem succeeds_encodeMessage
    (hs : Recorded json messages (frames json 0 messages) s) (hm : m.Typed) : Succeeds storage
      (Recorded json (messages ++ [m]) (frames json 0 (messages ++ [m])))
      (encodeMessage json lookup storage s m) := by
  obtain ⟨index, call, hstart, hencode⟩ := encodeMessage_of_typed json lookup storage hm s
  have hframes : frames json 0 (messages ++ [m]) =
      frames json 0 messages ++ (frame? json index.startTime m).toList := by
    rw [frames_append, hstart, hs.startTime]
  rw [hencode, hframes]
  refine (succeeds_launch hs m call hstart).bind ?_
  rintro t ⟨-, ht⟩
  cases hframe : frame? json index.startTime m with
  | none =>
    rw [Option.toList_none, List.append_nil]
    exact ht
  | some frame =>
    have hsome : ((messages ++ [m]).findSome? launched).isSome = true := by
      cases hlaunched : launched m with
      | none => simp [frame?_of_launched hlaunched] at hframe
      | some => simp [hlaunched]
    refine (succeeds_write _ ht.unclosed _).mono ?_
    rintro _ rfl
    refine ⟨ht.startTime, ht.written, ht.header, ?_, by simpa using ht.unclosed⟩
    rw [List.flatMap_append, ht.file, if_pos hsome, if_pos hsome, fileOf_append]
    simp [StorageCall.written]

theorem succeeds_loop {more : List Message} (hs : Recorded json messages (frames json 0 messages) s)
    (hmore : ∀ m ∈ more, m.Typed) : Succeeds storage
      (Recorded json (messages ++ more) (frames json 0 (messages ++ more)))
      (more.foldlM (encodeMessage json lookup storage) s) := by
  induction more generalizing messages s with
  | nil =>
    rw [List.append_nil]
    exact hs
  | cons m rest ih =>
    obtain ⟨hm, hrest⟩ := List.forall_mem_cons.mp hmore
    refine (succeeds_encodeMessage hs hm).bind fun t ht => ?_
    have htail := ih ht hrest
    rwa [List.append_assoc] at htail

variable (json lookup storage) in
theorem succeeds_encode (htyped : ∀ m ∈ messages, m.Typed) : Succeeds storage
      (fun s => s.calls.flatMap StorageCall.written =
        fileOf json (recordedHeader messages) (frames json 0 messages) ∧ .close ∉ s.calls)
      (messages.foldlM (encodeMessage json lookup storage) {} >>= fun s =>
        if s.headerWritten then .ok s else sendHeader json storage s) := by
  refine (succeeds_loop recorded_init htyped).bind fun s hs => ?_
  rw [List.nil_append] at hs
  cases hsome : messages.findSome? launched with
  | some =>
    rw [if_pos (by rw [hs.written, hsome]; rfl)]
    refine ⟨?_, hs.unclosed⟩
    rw [hs.file, hsome]
    rfl
  | none =>
    rw [if_neg (by rw [hs.written, hsome]; decide)]
    refine (succeeds_write id hs.unclosed _).mono ?_
    rintro _ rfl
    refine ⟨?_, by simpa using hs.unclosed⟩
    rw [List.flatMap_append, hs.file, hsome, hs.header hsome,
      recordedHeader_of_none hsome, frames_of_none hsome]
    simp [fileOf, StorageCall.written]

theorem splitOn_fileOf (header : Header) (frames : List (Frame json.Time)) :
    (fileOf json header frames).splitOn 10 =
      json.marshalHeader header :: frames.map json.marshalFrame ++ [[]] := by
  have hlines : fileOf json header frames =
      (json.marshalHeader header :: frames.map json.marshalFrame).flatMap
        fun line => line ++ [10] := by
    simp [fileOf, List.flatMap_map]
  rw [hlines]
  apply ListBlocks.splitOn_flatMap_append
  simp only [List.forall_mem_cons, List.forall_mem_map]
  exact ⟨json.newline_notMem_header header, fun frame _ => json.newline_notMem_frame frame⟩

variable (json) in
structure Encoded.Leaves (run : Encoded) (header : Header)
    (frames : List (Frame json.Time)) : Prop where
  err : run.err = none
  panicked : run.panicked = false
  lines : run.file.splitOn 10 = json.marshalHeader header :: frames.map json.marshalFrame ++ [[]]
  closed : ∃ calls, run.calls = calls ++ [.close] ∧ .close ∉ calls

def Encoded.WritesSucceed (storage : Storage) (run : Encoded) : Prop :=
  ∀ before data after, run.calls = before ++ .write data :: after → storage before data = none

theorem finish_of_succeeds {file : List UInt8} (hresult : Succeeds storage (fun s =>
      s.calls.flatMap StorageCall.written = file ∧ .close ∉ s.calls) result) :
    (finish result).panicked = false ∧
      (∃ calls, (finish result).calls = calls ++ [.close] ∧ .close ∉ calls) ∧
      ((finish result).WritesSucceed storage →
        (finish result).err = none ∧ (finish result).file = file) := by
  match result, hresult with
  | .ok s, ⟨hfile, hopen⟩ =>
    refine ⟨rfl, ⟨s.calls, rfl, hopen⟩, fun _ => ⟨rfl, ?_⟩⟩
    rw [Encoded.file, finish, List.flatMap_append, hfile]
    exact List.append_nil _
  | .error (.failed s err), ⟨hopen, before, data, hcalls, hfailed⟩ =>
    refine ⟨rfl, ⟨s.calls, rfl, hopen⟩, fun hwrites => ?_⟩
    refine absurd (hwrites before data [.close] ?_) hfailed
    rw [finish, hcalls, List.append_assoc]
    rfl

theorem file_of_writesSucceed (messages : List TypedMessage) (hwrites : (encode json lookup storage
      (messages.map Subtype.val)).WritesSucceed storage) :
    (encode json lookup storage (messages.map Subtype.val)).file =
        fileOf json (recordedHeader (messages.map Subtype.val))
          (frames json 0 (messages.map Subtype.val)) ∧
      (encode json lookup storage (messages.map Subtype.val)).Leaves json
        (recordedHeader (messages.map Subtype.val)) (frames json 0 (messages.map Subtype.val)) := by
  have htyped : ∀ m ∈ messages.map Subtype.val, m.Typed := by
    simp only [List.forall_mem_map]
    exact fun m _ => m.property
  obtain ⟨hpanicked, hclosed, hreturned⟩ :=
    finish_of_succeeds (succeeds_encode json lookup storage htyped)
  obtain ⟨herr, hfile⟩ := hreturned hwrites
  refine ⟨hfile, herr, hpanicked, ?_, hclosed⟩
  rw [encode, hfile, splitOn_fileOf]

/-- For every stream of messages whose writes succeed: the header is that of the
messages before the program is started, and there is one frame for each message
with output. -/
theorem file_structure (json : Json) (lookup : String → String)
    (storage : Storage) (messages : List TypedMessage) (hwrites : (encode json lookup storage
      (messages.map Subtype.val)).WritesSucceed storage) :
    (encode json lookup storage (messages.map Subtype.val)).Leaves json
        (recordedHeader (messages.map Subtype.val)) (frames json 0 (messages.map Subtype.val)) ∧
      (frames json 0 (messages.map Subtype.val)).map Frame.data =
        (messages.map Subtype.val).filterMap output :=
  ⟨(file_of_writesSucceed messages hwrites).2, frames_data 0 _⟩

def session (first second : List UInt8) : List TypedMessage :=
  [⟨⟨"0a", 1000000000, .connect, some (.connect "192.0.2.1" "XX"), none⟩, rfl⟩,
    ⟨⟨"0a", 2000000000, .channelRequestPty,
      some (.channelRequestPty 0 "xterm" 120 40 0 0 []), some 0⟩, rfl⟩,
    ⟨⟨"0a", 3000000000, .channelRequestExec, some (.channelRequestExec 1 "date"), some 0⟩, rfl⟩,
    ⟨⟨"0a", 4000000000, .io, some (.io .stdout first), some 0⟩, rfl⟩,
    ⟨⟨"0a", 5000000000, .io, some (.io .stdout second), some 0⟩, rfl⟩]

theorem file_structure_session : (encode Json.hex (fun _ => "XX") (fun _ _ => none)
      ((session [72] [105]).map Subtype.val)).Leaves Json.hex
        { width := 120
          height := 40
          timestamp := 1
          command := "date"
          env := [("TERM", "xterm")] }
        [⟨Json.hex.seconds 3000000000, .output, [72]⟩,
          ⟨Json.hex.seconds 4000000000, .output, [105]⟩] :=
  (file_structure Json.hex (fun _ => "XX") (fun _ _ => none)
    (session [72] [105]) fun _ _ _ _ => rfl).1

def readFrames (json : Json) (file : List UInt8) : Option (List (Frame json.Time)) :=
  (((file.splitOn 10).drop 1).filter fun line => !line.isEmpty).mapM json.unmarshalFrame

def playback (json : Json) (file : List UInt8) : Option (List UInt8) :=
  (readFrames json file).map fun frames => frames.flatMap Frame.data

theorem playback_of_lines {file : List UInt8} {header : Header} {frames : List (Frame json.Time)}
    (hlines : file.splitOn 10 = json.marshalHeader header :: frames.map json.marshalFrame ++ [[]]) :
    playback json file = some ((frames.map Frame.data).flatMap fun data =>
      Utf8.encode (Utf8.decode replacement data)) := by
  have hframes : ((file.splitOn 10).drop 1).filter (fun line => !line.isEmpty) =
      frames.map json.marshalFrame := by
    rw [hlines, List.cons_append, List.drop_succ_cons, List.drop_zero, List.filter_append]
    have hall : (frames.map json.marshalFrame).filter
        (fun line => !line.isEmpty) = frames.map json.marshalFrame := by
      rw [List.filter_eq_self, List.forall_mem_map]
      intro frame _
      simpa using json.marshalFrame_ne_nil frame
    rw [hall]
    simp
  have hread : readFrames json file = some (frames.map fun frame =>
      { frame with data := Utf8.encode (Utf8.decode replacement frame.data) }) := by
    rw [readFrames, hframes]
    clear hlines hframes
    induction frames with
    | nil => rfl
    | cons frame rest ih =>
      rw [List.map_cons, List.mapM_cons, ih, json.unmarshalFrame_marshalFrame]
      rfl
  rw [playback, hread]
  simp [List.flatMap_map]

/-- The recording shows the output exactly if it has been cut between
characters only. -/
theorem playback_iff (json : Json) (lookup : String → String)
    (storage : Storage) (messages : List TypedMessage) (hwrites : (encode json lookup storage
      (messages.map Subtype.val)).WritesSucceed storage) :
    playback json (encode json lookup storage (messages.map Subtype.val)).file =
        some ((messages.map Subtype.val).filterMap output).flatten ↔
      ∀ piece ∈ (messages.map Subtype.val).filterMap output, Utf8.Valid piece := by
  rw [(file_of_writesSucceed messages hwrites).1,
    playback_of_lines (splitOn_fileOf _ _), frames_data, Option.some.injEq]
  exact Utf8.flatMap_encode_decode_eq_iff (by decide) _

theorem playback_two_characters :
    playback Json.hex (encode Json.hex (fun _ => "XX") (fun _ _ => none)
      ((session [0xc3, 0xa9] [0xc3, 0xa8]).map Subtype.val)).file = some [0xc3, 0xa9, 0xc3, 0xa8] :=
  (playback_iff Json.hex (fun _ => "XX") (fun _ _ => none)
    (session [0xc3, 0xa9] [0xc3, 0xa8]) fun _ _ _ _ => rfl).mpr (by decide)

/-- One character in two pieces is recorded as two other ones. -/
theorem cut_character_lost : Utf8.Valid [0xc3, 0xa9] ∧
      playback Json.hex (encode Json.hex (fun _ => "XX") (fun _ _ => none)
        ((session [0xc3] [0xa9]).map Subtype.val)).file =
          some [0xef, 0xbf, 0xbd, 0xef, 0xbf, 0xbd] := by
  refine ⟨by decide, ?_⟩
  rw [(file_of_writesSucceed _ fun _ _ _ _ => rfl).1,
    playback_of_lines (splitOn_fileOf _ _), frames_data]
  decide

end Encoder

end ContainerSSH.Asciinema
