/-
The proxies through which the input and output of a channel pass.
-/
import ContainerSSH.AuditLogger

namespace ContainerSSH.AuditLog

structure ReadResult where
  data : List UInt8
  err : Option String := none

structure WriteResult where
  n : Nat
  err : Option String := none

inductive Proxy where
  | backend
  | intercepting (stream : Stream)

def Proxy.of (intercepted : Bool) (stream : Stream) : Proxy :=
  if !intercepted then .backend else .intercepting stream

namespace LoggerConnection

variable (l : LoggerConnection)

def io (channelID : Option UInt64) (timestamp : Int) (stream : Stream)
    (data : List UInt8) : LoggerConnection :=
  l.log timestamp ⟨.io, some (.io stream data), channelID⟩

def getStdinProxy : Proxy := .of l.intercept.stdin .stdin

def getStdoutProxy : Proxy := .of l.intercept.stdout .stdout

def getStderrProxy : Proxy := .of l.intercept.stdout .stderr

end LoggerConnection

namespace Proxy

variable (l : LoggerConnection) (channelID : Option UInt64) (timestamp : Int)

def read (result : ReadResult) : Proxy → LoggerConnection × ReadResult
  | backend => (l, result)
  | intercepting stream =>
    (if 0 < result.data.length then
        l.io channelID timestamp stream result.data
      else l, result)

def write (data : List UInt8) (result : WriteResult) :
    Proxy → LoggerConnection × List UInt8 × WriteResult
  | backend => (l, data, result)
  | intercepting stream =>
    (if 0 < data.length then l.io channelID timestamp stream data else l, data, result)

variable {l channelID timestamp}

theorem logger_read_of (intercepted : Bool) (stream : Stream) (result : ReadResult) :
    ((Proxy.of intercepted stream).read l channelID timestamp result).1 =
      (ioEntry intercepted channelID stream result.data).elim l (l.log timestamp) := by
  cases intercepted with
  | false => rfl
  | true =>
    obtain ⟨data, err⟩ := result
    cases data <;> rfl

theorem logger_write_of (intercepted : Bool) (stream : Stream)
    (data : List UInt8) (result : WriteResult) :
    ((Proxy.of intercepted stream).write l channelID timestamp data result).1 =
      (ioEntry intercepted channelID stream data).elim l (l.log timestamp) := by
  cases intercepted with
  | false => rfl
  | true => cases data <;> rfl

theorem result_read (proxy : Proxy) (result : ReadResult) :
    (proxy.read l channelID timestamp result).2 = result := by
  cases proxy <;> rfl

theorem result_write (proxy : Proxy) (data : List UInt8) (result : WriteResult) :
    (proxy.write l channelID timestamp data result).2 = (data, result) := by
  cases proxy <;> rfl

end Proxy

inductive Transfer where
  | stdin (result : ReadResult)
  | stdout (data : List UInt8) (result : WriteResult)
  | stderr (data : List UInt8) (result : WriteResult)

namespace Transfer

def stream : Transfer → Stream
  | stdin _ => .stdin
  | stdout .. => .stdout
  | stderr .. => .stderr

def data : Transfer → List UInt8
  | stdin result => result.data
  | stdout data _ => data
  | stderr data _ => data

def read? : Transfer → Option ReadResult
  | stdin result => some result
  | _ => none

def written? : Transfer → Option (Stream × List UInt8)
  | stdin _ => none
  | stdout data _ => some (.stdout, data)
  | stderr data _ => some (.stderr, data)

def answer? : Transfer → Option WriteResult
  | stdin _ => none
  | stdout _ result => some result
  | stderr _ result => some result

def event (channelID : Option UInt64) : Transfer → Event
  | stdin result => .stdinRead channelID result.data
  | stdout data _ => .stdoutWrite channelID data
  | stderr data _ => .stderrWrite channelID data

end Transfer

structure ChannelStreams where
  logger : LoggerConnection
  read : List ReadResult := []
  written : List (Stream × List UInt8) := []
  answers : List WriteResult := []

namespace ChannelStreams

variable (channelID : Option UInt64) (s : ChannelStreams)

def write (timestamp : Int) (proxy : Proxy) (stream : Stream)
    (data : List UInt8) (result : WriteResult) : ChannelStreams :=
  let (logger, data, result) := proxy.write s.logger channelID timestamp data result
  { s with
    logger := logger
    written := s.written ++ [(stream, data)]
    answers := s.answers ++ [result] }

def transfer (timestamp : Int) : Transfer → ChannelStreams
  | .stdin result =>
    let (logger, result) := s.logger.getStdinProxy.read s.logger channelID timestamp result
    { s with logger := logger, read := s.read ++ [result] }
  | .stdout data result => s.write channelID timestamp s.logger.getStdoutProxy .stdout data result
  | .stderr data result => s.write channelID timestamp s.logger.getStderrProxy .stderr data result

def run (transfers : List (Int × Transfer)) : ChannelStreams :=
  transfers.foldl (fun s x => s.transfer channelID x.1 x.2) s

variable {channelID s}

theorem run_cons (x : Int × Transfer) (rest : List (Int × Transfer)) : s.run channelID (x :: rest) =
      (s.transfer channelID x.1 x.2).run channelID rest := rfl

theorem handle_transfer (timestamp : Int) (x : Transfer) :
    s.logger.handle timestamp (x.event channelID) =
      some (s.transfer channelID timestamp x).logger := by
  cases x with
  | stdin result =>
    refine (LoggerConnection.handle_of_ne_disconnect _ _ (by rintro ⟨⟩)).trans ?_
    exact congrArg some (Proxy.logger_read_of _ _ _).symm
  | stdout data result | stderr data result =>
    refine (LoggerConnection.handle_of_ne_disconnect _ _ (by rintro ⟨⟩)).trans ?_
    exact congrArg some (Proxy.logger_write_of _ _ _ _).symm

theorem passed_run (xs : List (Int × Transfer)) :
    (s.run channelID xs).read = s.read ++ xs.filterMap (·.2.read?) ∧
    (s.run channelID xs).written = s.written ++ xs.filterMap (·.2.written?) ∧
    (s.run channelID xs).answers = s.answers ++ xs.filterMap (·.2.answer?) := by
  induction xs generalizing s with
  | nil => simp [run]
  | cons x rest ih =>
    obtain ⟨timestamp, x⟩ := x
    obtain ⟨hread, hwritten, hanswers⟩ := @ih (s.transfer channelID timestamp x)
    rw [run_cons, hread, hwritten, hanswers]
    cases x with
    | stdin result =>
      simp [transfer, Transfer.read?, Transfer.written?, Transfer.answer?, Proxy.result_read]
    | stdout data result | stderr data result =>
      simp [transfer, write, Transfer.read?, Transfer.written?,
        Transfer.answer?, Proxy.result_write]

def recorded (l : LoggerConnection) (channelID : Option UInt64)
    (x : Int × Transfer) : Option Message :=
  ((x.2.event channelID).entry l.intercept).map fun entry =>
    ⟨l.connectionID, x.1, entry.messageType, entry.payload, entry.channelID⟩

theorem sent_run (hopen : s.logger.closed = false) (xs : List (Int × Transfer)) :
    (s.run channelID xs).logger.sent =
      s.logger.sent ++ xs.filterMap (recorded s.logger channelID) := by
  induction xs generalizing s with
  | nil => simp [run]
  | cons x rest ih =>
    obtain ⟨next, hnext, hintercept, hid, hclosed, hsent⟩ :=
      LoggerConnection.handle_of_open hopen x.1 (x.2.event channelID)
    rw [handle_transfer, Option.some.injEq] at hnext
    have hnotDisconnect : x.2.event channelID ≠ .onDisconnect := by cases x.2 <;> rintro ⟨⟩
    have hsame : recorded next channelID = recorded s.logger channelID := by
      funext y
      rw [recorded, recorded, hintercept, hid]
    rw [run_cons, @ih (s.transfer channelID x.1 x.2) (by
      rw [hnext, hclosed, decide_eq_false hnotDisconnect]), hnext, hsame,
      hsent, List.append_assoc]
    congr 1
    change (recorded s.logger channelID x).toList ++ _ = _
    cases hx : recorded s.logger channelID x with
    | none => rw [List.filterMap_cons_none hx]; rfl
    | some => rw [List.filterMap_cons_some hx]; rfl

end ChannelStreams

namespace InterceptConfig

variable (intercept : InterceptConfig)

def flag : Stream → Bool
  | .stdin => intercept.stdin
  | .stdout => intercept.stdout
  | .stderr => intercept.stderr

def consulted : Stream → Bool
  | .stdin => intercept.stdin
  | .stdout => intercept.stdout
  | .stderr => intercept.stdout

variable {intercept}

theorem flag_of_consulted (hstderr : intercept.stdout = true → intercept.stderr = true)
    {stream : Stream} (hconsulted : intercept.consulted stream = true) :
    intercept.flag stream = true := by
  cases stream with
  | stdin | stdout => exact hconsulted
  | stderr => exact hstderr hconsulted

end InterceptConfig

def Message.chunk? (stream : Stream) (m : Message) : Option (List UInt8) :=
  match m.payload with
  | some (.io s data) => if s = stream then some data else none
  | _ => none

def recordedChunks (stream : Stream) (messages : List Message) : List (List UInt8) :=
  messages.filterMap (Message.chunk? stream)

def Transfer.chunk? (stream : Stream) (x : Transfer) : Option (List UInt8) :=
  if x.stream = stream ∧ x.data ≠ [] then some x.data else none

def transferredChunks (stream : Stream) (xs : List (Int × Transfer)) : List (List UInt8) :=
  xs.filterMap fun x => x.2.chunk? stream

namespace ChannelStreams

variable {channelID : Option UInt64}

theorem entry_event (intercept : InterceptConfig) (x : Transfer) :
    (x.event channelID).entry intercept =
      ioEntry (intercept.consulted x.stream) channelID x.stream x.data := by
  cases x <;> rfl

theorem recorded_eq (l : LoggerConnection) (x : Int × Transfer) : recorded l channelID x =
      if l.intercept.consulted x.2.stream = true ∧ x.2.data ≠ [] then
        some ⟨l.connectionID, x.1, .io, some (.io x.2.stream x.2.data), channelID⟩
      else none := by
  rw [recorded, entry_event, ioEntry]
  simp only [Bool.and_eq_true, Bool.not_eq_true', List.isEmpty_eq_false_iff]
  split <;> rfl

theorem chunk?_recorded (l : LoggerConnection) (stream : Stream) (x : Int × Transfer) :
    (recorded l channelID x).bind (Message.chunk? stream) =
      if l.intercept.consulted stream then x.2.chunk? stream else none := by
  rw [recorded_eq, Transfer.chunk?]
  by_cases hstream : x.2.stream = stream
  · subst hstream
    by_cases hdata : x.2.data = [] <;>
      cases l.intercept.consulted x.2.stream <;>
      simp [hdata, Message.chunk?]
  · have hnone : (if x.2.stream = stream ∧ x.2.data ≠ [] then some x.2.data
        else none) = none := if_neg fun h => hstream h.1
    rw [hnone, ite_self]
    split
    · simp [Message.chunk?, hstream]
    · rfl

theorem recordedChunks_run {s : ChannelStreams} (hopen : s.logger.closed = false) (stream : Stream)
    (xs : List (Int × Transfer)) : recordedChunks stream (s.run channelID xs).logger.sent =
      recordedChunks stream s.logger.sent ++ if s.logger.intercept.consulted stream then
          transferredChunks stream xs
        else [] := by
  have hchunks : recordedChunks stream (xs.filterMap (recorded s.logger channelID)) =
        if s.logger.intercept.consulted stream then
          transferredChunks stream xs
        else [] := by
    rw [recordedChunks, List.filterMap_filterMap]
    simp only [chunk?_recorded]
    split
    · rfl
    · exact List.filterMap_none xs
  rw [sent_run hopen, recordedChunks, List.filterMap_append]
  exact congrArg _ hchunks

theorem consulted_eq_flag_iff (intercept : InterceptConfig) (xs : List (Int × Transfer)) :
    (∀ stream, (if intercept.consulted stream then transferredChunks stream xs else []) =
        if intercept.flag stream then transferredChunks stream xs else []) ↔
      intercept.stdout = intercept.stderr ∨ transferredChunks .stderr xs = [] := by
  constructor
  · intro h
    have hstderr := h .stderr
    simp only [InterceptConfig.consulted, InterceptConfig.flag] at hstderr
    cases hout : intercept.stdout <;> cases herr : intercept.stderr <;>
      simp_all
  · intro h stream
    cases stream with
    | stdin | stdout => rfl
    | stderr =>
      rcases h with hsame | hnone
      · have hflag : intercept.consulted .stderr = intercept.flag .stderr := hsame
        rw [hflag]
      · rw [hnone, ite_self, ite_self]

def SameUpTo (intercept : InterceptConfig) (x y : Int × Transfer) : Prop :=
  x.1 = y.1 ∧ x.2.stream = y.2.stream ∧ (intercept.flag x.2.stream = true → x.2 = y.2)

theorem recorded_eq_of_sameUpTo {l : LoggerConnection}
    (hflag : l.intercept.stdout = true → l.intercept.stderr = true)
    {x y : Int × Transfer} (hxy : SameUpTo l.intercept x y) :
    recorded l channelID x = recorded l channelID y := by
  obtain ⟨htime, hstream, hsame⟩ := hxy
  by_cases hconsulted : l.intercept.consulted x.2.stream = true
  · rw [Prod.ext htime (hsame (l.intercept.flag_of_consulted hflag hconsulted))]
  · rw [recorded_eq, recorded_eq, ← hstream, if_neg fun h => hconsulted h.1,
      if_neg fun h => hconsulted h.1]

theorem sent_run_of_sameUpTo {s : ChannelStreams} (hopen : s.logger.closed = false)
    (hflag : s.logger.intercept.stdout = true → s.logger.intercept.stderr = true)
    {xs ys : List (Int × Transfer)} (hxy : List.Forall₂ (SameUpTo s.logger.intercept) xs ys) :
    (s.run channelID xs).logger.sent = (s.run channelID ys).logger.sent := by
  have hrecorded : xs.filterMap (recorded s.logger channelID) =
      ys.filterMap (recorded s.logger channelID) := by
    induction hxy with
    | nil => rfl
    | cons hhead _ ih =>
      rw [List.filterMap_cons, List.filterMap_cons, ih, recorded_eq_of_sameUpTo hflag hhead]
  rw [sent_run hopen, sent_run hopen, hrecorded]

theorem stderr_of_sent_eq {s : ChannelStreams} (hopen : s.logger.closed = false)
    (hsent : ∀ xs ys, List.Forall₂ (SameUpTo s.logger.intercept) xs ys →
      (s.run channelID xs).logger.sent = (s.run channelID ys).logger.sent)
    (hout : s.logger.intercept.stdout = true) : s.logger.intercept.stderr = true := by
  by_contra herr
  have hsame := hsent [(0, .stderr [0] ⟨1, none⟩)] [(0, .stderr [] ⟨0, none⟩)]
    (.cons ⟨rfl, rfl, fun hflag => absurd hflag herr⟩ .nil)
  have hchunks := congrArg (recordedChunks .stderr) hsame
  rw [recordedChunks_run hopen, recordedChunks_run hopen] at hchunks
  simp [InterceptConfig.consulted, hout, transferredChunks, Transfer.chunk?,
    Transfer.stream, Transfer.data] at hchunks

def opened (intercept : InterceptConfig) (connectionID : String)
    (timestamp : Int) (remoteAddr country : String) : ChannelStreams where
  logger := .onConnect intercept connectionID timestamp remoteAddr country

/-- The proxies change nothing of what passes.  The chunks recorded for the
streams are those of the streams that should be recorded exactly if nothing is
written to the standard error or its setting is that of the standard output.
What is recorded does not depend on the streams that should not be recorded
exactly if the standard error is to be recorded where the standard output is. -/
theorem interception (intercept : InterceptConfig) (connectionID : String)
    (timestamp : Int) (remoteAddr country : String) (channelID : Option UInt64) :
    let run := (opened intercept connectionID timestamp remoteAddr country).run channelID
    (∀ xs, (run xs).read = xs.filterMap (·.2.read?) ∧
      (run xs).written = xs.filterMap (·.2.written?) ∧
      (run xs).answers = xs.filterMap (·.2.answer?)) ∧
    (∀ xs, (∀ stream, recordedChunks stream (run xs).logger.sent =
        if intercept.flag stream then transferredChunks stream xs else []) ↔
      intercept.stdout = intercept.stderr ∨ transferredChunks .stderr xs = []) ∧
    ((∀ xs ys, List.Forall₂ (SameUpTo intercept) xs ys →
        (run xs).logger.sent = (run ys).logger.sent) ↔
      (intercept.stdout = true → intercept.stderr = true)) := by
  intro run
  have hchunks : ∀ xs stream, recordedChunks stream (run xs).logger.sent =
      if intercept.consulted stream then transferredChunks stream xs
      else [] := fun xs stream => recordedChunks_run rfl stream xs
  refine ⟨fun xs => passed_run xs, fun xs => ?_, ?_⟩
  · simp only [hchunks]
    exact consulted_eq_flag_iff intercept xs
  · constructor
    · exact @stderr_of_sent_eq channelID
        (opened intercept connectionID timestamp remoteAddr country) rfl
    · intro hflag xs ys hxy
      exact sent_run_of_sameUpTo rfl hflag hxy

/-- With the output recorded and the standard error not, the latter is, and the
other way round it is not. -/
theorem stderr_recorded_with_stdout : recordedChunks .stderr
        ((opened { stdout := true } "0a" 1 "192.0.2.1" "XX").run (some 0)
          [(2, .stderr [115] ⟨1, none⟩)]).logger.sent = [[115]] ∧ recordedChunks .stderr
        ((opened { stderr := true } "0a" 1 "192.0.2.1" "XX").run (some 0)
          [(2, .stderr [115] ⟨1, none⟩)]).logger.sent = [] := by
  decide

end ChannelStreams

end ContainerSSH.AuditLog
