/-
How the SSH server handles one request.
-/
import ContainerSSH.SecurityHandler
import ContainerSSH.SshWire
import Mathlib.Data.List.Nodup

namespace ContainerSSH.SSHServer

open SshWire

inductive HandlerCall where
  | session (channelID : UInt64) (request : SessionRequest)
  | connection (request : ConnectionRequest)
  | unsupportedChannel (channelID : UInt64) (channelType : String) (extraData : List UInt8)
  | unsupportedChannelRequest (channelID requestID : UInt64)
      (requestType : String) (payload : List UInt8)
  | failedDecodeChannelRequest (channelID requestID : UInt64)
      (requestType : String) (payload : List UInt8) (reason : GoError)
  | unsupportedGlobalRequest (requestID : UInt64) (requestType : String) (payload : List UInt8)
  | failedDecodeGlobalRequest (requestID : UInt64) (requestType : String)
      (payload : List UInt8) (reason : GoError)

structure ServerConn where
  connectionID : String

structure ReverseForwardHandler where
  sshConn : Option ServerConn := none
  server : Bool := false

structure Invocation where
  call : HandlerCall
  reverseHandler : Option ReverseForwardHandler := none

def goString (bytes : List UInt8) : String := String.ofList (bytes.map fun b => Char.ofNat b.toNat)

def envRequestPayload : Struct := ⟨"EnvRequestPayload", [⟨"Name", .string⟩, ⟨"Value", .string⟩]⟩

def execRequestPayload : Struct := ⟨"ExecRequestPayload", [⟨"Exec", .string⟩]⟩

def ptyRequestPayload : Struct :=
  ⟨"PtyRequestPayload", [⟨"Term", .string⟩, ⟨"Columns", .uint32⟩,
    ⟨"Rows", .uint32⟩, ⟨"Width", .uint32⟩, ⟨"Height", .uint32⟩, ⟨"ModeList", .bytes⟩]⟩

def shellRequestPayload : Struct := ⟨"ShellRequestPayload", []⟩

def signalRequestPayload : Struct := ⟨"SignalRequestPayload", [⟨"Signal", .string⟩]⟩

def subsystemRequestPayload : Struct := ⟨"SubsystemRequestPayload", [⟨"Subsystem", .string⟩]⟩

def windowRequestPayload : Struct :=
  ⟨"WindowRequestPayload", [⟨"Columns", .uint32⟩, ⟨"Rows", .uint32⟩,
    ⟨"Width", .uint32⟩, ⟨"Height", .uint32⟩]⟩

def x11RequestPayload : Struct :=
  ⟨"X11RequestPayload", [⟨"SingleConnection", .bool⟩, ⟨"Protocol", .string⟩,
    ⟨"Cookie", .string⟩, ⟨"Screen", .uint32⟩]⟩

def forwardTCPIPRequestPayload : Struct :=
  ⟨"ForwardTCPIPRequestPayload", [⟨"Address", .string⟩, ⟨"Port", .uint32⟩]⟩

def streamLocalForwardRequestPayload : Struct :=
  ⟨"StreamLocalForwardRequestPayload", [⟨"SocketPath", .string⟩]⟩

structure Dynamic where
  struct : Struct
  value : Record struct.fields

def Dynamic.assert (d : Dynamic) (struct : Struct) : Option (Record struct.fields) :=
  if h : d.struct = struct then some (h ▸ d.value) else none

@[simp]
theorem Dynamic.assert_self (struct : Struct) (r : Record struct.fields) :
    Dynamic.assert ⟨struct, r⟩ struct = some r := by
  simp [Dynamic.assert]

structure Request where
  requestType : String
  wantReply : Bool
  payload : List UInt8
deriving DecidableEq

def requestTypeEnv : String := "env"
def requestTypePty : String := "pty-req"
def requestTypeShell : String := "shell"
def requestTypeExec : String := "exec"
def requestTypeSubsystem : String := "subsystem"
def requestTypeWindow : String := "window-change"
def requestTypeSignal : String := "signal"
def requestTypeX11 : String := "x11-req"
def requestTypeReverseForward : String := "tcpip-forward"
def requestTypeCancelReverseForward : String := "cancel-tcpip-forward"
def requestTypeStreamLocalForward : String := "streamlocal-forward@openssh.com"
def requestTypeCancelStreamLocalForward : String := "cancel-streamlocal-forward@openssh.com"

def unmarshalAs (struct : Struct) (request : Request) : Except String Dynamic :=
  (unmarshal struct request.payload).map fun r => ⟨struct, r⟩

def unmarshalEnv : Request → Except String Dynamic := unmarshalAs envRequestPayload

def unmarshalPty : Request → Except String Dynamic := unmarshalAs ptyRequestPayload

def unmarshalShell (request : Request) : Except String Dynamic :=
  if request.payload.isEmpty then .ok ⟨shellRequestPayload, ()⟩
  else unmarshalAs shellRequestPayload request

def unmarshalExec : Request → Except String Dynamic := unmarshalAs execRequestPayload

def unmarshalSubsystem : Request → Except String Dynamic := unmarshalAs subsystemRequestPayload

def unmarshalWindow : Request → Except String Dynamic := unmarshalAs windowRequestPayload

def unmarshalSignal : Request → Except String Dynamic := unmarshalAs signalRequestPayload

def unmarshalTCPIPForward : Request → Except String Dynamic :=
  unmarshalAs forwardTCPIPRequestPayload

def unmarshalStreamLocalForward : Request → Except String Dynamic :=
  unmarshalAs streamLocalForwardRequestPayload

def unmarshalX11 : Request → Except String Dynamic := unmarshalAs x11RequestPayload

def unmarshalChannelRequestPayload (request : Request) : Option (Except String Dynamic) :=
  let type := request.requestType
  if type = requestTypeEnv then some (unmarshalEnv request)
  else if type = requestTypePty then some (unmarshalPty request)
  else if type = requestTypeShell then some (unmarshalShell request)
  else if type = requestTypeExec then some (unmarshalExec request)
  else if type = requestTypeSubsystem then some (unmarshalSubsystem request)
  else if type = requestTypeWindow then some (unmarshalWindow request)
  else if type = requestTypeSignal then some (unmarshalSignal request)
  else if type = requestTypeX11 then some (unmarshalX11 request)
  else none

def unmarshalGlobalRequestPayload (request : Request) : Option (Except String Dynamic) :=
  let type := request.requestType
  if type = requestTypeReverseForward then some (unmarshalTCPIPForward request)
  else if type = requestTypeCancelReverseForward then some (unmarshalTCPIPForward request)
  else if type = requestTypeStreamLocalForward then some (unmarshalStreamLocalForward request)
  else if type = requestTypeCancelStreamLocalForward then some (unmarshalStreamLocalForward request)
  else none

inductive Decision where
  | calls (invocation : Invocation)
  | fails (err : GoError)
  | nothing

abbrev ConnMap := String → Option ServerConn

def withConnection (connMap : ConnMap) (connectionID : String)
    (decision : ServerConn → Decision) : Decision :=
  match connMap connectionID with
  | none => .fails (.plain "Couldn't find connection in map, something terrible happened")
  | some conn => decision conn

def onEnvRequest (channelID requestID : UInt64) (payload : Dynamic) :
    Option Decision :=
  (payload.assert envRequestPayload).map fun p =>
    .calls ⟨.session channelID (.env requestID (goString p.1) (goString p.2.1)), none⟩

def onPtyRequest (channelID requestID : UInt64) (payload : Dynamic) :
    Option Decision :=
  (payload.assert ptyRequestPayload).map fun p =>
    .calls ⟨.session channelID (.pty requestID (goString p.1) p.2.1 p.2.2.1 p.2.2.2.1 p.2.2.2.2.1
        p.2.2.2.2.2.1), none⟩

def onShell (channelID requestID : UInt64) : Option Decision :=
  some (.calls ⟨.session channelID (.shell requestID), none⟩)

def onExec (channelID requestID : UInt64) (payload : Dynamic) :
    Option Decision :=
  (payload.assert execRequestPayload).map fun p =>
    .calls ⟨.session channelID (.exec requestID (goString p.1)), none⟩

def onSignal (channelID requestID : UInt64) (payload : Dynamic) :
    Option Decision :=
  (payload.assert signalRequestPayload).map fun p =>
    .calls ⟨.session channelID (.signal requestID (goString p.1)), none⟩

def onSubsystem (channelID requestID : UInt64) (payload : Dynamic) :
    Option Decision :=
  (payload.assert subsystemRequestPayload).map fun p =>
    .calls ⟨.session channelID (.subsystem requestID (goString p.1)), none⟩

def onChannel (channelID requestID : UInt64) (payload : Dynamic) :
    Option Decision :=
  (payload.assert windowRequestPayload).map fun p =>
    .calls ⟨.session channelID (.window requestID p.1 p.2.1 p.2.2.1 p.2.2.2.1), none⟩

def onX11 (connMap : ConnMap) (connectionID : String)
    (channelID requestID : UInt64) (payload : Dynamic) : Option Decision :=
  (payload.assert x11RequestPayload).map fun p =>
    withConnection connMap connectionID fun conn =>
      .calls ⟨.session channelID (.x11 requestID p.1 (goString p.2.1) (goString p.2.2.1) p.2.2.2.1),
        some { sshConn := some conn }⟩

def onForwardTCPIP (connMap : ConnMap) (connectionID : String)
    (payload : Dynamic) : Option Decision :=
  (payload.assert forwardTCPIPRequestPayload).map fun p =>
    withConnection connMap connectionID fun conn =>
      .calls ⟨.connection (.tcpReverseForward (goString p.1) p.2.1),
        some { sshConn := some conn, server := true }⟩

def onForwardStreamLocal (connMap : ConnMap) (connectionID : String)
    (payload : Dynamic) : Option Decision :=
  (payload.assert streamLocalForwardRequestPayload).map fun p =>
    withConnection connMap connectionID fun conn =>
      .calls ⟨.connection (.streamLocal (goString p.1)),
        some { sshConn := some conn, server := true }⟩

def onCancelForward (payload : Dynamic) : Option Decision :=
  (payload.assert forwardTCPIPRequestPayload).map fun p =>
    .calls ⟨.connection (.cancelTCPReverseForward (goString p.1) p.2.1), none⟩

def onCancelForwardStreamLocal (payload : Dynamic) : Option Decision :=
  (payload.assert streamLocalForwardRequestPayload).map fun p =>
    .calls ⟨.connection (.cancelStreamLocal (goString p.1)), none⟩

def handleDecodedChannelRequest (connMap : ConnMap) (connectionID : String)
    (channelID requestID : UInt64) (type : String) (payload : Dynamic) :
    Option Decision :=
  if type = requestTypeEnv then onEnvRequest channelID requestID payload
  else if type = requestTypePty then onPtyRequest channelID requestID payload
  else if type = requestTypeShell then onShell channelID requestID
  else if type = requestTypeExec then onExec channelID requestID payload
  else if type = requestTypeSubsystem then onSubsystem channelID requestID payload
  else if type = requestTypeWindow then onChannel channelID requestID payload
  else if type = requestTypeSignal then onSignal channelID requestID payload
  else if type = requestTypeX11 then onX11 connMap connectionID channelID requestID payload
  else some .nothing

def handleDecodedGlobalRequest (connMap : ConnMap) (connectionID : String)
    (type : String) (payload : Dynamic) : Option Decision :=
  if type = requestTypeReverseForward then onForwardTCPIP connMap connectionID payload
  else if type = requestTypeCancelReverseForward then onCancelForward payload
  else if type = requestTypeStreamLocalForward then
    onForwardStreamLocal connMap connectionID payload
  else if type = requestTypeCancelStreamLocalForward then onCancelForwardStreamLocal payload
  else some .nothing

structure Reply where
  success : Bool
  message : String

structure Handled where
  calls : List Invocation
  replies : List Reply

def createReply (request : Request) (success : Bool) (message : String) :
    List Reply :=
  if request.wantReply then [⟨success, message⟩] else []

def replyTo (request : Request) (answer : Option GoError) (decision : Decision) :
    Handled :=
  let replied (calls : List Invocation) (err : Option GoError) : Handled :=
    match err with
    | some err => ⟨calls, createReply request false err.error⟩
    | none => ⟨calls, createReply request true ""⟩
  match decision with
  | .calls invocation => replied [invocation] answer
  | .fails err => replied [] (some err)
  | .nothing => replied [] none

def handleRequest (unmarshalled : Option (Except String Dynamic))
    (onUnsupported : HandlerCall) (unsupportedText : String)
    (onFailedDecode : GoError → HandlerCall)
    (handleDecoded : Dynamic → Option Decision) (request : Request)
    (answer : Option GoError) : Option Handled :=
  match unmarshalled with
  | none =>
    some ⟨[⟨onUnsupported, none⟩],
      createReply request false (unsupportedText ++ request.requestType)⟩
  | some (.error reason) =>
    some ⟨[⟨onFailedDecode (.plain reason), none⟩],
      createReply request false "failed to unmarshal payload"⟩
  | some (.ok payload) => (handleDecoded payload).map (replyTo request answer)

def handleChannelRequest (connMap : ConnMap) (connectionID : String)
    (channelID requestID : UInt64) (request : Request)
    (answer : Option GoError) : Option Handled :=
  handleRequest (unmarshalChannelRequestPayload request)
    (.unsupportedChannelRequest channelID requestID request.requestType request.payload)
    "unsupported request type: "
    (.failedDecodeChannelRequest channelID requestID request.requestType request.payload)
    (handleDecodedChannelRequest connMap connectionID channelID requestID request.requestType)
    request answer

def handleGlobalRequest (connMap : ConnMap) (connectionID : String)
    (requestID : UInt64) (request : Request) (answer : Option GoError) :
    Option Handled :=
  handleRequest (unmarshalGlobalRequestPayload request)
    (.unsupportedGlobalRequest requestID request.requestType request.payload)
    "unsupported global request type: "
    (.failedDecodeGlobalRequest requestID request.requestType request.payload)
    (handleDecodedGlobalRequest connMap connectionID request.requestType) request answer

def handleKeepAliveRequest (request : Request) : Handled := ⟨[], createReply request false ""⟩

def keepAlive : String := "keepalive@openssh.com"

def serveGlobalRequest (connMap : ConnMap) (connectionID : String)
    (requestID : UInt64) (request : Request) (answer : Option GoError) :
    Option Handled :=
  if request.requestType = keepAlive then some (handleKeepAliveRequest request)
  else handleGlobalRequest connMap connectionID requestID request answer

structure Kind where
  name : String
  struct : Struct
  call : Record struct.fields → HandlerCall

namespace Kind

variable (k : Kind)

def Decodes (payload : List UInt8) (r : Record k.struct.fields) : Prop :=
  Word k.struct.fields r payload

def Reads (payload : List UInt8) (result : Except String Dynamic) : Prop :=
  (∃ r, k.Decodes payload r ∧ result = .ok ⟨k.struct, r⟩) ∨
    (∀ r, ¬ k.Decodes payload r) ∧ ∃ reason, result = .error reason

end Kind

def sessionKinds (channelID requestID : UInt64) : List Kind :=
  [⟨"env", envRequestPayload, fun p =>
      .session channelID (.env requestID (goString p.1) (goString p.2.1))⟩,
    ⟨"pty-req", ptyRequestPayload, fun p =>
      .session channelID (.pty requestID (goString p.1) p.2.1 p.2.2.1
        p.2.2.2.1 p.2.2.2.2.1 p.2.2.2.2.2.1)⟩,
    ⟨"shell", shellRequestPayload, fun _ => .session channelID (.shell requestID)⟩,
    ⟨"exec", execRequestPayload, fun p => .session channelID (.exec requestID (goString p.1))⟩,
    ⟨"subsystem", subsystemRequestPayload, fun p =>
      .session channelID (.subsystem requestID (goString p.1))⟩,
    ⟨"window-change", windowRequestPayload, fun p =>
      .session channelID (.window requestID p.1 p.2.1 p.2.2.1 p.2.2.2.1)⟩,
    ⟨"signal", signalRequestPayload, fun p =>
      .session channelID (.signal requestID (goString p.1))⟩,
    ⟨"x11-req", x11RequestPayload, fun p =>
      .session channelID (.x11 requestID p.1 (goString p.2.1) (goString p.2.2.1) p.2.2.2.1)⟩]

def globalKinds : List Kind :=
  [⟨"tcpip-forward", forwardTCPIPRequestPayload, fun p =>
      .connection (.tcpReverseForward (goString p.1) p.2.1)⟩,
    ⟨"cancel-tcpip-forward", forwardTCPIPRequestPayload, fun p =>
      .connection (.cancelTCPReverseForward (goString p.1) p.2.1)⟩,
    ⟨"streamlocal-forward@openssh.com", streamLocalForwardRequestPayload,
      fun p => .connection (.streamLocal (goString p.1))⟩,
    ⟨"cancel-streamlocal-forward@openssh.com", streamLocalForwardRequestPayload,
      fun p => .connection (.cancelStreamLocal (goString p.1))⟩]

theorem nodup_sessionKinds (channelID requestID : UInt64) :
    ((sessionKinds channelID requestID).map Kind.name).Nodup := by
  simp [sessionKinds]

theorem nodup_globalKinds : (globalKinds.map Kind.name).Nodup := by
  simp [globalKinds]

inductive Dispatches (kinds : List Kind) (onUnsupported : HandlerCall)
    (onFailedDecode : GoError → HandlerCall) (request : Request) :
    HandlerCall → Prop
  | unsupported (hnone : ∀ k ∈ kinds, request.requestType ≠ k.name) :
      Dispatches kinds onUnsupported onFailedDecode request onUnsupported
  | undecodable (k : Kind) (hk : k ∈ kinds) (hname : request.requestType = k.name)
      (hnone : ∀ r, ¬ k.Decodes request.payload r) (reason : GoError) :
      Dispatches kinds onUnsupported onFailedDecode request (onFailedDecode reason)
  | decoded (k : Kind) (hk : k ∈ kinds) (hname : request.requestType = k.name)
      (r : Record k.struct.fields) (hr : k.Decodes request.payload r) :
      Dispatches kinds onUnsupported onFailedDecode request (k.call r)

def Accepted (kinds : List Kind) (request : Request) (answer : Option GoError) :
    Prop :=
  (∃ k ∈ kinds, request.requestType = k.name ∧ ∃ r, k.Decodes request.payload r) ∧ answer = none

structure Answers (request : Request) (accepted : Prop) (replies : List Reply) :
    Prop where
  count : replies.length = if request.wantReply then 1 else 0
  sign : ∀ reply ∈ replies, (reply.success = true ↔ accepted)

theorem answers_createReply (request : Request) {accepted : Prop}
    {success : Bool} (hsuccess : success = true ↔ accepted) (message : String) :
    Answers request accepted (createReply request success message) where
  count := by
    unfold createReply
    split <;> rfl
  sign := by
    unfold createReply
    split <;> simp [hsuccess]

structure Agrees (kinds : List Kind) (request : Request)
    (unmarshalled : Option (Except String Dynamic))
    (handleDecoded : Dynamic → Option Decision) : Prop where
  unknown : (∀ k ∈ kinds, request.requestType ≠ k.name) → unmarshalled = none
  reads : ∀ k ∈ kinds, request.requestType = k.name →
    ∃ result, unmarshalled = some result ∧ k.Reads request.payload result
  calls : ∀ k ∈ kinds, request.requestType = k.name → ∀ r,
    ∃ reverseHandler, handleDecoded ⟨k.struct, r⟩ = some (.calls ⟨k.call r, reverseHandler⟩)

theorem handleRequest_of_agrees {kinds : List Kind} {request : Request}
    {unmarshalled : Option (Except String Dynamic)} {handleDecoded : Dynamic → Option Decision}
    (hagrees : Agrees kinds request unmarshalled handleDecoded)
    (hdistinct : (kinds.map Kind.name).Nodup)
    (onUnsupported : HandlerCall) (unsupportedText : String)
    (onFailedDecode : GoError → HandlerCall) (answer : Option GoError) : ∃ handled invocation,
      handleRequest unmarshalled onUnsupported unsupportedText onFailedDecode
        handleDecoded request answer = some handled ∧ handled.calls = [invocation] ∧
      Dispatches kinds onUnsupported onFailedDecode request invocation.call ∧
      Answers request (Accepted kinds request answer) handled.replies := by
  by_cases hknown : ∃ k ∈ kinds, request.requestType = k.name
  · obtain ⟨k, hk, hname⟩ := hknown
    obtain ⟨result, rfl, hreads⟩ := hagrees.reads k hk hname
    rcases hreads with ⟨r, hr, rfl⟩ | ⟨hnone, reason, rfl⟩
    · obtain ⟨reverseHandler, hcalls⟩ := hagrees.calls k hk hname r
      have haccepted : Accepted kinds request answer ↔ answer = none :=
        and_iff_right ⟨k, hk, hname, r, hr⟩
      simp only [handleRequest, hcalls]
      cases answer with
      | none | some =>
        refine ⟨_, _, rfl, rfl, .decoded k hk hname r hr, ?_⟩
        exact answers_createReply request (by simp [haccepted]) _
    · refine ⟨_, _, rfl, rfl, .undecodable k hk hname hnone _, ?_⟩
      refine answers_createReply request (iff_of_false Bool.false_ne_true ?_) _
      rintro ⟨⟨k', hk', hname', r, hr⟩, -⟩
      obtain rfl : k' = k := List.inj_on_of_nodup_map hdistinct hk' hk (hname'.symm.trans hname)
      exact hnone r hr
  · have hnone : ∀ k ∈ kinds, request.requestType ≠ k.name :=
      fun k hk hname => hknown ⟨k, hk, hname⟩
    rw [hagrees.unknown hnone]
    refine ⟨_, _, rfl, rfl, .unsupported hnone, ?_⟩
    refine answers_createReply request (iff_of_false Bool.false_ne_true ?_) _
    rintro ⟨⟨k, hk, hname, -⟩, -⟩
    exact hnone k hk hname

theorem reads_unmarshalAs {k : Kind} (hfields : k.struct.fields ≠ []) (request : Request) :
    k.Reads request.payload (unmarshalAs k.struct request) := by
  unfold unmarshalAs
  cases hresult : unmarshal k.struct request.payload with
  | error reason =>
    refine .inr ⟨fun r hr => ?_, reason, rfl⟩
    have hok := unmarshal_eq_ok_iff.mpr ⟨ne_nil_of_word hfields hr, hr⟩
    rw [hresult] at hok
    cases hok
  | ok r => exact .inl ⟨r, (unmarshal_eq_ok_iff.mp hresult).2, rfl⟩

theorem reads_unmarshalShell {k : Kind} (hstruct : k.struct = shellRequestPayload)
    (request : Request) : k.Reads request.payload (unmarshalShell request) := by
  obtain ⟨name, struct, call⟩ := k
  obtain rfl := hstruct
  unfold unmarshalShell
  cases hpayload : request.payload with
  | nil => exact .inl ⟨(), rfl, rfl⟩
  | cons b rest =>
    refine .inr ⟨fun r hr => List.cons_ne_nil b rest hr, ?_⟩
    simp only [unmarshalAs]
    cases hresult : unmarshal shellRequestPayload request.payload with
    | error reason => exact ⟨reason, rfl⟩
    | ok =>
      have hword := (unmarshal_eq_ok_iff.mp hresult).2
      rw [hpayload] at hword
      exact absurd hword (List.cons_ne_nil b rest)

theorem agrees_session {connMap : ConnMap} {connectionID : String}
    {conn : ServerConn} (hconn : connMap connectionID = some conn)
    (channelID requestID : UInt64) (request : Request) :
    Agrees (sessionKinds channelID requestID) request (unmarshalChannelRequestPayload request)
      (handleDecodedChannelRequest connMap connectionID channelID requestID
        request.requestType) where
  unknown := by
    intro hnone
    simp only [sessionKinds, List.forall_mem_cons] at hnone
    simp [unmarshalChannelRequestPayload, requestTypeEnv, requestTypePty, requestTypeShell,
      requestTypeExec, requestTypeSubsystem, requestTypeWindow, requestTypeSignal,
      requestTypeX11, *]
  reads := by
    intro k hk hname
    simp only [sessionKinds, List.mem_cons, List.not_mem_nil, or_false] at hk
    rcases hk with rfl | rfl | rfl | rfl | rfl | rfl | rfl | rfl <;>
      simp only [unmarshalChannelRequestPayload, hname]
    case inr.inr.inl => exact ⟨_, rfl, reads_unmarshalShell rfl request⟩
    all_goals exact ⟨_, rfl, reads_unmarshalAs (List.cons_ne_nil _ _) request⟩
  calls := by
    intro k hk hname r
    simp only [sessionKinds, List.mem_cons, List.not_mem_nil, or_false] at hk
    rcases hk with rfl | rfl | rfl | rfl | rfl | rfl | rfl | rfl <;>
      simp only [handleDecodedChannelRequest, hname]
    -- only the request for X11 looks up the connection
    case inr.inr.inr.inr.inr.inr.inr =>
      simp +decide [onX11, withConnection, hconn]
    all_goals exact ⟨none, by
      simp +decide [onEnvRequest, onPtyRequest, onShell, onExec, onSubsystem, onChannel, onSignal]⟩

theorem agrees_global {connMap : ConnMap} {connectionID : String}
    {conn : ServerConn} (hconn : connMap connectionID = some conn) (request : Request) :
    Agrees globalKinds request (unmarshalGlobalRequestPayload request)
      (handleDecodedGlobalRequest connMap connectionID request.requestType) where
  unknown := by
    intro hnone
    simp only [globalKinds, List.forall_mem_cons] at hnone
    simp [unmarshalGlobalRequestPayload, requestTypeReverseForward,
      requestTypeCancelReverseForward, requestTypeStreamLocalForward,
      requestTypeCancelStreamLocalForward, *]
  reads := by
    intro k hk hname
    simp only [globalKinds, List.mem_cons, List.not_mem_nil, or_false] at hk
    rcases hk with rfl | rfl | rfl | rfl <;>
      simp only [unmarshalGlobalRequestPayload, hname] <;>
      exact ⟨_, rfl, reads_unmarshalAs (List.cons_ne_nil _ _) request⟩
  calls := by
    intro k hk hname r
    simp only [globalKinds, List.mem_cons, List.not_mem_nil, or_false] at hk
    rcases hk with rfl | rfl | rfl | rfl <;>
      simp only [handleDecodedGlobalRequest, hname]
    case inl | inr.inr.inl =>
      simp +decide [onForwardTCPIP, onForwardStreamLocal, withConnection, hconn]
    all_goals exact ⟨none, by
      simp +decide [onCancelForward, onCancelForwardStreamLocal]⟩

end ContainerSSH.SSHServer
