/-
Equality of audit messages.
-/
import ContainerSSH.AuditBinary

namespace ContainerSSH.AuditEquality

open AuditLog (PayloadType)

def listEquals {α : Type} (equals : α → α → Bool) (xs ys : List α) : Bool :=
  xs.length == ys.length && (xs.zip ys).all fun pair => equals pair.1 pair.2

theorem listEquals_iff {α : Type} {equals : α → α → Bool}
    (hequals : ∀ a b, equals a b = true ↔ a = b) (xs ys : List α) :
    listEquals equals xs ys = true ↔ xs = ys := by
  induction xs generalizing ys with
  | nil => cases ys <;> simp [listEquals]
  | cons x xs ih =>
    cases ys with
    | nil => simp [listEquals]
    | cons y ys =>
      have htail := ih ys
      simp only [listEquals, List.length_cons, List.zip_cons_cons,
        List.all_cons, Bool.and_eq_true, beq_iff_eq, List.cons.injEq,
        hequals, ← htail, Nat.add_right_cancel_iff]
      tauto

def questionEquals (q q2 : AuditLog.KeyboardInteractiveQuestion) : Bool :=
  q.question == q2.question && q.echo == q2.echo

def answerEquals (k k2 : AuditLog.KeyboardInteractiveAnswer) : Bool :=
  k.question == k2.question && k.answer == k2.answer

@[simp]
theorem questionEquals_iff (xs ys : List AuditLog.KeyboardInteractiveQuestion) :
    listEquals questionEquals xs ys = true ↔ xs = ys := by
  refine listEquals_iff (fun q q2 => ?_) xs ys
  cases q
  cases q2
  simp [questionEquals]

@[simp]
theorem answerEquals_iff (xs ys : List AuditLog.KeyboardInteractiveAnswer) :
    listEquals answerEquals xs ys = true ↔ xs = ys := by
  refine listEquals_iff (fun k k2 => ?_) xs ys
  cases k
  cases k2
  simp [answerEquals]

structure PayloadConnect where
  (remoteAddr country : String)

@[simp]
def PayloadConnect.equals (p p2 : PayloadConnect) : Bool := p.remoteAddr == p2.remoteAddr

structure PayloadAuthPassword where
  username : String
  password : List UInt8

@[simp]
def PayloadAuthPassword.equals (p p2 : PayloadAuthPassword) : Bool :=
  p.username == p2.username && p.password == p2.password

structure PayloadAuthPasswordBackendError where
  username : String
  password : List UInt8
  reason : String

@[simp]
def PayloadAuthPasswordBackendError.equals (p p2 : PayloadAuthPasswordBackendError) : Bool :=
  p.username == p2.username && p.password == p2.password && p.reason == p2.reason

structure PayloadAuthPubKey where
  (username key : String)

@[simp]
def PayloadAuthPubKey.equals (p p2 : PayloadAuthPubKey) : Bool :=
  p.username == p2.username && p.key == p2.key

structure PayloadAuthPubKeyBackendError where
  (username key reason : String)

@[simp]
def PayloadAuthPubKeyBackendError.equals (p p2 : PayloadAuthPubKeyBackendError) : Bool :=
  p.username == p2.username && p.key == p2.key && p.reason == p2.reason

structure PayloadAuthKeyboardInteractiveChallenge where
  (username instruction : String)
  questions : List AuditLog.KeyboardInteractiveQuestion

@[simp]
def PayloadAuthKeyboardInteractiveChallenge.equals
    (p p2 : PayloadAuthKeyboardInteractiveChallenge) : Bool :=
  p.username == p2.username && p.instruction == p2.instruction &&
    listEquals questionEquals p.questions p2.questions

structure PayloadAuthKeyboardInteractiveAnswer where
  username : String
  answers : List AuditLog.KeyboardInteractiveAnswer

@[simp]
def PayloadAuthKeyboardInteractiveAnswer.equals
    (p p2 : PayloadAuthKeyboardInteractiveAnswer) : Bool :=
  p.username == p2.username && listEquals answerEquals p.answers p2.answers

structure PayloadAuthKeyboardInteractiveFailed where
  username : String

@[simp]
def PayloadAuthKeyboardInteractiveFailed.equals
    (p p2 : PayloadAuthKeyboardInteractiveFailed) : Bool :=
  p.username == p2.username

structure PayloadAuthKeyboardInteractiveBackendError where
  (username reason : String)

@[simp]
def PayloadAuthKeyboardInteractiveBackendError.equals
    (p p2 : PayloadAuthKeyboardInteractiveBackendError) : Bool :=
  p.username == p2.username && p.reason == p2.reason

structure PayloadHandshakeFailed where
  reason : String

@[simp]
def PayloadHandshakeFailed.equals (p p2 : PayloadHandshakeFailed) : Bool := p.reason == p2.reason

structure PayloadHandshakeSuccessful where
  username : String

@[simp]
def PayloadHandshakeSuccessful.equals (p p2 : PayloadHandshakeSuccessful) : Bool :=
  p.username == p2.username

structure PayloadGlobalRequestUnknown where
  requestType : String

@[simp]
def PayloadGlobalRequestUnknown.equals (p p2 : PayloadGlobalRequestUnknown) : Bool :=
  p.requestType == p2.requestType

structure PayloadGlobalRequestDecodeFailed where
  requestID : UInt64
  requestType : String
  payload : List UInt8
  reason : String

@[simp]
def PayloadGlobalRequestDecodeFailed.equals (p p2 : PayloadGlobalRequestDecodeFailed) : Bool :=
  p.requestID == p2.requestID && p.requestType == p2.requestType && p.reason == p2.reason

structure PayloadRequestReverseForward where
  bindHost : String
  bindPort : UInt32

@[simp]
def PayloadRequestReverseForward.equals (p p2 : PayloadRequestReverseForward) : Bool :=
  p.bindHost == p2.bindHost && p.bindPort == p2.bindPort

structure PayloadRequestStreamLocal where
  path : String

@[simp]
def PayloadRequestStreamLocal.equals (p p2 : PayloadRequestStreamLocal) : Bool := p.path == p2.path

structure PayloadNewChannel where
  channelType : String

@[simp]
def PayloadNewChannel.equals (p p2 : PayloadNewChannel) : Bool := p.channelType == p2.channelType

structure PayloadNewChannelFailed where
  (channelType reason : String)

@[simp]
def PayloadNewChannelFailed.equals (p p2 : PayloadNewChannelFailed) : Bool :=
  p.channelType == p2.channelType && p.reason == p2.reason

structure PayloadNewChannelSuccessful where
  channelType : String

@[simp]
def PayloadNewChannelSuccessful.equals (p p2 : PayloadNewChannelSuccessful) : Bool :=
  p.channelType == p2.channelType

structure PayloadNewForwardChannel where
  hostToConnect : String
  portToConnect : UInt32
  originatorHost : String
  originatorPort : UInt32

@[simp]
def PayloadNewForwardChannel.equals (p p2 : PayloadNewForwardChannel) : Bool :=
  p.hostToConnect == p2.hostToConnect && p.portToConnect == p2.portToConnect &&
    p.originatorHost == p2.originatorHost && p.originatorPort == p2.originatorPort

structure PayloadNewReverseForwardChannel where
  connectedHost : String
  connectedPort : UInt32
  originatorHost : String
  originatorPort : UInt32

@[simp]
def PayloadNewReverseForwardChannel.equals (p p2 : PayloadNewReverseForwardChannel) : Bool :=
  p.connectedHost == p2.connectedHost && p.connectedPort == p2.connectedPort &&
    p.originatorHost == p2.originatorHost && p.originatorPort == p2.originatorPort

structure PayloadNewReverseX11ForwardChannel where
  originatorHost : String
  originatorPort : UInt32

@[simp]
def PayloadNewReverseX11ForwardChannel.equals (p p2 : PayloadNewReverseX11ForwardChannel) : Bool :=
  p.originatorHost == p2.originatorHost && p.originatorPort == p2.originatorPort

structure PayloadChannelRequestUnknownType where
  requestID : UInt64
  requestType : String
  payload : List UInt8

@[simp]
def PayloadChannelRequestUnknownType.equals (p p2 : PayloadChannelRequestUnknownType) : Bool :=
  p.requestID == p2.requestID && p.requestType == p2.requestType

structure PayloadChannelRequestDecodeFailed where
  requestID : UInt64
  requestType : String
  payload : List UInt8
  reason : String

@[simp]
def PayloadChannelRequestDecodeFailed.equals (p p2 : PayloadChannelRequestDecodeFailed) : Bool :=
  p.requestID == p2.requestID && p.requestType == p2.requestType && p.reason == p2.reason

structure PayloadChannelRequestSetEnv where
  requestID : UInt64
  (name value : String)

@[simp]
def PayloadChannelRequestSetEnv.equals (p p2 : PayloadChannelRequestSetEnv) : Bool :=
  p.requestID == p2.requestID && p.name == p2.name && p.value == p2.value

structure PayloadChannelRequestExec where
  requestID : UInt64
  program : String

@[simp]
def PayloadChannelRequestExec.equals (p p2 : PayloadChannelRequestExec) : Bool :=
  p.requestID == p2.requestID && p.program == p2.program

structure PayloadChannelRequestPty where
  requestID : UInt64
  term : String
  (columns rows width height : UInt32)
  modeList : List UInt8

@[simp]
def PayloadChannelRequestPty.equals (p p2 : PayloadChannelRequestPty) : Bool :=
  p.requestID == p2.requestID && p.term == p2.term &&
    p.columns == p2.columns && p.rows == p2.rows && p.width == p2.width &&
    p.height == p2.height && p.modeList == p2.modeList

structure PayloadChannelRequestX11 where
  requestID : UInt64
  singleConnection : Bool
  (authProtocol cookie : String)
  screen : UInt32

@[simp]
def PayloadChannelRequestX11.equals (p p2 : PayloadChannelRequestX11) : Bool :=
  p.requestID == p2.requestID && p.singleConnection == p2.singleConnection &&
    p.authProtocol == p2.authProtocol && p.cookie == p2.cookie && p.screen == p2.screen

structure PayloadChannelRequestShell where
  requestID : UInt64

@[simp]
def PayloadChannelRequestShell.equals (p p2 : PayloadChannelRequestShell) : Bool :=
  p.requestID == p2.requestID

structure PayloadChannelRequestSignal where
  requestID : UInt64
  signal : String

@[simp]
def PayloadChannelRequestSignal.equals (p p2 : PayloadChannelRequestSignal) : Bool :=
  p.requestID == p2.requestID && p.signal == p2.signal

structure PayloadChannelRequestSubsystem where
  requestID : UInt64
  subsystem : String

@[simp]
def PayloadChannelRequestSubsystem.equals (p p2 : PayloadChannelRequestSubsystem) : Bool :=
  p.requestID == p2.requestID && p.subsystem == p2.subsystem

structure PayloadChannelRequestWindow where
  requestID : UInt64
  (columns rows width height : UInt32)

@[simp]
def PayloadChannelRequestWindow.equals (p p2 : PayloadChannelRequestWindow) : Bool :=
  p.requestID == p2.requestID && p.columns == p2.columns &&
    p.rows == p2.rows && p.width == p2.width && p.height == p2.height

structure PayloadExit where
  exitStatus : UInt32

@[simp]
def PayloadExit.equals (p p2 : PayloadExit) : Bool := p.exitStatus == p2.exitStatus

structure PayloadExitSignal where
  signal : String
  coreDumped : Bool
  (errorMessage languageTag : String)

@[simp]
def PayloadExitSignal.equals (p p2 : PayloadExitSignal) : Bool :=
  p.signal == p2.signal && p.coreDumped == p2.coreDumped &&
    p.errorMessage == p2.errorMessage && p.languageTag == p2.languageTag

structure PayloadIo where
  stream : UInt64
  data : List UInt8

@[simp]
def PayloadIo.equals (p p2 : PayloadIo) : Bool := p.stream == p2.stream && p.data == p2.data

structure PayloadRequestFailed where
  requestID : UInt64
  reason : String

@[simp]
def PayloadRequestFailed.equals (p p2 : PayloadRequestFailed) : Bool :=
  p.requestID == p2.requestID && p.reason == p2.reason

structure PayloadAuthPasswordSuccessful where
  (username authenticatedUsername : String)
  password : List UInt8
  (metadata environment : String → Option MetadataValue)
  files : String → Option MetadataBinaryValue

@[simp]
def PayloadAuthPasswordSuccessful.equals (p p2 : PayloadAuthPasswordSuccessful) : Bool :=
  p.username == p2.username && p.authenticatedUsername == p2.authenticatedUsername &&
    p.password == p2.password

inductive PayloadKind where
  | logged (type : PayloadType)
  | authPasswordSuccessful
deriving DecidableEq

def PayloadKind.Struct : PayloadKind → Type
  | .logged .connect => PayloadConnect
  | .logged .authPassword => PayloadAuthPassword
  | .logged .authPasswordBackendError => PayloadAuthPasswordBackendError
  | .logged .authPubKey => PayloadAuthPubKey
  | .logged .authPubKeyBackendError => PayloadAuthPubKeyBackendError
  | .logged .authKeyboardInteractiveChallenge => PayloadAuthKeyboardInteractiveChallenge
  | .logged .authKeyboardInteractiveAnswer => PayloadAuthKeyboardInteractiveAnswer
  | .logged .authKeyboardInteractiveFailed => PayloadAuthKeyboardInteractiveFailed
  | .logged .authKeyboardInteractiveBackendError => PayloadAuthKeyboardInteractiveBackendError
  | .logged .handshakeFailed => PayloadHandshakeFailed
  | .logged .handshakeSuccessful => PayloadHandshakeSuccessful
  | .logged .globalRequestUnknown => PayloadGlobalRequestUnknown
  | .logged .globalRequestDecodeFailed => PayloadGlobalRequestDecodeFailed
  | .logged .requestReverseForward => PayloadRequestReverseForward
  | .logged .requestStreamLocal => PayloadRequestStreamLocal
  | .logged .newChannel => PayloadNewChannel
  | .logged .newChannelFailed => PayloadNewChannelFailed
  | .logged .newChannelSuccessful => PayloadNewChannelSuccessful
  | .logged .newForwardChannel => PayloadNewForwardChannel
  | .logged .newReverseForwardChannel => PayloadNewReverseForwardChannel
  | .logged .newReverseX11ForwardChannel => PayloadNewReverseX11ForwardChannel
  | .logged .channelRequestUnknownType => PayloadChannelRequestUnknownType
  | .logged .channelRequestDecodeFailed => PayloadChannelRequestDecodeFailed
  | .logged .channelRequestSetEnv => PayloadChannelRequestSetEnv
  | .logged .channelRequestExec => PayloadChannelRequestExec
  | .logged .channelRequestPty => PayloadChannelRequestPty
  | .logged .channelRequestX11 => PayloadChannelRequestX11
  | .logged .channelRequestShell => PayloadChannelRequestShell
  | .logged .channelRequestSignal => PayloadChannelRequestSignal
  | .logged .channelRequestSubsystem => PayloadChannelRequestSubsystem
  | .logged .channelRequestWindow => PayloadChannelRequestWindow
  | .logged .exit => PayloadExit
  | .logged .exitSignal => PayloadExitSignal
  | .logged .io => PayloadIo
  | .logged .requestFailed => PayloadRequestFailed
  | .authPasswordSuccessful => PayloadAuthPasswordSuccessful

def PayloadKind.equals : (k : PayloadKind) → k.Struct → k.Struct → Bool
  | .logged .connect => PayloadConnect.equals
  | .logged .authPassword => PayloadAuthPassword.equals
  | .logged .authPasswordBackendError => PayloadAuthPasswordBackendError.equals
  | .logged .authPubKey => PayloadAuthPubKey.equals
  | .logged .authPubKeyBackendError => PayloadAuthPubKeyBackendError.equals
  | .logged .authKeyboardInteractiveChallenge => PayloadAuthKeyboardInteractiveChallenge.equals
  | .logged .authKeyboardInteractiveAnswer => PayloadAuthKeyboardInteractiveAnswer.equals
  | .logged .authKeyboardInteractiveFailed => PayloadAuthKeyboardInteractiveFailed.equals
  | .logged .authKeyboardInteractiveBackendError => PayloadAuthKeyboardInteractiveBackendError.equals
  | .logged .handshakeFailed => PayloadHandshakeFailed.equals
  | .logged .handshakeSuccessful => PayloadHandshakeSuccessful.equals
  | .logged .globalRequestUnknown => PayloadGlobalRequestUnknown.equals
  | .logged .globalRequestDecodeFailed => PayloadGlobalRequestDecodeFailed.equals
  | .logged .requestReverseForward => PayloadRequestReverseForward.equals
  | .logged .requestStreamLocal => PayloadRequestStreamLocal.equals
  | .logged .newChannel => PayloadNewChannel.equals
  | .logged .newChannelFailed => PayloadNewChannelFailed.equals
  | .logged .newChannelSuccessful => PayloadNewChannelSuccessful.equals
  | .logged .newForwardChannel => PayloadNewForwardChannel.equals
  | .logged .newReverseForwardChannel => PayloadNewReverseForwardChannel.equals
  | .logged .newReverseX11ForwardChannel => PayloadNewReverseX11ForwardChannel.equals
  | .logged .channelRequestUnknownType => PayloadChannelRequestUnknownType.equals
  | .logged .channelRequestDecodeFailed => PayloadChannelRequestDecodeFailed.equals
  | .logged .channelRequestSetEnv => PayloadChannelRequestSetEnv.equals
  | .logged .channelRequestExec => PayloadChannelRequestExec.equals
  | .logged .channelRequestPty => PayloadChannelRequestPty.equals
  | .logged .channelRequestX11 => PayloadChannelRequestX11.equals
  | .logged .channelRequestShell => PayloadChannelRequestShell.equals
  | .logged .channelRequestSignal => PayloadChannelRequestSignal.equals
  | .logged .channelRequestSubsystem => PayloadChannelRequestSubsystem.equals
  | .logged .channelRequestWindow => PayloadChannelRequestWindow.equals
  | .logged .exit => PayloadExit.equals
  | .logged .exitSignal => PayloadExitSignal.equals
  | .logged .io => PayloadIo.equals
  | .logged .requestFailed => PayloadRequestFailed.equals
  | .authPasswordSuccessful => PayloadAuthPasswordSuccessful.equals

/-- Two payloads have the same values in the fields that `Equals` reads. -/
def PayloadKind.ReadEq : (k : PayloadKind) → k.Struct → k.Struct → Prop
  | .logged .connect => fun p p2 => p.remoteAddr = p2.remoteAddr
  | .logged .globalRequestDecodeFailed => fun p p2 =>
    p.requestID = p2.requestID ∧ p.requestType = p2.requestType ∧ p.reason = p2.reason
  | .logged .channelRequestUnknownType => fun p p2 =>
    p.requestID = p2.requestID ∧ p.requestType = p2.requestType
  | .logged .channelRequestDecodeFailed => fun p p2 =>
    p.requestID = p2.requestID ∧ p.requestType = p2.requestType ∧ p.reason = p2.reason
  | .authPasswordSuccessful => fun p p2 => p.username = p2.username ∧
    p.authenticatedUsername = p2.authenticatedUsername ∧ p.password = p2.password
  | _ => Eq

def PayloadKind.UnreadEq : (k : PayloadKind) → k.Struct → k.Struct → Prop
  | .logged .connect => fun p p2 => p.country = p2.country
  | .logged .globalRequestDecodeFailed => fun p p2 => p.payload = p2.payload
  | .logged .channelRequestUnknownType => fun p p2 => p.payload = p2.payload
  | .logged .channelRequestDecodeFailed => fun p p2 => p.payload = p2.payload
  | .authPasswordSuccessful => fun p p2 =>
    p.metadata = p2.metadata ∧ p.environment = p2.environment ∧ p.files = p2.files
  | _ => fun _ _ => True

theorem PayloadKind.equals_iff (k : PayloadKind) (p p2 : k.Struct) :
    k.equals p p2 = true ↔ k.ReadEq p p2 := by
  cases k with
  | authPasswordSuccessful => simp [equals, ReadEq, and_assoc]
  | logged t => cases t <;> cases p <;> cases p2 <;> simp [Struct, equals, ReadEq, and_assoc]

theorem PayloadKind.eq_iff (k : PayloadKind) (p p2 : k.Struct) :
    p = p2 ↔ k.ReadEq p p2 ∧ k.UnreadEq p p2 := by
  cases k with
  | authPasswordSuccessful =>
    cases p
    cases p2
    simp [Struct, ReadEq, UnreadEq, and_assoc]
  | logged t =>
    cases t <;> cases p <;> cases p2 <;>
      simp [Struct, ReadEq, UnreadEq] <;> tauto

theorem PayloadKind.readEq_congr (k : PayloadKind) {p p2 : k.Struct}
    (hread : k.ReadEq p p2) (p3 : k.Struct) : k.ReadEq p p3 ↔ k.ReadEq p2 p3 := by
  cases k with
  | authPasswordSuccessful => simp_all [ReadEq]
  | logged t => cases t <;> simp_all [ReadEq]

structure Payload where
  kind : PayloadKind
  value : kind.Struct
  indirect : Bool := false

namespace Payload

def contents (p : Payload) : (k : PayloadKind) × k.Struct := ⟨p.kind, p.value⟩

def equals (p other : Payload) : Bool :=
  if h : other.kind = p.kind then !other.indirect && p.kind.equals p.value (h ▸ other.value)
  else false

def ReadEq (p other : Payload) : Prop :=
  ∃ h : other.kind = p.kind, p.kind.ReadEq p.value (h ▸ other.value)

def UnreadEq (p other : Payload) : Prop :=
  ∀ h : other.kind = p.kind, p.kind.UnreadEq p.value (h ▸ other.value)

theorem equals_iff (p other : Payload) :
    p.equals other = true ↔ other.indirect = false ∧ p.ReadEq other := by
  by_cases h : other.kind = p.kind
  · simp [equals, ReadEq, h, PayloadKind.equals_iff]
  · simp [equals, ReadEq, h]

theorem contents_eq_iff (p other : Payload) :
    p.contents = other.contents ↔ p.ReadEq other ∧ p.UnreadEq other := by
  obtain ⟨kind, value, indirect⟩ := p
  obtain ⟨kind', value', indirect'⟩ := other
  by_cases h : kind' = kind
  · subst h
    simp [contents, ReadEq, UnreadEq, PayloadKind.eq_iff _ value]
  · simp [contents, ReadEq, h, Ne.symm h]

theorem readEq_refl (p : Payload) : p.ReadEq p := ((contents_eq_iff p p).mp rfl).1

theorem ReadEq.congr {p p2 : Payload} (hread : p.ReadEq p2) (p3 : Payload) :
    p.ReadEq p3 ↔ p2.ReadEq p3 := by
  obtain ⟨kind, value, indirect⟩ := p
  obtain ⟨h, hread⟩ := hread
  cases h
  simp only [ReadEq, PayloadKind.readEq_congr _ hread]

theorem rel_congr {p p2 : Option Payload} (hrel : Option.Rel ReadEq p p2) (p3 : Option Payload) :
    Option.Rel ReadEq p p3 ↔ Option.Rel ReadEq p2 p3 := by
  cases hrel with
  | none => rfl
  | some hread => cases p3 <;> simp [hread.congr]

end Payload

structure Message where
  connectionID : String
  timestamp : Int64
  messageType : Int32
  payload : Option Payload
  channelID : Option Nat

def channelEquals (heap : Nat → UInt64) (c c2 : Option Nat) : Bool :=
  if c ≠ c2 then
    match c, c2 with
    | some a, some b => heap a == heap b
    | _, _ => false
  else true

theorem channelEquals_iff (heap : Nat → UInt64) (c c2 : Option Nat) :
    channelEquals heap c c2 = true ↔ c.map heap = c2.map heap := by
  by_cases heq : c = c2
  · simp [channelEquals, heq]
  · cases c <;> cases c2 <;> simp_all [channelEquals]

namespace Message

variable (heap : Nat → UInt64) (m other : Message)

def equals : Bool :=
  if m.connectionID ≠ other.connectionID then false
  else if m.timestamp ≠ other.timestamp then false
  else if m.messageType ≠ other.messageType then false
  else if !channelEquals heap m.channelID other.channelID then false
  else
    match m.payload, other.payload with
    | none, some _ => false
    | some _, none => false
    | some p, some p2 => p.equals p2
    | none, none => true

structure Agree (same : Payload → Payload → Prop) : Prop where
  connectionID : m.connectionID = other.connectionID
  timestamp : m.timestamp = other.timestamp
  messageType : m.messageType = other.messageType
  channelID : m.channelID.map heap = other.channelID.map heap
  payload : Option.Rel same m.payload other.payload

def SameFields : Prop := m.Agree heap other fun p p2 => p.contents = p2.contents

def Direct : Prop := ∀ p ∈ m.payload, p.indirect = false

def UnreadEq : Prop := ∀ p ∈ m.payload, ∀ p2 ∈ other.payload, p.UnreadEq p2

theorem equals_iff : m.equals heap other = true ↔
      other.Direct ∧ m.Agree heap other Payload.ReadEq := by
  -- the payload is what is left after the four tests
  have hpayload : (match m.payload, other.payload with
      | none, some _ => false
      | some _, none => false
      | some p, some p2 => p.equals p2
      | none, none => true) = true ↔
      other.Direct ∧ Option.Rel Payload.ReadEq m.payload other.payload := by
    cases m.payload <;> cases hother : other.payload <;>
      simp [Direct, hother, Payload.equals_iff]
  simp only [equals, ite_not]
  constructor
  · intro hequals
    split_ifs at hequals with hid htime htype hchannel
    obtain ⟨hdirect, hrel⟩ := hpayload.mp hequals
    exact ⟨hdirect, hid, htime, htype,
      (channelEquals_iff heap _ _).mp (by simpa using hchannel), hrel⟩
  · rintro ⟨hdirect, hid, htime, htype, hchannel, hrel⟩
    rw [if_pos hid, if_pos htime, if_pos htype,
      if_neg (by simpa using (channelEquals_iff heap _ _).mpr hchannel)]
    exact hpayload.mpr ⟨hdirect, hrel⟩

theorem sameFields_iff : m.SameFields heap other ↔
      m.Agree heap other Payload.ReadEq ∧ m.UnreadEq other := by
  have hpayload : Option.Rel (fun p p2 => p.contents = p2.contents) m.payload other.payload ↔
        Option.Rel Payload.ReadEq m.payload other.payload ∧ m.UnreadEq other := by
    cases hm : m.payload <;> cases hother : other.payload <;>
      simp [UnreadEq, hm, hother, Payload.contents_eq_iff]
  constructor
  · rintro ⟨hid, htime, htype, hchannel, hrel⟩
    obtain ⟨hread, hunread⟩ := hpayload.mp hrel
    exact ⟨⟨hid, htime, htype, hchannel, hread⟩, hunread⟩
  · rintro ⟨⟨hid, htime, htype, hchannel, hread⟩, hunread⟩
    exact ⟨hid, htime, htype, hchannel, hpayload.mpr ⟨hread, hunread⟩⟩

theorem agree_refl : m.Agree heap m Payload.ReadEq := by
  refine ⟨rfl, rfl, rfl, rfl, ?_⟩
  cases m.payload with
  | none => exact .none
  | some p => exact .some p.readEq_refl

variable {heap m other}

theorem Agree.congr (hagree : m.Agree heap other Payload.ReadEq) (third : Message) :
    m.Agree heap third Payload.ReadEq ↔ other.Agree heap third Payload.ReadEq := by
  obtain ⟨hid, htime, htype, hchannel, hrel⟩ := hagree
  have hpayload := Payload.rel_congr hrel third.payload
  constructor
  · rintro ⟨h₁, h₂, h₃, h₄, h₅⟩
    exact ⟨hid ▸ h₁, htime ▸ h₂, htype ▸ h₃, hchannel ▸ h₄, hpayload.mp h₅⟩
  · rintro ⟨h₁, h₂, h₃, h₄, h₅⟩
    exact ⟨hid ▸ h₁, htime ▸ h₂, htype ▸ h₃, hchannel ▸ h₄, hpayload.mpr h₅⟩

end Message

/-- On messages whose payloads are no pointers `Equals` is an equivalence.  It is
exact for two messages unless they agree in all that it reads: then the second
payload must be no pointer just if they agree in the unread fields as well. -/
theorem equals_exact_iff (heap : Nat → UInt64) :
    Equivalence (fun m m2 : { m : Message // m.Direct } =>
      m.val.equals heap m2.val = true) ∧
    ∀ m other : Message, (m.equals heap other = true ↔ m.SameFields heap other) ↔
        (m.Agree heap other Payload.ReadEq → (other.Direct ↔ m.UnreadEq other)) := by
  refine ⟨⟨fun m => ?_, fun {m m2} h => ?_, fun {m m2 m3} h h' => ?_⟩, fun m other => ?_⟩
  · exact (m.val.equals_iff heap m.val).mpr ⟨m.property, m.val.agree_refl heap⟩
  · obtain ⟨-, hagree⟩ := (m.val.equals_iff heap m2.val).mp h
    exact (m2.val.equals_iff heap m.val).mpr
      ⟨m.property, (hagree.congr m.val).mp (m.val.agree_refl heap)⟩
  · obtain ⟨-, hagree⟩ := (m.val.equals_iff heap m2.val).mp h
    obtain ⟨hdirect, hagree'⟩ := (m2.val.equals_iff heap m3.val).mp h'
    exact (m.val.equals_iff heap m3.val).mpr ⟨hdirect, (hagree.congr m3.val).mpr hagree'⟩
  · rw [Message.equals_iff, Message.sameFields_iff, and_comm, and_congr_right_iff]

def exited (address : Nat) : Message where
  connectionID := "0a"
  timestamp := 1
  messageType := 499
  payload := some { kind := .logged .exit, value := PayloadExit.mk 0 }
  channelID := some address

theorem equals_exact_exit : (exited 0).equals (fun _ => 7) (exited 1) = true ↔
      (exited 0).SameFields (fun _ => 7) (exited 1) := by
  refine ((equals_exact_iff fun _ => 7).2 _ _).mpr fun _ => iff_of_true ?_ ?_
  · rintro p ⟨⟩
    rfl
  · rintro p ⟨⟩ p2 ⟨⟩ h
    trivial

def connected (country : String) (indirect : Bool) : Message where
  connectionID := "0a"
  timestamp := 1
  messageType := 0
  payload := some
    { kind := .logged .connect
      value := PayloadConnect.mk "192.0.2.1" country
      indirect := indirect }
  channelID := none

/-- Two countries are not told apart, and a payload behind a pointer is not even
equal to itself. -/
theorem country_not_compared :
    (connected "DE" false).equals (fun _ => 0) (connected "US" false) = true ∧
      ¬ (connected "DE" false).SameFields (fun _ => 0) (connected "US" false) ∧
    (connected "DE" true).equals (fun _ => 0) (connected "DE" true) = false ∧
      (connected "DE" true).SameFields (fun _ => 0) (connected "DE" true) := by
  refine ⟨by decide, ?_, by decide, rfl, rfl, rfl, rfl, .some rfl⟩
  rintro ⟨-, -, -, -, hpayload⟩
  cases hpayload with
  | some hcontents =>
    have hunread := ((Payload.contents_eq_iff _ _).mp hcontents).2 rfl
    exact absurd hunread (by decide : ("DE" : String) ≠ "US")

end ContainerSSH.AuditEquality
