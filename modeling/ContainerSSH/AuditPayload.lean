/-
How messages of the audit log become CBOR values and come back.
-/
import ContainerSSH.AuditLogger
import ContainerSSH.CborRecord

namespace ContainerSSH.AuditLog

namespace MessageType

def code : MessageType → Int
  | connect => 0
  | disconnect => 1
  | authPassword => 100
  | authPasswordSuccessful => 101
  | authPasswordFailed => 102
  | authPasswordBackendError => 103
  | authPubKey => 104
  | authPubKeySuccessful => 105
  | authPubKeyFailed => 106
  | authPubKeyBackendError => 107
  | authKeyboardInteractiveChallenge => 108
  | authKeyboardInteractiveAnswer => 109
  | authKeyboardInteractiveFailed => 110
  | authKeyboardInteractiveBackendError => 111
  | handshakeFailed => 198
  | handshakeSuccessful => 199
  | globalRequestUnknown => 200
  | globalRequestDecodeFailed => 201
  | requestReverseForward => 202
  | requestCancelReverseForward => 203
  | requestStreamLocal => 204
  | requestCancelStreamLocal => 205
  | newChannel => 300
  | newChannelSuccessful => 301
  | newChannelFailed => 302
  | newForwardChannel => 303
  | newReverseForwardChannel => 304
  | newReverseX11ForwardChannel => 305
  | newForwardStreamLocalChannel => 306
  | newReverseStreamLocalChannel => 307
  | channelRequestUnknownType => 400
  | channelRequestDecodeFailed => 401
  | channelRequestSetEnv => 402
  | channelRequestExec => 403
  | channelRequestPty => 404
  | channelRequestShell => 405
  | channelRequestSignal => 406
  | channelRequestSubsystem => 407
  | channelRequestWindow => 408
  | channelRequestX11 => 409
  | writeClose => 496
  | close => 497
  | exitSignal => 498
  | exit => 499
  | io => 500
  | requestFailed => 501

def all : List MessageType :=
  [connect, disconnect, authPassword, authPasswordSuccessful,
    authPasswordFailed, authPasswordBackendError, authPubKey,
    authPubKeySuccessful, authPubKeyFailed, authPubKeyBackendError,
    authKeyboardInteractiveChallenge, authKeyboardInteractiveAnswer,
    authKeyboardInteractiveFailed, authKeyboardInteractiveBackendError,
    handshakeFailed, handshakeSuccessful, globalRequestUnknown,
    globalRequestDecodeFailed, requestReverseForward,
    requestCancelReverseForward, requestStreamLocal, requestCancelStreamLocal,
    newChannel, newChannelSuccessful, newChannelFailed, newForwardChannel,
    newReverseForwardChannel, newReverseX11ForwardChannel,
    newForwardStreamLocalChannel, newReverseStreamLocalChannel,
    channelRequestUnknownType, channelRequestDecodeFailed,
    channelRequestSetEnv, channelRequestExec, channelRequestPty,
    channelRequestShell, channelRequestSignal, channelRequestSubsystem,
    channelRequestWindow, channelRequestX11, writeClose, close, exitSignal, exit, io, requestFailed]

def ofCode (n : Int) : Option MessageType := all.find? fun t => t.code = n

theorem ofCode_code (t : MessageType) : ofCode t.code = some t := by
  cases t <;> rfl

end MessageType

inductive PayloadType where
  | connect
  | authPassword
  | authPasswordBackendError
  | authPubKey
  | authPubKeyBackendError
  | authKeyboardInteractiveChallenge
  | authKeyboardInteractiveAnswer
  | authKeyboardInteractiveFailed
  | authKeyboardInteractiveBackendError
  | handshakeFailed
  | handshakeSuccessful
  | globalRequestUnknown
  | globalRequestDecodeFailed
  | requestReverseForward
  | requestStreamLocal
  | newChannel
  | newChannelFailed
  | newChannelSuccessful
  | newForwardChannel
  | newReverseForwardChannel
  | newReverseX11ForwardChannel
  | channelRequestUnknownType
  | channelRequestDecodeFailed
  | channelRequestSetEnv
  | channelRequestExec
  | channelRequestPty
  | channelRequestX11
  | channelRequestShell
  | channelRequestSignal
  | channelRequestSubsystem
  | channelRequestWindow
  | exit
  | exitSignal
  | io
  | requestFailed
deriving DecidableEq

def MessageType.payload : MessageType → Option PayloadType
  | connect => some .connect
  | disconnect => none
  | authPassword => some .authPassword
  | authPasswordSuccessful => some .authPassword
  | authPasswordFailed => some .authPassword
  | authPasswordBackendError => some .authPasswordBackendError
  | authKeyboardInteractiveChallenge => some .authKeyboardInteractiveChallenge
  | authKeyboardInteractiveAnswer => some .authKeyboardInteractiveAnswer
  | authKeyboardInteractiveFailed => some .authKeyboardInteractiveFailed
  | authKeyboardInteractiveBackendError => some .authKeyboardInteractiveBackendError
  | handshakeFailed => some .handshakeFailed
  | handshakeSuccessful => some .handshakeSuccessful
  | authPubKey => some .authPubKey
  | authPubKeySuccessful => some .authPubKey
  | authPubKeyFailed => some .authPubKey
  | authPubKeyBackendError => some .authPubKeyBackendError
  | globalRequestUnknown => some .globalRequestUnknown
  | globalRequestDecodeFailed => some .globalRequestDecodeFailed
  | requestReverseForward => some .requestReverseForward
  | requestCancelReverseForward => some .requestReverseForward
  | requestStreamLocal => some .requestStreamLocal
  | requestCancelStreamLocal => some .requestStreamLocal
  | newChannel => some .newChannel
  | newChannelSuccessful => some .newChannelSuccessful
  | newChannelFailed => some .newChannelFailed
  | newForwardChannel => some .newForwardChannel
  | newReverseForwardChannel => some .newReverseForwardChannel
  | newReverseX11ForwardChannel => some .newReverseX11ForwardChannel
  | newForwardStreamLocalChannel => some .requestStreamLocal
  | newReverseStreamLocalChannel => some .requestStreamLocal
  | channelRequestUnknownType => some .channelRequestUnknownType
  | channelRequestDecodeFailed => some .channelRequestDecodeFailed
  | channelRequestSetEnv => some .channelRequestSetEnv
  | channelRequestExec => some .channelRequestExec
  | channelRequestPty => some .channelRequestPty
  | channelRequestShell => some .channelRequestShell
  | channelRequestSignal => some .channelRequestSignal
  | channelRequestSubsystem => some .channelRequestSubsystem
  | channelRequestWindow => some .channelRequestWindow
  | channelRequestX11 => some .channelRequestX11
  | io => some .io
  | requestFailed => some .requestFailed
  | exit => some .exit
  | exitSignal => some .exitSignal
  | close => none
  | writeClose => none

def streamKind : CborKind where
  Value := Stream
  zero := .stdin
  encode
    | .stdin => .int 0
    | .stdout => .int 1
    | .stderr => .int 2
  decode
    | .null => some .stdin
    | .int 0 => some .stdin
    | .int 1 => some .stdout
    | .int 2 => some .stderr
    | _ => none
  decode_encode stream := by cases stream <;> rfl

def KeyboardInteractiveQuestion.struct : CborStruct KeyboardInteractiveQuestion where
  fields := [⟨"question", "Question", .string⟩, ⟨"echo", "Echo", .bool⟩]
  values q := (q.question, q.echo, ())
  build r := ⟨r.1, r.2.1⟩
  build_values _ := rfl
  keyed := by decide

def KeyboardInteractiveAnswer.struct : CborStruct KeyboardInteractiveAnswer where
  fields := [⟨"question", "Question", .string⟩, ⟨"answer", "Answer", .string⟩]
  values a := (a.question, a.answer, ())
  build r := ⟨r.1, r.2.1⟩
  build_values _ := rfl
  keyed := by decide

def PayloadType.fields : PayloadType → List CborField
  | connect => [⟨"remoteAddr", "RemoteAddr", .string⟩, ⟨"country", "Country", .string⟩]
  | authPassword => [⟨"username", "Username", .string⟩, ⟨"password", "Password", .bytes⟩]
  | authPasswordBackendError =>
    [⟨"username", "Username", .string⟩, ⟨"password", "Password", .bytes⟩,
      ⟨"reason", "Reason", .string⟩]
  | authPubKey => [⟨"username", "Username", .string⟩, ⟨"key", "Key", .string⟩]
  | authPubKeyBackendError =>
    [⟨"username", "Username", .string⟩, ⟨"key", "Key", .string⟩, ⟨"reason", "Reason", .string⟩]
  | authKeyboardInteractiveChallenge =>
    [⟨"username", "Username", .string⟩, ⟨"instruction", "Instruction", .string⟩,
      ⟨"questions", "Questions", .list (.ofStruct KeyboardInteractiveQuestion.struct)⟩]
  | authKeyboardInteractiveAnswer =>
    [⟨"username", "Username", .string⟩, ⟨"answers", "Answers",
        .list (.ofStruct KeyboardInteractiveAnswer.struct)⟩]
  | authKeyboardInteractiveFailed => [⟨"Username", "Username", .string⟩]
  | authKeyboardInteractiveBackendError =>
    [⟨"username", "Username", .string⟩, ⟨"reason", "Reason", .string⟩]
  | handshakeFailed => [⟨"reason", "Reason", .string⟩]
  | handshakeSuccessful => [⟨"username", "Username", .string⟩]
  | globalRequestUnknown => [⟨"requestType", "RequestType", .string⟩]
  | globalRequestDecodeFailed =>
    [⟨"requestId", "RequestID", .uint64⟩, ⟨"requestType", "RequestType", .string⟩,
      ⟨"payload", "Payload", .bytes⟩, ⟨"reason", "Reason", .string⟩]
  | requestReverseForward => [⟨"BindHost", "BindHost", .string⟩, ⟨"BindPort", "BindPort", .uint32⟩]
  | requestStreamLocal => [⟨"Path", "Path", .string⟩]
  | newChannel => [⟨"channelType", "ChannelType", .string⟩]
  | newChannelFailed => [⟨"channelType", "ChannelType", .string⟩, ⟨"reason", "Reason", .string⟩]
  | newChannelSuccessful => [⟨"channelType", "ChannelType", .string⟩]
  | newForwardChannel =>
    [⟨"HostToConnect", "HostToConnect", .string⟩, ⟨"PortToConnect", "PortToConnect", .uint32⟩,
      ⟨"OriginatorHost", "OriginatorHost", .string⟩, ⟨"OriginatorPort", "OriginatorPort", .uint32⟩]
  | newReverseForwardChannel =>
    [⟨"ConnectedHost", "ConnectedHost", .string⟩, ⟨"ConnectedPort", "ConnectedPort", .uint32⟩,
      ⟨"OriginatorHost", "OriginatorHost", .string⟩, ⟨"OriginatorPort", "OriginatorPort", .uint32⟩]
  | newReverseX11ForwardChannel =>
    [⟨"OriginatorHost", "OriginatorHost", .string⟩, ⟨"OriginatorPort", "OriginatorPort", .uint32⟩]
  | channelRequestUnknownType =>
    [⟨"requestId", "RequestID", .uint64⟩, ⟨"requestType", "RequestType", .string⟩,
      ⟨"payload", "Payload", .bytes⟩]
  | channelRequestDecodeFailed =>
    [⟨"requestId", "RequestID", .uint64⟩, ⟨"requestType", "RequestType", .string⟩,
      ⟨"payload", "Payload", .bytes⟩, ⟨"reason", "Reason", .string⟩]
  | channelRequestSetEnv =>
    [⟨"requestId", "RequestID", .uint64⟩, ⟨"name", "Name", .string⟩, ⟨"value", "Value", .string⟩]
  | channelRequestExec => [⟨"requestId", "RequestID", .uint64⟩, ⟨"program", "Program", .string⟩]
  | channelRequestPty =>
    [⟨"requestId", "RequestID", .uint64⟩, ⟨"term", "Term", .string⟩,
      ⟨"columns", "Columns", .uint32⟩, ⟨"rows", "Rows", .uint32⟩,
      ⟨"width", "Width", .uint32⟩, ⟨"height", "Height", .uint32⟩, ⟨"modelist", "ModeList", .bytes⟩]
  | channelRequestX11 =>
    [⟨"requestId", "RequestID", .uint64⟩, ⟨"singleConnection", "SingleConnection", .bool⟩,
      ⟨"authProtocol", "AuthProtocol", .string⟩,
      ⟨"cookie", "Cookie", .string⟩, ⟨"screen", "Screen", .uint32⟩]
  | channelRequestShell => [⟨"requestId", "RequestID", .uint64⟩]
  | channelRequestSignal => [⟨"requestId", "RequestID", .uint64⟩, ⟨"signal", "Signal", .string⟩]
  | channelRequestSubsystem =>
    [⟨"requestId", "RequestID", .uint64⟩, ⟨"subsystem", "Subsystem", .string⟩]
  | channelRequestWindow =>
    [⟨"requestId", "RequestID", .uint64⟩, ⟨"columns", "Columns", .uint32⟩,
      ⟨"rows", "Rows", .uint32⟩, ⟨"width", "Width", .uint32⟩, ⟨"height", "Height", .uint32⟩]
  | exit => [⟨"exitStatus", "ExitStatus", .uint32⟩]
  | exitSignal =>
    [⟨"signal", "Signal", .string⟩, ⟨"coreDumped", "CoreDumped", .bool⟩,
      ⟨"errorMessage", "ErrorMessage", .string⟩, ⟨"languageTag", "LanguageTag", .string⟩]
  | io => [⟨"stream", "Stream", streamKind⟩, ⟨"data", "Data", .bytes⟩]
  | requestFailed => [⟨"requestId", "RequestID", .uint64⟩, ⟨"reason", "Reason", .string⟩]

theorem PayloadType.wellKeyed (t : PayloadType) : CborField.WellKeyed t.fields := by
  cases t <;> decide +kernel

def Payload.type : Payload → PayloadType
  | connect .. => .connect
  | authPassword .. => .authPassword
  | authPasswordBackendError .. => .authPasswordBackendError
  | authPubKey .. => .authPubKey
  | authPubKeyBackendError .. => .authPubKeyBackendError
  | authKeyboardInteractiveChallenge .. => .authKeyboardInteractiveChallenge
  | authKeyboardInteractiveAnswer .. => .authKeyboardInteractiveAnswer
  | authKeyboardInteractiveFailed .. => .authKeyboardInteractiveFailed
  | authKeyboardInteractiveBackendError .. => .authKeyboardInteractiveBackendError
  | handshakeFailed .. => .handshakeFailed
  | handshakeSuccessful .. => .handshakeSuccessful
  | globalRequestUnknown .. => .globalRequestUnknown
  | globalRequestDecodeFailed .. => .globalRequestDecodeFailed
  | requestReverseForward .. => .requestReverseForward
  | requestStreamLocal .. => .requestStreamLocal
  | newChannel .. => .newChannel
  | newChannelFailed .. => .newChannelFailed
  | newChannelSuccessful .. => .newChannelSuccessful
  | newForwardChannel .. => .newForwardChannel
  | newReverseForwardChannel .. => .newReverseForwardChannel
  | newReverseX11ForwardChannel .. => .newReverseX11ForwardChannel
  | channelRequestUnknownType .. => .channelRequestUnknownType
  | channelRequestDecodeFailed .. => .channelRequestDecodeFailed
  | channelRequestSetEnv .. => .channelRequestSetEnv
  | channelRequestExec .. => .channelRequestExec
  | channelRequestPty .. => .channelRequestPty
  | channelRequestX11 .. => .channelRequestX11
  | channelRequestShell .. => .channelRequestShell
  | channelRequestSignal .. => .channelRequestSignal
  | channelRequestSubsystem .. => .channelRequestSubsystem
  | channelRequestWindow .. => .channelRequestWindow
  | exit .. => .exit
  | exitSignal .. => .exitSignal
  | io .. => .io
  | requestFailed .. => .requestFailed

def Payload.values : (p : Payload) → CborField.Record p.type.fields
  | connect remoteAddr country => (remoteAddr, country, ())
  | authPassword username password => (username, password, ())
  | authPasswordBackendError username password reason => (username, password, reason, ())
  | authPubKey username key => (username, key, ())
  | authPubKeyBackendError username key reason => (username, key, reason, ())
  | authKeyboardInteractiveChallenge username instruction questions =>
    (username, instruction, questions, ())
  | authKeyboardInteractiveAnswer username answers => (username, answers, ())
  | authKeyboardInteractiveFailed username => (username, ())
  | authKeyboardInteractiveBackendError username reason => (username, reason, ())
  | handshakeFailed reason => (reason, ())
  | handshakeSuccessful username => (username, ())
  | globalRequestUnknown requestType => (requestType, ())
  | globalRequestDecodeFailed requestID requestType payload reason =>
    (requestID, requestType, payload, reason, ())
  | requestReverseForward bindHost bindPort => (bindHost, bindPort, ())
  | requestStreamLocal path => (path, ())
  | newChannel channelType => (channelType, ())
  | newChannelFailed channelType reason => (channelType, reason, ())
  | newChannelSuccessful channelType => (channelType, ())
  | newForwardChannel hostToConnect portToConnect originatorHost originatorPort =>
    (hostToConnect, portToConnect, originatorHost, originatorPort, ())
  | newReverseForwardChannel connectedHost connectedPort originatorHost originatorPort =>
    (connectedHost, connectedPort, originatorHost, originatorPort, ())
  | newReverseX11ForwardChannel originatorHost originatorPort =>
    (originatorHost, originatorPort, ())
  | channelRequestUnknownType requestID requestType payload => (requestID, requestType, payload, ())
  | channelRequestDecodeFailed requestID requestType payload reason =>
    (requestID, requestType, payload, reason, ())
  | channelRequestSetEnv requestID name value => (requestID, name, value, ())
  | channelRequestExec requestID program => (requestID, program, ())
  | channelRequestPty requestID term columns rows width height modeList =>
    (requestID, term, columns, rows, width, height, modeList, ())
  | channelRequestX11 requestID singleConnection authProtocol cookie screen =>
    (requestID, singleConnection, authProtocol, cookie, screen, ())
  | channelRequestShell requestID => (requestID, ())
  | channelRequestSignal requestID signal => (requestID, signal, ())
  | channelRequestSubsystem requestID subsystem => (requestID, subsystem, ())
  | channelRequestWindow requestID columns rows width height =>
    (requestID, columns, rows, width, height, ())
  | exit exitStatus => (exitStatus, ())
  | exitSignal signal coreDumped errorMessage languageTag =>
    (signal, coreDumped, errorMessage, languageTag, ())
  | io stream data => (stream, data, ())
  | requestFailed requestID reason => (requestID, reason, ())

def PayloadType.build : (t : PayloadType) → CborField.Record t.fields → Payload
  | connect, (remoteAddr, country, _) => .connect remoteAddr country
  | authPassword, (username, password, _) => .authPassword username password
  | authPasswordBackendError, (username, password, reason, _) =>
    .authPasswordBackendError username password reason
  | authPubKey, (username, key, _) => .authPubKey username key
  | authPubKeyBackendError, (username, key, reason, _) =>
    .authPubKeyBackendError username key reason
  | authKeyboardInteractiveChallenge, (username, instruction, questions, _) =>
    .authKeyboardInteractiveChallenge username instruction questions
  | authKeyboardInteractiveAnswer, (username, answers, _) =>
    .authKeyboardInteractiveAnswer username answers
  | authKeyboardInteractiveFailed, (username, _) => .authKeyboardInteractiveFailed username
  | authKeyboardInteractiveBackendError, (username, reason, _) =>
    .authKeyboardInteractiveBackendError username reason
  | handshakeFailed, (reason, _) => .handshakeFailed reason
  | handshakeSuccessful, (username, _) => .handshakeSuccessful username
  | globalRequestUnknown, (requestType, _) => .globalRequestUnknown requestType
  | globalRequestDecodeFailed, (requestID, requestType, payload, reason, _) =>
    .globalRequestDecodeFailed requestID requestType payload reason
  | requestReverseForward, (bindHost, bindPort, _) => .requestReverseForward bindHost bindPort
  | requestStreamLocal, (path, _) => .requestStreamLocal path
  | newChannel, (channelType, _) => .newChannel channelType
  | newChannelFailed, (channelType, reason, _) => .newChannelFailed channelType reason
  | newChannelSuccessful, (channelType, _) => .newChannelSuccessful channelType
  | newForwardChannel, (hostToConnect, portToConnect, originatorHost, originatorPort, _) =>
    .newForwardChannel hostToConnect portToConnect originatorHost originatorPort
  | newReverseForwardChannel, (connectedHost, connectedPort, originatorHost, originatorPort, _) =>
    .newReverseForwardChannel connectedHost connectedPort originatorHost originatorPort
  | newReverseX11ForwardChannel, (originatorHost, originatorPort, _) =>
    .newReverseX11ForwardChannel originatorHost originatorPort
  | channelRequestUnknownType, (requestID, requestType, payload, _) =>
    .channelRequestUnknownType requestID requestType payload
  | channelRequestDecodeFailed, (requestID, requestType, payload, reason, _) =>
    .channelRequestDecodeFailed requestID requestType payload reason
  | channelRequestSetEnv, (requestID, name, value, _) => .channelRequestSetEnv requestID name value
  | channelRequestExec, (requestID, program, _) => .channelRequestExec requestID program
  | channelRequestPty, (requestID, term, columns, rows, width, height, modeList, _) =>
    .channelRequestPty requestID term columns rows width height modeList
  | channelRequestX11, (requestID, singleConnection, authProtocol, cookie, screen, _) =>
    .channelRequestX11 requestID singleConnection authProtocol cookie screen
  | channelRequestShell, (requestID, _) => .channelRequestShell requestID
  | channelRequestSignal, (requestID, signal, _) => .channelRequestSignal requestID signal
  | channelRequestSubsystem, (requestID, subsystem, _) =>
    .channelRequestSubsystem requestID subsystem
  | channelRequestWindow, (requestID, columns, rows, width, height, _) =>
    .channelRequestWindow requestID columns rows width height
  | exit, (exitStatus, _) => .exit exitStatus
  | exitSignal, (signal, coreDumped, errorMessage, languageTag, _) =>
    .exitSignal signal coreDumped errorMessage languageTag
  | io, (stream, data, _) => .io stream data
  | requestFailed, (requestID, reason, _) => .requestFailed requestID reason

theorem PayloadType.build_values (p : Payload) : p.type.build p.values = p := by
  cases p <;> rfl

def Payload.entries (p : Payload) : List (String × CborValue) :=
  CborField.toEntries p.type.fields p.values

def Message.toCbor (m : Message) : CborValue :=
  .map [("connectionId", .text m.connectionID), ("timestamp", .int m.timestamp),
    ("type", .int m.messageType.code), ("payload",
      match m.payload with
      | none => .null
      | some p => .map p.entries),
    ("channelId",
      match m.channelID with
      | none => .null
      | some n => .int n.toNat)]

structure DecodedMessage where
  connectionID : String
  timestamp : Int
  messageType : Int
  payload : Option (List (String × CborValue))
  channelID : Option UInt64

namespace DecodedMessage

def struct : CborStruct DecodedMessage where
  fields :=
    [⟨"connectionId", "connectionId", .string⟩, ⟨"timestamp", "timestamp", .int⟩,
      ⟨"type", "type", .int⟩, ⟨"payload", "payload",
        .pointer .entries CborKind.entries_encode_ne_null⟩, ⟨"channelId", "channelId",
        .pointer .uint64 CborKind.uint64_encode_ne_null⟩]
  values v := (v.connectionID, v.timestamp, v.messageType, v.payload, v.channelID, ())
  build r := ⟨r.1, r.2.1, r.2.2.1, r.2.2.2.1, r.2.2.2.2.1⟩
  build_values _ := rfl
  keyed := by decide

def decodeMessage (v : DecodedMessage) : Except String Message :=
  match MessageType.ofCode v.messageType with
  | none => .error ("invalid message type: " ++ toString v.messageType)
  | some messageType =>
    match messageType.payload with
    | none => .ok ⟨v.connectionID, v.timestamp, messageType, none, v.channelID⟩
    | some type =>
      match CborField.ofEntries (v.payload.getD []) type.fields with
      | none => .error "error(s) decoding"
      | some r => .ok ⟨v.connectionID, v.timestamp, messageType, some (type.build r), v.channelID⟩

end DecodedMessage

namespace Message

def Typed (m : Message) : Prop := m.payload.map Payload.type = m.messageType.payload

instance decidableTyped (m : Message) : Decidable m.Typed := inferInstanceAs (Decidable (_ = _))

def decoded (m : Message) : DecodedMessage :=
  ⟨m.connectionID, m.timestamp, m.messageType.code, m.payload.map Payload.entries, m.channelID⟩

theorem toCbor_eq (m : Message) : m.toCbor = DecodedMessage.struct.encode m.decoded := by
  obtain ⟨_, _, _, payload, channelID⟩ := m
  cases payload <;> cases channelID <;> rfl

theorem decodeMessage_decoded {m : Message} (hm : m.Typed) : m.decoded.decodeMessage = .ok m := by
  obtain ⟨connectionID, timestamp, messageType, payload, channelID⟩ := m
  simp only [DecodedMessage.decodeMessage, decoded, MessageType.ofCode_code]
  cases payload with
  | none =>
    have htype : messageType.payload = none := hm.symm
    rw [htype]
  | some p =>
    have htype : messageType.payload = some p.type := hm.symm
    have hfields : CborField.ofEntries p.entries p.type.fields = some p.values :=
      CborField.ofEntries_toEntries p.type.wellKeyed p.values
    rw [htype]
    dsimp only [Option.map_some, Option.getD_some]
    rw [hfields]
    dsimp only
    rw [PayloadType.build_values]

end Message

theorem Event.entry_typed {intercept : InterceptConfig} {e : Event}
    {entry : Entry} (hentry : e.entry intercept = some entry) :
    entry.payload.map Payload.type = entry.messageType.payload := by
  have hio : ∀ {intercepted : Bool} {channelID : Option UInt64}
      {stream : Stream} {data : List UInt8},
      ioEntry intercepted channelID stream data = some entry →
      entry.payload.map Payload.type = entry.messageType.payload := by
    intro intercepted channelID stream data h
    unfold ioEntry at h
    split at h
    · cases h
      rfl
    · cases h
  cases e with
  | forwardingRead | forwardingWrite | stdinRead | stdoutWrite | stderrWrite => exact hio hentry
  | _ =>
    cases hentry
    rfl

inductive Message.Emitted : Message → Prop
  | connect (connectionID : String) (timestamp : Int) (remoteAddr country : String) :
      Emitted ⟨connectionID, timestamp, .connect, some (.connect remoteAddr country), none⟩
  | callback (intercept : InterceptConfig) (connectionID : String)
      (timestamp : Int) (e : Event) (entry : Entry) (hentry : e.entry intercept = some entry) :
      Emitted ⟨connectionID, timestamp, entry.messageType, entry.payload, entry.channelID⟩

theorem Message.Emitted.typed {m : Message} (hm : m.Emitted) : m.Typed := by
  cases hm with
  | connect => rfl
  | callback intercept connectionID timestamp e entry hentry => exact Event.entry_typed hentry

end ContainerSSH.AuditLog
