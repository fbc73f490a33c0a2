/-
The messages of the audit log: their types and payloads.
-/
import ContainerSSH.Message

namespace ContainerSSH.AuditLog

inductive MessageType where
  | connect
  | disconnect
  | authPassword
  | authPasswordSuccessful
  | authPasswordFailed
  | authPasswordBackendError
  | authPubKey
  | authPubKeySuccessful
  | authPubKeyFailed
  | authPubKeyBackendError
  | authKeyboardInteractiveChallenge
  | authKeyboardInteractiveAnswer
  | authKeyboardInteractiveFailed
  | authKeyboardInteractiveBackendError
  | handshakeFailed
  | handshakeSuccessful
  | globalRequestUnknown
  | globalRequestDecodeFailed
  | requestReverseForward
  | requestCancelReverseForward
  | requestStreamLocal
  | requestCancelStreamLocal
  | newChannel
  | newChannelSuccessful
  | newChannelFailed
  | newForwardChannel
  | newReverseForwardChannel
  | newReverseX11ForwardChannel
  | newForwardStreamLocalChannel
  | newReverseStreamLocalChannel
  | channelRequestUnknownType
  | channelRequestDecodeFailed
  | channelRequestSetEnv
  | channelRequestExec
  | channelRequestPty
  | channelRequestShell
  | channelRequestSignal
  | channelRequestSubsystem
  | channelRequestWindow
  | channelRequestX11
  | writeClose
  | close
  | exitSignal
  | exit
  | io
  | requestFailed
deriving DecidableEq

inductive Stream where
  | stdin
  | stdout
  | stderr
deriving DecidableEq

structure KeyboardInteractiveQuestion where
  question : String
  echo : Bool
deriving DecidableEq

structure KeyboardInteractiveAnswer where
  question : String
  answer : String
deriving DecidableEq

inductive Payload where
  | connect (remoteAddr country : String)
  | authPassword (username : String) (password : List UInt8)
  | authPasswordBackendError (username : String) (password : List UInt8) (reason : String)
  | authPubKey (username key : String)
  | authPubKeyBackendError (username key reason : String)
  | authKeyboardInteractiveChallenge (username instruction : String)
      (questions : List KeyboardInteractiveQuestion)
  | authKeyboardInteractiveAnswer (username : String) (answers : List KeyboardInteractiveAnswer)
  | authKeyboardInteractiveFailed (username : String)
  | authKeyboardInteractiveBackendError (username reason : String)
  | handshakeFailed (reason : String)
  | handshakeSuccessful (username : String)
  | globalRequestUnknown (requestType : String)
  | globalRequestDecodeFailed (requestID : UInt64) (requestType : String)
      (payload : List UInt8) (reason : String)
  | requestReverseForward (bindHost : String) (bindPort : UInt32)
  | requestStreamLocal (path : String)
  | newChannel (channelType : String)
  | newChannelFailed (channelType reason : String)
  | newChannelSuccessful (channelType : String)
  | newForwardChannel (hostToConnect : String) (portToConnect : UInt32)
      (originatorHost : String) (originatorPort : UInt32)
  | newReverseForwardChannel (connectedHost : String) (connectedPort : UInt32)
      (originatorHost : String) (originatorPort : UInt32)
  | newReverseX11ForwardChannel (originatorHost : String) (originatorPort : UInt32)
  | channelRequestUnknownType (requestID : UInt64) (requestType : String) (payload : List UInt8)
  | channelRequestDecodeFailed (requestID : UInt64) (requestType : String)
      (payload : List UInt8) (reason : String)
  | channelRequestSetEnv (requestID : UInt64) (name value : String)
  | channelRequestExec (requestID : UInt64) (program : String)
  | channelRequestPty (requestID : UInt64) (term : String)
      (columns rows width height : UInt32) (modeList : List UInt8)
  | channelRequestX11 (requestID : UInt64) (singleConnection : Bool)
      (authProtocol cookie : String) (screen : UInt32)
  | channelRequestShell (requestID : UInt64)
  | channelRequestSignal (requestID : UInt64) (signal : String)
  | channelRequestSubsystem (requestID : UInt64) (subsystem : String)
  | channelRequestWindow (requestID : UInt64) (columns rows width height : UInt32)
  | exit (exitStatus : UInt32)
  | exitSignal (signal : String) (coreDumped : Bool) (errorMessage languageTag : String)
  | io (stream : Stream) (data : List UInt8)
  | requestFailed (requestID : UInt64) (reason : String)
deriving DecidableEq

structure Message where
  connectionID : String
  timestamp : Int
  messageType : MessageType
  payload : Option Payload
  channelID : Option UInt64
deriving DecidableEq

end ContainerSSH.AuditLog
