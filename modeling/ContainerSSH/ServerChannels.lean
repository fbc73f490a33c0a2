/-
How the SSH server answers a client that opens a channel.
-/
import ContainerSSH.ServerRequests

namespace ContainerSSH.SSHServer

open SshWire

structure NewChannel where
  channelType : String
  extraData : List UInt8

structure ChannelRejection where
  reason : RejectionReason
  userMessage : String

inductive ShutdownKey where
  | network (connectionID : String)
  | ssh (connectionID : String)
  | session (connectionID : String) (channelID : UInt64)
  | directTCPIP (connectionID : String) (channelID : UInt64)
deriving DecidableEq

inductive ChannelEffect where
  | calls (call : HandlerCall)
  | registers (key : ShutdownKey)
  | unregisters (key : ShutdownKey)
  | accepts
  | rejects (rejection : ChannelRejection)

def channelTypeSession : String := "session"
def channelTypeDirectTCPIP : String := "direct-tcpip"
def channelTypeDirectStreamLocal : String := "direct-streamlocal@openssh.com"

def forwardTCPChannelOpenPayload : Struct :=
  ⟨"ForwardTCPChannelOpenPayload", [⟨"ConnectedAddress", .string⟩,
    ⟨"ConnectedPort", .uint32⟩, ⟨"OriginatorAddress", .string⟩, ⟨"OriginatorPort", .uint32⟩]⟩

def directStreamLocalChannelOpenPayload : Struct :=
  ⟨"DirectStreamLocalChannelOpenPayload", [⟨"SocketPath", .string⟩,
    ⟨"Reserved1", .string⟩, ⟨"Reserved2", .uint32⟩]⟩

def offer (call : HandlerCall) (shutdownHandlerID : ShutdownKey)
    (rejection : Option ChannelRejection) (acceptFails : Bool) :
    List ChannelEffect :=
  match rejection with
  | some rejection => [.calls call, .rejects rejection]
  | none =>
    [.calls call, .registers shutdownHandlerID, .accepts] ++
      if acceptFails then [.unregisters shutdownHandlerID] else []

def handleSessionChannel (connectionID : String) (channelID : UInt64)
    (newChannel : NewChannel) : Option ChannelRejection → Bool →
    List ChannelEffect :=
  offer (.connection (.sessionChannel channelID newChannel.extraData))
    (.session connectionID channelID)

def decodeAndOffer (payload : Struct) (call : Record payload.fields → HandlerCall)
    (shutdownHandlerID : ShutdownKey) (newChannel : NewChannel)
    (rejection : Option ChannelRejection) (acceptFails : Bool) :
    List ChannelEffect :=
  match unmarshal payload newChannel.extraData with
  | .error _ => []
  | .ok p => offer (call p) shutdownHandlerID rejection acceptFails

def handleDirectForwardingChannel (connectionID : String) (channelID : UInt64) :
    NewChannel → Option ChannelRejection → Bool → List ChannelEffect :=
  decodeAndOffer forwardTCPChannelOpenPayload
    (fun p => .connection (.tcpForwardChannel channelID (goString p.1) p.2.1
      (goString p.2.2.1) p.2.2.2.1)) (.directTCPIP connectionID channelID)

def handleDirectStreamLocalChannel (connectionID : String) (channelID : UInt64) :
    NewChannel → Option ChannelRejection → Bool → List ChannelEffect :=
  decodeAndOffer directStreamLocalChannelOpenPayload
    (fun p => .connection (.directStreamLocal channelID (goString p.1)))
    (.directTCPIP connectionID channelID)

def handleChannel (connectionID : String) (channelID : UInt64)
    (newChannel : NewChannel) (rejection : Option ChannelRejection)
    (acceptFails : Bool) : List ChannelEffect :=
  if newChannel.channelType = channelTypeSession then
    handleSessionChannel connectionID channelID newChannel rejection acceptFails
  else if newChannel.channelType = channelTypeDirectTCPIP then
    handleDirectForwardingChannel connectionID channelID newChannel rejection acceptFails
  else if newChannel.channelType = channelTypeDirectStreamLocal then
    handleDirectStreamLocalChannel connectionID channelID newChannel rejection acceptFails
  else
    [.calls (.unsupportedChannel channelID newChannel.channelType newChannel.extraData),
      .rejects ⟨.unknownChannelType, "unsupported channel type"⟩]

def ChannelEffect.isAnswer : ChannelEffect → Bool
  | accepts => true
  | rejects _ => true
  | _ => false

def AnsweredOnce (rejection : Option ChannelRejection) (effects : List ChannelEffect) : Prop :=
  ∃ answer, effects.filter ChannelEffect.isAnswer = [answer] ∧
    (answer = .accepts → rejection = none)

def NewChannel.Decodes (newChannel : NewChannel) : Prop :=
  (newChannel.channelType = "direct-tcpip" →
    ∃ r, Word forwardTCPChannelOpenPayload.fields r newChannel.extraData) ∧
  (newChannel.channelType = "direct-streamlocal@openssh.com" →
    ∃ r, Word directStreamLocalChannelOpenPayload.fields r newChannel.extraData)

theorem answeredOnce_offer (call : HandlerCall) (shutdownHandlerID : ShutdownKey)
    (rejection : Option ChannelRejection) (acceptFails : Bool) : AnsweredOnce rejection
      (offer call shutdownHandlerID rejection acceptFails) := by
  cases rejection with
  | some rejection => exact ⟨.rejects rejection, rfl, by simp⟩
  | none => cases acceptFails <;> exact ⟨.accepts, rfl, fun _ => rfl⟩

theorem not_answeredOnce_nil (rejection : Option ChannelRejection) :
    ¬ AnsweredOnce rejection [] := by
  simp [AnsweredOnce]

theorem answeredOnce_decodeAndOffer_iff {payload : Struct}
    (hfields : payload.fields ≠ []) (call : Record payload.fields → HandlerCall)
    (shutdownHandlerID : ShutdownKey) (newChannel : NewChannel)
    (rejection : Option ChannelRejection) (acceptFails : Bool) :
    AnsweredOnce rejection (decodeAndOffer payload call shutdownHandlerID
        newChannel rejection acceptFails) ↔ ∃ r, Word payload.fields r newChannel.extraData := by
  unfold decodeAndOffer
  cases hresult : unmarshal payload newChannel.extraData with
  | error =>
    refine iff_of_false (not_answeredOnce_nil rejection) ?_
    rintro ⟨r, hr⟩
    have hok := unmarshal_eq_ok_iff.mpr ⟨ne_nil_of_word hfields hr, hr⟩
    rw [hresult] at hok
    cases hok
  | ok r => exact iff_of_true (answeredOnce_offer _ _ _ _) ⟨r, (unmarshal_eq_ok_iff.mp hresult).2⟩

/-- A channel is answered exactly if its payload is well formed: one that cannot
be decoded is neither accepted nor rejected. -/
theorem answeredOnce_iff_decodes (connectionID : String) (channelID : UInt64)
    (newChannel : NewChannel) (rejection : Option ChannelRejection) (acceptFails : Bool) :
    AnsweredOnce rejection (handleChannel connectionID channelID newChannel
      rejection acceptFails) ↔ newChannel.Decodes := by
  unfold handleChannel
  split
  · next htype =>
      have hdecodes : newChannel.Decodes := by
        constructor <;> intro h <;> rw [h] at htype <;>
          exact absurd htype (by decide)
      exact iff_of_true (answeredOnce_offer _ _ _ _) hdecodes
  split
  · next htype =>
      rw [handleDirectForwardingChannel, answeredOnce_decodeAndOffer_iff (List.cons_ne_nil _ _),
        NewChannel.Decodes, htype]
      exact ⟨fun h => ⟨fun _ => h, fun hother => absurd hother (by decide)⟩, fun h => h.1 rfl⟩
  split
  · next htype =>
      rw [handleDirectStreamLocalChannel, answeredOnce_decodeAndOffer_iff (List.cons_ne_nil _ _),
        NewChannel.Decodes, htype]
      exact ⟨fun h => ⟨fun hother => absurd hother (by decide), fun _ => h⟩, fun h => h.2 rfl⟩
  · next hforward hstream =>
      refine iff_of_true ⟨_, rfl, by simp⟩ ⟨fun h => ?_, fun h => ?_⟩
      · exact absurd h hforward
      · exact absurd h hstream

/-- A client that sends no payload waits forever. -/
theorem empty_forwarding_channel_unanswered :
    handleChannel "0123456789ABCDEF" 0 ⟨"direct-tcpip", []⟩ none false = [] ∧
      ¬ AnsweredOnce none (handleChannel "0123456789ABCDEF" 0 ⟨"direct-tcpip", []⟩ none false) :=
  ⟨rfl, not_answeredOnce_nil none⟩

end ContainerSSH.SSHServer
