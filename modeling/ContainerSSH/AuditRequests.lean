/-
What the audit log records of requests and channels.
-/
import ContainerSSH.AuditLogger
import ContainerSSH.ListBlocks
import ContainerSSH.ServerRequests

namespace ContainerSSH.AuditLog

open SSHServer

inductive AuditEffect where
  | audits (e : Event)
  | forwards (call : HandlerCall)

structure Handling where
  effects : List AuditEffect
  answer : Option GoError

namespace AuditHandler

def audited (channelID requestID : UInt64) (logged : Event) (call : HandlerCall)
    (answer : Option GoError) : Handling :=
  match answer with
  | some err =>
    ⟨[.audits logged, .forwards call,
      .audits (.onRequestFailed (some channelID) requestID err)], some err⟩
  | none => ⟨[.audits logged, .forwards call], none⟩

def passedOn (logged : Event) (call : HandlerCall) (answer : Option GoError) :
    Handling :=
  ⟨[.audits logged, .forwards call], answer⟩

def onEnvRequest (channelID requestID : UInt64) (name value : String) : Option GoError → Handling :=
  audited channelID requestID (.onRequestSetEnv (some channelID) requestID name value)
    (.session channelID (.env requestID name value))

def onExecRequest (channelID requestID : UInt64) (program : String) : Option GoError → Handling :=
  passedOn (.onRequestExec (some channelID) requestID program)
    (.session channelID (.exec requestID program))

def onPtyRequest (channelID requestID : UInt64) (term : String)
    (columns rows width height : UInt32) (modeList : List UInt8) :
    Option GoError → Handling :=
  audited channelID requestID
    (.onRequestPty (some channelID) requestID term columns rows width height modeList)
    (.session channelID (.pty requestID term columns rows width height modeList))

def onShell (channelID requestID : UInt64) : Option GoError → Handling :=
  audited channelID requestID (.onRequestShell (some channelID) requestID)
    (.session channelID (.shell requestID))

def onSignal (channelID requestID : UInt64) (signal : String) : Option GoError → Handling :=
  audited channelID requestID (.onRequestSignal (some channelID) requestID signal)
    (.session channelID (.signal requestID signal))

def onSubsystem (channelID requestID : UInt64) (subsystem : String) : Option GoError → Handling :=
  audited channelID requestID (.onRequestSubsystem (some channelID) requestID subsystem)
    (.session channelID (.subsystem requestID subsystem))

def onWindow (channelID requestID : UInt64) (columns rows width height : UInt32) :
    Option GoError → Handling :=
  audited channelID requestID
    (.onRequestWindow (some channelID) requestID columns rows width height)
    (.session channelID (.window requestID columns rows width height))

def onX11Request (channelID requestID : UInt64) (singleConnection : Bool)
    (protocol cookie : String) (screen : UInt32) : Option GoError → Handling :=
  passedOn (.onRequestX11 (some channelID) requestID singleConnection protocol cookie screen)
    (.session channelID (.x11 requestID singleConnection protocol cookie screen))

def sessionRequest (channelID : UInt64) : SessionRequest → Option GoError → Handling
  | .env requestID name value => onEnvRequest channelID requestID name value
  | .pty requestID term columns rows width height modeList =>
    onPtyRequest channelID requestID term columns rows width height modeList
  | .exec requestID program => onExecRequest channelID requestID program
  | .shell requestID => onShell channelID requestID
  | .subsystem requestID subsystem => onSubsystem channelID requestID subsystem
  | .signal requestID signal => onSignal channelID requestID signal
  | .window requestID columns rows width height =>
    onWindow channelID requestID columns rows width height
  | .x11 requestID singleConnection protocol cookie screen =>
    onX11Request channelID requestID singleConnection protocol cookie screen

def opens (logged : List Event) (channelID : UInt64) (channelType : String)
    (call : HandlerCall) (answer : Option GoError) : Handling :=
  match answer with
  | some err => ⟨logged.map .audits ++ [.forwards call], some err⟩
  | none =>
    ⟨logged.map .audits ++ [.forwards call,
      .audits (.onNewChannelSuccess (some channelID) channelType)], none⟩

def onSessionChannel (channelID : UInt64) (extraData : List UInt8) : Option GoError → Handling :=
  opens [] channelID "session" (.connection (.sessionChannel channelID extraData))

def onTCPForwardChannel (channelID : UInt64) (hostToConnect : String)
    (portToConnect : UInt32) (originatorHost : String)
    (originatorPort : UInt32) : Option GoError → Handling :=
  opens [.onTCPForwardChannel (some channelID) hostToConnect portToConnect
      originatorHost originatorPort] channelID "direct-tcpip"
    (.connection (.tcpForwardChannel channelID hostToConnect portToConnect
      originatorHost originatorPort))

def onDirectStreamLocal (channelID : UInt64) (path : String) : Option GoError → Handling :=
  opens [.onDirectStreamLocal (some channelID) path] channelID "direct-streamlocal@openssh.com"
    (.connection (.directStreamLocal channelID path))

def onRequestTCPReverseForward (bindHost : String) (bindPort : UInt32) :
    Option GoError → Handling :=
  passedOn (.onRequestTCPReverseForward bindHost bindPort)
    (.connection (.tcpReverseForward bindHost bindPort))

def onRequestCancelTCPReverseForward (bindHost : String) (bindPort : UInt32) :
    Option GoError → Handling :=
  passedOn (.onRequestCancelTCPReverseForward bindHost bindPort)
    (.connection (.cancelTCPReverseForward bindHost bindPort))

def onRequestStreamLocal (path : String) : Option GoError → Handling :=
  passedOn (.onRequestStreamLocal path) (.connection (.streamLocal path))

def onRequestCancelStreamLocal (path : String) : Option GoError → Handling :=
  passedOn (.onRequestCancelStreamLocal path) (.connection (.cancelStreamLocal path))

def connectionRequest : ConnectionRequest → Option GoError → Handling
  | .sessionChannel channelID extraData => onSessionChannel channelID extraData
  | .tcpForwardChannel channelID hostToConnect portToConnect originatorHost originatorPort =>
    onTCPForwardChannel channelID hostToConnect portToConnect originatorHost originatorPort
  | .tcpReverseForward bindHost bindPort => onRequestTCPReverseForward bindHost bindPort
  | .cancelTCPReverseForward bindHost bindPort => onRequestCancelTCPReverseForward bindHost bindPort
  | .directStreamLocal channelID path => onDirectStreamLocal channelID path
  | .streamLocal path => onRequestStreamLocal path
  | .cancelStreamLocal path => onRequestCancelStreamLocal path

def handle (call : HandlerCall) (answer : Option GoError) : Handling :=
  match call with
  | .session channelID request => sessionRequest channelID request answer
  | .connection request => connectionRequest request answer
  | .unsupportedChannel channelID channelType _ =>
    ⟨[.audits (.onNewChannelFailed (some channelID) channelType
        "unsupported channel type"), .forwards call], none⟩
  | .unsupportedChannelRequest channelID requestID requestType payload =>
    ⟨[.forwards call, .audits (.onRequestUnknown (some channelID) requestID requestType
        payload)], none⟩
  | .failedDecodeChannelRequest channelID requestID requestType payload reason =>
    ⟨[.forwards call, .audits (.onRequestDecodeFailed (some channelID) requestID requestType
        payload reason.error)], none⟩
  | .unsupportedGlobalRequest _ requestType _ =>
    ⟨[.audits (.onGlobalRequestUnknown requestType), .forwards call], none⟩
  | .failedDecodeGlobalRequest requestID requestType payload reason =>
    ⟨[.audits (.onGlobalRequestDecodeFailed requestID requestType payload
        reason), .forwards call], none⟩

end AuditHandler

def AuditEffect.event? : AuditEffect → Option Event
  | audits e => some e
  | forwards _ => none

namespace Handling

def events (h : Handling) : List Event := h.effects.filterMap AuditEffect.event?

end Handling

inductive AuditRecord where
  | request (channelID : UInt64) (request : SessionRequest)
  | requestFailed (channelID requestID : UInt64)
  | channelSuccessful (channelID : UInt64) (channelType : String)
  | channelFailed (channelID : UInt64) (channelType : String)

def Payload.record (channelID : UInt64) : Payload → Option AuditRecord
  | .channelRequestSetEnv requestID name value =>
    some (.request channelID (.env requestID name value))
  | .channelRequestExec requestID program => some (.request channelID (.exec requestID program))
  | .channelRequestPty requestID term columns rows width height modeList =>
    some (.request channelID (.pty requestID term columns rows width height modeList))
  | .channelRequestX11 requestID singleConnection protocol cookie screen =>
    some (.request channelID (.x11 requestID singleConnection protocol cookie screen))
  | .channelRequestShell requestID => some (.request channelID (.shell requestID))
  | .channelRequestSignal requestID signal => some (.request channelID (.signal requestID signal))
  | .channelRequestSubsystem requestID subsystem =>
    some (.request channelID (.subsystem requestID subsystem))
  | .channelRequestWindow requestID columns rows width height =>
    some (.request channelID (.window requestID columns rows width height))
  | .requestFailed requestID _ => some (.requestFailed channelID requestID)
  | .newChannelSuccessful channelType => some (.channelSuccessful channelID channelType)
  | .newChannelFailed channelType _ => some (.channelFailed channelID channelType)
  | _ => none

def Message.record (m : Message) : Option AuditRecord :=
  m.payload.bind fun payload => m.channelID.bind fun channelID => payload.record channelID

def Event.record (e : Event) (intercept : InterceptConfig) :
    Option AuditRecord :=
  (e.entry intercept).bind fun entry =>
    entry.payload.bind fun payload => entry.channelID.bind fun channelID => payload.record channelID

def requestIDOf : SessionRequest → UInt64
  | .env requestID _ _ => requestID
  | .pty requestID _ _ _ _ _ _ => requestID
  | .exec requestID _ => requestID
  | .shell requestID => requestID
  | .subsystem requestID _ => requestID
  | .signal requestID _ => requestID
  | .window requestID _ _ _ _ => requestID
  | .x11 requestID _ _ _ _ => requestID

def channelOutcome (channelID : UInt64) (channelType : String)
    (answer : Option GoError) : AuditRecord :=
  if answer.isSome then .channelFailed channelID channelType
  else .channelSuccessful channelID channelType

def expected (call : HandlerCall) (answer : Option GoError) : List AuditRecord :=
  match call with
  | .session channelID request =>
    .request channelID request ::
      if answer.isSome then [.requestFailed channelID (requestIDOf request)]
      else []
  | .connection (.sessionChannel channelID _) => [channelOutcome channelID "session" answer]
  | .connection (.tcpForwardChannel channelID _ _ _ _) =>
    [channelOutcome channelID "direct-tcpip" answer]
  | .connection (.directStreamLocal channelID _) =>
    [channelOutcome channelID "direct-streamlocal@openssh.com" answer]
  | .unsupportedChannel channelID channelType _ => [.channelFailed channelID channelType]
  | _ => []

def dropsRejection : HandlerCall → Bool
  | .session _ (.exec _ _) => true
  | .session _ (.x11 _ _ _ _ _) => true
  | .connection (.sessionChannel _ _) => true
  | .connection (.tcpForwardChannel _ _ _ _ _) => true
  | .connection (.directStreamLocal _ _) => true
  | _ => false

abbrev Answered := HandlerCall × Option GoError

def recorded (intercept : InterceptConfig) (c : Answered) : List AuditRecord :=
  (AuditHandler.handle c.1 c.2).events.filterMap fun e => e.record intercept

theorem recorded_sublist (intercept : InterceptConfig) (c : Answered) :
    (recorded intercept c).Sublist (expected c.1 c.2) := by
  obtain ⟨call, answer⟩ := c
  cases call with
  | session channelID request =>
    cases request <;> cases answer <;>
      first | exact .refl _ | exact List.sublist_append_left [_] [_]
  | connection request =>
    cases request <;> cases answer <;>
      first | exact .refl _ | exact List.nil_sublist _
  | _ => exact .refl _

theorem recorded_eq_expected_iff (intercept : InterceptConfig) (c : Answered) :
    recorded intercept c = expected c.1 c.2 ↔ (c.2.isSome = true → dropsRejection c.1 = false) := by
  obtain ⟨call, answer⟩ := c
  cases answer with
  | none =>
    refine iff_of_true ?_ (fun h => by cases h)
    cases call with
    | session channelID request | connection request => cases request <;> rfl
    | _ => rfl
  | some =>
    simp only [Option.isSome_some, forall_const]
    cases call with
    | session channelID request | connection request =>
      cases request <;>
        first
        | exact iff_of_true rfl rfl
        | exact iff_of_false (by rintro ⟨⟩) (by rintro ⟨⟩)
    | _ => exact iff_of_true rfl rfl

def timed (clock : Nat → Int) (es : List Event) : List (Int × Event) :=
  es.zipIdx.map fun e => (clock e.2, e.1)

def auditedEvents (calls : List Answered) : List Event :=
  calls.flatMap fun c => (AuditHandler.handle c.1 c.2).events

theorem all_ne_onDisconnect (c : Answered) : (AuditHandler.handle c.1 c.2).events.all
      (fun e => e ≠ .onDisconnect) = true := by
  obtain ⟨call, answer⟩ := c
  cases call with
  | session channelID request | connection request => cases request <;> cases answer <;> rfl
  | _ => rfl

theorem LoggerConnection.records_run {l : LoggerConnection}
    (hopen : l.closed = false) {es : List (Int × Event)} (hes : ∀ e ∈ es, e.2 ≠ .onDisconnect) :
    (l.run es).sent.filterMap Message.record = l.sent.filterMap Message.record ++
        es.filterMap fun e => e.2.record l.intercept := by
  induction es generalizing l with
  | nil => simp [run]
  | cons head rest ih =>
    obtain ⟨timestamp, e⟩ := head
    obtain ⟨he, hrest⟩ := List.forall_mem_cons.mp hes
    obtain ⟨next, hnext, hintercept, -, hclosed, hsent⟩ := handle_of_open hopen timestamp e
    simp only [run, hnext]
    rw [ih (by simpa [hclosed] using he) hrest, hsent, hintercept,
      List.filterMap_append, List.append_assoc, List.filterMap_cons]
    cases hentry : e.entry l.intercept with
    | none => simp [Event.record, hentry]
    | some entry =>
      have hrecord : Message.record ⟨l.connectionID, timestamp,
          entry.messageType, entry.payload, entry.channelID⟩ = e.record l.intercept := by
        simp [Event.record, hentry, Message.record]
      rw [Option.map_some, Option.toList_some, List.filterMap_cons, hrecord]
      cases e.record l.intercept <;> rfl

theorem map_snd_timed (clock : Nat → Int) (es : List Event) :
    (timed clock es).map Prod.snd = es := by
  simp [timed, Function.comp_def]

theorem records_eq_flatMap (intercept : InterceptConfig) (connectionID : String)
    (timestamp : Int) (remoteAddr country : String) (clock : Nat → Int) (calls : List Answered) :
    ((LoggerConnection.onConnect intercept connectionID timestamp remoteAddr
      country).run (timed clock (auditedEvents calls))).sent.filterMap
        Message.record = calls.flatMap (recorded intercept) := by
  have hnot : ∀ e ∈ timed clock (auditedEvents calls), e.2 ≠ .onDisconnect := by
    intro e he
    have hmem := List.mem_map_of_mem (f := Prod.snd) he
    rw [map_snd_timed, auditedEvents, List.mem_flatMap] at hmem
    obtain ⟨c, -, hmem⟩ := hmem
    simpa using List.all_eq_true.mp (all_ne_onDisconnect c) _ hmem
  have hevents := congrArg (List.filterMap fun e => e.record intercept)
    (map_snd_timed clock (auditedEvents calls))
  rw [List.filterMap_map] at hevents
  rw [LoggerConnection.records_run rfl hnot]
  exact hevents.trans (List.filterMap_flatMap ..)

/-- The log of requests and channels is complete exactly if the backend rejects
no program, no X11 forwarding and no channel: these rejections are not logged. -/
theorem records_complete_iff (intercept : InterceptConfig)
    (connectionID : String) (timestamp : Int) (remoteAddr country : String)
    (clock : Nat → Int) (calls : List Answered) :
    ((LoggerConnection.onConnect intercept connectionID timestamp remoteAddr
        country).run (timed clock (auditedEvents calls))).sent.filterMap
        Message.record = calls.flatMap (fun c => expected c.1 c.2) ↔
      ∀ c ∈ calls, c.2.isSome = true → dropsRejection c.1 = false := by
  rw [records_eq_flatMap, ListBlocks.flatMap_eq_flatMap_iff fun c _ => recorded_sublist intercept c]
  exact forall₂_congr fun c _ => recorded_eq_expected_iff intercept c

/-- A program that the backend refuses to run looks like one that runs. -/
theorem rejected_exec_not_logged :
    ((LoggerConnection.onConnect {} "0123456789ABCDEF" 0 "127.0.0.1" "XX").run
      (timed (fun n => n) (auditedEvents
        [(.session 0 (.exec 0 "sh"), some (.plain "refused"))]))).sent.filterMap
        Message.record = [.request 0 (.exec 0 "sh")] ∧
      expected (.session 0 (.exec 0 "sh")) (some (.plain "refused")) =
        [.request 0 (.exec 0 "sh"), .requestFailed 0 0] :=
  ⟨rfl, rfl⟩

end ContainerSSH.AuditLog
