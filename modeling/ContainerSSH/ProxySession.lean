/-
A session of the SSH proxy.
-/
import ContainerSSH.ServerRequests
import ContainerSSH.StreamCopy
import ContainerSSH.TransitionSystem
import Mathlib.Logic.Function.Basic

namespace ContainerSSH.SSHProxy.Session

open SshWire
open SSHServer (Request Reply createReply)

inductive ExitRequest where
  | exitStatus (exitStatus : UInt32)
  | exitSignal (signal : List UInt8) (coreDumped : Bool) (errorMessage languageTag : List UInt8)

structure Channel where
  sentRequests : List ExitRequest := []
  sentEOF : Bool := false
  sentClose : Bool := false
  receivedEOF : Bool := false
  receivedClose : Bool := false

namespace Channel

variable (c : Channel)

def finished : Bool := c.receivedEOF || c.receivedClose

def closed : Bool := c.sentClose || c.receivedClose

def writable : Bool := !(c.sentEOF || c.closed)

def sendRequest (request : ExitRequest) : Channel :=
  if c.closed then c else { c with sentRequests := c.sentRequests ++ [request] }

def closeWrite : Channel := if c.closed then c else { c with sentEOF := true }

def close : Channel := if c.closed then c else { c with sentClose := true }

end Channel

structure ChannelWrapper where
  channel : Option Channel := none
  exitSent : Bool := false
  exitSignalSent : Bool := false
  closedWrite : Bool := false
  closed : Bool := false

-- A method that panics has no result.
namespace ChannelWrapper

variable (w : ChannelWrapper)

def exitStatus (exitCode : UInt32) : Option ChannelWrapper :=
  w.channel.map fun channel =>
    if w.exitSent || w.closed then w
    else { w with exitSent := true, channel := some (channel.sendRequest (.exitStatus exitCode)) }

def exitSignal (signal : List UInt8) (coreDumped : Bool)
    (errorMessage languageTag : List UInt8) : Option ChannelWrapper :=
  w.channel.map fun channel =>
    if w.exitSignalSent || w.closed then w
    else
      { w with
        exitSignalSent := true
        channel := some (channel.sendRequest
          (.exitSignal signal coreDumped errorMessage languageTag)) }

def closeWrite : Option ChannelWrapper :=
  w.channel.map fun channel =>
    if w.closed || w.closedWrite then w
    else { w with channel := some channel.closeWrite }

def close : Option ChannelWrapper :=
  w.channel.map fun channel => { w with closed := true, channel := some channel.close }

def onClose : ChannelWrapper := { w with closed := true }

end ChannelWrapper

def exitStatusPayload : Struct := ⟨"exitStatusPayload", [⟨"ExitStatus", .uint32⟩]⟩

def exitSignalPayload : Struct :=
  ⟨"exitSignalPayload", [⟨"Signal", .string⟩, ⟨"CoreDumped", .bool⟩,
    ⟨"ErrorMessage", .string⟩, ⟨"LanguageTag", .string⟩]⟩

inductive BackendRequest where
  | exitStatus (exitStatus : UInt32)
  | exitSignal (signal : List UInt8) (coreDumped : Bool) (errorMessage languageTag : List UInt8)
  | undecodable (reply : String)
  | unknown

def backendRequest (request : Request) : BackendRequest :=
  if request.requestType = "exit-status" then
    match unmarshal exitStatusPayload request.payload with
    | .ok (exitStatus, ()) => .exitStatus exitStatus
    | .error _ => .undecodable "Failed to decode message."
  else if request.requestType = "exit-signal" then
    match unmarshal exitSignalPayload request.payload with
    | .ok (signal, coreDumped, errorMessage, languageTag, ()) =>
      .exitSignal signal coreDumped errorMessage languageTag
    | .error _ => .undecodable ""
  else .unknown

def BackendRequest.isExit : BackendRequest → Bool
  | .exitStatus _ => true
  | .exitSignal _ _ _ _ => true
  | _ => false

inductive RequestKind where
  | env
  | pty
  | exec
  | shell
  | subsystem
  | signal
  | window
deriving DecidableEq

inductive SendOutcome where
  | accepted
  | rejected
  | fails (err : GoError)
deriving DecidableEq

def RequestKind.name : RequestKind → String
  | .env => "env"
  | .pty => "pty-req"
  | .exec => "exec"
  | .shell => "shell"
  | .subsystem => "subsystem"
  | .signal => "signal"
  | .window => "window-change"

def alreadyStarted : String → String → GoError := userMessage "SSHPROXY_PROGRAM_ALREADY_STARTED"

def notStarted : String → String → GoError := userMessage "SSHPROXY_PROGRAM_NOT_STARTED"

def secondProgram : GoError :=
  alreadyStarted "Cannot start a program after another program has started."
    "Client tried start a second program after the program was already started."

def RequestKind.refusal (started : Bool) : RequestKind → Option GoError
  | .env =>
    if started then
      some (alreadyStarted "Cannot set environment variable after program has started."
        ("Client tried to set environment variables after the program was " ++ "already started."))
    else none
  | .pty =>
    if started then
      some (alreadyStarted "Cannot request PTY after program has started."
        "Client tried request PTY after the program was already started.")
    else none
  | .exec => if started then some secondProgram else none
  | .shell => if started then some secondProgram else none
  | .subsystem => if started then some secondProgram else none
  | .signal =>
    if started then none
    else
      some (notStarted "Cannot signal before program has started."
        "Client tried send a signal before the program was started.")
  | .window =>
    if started then none
    else
      some (notStarted "Cannot resize window before program has started."
        "Client tried request a window change before the program was started.")

def sendRequest (name : String) : SendOutcome → Option GoError
  | .accepted => none
  | .rejected =>
    some (userMessage "SSHPROXY_BACKEND_REQUEST_FAILED" "Cannot complete request."
      ("Sending a " ++ name ++ " request resulted in a rejection from the backend."))
  | .fails err =>
    some (wrapUser err "SSHPROXY_BACKEND_REQUEST_FAILED" "Cannot complete request."
      ("Sending a " ++ name ++ " request to the backend resulted in an error."))

def RequestKind.send (kind : RequestKind) (outcome : SendOutcome) :
    Option GoError :=
  match kind, sendRequest kind.name outcome with
  | .window, some err =>
    some (wrapUser err "SSHPROXY_BACKEND_WINDOW_CHANGE_FAILED" "Cannot change window size."
      ("ContainerSSH cannot change the window size because of an error on " ++
        "the backend connection."))
  | _, answer => answer

def RequestKind.startsProgram : RequestKind → Bool
  | .exec => true
  | .shell => true
  | .subsystem => true
  | _ => false

/-- A request that was sent to the backing server for the client, and how it ended. -/
structure Sent where
  kind : RequestKind
  outcome : SendOutcome

inductive Stage where
  | returning
  | accepting
  | refused
  | serving
  | closing
  | closed
deriving DecidableEq

inductive LoopPoint where
  | selecting
  | handling (request : Request)
  | closing
  | ended
deriving DecidableEq

inductive StdinPoint where
  | copying
  | closing
  | ended
deriving DecidableEq

inductive Output where
  | stdout
  | stderr
deriving DecidableEq

instance decidableForallOutput (p : Output → Prop) [DecidablePred p] : Decidable (∀ fd, p fd) :=
  decidable_of_iff (p .stdout ∧ p .stderr)
    ⟨fun h fd => by cases fd; exacts [h.1, h.2], fun h => ⟨h _, h _⟩⟩

structure State where
  stage : Stage := .returning
  wrapper : ChannelWrapper := {}
  answers : List (Option GoError) := []
  sent : List Sent := []
  started : Bool := false
  done : Bool := false
  exited : Bool := false
  backing : Channel := {}
  requests : List Request := []
  replies : List Reply := []
  loop : LoopPoint := .selecting
  stdin : StreamCopy UInt8 := {}
  stdinPoint : StdinPoint := .copying
  output : Output → StreamCopy UInt8 := fun _ => {}
  outputClosed : Bool := false
  panicked : Bool := false

inductive Action where
  | backendSends (fd : Output) (data : List UInt8)
  | backendRequest (request : Request)
  | backendEOF
  | backendClose
  | clientSends (data : List UInt8)
  | clientEOF
  | clientClose
  | returned
  | accept (succeeds : Bool)
  | request (kind : RequestKind) (outcome : SendOutcome)
  | unregister
  | onClose
  | select
  | selectDone
  | handle
  | readStdin (size : Nat)
  | writeStdin (size : Nat)
  | closeWriteStdin
  | closeStdin
  | readOutput (fd : Output) (size : Nat)
  | writeOutput (fd : Output) (size : Nat)
  | closeOnOutputComplete
  | kill (outcome : SendOutcome)

namespace State

variable (s : State)

def use : Option ChannelWrapper → State
  | none => { s with panicked := true }
  | some wrapper => { s with wrapper }

def setChannel (channel : Channel) : State := { s with wrapper.channel := some channel }

def setOutput (fd : Output) (copy : StreamCopy UInt8) : State :=
  { s with output := Function.update s.output fd copy }

def send (kind : RequestKind) (outcome : SendOutcome) : State × Option GoError :=
  ({ s with sent := s.sent ++ [⟨kind, outcome⟩] }, kind.send outcome)

def onRequest (kind : RequestKind) (outcome : SendOutcome) : State :=
  match kind.refusal s.started with
  | some err => { s with answers := s.answers ++ [some err] }
  | none =>
    match s.send kind outcome with
    | (s, some err) => { s with answers := s.answers ++ [some err] }
    | (s, none) =>
      { s with answers := s.answers ++ [none], started := s.started || kind.startsProgram }

def reply (request : Request) (success : Bool) (message : String) : State :=
  { s with replies := s.replies ++ createReply request success message }

def handleRequest (request : Request) : State :=
  match Session.backendRequest request with
  | .exitStatus exitStatus => (s.reply request true "").use (s.wrapper.exitStatus exitStatus)
  | .exitSignal signal coreDumped errorMessage languageTag =>
    (s.reply request true "").use (s.wrapper.exitSignal signal coreDumped errorMessage languageTag)
  | .undecodable message => s.reply request false message
  | .unknown => s.reply request false ""

def handle : Option State :=
  match s.loop with
  | .handling request => some { s.handleRequest request with loop := .selecting }
  | .closing => some { s.use s.wrapper.close with loop := .ended }
  | _ => none

def select : Option State :=
  if s.loop = .selecting then
    match s.requests with
    | request :: requests => some { s with requests, loop := .handling request }
    | [] => if s.backing.receivedClose then some { s with loop := .closing } else none
  else none

def onClient (act : Channel → Option State) : Option State := s.wrapper.channel.bind act

def onStream (act : Channel → Option State) : Option State :=
  if s.started then
    match s.wrapper.channel with
    | none => some { s with panicked := true }
    | some channel => act channel
  else none

def take : Action → Option State
  | .backendSends fd data =>
    if s.backing.finished then none
    else some (s.setOutput fd ((s.output fd).feed data))
  | .backendRequest request =>
    if s.backing.receivedClose then none
    else some { s with requests := s.requests ++ [request] }
  | .backendEOF =>
    if s.backing.finished then none
    else some { s with backing.receivedEOF := true }
  | .backendClose =>
    if s.backing.receivedClose then none
    else some { s with backing.receivedClose := true }
  | .clientSends data =>
    s.onClient fun channel =>
      if channel.finished then none
      else some { s with stdin := s.stdin.feed data }
  | .clientEOF =>
    s.onClient fun channel =>
      if channel.finished then none
      else some (s.setChannel { channel with receivedEOF := true })
  | .clientClose =>
    s.onClient fun channel =>
      if channel.receivedClose then none
      else some (s.setChannel { channel with receivedClose := true })
  | .returned => if s.stage = .returning then some { s with stage := .accepting } else none
  | .accept succeeds =>
    if s.stage = .accepting then
      if succeeds then some { s.setChannel {} with stage := .serving }
      else some { s with stage := .refused }
    else none
  | .request kind outcome => if s.stage = .serving then some (s.onRequest kind outcome) else none
  | .unregister =>
    s.onClient fun channel =>
      if s.stage = .serving ∧ channel.receivedClose then
        some { s with wrapper := s.wrapper.onClose, stage := .closing }
      else none
  | .onClose =>
    if s.stage = .closing then
      some { s with backing := s.backing.close, done := true, exited := true, stage := .closed }
    else none
  | .select => s.select
  | .selectDone =>
    if s.loop = .selecting ∧ s.done then some { s with loop := .ended }
    else none
  | .handle => s.handle
  | .readStdin size =>
    s.onStream fun channel => (s.stdin.read size channel.finished).map fun stdin => { s with stdin }
  | .writeStdin size => (s.stdin.write size s.backing.writable).map fun stdin => { s with stdin }
  | .closeWriteStdin =>
    if s.stdin.ended ∧ s.stdinPoint = .copying then
      some { s with backing := s.backing.closeWrite, stdinPoint := .closing }
    else none
  | .closeStdin =>
    if s.stdinPoint = .closing then some { s with backing := s.backing.close, stdinPoint := .ended }
    else none
  | .readOutput fd size =>
    s.onStream fun _ => ((s.output fd).read size s.backing.finished).map (s.setOutput fd)
  | .writeOutput fd size =>
    s.onStream fun channel => ((s.output fd).write size channel.writable).map (s.setOutput fd)
  | .closeOnOutputComplete =>
    if s.started ∧ (∀ fd, (s.output fd).ended) ∧ s.outputClosed = false then
      some { s.use s.wrapper.closeWrite with outputClosed := true }
    else none
  -- `OnShutdown` after its context has ended; the TERM signal before that
  -- changes nothing here.
  | .kill outcome =>
    if s.exited then none
    else
      match sendRequest "signal" outcome with
      | none => some s
      | some _ => some { s with backing := s.backing.close }

def step (action : Action) : Option State := if s.panicked then none else s.take action

end State

def system : TransitionSystem State Action := ⟨{}, State.step⟩

def ChannelWrapper.sentClose (w : ChannelWrapper) : Bool := w.channel.any Channel.sentClose

def State.usesSession (s : State) : Bool :=
  match s.loop with
  | .handling request => (backendRequest request).isExit
  | .closing => true
  | _ => false

structure State.Ok (s : State) : Prop where
  channel_of_serving : s.stage = .serving → s.wrapper.channel.isSome = true
  channel_of_started : s.started = true → s.wrapper.channel.isSome = true
  closed_of_closing : s.loop = .closing → s.backing.receivedClose = true
  closed_of_sentClose : s.wrapper.sentClose = true → s.backing.receivedClose = true
  nil_of_early : s.stage = .returning ∨ s.stage = .accepting → s.wrapper.channel = none

inductive Does (s : State) : Action → State → Prop where
  | backendSends (fd : Output) (data : List UInt8) (hopen : s.backing.finished = false) :
      Does s (.backendSends fd data) (s.setOutput fd ((s.output fd).feed data))
  | backendRequest (request : Request) : Does s (.backendRequest request)
        { s with requests := s.requests ++ [request] }
  | backendEOF : Does s .backendEOF { s with backing.receivedEOF := true }
  | backendClose : Does s .backendClose { s with backing.receivedClose := true }
  | clientSends (data : List UInt8) :
      Does s (.clientSends data) { s with stdin := s.stdin.feed data }
  | clientEOF {channel : Channel} (hchannel : s.wrapper.channel = some channel) :
      Does s .clientEOF (s.setChannel { channel with receivedEOF := true })
  | clientClose {channel : Channel} (hchannel : s.wrapper.channel = some channel) :
      Does s .clientClose (s.setChannel { channel with receivedClose := true })
  | returned (hstage : s.stage = .returning) : Does s .returned { s with stage := .accepting }
  | accepted (hstage : s.stage = .accepting) :
      Does s (.accept true) { s.setChannel {} with stage := .serving }
  | notAccepted : Does s (.accept false) { s with stage := .refused }
  | answered {answer : Option GoError} {kind : RequestKind} {outcome : SendOutcome}
      {sent : List Sent} {started : Bool} (hstage : s.stage = .serving)
      (hstarted : started = false → s.started = false) :
      Does s (.request kind outcome) { s with answers := s.answers ++ [answer], sent, started }
  | unregister {channel : Channel} (hchannel : s.wrapper.channel = some channel)
      (hclosed : channel.receivedClose = true) :
      Does s .unregister { s with wrapper := s.wrapper.onClose, stage := .closing }
  | onClose (hstage : s.stage = .closing) : Does s .onClose { s with
          backing := s.backing.close
          done := true
          exited := true
          stage := .closed }
  | selectRequest {request : Request} {requests : List Request}
      (hrequests : s.requests = request :: requests) :
      Does s .select { s with requests, loop := .handling request }
  | selectClosed (hempty : s.requests = []) (hclosed : s.backing.receivedClose = true) :
      Does s .select { s with loop := .closing }
  | selectDone : Does s .selectDone { s with loop := .ended }
  | replied {replies : List Reply} (hquiet : s.usesSession = false) :
      Does s .handle { s with replies, loop := .selecting }
  | exited {replies : List Reply} {wrapper : ChannelWrapper} {channel : Channel}
      {sentRequests : List ExitRequest} (hchannel : s.wrapper.channel = some channel)
      (hsent : wrapper.channel = some { channel with sentRequests }) :
      Does s .handle { s with replies, wrapper, loop := .selecting }
  | closed {channel : Channel} (hloop : s.loop = .closing)
      (hchannel : s.wrapper.channel = some channel) : Does s .handle { s with
          wrapper := { s.wrapper with closed := true, channel := some channel.close }
          loop := .ended }
  | panicked {replies : List Reply} {loop : LoopPoint}
      (huses : s.usesSession = true) (hloop : loop ≠ .closing) (hnil : s.wrapper.channel = none) :
      Does s .handle { s with replies, loop, panicked := true }
  | readStdin {size : Nat} {stdin : StreamCopy UInt8} {channel : Channel}
      (hchannel : s.wrapper.channel = some channel)
      (hread : s.stdin.read size channel.finished = some stdin) :
      Does s (.readStdin size) { s with stdin }
  | writeStdin {size : Nat} {stdin : StreamCopy UInt8}
      (hwrite : s.stdin.write size s.backing.writable = some stdin) :
      Does s (.writeStdin size) { s with stdin }
  | closeWriteStdin (hended : s.stdin.ended = true) : Does s .closeWriteStdin
        { s with backing := s.backing.closeWrite, stdinPoint := .closing }
  | closeStdin (hpoint : s.stdinPoint = .closing) :
      Does s .closeStdin { s with backing := s.backing.close, stdinPoint := .ended }
  | readOutput {fd : Output} {size : Nat} {copy : StreamCopy UInt8}
      (hread : (s.output fd).read size s.backing.finished = some copy) :
      Does s (.readOutput fd size) (s.setOutput fd copy)
  | writeOutput {fd : Output} {size : Nat} {channel : Channel} {copy : StreamCopy UInt8}
      (hchannel : s.wrapper.channel = some channel)
      (hwrite : (s.output fd).write size channel.writable = some copy) :
      Does s (.writeOutput fd size) (s.setOutput fd copy)
  | closeOnOutputComplete {wrapper : ChannelWrapper} {channel : Channel} {sentEOF : Bool}
      (hended : ∀ fd, (s.output fd).ended = true) (hchannel : s.wrapper.channel = some channel)
      (hsent : wrapper.channel = some { channel with sentEOF }) :
      Does s .closeOnOutputComplete { s with wrapper, outputClosed := true }
  | killed {outcome : SendOutcome} (haccepted : sendRequest "signal" outcome = none) :
      Does s (.kill outcome) s
  | closedByShutdown {outcome : SendOutcome} (hfails : sendRequest "signal" outcome ≠ none) :
      Does s (.kill outcome) { s with backing := s.backing.close }

section Inversion

variable {s t : State}

@[simp]
theorem Channel.finished_close (c : Channel) : c.close.finished = c.finished := by
  rw [Channel.close]
  split <;> rfl

@[simp]
theorem Channel.finished_closeWrite (c : Channel) : c.closeWrite.finished = c.finished := by
  rw [Channel.closeWrite]
  split <;> rfl

@[simp]
theorem Channel.receivedClose_close (c : Channel) : c.close.receivedClose = c.receivedClose := by
  rw [Channel.close]
  split <;> rfl

@[simp]
theorem Channel.receivedClose_closeWrite (c : Channel) :
    c.closeWrite.receivedClose = c.receivedClose := by
  rw [Channel.closeWrite]
  split <;> rfl

theorem State.output_setOutput (s : State) (fd fd' : Output) (copy : StreamCopy UInt8) :
    (s.setOutput fd copy).output fd' = if fd' = fd then copy else s.output fd' :=
  Function.update_apply s.output fd copy fd'

/-- A method that informs the client of an exit panics, or sends one request at most. -/
inductive ChannelWrapper.Informs (w : ChannelWrapper) : Option ChannelWrapper → Prop where
  | panics (hnil : w.channel = none) : Informs w none
  | sends {w' : ChannelWrapper} {channel : Channel} {sentRequests : List ExitRequest}
      (hchannel : w.channel = some channel)
      (hsent : w'.channel = some { channel with sentRequests }) : Informs w (some w')

theorem Channel.sendRequest_eq (c : Channel) (request : ExitRequest) :
    ∃ sentRequests, c.sendRequest request = { c with sentRequests } := by
  rw [Channel.sendRequest]
  split
  · exact ⟨c.sentRequests, rfl⟩
  · exact ⟨_, rfl⟩

theorem ChannelWrapper.informs_map {w : ChannelWrapper} {act : Channel → ChannelWrapper}
    (request : ExitRequest) (hact : ∀ channel, w.channel = some channel →
      act channel = w ∨ (act channel).channel = some (channel.sendRequest request)) :
    w.Informs (w.channel.map act) := by
  cases hchannel : w.channel with
  | none => exact .panics hchannel
  | some channel =>
    rcases hact channel hchannel with hsame | hsent
    · exact .sends hchannel (hsame ▸ hchannel)
    · obtain ⟨sentRequests, hrequests⟩ := channel.sendRequest_eq request
      exact .sends hchannel (hsent.trans (congrArg some hrequests))

theorem ChannelWrapper.informs_exitStatus (w : ChannelWrapper) (exitCode : UInt32) :
    w.Informs (w.exitStatus exitCode) := by
  refine informs_map (.exitStatus exitCode) fun channel hchannel => ?_
  split
  · exact .inl rfl
  · exact .inr rfl

theorem ChannelWrapper.informs_exitSignal (w : ChannelWrapper)
    (signal : List UInt8) (coreDumped : Bool) (errorMessage languageTag : List UInt8) :
    w.Informs (w.exitSignal signal coreDumped errorMessage languageTag) := by
  refine informs_map (.exitSignal signal coreDumped errorMessage languageTag)
    fun channel hchannel => ?_
  split
  · exact .inl rfl
  · exact .inr rfl

theorem ChannelWrapper.closeWrite_eq {w : ChannelWrapper} {channel : Channel}
    (hchannel : w.channel = some channel) : ∃ w' sentEOF, w.closeWrite = some w' ∧
      w'.channel = some { channel with sentEOF } := by
  rw [ChannelWrapper.closeWrite, hchannel, Option.map_some]
  split
  · exact ⟨w, channel.sentEOF, rfl, hchannel⟩
  · rw [Channel.closeWrite]
    split
    · exact ⟨_, channel.sentEOF, rfl, rfl⟩
    · exact ⟨_, true, rfl, rfl⟩

theorem does_of_informs {replies : List Reply} {result : Option ChannelWrapper}
    (huses : s.usesSession = true) (hinforms : s.wrapper.Informs result) :
    Does s .handle { { s with replies }.use result with loop := .selecting } := by
  cases hinforms with
  | panics hnil => exact .panicked huses nofun hnil
  | sends hchannel hsent => exact .exited hchannel hsent

theorem does_of_handle (hstep : s.handle = some t) : Does s .handle t := by
  unfold State.handle at hstep
  split at hstep
  next request hloop =>
    cases hstep
    unfold State.handleRequest
    split
    next exitStatus hrequest =>
      exact does_of_informs (by simp [State.usesSession, hloop, hrequest, BackendRequest.isExit])
        (s.wrapper.informs_exitStatus exitStatus)
    next signal coreDumped errorMessage languageTag hrequest =>
      exact does_of_informs (by simp [State.usesSession, hloop, hrequest, BackendRequest.isExit])
        (s.wrapper.informs_exitSignal signal coreDumped errorMessage languageTag)
    all_goals
      next hrequest =>
        exact .replied (by simp [State.usesSession, hloop, hrequest, BackendRequest.isExit])
  next hloop =>
    cases hstep
    cases hchannel : s.wrapper.channel with
    | none =>
      simp only [ChannelWrapper.close, hchannel]
      exact .panicked (by simp [State.usesSession, hloop]) nofun hchannel
    | some =>
      simp only [ChannelWrapper.close, hchannel]
      exact .closed hloop hchannel
  next => cases hstep

theorem does_of_select (hstep : s.select = some t) : Does s .select t := by
  rw [State.select, Option.ite_none_right_eq_some] at hstep
  obtain ⟨-, hstep⟩ := hstep
  split at hstep
  next hrequests =>
    cases hstep
    exact .selectRequest hrequests
  next hempty =>
    rw [Option.ite_none_right_eq_some] at hstep
    obtain ⟨hclosed, hstep⟩ := hstep
    cases hstep
    exact .selectClosed hempty hclosed

theorem does_of_request {kind : RequestKind} {outcome : SendOutcome} (hstage : s.stage = .serving) :
    Does s (.request kind outcome) (s.onRequest kind outcome) := by
  unfold State.onRequest State.send
  split
  next => exact .answered hstage id
  next =>
    split
    next hsend =>
      obtain ⟨rfl, -⟩ := Prod.mk.inj hsend
      exact .answered hstage id
    next hsend =>
      obtain ⟨rfl, -⟩ := Prod.mk.inj hsend
      exact .answered hstage fun hstarted => (Bool.or_eq_false_iff.mp hstarted).1

theorem onStream_eq_some (hs : s.Ok) {act : Channel → Option State}
    (hstep : s.onStream act = some t) :
    ∃ channel, s.wrapper.channel = some channel ∧ act channel = some t := by
  rw [State.onStream, Option.ite_none_right_eq_some] at hstep
  obtain ⟨hstarted, hstep⟩ := hstep
  obtain ⟨channel, hchannel⟩ := Option.isSome_iff_exists.mp (hs.channel_of_started hstarted)
  rw [hchannel] at hstep
  exact ⟨channel, hchannel, hstep⟩

theorem does_of_step (hs : s.Ok) {action : Action}
    (hstep : s.step action = some t) : Does s action t := by
  replace hstep := (Option.ite_none_left_eq_some.mp hstep).2
  cases action <;>
    simp only [State.take, State.onClient, Option.ite_none_left_eq_some,
      Option.ite_none_right_eq_some, Option.bind_eq_some_iff, Option.map_eq_some_iff,
      Option.some.injEq] at hstep
  case backendSends fd data =>
    obtain ⟨hopen, rfl⟩ := hstep
    exact .backendSends fd data (Bool.eq_false_iff.mpr hopen)
  case backendRequest | backendEOF | backendClose | selectDone =>
    obtain ⟨-, rfl⟩ := hstep
    constructor
  case returned | onClose | closeStdin =>
    obtain ⟨hat, rfl⟩ := hstep
    exact by constructor; exact hat
  case closeWriteStdin =>
    obtain ⟨⟨hended, -⟩, rfl⟩ := hstep
    exact .closeWriteStdin hended
  case clientSends =>
    obtain ⟨channel, -, -, rfl⟩ := hstep
    exact .clientSends _
  case unregister =>
    obtain ⟨channel, hchannel, ⟨-, hclosed⟩, rfl⟩ := hstep
    exact .unregister hchannel hclosed
  case clientEOF =>
    obtain ⟨channel, hchannel, -, rfl⟩ := hstep
    exact .clientEOF hchannel
  case clientClose =>
    obtain ⟨channel, hchannel, -, rfl⟩ := hstep
    exact .clientClose hchannel
  case accept succeeds =>
    obtain ⟨hstage, hstep⟩ := hstep
    cases succeeds <;> cases hstep
    · exact .notAccepted
    · exact .accepted hstage
  case request =>
    obtain ⟨hstage, rfl⟩ := hstep
    exact does_of_request hstage
  case select => exact does_of_select hstep
  case handle => exact does_of_handle hstep
  case readStdin =>
    obtain ⟨channel, hchannel, hact⟩ := onStream_eq_some hs hstep
    obtain ⟨stdin, hread, rfl⟩ := Option.map_eq_some_iff.mp hact
    exact .readStdin hchannel hread
  case writeStdin =>
    obtain ⟨stdin, hwrite, rfl⟩ := hstep
    exact .writeStdin hwrite
  case readOutput =>
    obtain ⟨channel, -, hact⟩ := onStream_eq_some hs hstep
    obtain ⟨copy, hread, rfl⟩ := Option.map_eq_some_iff.mp hact
    exact .readOutput hread
  case writeOutput =>
    obtain ⟨channel, hchannel, hact⟩ := onStream_eq_some hs hstep
    obtain ⟨copy, hwrite, rfl⟩ := Option.map_eq_some_iff.mp hact
    exact .writeOutput hchannel hwrite
  case closeOnOutputComplete =>
    obtain ⟨⟨hstarted, hended, -⟩, rfl⟩ := hstep
    obtain ⟨channel, hchannel⟩ := Option.isSome_iff_exists.mp (hs.channel_of_started hstarted)
    obtain ⟨wrapper, sentEOF, hwrapper, hsent⟩ := ChannelWrapper.closeWrite_eq hchannel
    rw [hwrapper]
    exact .closeOnOutputComplete hended hchannel hsent
  case kill =>
    obtain ⟨-, hstep⟩ := hstep
    split at hstep <;> cases hstep
    next haccepted => exact .killed haccepted
    next hfails => exact .closedByShutdown (by simp [hfails])

theorem ok_step (hs : s.Ok) {action : Action} (hstep : s.step action = some t) :
    t.Ok := by
  have hdoes := does_of_step hs hstep
  obtain ⟨hserving, hstarted, hclosing, hsent, hnil⟩ := hs
  have hnot {channel : Channel} (hchannel : s.wrapper.channel = some channel)
      (hearly : s.stage = .returning ∨ s.stage = .accepting) : False :=
    nomatch (hnil hearly).symm.trans hchannel
  cases hdoes with
  | backendSends | backendRequest | backendEOF | clientSends | readStdin
  | writeStdin | readOutput | writeOutput | killed =>
    exact ⟨hserving, hstarted, hclosing, hsent, hnil⟩
  | backendClose => exact ⟨hserving, hstarted, fun _ => rfl, fun _ => rfl, hnil⟩
  | clientEOF hchannel | clientClose hchannel =>
    refine ⟨fun _ => rfl, fun _ => rfl, hclosing, fun h => hsent ?_, fun h => (hnot hchannel h).elim⟩
    rwa [ChannelWrapper.sentClose, hchannel]
  | accepted => exact ⟨fun _ => rfl, fun _ => rfl, hclosing, nofun, by simp⟩
  | returned hstage => exact ⟨nofun, hstarted, hclosing, hsent, fun _ => hnil (.inl hstage)⟩
  | notAccepted | unregister => exact ⟨nofun, hstarted, hclosing, hsent, by simp⟩
  | answered hstage => exact ⟨hserving, fun _ => hserving hstage, hclosing, hsent, hnil⟩
  | onClose =>
    refine ⟨nofun, hstarted, fun h => ?_, fun h => ?_, by simp⟩
    · rw [Channel.receivedClose_close, hclosing h]
    · rw [Channel.receivedClose_close, hsent h]
  | selectRequest | selectDone | replied => exact ⟨hserving, hstarted, nofun, hsent, hnil⟩
  | selectClosed hempty hclosed => exact ⟨hserving, hstarted, fun _ => hclosed, hsent, hnil⟩
  | exited hchannel hinformed =>
    refine ⟨fun _ => by simp [hinformed], fun _ => by simp [hinformed], nofun, fun h => hsent ?_,
      fun h => (hnot hchannel h).elim⟩
    simpa [ChannelWrapper.sentClose, hchannel, hinformed] using h
  | closed hloop hchannel =>
    exact ⟨fun _ => rfl, fun _ => rfl, nofun, fun _ => hclosing hloop,
      fun h => (hnot hchannel h).elim⟩
  | panicked huses hloop => exact ⟨hserving, hstarted, fun h => absurd h hloop, hsent, hnil⟩
  | closeWriteStdin =>
    refine ⟨hserving, hstarted, fun h => ?_, fun h => ?_, hnil⟩
    · rw [Channel.receivedClose_closeWrite, hclosing h]
    · rw [Channel.receivedClose_closeWrite, hsent h]
  | closeStdin | closedByShutdown =>
    refine ⟨hserving, hstarted, fun h => ?_, fun h => ?_, hnil⟩
    · rw [Channel.receivedClose_close, hclosing h]
    · rw [Channel.receivedClose_close, hsent h]
  | closeOnOutputComplete hended hchannel hwritten =>
    refine ⟨fun _ => by simp [hwritten], fun _ => by simp [hwritten], hclosing, fun h => hsent ?_,
      fun h => (hnot hchannel h).elim⟩
    simpa [ChannelWrapper.sentClose, hchannel, hwritten] using h

theorem ok_init : State.Ok {} := by
  constructor <;> simp [ChannelWrapper.sentClose]

end Inversion

end ContainerSSH.SSHProxy.Session
