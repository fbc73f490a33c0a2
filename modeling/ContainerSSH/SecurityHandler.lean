/-
The security layer of a connection: the session handler and the connection handler that decide
which client requests reach the backend.
-/
import ContainerSSH.SecurityConfig

namespace ContainerSSH

inductive SessionRequest where
  | env (requestID : UInt64) (name value : String)
  | pty (requestID : UInt64) (term : String)
      (columns rows width height : UInt32) (modeList : List UInt8)
  | exec (requestID : UInt64) (program : String)
  | shell (requestID : UInt64)
  | subsystem (requestID : UInt64) (subsystem : String)
  | signal (requestID : UInt64) (signal : String)
  | window (requestID : UInt64) (columns rows width height : UInt32)
  | x11 (requestID : UInt64) (singleConnection : Bool) (protocol cookie : String) (screen : UInt32)

inductive ConnectionRequest where
  | sessionChannel (channelID : UInt64) (extraData : List UInt8)
  | tcpForwardChannel (channelID : UInt64) (hostToConnect : String)
      (portToConnect : UInt32) (originatorHost : String) (originatorPort : UInt32)
  | tcpReverseForward (bindHost : String) (bindPort : UInt32)
  | cancelTCPReverseForward (bindHost : String) (bindPort : UInt32)
  | directStreamLocal (channelID : UInt64) (path : String)
  | streamLocal (path : String)
  | cancelStreamLocal (path : String)

inductive Call where
  | session (channel : Nat) (request : SessionRequest)
  | connection (request : ConnectionRequest)

abbrev Trace := List (Call × Option GoError)

structure Backend where
  answer : Trace → Call → Option GoError

abbrev Served := Option GoError × Trace

def Backend.call (b : Backend) (t : Trace) (c : Call) : Served :=
  (b.answer t c, [(c, b.answer t c)])

def SecurityConfig.getPolicy (c : SecurityConfig)
    (primary : SecurityExecutionPolicy) : SecurityExecutionPolicy :=
  if primary ≠ executionPolicyUnconfigured then primary
  else if c.defaultMode ≠ executionPolicyUnconfigured then c.defaultMode
  else executionPolicyEnable

def contains (items : List String) (item : String) : Bool :=
  match items with
  | [] => false
  | searchItem :: rest => if searchItem = item then true else contains rest item

@[simp]
theorem contains_eq_true_iff (items : List String) (item : String) :
    contains items item = true ↔ item ∈ items := by
  induction items with
  | nil => simp [contains]
  | cons head rest ih =>
    by_cases heq : head = item
    · simp [contains, heq]
    · have hne : item ≠ head := Ne.symm heq
      simp [contains, heq, hne, ih]

@[simp]
theorem contains_eq_false_iff (items : List String) (item : String) :
    contains items item = false ↔ item ∉ items := by
  rw [← contains_eq_true_iff, Bool.not_eq_true]

def reject (err : GoError) : Served := (some err, [])

def filterByLists (mode : SecurityExecutionPolicy) (allow deny : List String)
    (name : String) (disabled notAllowed denied : GoError)
    (forward : Served) : Served :=
  if mode = executionPolicyDisable then reject disabled
  else if mode = executionPolicyFilter then
    if contains allow name then forward else reject notAllowed
  else if contains deny name then reject denied else forward

def enableOnly (mode : SecurityExecutionPolicy) (disabled filtered : GoError)
    (forward : Served) : Served :=
  if mode = executionPolicyDisable then reject disabled
  else if mode = executionPolicyFilter then reject filtered
  else forward

structure SessionHandler where
  config : SecurityConfig
  backend : Backend
  channel : Nat

namespace SessionHandler

variable (s : SessionHandler)

def getPolicy (primary : SecurityExecutionPolicy) : SecurityExecutionPolicy :=
  s.config.getPolicy primary

def call (t : Trace) (request : SessionRequest) : Served :=
  s.backend.call t (.session s.channel request)

def onEnvRequest (t : Trace) (requestID : UInt64) (name value : String) :
    Served :=
  let rejected (explanation : String) : GoError :=
    (userMessage "SECURITY_ENV_REJECTED"
      "Environment variable setting rejected." explanation).label "name" name
  filterByLists (s.getPolicy s.config.env.mode) s.config.env.allow s.config.env.deny name
    (rejected "Setting an environment variable is rejected because it is disabled in the security settings.")
    (rejected "Setting an environment variable is rejected because it does not match the allow list.")
    (rejected "Setting an environment variable is rejected because it matches the deny list.")
    (s.call t (.env requestID name value))

def ttyRejected : GoError :=
  userMessage "SECURITY_TTY_REJECTED" "TTY allocation disabled."
    "TTY allocation is disabled in the security settings."

def onPtyRequest (t : Trace) (requestID : UInt64) (term : String)
    (columns rows width height : UInt32) (modeList : List UInt8) : Served :=
  enableOnly (s.getPolicy s.config.tty.mode) ttyRejected ttyRejected
    (s.call t (.pty requestID term columns rows width height modeList))

def forceWithOriginal (t : Trace) (requestID : UInt64) (original : String) :
    Served :=
  let setEnv := s.call t (.env requestID "SSH_ORIGINAL_COMMAND" original)
  match setEnv.1 with
  | some err =>
    (some (wrapUser err "SECURITY_EXEC_FAILED_SETENV" "Could not execute program."
      "Command execution failed because the security layer could not set the SSH_ORIGINAL_COMMAND variable."),
      setEnv.2)
  | none =>
    let run := s.call (t ++ setEnv.2) (.exec requestID s.config.forceCommand)
    (run.1, setEnv.2 ++ run.2)

def execRejected (explanation : String) : GoError :=
  userMessage "SECURITY_EXEC_REJECTED" "Command execution disabled." explanation

def onExecRequest (t : Trace) (requestID : UInt64) (program : String) :
    Served :=
  let mode := s.getPolicy s.config.command.mode
  if mode = executionPolicyDisable then
    reject (execRejected "Command execution is disabled in the security settings.")
  else if mode = executionPolicyFilter ∧ contains s.config.command.allow program = false then
    reject (execRejected
      "The specified command passed from the client does not match the specified allow list.")
  else if s.config.forceCommand = "" then s.call t (.exec requestID program)
  else s.forceWithOriginal t requestID program

def shellRejected : GoError :=
  userMessage "SECURITY_SHELL_REJECTED" "Shell execution disabled."
    "Shell execution is disabled in the security settings."

def onShell (t : Trace) (requestID : UInt64) : Served :=
  enableOnly (s.getPolicy s.config.shell.mode) shellRejected shellRejected
    (if s.config.forceCommand = "" then s.call t (.shell requestID)
    else s.call t (.exec requestID s.config.forceCommand))

def subsystemRejected (explanation : String) : GoError :=
  userMessage "SECURITY_SUBSYSTEM_REJECTED" "Subsystem execution disabled." explanation

def onSubsystem (t : Trace) (requestID : UInt64) (subsystem : String) :
    Served :=
  let mode := s.getPolicy s.config.subsystem.mode
  if mode = executionPolicyDisable then
    reject (subsystemRejected "Subsystem execution is disabled in the security settings.")
  else if mode = executionPolicyFilter ∧ contains s.config.subsystem.allow subsystem = false then
    reject (subsystemRejected "The specified subsystem does not match the allowed subsystems list.")
  else if mode = executionPolicyEnable ∧ contains s.config.subsystem.deny subsystem = true then
    reject (subsystemRejected
      "The subsystem execution is rejected because the specified subsystem matches the deny list.")
  else if s.config.forceCommand = "" then s.call t (.subsystem requestID subsystem)
  else s.forceWithOriginal t requestID subsystem

def signalRejected (explanation : String) : GoError :=
  userMessage "SECURITY_SIGNAL_REJECTED" "Sending signals is rejected." explanation

def onSignal (t : Trace) (requestID : UInt64) (signal : String) : Served :=
  filterByLists (s.getPolicy s.config.shell.mode) s.config.signal.allow s.config.signal.deny signal
    (signalRejected "Sending the signal is rejected because signal delivery is disabled.")
    (signalRejected "Sending the signal is rejected because the specified signal does not match the allow list.")
    (signalRejected "Sending the signal is rejected because the specified signal matches the deny list.")
    (s.call t (.signal requestID signal))

def onWindow (t : Trace) (requestID : UInt64) (columns rows width height : UInt32) : Served :=
  s.call t (.window requestID columns rows width height)

def x11Rejected (explanation : String) : GoError :=
  userMessage "SECURITY_X11_FORWARDING_REJECTED" "X11 forwarding is rejected" explanation

def onX11Request (t : Trace) (requestID : UInt64) (singleConnection : Bool)
    (protocol cookie : String) (screen : UInt32) : Served :=
  enableOnly (s.getPolicy s.config.forwarding.x11ForwardingMode) (x11Rejected
      "X11 forwarding is rejected because it is disabled in the config") (x11Rejected
      "X11 forwarding is rejected because it is set to filter and filterint X11 requests is not supported")
    (s.call t (.x11 requestID singleConnection protocol cookie screen))

def serve (t : Trace) : SessionRequest → Served
  | .env id name value => s.onEnvRequest t id name value
  | .pty id term columns rows width height modeList =>
    s.onPtyRequest t id term columns rows width height modeList
  | .exec id program => s.onExecRequest t id program
  | .shell id => s.onShell t id
  | .subsystem id subsystem => s.onSubsystem t id subsystem
  | .signal id signal => s.onSignal t id signal
  | .window id columns rows width height => s.onWindow t id columns rows width height
  | .x11 id single protocol cookie screen => s.onX11Request t id single protocol cookie screen

end SessionHandler

structure SSHConnectionHandler where
  config : SecurityConfig
  backend : Backend
  sessionCount : Nat

namespace SSHConnectionHandler

variable (s : SSHConnectionHandler)

def getPolicy (primary : SecurityExecutionPolicy) : SecurityExecutionPolicy :=
  s.config.getPolicy primary

def call (t : Trace) (request : ConnectionRequest) : Served :=
  s.backend.call t (.connection request)

def errTooManySessions : GoError :=
  newChannelRejection .resourceShortage "SECURITY_MAX_SESSIONS"
    "Too many sessions." "The user has opened too many sessions."

def onSessionChannel (t : Trace) (channelID : UInt64)
    (extraData : List UInt8) : SSHConnectionHandler × Served :=
  if s.config.maxSessions > -1 ∧
      s.sessionCount ≥ s.config.maxSessions.toNat then
    (s, reject errTooManySessions)
  else
    let served := s.call t (.sessionChannel channelID extraData)
    match served.1 with
    | some _ => (s, served)
    | none => ({ s with sessionCount := s.sessionCount + 1 }, served)

def forwardingRejected (user explanation : String) : GoError :=
  newChannelRejection .prohibited "SECURITY_FORWARDING_REJECTED" user explanation

def onTCPForwardChannel (t : Trace) (channelID : UInt64)
    (hostToConnect : String) (portToConnect : UInt32)
    (originatorHost : String) (originatorPort : UInt32) : Served :=
  enableOnly (s.getPolicy s.config.forwarding.forwardingMode)
    (forwardingRejected "Forwarding is rejected" "Forwarding is rejected because it is disabled")
    (forwardingRejected "Forwarding is rejected"
      "Forwarding is rejected because it is set to filtered and filtering is currently not supported")
    (s.call t (.tcpForwardChannel channelID hostToConnect portToConnect
      originatorHost originatorPort))

def reverseForwardingRejected (user explanation : String) : GoError :=
  userMessage "SECURITY_REVERSE_FORWARDING_REJECTED" user explanation

def onRequestTCPReverseForward (t : Trace) (bindHost : String) (bindPort : UInt32) : Served :=
  enableOnly (s.getPolicy s.config.forwarding.reverseForwardingMode)
    (reverseForwardingRejected "Reverse forwarding is rejected"
      "Reverse forwarding is rejected because it is disabled in the config")
    (reverseForwardingRejected "Reverse forwarding is rejected"
      "Reverse forwarding is rejected because it is set to filter and filtering reverse forwarding requests is not supported")
    (s.call t (.tcpReverseForward bindHost bindPort))

def onRequestCancelTCPReverseForward (t : Trace) (bindHost : String) (bindPort : UInt32) : Served :=
  s.call t (.cancelTCPReverseForward bindHost bindPort)

def onDirectStreamLocal (t : Trace) (channelID : UInt64) (path : String) :
    Served :=
  enableOnly (s.getPolicy s.config.forwarding.socketForwardingMode)
    (forwardingRejected "StreamLocal forwarding is rejected"
      "StreamLocal forwarding is rejected because it is disabled")
    (forwardingRejected "StreamLocal forwarding is rejected"
      "StreamLocal forwarding is rejected because it is set to filtered and filtering is currently not supported")
    (s.call t (.directStreamLocal channelID path))

def onRequestStreamLocal (t : Trace) (path : String) : Served :=
  enableOnly (s.getPolicy s.config.forwarding.socketListenMode)
    (reverseForwardingRejected "Reverse socket forwarding is rejected"
      "Reverse socket forwarding is rejected because it is disabled in the config")
    (reverseForwardingRejected "Reverse socket forwarding is rejected"
      "Reverse socket forwarding is rejected because it is set to filter and filtering reverse forwarding requests is not supported")
    (s.call t (.streamLocal path))

def onRequestCancelStreamLocal (t : Trace) (path : String) : Served :=
  s.call t (.cancelStreamLocal path)

def session (channel : Nat) : SessionHandler := ⟨s.config, s.backend, channel⟩

def serve (t : Trace) : Call → SSHConnectionHandler × Served
  | .session channel request => (s, (s.session channel).serve t request)
  | .connection (.sessionChannel id extraData) => s.onSessionChannel t id extraData
  | .connection (.tcpForwardChannel id host port origHost origPort) =>
    (s, s.onTCPForwardChannel t id host port origHost origPort)
  | .connection (.tcpReverseForward host port) => (s, s.onRequestTCPReverseForward t host port)
  | .connection (.cancelTCPReverseForward host port) =>
    (s, s.onRequestCancelTCPReverseForward t host port)
  | .connection (.directStreamLocal id path) => (s, s.onDirectStreamLocal t id path)
  | .connection (.streamLocal path) => (s, s.onRequestStreamLocal t path)
  | .connection (.cancelStreamLocal path) => (s, s.onRequestCancelStreamLocal t path)

def serveAll (s : SSHConnectionHandler) (t : Trace) : List Call → List Served
  | [] => []
  | c :: rest =>
    let next := s.serve t c
    next.2 :: serveAll next.1 (t ++ next.2.2) rest

def new (config : SecurityConfig) (backend : Backend) : SSHConnectionHandler := ⟨config, backend, 0⟩

@[simp]
theorem serve_session (t : Trace) (channel : Nat) (request : SessionRequest) :
    s.serve t (.session channel request) = (s, (s.session channel).serve t request) := rfl

theorem serve_config_backend (t : Trace) (c : Call) :
    (s.serve t c).1.config = s.config ∧ (s.serve t c).1.backend = s.backend := by
  cases c with
  | session => exact ⟨rfl, rfl⟩
  | connection request =>
    cases request with
    | sessionChannel =>
      simp only [serve, onSessionChannel]
      split
      · exact ⟨rfl, rfl⟩
      · split <;> exact ⟨rfl, rfl⟩
    | tcpForwardChannel | tcpReverseForward | cancelTCPReverseForward | directStreamLocal
    | streamLocal | cancelStreamLocal => exact ⟨rfl, rfl⟩

end SSHConnectionHandler

end ContainerSSH
