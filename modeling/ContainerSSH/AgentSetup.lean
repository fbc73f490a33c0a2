/-
Setting up forwarding through the agent.
-/
import ContainerSSH.AgentProtocol
import ContainerSSH.Message

namespace ContainerSSH.Agent

inductive ConnectionType where
  | x11
  | portForward
  | portDial
  | socketForward
  | socketDial
deriving DecidableEq

structure SetupPacket where
  connectionType : ConnectionType
  bindHost : String := ""
  bindPort : UInt32 := 0
  protocol : String := ""
  screen : String := ""
  singleConnection : Bool := false
  authProtocol : String := ""
  authCookie : String := ""

structure SetupOutcome where
  callback : Option GoError := none
  write : Option GoError := none
  response : Except GoError PacketType := .ok .success
  connection : Option GoError := none

def SetupOutcome.handshake (outcome : SetupOutcome) : Option GoError :=
  match outcome.write with
  | some err => some err
  | none =>
    match outcome.response with
    | .error err => some err
    | .ok .error => some (.plain "received error packet from client")
    | .ok .success => none
    | .ok _ => some (.plain "received invalid packet from client")

def startServerForward : SetupPacket := { connectionType := .portDial }

def startX11ForwardClient (singleConnection : Bool)
    (screen authProtocol authCookie : String) : SetupPacket :=
  { connectionType := .x11
    protocol := "tcp"
    singleConnection := singleConnection
    screen := screen
    authProtocol := authProtocol
    authCookie := authCookie }

def startReverseForwardClient (bindHost : String) (bindPort : UInt32)
    (singleConnection : Bool) : SetupPacket :=
  { connectionType := .portForward
    bindHost := bindHost
    bindPort := bindPort
    protocol := "tcp"
    singleConnection := singleConnection }

def startReverseForwardClientUnix (path : String) (singleConnection : Bool) :
    SetupPacket :=
  { connectionType := .portForward
    bindHost := path
    protocol := "unix"
    singleConnection := singleConnection }

structure AgentForward where
  reverseForwards : String → Option ForwardCtx := fun _ => none
  nX11Channels : UInt32 := 0
  x11Forward : Option ForwardCtx := none
  directForward : Option ForwardCtx := none

structure Performed where
  state : AgentForward
  packet : Option SetupPacket := none
  setup : Option (Option GoError) := none
  result : Except Stuck (Option GoError) := .ok none

namespace AgentForward

variable (f : AgentForward)

def mangleTCP (addr : String) (port : UInt32) : String :=
  "tcp-" ++ addr ++ ":" ++ toString port.toNat

def mangleUnix (addr : String) : String := "unix-" ++ addr

def setReverseForward (key : String) (ctx : ForwardCtx) : AgentForward :=
  { f with reverseForwards := fun k => if k = key then some ctx else f.reverseForwards k }

def setupAgent (store : ForwardCtx → AgentForward) (packet : SetupPacket)
    (outcome : SetupOutcome) : Performed :=
  match outcome.callback with
  | some err => { state := f, setup := some (some err), result := .ok (some err) }
  | none =>
    { state := store {}
      packet := some packet
      setup := some outcome.handshake
      result := .ok outcome.handshake }

def setupX11 (singleConnection : Bool) (proto cookie : String)
    (screen : UInt32) (outcome : SetupOutcome) : Performed :=
  if f.x11Forward.isSome then
    { state := f, result := .ok (some (.plain "X11 forwarding already setup")) }
  else
    f.setupAgent (fun ctx => { f with x11Forward := some ctx })
      (startX11ForwardClient singleConnection (toString screen.toNat) proto cookie) outcome

def addX11Channel : AgentForward := { f with nX11Channels := f.nX11Channels + 1 }

def newX11Forwarding (singleConnection : Bool) (proto cookie : String)
    (screen : UInt32) (outcome : SetupOutcome) : Performed :=
  if f.x11Forward.isNone then
    let done := f.setupX11 singleConnection proto cookie screen outcome
    match done.result with
    | .ok none => { done with state := done.state.addX11Channel }
    | _ => done
  else { state := f.addX11Channel }

def newReverseForwarding (key started : String) (packet : SetupPacket)
    (outcome : SetupOutcome) : Performed :=
  if (f.reverseForwards key).isSome then { state := f, result := .ok (some (.plain started)) }
  else f.setupAgent (f.setReverseForward key) packet outcome

def newTCPReverseForwarding (bindHost : String) (bindPort : UInt32) : SetupOutcome → Performed :=
  f.newReverseForwarding (mangleTCP bindHost bindPort)
    "Forwarding already started for this host/port combo"
    (startReverseForwardClient bindHost bindPort false)

def newUnixReverseForwarding (path : String) : SetupOutcome → Performed :=
  f.newReverseForwarding (mangleUnix path) "Forwarding already started for this socket"
    (startReverseForwardClientUnix path false)

def setupDirectForward (outcome : SetupOutcome) : Performed :=
  if f.directForward.isSome then
    { state := f
      result := .ok (some (.plain "Direct forwarding has already been setup for this connection")) }
  else f.setupAgent (fun ctx => { f with directForward := some ctx }) startServerForward outcome

def dial (ctx : ForwardCtx) (details : NewConnectionPayload)
    (outcome : SetupOutcome) : AgentForward × Except Stuck (Option GoError) :=
  match ctx.newConnection details with
  | .error stuck => (f, .error stuck)
  | .ok (next, _) =>
    ({ f with directForward := some next }, .ok (if (ctx.connMap (ctx.connectionId + 1)).isSome then
        some (.plain "Connection id already exists, something went terribly wrong")
      else outcome.connection))

def newForward (details : NewConnectionPayload) (outcome : SetupOutcome) :
    Performed :=
  match f.directForward with
  | some ctx =>
    { state := (f.dial ctx details outcome).1
      result := (f.dial ctx details outcome).2 }
  | none =>
    let done := f.setupDirectForward outcome
    match done.result, done.state.directForward with
    | .ok none, some ctx =>
      { done with
        state := (done.state.dial ctx details outcome).1
        result := (done.state.dial ctx details outcome).2 }
    | _, _ => done

def newForwardTCP (hostToConnect : String) (portToConnect : UInt32)
    (originatorHost : String) (originatorPort : UInt32) :
    SetupOutcome → Performed :=
  f.newForward
    { protocol := "tcp"
      connectedAddress := hostToConnect
      connectedPort := portToConnect
      originatorAddress := originatorHost
      originatorPort := originatorPort }

def newForwardUnix (path : String) : SetupOutcome → Performed :=
  f.newForward { protocol := "unix", connectedAddress := path }

end AgentForward

inductive ForwardOperation where
  | x11 (singleConnection : Bool) (proto cookie : String) (screen : UInt32)
  | tcpReverse (bindHost : String) (bindPort : UInt32)
  | unixReverse (path : String)
  | forwardTCP (hostToConnect : String) (portToConnect : UInt32)
      (originatorHost : String) (originatorPort : UInt32)
  | forwardUnix (path : String)

namespace AgentForward

variable (f : AgentForward)

def perform : ForwardOperation → SetupOutcome → Performed
  | .x11 singleConnection proto cookie screen =>
    f.newX11Forwarding singleConnection proto cookie screen
  | .tcpReverse bindHost bindPort => f.newTCPReverseForwarding bindHost bindPort
  | .unixReverse path => f.newUnixReverseForwarding path
  | .forwardTCP hostToConnect portToConnect originatorHost originatorPort =>
    f.newForwardTCP hostToConnect portToConnect originatorHost originatorPort
  | .forwardUnix path => f.newForwardUnix path

def context : ForwardOperation → Option ForwardCtx
  | .x11 _ _ _ _ => f.x11Forward
  | .tcpReverse bindHost bindPort => f.reverseForwards (mangleTCP bindHost bindPort)
  | .unixReverse path => f.reverseForwards (mangleUnix path)
  | .forwardTCP _ _ _ _ => f.directForward
  | .forwardUnix _ => f.directForward

def keep : ForwardOperation → ForwardCtx → AgentForward
  | .x11 _ _ _ _, ctx => { f with x11Forward := some ctx }
  | .tcpReverse bindHost bindPort, ctx => f.setReverseForward (mangleTCP bindHost bindPort) ctx
  | .unixReverse path, ctx => f.setReverseForward (mangleUnix path) ctx
  | .forwardTCP _ _ _ _, ctx => { f with directForward := some ctx }
  | .forwardUnix _, ctx => { f with directForward := some ctx }

@[simp]
theorem context_keep (op : ForwardOperation) (ctx : ForwardCtx) :
    (f.keep op ctx).context op = some ctx := by
  cases op <;> simp [keep, context, setReverseForward]

end AgentForward

def ForwardOperation.packet : ForwardOperation → SetupPacket
  | .x11 singleConnection proto cookie screen =>
    startX11ForwardClient singleConnection (toString screen.toNat) proto cookie
  | .tcpReverse bindHost bindPort => startReverseForwardClient bindHost bindPort false
  | .unixReverse path => startReverseForwardClientUnix path false
  | .forwardTCP _ _ _ _ => startServerForward
  | .forwardUnix _ => startServerForward

def SetupOutcome.error (outcome : SetupOutcome) : Option GoError :=
  match outcome.callback with
  | some err => some err
  | none => outcome.handshake

namespace AgentForward

variable {f : AgentForward} {op : ForwardOperation} {outcome : SetupOutcome}

theorem setup_perform_of_some {ctx : ForwardCtx} (hctx : f.context op = some ctx) :
    (f.perform op outcome).setup = none := by
  cases op <;> simp only [context] at hctx <;>
    simp [perform, newX11Forwarding, newTCPReverseForwarding,
      newUnixReverseForwarding, newReverseForwarding, newForwardTCP,
      newForwardUnix, newForward, hctx]

def BeginsWith (done setup : Performed) : Prop :=
  done.setup = setup.setup ∧ ∀ err, setup.result = .ok (some err) → done = setup

theorem newX11Forwarding_begins (hx11 : f.x11Forward = none)
    (singleConnection : Bool) (proto cookie : String) (screen : UInt32) :
    BeginsWith (f.newX11Forwarding singleConnection proto cookie screen outcome)
      (f.setupAgent (fun ctx => { f with x11Forward := some ctx })
        (startX11ForwardClient singleConnection (toString screen.toNat) proto cookie) outcome) := by
  simp only [newX11Forwarding, setupX11, hx11, Option.isNone_none,
    Option.isSome_none, if_true, Bool.false_eq_true, if_false]
  split
  · next hresult =>
      refine ⟨rfl, fun err herr => ?_⟩
      rw [hresult] at herr
      cases herr
  · exact ⟨rfl, fun _ _ => rfl⟩

theorem newReverseForwarding_begins {key : String}
    (hkey : f.reverseForwards key = none) (started : String) (packet : SetupPacket) :
    BeginsWith (f.newReverseForwarding key started packet outcome)
      (f.setupAgent (f.setReverseForward key) packet outcome) := by
  simp only [newReverseForwarding, hkey]
  exact ⟨rfl, fun _ _ => rfl⟩

theorem newForward_begins (hdirect : f.directForward = none) (details : NewConnectionPayload) :
    BeginsWith (f.newForward details outcome)
      (f.setupAgent (fun ctx => { f with directForward := some ctx })
        startServerForward outcome) := by
  simp only [newForward, setupDirectForward, hdirect, Option.isSome_none,
    Bool.false_eq_true, if_false]
  split
  · next hresult _ =>
      refine ⟨rfl, fun err herr => ?_⟩
      rw [hresult] at herr
      cases herr
  · exact ⟨rfl, fun _ _ => rfl⟩

theorem perform_begins (hctx : f.context op = none) : BeginsWith (f.perform op outcome)
      (f.setupAgent (f.keep op) op.packet outcome) := by
  cases op with
  | x11 singleConnection proto cookie screen =>
    exact newX11Forwarding_begins hctx singleConnection proto cookie screen
  | tcpReverse | unixReverse => exact newReverseForwarding_begins hctx _ _
  | forwardTCP => exact newForward_begins hctx _
  | forwardUnix => exact newForward_begins hctx _

theorem setupAgent_fields (store : ForwardCtx → AgentForward) (packet : SetupPacket) :
    (f.setupAgent store packet outcome).setup = some outcome.error ∧
      (f.setupAgent store packet outcome).result = .ok outcome.error := by
  unfold setupAgent SetupOutcome.error
  cases outcome.callback <;> exact ⟨rfl, rfl⟩

theorem setup_perform_of_none (hctx : f.context op = none) :
    (f.perform op outcome).setup = some outcome.error :=
  (perform_begins hctx).1.trans (setupAgent_fields _ _).1

/-- An error of the setup leaves no trace exactly if it is one of the callback.
After a failed handshake the context of the agent is there, and a later request
of the same kind is handled differently. -/
theorem failed_setup_traceless_iff {err : GoError}
    (hfails : (f.perform op outcome).setup = some (some err)) :
    (f.perform op outcome).result = .ok (some err) ∧
      ((f.perform op outcome).state = f ↔ outcome.callback = some err) ∧
      ((∀ later, (f.perform op outcome).state.perform op later =
          f.perform op later) ↔ outcome.callback = some err) := by
  have hctx : f.context op = none := by
    cases hctx : f.context op with
    | none => rfl
    | some => simp [setup_perform_of_some hctx] at hfails
  have herror : outcome.error = some err := by
    rw [setup_perform_of_none hctx, Option.some.injEq] at hfails
    exact hfails
  have hresult : (f.setupAgent (f.keep op) op.packet outcome).result = .ok (some err) := by
    rw [(setupAgent_fields _ _).2, herror]
  have hperform := (perform_begins hctx).2 err hresult
  refine ⟨by rw [hperform, hresult], ?_⟩
  cases hcallback : outcome.callback with
  | some err' =>
    have heq : err' = err := by simpa [SetupOutcome.error, hcallback] using herror
    have hstate : (f.perform op outcome).state = f := by rw [hperform, setupAgent, hcallback]
    simp [hstate, heq]
  | none =>
    have hstate : (f.perform op outcome).state = f.keep op {} := by
      rw [hperform, setupAgent, hcallback]
    have hkept : (f.perform op outcome).state.context op = some {} := by rw [hstate, context_keep]
    refine ⟨iff_of_false ?_ (by simp), iff_of_false ?_ (by simp)⟩
    · intro hsame
      rw [hsame, hctx] at hkept
      cases hkept
    · intro halike
      have hlater := congrArg Performed.setup (halike outcome)
      rw [setup_perform_of_some hkept, setup_perform_of_none hctx] at hlater
      cases hlater

theorem failed_callback_traceless :
    let f := (AgentForward.perform {} (.x11 false "MIT-MAGIC-COOKIE-1" "c" 0) {}).state
    f.x11Forward.isSome = true ∧ (f.perform (.tcpReverse "localhost" 8080)
      { callback := some (.plain "no agent") }).state = f := by
  intro f
  exact ⟨rfl, (@failed_setup_traceless_iff f (.tcpReverse "localhost" 8080)
    { callback := some (.plain "no agent") } (.plain "no agent") rfl).2.1.mpr rfl⟩

/-- The agent refuses X11 forwarding.  The next request is accepted without an
agent being started. -/
theorem refused_x11_accepted_later :
    let refused := AgentForward.perform {} (.x11 false "MIT-MAGIC-COOKIE-1" "c" 0)
      { response := .ok .error }
    refused.result = .ok (some (.plain "received error packet from client")) ∧
      refused.state.x11Forward.isSome = true ∧
      (refused.state.perform (.x11 false "MIT-MAGIC-COOKIE-1" "c" 0)
        { callback := some (.plain "no agent") }).result = .ok none ∧
      (refused.state.perform (.x11 false "MIT-MAGIC-COOKIE-1" "c" 0)
        { callback := some (.plain "no agent") }).state.nX11Channels = 1 :=
  ⟨rfl, rfl, rfl, rfl⟩

end AgentForward

end ContainerSSH.Agent
