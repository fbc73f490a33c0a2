/-
Forwarding through the SSH proxy.
-/
import ContainerSSH.ServerChannels
import ContainerSSH.TransitionSystem

namespace ContainerSSH.SSHProxy

open SshWire SSHServer

def x11ChanOpenRequestPayload : Struct :=
  ⟨"X11ChanOpenRequestPayload", [⟨"OriginatorAddress", .string⟩, ⟨"OriginatorPort", .uint32⟩]⟩

def zeroValue : (t : FieldType) → t.Value
  | .bool => false
  | .uint32 => 0
  | .string => []
  | .bytes => []

def zeroRecord : (fields : List Field) → Record fields
  | [] => ()
  | f :: fields => (zeroValue f.type, zeroRecord fields)

def filled : (fields : List Field) → List UInt8 → Record fields
  | [], _ => ()
  | f :: fields, data =>
    match f.type.read "" data with
    | .ok (value, rest) => (value, filled fields rest)
    | .error _ => (zeroValue f.type, zeroRecord fields)

inductive ClientChannel where
  | tcp (connectedAddress : String) (connectedPort : UInt32)
      (originatorAddress : String) (originatorPort : UInt32)
  | unix (path : String)
  | x11 (originatorAddress : String) (originatorPort : UInt32)

def clientChannel (newChannel : NewChannel) : Option ClientChannel :=
  if newChannel.channelType = "x11" then
    let payload := filled x11ChanOpenRequestPayload.fields newChannel.extraData
    some (.x11 (goString payload.1) payload.2.1)
  else if newChannel.channelType = "forwarded-streamlocal@openssh.com" then
    let payload := filled streamLocalForwardRequestPayload.fields newChannel.extraData
    some (.unix (goString payload.1))
  else if newChannel.channelType = "forwarded-tcpip" then
    let payload := filled forwardTCPChannelOpenPayload.fields newChannel.extraData
    some (.tcp (goString payload.1) payload.2.1 (goString payload.2.2.1) payload.2.2.2.1)
  else none

inductive ForwardRequest where
  | tcp (bindHost : String) (bindPort : UInt32)
  | streamLocal (path : String)

inductive RequestPoint where
  | idle
  /-- Before `s.lock.Lock()`. -/
  | lockServer (request : ForwardRequest)
  /-- Before `s.forwardMu.Lock()`, with the server's lock. -/
  | lockForward (request : ForwardRequest) (handler : ReverseForwardHandler)
  /-- In `SendRequest`, with both locks. -/
  | sendRequest (request : ForwardRequest) (handler : ReverseForwardHandler)
  /-- Before the server's lock is released. -/
  | unlockServer (answer : Option GoError)

inductive ChannelPoint where
  | idle
  /-- Before `s.forwardMu.Lock()`. -/
  | lockForward (newChannel : NewChannel) (call : ClientChannel)
  /-- Before `r.server.lock.Lock()`, with `forwardMu`. -/
  | lockServer (newChannel : NewChannel) (call : ClientChannel) (handler : ReverseForwardHandler)
  /-- In `sshConn.OpenChannel`. -/
  | openChannel (newChannel : NewChannel) (call : ClientChannel) (channelID : UInt64)
  /-- In `newChannel.Accept`; `client` tells whether there is a channel to the
  client. -/
  | accept (newChannel : NewChannel) (call : ClientChannel) (client : Bool)

inductive Disposition where
  | rejected (newChannel : NewChannel) (rejection : ChannelRejection)
  | bridged (newChannel : NewChannel) (call : ClientChannel) (client server : Bool)

inductive Thread where
  | requests (id : String)
  | channels (id : String)

structure Connection where
  /-- The connection id of the authenticated metadata. -/
  metadataID : String
  request : RequestPoint := .idle
  channel : ChannelPoint := .idle
  forwardMu : Option Thread := none
  reverseHandler : Option ReverseForwardHandler := none
  /-- The forwarding requests that the backing server has accepted. -/
  accepted : List ForwardRequest := []
  channels : List Disposition := []

structure State where
  lock : Option Thread := none
  nextChannelID : UInt64 := 0
  connMap : ConnMap := fun _ => none
  connections : String → Option Connection := fun _ => none
  /-- A nil pointer was followed. -/
  panicked : Bool := false

inductive Action where
  /-- A connection whose handshake succeeds is entered into `connMap`. -/
  | connect (id metadataID : String)
  /-- The server numbers a channel that a client opens. -/
  | clientOpens
  /-- `onX11`, which passes its own reverse handler to the session's handler;
  the proxy does not keep it. -/
  | x11Request
  /-- `OnDirectStreamLocal`. -/
  | directStreamLocal (id : String)
  | request (id : String) (request : ForwardRequest)
  | lockServer (id : String)
  | lockForward (id : String)
  | sent (id : String) (reply : Except GoError Bool)
  | unlockServer (id : String)
  | newChannel (id : String) (newChannel : NewChannel)
  | lockForChannel (id : String)
  | drawChannelID (id : String)
  | opened (id : String) (err : Option GoError)
  | accepted (id : String) (err : Option GoError)

def ForwardRequest.rejected : ForwardRequest → GoError
  | .tcp _ _ =>
    newMessage "SSHPROXY_BACKEND_REQUEST_FAILED"
      "Failed to request forwarding because the backing SSH server rejected the request"
  | .streamLocal _ =>
    newMessage "SSHPROXY_BACKEND_REQUEST_FAILED"
      "Failed to request streamlocal because the backing SSH server rejected the request"

def lookUp (connMap : ConnMap) (connectionID : String) (request : ForwardRequest) : RequestPoint :=
  match connMap connectionID with
  | none =>
    .unlockServer (some (.plain "Couldn't find connection in map, something terrible happened"))
  | some conn => .lockForward request { sshConn := some conn, server := true }

def Connection.answered (c : Connection) (request : ForwardRequest)
    (handler : ReverseForwardHandler) : Except GoError Bool → Connection
  | .error err => { c with request := .unlockServer (some err), forwardMu := none }
  | .ok false => { c with request := .unlockServer (some request.rejected), forwardMu := none }
  | .ok true =>
    { c with
      request := .unlockServer none
      forwardMu := none
      reverseHandler := c.reverseHandler <|> some handler
      accepted := c.accepted ++ [request] }

def Connection.receive (c : Connection) (newChannel : NewChannel) :
    Connection :=
  match clientChannel newChannel with
  | some call => { c with channel := .lockForward newChannel call }
  | none =>
    { c with
      channels := c.channels ++ [.rejected newChannel ⟨.prohibited, "Unsupported channel type"⟩] }

namespace State

def setConnection (s : State) (id : String) (c : Connection) : State :=
  { s with connections := Function.update s.connections id (some c) }

def callHandler (s : State) (id : String) (c : Connection)
    (newChannel : NewChannel) (call : ClientChannel) : State :=
  match c.reverseHandler with
  | some ⟨sshConn, true⟩ =>
    s.setConnection id { c with
        forwardMu := some (.channels id)
        channel := .lockServer newChannel call ⟨sshConn, true⟩ }
  | _ => { s with panicked := true }

def stepConnection (s : State) (id : String) (c : Connection) : Action → Option State
  | .directStreamLocal _ => if c.forwardMu = none then some s else none
  | .request _ request =>
    match c.request with
    | .idle => some (s.setConnection id { c with request := .lockServer request })
    | _ => none
  | .lockServer _ =>
    match c.request, s.lock with
    | .lockServer request, none =>
      some { s.setConnection id { c with request := lookUp s.connMap c.metadataID request } with
          lock := some (.requests id) }
    | _, _ => none
  | .lockForward _ =>
    match c.request, c.forwardMu with
    | .lockForward request handler, none =>
      some (s.setConnection id { c with
          forwardMu := some (.requests id)
          request := .sendRequest request handler })
    | _, _ => none
  | .sent _ reply =>
    match c.request with
    | .sendRequest request handler => some (s.setConnection id (c.answered request handler reply))
    | _ => none
  | .unlockServer _ =>
    match c.request with
    | .unlockServer _ => some { s.setConnection id { c with request := .idle } with lock := none }
    | _ => none
  | .newChannel _ newChannel =>
    match c.channel with
    | .idle => some (s.setConnection id (c.receive newChannel))
    | _ => none
  | .lockForChannel _ =>
    match c.channel, c.forwardMu with
    | .lockForward newChannel call, none => some (s.callHandler id c newChannel call)
    | _, _ => none
  | .drawChannelID _ =>
    match c.channel, s.lock with
    | .lockServer newChannel call _, none =>
      some { s.setConnection id { c with
              channel := .openChannel newChannel call s.nextChannelID } with
          nextChannelID := s.nextChannelID + 1 }
    | _, _ => none
  | .opened _ err =>
    match c.channel with
    | .openChannel newChannel call _ =>
      some (s.setConnection id { c with channel := .accept newChannel call err.isNone })
    | _ => none
  | .accepted _ err =>
    match c.channel with
    | .accept newChannel call client =>
      some (s.setConnection id { c with
          channel := .idle
          forwardMu := none
          channels := c.channels ++ [.bridged newChannel call client err.isNone] })
    | _ => none
  | _ => none

end State

def Action.connection : Action → Option String
  | .connect _ _ => none
  | .clientOpens => none
  | .x11Request => none
  | .directStreamLocal id => some id
  | .request id _ => some id
  | .lockServer id => some id
  | .lockForward id => some id
  | .sent id _ => some id
  | .unlockServer id => some id
  | .newChannel id _ => some id
  | .lockForChannel id => some id
  | .drawChannelID id => some id
  | .opened id _ => some id
  | .accepted id _ => some id

def State.step (s : State) (action : Action) : Option State :=
  if s.panicked then none
  else
    match action.connection with
    | some id =>
      match s.connections id with
      | some c => s.stepConnection id c action
      | none => none
    | none =>
      if s.lock.isSome then none
      else
        match action with
        | .connect id metadataID =>
          match s.connections id with
          | some _ => none
          | none =>
            some { s.setConnection id { metadataID := metadataID } with
                connMap := Function.update s.connMap id (some ⟨id⟩) }
        | .clientOpens => some { s with nextChannelID := s.nextChannelID + 1 }
        | .x11Request => some s
        | _ => none

def system : TransitionSystem State Action := ⟨{}, State.step⟩

inductive Does (s : State) : Action → State → Prop where
  | connect (id metadataID : String) (hlock : s.lock = none) (hnew : s.connections id = none) :
      Does s (.connect id metadataID) { s.setConnection id { metadataID := metadataID } with
          connMap := Function.update s.connMap id (some ⟨id⟩) }
  | clientOpens (hlock : s.lock = none) :
      Does s .clientOpens { s with nextChannelID := s.nextChannelID + 1 }
  | x11Request (hlock : s.lock = none) : Does s .x11Request s
  | directStreamLocal (id : String) (c : Connection)
      (hc : s.connections id = some c) (hfree : c.forwardMu = none) :
      Does s (.directStreamLocal id) s
  | request (id : String) (c : Connection) (hc : s.connections id = some c)
      (request : ForwardRequest) (hpoint : c.request = .idle) : Does s (.request id request)
        (s.setConnection id { c with request := .lockServer request })
  | lockServer (id : String) (c : Connection) (hc : s.connections id = some c)
      (request : ForwardRequest) (hpoint : c.request = .lockServer request)
      (hlock : s.lock = none) : Does s (.lockServer id) { s.setConnection id
            { c with request := lookUp s.connMap c.metadataID request } with
          lock := some (.requests id) }
  | lockForward (id : String) (c : Connection) (hc : s.connections id = some c)
      (request : ForwardRequest) (handler : ReverseForwardHandler)
      (hpoint : c.request = .lockForward request handler) (hfree : c.forwardMu = none) :
      Does s (.lockForward id) (s.setConnection id { c with
            forwardMu := some (.requests id)
            request := .sendRequest request handler })
  | sent (id : String) (c : Connection) (hc : s.connections id = some c)
      (request : ForwardRequest) (handler : ReverseForwardHandler)
      (hpoint : c.request = .sendRequest request handler) (reply : Except GoError Bool) :
      Does s (.sent id reply) (s.setConnection id (c.answered request handler reply))
  | unlockServer (id : String) (c : Connection)
      (hc : s.connections id = some c) (answer : Option GoError)
      (hpoint : c.request = .unlockServer answer) : Does s (.unlockServer id)
        { s.setConnection id { c with request := .idle } with lock := none }
  | newChannel (id : String) (c : Connection) (hc : s.connections id = some c)
      (newChannel : NewChannel) (hpoint : c.channel = .idle) : Does s (.newChannel id newChannel)
        (s.setConnection id (c.receive newChannel))
  | lockForChannel (id : String) (c : Connection)
      (hc : s.connections id = some c) (newChannel : NewChannel)
      (call : ClientChannel) (hpoint : c.channel = .lockForward newChannel call)
      (hfree : c.forwardMu = none) :
      Does s (.lockForChannel id) (s.callHandler id c newChannel call)
  | drawChannelID (id : String) (c : Connection)
      (hc : s.connections id = some c) (newChannel : NewChannel)
      (call : ClientChannel) (handler : ReverseForwardHandler)
      (hpoint : c.channel = .lockServer newChannel call handler) (hlock : s.lock = none) :
      Does s (.drawChannelID id) { s.setConnection id { c with
              channel := .openChannel newChannel call s.nextChannelID } with
          nextChannelID := s.nextChannelID + 1 }
  | opened (id : String) (c : Connection) (hc : s.connections id = some c)
      (newChannel : NewChannel) (call : ClientChannel) (channelID : UInt64)
      (hpoint : c.channel = .openChannel newChannel call channelID) (err : Option GoError) :
      Does s (.opened id err) (s.setConnection id
          { c with channel := .accept newChannel call err.isNone })
  | accepted (id : String) (c : Connection) (hc : s.connections id = some c)
      (newChannel : NewChannel) (call : ClientChannel) (client : Bool)
      (hpoint : c.channel = .accept newChannel call client) (err : Option GoError) :
      Does s (.accepted id err) (s.setConnection id { c with
            channel := .idle
            forwardMu := none
            channels := c.channels ++ [.bridged newChannel call client err.isNone] })

variable {s t : State} {action : Action}

theorem does_of_stepConnection {id : String} {c : Connection}
    (hid : action.connection = some id) (hc : s.connections id = some c)
    (hstep : s.stepConnection id c action = some t) : Does s action t := by
  cases action <;> cases hid <;> rw [State.stepConnection] at hstep <;> split at hstep <;>
    cases hstep
  next hfree => exact .directStreamLocal id c hc hfree
  next hpoint => exact .request id c hc _ hpoint
  next hpoint hlock => exact .lockServer id c hc _ hpoint hlock
  next hpoint hfree => exact .lockForward id c hc _ _ hpoint hfree
  next hpoint => exact .sent id c hc _ _ hpoint _
  next hpoint => exact .unlockServer id c hc _ hpoint
  next hpoint => exact .newChannel id c hc _ hpoint
  next hpoint hfree => exact .lockForChannel id c hc _ _ hpoint hfree
  next hpoint hlock => exact .drawChannelID id c hc _ _ _ hpoint hlock
  next hpoint => exact .opened id c hc _ _ _ hpoint _
  next hpoint => exact .accepted id c hc _ _ _ hpoint _

theorem does_of_step (hstep : s.step action = some t) : Does s action t := by
  unfold State.step at hstep
  split at hstep
  next => cases hstep
  split at hstep
  next id hid =>
    split at hstep
    next c hc => exact does_of_stepConnection hid hc hstep
    next => cases hstep
  split at hstep
  next => cases hstep
  next hlock =>
    rw [Option.not_isSome_iff_eq_none] at hlock
    split at hstep
    next id metadataID _ =>
      split at hstep <;> cases hstep
      next hnew => exact .connect id metadataID hlock hnew
    next =>
      cases hstep
      exact .clientOpens hlock
    next =>
      cases hstep
      exact .x11Request hlock
    next => cases hstep

def RequestPoint.HoldsServer : RequestPoint → Bool
  | .lockForward _ _ => true
  | .sendRequest _ _ => true
  | .unlockServer _ => true
  | _ => false

def RequestPoint.HoldsForward : RequestPoint → Bool
  | .sendRequest _ _ => true
  | _ => false

def ChannelPoint.HoldsForward : ChannelPoint → Bool
  | .lockServer _ _ _ => true
  | .openChannel _ _ _ => true
  | .accept _ _ _ => true
  | _ => false

def RequestPoint.HandlerSet : RequestPoint → Prop
  | .lockForward _ handler => handler.server = true
  | .sendRequest _ handler => handler.server = true
  | _ => True

structure Connection.Ok (id : String) (c : Connection) : Prop where
  forwardMu : ∀ thread, c.forwardMu = some thread ↔
    (thread = .requests id ∧ c.request.HoldsForward = true) ∨
      (thread = .channels id ∧ c.channel.HoldsForward = true)
  handlerSet : c.request.HandlerSet
  reverseHandler : ∀ handler, c.reverseHandler = some handler → handler.server = true
  accepted : c.reverseHandler.isSome = true ↔ c.accepted ≠ []

structure State.Ok (s : State) : Prop where
  lock : ∀ id, s.lock = some (.requests id) ↔
    (s.connections id).any (fun c => c.request.HoldsServer) = true
  requests : ∀ id, s.lock ≠ some (.channels id)
  connections : ∀ id c, s.connections id = some c → c.Ok id

section Updates

variable {s : State} {id : String} {c c' : Connection}

@[simp]
theorem setConnection_lock : (s.setConnection id c).lock = s.lock := rfl

@[simp]
theorem setConnection_self : (s.setConnection id c).connections id = some c :=
  Function.update_self ..

theorem setConnection_of_ne {other : String} (hne : other ≠ id) :
    (s.setConnection id c).connections other = s.connections other :=
  Function.update_of_ne hne ..

theorem State.Ok.connections_set (hs : s.Ok) (hc' : c'.Ok id) (other : String)
    (d : Connection) (hd : (s.setConnection id c').connections other = some d) : d.Ok other := by
  by_cases hother : other = id
  · subst hother
    rw [setConnection_self, Option.some.injEq] at hd
    exact hd ▸ hc'
  · rw [setConnection_of_ne hother] at hd
    exact hs.connections other d hd

theorem State.Ok.setConnection (hs : s.Ok) (hc : s.connections id = some c)
    (hserver : c'.request.HoldsServer = c.request.HoldsServer) (hc' : c'.Ok id) :
    (s.setConnection id c').Ok where
  lock := fun other => by
    by_cases hother : other = id
    · subst hother
      rw [setConnection_lock, hs.lock, setConnection_self, hc]
      simp [hserver]
    · rw [setConnection_lock, setConnection_of_ne hother]
      exact hs.lock other
  requests := hs.requests
  connections := hs.connections_set hc'

end Updates

section Connections

variable {id : String} {c : Connection}

theorem Connection.Ok.free_iff (hc : c.Ok id) : c.forwardMu = none ↔
      c.request.HoldsForward = false ∧ c.channel.HoldsForward = false := by
  rw [Option.eq_none_iff_forall_ne_some]
  simp only [ne_eq, hc.forwardMu]
  constructor
  · intro hnone
    constructor
    · simpa using hnone (.requests id)
    · simpa using hnone (.channels id)
  · rintro ⟨hrequest, hchannel⟩ thread
    simp [hrequest, hchannel]

theorem Connection.Ok.of_requests (hc : c.Ok id) (hholds : c.request.HoldsForward = true) :
    c.forwardMu = some (.requests id) ∧ c.channel.HoldsForward = false := by
  have hmu := (hc.forwardMu (.requests id)).mpr (.inl ⟨rfl, hholds⟩)
  refine ⟨hmu, ?_⟩
  by_contra hchannel
  rw [Bool.not_eq_false] at hchannel
  have hother := (hc.forwardMu (.channels id)).mpr (.inr ⟨rfl, hchannel⟩)
  rw [hmu] at hother
  cases hother

theorem Connection.Ok.of_channels (hc : c.Ok id) (hholds : c.channel.HoldsForward = true) :
    c.forwardMu = some (.channels id) ∧ c.request.HoldsForward = false := by
  have hmu := (hc.forwardMu (.channels id)).mpr (.inr ⟨rfl, hholds⟩)
  refine ⟨hmu, ?_⟩
  by_contra hrequest
  rw [Bool.not_eq_false] at hrequest
  have hother := (hc.forwardMu (.requests id)).mpr (.inl ⟨rfl, hrequest⟩)
  rw [hmu] at hother
  cases hother

theorem Connection.Ok.same {c' : Connection} (hc : c.Ok id) (hmu : c'.forwardMu = c.forwardMu)
    (hrequest : c'.request.HoldsForward = c.request.HoldsForward)
    (hchannel : c'.channel.HoldsForward = c.channel.HoldsForward) (hset : c'.request.HandlerSet)
    (hhandler : c'.reverseHandler = c.reverseHandler)
    (haccepted : c'.accepted = c.accepted) : c'.Ok id where
  forwardMu := by
    rw [hmu, hrequest, hchannel]
    exact hc.forwardMu
  handlerSet := hset
  reverseHandler := by
    rw [hhandler]
    exact hc.reverseHandler
  accepted := by
    rw [hhandler, haccepted]
    exact hc.accepted

theorem lookUp_holdsServer (connMap : ConnMap) (connectionID : String) (request : ForwardRequest) :
    (lookUp connMap connectionID request).HoldsServer = true := by
  rw [lookUp]
  split <;> rfl

variable {request : ForwardRequest}

theorem Connection.Ok.lookUp (hc : c.Ok id)
    (hpoint : c.request = .lockServer request) (connMap : ConnMap) : Connection.Ok id
      { c with request := SSHProxy.lookUp connMap c.metadataID request } := by
  have hforward : (SSHProxy.lookUp connMap c.metadataID request).HoldsForward =
      c.request.HoldsForward := by
    rw [hpoint, SSHProxy.lookUp]
    split <;> rfl
  refine hc.same rfl hforward rfl ?_ rfl rfl
  rw [SSHProxy.lookUp]
  split
  next => trivial
  next => rfl

theorem Connection.Ok.lockForward {handler : ReverseForwardHandler} (hc : c.Ok id)
    (hpoint : c.request = .lockForward request handler) (hfree : c.forwardMu = none) :
    Connection.Ok id { c with
        forwardMu := some (.requests id)
        request := .sendRequest request handler } where
  forwardMu := fun thread => by
    have hchannel := (hc.free_iff.mp hfree).2
    simp only [hchannel, Option.some.injEq, RequestPoint.HoldsForward]
    simp [eq_comm]
  handlerSet := by
    have hset := hc.handlerSet
    rw [hpoint] at hset
    exact hset
  reverseHandler := hc.reverseHandler
  accepted := hc.accepted

theorem Connection.Ok.answered {handler : ReverseForwardHandler} (hc : c.Ok id)
    (hpoint : c.request = .sendRequest request handler) (reply : Except GoError Bool) :
    (c.answered request handler reply).Ok id := by
  have hchannel := (hc.of_requests (by rw [hpoint]; rfl)).2
  have hset := hc.handlerSet
  rw [hpoint] at hset
  -- In all three cases the lock is free again and the point holds nothing.
  have hmu : ∀ thread, (none : Option Thread) = some thread ↔
      (thread = .requests id ∧ false = true) ∨
        (thread = .channels id ∧ c.channel.HoldsForward = true) := by
    simp [hchannel]
  cases reply with
  | error => exact ⟨hmu, trivial, hc.reverseHandler, hc.accepted⟩
  | ok ok =>
    cases ok with
    | false => exact ⟨hmu, trivial, hc.reverseHandler, hc.accepted⟩
    | true =>
      refine ⟨hmu, trivial, fun other hother => ?_, ?_⟩
      · cases hold : c.reverseHandler with
        | none =>
          simp only [Connection.answered, hold, Option.orElse_none,
            Option.orElse_eq_orElse, Option.some.injEq] at hother
          exact hother ▸ hset
        | some =>
          simp only [Connection.answered, hold, Option.orElse_some,
            Option.orElse_eq_orElse, Option.some.injEq] at hother
          exact hc.reverseHandler other (by rw [hold, hother])
      · cases hold : c.reverseHandler <;> simp [Connection.answered]

theorem Connection.Ok.receive (hc : c.Ok id) (hpoint : c.channel = .idle)
    (newChannel : NewChannel) : (c.receive newChannel).Ok id := by
  rw [Connection.receive]
  split
  next call hcall => exact hc.same rfl rfl (by rw [hpoint]; rfl) hc.handlerSet rfl rfl
  next => exact hc.same rfl rfl rfl hc.handlerSet rfl rfl

theorem Connection.Ok.callHandler {newChannel : NewChannel}
    {call : ClientChannel} (handler : ReverseForwardHandler) (hc : c.Ok id)
    (hfree : c.forwardMu = none) : Connection.Ok id { c with
        forwardMu := some (.channels id)
        channel := .lockServer newChannel call handler } where
  forwardMu := fun thread => by
    have hrequest := (hc.free_iff.mp hfree).1
    simp only [hrequest, Option.some.injEq, ChannelPoint.HoldsForward]
    simp [eq_comm]
  handlerSet := hc.handlerSet
  reverseHandler := hc.reverseHandler
  accepted := hc.accepted

theorem Connection.Ok.release (hc : c.Ok id)
    (hholds : c.channel.HoldsForward = true) (channels : List Disposition) : Connection.Ok id
      { c with channel := .idle, forwardMu := none, channels := channels } where
  forwardMu := fun thread => by
    have hrequest := (hc.of_channels hholds).2
    simp [hrequest, ChannelPoint.HoldsForward]
  handlerSet := hc.handlerSet
  reverseHandler := hc.reverseHandler
  accepted := hc.accepted

end Connections

theorem answered_holdsServer {c : Connection} {request : ForwardRequest}
    {handler : ReverseForwardHandler} (reply : Except GoError Bool) :
    (c.answered request handler reply).request.HoldsServer = true := by
  cases reply with
  | error => rfl
  | ok ok => cases ok <;> rfl

theorem receive_request (c : Connection) (newChannel : NewChannel) :
    (c.receive newChannel).request = c.request := by
  rw [Connection.receive]
  split <;> rfl

section Locks

variable {s : State} {id : String} {c c' : Connection}

theorem State.Ok.connect (hs : s.Ok) (hlock : s.lock = none)
    (hnew : s.connections id = none) (metadataID : String) (connMap : ConnMap) : State.Ok
      { s.setConnection id { metadataID := metadataID } with
        connMap := connMap } where
  lock := fun other => by
    change s.lock = _ ↔ ((s.setConnection id _).connections other).any _ = true
    by_cases hother : other = id
    · subst hother
      rw [setConnection_self, hlock]
      simp [RequestPoint.HoldsServer]
    · rw [setConnection_of_ne hother]
      exact hs.lock other
  requests := hs.requests
  connections := hs.connections_set
    ⟨by simp [RequestPoint.HoldsForward, ChannelPoint.HoldsForward], trivial, nofun, by simp⟩

theorem State.Ok.takeLock (hs : s.Ok) (hlock : s.lock = none)
    (hholds : c'.request.HoldsServer = true) (hc' : c'.Ok id) :
    State.Ok { s.setConnection id c' with lock := some (.requests id) } where
  lock := fun other => by
    change some (Thread.requests id) = _ ↔ ((s.setConnection id c').connections other).any _ = true
    by_cases hother : other = id
    · subst hother
      rw [setConnection_self]
      simp [hholds]
    · have hnone := (not_congr (hs.lock other)).mp (by rw [hlock]; exact nofun)
      rw [setConnection_of_ne hother]
      refine iff_of_false ?_ hnone
      simpa using Ne.symm hother
  requests := nofun
  connections := hs.connections_set hc'

theorem State.Ok.releaseLock (hs : s.Ok) (hc : s.connections id = some c)
    (hholds : c.request.HoldsServer = true)
    (hidle : c'.request.HoldsServer = false) (hc' : c'.Ok id) :
    State.Ok { s.setConnection id c' with lock := none } where
  lock := fun other => by
    change none = _ ↔ ((s.setConnection id c').connections other).any _ = true
    by_cases hother : other = id
    · subst hother
      rw [setConnection_self]
      simp [hidle]
    · have hlock : s.lock = some (.requests id) := by
        rw [hs.lock, hc]
        exact hholds
      have hnone := (not_congr (hs.lock other)).mp (by
        rw [hlock]
        simpa using Ne.symm hother)
      rw [setConnection_of_ne hother]
      exact iff_of_false nofun hnone
  requests := nofun
  connections := hs.connections_set hc'

end Locks

theorem State.Ok.step (hs : s.Ok) (hstep : s.step action = some t) : t.Ok := by
  have hok := hs.connections
  cases does_of_step hstep with
  | connect id metadataID hlock hnew => exact hs.connect hlock hnew metadataID _
  | clientOpens => exact ⟨hs.lock, hs.requests, hs.connections⟩
  | x11Request | directStreamLocal => exact hs
  | request id c hc request hpoint =>
    exact hs.setConnection hc (by rw [hpoint]; rfl)
      ((hok id c hc).same rfl (by rw [hpoint]; rfl) rfl trivial rfl rfl)
  | lockServer id c hc request hpoint hlock =>
    exact hs.takeLock hlock (lookUp_holdsServer _ _ _) ((hok id c hc).lookUp hpoint _)
  | lockForward id c hc request handler hpoint hfree =>
    exact hs.setConnection hc (by rw [hpoint]; rfl) ((hok id c hc).lockForward hpoint hfree)
  | sent id c hc request handler hpoint reply =>
    refine hs.setConnection hc ?_ ((hok id c hc).answered hpoint reply)
    rw [answered_holdsServer, hpoint]
    rfl
  | unlockServer id c hc answer hpoint =>
    exact hs.releaseLock hc (by rw [hpoint]; rfl) rfl
      ((hok id c hc).same rfl (by rw [hpoint]; rfl) rfl trivial rfl rfl)
  | newChannel id c hc newChannel hpoint =>
    exact hs.setConnection hc (by rw [receive_request]) ((hok id c hc).receive hpoint newChannel)
  | lockForChannel id c hc newChannel call hpoint hfree =>
    rw [State.callHandler]
    split
    next sshConn hhandler => exact hs.setConnection hc rfl ((hok id c hc).callHandler _ hfree)
    next => exact ⟨hs.lock, hs.requests, hs.connections⟩
  | drawChannelID id c hc newChannel call handler hpoint =>
    have hok' : Connection.Ok id
        { c with channel := .openChannel newChannel call s.nextChannelID } :=
      (hok id c hc).same rfl rfl (by rw [hpoint]; rfl) (hok id c hc).handlerSet rfl rfl
    have ht := State.Ok.setConnection hs hc (by rfl) hok'
    exact ⟨ht.lock, ht.requests, ht.connections⟩
  | opened id c hc newChannel call channelID hpoint =>
    exact hs.setConnection hc rfl
      ((hok id c hc).same rfl rfl (by rw [hpoint]; rfl) (hok id c hc).handlerSet rfl rfl)
  | accepted id c hc newChannel call client hpoint =>
    exact hs.setConnection hc rfl ((hok id c hc).release (by rw [hpoint]; rfl) _)

theorem ok_init : State.Ok {} where
  lock := fun id => by simp
  requests := fun id => by simp
  connections := fun id c hc => by cases hc

theorem ok_of_reachable (hs : system.Reachable s) : s.Ok :=
  hs.invariant ok_init fun _ _ _ => State.Ok.step

end ContainerSSH.SSHProxy
