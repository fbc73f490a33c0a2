/-
The SSH server as a system.
-/
import ContainerSSH.ServerChannels
import ContainerSSH.TransitionSystem

namespace ContainerSSH.SSHServer

inductive HandlerPoint where
  | accepted
  | refused
  | connected
  | handshake
  | aborting
  | unregistered
  | disconnected
  | authenticated
  | established
  | watched
  | serving
  | finished
deriving DecidableEq

inductive WatcherPoint where
  | notStarted
  | waiting
  | unregisterNetwork
  | unregisterSSH
  | onDisconnect
  | wgDone
  | finished
deriving DecidableEq

structure Connection where
  point : HandlerPoint := .accepted
  watcher : WatcherPoint := .notStarted
  metadataID : String := ""
  networkConnected : Bool := false
  established : Bool := false
  wgDone : Nat := 0
  disconnects : Nat := 0

inductive Handshake where
  | failed
  | metadataMissing
  | metadataInvalid
  | backendRejected
  | succeeded (metadataID : String)
deriving DecidableEq

structure OpenChannel where
  connectionID : String
  channelID : UInt64
  isSession : Bool
  nextRequestID : UInt64 := 0
  closed : Bool := false

def OpenChannel.key (c : OpenChannel) : ShutdownKey :=
  if c.isSession then .session c.connectionID c.channelID
  else .directTCPIP c.connectionID c.channelID

inductive Source where
  | global
  | session (index : Nat) (channelID : UInt64)

structure Served where
  source : Source
  requestID : UInt64
  request : Request
  answer : Option GoError
  handled : Option Handled

structure Server where
  connections : String → Option Connection := fun _ => none
  registry : ShutdownKey → Bool := fun _ => false
  connMap : ConnMap := fun _ => none
  clientSockets : String → Bool := fun _ => false
  nextGlobalRequestID : UInt64 := 0
  nextChannelID : UInt64 := 0
  channels : List OpenChannel := []
  handedOut : List Invocation := []
  channelIDs : List UInt64 := []
  drawn : Nat := 0
  served : List Served := []
  panicked : Bool := false
  nilDereference : Bool := false

inductive Action where
  | accept (id : String)
  | onNetworkConnection (id : String) (succeeds : Bool)
  | handshake (id : String) (result : Handshake)
  | advance (id : String)
  | watch (id : String)
  | disconnectClients
  | globalRequest (id : String) (request : Request) (answer : Option GoError)
  | channel (id : String) (newChannel : NewChannel)
      (rejection : Option ChannelRejection) (acceptFails : Bool)
  | channelRequest (index : Nat) (request : Request) (answer : Option GoError)
  | closeChannel (index : Nat)
  | openReverse (index : Nat) (succeeds : Bool)

namespace Server

variable (s : Server)

def setConnection (id : String) (c : Connection) : Server :=
  { s with connections := fun i => if i = id then some c else s.connections i }

def register (key : ShutdownKey) : Server :=
  { s with registry := fun k => if k = key then true else s.registry k }

def unregister (key : ShutdownKey) : Server :=
  { s with registry := fun k => if k = key then false else s.registry k }

def establish (id : String) : Server :=
  { s with
    clientSockets := fun i => if i = id then true else s.clientSockets i
    connMap := fun i => if i = id then some ⟨id⟩ else s.connMap i }

def advance (id : String) (c : Connection) : Option Server :=
  match c.point with
  | .refused => some (s.setConnection id { c with point := .finished, wgDone := c.wgDone + 1 })
  | .connected => some ((s.register (.network id)).setConnection id { c with point := .handshake })
  | .aborting =>
    some ((s.unregister (.network id)).setConnection id { c with point := .unregistered })
  | .unregistered =>
    some (s.setConnection id { c with point := .disconnected, disconnects := c.disconnects + 1 })
  | .disconnected => some (s.setConnection id { c with point := .finished, wgDone := c.wgDone + 1 })
  | .authenticated =>
    some ((s.establish id).setConnection id { c with point := .established, established := true })
  | .established => some (s.setConnection id { c with point := .watched, watcher := .waiting })
  | .watched => some ((s.register (.ssh id)).setConnection id { c with point := .serving })
  | .accepted | .handshake | .serving | .finished => none

def endHandshake (id : String) (c : Connection) (result : Handshake) :
    Option Server :=
  if c.point = .handshake then
    match result with
    | .succeeded metadataID =>
      some (s.setConnection id { c with point := .authenticated, metadataID := metadataID })
    | .failed | .metadataMissing | .metadataInvalid | .backendRejected =>
      some (s.setConnection id { c with point := .aborting })
  else none

def watch (id : String) (c : Connection) : Option Server :=
  match c.watcher with
  | .waiting => some (s.setConnection id { c with watcher := .unregisterNetwork })
  | .unregisterNetwork =>
    some ((s.unregister (.network id)).setConnection id { c with watcher := .unregisterSSH })
  | .unregisterSSH =>
    some ((s.unregister (.ssh id)).setConnection id { c with watcher := .onDisconnect })
  | .onDisconnect =>
    some (s.setConnection id { c with watcher := .wgDone, disconnects := c.disconnects + 1 })
  | .wgDone => some (s.setConnection id { c with watcher := .finished, wgDone := c.wgDone + 1 })
  | .notStarted | .finished => none

def serve (served : Served) : Server :=
  let invocations := (served.handled.map Handled.calls).getD []
  { s with
    served := s.served ++ [served]
    handedOut := s.handedOut ++ invocations.filter fun i => i.reverseHandler.isSome
    panicked := served.handled.isNone }

def globalRequest (c : Connection) (request : Request) (answer : Option GoError) : Server :=
  { s with nextGlobalRequestID := s.nextGlobalRequestID + 1 }.serve
    ⟨.global, s.nextGlobalRequestID, request, answer,
      serveGlobalRequest s.connMap c.metadataID s.nextGlobalRequestID request answer⟩

def channelRequest (index : Nat) (c : OpenChannel) (request : Request)
    (answer : Option GoError) : Server :=
  { s with channels := s.channels.set index { c with nextRequestID := c.nextRequestID + 1 } }.serve
    ⟨.session index c.channelID, c.nextRequestID, request, answer,
      handleChannelRequest s.connMap c.connectionID c.channelID c.nextRequestID request answer⟩

def applyEffect (registry : ShutdownKey → Bool) : ChannelEffect → ShutdownKey → Bool
  | .registers key => fun k => if k = key then true else registry k
  | .unregisters key => fun k => if k = key then false else registry k
  | _ => registry

def opened (acceptFails : Bool) : List ChannelEffect → List OpenChannel
  | .registers (.session connectionID channelID) :: _ =>
    if acceptFails then [] else [⟨connectionID, channelID, true, 0, false⟩]
  | .registers (.directTCPIP connectionID channelID) :: _ =>
    if acceptFails then [] else [⟨connectionID, channelID, false, 0, false⟩]
  | _ :: rest => opened acceptFails rest
  | [] => []

def channel (c : Connection) (newChannel : NewChannel)
    (rejection : Option ChannelRejection) (acceptFails : Bool) : Server :=
  let channelID := s.nextChannelID
  let effects := handleChannel c.metadataID channelID newChannel rejection
    acceptFails
  { s with
    nextChannelID := s.nextChannelID + 1
    channelIDs := s.channelIDs ++ [channelID]
    drawn := s.drawn + 1
    registry := effects.foldl applyEffect s.registry
    channels := s.channels ++ opened acceptFails effects }

def closeChannel (index : Nat) (c : OpenChannel) : Server :=
  { s.unregister c.key with channels := s.channels.set index { c with closed := true } }

def openReverse (handler : ReverseForwardHandler) (succeeds : Bool) : Server :=
  if handler.server then
    let drawn : Server := { s with nextChannelID := s.nextChannelID + 1, drawn := s.drawn + 1 }
    if handler.sshConn.isSome then
      if succeeds then { drawn with channelIDs := s.channelIDs ++ [s.nextChannelID] }
      else drawn
    else { drawn with nilDereference := true }
  else { s with nilDereference := true }

def act : Action → Option Server
  | .accept id => if (s.connections id).isSome then none else some (s.setConnection id {})
  | .onNetworkConnection id succeeds =>
    (s.connections id).bind fun c =>
      if c.point = .accepted then
        some (s.setConnection id (if succeeds then
            { c with point := .connected, networkConnected := true }
          else { c with point := .refused }))
      else none
  | .handshake id result => (s.connections id).bind fun c => s.endHandshake id c result
  | .advance id => (s.connections id).bind fun c => s.advance id c
  | .watch id => (s.connections id).bind fun c => s.watch id c
  | .disconnectClients => some { s with clientSockets := fun _ => false }
  | .globalRequest id request answer =>
    (s.connections id).bind fun c =>
      if c.point = .serving then some (s.globalRequest c request answer)
      else none
  | .channel id newChannel rejection acceptFails =>
    (s.connections id).bind fun c =>
      if c.point = .serving then some (s.channel c newChannel rejection acceptFails)
      else none
  | .channelRequest index request answer =>
    s.channels[index]?.bind fun c =>
      if c.isSession ∧ c.closed = false then some (s.channelRequest index c request answer)
      else none
  | .closeChannel index =>
    s.channels[index]?.bind fun c =>
      if c.closed = false then some (s.closeChannel index c) else none
  | .openReverse index succeeds =>
    s.handedOut[index]?.bind fun i =>
      i.reverseHandler.map fun handler => s.openReverse handler succeeds

def step (action : Action) : Option Server :=
  if s.panicked ∨ s.nilDereference then none else s.act action

end Server

def server : TransitionSystem Server Action where
  init := {}
  step := Server.step

structure Local where
  connection : Option Connection
  network : Bool
  ssh : Bool
  conn : Option ServerConn
  socket : Bool

def Server.local (s : Server) (id : String) : Local :=
  ⟨s.connections id, s.registry (.network id), s.registry (.ssh id),
    s.connMap id, s.clientSockets id⟩

inductive Moves (action : Action) (id : String) (l : Local) : Local → Prop
  | stays : Moves action id l l
  | closes : Moves action id l { l with socket := false }
  | accepts (hnone : l.connection = none) : Moves action id l { l with connection := some {} }
  | connects (c : Connection) (hc : l.connection = some c) (hpoint : c.point = .accepted) :
      Moves action id l { l with
        connection := some { c with point := .connected, networkConnected := true } }
  | refuses (c : Connection) (hc : l.connection = some c) (hpoint : c.point = .accepted) :
      Moves action id l { l with connection := some { c with point := .refused } }
  | authenticates (c : Connection) (hc : l.connection = some c)
      (hpoint : c.point = .handshake) (metadataID : String)
      (haction : action = .handshake id (.succeeded metadataID)) : Moves action id l { l with
        connection := some { c with point := .authenticated, metadataID := metadataID } }
  | aborts (c : Connection) (hc : l.connection = some c) (hpoint : c.point = .handshake) :
      Moves action id l { l with connection := some { c with point := .aborting } }
  | ends (c : Connection) (hc : l.connection = some c)
      (hpoint : c.point = .refused ∨ c.point = .disconnected) : Moves action id l { l with
        connection := some { c with point := .finished, wgDone := c.wgDone + 1 } }
  | registersNetwork (c : Connection) (hc : l.connection = some c) (hpoint : c.point = .connected) :
      Moves action id l { l with
        connection := some { c with point := .handshake }
        network := true }
  | unregisters (c : Connection) (hc : l.connection = some c) (hpoint : c.point = .aborting) :
      Moves action id l { l with
        connection := some { c with point := .unregistered }
        network := false }
  | disconnects (c : Connection) (hc : l.connection = some c) (hpoint : c.point = .unregistered) :
      Moves action id l { l with
        connection := some { c with point := .disconnected, disconnects := c.disconnects + 1 } }
  | establishes (c : Connection) (hc : l.connection = some c) (hpoint : c.point = .authenticated) :
      Moves action id l { l with
        connection := some { c with point := .established, established := true }
        conn := some ⟨id⟩
        socket := true }
  | startsWatcher (c : Connection) (hc : l.connection = some c) (hpoint : c.point = .established) :
      Moves action id l { l with
        connection := some { c with point := .watched, watcher := .waiting } }
  | registersSSH (c : Connection) (hc : l.connection = some c) (hpoint : c.point = .watched) :
      Moves action id l { l with connection := some { c with point := .serving }, ssh := true }
  | notices (c : Connection) (hc : l.connection = some c) (hwatcher : c.watcher = .waiting) :
      Moves action id l { l with connection := some { c with watcher := .unregisterNetwork } }
  | watcherUnregistersNetwork (c : Connection) (hc : l.connection = some c)
      (hwatcher : c.watcher = .unregisterNetwork) : Moves action id l { l with
        connection := some { c with watcher := .unregisterSSH }
        network := false }
  | watcherUnregistersSSH (c : Connection) (hc : l.connection = some c)
      (hwatcher : c.watcher = .unregisterSSH) : Moves action id l { l with
        connection := some { c with watcher := .onDisconnect }
        ssh := false }
  | watcherDisconnects (c : Connection) (hc : l.connection = some c)
      (hwatcher : c.watcher = .onDisconnect) : Moves action id l { l with
        connection := some { c with watcher := .wgDone, disconnects := c.disconnects + 1 } }
  | watcherEnds (c : Connection) (hc : l.connection = some c) (hwatcher : c.watcher = .wgDone) :
      Moves action id l { l with
        connection := some { c with watcher := .finished, wgDone := c.wgDone + 1 } }

namespace Server

variable {s t : Server} {action : Action} {id : String}

theorem local_setConnection (s : Server) (id i : String) (c : Connection) :
    (s.setConnection id c).local i =
      if i = id then { s.local i with connection := some c } else s.local i := by
  unfold setConnection Server.local
  split <;> simp [*]

theorem moves_of_ne {i : String} (hne : i ≠ id) (c : Connection)
    (hentries : t.local i = s.local i) :
    Moves action i (s.local i) ((t.setConnection id c).local i) := by
  rw [local_setConnection, if_neg hne, hentries]
  exact .stays

theorem local_register_of_ne (s : Server) {i : String} (hne : i ≠ id) :
    (s.register (.network id)).local i = s.local i ∧ (s.register (.ssh id)).local i = s.local i ∧
      (s.unregister (.network id)).local i = s.local i ∧
      (s.unregister (.ssh id)).local i = s.local i ∧ (s.establish id).local i = s.local i := by
  simp [Server.local, register, unregister, establish, hne]

theorem moves_advance {c : Connection} (hc : s.connections id = some c)
    (hstep : s.advance id c = some t) (i : String) : Moves action i (s.local i) (t.local i) := by
  by_cases hi : i = id
  · subst hi
    have hlocal : (s.local i).connection = some c := hc
    unfold advance at hstep
    split at hstep <;> cases hstep <;> rw [local_setConnection, if_pos rfl]
    · next hpoint => exact .ends c hlocal (.inl hpoint)
    · next hpoint => simpa [Server.local, register] using Moves.registersNetwork c hlocal hpoint
    · next hpoint => simpa [Server.local, unregister] using Moves.unregisters c hlocal hpoint
    · next hpoint => exact .disconnects c hlocal hpoint
    · next hpoint => exact .ends c hlocal (.inr hpoint)
    · next hpoint => simpa [Server.local, establish] using Moves.establishes c hlocal hpoint
    · next hpoint => exact .startsWatcher c hlocal hpoint
    · next hpoint => simpa [Server.local, register] using Moves.registersSSH c hlocal hpoint
  · obtain ⟨hregister, hregisterSSH, hunregister, -, hestablish⟩ := local_register_of_ne s hi
    unfold advance at hstep
    split at hstep <;> cases hstep <;> apply moves_of_ne hi <;>
      first | rfl | assumption

theorem moves_endHandshake {c : Connection} (hc : s.connections id = some c)
    {result : Handshake} (hstep : s.endHandshake id c result = some t) (i : String) :
    Moves (.handshake id result) i (s.local i) (t.local i) := by
  unfold endHandshake at hstep
  split at hstep
  · next hpoint =>
      by_cases hi : i = id
      · subst hi
        have hlocal : (s.local i).connection = some c := hc
        split at hstep <;> cases hstep <;> rw [local_setConnection, if_pos rfl]
        · exact .authenticates c hlocal hpoint _ rfl
        all_goals exact .aborts c hlocal hpoint
      · split at hstep <;> cases hstep <;> exact moves_of_ne hi _ rfl
  · cases hstep

theorem moves_watch {c : Connection} (hc : s.connections id = some c)
    (hstep : s.watch id c = some t) (i : String) : Moves action i (s.local i) (t.local i) := by
  by_cases hi : i = id
  · subst hi
    have hlocal : (s.local i).connection = some c := hc
    unfold watch at hstep
    split at hstep <;> cases hstep <;> rw [local_setConnection, if_pos rfl]
    · next hwatcher => exact .notices c hlocal hwatcher
    · next hwatcher =>
        simpa [Server.local, unregister] using Moves.watcherUnregistersNetwork c hlocal hwatcher
    · next hwatcher =>
        simpa [Server.local, unregister] using Moves.watcherUnregistersSSH c hlocal hwatcher
    · next hwatcher => exact .watcherDisconnects c hlocal hwatcher
    · next hwatcher => exact .watcherEnds c hlocal hwatcher
  · obtain ⟨-, -, hunregister, hunregisterSSH, -⟩ := local_register_of_ne s hi
    unfold watch at hstep
    split at hstep <;> cases hstep <;> apply moves_of_ne hi <;>
      first | rfl | assumption

def OfChannel : ChannelEffect → Prop
  | .registers key => ∀ i, key ≠ .network i ∧ key ≠ .ssh i
  | .unregisters key => ∀ i, key ≠ .network i ∧ key ≠ .ssh i
  | _ => True

theorem ofChannel_offer {call : HandlerCall} {key : ShutdownKey}
    (hkey : ∀ i, key ≠ .network i ∧ key ≠ .ssh i)
    (rejection : Option ChannelRejection) (acceptFails : Bool) :
    ∀ e ∈ offer call key rejection acceptFails, OfChannel e := by
  cases rejection with
  | some => simp [offer, OfChannel]
  | none => cases acceptFails <;> simp [offer, OfChannel, hkey]

theorem ofChannel_handleChannel (connectionID : String) (channelID : UInt64)
    (newChannel : NewChannel) (rejection : Option ChannelRejection) (acceptFails : Bool) :
    ∀ e ∈ handleChannel connectionID channelID newChannel rejection acceptFails, OfChannel e := by
  have hforward (payload : SshWire.Struct) (call : SshWire.Record payload.fields → HandlerCall) :
      ∀ e ∈ decodeAndOffer payload call (.directTCPIP connectionID channelID)
        newChannel rejection acceptFails, OfChannel e := by
    unfold decodeAndOffer
    split
    · simp
    · exact ofChannel_offer (by simp) rejection acceptFails
  unfold handleChannel
  split
  · exact ofChannel_offer (by simp) rejection acceptFails
  split
  · exact hforward _ _
  split
  · exact hforward _ _
  · simp [OfChannel]

theorem foldl_applyEffect {effects : List ChannelEffect}
    (heffects : ∀ e ∈ effects, OfChannel e) (registry : ShutdownKey → Bool) (i : String) :
    effects.foldl applyEffect registry (.network i) = registry (.network i) ∧
      effects.foldl applyEffect registry (.ssh i) = registry (.ssh i) := by
  induction effects generalizing registry with
  | nil => exact ⟨rfl, rfl⟩
  | cons e rest ih =>
    obtain ⟨he, hrest⟩ := List.forall_mem_cons.mp heffects
    obtain ⟨hnetwork, hssh⟩ := ih hrest (applyEffect registry e)
    rw [List.foldl_cons, hnetwork, hssh]
    cases e with
    | registers | unregisters => simp [applyEffect, Ne.symm (he i).1, Ne.symm (he i).2]
    | _ => exact ⟨rfl, rfl⟩

theorem local_channel (s : Server) (c : Connection) (newChannel : NewChannel)
    (rejection : Option ChannelRejection) (acceptFails : Bool) (i : String) :
    (s.channel c newChannel rejection acceptFails).local i = s.local i := by
  obtain ⟨hnetwork, hssh⟩ := foldl_applyEffect (ofChannel_handleChannel
    c.metadataID s.nextChannelID newChannel rejection acceptFails) s.registry i
  simp [Server.local, channel, hnetwork, hssh]

theorem local_closeChannel (s : Server) (index : Nat) (c : OpenChannel)
    (i : String) : (s.closeChannel index c).local i = s.local i := by
  unfold closeChannel unregister OpenChannel.key
  split <;> simp [Server.local]

theorem local_openReverse (s : Server) (handler : ReverseForwardHandler)
    (succeeds : Bool) (i : String) : (s.openReverse handler succeeds).local i = s.local i := by
  unfold openReverse
  split
  · split
    · split <;> rfl
    · rfl
  · rfl

theorem act_of_step (hstep : s.step action = some t) :
    s.panicked = false ∧ s.nilDereference = false ∧ s.act action = some t := by
  unfold step at hstep
  split at hstep
  · cases hstep
  · next halive =>
      simp only [not_or, Bool.not_eq_true] at halive
      exact ⟨halive.1, halive.2, hstep⟩

theorem moves_of_step (hstep : s.step action = some t) (i : String) :
    Moves action i (s.local i) (t.local i) := by
  obtain ⟨-, -, hact⟩ := act_of_step hstep
  cases action <;>
    simp only [act, Option.bind_eq_some_iff, Option.ite_none_left_eq_some,
      Option.ite_none_right_eq_some, Option.map_eq_some_iff, Option.some.injEq] at hact
  case accept id =>
    obtain ⟨hnone, rfl⟩ := hact
    by_cases hi : i = id
    · subst hi
      rw [local_setConnection, if_pos rfl]
      exact .accepts (Option.not_isSome_iff_eq_none.mp hnone)
    · exact moves_of_ne hi _ rfl
  case onNetworkConnection id succeeds =>
    obtain ⟨c, hc, hpoint, rfl⟩ := hact
    by_cases hi : i = id
    · subst hi
      rw [local_setConnection, if_pos rfl]
      cases succeeds with
      | true => exact .connects c hc hpoint
      | false => exact .refuses c hc hpoint
    · exact moves_of_ne hi _ rfl
  case handshake =>
    obtain ⟨c, hc, hact⟩ := hact
    exact moves_endHandshake hc hact i
  case advance =>
    obtain ⟨c, hc, hact⟩ := hact
    exact moves_advance hc hact i
  case watch =>
    obtain ⟨c, hc, hact⟩ := hact
    exact moves_watch hc hact i
  case disconnectClients =>
    cases hact
    exact .closes
  case globalRequest | channelRequest =>
    obtain ⟨c, -, -, rfl⟩ := hact
    exact .stays
  case channel =>
    obtain ⟨c, -, -, rfl⟩ := hact
    rw [local_channel]
    exact .stays
  case closeChannel =>
    obtain ⟨c, -, -, rfl⟩ := hact
    rw [local_closeChannel]
    exact .stays
  case openReverse =>
    obtain ⟨invocation, -, handler, -, rfl⟩ := hact
    rw [local_openReverse]
    exact .stays

end Server

end ContainerSSH.SSHServer
