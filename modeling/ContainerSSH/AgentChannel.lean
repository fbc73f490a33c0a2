/-
The channel of accepted connections.
-/
import ContainerSSH.AgentEndpoint

namespace ContainerSSH.Agent

inductive LoopPoint where
  | idle
  | registered (id : UInt64)
  | offering (id : UInt64)
  | sending (id : UInt64)
  | stopping
  | closing
deriving DecidableEq

inductive CallerPoint where
  | kill
  | noMoreConnections
  | closing
  | done
deriving DecidableEq

inductive ChannelPanic where
  | closeOfClosed
  | sendOnClosed (id : UInt64)

structure AcceptChannel where
  ctx : ForwardCtx := {}
  loop : LoopPoint := .idle
  callers : List CallerPoint := []
  closes : Nat := 0
  panic : Option ChannelPanic := none

inductive ChannelAction where
  | receive (packet : Packet)
  | loop
  | take
  | noMoreConnections
  | kill
  | caller (index : Nat)
  | newConnection (details : NewConnectionPayload)
  | call (id : UInt64) (call : LocalCall)
  | closeImm (id : UInt64)
deriving DecidableEq

def ForwardCtx.rejectConnection (ctx : ForwardCtx) (id : UInt64) : ForwardCtx :=
  match ctx.connMap id with
  | none => ctx
  | some c => ctx.setConnection id c.reject.1

namespace AcceptChannel

variable (s : AcceptChannel)

def closeChannel : AcceptChannel :=
  { s with
    ctx.channelClosed := true
    closes := s.closes + 1
    panic :=
      if s.ctx.channelClosed then some .closeOfClosed
      else
        match s.loop with
        | .sending id => some (.sendOnClosed id)
        | _ => none }

def receive (packet : Packet) : Option AcceptChannel :=
  match packet.type with
  | .newConnection =>
    match ForwardCtx.unmarshalNewConnection packet.payload with
    | none => some s
    | some _ =>
      if s.ctx.connMapMu then none
      else
        match s.ctx.register packet with
        | none => some s
        | some ctx => some { s with ctx, loop := .registered packet.connectionId }
  | .noMoreConnections => if s.ctx.stopped then some s else some { s with loop := .stopping }
  | _ => (s.ctx.step (.receive packet)).map fun ctx => { s with ctx }

def continueLoop : Option AcceptChannel :=
  match s.loop with
  | .idle => none
  | .registered id =>
    if s.ctx.stopped then some { s with ctx := s.ctx.rejectConnection id, loop := .idle }
    else some { s with loop := .offering id }
  | .offering id =>
    if s.ctx.channelClosed then some { s with panic := some (.sendOnClosed id) }
    else some { s with loop := .sending id }
  | .sending _ => none
  | .stopping => some { s with ctx.stopped := true, loop := .closing }
  | .closing => some { s.closeChannel with loop := .idle }

def take : Option AcceptChannel :=
  match s.loop with
  | .sending id => some { s with ctx.offered := s.ctx.offered ++ [id], loop := .idle }
  | _ => none

def continueCaller (index : Nat) : Option AcceptChannel :=
  match s.callers[index]? with
  | none => none
  | some .kill =>
    let point := if s.ctx.stopped then .done else .noMoreConnections
    some { s with callers := s.callers.set index point }
  | some .noMoreConnections =>
    some { s with ctx.stopped := true, callers := s.callers.set index .closing }
  | some .closing => some { s.closeChannel with callers := s.callers.set index .done }
  | some .done => none

def step (action : ChannelAction) : Option AcceptChannel :=
  if s.panic.isSome then none
  else
    match action with
    | .receive packet => if s.loop = .idle then s.receive packet else none
    | .loop => s.continueLoop
    | .take => s.take
    | .noMoreConnections => some { s with callers := s.callers ++ [.noMoreConnections] }
    | .kill => some { s with callers := s.callers ++ [.kill] }
    | .caller index => s.continueCaller index
    | .newConnection details => (s.ctx.step (.newConnection details)).map fun ctx => { s with ctx }
    | .call id call => (s.ctx.step (.call id call)).map fun ctx => { s with ctx }
    | .closeImm id => (s.ctx.step (.closeImm id)).map fun ctx => { s with ctx }

end AcceptChannel

def acceptChannel : TransitionSystem AcceptChannel ChannelAction where
  init := {}
  step := AcceptChannel.step

namespace AcceptChannel

structure Safe (s : AcceptChannel) : Prop where
  closedOnce : s.closes ≤ 1
  notPending : s.ctx.channelClosed = true → ∀ id, s.loop ≠ .sending id
  noPanic : s.panic = none

/-- Nobody has stopped this end, and its packet loop is not about to offer a connection. -/
def Free (s : AcceptChannel) : Prop :=
  s.ctx.stopped = false ∧ (s.loop = .idle ∨ ∃ id, s.loop = .registered id)

/-- `NoMoreConnections` starts only on an end that is free. -/
def StopsFree (s : AcceptChannel) : ChannelAction → Prop
  | .caller index => s.callers[index]? = some .noMoreConnections → s.Free
  | _ => True

end AcceptChannel

namespace ForwardCtx

variable {ctx next : ForwardCtx}

structure SameChannel (ctx next : ForwardCtx) : Prop where
  stopped : next.stopped = ctx.stopped
  channelClosed : next.channelClosed = ctx.channelClosed
  offered : next.offered = ctx.offered

theorem sameChannel_setConnection (ctx : ForwardCtx) (id : UInt64)
    (c : Connection) : SameChannel ctx (ctx.setConnection id c) :=
  ⟨rfl, rfl, rfl⟩

theorem sameChannel_closeConnectionImm (ctx : ForwardCtx) (id : UInt64)
    (c : Connection) : SameChannel ctx (ctx.closeConnectionImm id c).1 := by
  unfold closeConnectionImm
  cases c.closeImm with
  | none | some => exact ⟨rfl, rfl, rfl⟩

theorem sameChannel_rejectConnection (ctx : ForwardCtx) (id : UInt64) :
    SameChannel ctx (ctx.rejectConnection id) := by
  unfold rejectConnection
  split
  · exact ⟨rfl, rfl, rfl⟩
  · exact sameChannel_setConnection ctx id _

theorem sameChannel_register {packet : Packet}
    (hregister : ctx.register packet = some next) : SameChannel ctx next := by
  obtain ⟨details, hregisters⟩ := register_eq_some_iff.mp hregister
  rw [hregisters.eq]
  exact ⟨rfl, rfl, rfl⟩

theorem sameChannel_newConnection {details : NewConnectionPayload}
    (hstep : ctx.step (.newConnection details) = some next) :
    SameChannel ctx next := by
  obtain ⟨out, hopens⟩ := toOption_map_fst_eq_some.mp hstep
  rw [newConnection, lock_bind_eq_ok] at hopens
  obtain ⟨-, hopens⟩ := hopens
  dsimp only at hopens
  split_ifs at hopens with hused
  all_goals
    cases hopens
    exact ⟨rfl, rfl, rfl⟩

theorem sameChannel_step {action : EndpointAction} (hstep : ctx.step action = some next)
    (hstop : action ≠ .noMoreConnections) (hpacket : ∀ packet, action = .receive packet →
      packet.type ≠ .newConnection ∧ packet.type ≠ .noMoreConnections) : SameChannel ctx next := by
  cases steps_of_step hstep with
  | newConnection => exact sameChannel_newConnection hstep
  | call => exact sameChannel_setConnection _ _ _
  | closeImm id c => exact sameChannel_closeConnectionImm ctx id c
  | noMoreConnections => exact absurd rfl hstop
  | receive packet next out hhandle =>
    obtain ⟨hnew, hmore⟩ := hpacket packet rfl
    cases handles_of_handlePacket hhandle with
    | ignores | leavesLocked => exact ⟨rfl, rfl, rfl⟩
    | delivers c _ _ _ | starts c _ _ _ => exact sameChannel_setConnection _ _ _
    | acknowledges c _ _ _ | closes c _ _ | fails c _ _ =>
      exact sameChannel_closeConnectionImm _ _ _
    | rejects added details htype | offers added details htype => exact absurd htype hnew
    | stops htype => exact absurd htype hmore

end ForwardCtx

namespace AcceptChannel

inductive Does (s : AcceptChannel) : ChannelAction → AcceptChannel → Prop
  | ignores (packet : Packet) : Does s (.receive packet) s
  | registers {packet : Packet} {ctx : ForwardCtx} (hloop : s.loop = .idle)
      (hregister : s.ctx.register packet = some ctx) : Does s (.receive packet)
        { s with ctx, loop := .registered packet.connectionId }
  | hears {packet : Packet} (hloop : s.loop = .idle) (hrunning : ¬ s.ctx.stopped = true) :
      Does s (.receive packet) { s with loop := .stopping }
  | passes {action : ChannelAction} {endpoint : EndpointAction} {ctx : ForwardCtx}
      (hctx : s.ctx.step endpoint = some ctx) (hsame : s.ctx.SameChannel ctx) :
      Does s action { s with ctx }
  | rejects {id : UInt64} (hloop : s.loop = .registered id) :
      Does s .loop { s with ctx := s.ctx.rejectConnection id, loop := .idle }
  | offers {id : UInt64} (hloop : s.loop = .registered id) (hrunning : ¬ s.ctx.stopped = true) :
      Does s .loop { s with loop := .offering id }
  | panics {id : UInt64} (hloop : s.loop = .offering id) (hclosed : s.ctx.channelClosed = true) :
      Does s .loop { s with panic := some (.sendOnClosed id) }
  | sends {id : UInt64} (hloop : s.loop = .offering id) :
      Does s .loop { s with loop := .sending id }
  | stops (hloop : s.loop = .stopping) :
      Does s .loop { s with ctx.stopped := true, loop := .closing }
  | closes (hloop : s.loop = .closing) : Does s .loop { s.closeChannel with loop := .idle }
  | takes {id : UInt64} (hloop : s.loop = .sending id) :
      Does s .take { s with ctx.offered := s.ctx.offered ++ [id], loop := .idle }
  | joins {action : ChannelAction} {point : CallerPoint} (hpoint : point ≠ .closing) :
      Does s action { s with callers := s.callers ++ [point] }
  | callerChecks {index : Nat} {next : CallerPoint} (hpoint : s.callers[index]? = some .kill)
      (hnext : next ≠ .closing) :
      Does s (.caller index) { s with callers := s.callers.set index next }
  | callerStops {index : Nat} (hpoint : s.callers[index]? = some .noMoreConnections) :
      Does s (.caller index)
        { s with ctx.stopped := true, callers := s.callers.set index .closing }
  | callerCloses {index : Nat} (hpoint : s.callers[index]? = some .closing) :
      Does s (.caller index) { s.closeChannel with callers := s.callers.set index .done }

section
variable {s t : AcceptChannel} {action : ChannelAction}

theorem does_of_receive {packet : Packet} (hloop : s.loop = .idle)
    (hstep : s.receive packet = some t) : Does s (.receive packet) t := by
  unfold receive at hstep
  split at hstep
  · split at hstep
    · cases hstep
      exact .ignores packet
    · obtain ⟨-, hstep⟩ := Option.ite_none_left_eq_some.mp hstep
      split at hstep <;> cases hstep
      · exact .ignores packet
      · next hregister => exact .registers hloop hregister
  · split_ifs at hstep with hstopped <;> cases hstep
    · exact .ignores packet
    · exact .hears hloop hstopped
  · next hnew hmore =>
      obtain ⟨ctx, hctx, rfl⟩ := Option.map_eq_some_iff.mp hstep
      refine .passes hctx (ForwardCtx.sameChannel_step hctx (by simp) ?_)
      rintro other ⟨⟩
      exact ⟨hnew, hmore⟩

theorem does_of_continueLoop (hstep : s.continueLoop = some t) : Does s .loop t := by
  unfold continueLoop at hstep
  split at hstep
  case h_2 hloop =>
    split_ifs at hstep with hstopped <;> cases hstep
    · exact .rejects hloop
    · exact .offers hloop hstopped
  case h_3 hloop =>
    split_ifs at hstep with hclosed <;> cases hstep
    · exact .panics hloop hclosed
    · exact .sends hloop
  all_goals cases hstep
  · next hloop => exact .stops hloop
  · next hloop => exact .closes hloop

theorem does_of_step (hstep : s.step action = some t) : Does s action t := by
  obtain ⟨-, hstep⟩ := Option.ite_none_left_eq_some.mp hstep
  cases action with
  | receive =>
    obtain ⟨hloop, hstep⟩ := Option.ite_none_right_eq_some.mp hstep
    exact does_of_receive hloop hstep
  | loop => exact does_of_continueLoop hstep
  | take =>
    dsimp only [take] at hstep
    split at hstep <;> cases hstep
    next hloop => exact .takes hloop
  | noMoreConnections | kill =>
    cases hstep
    exact .joins (by simp)
  | caller =>
    dsimp only [continueCaller] at hstep
    split at hstep <;> cases hstep
    · next hpoint => exact .callerChecks hpoint (by split_ifs <;> simp)
    · next hpoint => exact .callerStops hpoint
    · next hpoint => exact .callerCloses hpoint
  | newConnection | call | closeImm =>
    obtain ⟨ctx, hctx, rfl⟩ := Option.map_eq_some_iff.mp hstep
    exact .passes hctx (ForwardCtx.sameChannel_step hctx (by simp) (by simp))

theorem offered_of_step (hstep : s.step action = some t) (hother : action ≠ .take) :
    t.ctx.offered = s.ctx.offered := by
  cases does_of_step hstep with
  | registers _ hregister => exact (ForwardCtx.sameChannel_register hregister).offered
  | passes _ hsame => exact hsame.offered
  | rejects => exact (s.ctx.sameChannel_rejectConnection _).offered
  | takes => exact absurd rfl hother
  | _ => rfl

end

def pending (loop : LoopPoint) (callers : List CallerPoint) : Nat :=
  callers.count .closing + if loop = .closing then 1 else 0

def Settled (loop : LoopPoint) : Prop :=
  loop = .idle ∨ (∃ id, loop = .registered id) ∨ loop = .closing

structure Exclusive (s : AcceptChannel) : Prop where
  noPanic : s.panic = none
  closers : s.closes + pending s.loop s.callers = if s.ctx.stopped then 1 else 0
  closed : s.closes = if s.ctx.channelClosed then 1 else 0
  settled : s.ctx.stopped = true → Settled s.loop

theorem exclusive_init : Exclusive acceptChannel.init := ⟨rfl, rfl, rfl, by simp [acceptChannel]⟩

variable {s t : AcceptChannel} {loop : LoopPoint} {callers : List CallerPoint}

theorem Exclusive.open_of_running (hs : s.Exclusive)
    (hrunning : ¬ s.ctx.stopped = true) : ¬ s.ctx.channelClosed = true := by
  intro hclosed
  have hcloses := hs.closed
  have hclosers := hs.closers
  rw [if_pos hclosed] at hcloses
  rw [if_neg hrunning] at hclosers
  omega

theorem Exclusive.running (hs : s.Exclusive) (hloop : ¬ Settled s.loop) : ¬ s.ctx.stopped = true :=
  fun hstopped => hloop (hs.settled hstopped)

theorem Exclusive.safe (hs : s.Exclusive) : s.Safe where
  closedOnce := by
    rw [hs.closed]
    split_ifs <;> omega
  notPending := by
    intro hclosed id hsending
    have hrunning := hs.running (by simp [Settled, hsending])
    exact hs.open_of_running hrunning hclosed
  noPanic := hs.noPanic

theorem Exclusive.frame (hs : s.Exclusive) {ctx : ForwardCtx}
    (hsame : ForwardCtx.SameChannel s.ctx ctx) : Exclusive { s with ctx } := by
  obtain ⟨hpanic, hclosers, hclosed, hsettled⟩ := hs
  rw [← hsame.stopped] at hclosers hsettled
  rw [← hsame.channelClosed] at hclosed
  exact ⟨hpanic, hclosers, hclosed, hsettled⟩

theorem Exclusive.move (hs : s.Exclusive)
    (hpending : pending loop callers = pending s.loop s.callers)
    (hsettled : s.ctx.stopped = true → Settled loop) : Exclusive { s with loop, callers } where
  noPanic := hs.noPanic
  closers := by
    rw [hpending]
    exact hs.closers
  closed := hs.closed
  settled := hsettled

theorem Exclusive.moveLoop (hs : s.Exclusive) (hfrom : s.loop ≠ .closing)
    (hto : loop ≠ .closing) (hsettled : s.ctx.stopped = true → Settled loop) :
    Exclusive { s with loop } := by
  apply hs.move _ hsettled
  simp only [pending, if_neg hfrom, if_neg hto]

theorem Exclusive.stop (hs : s.Exclusive) (hrunning : ¬ s.ctx.stopped = true)
    (hpending : pending loop callers = pending s.loop s.callers + 1) (hsettled : Settled loop) :
    Exclusive { s with ctx.stopped := true, loop, callers } where
  noPanic := hs.noPanic
  closers := by
    have hclosers := hs.closers
    rw [if_neg hrunning] at hclosers
    change s.closes + pending loop callers = 1
    omega
  closed := hs.closed
  settled := fun _ => hsettled

theorem Exclusive.close (hs : s.Exclusive)
    (hpending : pending loop callers + 1 = pending s.loop s.callers)
    (hsettled : Settled s.loop → Settled loop) :
    Exclusive { s.closeChannel with loop, callers } := by
  have hclosers := hs.closers
  have hclosed := hs.closed
  have hstopped : s.ctx.stopped = true := by
    by_contra hrunning
    rw [if_neg hrunning] at hclosers
    omega
  rw [if_pos hstopped] at hclosers
  have hopen : ¬ s.ctx.channelClosed = true := by
    intro hnot
    rw [if_pos hnot] at hclosed
    omega
  refine ⟨?_, ?_, ?_, fun _ => hsettled (hs.settled hstopped)⟩
  · rcases hs.settled hstopped with hloop | ⟨id, hloop⟩ | hloop <;>
      simp [closeChannel, hopen, hloop]
  · change s.closes + 1 + pending loop callers = if s.ctx.stopped then 1 else 0
    rw [if_pos hstopped]
    omega
  · change s.closes + 1 = 1
    omega

theorem Exclusive.addCaller (hs : s.Exclusive) {point : CallerPoint} (hpoint : point ≠ .closing) :
    Exclusive { s with callers := s.callers ++ [point] } := by
  apply hs.move _ hs.settled
  simp [pending, hpoint]

theorem count_closing_set {index : Nat} {point : CallerPoint}
    (hpoint : callers[index]? = some point) (next : CallerPoint) :
    (callers.set index next).count .closing =
      callers.count .closing - (if point = .closing then 1 else 0) +
        if next = .closing then 1 else 0 := by
  obtain ⟨hindex, hget⟩ := List.getElem?_eq_some_iff.mp hpoint
  rw [List.count_set hindex, hget]
  simp

theorem Exclusive.step (hs : s.Exclusive) {action : ChannelAction}
    (hfree : s.StopsFree action) (hstep : s.step action = some t) :
    t.Exclusive := by
  have hidle : s.loop ≠ .closing → Exclusive { s with loop := .idle } :=
    fun hfrom => hs.moveLoop hfrom (by simp) fun _ => .inl rfl
  cases does_of_step hstep with
  | ignores => exact hs
  | passes _ hsame => exact hs.frame hsame
  | @registers packet ctx hloop hregister =>
    have hmoved : Exclusive { s with loop := .registered packet.connectionId } :=
      hs.moveLoop (by simp [hloop]) (by simp) fun _ => .inr (.inl ⟨_, rfl⟩)
    exact hmoved.frame (ForwardCtx.sameChannel_register hregister)
  | rejects hloop =>
    exact (hidle (by simp [hloop])).frame (s.ctx.sameChannel_rejectConnection _)
  | hears hloop hrunning | offers hloop hrunning =>
    exact hs.moveLoop (by simp [hloop]) (by simp) fun h => absurd h hrunning
  | sends hloop =>
    have hrunning := hs.running (by simp [Settled, hloop])
    exact hs.moveLoop (by simp [hloop]) (by simp) fun h => absurd h hrunning
  | panics hloop hclosed =>
    have hrunning := hs.running (by simp [Settled, hloop])
    exact absurd hclosed (hs.open_of_running hrunning)
  | stops hloop =>
    have hrunning := hs.running (by simp [Settled, hloop])
    exact hs.stop hrunning (by simp [pending, hloop]) (.inr (.inr rfl))
  | closes hloop => exact hs.close (by simp [pending, hloop, closeChannel]) fun _ => .inl rfl
  | takes hloop =>
    obtain ⟨hpanic, hclosers, hclosed, hsettled⟩ := hidle (by simp [hloop])
    exact ⟨hpanic, hclosers, hclosed, hsettled⟩
  | joins hpoint => exact hs.addCaller hpoint
  | callerChecks hpoint hnext =>
    apply hs.move _ hs.settled
    rw [pending, count_closing_set hpoint]
    simp [pending, hnext]
  | callerStops hpoint =>
    obtain ⟨hrunning, hloop⟩ := hfree hpoint
    apply hs.stop (by simp [hrunning])
    · rw [pending, count_closing_set hpoint]
      simp [pending]
      omega
    · rcases hloop with hidle | hregistered
      · exact .inl hidle
      · exact .inr (.inl hregistered)
  | callerCloses hpoint =>
    apply hs.close _ id
    have hmem : 0 < s.callers.count .closing := List.count_pos_iff.mpr (List.mem_of_getElem? hpoint)
    rw [pending, count_closing_set hpoint]
    simp [pending]
    omega

end AcceptChannel

theorem exclusive_of_stopsFree {actions : List ChannelAction}
    {s : AcceptChannel} (hrun : acceptChannel.run actions = some s)
    (hfree : acceptChannel.Meets AcceptChannel.StopsFree acceptChannel.init actions) :
    s.Exclusive :=
  acceptChannel.runFrom_invariant_of_meets (fun _ _ _ hs hmeets hstep => hs.step hmeets hstep)
    AcceptChannel.exclusive_init hfree hrun

/-- The channel is safe as long as `NoMoreConnections` starts only on an end
that nobody has stopped and whose packet loop does not rely on that. -/
theorem channel_safe_of_stopsFree {actions : List ChannelAction}
    {s : AcceptChannel} (hrun : acceptChannel.run actions = some s)
    (hfree : acceptChannel.Meets AcceptChannel.StopsFree acceptChannel.init actions) :
    s.Safe :=
  (exclusive_of_stopsFree hrun hfree).safe

def takenThenStopped : List ChannelAction :=
  [.receive (ForwardCtx.newPacket 1 {}), .loop, .loop, .take,
    .noMoreConnections, .caller 0, .caller 0]

theorem channel_safe_takenThenStopped :
    ∃ s, acceptChannel.run takenThenStopped = some s ∧ s.closes = 1 ∧
      s.ctx.offered = [1] ∧ s.Safe := by
  refine ⟨_, rfl, rfl, rfl, @channel_safe_of_stopsFree takenThenStopped _ rfl ?_⟩
  apply acceptChannel.meets_cons trivial rfl
  apply acceptChannel.meets_cons trivial rfl
  apply acceptChannel.meets_cons trivial rfl
  apply acceptChannel.meets_cons trivial rfl
  apply acceptChannel.meets_cons trivial rfl
  apply acceptChannel.meets_cons (fun _ => ⟨rfl, .inl rfl⟩) rfl
  refine acceptChannel.meets_cons (fun hpoint => ?_) rfl trivial
  exact absurd (Option.some.inj hpoint) (by decide)

/-- The peer stops, and then the own side does: the channel is closed twice. -/
theorem channel_closed_twice : ∃ s, acceptChannel.run
        [.receive { type := .noMoreConnections, connectionId := 0 }, .loop,
          .loop, .noMoreConnections, .caller 0, .caller 0] = some s ∧
      s.closes = 2 ∧ s.panic = some .closeOfClosed ∧ ¬ s.Safe := by
  refine ⟨_, rfl, rfl, rfl, ?_⟩
  intro hsafe
  exact absurd hsafe.closedOnce (by decide)

end ContainerSSH.Agent
