/-
The states of a connection under concurrency.
-/
import ContainerSSH.AgentChannel

namespace ContainerSSH.Agent

def ConnectionState.rank : ConnectionState → Nat
  | .waitInit => 0
  | .started => 1
  | .waitClose => 2
  | .closed => 3

theorem ConnectionState.rank_le_closed (state : ConnectionState) :
    state.rank ≤ ConnectionState.closed.rank := by
  cases state <;> decide

inductive HandlerPoint where
  | idle
  | read (id : UInt64) (state : ConnectionState)
  | registered (id : UInt64)
deriving DecidableEq

structure Threads where
  ctx : ForwardCtx := {}
  loop : HandlerPoint := .idle
  closing : List UInt64 := []
  returned : List UInt64 := []
  sent : List Packet := []

inductive ThreadAction where
  | newConnection (details : NewConnectionPayload)
  | receive (packet : Packet)
  | loop
  | call (id : UInt64) (call : LocalCall)
  | close (id : UInt64)
  | writeClose (index : Nat)
  | closeImm (id : UInt64)
  | noMoreConnections
deriving DecidableEq

def ForwardCtx.finishSuccess (ctx : ForwardCtx) (id : UInt64)
    (state : ConnectionState) : ForwardCtx :=
  match ctx.connMap id with
  | none => ctx
  | some c =>
    match state with
    | .waitInit => ctx.setConnection id { c with state := .started }
    | .waitClose => (ctx.closeConnectionImm id c).1
    | _ => ctx

def ForwardCtx.rejection (ctx : ForwardCtx) (id : UInt64) : List Packet :=
  match ctx.connMap id with
  | none => []
  | some c => c.reject.2

namespace Threads

variable (s : Threads)

def advance (ctx : ForwardCtx) (out : List Packet) : Threads :=
  { s with ctx, sent := s.sent ++ out }

def perform (result : Except Stuck (ForwardCtx × List Packet)) :
    Option Threads :=
  result.toOption.map fun done => s.advance done.1 done.2

def receive (packet : Packet) : Option Threads :=
  match packet.type with
  | .success =>
    if s.ctx.connMapMu then none
    else
      match s.ctx.connMap packet.connectionId with
      | none => some s
      | some c => some { s with loop := .read packet.connectionId c.state }
  | .newConnection =>
    match ForwardCtx.unmarshalNewConnection packet.payload with
    | none => some s
    | some _ =>
      if s.ctx.connMapMu then none
      else
        match s.ctx.register packet with
        | none => some s
        | some ctx => some { s with ctx, loop := .registered packet.connectionId }
  | _ => s.perform (s.ctx.handlePacket packet)

def continueLoop : Option Threads :=
  match s.loop with
  | .idle => none
  | .read id state => some { s with ctx := s.ctx.finishSuccess id state, loop := .idle }
  | .registered id =>
    if s.ctx.stopped then
      some { s.advance (s.ctx.rejectConnection id) (s.ctx.rejection id) with loop := .idle }
    else if s.ctx.channelClosed then none
    else some { s with ctx.offered := s.ctx.offered ++ [id], loop := .idle }

def close (id : UInt64) (c : Connection) : Threads :=
  if c.close.2 = [] then
    { s with ctx := s.ctx.setConnection id c.close.1, returned := s.returned ++ [id] }
  else { s with ctx := s.ctx.setConnection id c.close.1, closing := s.closing ++ [id] }

def holdsMap : Bool :=
  match s.loop with
  | .read _ _ => true
  | _ => false

def step : ThreadAction → Option Threads
  | .newConnection details => if s.holdsMap then none else s.perform (s.ctx.newConnection details)
  | .receive packet => if s.loop = .idle then s.receive packet else none
  | .loop => s.continueLoop
  | .call id call =>
    if call = .close then none
    else
      (s.ctx.connMap id).bind fun c =>
        (c.call call).map fun result => s.advance (s.ctx.setConnection id result.1) result.2
  | .close id => (s.ctx.connMap id).map fun c => s.close id c
  | .writeClose index =>
    (s.closing[index]?).map fun id =>
      { s with
        closing := s.closing.eraseIdx index
        returned := s.returned ++ [id]
        sent := s.sent ++ [{ type := .closeConnection, connectionId := id }] }
  | .closeImm id =>
    (s.ctx.connMap id).map fun c => { s with ctx := (s.ctx.closeConnectionImm id c).1 }
  | .noMoreConnections => s.perform s.ctx.noMoreConnections

end Threads

def threads : TransitionSystem Threads ThreadAction where
  init := {}
  step := Threads.step

def Packet.isDataOf (packet : Packet) (id : UInt64) : Bool :=
  decide (packet.type = .data) && decide (packet.connectionId = id)

namespace Threads

structure Precedes (s t : Threads) : Prop where
  forward : ∀ id c, s.ctx.connMap id = some c →
    ∃ c', t.ctx.connMap id = some c' ∧ c.state.rank ≤ c'.state.rank
  notRestarted : ∀ id ∈ s.returned, ∀ c, t.ctx.connMap id = some c → c.state ≠ .started
  silent : ∀ id ∈ s.returned, t.sent.filter (·.isDataOf id) = s.sent.filter (·.isDataOf id)

/-- Along the run no connection goes back to an earlier state. -/
def MovesForward (actions : List ThreadAction) : Prop :=
  ∀ first second rest s t, actions = first ++ second ++ rest →
    threads.run first = some s → threads.runFrom s second = some t → s.Precedes t

/-- A connection that is started on a state read before has not gone past it since. -/
def StartsFresh (s : Threads) : ThreadAction → Prop
  | .loop => ∀ id c, s.loop = .read id .waitInit →
      s.ctx.connMap id = some c → c.state.rank ≤ ConnectionState.started.rank
  | _ => True

end Threads

structure Connection.Evolution (R : Connection → Connection → Prop) :
    Prop where
  refl : ∀ c, R c c
  call : ∀ {c c' call out}, Connection.call c call = some (c', out) → R c c'
  closeImm : ∀ {c c'}, Connection.closeImm c = some c' → R c c'
  receive : ∀ c data, R c { c with pipe := Pipe.write c.pipe data }

theorem Connection.rankEvolution :
    Connection.Evolution fun c c' => c.state.rank ≤ c'.state.rank where
  refl := fun c => le_refl _
  call := by
    intro c c' call out hcall
    cases Connection.calls_of_call hcall with
    | closes hstate => rcases hstate with h | h <;> simp [h, ConnectionState.rank]
    | accepts hside hstate | rejects hside hstate => simp [hstate, ConnectionState.rank]
    | _ => exact le_refl _
  closeImm := by
    intro c c' hclose
    rw [Connection.closeImm_eq hclose]
    exact ConnectionState.rank_le_closed c.state
  receive := fun c data => le_refl _

namespace ForwardCtx

structure Advances (R : Connection → Connection → Prop)
    (ctx next : ForwardCtx) (out : List Packet) : Prop where
  keyed : next.Keyed
  evolves : ∀ id c, ctx.connMap id = some c → ∃ c', next.connMap id = some c' ∧ R c c'
  data : ∀ packet ∈ out, packet.type = .data →
    ∃ c, ctx.connMap packet.connectionId = some c ∧ c.state = .started

variable {R : Connection → Connection → Prop}
  {ctx next : ForwardCtx} {out : List Packet} {id : UInt64} {c c' : Connection}

theorem advances_setConnection (hR : Connection.Evolution R)
    (hkeyed : ctx.Keyed) (hconn : ctx.connMap id = some c) (hid : c'.id = c.id) (hevolves : R c c')
    (hdata : ∀ packet ∈ out, packet.type = .data → packet.connectionId = id ∧ c.state = .started) :
    Advances R ctx (ctx.setConnection id c') out where
  keyed := by
    apply hkeyed.update (ctx.setConnection_self id c')
    · exact hid.trans (hkeyed id c hconn)
    · exact fun i hi => ctx.setConnection_of_ne c' hi
  evolves := by
    intro i d hd
    by_cases hi : i = id
    · subst hi
      rw [hconn, Option.some.injEq] at hd
      exact ⟨c', ctx.setConnection_self i c', hd ▸ hevolves⟩
    · exact ⟨d, by rw [ctx.setConnection_of_ne c' hi, hd], hR.refl d⟩
  data := by
    intro packet hmem htype
    obtain ⟨hpacket, hstarted⟩ := hdata packet hmem htype
    exact ⟨c, by rw [hpacket, hconn], hstarted⟩

section
variable (hR : Connection.Evolution R)
include hR

theorem Advances.of_extends (hkeyed : next.Keyed)
    (hextends : ∀ id c, ctx.connMap id = some c → next.connMap id = some c)
    (hdata : ∀ packet ∈ out, packet.type ≠ .data) : Advances R ctx next out where
  keyed := hkeyed
  evolves := fun id c hconn => ⟨c, hextends id c hconn, hR.refl c⟩
  data := fun packet hmem htype => absurd htype (hdata packet hmem)

theorem Advances.of_same (hkeyed : ctx.Keyed) (hsame : next.connMap = ctx.connMap)
    (hdata : ∀ packet ∈ out, packet.type ≠ .data) : Advances R ctx next out := by
  apply Advances.of_extends hR _ _ hdata
  · intro id c hconn
    exact hkeyed id c (hsame ▸ hconn)
  · intro id c hconn
    rw [hsame, hconn]

theorem Advances.of_added (hkeyed : ctx.Keyed)
    (hfree : ctx.connMap id = none) (hadded : next.connMap id = some c)
    (hid : c.id = id) (hsame : ∀ i, i ≠ id → next.connMap i = ctx.connMap i)
    (hdata : ∀ packet ∈ out, packet.type ≠ .data) : Advances R ctx next out := by
  apply Advances.of_extends hR (hkeyed.update hadded hid hsame) _ hdata
  intro i d hd
  have hi : i ≠ id := by
    rintro rfl
    simp [hfree] at hd
  rw [hsame i hi, hd]

variable (hkeyed : ctx.Keyed)
include hkeyed

theorem advances_closeConnectionImm (hconn : ctx.connMap id = some c)
    (hdata : ∀ packet ∈ out, packet.type ≠ .data) :
    Advances R ctx (ctx.closeConnectionImm id c).1 out := by
  unfold closeConnectionImm
  cases hclose : c.closeImm with
  | none => exact .of_same hR hkeyed rfl hdata
  | some closed =>
    have hset : Advances R ctx (ctx.setConnection id closed) out := by
      apply advances_setConnection hR hkeyed hconn _ (hR.closeImm hclose)
      · exact fun packet hmem htype => absurd htype (hdata packet hmem)
      · rw [Connection.closeImm_eq hclose]
    exact ⟨hset.keyed, hset.evolves, hset.data⟩

theorem advances_newConnection {details : NewConnectionPayload}
    (hopens : ctx.newConnection details = .ok (next, out)) : Advances R ctx next out := by
  obtain ⟨-, -, hcases⟩ := newConnection_cases hopens
  rcases hcases with ⟨-, hmap, rfl⟩ | ⟨hfree, hadded, hsame, rfl⟩
  · exact .of_same hR hkeyed hmap (by simp)
  · exact .of_added hR hkeyed hfree hadded rfl hsame (by simp [newPacket])

theorem advances_register {packet : Packet}
    (hregister : ctx.register packet = some next) : Advances R ctx next [] := by
  obtain ⟨details, hregisters⟩ := register_eq_some_iff.mp hregister
  have hsame : ∀ i, i ≠ packet.connectionId → next.connMap i = ctx.connMap i := by
    intro i hi
    rw [hregisters.eq]
    exact ctx.setConnection_of_ne _ hi
  exact .of_added hR hkeyed hregisters.unknown hregisters.connMap_self rfl hsame (by simp)

theorem advances_call {call : LocalCall} (hconn : ctx.connMap id = some c)
    (hcall : c.call call = some (c', out)) : Advances R ctx (ctx.setConnection id c') out := by
  have hid := Connection.call_id hcall
  apply advances_setConnection hR hkeyed hconn hid.1 (hR.call hcall)
  intro packet hmem htype
  refine ⟨((hid.2 packet hmem).1).trans (hkeyed id c hconn), ?_⟩
  cases Connection.calls_of_call hcall with
  | writes data hstate => exact hstate
  | closes | accepts | rejects => simp_all [Connection.packet]
  | _ => simp at hmem

theorem advances_rejectConnection (id : UInt64) :
    Advances R ctx (ctx.rejectConnection id) (ctx.rejection id) := by
  unfold rejectConnection rejection
  cases hconn : ctx.connMap id with
  | none => exact .of_same hR hkeyed rfl (by simp)
  | some c =>
    have hcall : c.call .reject = some (c.reject.1, c.reject.2) := rfl
    exact advances_call hR hkeyed hconn hcall

theorem Handles.advances {packet : Packet} (hhandles : Handles ctx packet next out)
    (hsuccess : packet.type ≠ .success) (hnew : packet.type ≠ .newConnection) :
    Advances R ctx next out := by
  cases hhandles with
  | ignores | leavesLocked | stops => exact .of_same hR hkeyed rfl (by simp)
  | delivers c _ hconn _ =>
    exact advances_setConnection hR hkeyed hconn rfl (hR.receive c _) (by simp)
  | starts c htype | acknowledges c htype => exact absurd htype hsuccess
  | closes c _ hconn =>
    apply advances_closeConnectionImm hR hkeyed hconn
    split_ifs <;> simp [Connection.packet]
  | fails c _ hconn => exact advances_closeConnectionImm hR hkeyed hconn (by simp)
  | rejects added details htype | offers added details htype => exact absurd htype hnew

theorem advances_noMoreConnections (hstops : ctx.noMoreConnections = .ok (next, out)) :
    Advances R ctx next out := by
  unfold noMoreConnections at hstops
  split_ifs at hstops
  cases hstops
  exact .of_same hR hkeyed rfl (by simp)

theorem advances_finishSuccess {state : ConnectionState}
    (hstart : ∀ c, state = .waitInit → ctx.connMap id = some c → R c { c with state := .started }) :
    Advances R ctx (ctx.finishSuccess id state) [] := by
  unfold finishSuccess
  cases hconn : ctx.connMap id with
  | none => exact .of_same hR hkeyed rfl (by simp)
  | some c =>
    cases state with
    | waitInit => exact advances_setConnection hR hkeyed hconn rfl (hstart c rfl hconn) (by simp)
    | started | closed => exact .of_same hR hkeyed rfl (by simp)
    | waitClose => exact advances_closeConnectionImm hR hkeyed hconn (by simp)

end

end ForwardCtx

namespace Threads

variable {R : Connection → Connection → Prop} {r s t : Threads}

def Steps (R : Connection → Connection → Prop) (s t : Threads) : Prop :=
  ∃ out, ForwardCtx.Advances R s.ctx t.ctx out ∧ t.sent = s.sent ++ out

theorem Steps.of_silent (hadvances : ForwardCtx.Advances R s.ctx t.ctx [])
    (hsent : t.sent = s.sent) : Steps R s t :=
  ⟨[], hadvances, by simp [hsent]⟩

inductive Does (s : Threads) : ThreadAction → Threads → Prop
  | opens {details next} (hfree : ¬ s.holdsMap = true)
      (hperform : s.perform (s.ctx.newConnection details) = some next) :
      Does s (.newConnection details) next
  | receives {packet next} (hidle : s.loop = .idle)
      (hreceive : s.receive packet = some next) : Does s (.receive packet) next
  | continues {next} (hloop : s.continueLoop = some next) : Does s .loop next
  | calls {id call c c' out} (hother : call ≠ .close)
      (hconn : s.ctx.connMap id = some c) (hcall : c.call call = some (c', out)) :
      Does s (.call id call) (s.advance (s.ctx.setConnection id c') out)
  | closes {id c} (hconn : s.ctx.connMap id = some c) : Does s (.close id) (s.close id c)
  | writesClose {index id} (hindex : s.closing[index]? = some id) : Does s (.writeClose index)
        { s with
          closing := s.closing.eraseIdx index
          returned := s.returned ++ [id]
          sent := s.sent ++ [{ type := .closeConnection, connectionId := id }] }
  | closesImm {id c} (hconn : s.ctx.connMap id = some c) :
      Does s (.closeImm id) { s with ctx := (s.ctx.closeConnectionImm id c).1 }
  | stops {next} (hperform : s.perform s.ctx.noMoreConnections = some next) :
      Does s .noMoreConnections next

variable {action : ThreadAction}

theorem does_of_step (hstep : s.step action = some t) : Does s action t := by
  cases action <;>
    simp only [Threads.step, Option.ite_none_left_eq_some, Option.ite_none_right_eq_some,
      Option.bind_eq_some_iff, Option.map_eq_some_iff] at hstep
  case newConnection => exact .opens hstep.1 hstep.2
  case receive => exact .receives hstep.1 hstep.2
  case loop => exact .continues hstep
  case call =>
    obtain ⟨hother, c, hconn, ⟨c', out⟩, hcall, rfl⟩ := hstep
    exact .calls hother hconn hcall
  case close =>
    obtain ⟨c, hconn, rfl⟩ := hstep
    exact .closes hconn
  case writeClose =>
    obtain ⟨id, hindex, rfl⟩ := hstep
    exact .writesClose hindex
  case closeImm =>
    obtain ⟨c, hconn, rfl⟩ := hstep
    exact .closesImm hconn
  case noMoreConnections => exact .stops hstep

variable {result : Except Stuck (ForwardCtx × List Packet)}

theorem perform_eq_some : s.perform result = some t ↔
      ∃ ctx out, result = .ok (ctx, out) ∧ t = s.advance ctx out := by
  cases result with
  | error => simp [Threads.perform, Except.toOption]
  | ok done =>
    obtain ⟨ctx, out⟩ := done
    simp [Threads.perform, Except.toOption, eq_comm]

theorem steps_perform (hadvances : ∀ ctx out, result = .ok (ctx, out) →
      ForwardCtx.Advances R s.ctx ctx out) (hstep : s.perform result = some t) : Steps R s t := by
  obtain ⟨ctx, out, hresult, rfl⟩ := perform_eq_some.mp hstep
  exact ⟨out, hadvances ctx out hresult, rfl⟩

section
variable (hR : Connection.Evolution R) (hkeyed : s.ctx.Keyed)
include hR hkeyed

theorem Steps.of_same (hctx : t.ctx.connMap = s.ctx.connMap)
    (hsent : t.sent = s.sent) : Steps R s t :=
  .of_silent (.of_same hR hkeyed hctx (by simp)) hsent

theorem steps_receive {packet : Packet} (hstep : s.receive packet = some t) : Steps R s t := by
  unfold Threads.receive at hstep
  split at hstep
  · split_ifs at hstep
    split at hstep <;> cases hstep <;>
      exact .of_same hR hkeyed rfl rfl
  · split at hstep
    · cases hstep
      exact .of_same hR hkeyed rfl rfl
    · split_ifs at hstep
      split at hstep <;> cases hstep
      · exact .of_same hR hkeyed rfl rfl
      · rename_i ctx hregister
        exact .of_silent (ForwardCtx.advances_register hR hkeyed hregister) rfl
  · rename_i hsuccess hnew
    apply steps_perform _ hstep
    intro ctx out hhandle
    exact (ForwardCtx.handles_of_handlePacket hhandle).advances hR hkeyed hsuccess hnew

theorem steps_continueLoop (hstart : ∀ id c, s.loop = .read id .waitInit →
      s.ctx.connMap id = some c → R c { c with state := .started })
    (hstep : s.continueLoop = some t) : Steps R s t := by
  unfold Threads.continueLoop at hstep
  split at hstep
  · simp at hstep
  · rename_i id state hloop
    cases hstep
    refine .of_silent (ForwardCtx.advances_finishSuccess hR hkeyed ?_) rfl
    rintro c rfl hconn
    exact hstart id c hloop hconn
  · rename_i id hloop
    split_ifs at hstep <;> cases hstep
    · exact ⟨_, ForwardCtx.advances_rejectConnection hR hkeyed id, rfl⟩
    · exact .of_same hR hkeyed rfl rfl

theorem steps_close {id : UInt64} {c : Connection}
    (hconn : s.ctx.connMap id = some c) : Steps R s (s.close id c) := by
  have hcall : c.call .close = some (c.close.1, c.close.2) := rfl
  have hwrites := ForwardCtx.advances_call hR hkeyed hconn hcall
  unfold Threads.close
  split_ifs <;>
    exact .of_silent ⟨hwrites.keyed, hwrites.evolves, by simp⟩ rfl

theorem steps_of_step {action : ThreadAction}
    (hstart : ∀ id c, action = .loop → s.loop = .read id .waitInit →
      s.ctx.connMap id = some c → R c { c with state := .started })
    (hstep : s.step action = some t) : Steps R s t := by
  cases does_of_step hstep with
  | opens _ hperform =>
    apply steps_perform _ hperform
    exact fun ctx out => ForwardCtx.advances_newConnection hR hkeyed
  | receives _ hreceive => exact steps_receive hR hkeyed hreceive
  | continues hloop =>
    exact steps_continueLoop hR hkeyed (fun id c hread hconn => hstart id c rfl hread hconn) hloop
  | calls _ hconn hcall => exact ⟨_, ForwardCtx.advances_call hR hkeyed hconn hcall, rfl⟩
  | closes hconn => exact steps_close hR hkeyed hconn
  | writesClose _ => exact ⟨_, .of_same hR hkeyed rfl (by simp), rfl⟩
  | closesImm hconn =>
    exact .of_silent (ForwardCtx.advances_closeConnectionImm hR hkeyed hconn (by simp)) rfl
  | stops hperform =>
    apply steps_perform _ hperform
    exact fun ctx out => ForwardCtx.advances_noMoreConnections hR hkeyed

end

theorem waitClose_le_close (c : Connection) :
    ConnectionState.waitClose.rank ≤ c.close.1.state.rank := by
  unfold Connection.close
  cases hstate : c.state <;> simp [ConnectionState.rank]

def SameCalls (s t : Threads) : Prop := t.closing = s.closing ∧ t.returned = s.returned

theorem sameCalls_perform (hstep : s.perform result = some t) : SameCalls s t := by
  obtain ⟨ctx, out, -, rfl⟩ := perform_eq_some.mp hstep
  exact ⟨rfl, rfl⟩

theorem sameCalls_receive {packet : Packet}
    (hstep : s.receive packet = some t) : SameCalls s t := by
  unfold Threads.receive at hstep
  split at hstep
  · split_ifs at hstep
    split at hstep <;> cases hstep <;>
      exact ⟨rfl, rfl⟩
  · split at hstep
    · cases hstep
      exact ⟨rfl, rfl⟩
    · split_ifs at hstep
      split at hstep <;> cases hstep <;>
        exact ⟨rfl, rfl⟩
  · exact sameCalls_perform hstep

theorem sameCalls_continueLoop (hstep : s.continueLoop = some t) : SameCalls s t := by
  unfold Threads.continueLoop at hstep
  split at hstep
  · simp at hstep
  · cases hstep
    exact ⟨rfl, rfl⟩
  · split_ifs at hstep <;> cases hstep <;>
      exact ⟨rfl, rfl⟩

theorem closing_of_step (hstep : s.step action = some t) :
    ∀ id ∈ t.closing ++ t.returned, id ∈ s.closing ++ s.returned ∨ ∃ c, t.ctx.connMap id = some c ∧
        ConnectionState.waitClose.rank ≤ c.state.rank := by
  have hsame : SameCalls s t → ∀ id ∈ t.closing ++ t.returned,
      id ∈ s.closing ++ s.returned ∨ ∃ c, t.ctx.connMap id = some c ∧
        ConnectionState.waitClose.rank ≤ c.state.rank := by
    rintro ⟨hclosing, hreturned⟩ id hmem
    rw [hclosing, hreturned] at hmem
    exact .inl hmem
  cases does_of_step hstep with
  | opens _ hperform => exact hsame (sameCalls_perform hperform)
  | receives _ hreceive => exact hsame (sameCalls_receive hreceive)
  | continues hloop => exact hsame (sameCalls_continueLoop hloop)
  | calls _ _ _ => exact hsame ⟨rfl, rfl⟩
  | @closes id c hconn =>
    have hclosed : ∃ c', (s.ctx.setConnection id c.close.1).connMap id =
        some c' ∧ ConnectionState.waitClose.rank ≤ c'.state.rank :=
      ⟨_, s.ctx.setConnection_self id _, waitClose_le_close c⟩
    intro i hmem
    by_cases hi : i = id
    · subst hi
      right
      unfold Threads.close
      split_ifs <;> exact hclosed
    · left
      unfold Threads.close at hmem
      split_ifs at hmem <;> simpa [hi] using hmem
  | writesClose hindex =>
    intro i hmem
    left
    simp only [List.mem_append, List.mem_singleton] at hmem ⊢
    rcases hmem with hclosing | hreturned | rfl
    · exact .inl (List.mem_of_mem_eraseIdx hclosing)
    · exact .inr hreturned
    · exact .inl (List.mem_of_getElem? hindex)
  | closesImm _ => exact hsame ⟨rfl, rfl⟩
  | stops hperform => exact hsame (sameCalls_perform hperform)

structure Sound (s : Threads) : Prop where
  keyed : s.ctx.Keyed
  closed : ∀ id ∈ s.closing ++ s.returned, ∃ c, s.ctx.connMap id = some c ∧
    ConnectionState.waitClose.rank ≤ c.state.rank

structure Progress (s t : Threads) : Prop where
  forward : ∀ id c, s.ctx.connMap id = some c →
    ∃ c', t.ctx.connMap id = some c' ∧ c.state.rank ≤ c'.state.rank
  silent : ∀ id c, s.ctx.connMap id = some c → ConnectionState.waitClose.rank ≤ c.state.rank →
    t.sent.filter (·.isDataOf id) = s.sent.filter (·.isDataOf id)

theorem Progress.refl (s : Threads) : Progress s s :=
  ⟨fun _ c hconn => ⟨c, hconn, le_refl _⟩, fun _ _ _ _ => rfl⟩

theorem Progress.trans (hfirst : Progress r s) (hsecond : Progress s t) : Progress r t where
  forward := by
    intro id c hconn
    obtain ⟨c', hconn', hle⟩ := hfirst.forward id c hconn
    obtain ⟨c'', hconn'', hle'⟩ := hsecond.forward id c' hconn'
    exact ⟨c'', hconn'', hle.trans hle'⟩
  silent := by
    intro id c hconn hclosed
    obtain ⟨c', hconn', hle⟩ := hfirst.forward id c hconn
    rw [hsecond.silent id c' hconn' (hclosed.trans hle), hfirst.silent id c hconn hclosed]

theorem Sound.precedes (hs : s.Sound) (hprogress : Progress s t) : s.Precedes t where
  forward := hprogress.forward
  notRestarted := by
    intro id hmem c hconn hstarted
    obtain ⟨c₀, hconn₀, hclosed⟩ := hs.closed id (List.mem_append_right _ hmem)
    obtain ⟨c', hconn', hle⟩ := hprogress.forward id c₀ hconn₀
    rw [hconn, Option.some.injEq] at hconn'
    rw [← hconn', hstarted] at hle
    exact absurd (hclosed.trans hle) (by decide)
  silent := by
    intro id hmem
    obtain ⟨c, hconn, hclosed⟩ := hs.closed id (List.mem_append_right _ hmem)
    exact hprogress.silent id c hconn hclosed

theorem Steps.progress (hsteps : Steps (fun c c' => c.state.rank ≤ c'.state.rank) s t) :
    Progress s t := by
  obtain ⟨out, hadvances, hsent⟩ := hsteps
  refine ⟨hadvances.evolves, ?_⟩
  intro id c hconn hle
  have hquiet : out.filter (·.isDataOf id) = [] := by
    rw [List.filter_eq_nil_iff]
    intro packet hmem hdata
    simp only [Packet.isDataOf, Bool.and_eq_true, decide_eq_true_eq] at hdata
    obtain ⟨c', hconn', hstarted⟩ := hadvances.data packet hmem hdata.1
    rw [hdata.2, hconn, Option.some.injEq] at hconn'
    rw [hconn', hstarted] at hle
    exact absurd hle (by decide)
  rw [hsent, List.filter_append, hquiet, List.append_nil]

theorem Sound.step (hs : s.Sound) (hfresh : s.StartsFresh action) (hstep : s.step action = some t) :
    t.Sound ∧ Progress s t := by
  have hsteps : Steps (fun c c' => c.state.rank ≤ c'.state.rank) s t := by
    apply steps_of_step Connection.rankEvolution hs.keyed _ hstep
    rintro id c rfl hloop hconn
    exact hfresh id c hloop hconn
  have hprogress := hsteps.progress
  obtain ⟨out, hadvances, -⟩ := hsteps
  refine ⟨⟨hadvances.keyed, ?_⟩, hprogress⟩
  intro id hmem
  rcases closing_of_step hstep id hmem with hold | hnew
  · obtain ⟨c, hconn, hle⟩ := hs.closed id hold
    obtain ⟨c', hconn', hle'⟩ := hprogress.forward id c hconn
    exact ⟨c', hconn', hle.trans hle'⟩
  · exact hnew

theorem sound_init : Sound threads.init where
  keyed := by
    intro id c hconn
    simp [threads] at hconn
  closed := by simp [threads]

variable {actions : List ThreadAction}

theorem Sound.runFrom (hs : s.Sound) (hfresh : threads.Meets StartsFresh s actions)
    (hrun : threads.runFrom s actions = some t) : t.Sound ∧ Progress s t := by
  have hinit : s.Sound ∧ Progress s s := ⟨hs, .refl s⟩
  apply threads.runFrom_invariant_of_meets _ hinit hfresh hrun
  intro r action r' hr hmeets hstep
  obtain ⟨hsound, hprogress⟩ := hr.1.step hmeets hstep
  exact ⟨hsound, hr.2.trans hprogress⟩

theorem movesForward_of_startsFresh (hfresh : threads.Meets StartsFresh threads.init actions) :
    MovesForward actions := by
  rintro first second rest s t rfl hfirst hsecond
  rw [List.append_assoc] at hfresh
  obtain ⟨hbefore, hafter⟩ := (threads.meets_append_iff hfirst).mp hfresh
  obtain ⟨hsound, -⟩ := sound_init.runFrom hbefore hfirst
  obtain ⟨hmeets, -⟩ := (threads.meets_append_iff hsecond).mp hafter
  exact hsound.precedes (hsound.runFrom hmeets hsecond).2

theorem MovesForward.startsFresh (hforward : MovesForward actions)
    (hrun : threads.run actions = some t) : threads.Meets StartsFresh threads.init actions := by
  rw [threads.meets_iff_forall_cut hrun]
  rintro before action after s rfl hbefore
  cases action with
  | loop =>
    intro id c hloop hconn
    have hstep : threads.step s .loop = some { s with
          ctx := s.ctx.setConnection id { c with state := .started }
          loop := .idle } := by
      simp [threads, Threads.step, Threads.continueLoop, hloop, ForwardCtx.finishSuccess, hconn]
    have hprecedes := hforward before [.loop] after s _ (by simp) hbefore
      (threads.runFrom_cons_eq_some.mpr ⟨_, hstep, rfl⟩)
    obtain ⟨c', hconn', hle⟩ := hprecedes.forward id c hconn
    rw [ForwardCtx.setConnection_self, Option.some.injEq] at hconn'
    rw [← hconn'] at hle
    exact hle
  | _ => trivial

end Threads

/-- The states of the connections only move forward in exactly those runs in
which `handleSuccess` never stores STARTED after a connection was closed. -/
theorem movesForward_iff_startsFresh {actions : List ThreadAction}
    {s : Threads} (hrun : threads.run actions = some s) : Threads.MovesForward actions ↔
      threads.Meets Threads.StartsFresh threads.init actions := by
  constructor
  · exact fun hforward => hforward.startsFresh hrun
  · exact Threads.movesForward_of_startsFresh

def usedAndClosed : List ThreadAction :=
  [.newConnection {}, .receive { type := .success, connectionId := 1 }, .loop,
    .call 1 (.write [7]), .close 1, .writeClose 0]

theorem movesForward_usedAndClosed : ∃ s, threads.run usedAndClosed = some s ∧ s.returned = [1] ∧
      Threads.MovesForward usedAndClosed := by
  refine ⟨_, rfl, rfl, (@movesForward_iff_startsFresh usedAndClosed _ rfl).mpr ?_⟩
  apply threads.meets_cons trivial rfl
  apply threads.meets_cons trivial rfl
  refine threads.meets_cons ?_ rfl ?_
  · intro id c hloop hconn
    change HandlerPoint.read 1 .waitInit = _ at hloop
    cases hloop
    have hc : ForwardCtx.opened 1 = c := Option.some.inj hconn
    rw [← hc]
    decide
  apply threads.meets_cons trivial rfl
  apply threads.meets_cons trivial rfl
  exact threads.meets_cons trivial rfl trivial

def closedMeanwhile : List ThreadAction :=
  [.newConnection {}, .receive { type := .success, connectionId := 1 },
    .close 1, .writeClose 0, .loop, .call 1 (.write [7])]

/-- `Close` has returned, and then the connection is STARTED and sends data. -/
theorem closedMeanwhile_not_forward : ∃ s, threads.run closedMeanwhile = some s ∧ s.returned = [1] ∧
      (s.ctx.connMap 1).map Connection.state = some .started ∧
      s.sent.map Packet.type = [.newConnection, .closeConnection, .data] ∧
      ¬ Threads.MovesForward closedMeanwhile := by
  refine ⟨_, rfl, rfl, rfl, rfl, ?_⟩
  intro hforward
  have hprecedes := hforward [.newConnection {}, .receive { type := .success, connectionId := 1 },
      .close 1, .writeClose 0] [.loop, .call 1 (.write [7])] [] _ _ rfl rfl rfl
  exact hprecedes.notRestarted 1 (by decide) _ rfl rfl

end ContainerSSH.Agent
