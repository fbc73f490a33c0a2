/-
One end of the agent protocol against an arbitrary peer: local calls and received packets of any
kind, in any order.
-/
import ContainerSSH.AgentNetwork
import ContainerSSH.PartialMap

namespace ContainerSSH.Agent

inductive EndpointAction where
  | newConnection (details : NewConnectionPayload)
  | call (id : UInt64) (call : LocalCall)
  | closeImm (id : UInt64)
  | noMoreConnections
  | receive (packet : Packet)

namespace ForwardCtx

def noMoreConnections (ctx : ForwardCtx) : Except Stuck (ForwardCtx × List Packet) :=
  if ctx.channelClosed then .error .closedChannel
  else
    .ok ({ ctx with stopped := true, channelClosed := true },
      [{ type := .noMoreConnections, connectionId := 0 }])

def step (ctx : ForwardCtx) : EndpointAction → Option ForwardCtx
  | .newConnection details => (ctx.newConnection details).toOption.map Prod.fst
  | .call id call =>
    (ctx.connMap id).bind fun c => (c.call call).map fun result => ctx.setConnection id result.1
  | .closeImm id => (ctx.connMap id).map fun c => (ctx.closeConnectionImm id c).1
  | .noMoreConnections => ctx.noMoreConnections.toOption.map Prod.fst
  | .receive packet => (ctx.handlePacket packet).toOption.map Prod.fst

end ForwardCtx

def endpoint : TransitionSystem ForwardCtx EndpointAction where
  init := {}
  step := ForwardCtx.step

namespace ForwardCtx

variable {ctx next : ForwardCtx} {action : EndpointAction}

inductive Steps (ctx : ForwardCtx) : EndpointAction → ForwardCtx → Prop
  | newConnection (details next out) (hopens : ctx.newConnection details = .ok (next, out)) :
      Steps ctx (.newConnection details) next
  | call (id call c next out) (hconn : ctx.connMap id = some c)
      (hcall : c.call call = some (next, out)) :
      Steps ctx (.call id call) (ctx.setConnection id next)
  | closeImm (id c) (hconn : ctx.connMap id = some c) :
      Steps ctx (.closeImm id) (ctx.closeConnectionImm id c).1
  | noMoreConnections (hopen : ctx.channelClosed = false) : Steps ctx .noMoreConnections
        { ctx with stopped := true, channelClosed := true }
  | receive (packet next out) (hhandle : ctx.handlePacket packet = .ok (next, out)) :
      Steps ctx (.receive packet) next

theorem toOption_map_fst_eq_some {result : Except Stuck (ForwardCtx × List Packet)} :
    result.toOption.map Prod.fst = some next ↔ ∃ out, result = .ok (next, out) := by
  cases result with
  | error => simp [Except.toOption]
  | ok => simp [Except.toOption, Prod.ext_iff]

theorem steps_of_step (hstep : ctx.step action = some next) : Steps ctx action next := by
  cases action with
  | newConnection details =>
    obtain ⟨out, hopens⟩ := toOption_map_fst_eq_some.mp hstep
    exact .newConnection details next out hopens
  | call id call =>
    simp only [step, Option.bind_eq_some_iff, Option.map_eq_some_iff] at hstep
    obtain ⟨c, hconn, ⟨c', out⟩, hcall, rfl⟩ := hstep
    exact .call id call c c' out hconn hcall
  | closeImm id =>
    simp only [step, Option.map_eq_some_iff] at hstep
    obtain ⟨c, hconn, rfl⟩ := hstep
    exact .closeImm id c hconn
  | noMoreConnections =>
    obtain ⟨out, hresult⟩ := toOption_map_fst_eq_some.mp hstep
    simp only [noMoreConnections] at hresult
    split_ifs at hresult with hclosed
    cases hresult
    exact .noMoreConnections (by simpa using hclosed)
  | receive packet =>
    obtain ⟨out, hhandle⟩ := toOption_map_fst_eq_some.mp hstep
    exact .receive packet next out hhandle

end ForwardCtx

instance finiteUInt64 : Finite UInt64 :=
  Finite.of_injective UInt64.toFin fun _ _ => UInt64.toFin_inj.mp

namespace Connection

def isOpen (c : Connection) : Bool := decide (c.state ≠ .closed)

theorem closeImm_isOpen {c closed : Connection} (hclose : c.closeImm = some closed) :
    c.isOpen = true ∧ closed.isOpen = false := by
  refine ⟨?_, by rw [closeImm_eq hclose]; rfl⟩
  by_contra hstate
  simp only [isOpen, decide_eq_true_eq, not_not] at hstate
  simp [closeImm, hstate] at hclose

theorem call_isOpen {c next : Connection} {call : LocalCall}
    {out : List Packet} (hcall : c.call call = some (next, out)) :
    next.isOpen = c.isOpen ∨ (call = .reject ∧ c.initiator = false ∧ c.state = .waitInit ∧
        next.isOpen = false) := by
  cases calls_of_call hcall with
  | writes | writeFails | reads | closesAgain | fails => exact .inl rfl
  | closes hstate => rcases hstate with h | h <;> simp [isOpen, h]
  | accepts hside hstate => simp [isOpen, hstate]
  | rejects hside hstate => exact .inr ⟨rfl, hside, hstate, rfl⟩

theorem call_reject {c next : Connection} {out : List Packet}
    (hside : c.initiator = false) (hstate : c.state = .waitInit)
    (hcall : c.call .reject = some (next, out)) : next.isOpen = false := by
  simp only [call, reject, hside, hstate, and_self, if_true, Option.some.injEq,
    Prod.mk.injEq] at hcall
  rw [← hcall.1]
  rfl

end Connection

namespace ForwardCtx

variable {ctx next : ForwardCtx} {packet : Packet} {out : List Packet}

noncomputable def openConnections (ctx : ForwardCtx) : Nat :=
  PartialMap.count Connection.isOpen ctx.connMap

def Accounted (ctx : ForwardCtx) : Prop := ctx.waitGroup = ctx.openConnections

noncomputable def surplus (ctx : ForwardCtx) : Int := ctx.waitGroup - ctx.openConnections

def RejectsOpening (ctx : ForwardCtx) (packet : Packet) : Prop :=
  ctx.stopped = true ∧ packet.type = .newConnection ∧
    (unmarshalNewConnection packet.payload).isSome = true ∧ ctx.connMap packet.connectionId = none ∧
    ctx.connectionId < packet.connectionId

def Rejects (ctx : ForwardCtx) : EndpointAction → Prop
  | .call id .reject => ∃ c, ctx.connMap id = some c ∧ c.initiator = false ∧ c.state = .waitInit
  | .receive packet => ctx.RejectsOpening packet
  | _ => False

theorem surplus_congr (hmap : next.connMap = ctx.connMap)
    (hgroup : next.waitGroup = ctx.waitGroup) : next.surplus = ctx.surplus := by
  simp only [surplus, openConnections, hmap, hgroup]

theorem surplus_update {id : UInt64} (hsame : ∀ i, i ≠ id → next.connMap i = ctx.connMap i) :
    next.surplus = ctx.surplus + (next.waitGroup - ctx.waitGroup) +
      ((ctx.connMap id).any Connection.isOpen).toNat -
      ((next.connMap id).any Connection.isOpen).toNat := by
  simp only [surplus, openConnections, PartialMap.count_update hsame]
  omega

theorem surplus_setConnection {id : UInt64} {c : Connection}
    (hconn : ctx.connMap id = some c) (c' : Connection) : (ctx.setConnection id c').surplus =
      ctx.surplus + c.isOpen.toNat - c'.isOpen.toNat := by
  rw [surplus_update (fun i hi => ctx.setConnection_of_ne c' hi), hconn]
  simp [setConnection]

theorem surplus_closeConnectionImm {id : UInt64} {c : Connection}
    (hconn : ctx.connMap id = some c) : (ctx.closeConnectionImm id c).1.surplus = ctx.surplus := by
  unfold closeConnectionImm
  cases hclose : c.closeImm with
  | none => rfl
  | some closed =>
    obtain ⟨hopen, hclosed⟩ := Connection.closeImm_isOpen hclose
    have hset := surplus_setConnection hconn closed
    simp only [surplus, openConnections, hopen, hclosed, setConnection,
      Bool.toNat_true, Bool.toNat_false] at hset ⊢
    omega

theorem surplus_added {id : UInt64} {c : Connection} (hfresh : ctx.connMap id = none)
    (hsame : ∀ i, i ≠ id → next.connMap i = ctx.connMap i)
    (hadded : next.connMap id = some c) (hopen : c.isOpen = true)
    (hgroup : next.waitGroup = ctx.waitGroup + 1) :
    next.surplus = ctx.surplus := by
  rw [surplus_update hsame, hfresh, hadded, hgroup]
  simp [hopen]

theorem newConnection_surplus {details : NewConnectionPayload}
    (hopens : ctx.newConnection details = .ok (next, out)) :
    next.surplus = ctx.surplus := by
  simp only [newConnection, lock_bind_eq_ok] at hopens
  obtain ⟨-, hopens⟩ := hopens
  split_ifs at hopens with hknown <;>
    obtain ⟨rfl, rfl⟩ := hopens
  · exact surplus_congr rfl rfl
  · refine surplus_added (by simpa using hknown) ?_ (ctx.setConnection_self _ (opened _)) rfl rfl
    intro i hi
    exact ctx.setConnection_of_ne _ hi

theorem Registers.surplus {added : ForwardCtx} {details : NewConnectionPayload}
    (hregisters : Registers ctx packet added details) : added.surplus = ctx.surplus := by
  rw [hregisters.eq]
  refine surplus_added hregisters.unknown ?_ (ctx.setConnection_self _ (registered _ _)) rfl rfl
  intro i hi
  exact ctx.setConnection_of_ne _ hi

theorem rejectsOpening_iff : ctx.RejectsOpening packet ↔
      ctx.stopped = true ∧ packet.type = .newConnection ∧
        ∃ added details, Registers ctx packet added details := by
  constructor
  · rintro ⟨hstopped, htype, hpayload, hunknown, hnewer⟩
    obtain ⟨details, hdetails⟩ := Option.isSome_iff_exists.mp hpayload
    exact ⟨hstopped, htype, _, details, hdetails, hunknown, hnewer, rfl⟩
  · rintro ⟨hstopped, htype, added, details, hregisters⟩
    exact ⟨hstopped, htype, by simp [hregisters.payload], hregisters.unknown, hregisters.newer⟩

theorem Handles.surplus (hhandles : Handles ctx packet next out) :
    (ctx.RejectsOpening packet → next.surplus = ctx.surplus + 1) ∧
      (¬ ctx.RejectsOpening packet → next.surplus = ctx.surplus) := by
  rw [rejectsOpening_iff]
  cases hhandles with
  | ignores hnew =>
    refine ⟨?_, fun _ => rfl⟩
    rintro ⟨-, htype, added, details, hregisters⟩
    have hdropped := hnew htype
    rw [register_eq_some_iff.mpr ⟨details, hregisters⟩] at hdropped
    simp at hdropped
  | delivers c htype hconn =>
    refine ⟨by simp [htype], fun _ => ?_⟩
    rw [surplus_setConnection hconn]
    simp [Connection.isOpen]
  | starts c htype hconn hstate =>
    refine ⟨by simp [htype], fun _ => ?_⟩
    rw [surplus_setConnection hconn]
    simp [Connection.isOpen, hstate]
  | acknowledges c htype hconn | closes c htype hconn | fails c htype hconn =>
    exact ⟨by simp [htype], fun _ => surplus_closeConnectionImm hconn⟩
  | leavesLocked htype | stops htype => exact ⟨by simp [htype], fun _ => surplus_congr rfl rfl⟩
  | rejects added details htype hregisters hstopped =>
    constructor
    · intro _
      rw [surplus_setConnection hregisters.connMap_self, hregisters.surplus]
      simp [registered, Connection.reject, Connection.isOpen]
    · intro hnot
      exact absurd ⟨hstopped, htype, added, details, hregisters⟩ hnot
  | offers added details htype hregisters hrunning =>
    refine ⟨by simp [hrunning], fun _ => ?_⟩
    rw [← hregisters.surplus]
    exact surplus_congr rfl rfl

theorem step_surplus {action : EndpointAction} (hstep : ctx.step action = some next) :
    (ctx.Rejects action → next.surplus = ctx.surplus + 1) ∧
      (¬ ctx.Rejects action → next.surplus = ctx.surplus) := by
  cases steps_of_step hstep with
  | newConnection details next out hopens =>
    exact ⟨False.elim, fun _ => newConnection_surplus hopens⟩
  | call id call c c' out hconn hcall =>
    rw [surplus_setConnection hconn]
    constructor
    · intro hrejects
      cases call with
      | reject =>
        obtain ⟨d, hd, hside, hstate⟩ := hrejects
        rw [hconn] at hd
        cases hd
        rw [Connection.call_reject hside hstate hcall]
        simp [Connection.isOpen, hstate]
      | _ => exact hrejects.elim
    · intro hkeeps
      rcases Connection.call_isOpen hcall with hsame | ⟨rfl, hside, hstate, -⟩
      · rw [hsame]
        omega
      · exact absurd ⟨c, hconn, hside, hstate⟩ hkeeps
  | closeImm id c hconn => exact ⟨False.elim, fun _ => surplus_closeConnectionImm hconn⟩
  | noMoreConnections => exact ⟨False.elim, fun _ => surplus_congr rfl rfl⟩
  | receive packet next out hhandle => exact (handles_of_handlePacket hhandle).surplus

end ForwardCtx

theorem surplus_of_run {actions : List EndpointAction} {ctx : ForwardCtx}
    (hrun : endpoint.run actions = some ctx) : 0 ≤ ctx.surplus ∧ (ctx.surplus = 0 ↔
        endpoint.Meets (fun ctx action => ¬ ctx.Rejects action) {} actions) := by
  have hinit : endpoint.init.surplus = 0 := by
    rw [ForwardCtx.surplus, ForwardCtx.openConnections, PartialMap.count_eq_zero (fun _ => rfl)]
    rfl
  have htally := endpoint.runFrom_tally
    (fun _ _ _ hstep hrejects => (ForwardCtx.step_surplus hstep).1 hrejects)
    (fun _ _ _ hstep hkeeps => (ForwardCtx.step_surplus hstep).2 hkeeps) hrun
  rwa [hinit] at htally

/-- The wait group counts the open connections after exactly the runs in which
no `Reject` succeeds. -/
theorem accounted_iff_no_reject {actions : List EndpointAction}
    {ctx : ForwardCtx} (hrun : endpoint.run actions = some ctx) : ctx.Accounted ↔
      endpoint.Meets (fun ctx action => ¬ ctx.Rejects action) {} actions := by
  rw [← (surplus_of_run hrun).2, ForwardCtx.Accounted, ForwardCtx.surplus, sub_eq_zero]

def acceptedAndClosed : List EndpointAction :=
  [.receive (ForwardCtx.newPacket 1 forwardedPort), .call 1 .accept,
    .receive { type := .closeConnection, connectionId := 1 }]

theorem accounted_acceptedAndClosed :
    ∃ ctx, endpoint.run acceptedAndClosed = some ctx ∧ ctx.waitGroup = 0 ∧
      ctx.Accounted := by
  refine ⟨_, rfl, rfl, (@accounted_iff_no_reject acceptedAndClosed _ rfl).mpr ?_⟩
  refine endpoint.meets_cons ?_ rfl (endpoint.meets_cons ?_ rfl
    (endpoint.meets_cons ?_ rfl trivial))
  · exact fun hrejects => absurd hrejects.1 Bool.false_ne_true
  · exact id
  · exact fun hrejects => absurd hrejects.1 Bool.false_ne_true

/-- A rejected connection is closed and still waited for. -/
theorem rejected_connection_not_accounted :
    ∃ ctx, endpoint.run [.receive (ForwardCtx.newPacket 1 forwardedPort),
        .call 1 .reject] = some ctx ∧
      ctx.waitGroup = 1 ∧ ctx.openConnections = 0 ∧ ¬ ctx.Accounted := by
  have hclosed : ∀ {ctx : ForwardCtx},
      endpoint.run [.receive (ForwardCtx.newPacket 1 forwardedPort),
        .call 1 .reject] = some ctx → ctx.openConnections = 0 := by
    intro ctx hrun
    rw [← Option.some.inj hrun]
    apply PartialMap.count_eq_zero
    intro id
    by_cases hid : id = 1
    · subst hid
      rfl
    · change ((if id = 1 then _ else if id = 1 then _ else none) : Option Connection).any _ = false
      simp [hid]
  refine ⟨_, rfl, rfl, hclosed rfl, ?_⟩
  intro haccounted
  rw [ForwardCtx.Accounted, hclosed rfl] at haccounted
  exact absurd haccounted (by decide)

end ContainerSSH.Agent
