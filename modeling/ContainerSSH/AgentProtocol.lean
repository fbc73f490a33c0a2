/-
The agent protocol: connections multiplexed over one stream of packets.
-/
import Mathlib.Tactic.Common

namespace ContainerSSH.Agent

inductive ConnectionState where
  | waitInit
  | started
  | waitClose
  | closed
deriving DecidableEq

structure NewConnectionPayload where
  protocol : String := ""
  connectedAddress : String := ""
  connectedPort : UInt32 := 0
  originatorAddress : String := ""
  originatorPort : UInt32 := 0
deriving DecidableEq

inductive PacketType where
  | setup
  | success
  | error
  | data
  | newConnection
  | closeConnection
  | noMoreConnections
  | unknown (code : Int)
deriving DecidableEq

inductive PacketPayload where
  | bytes (data : List UInt8)
  | newConnection (details : NewConnectionPayload)
deriving DecidableEq

structure Packet where
  type : PacketType
  connectionId : UInt64
  payload : PacketPayload := .bytes []
deriving DecidableEq

def PacketPayload.data : PacketPayload → List UInt8
  | .bytes data => data
  | .newConnection _ => []

structure Pipe where
  handed : List UInt8 := []
  unread : List (List UInt8) := []
  writerClosed : Bool := false
  readerClosed : Bool := false

def Pipe.write (p : Pipe) (data : List UInt8) : Pipe :=
  if p.writerClosed || p.readerClosed then p
  else { p with handed := p.handed ++ data, unread := p.unread ++ [data] }

/-- A `Read` takes from one slice that was written; an empty slice gives a read of 0 bytes. -/
def Pipe.read (p : Pipe) (n : Nat) : Option (Pipe × List UInt8) :=
  if p.readerClosed then some (p, [])
  else
    match p.unread with
    | slice :: rest =>
      let left := slice.drop n
      some ({ p with unread := if left = [] then rest else left :: rest }, slice.take n)
    | [] => if p.writerClosed then some (p, []) else none

theorem Pipe.eq_of_read {p next : Pipe} {n : Nat} {data : List UInt8}
    (hread : p.read n = some (next, data)) : ∃ unread, next = { p with unread } := by
  unfold Pipe.read at hread
  split at hread
  · cases hread
    exact ⟨p.unread, rfl⟩
  · split at hread
    · cases hread
      exact ⟨_, rfl⟩
    · obtain ⟨-, ⟨⟩⟩ := Option.ite_none_right_eq_some.mp hread
      exact ⟨p.unread, rfl⟩

structure Connection where
  id : UInt64
  details : NewConnectionPayload
  initiator : Bool
  state : ConnectionState := .waitInit
  pipe : Pipe := {}
  written : List UInt8 := []
  closedLocally : Bool := false

namespace Connection

variable (c : Connection)

def packet (type : PacketType) : Packet := { type, connectionId := c.id }

def read (n : Nat) : Option (Connection × List UInt8) := do
  let (pipe, chunk) ← c.pipe.read n
  some ({ c with pipe }, chunk)

def write (data : List UInt8) : Option (Connection × List Packet) :=
  match c.state with
  | .waitInit => none
  | .started =>
    some ({ c with written := c.written ++ data },
      [{ type := .data, connectionId := c.id, payload := .bytes data }])
  | .waitClose => some ({ c with pipe.writerClosed := true }, [])
  | .closed => some ({ c with pipe.writerClosed := true }, [])

def close : Connection × List Packet :=
  match c.state with
  | .waitInit =>
    ({ c with state := .waitClose, closedLocally := true }, [c.packet .closeConnection])
  | .started => ({ c with state := .waitClose, closedLocally := true }, [c.packet .closeConnection])
  | .waitClose => ({ c with closedLocally := true }, [])
  | .closed => ({ c with closedLocally := true }, [])

def closeImm : Option Connection :=
  match c.state with
  | .closed => none
  | _ => some { c with state := .closed, pipe.writerClosed := true, pipe.readerClosed := true }

def accept : Connection × List Packet :=
  if c.initiator = false ∧ c.state = .waitInit then
    ({ c with state := .started }, [c.packet .success])
  else (c, [])

def reject : Connection × List Packet :=
  if c.initiator = false ∧ c.state = .waitInit then ({ c with state := .closed }, [c.packet .error])
  else (c, [])

end Connection

inductive Stuck where
  | connMapMu
  | closedChannel
deriving DecidableEq

structure ForwardCtx where
  connectionId : UInt64 := 0
  connMap : UInt64 → Option Connection := fun _ => none
  stopped : Bool := false
  channelClosed : Bool := false
  offered : List UInt64 := []
  connMapMu : Bool := false
  waitGroup : Int := 0

namespace ForwardCtx

variable (ctx : ForwardCtx)

def setConnection (id : UInt64) (c : Connection) : ForwardCtx :=
  { ctx with connMap := fun i => if i = id then some c else ctx.connMap i }

def lock : Except Stuck Unit := if ctx.connMapMu then .error .connMapMu else .ok ()

def handleData (packet : Packet) : Except Stuck (ForwardCtx × List Packet) := do
  ctx.lock
  match ctx.connMap packet.connectionId with
  | none => .ok (ctx, [])
  | some c =>
    if c.state ≠ .started then .ok (ctx, [])
    else
      .ok (ctx.setConnection packet.connectionId
        { c with pipe := c.pipe.write packet.payload.data }, [])

def closeConnectionImm (id : UInt64) (c : Connection) : ForwardCtx × Bool :=
  match c.closeImm with
  | none => (ctx, false)
  | some closed => ({ ctx.setConnection id closed with waitGroup := ctx.waitGroup - 1 }, true)

def handleClose (packet : Packet) : Except Stuck (ForwardCtx × List Packet) := do
  ctx.lock
  match ctx.connMap packet.connectionId with
  | none => .ok ({ ctx with connMapMu := true }, [])
  | some c =>
    let (ctx, closed) := ctx.closeConnectionImm packet.connectionId c
    .ok (ctx, [c.packet (if closed then .success else .error)])

def handleSuccess (packet : Packet) : Except Stuck (ForwardCtx × List Packet) := do
  ctx.lock
  match ctx.connMap packet.connectionId with
  | none => .ok (ctx, [])
  | some c =>
    match c.state with
    | .waitInit => .ok (ctx.setConnection packet.connectionId { c with state := .started }, [])
    | .waitClose => .ok ((ctx.closeConnectionImm packet.connectionId c).1, [])
    | _ => .ok (ctx, [])

def handleError (packet : Packet) : Except Stuck (ForwardCtx × List Packet) := do
  ctx.lock
  match ctx.connMap packet.connectionId with
  | none => .ok (ctx, [])
  | some c => .ok ((ctx.closeConnectionImm packet.connectionId c).1, [])

def unmarshalNewConnection : PacketPayload → Option NewConnectionPayload
  | .newConnection details => some details
  | .bytes _ => none

def registered (id : UInt64) (details : NewConnectionPayload) : Connection :=
  { id, details, initiator := false }

def handleNewConnection (packet : Packet) : Except Stuck (ForwardCtx × List Packet) :=
  match unmarshalNewConnection packet.payload with
  | none => .ok (ctx, [])
  | some details => do
      ctx.lock
      if (ctx.connMap packet.connectionId).isSome then .ok (ctx, [])
      else if packet.connectionId ≤ ctx.connectionId then .ok (ctx, [])
      else
        let c := registered packet.connectionId details
        let added := { ctx.setConnection packet.connectionId c with
          connectionId := packet.connectionId
          waitGroup := ctx.waitGroup + 1 }
        if added.stopped then .ok (added.setConnection packet.connectionId c.reject.1, c.reject.2)
        else if added.channelClosed then .error .closedChannel
        else .ok ({ added with offered := added.offered ++ [packet.connectionId] }, [])

def handlePacket (packet : Packet) : Except Stuck (ForwardCtx × List Packet) :=
  match packet.type with
  | .data => ctx.handleData packet
  | .closeConnection => ctx.handleClose packet
  | .success => ctx.handleSuccess packet
  | .error => ctx.handleError packet
  | .newConnection => ctx.handleNewConnection packet
  | .noMoreConnections =>
    if ctx.stopped then .ok (ctx, [])
    else if ctx.channelClosed then .error .closedChannel
    else .ok ({ ctx with stopped := true, channelClosed := true }, [])
  | .setup => .ok (ctx, [])
  | .unknown _ => .ok (ctx, [])

def opened (id : UInt64) : Connection := { id, details := {}, initiator := true }

def newPacket (id : UInt64) (details : NewConnectionPayload) : Packet :=
  { type := .newConnection
    connectionId := id
    payload := .newConnection details }

def newConnection (details : NewConnectionPayload) : Except Stuck (ForwardCtx × List Packet) := do
  ctx.lock
  let id := ctx.connectionId + 1
  if (ctx.connMap id).isSome then .ok ({ ctx with connectionId := id, connMapMu := true }, [])
  else
    .ok ({ ctx.setConnection id (opened id) with
      connectionId := id
      waitGroup := ctx.waitGroup + 1 }, [newPacket id details])

end ForwardCtx

inductive LocalCall where
  | write (data : List UInt8)
  | read (n : Nat)
  | close
  | accept
  | reject
deriving DecidableEq

namespace Connection

def call (c : Connection) : LocalCall → Option (Connection × List Packet)
  | .write data => c.write data
  | .read n => (c.read n).map fun result => (result.1, [])
  | .close => some c.close
  | .accept => some c.accept
  | .reject => some c.reject

def receive (c : Connection) (packet : Packet) : Connection × List Packet :=
  match packet.type with
  | .data =>
    if c.state = .started then ({ c with pipe := c.pipe.write packet.payload.data }, [])
    else (c, [])
  | .closeConnection =>
    match c.closeImm with
    | none => (c, [c.packet .error])
    | some closed => (closed, [c.packet .success])
  | .success =>
    match c.state with
    | .waitInit => ({ c with state := .started }, [])
    | .waitClose => (c.closeImm.getD c, [])
    | _ => (c, [])
  | .error => (c.closeImm.getD c, [])
  | _ => (c, [])

theorem closeImm_eq {c closed : Connection} (hclose : c.closeImm = some closed) : closed = { c with
      state := .closed
      pipe.writerClosed := true
      pipe.readerClosed := true } := by
  unfold closeImm at hclose
  split at hclose
  · simp at hclose
  · exact (Option.some.inj hclose).symm

theorem closeImm_getD_id (c : Connection) : (c.closeImm.getD c).id = c.id := by
  cases hclose : c.closeImm with
  | none => rfl
  | some => simp [closeImm_eq hclose]

theorem receive_id (c : Connection) (packet : Packet) : (c.receive packet).1.id = c.id ∧
      ∀ answer ∈ (c.receive packet).2, answer.connectionId = c.id ∧
        (answer.type = .success ∨ answer.type = .error) := by
  unfold receive
  split
  · split_ifs <;> simp
  · split
    · simp [Connection.packet]
    · rename_i hclose
      simp [Connection.packet, closeImm_eq hclose]
  · split <;> simp [closeImm_getD_id]
  · simp [closeImm_getD_id]
  · simp

inductive Calls (c : Connection) :
    LocalCall → Connection → List Packet → Prop
  | writes (data) (hstate : c.state = .started) :
      Calls c (.write data) { c with written := c.written ++ data }
        [{ type := .data, connectionId := c.id, payload := .bytes data }]
  | writeFails (data) (hstate : c.state = .waitClose ∨ c.state = .closed) :
      Calls c (.write data) { c with pipe.writerClosed := true } []
  | reads (n pipe data) (hread : c.pipe.read n = some (pipe, data)) :
      Calls c (.read n) { c with pipe } []
  | closes (hstate : c.state = .waitInit ∨ c.state = .started) :
      Calls c .close { c with state := .waitClose, closedLocally := true }
        [c.packet .closeConnection]
  | closesAgain (hstate : c.state = .waitClose ∨ c.state = .closed) :
      Calls c .close { c with closedLocally := true } []
  | accepts (hside : c.initiator = false) (hstate : c.state = .waitInit) :
      Calls c .accept { c with state := .started } [c.packet .success]
  | rejects (hside : c.initiator = false) (hstate : c.state = .waitInit) :
      Calls c .reject { c with state := .closed } [c.packet .error]
  | fails (call) : Calls c call c []

theorem calls_of_call {c next : Connection} {call : LocalCall}
    {out : List Packet} (hcall : c.call call = some (next, out)) : c.Calls call next out := by
  cases call with
  | write data =>
    simp only [Connection.call, write] at hcall
    split at hcall <;> cases hcall
    · exact .writes data ‹_›
    · exact .writeFails data (.inl ‹_›)
    · exact .writeFails data (.inr ‹_›)
  | read n =>
    simp only [Connection.call, read, bind, Option.map_eq_some_iff,
      Option.bind_eq_some_iff] at hcall
    obtain ⟨result, ⟨taken, hread, heq⟩, hresult⟩ := hcall
    cases heq
    obtain ⟨rfl, rfl⟩ := hresult
    exact .reads n taken.1 taken.2 hread
  | close =>
    simp only [Connection.call, close] at hcall
    split at hcall <;> cases hcall
    · exact .closes (.inl ‹_›)
    · exact .closes (.inr ‹_›)
    · exact .closesAgain (.inl ‹_›)
    · exact .closesAgain (.inr ‹_›)
  | accept =>
    simp only [Connection.call, accept] at hcall
    split at hcall <;> cases hcall
    next hoffered => exact .accepts hoffered.1 hoffered.2
    next => exact .fails .accept
  | reject =>
    simp only [Connection.call, reject] at hcall
    split at hcall <;> cases hcall
    next hoffered => exact .rejects hoffered.1 hoffered.2
    next => exact .fails .reject

theorem call_id {c next : Connection} {call : LocalCall} {out : List Packet}
    (hcall : c.call call = some (next, out)) :
    next.id = c.id ∧ ∀ packet ∈ out, packet.connectionId = c.id ∧
      packet.type ≠ .newConnection ∧ packet.type ≠ .noMoreConnections := by
  cases calls_of_call hcall <;> simp [Connection.packet]

end Connection

namespace ForwardCtx

variable {ctx next : ForwardCtx} {packet : Packet} {out : List Packet}

@[simp]
theorem setConnection_self (ctx : ForwardCtx) (id : UInt64) (c : Connection) :
    (ctx.setConnection id c).connMap id = some c := by
  simp [setConnection]

theorem setConnection_of_ne (ctx : ForwardCtx) {id i : UInt64} (c : Connection)
    (hne : i ≠ id) : (ctx.setConnection id c).connMap i = ctx.connMap i := by
  simp [setConnection, hne]

structure SameBut (id : UInt64) (ctx next : ForwardCtx) : Prop where
  connMap : ∀ i, i ≠ id → next.connMap i = ctx.connMap i
  stopped : next.stopped = ctx.stopped
  connectionId : next.connectionId = ctx.connectionId

theorem sameBut_refl (id : UInt64) (ctx : ForwardCtx) : SameBut id ctx ctx :=
  ⟨fun _ _ => rfl, rfl, rfl⟩

theorem sameBut_setConnection (id : UInt64) (ctx : ForwardCtx)
    (c : Connection) : SameBut id ctx (ctx.setConnection id c) :=
  ⟨fun _ hi => setConnection_of_ne ctx c hi, rfl, rfl⟩

theorem lock_bind_eq_ok {rest : Except Stuck (ForwardCtx × List Packet)}
    {result : ForwardCtx × List Packet} : (ctx.lock >>= fun _ => rest) = .ok result ↔
      ctx.connMapMu = false ∧ rest = .ok result := by
  cases hheld : ctx.connMapMu <;> simp [lock, hheld, bind, Except.bind]

theorem closeConnectionImm_connMap (ctx : ForwardCtx) (id : UInt64)
    {c : Connection} (hconn : ctx.connMap id = some c) :
    (ctx.closeConnectionImm id c).1.connMap id = some (c.closeImm.getD c) ∧
      SameBut id ctx (ctx.closeConnectionImm id c).1 := by
  unfold closeConnectionImm
  cases hclose : c.closeImm with
  | none => exact ⟨by simpa using hconn, sameBut_refl id ctx⟩
  | some closed =>
    have hset := sameBut_setConnection id ctx closed
    exact ⟨by simp [setConnection], hset.connMap, rfl, rfl⟩

def register (ctx : ForwardCtx) (packet : Packet) : Option ForwardCtx :=
  match unmarshalNewConnection packet.payload with
  | none => none
  | some details =>
    if (ctx.connMap packet.connectionId).isSome then none
    else if packet.connectionId ≤ ctx.connectionId then none
    else
      some { ctx.setConnection packet.connectionId (registered packet.connectionId details) with
        connectionId := packet.connectionId
        waitGroup := ctx.waitGroup + 1 }

structure Registers (ctx : ForwardCtx) (packet : Packet) (added : ForwardCtx)
    (details : NewConnectionPayload) : Prop where
  payload : unmarshalNewConnection packet.payload = some details
  unknown : ctx.connMap packet.connectionId = none
  newer : ctx.connectionId < packet.connectionId
  eq : added = { ctx.setConnection packet.connectionId (registered packet.connectionId details) with
    connectionId := packet.connectionId
    waitGroup := ctx.waitGroup + 1 }

theorem Registers.connMap_self {ctx added : ForwardCtx} {packet : Packet}
    {details : NewConnectionPayload} (h : Registers ctx packet added details) :
    added.connMap packet.connectionId = some (registered packet.connectionId details) := by
  rw [h.eq]
  exact ctx.setConnection_self _ _

theorem register_eq_some_iff {ctx added : ForwardCtx} {packet : Packet} :
    ctx.register packet = some added ↔ ∃ details, Registers ctx packet added details := by
  have hnewer : ctx.connectionId < packet.connectionId ↔
      ¬ packet.connectionId ≤ ctx.connectionId := by
    rw [UInt64.lt_iff_toNat_lt, UInt64.le_iff_toNat_le, Nat.not_le]
  constructor
  · intro hregister
    unfold register at hregister
    split at hregister
    · simp at hregister
    · rename_i details hpayload
      split_ifs at hregister with hknown hstale
      rw [Option.some.injEq] at hregister
      exact ⟨details, hpayload, by simpa using hknown, hnewer.mpr hstale, hregister.symm⟩
  · rintro ⟨details, hpayload, hunknown, hnew, rfl⟩
    simp [register, hpayload, hunknown, hnewer.mp hnew]

theorem handleNewConnection_cases {ctx next : ForwardCtx} {packet : Packet} {out : List Packet}
    (hhandle : ctx.handleNewConnection packet = .ok (next, out)) :
    (ctx.register packet = none ∧ next = ctx ∧ out = []) ∨
      ∃ added details, Registers ctx packet added details ∧ ((ctx.stopped = true ∧
            next = added.setConnection packet.connectionId
              (registered packet.connectionId details).reject.1 ∧
            out = (registered packet.connectionId details).reject.2) ∨
          (ctx.stopped = false ∧ ctx.channelClosed = false ∧ next = { added with
              offered := ctx.offered ++ [packet.connectionId] } ∧
            out = [])) := by
  unfold handleNewConnection at hhandle
  cases hpayload : unmarshalNewConnection packet.payload with
  | none =>
    simp only [hpayload, Except.ok.injEq, Prod.mk.injEq] at hhandle
    simp [register, hpayload, hhandle.1, hhandle.2]
  | some details =>
    simp only [hpayload, lock_bind_eq_ok] at hhandle
    obtain ⟨-, hhandle⟩ := hhandle
    by_cases hknown : (ctx.connMap packet.connectionId).isSome = true
    · rw [if_pos hknown, Except.ok.injEq, Prod.mk.injEq] at hhandle
      exact .inl ⟨by simp only [register, hpayload, if_pos hknown], hhandle.1.symm, hhandle.2.symm⟩
    by_cases hstale : packet.connectionId ≤ ctx.connectionId
    · rw [if_neg hknown, if_pos hstale, Except.ok.injEq, Prod.mk.injEq]
        at hhandle
      exact .inl ⟨by simp [register, hpayload, hstale], hhandle.1.symm, hhandle.2.symm⟩
    rw [if_neg hknown, if_neg hstale] at hhandle
    right
    refine ⟨_, details, ⟨hpayload, by simpa using hknown, ?_, rfl⟩, ?_⟩
    · rw [UInt64.lt_iff_toNat_lt]
      rwa [UInt64.le_iff_toNat_le, Nat.not_le] at hstale
    change (if ctx.stopped = true then _
      else if ctx.channelClosed = true then _ else _) = _ at hhandle
    split_ifs at hhandle with hstopped hclosed <;>
      rw [Except.ok.injEq, Prod.mk.injEq] at hhandle
    · exact .inl ⟨hstopped, hhandle.1.symm, hhandle.2.symm⟩
    · exact .inr ⟨by simpa using hstopped, by simpa using hclosed, hhandle.1.symm, hhandle.2.symm⟩

inductive Handles (ctx : ForwardCtx) (packet : Packet) :
    ForwardCtx → List Packet → Prop
  | ignores (hnew : packet.type = .newConnection → ctx.register packet = none)
      (hclose : packet.type ≠ .closeConnection)
      (hidle : ∀ c, ctx.connMap packet.connectionId = some c → c.receive packet = (c, [])) :
      Handles ctx packet ctx []
  | delivers (c) (htype : packet.type = .data) (hconn : ctx.connMap packet.connectionId = some c)
      (hstate : c.state = .started) : Handles ctx packet (ctx.setConnection packet.connectionId
          { c with pipe := c.pipe.write packet.payload.data }) []
  | starts (c) (htype : packet.type = .success) (hconn : ctx.connMap packet.connectionId = some c)
      (hstate : c.state = .waitInit) : Handles ctx packet
        (ctx.setConnection packet.connectionId { c with state := .started }) []
  | acknowledges (c) (htype : packet.type = .success)
      (hconn : ctx.connMap packet.connectionId = some c) (hstate : c.state = .waitClose) :
      Handles ctx packet (ctx.closeConnectionImm packet.connectionId c).1 []
  | closes (c) (htype : packet.type = .closeConnection)
      (hconn : ctx.connMap packet.connectionId = some c) :
      Handles ctx packet (ctx.closeConnectionImm packet.connectionId c).1
        [c.packet (if (ctx.closeConnectionImm packet.connectionId c).2 then .success else .error)]
  | leavesLocked (htype : packet.type = .closeConnection)
      (hconn : ctx.connMap packet.connectionId = none) (hfree : ctx.connMapMu = false) :
      Handles ctx packet { ctx with connMapMu := true } []
  | fails (c) (htype : packet.type = .error) (hconn : ctx.connMap packet.connectionId = some c) :
      Handles ctx packet (ctx.closeConnectionImm packet.connectionId c).1 []
  | rejects (added details) (htype : packet.type = .newConnection)
      (hregisters : Registers ctx packet added details) (hstopped : ctx.stopped = true) :
      Handles ctx packet (added.setConnection packet.connectionId
          (registered packet.connectionId details).reject.1)
        (registered packet.connectionId details).reject.2
  | offers (added details) (htype : packet.type = .newConnection)
      (hregisters : Registers ctx packet added details)
      (hrunning : ctx.stopped = false) (hopen : ctx.channelClosed = false) : Handles ctx packet
        { added with offered := ctx.offered ++ [packet.connectionId] } []
  | stops (htype : packet.type = .noMoreConnections)
      (hrunning : ctx.stopped = false) (hopen : ctx.channelClosed = false) :
      Handles ctx packet { ctx with stopped := true, channelClosed := true } []

section
variable {ctx next : ForwardCtx} {packet : Packet} {out : List Packet}

theorem handles_of_handleData (htype : packet.type = .data)
    (hhandle : ctx.handleData packet = .ok (next, out)) : Handles ctx packet next out := by
  simp only [handleData, lock_bind_eq_ok] at hhandle
  obtain ⟨-, hhandle⟩ := hhandle
  split at hhandle <;> rename_i hconn
  · cases hhandle
    exact .ignores (by simp [htype]) (by simp [htype]) (by simp [hconn])
  · split_ifs at hhandle with hstate <;> cases hhandle
    · exact .ignores (by simp [htype]) (by simp [htype])
        (by simp [hconn, Connection.receive, htype, hstate])
    · exact .delivers _ htype hconn (by simpa using hstate)

theorem handles_of_handleClose (htype : packet.type = .closeConnection)
    (hhandle : ctx.handleClose packet = .ok (next, out)) : Handles ctx packet next out := by
  simp only [handleClose, lock_bind_eq_ok] at hhandle
  obtain ⟨hfree, hhandle⟩ := hhandle
  split at hhandle <;> rename_i hconn <;> cases hhandle
  · exact .leavesLocked htype hconn hfree
  · exact .closes _ htype hconn

theorem handles_of_handleSuccess (htype : packet.type = .success)
    (hhandle : ctx.handleSuccess packet = .ok (next, out)) : Handles ctx packet next out := by
  simp only [handleSuccess, lock_bind_eq_ok] at hhandle
  obtain ⟨-, hhandle⟩ := hhandle
  split at hhandle <;> rename_i hconn
  · cases hhandle
    exact .ignores (by simp [htype]) (by simp [htype]) (by simp [hconn])
  · split at hhandle <;> cases hhandle
    · exact .starts _ htype hconn ‹_›
    · exact .acknowledges _ htype hconn ‹_›
    · refine .ignores (by simp [htype]) (by simp [htype]) fun _ heq => ?_
      obtain rfl := Option.some.inj (hconn.symm.trans heq)
      simp only [Connection.receive, htype]

theorem handles_of_handleError (htype : packet.type = .error)
    (hhandle : ctx.handleError packet = .ok (next, out)) : Handles ctx packet next out := by
  simp only [handleError, lock_bind_eq_ok] at hhandle
  obtain ⟨-, hhandle⟩ := hhandle
  split at hhandle <;> rename_i hconn <;> cases hhandle
  · exact .ignores (by simp [htype]) (by simp [htype]) (by simp [hconn])
  · exact .fails _ htype hconn

theorem handles_of_handleNewConnection (htype : packet.type = .newConnection)
    (hhandle : ctx.handleNewConnection packet = .ok (next, out)) : Handles ctx packet next out := by
  rcases handleNewConnection_cases hhandle with
    ⟨hdropped, rfl, rfl⟩ | ⟨added, details, hregisters, hrest⟩
  · exact .ignores (fun _ => hdropped) (by simp [htype]) (by simp [Connection.receive, htype])
  · rcases hrest with ⟨hstopped, rfl, rfl⟩ | ⟨hrunning, hopen, rfl, rfl⟩
    · exact .rejects added details htype hregisters hstopped
    · exact .offers added details htype hregisters hrunning hopen

theorem handles_of_handlePacket (hhandle : ctx.handlePacket packet = .ok (next, out)) :
    Handles ctx packet next out := by
  unfold handlePacket at hhandle
  split at hhandle <;> rename_i htype
  · exact handles_of_handleData htype hhandle
  · exact handles_of_handleClose htype hhandle
  · exact handles_of_handleSuccess htype hhandle
  · exact handles_of_handleError htype hhandle
  · exact handles_of_handleNewConnection htype hhandle
  · split_ifs at hhandle with hstopped hclosed <;> cases hhandle
    · exact .ignores (by simp [htype]) (by simp [htype]) (by simp [Connection.receive, htype])
    · exact .stops htype (by simpa using hstopped) (by simpa using hclosed)
  · cases hhandle
    exact .ignores (by simp [htype]) (by simp [htype]) (by simp [Connection.receive, htype])
  · cases hhandle
    exact .ignores (by simp [htype]) (by simp [htype]) (by simp [Connection.receive, htype])

end

structure Dropped (packet : Packet) (ctx next : ForwardCtx) : Prop where
  unknown : next.connMap packet.connectionId = none
  same : SameBut packet.connectionId ctx next
  stale : ∀ details, packet = newPacket packet.connectionId details →
    packet.connectionId ≤ ctx.connectionId

structure Registered (packet : Packet) (ctx next : ForwardCtx)
    (details : NewConnectionPayload) : Prop where
  opening : packet = newPacket packet.connectionId details
  added : next.connMap packet.connectionId = some (registered packet.connectionId details)
  connMap : ∀ i, i ≠ packet.connectionId → next.connMap i = ctx.connMap i
  stopped : next.stopped = ctx.stopped
  connectionId : next.connectionId = packet.connectionId

structure Received (packet : Packet) (c : Connection) (ctx next : ForwardCtx)
    (out : List Packet) : Prop where
  connection : next.connMap packet.connectionId = some (c.receive packet).1
  out : out = (c.receive packet).2
  same : SameBut packet.connectionId ctx next

section
variable {c : Connection} (hconn : ctx.connMap packet.connectionId = some c)
include hconn

theorem received_of_idle (hidle : c.receive packet = (c, [])) : Received packet c ctx ctx [] := by
  refine ⟨?_, ?_, sameBut_refl _ _⟩ <;> rw [hidle]
  exact hconn

theorem handlePacket_known (htype : packet.type ≠ .noMoreConnections)
    (hhandle : ctx.handlePacket packet = .ok (next, out)) : Received packet c ctx next out := by
  obtain ⟨hclosed, hsame⟩ := ctx.closeConnectionImm_connMap packet.connectionId hconn
  cases handles_of_handlePacket hhandle with
  | ignores _ _ hidle => exact received_of_idle hconn (hidle c hconn)
  | delivers d htype hd hstate | starts d htype hd hstate =>
    obtain rfl := Option.some.inj (hd.symm.trans hconn)
    refine ⟨?_, ?_, sameBut_setConnection _ _ _⟩ <;> simp [Connection.receive, htype, hstate]
  | acknowledges d htype hd hstate =>
    obtain rfl := Option.some.inj (hd.symm.trans hconn)
    refine ⟨?_, ?_, hsame⟩
    · simpa [Connection.receive, htype, hstate] using hclosed
    · simp [Connection.receive, htype, hstate]
  | closes d htype hd =>
    obtain rfl := Option.some.inj (hd.symm.trans hconn)
    cases hclose : d.closeImm with
    | none | some =>
      refine ⟨?_, ?_, hsame⟩
      · simpa [Connection.receive, htype, hclose] using hclosed
      · simp [Connection.receive, htype, hclose, closeConnectionImm]
  | fails d htype hd =>
    obtain rfl := Option.some.inj (hd.symm.trans hconn)
    refine ⟨?_, ?_, hsame⟩
    · simpa [Connection.receive, htype] using hclosed
    · simp [Connection.receive, htype]
  | leavesLocked _ hnone => simp [hconn] at hnone
  | rejects _ _ _ hregisters | offers _ _ _ hregisters => simp [hregisters.unknown] at hconn
  | stops hstop => exact absurd hstop htype

end

theorem handlePacket_unknown (hconn : ctx.connMap packet.connectionId = none)
    (htype : packet.type ≠ .noMoreConnections) (hrunning : ctx.stopped = false)
    (hhandle : ctx.handlePacket packet = .ok (next, out)) : out = [] ∧ (Dropped packet ctx next ∨
      ∃ details, Registered packet ctx next details) := by
  cases handles_of_handlePacket hhandle with
  | ignores hnew =>
    refine ⟨rfl, .inl ⟨hconn, sameBut_refl _ _, fun details hpacket => ?_⟩⟩
    have hnone := hnew (congrArg Packet.type hpacket)
    rw [register, hpacket] at hnone
    by_contra hnewer
    simp [newPacket, unmarshalNewConnection, hconn, hnewer] at hnone
  | leavesLocked hclose =>
    refine ⟨rfl, .inl ⟨hconn, ⟨fun _ _ => rfl, rfl, rfl⟩, fun details hpacket => ?_⟩⟩
    rw [hpacket] at hclose
    cases hclose
  | offers added details hnew hregisters =>
    obtain ⟨type, id, payload⟩ := packet
    obtain ⟨hpayload, -, -, rfl⟩ := hregisters
    cases payload <;> cases hpayload
    cases hnew
    exact ⟨rfl, .inr ⟨details, rfl, by simp, by simp +contextual [setConnection], rfl, rfl⟩⟩
  | rejects _ _ _ _ hstopped => simp [hrunning] at hstopped
  | stops hstop => exact absurd hstop htype
  | delivers c _ hc | starts c _ hc | acknowledges c _ hc | closes c _ hc | fails c _ hc =>
    simp [hconn] at hc

end ForwardCtx

end ContainerSSH.Agent
