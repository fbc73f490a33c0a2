/-
Two ends of the agent protocol joined by two FIFO channels, and what an observer of a single
connection id sees of them.
-/

import ContainerSSH.AgentProtocol
import ContainerSSH.TransitionSystem

namespace ContainerSSH.Agent

inductive Side where
  | opener
  | acceptor
deriving DecidableEq

def Side.peer : Side → Side
  | .opener => .acceptor
  | .acceptor => .opener

@[simp]
theorem Side.peer_peer (side : Side) : side.peer.peer = side := by
  cases side <;> rfl

structure Network where
  ctx : Side → ForwardCtx
  inbox : Side → List Packet

namespace Network

def advance (n : Network) (side : Side) (ctx : ForwardCtx) (rest out : List Packet) : Network where
  ctx s := if s = side then ctx else n.ctx s
  inbox s := if s = side then rest else n.inbox s ++ out

end Network

inductive Action where
  | newConnection (details : NewConnectionPayload)
  | call (side : Side) (id : UInt64) (call : LocalCall)
  | deliver (side : Side)

def Network.step (n : Network) : Action → Option Network
  | .newConnection details =>
    match (n.ctx .opener).newConnection details with
    | .error _ => none
    | .ok (ctx, out) => some (n.advance .opener ctx (n.inbox .opener) out)
  | .call side id call =>
    match (n.ctx side).connMap id with
    | none => none
    | some c =>
      match c.call call with
      | none => none
      | some (next, out) =>
        some (n.advance side ((n.ctx side).setConnection id next) (n.inbox side) out)
  | .deliver side =>
    match n.inbox side with
    | [] => none
    | packet :: rest =>
      match (n.ctx side).handlePacket packet with
      | .error _ => none
      | .ok (ctx, out) => some (n.advance side ctx rest out)

def network : TransitionSystem Network Action where
  init := { ctx := fun _ => {}, inbox := fun _ => [] }
  step := Network.step

def forwardedPort : NewConnectionPayload where
  protocol := "tcp"
  connectedAddress := "127.0.0.1"
  connectedPort := 8080
  originatorAddress := "192.0.2.7"
  originatorPort := 51712

namespace Network

variable {n next : Network} {action : Action}

inductive Moves (n : Network) : Action → Network → Prop
  | newConnection (details ctx out)
      (hopens : (n.ctx .opener).newConnection details = .ok (ctx, out)) :
      Moves n (.newConnection details) (n.advance .opener ctx (n.inbox .opener) out)
  | call (side id call c next out) (hconn : (n.ctx side).connMap id = some c)
      (hcall : c.call call = some (next, out)) : Moves n (.call side id call)
        (n.advance side ((n.ctx side).setConnection id next) (n.inbox side) out)
  | deliver (side packet rest ctx out) (hinbox : n.inbox side = packet :: rest)
      (hhandle : (n.ctx side).handlePacket packet = .ok (ctx, out)) :
      Moves n (.deliver side) (n.advance side ctx rest out)

theorem moves_of_step (hstep : n.step action = some next) : Moves n action next := by
  cases action with
  | newConnection details =>
    simp only [step] at hstep
    split at hstep <;> cases hstep
    next ctx out hopens => exact .newConnection details ctx out hopens
  | call side id call =>
    simp only [step] at hstep
    split at hstep
    · cases hstep
    next c hconn =>
    split at hstep <;> cases hstep
    next c' out hcall => exact .call side id call c c' out hconn hcall
  | deliver side =>
    simp only [step] at hstep
    split at hstep
    · cases hstep
    next packet rest hinbox =>
    split at hstep <;> cases hstep
    next ctx out hhandle => exact .deliver side packet rest ctx out hinbox hhandle

end Network

theorem ForwardCtx.newConnection_cases {ctx next : ForwardCtx}
    {details : NewConnectionPayload} {out : List Packet}
    (hopens : ctx.newConnection details = .ok (next, out)) :
    next.connectionId = ctx.connectionId + 1 ∧ next.stopped = ctx.stopped ∧
      ((ctx.connMap (ctx.connectionId + 1) ≠ none ∧
          next.connMap = ctx.connMap ∧ out = []) ∨ (ctx.connMap (ctx.connectionId + 1) = none ∧
          next.connMap (ctx.connectionId + 1) = some (opened (ctx.connectionId + 1)) ∧
          (∀ i, i ≠ ctx.connectionId + 1 → next.connMap i = ctx.connMap i) ∧
          out = [newPacket (ctx.connectionId + 1) details])) := by
  simp only [newConnection, lock_bind_eq_ok] at hopens
  obtain ⟨-, hopens⟩ := hopens
  split_ifs at hopens with hknown <;> cases hopens
  · refine ⟨rfl, rfl, .inl ⟨?_, rfl, rfl⟩⟩
    intro hnone
    simp [hnone] at hknown
  · refine ⟨rfl, rfl, .inr ⟨by simpa using hknown, by simp [setConnection], ?_, rfl⟩⟩
    intro i hi
    simp [setConnection, hi]

def ForwardCtx.Keyed (ctx : ForwardCtx) : Prop := ∀ id c, ctx.connMap id = some c → c.id = id

namespace Network

/-- Only the opener announces connections, and neither side stops. -/
structure Honest (side : Side) (packet : Packet) : Prop where
  running : packet.type ≠ .noMoreConnections
  opening : packet.type = .newConnection → side = .acceptor ∧
    ∃ details, packet = ForwardCtx.newPacket packet.connectionId details

theorem honest_of_type {side : Side} {packet : Packet} (hopening : packet.type ≠ .newConnection)
    (hrunning : packet.type ≠ .noMoreConnections) : Honest side packet :=
  ⟨hrunning, fun htype => absurd htype hopening⟩

structure WellFormed (n : Network) : Prop where
  keyed : ∀ side, (n.ctx side).Keyed
  running : ∀ side, (n.ctx side).stopped = false
  honest : ∀ side, ∀ packet ∈ n.inbox side, Honest side packet

theorem wellFormed_init : WellFormed network.init where
  keyed := by intro side id c hconn; simp [network] at hconn
  running := by intro side; rfl
  honest := by intro side packet hmem; simp [network] at hmem

theorem WellFormed.advance (hwf : WellFormed n) {side : Side}
    {ctx : ForwardCtx} {rest out : List Packet} (hkeyed : ctx.Keyed)
    (hrunning : ctx.stopped = false) (hrest : ∀ packet ∈ rest, packet ∈ n.inbox side)
    (hout : ∀ packet ∈ out, Honest side.peer packet) :
    WellFormed (n.advance side ctx rest out) where
  keyed := by
    intro s
    by_cases hs : s = side
    · simpa [Network.advance, hs] using hkeyed
    · simpa [Network.advance, hs] using hwf.keyed s
  running := by
    intro s
    by_cases hs : s = side
    · simpa [Network.advance, hs] using hrunning
    · simpa [Network.advance, hs] using hwf.running s
  honest := by
    intro s packet hmem
    by_cases hs : s = side
    · subst hs
      simp only [Network.advance] at hmem
      exact hwf.honest s packet (hrest packet hmem)
    · simp only [Network.advance, hs, if_false, List.mem_append] at hmem
      rcases hmem with hold | hnew
      · exact hwf.honest s packet hold
      · have hpeer : side.peer = s := by cases s <;> cases side <;> simp_all [Side.peer]
        exact hpeer ▸ hout packet hnew

end Network

theorem ForwardCtx.Keyed.update {ctx next : ForwardCtx} {id : UInt64}
    {c : Connection} (hkeyed : ctx.Keyed) (hconn : next.connMap id = some c)
    (hid : c.id = id) (hsame : ∀ i, i ≠ id → next.connMap i = ctx.connMap i) :
    next.Keyed := by
  intro i d hd
  by_cases hi : i = id
  · subst hi
    rw [hconn, Option.some.injEq] at hd
    exact hd ▸ hid
  · exact hkeyed i d (hsame i hi ▸ hd)

namespace Network

variable {n next : Network} {action : Action}

theorem WellFormed.step (hwf : WellFormed n) (hstep : n.step action = some next) :
    WellFormed next := by
  cases moves_of_step hstep with
  | newConnection details ctx out hopens =>
    obtain ⟨-, hstopped, hcases⟩ := ForwardCtx.newConnection_cases hopens
    have hrunning := hstopped.trans (hwf.running .opener)
    rcases hcases with ⟨-, hmap, rfl⟩ | ⟨-, hadded, hsame, rfl⟩
    · refine hwf.advance ?_ hrunning (fun _ hmem => hmem) (by simp)
      exact fun id c hconn => hwf.keyed .opener id c (hmap ▸ hconn)
    · refine hwf.advance ((hwf.keyed .opener).update hadded rfl hsame) hrunning
        (fun _ hmem => hmem) ?_
      simp only [List.mem_singleton, forall_eq]
      exact ⟨by simp [ForwardCtx.newPacket], fun _ => ⟨rfl, details, rfl⟩⟩
  | call side id call c c' out hconn hcall =>
    obtain ⟨hid, hout⟩ := Connection.call_id hcall
    have hkey := hwf.keyed side id c hconn
    refine hwf.advance ((hwf.keyed side).update
      (ForwardCtx.setConnection_self _ _ _) (hid.trans hkey)
      fun i hi => ForwardCtx.setConnection_of_ne _ _ hi) (hwf.running side) (fun _ hmem => hmem) ?_
    exact fun packet hmem => honest_of_type (hout packet hmem).2.1 (hout packet hmem).2.2
  | deliver side packet rest ctx out hinbox hhandle =>
    have hmem : packet ∈ n.inbox side := by simp [hinbox]
    have htype := (hwf.honest side packet hmem).running
    have hrest : ∀ p ∈ rest, p ∈ n.inbox side := by
      intro p hp
      simp [hinbox, hp]
    cases hconn : (n.ctx side).connMap packet.connectionId with
    | some c =>
      obtain ⟨hnext, rfl, hsame⟩ := ForwardCtx.handlePacket_known hconn htype hhandle
      obtain ⟨hid, hout⟩ := c.receive_id packet
      have hkey := hwf.keyed side _ c hconn
      refine hwf.advance ((hwf.keyed side).update hnext (hid.trans hkey)
        hsame.connMap) (hsame.stopped.trans (hwf.running side)) hrest ?_
      intro answer hanswer
      rcases (hout answer hanswer).2 with htype | htype <;>
        exact honest_of_type (by simp [htype]) (by simp [htype])
    | none =>
      obtain ⟨rfl, hdropped | ⟨details, hregistered⟩⟩ :=
        ForwardCtx.handlePacket_unknown hconn htype (hwf.running side) hhandle
      · refine hwf.advance ?_ (hdropped.same.stopped.trans (hwf.running side)) hrest (by simp)
        intro id c hc
        by_cases hid : id = packet.connectionId
        · simp [hid, hdropped.unknown] at hc
        · exact hwf.keyed side id c (hdropped.same.connMap id hid ▸ hc)
      · exact hwf.advance ((hwf.keyed side).update hregistered.added rfl
          hregistered.connMap) (hregistered.stopped.trans (hwf.running side)) hrest (by simp)

end Network

@[ext]
structure View where
  conn : Side → Option Connection
  inbox : Side → List Packet

def View.advance (v : View) (side : Side) (c : Option Connection)
    (rest out : List Packet) : View where
  conn s := if s = side then c else v.conn s
  inbox s := if s = side then rest else v.inbox s ++ out

def packetsOf (id : UInt64) (packets : List Packet) : List Packet :=
  packets.filter fun packet => packet.connectionId = id

section
variable {id : UInt64} {packet : Packet} {packets rest : List Packet}

@[simp]
theorem packetsOf_append (id : UInt64) (xs ys : List Packet) :
    packetsOf id (xs ++ ys) = packetsOf id xs ++ packetsOf id ys :=
  List.filter_append ..

theorem packetsOf_cons_self (hid : packet.connectionId = id) :
    packetsOf id (packet :: rest) = packet :: packetsOf id rest := by
  simp [packetsOf, hid]

theorem packetsOf_cons_of_ne (hid : packet.connectionId ≠ id) :
    packetsOf id (packet :: rest) = packetsOf id rest := by
  simp [packetsOf, hid]

theorem packetsOf_all (hall : ∀ packet ∈ packets, packet.connectionId = id) :
    packetsOf id packets = packets := by
  rw [packetsOf, List.filter_eq_self]
  exact fun packet hmem => by simpa using hall packet hmem

theorem packetsOf_newPacket (id : UInt64) (details : NewConnectionPayload) :
    packetsOf id [ForwardCtx.newPacket id details] = [ForwardCtx.newPacket id details] :=
  packetsOf_all (by simp [ForwardCtx.newPacket])

theorem packetsOf_other {i : UInt64} (hne : i ≠ id)
    (hall : ∀ packet ∈ packets, packet.connectionId = id) : packetsOf i packets = [] := by
  rw [packetsOf, List.filter_eq_nil_iff]
  intro packet hmem
  simpa [hall packet hmem] using hne.symm

end

def Network.view (n : Network) (id : UInt64) : View where
  conn side := (n.ctx side).connMap id
  inbox side := packetsOf id (n.inbox side)

theorem Network.view_advance (n : Network) (side : Side) (ctx : ForwardCtx)
    (rest out : List Packet) (id : UInt64) : (n.advance side ctx rest out).view id =
      (n.view id).advance side (ctx.connMap id) (packetsOf id rest) (packetsOf id out) := by
  ext1 <;> funext s <;> by_cases hs : s = side <;>
    simp [view, Network.advance, View.advance, hs]

theorem View.advance_same (v : View) (side : Side) :
    v.advance side (v.conn side) (v.inbox side) [] = v := by
  ext1 <;> funext s <;> by_cases hs : s = side <;> simp [View.advance, hs]

inductive ViewStep (id : UInt64) (lossy : Prop) (v : View) : View → Prop
  | opens (details) (hconn : v.conn .opener = none) : ViewStep id lossy v
        (v.advance .opener (some (ForwardCtx.opened id))
          (v.inbox .opener) [ForwardCtx.newPacket id details])
  | calls (side call c next out) (hconn : v.conn side = some c)
      (hcall : c.call call = some (next, out)) :
      ViewStep id lossy v (v.advance side (some next) (v.inbox side) out)
  | receives (side packet rest c) (hinbox : v.inbox side = packet :: rest)
      (hconn : v.conn side = some c) : ViewStep id lossy v
        (v.advance side (some (c.receive packet).1) rest (c.receive packet).2)
  | registers (details rest) (hconn : v.conn .acceptor = none)
      (hinbox : v.inbox .acceptor = ForwardCtx.newPacket id details :: rest) : ViewStep id lossy v
        (v.advance .acceptor (some (ForwardCtx.registered id details)) rest [])
  | loses (side packet rest) (hinbox : v.inbox side = packet :: rest)
      (hconn : v.conn side = none) (hlossy : side = .acceptor → lossy) :
      ViewStep id lossy v (v.advance side none rest [])

namespace Network

variable {n next : Network} {action : Action}

def Drops (n : Network) : Prop :=
  ∃ packet rest, n.inbox .acceptor = packet :: rest ∧
    (n.ctx .acceptor).connMap packet.connectionId = none ∧
    ∀ details, packet = ForwardCtx.newPacket packet.connectionId details →
      packet.connectionId ≤ (n.ctx .acceptor).connectionId

variable {side : Side} {ctx : ForwardCtx} {out : List Packet}

theorem view_advance_other {rest : List Packet} {id : UInt64}
    (hconn : ctx.connMap id = (n.ctx side).connMap id)
    (hrest : packetsOf id rest = packetsOf id (n.inbox side)) (hout : packetsOf id out = []) :
    (n.advance side ctx rest out).view id = n.view id := by
  rw [view_advance, hconn, hrest, hout]
  exact (n.view id).advance_same side

theorem viewStep_newConnection {details : NewConnectionPayload}
    (hopens : (n.ctx .opener).newConnection details = .ok (ctx, out)) (id : UInt64) (lossy : Prop) :
    (n.advance .opener ctx (n.inbox .opener) out).view id = n.view id ∨
      ViewStep id lossy (n.view id) ((n.advance .opener ctx (n.inbox .opener) out).view id) := by
  obtain ⟨-, -, hcases⟩ := ForwardCtx.newConnection_cases hopens
  rcases hcases with ⟨-, hmap, rfl⟩ | ⟨hfresh, hadded, hsame, rfl⟩
  · exact .inl (view_advance_other (by rw [hmap]) rfl rfl)
  · by_cases hid : id = (n.ctx .opener).connectionId + 1
    · subst hid
      right
      rw [view_advance, hadded, packetsOf_newPacket]
      exact .opens details hfresh
    · left
      refine view_advance_other (hsame id hid) rfl ?_
      exact packetsOf_other hid (by simp [ForwardCtx.newPacket])

theorem viewStep_call {callee : UInt64} {call : LocalCall} {c c' : Connection}
    (hwf : WellFormed n) (hconn : (n.ctx side).connMap callee = some c)
    (hcall : c.call call = some (c', out)) (id : UInt64) (lossy : Prop) :
    (n.advance side ((n.ctx side).setConnection callee c') (n.inbox side) out).view id = n.view id ∨
      ViewStep id lossy (n.view id) ((n.advance side ((n.ctx side).setConnection callee c')
          (n.inbox side) out).view id) := by
  have hkey := hwf.keyed side callee c hconn
  have hout : ∀ packet ∈ out, packet.connectionId = callee :=
    fun packet hmem => ((Connection.call_id hcall).2 packet hmem).1.trans hkey
  by_cases hid : id = callee
  · subst hid
    right
    rw [view_advance, ForwardCtx.setConnection_self, packetsOf_all hout]
    exact .calls side call c c' out hconn hcall
  · left
    exact view_advance_other (ForwardCtx.setConnection_of_ne _ _ hid) rfl (packetsOf_other hid hout)

theorem viewStep_deliver {packet : Packet} {rest : List Packet} (hwf : WellFormed n)
    (hinbox : n.inbox side = packet :: rest)
    (hhandle : (n.ctx side).handlePacket packet = .ok (ctx, out)) (id : UInt64) :
    (n.advance side ctx rest out).view id = n.view id ∨ ViewStep id n.Drops (n.view id)
        ((n.advance side ctx rest out).view id) := by
  have hhonest := hwf.honest side packet (by simp [hinbox])
  by_cases hid : id = packet.connectionId
  · right
    have hview : (n.view id).inbox side = packet :: packetsOf id rest := by
      simp only [view, hinbox]
      exact packetsOf_cons_self hid.symm
    rw [view_advance]
    cases hconn : (n.ctx side).connMap packet.connectionId with
    | some c =>
      obtain ⟨hnext, rfl, -⟩ := ForwardCtx.handlePacket_known hconn hhonest.running hhandle
      have hkey := hwf.keyed side _ c hconn
      rw [hid, hnext, packetsOf_all fun answer hmem =>
        (((c.receive_id packet).2 answer hmem).1.trans hkey)]
      exact hid ▸ .receives side packet _ c hview (hid ▸ hconn)
    | none =>
      obtain ⟨rfl, hdropped | ⟨details, hregistered⟩⟩ :=
        ForwardCtx.handlePacket_unknown hconn hhonest.running (hwf.running side) hhandle
      · rw [hid, hdropped.unknown]
        refine hid ▸ .loses side packet _ hview (hid ▸ hconn) ?_
        rintro rfl
        exact ⟨packet, rest, hinbox, hconn, hdropped.stale⟩
      · obtain ⟨rfl, -⟩ := hhonest.opening (congrArg Packet.type hregistered.opening)
        rw [hid, hregistered.added]
        refine hid ▸ .registers details _ (hid ▸ hconn) ?_
        rw [hview, hid, ← hregistered.opening]
  · left
    have hrest : packetsOf id rest = packetsOf id (n.inbox side) := by
      rw [hinbox, packetsOf_cons_of_ne (Ne.symm hid)]
    cases hconn : (n.ctx side).connMap packet.connectionId with
    | some c =>
      obtain ⟨-, rfl, hsame⟩ := ForwardCtx.handlePacket_known hconn hhonest.running hhandle
      have hkey := hwf.keyed side _ c hconn
      exact view_advance_other (hsame.connMap id hid) hrest (packetsOf_other hid fun answer hmem =>
          ((c.receive_id packet).2 answer hmem).1.trans hkey)
    | none =>
      obtain ⟨rfl, hdropped | ⟨details, hregistered⟩⟩ :=
        ForwardCtx.handlePacket_unknown hconn hhonest.running (hwf.running side) hhandle
      · exact view_advance_other (hdropped.same.connMap id hid) hrest rfl
      · exact view_advance_other (hregistered.connMap id hid) hrest rfl

theorem viewStep_of_step (hwf : WellFormed n) (hstep : n.step action = some next) (id : UInt64) :
    next.view id = n.view id ∨ ViewStep id n.Drops (n.view id) (next.view id) := by
  cases moves_of_step hstep with
  | newConnection details ctx out hopens => exact viewStep_newConnection hopens id n.Drops
  | call side callee call c c' out hconn hcall => exact viewStep_call hwf hconn hcall id n.Drops
  | deliver side packet rest ctx out hinbox hhandle => exact viewStep_deliver hwf hinbox hhandle id

end Network

end ContainerSSH.Agent
