/-
When nothing is on the way, the two ends agree on the state of every connection.
-/

import ContainerSSH.AgentHandshake
import Mathlib.Data.List.Range

namespace ContainerSSH.Agent

structure Agreement (o a : Option ConnectionState) (p q : List PacketType) :
    Prop where
  unopened : o = none → a = none ∧ p = [] ∧ q = []
  opening : a = none → o ≠ none → q = [] ∧ ((o = some .waitInit ∧ p = [.newConnection]) ∨
      (o = some .waitClose ∧ p = [.newConnection, .closeConnection]))
  offered : a = some .waitInit → q = [] ∧ ((o = some .waitInit ∧ p = []) ∨
      (o = some .waitClose ∧ p = [.closeConnection]))
  openerSentClose : .closeConnection ∈ p → o = some .waitClose ∨ o = some .closed
  openerWaits : o = some .waitClose → .closeConnection ∈ p ∨ a = some .closed
  acceptorSentClose : .closeConnection ∈ q → a = some .waitClose ∨ a = some .closed
  acceptorWaits : a = some .waitClose → .closeConnection ∈ q ∨ o = some .closed
  openerAnswered : .success ∈ p ∨ .error ∈ p →
    o = some .closed ∧ (a = some .waitClose ∨ a = some .closed)
  refused : .error ∈ q → a = some .closed ∧ o ≠ some .started
  acceptorClosed : a = some .closed → o = some .closed ∨ (o = some .waitClose ∧
      (.success ∈ q ∨ .error ∈ q ∨ .closeConnection ∈ q)) ∨ (o = some .waitInit ∧ q = [.error])
  openerClosed : o = some .closed → a = some .closed ∨ .closeConnection ∈ p ∨
    (a = some .waitClose ∧ (.success ∈ p ∨ .error ∈ p))
  accepted : o = some .waitInit → a = some .started → .success ∈ q

namespace Agreement

variable {o a : Option ConnectionState} {p q p' q' rest out : List PacketType}
  {state next : ConnectionState} {type : PacketType}

theorem init : Agreement none none [] [] := by
  constructor <;> simp

theorem quiet (h : Agreement o a [] []) : o = a ∧ o ≠ some .waitClose := by
  obtain ⟨_, _, _, _, _, _, _, _, _, _, _, _⟩ := h
  rcases o with _ | _ | _ | _ | _ <;> rcases a with _ | _ | _ | _ | _ <;>
    grind

theorem of_acceptorClosed (h : Agreement o a p q) (hopener : o = some .closed ∨
      (o = some .waitClose ∧ (.success ∈ q' ∨ .error ∈ q')))
    (hp : ∀ type ∈ p', type ∈ p) : Agreement o (some .closed) p' q' := by
  obtain ⟨_, _, _, _, _, _, _, _, _, _, _, _⟩ := h
  constructor <;> grind

theorem of_openerClosed (h : Agreement o a p q) (hknown : a ≠ none) (hanswered : a ≠ some .waitInit)
    (hacceptor : a = some .closed ∨ .closeConnection ∈ p' ∨
      (a = some .waitClose ∧ (.success ∈ p' ∨ .error ∈ p'))) (hp : .success ∈ p' ∨ .error ∈ p' →
      a = some .waitClose ∨ a = some .closed)
    (hq : ∀ type ∈ q', type ∈ q) : Agreement (some .closed) a p' q' := by
  obtain ⟨_, _, _, _, _, _, _, _, _, _, _, _⟩ := h
  constructor <;> grind

theorem acceptorSkips (h : Agreement o (some state) (type :: rest) q)
    (hclose : type ≠ .closeConnection) (hsuccess : type ≠ .success)
    (herror : type ≠ .error) : Agreement o (some state) rest q := by
  obtain ⟨_, _, _, _, _, _, _, _, _, _, _, _⟩ := h
  constructor <;> grind

theorem openerSkips (h : Agreement o a p (type :: rest))
    (hclose : type ≠ .closeConnection) (herror : type ≠ .error) (hsuccess : type = .success →
      o ≠ some .waitInit ∧ o ≠ some .waitClose) : Agreement o a p rest := by
  obtain ⟨_, _, _, _, _, _, _, _, _, _, _, _⟩ := h
  constructor <;> grind

theorem acceptorReceives (h : Agreement o (some state) (type :: rest) q) :
    Agreement o (some (state.after type)) rest (q ++ state.answer type) := by
  have hrest : ∀ t ∈ rest, t ∈ type :: rest := by simp +contextual
  have hskips : type ≠ .closeConnection → type ≠ .success → type ≠ .error →
      Agreement o (some state) rest (q ++ []) := by
    intro hclose hsuccess herror
    rw [List.append_nil]
    exact h.acceptorSkips hclose hsuccess herror
  cases type with
  | closeConnection =>
    refine h.of_acceptorClosed ?_ hrest
    rcases h.openerSentClose (by simp) with hwaits | hclosed
    · refine .inr ⟨hwaits, ?_⟩
      by_cases hstate : state = .closed <;>
        simp [ConnectionState.answer, hstate]
    · exact .inl hclosed
  | success =>
    -- an answer to the acceptor's close, so the opener has closed
    obtain ⟨hopener, hstate | hstate⟩ := h.openerAnswered (by simp) <;>
      simp only [Option.some.injEq] at hstate <;> subst hstate <;>
      exact h.of_acceptorClosed (.inl hopener) hrest
  | error => exact h.of_acceptorClosed (.inl (h.openerAnswered (by simp)).1) hrest
  | setup | data | newConnection | noMoreConnections | unknown =>
    exact hskips (by simp) (by simp) (by simp)

theorem openerReceives (h : Agreement (some state) a p (type :: rest)) :
    Agreement (some (state.after type)) a (p ++ state.answer type) rest := by
  have hrest : ∀ t ∈ rest, t ∈ type :: rest := by simp +contextual
  have hskips : type ≠ .closeConnection → type ≠ .success → type ≠ .error →
      Agreement (some state) a (p ++ []) rest := by
    intro hclose hsuccess herror
    rw [List.append_nil]
    exact h.openerSkips hclose herror fun htype => absurd htype hsuccess
  have hknown : a ≠ none := by
    rintro rfl
    simpa using h.opening rfl (by simp)
  have hanswered : a ≠ some .waitInit := by
    rintro rfl
    simpa using h.offered rfl
  cases type with
  | closeConnection =>
    have hacceptor := h.acceptorSentClose (by simp)
    refine h.of_openerClosed hknown hanswered ?_ (fun _ => hacceptor) hrest
    rcases hacceptor with hwaits | hclosed
    · refine .inr (.inr ⟨hwaits, ?_⟩)
      by_cases hstate : state = .closed <;>
        simp [ConnectionState.answer, hstate]
    · exact .inl hclosed
  | error =>
    have hacceptor := (h.refused (by simp)).1
    exact h.of_openerClosed hknown hanswered (.inl hacceptor) (fun _ => .inr hacceptor) hrest
  | success =>
    cases state with
    | waitInit =>
      -- the answer to an accept, since a refusal would be alone in `q`
      change Agreement (some .started) a (p ++ []) rest
      obtain ⟨_, _, _, _, _, _, _, _, _, _, _, _⟩ := h
      constructor <;> grind
    | waitClose =>
      refine h.of_openerClosed hknown hanswered ?_ ?_ hrest
      · rcases h.openerWaits rfl with hsent | hclosed
        · exact .inr (.inl (by simp [hsent]))
        · exact .inl hclosed
      · intro hanswer
        simp only [ConnectionState.answer, List.append_nil] at hanswer
        exact (h.openerAnswered hanswer).2
    | started | closed =>
      change Agreement (some _) a (p ++ []) rest
      rw [List.append_nil]
      exact h.openerSkips (by simp) (by simp) (by simp)
  | setup | data | newConnection | noMoreConnections | unknown =>
    exact hskips (by simp) (by simp) (by simp)

theorem acceptorCalls (h : Agreement o (some state) p q) (hcalls : state.Calls false next out) :
    Agreement o (some next) p (q ++ out) := by
  obtain ⟨_, _, _, _, _, _, _, _, _, _, _, _⟩ := h
  cases hcalls <;> constructor <;> grind

theorem openerCalls (h : Agreement (some state) a p q) (hcalls : state.Calls true next out) :
    Agreement (some next) a (p ++ out) q := by
  obtain ⟨_, _, _, _, _, _, _, _, _, _, _, _⟩ := h
  cases hcalls with
  | idle | writes | closes => constructor <;> grind
  | accepts hside | rejects hside => simp at hside

theorem opens (h : Agreement none a p q) :
    Agreement (some .waitInit) a (p ++ [.newConnection]) q := by
  obtain ⟨rfl, rfl, rfl⟩ := h.unopened rfl
  constructor <;> simp

theorem registers (h : Agreement o none (.newConnection :: rest) q) :
    Agreement o (some .waitInit) rest q := by
  have hopened : o ≠ none := by
    rintro rfl
    simpa using h.unopened rfl
  obtain ⟨rfl, ⟨rfl, hp⟩ | ⟨rfl, hp⟩⟩ := h.opening rfl hopened <;> cases hp <;>
    constructor <;> simp

end Agreement

def Handshake.Agrees (s : Handshake) : Prop := Agreement s.opener s.acceptor s.toAcceptor s.toOpener

theorem Handshake.Agrees.step {s t : Handshake} {lossy : Prop}
    (hagrees : s.Agrees) (hlossless : ¬ lossy) (hstep : HandshakeStep lossy s t) : t.Agrees := by
  cases hstep with
  | opens => exact Agreement.opens hagrees
  | openerCalls state next out a p q hcalls => exact Agreement.openerCalls hagrees hcalls
  | acceptorCalls o state next out p q hcalls => exact Agreement.acceptorCalls hagrees hcalls
  | openerReceives => exact Agreement.openerReceives hagrees
  | acceptorReceives => exact Agreement.acceptorReceives hagrees
  | registers => exact Agreement.registers hagrees
  | openerLoses =>
    have hempty := (Agreement.unopened hagrees rfl).2.2
    simp at hempty
  | acceptorLoses o type rest q hlossy => exact absurd hlossy hlossless

def openingIds (packets : List Packet) : List Nat :=
  (packets.filter fun packet => packet.type = .newConnection).map
    fun packet => packet.connectionId.toNat

section
variable {packet : Packet} {packets rest : List Packet}

theorem openingIds_append (xs ys : List Packet) :
    openingIds (xs ++ ys) = openingIds xs ++ openingIds ys := by
  simp [openingIds]

theorem openingIds_other (hall : ∀ packet ∈ packets,
    packet.type ≠ .newConnection) : openingIds packets = [] := by
  rw [openingIds, List.map_eq_nil_iff, List.filter_eq_nil_iff]
  exact fun packet hmem => by simpa using hall packet hmem

theorem openingIds_cons_opening (htype : packet.type = .newConnection) :
    openingIds (packet :: rest) = packet.connectionId.toNat :: openingIds rest := by
  simp [openingIds, htype]

theorem openingIds_cons_other (htype : packet.type ≠ .newConnection) :
    openingIds (packet :: rest) = openingIds rest := by
  simp [openingIds, htype]

end

structure Numbered (n : Network) : Prop where
  openerFresh : ∀ id, (n.ctx .opener).connectionId.toNat < id.toNat →
    (n.ctx .opener).connMap id = none
  acceptorFresh : ∀ id, (n.ctx .acceptor).connectionId.toNat < id.toNat →
    (n.ctx .acceptor).connMap id = none
  consecutive : ∃ count, (n.ctx .opener).connectionId.toNat =
      (n.ctx .acceptor).connectionId.toNat + count ∧ openingIds (n.inbox .acceptor) =
      List.range' ((n.ctx .acceptor).connectionId.toNat + 1) count

namespace Numbered

variable {n next : Network} {action : Action}

theorem init : Numbered network.init where
  openerFresh := by simp [network]
  acceptorFresh := by simp [network]
  consecutive := ⟨0, by simp [network, openingIds]⟩

theorem head_id (hnum : Numbered n) {packet : Packet} {rest : List Packet}
    (hinbox : n.inbox .acceptor = packet :: rest) (htype : packet.type = .newConnection) :
    packet.connectionId.toNat = (n.ctx .acceptor).connectionId.toNat + 1 ∧ ∃ count,
      (n.ctx .opener).connectionId.toNat = packet.connectionId.toNat + count ∧
      openingIds rest = List.range' (packet.connectionId.toNat + 1) count := by
  obtain ⟨count, hcount, hids⟩ := hnum.consecutive
  rw [hinbox, openingIds_cons_opening htype] at hids
  cases count with
  | zero => simp at hids
  | succ count =>
    rw [List.range'_succ, List.cons.injEq] at hids
    obtain ⟨hhead, hrest⟩ := hids
    exact ⟨hhead, count, by omega, by rw [hrest, hhead]⟩

theorem advance (hnum : Numbered n) {side : Side} {ctx : ForwardCtx}
    {rest out : List Packet} {id : UInt64} {c : Connection}
    (hconn : (n.ctx side).connMap id = some c) (hsame : ForwardCtx.SameBut id (n.ctx side) ctx)
    (hrest : openingIds rest = openingIds (n.inbox side))
    (hout : ∀ packet ∈ out, packet.type ≠ .newConnection) :
    Numbered (n.advance side ctx rest out) := by
  have hfresh : (∀ i, (n.ctx side).connectionId.toNat < i.toNat → (n.ctx side).connMap i = none) →
      ∀ i, ctx.connectionId.toNat < i.toNat → ctx.connMap i = none := by
    intro hold i hi
    rw [hsame.connectionId] at hi
    have hne : i ≠ id := by
      rintro rfl
      simp [hold i hi] at hconn
    rw [hsame.connMap i hne]
    exact hold i hi
  have hids := hsame.connectionId
  cases side with
  | opener =>
    refine ⟨?_, ?_, ?_⟩
    · simpa [Network.advance] using hfresh hnum.openerFresh
    · simpa [Network.advance] using hnum.acceptorFresh
    · simpa [Network.advance, hids, openingIds_append, openingIds_other hout] using hnum.consecutive
  | acceptor =>
    refine ⟨?_, ?_, ?_⟩
    · simpa [Network.advance] using hnum.openerFresh
    · simpa [Network.advance] using hfresh hnum.acceptorFresh
    · simpa [Network.advance, hids, hrest] using hnum.consecutive

end Numbered

structure Consistent (n : Network) : Prop where
  paired : n.Paired
  numbered : Numbered n
  agrees : ∀ id, (n.view id).handshake.Agrees

def Action.isOpening : Action → Bool
  | .newConnection _ => true
  | _ => false

namespace Consistent

variable {n next : Network} {action : Action}

theorem init : Consistent network.init where
  paired := Network.Paired.init
  numbered := Numbered.init
  agrees := fun _ => Agreement.init

theorem unknown_opening (hcons : Consistent n) {packet : Packet}
    {rest : List Packet} (hinbox : n.inbox .acceptor = packet :: rest)
    (hconn : (n.ctx .acceptor).connMap packet.connectionId = none) :
    packet.type = .newConnection := by
  have hagreement := hcons.agrees packet.connectionId
  have htypes : (n.view packet.connectionId).types .acceptor =
      packet.type :: (packetsOf packet.connectionId rest).map Packet.type := by
    simp [View.types, Network.view, hinbox, packetsOf_cons_self]
  have hunknown : (n.view packet.connectionId).state .acceptor = none := by
    simp [View.state, Network.view, hconn]
  rw [View.handshake, htypes, hunknown] at hagreement
  have hopened : (n.view packet.connectionId).state .opener ≠ none := by
    intro hnone
    simpa using (hagreement.unopened hnone).2.1
  rcases (hagreement.opening rfl hopened).2 with ⟨-, hp⟩ | ⟨-, hp⟩ <;>
    exact (List.cons.inj hp).1

theorem not_drops (hcons : Consistent n) : ¬ n.Drops := by
  rintro ⟨packet, rest, hinbox, hconn, hstale⟩
  have htype := hcons.unknown_opening hinbox hconn
  obtain ⟨-, details, hpacket⟩ := (hcons.paired.wellFormed.honest .acceptor packet
    (by simp [hinbox])).opening htype
  have hold := UInt64.le_iff_toNat_le.mp (hstale details hpacket)
  have hid := (hcons.numbered.head_id hinbox htype).1
  omega

theorem opener_known (hcons : Consistent n) {packet : Packet}
    {rest : List Packet} (hinbox : n.inbox .opener = packet :: rest) :
    (n.ctx .opener).connMap packet.connectionId ≠ none := by
  intro hconn
  have hempty := (Agreement.unopened (hcons.agrees packet.connectionId)
    (by simp [View.handshake, View.state, Network.view, hconn])).2.2
  simp [View.handshake, View.types, Network.view, hinbox, packetsOf_cons_self] at hempty

theorem numbered_newConnection (hcons : Consistent n)
    {details : NewConnectionPayload} {ctx : ForwardCtx} {out : List Packet}
    (hroom : (n.ctx .opener).connectionId.toNat + 1 < UInt64.size)
    (hopens : (n.ctx .opener).newConnection details = .ok (ctx, out)) :
    Numbered (n.advance .opener ctx (n.inbox .opener) out) ∧
      ctx.connectionId.toNat = (n.ctx .opener).connectionId.toNat + 1 := by
  have hnum := hcons.numbered
  obtain ⟨hid, -, hcases⟩ := ForwardCtx.newConnection_cases hopens
  have hnext : ((n.ctx .opener).connectionId + 1).toNat =
      (n.ctx .opener).connectionId.toNat + 1 := by
    exact Nat.mod_eq_of_lt hroom
  have hfresh := hnum.openerFresh ((n.ctx .opener).connectionId + 1) (by omega)
  rcases hcases with ⟨hknown, -, -⟩ | ⟨-, hadded, hsame, rfl⟩
  · exact absurd hfresh hknown
  refine ⟨⟨?_, ?_, ?_⟩, by rw [hid, hnext]⟩
  · intro i hi
    simp only [Network.advance, if_true, hid] at hi ⊢
    rw [hsame i (by rintro rfl; omega)]
    exact hnum.openerFresh i (by omega)
  · simpa [Network.advance] using hnum.acceptorFresh
  · obtain ⟨count, hcount, hids⟩ := hnum.consecutive
    refine ⟨count + 1, ?_, ?_⟩
    · simp only [Network.advance, if_true, hid, reduceCtorEq, if_false]
      omega
    · simp only [Network.advance, reduceCtorEq, if_false, openingIds_append]
      rw [openingIds_cons_opening rfl, List.range'_1_concat]
      simp only [ForwardCtx.newPacket]
      congr 2
      omega

theorem numbered_deliver (hcons : Consistent n) {side : Side}
    {packet : Packet} {rest out : List Packet} {ctx : ForwardCtx}
    (hinbox : n.inbox side = packet :: rest)
    (hhandle : (n.ctx side).handlePacket packet = .ok (ctx, out)) :
    Numbered (n.advance side ctx rest out) ∧
      (side = .opener → ctx.connectionId = (n.ctx .opener).connectionId) := by
  have hnum := hcons.numbered
  have hhonest := hcons.paired.wellFormed.honest side packet (by simp [hinbox])
  cases hconn : (n.ctx side).connMap packet.connectionId with
  | some c =>
    obtain ⟨-, rfl, hsame⟩ := ForwardCtx.handlePacket_known hconn hhonest.running hhandle
    refine ⟨hnum.advance hconn hsame ?_ ?_, by
      rintro rfl; exact hsame.connectionId⟩
    · rw [hinbox, openingIds_cons_other]
      intro htype
      obtain ⟨rfl, -⟩ := hhonest.opening htype
      have hid := (hnum.head_id hinbox htype).1
      simp [hnum.acceptorFresh packet.connectionId (by omega)] at hconn
    · intro answer hanswer
      rcases ((c.receive_id packet).2 answer hanswer).2 with htype | htype <;>
        simp [htype]
  | none =>
    cases side with
    | opener => exact absurd hconn (hcons.opener_known hinbox)
    | acceptor =>
      refine ⟨?_, by simp⟩
      have htype := hcons.unknown_opening hinbox hconn
      obtain ⟨rfl, hdropped | ⟨details, hregistered⟩⟩ :=
        ForwardCtx.handlePacket_unknown hconn hhonest.running
          (hcons.paired.wellFormed.running .acceptor) hhandle
      · exact absurd ⟨packet, rest, hinbox, hconn, hdropped.stale⟩ hcons.not_drops
      · obtain ⟨hid, hrest⟩ := hnum.head_id hinbox htype
        refine ⟨?_, ?_, ?_⟩
        · simpa [Network.advance] using hnum.openerFresh
        · intro i hi
          simp only [Network.advance, if_true, hregistered.connectionId] at hi ⊢
          rw [hregistered.connMap i (by rintro rfl; omega)]
          exact hnum.acceptorFresh i (by omega)
        · simpa [Network.advance, hregistered.connectionId] using hrest

theorem step (hcons : Consistent n) (hstep : n.step action = some next) (hroom : action.isOpening →
      (n.ctx .opener).connectionId.toNat + 1 < UInt64.size) :
    Consistent next ∧ (next.ctx .opener).connectionId.toNat =
      (n.ctx .opener).connectionId.toNat + [action].countP Action.isOpening := by
  have hagrees := hcons.paired.handshake_invariant hstep
    (fun s t hold => hold.step hcons.not_drops) hcons.agrees
  suffices hnum : Numbered next ∧ (next.ctx .opener).connectionId.toNat =
      (n.ctx .opener).connectionId.toNat + [action].countP Action.isOpening from
    ⟨⟨hcons.paired.step hstep, hnum.1, hagrees⟩, hnum.2⟩
  cases Network.moves_of_step hstep with
  | newConnection details ctx out hopens => exact hcons.numbered_newConnection (hroom rfl) hopens
  | call side id call c c' out hconn hcall =>
    refine ⟨hcons.numbered.advance hconn (ForwardCtx.sameBut_setConnection id _ c') rfl
      fun packet hmem => ((Connection.call_id hcall).2 packet hmem).2.1, ?_⟩
    cases side <;> rfl
  | deliver side packet rest ctx out hinbox hhandle =>
    obtain ⟨hnum, hid⟩ := hcons.numbered_deliver hinbox hhandle
    refine ⟨hnum, ?_⟩
    cases side with
    | opener => exact congrArg UInt64.toNat (hid rfl)
    | acceptor => rfl

theorem runFrom {actions : List Action} (hcons : Consistent n)
    (hrun : network.runFrom n actions = some next) (hroom : (n.ctx .opener).connectionId.toNat +
      actions.countP Action.isOpening < UInt64.size) : Consistent next := by
  induction n, actions, hrun using TransitionSystem.runFrom_induction with
  | nil => exact hcons
  | cons n action middle rest hstep hrest ih =>
    rw [List.countP_cons] at hroom
    obtain ⟨hmiddle, hcount⟩ := hcons.step hstep fun hopening => by
      simp only [hopening, if_true] at hroom
      omega
    refine ih hmiddle ?_
    simp only [List.countP_cons, List.countP_nil] at hcount
    omega

end Consistent

def Network.Settled (n : Network) (id : UInt64) : Prop :=
  (n.view id).state .opener = (n.view id).state .acceptor ∧ (n.view id).state .opener ∈
      [none, some .waitInit, some .started, some .closed]

/-- In every run that opens fewer than `2 ^ 64` connections, the two ends agree
on all of them whenever nothing is on the way. -/
theorem settled_of_quiet {actions : List Action} {n : Network} (hrun : network.run actions = some n)
    (hroom : actions.countP Action.isOpening < UInt64.size)
    (hquiet : ∀ side, n.inbox side = []) (id : UInt64) : n.Settled id := by
  have hcons := Consistent.init.runFrom hrun (by simpa [network] using hroom)
  have hagreement := hcons.agrees id
  have hempty : ∀ side, (n.view id).types side = [] := by
    simp [View.types, Network.view, hquiet, packetsOf]
  rw [View.handshake, hempty, hempty] at hagreement
  obtain ⟨hsame, hwaits⟩ := hagreement.quiet
  refine ⟨hsame, ?_⟩
  rcases hstate : (n.view id).state .opener with _ | _ | _ | _ | _ <;>
    simp_all

def acceptedRun : List Action :=
  [.newConnection forwardedPort, .deliver .acceptor, .call .acceptor 1 .accept, .deliver .opener]

theorem settled_of_quiet_accepted : ∃ n, network.run acceptedRun = some n ∧
      (n.view 1).state .opener = some .started ∧ n.Settled 1 :=
  ⟨_, rfl, rfl, @settled_of_quiet acceptedRun _ rfl (by decide)
    (fun side => by cases side <;> rfl) 1⟩

structure Registering (count : Nat) (n : Network) : Prop where
  counter : ∀ side, (n.ctx side).connectionId.toNat = count
  unlocked : ∀ side, (n.ctx side).connMapMu = false
  running : ∀ side, (n.ctx side).stopped = false
  listening : ∀ side, (n.ctx side).channelClosed = false
  fresh : ∀ side id, id = 0 ∨ count < id.toNat → (n.ctx side).connMap id = none
  quiet : ∀ side, n.inbox side = []

namespace ForwardCtx

variable {ctx : ForwardCtx} {id : UInt64} (details : NewConnectionPayload)

theorem newConnection_fresh (hunlocked : ctx.connMapMu = false)
    (hfresh : ctx.connMap (ctx.connectionId + 1) = none) : ctx.newConnection details =
      .ok ({ ctx with
          connMap := (ctx.setConnection (ctx.connectionId + 1)
            (opened (ctx.connectionId + 1))).connMap
          connectionId := ctx.connectionId + 1
          waitGroup := ctx.waitGroup + 1 },
        [newPacket (ctx.connectionId + 1) details]) := by
  rw [newConnection, lock_bind_eq_ok]
  simp [hunlocked, hfresh, setConnection]

theorem handlePacket_opening (hunlocked : ctx.connMapMu = false)
    (hrunning : ctx.stopped = false) (hlistening : ctx.channelClosed = false)
    (hfresh : ctx.connMap id = none) (hnew : ctx.connectionId < id) :
    ctx.handlePacket (newPacket id details) = .ok ({ ctx with
          connMap := (ctx.setConnection id (registered id details)).connMap
          connectionId := id
          waitGroup := ctx.waitGroup + 1
          offered := ctx.offered ++ [id] }, []) := by
  have hnotStale : ¬ id ≤ ctx.connectionId := by
    rw [UInt64.le_iff_toNat_le]
    rw [UInt64.lt_iff_toNat_lt] at hnew
    omega
  simp only [handlePacket, newPacket, handleNewConnection, unmarshalNewConnection, lock_bind_eq_ok]
  simp [hunlocked, hfresh, hnotStale, setConnection, hrunning, hlistening]

theorem handlePacket_stale (hunlocked : ctx.connMapMu = false) (hstale : id ≤ ctx.connectionId) :
    ctx.handlePacket (newPacket id details) = .ok (ctx, []) := by
  simp only [handlePacket, newPacket, handleNewConnection, unmarshalNewConnection, lock_bind_eq_ok]
  simp [hunlocked, hstale]

end ForwardCtx

namespace Registering

variable {count : Nat} {n : Network} (details : NewConnectionPayload)

theorem init : Registering 0 network.init := by
  constructor <;> simp [network]

def round (details : NewConnectionPayload) : List Action :=
  [.newConnection details, .deliver .acceptor]

theorem run_round {opener acceptor : ForwardCtx} {packet : Packet}
    (hquiet : ∀ side, n.inbox side = [])
    (hopens : (n.ctx .opener).newConnection details = .ok (opener, [packet]))
    (hhandle : (n.ctx .acceptor).handlePacket packet = .ok (acceptor, [])) :
    network.runFrom n (round details) =
      some ⟨fun side => if side = .opener then opener else acceptor, fun _ => []⟩ := by
  simp only [round, TransitionSystem.runFrom, network, Network.step, hopens,
    Option.bind_some, Network.advance, reduceCtorEq, if_false, hquiet,
    List.nil_append, hhandle, Option.some.injEq, Network.mk.injEq]
  constructor <;> funext side <;> cases side <;> rfl

theorem next (hready : Registering count n) (hroom : count + 1 < UInt64.size) :
    ∃ next, network.runFrom n (round details) = some next ∧ Registering (count + 1) next := by
  have hcounter := hready.counter
  have hid : ((n.ctx .opener).connectionId + 1).toNat = count + 1 := by
    rw [UInt64.toNat_add, hcounter]
    exact Nat.mod_eq_of_lt hroom
  have hnew : (n.ctx .acceptor).connectionId < (n.ctx .opener).connectionId + 1 := by
    rw [UInt64.lt_iff_toNat_lt, hcounter]
    omega
  have hopens := ForwardCtx.newConnection_fresh details
    (hready.unlocked .opener) (hready.fresh .opener _ (.inr (by omega)))
  have hregisters := ForwardCtx.handlePacket_opening details
    (hready.unlocked .acceptor) (hready.running .acceptor) (hready.listening .acceptor)
    (hready.fresh .acceptor _ (.inr (by omega))) hnew
  refine ⟨_, run_round details hready.quiet hopens hregisters, ?_⟩
  constructor
  · intro side
    cases side <;> simpa using hid
  · intro side
    cases side <;> simpa using hready.unlocked _
  · intro side
    cases side <;> simpa using hready.running _
  · intro side
    cases side <;> simpa using hready.listening _
  · intro side id hfresh
    have hne : id ≠ (n.ctx .opener).connectionId + 1 := by
      rintro rfl
      rcases hfresh with hzero | hlt
      · simp [hzero] at hid
      · omega
    have hold := hready.fresh side id (hfresh.imp_right fun h => by omega)
    cases side <;> simpa [ForwardCtx.setConnection, hne] using hold
  · intro side
    rfl

theorem rounds (details : NewConnectionPayload) (hroom : count < UInt64.size) :
    ∃ actions n, network.run actions = some n ∧ Registering count n := by
  induction count with
  | zero => exact ⟨[], network.init, rfl, init⟩
  | succ count ih =>
    obtain ⟨actions, n, hrun, hready⟩ := ih (by omega)
    obtain ⟨next, hround, hnext⟩ := hready.next details hroom
    refine ⟨actions ++ round details, next, ?_, hnext⟩
    rw [TransitionSystem.run, network.runFrom_append hrun, hround]

end Registering

/-- After `2 ^ 64` connections the opener starts over at the id `0`, which the
acceptor drops: the opener waits for ever for a connection that the other end
does not have. -/
theorem wrapped_id_unsettled : ∃ actions n, network.run actions = some n ∧
      (∀ side, n.inbox side = []) ∧ (n.view 0).state .opener = some .waitInit ∧
      (n.view 0).state .acceptor = none ∧ ¬ n.Settled 0 := by
  obtain ⟨actions, n, hrun, hready⟩ :=
    @Registering.rounds (UInt64.size - 1) forwardedPort (by decide)
  have hid : (n.ctx .opener).connectionId + 1 = 0 := by
    rw [← UInt64.toNat_inj, UInt64.toNat_add, hready.counter]
    rfl
  have hopens := ForwardCtx.newConnection_fresh forwardedPort
    (hready.unlocked .opener) (hready.fresh .opener _ (.inl hid))
  rw [hid] at hopens
  have hdropped := ForwardCtx.handlePacket_stale forwardedPort
    (hready.unlocked .acceptor) UInt64.zero_le
  have hround := Registering.run_round forwardedPort hready.quiet hopens hdropped
  refine ⟨actions ++ Registering.round forwardedPort, _,
    (network.runFrom_append hrun).trans hround, fun _ => rfl, ?_, ?_, ?_⟩
  · simp [View.state, Network.view, ForwardCtx.opened]
  · simpa [View.state, Network.view] using hready.fresh .acceptor 0 (.inl rfl)
  · simp [Network.Settled, View.state, Network.view, ForwardCtx.opened,
      hready.fresh .acceptor 0 (.inl rfl)]

end ContainerSSH.Agent
