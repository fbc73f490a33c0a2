/-
The abstract view of one connection: the states of the two ends and the types of the packets
between them.
-/

import ContainerSSH.AgentNetwork

namespace ContainerSSH.Agent

namespace ConnectionState

def after (state : ConnectionState) : PacketType → ConnectionState
  | .closeConnection => .closed
  | .error => .closed
  | .success =>
    match state with
    | .waitInit => .started
    | .waitClose => .closed
    | _ => state
  | _ => state

def answer (state : ConnectionState) : PacketType → List PacketType
  | .closeConnection => if state = .closed then [.error] else [.success]
  | _ => []

inductive Calls (initiator : Bool) (state : ConnectionState) :
    ConnectionState → List PacketType → Prop
  | idle : Calls initiator state state []
  | writes (hstate : state = .started) : Calls initiator state state [.data]
  | closes (hstate : state = .waitInit ∨ state = .started) :
      Calls initiator state .waitClose [.closeConnection]
  | accepts (hside : initiator = false) (hstate : state = .waitInit) :
      Calls initiator state .started [.success]
  | rejects (hside : initiator = false) (hstate : state = .waitInit) :
      Calls initiator state .closed [.error]

end ConnectionState

namespace Connection

theorem closeImm_eq_none_iff {c : Connection} : c.closeImm = none ↔ c.state = .closed := by
  unfold closeImm
  cases c.state <;> simp

theorem closeImm_getD_state (c : Connection) : (c.closeImm.getD c).state = .closed ∧
      (c.closeImm.getD c).initiator = c.initiator := by
  cases hclose : c.closeImm with
  | none => exact ⟨closeImm_eq_none_iff.mp hclose, rfl⟩
  | some => simp [closeImm_eq hclose]

theorem receive_state (c : Connection) (packet : Packet) :
    (c.receive packet).1.state = c.state.after packet.type ∧
      (c.receive packet).1.initiator = c.initiator ∧
      (c.receive packet).2.map Packet.type = c.state.answer packet.type := by
  have hcloses := c.closeImm_getD_state
  unfold receive
  split
  · split_ifs <;> simp [*, ConnectionState.after, ConnectionState.answer]
  · rename_i htype
    cases hclose : c.closeImm with
    | none =>
      have hstate := closeImm_eq_none_iff.mp hclose
      simp [htype, hstate, ConnectionState.after, ConnectionState.answer, Connection.packet]
    | some closed =>
      have hstate : c.state ≠ .closed := by
        intro hstate
        simp [closeImm_eq_none_iff.mpr hstate] at hclose
      simp [htype, hstate, ConnectionState.after, ConnectionState.answer,
        Connection.packet, closeImm_eq hclose]
  · rename_i htype
    split <;> rename_i hstate <;>
      simp_all [ConnectionState.after, ConnectionState.answer]
  · rename_i htype
    simp [htype, hcloses, ConnectionState.after, ConnectionState.answer]
  · simp_all [ConnectionState.after, ConnectionState.answer]

theorem call_state {c next : Connection} {call : LocalCall}
    {out : List Packet} (hcall : c.call call = some (next, out)) :
    next.initiator = c.initiator ∧ c.state.Calls c.initiator next.state (out.map Packet.type) := by
  cases calls_of_call hcall with
  | writes data hstate => exact ⟨rfl, .writes hstate⟩
  | closes hstate => exact ⟨rfl, .closes hstate⟩
  | accepts hside hstate => exact ⟨rfl, .accepts hside hstate⟩
  | rejects hside hstate => exact ⟨rfl, .rejects hside hstate⟩
  | writeFails | reads | closesAgain | fails => exact ⟨rfl, .idle⟩

end Connection

structure Handshake where
  opener : Option ConnectionState
  acceptor : Option ConnectionState
  toAcceptor : List PacketType
  toOpener : List PacketType

inductive HandshakeStep (lossy : Prop) : Handshake → Handshake → Prop
  | opens (a p q) : HandshakeStep lossy ⟨none, a, p, q⟩
        ⟨some .waitInit, a, p ++ [.newConnection], q⟩
  | openerCalls (state next out a p q) (hcalls : state.Calls true next out) :
      HandshakeStep lossy ⟨some state, a, p, q⟩ ⟨some next, a, p ++ out, q⟩
  | acceptorCalls (o state next out p q) (hcalls : state.Calls false next out) :
      HandshakeStep lossy ⟨o, some state, p, q⟩ ⟨o, some next, p, q ++ out⟩
  | openerReceives (state a p type rest) : HandshakeStep lossy ⟨some state, a, p, type :: rest⟩
        ⟨some (state.after type), a, p ++ state.answer type, rest⟩
  | acceptorReceives (o state type rest q) : HandshakeStep lossy ⟨o, some state, type :: rest, q⟩
        ⟨o, some (state.after type), rest, q ++ state.answer type⟩
  | registers (o rest q) : HandshakeStep lossy ⟨o, none, .newConnection :: rest, q⟩
        ⟨o, some .waitInit, rest, q⟩
  | openerLoses (a p type rest) : HandshakeStep lossy ⟨none, a, p, type :: rest⟩ ⟨none, a, p, rest⟩
  | acceptorLoses (o type rest q) (hlossy : lossy) :
      HandshakeStep lossy ⟨o, none, type :: rest, q⟩ ⟨o, none, rest, q⟩

namespace View

def state (v : View) (side : Side) : Option ConnectionState := (v.conn side).map Connection.state

def types (v : View) (side : Side) : List PacketType := (v.inbox side).map Packet.type

def handshake (v : View) : Handshake :=
  ⟨v.state .opener, v.state .acceptor, v.types .acceptor, v.types .opener⟩

def Sided (v : View) : Prop :=
  ∀ side c, v.conn side = some c → c.initiator = decide (side = .opener)

variable {v w : View} {id : UInt64} {lossy : Prop}

theorem Sided.advance (hsided : v.Sided) {side : Side} {c : Option Connection}
    {rest out : List Packet} (hc : ∀ known, c = some known →
      known.initiator = decide (side = .opener)) : (v.advance side c rest out).Sided := by
  intro s known hknown
  by_cases hs : s = side
  · subst hs
    exact hc known (by simpa [View.advance] using hknown)
  · exact hsided s known (by simpa [View.advance, hs] using hknown)

theorem Sided.step (hsided : v.Sided) (hstep : ViewStep id lossy v w) :
    w.Sided := by
  cases hstep with
  | opens => exact hsided.advance (by simp [ForwardCtx.opened])
  | calls side call c next out hconn hcall =>
    refine hsided.advance ?_
    rintro _ ⟨⟩
    exact (Connection.call_state hcall).1.trans (hsided side c hconn)
  | receives side packet rest c hinbox hconn =>
    refine hsided.advance ?_
    rintro _ ⟨⟩
    exact (c.receive_state packet).2.1.trans (hsided side c hconn)
  | registers => exact hsided.advance (by simp [ForwardCtx.registered])
  | loses => exact hsided.advance (by simp)

theorem handshakeStep (hsided : v.Sided) (hstep : ViewStep id lossy v w) :
    HandshakeStep lossy v.handshake w.handshake := by
  cases hstep with
  | opens details hconn =>
    simpa [handshake, state, types, advance, hconn, ForwardCtx.opened,
      ForwardCtx.newPacket] using HandshakeStep.opens _ _ _
  | calls side call c next out hconn hcall =>
    obtain ⟨-, hcalls⟩ := Connection.call_state hcall
    rw [hsided side c hconn] at hcalls
    cases side with
    | opener =>
      simpa [handshake, state, types, advance, hconn] using
        HandshakeStep.openerCalls _ _ _ _ _ _ hcalls
    | acceptor =>
      simpa [handshake, state, types, advance, hconn] using
        HandshakeStep.acceptorCalls _ _ _ _ _ _ hcalls
  | receives side packet rest c hinbox hconn =>
    obtain ⟨hstate, -, hanswer⟩ := c.receive_state packet
    cases side with
    | opener =>
      simpa [handshake, state, types, advance, hconn, hinbox, hstate,
        hanswer] using HandshakeStep.openerReceives _ _ _ _ _
    | acceptor =>
      simpa [handshake, state, types, advance, hconn, hinbox, hstate,
        hanswer] using HandshakeStep.acceptorReceives _ _ _ _ _
  | registers details rest hconn hinbox =>
    simpa [handshake, state, types, advance, hconn, hinbox,
      ForwardCtx.registered, ForwardCtx.newPacket] using HandshakeStep.registers _ _ _
  | loses side packet rest hinbox hconn hlossy =>
    cases side with
    | opener =>
      simpa [handshake, state, types, advance, hconn, hinbox] using
        HandshakeStep.openerLoses _ _ _ _
    | acceptor =>
      simpa [handshake, state, types, advance, hconn, hinbox] using
        HandshakeStep.acceptorLoses _ _ _ _ (hlossy rfl)

end View

structure Network.Paired (n : Network) : Prop where
  wellFormed : n.WellFormed
  sided : ∀ id, (n.view id).Sided

namespace Network.Paired

variable {n next : Network} {action : Action}

theorem init : Network.Paired network.init where
  wellFormed := Network.wellFormed_init
  sided := by
    intro id side c hconn
    simp [network, Network.view] at hconn

theorem step (hpaired : n.Paired) (hstep : n.step action = some next) : next.Paired where
  wellFormed := hpaired.wellFormed.step hstep
  sided := by
    intro id
    rcases Network.viewStep_of_step hpaired.wellFormed hstep id with
      hsame | hview
    · exact hsame ▸ hpaired.sided id
    · exact (hpaired.sided id).step hview

theorem handshake_invariant (hpaired : n.Paired) {Inv : Handshake → Prop}
    (hstep : n.step action = some next)
    (hpreserved : ∀ s t, Inv s → HandshakeStep n.Drops s t → Inv t)
    (hinv : ∀ id, Inv (n.view id).handshake) (id : UInt64) : Inv (next.view id).handshake := by
  rcases Network.viewStep_of_step hpaired.wellFormed hstep id with
    hsame | hview
  · exact hsame ▸ hinv id
  · exact hpreserved _ _ (hinv id) (View.handshakeStep (hpaired.sided id) hview)

end Network.Paired

end ContainerSSH.Agent
