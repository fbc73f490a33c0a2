/-
The bytes of a connection arrive in order and without loss.
-/

import ContainerSSH.AgentHandshake
import Mathlib.Data.List.Infix

namespace ContainerSSH.Agent

def dataOf (packets : List Packet) : List UInt8 :=
  packets.flatMap fun packet => if packet.type = .data then packet.payload.data else []

@[simp]
theorem dataOf_append (xs ys : List Packet) : dataOf (xs ++ ys) = dataOf xs ++ dataOf ys :=
  List.flatMap_append ..

theorem dataOf_cons_other {packet : Packet} (htype : packet.type ≠ .data)
    (rest : List Packet) : dataOf (packet :: rest) = dataOf rest := by
  simp [dataOf, htype]

theorem dataOf_eq_nil {packets : List Packet}
    (hall : ∀ packet ∈ packets, packet.type ≠ .data) : dataOf packets = [] := by
  rw [dataOf, List.flatMap_eq_nil_iff]
  exact fun packet hmem => by simp [hall packet hmem]

def writtenBy (c : Option Connection) : List UInt8 := (c.map Connection.written).getD []

def handedTo (c : Option Connection) : List UInt8 := (c.map fun c => c.pipe.handed).getD []

def Connection.Live (c : Connection) : Prop := c.state = .waitInit ∨ c.state = .started

def Live (c : Option Connection) : Prop := ∀ known, c = some known → known.Live

@[simp]
theorem live_some {c : Connection} : Live (some c) ↔ c.Live := by
  simp [Live]

@[simp]
theorem live_none : Live none := by
  simp [Live]

structure Connection.Plumbed (c : Connection) : Prop where
  piped : c.Live → c.pipe.writerClosed = false ∧ c.pipe.readerClosed = false
  waits : c.state = .waitClose → c.closedLocally = true

structure Connection.Passes (c next : Connection) (out : List Packet)
    (received : List UInt8) : Prop where
  written : next.written = c.written ++ dataOf out
  handed : next.pipe.handed = c.pipe.handed ++ received
  live : next.Live → c.Live ∧ ∀ packet ∈ out, packet.type ≠ .closeConnection
  data : ∀ packet ∈ out, packet.type = .data → c.Live
  single : out.length ≤ 1

namespace Connection

variable {c next : Connection}

variable {out : List Packet}

theorem passes_of_answer {received : List UInt8} (hwritten : next.written = c.written)
    (hhanded : next.pipe.handed = c.pipe.handed ++ received) (hlive : next.Live → c.Live)
    (hout : ∀ packet ∈ out, packet.type = .success ∨ packet.type = .error)
    (hsingle : out.length ≤ 1) : c.Passes next out received := by
  have hother : ∀ packet ∈ out, packet.type ≠ .data ∧ packet.type ≠ .closeConnection := by
    intro packet hmem
    rcases hout packet hmem with htype | htype <;> simp [htype]
  have hdata : dataOf out = [] := dataOf_eq_nil fun packet hmem => (hother packet hmem).1
  refine ⟨by rw [hwritten, hdata, List.append_nil], hhanded, ?_, ?_, hsingle⟩
  · exact fun hnext => ⟨hlive hnext, fun packet hmem => (hother packet hmem).2⟩
  · exact fun packet hmem htype => absurd htype (hother packet hmem).1

theorem call_passes {call : LocalCall} (hcall : c.call call = some (next, out)) :
    c.Passes next out [] := by
  cases calls_of_call hcall with
  | writes data hstate =>
    constructor
    · simp [dataOf, PacketPayload.data]
    · simp
    · exact fun hlive => ⟨hlive, by simp⟩
    · exact fun _ _ _ => .inr hstate
    · simp
  | writeFails | closesAgain | fails =>
    exact passes_of_answer rfl (by simp) (fun hlive => hlive) (by simp) (by simp)
  | reads n pipe data hread =>
    obtain ⟨unread, rfl⟩ := Pipe.eq_of_read hread
    exact passes_of_answer rfl (by simp) (fun hlive => hlive) (by simp) (by simp)
  | closes hstate =>
    constructor
    · simp [dataOf, Connection.packet]
    · simp
    · simp [Live]
    · simp [Connection.packet]
    · simp
  | accepts hside hstate =>
    exact passes_of_answer rfl (by simp) (fun _ => .inl hstate)
      (by simp [Connection.packet]) (by simp)
  | rejects hside hstate =>
    exact passes_of_answer rfl (by simp) (by simp [Live]) (by simp [Connection.packet]) (by simp)

theorem call_plumbed {call : LocalCall} (hplumbed : c.Plumbed)
    (hcall : c.call call = some (next, out)) :
    next.Plumbed := by
  cases calls_of_call hcall with
  | writes => exact ⟨hplumbed.piped, hplumbed.waits⟩
  | writeFails data hstate =>
    refine ⟨fun hlive => ?_, hplumbed.waits⟩
    rcases hstate with hstate | hstate <;> simp [Live, hstate] at hlive
  | reads n pipe data hread =>
    obtain ⟨unread, rfl⟩ := Pipe.eq_of_read hread
    exact ⟨hplumbed.piped, hplumbed.waits⟩
  | closes => exact ⟨by simp [Live], fun _ => rfl⟩
  | closesAgain => exact ⟨hplumbed.piped, fun _ => rfl⟩
  | accepts hside hstate => exact ⟨fun _ => hplumbed.piped (.inl hstate), by simp⟩
  | rejects => exact ⟨by simp [Live], by simp⟩
  | fails => exact hplumbed

def received (c : Connection) (packet : Packet) : List UInt8 :=
  if packet.type = .data ∧ c.state = .started then packet.payload.data else []

theorem receive_passes (hplumbed : c.Plumbed) (packet : Packet) :
    c.Passes (c.receive packet).1 (c.receive packet).2 (c.received packet) := by
  have hcloses : ∀ {closed out}, c.closeImm = some closed →
      (∀ answer ∈ out, Packet.type answer = .success ∨ answer.type = .error) →
      out.length ≤ 1 → c.Passes closed out [] := by
    intro closed out hclose hout hsingle
    obtain rfl := closeImm_eq hclose
    exact passes_of_answer rfl (by simp) (by simp [Live]) hout hsingle
  have hself : ∀ {out}, (∀ answer ∈ out, Packet.type answer = .success ∨
      answer.type = .error) → out.length ≤ 1 → c.Passes c out [] := by
    intro out hout hsingle
    exact passes_of_answer rfl (by simp) (fun hlive => hlive) hout hsingle
  have hgetD : c.Passes (c.closeImm.getD c) [] [] := by
    cases hclose : c.closeImm with
    | none => exact hself (by simp) (by simp)
    | some => exact hcloses hclose (by simp) (by simp)
  unfold receive received
  split
  · rename_i htype
    by_cases hstate : c.state = .started
    · obtain ⟨hwriter, hreader⟩ := hplumbed.piped (.inr hstate)
      simp only [hstate, htype]
      exact passes_of_answer rfl (by simp [Pipe.write, hwriter, hreader])
        (fun _ => .inr hstate) (by simp) (by simp)
    · simp only [hstate, and_false]
      exact hself (by simp) (by simp)
  · rename_i htype
    simp only [htype]
    split
    · exact hself (by simp [Connection.packet]) (by simp)
    · rename_i closed hclose
      exact hcloses hclose (by simp [Connection.packet]) (by simp)
  · rename_i htype
    simp only [htype]
    split
    · rename_i hstate
      exact passes_of_answer rfl (by simp) (fun _ => .inl hstate) (by simp) (by simp)
    · exact hgetD
    · exact hself (by simp) (by simp)
  · rename_i htype
    simp only [htype]
    exact hgetD
  · rename_i hdata _ _ _
    rw [if_neg fun hboth => hdata hboth.1]
    exact hself (by simp) (by simp)

theorem receive_plumbed (hplumbed : c.Plumbed) (packet : Packet) :
    (c.receive packet).1.Plumbed := by
  have hcloses : ∀ {closed}, c.closeImm = some closed → closed.Plumbed := by
    intro closed hclose
    obtain rfl := closeImm_eq hclose
    exact ⟨by simp [Live], by simp⟩
  have hgetD : (c.closeImm.getD c).Plumbed := by
    cases hclose : c.closeImm with
    | none => exact hplumbed
    | some => exact hcloses hclose
  unfold receive
  split
  · split_ifs with hstate
    · obtain ⟨hwriter, hreader⟩ := hplumbed.piped (.inr hstate)
      exact ⟨fun _ => by simp [Pipe.write, hwriter, hreader], hplumbed.waits⟩
    · exact hplumbed
  · split
    · exact hplumbed
    · rename_i closed hclose
      exact hcloses hclose
  · split
    · rename_i hstate
      exact ⟨fun _ => hplumbed.piped (.inl hstate), by simp⟩
    · exact hgetD
    · exact hplumbed
  · exact hgetD
  · exact hplumbed

end Connection

structure Flow (sender receiver : Option Connection) (packets : List Packet) :
    Prop where
  inOrder : handedTo receiver <+: writtenBy sender
  complete : Live receiver → handedTo receiver ++ dataOf packets = writtenBy sender
  closeLast : packets.Pairwise fun first second =>
    first.type = .closeConnection → second.type ≠ .data
  notClosed : Live sender → ∀ packet ∈ packets, packet.type ≠ .closeConnection

namespace Flow

variable {sender receiver : Option Connection} {packets : List Packet}
  {c next : Connection} {out : List Packet} {received : List UInt8}

theorem init : Flow none none [] where
  inOrder := by simp [handedTo, writtenBy]
  complete := by simp [handedTo, writtenBy, dataOf]
  closeLast := .nil
  notClosed := by simp

theorem sends (hflow : Flow (some c) receiver packets) (hpasses : c.Passes next out received) :
    Flow (some next) receiver (packets ++ out) := by
  have hwritten : writtenBy (some next) = writtenBy (some c) ++ dataOf out := by
    simp [writtenBy, hpasses.written]
  constructor
  · rw [hwritten]
    exact hflow.inOrder.trans (List.prefix_append _ _)
  · intro hlive
    rw [dataOf_append, ← List.append_assoc, hflow.complete hlive, hwritten]
  · refine List.pairwise_append.mpr ⟨hflow.closeLast, ?_, ?_⟩
    · match out, hpasses.single with
      | [], _ => exact .nil
      | [packet], _ => exact List.pairwise_singleton _ _
    · intro first hfirst second hsecond hclose hdata
      have hlive := hpasses.data second hsecond hdata
      exact hflow.notClosed (live_some.mpr hlive) first hfirst hclose
  · intro hlive packet hmem
    obtain ⟨hold, hout⟩ := hpasses.live (live_some.mp hlive)
    rcases List.mem_append.mp hmem with hmem | hmem
    · exact hflow.notClosed (live_some.mpr hold) packet hmem
    · exact hout packet hmem

theorem keeps (hflow : Flow sender (some c) packets)
    (hpasses : c.Passes next out []) : Flow sender (some next) packets := by
  have hhanded : handedTo (some next) = handedTo (some c) := by simp [handedTo, hpasses.handed]
  refine ⟨hhanded ▸ hflow.inOrder, ?_, hflow.closeLast, hflow.notClosed⟩
  intro hlive
  rw [hhanded]
  exact hflow.complete (live_some.mpr (hpasses.live (live_some.mp hlive)).1)

variable {packet : Packet} {rest : List Packet}

theorem receives (hflow : Flow sender (some c) (packet :: rest))
    (hplumbed : c.Plumbed) (hready : c.state = .waitInit → packet.type ≠ .data) :
    Flow sender (some (c.receive packet).1) rest := by
  have hpasses := Connection.receive_passes hplumbed packet
  have hhanded : handedTo (some (c.receive packet).1) = handedTo (some c) ++ c.received packet := by
    simp [handedTo, hpasses.handed]
  have hlive_data : c.Live → c.received packet ++ dataOf rest = dataOf (packet :: rest) := by
    rintro (hstate | hstate)
    · rw [dataOf_cons_other (hready hstate)]
      simp [Connection.received, hstate]
    · simp [Connection.received, hstate, dataOf]
  refine ⟨?_, ?_, (List.pairwise_cons.mp hflow.closeLast).2, ?_⟩
  · by_cases hlive : c.Live
    · rw [← hflow.complete (live_some.mpr hlive), ← hlive_data hlive, hhanded, ← List.append_assoc]
      exact List.prefix_append _ _
    · have hnothing : c.received packet = [] := by
        simp only [Connection.Live, not_or] at hlive
        simp [Connection.received, hlive.2]
      rw [hhanded, hnothing, List.append_nil]
      exact hflow.inOrder
  · intro hlive
    have hold := (hpasses.live (live_some.mp hlive)).1
    rw [hhanded, List.append_assoc, hlive_data hold]
    exact hflow.complete (live_some.mpr hold)
  · exact fun hlive p hmem => hflow.notClosed hlive p (by simp [hmem])

theorem loses (hflow : Flow sender none (packet :: rest)) (htype : packet.type ≠ .data) :
    Flow sender none rest := by
  refine ⟨hflow.inOrder, ?_, (List.pairwise_cons.mp hflow.closeLast).2, ?_⟩
  · intro hlive
    rw [← dataOf_cons_other htype]
    exact hflow.complete hlive
  · exact fun hlive p hmem => hflow.notClosed hlive p (by simp [hmem])

theorem receiverStarts (hflow : Flow sender none packets)
    (hhanded : c.pipe.handed = []) : Flow sender (some c) packets := by
  have hsame : handedTo (some c) = handedTo none := by simp [handedTo, hhanded]
  refine ⟨hsame ▸ hflow.inOrder, fun _ => ?_, hflow.closeLast, hflow.notClosed⟩
  rw [hsame]
  exact hflow.complete live_none

theorem senderStarts (hflow : Flow none receiver packets) (hwritten : c.written = [])
    (hout : ∀ packet ∈ out, packet.type = .newConnection) :
    Flow (some c) receiver (packets ++ out) := by
  have hsame : writtenBy (some c) = writtenBy none := by simp [writtenBy, hwritten]
  have hdata : dataOf out = [] := dataOf_eq_nil fun packet hmem => by simp [hout packet hmem]
  refine ⟨hsame ▸ hflow.inOrder, ?_, ?_, ?_⟩
  · intro hlive
    rw [hsame, dataOf_append, hdata, List.append_nil]
    exact hflow.complete hlive
  · refine List.pairwise_append.mpr ⟨hflow.closeLast, ?_, ?_⟩
    · exact List.pairwise_of_forall_mem_list fun first hfirst _ _ hclose => by
        simp [hout first hfirst] at hclose
    · exact fun _ _ second hsecond _ => by simp [hout second hsecond]
  · intro _ packet hmem
    rcases List.mem_append.mp hmem with hmem | hmem
    · exact hflow.notClosed live_none packet hmem
    · simp [hout packet hmem]

theorem complete_at_close (hflow : Flow sender (some c) (packet :: rest))
    (htype : packet.type = .closeConnection) (hlive : c.Live) :
    c.pipe.handed = writtenBy sender := by
  have hafter := (List.pairwise_cons.mp hflow.closeLast).1
  have hcomplete := hflow.complete (live_some.mpr hlive)
  rw [dataOf_cons_other (by simp [htype]),
    dataOf_eq_nil fun p hmem => hafter p hmem htype, List.append_nil]
    at hcomplete
  exact hcomplete

end Flow

structure Opening (o a : Option ConnectionState) (p q : List PacketType) :
    Prop where
  unopened : o = none → a = none ∧ p = [] ∧ q = []
  unknown : a = none → p = [] ∨ p = [.newConnection] ∨
    p = [.newConnection, .closeConnection] ∨ p = [.closeConnection]
  offered : a = some .waitInit → p = [] ∨ p = [.closeConnection]
  unanswered : a = none ∨ a = some .waitInit → q = [] ∧ o ≠ some .started ∧ o ≠ some .closed
  waiting : o = some .waitInit → .closeConnection ∉ p ∧ (a ≠ none → p = [])
  answered : o = some .waitInit → ∀ type rest, q = type :: rest →
    type = .success ∨ type = .error ∨ type = .closeConnection
  accepted : o = some .waitInit → a = some .started → q ≠ []

theorem ConnectionState.after_ne_waitInit {state : ConnectionState}
    {type : PacketType} (htype : state = .waitInit →
      type = .success ∨ type = .error ∨ type = .closeConnection) :
    state.after type ≠ .waitInit := by
  cases state with
  | waitInit => rcases htype rfl with rfl | rfl | rfl <;> simp [after]
  | _ => cases type <;> simp [after]

namespace Opening

variable {o a : Option ConnectionState} {p q rest out : List PacketType}
  {state next : ConnectionState} {type : PacketType}

theorem init : Opening none none [] [] := by
  constructor <;> simp

theorem opens (h : Opening none a p q) : Opening (some .waitInit) a (p ++ [.newConnection]) q := by
  obtain ⟨rfl, rfl, rfl⟩ := h.unopened rfl
  constructor <;> simp

theorem openerCalls (h : Opening (some state) a p q) (hcalls : state.Calls true next out) :
    Opening (some next) a (p ++ out) q := by
  obtain ⟨_, _, _, _, _, _, _⟩ := h
  cases hcalls with
  | idle | writes | closes => constructor <;> grind
  | accepts hside | rejects hside => simp at hside

theorem acceptorCalls (h : Opening o (some state) p q) (hcalls : state.Calls false next out) :
    Opening o (some next) p (q ++ out) := by
  obtain ⟨_, _, _, _, _, _, _⟩ := h
  cases hcalls with
  | idle | accepts | rejects => constructor <;> grind
  | writes | closes => cases q <;> constructor <;> grind

theorem openerReceives (h : Opening (some state) a p (type :: rest)) :
    Opening (some (state.after type)) a (p ++ state.answer type) rest := by
  have hknown : a ≠ none ∧ a ≠ some .waitInit := by
    constructor <;> rintro rfl <;> simpa using (h.unanswered (by simp)).1
  have hafter : state.after type ≠ .waitInit := by
    refine ConnectionState.after_ne_waitInit ?_
    rintro rfl
    exact h.answered rfl type rest rfl
  obtain ⟨hnone, hoffered⟩ := hknown
  constructor <;> simp [hnone, hoffered, hafter]

theorem acceptorReceives (h : Opening o (some state) (type :: rest) q) :
    Opening o (some (state.after type)) rest (q ++ state.answer type) := by
  have hopened : o ≠ none := by
    rintro rfl
    simpa using h.unopened rfl
  have hnotWaiting : o ≠ some .waitInit := by
    rintro rfl
    simpa using (h.waiting rfl).2 (by simp)
  have hafter : state.after type ≠ .waitInit := by
    refine ConnectionState.after_ne_waitInit ?_
    rintro rfl
    have hclose : type = .closeConnection ∧ rest = [] := by simpa using h.offered rfl
    exact .inr (.inr hclose.1)
  constructor <;> simp [hopened, hnotWaiting, hafter]

theorem registers (h : Opening o none (.newConnection :: rest) q) :
    Opening o (some .waitInit) rest q := by
  have hrest : rest = [] ∨ rest = [.closeConnection] := by simpa using h.unknown rfl
  obtain ⟨rfl, hstarted, hclosed⟩ := h.unanswered (.inl rfl)
  have hopened : o ≠ none := by
    rintro rfl
    simpa using (h.unopened rfl).2.1
  have hwaiting : o = some .waitInit → rest = [] := by
    intro ho
    rcases hrest with hrest | rfl
    · exact hrest
    · simpa using (h.waiting ho).1
  constructor <;> simp_all

theorem acceptorLoses (h : Opening o none (type :: rest) q) : Opening o none rest q := by
  have hrest : rest = [] ∨ rest = [.closeConnection] := by
    have hpackets := h.unknown rfl
    simp only [reduceCtorEq, List.cons.injEq, false_or] at hpackets
    rcases hpackets with ⟨-, hrest⟩ | ⟨-, hrest⟩ | ⟨-, hrest⟩ <;>
      simp [hrest]
  have hopened : o ≠ none := by
    rintro rfl
    simpa using (h.unopened rfl).2.1
  refine ⟨by simp [hopened], fun _ => ?_, by simp, h.unanswered, ?_, h.answered, by simp⟩
  · rcases hrest with hrest | hrest <;> simp [hrest]
  · intro ho
    have hpackets := (h.waiting ho).1
    simp only [List.mem_cons, not_or] at hpackets
    exact ⟨hpackets.2, by simp⟩

end Opening

def Handshake.Opens (s : Handshake) : Prop := Opening s.opener s.acceptor s.toAcceptor s.toOpener

theorem Handshake.Opens.step {s t : Handshake} {lossy : Prop} (hopens : s.Opens)
    (hstep : HandshakeStep lossy s t) : t.Opens := by
  cases hstep with
  | opens => exact Opening.opens hopens
  | openerCalls state next out a p q hcalls => exact Opening.openerCalls hopens hcalls
  | acceptorCalls o state next out p q hcalls => exact Opening.acceptorCalls hopens hcalls
  | openerReceives => exact Opening.openerReceives hopens
  | acceptorReceives => exact Opening.acceptorReceives hopens
  | registers => exact Opening.registers hopens
  | openerLoses =>
    have hempty := (Opening.unopened hopens rfl).2.2
    simp at hempty
  | acceptorLoses => exact Opening.acceptorLoses hopens

namespace View

variable {v w : View} {id : UInt64} {lossy : Prop}

structure Streams (v : View) : Prop where
  flow : ∀ side, Flow (v.conn side.peer) (v.conn side) (v.inbox side)
  plumbed : ∀ side c, v.conn side = some c → c.Plumbed

theorem streams_empty (hconn : ∀ side, v.conn side = none)
    (hinbox : ∀ side, v.inbox side = []) : v.Streams where
  flow := by
    intro side
    rw [hconn, hconn, hinbox]
    exact Flow.init
  plumbed := by simp [hconn]

variable {side : Side} {rest : List Packet}

theorem Streams.advance (hstreams : v.Streams) {c : Option Connection}
    {out : List Packet} (hto : Flow (v.conn side.peer) c rest)
    (hfrom : Flow c (v.conn side.peer) (v.inbox side.peer ++ out))
    (hplumbed : ∀ known, c = some known → known.Plumbed) : (v.advance side c rest out).Streams where
  flow := by
    intro s
    cases side with
    | opener =>
      cases s with
      | opener => simpa [View.advance, Side.peer] using hto
      | acceptor => simpa [View.advance, Side.peer] using hfrom
    | acceptor =>
      cases s with
      | opener => simpa [View.advance, Side.peer] using hfrom
      | acceptor => simpa [View.advance, Side.peer] using hto
  plumbed := by
    intro s known hknown
    by_cases hs : s = side
    · exact hplumbed known (by simpa [View.advance, hs] using hknown)
    · exact hstreams.plumbed s known (by simpa [View.advance, hs] using hknown)

theorem head_not_data (hopens : v.handshake.Opens) {packet : Packet}
    {c : Connection} (hinbox : v.inbox side = packet :: rest)
    (hconn : v.conn side = some c) (hstate : c.state = .waitInit) : packet.type ≠ .data := by
  intro htype
  cases side with
  | opener =>
    have hanswer := Opening.answered hopens (by simp [handshake, state, hconn, hstate])
      packet.type (rest.map Packet.type) (by simp [handshake, types, hinbox])
    simp [htype] at hanswer
  | acceptor =>
    have hoffered := Opening.offered hopens (by simp [handshake, state, hconn, hstate])
    simp [handshake, types, hinbox, htype] at hoffered

theorem lost_not_data (hopens : v.handshake.Opens) {packet : Packet}
    (hinbox : v.inbox side = packet :: rest) (hconn : v.conn side = none) :
    packet.type ≠ .data := by
  intro htype
  cases side with
  | opener =>
    have hempty := (Opening.unopened hopens (by simp [handshake, state, hconn])).2.2
    simp [handshake, types, hinbox] at hempty
  | acceptor =>
    have hunknown := Opening.unknown hopens (by simp [handshake, state, hconn])
    simp [handshake, types, hinbox, htype] at hunknown

theorem Streams.directions (hstreams : v.Streams) {c : Option Connection}
    {packets : List Packet} (hconn : v.conn side = c) (hinbox : v.inbox side = packets) :
    Flow (v.conn side.peer) c packets ∧ Flow c (v.conn side.peer) (v.inbox side.peer) := by
  subst hconn hinbox
  exact ⟨hstreams.flow side, by simpa using hstreams.flow side.peer⟩

theorem Streams.step (hstreams : v.Streams) (hopens : v.handshake.Opens)
    (hstep : ViewStep id lossy v w) : w.Streams := by
  cases hstep with
  | opens details hconn =>
    obtain ⟨hto, hfrom⟩ := hstreams.directions hconn rfl
    refine hstreams.advance (hto.receiverStarts rfl)
      (hfrom.senderStarts rfl (by simp [ForwardCtx.newPacket])) ?_
    rintro _ ⟨⟩
    exact ⟨fun _ => ⟨rfl, rfl⟩, by simp [ForwardCtx.opened]⟩
  | calls side call c next out hconn hcall =>
    have hpasses := Connection.call_passes hcall
    obtain ⟨hto, hfrom⟩ := hstreams.directions hconn rfl
    refine hstreams.advance (hto.keeps hpasses) (hfrom.sends hpasses) ?_
    rintro _ ⟨⟩
    exact Connection.call_plumbed (hstreams.plumbed side c hconn) hcall
  | receives side packet rest c hinbox hconn =>
    have hplumbed := hstreams.plumbed side c hconn
    obtain ⟨hto, hfrom⟩ := hstreams.directions hconn hinbox
    refine hstreams.advance (hto.receives hplumbed (head_not_data hopens hinbox hconn))
      (hfrom.sends (Connection.receive_passes hplumbed packet)) ?_
    rintro _ ⟨⟩
    exact Connection.receive_plumbed hplumbed packet
  | registers details rest hconn hinbox =>
    obtain ⟨hto, hfrom⟩ := hstreams.directions hconn hinbox
    refine hstreams.advance ((hto.loses (by simp [ForwardCtx.newPacket])).receiverStarts rfl)
      (hfrom.senderStarts rfl (by simp)) ?_
    rintro _ ⟨⟩
    exact ⟨fun _ => ⟨rfl, rfl⟩, by simp [ForwardCtx.registered]⟩
  | loses side packet rest hinbox hconn =>
    obtain ⟨hto, hfrom⟩ := hstreams.directions hconn hinbox
    exact hstreams.advance (hto.loses (lost_not_data hopens hinbox hconn))
      (by simpa using hfrom) (by simp)

end View

structure Streaming (n : Network) : Prop where
  paired : n.Paired
  opens : ∀ id, (n.view id).handshake.Opens
  streams : ∀ id, (n.view id).Streams

namespace Streaming

variable {n next : Network} {action : Action}

theorem init : Streaming network.init where
  paired := Network.Paired.init
  opens := fun _ => Opening.init
  streams := fun _ => View.streams_empty (fun _ => rfl) (fun _ => rfl)

theorem step (hstreaming : Streaming n) (hstep : n.step action = some next) : Streaming next where
  paired := hstreaming.paired.step hstep
  opens := hstreaming.paired.handshake_invariant hstep (fun _ _ hold => hold.step) hstreaming.opens
  streams := by
    intro id
    rcases Network.viewStep_of_step hstreaming.paired.wellFormed hstep id with
      hsame | hview
    · exact hsame ▸ hstreaming.streams id
    · exact (hstreaming.streams id).step (hstreaming.opens id) hview

theorem of_reachable (hreach : network.Reachable n) : Streaming n :=
  hreach.invariant init fun _ _ _ hstreaming hstep => hstreaming.step hstep

end Streaming

/-- What a side is handed is the start of what its peer has written. -/
def Network.StreamsInOrder (n : Network) : Prop :=
  ∀ side id, handedTo ((n.ctx side).connMap id) <+: writtenBy ((n.ctx side.peer).connMap id)

/-- A close is handled only after everything the peer has written was handed over. -/
def Network.CloseIsComplete (n : Network) : Prop :=
  ∀ side packet rest c next, n.inbox side = packet :: rest → packet.type = .closeConnection →
    (n.ctx side).connMap packet.connectionId = some c →
    c.closedLocally = false → c.state ≠ .closed → n.step (.deliver side) = some next →
    ∃ closed, (next.ctx side).connMap packet.connectionId = some closed ∧ closed.state = .closed ∧
      closed.pipe.handed = writtenBy ((next.ctx side.peer).connMap packet.connectionId)

theorem Connection.receive_close {c : Connection} {packet : Packet}
    (htype : packet.type = .closeConnection) (hstate : c.state ≠ .closed) :
    (c.receive packet).1.state = .closed ∧ (c.receive packet).1.pipe.handed = c.pipe.handed := by
  cases hclose : c.closeImm with
  | none => exact absurd (closeImm_eq_none_iff.mp hclose) hstate
  | some =>
    obtain rfl := closeImm_eq hclose
    simp [receive, htype, hclose]

theorem Streaming.closeIsComplete {n : Network} (hstreaming : Streaming n) :
    n.CloseIsComplete := by
  intro side packet rest c next hinbox htype hconn hlocal hstate hstep
  have hflow := (hstreaming.streams packet.connectionId).flow side
  have hplumbed := (hstreaming.streams packet.connectionId).plumbed side c hconn
  have hlive : c.Live := by
    cases hc : c.state with
    | waitInit => exact .inl hc
    | started => exact .inr hc
    | waitClose => simp [hplumbed.waits hc] at hlocal
    | closed => exact absurd hc hstate
  simp only [Network.view, hconn, hinbox, packetsOf_cons_self] at hflow
  have hcomplete := hflow.complete_at_close htype hlive
  have hpeer : side.peer ≠ side := by cases side <;> simp [Side.peer]
  cases Network.moves_of_step hstep with
  | deliver _ other others ctx out hother hhandle =>
    rw [hinbox] at hother
    obtain ⟨rfl, rfl⟩ := hother
    obtain ⟨hnext, -, -⟩ := ForwardCtx.handlePacket_known hconn (by simp [htype]) hhandle
    obtain ⟨hclosed, hhanded⟩ := c.receive_close htype hstate
    refine ⟨(c.receive packet).1, ?_, hclosed, ?_⟩
    · simpa [Network.advance] using hnext
    · simpa [Network.advance, hpeer, hhanded] using hcomplete

/-- In every reachable state the bytes of every connection and direction arrive
in order, and the close of a peer arrives after all that it has written. -/
theorem streams_intact {n : Network} (hreach : network.Reachable n) :
    n.StreamsInOrder ∧ n.CloseIsComplete := by
  have hstreaming := Streaming.of_reachable hreach
  refine ⟨?_, hstreaming.closeIsComplete⟩
  intro side id
  exact ((hstreaming.streams id).flow side).inOrder

def closingRun : List Action :=
  [.newConnection forwardedPort, .deliver .acceptor, .call .acceptor 1 .accept, .deliver .opener,
    .call .opener 1 (.write [104, 105]), .deliver .acceptor, .call .opener 1 .close]

theorem streams_intact_closing : ∃ n, network.run closingRun = some n ∧
      handedTo ((n.ctx .acceptor).connMap 1) = [104, 105] ∧
      (n.StreamsInOrder ∧ n.CloseIsComplete) :=
  ⟨_, rfl, rfl, streams_intact ⟨closingRun, rfl⟩⟩

end ContainerSSH.Agent
