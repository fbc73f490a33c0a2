/-
Concurrent calls of `newConnection`.
-/
import ContainerSSH.AgentEndpoint
import ContainerSSH.Records

namespace ContainerSSH.Agent

def ForwardCtx.allocate (ctx : ForwardCtx) (details : NewConnectionPayload) :
    Except Stuck (ForwardCtx × Option Packet) := do
  ctx.lock
  let id := ctx.connectionId + 1
  if (ctx.connMap id).isSome then .ok ({ ctx with connectionId := id, connMapMu := true }, none)
  else
    .ok ({ ctx.setConnection id (opened id) with
      connectionId := id
      waitGroup := ctx.waitGroup + 1 }, some (newPacket id details))

theorem ForwardCtx.newConnection_eq_allocate (ctx : ForwardCtx) (details : NewConnectionPayload) :
    ctx.newConnection details =
      (ctx.allocate details).map fun result => (result.1, result.2.toList) := by
  simp only [newConnection, allocate]
  cases hheld : ctx.connMapMu with
  | true => simp [lock, hheld, bind, Except.bind, Except.map]
  | false =>
    simp only [lock, hheld, Bool.false_eq_true, if_false]
    split_ifs <;> rfl

structure Openings where
  network : Network
  allocated : List Packet := []
  written : List Packet := []
  delivered : List Packet := []

inductive OpeningAction where
  | allocate (details : NewConnectionPayload)
  | write (index : Nat)
  | call (side : Side) (id : UInt64) (call : LocalCall)
  | deliver (side : Side)

def Packet.isOpening (packet : Packet) : Bool := decide (packet.type = .newConnection)

namespace Openings

variable (s : Openings)

def returned (side : Side) (id : UInt64) : Bool :=
  match side with
  | .opener => s.allocated.all fun packet => packet.connectionId ≠ id
  | .acceptor => true

def step : OpeningAction → Option Openings
  | .allocate details =>
    match (s.network.ctx .opener).allocate details with
    | .error _ => none
    | .ok (ctx, packet) =>
      some { s with
        network := s.network.advance .opener ctx (s.network.inbox .opener) []
        allocated := s.allocated ++ packet.toList }
  | .write index =>
    match s.allocated[index]? with
    | none => none
    | some packet =>
      some { s with
        network := s.network.advance .opener (s.network.ctx .opener)
          (s.network.inbox .opener) [packet]
        allocated := s.allocated.eraseIdx index
        written := s.written ++ [packet] }
  | .call side id call =>
    if s.returned side id then
      (s.network.step (.call side id call)).map fun network => { s with network }
    else none
  | .deliver .opener => (s.network.step (.deliver .opener)).map fun network => { s with network }
  | .deliver .acceptor =>
    (s.network.step (.deliver .acceptor)).map fun network =>
      { s with
        network
        delivered := s.delivered ++ ((s.network.inbox .acceptor).take 1).filter Packet.isOpening }

end Openings

def openings : TransitionSystem Openings OpeningAction where
  init := { network := network.init }
  step := Openings.step

def ForwardCtx.directory (ctx : ForwardCtx) (id : UInt64) :
    Option NewConnectionPayload :=
  (ctx.connMap id).map Connection.details

namespace Openings

def Opened (s : Openings) (id : UInt64) (details : NewConnectionPayload) :
    Prop :=
  ((s.network.ctx .opener).connMap id).isSome = true ∧
    ForwardCtx.newPacket id details ∈ s.allocated ++ s.written

/-- The peer registers what was opened here, and all of it once everything has arrived. -/
structure Corresponds (s : Openings) : Prop where
  registered : ∀ packet ∈ s.delivered, ∃ details,
    packet = ForwardCtx.newPacket packet.connectionId details ∧
      (s.network.ctx .acceptor).directory packet.connectionId = some details
  complete : s.allocated = [] → s.delivered = s.written → ∀ id details, s.Opened id details ↔
      (s.network.ctx .acceptor).directory id = some details

def InOrder (s : Openings) : Prop :=
  (∀ packet ∈ s.delivered, 0 < packet.connectionId.toNat) ∧ s.delivered.Pairwise fun first second =>
      first.connectionId.toNat < second.connectionId.toNat

end Openings

namespace ForwardCtx

variable {ctx next : ForwardCtx} {packet : Packet} {out : List Packet}

theorem directory_isSome (ctx : ForwardCtx) (id : UInt64) :
    (ctx.directory id).isSome = (ctx.connMap id).isSome := by
  simp [directory]

variable {c : Connection}

theorem directory_setConnection {id : UInt64} {c' : Connection}
    (hconn : ctx.connMap id = some c) (hdetails : c'.details = c.details) :
    (ctx.setConnection id c').directory = ctx.directory := by
  funext i
  by_cases hi : i = id
  · subst hi
    simp [directory, hconn, hdetails]
  · simp [directory, ctx.setConnection_of_ne c' hi]

theorem directory_closeConnectionImm {id : UInt64} (hconn : ctx.connMap id = some c) :
    (ctx.closeConnectionImm id c).1.directory = ctx.directory ∧
      (ctx.closeConnectionImm id c).1.connectionId = ctx.connectionId := by
  unfold closeConnectionImm
  cases hclose : c.closeImm with
  | none => exact ⟨rfl, rfl⟩
  | some closed =>
    have hdetails : closed.details = c.details := by rw [Connection.closeImm_eq hclose]
    exact ⟨directory_setConnection hconn hdetails, rfl⟩

theorem call_details {c' : Connection} {call : LocalCall}
    (hcall : c.call call = some (c', out)) : c'.details = c.details := by
  cases Connection.calls_of_call hcall <;> rfl

theorem Registers.directory {added : ForwardCtx} {details : NewConnectionPayload}
    (hregisters : Registers ctx packet added details) (id : UInt64) : added.directory id =
      if id = packet.connectionId then some details else ctx.directory id := by
  rw [hregisters.eq]
  by_cases hid : id = packet.connectionId
  · simp [ForwardCtx.directory, hid, registered]
  · simp [ForwardCtx.directory, hid, setConnection]

theorem Handles.directory (hhandles : Handles ctx packet next out) :
    (next.directory = ctx.directory ∧ next.connectionId = ctx.connectionId ∧
        (packet.type = .newConnection → ctx.register packet = none)) ∨
      ∃ added details, packet.type = .newConnection ∧ Registers ctx packet added details ∧
        next.directory = added.directory ∧
        next.connectionId = packet.connectionId := by
  cases hhandles with
  | ignores hnew => exact .inl ⟨rfl, rfl, hnew⟩
  | delivers c htype hconn | starts c htype hconn =>
    exact .inl ⟨directory_setConnection hconn rfl, rfl, by simp [htype]⟩
  | acknowledges c htype hconn | closes c htype hconn | fails c htype hconn =>
    obtain ⟨hdirectory, hid⟩ := directory_closeConnectionImm hconn
    exact .inl ⟨hdirectory, hid, by simp [htype]⟩
  | leavesLocked htype | stops htype => exact .inl ⟨rfl, rfl, by simp [htype]⟩
  | rejects added details htype hregisters =>
    refine .inr ⟨added, details, htype, hregisters,
      directory_setConnection hregisters.connMap_self rfl, ?_⟩
    rw [hregisters.eq]
    rfl
  | offers added details htype hregisters =>
    refine .inr ⟨added, details, htype, hregisters, rfl, ?_⟩
    rw [hregisters.eq]

theorem Handles.out_isOpening (hhandles : Handles ctx packet next out) :
    out.filter Packet.isOpening = [] := by
  cases hhandles with
  | closes => split_ifs <;> simp [Packet.isOpening, Connection.packet]
  | rejects => simp [registered, Connection.reject, Packet.isOpening, Connection.packet]
  | _ => rfl

end ForwardCtx

theorem Connection.call_out_isOpening {c next : Connection} {call : LocalCall}
    {out : List Packet} (hcall : c.call call = some (next, out)) :
    out.filter Packet.isOpening = [] := by
  rw [List.filter_eq_nil_iff]
  intro packet hmem
  simpa [Packet.isOpening] using ((Connection.call_id hcall).2 packet hmem).2.1

namespace Openings

def key (packet : Packet) : Nat := packet.connectionId.toNat

structure Tracked (s : Openings) : Prop where
  wellFormed : s.network.WellFormed
  openings : ∀ packet ∈ s.allocated ++ s.written, ∃ details,
    packet = ForwardCtx.newPacket packet.connectionId details
  opener : ∀ id, ((s.network.ctx .opener).directory id).isSome = true ↔
    id ∈ (s.allocated ++ s.written).map Packet.connectionId
  distinct : ((s.allocated ++ s.written).map Packet.connectionId).Nodup
  wire : s.written = s.delivered ++ (s.network.inbox .acceptor).filter Packet.isOpening
  latest : (s.network.ctx .acceptor).connectionId.toNat = Records.latest key 0 s.delivered
  kept : ∀ id details, (s.network.ctx .acceptor).directory id = some details ↔
      ForwardCtx.newPacket id details ∈ Records.keep key 0 s.delivered

theorem tracked_init : Tracked openings.init where
  wellFormed := Network.wellFormed_init
  openings := by simp [Agent.openings]
  opener := by simp [Agent.openings, Agent.network, ForwardCtx.directory]
  distinct := by simp [Agent.openings]
  wire := rfl
  latest := rfl
  kept := by
    simp [Agent.openings, Agent.network, ForwardCtx.directory, Records.keep]

variable {s : Openings}

inductive Does (s : Openings) : OpeningAction → Openings → Prop
  | allocates {details ctx packet} (hallocate : (s.network.ctx .opener).allocate details =
        .ok (ctx, packet)) : Does s (.allocate details) { s with
          network := s.network.advance .opener ctx (s.network.inbox .opener) []
          allocated := s.allocated ++ packet.toList }
  | writes {index packet} (hpacket : s.allocated[index]? = some packet) : Does s (.write index)
        { s with
          network := s.network.advance .opener (s.network.ctx .opener)
            (s.network.inbox .opener) [packet]
          allocated := s.allocated.eraseIdx index
          written := s.written ++ [packet] }
  | calls {side id call n} (hreturned : s.returned side id = true)
      (hnetwork : s.network.step (.call side id call) = some n) :
      Does s (.call side id call) { s with network := n }
  | deliversOpener {n} (hnetwork : s.network.step (.deliver .opener) = some n) :
      Does s (.deliver .opener) { s with network := n }
  | deliversAcceptor {n} (hnetwork : s.network.step (.deliver .acceptor) = some n) :
      Does s (.deliver .acceptor) { s with
          network := n
          delivered := s.delivered ++ ((s.network.inbox .acceptor).take 1).filter Packet.isOpening }

theorem does_of_step {t : Openings} {action : OpeningAction}
    (hstep : s.step action = some t) : Does s action t := by
  cases action with
  | allocate =>
    simp only [step] at hstep
    split at hstep <;> cases hstep
    next hallocate => exact .allocates hallocate
  | write =>
    simp only [step] at hstep
    split at hstep <;> cases hstep
    next hpacket => exact .writes hpacket
  | call =>
    obtain ⟨hreturned, hstep⟩ := Option.ite_none_right_eq_some.mp hstep
    obtain ⟨n, hnetwork, rfl⟩ := Option.map_eq_some_iff.mp hstep
    exact .calls hreturned hnetwork
  | deliver side =>
    cases side <;> obtain ⟨n, hnetwork, rfl⟩ := Option.map_eq_some_iff.mp hstep
    case opener => exact .deliversOpener hnetwork
    case acceptor => exact .deliversAcceptor hnetwork

variable {n : Network}

theorem Tracked.frame (htracked : s.Tracked) (hwf : n.WellFormed)
    (hdirectory : ∀ side, (n.ctx side).directory =
      (s.network.ctx side).directory) (hlatest : (n.ctx .acceptor).connectionId =
      (s.network.ctx .acceptor).connectionId)
    (hinbox : (n.inbox .acceptor).filter Packet.isOpening =
      (s.network.inbox .acceptor).filter Packet.isOpening) : Tracked { s with network := n } where
  wellFormed := hwf
  openings := htracked.openings
  opener := by
    intro id
    rw [hdirectory]
    exact htracked.opener id
  distinct := htracked.distinct
  wire := by rw [hinbox]; exact htracked.wire
  latest := by rw [hlatest]; exact htracked.latest
  kept := by
    intro id details
    rw [hdirectory]
    exact htracked.kept id details

theorem Tracked.call (htracked : s.Tracked) {side : Side} {id : UInt64}
    {call : LocalCall} (hstep : s.network.step (.call side id call) = some n) :
    Tracked { s with network := n } := by
  have hwf := htracked.wellFormed.step hstep
  cases Network.moves_of_step hstep with
  | call side id call c c' out hconn hcall =>
    have hopens := Connection.call_out_isOpening hcall
    have hsame := ForwardCtx.directory_setConnection hconn (ForwardCtx.call_details hcall)
    apply htracked.frame hwf
    · intro other
      by_cases hother : other = side
      · subst hother
        simpa [Network.advance] using hsame
      · simp [Network.advance, hother]
    · cases side <;> rfl
    · cases side <;> simp [Network.advance, hopens]

theorem Tracked.deliverOpener (htracked : s.Tracked)
    (hstep : s.network.step (.deliver .opener) = some n) : Tracked { s with network := n } := by
  have hwf := htracked.wellFormed.step hstep
  cases Network.moves_of_step hstep with
  | deliver side packet rest ctx out hinbox hhandle =>
    have hhandles := ForwardCtx.handles_of_handlePacket hhandle
    have hnotOpening : packet.type ≠ .newConnection := by
      intro htype
      have hhonest := htracked.wellFormed.honest .opener packet (by simp [hinbox])
      simpa using (hhonest.opening htype).1
    have hsame : ctx.directory = (s.network.ctx .opener).directory := by
      rcases hhandles.directory with ⟨hdirectory, -⟩ | ⟨_, _, htype, -⟩
      · exact hdirectory
      · exact absurd htype hnotOpening
    apply htracked.frame hwf
    · intro other
      cases other with
      | opener => simpa [Network.advance] using hsame
      | acceptor => simp [Network.advance]
    · rfl
    · simp [Network.advance, hhandles.out_isOpening]

variable {ctx : ForwardCtx} {details : NewConnectionPayload}

theorem Tracked.extend (htracked : s.Tracked) {id : UInt64} {c : Connection}
    (hwf : (s.network.advance .opener ctx (s.network.inbox .opener)
      []).WellFormed) (hfresh : (s.network.ctx .opener).connMap id = none)
    (hadded : ctx.connMap id = some c) (hsame : ∀ i, i ≠ id →
      ctx.connMap i = (s.network.ctx .opener).connMap i) : Tracked { s with
      network := s.network.advance .opener ctx (s.network.inbox .opener) []
      allocated := s.allocated ++ [ForwardCtx.newPacket id details] } := by
  have hunused : id ∉ (s.allocated ++ s.written).map Packet.connectionId := by
    rw [← htracked.opener, ForwardCtx.directory_isSome, hfresh]
    simp
  have hmoved : (s.allocated ++ [ForwardCtx.newPacket id details] ++ s.written).Perm
        (ForwardCtx.newPacket id details :: (s.allocated ++ s.written)) := by
    rw [List.append_assoc]
    exact List.perm_middle
  have hids := hmoved.map Packet.connectionId
  refine ⟨hwf, ?_, ?_, ?_, ?_, htracked.latest, htracked.kept⟩
  · intro packet hmem
    rcases List.mem_cons.mp (hmoved.mem_iff.mp hmem) with rfl | hold
    · exact ⟨details, rfl⟩
    · exact htracked.openings packet hold
  · intro i
    rw [hids.mem_iff, List.map_cons, List.mem_cons, ForwardCtx.directory_isSome]
    change (ctx.connMap i).isSome = true ↔ i = id ∨ _
    by_cases hi : i = id
    · simp [hi, hadded]
    · rw [hsame i hi, ← ForwardCtx.directory_isSome]
      simp only [hi, false_or]
      exact htracked.opener i
  · rw [hids.nodup_iff, List.map_cons, List.nodup_cons]
    exact ⟨hunused, htracked.distinct⟩
  · simpa [Network.advance] using htracked.wire

theorem Tracked.allocate (htracked : s.Tracked) {packet : Option Packet}
    (hallocate : (s.network.ctx .opener).allocate details = .ok (ctx, packet)) : Tracked { s with
      network := s.network.advance .opener ctx (s.network.inbox .opener) []
      allocated := s.allocated ++ packet.toList } := by
  have hopens : (s.network.ctx .opener).newConnection details = .ok (ctx, packet.toList) := by
    rw [ForwardCtx.newConnection_eq_allocate, hallocate]
    rfl
  obtain ⟨-, hstopped, hcases⟩ := ForwardCtx.newConnection_cases hopens
  have hrunning := hstopped.trans (htracked.wellFormed.running .opener)
  have hkeyed := htracked.wellFormed.keyed .opener
  rcases hcases with ⟨-, hmap, hnone⟩ | ⟨hfresh, hadded, hsame, hpacket⟩
  · have hwf : (s.network.advance .opener ctx (s.network.inbox .opener) []).WellFormed :=
      htracked.wellFormed.advance (fun id c hconn => hkeyed id c (hmap ▸ hconn)) hrunning
        (fun _ hmem => hmem) (by simp)
    rw [hnone, List.append_nil]
    apply htracked.frame hwf
    · intro side
      cases side with
      | opener =>
        funext id
        simp [Network.advance, ForwardCtx.directory, hmap]
      | acceptor => simp [Network.advance]
    · rfl
    · simp [Network.advance]
  · have hwf : (s.network.advance .opener ctx (s.network.inbox .opener) []).WellFormed :=
      htracked.wellFormed.advance (hkeyed.update hadded rfl hsame) hrunning
        (fun _ hmem => hmem) (by simp)
    rw [hpacket]
    exact htracked.extend hwf hfresh hadded hsame

variable {packet : Packet}

theorem Tracked.write (htracked : s.Tracked) {index : Nat}
    (hpacket : s.allocated[index]? = some packet) : Tracked { s with
      network := s.network.advance .opener (s.network.ctx .opener)
        (s.network.inbox .opener) [packet]
      allocated := s.allocated.eraseIdx index
      written := s.written ++ [packet] } := by
  obtain ⟨hindex, hget⟩ := List.getElem?_eq_some_iff.mp hpacket
  obtain ⟨details, hopening⟩ := htracked.openings packet
    (List.mem_append_left _ (hget ▸ List.getElem_mem hindex))
  have hmoved : (s.allocated.eraseIdx index ++ (s.written ++ [packet])).Perm
      (s.allocated ++ s.written) := by
    rw [← List.append_assoc]
    apply (List.perm_append_singleton _ _).trans
    rw [← hget]
    exact (List.getElem_cons_eraseIdx_perm hindex).append_right _
  have hids := hmoved.map Packet.connectionId
  refine ⟨?_, ?_, ?_, hids.nodup_iff.mpr htracked.distinct, ?_, htracked.latest, htracked.kept⟩
  · apply htracked.wellFormed.advance (htracked.wellFormed.keyed .opener)
      (htracked.wellFormed.running .opener) (fun _ hmem => hmem)
    simp only [List.mem_singleton, forall_eq]
    refine ⟨?_, fun _ => ⟨rfl, details, hopening⟩⟩
    rw [hopening]
    simp [ForwardCtx.newPacket]
  · intro other hother
    exact htracked.openings other (hmoved.mem_iff.mp hother)
  · intro id
    rw [hids.mem_iff]
    exact htracked.opener id
  · have hopens : packet.isOpening = true := by
      rw [hopening]
      rfl
    simp [Network.advance, htracked.wire, hopens]

theorem Tracked.not_record (htracked : s.Tracked)
    (hopening : packet = ForwardCtx.newPacket packet.connectionId details)
    (hdropped : (s.network.ctx .acceptor).register packet = none) :
    ¬ Records.latest key 0 s.delivered < key packet := by
  intro hrecord
  have hnewer : (s.network.ctx .acceptor).connectionId <
      packet.connectionId := by
    rw [UInt64.lt_iff_toNat_lt, htracked.latest]
    exact hrecord
  have hunknown : (s.network.ctx .acceptor).connMap packet.connectionId =
      none := by
    by_contra hknown
    obtain ⟨c, hconn⟩ := Option.ne_none_iff_exists'.mp hknown
    have hkept := (htracked.kept packet.connectionId c.details).mp
      (by simp [ForwardCtx.directory, hconn])
    have hle := Records.le_latest_of_mem key hkept
    exact absurd hrecord (not_lt_of_ge hle)
  have hregisters : ForwardCtx.Registers (s.network.ctx .acceptor) packet _
      details :=
    ⟨by rw [hopening]; rfl, hunknown, hnewer, rfl⟩
  rw [ForwardCtx.register_eq_some_iff.mpr ⟨details, hregisters⟩] at hdropped
  simp at hdropped

theorem Tracked.receive (htracked : s.Tracked) {out : List Packet}
    (hopening : packet = ForwardCtx.newPacket packet.connectionId details)
    (hhandles : ForwardCtx.Handles (s.network.ctx .acceptor) packet ctx out) :
    ctx.connectionId.toNat = Records.latest key 0 (s.delivered ++ [packet]) ∧
      ∀ id d, ctx.directory id = some d ↔ ForwardCtx.newPacket id d ∈
          Records.keep key 0 (s.delivered ++ [packet]) := by
  rw [Records.latest_append_singleton, Records.keep_append_singleton]
  have htype : packet.type = .newConnection := by
    rw [hopening]
    rfl
  rcases hhandles.directory with
    ⟨hdirectory, hid, hdropped⟩ | ⟨added, d, -, hregisters, hdirectory, hid⟩
  · have hnot := htracked.not_record hopening (hdropped htype)
    rw [if_neg hnot, if_neg hnot, List.append_nil, hid, hdirectory]
    exact ⟨htracked.latest, htracked.kept⟩
  · have hrecord : Records.latest key 0 s.delivered < key packet := by
      rw [← htracked.latest]
      exact UInt64.lt_iff_toNat_lt.mp hregisters.newer
    have hd : d = details := by
      have hpayload := hregisters.payload
      rw [hopening] at hpayload
      exact (Option.some.inj hpayload).symm
    subst hd
    rw [if_pos hrecord, if_pos hrecord, hid, hdirectory]
    refine ⟨rfl, ?_⟩
    intro i e
    rw [hregisters.directory, List.mem_append, List.mem_singleton, ← htracked.kept]
    by_cases hi : i = packet.connectionId
    · have hnone : (s.network.ctx .acceptor).directory i = none := by
        simp [ForwardCtx.directory, hi, hregisters.unknown]
      rw [hnone, hopening, hi]
      simp [ForwardCtx.newPacket, eq_comm]
    · rw [if_neg hi]
      constructor
      · exact .inl
      · rintro (hold | hnew)
        · exact hold
        · exact absurd (congrArg Packet.connectionId hnew) hi

theorem Tracked.deliverAcceptor (htracked : s.Tracked)
    (hnetwork : s.network.step (.deliver .acceptor) = some n) : Tracked { s with
      network := n
      delivered := s.delivered ++
        ((s.network.inbox .acceptor).take 1).filter Packet.isOpening } := by
  have hwf := htracked.wellFormed.step hnetwork
  cases Network.moves_of_step hnetwork with
  | deliver side packet rest ctx out hinbox hhandle =>
    have hhonest := htracked.wellFormed.honest .acceptor packet (by simp [hinbox])
    have hhandles := ForwardCtx.handles_of_handlePacket hhandle
    have hwire := htracked.wire
    rw [hinbox] at hwire
    by_cases htype : packet.type = .newConnection
    · have hopens : packet.isOpening = true := by simp [Packet.isOpening, htype]
      have htaken : ((s.network.inbox .acceptor).take 1).filter Packet.isOpening = [packet] := by
        simp [hinbox, hopens]
      obtain ⟨-, details, hopening⟩ := hhonest.opening htype
      obtain ⟨hlatest, hkept⟩ := htracked.receive hopening hhandles
      rw [htaken]
      refine ⟨hwf, htracked.openings, ?_, htracked.distinct, ?_, hlatest, hkept⟩
      · intro id
        simpa [Network.advance] using htracked.opener id
      · simp [hwire, hopens, Network.advance]
    · have hnotOpening : packet.isOpening = false := by simp [Packet.isOpening, htype]
      have htaken : ((s.network.inbox .acceptor).take 1).filter Packet.isOpening = [] := by
        simp [hinbox, hnotOpening]
      rcases hhandles.directory with ⟨hdirectory, hid, -⟩ | ⟨_, _, hnew, -⟩
      · rw [htaken, List.append_nil]
        apply htracked.frame hwf
        · intro other
          cases other with
          | opener => simp [Network.advance]
          | acceptor => simpa [Network.advance] using hdirectory
        · simpa [Network.advance] using hid
        · simp [Network.advance, hinbox, hnotOpening]
      · exact absurd hnew htype

theorem Tracked.step (htracked : s.Tracked) {action : OpeningAction}
    {t : Openings} (hstep : s.step action = some t) : t.Tracked := by
  cases does_of_step hstep with
  | allocates hallocate => exact htracked.allocate hallocate
  | writes hpacket => exact htracked.write hpacket
  | calls _ hnetwork => exact htracked.call hnetwork
  | deliversOpener hnetwork => exact htracked.deliverOpener hnetwork
  | deliversAcceptor hnetwork => exact htracked.deliverAcceptor hnetwork

theorem Tracked.of_reachable (hreach : Agent.openings.Reachable s) :
    s.Tracked :=
  hreach.invariant tracked_init fun _ _ _ htracked hstep =>
    htracked.step hstep

theorem Tracked.delivered_nodup (htracked : s.Tracked) :
    s.delivered.Nodup := by
  have hwritten : s.written.Nodup := (List.Nodup.of_map _ htracked.distinct).of_append_right
  rw [htracked.wire] at hwritten
  exact hwritten.of_append_left

theorem Tracked.delivered_opening (htracked : s.Tracked) (hmem : packet ∈ s.delivered) : ∃ details,
      packet = ForwardCtx.newPacket packet.connectionId details := by
  apply htracked.openings
  rw [htracked.wire]
  simp [hmem]

theorem Tracked.keep_eq_self_iff : Records.keep key 0 s.delivered = s.delivered ↔ s.InOrder :=
  Records.keep_eq_self_iff key 0 s.delivered

theorem Tracked.inOrder (htracked : s.Tracked) (hcorresponds : s.Corresponds) :
    s.InOrder := by
  apply Tracked.keep_eq_self_iff.mp
  apply Records.keep_eq_self_of_subset key htracked.delivered_nodup
  intro packet hmem
  obtain ⟨details, hopening, hregistered⟩ := hcorresponds.registered packet hmem
  rw [hopening]
  exact (htracked.kept _ _).mp hregistered

theorem Tracked.corresponds (htracked : s.Tracked) (horder : s.InOrder) : s.Corresponds where
  registered := by
    intro packet hmem
    obtain ⟨details, hopening⟩ := htracked.delivered_opening hmem
    refine ⟨details, hopening, (htracked.kept _ _).mpr ?_⟩
    rw [Tracked.keep_eq_self_iff.mpr horder, ← hopening]
    exact hmem
  complete := by
    intro hallocated hdelivered id details
    rw [htracked.kept, Tracked.keep_eq_self_iff.mpr horder, hdelivered, Opened,
      hallocated, List.nil_append]
    constructor
    · exact And.right
    · intro hmem
      refine ⟨?_, hmem⟩
      rw [← ForwardCtx.directory_isSome, htracked.opener, hallocated]
      exact List.mem_map_of_mem hmem

theorem not_corresponds_of_dropped {p : Packet} (hmem : p ∈ s.delivered)
    (hdropped : (s.network.ctx .acceptor).directory p.connectionId = none) : ¬ s.Corresponds := by
  intro hcorresponds
  obtain ⟨details, -, hregistered⟩ := hcorresponds.registered p hmem
  rw [hdropped] at hregistered
  simp at hregistered

end Openings

/-- The connections of the peer are those of the opener exactly as long as the
opening packets reach the wire in the order of their ids. -/
theorem corresponds_iff_inOrder {s : Openings} (hreach : openings.Reachable s) :
    s.Corresponds ↔ s.InOrder := by
  have htracked := Openings.Tracked.of_reachable hreach
  constructor
  · exact htracked.inOrder
  · exact htracked.corresponds

def overtaken : List OpeningAction :=
  [.allocate {}, .allocate {}, .write 1, .write 0, .deliver .acceptor, .deliver .acceptor]

/-- The peer drops the packet that was overtaken. -/
theorem overtaken_opening_dropped : ∃ s, openings.run overtaken = some s ∧
      (s.network.ctx .opener).directory 1 = some {} ∧ ForwardCtx.newPacket 1 {} ∈ s.delivered ∧
      (s.network.ctx .acceptor).directory 1 = none ∧ ¬ s.Corresponds := by
  refine ⟨_, rfl, rfl, by decide, rfl, ?_⟩
  exact Openings.not_corresponds_of_dropped (p := ForwardCtx.newPacket 1 {}) (by decide) rfl

def inTurn : List OpeningAction :=
  [.allocate {}, .allocate {}, .write 0, .write 0, .deliver .acceptor, .deliver .acceptor]

theorem corresponds_inTurn : ∃ s, openings.run inTurn = some s ∧ s.delivered.length = 2 ∧
      s.Corresponds := by
  refine ⟨_, rfl, rfl, (corresponds_iff_inOrder ⟨inTurn, rfl⟩).mpr ?_⟩
  exact ⟨by decide, by decide⟩

end ContainerSSH.Agent
