/-
The session channel that the server hands to a backend.
-/
import ContainerSSH.Message
import ContainerSSH.TransitionSystem

namespace ContainerSSH.SessionChannel

inductive Packet where
  | exitStatus (exitStatus : UInt32)
  | exitSignal (signal : String) (coreDumped : Bool) (errorMessage languageTag : String)
  | eof
  | close
deriving DecidableEq

inductive PacketKind where
  | exitStatus
  | exitSignal
  | eof
  | close
deriving DecidableEq

def Packet.kind : Packet → PacketKind
  | exitStatus _ => .exitStatus
  | exitSignal _ _ _ _ => .exitSignal
  | eof => .eof
  | close => .close

structure Channel where
  sentClose : Bool := false
  sent : List Packet := []

def Channel.writePacket (channel : Channel) (packet : Packet)
    (failure : Option GoError) : Channel × Option GoError :=
  if channel.sentClose then (channel, some (.plain "EOF"))
  else
    let sentClose := decide (packet.kind = .close)
    match failure with
    | some err => ({ channel with sentClose := sentClose }, some err)
    | none => (⟨sentClose, channel.sent ++ [packet]⟩, none)

structure ChannelWrapper where
  channel : Option Channel := none
  exitSent : Bool := false
  exitSignalSent : Bool := false
  closedWrite : Bool := false
  closed : Bool := false

inductive Outcome where
  | returned (err : Option GoError)
  | panicked (text : String)

/-- What a method does after it has looked at the wrapper. -/
inductive Next where
  | send (packet : Packet)
  | leave (outcome : Outcome)

namespace ChannelWrapper

variable (c : ChannelWrapper)

def guarded (text : String) (skip : Bool) (marked : ChannelWrapper)
    (packet : Packet) : ChannelWrapper × Next :=
  if c.channel.isNone then (c, .leave (.panicked text))
  else if skip then (c, .leave (.returned none))
  else (marked, .send packet)

def exitStatus (exitCode : UInt32) : ChannelWrapper × Next :=
  c.guarded "BUG: exit status sent before channel is open"
    (c.exitSent || c.closed) { c with exitSent := true } (.exitStatus exitCode)

def exitSignal (signal : String) (coreDumped : Bool)
    (errorMessage languageTag : String) : ChannelWrapper × Next :=
  c.guarded "BUG: exit signal sent before channel is open"
    (c.exitSignalSent || c.closed) { c with exitSignalSent := true }
    (.exitSignal signal coreDumped errorMessage languageTag)

def closeWrite : ChannelWrapper × Next :=
  c.guarded "BUG: channel closed for writing before channel is open"
    (c.closed || c.closedWrite) c .eof

def close : ChannelWrapper × Next :=
  c.guarded "BUG: channel closed before channel is open" false { c with closed := true } .close

def onClose : ChannelWrapper × Next := ({ c with closed := true }, .leave (.returned none))

end ChannelWrapper

inductive Method where
  | exitStatus (exitCode : UInt32)
  | exitSignal (signal : String) (coreDumped : Bool) (errorMessage languageTag : String)
  | closeWrite
  | close
  | onClose
deriving DecidableEq

def Method.enter (c : ChannelWrapper) : Method → ChannelWrapper × Next
  | exitStatus exitCode => c.exitStatus exitCode
  | exitSignal signal coreDumped errorMessage languageTag =>
    c.exitSignal signal coreDumped errorMessage languageTag
  | closeWrite => c.closeWrite
  | close => c.close
  | onClose => c.onClose

def Method.sent (err : Option GoError) : Method → Outcome
  | closeWrite => .returned err
  | close => .returned err
  | _ => .returned none

structure Session where
  wrapper : ChannelWrapper := {}
  inside : Option (Method × Next) := none
  finished : List (Method × Outcome) := []

/-- What happens next.  `accept` is the server's, before it serves requests, and
`clientCloses` the library's.  A call has to wait for the lock, and looks at the
wrapper with it; a write may fail. -/
inductive Action where
  | accept
  | call (method : Method)
  | send (failure : Option GoError)
  | unlock
  | clientCloses (failure : Option GoError)

namespace Session

variable (s : Session)

def channel : Channel := s.wrapper.channel.getD {}

def sent : List Packet := s.channel.sent

def sending : Option Packet :=
  match s.inside with
  | some (_, .send packet) => some packet
  | _ => none

def step : Action → Option Session
  | .accept =>
    if s.wrapper.channel = none then
      some { s with wrapper := { s.wrapper with channel := some {} } }
    else none
  | .call method =>
    if s.inside = none then
      let (wrapper, next) := method.enter s.wrapper
      some { s with wrapper := wrapper, inside := some (method, next) }
    else none
  | .send failure =>
    match s.inside, s.wrapper.channel with
    | some (method, .send packet), some channel =>
      let (channel, err) := channel.writePacket packet failure
      some { s with
        wrapper := { s.wrapper with channel := some channel }
        inside := some (method, .leave (method.sent err)) }
    | _, _ => none
  | .unlock =>
    match s.inside with
    | some (method, .leave outcome) =>
      some { s with inside := none, finished := s.finished ++ [(method, outcome)] }
    | _ => none
  | .clientCloses failure =>
    match s.wrapper.channel with
    | some channel =>
      some { s with
        wrapper := { s.wrapper with channel := some (channel.writePacket .close failure).1 } }
    | none => none

end Session

def sessions : TransitionSystem Session Action where
  init := {}
  step := Session.step

def ChannelWrapper.marked (c : ChannelWrapper) : PacketKind → Bool
  | .exitStatus => c.exitSent
  | .exitSignal => c.exitSignalSent
  | .eof => c.closedWrite
  | .close => c.closed

def PacketKind.isExit : PacketKind → Bool
  | exitStatus => true
  | exitSignal => true
  | _ => false

structure Marks (c : ChannelWrapper) (r : ChannelWrapper × Next) : Prop where
  channel : r.1.channel = c.channel
  closedWrite : r.1.closedWrite = c.closedWrite
  mono : ∀ kind, c.marked kind = true → r.1.marked kind = true
  exits : ∀ packet, r.2 = .send packet → packet.kind.isExit = true →
    c.marked packet.kind = false ∧ r.1.marked packet.kind = true

theorem ChannelWrapper.marks_guarded {c marked : ChannelWrapper} {text : String}
    {skip : Bool} {packet : Packet} (h : skip = false → Marks c (marked, .send packet)) :
    Marks c (c.guarded text skip marked packet) := by
  rw [guarded]
  split
  · exact ⟨rfl, rfl, fun _ => id, fun _ h => by cases h⟩
  split
  · exact ⟨rfl, rfl, fun _ => id, fun _ h => by cases h⟩
  next hskip => exact h (Bool.eq_false_iff.mpr hskip)

theorem Method.marks_enter (c : ChannelWrapper) (method : Method) : Marks c (method.enter c) := by
  cases method with
  | exitStatus | exitSignal =>
    refine ChannelWrapper.marks_guarded fun hskip => ⟨rfl, rfl, fun kind h => ?_, ?_⟩
    · cases kind <;> first | rfl | exact h
    · rintro _ ⟨⟩ -
      exact ⟨(Bool.or_eq_false_iff.mp hskip).1, rfl⟩
  | closeWrite =>
    refine ChannelWrapper.marks_guarded fun _ => ?_
    exact ⟨rfl, rfl, fun _ => id, by rintro _ ⟨⟩ ⟨⟩⟩
  | close =>
    refine ChannelWrapper.marks_guarded fun _ =>
      ⟨rfl, rfl, fun kind h => ?_, by rintro _ ⟨⟩ ⟨⟩⟩
    cases kind <;> first | rfl | exact h
  | onClose =>
    refine ⟨rfl, rfl, fun kind h => ?_, fun _ h => by cases h⟩
    cases kind <;> first | rfl | exact h

/-- What a step does to the channel, the flags and the packet to be sent. -/
inductive Does (s t : Session) : Action → Prop
  | keeps (action : Action) (hchannel : t.channel = s.channel)
      (hmarked : t.wrapper.marked = s.wrapper.marked)
      (hsending : t.sending = s.sending) (hsend : ∀ failure, action ≠ .send failure) :
      Does s t action
  | enters (method : Method) (hmarks : Marks s.wrapper (t.wrapper, (method.enter s.wrapper).2))
      (hsending : ∀ packet, t.sending = some packet →
        (method.enter s.wrapper).2 = .send packet) : Does s t (.call method)
  | sends (packet : Packet) (failure : Option GoError) (hpacket : s.sending = some packet)
      (hchannel : t.channel = (s.channel.writePacket packet failure).1)
      (hmarked : t.wrapper.marked = s.wrapper.marked)
      (hsending : t.sending = none) : Does s t (.send failure)
  | answers (failure : Option GoError)
      (hchannel : t.channel = (s.channel.writePacket .close failure).1)
      (hmarked : t.wrapper.marked = s.wrapper.marked)
      (hsending : t.sending = s.sending) : Does s t (.clientCloses failure)

variable {s t : Session} {action : Action} {kind : PacketKind}

theorem does_of_step (hstep : s.step action = some t) : Does s t action := by
  cases action with
  | accept =>
    obtain ⟨hnone, ⟨⟩⟩ := Option.ite_none_right_eq_some.mp hstep
    exact .keeps _ (by simp [Session.channel, hnone]) rfl rfl (by simp)
  | call method =>
    obtain ⟨-, ⟨⟩⟩ := Option.ite_none_right_eq_some.mp hstep
    refine .enters method (method.marks_enter s.wrapper) fun packet hpacket => ?_
    simp only [Session.sending] at hpacket
    split at hpacket <;> cases hpacket
    next heq => exact (Prod.mk.inj (Option.some.inj heq)).2
  | send failure =>
    simp only [Session.step] at hstep
    split at hstep <;> cases hstep
    next method packet channel hinside hchannel =>
      refine .sends packet failure (by simp [Session.sending, hinside]) ?_ rfl rfl
      simp [Session.channel, hchannel]
  | unlock =>
    simp only [Session.step] at hstep
    split at hstep <;> cases hstep
    next method outcome hinside =>
      exact .keeps _ rfl rfl (by simp [Session.sending, hinside]) (by simp)
  | clientCloses failure =>
    simp only [Session.step] at hstep
    split at hstep <;> cases hstep
    next channel hchannel => exact .answers failure (by simp [Session.channel, hchannel]) rfl rfl

theorem Channel.writePacket_cases (channel : Channel) (packet : Packet) (failure : Option GoError) :
    (channel.sentClose = true ∧ (channel.writePacket packet failure).1 = channel) ∨
      channel.sentClose = false ∧ (channel.writePacket packet failure).1 =
          ⟨decide (packet.kind = .close),
            if failure = none then channel.sent ++ [packet] else channel.sent⟩ := by
  rw [writePacket]
  split
  next hclosed => exact .inl ⟨hclosed, rfl⟩
  next hopen =>
    refine .inr ⟨Bool.eq_false_iff.mpr hopen, ?_⟩
    cases failure <;> rfl

def count (kind : PacketKind) (packets : List Packet) : Nat :=
  packets.countP fun packet => packet.kind = kind

/-- Each kind of packet is sent at most once, and nothing after the close. -/
structure Protocol (packets : List Packet) : Prop where
  once : ∀ kind, count kind packets ≤ 1
  last : .close ∉ packets.dropLast

theorem count_append (kind : PacketKind) (packets : List Packet) (packet : Packet) :
    count kind (packets ++ [packet]) =
      count kind packets + if packet.kind = kind then 1 else 0 := by
  simp [count]

theorem count_eq_zero_iff {packets : List Packet} :
    count kind packets = 0 ↔ ∀ packet ∈ packets, packet.kind ≠ kind := by
  simp [count]

theorem kind_eq_eof_iff {packet : Packet} : packet.kind = .eof ↔ packet = .eof := by
  cases packet <;> simp [Packet.kind]

theorem kind_eq_close_iff {packet : Packet} : packet.kind = .close ↔ packet = .close := by
  cases packet <;> simp [Packet.kind]

theorem Channel.count_writePacket (channel : Channel) (packet : Packet)
    (kind : PacketKind) (failure : Option GoError) :
    count kind (channel.writePacket packet failure).1.sent = count kind channel.sent +
        if channel.sentClose = false ∧ failure = none ∧ packet.kind = kind then 1
        else 0 := by
  rcases channel.writePacket_cases packet failure with ⟨hclosed, h⟩ | ⟨hopen, h⟩ <;>
    rw [h]
  · simp [hclosed]
  · cases failure <;> simp [hopen, count_append]

structure Once (s : Session) (kind : PacketKind) : Prop where
  unmarked : s.wrapper.marked kind = false → count kind s.sent = 0
  sending : ∀ packet, s.sending = some packet → packet.kind = kind →
    s.wrapper.marked kind = true ∧ count kind s.sent = 0
  le_one : count kind s.sent ≤ 1

theorem Once.of_count (hs : Once s kind) (hcount : count kind t.sent = count kind s.sent)
    (hmarked : t.wrapper.marked = s.wrapper.marked)
    (hsending : ∀ packet, t.sending = some packet → s.sending = some packet) : Once t kind := by
  refine ⟨?_, fun packet hpacket => ?_, ?_⟩ <;> rw [hcount]
  · rw [hmarked]
    exact hs.unmarked
  · rw [hmarked]
    exact hs.sending packet (hsending packet hpacket)
  · exact hs.le_one

theorem Session.channel_of_marks {next : Next}
    (hmarks : Marks s.wrapper (t.wrapper, next)) : t.channel = s.channel := by
  rw [channel, channel, hmarks.channel]

theorem Once.step (hkind : kind.isExit = true) (hs : Once s kind)
    (hstep : s.step action = some t) : Once t kind := by
  cases does_of_step hstep with
  | keeps _ hchannel hmarked hsending _ =>
    exact hs.of_count (by rw [Session.sent, hchannel, Session.sent]) hmarked fun _ h => hsending ▸ h
  | enters _ hmarks hsending =>
    have hsent : t.sent = s.sent := by
      rw [Session.sent, Session.channel_of_marks hmarks, Session.sent]
    refine ⟨fun hunset => ?_, fun packet hpacket hsame => ?_, ?_⟩ <;> rw [hsent]
    · refine hs.unmarked (Bool.eq_false_iff.mpr fun hset => ?_)
      exact Bool.eq_false_iff.mp hunset (hmarks.mono kind hset)
    · subst hsame
      obtain ⟨hunset, hset⟩ := hmarks.exits packet (hsending packet hpacket) hkind
      exact ⟨hset, hs.unmarked hunset⟩
    · exact hs.le_one
  | sends packet failure hpacket hchannel hmarked hsending =>
    have hcount := s.channel.count_writePacket packet kind failure
    rw [← hchannel] at hcount
    by_cases hsame : packet.kind = kind
    · obtain ⟨hset, hzero⟩ := hs.sending packet hpacket hsame
      refine ⟨fun hunset => ?_, by simp [hsending], ?_⟩
      · rw [hmarked, hset] at hunset
        cases hunset
      · rw [Session.sent] at hzero ⊢
        rw [hcount, hzero]
        split <;> decide
    · exact hs.of_count (by simpa [Session.sent, hsame] using hcount) hmarked (by simp [hsending])
  | answers failure hchannel hmarked hsending =>
    have hne : Packet.close.kind ≠ kind := by
      rintro rfl
      cases hkind
    refine hs.of_count ?_ hmarked fun _ h => hsending ▸ h
    simp [Session.sent, hchannel, Channel.count_writePacket, hne]

structure Channel.ClosesLast (channel : Channel) : Prop where
  unsent : channel.sentClose = false → .close ∉ channel.sent
  last : .close ∉ channel.sent.dropLast

theorem Channel.ClosesLast.writePacket {channel : Channel}
    (h : channel.ClosesLast) (packet : Packet) (failure : Option GoError) :
    (channel.writePacket packet failure).1.ClosesLast := by
  rcases channel.writePacket_cases packet failure with ⟨-, hw⟩ | ⟨hopen, hw⟩ <;>
    rw [hw]
  · exact h
  · have hnone := h.unsent hopen
    refine ⟨fun hother => ?_, ?_⟩
    · simp only
      split
      · rw [List.mem_append, List.mem_singleton, not_or]
        refine ⟨hnone, ?_⟩
        rintro rfl
        cases hother
      · exact hnone
    · simp only
      split
      · rwa [List.dropLast_concat]
      · exact h.last

theorem Channel.ClosesLast.count_le_one {channel : Channel}
    (h : channel.ClosesLast) : count .close channel.sent ≤ 1 := by
  rcases List.eq_nil_or_concat channel.sent with hnil | ⟨before, packet, hsent⟩
  · rw [hnil]
    exact Nat.zero_le _
  · rw [List.concat_eq_append] at hsent
    have hbefore : count .close before = 0 := by
      rw [count_eq_zero_iff]
      intro other hother hkind
      have hlast := h.last
      rw [hsent, List.dropLast_concat] at hlast
      exact hlast (kind_eq_close_iff.mp hkind ▸ hother)
    rw [hsent, count_append, hbefore]
    split <;> decide

theorem channel_of_step (hstep : s.step action = some t) : t.channel = s.channel ∨
      ∃ packet failure, t.channel = (s.channel.writePacket packet failure).1 := by
  cases does_of_step hstep with
  | keeps _ hchannel => exact .inl hchannel
  | enters _ hmarks => exact .inl (Session.channel_of_marks hmarks)
  | sends packet failure _ hchannel => exact .inr ⟨packet, failure, hchannel⟩
  | answers failure hchannel => exact .inr ⟨.close, failure, hchannel⟩

/-- The calls up to now, the one that holds the lock included. -/
def Session.calls (s : Session) : List Method :=
  s.finished.map Prod.fst ++ (s.inside.map Prod.fst).toList

/-- `CloseWrite` is called once at most while the session is not closed. -/
def OneCloseWrite (s : Session) : Action → Prop
  | .call .closeWrite => s.wrapper.closed = false → .closeWrite ∉ s.calls
  | _ => True

instance decidableOneCloseWrite (s : Session) (action : Action) :
    Decidable (OneCloseWrite s action) := by
  induction action using Action.casesOn with
  | call method => cases method <;> unfold OneCloseWrite <;> infer_instance
  | _ => unfold OneCloseWrite; infer_instance

/-- The end-of-files that were sent or are about to be. -/
def Session.eofs (s : Session) : Nat := count .eof s.sent + if s.sending = some .eof then 1 else 0

theorem Method.enter_eof {c : ChannelWrapper} {method : Method}
    (hnext : (method.enter c).2 = .send .eof) : method = .closeWrite ∧ c.closed = false := by
  cases method with
  | onClose => cases hnext
  | _ =>
    simp only [enter, ChannelWrapper.exitStatus, ChannelWrapper.exitSignal,
      ChannelWrapper.closeWrite, ChannelWrapper.close, ChannelWrapper.guarded] at hnext
    split_ifs at hnext
    all_goals simp_all

theorem mem_calls_step (hstep : s.step action = some t) (method : Method) :
    method ∈ t.calls ↔ method ∈ s.calls ∨ action = .call method := by
  cases action with
  | accept =>
    cases (Option.ite_none_right_eq_some.mp hstep).2
    simp [Session.calls]
  | call =>
    obtain ⟨hfree, ht⟩ := Option.ite_none_right_eq_some.mp hstep
    cases ht
    simp [Session.calls, hfree, eq_comm]
  | send | unlock | clientCloses =>
    simp only [Session.step] at hstep
    split at hstep <;> cases hstep
    simp_all [Session.calls]

theorem eofs_step (hstep : s.step action = some t) : t.eofs ≤ s.eofs ∨
      t.eofs ≤ s.eofs + 1 ∧ action = .call .closeWrite ∧ s.wrapper.closed = false := by
  unfold Session.eofs
  cases does_of_step hstep with
  | keeps _ hchannel _ hsending => exact .inl (by simp [Session.sent, hchannel, hsending])
  | enters method hmarks hsending =>
    rw [Session.sent, Session.channel_of_marks hmarks, Session.sent]
    split
    next heof =>
      obtain ⟨rfl, hopen⟩ := Method.enter_eof (hsending .eof heof)
      exact .inr ⟨by omega, rfl, hopen⟩
    next => exact .inl (by omega)
  | sends packet failure hpacket hchannel _ hsending =>
    rw [Session.sent, hchannel, Channel.count_writePacket, hpacket, hsending, Session.sent]
    simp only [kind_eq_eof_iff, Option.some.injEq]
    split_ifs <;> first | exact .inl (by omega) | simp_all
  | answers failure hchannel _ hsending =>
    rw [Session.sent, hchannel, Channel.count_writePacket, hsending, Session.sent]
    exact .inl (by simp [Packet.kind])

structure EofOk (s : Session) : Prop where
  once : s.eofs ≤ 1
  uncalled : .closeWrite ∉ s.calls → s.eofs = 0

theorem EofOk.step (hs : EofOk s) (hone : OneCloseWrite s action)
    (hstep : s.step action = some t) : EofOk t := by
  have hcalls := mem_calls_step hstep .closeWrite
  have hbefore := hs.once
  rcases eofs_step hstep with hle | ⟨hle, rfl, hopen⟩
  · refine ⟨by omega, fun hnot => ?_⟩
    have hzero := hs.uncalled fun hmem => hnot (hcalls.mpr (.inl hmem))
    omega
  · have hzero := hs.uncalled (hone hopen)
    exact ⟨by omega, fun hnot => absurd (hcalls.mpr (.inr rfl)) hnot⟩

/-- Each exit report at most once, nothing after the close. -/
structure Orderly (s : Session) : Prop where
  once : ∀ kind, kind.isExit = true → Once s kind
  closesLast : s.channel.ClosesLast
  closedWrite : s.wrapper.closedWrite = false

theorem Orderly.step (hs : Orderly s) (hstep : s.step action = some t) : Orderly t where
  once kind hkind := (hs.once kind hkind).step hkind hstep
  closesLast := by
    rcases channel_of_step hstep with hsame | ⟨packet, failure, hwritten⟩
    · exact hsame ▸ hs.closesLast
    · exact hwritten ▸ hs.closesLast.writePacket packet failure
  closedWrite := by
    cases does_of_step hstep with
    | keeps _ _ hmarked | sends _ _ _ _ hmarked | answers _ _ hmarked =>
      exact (congrFun hmarked .eof).trans hs.closedWrite
    | enters _ hmarks => exact hmarks.closedWrite.trans hs.closedWrite

theorem orderly_init : Orderly {} :=
  ⟨fun _ _ => ⟨fun _ => rfl, fun _ h => (by cases h), Nat.zero_le _⟩,
    ⟨fun _ => List.not_mem_nil, List.not_mem_nil⟩, rfl⟩

theorem orderly_of_run {actions : List Action} (hrun : sessions.run actions = some s) : Orderly s :=
  sessions.runFrom_invariant (fun _ _ _ hs hstep => hs.step hstep) orderly_init hrun

/-- The client is sent what the protocol allows if `CloseWrite` is called once at
most before the session is closed.  Exit status, exit signal and close go out once,
and nothing goes out after a close, in any case; and nothing keeps a `CloseWrite`
from sending. -/
theorem protocol_of_oneCloseWrite {actions : List Action} {s : Session}
    (hrun : sessions.run actions = some s) :
    (sessions.Meets OneCloseWrite {} actions → Protocol s.sent) ∧
      (∀ kind, kind ≠ .eof → count kind s.sent ≤ 1) ∧
      .close ∉ s.sent.dropLast ∧ s.wrapper.closedWrite = false := by
  have hs := orderly_of_run hrun
  have hother : ∀ kind, kind ≠ .eof → count kind s.sent ≤ 1 := by
    intro kind hkind
    cases kind with
    | exitStatus => exact (hs.once .exitStatus rfl).le_one
    | exitSignal => exact (hs.once .exitSignal rfl).le_one
    | eof => exact absurd rfl hkind
    | close => exact hs.closesLast.count_le_one
  refine ⟨fun hmeets => ⟨fun kind => ?_, hs.closesLast.last⟩, hother, hs.closesLast.last,
    hs.closedWrite⟩
  by_cases hkind : kind = .eof
  · have heof : EofOk s := sessions.runFrom_invariant_of_meets
      (fun _ _ _ hs hone hstep => hs.step hone hstep) ⟨Nat.zero_le _, fun _ => rfl⟩ hmeets hrun
    exact hkind ▸ Nat.le_trans (Nat.le_add_right _ _) heof.once
  · exact hother kind hkind

def programExit : List Action :=
  [.accept, .call (.exitStatus 0), .send none, .unlock, .call (.exitStatus 1),
    .unlock, .call .closeWrite, .send none, .unlock, .call .close, .send none,
    .clientCloses none, .unlock, .call .close, .send none, .unlock, .call .onClose, .unlock]

theorem protocol_program_exit :
    ∃ s, sessions.run programExit = some s ∧ s.sent = [.exitStatus 0, .eof, .close] ∧
      Protocol s.sent := by
  have h : (sessions.run programExit).map Session.sent =
      some [.exitStatus 0, .eof, .close] := by decide
  obtain ⟨s, hrun, hsent⟩ := Option.map_eq_some_iff.mp h
  exact ⟨s, hrun, hsent, (protocol_of_oneCloseWrite hrun).1 (by decide)⟩

/-- Two calls of `CloseWrite` send two end-of-files. -/
theorem eof_sent_twice : ∃ s, sessions.run [.accept, .call .closeWrite, .send none, .unlock,
        .call .closeWrite, .send none, .unlock] = some s ∧
      s.sent = [.eof, .eof] ∧ ¬ Protocol s.sent := by
  refine ⟨_, rfl, by decide, fun h => ?_⟩
  exact absurd (h.once .eof) (by decide)

end ContainerSSH.SessionChannel
