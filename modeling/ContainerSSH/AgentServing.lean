/-
The loops that serve the connections opened by the agent: `serveX11`, `serveReverseForward` and
`serveReverseForwardUnix`.
-/
import ContainerSSH.AgentAllocation
import ContainerSSH.AgentChannel

namespace ContainerSSH.Agent

inductive ForwardKind where
  | x11
  | tcp
  | unix
deriving DecidableEq

inductive ChannelRequest where
  | newChannelX11 (originatorAddress : String) (originatorPort : UInt32)
  | newChannelTCP (connectedAddress : String) (connectedPort : UInt32)
      (originatorAddress : String) (originatorPort : UInt32)
  | newChannelUnix (path : String)
deriving DecidableEq

def ForwardKind.request (details : NewConnectionPayload) : ForwardKind → ChannelRequest
  | x11 => .newChannelX11 details.originatorAddress details.originatorPort
  | tcp => .newChannelTCP details.connectedAddress details.connectedPort
      details.originatorAddress details.originatorPort
  | unix => .newChannelUnix details.connectedAddress

inductive Fate where
  | bridged (request : ChannelRequest)
  | rejected
  | unanswered (clientChannel : Option ChannelRequest)

inductive ServePoint where
  | receiving
  | checking (id : UInt64)
  | rejecting (id : UInt64)
  | opening (id : UInt64)
  | accepting (id : UInt64) (request : ChannelRequest)
  | returned
deriving DecidableEq

structure Serving where
  channel : AcceptChannel := {}
  nX11Channels : UInt32 := 0
  point : ServePoint := .receiving
  log : List (UInt64 × Fate) := []

inductive ServeAction where
  | channel (action : ChannelAction)
  | x11Channels (n : UInt32)
  | receive
  | check
  | reject
  | newChannel (succeeds : Bool)
  | accept (writeFails : Bool)

def Connection.acceptable (c : Connection) : Bool :=
  decide (c.initiator = false ∧ c.state = .waitInit)

namespace Serving

variable (kind : ForwardKind) (s : Serving)

def answer (id : UInt64) (fate : Fate) (point : ServePoint) : Serving :=
  { s with point, log := s.log ++ [(id, fate)] }

def receive : Option Serving :=
  match s.channel.loop with
  | .sending id =>
    s.channel.take.map fun channel =>
      { s with channel, point := if kind = .x11 then .checking id else .opening id }
  | _ =>
    if s.channel.ctx.channelClosed then some { s with point := .returned }
    else none

def check (id : UInt64) : Serving :=
  { s with point := if s.nX11Channels = 0 then .rejecting id else .opening id }

def reject (id : UInt64) : Serving :=
  { s with channel.ctx := s.channel.ctx.rejectConnection id }.answer id .rejected .receiving

def newChannel (id : UInt64) (c : Connection) (succeeds : Bool) : Serving :=
  if succeeds then { s with point := .accepting id (kind.request c.details) }
  else s.answer id (.unanswered none) .returned

def accept (id : UInt64) (c : Connection) (request : ChannelRequest)
    (writeFails : Bool) : Serving :=
  let called : Serving := { s with channel.ctx := s.channel.ctx.setConnection id c.accept.1 }
  if c.acceptable ∧ writeFails = false then called.answer id (.bridged request) .receiving
  else called.answer id (.unanswered (some request)) .returned

def step (action : ServeAction) : Option Serving :=
  if s.channel.panic.isSome then none
  else
    match action with
    | .channel action =>
      if action = .take then none
      else (s.channel.step action).map fun channel => { s with channel }
    | .x11Channels n => some { s with nX11Channels := n }
    | .receive => if s.point = .receiving then s.receive kind else none
    | .check =>
      match s.point with
      | .checking id => some (s.check id)
      | _ => none
    | .reject =>
      match s.point with
      | .rejecting id => some (s.reject id)
      | _ => none
    | .newChannel succeeds =>
      match s.point with
      | .opening id => (s.channel.ctx.connMap id).map fun c => s.newChannel kind id c succeeds
      | _ => none
    | .accept writeFails =>
      match s.point with
      | .accepting id request =>
        (s.channel.ctx.connMap id).map fun c => s.accept id c request writeFails
      | _ => none

end Serving

def serve (kind : ForwardKind) : TransitionSystem Serving ServeAction where
  init := {}
  step := Serving.step kind

def serveX11 : TransitionSystem Serving ServeAction := serve .x11

def serveReverseForward : TransitionSystem Serving ServeAction := serve .tcp

def serveReverseForwardUnix : TransitionSystem Serving ServeAction := serve .unix

def Fate.Answered : Fate → Prop
  | .bridged _ => True
  | .rejected => True
  | .unanswered _ => False

namespace Serving

/-- Every connection has its answer, and the loop serves until the channel is closed. -/
structure Answered (s : Serving) : Prop where
  answered : ∀ entry ∈ s.log, entry.2.Answered
  clientChannels : ∀ id request, (id, Fate.unanswered (some request)) ∉ s.log
  serving : s.point = .returned → s.channel.ctx.channelClosed = true

def acceptable (s : Serving) : Bool :=
  match s.point with
  | .accepting id _ => (s.channel.ctx.connMap id).any Connection.acceptable
  | _ => true

/-- The channel to the client opens, and `Accept` takes the connection. -/
def Succeeds (s : Serving) : ServeAction → Prop
  | .newChannel succeeds => succeeds = true
  | .accept writeFails => s.acceptable = true ∧ writeFails = false
  | _ => True

instance decidableSucceeds (s : Serving) (action : ServeAction) :
    Decidable (s.Succeeds action) := by
  induction action using ServeAction.casesOn <;> unfold Succeeds <;> infer_instance

end Serving

namespace ForwardCtx

variable {ctx next : ForwardCtx} {id : UInt64} {details : NewConnectionPayload}

structure Grows (ctx next : ForwardCtx) : Prop where
  closed : ctx.channelClosed = true → next.channelClosed = true
  known : ∀ id details, ctx.directory id = some details → next.directory id = some details

theorem Grows.refl (ctx : ForwardCtx) : Grows ctx ctx :=
  ⟨fun hclosed => hclosed, fun _ _ hid => hid⟩

theorem Grows.of_directory (hsame : next.directory = ctx.directory)
    (hclosed : next.channelClosed = ctx.channelClosed) : Grows ctx next :=
  ⟨fun h => hclosed.trans h, fun id _ hid => (congrFun hsame id).trans hid⟩

theorem grows_setConnection {c c' : Connection} (hconn : ctx.connMap id = some c)
    (hdetails : c'.details = c.details) : Grows ctx (ctx.setConnection id c') :=
  .of_directory (directory_setConnection hconn hdetails) rfl

theorem grows_rejectConnection (ctx : ForwardCtx) (id : UInt64) :
    Grows ctx (ctx.rejectConnection id) := by
  unfold rejectConnection
  split
  · exact .refl ctx
  · next c hconn =>
      have hcall : c.call .reject = some c.reject := rfl
      exact grows_setConnection hconn (call_details hcall)

theorem grows_closeConnectionImm {c : Connection} (hconn : ctx.connMap id = some c) :
    Grows ctx (ctx.closeConnectionImm id c).1 :=
  .of_directory (directory_closeConnectionImm hconn).1
    (sameChannel_closeConnectionImm ctx id c).channelClosed

theorem Registers.grows {packet : Packet} {added : ForwardCtx}
    (hregisters : Registers ctx packet added details) (hsame : next.directory = added.directory)
    (hclosed : next.channelClosed = ctx.channelClosed) : Grows ctx next := by
  refine ⟨fun h => hclosed.trans h, ?_⟩
  intro i known hknown
  rw [hsame, hregisters.directory, if_neg, hknown]
  rintro rfl
  simp [ForwardCtx.directory, hregisters.unknown] at hknown

theorem grows_newConnection {out : List Packet}
    (hopens : ctx.newConnection details = .ok (next, out)) : Grows ctx next := by
  obtain ⟨hmu, hopens⟩ := lock_bind_eq_ok.mp hopens
  dsimp only at hopens
  split_ifs at hopens with hused <;>
    rw [Except.ok.injEq, Prod.mk.injEq] at hopens <;> rw [← hopens.1]
  · exact .of_directory rfl rfl
  · refine ⟨fun h => h, ?_⟩
    intro i known hknown
    have hi : i ≠ ctx.connectionId + 1 := by
      rintro rfl
      simp [← directory_isSome, hknown] at hused
    simpa [directory, setConnection, hi] using hknown

theorem Handles.grows {packet : Packet} {out : List Packet}
    (hhandles : Handles ctx packet next out) : Grows ctx next := by
  cases hhandles with
  | ignores => exact .refl ctx
  | delivers c htype hconn | starts c htype hconn => exact grows_setConnection hconn rfl
  | acknowledges c htype hconn | closes c htype hconn | fails c htype hconn =>
    exact grows_closeConnectionImm hconn
  | leavesLocked => exact .of_directory rfl rfl
  | rejects added details htype hregisters =>
    refine hregisters.grows (directory_setConnection hregisters.connMap_self rfl) ?_
    rw [hregisters.eq]
    rfl
  | offers added details htype hregisters =>
    refine hregisters.grows rfl ?_
    rw [hregisters.eq]
    rfl
  | stops => exact ⟨fun _ => rfl, fun _ _ hid => hid⟩

theorem grows_of_step {action : EndpointAction} (hstep : ctx.step action = some next) :
    Grows ctx next := by
  cases steps_of_step hstep with
  | newConnection details next out hopens => exact grows_newConnection hopens
  | call id call c c' out hconn hcall => exact grows_setConnection hconn (call_details hcall)
  | closeImm id c hconn => exact grows_closeConnectionImm hconn
  | noMoreConnections => exact ⟨fun _ => rfl, fun _ _ hid => hid⟩
  | receive packet next out hhandle => exact (handles_of_handlePacket hhandle).grows

end ForwardCtx

namespace AcceptChannel

variable {s t : AcceptChannel}

def OffersKnown (s : AcceptChannel) : Prop :=
  ∀ id, s.loop = .registered id ∨ s.loop = .offering id ∨ s.loop = .sending id →
    (s.ctx.directory id).isSome = true

structure Advances (s t : AcceptChannel) : Prop where
  grows : s.ctx.Grows t.ctx
  offers : s.OffersKnown → t.OffersKnown

theorem OffersKnown.grow (hs : s.OffersKnown) (hgrows : s.ctx.Grows t.ctx) (hloop : ∀ id,
      t.loop = .registered id ∨ t.loop = .offering id ∨ t.loop = .sending id →
      s.loop = .registered id ∨ s.loop = .offering id ∨ s.loop = .sending id) :
    t.OffersKnown := by
  intro id hid
  obtain ⟨details, hdetails⟩ := Option.isSome_iff_exists.mp (hs id (hloop id hid))
  rw [hgrows.known id details hdetails]
  rfl

theorem Advances.of_loop (hgrows : s.ctx.Grows t.ctx) (hloop : ∀ id,
      t.loop = .registered id ∨ t.loop = .offering id ∨ t.loop = .sending id →
      s.loop = .registered id ∨ s.loop = .offering id ∨ s.loop = .sending id) : Advances s t :=
  ⟨hgrows, fun hs => hs.grow hgrows hloop⟩

theorem grows_closeChannel (s : AcceptChannel) : s.ctx.Grows s.closeChannel.ctx :=
  ⟨fun _ => rfl, fun _ _ hid => hid⟩

theorem Does.advances {action : ChannelAction} (hdoes : Does s action t) : Advances s t := by
  cases hdoes with
  | registers hloop hregister =>
    obtain ⟨details, hregisters⟩ := ForwardCtx.register_eq_some_iff.mp hregister
    refine ⟨hregisters.grows rfl (ForwardCtx.sameChannel_register hregister).channelClosed, ?_⟩
    intro _ id hid
    simp only [LoopPoint.registered.injEq, reduceCtorEq, or_false] at hid
    simp [hregisters.directory, hid]
  | passes hctx => exact .of_loop (ForwardCtx.grows_of_step hctx) fun _ hid => hid
  | rejects => exact .of_loop (ForwardCtx.grows_rejectConnection _ _) (by simp)
  | offers hloop | sends hloop => exact .of_loop (.refl _) (by simp [hloop])
  | hears => exact .of_loop (.refl _) (by simp)
  | ignores | panics | joins | callerChecks => exact .of_loop (.refl _) fun _ hid => hid
  | stops | takes => exact .of_loop (.of_directory rfl rfl) (by simp)
  | callerStops => exact .of_loop (.of_directory rfl rfl) fun _ hid => hid
  | closes => exact .of_loop (grows_closeChannel s) (by simp)
  | callerCloses => exact .of_loop (grows_closeChannel s) fun _ hid => hid

end AcceptChannel

def ServePoint.current? : ServePoint → Option UInt64
  | .checking id => some id
  | .rejecting id => some id
  | .opening id => some id
  | .accepting id _ => some id
  | .receiving => none
  | .returned => none

namespace Serving

variable {kind : ForwardKind} {s t : Serving} {action : ServeAction}

inductive Does (kind : ForwardKind) (s : Serving) : ServeAction → Serving → Prop
  | threads (action : ChannelAction) (channel : AcceptChannel) (hother : action ≠ .take)
      (hstep : s.channel.step action = some channel) :
      Does kind s (.channel action) { s with channel }
  | x11Channels (n : UInt32) : Does kind s (.x11Channels n) { s with nX11Channels := n }
  | takes (id : UInt64) (point : ServePoint)
      (hpoint : s.point = .receiving) (hloop : s.channel.loop = .sending id)
      (hnext : point = .checking id ∨ point = .opening id) : Does kind s .receive { s with
        channel.ctx.offered := s.channel.ctx.offered ++ [id]
        channel.loop := .idle
        point }
  | ends (hpoint : s.point = .receiving) (hclosed : s.channel.ctx.channelClosed = true) :
      Does kind s .receive { s with point := .returned }
  | checks (id : UInt64) (point : ServePoint) (hpoint : s.point = .checking id)
      (hnext : point = .rejecting id ∨ point = .opening id) : Does kind s .check { s with point }
  | rejects (id : UInt64) (hpoint : s.point = .rejecting id) : Does kind s .reject (s.reject id)
  | opens (id : UInt64) (c : Connection) (succeeds : Bool)
      (hpoint : s.point = .opening id) (hc : s.channel.ctx.connMap id = some c) :
      Does kind s (.newChannel succeeds) (s.newChannel kind id c succeeds)
  | accepts (id : UInt64) (c : Connection) (request : ChannelRequest)
      (writeFails : Bool) (hpoint : s.point = .accepting id request)
      (hc : s.channel.ctx.connMap id = some c) :
      Does kind s (.accept writeFails) (s.accept id c request writeFails)

theorem does_of_receive (hpoint : s.point = .receiving) (hstep : s.receive kind = some t) :
    Does kind s .receive t := by
  unfold receive at hstep
  split at hstep
  · next id hloop =>
      rw [AcceptChannel.take, hloop] at hstep
      cases hstep
      refine .takes id _ hpoint hloop ?_
      split_ifs <;> simp
  · rw [Option.ite_none_right_eq_some] at hstep
    rw [← Option.some.inj hstep.2]
    exact .ends hpoint hstep.1

theorem does_of_step (hstep : s.step kind action = some t) : Does kind s action t := by
  unfold step at hstep
  rw [Option.ite_none_left_eq_some] at hstep
  obtain ⟨halive, hstep⟩ := hstep
  cases action
  case channel action =>
    obtain ⟨hother, hstep⟩ := Option.ite_none_left_eq_some.mp hstep
    obtain ⟨channel, hchannel, rfl⟩ := Option.map_eq_some_iff.mp hstep
    exact .threads action channel hother hchannel
  case x11Channels n => exact Option.some.inj hstep ▸ .x11Channels n
  case receive =>
    obtain ⟨hidle, hstep⟩ := Option.ite_none_right_eq_some.mp hstep
    exact does_of_receive hidle hstep
  -- each of the other actions has one point at which it can run
  all_goals
    cases hpoint : s.point <;>
      simp only [hpoint, Option.some.injEq, Option.map_eq_some_iff, reduceCtorEq] at hstep
  case check.checking id =>
    refine hstep ▸ .checks id _ hpoint ?_
    split_ifs <;> simp
  case reject.rejecting id => exact hstep ▸ .rejects id hpoint
  case newChannel.opening succeeds id =>
    obtain ⟨c, hc, rfl⟩ := hstep
    exact .opens id c succeeds hpoint hc
  case accept.accepting writeFails id request =>
    obtain ⟨c, hc, rfl⟩ := hstep
    exact .accepts id c request writeFails hpoint hc

structure Sound (s : Serving) : Prop where
  offers : s.channel.OffersKnown
  current : ∀ id, s.point.current? = some id → (s.channel.ctx.directory id).isSome = true
  returned : s.point = .returned → s.channel.ctx.channelClosed = true ∨
    ∃ entry ∈ s.log, ¬ entry.2.Answered
  taken : s.channel.ctx.offered = s.log.map Prod.fst ++ s.point.current?.toList

theorem sound_init : Sound (serve kind).init where
  offers := by simp [serve, AcceptChannel.OffersKnown]
  current := by simp [serve, ServePoint.current?]
  returned := by simp [serve]
  taken := rfl

theorem isSome_of_grows {ctx next : ForwardCtx} (hgrows : ctx.Grows next)
    {id : UInt64} (hid : (ctx.directory id).isSome = true) : (next.directory id).isSome = true := by
  obtain ⟨details, hdetails⟩ := Option.isSome_iff_exists.mp hid
  rw [hgrows.known id details hdetails]
  rfl

theorem grows_accept (ctx : ForwardCtx) {id : UInt64} {c : Connection}
    (hc : ctx.connMap id = some c) : ctx.Grows (ctx.setConnection id c.accept.1) := by
  have hcall : c.call .accept = some c.accept := rfl
  exact ForwardCtx.grows_setConnection hc (ForwardCtx.call_details hcall)

theorem Sound.answer (hs : s.Sound) {ctx : ForwardCtx} (hgrows : s.channel.ctx.Grows ctx)
    (hoffered : ctx.offered = s.channel.ctx.offered) {id : UInt64}
    (hcurrent : s.point.current? = some id) {fate : Fate} {point : ServePoint}
    (hpoint : point = .receiving ∨ point = .returned ∧ ¬ fate.Answered) :
    Sound ({ s with channel.ctx := ctx }.answer id fate point) where
  offers := fun i hi => isSome_of_grows hgrows (hs.offers i hi)
  current := by
    intro i hi
    rcases hpoint with rfl | ⟨rfl, -⟩ <;> cases hi
  returned := by
    intro hreturned
    rcases hpoint with rfl | ⟨rfl, hfate⟩
    · cases hreturned
    · exact .inr ⟨(id, fate), by simp [Serving.answer], hfate⟩
  taken := by
    have htaken := hs.taken
    rw [hcurrent] at htaken
    rcases hpoint with rfl | ⟨rfl, -⟩ <;>
      simp [Serving.answer, hoffered, htaken, ServePoint.current?]

theorem Sound.step (hs : s.Sound) (hstep : s.step kind action = some t) : t.Sound := by
  have htaken : ∀ {current}, s.point.current? = current →
      s.channel.ctx.offered = s.log.map Prod.fst ++ current.toList := by
    rintro _ rfl
    exact hs.taken
  cases does_of_step hstep with
  | threads action channel hother hchannel =>
    have hadvances := (AcceptChannel.does_of_step hchannel).advances
    exact ⟨hadvances.offers hs.offers,
      fun id hid => isSome_of_grows hadvances.grows (hs.current id hid),
      fun hreturned => (hs.returned hreturned).imp_left hadvances.grows.closed,
      (AcceptChannel.offered_of_step hchannel hother).trans hs.taken⟩
  | x11Channels => exact ⟨hs.offers, hs.current, hs.returned, hs.taken⟩
  | takes id point hpoint hloop hnext =>
    have hid := hs.offers id (.inr (.inr hloop))
    refine ⟨by simp [AcceptChannel.OffersKnown], ?_, ?_, ?_⟩
    · rintro i hi
      rcases hnext with rfl | rfl <;> cases hi <;> exact hid
    · rcases hnext with rfl | rfl <;> simp
    · have hnone : s.point.current? = none := by rw [hpoint]; rfl
      rcases hnext with rfl | rfl <;> simp [htaken hnone, ServePoint.current?]
  | ends hpoint hclosed =>
    exact ⟨hs.offers, by simp [ServePoint.current?], fun _ => .inl hclosed,
      htaken (by rw [hpoint]; rfl)⟩
  | checks id point hpoint hnext =>
    have hcurrent : s.point.current? = some id := by rw [hpoint]; rfl
    refine ⟨hs.offers, ?_, ?_, ?_⟩
    · rintro i hi
      rcases hnext with rfl | rfl <;> cases hi <;> exact hs.current id hcurrent
    · rcases hnext with rfl | rfl <;> simp
    · rcases hnext with rfl | rfl <;> exact htaken hcurrent
  | rejects id hpoint =>
    exact hs.answer (ForwardCtx.grows_rejectConnection _ id)
      (s.channel.ctx.sameChannel_rejectConnection id).offered (by rw [hpoint]; rfl) (.inl rfl)
  | opens id c succeeds hpoint =>
    have hcurrent : s.point.current? = some id := by rw [hpoint]; rfl
    cases succeeds with
    | true =>
      refine ⟨hs.offers, ?_, by simp [newChannel], htaken hcurrent⟩
      rintro i ⟨⟩
      exact hs.current id hcurrent
    | false => exact hs.answer (.refl _) rfl hcurrent (.inr ⟨rfl, fun h => h⟩)
  | accepts id c request writeFails hpoint hc =>
    have hcurrent : s.point.current? = some id := by rw [hpoint]; rfl
    unfold accept
    split_ifs
    · exact hs.answer (grows_accept _ hc) rfl hcurrent (.inl rfl)
    · exact hs.answer (grows_accept _ hc) rfl hcurrent (.inr ⟨rfl, fun h => h⟩)

theorem Sound.answered_iff_of_log (hs : s.Sound) {g : Prop} (hg : g) (hlog : t.log = s.log)
    (hclosed : s.channel.ctx.channelClosed = true → t.channel.ctx.channelClosed = true)
    (hpoint : t.point = .returned → s.point = .returned ∨ t.channel.ctx.channelClosed = true) :
    t.Answered ↔ s.Answered ∧ g := by
  rw [and_iff_left hg]
  constructor
  · rintro ⟨hanswered, hclient, hserving⟩
    rw [hlog] at hanswered hclient
    refine ⟨hanswered, hclient, ?_⟩
    intro hreturned
    rcases hs.returned hreturned with hclosed | ⟨entry, hentry, hnot⟩
    · exact hclosed
    · exact absurd (hanswered entry hentry) hnot
  · rintro ⟨hanswered, hclient, hserving⟩
    rw [← hlog] at hanswered hclient
    refine ⟨hanswered, hclient, ?_⟩
    intro hreturned
    rcases hpoint hreturned with hbefore | hafter
    · exact hclosed (hserving hbefore)
    · exact hafter

theorem answered_answer_iff (hbefore : s.point ≠ .returned) (ctx : ForwardCtx)
    (id : UInt64) {fate : Fate} {point : ServePoint}
    (hpoint : point = .receiving ∨ point = .returned ∧ ¬ fate.Answered) :
    Answered ({ s with channel.ctx := ctx }.answer id fate point) ↔ s.Answered ∧ fate.Answered := by
  constructor
  · rintro ⟨hanswered, hclient, -⟩
    simp only [Serving.answer, List.mem_append, List.mem_singleton] at hanswered hclient
    exact ⟨⟨fun entry hentry => hanswered entry (.inl hentry),
      fun i request hi => hclient i request (.inl hi),
      fun hreturned => absurd hreturned hbefore⟩, hanswered (id, fate) (.inr rfl)⟩
  · rintro ⟨⟨hanswered, hclient, -⟩, hfate⟩
    refine ⟨?_, ?_, ?_⟩
    · intro entry hentry
      simp only [Serving.answer, List.mem_append, List.mem_singleton] at hentry
      rcases hentry with hentry | rfl
      · exact hanswered entry hentry
      · exact hfate
    · intro i request hentry
      simp only [Serving.answer, List.mem_append, List.mem_singleton] at hentry
      rcases hentry with hentry | hentry
      · exact hclient i request hentry
      · rw [← (Prod.mk.inj hentry).2] at hfate
        exact hfate
    · intro hreturned
      rcases hpoint with rfl | ⟨-, hnot⟩
      · cases hreturned
      · exact absurd hfate hnot

theorem Sound.answered_step_iff (hs : s.Sound) (hstep : s.step kind action = some t) :
    t.Answered ↔ s.Answered ∧ s.Succeeds action := by
  cases does_of_step hstep with
  | threads action channel hother hchannel =>
    have hclosed := (AcceptChannel.does_of_step hchannel).advances.grows.closed
    exact hs.answered_iff_of_log trivial rfl hclosed fun h => .inl h
  | x11Channels => exact hs.answered_iff_of_log trivial rfl (fun h => h) fun h => .inl h
  | takes id point hpoint hloop hnext =>
    have hon : point ≠ .returned := by rcases hnext with rfl | rfl <;> simp
    exact hs.answered_iff_of_log trivial rfl (fun h => h) fun h => absurd h hon
  | ends hpoint hclosed =>
    exact hs.answered_iff_of_log trivial rfl (fun h => h) fun _ => .inr hclosed
  | checks id point hpoint hnext =>
    have hon : point ≠ .returned := by rcases hnext with rfl | rfl <;> simp
    exact hs.answered_iff_of_log trivial rfl (fun h => h) fun h => absurd h hon
  | rejects id hpoint => exact answered_answer_iff (by simp [hpoint]) _ id (.inl rfl)
  | opens id c succeeds hpoint =>
    cases succeeds with
    | true => exact hs.answered_iff_of_log rfl rfl (fun h => h) (by simp [newChannel])
    | false =>
      have hfate : ¬ (Fate.unanswered none).Answered := fun h => h
      have hbefore : s.point ≠ .returned := by simp [hpoint]
      have hiff := answered_answer_iff hbefore s.channel.ctx id (.inr ⟨rfl, hfate⟩)
      exact hiff.trans (and_congr_right fun _ => by simp [Fate.Answered, Succeeds])
  | accepts id c request writeFails hpoint hc =>
    have hbefore : s.point ≠ .returned := by simp [hpoint]
    have hsucceeds : s.Succeeds (.accept writeFails) ↔
        c.acceptable = true ∧ writeFails = false := by
      simp [Succeeds, acceptable, hpoint, hc]
    rw [hsucceeds]
    unfold accept
    split_ifs with hok
    · rw [and_iff_left hok]
      exact (answered_answer_iff hbefore _ id (.inl rfl)).trans (and_iff_left trivial)
    · have hfate : ¬ (Fate.unanswered (some request)).Answered := fun h => h
      rw [iff_false_right (by simp [hok])]
      intro hanswered
      exact hfate ((answered_answer_iff hbefore _ id (.inr ⟨rfl, hfate⟩)).mp hanswered).2

end Serving

/-- In every run of a loop the log has the connections taken from the channel, but for the one at
hand, and they are answered exactly if no call that opens a channel to the client and no `Accept`
has failed. -/
theorem connections_answered_iff {kind : ForwardKind} {actions : List ServeAction}
    {s : Serving} (hrun : (serve kind).run actions = some s) :
    s.channel.ctx.offered = s.log.map Prod.fst ++ s.point.current?.toList ∧
      (s.Answered ↔ (serve kind).Meets Serving.Succeeds (serve kind).init actions) := by
  have hinit : (serve kind).init.Answered :=
    ⟨List.forall_mem_nil _, by simp [serve], by simp [serve]⟩
  have hsound : s.Sound := (serve kind).runFrom_invariant
    (fun _ _ _ hs hstep => hs.step hstep) Serving.sound_init hrun
  refine ⟨hsound.taken, ?_⟩
  rw [TransitionSystem.runFrom_iff_meets (serve kind)
    (fun _ _ _ hs hstep => Serving.Sound.step hs hstep)
    (fun _ _ _ hs hstep => Serving.Sound.answered_step_iff hs hstep)
    Serving.sound_init hrun, and_iff_right hinit]

def offered (id : UInt64) (details : NewConnectionPayload) : List ServeAction :=
  [.channel (.receive (ForwardCtx.newPacket id details)), .channel .loop, .channel .loop]

def rejectedThenBridged : List ServeAction :=
  List.flatten [offered 1 {}, [.receive, .check, .reject, .x11Channels 1],
    offered 2 {}, [.receive, .check, .newChannel true, .accept false,
      .channel (.receive { type := .noMoreConnections, connectionId := 0 }),
      .channel .loop, .channel .loop, .receive]]

theorem connections_answered_x11 :
    ∃ s, serveX11.run rejectedThenBridged = some s ∧ s.point = .returned ∧
      s.Answered := by
  have hpoint : ((serve .x11).run rejectedThenBridged).map Serving.point = some .returned := by
    decide +kernel
  obtain ⟨s, hrun, hreturned⟩ := Option.map_eq_some_iff.mp hpoint
  exact ⟨s, hrun, hreturned, (connections_answered_iff hrun).2.mpr (by decide)⟩

def closedBeforeAccept : List ServeAction :=
  List.flatten [offered 1 {}, [.receive, .newChannel true,
    .channel (.receive { type := .closeConnection, connectionId := 1 }),
    .accept false], offered 2 {}]

/-- The channel to the client stays open, the loop has returned, and the packet
loop waits forever with the next connection. -/
theorem closed_connection_ends_forward : ∃ s, serveReverseForward.run closedBeforeAccept = some s ∧
      s.point = .returned ∧ s.channel.ctx.channelClosed = false ∧
      s.channel.loop = .sending 2 ∧ s.step .tcp .receive = none ∧ ¬ s.Answered := by
  refine ⟨_, rfl, rfl, rfl, rfl, rfl, ?_⟩
  rintro ⟨-, -, hserving⟩
  cases hserving rfl

end ContainerSSH.Agent
