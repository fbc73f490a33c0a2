/-
The two locks of forwarding through the proxy are taken in both orders.
-/
import ContainerSSH.Mutexes
import ContainerSSH.ProxyForwarding

namespace ContainerSSH.SSHProxy

open SSHServer

inductive Lock where
  | server
  | forward (id : String)

def RequestPoint.waits (id : String) : RequestPoint → Option Lock
  | .lockServer _ => some .server
  | .lockForward _ _ => some (.forward id)
  | _ => none

def ChannelPoint.waits (id : String) : ChannelPoint → Option Lock
  | .lockForward _ _ => some (.forward id)
  | .lockServer _ _ _ => some .server
  | _ => none

def State.holder (s : State) : Lock → Option Thread
  | .server => s.lock
  | .forward id => (s.connections id).bind Connection.forwardMu

def State.waits (s : State) : Thread → Option Lock
  | .requests id => (s.connections id).bind fun c => c.request.waits id
  | .channels id => (s.connections id).bind fun c => c.channel.waits id

def Action.actor : Action → Option Thread
  | .request id _ => some (.requests id)
  | .lockServer id => some (.requests id)
  | .lockForward id => some (.requests id)
  | .sent id _ => some (.requests id)
  | .unlockServer id => some (.requests id)
  | .newChannel id _ => some (.channels id)
  | .lockForChannel id => some (.channels id)
  | .drawChannelID id => some (.channels id)
  | .opened id _ => some (.channels id)
  | .accepted id _ => some (.channels id)
  | _ => none

/-- Two threads each hold one of the two locks and wait for the other. -/
def LockCycle (s : State) : Prop :=
  ∃ thread other id, s.holder .server = some thread ∧ s.waits thread = some (.forward id) ∧
    s.holder (.forward id) = some other ∧ s.waits other = some .server

section Laws

variable {s t : State} {action : Action}

theorem holder_of_waits (hstep : s.step action = some t) {thread : Thread}
    {lock : Lock} (hactor : action.actor = some thread)
    (hwaits : s.waits thread = some lock) : s.holder lock = none := by
  cases does_of_step hstep with
  | connect | clientOpens | x11Request | directStreamLocal => cases hactor
  | request id c hc request hpoint | sent id c hc request handler hpoint
  | unlockServer id c hc answer hpoint =>
    cases hactor
    simp [State.waits, hc, hpoint, RequestPoint.waits] at hwaits
  | lockServer id c hc request hpoint hlock
  | drawChannelID id c hc newChannel call handler hpoint hlock =>
    cases hactor
    rw [State.waits, hc, Option.bind_some, hpoint] at hwaits
    cases hwaits
    exact hlock
  | newChannel id c hc newChannel hpoint | opened id c hc newChannel call channelID hpoint
  | accepted id c hc newChannel call client hpoint =>
    cases hactor
    simp [State.waits, hc, hpoint, ChannelPoint.waits] at hwaits
  | lockForward id c hc request handler hpoint hfree
  | lockForChannel id c hc newChannel call hpoint hfree =>
    cases hactor
    rw [State.waits, hc, Option.bind_some, hpoint] at hwaits
    cases hwaits
    simp [State.holder, hc, hfree]

inductive Passes (actor : Option Thread) : Option Thread → Option Thread → Prop where
  | same (holder : Option Thread) : Passes actor holder holder
  | takes (thread : Thread) (hactor : actor = some thread) : Passes actor none (some thread)
  | releases (thread : Thread) (hactor : actor = some thread) : Passes actor (some thread) none

theorem Passes.keeps {actor before after : Option Thread} {thread : Thread}
    (hpasses : Passes actor before after) (hholds : before = some thread)
    (hactor : actor ≠ some thread) : after = some thread := by
  cases hpasses with
  | same => exact hholds
  | takes => cases hholds
  | releases other hother =>
    cases hholds
    exact absurd hother hactor

structure Effect (actor : Option Thread) (s t : State) : Prop where
  holder : ∀ lock, Passes actor (s.holder lock) (t.holder lock)
  waits : ∀ thread, actor ≠ some thread → t.waits thread = s.waits thread

theorem Effect.of_frame {actor : Option Thread} (hlock : t.lock = s.lock)
    (hconnections : t.connections = s.connections) : Effect actor s t where
  holder := fun lock => by
    cases lock with
    | server =>
      rw [State.holder, State.holder, hlock]
      exact .same _
    | forward =>
      rw [State.holder, State.holder, hconnections]
      exact .same _
  waits := fun thread _ => by
    cases thread <;> simp only [State.waits, hconnections]

theorem Effect.of_update {actor : Option Thread} {id : String} (hlock : Passes actor s.lock t.lock)
    (hsame : ∀ other, other ≠ id → t.connections other = s.connections other)
    (hforward : Passes actor (s.holder (.forward id)) (t.holder (.forward id)))
    (hrequests : actor ≠ some (.requests id) → t.waits (.requests id) = s.waits (.requests id))
    (hchannels : actor ≠ some (.channels id) → t.waits (.channels id) = s.waits (.channels id)) :
    Effect actor s t where
  holder := fun lock => by
    cases lock with
    | server => exact hlock
    | forward other =>
      by_cases hother : other = id
      · exact hother ▸ hforward
      · simp only [State.holder, hsame other hother]
        exact .same _
  waits := fun thread hactor => by
    cases thread with
    | requests other =>
      by_cases hother : other = id
      · subst hother
        exact hrequests hactor
      · simp only [State.waits, hsame other hother]
    | channels other =>
      by_cases hother : other = id
      · subst hother
        exact hchannels hactor
      · simp only [State.waits, hsame other hother]

theorem Effect.of_set {actor : Option Thread} {id : String} {c c' : Connection}
    (hc : s.connections id = some c) (ht : t.connections = (s.setConnection id c').connections)
    (hlock : Passes actor s.lock t.lock) (hforward : Passes actor c.forwardMu c'.forwardMu)
    (hrequest : actor ≠ some (.requests id) → c'.request = c.request)
    (hchannel : actor ≠ some (.channels id) → c'.channel = c.channel) : Effect actor s t := by
  refine .of_update hlock (fun other h => ht ▸ setConnection_of_ne h) ?_ (fun h => ?_) fun h => ?_
  · simp only [State.holder, ht, hc, setConnection_self, Option.bind_some]
    exact hforward
  · simp [State.waits, ht, hc, hrequest h]
  · simp [State.waits, ht, hc, hchannel h]

theorem effect_of_connect {id metadataID : String} (connMap : ConnMap)
    (hnew : s.connections id = none) : Effect none s
      { s.setConnection id { metadataID := metadataID } with
        connMap := connMap } := by
  refine .of_update (.same _) (fun _ => setConnection_of_ne) ?_ (fun _ => ?_) fun _ => ?_
  · simp only [State.holder, hnew, setConnection_self, Option.bind_some, Option.bind_none]
    exact .same none
  · simp [State.waits, hnew, RequestPoint.waits]
  · simp [State.waits, hnew, ChannelPoint.waits]

theorem effect_of_callHandler {id : String} {c : Connection}
    {newChannel : NewChannel} {call : ClientChannel}
    (hc : s.connections id = some c) (hfree : c.forwardMu = none) :
    Effect (some (.channels id)) s (s.callHandler id c newChannel call) := by
  rw [State.callHandler]
  split
  next sshConn hhandler =>
    refine .of_set hc rfl (.same _) ?_ (fun _ => rfl) (absurd rfl ·)
    rw [hfree]
    exact .takes _ rfl
  next => exact .of_frame rfl rfl

theorem answered_forwardMu (c : Connection) (request : ForwardRequest)
    (handler : ReverseForwardHandler) (reply : Except GoError Bool) :
    (c.answered request handler reply).forwardMu = none ∧
      (c.answered request handler reply).channel = c.channel := by
  cases reply with
  | error => exact ⟨rfl, rfl⟩
  | ok ok => cases ok <;> exact ⟨rfl, rfl⟩

theorem receive_forwardMu (c : Connection) (newChannel : NewChannel) :
    (c.receive newChannel).forwardMu = c.forwardMu := by
  rw [Connection.receive]
  split <;> rfl

theorem effect_of_step (hs : s.Ok) (hstep : s.step action = some t) : Effect action.actor s t := by
  cases does_of_step hstep with
  | connect id metadataID hlock hnew => exact effect_of_connect _ hnew
  | clientOpens | x11Request | directStreamLocal => exact .of_frame rfl rfl
  | request id c hc => exact .of_set hc rfl (.same _) (.same _) (absurd rfl ·) (fun _ => rfl)
  | lockServer id c hc request hpoint hlock =>
    refine .of_set hc rfl ?_ (.same _) (absurd rfl ·) (fun _ => rfl)
    rw [hlock]
    exact .takes _ rfl
  | lockForward id c hc request handler hpoint hfree =>
    refine .of_set hc rfl (.same _) ?_ (absurd rfl ·) (fun _ => rfl)
    rw [hfree]
    exact .takes _ rfl
  | sent id c hc request handler hpoint reply =>
    obtain ⟨hreleased, hchannel⟩ := answered_forwardMu c request handler reply
    refine .of_set hc rfl (.same _) ?_ (absurd rfl ·) (fun _ => hchannel)
    rw [hreleased, ((hs.connections id c hc).of_requests (by rw [hpoint]; rfl)).1]
    exact .releases _ rfl
  | unlockServer id c hc answer hpoint =>
    have hlock : s.lock = some (.requests id) := by
      rw [hs.lock, hc, Option.any_some, hpoint]
      rfl
    refine .of_set hc rfl ?_ (.same _) (absurd rfl ·) (fun _ => rfl)
    rw [hlock]
    exact .releases _ rfl
  | newChannel id c hc newChannel =>
    refine .of_set hc rfl (.same _) ?_ (fun _ => receive_request c newChannel) (absurd rfl ·)
    rw [receive_forwardMu]
    exact .same _
  | lockForChannel id c hc newChannel call hpoint hfree => exact effect_of_callHandler hc hfree
  | drawChannelID id c hc | opened id c hc =>
    exact .of_set hc rfl (.same _) (.same _) (fun _ => rfl) (absurd rfl ·)
  | accepted id c hc newChannel call client hpoint =>
    refine .of_set hc rfl (.same _) ?_ (fun _ => rfl) (absurd rfl ·)
    rw [((hs.connections id c hc).of_channels (by rw [hpoint]; rfl)).1]
    exact .releases _ rfl

end Laws

def locks : LockSystem system Thread Lock where
  holder := State.holder
  waits := State.waits
  actor := Action.actor
  free := fun _ _ _ _ _ _ hstep hactor hwaits => holder_of_waits hstep hactor hwaits
  keeps := fun _ _ _ _ lock hs hstep hholds hactor =>
    ((effect_of_step (ok_of_reachable hs) hstep).holder lock).keeps hholds hactor
  stays := fun _ _ _ thread _ hs hstep hwaits hactor =>
    ((effect_of_step (ok_of_reachable hs) hstep).waits thread hactor).trans hwaits

def RequestPoint.WaitsForward : RequestPoint → Bool
  | .lockForward _ _ => true
  | _ => false

def ChannelPoint.WaitsServer : ChannelPoint → Bool
  | .lockServer _ _ _ => true
  | _ => false

theorem RequestPoint.waitsForward_iff {point : RequestPoint} : point.WaitsForward = true ↔
      ∃ request handler, point = .lockForward request handler := by
  cases point <;> simp [WaitsForward]

theorem ChannelPoint.waitsServer_iff {point : ChannelPoint} : point.WaitsServer = true ↔
      ∃ newChannel call handler, point = .lockServer newChannel call handler := by
  cases point <;> simp [WaitsServer]

def Connection.Crossed (c : Connection) : Prop :=
  c.request.WaitsForward = true ∧ c.channel.WaitsServer = true

/-- The two threads of a connection do not come to hold one lock each and want the other. -/
def KeepsApart (s : State) : Action → Prop
  | .lockServer id =>
    ∀ c ∈ s.connections id, (s.connMap c.metadataID).isSome = true → c.channel.WaitsServer = false
  | .lockForChannel id =>
    ∀ c ∈ s.connections id, c.reverseHandler.isSome = true → c.request.WaitsForward = false
  | _ => True

instance decidableKeepsApart (s : State) (action : Action) : Decidable (KeepsApart s action) := by
  induction action using Action.casesOn <;> unfold KeepsApart <;> infer_instance

section Cycles

variable {s t : State} {action : Action} {id : String} {c : Connection}

theorem RequestPoint.waits_forward_iff {point : RequestPoint} {other : String} :
    point.waits id = some (.forward other) ↔ id = other ∧ point.WaitsForward = true := by
  cases point <;> simp [RequestPoint.waits, RequestPoint.WaitsForward]

theorem ChannelPoint.waits_server_iff {point : ChannelPoint} :
    point.waits id = some .server ↔ point.WaitsServer = true := by
  cases point <;> simp [ChannelPoint.waits, ChannelPoint.WaitsServer]

theorem lockCycle_of_crossed (hs : s.Ok) (hc : s.connections id = some c)
    (hcrossed : c.Crossed) : LockCycle s := by
  obtain ⟨request, handler, hrequest⟩ := RequestPoint.waitsForward_iff.mp hcrossed.1
  obtain ⟨newChannel, call, handler', hchannel⟩ := ChannelPoint.waitsServer_iff.mp hcrossed.2
  refine ⟨.requests id, .channels id, id, ?_, ?_, ?_, ?_⟩
  · rw [State.holder, hs.lock, hc, Option.any_some, hrequest]
    rfl
  · rw [State.waits, hc, Option.bind_some, hrequest]
    rfl
  · rw [State.holder, hc]
    exact ((hs.connections id c hc).of_channels (by rw [hchannel]; rfl)).1
  · rw [State.waits, hc, Option.bind_some, hchannel]
    rfl

theorem lockCycle_iff (hs : s.Ok) :
    LockCycle s ↔ ∃ id c, s.connections id = some c ∧ c.Crossed := by
  constructor
  · rintro ⟨thread, other, id, hserver, hwaits, hholder, hother⟩
    obtain ⟨c, hc, hmu⟩ := Option.bind_eq_some_iff.mp hholder
    refine ⟨id, c, hc, ?_⟩
    -- Only the goroutine of the requests holds the server's lock from one step
    -- to the next.
    cases thread with
    | channels requester => exact absurd hserver (hs.requests requester)
    | requests requester =>
      obtain ⟨d, hd, hpoint⟩ := Option.bind_eq_some_iff.mp hwaits
      obtain ⟨rfl, hforward⟩ := RequestPoint.waits_forward_iff.mp hpoint
      rw [hc] at hd
      cases hd
      obtain ⟨request, handler, hrequest⟩ := RequestPoint.waitsForward_iff.mp hforward
      rcases ((hs.connections requester c hc).forwardMu other).mp hmu with
        ⟨-, hholds⟩ | ⟨rfl, -⟩
      · rw [hrequest] at hholds
        cases hholds
      · rw [State.waits, hc] at hother
        exact ⟨hforward, ChannelPoint.waits_server_iff.mp hother⟩
  · rintro ⟨id, c, hc, hcrossed⟩
    exact lockCycle_of_crossed hs hc hcrossed

theorem LockCycle.deadlocked (hcycle : LockCycle s) :
    ∃ thread other id, locks.Deadlocked {thread, other} s ∧
      s.holder .server = some thread ∧ s.waits thread = some (.forward id) ∧
      s.holder (.forward id) = some other ∧ s.waits other = some .server := by
  obtain ⟨thread, other, id, hserver, hwaits, hholder, hother⟩ := hcycle
  refine ⟨thread, other, id, ?_, hserver, hwaits, hholder, hother⟩
  rintro member (rfl | rfl)
  · exact ⟨.forward id, hwaits, other, .inr rfl, hholder⟩
  · exact ⟨.server, hother, thread, .inl rfl, hserver⟩

theorem LockCycle.runFrom (hcycle : LockCycle s) (hs : system.Reachable s)
    {more : List Action} (hrun : system.runFrom s more = some t) : LockCycle t := by
  obtain ⟨thread, other, id, hdead, hserver, hwaits, hholder, hother⟩ := hcycle.deadlocked
  have hstill := hdead.runFrom hs hrun
  refine ⟨thread, other, id, ?_, ?_, ?_, ?_⟩
  · exact hstill.holder thread (.inl rfl) .server hserver
  · exact hstill.waits thread (.inl rfl) (.forward id) hwaits
  · exact hstill.holder other (.inr rfl) (.forward id) hholder
  · exact hstill.waits other (.inr rfl) .server hother

theorem LockCycle.step (hcycle : LockCycle s) (hs : system.Reachable s)
    (hstep : s.step action = some t) : LockCycle t := by
  have hrun : system.runFrom s [action] = some t := system.runFrom_cons_eq_some.mpr ⟨t, hstep, rfl⟩
  exact hcycle.runFrom hs hrun

theorem LockCycle.nextChannelID_step (hcycle : LockCycle s)
    (hstep : s.step action = some t) : t.nextChannelID = s.nextChannelID := by
  have hlocked : s.lock ≠ none := by
    obtain ⟨thread, other, id, hserver, -⟩ := hcycle
    intro hfree
    rw [State.holder, hfree] at hserver
    cases hserver
  cases does_of_step hstep with
  | clientOpens hlock => exact absurd hlock hlocked
  | drawChannelID id c hc newChannel call handler hpoint hlock => exact absurd hlock hlocked
  | lockForChannel =>
    rw [State.callHandler]
    split <;> rfl
  | _ => rfl

theorem LockCycle.nextChannelID (hcycle : LockCycle s)
    (hs : system.Reachable s) {more : List Action} (hrun : system.runFrom s more = some t) :
    t.nextChannelID = s.nextChannelID := by
  have hstep : ∀ r a t, system.Reachable r → (LockCycle r ∧ r.nextChannelID = s.nextChannelID) →
        system.step r a = some t → LockCycle t ∧ t.nextChannelID = s.nextChannelID := by
    rintro r a t hr ⟨hcycle, hsame⟩ hstep
    exact ⟨hcycle.step hr hstep, (hcycle.nextChannelID_step hstep).trans hsame⟩
  exact (hs.runFrom_invariant hstep ⟨hcycle, rfl⟩ hrun).2

theorem crossed_of_set {c' : Connection} (ht : t.connections = (s.setConnection id c').connections)
    (hnot : ¬ c'.Crossed) (hcrossed : ∃ other d, t.connections other = some d ∧ d.Crossed) :
    ∃ other d, s.connections other = some d ∧ d.Crossed := by
  obtain ⟨other, d, hd, hcrossed⟩ := hcrossed
  rw [ht] at hd
  by_cases hother : other = id
  · subst hother
    rw [setConnection_self, Option.some.injEq] at hd
    exact absurd (hd ▸ hcrossed) hnot
  · rw [setConnection_of_ne hother] at hd
    exact ⟨other, d, hd, hcrossed⟩

theorem waitsForward_lookUp {connMap : ConnMap} {connectionID : String} {request : ForwardRequest} :
    (lookUp connMap connectionID request).WaitsForward = (connMap connectionID).isSome := by
  rw [lookUp]
  split
  next hnone => simp [hnone, RequestPoint.WaitsForward]
  next conn hconn => simp [hconn, RequestPoint.WaitsForward]

theorem crossed_of_keepsApart (happart : KeepsApart s action) (hstep : s.step action = some t)
    (hcrossed : ∃ other d, t.connections other = some d ∧ d.Crossed) :
    ∃ other d, s.connections other = some d ∧ d.Crossed := by
  cases does_of_step hstep with
  | connect | request | lockForward | unlockServer =>
    refine crossed_of_set rfl (fun h => ?_) hcrossed
    exact Bool.false_ne_true h.1
  | clientOpens | x11Request | directStreamLocal => exact hcrossed
  | lockServer id c hc =>
    refine crossed_of_set rfl (fun h => ?_) hcrossed
    have hfound : (s.connMap c.metadataID).isSome = true := waitsForward_lookUp.symm.trans h.1
    have hnot := happart c hc hfound
    exact Bool.false_ne_true (hnot.symm.trans h.2)
  | sent id c hc request handler hpoint reply =>
    refine crossed_of_set rfl (fun h => ?_) hcrossed
    have hpoint : (c.answered request handler reply).request.WaitsForward =
        false := by
      cases reply with
      | error => rfl
      | ok ok => cases ok <;> rfl
    exact Bool.false_ne_true (hpoint.symm.trans h.1)
  | newChannel id c hc newChannel hpoint =>
    refine crossed_of_set rfl (fun h => ?_) hcrossed
    have hpoint : (c.receive newChannel).channel.WaitsServer = false := by
      rw [Connection.receive]
      split
      next => rfl
      next => exact hpoint ▸ rfl
    exact Bool.false_ne_true (hpoint.symm.trans h.2)
  | lockForChannel id c hc =>
    rw [State.callHandler] at hcrossed
    split at hcrossed
    next sshConn hhandler =>
      refine crossed_of_set rfl (fun h => ?_) hcrossed
      have hnot := happart c hc (by rw [hhandler]; rfl)
      exact Bool.false_ne_true (hnot.symm.trans h.1)
    next => exact hcrossed
  | drawChannelID | opened | accepted =>
    refine crossed_of_set rfl (fun h => ?_) hcrossed
    exact Bool.false_ne_true h.2

theorem keepsApart_of_not_crossed (hs : s.Ok) (hstep : s.step action = some t)
    (hnot : ¬ ∃ other d, t.connections other = some d ∧ d.Crossed) : KeepsApart s action := by
  cases does_of_step hstep with
  | lockServer id c hc =>
    intro d hd hfound
    rw [hc, Option.mem_some_iff] at hd
    subst hd
    by_contra hwaits
    rw [Bool.not_eq_false] at hwaits
    refine hnot ⟨id, _, setConnection_self, ?_, hwaits⟩
    exact waitsForward_lookUp.trans hfound
  | lockForChannel id c hc =>
    intro d hd hsome
    rw [hc, Option.mem_some_iff] at hd
    subst hd
    by_contra hwaits
    rw [Bool.not_eq_false] at hwaits
    obtain ⟨⟨sshConn, server⟩, hhandler⟩ := Option.isSome_iff_exists.mp hsome
    have hserver : server = true := (hs.connections id c hc).reverseHandler _ hhandler
    subst hserver
    rw [State.callHandler, hhandler] at hnot
    exact hnot ⟨id, _, setConnection_self, hwaits, rfl⟩
  | _ => trivial

theorem not_lockCycle_step (hs : system.Reachable s) (hstep : s.step action = some t) :
    ¬ LockCycle t ↔ ¬ LockCycle s ∧ KeepsApart s action := by
  have hok := ok_of_reachable hs
  rw [lockCycle_iff (hok.step hstep)]
  constructor
  · intro hnot
    refine ⟨fun hcycle => hnot ?_, keepsApart_of_not_crossed hok hstep hnot⟩
    exact (lockCycle_iff (hok.step hstep)).mp (hcycle.step hs hstep)
  · rintro ⟨hnot, happart⟩ hcrossed
    rw [lockCycle_iff hok] at hnot
    exact hnot (crossed_of_keepsApart happart hstep hcrossed)

end Cycles

/-- There is no lock cycle at the end of a run exactly if no step of it crosses;
a cycle lasts for ever, and no channel of any connection gets a number any
more. -/
theorem no_lock_cycle_iff {actions : List Action} {s : State} (hrun : system.run actions = some s) :
    (¬ LockCycle s ↔ system.Meets KeepsApart {} actions) ∧
      (LockCycle s → ∀ more t, system.runFrom s more = some t →
        LockCycle t ∧ t.nextChannelID = s.nextChannelID) := by
  have hreachable : system.Reachable s := ⟨actions, hrun⟩
  constructor
  · have hinit : ¬ LockCycle {} := by
      rintro ⟨thread, other, id, hserver, -⟩
      cases hserver
    have hstep : ∀ s a t, system.Reachable s → system.step s a = some t →
        (¬ LockCycle t ↔ ¬ LockCycle s ∧ KeepsApart s a) :=
      fun _ _ _ => not_lockCycle_step
    rw [system.runFrom_iff_meets (P := fun s => ¬ LockCycle s)
      (fun _ _ _ hs hstep => hs.step hstep) hstep system.reachable_init hrun]
    exact and_iff_right hinit
  · intro hcycle more t hmore
    exact ⟨hcycle.runFrom hreachable hmore, hcycle.nextChannelID hreachable hmore⟩

def forwarding (id : String) (request : ForwardRequest) : List Action :=
  [.request id request, .lockServer id, .lockForward id, .sent id (.ok true), .unlockServer id]

def channelAfterRequest : List Action :=
  .connect "a" "a" :: forwarding "a" (.tcp "localhost" 8080) ++
    [.newChannel "a" ⟨"forwarded-tcpip", []⟩, .lockForChannel "a",
      .drawChannelID "a", .opened "a" none, .accepted "a" none]

theorem no_lock_cycle_one_after_the_other :
    ∃ s, system.run channelAfterRequest = some s ∧ ¬ LockCycle s :=
  TransitionSystem.exists_run _ rfl fun _ hrun => (no_lock_cycle_iff hrun).1.mpr (by decide)

def channelDuringRequest : List Action :=
  .connect "a" "a" :: forwarding "a" (.tcp "localhost" 8080) ++
    [.newChannel "a" ⟨"forwarded-tcpip", []⟩, .lockForChannel "a",
      .request "a" (.streamLocal "/run/socket"), .lockServer "a"]

theorem lock_cycle_of_overlap : ∃ s, system.run channelDuringRequest = some s ∧ LockCycle s :=
  ⟨_, rfl, .requests "a", .channels "a", "a", rfl, rfl, rfl, rfl⟩

end ContainerSSH.SSHProxy
