/-
The shutdown of a connection's agents.
-/
import ContainerSSH.AgentServing
import ContainerSSH.AgentSetup

namespace ContainerSSH.Agent

/-! ### The other operations -/

inductive Slot where
  | direct
  | x11
  | reverse (key : String)
deriving DecidableEq

namespace AgentForward

variable (f : AgentForward)

def live : Slot → Option ForwardCtx
  | .direct => f.directForward
  | .x11 => f.x11Forward
  | .reverse key => f.reverseForwards key

def put (slot : Slot) (ctx : ForwardCtx) : AgentForward :=
  match slot with
  | .direct => { f with directForward := some ctx }
  | .x11 => { f with x11Forward := some ctx }
  | .reverse key => f.setReverseForward key ctx

def deleteReverseForward (key : String) : AgentForward :=
  { f with reverseForwards := fun k => if k = key then none else f.reverseForwards k }

def cancelForwarding (key : String) (write : Option GoError) :
    Except Stuck (AgentForward × Option GoError) :=
  match f.reverseForwards key with
  | none => .ok (f, some (.plain "Forwarding not found"))
  | some ctx =>
    match ctx.noMoreConnections, write with
    | .error stuck, _ => .error stuck
    | .ok (next, _), some err => .ok (f.setReverseForward key next, some err)
    | .ok _, none => .ok (f.deleteReverseForward key, none)

def cancelTCPForwarding (bindHost : String) (bindPort : UInt32) :
    Option GoError → Except Stuck (AgentForward × Option GoError) :=
  f.cancelForwarding (mangleTCP bindHost bindPort)

def cancelStreamLocalForwarding (path : String) :
    Option GoError → Except Stuck (AgentForward × Option GoError) :=
  f.cancelForwarding (mangleUnix path)

def closeX11Forwarding : AgentForward × Option GoError :=
  if f.x11Forward.isNone then
    (f, some (.plain "X11 forwarding not setup, please call NewX11Forwarding at least once"))
  else if f.nX11Channels = 0 then
    (f, some (.plain "Tried to close X11 session when there are already 0 X11 channels"))
  else ({ f with nX11Channels := f.nX11Channels - 1 }, none)

end AgentForward

def ForwardOperation.slot : ForwardOperation → Slot
  | .x11 _ _ _ _ => .x11
  | .tcpReverse bindHost bindPort => .reverse (AgentForward.mangleTCP bindHost bindPort)
  | .unixReverse path => .reverse (AgentForward.mangleUnix path)
  | .forwardTCP _ _ _ _ => .direct
  | .forwardUnix _ => .direct

structure Agents where
  forward : AgentForward := {}
  locked : Bool := false
  started : Slot → Bool := fun _ => false
  told : Slot → Nat := fun _ => 0

inductive AgentsAction where
  | perform (op : ForwardOperation) (outcome : SetupOutcome)
  | cancelTCPForwarding (bindHost : String) (bindPort : UInt32) (write : Option GoError)
  | cancelStreamLocalForwarding (path : String) (write : Option GoError)
  | closeX11Forwarding
  | receive (slot : Slot) (packet : Packet)
  | call (slot : Slot) (id : UInt64) (call : LocalCall)

namespace Agents

variable (s : Agents)

def perform (op : ForwardOperation) (outcome : SetupOutcome) : Agents :=
  let done := s.forward.perform op outcome
  { s with
    forward := done.state
    locked := match done.result with
      | .error _ => true
      | .ok _ => false
    started := fun slot =>
      if slot = op.slot then
        match done.setup with
        | none => s.started slot
        | some err => err.isNone
      else s.started slot }

def cancel (key : String) (write : Option GoError) : Option Agents :=
  match s.forward.cancelForwarding key write with
  | .error _ => none
  | .ok (forward, _) =>
    some { s with
      forward
      told := fun slot =>
        if slot = .reverse key then if (forward.live slot).isSome then s.told slot + 1 else 0
        else s.told slot }

def endpoint (slot : Slot) (action : EndpointAction) : Option Agents :=
  (s.forward.live slot).bind fun ctx =>
    (ctx.step action).map fun next => { s with forward := s.forward.put slot next }

def step : AgentsAction → Option Agents
  | .perform op outcome => if s.locked then none else some (s.perform op outcome)
  | .cancelTCPForwarding bindHost bindPort write =>
    if s.locked then none
    else s.cancel (AgentForward.mangleTCP bindHost bindPort) write
  | .cancelStreamLocalForwarding path write =>
    if s.locked then none else s.cancel (AgentForward.mangleUnix path) write
  | .closeX11Forwarding =>
    if s.locked then none
    else some { s with forward := s.forward.closeX11Forwarding.1 }
  | .receive slot packet => if s.started slot then s.endpoint slot (.receive packet) else none
  | .call slot id call => s.endpoint slot (.call id call)

end Agents

def agents : TransitionSystem Agents AgentsAction where
  init := {}
  step := Agents.step

inductive ShutdownFailure where
  | lock
  | nilDereference
  | closeOfClosed
  | waitFinish
deriving DecidableEq

structure Ranges (f : AgentForward) where
  keys : List String
  nodup : keys.Nodup
  mem_keys : ∀ key, key ∈ keys ↔ (f.reverseForwards key).isSome = true
  ids : Slot → List UInt64
  mem_ids : ∀ slot ctx id, f.live slot = some ctx → (id ∈ ids slot ↔ (ctx.connMap id).isSome = true)

namespace ForwardCtx

variable (ctx : ForwardCtx)

def closeAll (ids : List UInt64) : ForwardCtx :=
  ids.foldl (fun ctx id =>
    match ctx.connMap id with
    | none => ctx
    | some c => ctx.setConnection id c.close.1) ctx

def closeAllImm (ids : List UInt64) : ForwardCtx :=
  ids.foldl (fun ctx id =>
    match ctx.connMap id with
    | none => ctx
    | some c => (ctx.closeConnectionImm id c).1) ctx

end ForwardCtx

namespace Agents

variable (s : Agents)

def noMoreConnections (slot : Slot) (ctx : ForwardCtx) :
    Except ShutdownFailure Agents :=
  match ctx.noMoreConnections with
  | .error _ => .error .closeOfClosed
  | .ok (next, _) =>
    .ok { s with
      forward := s.forward.put slot next
      told := fun other => if other = slot then s.told other + 1 else s.told other }

def kill (slot : Slot) (ids : List UInt64) : Except ShutdownFailure Agents := do
  let s ← match s.forward.live slot with
    | none => .error .nilDereference
    | some ctx => if ctx.stopped then .ok s else s.noMoreConnections slot ctx
  match s.forward.live slot with
  | none => .error .nilDereference
  | some ctx =>
    let closed := (ctx.closeAll ids).closeAllImm ids
    if closed.waitGroup = 0 then .ok { s with forward := s.forward.put slot closed }
    else .error .waitFinish

def shut (slot : Slot) (ctx : ForwardCtx) (ids : List UInt64) :
    Except ShutdownFailure Agents := do
  let s ← s.noMoreConnections slot ctx
  s.kill slot ids

def shutReverse (ids : Slot → List UInt64) (key : String) :
    Except ShutdownFailure Agents :=
  match s.forward.reverseForwards key with
  | none => .ok s
  | some ctx => s.shut (.reverse key) ctx (ids (.reverse key))

def shutDirect (ids : Slot → List UInt64) : Except ShutdownFailure Agents :=
  match s.forward.directForward with
  | none => .ok s
  | some direct => s.shut .direct direct (ids .direct)

def shutX11 (ids : Slot → List UInt64) : Except ShutdownFailure Agents :=
  match s.forward.x11Forward, s.forward.directForward with
  | none, _ => .ok s
  | some _, none => .error .nilDereference
  | some _, some direct => do
      let s ← s.noMoreConnections .direct direct
      s.kill .x11 (ids .x11)

def onShutdown (order : Ranges s.forward) : Except ShutdownFailure Agents :=
  if s.locked then .error .lock
  else do
    let s ← s.shutDirect order.ids
    let s ← s.shutX11 order.ids
    order.keys.foldlM (fun s key => s.shutReverse order.ids key) s

/-- `OnShutdown` returns and has told every forward that is live. -/
def ShutsDown (order : Ranges s.forward) : Prop :=
  ∃ t, s.onShutdown order = .ok t ∧ ∀ slot ctx, s.forward.live slot = some ctx → t.told slot = 1

end Agents

/-! ### Closing the connections of a context -/

namespace ForwardCtx

variable {ctx next last : ForwardCtx}

structure Closes (ctx next : ForwardCtx) : Prop where
  surplus : next.surplus = ctx.surplus
  channel : SameChannel ctx next
  keys : ∀ id, (next.connMap id).isSome = (ctx.connMap id).isSome
  isOpen : ∀ id, (ctx.connMap id).any Connection.isOpen = false →
    (next.connMap id).any Connection.isOpen = false

theorem Closes.refl (ctx : ForwardCtx) : Closes ctx ctx :=
  ⟨rfl, ⟨rfl, rfl, rfl⟩, fun _ => rfl, fun _ h => h⟩

theorem Closes.trans (hfirst : Closes ctx next) (hsecond : Closes next last) : Closes ctx last where
  surplus := hsecond.surplus.trans hfirst.surplus
  channel := ⟨hsecond.channel.stopped.trans hfirst.channel.stopped,
    hsecond.channel.channelClosed.trans hfirst.channel.channelClosed,
    hsecond.channel.offered.trans hfirst.channel.offered⟩
  keys := fun id => (hsecond.keys id).trans (hfirst.keys id)
  isOpen := fun id hclosed => hsecond.isOpen id (hfirst.isOpen id hclosed)

theorem Closes.foldl {f : ForwardCtx → UInt64 → ForwardCtx}
    (hf : ∀ ctx id, Closes ctx (f ctx id)) (ids : List UInt64) (ctx : ForwardCtx) :
    Closes ctx (ids.foldl f ctx) := by
  induction ids generalizing ctx with
  | nil => exact .refl ctx
  | cons id rest ih => exact (hf ctx id).trans (ih (f ctx id))

theorem closes_close (ctx : ForwardCtx) (id : UInt64) : Closes ctx (match ctx.connMap id with
      | none => ctx
      | some c => ctx.setConnection id c.close.1) := by
  cases hconn : ctx.connMap id with
  | none => exact .refl ctx
  | some c =>
    have hcall : c.call .close = some c.close := rfl
    have hopen : c.close.1.isOpen = c.isOpen := by
      rcases Connection.call_isOpen hcall with hsame | ⟨hreject, -⟩
      · exact hsame
      · cases hreject
    refine ⟨?_, sameChannel_setConnection ctx id _, ?_, ?_⟩
    · simp only [surplus_setConnection hconn, hopen]
      omega
    all_goals
      intro i
      by_cases hi : i = id
      · subst hi
        simp [hconn, hopen]
      · simp [ctx.setConnection_of_ne _ hi]

theorem isOpen_closeImm (c : Connection) : (c.closeImm.getD c).isOpen = false := by
  cases hclose : c.closeImm with
  | some => exact (Connection.closeImm_isOpen hclose).2
  | none =>
    unfold Connection.closeImm at hclose
    split at hclose
    · next hstate => simp [Connection.isOpen, hstate]
    · cases hclose

theorem closes_closeImm (ctx : ForwardCtx) (id : UInt64) : Closes ctx (match ctx.connMap id with
      | none => ctx
      | some c => (ctx.closeConnectionImm id c).1) := by
  cases hconn : ctx.connMap id with
  | none => exact .refl ctx
  | some c =>
    obtain ⟨hself, hsame⟩ := ctx.closeConnectionImm_connMap id hconn
    refine ⟨surplus_closeConnectionImm hconn, sameChannel_closeConnectionImm ctx id c, ?_, ?_⟩
    all_goals
      intro i
      by_cases hi : i = id
      · subst hi
        simp [hconn, hself, isOpen_closeImm]
      · simp [hsame.connMap i hi]

theorem closes_all (ctx : ForwardCtx) (ids : List UInt64) :
    Closes ctx ((ctx.closeAll ids).closeAllImm ids) :=
  (Closes.foldl closes_close ids ctx).trans (Closes.foldl closes_closeImm ids _)

theorem closed_closeAllImm (ctx : ForwardCtx) {ids : List UInt64} {id : UInt64} (hid : id ∈ ids) :
    ((ctx.closeAllImm ids).connMap id).any Connection.isOpen = false := by
  induction ids generalizing ctx with
  | nil => cases hid
  | cons first rest ih =>
    rcases List.mem_cons.mp hid with rfl | hrest
    · apply (Closes.foldl closes_closeImm rest _).isOpen
      cases hconn : ctx.connMap id with
      | none => simp [hconn]
      | some =>
        simp only [hconn, (ctx.closeConnectionImm_connMap id hconn).1,
          Option.any_some, isOpen_closeImm]
    · exact ih _ hrest

theorem waitGroup_closeAllImm (ctx : ForwardCtx) {ids : List UInt64}
    (hids : ∀ id, id ∈ ids ↔ (ctx.connMap id).isSome = true) :
    ((ctx.closeAll ids).closeAllImm ids).waitGroup = ctx.surplus := by
  have hcloses := closes_all ctx ids
  have hnone : ((ctx.closeAll ids).closeAllImm ids).openConnections = 0 := by
    apply PartialMap.count_eq_zero
    intro id
    by_cases hid : id ∈ ids
    · exact closed_closeAllImm _ hid
    · have hunknown : ctx.connMap id = none := by simpa [hids] using hid
      exact hcloses.isOpen id (by simp [hunknown])
  rw [← hcloses.surplus, surplus, hnone]
  simp

def killed (ctx : ForwardCtx) (ids : List UInt64) : ForwardCtx :=
  ({ ctx with stopped := true, channelClosed := true }.closeAll ids).closeAllImm ids

theorem killed_channelClosed (ctx : ForwardCtx) (ids : List UInt64) :
    (ctx.killed ids).channelClosed = true :=
  (closes_all { ctx with stopped := true, channelClosed := true } ids).channel.channelClosed

theorem killed_waitGroup_eq_zero_iff {ids : List UInt64}
    (hids : ∀ id, id ∈ ids ↔ (ctx.connMap id).isSome = true) :
    (ctx.killed ids).waitGroup = 0 ↔ ctx.Accounted := by
  rw [killed, waitGroup_closeAllImm { ctx with stopped := true, channelClosed := true } hids]
  exact sub_eq_zero

end ForwardCtx

/-! ### The shutdown of one context -/

namespace AgentForward

variable (f : AgentForward)

theorem live_put (slot : Slot) (ctx : ForwardCtx) (other : Slot) :
    (f.put slot ctx).live other = if other = slot then some ctx else f.live other := by
  cases slot <;> cases other <;> simp [put, live, setReverseForward]

end AgentForward

namespace Agents

variable {s t : Agents} {slot : Slot} {ctx : ForwardCtx} {ids : List UInt64}

def Stoppable (ctx : ForwardCtx) : Prop := ctx.channelClosed = false ∧ ctx.Accounted

structure Stops (slot : Slot) (s t : Agents) : Prop where
  locked : t.locked = s.locked
  told : ∀ other, t.told other = if other = slot then s.told other + 1 else s.told other
  others : ∀ other, other ≠ slot → t.forward.live other = s.forward.live other
  closed : ∃ ctx, t.forward.live slot = some ctx ∧ ctx.channelClosed = true

theorem kill_of_stopped (hlive : s.forward.live slot = some ctx) (hstopped : ctx.stopped = true) :
    s.kill slot ids = if ((ctx.closeAll ids).closeAllImm ids).waitGroup = 0 then
        .ok { s with
          forward := s.forward.put slot ((ctx.closeAll ids).closeAllImm ids) }
      else .error .waitFinish := by
  simp [kill, hlive, hstopped, bind, Except.bind]

theorem shut_of_open (hopen : ctx.channelClosed = false) : s.shut slot ctx ids =
      if (ctx.killed ids).waitGroup = 0 then
        .ok { s with
          forward := (s.forward.put slot
            { ctx with stopped := true, channelClosed := true }).put slot (ctx.killed ids)
          told := fun other =>
            if other = slot then s.told other + 1 else s.told other }
      else .error .waitFinish := by
  have hstop : s.noMoreConnections slot ctx = .ok { s with
        forward := s.forward.put slot { ctx with stopped := true, channelClosed := true }
        told := fun other =>
          if other = slot then s.told other + 1 else s.told other } := by
    simp [noMoreConnections, ForwardCtx.noMoreConnections, hopen]
  rw [shut, hstop]
  exact kill_of_stopped (by simp [AgentForward.live_put]) rfl

theorem shut_cases (s : Agents) (slot : Slot)
    (hids : ∀ id, id ∈ ids ↔ (ctx.connMap id).isSome = true) :
    (Stoppable ctx ∧ ∃ t, s.shut slot ctx ids = .ok t ∧ Stops slot s t) ∨
      (¬ Stoppable ctx ∧ ∃ failure, s.shut slot ctx ids = .error failure) := by
  cases hopen : ctx.channelClosed with
  | true =>
    refine .inr ⟨fun h => Bool.false_ne_true (h.1.symm.trans hopen), .closeOfClosed, ?_⟩
    simp only [shut, noMoreConnections, ForwardCtx.noMoreConnections, hopen]
    rfl
  | false =>
    have hiff := ForwardCtx.killed_waitGroup_eq_zero_iff hids
    rw [shut_of_open hopen]
    split_ifs with hzero
    · refine .inl ⟨⟨hopen, hiff.mp hzero⟩, _, rfl, rfl, fun other => rfl, ?_, ?_⟩
      · intro other hne
        simp [AgentForward.live_put, hne]
      · exact ⟨_, by simp [AgentForward.live_put], ctx.killed_channelClosed ids⟩
    · exact .inr ⟨fun h => hzero (hiff.mpr h.2), _, rfl⟩

/-! ### The reverse forwards -/

def Enumerates (s : Agents) (ids : Slot → List UInt64) (keys : List String) : Prop :=
  ∀ key ∈ keys, ∃ ctx, s.forward.live (.reverse key) = some ctx ∧
    ∀ id, id ∈ ids (.reverse key) ↔ (ctx.connMap id).isSome = true

theorem shutReverse_of_live {ids : Slot → List UInt64} {key : String}
    (hlive : s.forward.live (.reverse key) = some ctx) :
    s.shutReverse ids key = s.shut (.reverse key) ctx (ids (.reverse key)) := by
  have hkey : s.forward.reverseForwards key = some ctx := hlive
  simp only [shutReverse, hkey]

theorem foldlM_shut {ids : Slot → List UInt64} {keys : List String}
    (hnodup : keys.Nodup) (hall : s.Enumerates ids keys) :
    ((∃ t, keys.foldlM (fun s key => s.shutReverse ids key) s = .ok t) ↔
      ∀ key ∈ keys, ∀ ctx, s.forward.live (.reverse key) = some ctx → Stoppable ctx) ∧
    ∀ t, keys.foldlM (fun s key => s.shutReverse ids key) s = .ok t → ∀ slot, t.told slot =
      if slot ∈ keys.map Slot.reverse then s.told slot + 1 else s.told slot := by
  induction keys generalizing s with
  | nil =>
    refine ⟨iff_of_true ⟨s, rfl⟩ (by simp), fun t ht slot => ?_⟩
    cases ht
    simp
  | cons key rest ih =>
    obtain ⟨hkey, hrest⟩ := List.nodup_cons.mp hnodup
    obtain ⟨ctx, hlive, hids⟩ := hall key (by simp)
    rw [List.foldlM_cons, shutReverse_of_live hlive, List.forall_mem_cons]
    rcases shut_cases s (.reverse key) hids with
      ⟨hstoppable, r, hshut, hstops⟩ | ⟨hnot, failure, hshut⟩
    · have hsame : ∀ other ∈ rest, r.forward.live (.reverse other) =
          s.forward.live (.reverse other) := by
        intro other hother
        apply hstops.others
        rintro ⟨⟩
        exact hkey hother
      obtain ⟨hiff, htold⟩ := @ih r hrest fun other hother => by
        rw [hsame other hother]
        exact hall other (List.mem_cons_of_mem key hother)
      simp only [hshut, bind, Except.bind]
      constructor
      · rw [hiff, hlive, and_iff_right (by rintro _ ⟨⟩; exact hstoppable)]
        exact forall₂_congr fun other hother => by rw [hsame other hother]
      · intro t ht slot
        rw [htold t ht, hstops.told]
        have hapart : Slot.reverse key ∉ rest.map Slot.reverse := by simp [hkey]
        by_cases hslot : slot = .reverse key
        · simp [hslot, hapart]
        · simp [hslot]
    · simp only [hshut, bind, Except.bind]
      exact ⟨iff_of_false (by simp) fun h => hnot (h.1 ctx hlive), by simp⟩

structure DirectStopped (s t : Agents) : Prop where
  told : ∀ slot, t.told slot =
    if slot = .direct ∧ s.forward.directForward.isSome then s.told slot + 1
    else s.told slot
  others : ∀ slot, slot ≠ .direct → t.forward.live slot = s.forward.live slot
  closed : ∀ ctx, t.forward.directForward = some ctx → ctx.channelClosed = true

theorem shutDirect_cases (order : Ranges s.forward) :
    ((∀ ctx, s.forward.live .direct = some ctx → Stoppable ctx) ∧
        ∃ t, s.shutDirect order.ids = .ok t ∧ DirectStopped s t) ∨
      ((∃ ctx, s.forward.live .direct = some ctx ∧ ¬ Stoppable ctx) ∧
        ∃ failure, s.shutDirect order.ids = .error failure) := by
  unfold shutDirect
  split
  · next hnone =>
      exact .inl ⟨by simp [AgentForward.live, hnone], s, rfl, fun slot => by simp [hnone],
        fun _ _ => rfl, by simp [hnone]⟩
  · next direct hdirect =>
      have hlive : s.forward.live .direct = some direct := hdirect
      rcases shut_cases s .direct fun id => order.mem_ids .direct direct id hlive with
        ⟨hstoppable, t, hshut, hstops⟩ | ⟨hnot, hfailure⟩
      · refine .inl ⟨?_, t, hshut, ?_, hstops.others, ?_⟩
        · rintro ctx hctx
          cases hlive.symm.trans hctx
          exact hstoppable
        · intro slot
          rw [hstops.told]
          simp [hdirect]
        · intro ctx hctx
          obtain ⟨closed, hclosed, hflag⟩ := hstops.closed
          cases hctx.symm.trans hclosed
          exact hflag
      · exact .inr ⟨⟨direct, hlive, hnot⟩, hfailure⟩

theorem shutX11_ne_ok (ids : Slot → List UInt64) {x11 : ForwardCtx}
    (hx11 : s.forward.x11Forward = some x11)
    (hclosed : ∀ ctx, s.forward.directForward = some ctx → ctx.channelClosed = true) :
    ∃ failure, s.shutX11 ids = .error failure := by
  unfold shutX11
  cases hdirect : s.forward.directForward with
  | none => exact ⟨.nilDereference, by simp only [hx11]⟩
  | some direct =>
    refine ⟨.closeOfClosed, ?_⟩
    simp only [hx11, noMoreConnections, ForwardCtx.noMoreConnections,
      hclosed direct hdirect, if_true]
    rfl

theorem DirectStopped.enumerates (hstopped : DirectStopped s t)
    (order : Ranges s.forward) : t.Enumerates order.ids order.keys := by
  intro key hkey
  rw [hstopped.others _ (by simp)]
  obtain ⟨ctx, hctx⟩ := Option.isSome_iff_exists.mp ((order.mem_keys key).mp hkey)
  exact ⟨ctx, hctx, fun id => order.mem_ids (.reverse key) ctx id hctx⟩

theorem onShutdown_iff (order : Ranges s.forward) :
    ((∃ t, s.onShutdown order = .ok t) ↔ s.locked = false ∧ s.forward.x11Forward = none ∧
      ∀ slot ctx, s.forward.live slot = some ctx → Stoppable ctx) ∧
    ∀ t slot ctx, s.onShutdown order = .ok t → s.forward.live slot = some ctx →
      t.told slot = s.told slot + 1 := by
  unfold onShutdown
  split_ifs with hlocked
  · exact ⟨iff_of_false (by simp) fun h => by simp [hlocked] at h, by simp⟩
  have hfree : s.locked = false := by simpa using hlocked
  rcases shutDirect_cases order with
    ⟨hdirect, r, hshut, hstopped⟩ | ⟨⟨ctx, hctx, hnot⟩, failure, hshut⟩
  · have hsame := hstopped.others .x11 (by simp)
    simp only [hshut, bind, Except.bind]
    cases hx11 : s.forward.x11Forward with
    | some =>
      obtain ⟨failure, hfails⟩ := shutX11_ne_ok order.ids (hsame.trans hx11) hstopped.closed
      simp [hfails]
    | none =>
      have hnone : r.shutX11 order.ids = .ok r := by
        have hx11' : r.forward.x11Forward = none := hsame.trans hx11
        simp only [shutX11, hx11']
      obtain ⟨hiff, htold⟩ := foldlM_shut order.nodup (hstopped.enumerates order)
      have hkey : ∀ key ctx, s.forward.live (.reverse key) = some ctx → key ∈ order.keys :=
        fun key ctx hctx => (order.mem_keys key).mpr (Option.isSome_iff_exists.mpr ⟨ctx, hctx⟩)
      simp only [hnone]
      constructor
      · rw [hiff]
        refine ⟨fun h => ⟨hfree, trivial, fun slot ctx hctx => ?_⟩, fun h key _ ctx hctx => ?_⟩
        · cases slot with
          | direct => exact hdirect ctx hctx
          | x11 => cases hx11.symm.trans hctx
          | reverse key =>
            exact h key (hkey key ctx hctx) ctx ((hstopped.others _ (by simp)).trans hctx)
        · rw [hstopped.others _ (by simp)] at hctx
          exact h.2.2 _ ctx hctx
      · intro t slot ctx ht hctx
        rw [htold t ht, hstopped.told]
        cases slot with
        | direct =>
          have hsome : s.forward.directForward = some ctx := hctx
          simp [hsome]
        | x11 => cases hx11.symm.trans hctx
        | reverse key => simp [hkey key ctx hctx]
  · simp only [hshut, bind, Except.bind]
    exact ⟨iff_of_false (by simp) fun h => hnot (h.2.2 .direct ctx hctx), by simp⟩

end Agents

/-! ### Runs before the shutdown -/

namespace AgentForward

variable {f : AgentForward} {op : ForwardOperation} {outcome : SetupOutcome}
  {slot : Slot} {ctx : ForwardCtx}

structure Keeps (slot : Slot) (f g : AgentForward) : Prop where
  kept : ∀ other ctx, f.live other = some ctx → ∃ next, g.live other = some next ∧
    next.channelClosed = ctx.channelClosed
  others : ∀ other, other ≠ slot → g.live other = f.live other

theorem Keeps.of_live (slot : Slot) {f g : AgentForward}
    (hsame : ∀ other, g.live other = f.live other) : Keeps slot f g where
  kept := fun other ctx hctx => ⟨ctx, (hsame other).trans hctx, rfl⟩
  others := fun other _ => hsame other

theorem Keeps.trans {f g h : AgentForward} (hfirst : Keeps slot f g)
    (hsecond : Keeps slot g h) : Keeps slot f h where
  kept := by
    intro other ctx hctx
    obtain ⟨next, hnext, hsame⟩ := hfirst.kept other ctx hctx
    obtain ⟨last, hlast, hsame'⟩ := hsecond.kept other next hnext
    exact ⟨last, hlast, hsame'.trans hsame⟩
  others := fun other hne => (hsecond.others other hne).trans (hfirst.others other hne)

theorem Keeps.put {next : ForwardCtx}
    (hnext : ∀ ctx, f.live slot = some ctx → next.channelClosed = ctx.channelClosed) :
    Keeps slot f (f.put slot next) where
  kept := by
    intro other ctx hctx
    rw [live_put]
    split_ifs with hother
    · exact ⟨next, rfl, hnext ctx (hother ▸ hctx)⟩
    · exact ⟨ctx, hctx, rfl⟩
  others := fun other hne => by rw [live_put, if_neg hne]

theorem keeps_setupAgent (slot : Slot) (hnone : f.live slot = none) (packet : SetupPacket) :
    Keeps slot f (f.setupAgent (f.put slot) packet outcome).state := by
  unfold setupAgent
  split
  · exact .of_live slot fun _ => rfl
  · exact .put (by simp [hnone])

theorem keeps_dial (hctx : f.directForward = some ctx) (details : NewConnectionPayload) :
    Keeps .direct f (f.dial ctx details outcome).1 := by
  unfold dial
  split
  · exact .of_live .direct fun _ => rfl
  · next next out hopens =>
      have hstep : ctx.step (.newConnection details) = some next := by
        simp [ForwardCtx.step, hopens, Except.toOption]
      have hsame := (ForwardCtx.sameChannel_newConnection hstep).channelClosed
      refine Keeps.put ?_
      intro old hold
      cases hctx.symm.trans hold
      exact hsame

theorem keeps_newForward (details : NewConnectionPayload) :
    Keeps .direct f (f.newForward details outcome).state := by
  unfold newForward
  split
  · next ctx hctx => exact keeps_dial hctx details
  · next hnone =>
      have hsetup : Keeps .direct f (f.setupDirectForward outcome).state := by
        simp only [setupDirectForward, hnone]
        exact keeps_setupAgent .direct hnone _
      dsimp only
      split
      · next ctx _ hctx => exact hsetup.trans (keeps_dial hctx details)
      · exact hsetup

theorem keeps_addX11Channel (f : AgentForward) : Keeps .x11 f f.addX11Channel :=
  .of_live .x11 fun other => by cases other <;> rfl

theorem keeps_newX11Forwarding (singleConnection : Bool) (proto cookie : String) (screen : UInt32) :
    Keeps .x11 f (f.newX11Forwarding singleConnection proto cookie screen outcome).state := by
  unfold newX11Forwarding
  split_ifs with hnone
  · have hx11 : f.x11Forward = none := Option.isNone_iff_eq_none.mp hnone
    have hsetup : Keeps .x11 f (f.setupX11 singleConnection proto cookie screen outcome).state := by
      simp only [setupX11, hx11]
      exact keeps_setupAgent .x11 hx11 _
    dsimp only
    split
    · exact hsetup.trans (keeps_addX11Channel _)
    · exact hsetup
  · exact keeps_addX11Channel f

theorem keeps_newReverseForwarding (key started : String) (packet : SetupPacket) :
    Keeps (.reverse key) f (f.newReverseForwarding key started packet outcome).state := by
  unfold newReverseForwarding
  split_ifs with hsome
  · exact .of_live _ fun _ => rfl
  · exact keeps_setupAgent (.reverse key) (Option.not_isSome_iff_eq_none.mp hsome) packet

theorem keeps_perform (op : ForwardOperation) (outcome : SetupOutcome) :
    Keeps op.slot f (f.perform op outcome).state := by
  cases op with
  | x11 singleConnection proto cookie screen =>
    exact keeps_newX11Forwarding singleConnection proto cookie screen
  | tcpReverse | unixReverse => exact keeps_newReverseForwarding _ _ _
  | forwardTCP => exact keeps_newForward _
  | forwardUnix => exact keeps_newForward _

theorem keeps_closeX11Forwarding (f : AgentForward) : Keeps .x11 f f.closeX11Forwarding.1 := by
  refine .of_live .x11 fun other => ?_
  unfold closeX11Forwarding
  split_ifs <;> cases other <;> rfl

theorem live_of_cancelForwarding {key : String} {write err : Option GoError} {g : AgentForward}
    (hcancel : f.cancelForwarding key write = .ok (g, err)) :
    (∀ slot, slot ≠ .reverse key → g.live slot = f.live slot) ∧
      ∀ ctx, g.live (.reverse key) = some ctx → ctx.channelClosed = true := by
  unfold cancelForwarding at hcancel
  split at hcancel
  · next hnone =>
      cases hcancel
      exact ⟨fun _ _ => rfl, by simp [live, hnone]⟩
  · unfold ForwardCtx.noMoreConnections at hcancel
    split_ifs at hcancel
    cases write <;> cases hcancel
    · refine ⟨fun slot hne => ?_, by simp [live, deleteReverseForward]⟩
      cases slot <;> simp_all [live, deleteReverseForward]
    · refine ⟨fun slot hne => (f.live_put (.reverse key) _ slot).trans (if_neg hne), ?_⟩
      intro ctx hctx
      cases ((f.live_put (.reverse key) _ _).trans (if_pos rfl)).symm.trans hctx
      rfl

end AgentForward

namespace Agents

variable {s t : Agents} {action : AgentsAction}

structure Untold (s : Agents) : Prop where
  absent : ∀ slot, s.forward.live slot = none → s.told slot = 0
  running : ∀ slot ctx, s.forward.live slot = some ctx → ctx.channelClosed = false → s.told slot = 0

theorem untold_iff : s.Untold ↔ ∀ slot,
    (∀ ctx, s.forward.live slot = some ctx → ctx.channelClosed = false) → s.told slot = 0 := by
  constructor
  · intro hs slot hopen
    cases hlive : s.forward.live slot with
    | none => exact hs.absent slot hlive
    | some ctx => exact hs.running slot ctx hlive (hopen ctx hlive)
  · intro hs
    refine ⟨fun slot hnone => hs slot (by simp [hnone]), fun slot ctx hctx hopen => hs slot ?_⟩
    intro other hother
    cases hctx.symm.trans hother
    exact hopen

theorem Untold.keep (hs : s.Untold) {forward : AgentForward} {locked : Bool}
    {started : Slot → Bool} (hkept : ∀ slot ctx, s.forward.live slot = some ctx →
      ∃ next, forward.live slot = some next ∧
        (ctx.channelClosed = true → next.channelClosed = true)) :
    Untold { s with forward, locked, started } := by
  rw [untold_iff] at hs ⊢
  intro slot hopen
  refine hs slot fun ctx hctx => ?_
  obtain ⟨next, hnext, hclosed⟩ := hkept slot ctx hctx
  by_contra hnot
  cases (hopen next hnext).symm.trans (hclosed (by simpa using hnot))

theorem Untold.keep_of_keeps (hs : s.Untold) {forward : AgentForward} {locked : Bool}
    {started : Slot → Bool} {slot : Slot} (hkeeps : s.forward.Keeps slot forward) :
    Untold { s with forward, locked, started } :=
  hs.keep fun slot ctx hctx =>
    let ⟨next, hnext, hsame⟩ := hkeeps.kept slot ctx hctx
    ⟨next, hnext, hsame.trans⟩

theorem Untold.endpoint (hs : s.Untold) {slot : Slot} {action : EndpointAction}
    (hstep : s.endpoint slot action = some t) : t.Untold := by
  obtain ⟨ctx, hctx, hstep⟩ := Option.bind_eq_some_iff.mp hstep
  obtain ⟨next, hnext, rfl⟩ := Option.map_eq_some_iff.mp hstep
  refine hs.keep fun other old hold => ?_
  rw [AgentForward.live_put]
  split_ifs with hother
  · cases hctx.symm.trans (hother ▸ hold)
    exact ⟨next, rfl, (ForwardCtx.grows_of_step hnext).closed⟩
  · exact ⟨old, hold, fun h => h⟩

theorem Untold.cancel (hs : s.Untold) {key : String} {write : Option GoError}
    (hstep : s.cancel key write = some t) : t.Untold := by
  unfold Agents.cancel at hstep
  split at hstep
  · cases hstep
  next forward err hcancel =>
  obtain ⟨hothers, hclosed⟩ := AgentForward.live_of_cancelForwarding hcancel
  rw [← Option.some.inj hstep, untold_iff]
  intro slot hopen
  by_cases hkey : slot = .reverse key
  · subst hkey
    cases hlive : forward.live (.reverse key) with
    | none => simp [hlive]
    | some ctx => cases (hopen ctx hlive).symm.trans (hclosed ctx hlive)
  · simp only [if_neg hkey]
    exact untold_iff.mp hs slot fun ctx hctx => hopen ctx ((hothers slot hkey).trans hctx)

theorem Untold.step (hs : s.Untold) (hstep : s.step action = some t) : t.Untold := by
  cases action with
  | perform op outcome =>
    obtain ⟨-, hstep⟩ := Option.ite_none_left_eq_some.mp hstep
    cases hstep
    exact hs.keep_of_keeps (AgentForward.keeps_perform op outcome)
  | cancelTCPForwarding | cancelStreamLocalForwarding =>
    exact hs.cancel (Option.ite_none_left_eq_some.mp hstep).2
  | closeX11Forwarding =>
    obtain ⟨-, hstep⟩ := Option.ite_none_left_eq_some.mp hstep
    cases hstep
    exact hs.keep_of_keeps s.forward.keeps_closeX11Forwarding
  | receive => exact hs.endpoint (Option.ite_none_right_eq_some.mp hstep).2
  | call => exact hs.endpoint hstep

theorem untold_of_reachable (hs : agents.Reachable s) : s.Untold :=
  hs.invariant ⟨fun _ _ => rfl, fun _ _ _ _ => rfl⟩ fun _ _ _ huntold hstep => huntold.step hstep

end Agents

/-- In every state that operations and packets lead to, the shutdown returns
with every context told once exactly if nobody waits under the lock, there is no
X11 forwarding, and no context was stopped before or has rejected a
connection. -/
theorem shutsDown_iff {s : Agents} (hs : agents.Reachable s) (order : Ranges s.forward) :
    s.ShutsDown order ↔ s.locked = false ∧ s.forward.x11Forward = none ∧
        ∀ slot ctx, s.forward.live slot = some ctx → ctx.channelClosed = false ∧ ctx.Accounted := by
  obtain ⟨hiff, htold⟩ := Agents.onShutdown_iff order
  refine Iff.trans ⟨fun ⟨t, hok, _⟩ => ⟨t, hok⟩, fun ⟨t, hok⟩ => ⟨t, hok, ?_⟩⟩ hiff
  intro slot ctx hctx
  have hopen := ((hiff.mp ⟨t, hok⟩).2.2 slot ctx hctx).1
  rw [htold t slot ctx hok hctx, (Agents.untold_of_reachable hs).running slot ctx hctx hopen]

def forwards : List AgentsAction :=
  [.perform (.forwardUnix "/socket") {}, .perform (.unixReverse "/listen") {}]

/-- A range over the maps exists, as there are finitely many connections. -/
theorem Ranges.nonempty {f : AgentForward} (keys : List String) (hnodup : keys.Nodup)
    (hkeys : ∀ key, key ∈ keys ↔ (f.reverseForwards key).isSome = true) : Nonempty (Ranges f) := by
  have hids : ∀ slot, ∃ ids : List UInt64, ∀ ctx id, f.live slot = some ctx →
      (id ∈ ids ↔ (ctx.connMap id).isSome = true) := by
    intro slot
    cases f.live slot with
    | none => exact ⟨[], by simp⟩
    | some ctx =>
      refine ⟨(Set.toFinite {id | (ctx.connMap id).isSome = true}).toFinset.toList, ?_⟩
      rintro _ id ⟨⟩
      simp
  choose ids hids using hids
  exact ⟨⟨keys, hnodup, hkeys, ids, hids⟩⟩

theorem accounted_new : ForwardCtx.Accounted {} := by
  rw [ForwardCtx.Accounted, ForwardCtx.openConnections, PartialMap.count_eq_zero (fun _ => rfl)]
  rfl

theorem shutsDown_forwards : ∃ s, agents.run forwards = some s ∧ Nonempty (Ranges s.forward) ∧
      ∀ order, s.ShutsDown order := by
  obtain ⟨s, direct, hrun, hdirect, hconnection, hreverse, hx11, hfree⟩ :
      ∃ s direct, agents.run forwards = some s ∧ s.forward.directForward = some direct ∧
        endpoint.run [.newConnection { protocol := "unix", connectedAddress := "/socket" }] =
          some direct ∧ s.forward.reverseForwards =
          (fun key => if key = "unix-/listen" then some {} else none) ∧
        s.forward.x11Forward = none ∧ s.locked = false :=
    ⟨_, _, rfl, rfl, rfl, rfl, rfl, rfl⟩
  refine ⟨s, hrun, Ranges.nonempty ["unix-/listen"] (by simp) (by simp [hreverse]),
    fun order => (shutsDown_iff ⟨_, hrun⟩ order).mpr ⟨hfree, hx11, ?_⟩⟩
  intro slot ctx hctx
  cases slot with
  | direct =>
    cases hdirect.symm.trans hctx
    have haccounted := (accounted_iff_no_reject hconnection).mpr
      (endpoint.meets_cons (fun h => h) hconnection trivial)
    cases hconnection
    exact ⟨rfl, haccounted⟩
  | x11 => cases hx11.symm.trans hctx
  | reverse =>
    simp only [AgentForward.live, hreverse] at hctx
    split_ifs at hctx
    cases hctx
    exact ⟨rfl, accounted_new⟩

/-- The shutdown follows a nil pointer if X11 is the only forwarding, and it
closes a channel twice if the agent of the direct forwards has stopped. -/
theorem shutdown_panics :
    (∃ s, agents.run [.perform (.x11 false "MIT-MAGIC-COOKIE-1" "c" 0) {}] = some s ∧
      Nonempty (Ranges s.forward) ∧
      ∀ order, s.onShutdown order = .error .nilDereference ∧ ¬ s.ShutsDown order) ∧
    ∃ s, agents.run [.perform (.forwardUnix "/socket") {},
        .receive .direct { type := .noMoreConnections, connectionId := 0 }] = some s ∧ Nonempty (Ranges s.forward) ∧
      ∀ order, s.onShutdown order = .error .closeOfClosed ∧ ¬ s.ShutsDown order := by
  refine ⟨⟨_, rfl, Ranges.nonempty [] .nil ?_, fun order => ⟨rfl, ?_⟩⟩,
    ⟨_, rfl, Ranges.nonempty [] .nil ?_, fun order => ⟨rfl, ?_⟩⟩⟩
  case refine_1 | refine_3 => exact fun key => iff_of_false List.not_mem_nil Bool.false_ne_true
  all_goals
    rintro ⟨t, hok, -⟩
    cases hok

end ContainerSSH.Agent
