/-
The wait group of a proxy connection.
-/
import ContainerSSH.Message
import ContainerSSH.TransitionSystem

namespace ContainerSSH.SSHProxy.Accounting

inductive Kind where
  | session
  | forward
deriving DecidableEq

inductive Stage where
  | opening
  | failed (rejection : GoError)
  | established
  | closed

structure Channel where
  kind : Kind
  stage : Stage

inductive OpenOutcome where
  | success
  /-- An `OpenChannelError`. -/
  | rejected (reason : RejectionReason) (message : String)
  | fails (err : GoError)

structure Network where
  wg : Int := 0
  /-- `OnDisconnect` holds the lock and waits. -/
  waiting : Bool := false
  done : Bool := false
  disconnected : Bool := false
  channels : List Channel := []
  /-- The answers to calls after the end of the connection. -/
  refused : List GoError := []

inductive Action where
  | opens (kind : Kind)
  | opened (i : Nat) (outcome : OpenOutcome)
  | closes (i : Nat)
  | disconnect
  | disconnected

def Kind.shuttingDown : Kind → GoError
  | .session =>
    newChannelRejection .connectionFailed "SSHPROXY_SHUTTING_DOWN" "Cannot open session."
      "Rejected new session because connection is closing."
  | .forward =>
    newChannelRejection .connectionFailed "SSHPROXY_SHUTTING_DOWN" "Cannot open forward."
      "Rejected new forwarding because connection is closing."

def Kind.failedCode : Kind → String
  | .session => "SSHPROXY_BACKEND_SESSION_FAILED"
  | .forward => "SSHPROXY_BACKEND_FORWARD_FAILED"

def Kind.rejection (kind : Kind) : OpenOutcome → Option GoError
  | .success => none
  | .rejected reason text =>
    some (newChannelRejection reason kind.failedCode text
      ("Backend rejected channel with message: " ++ text))
  | .fails err =>
    some (newChannelRejection .connectionFailed kind.failedCode "Cannot open session."
      ("Backend rejected channel with message: " ++ err.error))

namespace Network

def opens (n : Network) (kind : Kind) : Network :=
  if n.done then { n with refused := n.refused ++ [kind.shuttingDown] }
  else { n with wg := n.wg + 1, channels := n.channels ++ [⟨kind, .opening⟩] }

def opened (n : Network) (i : Nat) (kind : Kind) (outcome : OpenOutcome) :
    Network :=
  match kind.rejection outcome, kind with
  | none, _ => { n with channels := n.channels.set i ⟨kind, .established⟩ }
  | some rejection, .session =>
    { n with wg := n.wg - 1, channels := n.channels.set i ⟨kind, .failed rejection⟩ }
  | some rejection, .forward => { n with channels := n.channels.set i ⟨kind, .failed rejection⟩ }

def closes (n : Network) (i : Nat) : Kind → Network
  | .session => { n with wg := n.wg - 1, channels := n.channels.set i ⟨.session, .closed⟩ }
  | .forward => { n with channels := n.channels.set i ⟨.forward, .closed⟩ }

def step (n : Network) : Action → Option Network
  | .opens kind => if n.waiting then none else some (n.opens kind)
  | .opened i outcome =>
    match n.channels[i]? with
    | some ⟨kind, .opening⟩ => some (n.opened i kind outcome)
    | _ => none
  | .closes i =>
    match n.channels[i]? with
    | some ⟨kind, .established⟩ => some (n.closes i kind)
    | _ => none
  | .disconnect => if n.waiting then none else some { n with waiting := true }
  -- `wg.Wait()` returns when the counter is zero.
  | .disconnected =>
    if n.waiting ∧ n.wg = 0 then
      some { n with waiting := false, done := true, disconnected := true }
    else none

end Network

def system : TransitionSystem Network Action := ⟨{}, Network.step⟩

def Stage.InUse : Stage → Bool
  | .opening => true
  | .established => true
  | _ => false

def Channel.InUse (c : Channel) : Bool := c.stage.InUse

def Channel.Counted (c : Channel) : Bool := c.stage.InUse || decide (c.kind = .forward)

section Invariant

variable {n m : Network}

theorem countP_set_of {channels : List Channel} {i : Nat} {old new : Channel}
    (hi : channels[i]? = some old) : ((channels.set i new).countP Channel.Counted : Int) =
      channels.countP Channel.Counted - (old.Counted).toNat + (new.Counted).toNat := by
  obtain ⟨hlt, hget⟩ := List.getElem?_eq_some_iff.mp hi
  have hpos : old.Counted = true → 0 < channels.countP Channel.Counted :=
    fun h => List.countP_pos_iff.mpr ⟨old, List.mem_of_getElem? hi, h⟩
  rw [List.countP_set hlt, hget]
  cases hold : old.Counted with
  | false => cases hnew : new.Counted <;> simp
  | true =>
    have := hpos hold
    cases hnew : new.Counted <;> simp <;> omega

theorem wg_step (hn : n.wg = n.channels.countP Channel.Counted) {action : Action}
    (hstep : n.step action = some m) : m.wg = m.channels.countP Channel.Counted := by
  cases action with
  | opens =>
    obtain ⟨-, ⟨⟩⟩ := Option.ite_none_left_eq_some.mp hstep
    rw [Network.opens]
    split
    next => exact hn
    next => simp [hn, Channel.Counted, Stage.InUse]
  | opened =>
    rw [Network.step] at hstep
    split at hstep
    next kind hi =>
      cases hstep
      unfold Network.opened
      split
      next => simp [countP_set_of hi, hn, Channel.Counted, Stage.InUse]
      next => simp [countP_set_of hi, hn, Channel.Counted, Stage.InUse]
      next => simp [countP_set_of hi, hn, Channel.Counted]
    next => cases hstep
  | closes =>
    rw [Network.step] at hstep
    split at hstep
    next kind hi =>
      cases hstep
      cases kind with
      | session | forward =>
        simp [Network.closes, countP_set_of hi, hn, Channel.Counted, Stage.InUse]
    next => cases hstep
  | disconnect =>
    obtain ⟨-, ⟨⟩⟩ := Option.ite_none_left_eq_some.mp hstep
    exact hn
  | disconnected =>
    obtain ⟨-, ⟨⟩⟩ := Option.ite_none_right_eq_some.mp hstep
    exact hn

theorem wg_of_reachable (hn : system.Reachable n) : n.wg = n.channels.countP Channel.Counted := by
  have hstep : ∀ n action m, n.wg = n.channels.countP Channel.Counted →
      system.step n action = some m → m.wg = m.channels.countP Channel.Counted :=
    fun _ _ _ hn hstep => wg_step hn hstep
  exact hn.invariant (by rfl) hstep

theorem countP_counted_eq_iff (channels : List Channel) :
    channels.countP Channel.InUse ≤ channels.countP Channel.Counted ∧
      (channels.countP Channel.Counted = channels.countP Channel.InUse ↔
        ∀ c ∈ channels, c.kind = .forward → c.InUse = true) := by
  induction channels with
  | nil => simp
  | cons c rest ih =>
    obtain ⟨hle, hiff⟩ := ih
    rw [List.forall_mem_cons, ← hiff]
    cases hkind : c.kind <;> cases huse : c.stage.InUse <;>
      simp [Channel.Counted, Channel.InUse, hkind, huse] <;> omega

end Invariant

/-- The wait group is the number of channels in use exactly as long as no
forwarded connection has failed or was closed.  Once no channel is in use
`OnDisconnect` passes the wait group exactly if there never was a forwarded
connection. -/
theorem wg_eq_open_iff {n : Network} (hn : system.Reachable n) :
    (n.wg = n.channels.countP Channel.InUse ↔
        ∀ c ∈ n.channels, c.kind = .forward → c.InUse = true) ∧
      ((∀ c ∈ n.channels, c.InUse = false) → n.waiting = true →
        ((n.step .disconnected).isSome = true ↔ ∀ c ∈ n.channels, c.kind ≠ .forward)) := by
  have hwg := wg_of_reachable hn
  refine ⟨?_, fun hunused hwaiting => ?_⟩
  · rw [hwg, Int.ofNat_inj]
    exact (countP_counted_eq_iff n.channels).2
  · have hpasses : (n.step .disconnected).isSome = true ↔ n.wg = 0 := by
      rw [Network.step]
      split
      next h => simp [h.2]
      next h => simpa [hwaiting] using h
    rw [hpasses, hwg, Int.natCast_eq_zero, List.countP_eq_zero]
    refine forall₂_congr fun c hc => ?_
    have hnot : c.stage.InUse = false := hunused c hc
    simp [Channel.Counted, hnot]

theorem session_leaves_wg_zero : (∃ n, system.run [.opens .session, .opened 0 .success,
        .opens .forward, .opened 1 .success, .closes 0] = some n ∧
      n.wg = n.channels.countP Channel.InUse) ∧ ∃ n, system.run [.opens .session,
        .opened 0 .success, .closes 0, .disconnect] = some n ∧
      (n.step .disconnected).isSome = true := by
  constructor <;> refine TransitionSystem.exists_run _ rfl fun n hrun => ?_
  · have hopen := (wg_eq_open_iff ⟨_, hrun⟩).1
    rw [← Option.some.inj hrun] at hopen ⊢
    exact hopen.mpr (by decide)
  · have hpasses := (wg_eq_open_iff ⟨_, hrun⟩).2
    rw [← Option.some.inj hrun] at hpasses ⊢
    exact (hpasses (by decide) rfl).mpr (by decide)

/-- A forwarded connection that was refused: nothing is open, and `OnDisconnect`
waits for ever. -/
theorem failed_forward_stays_counted : ∃ n, system.run [.opens .forward,
        .opened 0 (.rejected .connectionFailed "refused"), .disconnect] = some n ∧
      n.channels.countP Channel.InUse = 0 ∧ n.wg = 1 ∧ n.step .disconnected = none :=
  ⟨_, rfl, rfl, rfl, rfl⟩

end ContainerSSH.SSHProxy.Accounting
