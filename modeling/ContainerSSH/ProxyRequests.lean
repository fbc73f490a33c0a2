/-
The order of the requests that a proxy session sends to the backing server for its client:
environment and terminal first, then one program, and only then signals and window changes.
-/
import ContainerSSH.ProxySession

namespace ContainerSSH.SSHProxy.Session

def Sent.starts (x : Sent) : Bool := x.kind.startsProgram && x.outcome = .accepted

def RequestKind.afterStart : RequestKind → Bool
  | .signal => true
  | .window => true
  | _ => false

/-- The requests come in an order that fits a program which is running or not. -/
def InOrder (started : Bool) : List Sent → Prop
  | [] => True
  | x :: rest => x.kind.afterStart = started ∧ InOrder (started || x.starts) rest

theorem refusal_eq_none_iff (kind : RequestKind) (started : Bool) :
    kind.refusal started = none ↔ kind.afterStart = started := by
  cases kind <;> cases started <;> simp [RequestKind.refusal, RequestKind.afterStart]

theorem send_eq_none_iff (kind : RequestKind) (outcome : SendOutcome) :
    kind.send outcome = none ↔ outcome = .accepted := by
  cases kind <;> cases outcome <;> simp [RequestKind.send, sendRequest]

theorem inOrder_append_iff {before after : List Sent} {started : Bool} :
    InOrder started (before ++ after) ↔
      InOrder started before ∧ InOrder (started || before.any Sent.starts) after := by
  induction before generalizing started with
  | nil => simp [InOrder]
  | cons x rest ih =>
    rw [List.cons_append, InOrder, InOrder, ih, List.any_cons, Bool.or_assoc, and_assoc]

/-- What was sent is in order, and the session counts as started from the
acceptance of a program on. -/
structure State.Orderly (s : State) : Prop where
  ok : s.Ok
  inOrder : InOrder false s.sent
  started : s.started = s.sent.any Sent.starts

section Steps

variable {s t : State}

theorem orderly_onRequest (hsent : InOrder false s.sent)
    (hstarted : s.started = s.sent.any Sent.starts) (kind : RequestKind) (outcome : SendOutcome) :
    InOrder false (s.onRequest kind outcome).sent ∧
      (s.onRequest kind outcome).started = (s.onRequest kind outcome).sent.any Sent.starts := by
  unfold State.onRequest State.send
  split
  next => exact ⟨hsent, hstarted⟩
  next hrefusal =>
    have hkind := (refusal_eq_none_iff kind s.started).mp hrefusal
    have horder : InOrder false (s.sent ++ [⟨kind, outcome⟩]) := by
      refine inOrder_append_iff.mpr ⟨hsent, ?_, trivial⟩
      rw [hkind, hstarted, Bool.false_or]
    split
    next err hsend =>
      obtain ⟨rfl, hfails⟩ := Prod.mk.inj hsend
      have hnot : outcome ≠ .accepted := fun h => by
        rw [(send_eq_none_iff kind outcome).mpr h] at hfails
        cases hfails
      exact ⟨horder, by simp [hstarted, Sent.starts, hnot]⟩
    next hsend =>
      obtain ⟨rfl, haccepted⟩ := Prod.mk.inj hsend
      have haccepted := (send_eq_none_iff kind outcome).mp haccepted
      exact ⟨horder, by simp [hstarted, Sent.starts, haccepted]⟩

theorem orderly_step {action : Action} (hs : s.Orderly) (hstep : s.step action = some t) :
    t.Orderly := by
  have hok := ok_step hs.ok hstep
  cases action with
  | request kind outcome =>
    have htake := (Option.ite_none_left_eq_some.mp hstep).2
    obtain ⟨-, ht⟩ := Option.ite_none_right_eq_some.mp htake
    cases ht
    obtain ⟨horder, hstarted⟩ := orderly_onRequest hs.inOrder hs.started kind outcome
    exact ⟨hok, horder, hstarted⟩
  | _ => cases does_of_step hs.ok hstep <;> exact ⟨hok, hs.inOrder, hs.started⟩

end Steps

theorem InOrder.countP_le {log : List Sent} {started : Bool} (horder : InOrder started log) :
    log.countP Sent.starts ≤ if started then 0 else 1 := by
  induction log generalizing started with
  | nil => simp
  | cons x rest ih =>
    have hrest := ih horder.2
    cases hstarts : x.starts with
    | false => simpa [hstarts] using hrest
    | true =>
      -- a request that starts a program is sent only while none is running
      have hnot : started = false := by
        rw [← horder.1]
        cases hkind : x.kind <;> simp_all [Sent.starts, RequestKind.startsProgram,
          RequestKind.afterStart]
      simpa [hstarts, hnot] using hrest

/-- For all requests of the client, all answers of the backing server and all steps
of the other goroutines between them: one program at most is accepted, environment
and terminal are requested before it, signals and window changes after it. -/
theorem requests_in_order {actions : List Action} {s : State}
    (hrun : system.run actions = some s) :
    s.sent.countP Sent.starts ≤ 1 ∧ ∀ before x after, s.sent = before ++ x :: after →
      (x.kind = .env ∨ x.kind = .pty → ∀ y ∈ before, y.starts = false) ∧
      (x.kind = .signal ∨ x.kind = .window → ∃ y ∈ before, y.starts = true) := by
  have horder : InOrder false s.sent :=
    (system.runFrom_invariant (fun _ _ _ hs hstep => orderly_step hs hstep)
      ⟨ok_init, trivial, rfl⟩ hrun).inOrder
  refine ⟨horder.countP_le, fun before x after hsent => ?_⟩
  rw [hsent, inOrder_append_iff] at horder
  have hafter : x.kind.afterStart = before.any Sent.starts := horder.2.1
  constructor
  · intro hkind
    have hnone : before.any Sent.starts = false := by
      rcases hkind with h | h <;> rw [← hafter, h] <;> rfl
    simpa using hnone
  · intro hkind
    rw [← List.any_eq_true, ← hafter]
    rcases hkind with h | h <;> rw [h] <;> rfl

def retried : List Action :=
  [.returned, .accept true, .request .signal .accepted, .request .env .accepted,
    .request .exec .rejected, .request .shell .accepted, .request .pty .accepted,
    .request .subsystem .accepted, .request .window .rejected]

theorem requests_in_order_retried : ∃ s, system.run retried = some s ∧ s.sent =
      [⟨.env, .accepted⟩, ⟨.exec, .rejected⟩, ⟨.shell, .accepted⟩, ⟨.window, .rejected⟩] ∧
    ∃ y ∈ [(⟨.env, .accepted⟩ : Sent), ⟨.exec, .rejected⟩, ⟨.shell, .accepted⟩],
      y.starts = true := by
  refine TransitionSystem.exists_run _ rfl fun s hrun => ?_
  have hsent : s.sent = [⟨.env, .accepted⟩, ⟨.exec, .rejected⟩, ⟨.shell, .accepted⟩,
      ⟨.window, .rejected⟩] := by
    rw [← Option.some.inj hrun]
    rfl
  exact ⟨hsent, ((requests_in_order hrun).2 _ ⟨.window, .rejected⟩ [] hsent).2 (.inr rfl)⟩

end ContainerSSH.SSHProxy.Session
