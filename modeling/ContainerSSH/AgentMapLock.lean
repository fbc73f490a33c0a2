/-
The lock of the connection map under an arbitrary peer.
-/
import ContainerSSH.AgentEndpoint

namespace ContainerSSH.Agent

namespace ForwardCtx

variable {ctx next : ForwardCtx} {packet : Packet} {out : List Packet}

/-- The two calls that return with the lock on the map. -/
def LeavesLocked (ctx : ForwardCtx) : EndpointAction → Prop
  | .newConnection _ => (ctx.connMap (ctx.connectionId + 1)).isSome = true
  | .receive packet => packet.type = .closeConnection ∧ ctx.connMap packet.connectionId = none
  | _ => False

structure MapAvailable (ctx : ForwardCtx) : Prop where
  released : ctx.connMapMu = false
  acquired : ∀ packet, ctx.handlePacket packet ≠ .error .connMapMu

theorem lock_bind_of_free {rest : Except Stuck (ForwardCtx × List Packet)}
    (hfree : ctx.connMapMu = false) : (ctx.lock >>= fun _ => rest) = rest := by
  simp [lock, hfree, bind, Except.bind]

theorem handlePacket_ne_connMapMu (hfree : ctx.connMapMu = false)
    (packet : Packet) : ctx.handlePacket packet ≠ .error .connMapMu := by
  unfold handlePacket
  split
  · rw [handleData, lock_bind_of_free hfree]
    split
    · simp
    · split_ifs <;> simp
  · rw [handleClose, lock_bind_of_free hfree]
    split <;> simp
  · rw [handleSuccess, lock_bind_of_free hfree]
    split
    · simp
    · split <;> simp
  · rw [handleError, lock_bind_of_free hfree]
    split <;> simp
  · unfold handleNewConnection
    split
    · simp
    · rw [lock_bind_of_free hfree]
      split_ifs
      · simp
      · simp
      · dsimp only
        split_ifs <;> simp
  · split_ifs <;> simp
  · simp
  · simp

theorem mapAvailable_iff : MapAvailable ctx ↔ ctx.connMapMu = false := by
  constructor
  · exact MapAvailable.released
  · exact fun hfree => ⟨hfree, handlePacket_ne_connMapMu hfree⟩

theorem newConnection_connMapMu {details : NewConnectionPayload}
    (hopens : ctx.newConnection details = .ok (next, out)) : ctx.connMapMu = false ∧
      next.connMapMu = (ctx.connMap (ctx.connectionId + 1)).isSome := by
  simp only [newConnection, lock_bind_eq_ok] at hopens
  obtain ⟨hfree, hopens⟩ := hopens
  split_ifs at hopens with hknown <;> cases hopens
  · simp [hfree, hknown]
  · simp [setConnection, hfree, hknown]

theorem closeConnectionImm_connMapMu (id : UInt64) (c : Connection) :
    (ctx.closeConnectionImm id c).1.connMapMu = ctx.connMapMu := by
  unfold closeConnectionImm
  cases c.closeImm <;> rfl

def held (ctx : ForwardCtx) : Int := ctx.connMapMu.toNat

theorem Handles.held (hhandles : Handles ctx packet next out) :
    (ctx.LeavesLocked (.receive packet) → next.held = ctx.held + 1) ∧
      (¬ ctx.LeavesLocked (.receive packet) → next.held = ctx.held) := by
  cases hhandles with
  | ignores hnew hclose => exact ⟨fun hleaves => absurd hleaves.1 hclose, fun _ => rfl⟩
  | delivers c htype | starts c htype | stops htype =>
    exact ⟨by simp [LeavesLocked, htype], fun _ => rfl⟩
  | acknowledges c htype | fails c htype =>
    refine ⟨by simp [LeavesLocked, htype], fun _ => ?_⟩
    rw [ForwardCtx.held, closeConnectionImm_connMapMu, ForwardCtx.held]
  | closes c htype hconn =>
    refine ⟨by simp [LeavesLocked, hconn], fun _ => ?_⟩
    rw [ForwardCtx.held, closeConnectionImm_connMapMu, ForwardCtx.held]
  | leavesLocked htype hconn hfree =>
    refine ⟨fun _ => ?_, fun hnot => absurd ⟨htype, hconn⟩ hnot⟩
    simp [ForwardCtx.held, hfree]
  | rejects added details htype hregisters | offers added details htype hregisters =>
    refine ⟨by simp [LeavesLocked, htype], fun _ => ?_⟩
    rw [hregisters.eq]
    rfl

theorem step_held {action : EndpointAction} (hstep : ctx.step action = some next) :
    (ctx.LeavesLocked action → next.held = ctx.held + 1) ∧
      (¬ ctx.LeavesLocked action → next.held = ctx.held) := by
  cases steps_of_step hstep with
  | newConnection details next out hopens =>
    obtain ⟨hfree, hnext⟩ := newConnection_connMapMu hopens
    simp only [LeavesLocked, held, hfree, hnext]
    exact ⟨fun hknown => by simp [hknown], fun hfresh => by simp [hfresh]⟩
  | call | noMoreConnections => exact ⟨False.elim, fun _ => rfl⟩
  | closeImm =>
    refine ⟨False.elim, fun _ => ?_⟩
    rw [held, closeConnectionImm_connMapMu, held]
  | receive packet next out hhandle => exact (handles_of_handlePacket hhandle).held

end ForwardCtx

/-- The map is available after exactly the runs in which no action returns
without unlocking it. -/
theorem mapAvailable_iff_released {actions : List EndpointAction}
    {ctx : ForwardCtx} (hrun : endpoint.run actions = some ctx) : ctx.MapAvailable ↔
      endpoint.Meets (fun ctx action => ¬ ctx.LeavesLocked action) {}
        actions := by
  obtain ⟨-, htally⟩ := endpoint.runFrom_tally
    (fun _ _ _ hstep hleaves => (ForwardCtx.step_held hstep).1 hleaves)
    (fun _ _ _ hstep hkeeps => (ForwardCtx.step_held hstep).2 hkeeps) hrun
  have hfree : ctx.held = endpoint.init.held ↔ ctx.connMapMu = false := by
    cases hheld : ctx.connMapMu <;> simp [ForwardCtx.held, endpoint, hheld]
  rw [ForwardCtx.mapAvailable_iff, ← hfree]
  exact htally

theorem mapAvailable_acceptedAndClosed :
    ∃ ctx, endpoint.run acceptedAndClosed = some ctx ∧ ctx.MapAvailable := by
  refine ⟨_, rfl, (@mapAvailable_iff_released acceptedAndClosed _ rfl).mpr ?_⟩
  refine endpoint.meets_cons ?_ rfl (endpoint.meets_cons ?_ rfl
    (endpoint.meets_cons ?_ rfl trivial))
  · rintro ⟨hclose, -⟩
    simp [ForwardCtx.newPacket] at hclose
  · exact id
  · rintro ⟨-, hunknown⟩
    exact absurd hunknown (Option.some_ne_none _)

def reusedId : List EndpointAction :=
  [.receive (ForwardCtx.newPacket 1 forwardedPort),
    .receive (ForwardCtx.newPacket 18446744073709551615 forwardedPort),
    .newConnection forwardedPort, .newConnection forwardedPort]

/-- A close packet for an unknown connection, or an id that is in use, stops
the packets of all connections. -/
theorem unknown_close_locks_map : (∃ ctx, endpoint.run
        [.receive { type := .closeConnection, connectionId := 5 }] = some ctx ∧
      ctx.handlePacket { type := .data, connectionId := 1 } = .error .connMapMu ∧
      ¬ ctx.MapAvailable) ∧ ∃ ctx, endpoint.run reusedId = some ctx ∧
      ctx.handlePacket { type := .data, connectionId := 1 } = .error .connMapMu ∧
      ¬ ctx.MapAvailable := by
  refine ⟨⟨_, rfl, rfl, ?_⟩, ⟨_, rfl, rfl, ?_⟩⟩
  · intro havailable
    exact absurd havailable.released (by decide)
  · intro havailable
    exact absurd havailable.released (by decide)

end ContainerSSH.Agent
