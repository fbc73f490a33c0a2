/-
The ids under which connections are entered into the map of an end.
-/
import ContainerSSH.AgentAllocation

namespace ContainerSSH.Agent

namespace ForwardCtx

variable {ctx next : ForwardCtx} {action : EndpointAction}

def Uses (ctx : ForwardCtx) (id : UInt64) : Prop := (ctx.directory id).isSome = true

structure Fresh (ctx : ForwardCtx) (action : EndpointAction)
    (next : ForwardCtx) : Prop where
  kept : ∀ id, ctx.Uses id → next.Uses id
  larger : ∀ id, ¬ ctx.Uses id → next.Uses id → ∀ earlier, ctx.Uses earlier → earlier < id
  bounded : ∀ id, next.Uses id → id ≤ next.connectionId
  opens : ∀ details, action = .newConnection details → ¬ ctx.Uses (ctx.connectionId + 1)

/-- The next identifier does not overflow. -/
def IdLeft (ctx : ForwardCtx) : EndpointAction → Prop
  | .newConnection _ => ctx.connectionId.toNat + 1 < UInt64.size
  | _ => True

instance decidableIdLeft (ctx : ForwardCtx) (action : EndpointAction) :
    Decidable (ctx.IdLeft action) := by
  induction action using EndpointAction.casesOn <;> unfold IdLeft <;>
    infer_instance

structure Entered (ctx : ForwardCtx) (id : UInt64) (next : ForwardCtx) :
    Prop where
  unused : ¬ ctx.Uses id
  uses : ∀ i, next.Uses i ↔ i = id ∨ ctx.Uses i
  connectionId : next.connectionId = id

inductive Numbers (ctx : ForwardCtx) : EndpointAction → ForwardCtx → Prop
  | keeps (action : EndpointAction) (next : ForwardCtx)
      (hother : ∀ details, action ≠ .newConnection details) (huses : ∀ i, next.Uses i ↔ ctx.Uses i)
      (hid : next.connectionId = ctx.connectionId) : Numbers ctx action next
  | registers (packet : Packet) (next : ForwardCtx)
      (hnewer : ctx.connectionId < packet.connectionId)
      (hentered : Entered ctx packet.connectionId next) : Numbers ctx (.receive packet) next
  | opens (details : NewConnectionPayload) (next : ForwardCtx)
      (hentered : Entered ctx (ctx.connectionId + 1) next) :
      Numbers ctx (.newConnection details) next
  | clashes (details : NewConnectionPayload) (next : ForwardCtx)
      (hused : ctx.Uses (ctx.connectionId + 1)) : Numbers ctx (.newConnection details) next

theorem uses_iff_of_directory (hsame : next.directory = ctx.directory)
    (id : UInt64) : next.Uses id ↔ ctx.Uses id := by
  rw [Uses, Uses, hsame]

variable {details : NewConnectionPayload}

theorem Registers.entered {packet : Packet} {added : ForwardCtx}
    (hregisters : Registers ctx packet added details) (hsame : next.directory = added.directory)
    (hid : next.connectionId = packet.connectionId) : Entered ctx packet.connectionId next where
  unused := by simp [Uses, directory_isSome, hregisters.unknown]
  uses := by
    intro i
    rw [uses_iff_of_directory hsame, Uses, hregisters.directory]
    split_ifs with hi <;> simp [hi, Uses]
  connectionId := hid

theorem numbers_of_newConnection {out : List Packet}
    (hopens : ctx.newConnection details = .ok (next, out)) :
    Numbers ctx (.newConnection details) next := by
  simp only [newConnection, lock_bind_eq_ok] at hopens
  obtain ⟨-, hopens⟩ := hopens
  split_ifs at hopens with hused
  · exact .clashes details next (by rwa [Uses, directory_isSome])
  · cases hopens
    refine .opens details _ ⟨by rwa [Uses, directory_isSome], ?_, rfl⟩
    intro i
    rw [Uses, directory_isSome, Uses, directory_isSome]
    by_cases hi : i = ctx.connectionId + 1 <;> simp [setConnection, hi]

theorem numbers_of_step (hstep : ctx.step action = some next) : Numbers ctx action next := by
  cases steps_of_step hstep with
  | newConnection details next out hopens => exact numbers_of_newConnection hopens
  | call id call c c' out hconn hcall =>
    have hsame := directory_setConnection hconn (call_details hcall)
    exact .keeps _ _ (by simp) (uses_iff_of_directory hsame) rfl
  | closeImm id c hconn =>
    obtain ⟨hsame, hid⟩ := directory_closeConnectionImm hconn
    exact .keeps _ _ (by simp) (uses_iff_of_directory hsame) hid
  | noMoreConnections => exact .keeps _ _ (by simp) (fun _ => Iff.rfl) rfl
  | receive packet next out hhandle =>
    rcases (handles_of_handlePacket hhandle).directory with
      ⟨hsame, hid, -⟩ | ⟨added, details, -, hregisters, hsame, hid⟩
    · exact .keeps _ _ (by simp) (uses_iff_of_directory hsame) hid
    · exact .registers packet next hregisters.newer (hregisters.entered hsame hid)

structure Counted (ctx : ForwardCtx) : Prop where
  bounded : ∀ id, ctx.Uses id → id ≤ ctx.connectionId
  last : ctx.connectionId ≠ 0 → ctx.Uses ctx.connectionId

theorem counted_init : Counted endpoint.init where
  bounded := by simp [endpoint, Uses, directory]
  last := by simp [endpoint]

variable {id : UInt64}

theorem Counted.entered (hctx : ctx.Counted) (hentered : Entered ctx id next)
    (habove : ctx.connectionId < id) :
    next.Counted where
  bounded := by
    intro i huses
    rw [hentered.connectionId]
    rcases (hentered.uses i).mp huses with rfl | hearlier
    · exact UInt64.le_refl _
    · exact UInt64.le_of_lt (UInt64.lt_of_le_of_lt (hctx.bounded i hearlier) habove)
  last := by
    intro _
    rw [hentered.connectionId, hentered.uses]
    exact .inl rfl

theorem Counted.fresh_of_entered (hctx : ctx.Counted)
    (hentered : Entered ctx id next) (habove : ctx.connectionId < id)
    (hopens : ∀ details, action = .newConnection details →
      id = ctx.connectionId + 1) : Fresh ctx action next where
  kept := fun i huses => (hentered.uses i).mpr (.inr huses)
  larger := by
    intro i hnot huses earlier hearlier
    have hi : i = id := ((hentered.uses i).mp huses).resolve_right hnot
    rw [hi]
    exact UInt64.lt_of_le_of_lt (hctx.bounded earlier hearlier) habove
  bounded := (hctx.entered hentered habove).bounded
  opens := fun details hnew => hopens details hnew ▸ hentered.unused

theorem lt_add_one (hleft : id.toNat + 1 < UInt64.size) : id < id + 1 := by
  rw [UInt64.lt_iff_toNat_lt, UInt64.toNat_add]
  have hone : (1 : UInt64).toNat = 1 := rfl
  have hmod := Nat.mod_eq_of_lt hleft
  simp only [UInt64.size] at hmod
  omega

theorem add_one_eq_zero (hlast : ¬ id.toNat + 1 < UInt64.size) : id ≠ 0 ∧ id + 1 = 0 := by
  have hlt := id.toNat_lt_size
  have hid : id.toNat + 1 = UInt64.size := by omega
  constructor
  · rintro rfl
    simp at hid
  · apply UInt64.toNat.inj
    rw [UInt64.toNat_add]
    have hone : (1 : UInt64).toNat = 1 := rfl
    rw [hone, hid]
    rfl

theorem Counted.not_fresh_of_wrap (hctx : ctx.Counted)
    (hwraps : ¬ ctx.connectionId.toNat + 1 < UInt64.size)
    (hstep : ctx.step (.newConnection details) = some next) :
    ¬ Fresh ctx (.newConnection details) next := by
  intro hfresh
  obtain ⟨hmoved, hzero⟩ := add_one_eq_zero hwraps
  have hunused := hfresh.opens details rfl
  cases numbers_of_step hstep with
  | keeps _ _ hother => exact hother details rfl
  | clashes _ _ hused => exact hunused hused
  | opens _ _ hentered =>
    have hless := hfresh.larger (ctx.connectionId + 1) hunused
      ((hentered.uses _).mpr (.inl rfl)) ctx.connectionId (hctx.last hmoved)
    rw [hzero] at hless
    exact absurd hless (by simp)

theorem Counted.fresh_iff (hctx : ctx.Counted) (hstep : ctx.step action = some next) :
    Fresh ctx action next ↔ ctx.IdLeft action := by
  constructor
  · intro hfresh
    cases action with
    | newConnection =>
      by_contra hwraps
      exact hctx.not_fresh_of_wrap hwraps hstep hfresh
    | _ => trivial
  · intro hleft
    cases numbers_of_step hstep with
    | keeps _ _ hother huses hid =>
      refine ⟨fun i => (huses i).mpr, ?_, ?_, ?_⟩
      · intro i hnot hi
        exact absurd ((huses i).mp hi) hnot
      · intro i hi
        rw [hid]
        exact hctx.bounded i ((huses i).mp hi)
      · intro details hnew
        exact absurd hnew (hother details)
    | registers packet _ hnewer hentered => exact hctx.fresh_of_entered hentered hnewer (by simp)
    | opens details _ hentered =>
      exact hctx.fresh_of_entered hentered (lt_add_one hleft) (fun _ _ => rfl)
    | clashes details _ hused =>
      have hle := hctx.bounded _ hused
      have hlt := lt_add_one hleft
      rw [UInt64.le_iff_toNat_le] at hle
      rw [UInt64.lt_iff_toNat_lt] at hlt
      omega

theorem Counted.step (hctx : ctx.Counted) (hleft : ctx.IdLeft action)
    (hstep : ctx.step action = some next) : next.Counted := by
  have hfresh := (hctx.fresh_iff hstep).mpr hleft
  refine ⟨hfresh.bounded, ?_⟩
  cases numbers_of_step hstep with
  | keeps _ _ hother huses hid =>
    intro hmoved
    rw [hid] at hmoved ⊢
    exact (huses _).mpr (hctx.last hmoved)
  | registers packet _ hnewer hentered => exact (hctx.entered hentered hnewer).last
  | opens details _ hentered => exact (hctx.entered hentered (lt_add_one hleft)).last
  | clashes details _ hused => exact absurd hused (hfresh.opens details rfl)

end ForwardCtx

/-- The ids are fresh at every step of exactly the runs in which the counter
does not wrap around. -/
theorem ids_fresh_iff {actions : List EndpointAction} {ctx : ForwardCtx}
    (hrun : endpoint.run actions = some ctx) :
    (∀ before action after r t, actions = before ++ action :: after →
        endpoint.run before = some r → endpoint.step r action = some t →
        ForwardCtx.Fresh r action t) ↔ endpoint.Meets ForwardCtx.IdLeft endpoint.init actions :=
  endpoint.forall_step_iff_meets (fun _ _ _ hctx hleft hstep => hctx.step hleft hstep)
    (fun _ _ _ hctx hstep => hctx.fresh_iff hstep) ForwardCtx.counted_init hrun

def skippedIds : List EndpointAction :=
  [.newConnection forwardedPort, .receive (ForwardCtx.newPacket 7 forwardedPort),
    .newConnection forwardedPort]

theorem ids_fresh_skippedIds : ∃ ctx, endpoint.run skippedIds = some ctx ∧ ctx.connectionId = 8 ∧
      ∀ before action after r t, skippedIds = before ++ action :: after →
        endpoint.run before = some r → endpoint.step r action = some t →
        ForwardCtx.Fresh r action t := by
  refine TransitionSystem.exists_run _ rfl fun ctx hrun => ?_
  exact ⟨by rw [← Option.some.inj hrun]; rfl, (ids_fresh_iff hrun).mpr (by decide)⟩

/-- The peer uses up the ids with its first connections.  The next local
connection has the id zero, and the one after it finds its id in use. -/
theorem ids_wrap_around : ∃ r s t, endpoint.run [.receive (ForwardCtx.newPacket 1 forwardedPort),
        .receive (ForwardCtx.newPacket 18446744073709551615 forwardedPort)] = some r ∧
      r.step (.newConnection forwardedPort) = some s ∧
      s.step (.newConnection forwardedPort) = some t ∧
      (s.connMap 0).isSome = true ∧ s.connectionId = 0 ∧
      (s.connMap 18446744073709551615).isSome = true ∧
      (s.connMap (s.connectionId + 1)).isSome = true ∧
      ¬ ForwardCtx.Fresh r (.newConnection forwardedPort) s ∧
      ¬ ForwardCtx.Fresh s (.newConnection forwardedPort) t := by
  refine ⟨_, _, _, rfl, rfl, rfl, rfl, rfl, rfl, rfl, ?_, ?_⟩
  · intro hfresh
    have hbounded := hfresh.bounded 18446744073709551615 rfl
    exact absurd hbounded (by decide)
  · intro hfresh
    exact hfresh.opens forwardedPort rfl rfl

end ContainerSSH.Agent
