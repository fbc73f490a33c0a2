/-
What remains of a connection.
-/
import ContainerSSH.ServerSystem

namespace ContainerSSH.SSHServer

namespace Connection

/-- `handleConnection` has returned, and so has the watcher if there is one. -/
def Finished (c : Connection) : Prop :=
  c.point = .finished ∨ c.point = .serving ∧ c.watcher = .finished

end Connection

namespace Local

/-- Neither the maps nor the registry has an entry of the connection. -/
def Clean (l : Local) : Prop := l.network = false ∧ l.ssh = false ∧ l.conn = none ∧ l.socket = false

structure Tracked (id : String) (c : Connection) (l : Local) : Prop where
  wgDone : c.wgDone = (decide (c.point = .finished)).toNat + (decide (c.watcher = .finished)).toNat
  disconnects : c.disconnects = (c.networkConnected &&
      decide (c.point = .disconnected ∨ c.point = .finished)).toNat +
      (decide (c.watcher = .wgDone ∨ c.watcher = .finished)).toNat
  pending : c.point = .accepted ∨ c.point = .refused → c.networkConnected = false
  connected : c.point ≠ .accepted → c.point ≠ .refused →
    c.point ≠ .finished → c.networkConnected = true
  established : c.established = true ↔
    c.point = .established ∨ c.point = .watched ∨ c.point = .serving
  watcher : c.watcher ≠ .notStarted ↔ c.point = .watched ∨ c.point = .serving
  conn : l.conn = if c.established then some ⟨id⟩ else none
  socket : l.socket = true → c.established = true
  network : l.network = true → c.point = .handshake ∨ c.point = .aborting ∨
    c.point = .authenticated ∨ c.established = true
  ssh : l.ssh = true → c.point = .serving

def Consistent (id : String) (l : Local) : Prop :=
  match l.connection with
  | none => l.Clean
  | some c => l.Tracked id c

theorem Consistent.of_some {id : String} {l : Local} {c : Connection}
    (hl : l.Consistent id) (hc : l.connection = some c) : l.Tracked id c := by
  rw [Consistent, hc] at hl
  exact hl

theorem consistent_moves {action : Action} {id : String} {l l' : Local}
    (hl : l.Consistent id) (hmoves : Moves action id l l') : l'.Consistent id := by
  cases hmoves with
  | stays => exact hl
  | closes =>
    unfold Consistent at hl ⊢
    cases hc : l.connection with
    | none =>
      rw [hc] at hl
      exact ⟨hl.1, hl.2.1, hl.2.2.1, rfl⟩
    | some =>
      rw [hc] at hl
      exact { hl with socket := by simp }
  | accepts hnone =>
    rw [Consistent, hnone] at hl
    obtain ⟨hnetwork, hssh, hconn, hsocket⟩ := hl
    constructor <;> simp [hnetwork, hssh, hconn, hsocket]
  | ends c hc hpoint =>
    obtain ⟨hwg, hdisc, hpending, hconnected, hestablished, hwatcher, hconn,
      hsocket, hnetwork, hssh⟩ := hl.of_some hc
    rcases hpoint with hpoint | hpoint <;>
      constructor <;> first | assumption | simp_all
  | _ c hc =>
    obtain ⟨hwg, hdisc, hpending, hconnected, hestablished, hwatcher, hconn,
      hsocket, hnetwork, hssh⟩ := hl.of_some hc
    constructor <;> first | assumption | simp_all

theorem consistent_of_reachable {s : Server} (hs : server.Reachable s)
    (id : String) : (s.local id).Consistent id := by
  have hinit : (server.init.local id).Consistent id := ⟨rfl, rfl, rfl, rfl⟩
  have hstep : ∀ s a t, (s.local id).Consistent id → server.step s a = some t →
      (t.local id).Consistent id :=
    fun s a t hl hstep => consistent_moves hl (Server.moves_of_step hstep id)
  exact hs.invariant hinit hstep

def Unauthenticated (l : Local) : Prop :=
  ∀ c, l.connection = some c → c.point ≠ .authenticated ∧ c.established = false

theorem unauthenticated_moves {action : Action} {id : String} {l l' : Local}
    (hmoves : Moves action id l l')
    (hfails : ∀ metadataID, action ≠ .handshake id (.succeeded metadataID)) :
    l'.Unauthenticated ↔ l.Unauthenticated := by
  cases hmoves with
  | stays | closes => rfl
  | authenticates c hc hpoint metadataID haction => exact absurd haction (hfails metadataID)
  | accepts hnone => simp [Unauthenticated, hnone]
  | ends c hc hpoint => rcases hpoint with hpoint | hpoint <;> simp [Unauthenticated, hc, hpoint]
  | _ c hc hpoint => simp [Unauthenticated, hc, hpoint]

theorem unauthenticated_step {s t : Server} {action : Action}
    (hstep : server.step s action = some t) (id : String) :
    (t.local id).Unauthenticated ↔ (s.local id).Unauthenticated ∧
      ∀ metadataID, action ≠ .handshake id (.succeeded metadataID) := by
  by_cases hfails : ∀ metadataID, action ≠ .handshake id (.succeeded metadataID)
  · rw [and_iff_left hfails, unauthenticated_moves (Server.moves_of_step hstep id) hfails]
  · refine iff_of_false (fun h => ?_) fun h => hfails h.2
    push Not at hfails
    obtain ⟨metadataID, rfl⟩ := hfails
    obtain ⟨-, -, hact⟩ := Server.act_of_step hstep
    obtain ⟨c, -, hend⟩ := Option.bind_eq_some_iff.mp hact
    obtain ⟨-, ⟨⟩⟩ := Option.ite_none_right_eq_some.mp hend
    exact (h _ (by rw [Server.local_setConnection, if_pos rfl])).1 rfl

theorem unauthenticated_iff {actions : List Action} {s : Server}
    (hrun : server.run actions = some s) (id : String) : (s.local id).Unauthenticated ↔
      ∀ metadataID, .handshake id (.succeeded metadataID) ∉ actions := by
  have hinit : (server.init.local id).Unauthenticated := by rintro c ⟨⟩
  rw [server.runFrom_iff_meets (fun _ _ _ h _ => h)
    (fun _ _ _ (_ : True) hstep => unauthenticated_step hstep id) trivial hrun,
    and_iff_right hinit, server.meets_iff_forall_mem hrun]
  exact ⟨fun h metadataID hmem => h _ hmem metadataID rfl,
    fun h action hmem metadataID heq => h metadataID (heq ▸ hmem)⟩

end Local

/-- `wg.Done` is called once for each accepted connection and `OnDisconnect` once if
`OnNetworkConnection` succeeded.  A connection whose handshake succeeded leaves its entries
behind. -/
theorem bookkeeping_of_finished {actions : List Action} {s : Server}
    (hrun : server.run actions = some s) {id : String} {c : Connection}
    (hc : s.connections id = some c) :
    c.wgDone ≤ 1 ∧ c.disconnects ≤ 1 ∧
      (c.Finished → c.wgDone = 1 ∧ c.disconnects = c.networkConnected.toNat ∧ ((s.local id).Clean ↔
          ∀ metadataID, .handshake id (.succeeded metadataID) ∉ actions)) := by
  have hflag : (s.local id).Unauthenticated ↔ c.point ≠ .authenticated ∧ c.established = false := by
    simp [Local.Unauthenticated, Server.local, hc]
  rw [← Local.unauthenticated_iff hrun, hflag]
  obtain ⟨hwg, hdisconnects, hpending, hconnected, hestablished, hwatcher, hconn,
    hsocket, hnetwork, hssh⟩ := (Local.consistent_of_reachable ⟨_, hrun⟩ id).of_some hc
  have halone : c.watcher ≠ .notStarted → c.point ≠ .finished ∧ c.point ≠ .disconnected := by
    intro hstarted
    rcases hwatcher.mp hstarted with hpoint | hpoint <;> simp [hpoint]
  by_cases hstarted : c.watcher = .notStarted
  · have hle := Bool.toNat_le (decide (c.point = .finished))
    have hle' := Bool.toNat_le (c.networkConnected &&
      decide (c.point = .disconnected ∨ c.point = .finished))
    refine ⟨by simp_all, by simp_all, ?_⟩
    rintro (hpoint | ⟨hpoint, hfinished⟩)
    · simp_all [Local.Clean]
    · simp_all
  · obtain ⟨hfinished, hdisconnected⟩ := halone hstarted
    have hle := Bool.toNat_le (decide (c.watcher = .finished))
    have hle' := Bool.toNat_le (decide (c.watcher = .wgDone ∨ c.watcher = .finished))
    refine ⟨by simp_all, by simp_all, ?_⟩
    rintro (hpoint | ⟨hpoint, hend⟩)
    · exact absurd hpoint hfinished
    · simp_all [Local.Clean]

theorem bookkeeping_of_failed_handshake :
    ∃ s c, server.Reachable s ∧ s.connections "a" = some c ∧ c.Finished ∧
      c.wgDone = 1 ∧ c.disconnects = 1 ∧ (s.local "a").Clean := by
  have hrun : ∃ s c, server.run [.accept "a", .onNetworkConnection "a" true,
      .advance "a", .handshake "a" .failed, .advance "a", .advance "a",
      .advance "a"] = some s ∧ s.connections "a" = some c ∧ c.Finished ∧
      c.networkConnected = true :=
    ⟨_, _, rfl, rfl, .inl rfl, rfl⟩
  obtain ⟨s, c, hrun, hc, hfinished, hconnected⟩ := hrun
  obtain ⟨-, -, hend⟩ := bookkeeping_of_finished hrun hc
  obtain ⟨hwg, hdisconnects, hclean⟩ := hend hfinished
  exact ⟨s, c, ⟨_, hrun⟩, hc, hfinished, hwg, by rw [hdisconnects, hconnected]; rfl,
    hclean.mpr (by simp)⟩

/-- The client is gone before the connection is registered: the entries in both
maps and in the registry stay. -/
theorem overtaken_registration_leaks :
    ∃ s c, server.Reachable s ∧ s.connections "a" = some c ∧ c.Finished ∧
      c.wgDone = 1 ∧ c.disconnects = 1 ∧ s.local "a" = ⟨some c, false, true, some ⟨"a"⟩, true⟩ :=
  ⟨_, _, ⟨[.accept "a", .onNetworkConnection "a" true, .advance "a",
      .handshake "a" (.succeeded "a"), .advance "a", .advance "a",
      .watch "a", .watch "a", .watch "a", .watch "a", .watch "a",
      .advance "a"], rfl⟩, rfl, .inr ⟨rfl, rfl⟩, rfl, rfl, rfl⟩

end ContainerSSH.SSHServer
