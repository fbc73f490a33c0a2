/-
The handler that counts connections and handshakes.
-/
import ContainerSSH.Message
import ContainerSSH.Metrics
import ContainerSSH.TransitionSystem

namespace ContainerSSH.Metrics

inductive HandlerMetric where
  | connections
  | currentConnections
  | handshakeSuccessful
  | handshakeFailed
deriving DecidableEq

namespace HandlerMetric

def metric : HandlerMetric → Metric
  | connections =>
    { name := "containerssh_ssh_connections_total"
      unit := "connections_total"
      help := "Number of connections since start"
      type := .counter }
  | currentConnections =>
    { name := "containerssh_ssh_current_connections"
      unit := "connections"
      help := "Current open SSH connections"
      type := .gauge }
  | handshakeSuccessful =>
    { name := "containerssh_ssh_successful_handshakes_total"
      unit := "handshakes_total"
      help := "Successful SSH handshakes since start"
      type := .counter }
  | handshakeFailed =>
    { name := "containerssh_ssh_failed_handshakes_total"
      unit := "handshakes_total"
      help := "Failed SSH handshakes since start"
      type := .counter }

def geo (m : HandlerMetric) : GeoMetric := { name := m.metric.name }

theorem name_eq_iff (m n : HandlerMetric) : m.metric.name = n.geo.name ↔ m = n := by
  cases m <;> cases n <;> decide

end HandlerMetric

def newHandler (enable : Bool) (c : Collector) : Option (Collector × Bool) :=
  if enable then do
    let c ← c.createMetric HandlerMetric.connections.metric
    let c ← c.createMetric HandlerMetric.currentConnections.metric
    let c ← c.createMetric HandlerMetric.handshakeSuccessful.metric
    let c ← c.createMetric HandlerMetric.handshakeFailed.metric
    some (c, true)
  else some (c, false)

structure NetworkHandler where
  client : RemoteAddress
  disconnected : Bool := false
  successful : Nat := 0
  failed : Nat := 0

structure Handler where
  collector : Collector := {}
  connections : List NetworkHandler := []

namespace Handler

variable (lookup : List UInt8 → String) (h : Handler)

def onNetworkConnection (answer : ConnectionMetadata × Option GoError) :
    Handler × ConnectionMetadata × Option GoError :=
  match answer with
  | (metadata, some err) => (h, metadata, some err)
  | (metadata, none) =>
    let ip := metadata.remoteAddress.ip
    let counted := HandlerMetric.connections.geo.counterIncrement lookup
      h.collector ip
    ({ collector :=
        HandlerMetric.currentConnections.geo.gaugeIncrement lookup counted ip
       connections := h.connections ++ [{ client := metadata.remoteAddress }] }, metadata, none)

def onHandshakeFailed (i : Nat) (c : NetworkHandler) : Handler :=
  { collector := HandlerMetric.handshakeFailed.geo.counterIncrement lookup h.collector c.client.ip
    connections := h.connections.modify i fun c => { c with failed := c.failed + 1 } }

def onHandshakeSuccess (i : Nat) (c : NetworkHandler)
    (failureReason : Option GoError) : Handler × Option GoError :=
  match failureReason with
  | some err =>
    ({ collector := HandlerMetric.handshakeFailed.geo.counterIncrement lookup
        h.collector c.client.ip
       connections := h.connections.modify i fun c => { c with failed := c.failed + 1 } },
      some err)
  | none =>
    ({ collector :=
        HandlerMetric.handshakeSuccessful.geo.counterIncrement lookup h.collector c.client.ip
       connections := h.connections.modify i fun c => { c with successful := c.successful + 1 } },
      none)

def onDisconnect (i : Nat) (c : NetworkHandler) : Handler :=
  if c.disconnected then h
  else
    { collector := HandlerMetric.currentConnections.geo.gaugeDecrement lookup
        h.collector c.client.ip
      connections := h.connections.modify i fun c => { c with disconnected := true } }

end Handler

inductive Call where
  | onNetworkConnection (answer : ConnectionMetadata × Option GoError)
  | onHandshakeFailed (i : Nat)
  | onHandshakeSuccess (i : Nat) (failureReason : Option GoError)
  | onDisconnect (i : Nat)
deriving DecidableEq

def Handler.step (lookup : List UInt8 → String) (h : Handler) : Call → Option Handler
  | .onNetworkConnection answer => some (h.onNetworkConnection lookup answer).1
  | .onHandshakeFailed i => h.connections[i]?.map fun c => h.onHandshakeFailed lookup i c
  | .onHandshakeSuccess i failureReason =>
    h.connections[i]?.map fun c => (h.onHandshakeSuccess lookup i c failureReason).1
  | .onDisconnect i => h.connections[i]?.map fun c => h.onDisconnect lookup i c

def initial : Handler where
  collector := ((newHandler true {}).getD ({}, false)).1

def handler (lookup : List UInt8 → String) : TransitionSystem Handler Call where
  init := initial
  step := Handler.step lookup

def NetworkHandler.contribution (c : NetworkHandler) : HandlerMetric → Int
  | .connections => 1
  | .currentConnections => if c.disconnected then 0 else 1
  | .handshakeSuccessful => c.successful
  | .handshakeFailed => c.failed

def NetworkHandler.counted (lookup : List UInt8 → String) (p : Labels → Bool)
    (m : HandlerMetric) (c : NetworkHandler) : Int :=
  if p (countryLabels (lookup c.client.ip)) then c.contribution m else 0

namespace Handler

structure Counts (lookup : List UInt8 → String) (h : Handler) : Prop where
  sound : h.collector.Sound
  sums : ∀ p m, h.collector.sumOver p m.metric.name =
    (h.connections.map (NetworkHandler.counted lookup p m)).sum

variable {lookup : List UInt8 → String} {h t : Handler} {call : Call}

theorem initial_values (name : String) : initial.collector.values name = none := rfl

theorem counts_initial : Counts lookup initial where
  sound := by
    intro name series hseries
    rw [initial_values] at hseries
    cases hseries
  sums := by
    intro p m
    rw [Collector.sumOver, Collector.getMetric, initial_values]
    rfl

theorem sumOver_change_metric {c : Collector} (hc : c.Sound)
    (m n : HandlerMetric) (ip : List UInt8) (amount : Int) (p : Labels → Bool) :
    (m.geo.change lookup c ip amount []).sumOver p n.metric.name = c.sumOver p n.metric.name +
        if n = m ∧ p (countryLabels (lookup ip)) then amount else 0 := by
  rw [GeoMetric.sumOver_change lookup rfl hc]
  simp only [n.name_eq_iff]

theorem Counts.change (hh : h.Counts lookup) {i : Nat} {c : NetworkHandler}
    (hc : h.connections[i]? = some c) (m : HandlerMetric) (amount : Int)
    {f : NetworkHandler → NetworkHandler} (hclient : (f c).client = c.client)
    (hamount : ∀ n, (f c).contribution n = c.contribution n + if n = m then amount else 0) :
    Counts lookup
      { collector := m.geo.change lookup h.collector c.client.ip amount []
        connections := h.connections.modify i f } := by
  refine ⟨GeoMetric.sound_change lookup rfl hh.sound _ _, fun p n => ?_⟩
  rw [sumOver_change_metric hh.sound, hh.sums, ListBlocks.sum_map_modify hc]
  simp only [NetworkHandler.counted, hclient, hamount]
  by_cases hp : p (countryLabels (lookup c.client.ip)) = true
  · simp only [hp, and_true, if_true]
    omega
  · simp [hp]

theorem Counts.onNetworkConnection (hh : h.Counts lookup)
    (answer : ConnectionMetadata × Option GoError) :
    (h.onNetworkConnection lookup answer).1.Counts lookup := by
  obtain ⟨metadata, err⟩ := answer
  cases err with
  | some => exact hh
  | none =>
    have hcounted : (HandlerMetric.connections.geo.change lookup h.collector
        metadata.remoteAddress.ip 1 []).Sound :=
      GeoMetric.sound_change lookup rfl hh.sound _ _
    refine ⟨GeoMetric.sound_change lookup rfl hcounted _ _, fun p m => ?_⟩
    refine (sumOver_change_metric hcounted _ m _ _ p).trans ?_
    rw [sumOver_change_metric hh.sound, hh.sums p m]
    simp only [Handler.onNetworkConnection, List.map_append, List.map_cons,
      List.map_nil, List.sum_append, List.sum_cons, List.sum_nil, NetworkHandler.counted]
    cases m <;> simp [NetworkHandler.contribution]

theorem Counts.onDisconnect (hh : h.Counts lookup) {i : Nat} {c : NetworkHandler}
    (hc : h.connections[i]? = some c) : (h.onDisconnect lookup i c).Counts lookup := by
  unfold Handler.onDisconnect
  split_ifs with hdone
  · exact hh
  · refine hh.change hc .currentConnections (-1) rfl ?_
    intro n
    cases n <;> simp [NetworkHandler.contribution, hdone]

theorem Counts.step (hh : h.Counts lookup) (hstep : h.step lookup call = some t) :
    t.Counts lookup := by
  cases call with
  | onNetworkConnection answer =>
    cases hstep
    exact hh.onNetworkConnection answer
  | onHandshakeFailed =>
    obtain ⟨c, hc, rfl⟩ := Option.map_eq_some_iff.mp hstep
    refine hh.change hc .handshakeFailed 1 rfl ?_
    intro n
    cases n <;> simp [NetworkHandler.contribution]
  | onHandshakeSuccess i failureReason =>
    obtain ⟨c, hc, rfl⟩ := Option.map_eq_some_iff.mp hstep
    cases failureReason
    case' some => refine hh.change hc .handshakeFailed 1 rfl ?_
    case' none => refine hh.change hc .handshakeSuccessful 1 rfl ?_
    all_goals
      intro n
      cases n <;> simp [NetworkHandler.contribution]
  | onDisconnect =>
    obtain ⟨c, hc, rfl⟩ := Option.map_eq_some_iff.mp hstep
    exact hh.onDisconnect hc

theorem counts_of_reachable (hh : (handler lookup).Reachable h) : h.Counts lookup :=
  hh.invariant counts_initial fun _ _ _ hcounts hstep => hcounts.step hstep

theorem Counts.reading_eq (hh : h.Counts lookup) (m : HandlerMetric) (country : String) :
    h.collector.reading m.metric.name country = (h.connections.map fun c =>
        if lookup c.client.ip = country then c.contribution m else 0).sum := by
  rw [Collector.reading, hh.sums]
  congr 2
  funext c
  simp only [NetworkHandler.counted, decide_eq_true_eq, countryLabels_inj]

end Handler

def Call.accepts : Call → List RemoteAddress
  | .onNetworkConnection (metadata, none) => [metadata.remoteAddress]
  | _ => []

/-- The clients of the accepted connections; `.onDisconnect i` is a call on the `i`-th of them. -/
def accepted (calls : List Call) : List RemoteAddress := calls.flatMap Call.accepts

section Runs

variable {lookup : List UInt8 → String} {h t : Handler} {call : Call} {calls : List Call}

theorem map_modify_eq {β : Type*} {l : List NetworkHandler} {i : Nat}
    {f : NetworkHandler → NetworkHandler} {g : NetworkHandler → β} (hg : ∀ c, g (f c) = g c) :
    (l.modify i f).map g = l.map g := by
  apply List.ext_getElem?
  intro k
  rw [List.getElem?_map, List.getElem?_map, List.getElem?_modify]
  cases l[k]? with
  | none => rfl
  | some c => by_cases hi : i = k <;> simp [hi, hg]

/-- What a call changes in the list of the connections, apart from the counts. -/
inductive Moves (l : List NetworkHandler) : Call → List NetworkHandler → Prop where
  | accepts (metadata : ConnectionMetadata) : Moves l (.onNetworkConnection (metadata, none))
      (l ++ [{ client := metadata.remoteAddress }])
  | stays {call : Call} {l' : List NetworkHandler} (hnone : call.accepts = [])
      (hother : ∀ i, call ≠ .onDisconnect i)
      (hclients : l'.map NetworkHandler.client = l.map NetworkHandler.client)
      (hflags : l'.map NetworkHandler.disconnected = l.map NetworkHandler.disconnected) :
      Moves l call l'
  | disconnects {i : Nat} {c : NetworkHandler} (hc : l[i]? = some c) :
      Moves l (.onDisconnect i) (l.modify i fun c => { c with disconnected := true })

theorem moves_of_step (hstep : h.step lookup call = some t) :
    Moves h.connections call t.connections := by
  cases call with
  | onNetworkConnection answer =>
    obtain ⟨metadata, _ | err⟩ := answer <;> cases hstep
    · exact .accepts metadata
    · exact .stays rfl nofun rfl rfl
  | onHandshakeFailed =>
    obtain ⟨c, -, rfl⟩ := Option.map_eq_some_iff.mp hstep
    exact .stays rfl nofun (map_modify_eq (by intro; rfl)) (map_modify_eq (by intro; rfl))
  | onHandshakeSuccess i failureReason =>
    obtain ⟨c, -, rfl⟩ := Option.map_eq_some_iff.mp hstep
    cases failureReason <;>
      exact .stays rfl nofun (map_modify_eq (by intro; rfl)) (map_modify_eq (by intro; rfl))
  | onDisconnect =>
    obtain ⟨c, hc, rfl⟩ := Option.map_eq_some_iff.mp hstep
    have hmoves := Moves.disconnects hc
    unfold Handler.onDisconnect
    split_ifs with hdone
    · rwa [ListBlocks.modify_congr hc (g := id) (by rw [← hdone]; rfl), List.modify_id] at hmoves
    · exact hmoves

theorem clients_step (hstep : h.step lookup call = some t) :
    t.connections.map NetworkHandler.client =
      h.connections.map NetworkHandler.client ++ call.accepts := by
  have hmoves := moves_of_step hstep
  generalize t.connections = l at hmoves ⊢
  cases hmoves with
  | accepts => simp [Call.accepts]
  | stays hnone _ hclients => rw [hclients, hnone, List.append_nil]
  | disconnects => exact (map_modify_eq (by intro; rfl)).trans (List.append_nil _).symm

theorem disconnected_step (k : Nat) (hstep : h.step lookup call = some t) :
    (t.connections.map NetworkHandler.disconnected)[k]? = some true ↔
      (h.connections.map NetworkHandler.disconnected)[k]? = some true ∨ call = .onDisconnect k := by
  have hmoves := moves_of_step hstep
  generalize t.connections = l at hmoves ⊢
  cases hmoves with
  | accepts =>
    rw [List.map_append, List.getElem?_append]
    split_ifs with hk
    · simp
    · simp [List.getElem?_singleton, List.getElem?_eq_none (Nat.not_lt.mp hk)]
  | stays _ hother _ hflags => simp [hflags, hother k]
  | @disconnects i c hc => by_cases hi : i = k <;> simp_all

theorem disconnected_run (i : Nat) {s : Handler} (hrun : (handler lookup).runFrom s calls = some h) :
    (h.connections.map NetworkHandler.disconnected)[i]? = some true ↔
      (s.connections.map NetworkHandler.disconnected)[i]? = some true ∨
        .onDisconnect i ∈ calls := by
  induction s, calls, hrun using TransitionSystem.runFrom_induction with
  | nil => simp
  | cons s a r rest hstep hrest ih =>
    rw [ih, disconnected_step i hstep, or_assoc, List.mem_cons, eq_comm (a := a)]

theorem clients_run (hrun : (handler lookup).run calls = some h) :
    h.connections.map NetworkHandler.client = accepted calls :=
  (handler lookup).runFrom_flatMap (fun _ _ _ _ _ => trivial)
    (fun _ _ _ (_ : True) hstep => clients_step hstep) trivial hrun

end Runs

/-- In every state the gauge of a country is the number of its connections that
were accepted and on which `OnDisconnect` has not been called, and the counter
is the number of those that were accepted. -/
theorem connections_counted {lookup : List UInt8 → String} {calls : List Call} {h : Handler}
    (hrun : (handler lookup).run calls = some h) : (∀ country,
      h.collector.reading HandlerMetric.currentConnections.metric.name country =
          (accepted calls).zipIdx.countP (fun c =>
            decide (lookup c.1.ip = country ∧ .onDisconnect c.2 ∉ calls)) ∧
        h.collector.reading HandlerMetric.connections.metric.name country =
          (accepted calls).countP (fun address => decide (lookup address.ip = country))) ∧
      h.collector.total HandlerMetric.connections.metric.name = (accepted calls).length := by
  have hcounts := Handler.counts_of_reachable ⟨calls, hrun⟩
  rw [← clients_run hrun, List.zipIdx_map]
  simp only [List.countP_map, List.length_map]
  refine ⟨fun country => ⟨?_, ?_⟩, ?_⟩
  · have hopen : h.connections.zipIdx.countP ((fun c => decide (lookup c.1.ip = country ∧
        .onDisconnect c.2 ∉ calls)) ∘ Prod.map NetworkHandler.client id) =
        h.connections.countP fun c => decide (lookup c.client.ip = country) && !c.disconnected := by
      conv_rhs => rw [← List.zipIdx_map_fst 0 h.connections, List.countP_map]
      refine List.countP_congr fun c hc => ?_
      have hflag := disconnected_run c.2 hrun
      rw [List.getElem?_map, List.mem_zipIdx_iff_getElem?.mp hc] at hflag
      simp [← show c.1.disconnected = true ↔ _ by simpa [handler, initial] using hflag]
    rw [hcounts.reading_eq, hopen]
    apply ListBlocks.sum_map_eq_countP
    intro c
    cases hflag : c.disconnected <;> simp [NetworkHandler.contribution, hflag]
  · rw [hcounts.reading_eq]
    apply ListBlocks.sum_map_eq_countP
    intro c
    simp only [NetworkHandler.contribution, decide_eq_true_eq, Function.comp]
  · rw [Collector.total, hcounts.sums, ListBlocks.sum_map_eq_countP (p := fun _ => true)
      (by simp [NetworkHandler.counted, NetworkHandler.contribution]), List.countP_true]

theorem connections_counted_twice_disconnected :
    ∃ h, (handler fun ip => if ip = [10] then "LO" else "XX").run
        [.onNetworkConnection (⟨⟨[10], 22, ""⟩, "a", none, none, none⟩, none),
          .onNetworkConnection (⟨⟨[10], 23, ""⟩, "b", none, none, none⟩, none), .onDisconnect 0,
          .onNetworkConnection (⟨⟨[11], 24, ""⟩, "c", none, none, none⟩, some (.plain "refused")),
          .onDisconnect 0] = some h ∧
      h.collector.reading "containerssh_ssh_current_connections" "LO" = 1 ∧
      h.collector.reading "containerssh_ssh_connections_total" "LO" = 2 :=
  TransitionSystem.exists_run _ rfl fun _ hrun => (connections_counted hrun).1 "LO"

end ContainerSSH.Metrics
