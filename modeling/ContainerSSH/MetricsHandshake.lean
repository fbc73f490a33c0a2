/-
The server with the metrics handler.
-/
import ContainerSSH.MetricsConnections
import ContainerSSH.ServerBookkeeping

namespace ContainerSSH.Metrics

open SSHServer (Server Connection Handshake Action)

/-! ### The composition -/

structure Backend where
  metadata : String → ConnectionMetadata
  refusal : String → GoError
  rejection : String → GoError

structure Metered where
  server : Server := {}
  handler : Handler := initial
  place : String → Option Nat := fun _ => none
  result : String → Option Handshake := fun _ => none

namespace Metered

variable (backend : Backend) (lookup : List UInt8 → String) (m : Metered)

def call? : Action → Option Call
  | .onNetworkConnection id true => some (.onNetworkConnection (backend.metadata id, none))
  | .onNetworkConnection id false =>
    some (.onNetworkConnection (backend.metadata id, some (backend.refusal id)))
  | .handshake id .backendRejected =>
    (m.place id).map fun i => .onHandshakeSuccess i (some (backend.rejection id))
  | .handshake id (.succeeded _) => (m.place id).map fun i => .onHandshakeSuccess i none
  | .advance id =>
    (m.server.connections id).bind fun c =>
      match c.point with
      | .aborting => (m.place id).map .onHandshakeFailed
      | .unregistered => (m.place id).map .onDisconnect
      | _ => none
  | .watch id =>
    (m.server.connections id).bind fun c =>
      if c.watcher = .onDisconnect then (m.place id).map .onDisconnect else none
  | _ => none

def callBack (action : Action) : Handler :=
  match m.call? backend action with
  | none => m.handler
  | some call => (m.handler.step lookup call).getD m.handler

def next (action : Action) (server : Server) : Metered where
  server
  handler := m.callBack backend lookup action
  place := fun i =>
    match action with
    | .onNetworkConnection id true =>
      if i = id then some m.handler.connections.length else m.place i
    | _ => m.place i
  result := fun i =>
    match action with
    | .handshake id result => if i = id then some result else m.result i
    | _ => m.result i

def step (action : Action) : Option Metered :=
  (m.server.step action).map (m.next backend lookup action)

end Metered

def metered (backend : Backend) (lookup : List UInt8 → String) :
    TransitionSystem Metered Action where
  init := {}
  step := Metered.step backend lookup

/-! ### Phases of a handshake -/

inductive Phase where
  | pending
  | aborting
  | failed
  | accepted
deriving DecidableEq

def phase (c : Connection) : Phase :=
  if c.networkConnected then
    match c.point with
    | .accepted | .refused | .connected | .handshake => .pending
    | .aborting => .aborting
    | .unregistered | .disconnected | .finished => .failed
    | .authenticated | .established | .watched | .serving => .accepted
  else .pending

def Ended (c : Connection) : Prop := phase c = .failed ∨ phase c = .accepted

/-! ### What the server does to its connections -/

def acting? : Action → Option String
  | .accept id => some id
  | .onNetworkConnection id _ => some id
  | .handshake id _ => some id
  | .advance id => some id
  | .watch id => some id
  | _ => none

section
variable {s t : Server} {action : Action} {id : String}

theorem connections_of_none (hother : acting? action = none)
    (hstep : s.step action = some t) : t.connections = s.connections := by
  obtain ⟨-, -, hact⟩ := Server.act_of_step hstep
  cases action with
  | disconnectClients =>
    cases hact
    rfl
  | globalRequest | channel | channelRequest | closeChannel =>
    simp only [Server.act, Option.bind_eq_some_iff,
      Option.ite_none_right_eq_some, Option.some.injEq] at hact
    obtain ⟨c, -, -, rfl⟩ := hact
    rfl
  | openReverse index succeeds =>
    simp only [Server.act, Option.bind_eq_some_iff, Option.map_eq_some_iff] at hact
    obtain ⟨invocation, -, handler, -, rfl⟩ := hact
    unfold Server.openReverse
    split_ifs <;> rfl
  | _ => cases hother

inductive Turns : Action → Option Connection → Connection → Prop
  | accepts (id : String) : Turns (.accept id) none {}
  | refuses (id : String) (c : Connection) (hpoint : c.point = .accepted) :
      Turns (.onNetworkConnection id false) (some c) { c with point := .refused }
  | connects (id : String) (c : Connection) (hpoint : c.point = .accepted) :
      Turns (.onNetworkConnection id true) (some c)
        { c with point := .connected, networkConnected := true }
  | aborts (id : String) (c : Connection) (result : Handshake) (hpoint : c.point = .handshake)
      (hresult : ∀ metadataID, result ≠ .succeeded metadataID) :
      Turns (.handshake id result) (some c) { c with point := .aborting }
  | authenticates (id : String) (c : Connection) (metadataID : String)
      (hpoint : c.point = .handshake) : Turns (.handshake id (.succeeded metadataID)) (some c)
        { c with point := .authenticated, metadataID := metadataID }
  | fails (id : String) (c : Connection) (hpoint : c.point = .aborting) :
      Turns (.advance id) (some c) { c with point := .unregistered }
  | disconnects (id : String) (c : Connection) (hpoint : c.point = .unregistered) :
      Turns (.advance id) (some c)
        { c with point := .disconnected, disconnects := c.disconnects + 1 }
  | closes (id : String) (c : Connection) (hpoint : c.point = .refused) :
      Turns (.advance id) (some c) { c with point := .finished, wgDone := c.wgDone + 1 }
  | advances (id : String) (c c' : Connection)
      (hpoint : c.point ≠ .aborting ∧ c.point ≠ .unregistered) (hphase : phase c' = phase c)
      (hconnected : c'.networkConnected = c.networkConnected) : Turns (.advance id) (some c) c'
  | watches (id : String) (c c' : Connection) (hphase : phase c' = phase c)
      (hconnected : c'.networkConnected = c.networkConnected) : Turns (.watch id) (some c) c'

theorem turns_advance {c : Connection} (hc : s.connections id = some c)
    (hstep : s.advance id c = some t) :
    ∃ c', t.connections = (fun i => if i = id then some c' else s.connections i) ∧
      Turns (.advance id) (s.connections id) c' := by
  rw [hc]
  unfold Server.advance at hstep
  split at hstep <;> cases hstep <;> refine ⟨_, rfl, ?_⟩
  case h_1 hpoint => exact .closes id c hpoint
  case h_3 hpoint => exact .fails id c hpoint
  case h_4 hpoint => exact .disconnects id c hpoint
  all_goals
    next hpoint => exact .advances id c _ (by simp [hpoint]) (by simp [phase, hpoint]) rfl

theorem turns_endHandshake {c : Connection} (hc : s.connections id = some c)
    {result : Handshake} (hstep : s.endHandshake id c result = some t) :
    ∃ c', t.connections = (fun i => if i = id then some c' else s.connections i) ∧
      Turns (.handshake id result) (s.connections id) c' := by
  rw [hc]
  unfold Server.endHandshake at hstep
  split at hstep
  · next hpoint =>
      split at hstep <;> cases hstep <;> refine ⟨_, rfl, ?_⟩
      · exact .authenticates id c _ hpoint
      all_goals exact .aborts id c _ hpoint (by simp)
  · cases hstep

theorem turns_watch {c : Connection} (hc : s.connections id = some c)
    (hstep : s.watch id c = some t) :
    ∃ c', t.connections = (fun i => if i = id then some c' else s.connections i) ∧
      Turns (.watch id) (s.connections id) c' := by
  rw [hc]
  unfold Server.watch at hstep
  split at hstep <;> cases hstep <;> exact ⟨_, rfl, .watches id c _ rfl rfl⟩

theorem turns_of_step (hacting : acting? action = some id) (hstep : s.step action = some t) :
    ∃ c', t.connections = (fun i => if i = id then some c' else s.connections i) ∧
      Turns action (s.connections id) c' := by
  obtain ⟨-, -, hact⟩ := Server.act_of_step hstep
  cases action <;> cases hacting
  case accept =>
    obtain ⟨hnone, ⟨⟩⟩ := Option.ite_none_left_eq_some.mp hact
    rw [Option.not_isSome_iff_eq_none.mp hnone]
    exact ⟨_, rfl, .accepts id⟩
  case onNetworkConnection succeeds =>
    simp only [Server.act, Option.bind_eq_some_iff, Option.ite_none_right_eq_some,
      Option.some.injEq] at hact
    obtain ⟨c, hc, hpoint, rfl⟩ := hact
    rw [hc]
    cases succeeds with
    | true => exact ⟨_, rfl, .connects id c hpoint⟩
    | false => exact ⟨_, rfl, .refuses id c hpoint⟩
  case handshake result =>
    obtain ⟨c, hc, hend⟩ := Option.bind_eq_some_iff.mp hact
    exact turns_endHandshake hc hend
  case advance =>
    obtain ⟨c, hc, hadvance⟩ := Option.bind_eq_some_iff.mp hact
    exact turns_advance hc hadvance
  case watch =>
    obtain ⟨c, hc, hwatch⟩ := Option.bind_eq_some_iff.mp hact
    exact turns_watch hc hwatch

end

/-! ### What a connection has contributed -/

def rejections (result : Handshake) : Nat := if result = .backendRejected then 1 else 0

def Standing (successful failed : Nat) (result : Option Handshake) : Phase → Prop
  | .pending => result = none ∧ successful = 0 ∧ failed = 0
  | .aborting => ∃ r, result = some r ∧ (∀ id, r ≠ .succeeded id) ∧
      successful = 0 ∧ failed = rejections r
  | .failed => ∃ r, result = some r ∧ (∀ id, r ≠ .succeeded id) ∧
      successful = 0 ∧ failed = rejections r + 1
  | .accepted => ∃ id, result = some (.succeeded id) ∧ successful = 1 ∧ failed = 0

def Call.place? : Call → Option Nat
  | .onNetworkConnection _ => none
  | .onHandshakeFailed i => some i
  | .onHandshakeSuccess i _ => some i
  | .onDisconnect i => some i

def Call.increments : Call → Nat × Nat
  | .onHandshakeFailed _ => (0, 1)
  | .onHandshakeSuccess _ (some _) => (0, 1)
  | .onHandshakeSuccess _ none => (1, 0)
  | .onNetworkConnection _ => (0, 0)
  | .onDisconnect _ => (0, 0)

theorem Handler.exists_step (lookup : List UInt8 → String) (handler : Handler)
    {call : Call} {i : Nat} {h : NetworkHandler} (hplace : call.place? = some i)
    (hh : handler.connections[i]? = some h) : ∃ after f, handler.step lookup call = some after ∧
      after.connections = handler.connections.modify i f ∧
      (f h).successful = h.successful + call.increments.1 ∧
      (f h).failed = h.failed + call.increments.2 := by
  cases call with
  | onNetworkConnection => cases hplace
  | onHandshakeFailed =>
    cases hplace
    exact ⟨_, _, congrArg (Option.map _) hh, rfl, rfl, rfl⟩
  | onHandshakeSuccess i failureReason =>
    cases hplace
    cases failureReason <;> exact ⟨_, _, congrArg (Option.map _) hh, rfl, rfl, rfl⟩
  | onDisconnect i =>
    cases hplace
    refine ⟨_, fun c => { c with disconnected := true }, congrArg (Option.map _) hh, ?_, rfl, rfl⟩
    show (handler.onDisconnect lookup i h).connections = _
    unfold Handler.onDisconnect
    split_ifs with hdone
    · exact (List.modify_id i _).symm.trans (ListBlocks.modify_congr hh (by rw [← hdone]; rfl))
    · rfl

namespace Metered

variable {backend : Backend} {lookup : List UInt8 → String} {m m' : Metered}
  {action : Action} {id : String} {c c' : Connection} {server : Server}

def Unplaced (m : Metered) (id : String) : Prop := m.place id = none ∧ m.result id = none

def Placed (m : Metered) (id : String) (c : Connection) : Prop :=
  ∃ i h, m.place id = some i ∧ m.handler.connections[i]? = some h ∧
    Standing h.successful h.failed (m.result id) (phase c)

def Entry (m : Metered) (id : String) : Option Connection → Prop
  | none => m.Unplaced id
  | some c => if c.networkConnected then m.Placed id c else m.Unplaced id

structure Follows (lookup : List UInt8 → String) (m : Metered) : Prop where
  server : SSHServer.server.Reachable m.server
  handler : (Metrics.handler lookup).Reachable m.handler
  absent : ∀ id, m.server.connections id = none → m.Unplaced id
  unplaced : ∀ id c, m.server.connections id = some c → c.networkConnected = false → m.Unplaced id
  placed : ∀ id c, m.server.connections id = some c → c.networkConnected = true → m.Placed id c
  apart : ∀ id other i, m.place id = some i → m.place other = some i → id = other

theorem Follows.tracked (hm : m.Follows lookup) (hc : m.server.connections id = some c) :
    (m.server.local id).Tracked id c :=
  (SSHServer.Local.consistent_of_reachable hm.server id).of_some hc

theorem Follows.entry (hm : m.Follows lookup) (id : String) :
    m.Entry id (m.server.connections id) := by
  cases hc : m.server.connections id with
  | none => exact hm.absent id hc
  | some c =>
    rw [Entry]
    split_ifs with hconnected
    · exact hm.placed id c hc hconnected
    · exact hm.unplaced id c hc (by simpa using hconnected)

theorem follows_of_entry (hserver : SSHServer.server.Reachable m.server)
    (hhandler : (Metrics.handler lookup).Reachable m.handler)
    (hentry : ∀ id, m.Entry id (m.server.connections id))
    (hapart : ∀ id other i, m.place id = some i → m.place other = some i → id = other) :
    m.Follows lookup := by
  refine ⟨hserver, hhandler, fun id hc => ?_, fun id c hc h => ?_, fun id c hc h => ?_, hapart⟩ <;>
    have hid := hentry id
  · rwa [hc] at hid
  · rwa [hc, Entry, if_neg (by simp [h])] at hid
  · rwa [hc, Entry, if_pos h] at hid

theorem Follows.lt_length (hm : m.Follows lookup) {i : Nat} (hplace : m.place id = some i) :
    i < m.handler.connections.length := by
  have hentry := hm.entry id
  unfold Entry at hentry
  split at hentry
  · simp [hentry.1] at hplace
  · split_ifs at hentry
    · obtain ⟨k, h, hk, hh, -⟩ := hentry
      rw [hplace, Option.some.injEq] at hk
      exact hk ▸ (List.getElem?_eq_some_iff.mp hh).1
    · simp [hentry.1] at hplace

theorem reachable_callBack (hm : m.Follows lookup) (backend : Backend) (action : Action) :
    (Metrics.handler lookup).Reachable (m.callBack backend lookup action) := by
  unfold callBack
  split
  · exact hm.handler
  · next call _ =>
      cases hafter : m.handler.step lookup call with
      | none => exact hm.handler
      | some => exact hm.handler.step hafter

theorem next_of_ne (hacting : acting? action = some id) {other : String} (hne : other ≠ id) :
    (m.next backend lookup action server).place other = m.place other ∧
      (m.next backend lookup action server).result other = m.result other := by
  cases action <;> cases hacting
  case onNetworkConnection succeeds => cases succeeds <;> simp [next, hne]
  all_goals simp [next, hne]

theorem Follows.update (hm : m.Follows lookup) (hserver : SSHServer.server.Reachable server)
    (hacting : acting? action = some id)
    (hconnections : server.connections = fun i =>
      if i = id then some c' else m.server.connections i)
    (hentries : ∀ other i, other ≠ id → m.place other = some i →
      (m.callBack backend lookup action).connections[i]? = m.handler.connections[i]? ∧
        (m.next backend lookup action server).place id ≠ some i)
    (hentry : (m.next backend lookup action server).Entry id (some c')) :
    (m.next backend lookup action server).Follows lookup := by
  refine follows_of_entry hserver (reachable_callBack hm backend action) ?_ ?_
  · intro other
    show Entry _ other (server.connections other)
    rw [hconnections]
    by_cases hne : other = id
    · subst hne
      simpa using hentry
    · obtain ⟨hplace, hresult⟩ := @next_of_ne backend lookup m _ _ server hacting _ hne
      have hold := hm.entry other
      simp only [if_neg hne]
      generalize m.server.connections other = d at hold ⊢
      have hplaced : ∀ d, m.Placed other d →
          (m.next backend lookup action server).Placed other d := by
        rintro d ⟨i, h, hi, hh, hstanding⟩
        exact ⟨i, h, hplace.trans hi, (hentries other i hne hi).1.trans hh, by rwa [hresult]⟩
      have hunplaced : m.Unplaced other → (m.next backend lookup action server).Unplaced other :=
        And.imp hplace.trans hresult.trans
      cases d with
      | none => exact hunplaced hold
      | some d =>
        rw [Entry] at hold ⊢
        split_ifs at hold ⊢
        · exact hplaced d hold
        · exact hunplaced hold
  · intro first second i hfirst hsecond
    by_cases hne : first = id <;> by_cases hne' : second = id
    · rw [hne, hne']
    · rw [(next_of_ne hacting hne').1] at hsecond
      exact absurd (hne ▸ hfirst) (hentries second i hne' hsecond).2
    · rw [(next_of_ne hacting hne).1] at hfirst
      exact absurd (hne' ▸ hsecond) (hentries first i hne hfirst).2
    · rw [(next_of_ne hacting hne).1] at hfirst
      rw [(next_of_ne hacting hne').1] at hsecond
      exact hm.apart first second i hfirst hsecond

/-! ### The steps of a connection -/

def increments (c : Connection) : Action → Nat × Nat
  | .handshake _ .backendRejected => (0, 1)
  | .handshake _ (.succeeded _) => (1, 0)
  | .advance _ => if c.point = .aborting then (0, 1) else (0, 0)
  | _ => (0, 0)

def resultAfter (old : Option Handshake) : Action → Option Handshake
  | .handshake _ result => some result
  | _ => old

theorem result_next (hacting : acting? action = some id) :
    (m.next backend lookup action server).result id = resultAfter (m.result id) action := by
  cases action <;> cases hacting <;> simp [next, resultAfter]

theorem standing_of_turns (hturns : Turns action (some c) c')
    (hconnected : c.networkConnected = true)
    (hpoint : c.point ≠ .accepted ∧ c.point ≠ .refused) {successful failed : Nat}
    {result : Option Handshake} (hbefore : Standing successful failed result (phase c)) :
    Standing (successful + (increments c action).1) (failed + (increments c action).2)
      (resultAfter result action) (phase c') := by
  cases hturns with
  | refuses _ _ haccepted | connects _ _ haccepted => exact absurd haccepted hpoint.1
  | aborts _ _ r hhandshake hfailure =>
    simp only [phase, hconnected, hhandshake] at hbefore ⊢
    obtain ⟨-, rfl, rfl⟩ := hbefore
    refine ⟨r, rfl, hfailure, ?_⟩
    cases r with
    | succeeded metadataID => exact absurd rfl (hfailure metadataID)
    | _ => exact ⟨rfl, rfl⟩
  | authenticates _ _ metadataID hhandshake =>
    simp only [phase, hconnected, hhandshake] at hbefore ⊢
    obtain ⟨-, rfl, rfl⟩ := hbefore
    exact ⟨metadataID, rfl, rfl, rfl⟩
  | fails _ _ haborting =>
    simp only [phase, hconnected, haborting, increments] at hbefore ⊢
    obtain ⟨r, hresult, hfailure, rfl, rfl⟩ := hbefore
    exact ⟨r, hresult, hfailure, rfl, rfl⟩
  | disconnects _ _ hunregistered =>
    simp only [phase] at hbefore ⊢
    simpa [increments, resultAfter, hunregistered] using hbefore
  | closes _ _ hrefused => exact absurd hrefused hpoint.2
  | advances _ _ _ hnot hphase =>
    rw [hphase]
    simpa [increments, resultAfter, hnot.1] using hbefore
  | watches _ _ _ hphase => rwa [hphase]

theorem exists_entry (hacting : acting? action = some id)
    (hother : ∀ succeeds, action ≠ .onNetworkConnection id succeeds)
    (hc : m.server.connections id = some c) {i : Nat} (hi : m.place id = some i)
    {h : NetworkHandler} (hh : m.handler.connections[i]? = some h) :
    ∃ f, (m.callBack backend lookup action).connections = m.handler.connections.modify i f ∧
      (f h).successful = h.successful + (increments c action).1 ∧
      (f h).failed = h.failed + (increments c action).2 := by
  have hcall : m.call? backend action = none ∧ increments c action = (0, 0) ∨
      ∃ call, m.call? backend action = some call ∧ call.place? = some i ∧
        call.increments = increments c action := by
    cases action <;> cases hacting
    case accept => exact .inl ⟨rfl, rfl⟩
    case onNetworkConnection succeeds => exact absurd rfl (hother succeeds)
    case handshake result =>
      cases result <;> simp [call?, hi, increments, Call.place?, Call.increments]
    case advance =>
      simp only [call?, hc, Option.bind_some, increments]
      split
      · next hpoint => simp [hi, hpoint, Call.place?, Call.increments]
      · next hpoint => simp [hi, hpoint, Call.place?, Call.increments]
      · next haborting _ => exact .inl ⟨rfl, if_neg haborting⟩
    case watch =>
      simp only [call?, hc, Option.bind_some, increments]
      split_ifs <;> simp [hi, Call.place?, Call.increments]
  unfold callBack
  rcases hcall with ⟨hnone, hzero⟩ | ⟨call, hsome, hplace, hincrements⟩
  · rw [hnone, hzero]
    exact ⟨fun entry => entry, (List.modify_id _ _).symm, rfl, rfl⟩
  · obtain ⟨after, f, hafter, hf, hcounts⟩ := m.handler.exists_step lookup hplace hh
    rw [hsome, ← hincrements]
    exact ⟨f, by simp only [hafter, Option.getD_some, hf], hcounts⟩

section
variable (hm : m.Follows lookup) (hserver : SSHServer.server.Reachable server)
  (hacting : acting? action = some id)
  (hconnections : server.connections = fun i => if i = id then some c' else m.server.connections i)
include hm hserver hacting hconnections

theorem Follows.stays (hunplaced : m.Unplaced id) (hrefused : c'.networkConnected = false)
    (hplace : (m.next backend lookup action server).place = m.place)
    (hresult : resultAfter (m.result id) action = m.result id)
    (hentries : (m.callBack backend lookup action).connections = m.handler.connections) :
    (m.next backend lookup action server).Follows lookup := by
  refine hm.update hserver hacting hconnections (fun other i _ _ => ?_) ?_
  · rw [hentries, hplace, hunplaced.1]
    simp
  · rw [Entry, if_neg (by simp [hrefused]), Unplaced, hplace, result_next hacting, hresult]
    exact hunplaced

theorem Follows.turn (hc : m.server.connections id = some c)
    (hother : ∀ succeeds, action ≠ .onNetworkConnection id succeeds)
    (hturns : Turns action (some c) c') : (m.next backend lookup action server).Follows lookup := by
  have hconnected : c'.networkConnected = c.networkConnected := by
    cases hturns with
    | connects =>
      cases hacting
      exact absurd rfl (hother true)
    | advances _ _ _ _ _ hsame | watches _ _ _ _ hsame => exact hsame
    | _ => rfl
  have hplace : (m.next backend lookup action server).place = m.place := by
    cases action <;> cases hacting
    case onNetworkConnection succeeds => exact absurd rfl (hother succeeds)
    all_goals rfl
  cases hnetwork : c.networkConnected with
  | false =>
    have hunplaced := hm.unplaced id c hc hnetwork
    have hresult : resultAfter (m.result id) action = m.result id := by
      cases hturns with
      | aborts _ _ _ hpoint | authenticates _ _ _ hpoint =>
        have hshaken := (hm.tracked hc).connected
        simp [hpoint, hnetwork] at hshaken
      | _ => rfl
    refine hm.stays hserver hacting hconnections hunplaced (hconnected.trans hnetwork) hplace
      hresult ?_
    have hcall : m.call? backend action = none := by
      cases action <;> cases hacting
      case onNetworkConnection succeeds => exact absurd rfl (hother succeeds)
      case accept => rfl
      case handshake result => cases result <;> simp [call?, hunplaced.1]
      all_goals
        rw [call?, hc, Option.bind_some, hunplaced.1]
        split <;> rfl
    rw [callBack, hcall]
  | true =>
    obtain ⟨i, h, hi, hh, hbefore⟩ := hm.placed id c hc hnetwork
    obtain ⟨f, hf, hsuccessful, hfailed⟩ :=
      @exists_entry backend lookup m _ _ _ hacting hother hc i hi h hh
    have hpoint : c.point ≠ .accepted ∧ c.point ≠ .refused := by
      rw [← not_or]
      intro hpoint
      rw [(hm.tracked hc).pending hpoint] at hnetwork
      cases hnetwork
    refine hm.update hserver hacting hconnections (fun other k hne hk => ?_) ?_
    · have hapart : m.place id ≠ some k := fun hid => hne (hm.apart other id k hk hid)
      rw [hplace, hf, List.getElem?_modify_ne _ _ fun hik => hapart (by rw [hi, hik])]
      exact ⟨rfl, hapart⟩
    · rw [Entry, if_pos (hconnected.trans hnetwork)]
      refine ⟨i, f h, (congrFun hplace id).trans hi, ?_, ?_⟩
      · rw [next, hf, List.getElem?_modify_eq, hh]
        rfl
      · rw [hsuccessful, hfailed, result_next hacting]
        exact standing_of_turns hturns hnetwork hpoint hbefore

end

theorem Follows.connects (hm : m.Follows lookup) (hserver : SSHServer.server.Reachable server)
    (hconnections : server.connections = fun i =>
      if i = id then some { c with point := .connected, networkConnected := true }
      else m.server.connections i)
    (hc : m.server.connections id = some c) (hpoint : c.point = .accepted) :
    (m.next backend lookup (.onNetworkConnection id true) server).Follows lookup := by
  have hunplaced := hm.unplaced id c hc ((hm.tracked hc).pending (.inl hpoint))
  refine hm.update hserver rfl hconnections (fun other i hne hi => ?_) ?_
  · have hlt := hm.lt_length hi
    refine ⟨List.getElem?_append_left hlt, ?_⟩
    simp only [next, if_true, ne_eq, Option.some.injEq]
    omega
  · exact ⟨_, _, if_pos rfl, List.getElem?_concat_length, hunplaced.2, rfl, rfl⟩

theorem Follows.other (hm : m.Follows lookup) (hserver : SSHServer.server.Reachable server)
    (hconnections : server.connections = m.server.connections)
    (hother : acting? action = none) : (m.next backend lookup action server).Follows lookup := by
  have hnext : m.next backend lookup action server = { m with server } := by
    cases action <;> first | rfl | cases hother
  rw [hnext]
  exact follows_of_entry hserver hm.handler (hconnections ▸ hm.entry) hm.apart

theorem Follows.step (hm : m.Follows lookup)
    (hstep : m.step backend lookup action = some m') : m'.Follows lookup := by
  obtain ⟨server, hserver, rfl⟩ := Option.map_eq_some_iff.mp hstep
  have hreachable := hm.server.step hserver
  cases hacting : acting? action with
  | none => exact hm.other hreachable (connections_of_none hacting hserver) hacting
  | some id =>
    obtain ⟨c', hconnections, hturns⟩ := turns_of_step hacting hserver
    generalize hold : m.server.connections id = old at hturns
    have hentry := hm.entry id
    rw [hold] at hentry
    have hmoved := hturns
    cases hturns <;> cases hacting
    case some.accepts.refl => exact hm.stays hreachable rfl hconnections hentry rfl rfl rfl rfl
    case some.refuses.refl hpoint =>
      have hpending := (hm.tracked hold).pending (.inl hpoint)
      exact hm.stays hreachable rfl hconnections (hm.unplaced id _ hold hpending) hpending
        rfl rfl rfl
    case some.connects.refl hpoint => exact hm.connects hreachable hconnections hold hpoint
    all_goals exact hm.turn hreachable rfl hconnections hold (by simp) hmoved

theorem follows_of_reachable (hm : (metered backend lookup).Reachable m) : m.Follows lookup := by
  refine hm.invariant ?_ fun _ _ _ hfollows hstep => hfollows.step hstep
  exact follows_of_entry SSHServer.server.reachable_init (Metrics.handler lookup).reachable_init
    (fun _ => ⟨rfl, rfl⟩) (by simp [metered])

def CountedOnce (m : Metered) (id : String) : Prop :=
  ∃ i h, m.place id = some i ∧ m.handler.connections[i]? = some h ∧ h.successful + h.failed = 1 ∧
    (h.successful = 1 ↔ ∃ metadataID, m.result id = some (.succeeded metadataID))

theorem Follows.countedOnce_iff (hm : m.Follows lookup)
    (hc : m.server.connections id = some c) (hended : Ended c) :
    m.CountedOnce id ↔ m.result id ≠ some .backendRejected := by
  have hnetwork : c.networkConnected = true := by
    by_contra hrefused
    simp [Ended, phase, hrefused] at hended
  obtain ⟨i, h, hi, hh, hstanding⟩ := hm.placed id c hc hnetwork
  have hentry : m.CountedOnce id ↔ h.successful + h.failed = 1 ∧ (h.successful = 1 ↔
        ∃ metadataID, m.result id = some (.succeeded metadataID)) := by
    simp [CountedOnce, hi, hh]
  rw [hentry]
  rcases hended with hphase | hphase <;> rw [hphase] at hstanding
  · obtain ⟨result, hresult, hfailure, hsuccessful, hfailed⟩ := hstanding
    rw [hresult, hsuccessful, hfailed]
    simp [hfailure, rejections]
  · obtain ⟨metadataID, hresult, hsuccessful, hfailed⟩ := hstanding
    rw [hresult, hsuccessful, hfailed]
    simp

end Metered

/-- Each counter of a country reports the increments of its connections, and
every connection whose handshake has ended is counted once exactly if the
backend has rejected none of them. -/
theorem handshakes_counted_iff {backend : Backend} {lookup : List UInt8 → String}
    {m : Metered} (hm : (metered backend lookup).Reachable m) : (∀ country,
      m.handler.collector.reading HandlerMetric.handshakeSuccessful.metric.name country =
        (m.handler.connections.map fun h =>
          if lookup h.client.ip = country then (h.successful : Int) else 0).sum ∧
      m.handler.collector.reading HandlerMetric.handshakeFailed.metric.name country =
        (m.handler.connections.map fun h =>
          if lookup h.client.ip = country then (h.failed : Int) else 0).sum) ∧
    ((∀ id c, m.server.connections id = some c → Ended c → m.CountedOnce id) ↔
      ∀ id c, m.server.connections id = some c → Ended c →
        m.result id ≠ some .backendRejected) := by
  have hfollows := Metered.follows_of_reachable hm
  have hcounts := Handler.counts_of_reachable hfollows.handler
  refine ⟨fun country => ⟨hcounts.reading_eq _ _, hcounts.reading_eq _ _⟩, ?_⟩
  exact forall_congr' fun id => forall_congr' fun c =>
    forall_congr' fun hc => forall_congr' fun hended =>
      hfollows.countedOnce_iff hc hended

theorem handshakes_counted_success_and_failure :
    ∃ m, (metered ⟨fun _ => ⟨⟨[10], 22, ""⟩, "", none, none, none⟩,
          fun _ => .plain "refused", fun _ => .plain "rejected"⟩ fun _ => "LO").run
        [.accept "a", .accept "b", .onNetworkConnection "a" true,
          .onNetworkConnection "b" true, .advance "b", .advance "a",
          .handshake "a" (.succeeded "a"), .handshake "b" .failed, .advance "b"] = some m ∧
      ∀ id c, m.server.connections id = some c → Ended c → m.CountedOnce id := by
  refine TransitionSystem.exists_run _ rfl fun m hrun => ?_
  refine (handshakes_counted_iff ⟨_, hrun⟩).2.mpr fun id c _ _ => ?_
  rw [← Option.some.inj hrun]
  show (if id = "b" then some Handshake.failed else if id = "a" then some (.succeeded "a")
    else none) ≠ _
  split_ifs <;> simp

/-- The backend rejects a client after its authentication: the failure is
counted by `OnHandshakeSuccess` and by `OnHandshakeFailed`. -/
theorem rejection_counted_twice : ∃ m c, (metered ⟨fun _ => ⟨⟨[10], 22, ""⟩, "", none, none, none⟩,
          fun _ => .plain "refused", fun _ => .plain "rejected"⟩ fun _ => "LO").run
        [.accept "a", .onNetworkConnection "a" true, .advance "a",
          .handshake "a" .backendRejected, .advance "a"] = some m ∧
      m.server.connections "a" = some c ∧ Ended c ∧ ¬ m.CountedOnce "a" ∧
      m.handler.collector.reading "containerssh_ssh_failed_handshakes_total" "LO" =
        2 := by
  simp only [exists_and_left]
  refine TransitionSystem.exists_run _ rfl fun m hrun => ?_
  have hcounts := Handler.counts_of_reachable (Metered.follows_of_reachable ⟨_, hrun⟩).handler
  have hreading := hcounts.reading_eq .handshakeFailed "LO"
  rw [← Option.some.inj hrun] at hreading ⊢
  refine ⟨_, rfl, .inl rfl, ?_, hreading⟩
  rintro ⟨i, h, hi, hh, honce, -⟩
  cases hi
  cases hh
  cases honce

end ContainerSSH.Metrics
