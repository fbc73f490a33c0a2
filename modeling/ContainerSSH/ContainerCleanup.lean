/-
Containers and pods that are left behind.
-/
import ContainerSSH.ContainerPrograms

namespace ContainerSSH.ContainerBackend

/-! ### What was created for whom -/

def createdIn (events : List Event) : List Nat := events.filterMap Event.created?

def removedIn (events : List Event) : List Nat := events.filterMap Event.removed?

def State.createdBy (s : State) (owner : Option Nat) : List Nat :=
  createdIn ((s.log.filter fun entry => entry.1 = owner).map Prod.snd)

/-- All containers of a connection, or a session, that is over are removed. -/
def NoLeak (config : Config) (s : State) : Prop :=
  match config.mode with
  | .connection => s.network.disconnected = true → ∀ id ∈ s.createdBy none, id ∈ s.removed
  | .session =>
    ∀ (i : Nat) (session : Session), s.sessions[i]? = some session →
      session.closed = true → ∀ id ∈ s.createdBy (some i), id ∈ s.removed
  | .other _ => True

def Answered.Leaves (config : Config) (e : Answered) : Prop :=
  (e.request.AsksProgram config = true ∧ e.answer = none) ∨ e.events.any Event.LosesPod = true

instance decidableLeaves (config : Config) (e : Answered) : Decidable (e.Leaves config) :=
  inferInstanceAs (Decidable (_ ∨ _))

/-- With one container for a connection, none is created after the disconnect, which finds the one
there is in the handler's field; with one for each session, the session that closes has started no
program and lost no pod. -/
def LeavesNothing (config : Config) (s : State) {platform : Platform}
    (action : Action platform) : Prop :=
  match config.mode, action with
  | .connection, .handshake env outcome =>
    s.network.disconnected = true → (s.onHandshakeSuccess config env outcome).created = s.created
  | .connection, .disconnect =>
    s.network.disconnected = false → ∀ id ∈ s.createdBy none, s.network.container = some id
  | .session, .close i => ∀ session ∈ s.sessions[i]?, ∀ e ∈ session.history, ¬ e.Leaves config
  | _, _ => True

instance decidableLeavesNothing (config : Config) (s : State)
    {platform : Platform} (action : Action platform) :
    Decidable (LeavesNothing config s action) := by
  unfold LeavesNothing
  generalize config.mode = mode
  induction mode using ExecutionMode.casesOn <;>
    induction action using Action.casesOn <;> infer_instance

section Log

variable {s : State}

theorem created_record (owner : Option Nat) (events : List Event) :
    (s.record owner events).created = s.created ++ createdIn events := by
  simp [State.created, State.record, createdIn]

theorem removed_record (owner : Option Nat) (events : List Event) :
    (s.record owner events).removed = s.removed ++ removedIn events := by
  simp [State.removed, State.record, removedIn]

theorem createdBy_record_self (owner : Option Nat) (events : List Event) :
    (s.record owner events).createdBy owner = s.createdBy owner ++ createdIn events := by
  simp [State.createdBy, State.record, createdIn, List.filter_map,
    List.filterMap_map, Function.comp_def]

theorem createdBy_record_ne {owner other : Option Nat} (hne : owner ≠ other) (events : List Event) :
    (s.record owner events).createdBy other = s.createdBy other := by
  simp [State.createdBy, State.record, createdIn, List.filter_map, hne]

theorem createdBy_subset (owner : Option Nat) {id : Nat}
    (hid : id ∈ s.createdBy owner) : id ∈ s.created := by
  simp only [State.createdBy, createdIn, List.mem_filterMap, List.mem_map, List.mem_filter] at hid
  obtain ⟨event, ⟨entry, ⟨hentry, -⟩, rfl⟩, hcreated⟩ := hid
  exact List.mem_filterMap.mpr ⟨entry, hentry, hcreated⟩

end Log

/-! ### The calls of a request -/

section Creation

variable (creation : Creation) (env : Env) (tty : Option Bool) (cmd : List String)

@[simp]
theorem createdIn_nil : createdIn [] = [] := rfl

@[simp]
theorem removedIn_nil : removedIn [] = [] := rfl

@[simp]
theorem createdIn_append (first second : List Event) :
    createdIn (first ++ second) = createdIn first ++ createdIn second :=
  List.filterMap_append

@[simp]
theorem removedIn_append (first second : List Event) :
    removedIn (first ++ second) = removedIn first ++ removedIn second :=
  List.filterMap_append

@[simp]
theorem createdIn_events : createdIn (creation.events env tty cmd) = creation.created := by
  have hlost (ids : List Nat) : createdIn
      (ids.flatMap fun id => [.create id env tty cmd, .waitFailed id]) = ids := by
    induction ids with
    | nil => rfl
    | cons id rest ih => exact congrArg (id :: ·) ih
  have hready (ids : List Nat) : createdIn (ids.map fun id => .create id env tty cmd) = ids := by
    induction ids with
    | nil => rfl
    | cons id rest ih => exact congrArg (id :: ·) ih
  rw [Creation.events, createdIn_append, hlost, hready, Creation.created]

@[simp]
theorem removedIn_events : removedIn (creation.events env tty cmd) = [] := by
  rw [removedIn, List.filterMap_eq_nil_iff]
  intro event hevent
  simp only [Creation.events, List.mem_append, List.mem_flatMap, List.mem_cons,
    List.not_mem_nil, or_false, List.mem_map] at hevent
  rcases hevent with ⟨id, -, rfl | rfl⟩ | ⟨id, -, rfl⟩ <;> rfl

theorem any_losesPod_events : (creation.events env tty cmd).any Event.LosesPod = true ↔
      creation.lost ≠ [] := by
  cases hlost : creation.lost with
  | nil | cons => simp [Creation.events, hlost, Event.LosesPod]

end Creation

theorem Creation.Numbered.created_eq {creation : Creation} {next : Nat}
    (hnumbered : creation.Numbered next) :
    creation.created = List.range' next creation.created.length := by
  cases hresult : creation.result with
  | error =>
    simp only [Creation.created, Creation.ready, hresult, List.append_nil]
    exact hnumbered.lost
  | ok id =>
    simp only [Creation.created, Creation.ready, hresult, List.length_append, List.length_singleton]
    rw [List.range'_concat, Nat.one_mul, ← hnumbered.lost, hnumbered.result id hresult]

structure Performed.Effect (performed : Performed) (next : Nat) : Prop where
  created : createdIn performed.events = List.range' next (createdIn performed.events).length
  removed : ∀ id ∈ removedIn performed.events, id ∈ createdIn performed.events

theorem undone_calls {id : Nat} {started : List Event}
    (hstarted : started = [] ∨ started = [.start id]) :
    createdIn (started ++ [.remove id]) = [] ∧ removedIn (started ++ [.remove id]) = [id] ∧
      (started ++ [Event.remove id]).any Event.LosesPod = false := by
  rcases hstarted with rfl | rfl
  · exact ⟨rfl, rfl, rfl⟩
  · exact ⟨rfl, rfl, rfl⟩

section Effects

variable {platform : Platform} {config : Config} {s : State}
  {c : ChannelHandler} {request : Request} {outcome : Outcome platform}
  {performed : Performed}

theorem Performed.Effect.of_nil {next : Nat} (hevents : performed.events = []) :
    performed.Effect next := by
  constructor <;> simp [hevents]

theorem Ran.effect {program : List String} (hran : Ran config s c program outcome performed) :
    performed.Effect s.next := by
  have hnumbered := createContainer_numbered s.next outcome
  cases hran with
  | running | invalid | noExec => exact .of_nil rfl
  | unattached | exec => exact ⟨rfl, nofun⟩
  | uncreated =>
    refine ⟨?_, by simp⟩
    simp only [createdIn_events]
    exact hnumbered.created_eq
  | undone hmode handler id hresult started hstarted =>
    obtain ⟨hcreated, hremoved, -⟩ := undone_calls (hstarted.imp_right And.left)
    have hmem : id ∈ (createContainer s.next outcome).created := by
      simp [Creation.created, Creation.ready, hresult]
    constructor
    · rw [createdIn_append, createdIn_events, hcreated, List.append_nil]
      exact hnumbered.created_eq
    · rw [removedIn_append, removedIn_events, hremoved, createdIn_append,
        createdIn_events, hcreated]
      simpa using hmem
  | session hmode handler id =>
    have hcreated : createdIn [.start id] = [] := rfl
    have hremoved : removedIn [.start id] = [] := rfl
    constructor
    · rw [createdIn_append, createdIn_events, hcreated, List.append_nil]
      exact hnumbered.created_eq
    · simp [hremoved]

theorem perform_effect (hperform : s.perform config c request outcome = some performed) :
    performed.Effect s.next := by
  cases hasks : request.AsksProgram config with
  | false => exact .of_nil (perform_other hasks hperform).1
  | true =>
    obtain ⟨program, hrun⟩ := perform_program hasks hperform
    exact (ran_of_runProgram hrun).effect

theorem perform_connection (hmode : config.mode = .connection)
    (hperform : s.perform config c request outcome = some performed) :
    createdIn performed.events = [] ∧ removedIn performed.events = [] := by
  cases hasks : request.AsksProgram config with
  | false => simp [(perform_other hasks hperform).1]
  | true =>
    obtain ⟨program, hrun⟩ := perform_program hasks hperform
    cases ran_of_runProgram hrun with
    | running | invalid | noExec | unattached | exec => exact ⟨rfl, rfl⟩
    | uncreated hsession | undone hsession | session hsession =>
      rw [hmode] at hsession; cases hsession

theorem Ran.leaves_iff {program : List String} (hmode : config.mode = .session)
    (hran : Ran config s c program outcome performed) :
    (∀ id ∈ createdIn performed.events, id ∈ removedIn performed.events) ↔
      ¬ (performed.answer = none ∨ performed.events.any Event.LosesPod = true) := by
  have hnumbered := createContainer_numbered s.next outcome
  cases hran with
  | running | invalid => simp
  | noExec hconnection | unattached hplatform hconnection | exec hconnection =>
    rw [hmode] at hconnection; cases hconnection
  | uncreated hmode handler hexec err hresult =>
    rw [any_losesPod_events]
    simp [Creation.created, Creation.ready, hresult, List.eq_nil_iff_forall_not_mem]
  | undone hmode handler id hresult started hstarted =>
    obtain ⟨hcreated, hremoved, hwait⟩ := undone_calls (hstarted.imp_right And.left)
    have hnew : id ∉ (createContainer s.next outcome).lost := by
      rw [hnumbered.lost, hnumbered.result id hresult, List.mem_range'_1]
      omega
    rw [createdIn_append, createdIn_events, removedIn_append, removedIn_events,
      hcreated, hremoved, List.any_append, hwait, Bool.or_false, any_losesPod_events]
    simp only [Creation.created, Creation.ready, hresult, reduceCtorEq,
      false_or, ne_eq, not_not, List.append_nil, List.nil_append,
      List.forall_mem_append, List.mem_singleton, and_true, forall_eq]
    constructor
    · intro hall
      refine List.eq_nil_iff_forall_not_mem.mpr fun lost hlost => ?_
      exact hnew (hall lost hlost ▸ hlost)
    · intro hnone
      rw [hnone]
      exact List.forall_mem_nil _
  | session hmode handler id hresult =>
    have hcreated : id ∈ createdIn
        ((createContainer s.next outcome).events c.env (some c.pty) program ++ [.start id]) := by
      simp [Creation.created, Creation.ready, hresult]
    have hremoved : removedIn ((createContainer s.next outcome).events c.env (some c.pty) program ++
          [.start id]) = [] := by
      rw [removedIn_append, removedIn_events]
      rfl
    rw [hremoved]
    exact iff_of_false (fun hall => List.not_mem_nil (hall id hcreated)) (not_not.mpr (.inl rfl))

theorem perform_leaves_iff (hmode : config.mode = .session)
    (hperform : s.perform config c request outcome = some performed) :
    (∀ id ∈ createdIn performed.events, id ∈ removedIn performed.events) ↔
      ¬ Answered.Leaves config ⟨request, performed.events, performed.answer⟩ := by
  cases hasks : request.AsksProgram config with
  | false =>
    rw [(perform_other hasks hperform).1]
    simp [Answered.Leaves, hasks]
  | true =>
    obtain ⟨program, hrun⟩ := perform_program hasks hperform
    rw [(ran_of_runProgram hrun).leaves_iff hmode]
    simp [Answered.Leaves, hasks]

end Effects

/-! ### Accounts of a connection -/

structure Accounted (config : Config) (s : State) : Prop where
  /-- Numbers are given out in order. -/
  created : s.created = List.range s.next
  removed : ∀ id ∈ s.removed, id ∈ s.created
  /-- Only connection mode has a container for the connection. -/
  container : ∀ id, s.network.container = some id → config.mode = .connection ∧ id ∈ s.created
  /-- In connection mode nothing is removed before `OnDisconnect`. -/
  connected : config.mode = .connection → s.network.disconnected = false → s.removed = []
  unopened : ∀ i, s.sessions.length ≤ i → s.createdBy (some i) = []
  sessions : config.mode = .session →
    ∀ (i : Nat) (session : Session), s.sessions[i]? = some session →
      ((∀ id ∈ s.createdBy (some i), id ∈ s.removed) ↔ ∀ e ∈ session.history, ¬ e.Leaves config)

theorem accounted_init (config : Config) : Accounted config {} where
  created := rfl
  removed := nofun
  container := nofun
  connected := fun _ _ => rfl
  unopened := fun _ _ => rfl
  sessions := nofun

section Accounts

variable {platform : Platform} {config : Config} {s t : State}

theorem Accounted.append (hs : Accounted config s) {ids : List Nat}
    (hids : ids = List.range' s.next ids.length) :
    s.created ++ ids = List.range (s.created ++ ids).length := by
  rw [List.length_append, ← State.next, List.range_eq_range',
    List.range'_append_1.symm, Nat.zero_add, ← hids, ← List.range_eq_range', ← hs.created]

theorem Accounted.fresh (hs : Accounted config s) {ids : List Nat}
    (hids : ids = List.range' s.next ids.length) {id : Nat} (hid : id ∈ ids) : id ∉ s.created := by
  rw [hids, List.mem_range'_1] at hid
  rw [hs.created, List.mem_range]
  omega

variable {performed : Performed}

theorem Accounted.mem_removed (hs : Accounted config s)
    (heffect : performed.Effect s.next) {id : Nat} (hid : id ∈ s.created) :
    id ∈ s.removed ++ removedIn performed.events ↔ id ∈ s.removed := by
  rw [List.mem_append]
  exact or_iff_left fun h =>
    hs.fresh heffect.created (heffect.removed id h) hid

theorem ne_session (hmode : config.mode = .connection) : config.mode ≠ .session := by
  rw [hmode]
  exact nofun

theorem Accounted.record_creation (hs : Accounted config s)
    (hmode : config.mode = .connection) {creation : Creation}
    (hnumbered : creation.Numbered s.next) (env : Env) :
    Accounted config (s.record none (creation.events env none [])) where
  created := by
    rw [State.next, created_record, createdIn_events]
    exact hs.append hnumbered.created_eq
  removed := by
    rw [created_record, removed_record, removedIn_events, List.append_nil]
    exact fun id hid => List.mem_append_left _ (hs.removed id hid)
  container := fun id hid => by
    rw [created_record]
    exact ⟨hmode, List.mem_append_left _ (hs.container id hid).2⟩
  connected := fun hmode hconnected => by
    rw [removed_record, removedIn_events, hs.connected hmode hconnected]
    rfl
  unopened := fun i hi => by
    rw [createdBy_record_ne (Option.some_ne_none i).symm]
    exact hs.unopened i hi
  sessions := fun hsession => absurd hsession (ne_session hmode)

variable {outcome : Outcome platform}

theorem Accounted.shook {env : Env} (hs : Accounted config s)
    (hshook : Shook config s env outcome t) : Accounted config t := by
  have hnumbered := createContainer_numbered s.next outcome
  cases hshook with
  | unchanged connected =>
    exact ⟨hs.created, hs.removed, hs.container, hs.connected, hs.unopened, hs.sessions⟩
  | uncreated hmode => exact hs.record_creation hmode hnumbered env
  | created hmode id hresult connected =>
    have ht := hs.record_creation hmode hnumbered env
    refine ⟨ht.created, ht.removed, ?_, ht.connected, ht.unopened, ht.sessions⟩
    intro other hother
    cases hother
    refine ⟨hmode, ?_⟩
    change id ∈ (s.record none _).created
    rw [created_record]
    simp [Creation.created, Creation.ready, hresult]

theorem Accounted.openSession (hs : Accounted config s) :
    Accounted config { s with sessions := s.sessions ++ [{}] } where
  created := hs.created
  removed := hs.removed
  container := hs.container
  connected := hs.connected
  unopened := fun i hi => by
    rw [List.length_append] at hi
    exact hs.unopened i (Nat.le_of_add_right_le hi)
  sessions := fun hmode => by
    refine (ListBlocks.forall_getElem?_append_singleton ?_).mpr (hs.sessions hmode)
    change (∀ id ∈ s.createdBy (some s.sessions.length), id ∈ s.removed) ↔ _
    rw [hs.unopened _ (Nat.le_refl _)]
    exact iff_of_true nofun nofun

variable {i : Nat} {handler : ChannelHandler} {history : List Answered}

theorem Accounted.request (hs : Accounted config s) {request : Request}
    (hsession : s.sessions[i]? = some ⟨handler, history, false⟩)
    (hperform : s.perform config handler request outcome = some performed) : Accounted config
      ((s.record (some i) performed.events).setSession i ⟨performed.handler,
          history ++ [⟨request, performed.events, performed.answer⟩], false⟩) where
  created := by
    change (s.record _ _).created = List.range (s.record _ _).next
    rw [State.next, created_record]
    exact hs.append (perform_effect hperform).created
  removed := by
    change ∀ id ∈ (s.record _ _).removed, id ∈ (s.record _ _).created
    rw [created_record, removed_record]
    intro id hid
    rw [List.mem_append] at hid ⊢
    exact hid.imp (hs.removed id) ((perform_effect hperform).removed id)
  container := fun id hid => by
    change _ ∧ id ∈ (s.record _ _).created
    rw [created_record]
    exact ⟨(hs.container id hid).1, List.mem_append_left _ (hs.container id hid).2⟩
  connected := fun hmode hconnected => by
    change (s.record _ _).removed = []
    rw [removed_record, (perform_connection hmode hperform).2, hs.connected hmode hconnected]
    rfl
  unopened := fun k hk => by
    rw [State.setSession, List.length_set] at hk
    have hlt : i < s.sessions.length := (List.getElem?_eq_some_iff.mp hsession).1
    have hne : some i ≠ some k := by
      rw [ne_eq, Option.some.injEq]
      exact fun h => absurd hk (by rw [← h]; exact Nat.not_le.mpr hlt)
    change (s.record _ _).createdBy (some k) = []
    rw [createdBy_record_ne hne]
    exact hs.unopened k hk
  sessions := fun hmode k session hk => by
    have heffect := perform_effect hperform
    change (∀ id ∈ (s.record _ _).createdBy (some k), id ∈ (s.record _ _).removed) ↔ _
    rw [removed_record]
    refine ListBlocks.forall_getElem?_set (P := fun k session =>
        (∀ id ∈ (s.record (some i) performed.events).createdBy (some k),
            id ∈ s.removed ++ removedIn performed.events) ↔
          ∀ e ∈ session.history, ¬ e.Leaves config)
      (fun k session hne hold => ?_) ?_ hk
    · rw [createdBy_record_ne (by simpa using hne), ← hs.sessions hmode k session hold]
      exact forall₂_congr fun id hid =>
        hs.mem_removed heffect (createdBy_subset _ hid)
    · rw [createdBy_record_self, List.forall_mem_append, List.forall_mem_append,
        ← hs.sessions hmode i _ hsession, List.forall_mem_singleton,
        ← perform_leaves_iff hmode hperform]
      refine and_congr ?_ ?_
      · exact forall₂_congr fun id hid =>
          hs.mem_removed heffect (createdBy_subset _ hid)
      · refine forall₂_congr fun id hid => ?_
        rw [List.mem_append]
        exact or_iff_right fun h =>
          hs.fresh heffect.created hid (hs.removed id h)

theorem Accounted.onClose_eq (hs : Accounted config s) (i : Nat) : s.onClose config i = s := by
  rw [State.onClose]
  split
  next id hcontainer hmode => exact absurd hmode (ne_session (hs.container id hcontainer).1)
  next => rfl

theorem Accounted.close (hs : Accounted config s)
    (hsession : s.sessions[i]? = some ⟨handler, history, false⟩) :
    Accounted config (s.setSession i ⟨handler, history, true⟩) where
  created := hs.created
  removed := hs.removed
  container := hs.container
  connected := hs.connected
  unopened := fun k hk => by
    rw [State.setSession, List.length_set] at hk
    exact hs.unopened k hk
  sessions := fun hmode k session hk => by
    refine ListBlocks.forall_getElem?_set (P := fun k session =>
        (∀ id ∈ s.createdBy (some k), id ∈ s.removed) ↔ ∀ e ∈ session.history, ¬ e.Leaves config)
      (fun k session _ => hs.sessions hmode k session) ?_ hk
    exact hs.sessions hmode i ⟨handler, history, false⟩ hsession

theorem Accounted.disconnect (hs : Accounted config s) : Accounted config s.onDisconnect := by
  rw [State.onDisconnect]
  split
  next => exact hs
  simp only
  split
  next id hcontainer =>
    obtain ⟨hmode, hcreated⟩ := hs.container id hcontainer
    constructor
    · change (s.record none [.remove id]).created = List.range (s.record none [.remove id]).next
      rw [State.next, created_record]
      exact hs.append rfl
    · change ∀ other ∈ (s.record none [.remove id]).removed,
        other ∈ (s.record none [.remove id]).created
      rw [created_record, removed_record]
      intro other hother
      rw [List.mem_append] at hother ⊢
      rcases hother with hother | hother
      · exact .inl (hs.removed other hother)
      · cases List.mem_singleton.mp hother
        exact .inl hcreated
    · intro other hother
      rw [created_record]
      exact ⟨hmode, List.mem_append_left _ (hs.container other hother).2⟩
    · exact fun _ h => by cases h
    · intro i hi
      rw [createdBy_record_ne (Option.some_ne_none i).symm]
      exact hs.unopened i hi
    · exact fun hsession => absurd hsession (ne_session hmode)
  next =>
    exact ⟨hs.created, hs.removed, hs.container, fun _ h => (by cases h), hs.unopened, hs.sessions⟩

variable {action : Action platform}

theorem Accounted.step (hs : Accounted config s)
    (hstep : s.step config action = some t) : Accounted config t := by
  cases does_of_step hstep with
  | handshake env outcome => exact hs.shook (ContainerBackend.shook config s env outcome)
  | openSession => exact hs.openSession
  | request i request outcome handler history hsession performed hperform =>
    exact hs.request hsession hperform
  | close i handler history hsession =>
    rw [hs.onClose_eq]
    exact hs.close hsession
  | disconnect => exact hs.disconnect

theorem noLeak_connection (hmode : config.mode = .connection) :
    NoLeak config s ↔ (s.network.disconnected = true →
      ∀ id ∈ s.createdBy none, id ∈ s.removed) := by
  simp [NoLeak, hmode]

theorem noLeak_session (hmode : config.mode = .session) :
    NoLeak config s ↔ ∀ (i : Nat) (session : Session),
      s.sessions[i]? = some session → session.closed = true →
        ∀ id ∈ s.createdBy (some i), id ∈ s.removed := by
  simp [NoLeak, hmode]

theorem Accounted.noLeak_record (hs : Accounted config s) {creation : Creation}
    (hnumbered : creation.Numbered s.next) (env : Env) :
    (∀ id ∈ (s.record none (creation.events env none [])).createdBy none,
        id ∈ (s.record none (creation.events env none [])).removed) ↔
      (∀ id ∈ s.createdBy none, id ∈ s.removed) ∧
        (s.record none (creation.events env none [])).created = s.created := by
  rw [createdBy_record_self, removed_record, created_record, createdIn_events,
    removedIn_events, List.append_nil, List.forall_mem_append, List.append_right_eq_self]
  refine and_congr_right fun _ => ⟨fun hall => ?_, fun hnil => ?_⟩
  · refine List.eq_nil_iff_forall_not_mem.mpr fun id hid => ?_
    exact hs.fresh hnumbered.created_eq hid (hs.removed id (hall id hid))
  · rw [hnil]
    exact nofun

theorem Accounted.noLeak_shook {env : Env} (hs : Accounted config s)
    (hmode : config.mode = .connection) (hshook : Shook config s env outcome t) : NoLeak config t ↔
      NoLeak config s ∧ (s.network.disconnected = true → t.created = s.created) := by
  have hnumbered := createContainer_numbered s.next outcome
  rw [noLeak_connection hmode, noLeak_connection hmode]
  cases hshook with
  | unchanged => exact (and_iff_left fun _ => rfl).symm
  | uncreated _ | created _ =>
    rw [← imp_and]
    exact imp_congr_right fun _ => hs.noLeak_record hnumbered env

theorem onDisconnect_first (hdisconnected : s.network.disconnected = false) :
    s.onDisconnect.network.disconnected = true ∧ s.onDisconnect.createdBy none = s.createdBy none ∧
      s.onDisconnect.removed = s.removed ++ s.network.container.toList := by
  rw [State.onDisconnect, if_neg (by simp [hdisconnected])]
  simp only
  split
  next id hcontainer =>
    refine ⟨rfl, ?_, ?_⟩
    · rw [createdBy_record_self]
      exact List.append_nil _
    · rw [removed_record, hcontainer]
      rfl
  next hcontainer =>
    refine ⟨rfl, rfl, ?_⟩
    rw [hcontainer]
    exact (List.append_nil _).symm

theorem Accounted.noLeak_disconnect (hs : Accounted config s) (hmode : config.mode = .connection) :
    NoLeak config s.onDisconnect ↔ NoLeak config s ∧ (s.network.disconnected = false →
          ∀ id ∈ s.createdBy none, s.network.container = some id) := by
  rw [noLeak_connection hmode, noLeak_connection hmode]
  cases hdisconnected : s.network.disconnected with
  | true => simp [State.onDisconnect, hdisconnected]
  | false =>
    obtain ⟨hnow, hcreated, hremoved⟩ := onDisconnect_first hdisconnected
    rw [hnow, hcreated, hremoved, hs.connected hmode hdisconnected]
    simp

theorem Accounted.noLeak_step_connection (hs : Accounted config s)
    (hmode : config.mode = .connection) (hstep : s.step config action = some t) :
    NoLeak config t ↔ NoLeak config s ∧ LeavesNothing config s action := by
  cases does_of_step hstep with
  | handshake env outcome =>
    simp only [LeavesNothing, hmode]
    exact hs.noLeak_shook hmode (ContainerBackend.shook config s env outcome)
  | openSession =>
    simp only [LeavesNothing, hmode, and_true]
    rw [noLeak_connection hmode, noLeak_connection hmode]
    rfl
  | request i request outcome handler history hsession performed hperform =>
    obtain ⟨hcreated, hremoved⟩ := perform_connection hmode hperform
    simp only [LeavesNothing, hmode, and_true]
    rw [noLeak_connection hmode, noLeak_connection hmode]
    change (_ → ∀ id ∈ (s.record _ _).createdBy none, id ∈ (s.record _ _).removed) ↔ _
    rw [createdBy_record_ne (Option.some_ne_none i), removed_record, hremoved, List.append_nil]
    rfl
  | close =>
    rw [hs.onClose_eq]
    simp only [LeavesNothing, hmode, and_true]
    rw [noLeak_connection hmode, noLeak_connection hmode]
    rfl
  | disconnect =>
    simp only [LeavesNothing, hmode]
    exact hs.noLeak_disconnect hmode

theorem Accounted.onDisconnect_log (hs : Accounted config s)
    (hmode : config.mode ≠ .connection) : s.onDisconnect.log = s.log := by
  rw [State.onDisconnect]
  split
  next => rfl
  simp only
  split
  next id hcontainer => exact absurd (hs.container id hcontainer).1 hmode
  next => rfl

theorem Accounted.noLeak_request (hs : Accounted config s)
    (hmode : config.mode = .session) {request : Request}
    (hsession : s.sessions[i]? = some ⟨handler, history, false⟩) {answered : List Answered}
    (hperform : s.perform config handler request outcome = some performed) : NoLeak config
        ((s.record (some i) performed.events).setSession i ⟨performed.handler, answered, false⟩) ↔
      NoLeak config s := by
  have heffect := perform_effect hperform
  rw [noLeak_session hmode, noLeak_session hmode]
  constructor
  · intro hall k session hk hclosed id hid
    have hne : some i ≠ some k := by
      rintro ⟨rfl⟩
      rw [hsession, Option.some.injEq] at hk
      rw [← hk] at hclosed
      cases hclosed
    have hk' : (s.sessions.set i ⟨performed.handler, answered, false⟩)[k]? = some session := by
      rw [List.getElem?_set_ne (by simpa using hne)]
      exact hk
    have hin := hall k session hk' hclosed id
    change id ∈ (s.record _ _).createdBy (some k) → id ∈ (s.record _ _).removed at hin
    rw [createdBy_record_ne hne, removed_record,
      hs.mem_removed heffect (createdBy_subset _ hid)] at hin
    exact hin hid
  · intro hall k session hk
    change session.closed = true → ∀ id ∈ (s.record _ _).createdBy (some k),
      id ∈ (s.record _ _).removed
    rw [removed_record]
    refine ListBlocks.forall_getElem?_set (P := fun k session => session.closed = true →
        ∀ id ∈ (s.record (some i) performed.events).createdBy (some k),
          id ∈ s.removed ++ removedIn performed.events) (fun k session hne hold hclosed => ?_)
      (fun hclosed => absurd hclosed Bool.false_ne_true) hk
    rw [createdBy_record_ne (by simpa using hne)]
    exact fun id hid => List.mem_append_left _ (hall k session hold hclosed id hid)

theorem Accounted.noLeak_step_session (hs : Accounted config s)
    (hmode : config.mode = .session) (hstep : s.step config action = some t) :
    NoLeak config t ↔ NoLeak config s ∧ LeavesNothing config s action := by
  have hconnection : config.mode ≠ .connection := by
    rw [hmode]
    exact nofun
  cases does_of_step hstep with
  | handshake env outcome =>
    simp only [LeavesNothing, hmode, and_true]
    have hshook := ContainerBackend.shook config s env outcome
    generalize s.onHandshakeSuccess config env outcome = t at hshook ⊢
    cases hshook with
    | unchanged =>
      rfl
    | uncreated h | created h => exact absurd h hconnection
  | openSession =>
    simp only [LeavesNothing, hmode, and_true]
    rw [noLeak_session hmode, noLeak_session hmode]
    refine ListBlocks.forall_getElem?_append_singleton fun hclosed => ?_
    cases hclosed
  | request i request outcome handler history hsession performed hperform =>
    simp only [LeavesNothing, hmode, and_true]
    exact hs.noLeak_request hmode hsession hperform
  | close i handler history hsession =>
    rw [hs.onClose_eq]
    simp only [LeavesNothing, hmode]
    rw [noLeak_session hmode, noLeak_session hmode]
    refine ListBlocks.forall_getElem?_set_iff (P := fun k session => session.closed = true →
        ∀ id ∈ s.createdBy (some k), id ∈ s.removed) hsession ?_
    simp only [hsession, Option.mem_def, Option.some.injEq, forall_eq',
      ← hs.sessions hmode i _ hsession, Bool.false_eq_true, false_implies, true_and, forall_const]
  | disconnect =>
    simp only [LeavesNothing, hmode, and_true]
    rw [noLeak_session hmode, noLeak_session hmode]
    simp only [State.createdBy, State.removed, hs.onDisconnect_log hconnection,
      onDisconnect_sessions]

theorem Accounted.noLeak_step (hs : Accounted config s) (hstep : s.step config action = some t) :
    NoLeak config t ↔ NoLeak config s ∧ LeavesNothing config s action := by
  cases hmode : config.mode with
  | connection => exact hs.noLeak_step_connection hmode hstep
  | session => exact hs.noLeak_step_session hmode hstep
  | other => simp [NoLeak, LeavesNothing, hmode]

end Accounts

/-- Nothing is left behind exactly in the runs whose steps leave nothing behind.
What is left behind once is never removed: a run without a leak at its end has
had none before. -/
theorem no_leak_iff (platform : Platform) (config : Config)
    {actions : List (Action platform)} {s : State}
    (hrun : (system platform config).run actions = some s) : NoLeak config s ↔
      (system platform config).Meets (fun s => LeavesNothing config s) {}
        actions := by
  have hinit : NoLeak config {} := by
    rw [NoLeak]
    split
    next => simp
    next => simp
    next => trivial
  rw [(system platform config).runFrom_iff_meets
    (G := fun s => LeavesNothing config s) (fun _ _ _ => Accounted.step)
    (fun _ _ _ => Accounted.noLeak_step) (accounted_init config) hrun]
  exact and_iff_right hinit

def oneSession (request : Request) : List (Action .docker) :=
  [.handshake [] {}, .openSession, .request 0 request {}, .close 0, .disconnect]

theorem connection_container_removed :
    ∃ s, (system .docker { mode := .connection }).run (oneSession .shell) =
        some s ∧ s.network.disconnected = true ∧ NoLeak { mode := .connection } s := by
  refine TransitionSystem.exists_run _ rfl fun s hrun => ?_
  have hend : s.network.disconnected = true := by rw [← Option.some.inj hrun]; rfl
  exact ⟨hend, (no_leak_iff .docker _ hrun).mpr (by decide)⟩

/-- The container of a session outlives the session and the connection. -/
theorem session_container_left :
    ∃ s, (system .docker { mode := .session }).run (oneSession .shell) =
        some s ∧ s.createdBy (some 0) = [0] ∧ s.removed = [] ∧ ¬ NoLeak { mode := .session } s := by
  refine ⟨_, rfl, rfl, rfl, fun hleak => ?_⟩
  exact List.not_mem_nil (hleak 0 _ rfl rfl 0 (List.mem_singleton.mpr rfl))

/-! ### A start that fails -/

namespace Docker

def Attached (config : Config) (next : Nat) (c : ChannelHandler) (outcome : Outcome .docker) :
    Prop :=
  c.exec = none ∧ config.mode = .session ∧ (createContainer next outcome).ready ≠ [] ∧
    outcome.attach = none

theorem lost_createContainer (next : Nat) (outcome : Outcome .docker) :
    (createContainer next outcome).lost = [] := by
  have hloop (attempt : Attempt .docker) (rest : List (Attempt .docker)) :
      (createLoop next attempt rest).lost = [] := by
    induction rest generalizing attempt with
    | nil => cases attempt <;> rfl
    | cons second rest ih =>
      cases attempt with
      | ready => rfl
      | refused => exact ih second
  rw [createContainer]
  split
  · rfl
  · exact hloop outcome.attempt outcome.retries

variable {config : Config} {n : NetworkHandler} {removed : List Nat} {next : Nat}
  {c : ChannelHandler} {program : List String} {outcome : Outcome .docker} {performed : Performed}

theorem createdIn_createExec (removed : List Nat) (id : Nat) (c : ChannelHandler)
    (program : List String) (outcome : Outcome .docker) :
    createdIn (createExec removed id c program outcome).1 = [] := by
  unfold createExec
  split
  · rfl
  · cases outcome.createExec <;> cases outcome.attach <;> rfl

theorem failed_session (hperformed : handleExecModeSession next c program outcome = performed)
    (herr : performed.answer ≠ none) :
    (performed.handler = c ∧ (createContainer next outcome).ready = [] ∧
        performed.events = (createContainer next outcome).events c.env (some c.pty) program) ∨
      ∃ id started, (createContainer next outcome).ready = [id] ∧
        (started = [] ∨ started = [.start id]) ∧
        performed.handler = { c with exec := if outcome.attach = none then some id else none } ∧
        performed.events = (createContainer next outcome).events c.env (some c.pty) program ++
          (started ++ [.remove id]) := by
  rw [Creation.ready]
  unfold handleExecModeSession at hperformed
  dsimp only at hperformed
  cases hresult : (createContainer next outcome).result with
  | error =>
    rw [hresult] at hperformed
    subst hperformed
    exact .inl ⟨rfl, rfl, rfl⟩
  | ok id =>
    rw [hresult] at hperformed
    dsimp only at hperformed
    split at hperformed
    · subst hperformed
      exact .inr ⟨id, [], rfl, .inl rfl, by simp [*], rfl⟩
    · split at hperformed
      · subst hperformed
        exact .inr ⟨id, [], rfl, .inl rfl, by simp [*], rfl⟩
      · split at hperformed <;> subst hperformed
        · exact .inr ⟨id, [.start id], rfl, .inr rfl, by simp [*], rfl⟩
        · exact absurd rfl herr

structure LeavesUsable (c : ChannelHandler) (performed : Performed) : Prop where
  handler : performed.handler = c
  removed : ∀ id ∈ createdIn performed.events, id ∈ removedIn performed.events

/-- A program that could not be started leaves the session usable exactly if the
container of the session was not attached to. -/
theorem failed_start_iff (hrun : run config n removed next c program outcome = some performed)
    (herr : performed.answer ≠ none) :
    LeavesUsable c performed ↔ ¬ Attached config next c outcome := by
  unfold run at hrun
  split at hrun
  next hexec =>
    cases hrun
    exact iff_of_true ⟨rfl, by simp⟩ fun h => by simp [h.1] at hexec
  next hexec =>
    rw [Option.not_isSome_iff_eq_none] at hexec
    split at hrun
    next hmode =>
      have hnot : ¬ Attached config next c outcome := by simp [Attached, hmode]
      unfold handleExecModeConnection at hrun
      split at hrun
      next => cases hrun
      next id _ =>
        split at hrun <;> cases hrun
        next events err hcreate =>
          have hnone := createdIn_createExec removed id c program outcome
          rw [hcreate] at hnone
          exact iff_of_true ⟨rfl, by simp [hnone]⟩ hnot
        next => exact absurd rfl herr
    next hmode =>
      have hcreated : (createContainer next outcome).created =
          (createContainer next outcome).ready := by
        rw [Creation.created, lost_createContainer, List.nil_append]
      rcases failed_session (Option.some.inj hrun) herr with
        ⟨hhandler, hready, hevents⟩ | ⟨id, started, hready, hstarted, hhandler, hevents⟩
      · refine iff_of_true ⟨hhandler, ?_⟩ (by simp [Attached, hready])
        simp [hevents, hcreated, hready]
      · obtain ⟨hnothing, hremoved, -⟩ := undone_calls hstarted
        have hgone : ∀ other ∈ createdIn performed.events, other ∈ removedIn performed.events := by
          simp [hevents, hcreated, hready, hnothing, hremoved]
        by_cases hattach : outcome.attach = none
        · refine iff_of_false (fun h => ?_) (not_not.mpr ⟨hexec, hmode, by simp [hready], hattach⟩)
          rw [← h.handler, hhandler, if_pos hattach] at hexec
          cases hexec
        · refine iff_of_true ⟨?_, hgone⟩ fun h => hattach h.2.2.2
          rw [hhandler, if_neg hattach, ← hexec]
    next hmode =>
      cases hrun
      exact iff_of_true ⟨rfl, by simp⟩ (by simp [Attached, hmode])

theorem failed_start_unattached : ∃ performed, run { mode := .session } {} [] 0
      { env := [("LANG", "C")], pty := true } ["sh"] { attach := some (.plain "no") } =
        some performed ∧ createdIn performed.events = [0] ∧
      LeavesUsable { env := [("LANG", "C")], pty := true } performed := by
  have hrun : run { mode := .session } {} [] 0 { env := [("LANG", "C")], pty := true } ["sh"]
      { attach := some (.plain "no") } = some _ := rfl
  refine ⟨_, hrun, rfl, (failed_start_iff hrun (Option.some_ne_none _)).mpr ?_⟩
  exact fun h => Option.some_ne_none _ h.2.2.2

/-- The container cannot be started: the next request finds a program running. -/
theorem unstarted_program_recorded : ∃ performed,
    run { mode := .session } {} [] 0 {} ["sh"] { start := some (.plain "no") } =
        some performed ∧ performed.answer = some (.plain "no") ∧ ¬ LeavesUsable {} performed ∧
      (onEnvRequest .docker performed.handler "LANG" "C").answer =
        some Platform.docker.programAlreadyRunning := by
  refine ⟨_, rfl, rfl, fun h => ?_, rfl⟩
  cases h.handler

end Docker

end ContainerSSH.ContainerBackend
