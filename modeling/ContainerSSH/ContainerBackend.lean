/-
The Docker and the Kubernetes backend of one connection: the handshake, the sessions with their
requests, and the calls that create, start and remove containers and pods.
-/
import ContainerSSH.ListBlocks
import ContainerSSH.Message
import ContainerSSH.TransitionSystem

namespace ContainerSSH.ContainerBackend

inductive Platform where
  | docker
  | kubernetes
deriving DecidableEq

inductive ExecutionMode where
  | connection
  | session
  | other (text : String)
deriving DecidableEq

structure Config where
  mode : ExecutionMode
  shellCommand : List String := ["/bin/bash"]
  subsystems : List (String × String) := []
  /-- `unixutils.ParseCMD`, a function of another library; `none` is its error. -/
  parseCMD : String → Option (List String) := fun _ => none

abbrev Env := List (String × String)

inductive Event where
  | create (id : Nat) (env : Env) (tty : Option Bool) (cmd : List String)
  | waitFailed (id : Nat)
  | createExec (id : Nat) (env : Env) (tty : Bool) (program : List String)
  | start (id : Nat)
  | remove (id : Nat)

def Event.created? : Event → Option Nat
  | .create id _ _ _ => some id
  | _ => none

def Event.removed? : Event → Option Nat
  | .remove id => some id
  | _ => none

def Event.Creates : Event → Bool
  | .create _ _ _ _ => true
  | .createExec _ _ _ _ => true
  | _ => false

def Event.LosesPod : Event → Bool
  | .waitFailed _ => true
  | _ => false

def Event.Starts : Event → Bool
  | .start _ => true
  | _ => false

inductive Attempt : Platform → Type where
  | ready {platform : Platform} : Attempt platform
  | refused {platform : Platform} (err : GoError) : Attempt platform
  | lost (err : GoError) : Attempt .kubernetes

structure Outcome (platform : Platform) where
  setup : Option GoError := none
  config : Option GoError := none
  attempt : Attempt platform := .ready
  retries : List (Attempt platform) := []
  createExec : Option GoError := none
  attach : Option GoError := none
  start : Option GoError := none
  resize : Option GoError := none

structure Creation where
  lost : List Nat
  result : Except GoError Nat

def Platform.failedCreate : Platform → GoError → GoError
  | .docker, err =>
    wrapUser err "DOCKER_CONTAINER_CREATE_FAILED" "Failed to initialize SSH session."
      "failed to create container, giving up"
  | .kubernetes, err =>
    wrapUser err "KUBERNETES_POD_CREATE_FAILED"
      "Failed to initialize SSH session." "Failed to create pod, giving up"

def podWaitFailed (err : GoError) : GoError :=
  wrapUser err "KUBERNETES_POD_WAIT_FAILED" "Failed to initialize SSH session."
    "Failed to wait for pod to come up."

def Attempt.lost? {platform : Platform} (next : Nat) : Attempt platform → List Nat
  | .lost _ => [next]
  | _ => []

def Attempt.error? {platform : Platform} : Attempt platform → Option GoError
  | .ready => none
  | .refused err => some err
  | .lost err => some (podWaitFailed err)

def createLoop {platform : Platform} (next : Nat) (attempt : Attempt platform) :
    List (Attempt platform) → Creation
  | [] =>
    match attempt.error? with
    | none => ⟨[], .ok next⟩
    | some err => ⟨attempt.lost? next, .error (platform.failedCreate err)⟩
  | second :: rest =>
    match attempt.error? with
    | none => ⟨[], .ok next⟩
    | some _ =>
      let lost := attempt.lost? next
      let creation := createLoop (next + lost.length) second rest
      ⟨lost ++ creation.lost, creation.result⟩

def createContainer {platform : Platform} (next : Nat) (outcome : Outcome platform) : Creation :=
  match outcome.config with
  | some err => ⟨[], .error err⟩
  | none => createLoop next outcome.attempt outcome.retries

def Creation.ready (creation : Creation) : List Nat :=
  match creation.result with
  | .ok id => [id]
  | .error _ => []

def Creation.created (creation : Creation) : List Nat := creation.lost ++ creation.ready

def Creation.events (creation : Creation) (env : Env) (tty : Option Bool)
    (cmd : List String) : List Event :=
  (creation.lost.flatMap fun id => [.create id env tty cmd, .waitFailed id]) ++
    creation.ready.map fun id => .create id env tty cmd

structure Creation.Numbered (creation : Creation) (next : Nat) : Prop where
  lost : creation.lost = List.range' next creation.lost.length
  result : ∀ id, creation.result = .ok id → id = next + creation.lost.length

variable {platform : Platform}

theorem createLoop_numbered (next : Nat) (attempt : Attempt platform)
    (rest : List (Attempt platform)) : (createLoop next attempt rest).Numbered next := by
  induction rest generalizing next attempt with
  | nil =>
    rw [createLoop]
    split
    next => exact ⟨rfl, fun id hid => by cases hid; rfl⟩
    next => cases attempt <;> exact ⟨rfl, nofun⟩
  | cons second rest ih =>
    rw [createLoop]
    split
    next => exact ⟨rfl, fun id hid => by cases hid; rfl⟩
    next =>
      have hlost : attempt.lost? next = List.range' next (attempt.lost? next).length := by
        cases attempt <;> rfl
      obtain ⟨hrest, hresult⟩ := ih (next + (attempt.lost? next).length) second
      refine ⟨?_, fun id hid => ?_⟩
      · rw [List.length_append, List.range'_append_1.symm, ← hlost, ← hrest]
      · rw [hresult id hid, List.length_append, Nat.add_assoc]

theorem createContainer_numbered (next : Nat) (outcome : Outcome platform) :
    (createContainer next outcome).Numbered next := by
  rw [createContainer]
  split
  · exact ⟨rfl, nofun⟩
  · exact createLoop_numbered next outcome.attempt outcome.retries

structure ChannelHandler where
  env : Env := []
  pty : Bool := false
  columns : UInt32 := 0
  rows : UInt32 := 0
  /-- The container or pod in which the recorded program runs. -/
  exec : Option Nat := none
  /-- Only the Kubernetes handler has this field. -/
  pod : Option Nat := none

structure NetworkHandler where
  /-- `networkHandler.container` of Docker, `networkHandler.pod` of Kubernetes. -/
  container : Option Nat := none
  disconnected : Bool := false

inductive Request where
  | env (name value : String)
  | pty (term : String) (columns rows : UInt32)
  | exec (program : String)
  | shell
  | subsystem (name : String)

structure Performed where
  handler : ChannelHandler
  events : List Event := []
  answer : Option GoError := none

def Platform.programAlreadyRunning : Platform → GoError
  | .docker =>
    userMessage "DOCKER_PROGRAM_ALREADY_RUNNING" "program already running" "program already running"
  | .kubernetes =>
    userMessage "KUBERNETES_PROGRAM_ALREADY_RUNNING" "program already running"
      "program already running"

def Platform.subsystemNotSupported (platform : Platform) (name : String) :
    GoError :=
  let code := match platform with
    | .docker => "DOCKER_SUBSYSTEM_NOT_SUPPORTED"
    | .kubernetes => "KUBERNETES_SUBSYSTEM_NOT_SUPPORTED"
  userMessage code "subsystem not supported"
    ("the specified subsystem is not supported (" ++ name ++ ")")

def Platform.invalidMode (platform : Platform) (text : String) : GoError :=
  match platform with
  | .docker =>
    userMessage "DOCKER_CONFIG_ERROR" "cannot run program" ("invalid execution mode: " ++ text)
  | .kubernetes => .plain ("invalid execution mode: " ++ text)

def Platform.shuttingDown : Platform → GoError
  | .docker =>
    userMessage "DOCKER_CONTAINER_SHUTTING_DOWN" "Server is shutting down"
      "Refusing new Docker execution because the container is shutting down."
  | .kubernetes =>
    userMessage "KUBERNETES_POD_SHUTTING_DOWN" "Server is shutting down"
      "Refusing new Kubernetes execution because the pod is shutting down."

def onEnvRequest (platform : Platform) (c : ChannelHandler) (name value : String) : Performed :=
  if c.exec.isSome then { handler := c, answer := some platform.programAlreadyRunning }
  else { handler := { c with env := setLabel name value c.env } }

def onPtyRequest (platform : Platform) (c : ChannelHandler) (term : String)
    (columns rows : UInt32) : Performed :=
  if c.exec.isSome then { handler := c, answer := some platform.programAlreadyRunning }
  else
    { handler :=
        { c with
          env := setLabel "TERM" term c.env
          pty := true
          columns := columns
          rows := rows } }

def parseProgram (parseCMD : String → Option (List String))
    (program : String) : Option (List String) :=
  match parseCMD program with
  | none => some ["/bin/sh", "-c", program]
  | some [] => none
  | some (first :: rest) =>
    if first.startsWith "/" || first.startsWith "./" ||
        first.startsWith "../" then
      some (first :: rest)
    else some ["/bin/sh", "-c", program]

def createExec {platform : Platform} (removed : List Nat) (id : Nat)
    (c : ChannelHandler) (program : List String) (outcome : Outcome platform) :
    List Event × Option GoError :=
  if id ∈ removed then ([], some platform.shuttingDown)
  else
    match outcome.createExec with
    | some err => ([], some err)
    | none =>
      match platform, outcome.attach with
      | .docker, some err => ([.createExec id c.env c.pty program], some err)
      | .docker, none => ([.createExec id c.env c.pty program, .start id], none)
      | .kubernetes, _ => ([.createExec id c.env c.pty program], none)

namespace Docker

def handleExecModeConnection (n : NetworkHandler) (removed : List Nat)
    (c : ChannelHandler) (program : List String) (outcome : Outcome .docker) :
    Option Performed :=
  match n.container with
  | none => none
  | some id =>
    match createExec removed id c program outcome with
    | (events, some err) => some { handler := c, events := events, answer := some err }
    | (events, none) => some { handler := { c with exec := some id }, events := events }

def handleExecModeSession (next : Nat) (c : ChannelHandler)
    (program : List String) (outcome : Outcome .docker) : Performed :=
  let creation := createContainer next outcome
  let created := creation.events c.env (some c.pty) program
  match creation.result with
  | .error err => { handler := c, events := created, answer := some err }
  | .ok id =>
    match outcome.attach with
    | some err =>
      { handler := { c with exec := none }
        events := created ++ [.remove id]
        answer := some err }
    | none =>
      let attached := { c with exec := some id }
      match outcome.start with
      | some err =>
        { handler := attached
          events := created ++ [.remove id]
          answer := some err }
      | none =>
        match c.pty, outcome.resize with
        | true, some err =>
          { handler := attached
            events := created ++ [.start id, .remove id]
            answer := some err }
        | _, _ => { handler := attached, events := created ++ [.start id] }

def run (config : Config) (n : NetworkHandler) (removed : List Nat)
    (next : Nat) (c : ChannelHandler) (program : List String)
    (outcome : Outcome .docker) : Option Performed :=
  if c.exec.isSome then some { handler := c, answer := some Platform.docker.programAlreadyRunning }
  else
    match config.mode with
    | .connection => handleExecModeConnection n removed c program outcome
    | .session => some (handleExecModeSession next c program outcome)
    | .other text => some { handler := c, answer := some (Platform.docker.invalidMode text) }

end Docker

namespace Kubernetes

def handleExecModeConnection (n : NetworkHandler) (removed : List Nat)
    (c : ChannelHandler) (program : List String)
    (outcome : Outcome .kubernetes) : Option Performed :=
  match n.container with
  | none => none
  | some id =>
    match createExec removed id c program outcome with
    | (events, some err) => some { handler := c, events := events, answer := some err }
    | (events, none) =>
      some
        { handler := { c with exec := some id }
          events := events ++ [.start id] }

def handleExecModeSession (next : Nat) (c : ChannelHandler)
    (program : List String) (outcome : Outcome .kubernetes) : Performed :=
  let creation := createContainer next outcome
  let created := creation.events c.env (some c.pty) program
  match creation.result with
  | .error err =>
    { handler := { c with pod := none }
      events := created
      answer := some err }
  | .ok id =>
    match outcome.attach with
    | some err =>
      { handler := { c with exec := none, pod := none }
        events := created ++ [.remove id]
        answer := some err }
    | none =>
      { handler := { c with exec := some id, pod := some id }
        events := created ++ [.start id] }

def run (config : Config) (n : NetworkHandler) (removed : List Nat)
    (next : Nat) (c : ChannelHandler) (program : List String)
    (outcome : Outcome .kubernetes) : Option Performed :=
  match config.mode with
  | .connection => handleExecModeConnection n removed c program outcome
  | .session => some (handleExecModeSession next c program outcome)
  | .other text => some { handler := c, answer := some (Platform.kubernetes.invalidMode text) }

end Kubernetes

structure Answered where
  request : Request
  events : List Event
  answer : Option GoError

structure Session where
  handler : ChannelHandler := {}
  history : List Answered := []
  closed : Bool := false

structure State where
  network : NetworkHandler := {}
  /-- A handshake has returned a connection handler. -/
  connected : Bool := false
  sessions : List Session := []
  log : List (Option Nat × Event) := []

inductive Action (platform : Platform) where
  | handshake (env : Env) (outcome : Outcome platform)
  | openSession
  | request (i : Nat) (request : Request) (outcome : Outcome platform)
  | close (i : Nat)
  | disconnect

namespace State

variable {platform : Platform} (config : Config)

def created (s : State) : List Nat := s.log.filterMap fun entry => entry.2.created?

def removed (s : State) : List Nat := s.log.filterMap fun entry => entry.2.removed?

def next (s : State) : Nat := s.created.length

def record (s : State) (owner : Option Nat) (events : List Event) : State :=
  { s with log := s.log ++ events.map fun event => (owner, event) }

def runProgram (s : State) (c : ChannelHandler) (program : List String) :
    (outcome : Outcome platform) → Option Performed :=
  match platform with
  | .docker => Docker.run config s.network s.removed s.next c program
  | .kubernetes => Kubernetes.run config s.network s.removed s.next c program

def perform (s : State) (c : ChannelHandler) (request : Request)
    (outcome : Outcome platform) : Option Performed :=
  match request with
  | .env name value => some (onEnvRequest platform c name value)
  | .pty term columns rows => some (onPtyRequest platform c term columns rows)
  | .exec program =>
    match parseProgram config.parseCMD program with
    | none => none
    | some parts => s.runProgram config c parts outcome
  | .shell => s.runProgram config c config.shellCommand outcome
  | .subsystem name =>
    match config.subsystems.lookup name with
    | some binary => s.runProgram config c [binary] outcome
    | none => some { handler := c, answer := some (platform.subsystemNotSupported name) }

def dockerHandshake (s : State) (env : Env) (outcome : Outcome .docker) :
    State :=
  match outcome.setup with
  | some _ => s
  | none =>
    match config.mode with
    | .connection =>
      let creation := createContainer s.next outcome
      let s := s.record none (creation.events env none [])
      match creation.result with
      | .error _ => s
      | .ok id =>
        let s := { s with network := { s.network with container := some id } }
        match outcome.start with
        | some _ => s
        | none => { s with connected := true }
    | _ => { s with connected := true }

def kubernetesHandshake (s : State) (env : Env) (outcome : Outcome .kubernetes) : State :=
  match s.network.container with
  | some _ => s
  | none =>
    match config.mode with
    | .connection =>
      let creation := createContainer s.next outcome
      let s := s.record none (creation.events env none [])
      match creation.result with
      | .error _ => s
      | .ok id => { s with network := { s.network with container := some id }, connected := true }
    | _ => { s with connected := true }

def onHandshakeSuccess (s : State) (env : Env) : (outcome : Outcome platform) → State :=
  match platform with
  | .docker => s.dockerHandshake config env
  | .kubernetes => s.kubernetesHandshake config env

def setSession (s : State) (i : Nat) (session : Session) : State :=
  { s with sessions := s.sessions.set i session }

def onClose (s : State) (i : Nat) : State :=
  match s.network.container, config.mode with
  | some id, .session => s.record (some i) [.remove id]
  | _, _ => s

def onDisconnect (s : State) : State :=
  if s.network.disconnected then s
  else
    let s := { s with network := { s.network with disconnected := true } }
    match s.network.container with
    | some id => s.record none [.remove id]
    | none => s

def step (s : State) : Action platform → Option State
  | .handshake env outcome => some (s.onHandshakeSuccess config env outcome)
  | .openSession =>
    if s.connected then some { s with sessions := s.sessions ++ [{}] }
    else none
  | .request i request outcome =>
    match s.sessions[i]? with
    | some ⟨handler, history, false⟩ =>
      match s.perform config handler request outcome with
      | none => none
      | some performed =>
        let answered : Answered := ⟨request, performed.events, performed.answer⟩
        some ((s.record (some i) performed.events).setSession i
            ⟨performed.handler, history ++ [answered], false⟩)
    | _ => none
  | .close i =>
    match s.sessions[i]? with
    | some ⟨handler, history, false⟩ =>
      some ((s.onClose config i).setSession i ⟨handler, history, true⟩)
    | _ => none
  | .disconnect => some s.onDisconnect

end State

inductive Ran {platform : Platform} (config : Config) (s : State)
    (c : ChannelHandler) (program : List String)
    (outcome : Outcome platform) : Performed → Prop where
  | running (hplatform : platform = .docker) (hexec : c.exec.isSome = true)
      (err : GoError) :
      Ran config s c program outcome { handler := c, answer := some err }
  | invalid (text : String) (hmode : config.mode = .other text) (err : GoError) :
      Ran config s c program outcome { handler := c, answer := some err }
  | noExec (hmode : config.mode = .connection)
      (hfails : (∃ id ∈ s.network.container, id ∈ s.removed) ∨
        outcome.createExec.isSome = true) (err : GoError) :
      Ran config s c program outcome { handler := c, answer := some err }
  | unattached (hplatform : platform = .docker)
      (hmode : config.mode = .connection) (id : Nat) (err : GoError) :
      Ran config s c program outcome
        { handler := c
          events := [.createExec id c.env c.pty program]
          answer := some err }
  | exec (hmode : config.mode = .connection) (id : Nat)
      (hcontainer : s.network.container = some id) (hlive : id ∉ s.removed)
      (hcreated : outcome.createExec = none) :
      Ran config s c program outcome
        { handler := { c with exec := some id }
          events := [.createExec id c.env c.pty program, .start id] }
  | uncreated (hmode : config.mode = .session) (handler : ChannelHandler)
      (hexec : handler.exec = c.exec) (err : GoError)
      (hresult : (createContainer s.next outcome).result = .error err) :
      Ran config s c program outcome
        { handler := handler
          events := (createContainer s.next outcome).events c.env (some c.pty) program
          answer := some err }
  | undone (hmode : config.mode = .session) (handler : ChannelHandler)
      (id : Nat) (hresult : (createContainer s.next outcome).result = .ok id)
      (started : List Event)
      (hstarted : started = [] ∨ started = [.start id] ∧ handler.exec = some id)
      (err : GoError) :
      Ran config s c program outcome
        { handler := handler
          events :=
            (createContainer s.next outcome).events c.env (some c.pty) program ++
              (started ++ [.remove id])
          answer := some err }
  | session (hmode : config.mode = .session) (handler : ChannelHandler)
      (id : Nat) (hresult : (createContainer s.next outcome).result = .ok id)
      (hexec : handler.exec = some id) :
      Ran config s c program outcome
        { handler := handler
          events :=
            (createContainer s.next outcome).events c.env (some c.pty) program ++ [.start id] }

variable {outcome : Outcome platform}

theorem createExec_cases (removed : List Nat) (id : Nat) (c : ChannelHandler)
    (program : List String) (outcome : Outcome platform) :
    ((id ∈ removed ∨ outcome.createExec.isSome = true) ∧
        ∃ err, createExec removed id c program outcome = ([], some err)) ∨
      id ∉ removed ∧ outcome.createExec = none := by
  unfold createExec
  split
  next hremoved => exact .inl ⟨.inl hremoved, _, rfl⟩
  next hlive =>
    cases outcome.createExec with
    | some err => exact .inl ⟨.inr rfl, err, rfl⟩
    | none => exact .inr ⟨hlive, rfl⟩

variable {config : Config} {s : State} {c : ChannelHandler} {program : List String}
    {performed : Performed}

theorem ran_docker {outcome : Outcome .docker}
    (hrun : Docker.run config s.network s.removed s.next c program outcome =
      some performed) : Ran config s c program outcome performed := by
  rw [Docker.run] at hrun
  split at hrun
  next hexec =>
    cases hrun
    exact .running rfl hexec _
  split at hrun
  next hmode =>
    rw [Docker.handleExecModeConnection] at hrun
    split at hrun
    next => cases hrun
    next id hcontainer =>
      rcases createExec_cases s.removed id c program outcome with
        ⟨hfails, err, herr⟩ | ⟨hlive, hcreate⟩
      · rw [herr] at hrun
        cases hrun
        exact .noExec hmode (hfails.imp_left fun hremoved => ⟨id, hcontainer, hremoved⟩) err
      · cases hattach : outcome.attach with
        | some err =>
          simp only [createExec, hlive, hcreate, hattach] at hrun
          cases hrun
          exact .unattached rfl hmode id err
        | none =>
          simp only [createExec, hlive, hcreate, hattach] at hrun
          cases hrun
          exact .exec hmode id hcontainer hlive hcreate
  next hmode =>
    cases hrun
    rw [Docker.handleExecModeSession]
    cases hresult : (createContainer s.next outcome).result with
    | error err => exact .uncreated hmode c rfl err hresult
    | ok id =>
      simp only
      split
      next err hattach => exact .undone hmode _ id hresult [] (.inl rfl) err
      split
      next err hstart => exact .undone hmode _ id hresult [] (.inl rfl) err
      split
      next err hpty hresize => exact .undone hmode _ id hresult [.start id] (.inr ⟨rfl, rfl⟩) err
      next => exact .session hmode _ id hresult rfl
  next text hmode =>
    cases hrun
    exact .invalid text hmode _

theorem ran_kubernetes {outcome : Outcome .kubernetes}
    (hrun : Kubernetes.run config s.network s.removed s.next c program outcome =
      some performed) : Ran config s c program outcome performed := by
  rw [Kubernetes.run] at hrun
  split at hrun
  next hmode =>
    rw [Kubernetes.handleExecModeConnection] at hrun
    split at hrun
    next => cases hrun
    next id hcontainer =>
      rcases createExec_cases s.removed id c program outcome with
        ⟨hfails, err, herr⟩ | ⟨hlive, hcreate⟩
      · rw [herr] at hrun
        cases hrun
        exact .noExec hmode (hfails.imp_left fun hremoved => ⟨id, hcontainer, hremoved⟩) err
      · simp only [createExec, hlive, hcreate] at hrun
        cases hrun
        exact .exec hmode id hcontainer hlive hcreate
  next hmode =>
    cases hrun
    rw [Kubernetes.handleExecModeSession]
    cases hresult : (createContainer s.next outcome).result with
    | error err => exact .uncreated (c := c) hmode { c with pod := none } rfl err hresult
    | ok id =>
      simp only
      split
      next err hattach => exact .undone hmode _ id hresult [] (.inl rfl) err
      next => exact .session hmode _ id hresult rfl
  next text hmode =>
    cases hrun
    exact .invalid text hmode _

theorem ran_of_runProgram (hrun : s.runProgram config c program outcome = some performed) :
    Ran config s c program outcome performed := by
  cases platform with
  | docker => exact ran_docker hrun
  | kubernetes => exact ran_kubernetes hrun

inductive Does {platform : Platform} (config : Config) (s : State) :
    Action platform → State → Prop where
  | handshake (env : Env) (outcome : Outcome platform) : Does config s (.handshake env outcome)
        (s.onHandshakeSuccess config env outcome)
  | openSession (hconnected : s.connected = true) :
      Does config s .openSession { s with sessions := s.sessions ++ [{}] }
  | request (i : Nat) (request : Request) (outcome : Outcome platform)
      (handler : ChannelHandler) (history : List Answered)
      (hsession : s.sessions[i]? = some ⟨handler, history, false⟩) (performed : Performed)
      (hperform : s.perform config handler request outcome = some performed) :
      Does config s (.request i request outcome) ((s.record (some i) performed.events).setSession i
          ⟨performed.handler, history ++ [⟨request, performed.events, performed.answer⟩], false⟩)
  | close (i : Nat) (handler : ChannelHandler) (history : List Answered)
      (hsession : s.sessions[i]? = some ⟨handler, history, false⟩) : Does config s (.close i)
        ((s.onClose config i).setSession i ⟨handler, history, true⟩)
  | disconnect : Does config s .disconnect s.onDisconnect

theorem does_of_step {t : State} {action : Action platform}
    (hstep : s.step config action = some t) : Does config s action t := by
  cases action with
  | handshake env outcome =>
    cases hstep
    exact .handshake env outcome
  | openSession =>
    obtain ⟨hconnected, ⟨⟩⟩ := Option.ite_none_right_eq_some.mp hstep
    exact .openSession hconnected
  | request i request outcome =>
    rw [State.step] at hstep
    split at hstep
    next handler history hsession =>
      split at hstep <;> cases hstep
      next performed hperform =>
        exact .request i request outcome handler history hsession performed hperform
    next => cases hstep
  | close i =>
    rw [State.step] at hstep
    split at hstep <;> cases hstep
    next handler history hsession => exact .close i handler history hsession
  | disconnect =>
    cases hstep
    exact .disconnect

inductive Shook {platform : Platform} (config : Config) (s : State) (env : Env)
    (outcome : Outcome platform) : State → Prop where
  | unchanged (connected : Bool) : Shook config s env outcome { s with connected := connected }
  | uncreated (hmode : config.mode = .connection) : Shook config s env outcome (s.record none
          ((createContainer s.next outcome).events env none []))
  | created (hmode : config.mode = .connection) (id : Nat)
      (hresult : (createContainer s.next outcome).result = .ok id) (connected : Bool) :
      Shook config s env outcome
        { s.record none ((createContainer s.next outcome).events env none []) with
          network := { s.network with container := some id }
          connected := connected }

theorem shook_docker (config : Config) (s : State) (env : Env) (outcome : Outcome .docker) :
    Shook config s env outcome (s.dockerHandshake config env outcome) := by
  rw [State.dockerHandshake]
  split
  next => exact .unchanged s.connected
  split
  next hmode =>
    simp only
    split
    next => exact .uncreated hmode
    next id hresult =>
      split
      next => exact .created hmode id hresult s.connected
      next => exact .created hmode id hresult true
  next => exact .unchanged true

theorem shook_kubernetes (config : Config) (s : State) (env : Env) (outcome : Outcome .kubernetes) :
    Shook config s env outcome (s.kubernetesHandshake config env outcome) := by
  rw [State.kubernetesHandshake]
  split
  next => exact .unchanged s.connected
  split
  next hmode =>
    simp only
    split
    next => exact .uncreated hmode
    next id hresult => exact .created hmode id hresult true
  next => exact .unchanged true

theorem shook (config : Config) (s : State) (env : Env) (outcome : Outcome platform) :
    Shook config s env outcome (s.onHandshakeSuccess config env outcome) := by
  cases platform with
  | docker => exact shook_docker config s env outcome
  | kubernetes => exact shook_kubernetes config s env outcome

theorem Shook.sessions {t : State} {env : Env}
    (hshook : Shook config s env outcome t) : t.sessions = s.sessions := by
  cases hshook with
  | unchanged | uncreated | created => rfl

@[simp]
theorem onClose_sessions (config : Config) (s : State) (i : Nat) :
    (s.onClose config i).sessions = s.sessions := by
  rw [State.onClose]
  split <;> rfl

@[simp]
theorem onDisconnect_sessions (s : State) : s.onDisconnect.sessions = s.sessions := by
  rw [State.onDisconnect]
  split
  next => rfl
  next =>
    simp only
    split <;> rfl

def system (platform : Platform) (config : Config) : TransitionSystem State (Action platform) :=
  ⟨{}, fun s action => s.step config action⟩

end ContainerSSH.ContainerBackend
