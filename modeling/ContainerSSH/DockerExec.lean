/-
A program in a Docker container, from `run` to the call of `onExit`.
-/
import ContainerSSH.Cbor
import ContainerSSH.StreamCopy
import ContainerSSH.TransitionSystem
import Mathlib.Logic.Function.Basic

namespace ContainerSSH.DockerExec

inductive Kind where
  | exec
  | attached
deriving DecidableEq

inductive Caller where
  | session
  | writeFile
  | signal
deriving DecidableEq

structure Config where
  kind : Kind
  caller : Caller
  /-- `Execution.Mode` is `connection`. -/
  connectionMode : Bool
  disableAgent : Bool
  tty : Bool

structure Read where
  data : List UInt8
  failed : Bool := false
deriving DecidableEq

inductive ReadOutcome (α : Type) where
  | ok (value : α) (rest : List Read)
  | fails
  | panics
  | blocks
deriving DecidableEq

def ReadOutcome.bind {α β : Type} (outcome : ReadOutcome α)
    (next : α → List Read → ReadOutcome β) : ReadOutcome β :=
  match outcome with
  | .ok value rest => next value rest
  | .fails => .fails
  | .panics => .panics
  | .blocks => .blocks

/-- The loop of `readBytesFromReader`, which returns what it has read with the error. -/
def readLoop (bytes : Nat) (finalBuffer : List UInt8) (readIndex : Nat) :
    List Read → ReadOutcome (List UInt8 × Bool)
  | [] => .blocks
  | read :: rest =>
    let buf := read.data.take (bytes - readIndex)
    if buf.length < readIndex then .panics
    else
      let copied := finalBuffer.take readIndex ++
        buf.take (buf.length - readIndex) ++ finalBuffer.drop buf.length
      if read.failed then .ok (copied.take (readIndex + buf.length), true) rest
      else if readIndex + buf.length = bytes then .ok (copied, false) rest
      else readLoop bytes copied (readIndex + buf.length) rest

def readBytesFromReader (bytes : Nat) (reads : List Read) : ReadOutcome (List UInt8 × Bool) :=
  -- reading into an empty buffer does not wait for data
  if bytes = 0 then .ok ([], false) reads else readLoop bytes (List.replicate bytes 0) 0 reads

def readBytes (bytes : Nat) (reads : List Read) : ReadOutcome (List UInt8) :=
  (readBytesFromReader bytes reads).bind fun value rest =>
    if value.2 then .fails else .ok value.1 rest

def readPIDFromStdout (tty accepts : Bool) (reads : List Read) : ReadOutcome (Nat × List UInt8) :=
  if tty then
    (readBytes 4 reads).bind fun pidBytes rest => .ok (Cbor.ofBigEndian pidBytes.reverse, []) rest
  else
    (readBytes 8 reads).bind fun headerBuffer rest =>
      let stream := headerBuffer.headD 0
      let frameLength := Cbor.ofBigEndian (headerBuffer.drop 4)
      if 2 < stream then .fails
      else
        (readBytes frameLength rest).bind fun frameData rest =>
          if frameLength < 4 then .fails
          else if stream = 2 then .fails
          else if 4 < frameLength ∧ accepts = false then .fails
          else .ok (Cbor.ofBigEndian (frameData.take 4).reverse, frameData.drop 4) rest

structure Inspected where
  running : Bool
  restarting : Bool := false
  exitCode : Int

inductive InspectResult where
  | fails (permanent : Bool)
  | inspected (state : Inspected)

inductive LastError where
  | permanent
  | temporary
deriving DecidableEq

def LastError.ofPermanent (permanent : Bool) : LastError :=
  if permanent then .permanent else .temporary

def execInspect : InspectResult → Except LastError Int
  | .fails permanent => .error (.ofPermanent permanent)
  | .inspected state =>
    if state.running then .error .temporary
    else if state.exitCode < 0 then .error .temporary
    else .ok state.exitCode

def containerInspect : InspectResult → Except LastError Int
  | .fails permanent => .error (.ofPermanent permanent)
  | .inspected state =>
    if state.running then .error .temporary
    else if state.restarting then .error .temporary
    else if state.exitCode < 0 then .error .temporary
    else .ok state.exitCode

def Kind.inspect : Kind → InspectResult → Except LastError Int
  | .exec => execInspect
  | .attached => containerInspect

inductive StopResult where
  | stopped
  | inspectFails
  | stops
  | stopFails
deriving DecidableEq

inductive Stream where
  | stdout
  | stderr
deriving DecidableEq

inductive Goroutine where
  | input
  | output
deriving DecidableEq

instance decidableForallGoroutine (p : Goroutine → Prop) [DecidablePred p] : Decidable (∀ g, p g) :=
  decidable_of_iff (p .input ∧ p .output)
    ⟨fun h g => by cases g; exacts [h.1, h.2], fun h => ⟨h _, h _⟩⟩

inductive Stage where
  | starting
  | running
  | failed
  | stuck
  | panicked
deriving DecidableEq

inductive Point where
  | copying
  | exiting
  | ended
deriving DecidableEq

inductive FinishPoint where
  | idle
  | entered
  | stopping
  | stopWaiting
  | inspecting
  | waiting
  | returned
deriving DecidableEq

def FinishPoint.marked : FinishPoint → Bool
  | .idle => false
  | .entered => false
  | _ => true

structure ExitCall where
  code : Int
  inspected : Bool

structure State where
  stage : Stage := .starting
  pid : Int
  doneChan : Nat := 0
  exits : List ExitCall := []
  released : Bool := false
  wgDone : Nat := 0
  sessionClosed : Bool := false
  programRunning : Bool := true
  input : StreamCopy UInt8 := {}
  inputEOF : Bool := false
  output : StreamCopy (Stream × UInt8) := {}
  point : Goroutine → Point := fun _ => .copying
  runner : Option Goroutine := none
  finish : FinishPoint := .idle
  remaining : Nat := 0

inductive Action where
  | start
  | readPID (reads : List Read) (accepts : Bool)
  | programWrites (stream : Stream) (data : List UInt8)
  | programExits
  | clientSends (data : List UInt8)
  | clientEOF
  | clientClose
  | readInput (size : Nat)
  | writeInput (size : Nat) (accepts : Bool)
  | readOutput (size : Nat)
  | writeOutput (size : Nat)
  | breakOff (g : Goroutine)
  | copied (g : Goroutine)
  | once (g : Goroutine)
  | mark
  | stop (elapsed : Nat) (result : StopResult)
  | retryStop
  | giveUpStop
  | inspect (elapsed : Nat) (result : InspectResult)
  | retry
  | giveUp

def timeout : Nat := 60

def Config.readsPID (config : Config) : Bool := config.connectionMode && !config.disableAgent

def Config.tag (config : Config) (stream : Stream) (data : List UInt8) : List (Stream × UInt8) :=
  data.map fun b => (if config.tty then .stdout else stream, b)

def Config.pid (config : Config) : Int :=
  match config.kind with
  | .exec => 0
  | .attached => 1

namespace State

variable (config : Config) (s : State)

def onExit (call : ExitCall) : State :=
  { s with
    exits := s.exits ++ [call]
    released := true
    sessionClosed := s.sessionClosed || decide (config.caller = .session) }

def failed : State :=
  match config.caller with
  | .signal => { s with exits := s.exits ++ [⟨137, false⟩], stage := .stuck }
  | _ => { s.onExit config ⟨137, false⟩ with wgDone := s.wgDone + 1, stage := .failed }

def readPID (reads : List Read) (accepts : Bool) : Option State :=
  match readPIDFromStdout config.tty accepts reads with
  | .ok (pid, data) _ =>
    some { s with
      pid := pid
      output.written := s.output.written ++ config.tag .stdout data
      stage := .running }
  | .fails => some (s.failed config)
  | .panics => some { s with stage := .panicked }
  | .blocks => none

def accepts : Bool := decide (config.caller ≠ .session) || !s.sessionClosed

def setPoint (g : Goroutine) (point : Point) : State :=
  { s with point := Function.update s.point g point }

def ended : Goroutine → Bool
  | .input => s.input.ended
  | .output => s.output.ended

def returns : State :=
  { s with finish := .returned, wgDone := s.wgDone + if config.kind = .exec then 1 else 0 }

def enterLoop : State := { s with finish := if config.kind = .exec then .inspecting else .stopping }

def mark : State :=
  if s.pid = -1 then { s with finish := .returned }
  else
    { s with pid := -1, doneChan := s.doneChan + 1, remaining := timeout }
      |>.enterLoop config

def elapse (seconds : Nat) : State := { s with remaining := s.remaining - seconds }

def inspect (result : InspectResult) : Option State :=
  match config.kind.inspect result with
  | .ok code =>
    if s.programRunning then none
    else some ((s.onExit config ⟨code, true⟩).returns config)
  | .error .permanent => some (s.returns config)
  | .error .temporary => some { s with finish := .waiting }

def stop (result : StopResult) : Option State :=
  match result with
  | .stopped => if s.programRunning then none else some { s with finish := .inspecting }
  | .stops => some { s with programRunning := false, finish := .inspecting }
  | _ => some { s with finish := .stopWaiting }

def once (g : Goroutine) : Option State :=
  match s.finish with
  | .idle => some { s with finish := .entered, runner := some g }
  | .returned => some (s.setPoint g .ended)
  | _ => none

def step : Action → Option State
  | .start =>
    if s.stage = .starting ∧ config.readsPID = false then some { s with stage := .running }
    else none
  | .readPID reads accepts =>
    if s.stage = .starting ∧ config.readsPID = true then s.readPID config reads accepts
    else none
  -- What follows the frame with the process ID is read later, whenever it was
  -- written.
  | .programWrites stream data =>
    if s.stage ≠ .starting ∧ s.programRunning = true then
      some { s with output := s.output.feed (config.tag stream data) }
    else none
  | .programExits => if s.programRunning then some { s with programRunning := false } else none
  | .clientSends data => if s.inputEOF then none else some { s with input := s.input.feed data }
  | .clientEOF => if s.inputEOF then none else some { s with inputEOF := true }
  | .clientClose => some { s with inputEOF := true, sessionClosed := true }
  | .readInput size =>
    if s.stage = .running ∧ s.point .input = .copying then
      (s.input.read size s.inputEOF).map fun input => { s with input }
    else none
  | .writeInput size accepts =>
    if s.stage = .running ∧ s.point .input = .copying then
      (s.input.write size accepts).map fun input => { s with input }
    else none
  | .readOutput size =>
    if s.stage = .running ∧ s.point .output = .copying then
      (s.output.read size !s.programRunning).map fun output => { s with output }
    else none
  | .writeOutput size =>
    if s.stage = .running ∧ s.point .output = .copying then
      (s.output.write size (s.accepts config)).map fun output => { s with output }
    else none
  -- A copy also ends when its source fails.
  | .breakOff g =>
    if s.stage = .running ∧ s.point g = .copying then some (s.setPoint g .exiting)
    else none
  | .copied g =>
    if s.stage = .running ∧ s.point g = .copying ∧ s.ended g then some (s.setPoint g .exiting)
    else none
  | .once g => if s.point g = .exiting then s.once g else none
  | .mark => if s.finish = .entered then some (s.mark config) else none
  | .stop elapsed result => if s.finish = .stopping then (s.elapse elapsed).stop result else none
  | .retryStop =>
    if s.finish = .stopWaiting ∧ 10 ≤ s.remaining then some { s.elapse 10 with finish := .stopping }
    else none
  | .giveUpStop =>
    if s.finish = .stopWaiting ∧ s.remaining ≤ 10 then
      some ((s.onExit config ⟨137, false⟩).returns config)
    else none
  | .inspect elapsed result =>
    if s.finish = .inspecting then (s.elapse elapsed).inspect config result
    else none
  | .retry =>
    if s.finish = .waiting ∧ 1 ≤ s.remaining then some ((s.elapse 1).enterLoop config)
    else none
  | .giveUp =>
    if s.finish = .waiting ∧ s.remaining ≤ 1 then some (s.returns config)
    else none

end State

def system (config : Config) : TransitionSystem State Action :=
  ⟨{ pid := config.pid }, State.step config⟩

inductive Does (config : Config) (s : State) : Action → State → Prop where
  | started (hstage : s.stage = .starting) : Does config s .start { s with stage := .running }
  | pidRead {reads rest : List Read} {accepts : Bool} {pid : Nat}
      {data : List UInt8} (hstage : s.stage = .starting)
      (hread : readPIDFromStdout config.tty accepts reads = .ok (pid, data) rest) :
      Does config s (.readPID reads accepts) { s with
          pid := pid
          output.written := s.output.written ++ config.tag .stdout data
          stage := .running }
  | pidFails {reads : List Read} {accepts : Bool} (hstage : s.stage = .starting)
      (hread : readPIDFromStdout config.tty accepts reads = .fails) :
      Does config s (.readPID reads accepts) (s.failed config)
  | pidPanics {reads : List Read} {accepts : Bool} (hstage : s.stage = .starting)
      (hread : readPIDFromStdout config.tty accepts reads = .panics) :
      Does config s (.readPID reads accepts) { s with stage := .panicked }
  | programWrites (stream : Stream) (data : List UInt8)
      (hstage : s.stage ≠ .starting) (hrunning : s.programRunning = true) :
      Does config s (.programWrites stream data)
        { s with output := s.output.feed (config.tag stream data) }
  | programExits : Does config s .programExits { s with programRunning := false }
  | clientSends (data : List UInt8) :
      Does config s (.clientSends data) { s with input := s.input.feed data }
  | clientEOF : Does config s .clientEOF { s with inputEOF := true }
  | clientClose : Does config s .clientClose { s with inputEOF := true, sessionClosed := true }
  | readInput {size : Nat} {input : StreamCopy UInt8} :
      Does config s (.readInput size) { s with input }
  | writeInput {size : Nat} {accepts : Bool} {input : StreamCopy UInt8} :
      Does config s (.writeInput size accepts) { s with input }
  | readOutput {size : Nat} {output : StreamCopy (Stream × UInt8)} (hstage : s.stage = .running)
      (hread : s.output.read size (!s.programRunning) = some output) :
      Does config s (.readOutput size) { s with output }
  | writeOutput {size : Nat} {output : StreamCopy (Stream × UInt8)} (hstage : s.stage = .running)
      (hwrite : s.output.write size (s.accepts config) = some output) :
      Does config s (.writeOutput size) { s with output }
  | breaksOff {g : Goroutine} (hstage : s.stage = .running) (hpoint : s.point g = .copying) :
      Does config s (.breakOff g) (s.setPoint g .exiting)
  | copied {g : Goroutine} (hstage : s.stage = .running)
      (hpoint : s.point g = .copying) (hended : s.ended g = true) :
      Does config s (.copied g) (s.setPoint g .exiting)
  | enters {g : Goroutine} (hpoint : s.point g = .exiting) (hidle : s.finish = .idle) :
      Does config s (.once g) { s with finish := .entered, runner := some g }
  | leaves {g : Goroutine} (hpoint : s.point g = .exiting) (hreturned : s.finish = .returned) :
      Does config s (.once g) (s.setPoint g .ended)
  | marks (hentered : s.finish = .entered) : Does config s .mark (s.mark config)
  | stops {elapsed : Nat} {result : StopResult} (hstopping : s.finish = .stopping) :
      Does config s (.stop elapsed result)
        { s.elapse elapsed with programRunning := false, finish := .inspecting }
  | stopFails {elapsed : Nat} {result : StopResult} (hstopping : s.finish = .stopping) :
      Does config s (.stop elapsed result) { s.elapse elapsed with finish := .stopWaiting }
  | retriesStop (hwaiting : s.finish = .stopWaiting) (htime : 10 ≤ s.remaining) :
      Does config s .retryStop { s.elapse 10 with finish := .stopping }
  | givesUpStop (hwaiting : s.finish = .stopWaiting) : Does config s .giveUpStop
        ((s.onExit config ⟨137, false⟩).returns config)
  | reports {elapsed : Nat} {result : InspectResult} {code : Int}
      (hinspecting : s.finish = .inspecting) (hcode : config.kind.inspect result = .ok code)
      (hprogram : s.programRunning = false) : Does config s (.inspect elapsed result)
        (((s.elapse elapsed).onExit config ⟨code, true⟩).returns config)
  | abandons {elapsed : Nat} {result : InspectResult} (hinspecting : s.finish = .inspecting)
      (herror : config.kind.inspect result = .error .permanent) :
      Does config s (.inspect elapsed result) ((s.elapse elapsed).returns config)
  | waits {elapsed : Nat} {result : InspectResult} (hinspecting : s.finish = .inspecting)
      (herror : config.kind.inspect result = .error .temporary) :
      Does config s (.inspect elapsed result) { s.elapse elapsed with finish := .waiting }
  | retries (hwaiting : s.finish = .waiting) (htime : 1 ≤ s.remaining) :
      Does config s .retry ((s.elapse 1).enterLoop config)
  | givesUp (hwaiting : s.finish = .waiting) : Does config s .giveUp (s.returns config)

section Inversion

variable {config : Config} {s t : State}

theorem State.enterLoop_finish (s : State) : (s.enterLoop config).finish.marked = true ∧
      (s.enterLoop config).finish ≠ .returned := by
  unfold State.enterLoop
  split <;> simp [FinishPoint.marked]

theorem does_of_readPID {reads : List Read} {accepts : Bool} (hstage : s.stage = .starting)
    (hstep : s.readPID config reads accepts = some t) :
    Does config s (.readPID reads accepts) t := by
  unfold State.readPID at hstep
  split at hstep <;> cases hstep
  next hread => exact .pidRead hstage hread
  next hread => exact .pidFails hstage hread
  next hread => exact .pidPanics hstage hread

theorem does_of_once {g : Goroutine} (hpoint : s.point g = .exiting)
    (hstep : s.once g = some t) : Does config s (.once g) t := by
  unfold State.once at hstep
  split at hstep <;> cases hstep
  next hidle => exact .enters hpoint hidle
  next hreturned => exact .leaves hpoint hreturned

theorem does_of_stop {elapsed : Nat} {result : StopResult} (hstopping : s.finish = .stopping)
    (hstep : (s.elapse elapsed).stop result = some t) : Does config s (.stop elapsed result) t := by
  unfold State.stop at hstep
  split at hstep
  next =>
    obtain ⟨hprogram, ⟨⟩⟩ := Option.ite_none_left_eq_some.mp hstep
    have hstops : Does config s (.stop elapsed .stopped)
        { s.elapse elapsed with programRunning := false, finish := .inspecting } :=
      .stops hstopping
    rwa [← Bool.eq_false_iff.mpr hprogram] at hstops
  next =>
    cases hstep
    exact .stops hstopping
  next =>
    cases hstep
    exact .stopFails hstopping

theorem does_of_inspect {elapsed : Nat} {result : InspectResult}
    (hinspecting : s.finish = .inspecting)
    (hstep : (s.elapse elapsed).inspect config result = some t) :
    Does config s (.inspect elapsed result) t := by
  unfold State.inspect at hstep
  split at hstep
  next hcode =>
    obtain ⟨hprogram, ⟨⟩⟩ := Option.ite_none_left_eq_some.mp hstep
    exact .reports hinspecting hcode (Bool.eq_false_iff.mpr hprogram)
  next herror =>
    cases hstep
    exact .abandons hinspecting herror
  next herror =>
    cases hstep
    exact .waits hinspecting herror

theorem does_of_step {action : Action} (hstep : s.step config action = some t) :
    Does config s action t := by
  cases action <;>
    simp only [State.step, Option.ite_none_right_eq_some, Option.ite_none_left_eq_some,
      Option.map_eq_some_iff, Option.some.injEq] at hstep
  case start =>
    obtain ⟨⟨hstage, -⟩, rfl⟩ := hstep
    exact .started hstage
  case readPID => exact does_of_readPID hstep.1.1 hstep.2
  case programWrites stream data =>
    obtain ⟨⟨hstage, hrunning⟩, rfl⟩ := hstep
    exact .programWrites stream data hstage hrunning
  case programExits =>
    cases hstep.2
    exact .programExits
  case clientSends data =>
    cases hstep.2
    exact .clientSends data
  case clientEOF =>
    cases hstep.2
    exact .clientEOF
  case clientClose =>
    cases hstep
    exact .clientClose
  case readInput =>
    obtain ⟨-, input, -, rfl⟩ := hstep
    exact .readInput
  case writeInput =>
    obtain ⟨-, input, -, rfl⟩ := hstep
    exact .writeInput
  case readOutput =>
    obtain ⟨⟨hstage, -⟩, output, hread, rfl⟩ := hstep
    exact .readOutput hstage hread
  case writeOutput =>
    obtain ⟨⟨hstage, -⟩, output, hwrite, rfl⟩ := hstep
    exact .writeOutput hstage hwrite
  case breakOff =>
    obtain ⟨⟨hstage, hpoint⟩, rfl⟩ := hstep
    exact .breaksOff hstage hpoint
  case copied =>
    obtain ⟨⟨hstage, hpoint, hended⟩, rfl⟩ := hstep
    exact .copied hstage hpoint hended
  case once => exact does_of_once hstep.1 hstep.2
  case mark =>
    obtain ⟨hentered, rfl⟩ := hstep
    exact .marks hentered
  case stop => exact does_of_stop hstep.1 hstep.2
  case retryStop =>
    obtain ⟨⟨hwaiting, htime⟩, rfl⟩ := hstep
    exact .retriesStop hwaiting htime
  case giveUpStop =>
    obtain ⟨⟨hwaiting, -⟩, rfl⟩ := hstep
    exact .givesUpStop hwaiting
  case inspect => exact does_of_inspect hstep.1 hstep.2
  case retry =>
    obtain ⟨⟨hwaiting, htime⟩, rfl⟩ := hstep
    exact .retries hwaiting htime
  case giveUp =>
    obtain ⟨⟨hwaiting, -⟩, rfl⟩ := hstep
    exact .givesUp hwaiting

end Inversion

end ContainerSSH.DockerExec
