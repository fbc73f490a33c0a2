/-
Window changes of a Kubernetes session.
-/
import ContainerSSH.Message
import ContainerSSH.TransitionSystem

namespace ContainerSSH.KubernetesResize

structure TerminalSize where
  width : UInt16
  height : UInt16

inductive Point where
  | locking
  | pushing (expired : Bool)
  | blocked
  | returned (err : Option GoError)
deriving DecidableEq

structure Call where
  size : TerminalSize
  point : Point

inductive StreamPoint where
  | idle
  | streaming
  | ended
  | stopped
  | exited
deriving DecidableEq

/-- `exec` tells whether the handler has a program, which it keeps to the end.
`mutex` is the call that holds the mutex of the connection, `nexts` are the calls of
`Next` that wait and `closes` counts the times the channel was closed. -/
structure State where
  exec : Bool := false
  mutex : Option Nat := none
  calls : List Call := []
  nexts : Nat := 0
  received : List TerminalSize := []
  stream : StreamPoint := .idle
  closes : Nat := 0
  panicked : Bool := false

inductive Action where
  | run (pty : Option (UInt32 × UInt32))
  | onWindow (columns rows : UInt32)
  | lock (i : Nat)
  | expire (i : Nat)
  | select (i : Nat) (done : Bool)
  | next
  | streamEnds
  | stop
  | onExit

def resize (height width : UInt32) : TerminalSize := ⟨width.toUInt16, height.toUInt16⟩

def programNotRunning : GoError :=
  userMessage "KUBERNETES_PROGRAM_NOT_RUNNING" "Cannot resize window, program is not running."
    "Cannot resize window, program is not running."

def deadlineExceeded : GoError := .plain "context deadline exceeded"

namespace State

variable (s : State)

def setCall (i : Nat) (call : Call) (point : Point) : State :=
  { s with calls := s.calls.set i { call with point } }

def finish (i : Nat) (call : Call) (err : Option GoError) : State :=
  { s.setCall i call (.returned err) with mutex := none }

def lock (i : Nat) (call : Call) : State :=
  if s.exec then { s.setCall i call (.pushing false) with mutex := some i }
  else s.finish i call (some programNotRunning)

/-- `Push` at its `select`.  A case that is ready is taken, and to send on a closed
channel is a panic. -/
def push (i : Nat) (call : Call) (expired done : Bool) : Option State :=
  if done then
    if expired then some (s.finish i call (some deadlineExceeded)) else none
  else if 0 < s.closes then some { s with panicked := true }
  else if 0 < s.nexts then
    some { s.finish i call none with
      nexts := s.nexts - 1, received := s.received ++ [call.size] }
  else if expired then none
  else some (s.setCall i call .blocked)

def next : State :=
  if 0 < s.closes then s
  else
    match s.calls.findIdx? (fun call => call.point = .blocked) with
    | none => { s with nexts := s.nexts + 1 }
    | some i =>
      match s.calls[i]? with
      | none => s
      | some call => { s.finish i call none with received := s.received ++ [call.size] }

/-- `Stop` closes the channel: a call that waits to send on it panics, as does a
second `close`. -/
def stop : State :=
  { s with
    stream := .stopped
    closes := s.closes + 1
    nexts := 0
    panicked := s.panicked || 0 < s.closes || s.calls.any fun call => call.point = .blocked }

def take : Action → Option State
  | .run pty =>
    if s.stream ≠ .idle ∨ s.mutex ≠ none then none
    else
      let s := { s with exec := true, stream := .streaming }
      match pty with
      | none => some s
      | some (columns, rows) =>
        some { s with
          mutex := some s.calls.length
          calls := s.calls ++ [⟨resize rows columns, .pushing false⟩] }
  | .onWindow columns rows =>
    some { s with calls := s.calls ++ [⟨resize rows columns, .locking⟩] }
  | .lock i =>
    match s.calls[i]? with
    | some ⟨size, .locking⟩ => if s.mutex = none then some (s.lock i ⟨size, .locking⟩) else none
    | _ => none
  | .expire i =>
    match s.calls[i]? with
    | some ⟨size, .pushing false⟩ => some (s.setCall i ⟨size, .pushing false⟩ (.pushing true))
    | some ⟨size, .blocked⟩ => some (s.finish i ⟨size, .blocked⟩ (some deadlineExceeded))
    | _ => none
  | .select i done =>
    match s.calls[i]? with
    | some ⟨size, .pushing expired⟩ => s.push i ⟨size, .pushing expired⟩ expired done
    | _ => none
  | .next => if s.stream = .idle then none else some s.next
  | .streamEnds => if s.stream = .streaming then some { s with stream := .ended } else none
  | .stop => if s.stream = .ended then some s.stop else none
  | .onExit => if s.stream = .stopped then some { s with stream := .exited } else none

def step (action : Action) : Option State := if s.panicked then none else s.take action

end State

def windows : TransitionSystem State Action := ⟨{}, State.step⟩

def StreamPoint.closed : StreamPoint → Bool
  | .stopped => true
  | .exited => true
  | _ => false

/-- No window change is pending when `Stop` closes the channel, and one that arrives later leaves
its `select` for a context that has expired. -/
def Safe (s : State) : Action → Prop
  | .stop => s.calls.any (fun call => call.point = .blocked) = false
  | .select _ done => 0 < s.closes → done = true
  | _ => True

instance decidableSafe (s : State) (action : Action) : Decidable (Safe s action) := by
  cases action <;> unfold Safe <;> infer_instance

section Steps

variable {s t : State} {action : Action}

structure Leaves (s : State) (action : Action) (t : State) : Prop where
  closes : t.closes = s.closes
  stream : t.stream.closed = s.stream.closed
  panicked : t.panicked = false ↔ Safe s action

theorem leaves_push {i : Nat} {call : Call} {expired done : Bool} (hopen : s.panicked = false)
    (hpush : s.push i call expired done = some t) : Leaves s (.select i done) t := by
  unfold State.push at hpush
  split_ifs at hpush with hdone hexpired hclosed <;> cases hpush
  · exact ⟨rfl, rfl, iff_of_true hopen fun _ => hdone⟩
  · exact ⟨rfl, rfl, iff_of_false (by simp) fun hsafe => hdone (hsafe hclosed)⟩
  · exact ⟨rfl, rfl, iff_of_true hopen fun h => absurd h hclosed⟩
  · exact ⟨rfl, rfl, iff_of_true hopen fun h => absurd h hclosed⟩

theorem leaves_next (hopen : s.panicked = false) : Leaves s .next s.next := by
  unfold State.next
  split_ifs
  · exact ⟨rfl, rfl, iff_of_true hopen trivial⟩
  · split
    · exact ⟨rfl, rfl, iff_of_true hopen trivial⟩
    · split <;> exact ⟨rfl, rfl, iff_of_true hopen trivial⟩

theorem cases_of_step (hstep : s.step action = some t) :
    (action = .stop ∧ s.stream = .ended ∧ t = s.stop) ∨ Leaves s action t := by
  obtain ⟨hopen, htake⟩ := Option.ite_none_left_eq_some.mp hstep
  rw [Bool.not_eq_true] at hopen
  cases action with
  | run pty =>
    obtain ⟨hidle, htake⟩ := Option.ite_none_left_eq_some.mp htake
    rw [not_or, not_not] at hidle
    cases pty <;> cases htake <;>
      exact .inr ⟨rfl, by simp [hidle.1, StreamPoint.closed], iff_of_true hopen trivial⟩
  | onWindow =>
    cases htake
    exact .inr ⟨rfl, rfl, iff_of_true hopen trivial⟩
  | lock i =>
    simp only [State.take] at htake
    split at htake
    · obtain ⟨-, htake⟩ := Option.ite_none_right_eq_some.mp htake
      cases htake
      unfold State.lock
      split <;> exact .inr ⟨rfl, rfl, iff_of_true hopen trivial⟩
    · cases htake
  | expire i =>
    simp only [State.take] at htake
    split at htake <;> cases htake <;> exact .inr ⟨rfl, rfl, iff_of_true hopen trivial⟩
  | select i done =>
    simp only [State.take] at htake
    split at htake
    · exact .inr (leaves_push hopen htake)
    · cases htake
  | next =>
    obtain ⟨-, htake⟩ := Option.ite_none_left_eq_some.mp htake
    cases htake
    exact .inr (leaves_next hopen)
  | streamEnds | onExit =>
    obtain ⟨hstream, htake⟩ := Option.ite_none_right_eq_some.mp htake
    cases htake
    exact .inr ⟨rfl, by rw [hstream]; rfl, iff_of_true hopen trivial⟩
  | stop =>
    obtain ⟨hstream, htake⟩ := Option.ite_none_right_eq_some.mp htake
    cases htake
    exact .inl ⟨rfl, hstream, rfl⟩

def State.ClosedOnce (s : State) : Prop := s.closes = if s.stream.closed then 1 else 0

theorem closedOnce_step (hs : s.ClosedOnce) (hstep : s.step action = some t) : t.ClosedOnce := by
  rcases cases_of_step hstep with ⟨-, hended, rfl⟩ | hleaves
  · rw [State.ClosedOnce, hended] at hs
    rw [State.stop, hs]
    rfl
  · rwa [State.ClosedOnce, hleaves.closes, hleaves.stream]

theorem panicked_step_iff (hs : s.ClosedOnce) (hstep : s.step action = some t) :
    t.panicked = false ↔ s.panicked = false ∧ Safe s action := by
  have hopen : s.panicked = false := by
    simpa using (Option.ite_none_left_eq_some.mp hstep).1
  rw [and_iff_right hopen]
  rcases cases_of_step hstep with ⟨rfl, hended, rfl⟩ | hleaves
  · rw [State.ClosedOnce, hended] at hs
    simp only [State.stop, Safe, hopen, hs, StreamPoint.closed]
    simp
  · exact hleaves.panicked

end Steps

/-- `Stop` closes the channel once, and nothing panics exactly in the runs in which no window
change is pending then and none is sent later. -/
theorem window_changes_safe_iff {actions : List Action} {s : State}
    (hrun : windows.run actions = some s) : s.ClosedOnce ∧
      (s.panicked = false ↔ windows.Meets Safe {} actions) := by
  have hinit : State.ClosedOnce {} := rfl
  refine ⟨windows.runFrom_invariant (fun _ _ _ => closedOnce_step) hinit hrun, ?_⟩
  rw [windows.runFrom_iff_meets (fun _ _ _ => closedOnce_step) (fun _ _ _ => panicked_step_iff)
    hinit hrun]
  exact and_iff_right rfl

def lateChange : List Action :=
  [.run (some (80, 24)), .next, .select 0 false, .onWindow 100 30, .lock 1, .select 1 false, .next,
    .streamEnds, .stop, .onWindow 80 24, .lock 2, .expire 2, .select 2 true]

theorem window_changes_safe_late : ∃ s, windows.run lateChange = some s ∧
    s.received = [⟨80, 24⟩, ⟨100, 30⟩] ∧ s.closes = 1 ∧ s.panicked = false := by
  refine TransitionSystem.exists_run _ rfl fun s hrun => ?_
  have hsafe := window_changes_safe_iff hrun
  refine ⟨?_, ?_, hsafe.2.mpr (by decide)⟩
  · rw [← Option.some.inj hrun]
    rfl
  · rw [hsafe.1, ← Option.some.inj hrun]
    rfl

/-- A window change after the program has ended, before its exit status is sent and
the session is closed, ends the process. -/
theorem window_change_panics : ∃ s, windows.run
      [.run none, .streamEnds, .stop, .onWindow 80 24, .lock 0, .select 0 false] = some s ∧
    s.stream = .stopped ∧ s.panicked = true :=
  ⟨_, rfl, rfl, rfl⟩

end ContainerSSH.KubernetesResize
