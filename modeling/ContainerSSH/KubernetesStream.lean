/-
The process id in front of the output of a Kubernetes exec.
-/
import ContainerSSH.Cbor
import ContainerSSH.Message
import ContainerSSH.TransitionSystem

namespace ContainerSSH.KubernetesStream

structure StdoutProxyWriter where
  tty : Bool
  pidRead : Bool := false
  buf : List UInt8 := []
  pids : List Nat := []
  written : List UInt8 := []

def needed (tty : Bool) : Nat := if tty then 6 else 4

def pidOf (bytes : List UInt8) : Nat := Cbor.ofBigEndian (bytes.take 4).reverse

variable (backend : List UInt8 → Nat × Option GoError)

def StdoutProxyWriter.write (s : StdoutProxyWriter) (p : List UInt8) :
    StdoutProxyWriter × Nat × Option GoError :=
  if s.pidRead then ({ s with written := s.written ++ p }, backend p)
  else
    let buf := s.buf ++ p
    if needed s.tty ≤ buf.length then
      let remainingBytes := buf.drop 4
      ({ s with
          pidRead := true
          buf := []
          pids := s.pids ++ [pidOf buf]
          written := s.written ++ remainingBytes },
        p.length, if 0 < remainingBytes.length then (backend remainingBytes).2 else none)
    else ({ s with buf }, p.length, none)

def writeAll (s : StdoutProxyWriter) : List (List UInt8) →
    StdoutProxyWriter × List (Nat × Option GoError)
  | [] => (s, [])
  | p :: rest =>
    let (next, result) := s.write backend p
    let (last, results) := writeAll next rest
    (last, result :: results)

def after (tty : Bool) (bytes : List UInt8) : StdoutProxyWriter :=
  if needed tty ≤ bytes.length then
    { tty, pidRead := true, pids := [pidOf bytes], written := bytes.drop 4 }
  else { tty, buf := bytes }

variable {backend}

theorem four_le_needed (tty : Bool) : 4 ≤ needed tty := by
  cases tty <;> decide

theorem after_pidRead (tty : Bool) (bytes : List UInt8) :
    (after tty bytes).pidRead = true ↔ needed tty ≤ bytes.length := by
  unfold after
  split <;> simp [*]

theorem write_after (tty : Bool) (bytes p : List UInt8) :
    ((after tty bytes).write backend p).1 = after tty (bytes ++ p) := by
  have hfour := four_le_needed tty
  by_cases henough : needed tty ≤ bytes.length
  · have hmore : needed tty ≤ (bytes ++ p).length := by
      rw [List.length_append]
      omega
    have hpid : pidOf (bytes ++ p) = pidOf bytes := by
      rw [pidOf, List.take_append_of_le_length (by omega), pidOf]
    rw [after, if_pos henough, after, if_pos hmore, hpid, List.drop_append_of_le_length (by omega)]
    rfl
  · rw [after, if_neg henough, after]
    simp only [StdoutProxyWriter.write, Bool.false_eq_true, if_false]
    split <;> rfl

theorem write_result (haccepts : ∀ p, backend p = (p.length, none)) (s : StdoutProxyWriter)
    (p : List UInt8) : (s.write backend p).2 = (p.length, none) := by
  simp only [StdoutProxyWriter.write, haccepts]
  split_ifs <;> rfl

theorem writeAll_after (haccepts : ∀ p, backend p = (p.length, none)) (tty : Bool)
    (bytes : List UInt8) (writes : List (List UInt8)) : writeAll backend (after tty bytes) writes =
      (after tty (bytes ++ writes.flatten), writes.map fun p => (p.length, none)) := by
  induction writes generalizing bytes with
  | nil => simp [writeAll]
  | cons p rest ih =>
    have hresult := write_result haccepts (after tty bytes) p
    simp only [writeAll, write_after, hresult, ih, List.flatten_cons, List.append_assoc,
      List.map_cons]

/-- However the output is cut into writes, one process id is sent, the backend
gets the rest, and every write reports its full length. -/
theorem writes_strip_pid (haccepts : ∀ p, backend p = (p.length, none)) (tty : Bool)
    (writes : List (List UInt8)) (henough : needed tty ≤ writes.flatten.length) :
    (writeAll backend { tty } writes).1.pids = [pidOf writes.flatten] ∧
      (writeAll backend { tty } writes).1.written = writes.flatten.drop 4 ∧
      (writeAll backend { tty } writes).2 = writes.map fun p => (p.length, none) := by
  have hinit : ({ tty } : StdoutProxyWriter) = after tty [] := by cases tty <;> rfl
  rw [hinit, writeAll_after haccepts, List.nil_append, after, if_pos henough]
  exact ⟨rfl, rfl, rfl⟩

theorem writes_strip_pid_cut :
    (writeAll (fun p => (p.length, none)) { tty := false } [[2, 1], [], [0, 0, 65], [66]]).1.pids =
        [258] ∧
      (writeAll (fun p => (p.length, none)) { tty := false }
        [[2, 1], [], [0, 0, 65], [66]]).1.written = [65, 66] := by
  have h := writes_strip_pid (fun _ => rfl) false [[2, 1], [], [0, 0, 65], [66]] (by decide)
  exact ⟨h.1.trans (by decide), h.2.1⟩

structure Config where
  tty : Bool
  disableAgent : Bool := false

structure State where
  writer : StdoutProxyWriter
  sending : Option StdoutProxyWriter := none
  pid : Option Nat := none
  ended : Bool := false

inductive Action where
  | write (p : List UInt8)
  | receive
  | ends (failed : Bool)

def Action.output : Action → List UInt8
  | .write p => p
  | _ => []

def State.Waits (config : Config) (s : State) : Prop := config.disableAgent = false ∧ s.pid = none

def State.step (config : Config) (s : State) : Action → Option State
  | .write p =>
    if s.ended ∨ s.sending ≠ none then none
    else if config.disableAgent then
      some { s with writer.written := s.writer.written ++ p }
    else
      let next := (s.writer.write (fun p => (p.length, none)) p).1
      if next.pidRead ∧ s.writer.pidRead = false then some { s with sending := some next }
      else some { s with writer := next }
  | .receive => s.sending.map fun next =>
    { s with writer := next, sending := none, pid := next.pids.head? }
  | .ends _ => if s.ended ∨ s.sending ≠ none then none else some { s with ended := true }

def streams (config : Config) : TransitionSystem State Action :=
  ⟨{ writer := { tty := config.tty } }, State.step config⟩

/-- The writer stands where `bytes` have brought it. -/
structure Tracks (config : Config) (bytes : List UInt8) (s : State) : Prop where
  writer : s.sending.getD s.writer = after config.tty bytes
  pending : s.sending ≠ none → s.ended = false ∧ needed config.tty ≤ bytes.length
  received : s.sending = none → (s.pid = none ↔ bytes.length < needed config.tty)

variable {config : Config} {s t : State} {action : Action} {bytes : List UInt8}

theorem Tracks.step (hagent : config.disableAgent = false) (hs : Tracks config bytes s)
    (hstep : s.step config action = some t) : Tracks config (bytes ++ action.output) t := by
  cases action with
  | write p =>
    rw [State.step, Option.ite_none_left_eq_some, not_or, not_not] at hstep
    obtain ⟨⟨hended, hsending⟩, hstep⟩ := hstep
    have hwriter := hs.writer
    rw [hsending, Option.getD_none] at hwriter
    have hread := after_pidRead config.tty bytes
    have hread' := after_pidRead config.tty (bytes ++ p)
    have hpid := hs.received hsending
    simp only [hagent, Bool.false_eq_true, if_false, hwriter, write_after] at hstep
    split_ifs at hstep with hfirst <;> cases hstep
    · exact ⟨rfl, fun _ => ⟨by simpa using hended, hread'.mp hfirst.1⟩, by simp⟩
    · refine ⟨by simp [hsending, Action.output], fun h => absurd hsending h, fun _ => hpid.trans ?_⟩
      rw [Bool.eq_false_iff, ne_eq, hread, hread'] at hfirst
      simp only [Action.output]
      rw [List.length_append] at hfirst ⊢
      omega
  | receive =>
    obtain ⟨next, hnext, rfl⟩ := Option.map_eq_some_iff.mp hstep
    have henough := (hs.pending (by simp [hnext])).2
    have hwriter : next = after config.tty bytes := by simpa [hnext] using hs.writer
    simp only [Action.output, List.append_nil]
    refine ⟨hwriter, by simp, fun _ => iff_of_false ?_ (by omega)⟩
    simp [hwriter, after, henough]
  | ends =>
    rw [State.step, Option.ite_none_left_eq_some, not_or, not_not] at hstep
    obtain ⟨⟨-, hsending⟩, hstep⟩ := hstep
    cases hstep
    simp only [Action.output, List.append_nil]
    exact ⟨hs.writer, fun h => absurd hsending h, hs.received⟩

theorem tracks_of_runFrom (hagent : config.disableAgent = false) {actions : List Action}
    (hs : Tracks config bytes s) (hrun : (streams config).runFrom s actions = some t) :
    Tracks config (bytes ++ actions.flatMap Action.output) t := by
  induction s, actions, hrun using TransitionSystem.runFrom_induction generalizing bytes with
  | nil => simpa using hs
  | cons s action r rest hstep hrest ih =>
    have hnext := ih (hs.step hagent hstep)
    rwa [List.append_assoc] at hnext

theorem tracks_init (config : Config) : Tracks config [] (streams config).init where
  writer := by cases h : config.tty <;> simp [streams, after, needed, h]
  pending := by simp [streams]
  received := by
    have hfour := four_le_needed config.tty
    simp only [streams, List.length_nil, true_iff]
    omega

theorem sending_of_step (hstep : s.step config action = some t) (hended : t.ended = true) :
    t.sending = none := by
  cases action with
  | write =>
    rw [State.step, Option.ite_none_left_eq_some, not_or] at hstep
    obtain ⟨⟨hopen, -⟩, hstep⟩ := hstep
    dsimp only at hstep
    split_ifs at hstep <;> cases hstep <;> exact absurd hended hopen
  | receive =>
    obtain ⟨next, -, rfl⟩ := Option.map_eq_some_iff.mp hstep
    rfl
  | ends =>
    rw [State.step, Option.ite_none_left_eq_some, not_or, not_not] at hstep
    obtain ⟨⟨-, hidle⟩, hstep⟩ := hstep
    cases hstep
    exact hidle

/-- A stream that has ended leaves `run` waiting exactly if there is an agent and
the output was too short for its process id, and then nothing happens any more. -/
theorem start_wedges_iff {actions : List Action} (hrun : (streams config).run actions = some s)
    (hended : s.ended = true) : (s.Waits config ↔ config.disableAgent = false ∧
        (actions.flatMap Action.output).length < needed config.tty) ∧
      ∀ action, (streams config).step s action = none := by
  have hidle := (streams config).runFrom_invariant (fun _ _ _ _ => sending_of_step)
    (by simp [streams]) hrun hended
  constructor
  · refine and_congr_right fun hagent => ?_
    have htracks := tracks_of_runFrom hagent (tracks_init config) hrun
    exact htracks.received hidle
  · intro action
    cases action <;> simp [streams, State.step, hended, hidle]

theorem start_wedges_served : ∃ s, (streams { tty := false }).run
      [.write [2, 1], .write [0, 0, 65], .receive, .ends false] = some s ∧
      s.ended = true ∧ ¬ s.Waits { tty := false } := by
  refine ⟨_, rfl, rfl, fun hwaits => ?_⟩
  have h := (@start_wedges_iff { tty := false } _
    [.write [2, 1], .write [0, 0, 65], .receive, .ends false] rfl rfl).1.mp hwaits
  exact absurd h.2 (by decide)

/-- The agent ends without having printed a process id. -/
theorem short_output_wedges : ∃ s, (streams { tty := false }).run
      [.write [2, 1], .ends true] = some s ∧ s.ended = true ∧ s.Waits { tty := false } ∧
      ∀ action, (streams { tty := false }).step s action = none := by
  refine ⟨_, rfl, rfl, ⟨rfl, rfl⟩, fun action => ?_⟩
  cases action <;> rfl

end ContainerSSH.KubernetesStream
