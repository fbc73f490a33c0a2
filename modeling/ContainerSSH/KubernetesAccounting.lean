/-
The execs of one Kubernetes pod and the wait group of the pod.
-/
import ContainerSSH.ContainerBackend

namespace ContainerSSH.KubernetesAccounting

open ContainerBackend (ExecutionMode)

structure Config where
  mode : ExecutionMode := .connection
  disableAgent : Bool := false

inductive ExecPoint where
  | creating
  | failed
  | created
  | streaming
  | exited
  | ended
deriving DecidableEq

structure Exec where
  admitted : Bool := true
  point : ExecPoint := .creating
  pid : Nat := 0
  lockKept : Bool := false

inductive Removal where
  | idle
  | waiting
  | removing
deriving DecidableEq

structure Pod where
  execs : List Exec := []
  wg : Int := 0
  removal : Removal := .idle

inductive ExecAction where
  | created (ok : Bool)
  | run
  | receivePID (pid : UInt32)
  | exit
  | done

inductive Action where
  | createExec
  | attach
  | exec (i : Nat) (action : ExecAction)
  | signal (i : Nat)
  | remove
  | wait

def Exec.step (config : Config) (e : Exec) : ExecAction → Option (Exec × Int)
  | .created ok =>
    if e.point ≠ .creating then none
    else if ok then some ({ e with point := .created }, 0)
    else some ({ e with point := .failed }, -1)
  | .run => if e.point = .created then some ({ e with point := .streaming }, 0) else none
  | .receivePID pid =>
    if e.point = .streaming ∧ config.disableAgent = false then some ({ e with pid := pid.toNat }, 0)
    else none
  | .exit => if e.point = .streaming then some ({ e with point := .exited }, 0) else none
  | .done =>
    if e.point ≠ .exited then none
    else some ({ e with point := .ended }, if config.mode = .connection then -1 else 0)

def Pod.step (config : Config) (s : Pod) : Action → Option Pod
  | .createExec =>
    if s.removal = .idle then some { s with execs := s.execs ++ [{}], wg := s.wg + 1 } else some s
  | .attach =>
    if config.mode ≠ .session then none
    else some { s with execs := s.execs ++ [{ admitted := false, point := .created }] }
  | .exec i action =>
    s.execs[i]?.bind fun e => (e.step config action).map fun (next, units) =>
      { s with execs := s.execs.set i next, wg := s.wg + units }
  -- A signal that finds the pod shut down returns with the lock.
  | .signal i =>
    s.execs[i]?.bind fun e =>
      if config.disableAgent then some s
      else if e.lockKept then none
      else if e.pid = 0 ∨ e.point = .exited ∨ e.point = .ended then some s
      else if s.removal = .removing then
        some { s with execs := s.execs.set i { e with lockKept := true } }
      else some { s with execs := s.execs ++ [{}], wg := s.wg + 1 }
  | .remove => if s.removal = .idle then some { s with removal := .waiting } else some s
  | .wait =>
    if s.removal = .waiting ∧ (config.mode = .session → s.wg = 0) then
      some { s with removal := .removing }
    else none

def pods (config : Config) : TransitionSystem Pod Action := ⟨{}, Pod.step config⟩

def Exec.isOpen (e : Exec) : Bool := e.admitted && decide (e.point ≠ .failed ∧ e.point ≠ .ended)

def Exec.isOver (e : Exec) : Bool := e.admitted && decide (e.point = .ended)

def Exec.held (config : Config) (e : Exec) : Bool :=
  e.isOpen || (decide (config.mode ≠ .connection) && e.isOver)

structure Exec.Ok (config : Config) (e : Exec) : Prop where
  attached : e.admitted = false → config.mode ≠ .connection ∧ e.point ≠ .creating

structure Pod.Ok (config : Config) (s : Pod) : Prop where
  wg : s.wg = s.execs.countP (Exec.held config)
  execs : ∀ e ∈ s.execs, e.Ok config

variable {config : Config} {s t : Pod} {e next : Exec} {units : Int} {i : Nat} {action : Action}

theorem Exec.Ok.step {action : ExecAction} (he : e.Ok config)
    (hstep : e.step config action = some (next, units)) :
    next.Ok config ∧ units = (next.held config).toNat - (e.held config).toNat := by
  obtain ⟨hattached⟩ := he
  cases action <;> simp only [Exec.step] at hstep <;> split_ifs at hstep <;> cases hstep <;>
    exact ⟨⟨by grind⟩, by grind [held, isOpen, isOver]⟩

theorem Pod.Ok.exec (hs : s.Ok config) (he : s.execs[i]? = some e) (hnext : next.Ok config)
    (hunits : units = (next.held config).toNat - (e.held config).toNat) :
    Pod.Ok config { s with execs := s.execs.set i next, wg := s.wg + units } := by
  refine ⟨by rw [ListBlocks.countP_set he, hs.wg, hunits], fun e he => ?_⟩
  rcases List.mem_or_eq_of_mem_set he with hold | rfl
  · exact hs.execs e hold
  · exact hnext

theorem Pod.Ok.add (hs : s.Ok config) (hnext : next.Ok config)
    (hunits : units = (next.held config).toNat) :
    Pod.Ok config { s with execs := s.execs ++ [next], wg := s.wg + units } := by
  refine ⟨?_, ?_⟩
  · rw [hs.wg, hunits, List.countP_append, List.countP_singleton]
    cases next.held config <;> rfl
  · simp only [List.mem_append, List.mem_singleton]
    rintro e (hold | rfl)
    · exact hs.execs e hold
    · exact hnext

theorem Pod.Ok.step (hs : s.Ok config) (hstep : s.step config action = some t) : t.Ok config := by
  cases action with
  | createExec =>
    simp only [Pod.step] at hstep
    split_ifs at hstep <;> cases hstep
    · exact hs.add ⟨by simp⟩ rfl
    · exact hs
  | attach =>
    obtain ⟨hmode, ht⟩ := Option.ite_none_left_eq_some.mp hstep
    cases ht
    rw [not_not] at hmode
    have hnext : Exec.Ok config { admitted := false, point := .created } := ⟨by simp [hmode]⟩
    simpa using hs.add hnext (by simp [Exec.held, Exec.isOpen, Exec.isOver] : (0 : Int) = _)
  | exec i action =>
    obtain ⟨e, he, hstep⟩ := Option.bind_eq_some_iff.mp hstep
    obtain ⟨⟨next, units⟩, hnext, rfl⟩ := Option.map_eq_some_iff.mp hstep
    obtain ⟨hok, hunits⟩ := (hs.execs e (List.mem_of_getElem? he)).step hnext
    exact hs.exec he hok hunits
  | signal i =>
    obtain ⟨e, he, hstep⟩ := Option.bind_eq_some_iff.mp hstep
    split_ifs at hstep <;> cases hstep
    · exact hs
    · exact hs
    · have hkept : Exec.Ok config { e with lockKept := true } :=
        ⟨(hs.execs e (List.mem_of_getElem? he)).attached⟩
      simpa using hs.exec he hkept (Int.sub_self _).symm
    · exact hs.add ⟨by simp⟩ rfl
  | remove | wait =>
    simp only [Pod.step] at hstep
    split_ifs at hstep <;> cases hstep <;> exact ⟨hs.wg, hs.execs⟩

theorem countP_held_eq_iff (config : Config) (execs : List Exec) :
    execs.countP (Exec.held config) = execs.countP Exec.isOpen ↔
      config.mode = .connection ∨ ∀ e ∈ execs, e.isOver = false := by
  by_cases hmode : config.mode = .connection
  · have hheld : Exec.held config = Exec.isOpen := by
      funext e
      simp [Exec.held, hmode]
    simp [hheld, hmode]
  · have hsum : execs.countP (Exec.held config) =
        execs.countP Exec.isOpen + execs.countP Exec.isOver := by
      induction execs with
      | nil => rfl
      | cons e execs ih => grind [Exec.held, Exec.isOpen, Exec.isOver]
    rw [hsum]
    simp [hmode]

/-- The wait group counts the open execs exactly if the mode is that of the
connection or no stream has ended.  It is never negative; when all streams have
ended it is back at zero under the same condition. -/
theorem wg_accounts_iff {actions : List Action} (hrun : (pods config).run actions = some s) :
    (s.wg = s.execs.countP Exec.isOpen ↔
        config.mode = .connection ∨ ∀ e ∈ s.execs, e.isOver = false) ∧ 0 ≤ s.wg ∧
      ((∀ e ∈ s.execs, e.isOpen = false) →
        (s.wg = 0 ↔ config.mode = .connection ∨ ∀ e ∈ s.execs, e.isOver = false)) := by
  have hs : s.Ok config := (pods config).runFrom_invariant (fun _ _ _ => Pod.Ok.step)
    ⟨rfl, by simp [pods]⟩ hrun
  have hiff := countP_held_eq_iff config s.execs
  rw [hs.wg]
  refine ⟨Int.ofNat_inj.trans hiff, Int.natCast_nonneg _, fun hclosed => ?_⟩
  have hnone : s.execs.countP Exec.isOpen = 0 := by simpa [List.countP_eq_zero] using hclosed
  rw [← hiff, hnone]
  exact Int.natCast_eq_zero

def signalled : List Action :=
  [.createExec, .exec 0 (.created true), .exec 0 .run, .exec 0 (.receivePID 7), .signal 0,
    .exec 1 (.created true), .exec 1 .run, .exec 1 .exit, .exec 1 .done, .exec 0 .exit,
    .exec 0 .done]

theorem pod_wg_signalled : ∃ s, (pods {}).run signalled = some s ∧ s.wg = 0 :=
  ⟨_, rfl, ((@wg_accounts_iff {} _ signalled rfl).2.2 (by decide)).mpr (.inl rfl)⟩

/-- In session mode a file is written; the removal waits for ever. -/
theorem written_file_blocks_removal : ∃ s, (pods { mode := .session }).run
      [.createExec, .exec 0 (.created true), .exec 0 .run, .exec 0 .exit, .exec 0 .done,
        .remove] = some s ∧ (∀ e ∈ s.execs, e.isOpen = false) ∧ s.wg = 1 ∧
      (pods { mode := .session }).step s .wait = none :=
  ⟨_, rfl, by decide, rfl, rfl⟩

end ContainerSSH.KubernetesAccounting
