/-
The execs of one Docker container: the wait group that the removal waits for, and the locks of the
container and of the execs.
-/
import ContainerSSH.ContainerBackend

namespace ContainerSSH.DockerAccounting

open ContainerBackend (ExecutionMode)

structure Config where
  mode : ExecutionMode := .connection
  disableAgent : Bool := false

inductive ExecPoint where
  | creating
  | created
  | reading
  | failing
  | running
  | finishing
  | gone
deriving DecidableEq

structure Exec where
  execID : Bool := true
  point : ExecPoint := .creating
  pid : Int := 0
  lockKept : Bool := false

inductive Removal where
  | idle
  | waiting
  | waited
  | removing
  | removed
deriving DecidableEq

structure Container where
  execs : List Exec := []
  wg : Int := 0
  lockKept : Bool := false
  removal : Removal := .idle

inductive ExecAction where
  | created (ok : Bool)
  | run
  | readPID (pid : Option UInt32)
  | runFails
  | finish
  | done
deriving DecidableEq

inductive Action where
  | createExec
  | attach
  | exec (i : Nat) (action : ExecAction)
  | signal (i : Nat)
  | remove
  | wait
  | shutDown
  | containerRemove (ok : Bool)
deriving DecidableEq

def Container.shuttingDown (s : Container) : Bool := decide (s.removal ≠ .idle)

def Container.shutdown (s : Container) : Bool :=
  decide (s.removal = .removing ∨ s.removal = .removed)

def Exec.locked (e : Exec) : Bool := e.lockKept || decide (e.point = .reading ∨ e.point = .failing)

def Exec.step (config : Config) (e : Exec) : ExecAction → Option (Exec × Int)
  | .created ok =>
    if e.point ≠ .creating then none
    else if ok then some ({ e with point := .created }, 0)
    else some ({ e with point := .gone }, -1)
  | .run =>
    if e.point ≠ .created ∨ e.locked then none
    else if config.mode = .connection ∧ config.disableAgent = false then
      some ({ e with point := .reading }, 0)
    else some ({ e with point := .running }, 0)
  | .readPID pid =>
    if e.point ≠ .reading then none
    else
      match pid with
      | some pid => some ({ e with point := .running, pid := pid.toNat }, 0)
      | none => some ({ e with point := .failing }, 0)
  | .runFails => if e.point = .failing then some ({ e with point := .gone }, -1) else none
  | .finish =>
    if e.point ≠ .running ∨ e.locked then none
    else some ({ e with pid := -1, point := if e.execID then .finishing else .gone }, 0)
  | .done => if e.point = .finishing then some ({ e with point := .gone }, -1) else none

def Container.step (config : Config) (s : Container) : Action → Option Container
  -- `createExec` does not unlock before it refuses.
  | .createExec =>
    if s.lockKept then none
    else if s.shuttingDown then some { s with lockKept := true }
    else some { s with execs := s.execs ++ [{}], wg := s.wg + 1 }
  | .attach =>
    if config.mode ≠ .session then none
    else some { s with execs := s.execs ++ [{ execID := false, point := .created, pid := 1 }] }
  | .exec i action =>
    s.execs[i]?.bind fun e => (e.step config action).map fun (next, units) =>
      { s with execs := s.execs.set i next, wg := s.wg + units }
  -- Without a process ID the signal is refused; the process with the number 1 is
  -- signalled through the container.
  | .signal i =>
    s.execs[i]?.bind fun e =>
      if config.disableAgent then some s
      else if e.locked then none
      else if e.pid ≤ 1 then some s
      else if s.shutdown then some { s with execs := s.execs.set i { e with lockKept := true } }
      else some { s with execs := s.execs ++ [{}], wg := s.wg + 1 }
  | .remove =>
    if s.shuttingDown then some s
    else if s.lockKept then none
    else some { s with removal := .waiting }
  | .wait => if s.removal = .waiting ∧ s.wg = 0 then some { s with removal := .waited } else none
  | .shutDown =>
    if s.removal = .waited ∧ s.lockKept = false then some { s with removal := .removing } else none
  | .containerRemove ok =>
    if s.removal ≠ .removing then none
    else some { s with removal := if ok then .removed else .removing }

def containers (config : Config) : TransitionSystem Container Action := ⟨{}, Container.step config⟩

def Exec.counted (e : Exec) : Bool := e.execID && decide (e.point ≠ .gone)

structure Exec.Ok (config : Config) (e : Exec) : Prop where
  lock : e.lockKept = false
  signalled : 1 < e.pid → e.execID = true ∧ e.point = .running
  attached : e.execID = false → config.mode ≠ .connection ∧
    (e.point = .created ∨ e.point = .running ∨ e.point = .gone)

structure Container.Ok (config : Config) (s : Container) : Prop where
  wg : s.wg = s.execs.countP Exec.counted
  execs : ∀ e ∈ s.execs, e.Ok config
  passed : s.removal ≠ .idle → s.removal ≠ .waiting → s.wg = 0

variable {config : Config} {s t : Container} {e next : Exec} {units : Int} {i : Nat}

theorem Exec.Ok.step {action : ExecAction} (he : e.Ok config)
    (hstep : e.step config action = some (next, units)) :
    next.Ok config ∧ units = next.counted.toNat - e.counted.toNat ∧ units ≤ 0 := by
  obtain ⟨hlock, hsignalled, hattached⟩ := he
  cases action with
  | created | run | runFails | finish | done =>
    simp only [Exec.step] at hstep
    split_ifs at hstep <;> cases hstep <;>
      exact ⟨⟨hlock, by grind, by grind⟩, by grind [counted], by simp⟩
  | readPID pid =>
    cases pid <;> simp only [Exec.step] at hstep <;> split_ifs at hstep <;> cases hstep <;>
      exact ⟨⟨hlock, by grind, by grind⟩, by grind [counted], by simp⟩

theorem Container.Ok.exec (hs : s.Ok config) (he : s.execs[i]? = some e) (hnext : next.Ok config)
    (hunits : units = next.counted.toNat - e.counted.toNat) (hle : units ≤ 0) :
    Container.Ok config { s with execs := s.execs.set i next, wg := s.wg + units } := by
  have hwg : s.wg + units = (s.execs.set i next).countP Exec.counted := by
    rw [ListBlocks.countP_set he, hs.wg, hunits]
  refine ⟨hwg, fun e he => ?_, fun hidle hwaiting => ?_⟩
  · rcases List.mem_or_eq_of_mem_set he with hold | rfl
    · exact hs.execs e hold
    · exact hnext
  · have hzero := hs.passed hidle hwaiting
    change s.wg + units = 0
    omega

theorem Container.Ok.admit (hs : s.Ok config)
    (hopen : s.removal ≠ .idle → s.removal ≠ .waiting → False) :
    Container.Ok config { s with execs := s.execs ++ [{}], wg := s.wg + 1 } where
  wg := by
    rw [hs.wg, List.countP_append]
    rfl
  execs := by
    simp only [List.mem_append, List.mem_singleton]
    rintro e (hold | rfl)
    · exact hs.execs e hold
    · exact ⟨rfl, by simp, by simp⟩
  passed hidle hwaiting := (hopen hidle hwaiting).elim

theorem Container.Ok.not_passed (hs : s.Ok config) (he : s.execs[i]? = some e) (hpid : 1 < e.pid)
    (hidle : s.removal ≠ .idle) : s.removal = .waiting := by
  have hmem := List.mem_of_getElem? he
  have hcounted : e.counted = true := by
    obtain ⟨hexec, hrunning⟩ := (hs.execs e hmem).signalled hpid
    simp [Exec.counted, hexec, hrunning]
  have hpos := List.countP_pos_iff.mpr ⟨e, hmem, hcounted⟩
  by_contra hwaiting
  have hzero := hs.passed hidle hwaiting
  have hwg := hs.wg
  omega

variable {action : Action}

theorem Container.Ok.step (hs : s.Ok config) (hstep : s.step config action = some t) :
    t.Ok config := by
  have hwg := hs.wg
  cases action with
  | createExec =>
    simp only [Container.step, Container.shuttingDown, decide_eq_true_eq] at hstep
    split_ifs at hstep with hlock hidle <;> cases hstep
    · exact ⟨hwg, hs.execs, hs.passed⟩
    · exact hs.admit fun h => absurd h hidle
  | attach =>
    rw [Container.step, Option.ite_none_left_eq_some, not_not] at hstep
    obtain ⟨hmode, hstep⟩ := hstep
    cases hstep
    refine ⟨?_, ?_, hs.passed⟩
    · rw [hwg, List.countP_append]
      rfl
    · simp only [List.mem_append, List.mem_singleton]
      rintro e (hold | rfl)
      · exact hs.execs e hold
      · exact ⟨rfl, by simp, by simp [hmode]⟩
  | exec i action =>
    obtain ⟨e, he, hstep⟩ := Option.bind_eq_some_iff.mp hstep
    obtain ⟨⟨next, units⟩, hnext, rfl⟩ := Option.map_eq_some_iff.mp hstep
    obtain ⟨hok, hunits, hle⟩ := (hs.execs e (List.mem_of_getElem? he)).step hnext
    exact hs.exec he hok hunits hle
  | signal i =>
    obtain ⟨e, he, hstep⟩ := Option.bind_eq_some_iff.mp hstep
    split_ifs at hstep with _ hlocked hpid hshutdown <;> cases hstep
    · exact hs
    · exact hs
    · have hwaiting := hs.not_passed he (by omega)
      simp only [Container.shutdown] at hshutdown
      grind
    · exact hs.admit fun hidle hpassed => hpassed (hs.not_passed he (by omega) hidle)
  | remove =>
    simp only [Container.step] at hstep
    split_ifs at hstep <;> cases hstep
    · exact hs
    · exact ⟨hwg, hs.execs, by simp⟩
  | wait =>
    obtain ⟨⟨-, hzero⟩, ht⟩ := Option.ite_none_right_eq_some.mp hstep
    cases ht
    exact ⟨hwg, hs.execs, fun _ _ => hzero⟩
  | shutDown =>
    obtain ⟨⟨hwaited, -⟩, ht⟩ := Option.ite_none_right_eq_some.mp hstep
    cases ht
    exact ⟨hwg, hs.execs, fun _ _ => hs.passed (by simp [hwaited]) (by simp [hwaited])⟩
  | containerRemove ok =>
    rw [Container.step, Option.ite_none_left_eq_some, not_not] at hstep
    obtain ⟨hremoving, hstep⟩ := hstep
    cases hstep
    exact ⟨hwg, hs.execs, fun _ _ => hs.passed (by simp [hremoving]) (by simp [hremoving])⟩

theorem ok_init (config : Config) : Container.Ok config {} := ⟨rfl, by simp, by simp⟩

/-- The wait group counts the execs that are not over.  Once the removal has gone
past it, it stays at zero, and the container is removed only then. -/
theorem wg_accounts {actions : List Action} (hrun : (containers config).run actions = some s) :
    s.wg = s.execs.countP Exec.counted ∧ 0 ≤ s.wg ∧
      (s.removal ≠ .idle → s.removal ≠ .waiting → s.wg = 0) ∧
      ∀ ok t, (containers config).step s (.containerRemove ok) = some t → s.wg = 0 := by
  have hs := (containers config).runFrom_invariant (fun _ _ _ => Container.Ok.step)
    (ok_init config) hrun
  refine ⟨hs.wg, by rw [hs.wg]; exact Int.natCast_nonneg _, hs.passed, fun ok t hstep => ?_⟩
  have hremoving := (Option.ite_none_left_eq_some.mp hstep).1
  rw [not_not] at hremoving
  exact hs.passed (by simp [hremoving]) (by simp [hremoving])

def signalled : List Action :=
  [.createExec, .exec 0 (.created true), .exec 0 .run, .exec 0 (.readPID (some 7)), .signal 0,
    .remove, .exec 1 (.created false), .exec 0 .finish, .exec 0 .done, .wait, .shutDown]

theorem wg_accounts_signalled : ∃ s, (containers {}).run signalled = some s ∧ s.wg = 0 :=
  ⟨_, rfl, (@wg_accounts {} _ signalled rfl).2.2.1 (by decide) (by decide)⟩

def Container.LocksReleased (s : Container) : Prop :=
  s.lockKept = false ∧ ∀ e ∈ s.execs, e.lockKept = false

/-- No program is created once the removal of the container has begun. -/
def AsksInTime (s : Container) (action : Action) : Prop := action = .createExec → s.removal = .idle

instance decidableAsksInTime (s : Container) (action : Action) : Decidable (AsksInTime s action) :=
  inferInstanceAs (Decidable (_ → _))

theorem keeps_of_exec (hexec : (∃ i a, action = .exec i a) ∨ ∃ i, action = .signal i)
    (hstep : s.step config action = some t) :
    t.lockKept = s.lockKept ∧ t.removal = s.removal := by
  rcases hexec with ⟨i, a, rfl⟩ | ⟨i, rfl⟩
  · obtain ⟨e, he, hstep⟩ := Option.bind_eq_some_iff.mp hstep
    obtain ⟨⟨next, units⟩, hnext, rfl⟩ := Option.map_eq_some_iff.mp hstep
    exact ⟨rfl, rfl⟩
  · obtain ⟨e, he, hstep⟩ := Option.bind_eq_some_iff.mp hstep
    split_ifs at hstep <;> cases hstep <;> exact ⟨rfl, rfl⟩

theorem lockKept_step_iff (hstep : s.step config action = some t) :
    t.lockKept = false ↔ s.lockKept = false ∧ AsksInTime s action := by
  cases action with
  | createExec =>
    simp only [Container.step, Container.shuttingDown, decide_eq_true_eq] at hstep
    split_ifs at hstep with hlock hidle <;> cases hstep <;> simp_all [AsksInTime]
  | exec i a => simp [AsksInTime, (keeps_of_exec (.inl ⟨i, a, rfl⟩) hstep).1]
  | signal i => simp [AsksInTime, (keeps_of_exec (.inr ⟨i, rfl⟩) hstep).1]
  | _ =>
    simp only [Container.step] at hstep
    split_ifs at hstep <;> cases hstep <;> simp [AsksInTime]

/-- All locks are released exactly if no exec is asked for during the removal. -/
theorem locks_released_iff {actions : List Action}
    (hrun : (containers config).run actions = some s) :
    s.LocksReleased ↔ (containers config).Meets AsksInTime {} actions := by
  have hok : ∀ s a t, Container.Ok config s → (containers config).step s a = some t →
      Container.Ok config t := fun _ _ _ hs hstep => hs.step hstep
  have hs := (containers config).runFrom_invariant hok (ok_init config) hrun
  have hiff := (containers config).runFrom_iff_meets hok
    (fun _ _ _ _ => lockKept_step_iff) (ok_init config) hrun
  rw [Container.LocksReleased, and_iff_left fun e he => (hs.execs e he).lock, hiff]
  exact and_iff_right rfl

theorem locks_released_signalled : ∃ s, (containers {}).run signalled = some s ∧ s.LocksReleased :=
  ⟨_, rfl, (@locks_released_iff {} _ signalled rfl).mpr (by decide)⟩

/-- An exec is asked for while the removal is between its two sections: the
removal never gets the lock again. -/
theorem late_exec_blocks_removal : ∃ s, (containers {}).run [.remove, .wait, .createExec] = some s ∧
      ¬ s.LocksReleased ∧ ∀ actions t, (containers {}).runFrom s actions = some t →
        t.removal = .waited := by
  have hblocked : ∀ s a t, s.lockKept = true ∧ s.removal = .waited →
      (containers {}).step s a = some t → t.lockKept = true ∧ t.removal = .waited := by
    rintro s a t ⟨hlock, hwaited⟩ hstep
    cases a with
    | exec i a =>
      exact (keeps_of_exec (.inl ⟨i, a, rfl⟩) hstep).imp (·.trans hlock) (·.trans hwaited)
    | signal i => exact (keeps_of_exec (.inr ⟨i, rfl⟩) hstep).imp (·.trans hlock) (·.trans hwaited)
    | remove =>
      simp [containers, Container.step, Container.shuttingDown, hwaited] at hstep
      exact hstep ▸ ⟨hlock, hwaited⟩
    | _ => simp [containers, Container.step, hlock, hwaited] at hstep
  exact ⟨_, rfl, fun h => absurd h.1 (by decide), fun actions t hrun =>
    ((containers {}).runFrom_invariant hblocked ⟨rfl, rfl⟩ hrun).2⟩

end ContainerSSH.DockerAccounting
