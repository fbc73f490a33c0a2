/-
The HTTP server as a service: calls of `RunWithLifecycle` beside the goroutines that wait for
their lifecycles to stop, with a lock and the field `srv` between them.
-/
import ContainerSSH.Message
import ContainerSSH.TransitionSystem

namespace ContainerSSH.HttpServer

/-- Where a call is: the next thing it does. -/
inductive Point where
  | idle
  | lock
  | check
  | refused
  | listen
  | ready
  | serving
  | finish (err : Option GoError)
  | cleanup (err : Option GoError)
  | clear (err : Option GoError)
  | returned (err : Option GoError)

/-- Where the goroutine of a call is; `shutdown j` has read `srv` and given back the lock. -/
inductive Watcher where
  | absent
  | waiting
  | lock
  | held
  | shutdown (j : Nat)
  | done

/-- One call: `cancelled` is the context of its lifecycle, `shut` whether `Shutdown` was called
on its server, and `finished` the value in the channel `serverFinished`. -/
structure Run where
  point : Point := .idle
  watcher : Watcher := .absent
  cancelled : Bool := false
  shut : Bool := false
  finished : Bool := false

inductive Owner where
  | run (i : Nat)
  | watcher (i : Nat)

structure Server where
  lock : Option Owner := none
  srv : Option Nat := none
  runs : Nat → Run := fun _ => {}

/-- The environment calls, cancels a context and lets `Listen` or `Serve` fail with the error
that the call will return. -/
inductive Action where
  | call (i : Nat)
  | cancel (i : Nat)
  | listenFails (i : Nat) (err : GoError)
  | serveFails (i : Nat) (err : GoError)
  | advance (i : Nat)
  | watch (i : Nat)
  | watchFinished (i : Nat)

namespace Server

variable (s : Server)

def put (i : Nat) (r : Run) (lock : Option Owner) (srv : Option Nat) : Server :=
  { lock, srv, runs := fun j => if j = i then r else s.runs j }

/-- A step of a call or of its watcher that leaves the lock and `srv` alone. -/
def keep (i : Nat) (r : Run) : Server := s.put i r s.lock s.srv

def advance (i : Nat) : Option Server :=
  let r := s.runs i
  match r.point with
  | .lock =>
    match s.lock with
    | none => some (s.put i { r with point := .check } (some (.run i)) s.srv)
    | some _ => none
  | .check =>
    match s.srv with
    | none => some (s.put i { r with point := .listen } s.lock (some i))
    -- the error is returned without giving the lock back
    | some _ => some (s.keep i { r with point := .refused })
  | .listen => some (s.keep i { r with point := .ready })
  | .ready => some (s.put i { r with point := .serving, watcher := .waiting } none s.srv)
  | .serving => if r.shut then some (s.keep i { r with point := .finish none }) else none
  | .finish err => some (s.keep i { r with point := .cleanup err, finished := true })
  | .cleanup err =>
    match s.lock with
    | none => some (s.put i { r with point := .clear err } (some (.run i)) s.srv)
    | some _ => none
  | .clear err => some (s.put i { r with point := .returned err } none none)
  | .idle | .refused | .returned _ => none

def shutdown (j : Nat) : Server := s.keep j { s.runs j with shut := true }

def watch (i : Nat) : Option Server :=
  let r := s.runs i
  match r.watcher with
  | .waiting => if r.cancelled then some (s.keep i { r with watcher := .lock }) else none
  | .lock =>
    match s.lock with
    | none => some (s.put i { r with watcher := .held } (some (.watcher i)) s.srv)
    | some _ => none
  | .held =>
    match s.srv with
    | none => some (s.put i { r with watcher := .done } none s.srv)
    | some j => some (s.put i { r with watcher := .shutdown j } none s.srv)
  | .shutdown j =>
    let s := s.shutdown j
    some (s.keep i { s.runs i with watcher := .done })
  | .absent | .done => none

def watchFinished (i : Nat) : Option Server :=
  let r := s.runs i
  match r.watcher with
  | .waiting => if r.finished then some (s.keep i { r with watcher := .done }) else none
  | _ => none

def step : Action → Option Server
  | .call i =>
    match (s.runs i).point with
    | .idle => some (s.keep i { s.runs i with point := .lock })
    | _ => none
  | .cancel i => some (s.keep i { s.runs i with cancelled := true })
  | .listenFails i err =>
    match (s.runs i).point with
    | .listen => some (s.put i { s.runs i with point := .cleanup (some err) } none s.srv)
    | _ => none
  | .serveFails i err =>
    match (s.runs i).point with
    | .serving => some (s.keep i { s.runs i with point := .finish (some err) })
    | _ => none
  | .advance i => s.advance i
  | .watch i => s.watch i
  | .watchFinished i => s.watchFinished i

end Server

def servers : TransitionSystem Server Action where
  init := {}
  step := Server.step

/-! ### Who has the lock -/

def Point.holds : Point → Bool
  | check | refused | listen | ready | clear _ => true
  | _ => false

/-- The points between the two assignments to `srv`. -/
def Point.owns : Point → Bool
  | listen | ready | serving | finish _ | cleanup _ | clear _ => true
  | _ => false

def Point.isOver : Point → Bool
  | cleanup _ | clear _ | returned _ => true
  | _ => false

/-- How a call stands to the lock and to `srv`.  While it serves, its server has been shut
down or its watcher will see to it. -/
structure Fits (lock : Option Owner) (srv : Option Nat) (i : Nat) (r : Run) : Prop where
  run : lock = some (.run i) ↔ r.point.holds = true
  watcher : lock = some (.watcher i) ↔ r.watcher = .held
  srv : srv = some i ↔ r.point.owns = true
  finished : r.finished = true → r.point.isOver = true
  served : r.point = .serving → r.shut = true ∨ r.watcher = .waiting ∨ r.watcher = .lock ∨
    r.watcher = .held ∨ r.watcher = .shutdown i

def Ok (s : Server) : Prop := ∀ i, Fits s.lock s.srv i (s.runs i)

variable {s t : Server}

theorem ok_init : Ok {} := by
  intro i
  constructor <;> simp [Point.holds, Point.owns]

/-- A step of one call or its watcher does not concern the others if it leaves them what they
have. -/
theorem Ok.put {lock : Option Owner} {srv : Option Nat} {r : Run} (hs : Ok s) (i : Nat)
    (hlock : ∀ j, i ≠ j → (lock = some (.run j) ↔ s.lock = some (.run j)) ∧
      (lock = some (.watcher j) ↔ s.lock = some (.watcher j)))
    (hsrv : ∀ j, i ≠ j → (srv = some j ↔ s.srv = some j))
    (hr : Fits lock srv i r) : Ok (s.put i r lock srv) := by
  intro j
  by_cases hj : i = j
  · subst hj
    simpa [Server.put] using hr
  · have hruns : (s.put i r lock srv).runs j = s.runs j := if_neg (Ne.symm hj)
    obtain ⟨hrun, hwatcher, howns, hfinished, hserved⟩ := hs j
    rw [hruns]
    exact ⟨(hlock j hj).1.trans hrun, (hlock j hj).2.trans hwatcher, (hsrv j hj).trans howns,
      hfinished, hserved⟩

theorem Ok.keep {r : Run} (hs : Ok s) (i : Nat) (hr : Fits s.lock s.srv i r) : Ok (s.keep i r) :=
  hs.put i (fun _ _ => ⟨.rfl, .rfl⟩) (fun _ _ => .rfl) hr

theorem ok_advance (hs : Ok s) {i : Nat} (hstep : s.advance i = some t) : Ok t := by
  obtain ⟨hrun, hwatcher, hsrv, hfinished, hserved⟩ := hs i
  unfold Server.advance at hstep
  dsimp only at hstep
  repeat' split at hstep
  all_goals cases hstep
  all_goals
    refine hs.put i (fun j hj => ?_) (fun j hj => ?_) ⟨?_, ?_, ?_, fun _ => ?_, fun _ => ?_⟩ <;>
      simp_all [Point.holds, Point.owns, Point.isOver]

theorem ok_shutdown (hs : Ok s) (j : Nat) : Ok (s.shutdown j) :=
  hs.keep j { hs j with served := fun _ => .inl rfl }

theorem ok_watch (hs : Ok s) {i : Nat} (hstep : s.watch i = some t) : Ok t := by
  obtain ⟨hrun, hwatcher, hsrv, hfinished, hserved⟩ := hs i
  unfold Server.watch at hstep
  dsimp only at hstep
  repeat' split at hstep
  all_goals cases hstep
  case h_4 j hshutdown =>
    -- a call that serves is the one whose server its watcher has found
    have hruns : (s.shutdown j).runs i =
        { s.runs i with shut := decide (i = j) || (s.runs i).shut } := by
      by_cases hij : i = j <;> simp [Server.shutdown, Server.keep, Server.put, hij]
    refine (ok_shutdown hs j).keep i ?_
    rw [hruns]
    refine ⟨hrun, ?_, hsrv, hfinished, fun hserving => .inl ?_⟩
    · rw [hshutdown] at hwatcher
      exact iff_of_false (fun h => nomatch hwatcher.mp h) nofun
    · rcases hserved hserving with h | h | h | h | h <;> simp_all
  all_goals
    refine hs.put i (fun j hj => ?_) (fun j hj => ?_) ⟨?_, ?_, ?_, fun _ => ?_, fun _ => ?_⟩ <;>
      simp_all [Point.holds, Point.owns, Point.isOver]

theorem ok_step {action : Action} (hs : Ok s) (hstep : s.step action = some t) : Ok t := by
  cases action with
  | advance i => exact ok_advance hs hstep
  | watch i => exact ok_watch hs hstep
  | call i | cancel i | listenFails i | serveFails i | watchFinished i =>
    obtain ⟨hrun, hwatcher, hsrv, hfinished, hserved⟩ := hs i
    simp only [Server.step, Server.watchFinished] at hstep
    repeat' split at hstep
    all_goals cases hstep
    all_goals
      refine hs.put i ?_ ?_ ⟨?_, ?_, ?_, fun _ => ?_, fun _ => ?_⟩ <;>
        simp_all [Point.holds, Point.owns, Point.isOver]

/-- No call and no watcher can go on. -/
def AtRest (s : Server) : Prop :=
  ∀ i, s.advance i = none ∧ s.watch i = none ∧ s.watchFinished i = none

/-- The server comes to rest in two ways only: the lock is free, and every call has returned or
serves under a context that is not done; or a call that found the server running has returned
with the lock. `Shutdown`, `onReady` and `Running` are taken to return. -/
theorem at_rest_spec (hs : servers.Reachable s) (hrest : AtRest s) :
    (s.lock = none ∧ ∀ i, (s.runs i).point = .idle ∨ (∃ err, (s.runs i).point = .returned err) ∨
      (s.runs i).point = .serving ∧ (s.runs i).cancelled = false ∧ s.srv = some i) ∨
    ∃ i, (s.runs i).point = .refused ∧ s.lock = some (.run i) := by
  have hok : Ok s := hs.invariant ok_init fun _ _ _ => ok_step
  cases hlock : s.lock with
  | some owner =>
    -- the owner of the lock can go on, unless it has returned
    cases owner with
    | run i =>
      have hholds := (hok i).run.mp hlock
      have hstuck := (hrest i).1
      unfold Server.advance at hstuck
      refine .inr ⟨i, ?_, rfl⟩
      cases hpoint : (s.runs i).point <;> simp_all [Point.holds]
      split at hstuck <;> simp_all
    | watcher i =>
      have hheld := (hok i).watcher.mp hlock
      have hstuck := (hrest i).2.1
      simp only [Server.watch, hheld] at hstuck
      split at hstuck <;> cases hstuck
  | none =>
    refine .inl ⟨rfl, fun i => ?_⟩
    obtain ⟨hrun, hwatcher, hsrv, -, hserved⟩ := hok i
    obtain ⟨hadvance, hwatch, -⟩ := hrest i
    simp only [Server.advance, Server.watch, hlock] at hadvance hwatch
    cases hpoint : (s.runs i).point with
    | serving =>
      have hopen : (s.runs i).shut = false := by simpa [hpoint] using hadvance
      have hwaiting : (s.runs i).watcher = .waiting := by
        rcases hserved hpoint with h | h | h | h | h <;> simp_all
      exact .inr (.inr ⟨rfl, by simpa [hwaiting] using hwatch, hsrv.mpr (by rw [hpoint]; rfl)⟩)
    | idle => exact .inl rfl
    | returned err => exact .inr (.inl ⟨err, rfl⟩)
    | _ => simp_all [Point.holds]

def stopOnce : List Action :=
  [.call 0, .advance 0, .advance 0, .advance 0, .advance 0, .cancel 0, .watch 0, .watch 0,
    .watch 0, .watch 0, .advance 0, .advance 0, .advance 0, .advance 0]

theorem stopped_server_at_rest : ∃ s, servers.run stopOnce = some s ∧ AtRest s ∧
    s.lock = none ∧ (s.runs 0).point = .returned none := by
  refine TransitionSystem.exists_run _ rfl fun s hrun => ?_
  have hrest : AtRest s := by
    rw [← Option.some.inj hrun]
    rintro (_ | i) <;> exact ⟨rfl, rfl, rfl⟩
  have hpoint : (s.runs 0).point = .returned none := by rw [← Option.some.inj hrun]; rfl
  rcases at_rest_spec ⟨stopOnce, hrun⟩ hrest with ⟨hlock, -⟩ | ⟨i, -, hlock⟩
  · exact ⟨hrest, hlock, hpoint⟩
  · rw [← Option.some.inj hrun] at hlock
    cases hlock

end ContainerSSH.HttpServer
