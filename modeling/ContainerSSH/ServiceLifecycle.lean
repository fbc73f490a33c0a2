/-
The lifecycle of a service.
-/
import ContainerSSH.ListBlocks
import ContainerSSH.ServicePool

namespace ContainerSSH.Service

namespace Lifecycle

inductive HookKind where
  | onStateChange
  | onStarting
  | onRunning
  | onStopping
  | onStopped
  | onCrashed
deriving DecidableEq

inductive Method where
  | run
  | running
  | stopping
  | stop (shutdownContext : Option Nat)
  | wait
  | shouldStop
  | register (hook : HookKind)
deriving DecidableEq

inductive Section where
  | starting
  | running
  | stopping
  | stopped
  | crashed (err : GoError) (ret : Option GoError)
  | stop (shutdownContext : Option Nat)
  | wait
  | shouldStop
  | register (hook : HookKind)
deriving DecidableEq

inductive Result where
  | nothing
  | error (err : Option GoError)
  | bool (b : Bool)
  | context (c : Nat)
deriving DecidableEq

inductive AfterHooks where
  | serve
  | leave (result : Result)
  | finish (ret : Option GoError)
deriving DecidableEq

inductive Next where
  | hooks (after : AfterHooks)
  | leave (result : Result)
  | cancelRun
  | block (waitContext : Option Nat)
deriving DecidableEq

inductive Point where
  | resetError
  | makeContext
  | lock (sec : Section)
  | held (sec : Section)
  | unlock (next : Next)
  | hooks (after : AfterHooks)
  | serving
  | cancelRun
  | block (waitContext : Option Nat)
  | readError
  | cancelWait (ret : Option GoError)
  | returned (result : Result)
deriving DecidableEq

structure Call where
  method : Method
  during : Option Nat
  point : Point

inductive ServiceEnd where
  | returned (err : Option GoError)
  | panicked (value : String)

end Lifecycle

structure Lifecycle where
  state : State := .stopped
  mutex : Option Nat := none
  cancelled : Bool := false
  shutdownContext : Option Nat := some 0
  lastError : Option GoError := none
  waitContext : Option Nat := none
  waitContexts : Nat := 0
  done : List Nat := []
  hooks : List Lifecycle.HookKind := []
  calls : List Lifecycle.Call := []
  latest : Option Nat := none
  ended : Option Lifecycle.ServiceEnd := none

namespace Lifecycle

inductive Action where
  | call (method : Method)
  | advance (i : Nat)
  | serviceReturns (i : Nat) (err : Option GoError)
  | servicePanics (i : Nat) (value : String)

variable (s : Lifecycle)

def pointOf (i : Nat) : Option Point := (s.calls[i]?).map Call.point

def moveTo (i : Nat) (point : Point) : Lifecycle :=
  { s with calls := s.calls.modify i fun c => { c with point := point } }

def Point.isReturned : Point → Bool
  | returned _ => true
  | _ => false

def active : Option Nat := s.latest.filter fun i => (s.pointOf i).any fun point => !point.isReturned

def Method.entry : Method → Point
  | run => .resetError
  | running => .lock .running
  | stopping => .lock .stopping
  | stop shutdownContext => .lock (.stop shutdownContext)
  | wait => .lock .wait
  | shouldStop => .lock .shouldStop
  | register hook => .lock (.register hook)

def begin (method : Method) : Lifecycle :=
  let calls := s.calls ++ [⟨method, s.active, method.entry⟩]
  if method = .run then { s with calls := calls, latest := some s.calls.length, ended := none }
  else { s with calls := calls }

def enter (i : Nat) : Section → Lifecycle
  | .starting => { s.moveTo i (.unlock (.hooks .serve)) with state := .starting }
  | .running => { s.moveTo i (.unlock (.hooks (.leave .nothing))) with state := .running }
  | .stopping =>
    let shutdownContext := s.shutdownContext.getD 0
    { s.moveTo i (.unlock (.hooks (.leave (.context shutdownContext)))) with
      shutdownContext := some shutdownContext
      state := .stopping }
  | .stopped => { s.moveTo i (.unlock (.hooks (.finish none))) with state := .stopped }
  | .crashed err ret =>
    { s.moveTo i (.unlock (.hooks (.finish ret))) with lastError := some err, state := .crashed }
  | .stop shutdownContext =>
    if s.state = .stopping ∨ s.state = .stopped ∨ s.state = .crashed then
      s.moveTo i (.unlock (.leave .nothing))
    else { s.moveTo i (.unlock .cancelRun) with shutdownContext := shutdownContext }
  | .wait =>
    if s.state = .crashed then s.moveTo i (.returned (.error s.lastError))
    else if s.state = .stopped then s.moveTo i (.returned (.error none))
    else s.moveTo i (.unlock (.block s.waitContext))
  | .shouldStop => s.moveTo i (.unlock (.leave (.bool s.cancelled)))
  | .register hook => { s.moveTo i (.unlock (.leave .nothing)) with hooks := s.hooks ++ [hook] }

def Next.point : Next → Point
  | hooks after => .hooks after
  | leave result => .returned result
  | cancelRun => .cancelRun
  | block waitContext => .block waitContext

def AfterHooks.point : AfterHooks → Point
  | serve => .serving
  | leave result => .returned result
  | finish ret => .cancelWait ret

def advance (i : Nat) : Point → Option Lifecycle
  | .resetError => some { s.moveTo i .makeContext with lastError := none }
  | .makeContext =>
    some { s.moveTo i (.lock .starting) with
      waitContext := some s.waitContexts
      waitContexts := s.waitContexts + 1 }
  | .lock sec =>
    if s.mutex = none then some { s.moveTo i (.held sec) with mutex := some i }
    else none
  | .held sec => some (s.enter i sec)
  | .unlock next => some { s.moveTo i next.point with mutex := none }
  | .hooks after => some (s.moveTo i after.point)
  | .serving => none
  | .cancelRun => some { s.moveTo i (.lock .wait) with cancelled := true }
  | .block waitContext =>
    if waitContext.all fun c => s.done.contains c then some (s.moveTo i .readError)
    else none
  | .readError => some (s.moveTo i (.returned (.error s.lastError)))
  | .cancelWait ret =>
    some { s.moveTo i (.returned (.error ret)) with done := s.waitContext.toList ++ s.done }
  | .returned _ => none

def paniced (value : String) : GoError := .plain ("service paniced (" ++ value ++ ")")

def serviceEnds (i : Nat) : ServiceEnd → Lifecycle
  | .returned none => { s.moveTo i (.lock .stopped) with ended := some (.returned none) }
  | .returned (some err) =>
    { s.moveTo i (.lock (.crashed err (some err))) with ended := some (.returned (some err)) }
  | .panicked value =>
    { s.moveTo i (.lock (.crashed (paniced value) none)) with ended := some (.panicked value) }

def step : Action → Option Lifecycle
  | .call method => some (s.begin method)
  | .advance i => (s.pointOf i).bind (s.advance i)
  | .serviceReturns i err =>
    if s.pointOf i = some .serving then some (s.serviceEnds i (.returned err))
    else none
  | .servicePanics i value =>
    if s.pointOf i = some .serving then some (s.serviceEnds i (.panicked value))
    else none

def lifecycles : TransitionSystem Lifecycle Action where
  init := {}
  step := step

def Point.holds : Point → Bool
  | held _ => true
  | unlock _ => true
  | _ => false

/-- What a step does to the mutex and to the point of the call that takes it. -/
inductive Moves (s : Lifecycle) (i : Nat) : Point → Option Nat → Point → Prop
  | locks (sec : Section) (hfree : s.mutex = none) : Moves s i (.lock sec) (some i) (.held sec)
  | works (sec : Section) (next : Next)
      (hwait : sec = .wait → s.state ≠ .crashed ∧ s.state ≠ .stopped) :
      Moves s i (.held sec) s.mutex (.unlock next)
  | leaks (result : Result) (hover : s.state = .crashed ∨ s.state = .stopped) :
      Moves s i (.held .wait) s.mutex (.returned result)
  | unlocks (next : Next) : Moves s i (.unlock next) none next.point
  | goesOn (point point' : Point) (hpoint : point.holds = false)
      (hpoint' : point'.holds = false) (hactive : point.isReturned = false)
      (hlock : ∀ sec, point ≠ .lock sec) : Moves s i point s.mutex point'

theorem Next.holds_point (next : Next) : next.point.holds = false := by
  cases next <;> rfl

theorem AfterHooks.holds_point (after : AfterHooks) : after.point.holds = false := by
  cases after <;> rfl

variable {t : Lifecycle} {i : Nat} {point : Point}

theorem moves_of_advance {s : Lifecycle} (hadvance : s.advance i point = some t) :
    ∃ point', Moves s i point t.mutex point' ∧ t.calls = (s.moveTo i point').calls := by
  cases point with
  | lock sec =>
    obtain ⟨hfree, ht⟩ := Option.ite_none_right_eq_some.mp hadvance
    cases ht
    exact ⟨_, .locks sec hfree, rfl⟩
  | held sec =>
    cases hadvance
    cases sec with
    | wait =>
      simp only [enter]
      split
      next hcrashed => exact ⟨_, .leaks _ (.inl hcrashed), rfl⟩
      split
      next hstopped => exact ⟨_, .leaks _ (.inr hstopped), rfl⟩
      next hcrashed hstopped => exact ⟨_, .works _ _ fun _ => ⟨hcrashed, hstopped⟩, rfl⟩
    | stop =>
      simp only [enter]
      split <;> exact ⟨_, .works _ _ (by simp), rfl⟩
    | _ => exact ⟨_, .works _ _ (by simp), rfl⟩
  | unlock next =>
    cases hadvance
    exact ⟨_, .unlocks next, rfl⟩
  | hooks after =>
    cases hadvance
    exact ⟨_, .goesOn _ _ rfl after.holds_point rfl (by simp), rfl⟩
  | block waitContext =>
    obtain ⟨-, ht⟩ := Option.ite_none_right_eq_some.mp hadvance
    cases ht
    exact ⟨_, .goesOn _ _ rfl rfl rfl (by simp), rfl⟩
  | serving | returned => cases hadvance
  | _ =>
    cases hadvance
    exact ⟨_, .goesOn _ _ rfl rfl rfl (by simp), rfl⟩

theorem step_advance {s : Lifecycle} (hpoint : s.pointOf i = some point) :
    s.step (.advance i) = s.advance i point := by
  simp [step, hpoint]

variable {action : Action}

theorem step_cases {s : Lifecycle} (hstep : s.step action = some t) :
    (∃ method, action = .call method ∧ t = s.begin method) ∨
      ∃ i point point', s.pointOf i = some point ∧
        Moves s i point t.mutex point' ∧ t.calls = (s.moveTo i point').calls ∧
        (action = .advance i ∨ point = .serving ∧ ∀ j, action ≠ .advance j) := by
  cases action with
  | call method =>
    cases hstep
    exact .inl ⟨method, rfl, rfl⟩
  | advance i =>
    obtain ⟨point, hpoint, hadvance⟩ := Option.bind_eq_some_iff.mp hstep
    obtain ⟨point', hmoves, hcalls⟩ := moves_of_advance hadvance
    exact .inr ⟨i, point, point', hpoint, hmoves, hcalls, .inl rfl⟩
  | serviceReturns i err =>
    obtain ⟨hpoint, ht⟩ := Option.ite_none_right_eq_some.mp hstep
    cases ht
    refine .inr ⟨i, .serving, ?_⟩
    have hother : ∀ j, Action.serviceReturns i err ≠ .advance j := by simp
    cases err <;> exact ⟨_, hpoint, .goesOn _ _ rfl rfl rfl (by simp), rfl, .inr ⟨rfl, hother⟩⟩
  | servicePanics i =>
    obtain ⟨hpoint, ht⟩ := Option.ite_none_right_eq_some.mp hstep
    cases ht
    exact .inr ⟨i, .serving, _, hpoint, .goesOn _ _ rfl rfl rfl (by simp), rfl, .inr ⟨rfl, by simp⟩⟩

theorem pointOf_moveTo (s : Lifecycle) (i j : Nat) (point : Point) : (s.moveTo i point).pointOf j =
      if i = j then (s.pointOf i).map fun _ => point else s.pointOf j := by
  simp only [pointOf, moveTo]
  by_cases hij : i = j
  · subst hij
    simp [Function.comp_def]
  · simp [hij]

theorem pointOf_of_calls {s : Lifecycle} {point' : Point} (hpoint : s.pointOf i = some point)
    (hcalls : t.calls = (s.moveTo i point').calls) (j : Nat) :
    t.pointOf j = if i = j then some point' else s.pointOf j := by
  have hmoved := s.pointOf_moveTo i j point'
  rw [hpoint] at hmoved
  rw [pointOf, hcalls, ← pointOf, hmoved]
  rfl

theorem calls_begin (s : Lifecycle) (method : Method) :
    (s.begin method).calls = s.calls ++ [⟨method, s.active, method.entry⟩] := by
  rw [begin]
  split <;> rfl

theorem mutex_begin (s : Lifecycle) (method : Method) : (s.begin method).mutex = s.mutex := by
  rw [begin]
  split <;> rfl

theorem pointOf_begin {s : Lifecycle} {method : Method}
    (hpoint : (s.begin method).pointOf i = some point) : s.pointOf i = some point ∨
      point.holds = false ∧ point.isReturned = false ∧ i = s.calls.length := by
  rw [pointOf, calls_begin] at hpoint
  obtain ⟨c, hc, rfl⟩ := Option.map_eq_some_iff.mp hpoint
  rcases ListBlocks.getElem?_append_singleton_eq_some.mp hc with
    hold | ⟨hi, rfl⟩
  · exact .inl (by rw [pointOf, hold]; rfl)
  · exact .inr ⟨by cases method <;> rfl, by cases method <;> rfl, hi⟩

theorem pointOf_begin_of_some {s : Lifecycle} (hpoint : s.pointOf i = some point)
    (method : Method) : (s.begin method).pointOf i = some point := by
  obtain ⟨c, hc, rfl⟩ := Option.map_eq_some_iff.mp hpoint
  have hlt : i < s.calls.length := (List.getElem?_eq_some_iff.mp hc).1
  rw [pointOf, calls_begin, List.getElem?_append_left hlt, hc]
  rfl

structure Consistent (s : Lifecycle) : Prop where
  holding : ∀ i point, s.pointOf i = some point → point.holds = true → s.mutex = some i
  holder : ∀ i, s.mutex = some i → ∃ point, s.pointOf i = some point ∧
    (point.holds = true ∨ point.isReturned = true)

theorem Consistent.mutex_ne {s : Lifecycle} (hs : s.Consistent)
    (hpoint : s.pointOf i = some point) (hholds : point.holds = false)
    (hactive : point.isReturned = false) : s.mutex ≠ some i := by
  intro hmutex
  obtain ⟨q, hq, hwhere⟩ := hs.holder i hmutex
  rw [hpoint] at hq
  cases hq
  simp [hholds, hactive] at hwhere

theorem Moves.mutex {s : Lifecycle} (hs : s.Consistent) {point' : Point}
    {mutex : Option Nat} (hpoint : s.pointOf i = some point)
    (hmoves : Moves s i point mutex point') :
    (mutex = some i ↔ point'.holds = true ∨ mutex = some i ∧ point'.isReturned = true) ∧
    ∀ j, j ≠ i → (mutex = some j ↔ s.mutex = some j) := by
  cases hmoves with
  | locks sec hfree =>
    refine ⟨by simp [Point.holds], fun j hj => ?_⟩
    rw [hfree]
    simp [Ne.symm hj]
  | works =>
    have hmutex := hs.holding i _ hpoint rfl
    exact ⟨by simp [Point.holds, hmutex], fun _ _ => Iff.rfl⟩
  | leaks => exact ⟨by simp [Point.holds, Point.isReturned], fun _ _ => Iff.rfl⟩
  | unlocks next =>
    have hmutex := hs.holding i _ hpoint rfl
    refine ⟨by simp [next.holds_point], fun j hj => ?_⟩
    rw [hmutex]
    simp [Ne.symm hj]
  | goesOn _ _ hholds hholds' hactive _ =>
    have hother := hs.mutex_ne hpoint hholds hactive
    exact ⟨by simp [hholds', hother], fun _ _ => Iff.rfl⟩

theorem Consistent.step {s : Lifecycle} (hs : s.Consistent)
    (hstep : s.step action = some t) : t.Consistent := by
  rcases step_cases hstep with
    ⟨method, -, rfl⟩ | ⟨i, point, point', hpoint, hmoves, hcalls, -⟩
  · constructor
    · intro j q hq hholds
      rw [mutex_begin]
      rcases pointOf_begin hq with hold | ⟨hnot, -, -⟩
      · exact hs.holding j q hold hholds
      · rw [hnot] at hholds
        cases hholds
    · intro j hj
      rw [mutex_begin] at hj
      obtain ⟨q, hq, hwhere⟩ := hs.holder j hj
      exact ⟨q, pointOf_begin_of_some hq method, hwhere⟩
  · obtain ⟨hown, hothers⟩ := hmoves.mutex hs hpoint
    have hpoints := pointOf_of_calls hpoint hcalls
    constructor
    · intro j q hq hholds
      rw [hpoints] at hq
      by_cases hij : i = j
      · subst hij
        rw [if_pos rfl, Option.some.injEq] at hq
        exact hown.mpr (.inl (hq ▸ hholds))
      · rw [if_neg hij] at hq
        exact (hothers j (Ne.symm hij)).mpr (hs.holding j q hq hholds)
    · intro j hj
      rw [hpoints]
      by_cases hij : i = j
      · subst hij
        rw [if_pos rfl]
        refine ⟨point', rfl, (hown.mp hj).imp_right And.right⟩
      · rw [if_neg hij]
        exact hs.holder j ((hothers j (Ne.symm hij)).mp hj)

theorem consistent_init : Consistent {} := ⟨fun _ _ h => (by cases h), fun _ h => (by cases h)⟩

theorem consistent_of_run {actions : List Action} {s : Lifecycle}
    (hrun : lifecycles.run actions = some s) : s.Consistent :=
  lifecycles.runFrom_invariant (fun _ _ _ hs hstep => hs.step hstep) consistent_init hrun

def Released (s : Lifecycle) : Prop :=
  ∀ i point, s.mutex = some i → s.pointOf i = some point → point.isReturned = false

/-- No `Wait` takes the lock once the service has crashed or stopped. -/
def WaitsInTime (s : Lifecycle) : Action → Prop
  | .advance i => s.pointOf i = some (.held .wait) → s.state ≠ .crashed ∧ s.state ≠ .stopped
  | _ => True

instance decidableWaitsInTime (s : Lifecycle) (action : Action) :
    Decidable (s.WaitsInTime action) := by
  induction action using Action.casesOn <;> unfold WaitsInTime <;> infer_instance

theorem released_step_iff {s : Lifecycle} (hs : s.Consistent)
    (hreleased : s.Released) (hstep : s.step action = some t) :
    t.Released ↔ s.WaitsInTime action := by
  rcases step_cases hstep with
    ⟨method, rfl, rfl⟩ | ⟨i, point, point', hpoint, hmoves, hcalls, hends⟩
  · refine iff_of_true (fun j q hj hq => ?_) trivial
    rw [mutex_begin] at hj
    rcases pointOf_begin hq with hold | ⟨-, hnot, -⟩
    · exact hreleased j q hj hold
    · exact hnot
  · obtain ⟨hown, hothers⟩ := hmoves.mutex hs hpoint
    have hpoints := pointOf_of_calls hpoint hcalls
    -- only the moving call can have become the one that has returned
    have hiff : t.Released ↔ (t.mutex = some i → point'.isReturned = false) := by
      constructor
      · intro h hi
        exact h i point' hi (by rw [hpoints, if_pos rfl])
      · intro h j q hj hq
        rw [hpoints] at hq
        by_cases hij : i = j
        · subst hij
          rw [if_pos rfl, Option.some.injEq] at hq
          exact hq ▸ h hj
        · rw [if_neg hij] at hq
          exact hreleased j q ((hothers j (Ne.symm hij)).mp hj) hq
    have hintime : s.WaitsInTime action ↔ (point = .held .wait →
        s.state ≠ .crashed ∧ s.state ≠ .stopped) := by
      rcases hends with rfl | ⟨rfl, hother⟩
      · rw [WaitsInTime, hpoint, Option.some.injEq]
      · cases action with
        | advance j => exact absurd rfl (hother j)
        | _ => simp [WaitsInTime]
    rw [hiff, hintime]
    generalize t.mutex = mutex at hmoves
    cases hmoves with
    | locks => simp [Point.isReturned]
    | works sec next hwait => exact iff_of_true (fun _ => rfl) fun h => hwait (Point.held.inj h)
    | leaks result hover =>
      have hmutex := hs.holding i _ hpoint rfl
      refine iff_of_false (fun h => ?_) fun h => ?_
      · cases h hmutex
      · exact hover.elim (h rfl).1 (h rfl).2
    | unlocks => simp
    | goesOn _ _ hholds hholds' hactive _ =>
      refine iff_of_true (fun hmutex => ?_) fun hwait => ?_
      · exact absurd hmutex (hs.mutex_ne hpoint hholds hactive)
      · rw [hwait] at hholds
        cases hholds

def CanUnlock (s : Lifecycle) (i : Nat) : Prop :=
  ∃ steps t, (∀ action ∈ steps, action = .advance i) ∧
    lifecycles.runFrom s steps = some t ∧ t.mutex = none

theorem canUnlock_of_unlock {s : Lifecycle} {next : Next}
    (hpoint : s.pointOf i = some (.unlock next)) : s.CanUnlock i := by
  refine ⟨[.advance i], { s.moveTo i next.point with mutex := none }, by simp, ?_, rfl⟩
  exact lifecycles.runFrom_cons_eq_some.mpr ⟨_, step_advance hpoint, rfl⟩

theorem Consistent.canUnlock {s : Lifecycle} (hs : s.Consistent)
    (hreleased : s.Released) (hmutex : s.mutex = some i)
    (hintime : s.WaitsInTime (.advance i)) : s.CanUnlock i := by
  obtain ⟨point, hpoint, hwhere⟩ := hs.holder i hmutex
  rw [hreleased i point hmutex hpoint] at hwhere
  cases point with
  | unlock => exact canUnlock_of_unlock hpoint
  | held sec =>
    -- the section, and then unlocking
    have henter : s.advance i (.held sec) = some (s.enter i sec) := rfl
    obtain ⟨point', hmoves, hcalls⟩ := moves_of_advance henter
    have hpoint' := pointOf_of_calls hpoint hcalls i
    rw [if_pos rfl] at hpoint'
    generalize (s.enter i sec).mutex = mutex at hmoves
    cases hmoves with
    | works _ next _ =>
      obtain ⟨steps, t, hsteps, hrun, ht⟩ := canUnlock_of_unlock hpoint'
      refine ⟨.advance i :: steps, t, ?_, ?_, ht⟩
      · exact List.forall_mem_cons.mpr ⟨rfl, hsteps⟩
      · exact lifecycles.runFrom_cons_eq_some.mpr ⟨_, step_advance hpoint, hrun⟩
    | leaks result hover => exact (hover.elim (hintime hpoint).1 (hintime hpoint).2).elim
    | goesOn _ _ hholds => cases hholds
  | _ => simp [Point.holds] at hwhere

/-- The call has returned with the lock. -/
def Leaked (s : Lifecycle) (i : Nat) : Prop :=
  s.mutex = some i ∧ ∃ result, s.pointOf i = some (.returned result)

theorem Leaked.step {s : Lifecycle} (hs : s.Consistent) (hleaked : s.Leaked i)
    (hstep : s.step action = some t) : t.Leaked i := by
  obtain ⟨hmutex, result, hreturned⟩ := hleaked
  rcases step_cases hstep with
    ⟨method, rfl, rfl⟩ | ⟨j, point, point', hpoint, hmoves, hcalls, -⟩
  · exact ⟨(mutex_begin s method).trans hmutex, result, pointOf_begin_of_some hreturned method⟩
  · have hji : j ≠ i := by
      rintro rfl
      rw [hpoint] at hreturned
      cases hreturned
      generalize t.mutex = mutex at hmoves
      cases hmoves with
      | goesOn _ _ _ _ hactive => cases hactive
    refine ⟨((hmoves.mutex hs hpoint).2 i (Ne.symm hji)).mpr hmutex, result, ?_⟩
    rw [pointOf_of_calls hpoint hcalls, if_neg hji, hreturned]

theorem Leaked.lock_step {s : Lifecycle} {j : Nat} {sec : Section}
    (hleaked : s.Leaked i) (hpoint : s.pointOf j = some (.lock sec))
    (hstep : s.step action = some t) : t.pointOf j = some (.lock sec) := by
  rcases step_cases hstep with
    ⟨method, rfl, rfl⟩ | ⟨k, point, point', hk, hmoves, hcalls, -⟩
  · exact pointOf_begin_of_some hpoint method
  · rw [pointOf_of_calls hk hcalls, if_neg, hpoint]
    rintro rfl
    rw [hk] at hpoint
    cases hpoint
    generalize t.mutex = mutex at hmoves
    cases hmoves with
    | locks _ hfree =>
      rw [hleaked.1] at hfree
      cases hfree
    | goesOn _ _ _ _ _ hlock => exact hlock sec rfl

theorem Leaked.runFrom {s : Lifecycle} {j : Nat} {sec : Section} (hs : s.Consistent)
    (hleaked : s.Leaked i) (hpoint : s.pointOf j = some (.lock sec))
    {more : List Action} (hrun : lifecycles.runFrom s more = some t) :
    t.pointOf j = some (.lock sec) := by
  have hstep : ∀ r action q, (r.Consistent ∧ r.Leaked i ∧ r.pointOf j = some (.lock sec)) →
      lifecycles.step r action = some q →
      q.Consistent ∧ q.Leaked i ∧ q.pointOf j = some (.lock sec) :=
    fun _ _ _ ⟨hr, hleaked, hpoint⟩ hstep =>
      ⟨hr.step hstep, hleaked.step hr hstep, hleaked.lock_step hpoint hstep⟩
  exact (lifecycles.runFrom_invariant hstep ⟨hs, hleaked, hpoint⟩ hrun).2.2

/-- Along a run no call returns with the mutex exactly if no `Wait` finds the
service over when it has locked it.  A call that is still there unlocks by its
own next steps, and one that is gone blocks all others for ever. -/
theorem mutex_released_iff {actions : List Action} {s : Lifecycle}
    (hrun : lifecycles.run actions = some s) :
    ((∀ first r, first <+: actions → lifecycles.run first = some r →
        r.Released) ↔ lifecycles.Meets WaitsInTime {} actions) ∧
    (∀ i, s.mutex = some i → s.Released → s.WaitsInTime (.advance i) → s.CanUnlock i) ∧
    ∀ i j sec, s.Leaked i → s.pointOf j = some (.lock sec) →
      ∀ more t, lifecycles.runFrom s more = some t → t.pointOf j = some (.lock sec) := by
  have hs := consistent_of_run hrun
  have hinit : Released {} := fun _ _ h => by cases h
  have hkeeps : ∀ r action t, Consistent r → lifecycles.step r action = some t →
      Consistent t := fun _ _ _ hr hstep => hr.step hstep
  refine ⟨?_, ?_, ?_⟩
  · exact lifecycles.forall_prefix_iff_meets hkeeps
      (fun r action t hr hreleased hstep => released_step_iff hr hreleased hstep)
      consistent_init hinit hrun
  · intro i hmutex hreleased hintime
    exact hs.canUnlock hreleased hmutex hintime
  · intro i j sec hleaked hpoint more t hmore
    exact hleaked.runFrom hs hpoint hmore

def waitedFor (ending : Action) : List Action :=
  [.call .run, .advance 0, .advance 0, .advance 0, .advance 0, .advance 0, .advance 0,
    .call .wait, .advance 1, .advance 1, .advance 1, ending, .advance 0, .advance 0,
    .advance 0, .advance 0, .advance 0, .advance 1, .advance 1]

theorem mutex_released_failure :
    ∃ s, lifecycles.run (waitedFor (.serviceReturns 0 (some (.plain "failed")))) = some s ∧
      s.pointOf 0 = some (.returned (.error (some (.plain "failed")))) ∧
      s.pointOf 1 = some (.returned (.error (some (.plain "failed")))) ∧ s.mutex = none ∧
      ∀ first r, first <+: waitedFor (.serviceReturns 0 (some (.plain "failed"))) →
        lifecycles.run first = some r → r.Released := by
  refine ⟨_, rfl, by decide, by decide, rfl, ?_⟩
  exact (mutex_released_iff rfl).1.mpr (by decide)

/-- `Wait` on a lifecycle that has not been started returns with the mutex, and
`Run` then waits for it, whatever happens. -/
theorem wait_before_run_blocks :
    ∃ s, lifecycles.run [.call .wait, .advance 0, .advance 0, .call .run,
        .advance 1, .advance 1] = some s ∧ s.pointOf 0 = some (.returned (.error none)) ∧
      s.pointOf 1 = some (.lock .starting) ∧ ¬ s.Released ∧
      ∀ more t, lifecycles.runFrom s more = some t → t.pointOf 1 = some (.lock .starting) := by
  refine lifecycles.exists_run (by decide) fun s hrun => ?_
  have hleaked : s.Leaked 0 ∧ s.pointOf 1 = some (.lock .starting) := by
    rw [← Option.some.inj hrun]
    exact ⟨⟨rfl, _, rfl⟩, rfl⟩
  obtain ⟨⟨hmutex, result, hwait⟩, hlock⟩ := hleaked
  refine ⟨by rw [← Option.some.inj hrun]; rfl, hlock, fun hreleased => ?_, fun more t hmore => ?_⟩
  · cases hreleased 0 _ hmutex hwait
  · exact Leaked.runFrom (consistent_of_run hrun) ⟨hmutex, result, hwait⟩ hlock hmore

end Lifecycle

end ContainerSSH.Service
