/-
The service pool.
-/
import ContainerSSH.Message
import ContainerSSH.PartialMap
import ContainerSSH.TransitionSystem

namespace ContainerSSH.Service

inductive State where
  | stopped
  | starting
  | running
  | stopping
  | crashed
deriving DecidableEq

inductive MemberPoint where
  | notStarted
  | working
  | changed (new : State)
  | switching (new : State)
  | triggering (new : State)
  | sending
  | finished
deriving DecidableEq

inductive StopPoint where
  | notStarted
  | examining
  | cancelling
  | checking
  | waiting
  | passedOver
  | returned
deriving DecidableEq

def StopPoint.isDone : StopPoint → Bool
  | passedOver | returned => true
  | _ => false

structure Member where
  state : State := .stopped
  cancelled : Bool := false
  error : Option GoError := none
  point : MemberPoint := .notStarted
  poolState : State := .stopped
  stop : StopPoint := .notStarted
  announced : Bool := false

def Member.ended (m : Member) : Bool :=
  m.point ≠ .notStarted && (m.state = .stopped || m.state = .crashed)

inductive MainPoint where
  | startup (received : Nat)
  | select
  | trigger (startedServices : Nat)
  | triggering (startedServices : Nat)
  | draining (startedServices : Nat)
  | returned (err : Option GoError)
deriving DecidableEq

structure Pool (n : Nat) where
  members : Fin n → Member := fun _ => {}
  startupComplete : Bool := false
  stopComplete : Nat := 0
  lastError : Option GoError := none
  stopping : Bool := false
  main : MainPoint := .startup 0
  dropped : Nat := 0
  triggerReturned : Bool := false

/-- The first five are the events of a service; `advance` takes it through the
handler of its last event. -/
inductive PoolAction (n : Nat) where
  | start (i : Fin n)
  | running (i : Fin n)
  | stopping (i : Fin n)
  | stop (i : Fin n)
  | crash (i : Fin n) (err : GoError)
  | advance (i : Fin n)
  | stopService (i : Fin n)
  | receiveStartup
  | receiveStop
  | contextDone
  | main
deriving DecidableEq

namespace Pool

variable {n : Nat} (s : Pool n)

def set (i : Fin n) (m : Member) : Pool n :=
  { s with members := fun j => if j = i then m else s.members j }

def change (i : Fin n) (new : State) : Pool n :=
  s.set i { s.members i with state := new, point := .changed new }

def stopAll : Pool n :=
  { s with stopping := true, members := fun j => { s.members j with stop := .examining } }

def allStopped : Bool := decide (∀ j, (s.members j).stop.isDone = true)

def afterTrigger : State → MemberPoint
  | .stopped | .crashed => .sending
  | _ => .working

def triggerStop (i : Fin n) (new : State) : Pool n :=
  if s.stopping then
    { s.set i { s.members i with point := afterTrigger new } with
      triggerReturned := true }
  else s.stopAll.set i
    { s.members i with point := .triggering new, stop := .examining }

def afterHandler : State → MemberPoint
  | .stopped | .crashed => .finished
  | _ => .working

def advance (i : Fin n) : Option (Pool n) :=
  let m := s.members i
  match m.point with
  | .changed new =>
    if m.poolState = new then some (s.set i { m with point := afterHandler new })
    else some (s.set i { m with poolState := new, point := .switching new })
  | .switching .starting => some (s.set i { m with point := .working })
  | .switching .running =>
    -- the send is left out if the channel is full
    some { s.set i { m with point := .working, announced := true } with
      startupComplete := true
      dropped := if s.startupComplete then s.dropped + 1 else s.dropped }
  | .switching .crashed => some ({ s with lastError := m.error }.triggerStop i .crashed)
  | .switching new => some (s.triggerStop i new)
  | .triggering new =>
    if s.allStopped then
      some { s.set i { m with point := afterTrigger new } with
        triggerReturned := true }
    else none
  | .sending =>
    if s.stopComplete < n then
      some { s.set i { m with point := .finished } with
        stopComplete := s.stopComplete + 1 }
    else none
  | .notStarted | .working | .finished => none

def stopService (i : Fin n) : Option (Pool n) :=
  let m := s.members i
  match m.stop with
  | .examining =>
    if m.state = .stopping ∨ m.state = .stopped ∨ m.state = .crashed then
      some (s.set i { m with stop := .passedOver })
    else some (s.set i { m with stop := .cancelling })
  | .cancelling => some (s.set i { m with cancelled := true, stop := .checking })
  | .checking =>
    if m.state = .crashed ∨ m.state = .stopped then some (s.set i { m with stop := .returned })
    else some (s.set i { m with stop := .waiting })
  | .waiting =>
    if m.point = .finished then some (s.set i { m with stop := .returned })
    else none
  | .notStarted | .passedOver | .returned => none

def receiveStop : Option (Pool n) :=
  if s.stopComplete = 0 then none
  else
    let received (point : MainPoint) : Option (Pool n) :=
      some { s with stopComplete := s.stopComplete - 1, main := point }
    match s.main with
    | .startup k => if k < n then received (.trigger (n - 1)) else none
    | .select => received (.draining (n - 1))
    | .draining (k + 1) => received (.draining k)
    | _ => none

def mainStep : Option (Pool n) :=
  match s.main with
  | .startup k => if k = n then some { s with main := .select } else none
  | .trigger k =>
    if s.stopping then some { s with main := .draining k, triggerReturned := true }
    else some { s.stopAll with main := .triggering k }
  | .triggering k =>
    if s.allStopped then some { s with main := .draining k, triggerReturned := true }
    else none
  | .draining 0 => some { s with main := .returned s.lastError }
  | _ => none

def step : PoolAction n → Option (Pool n)
  | .start i =>
    if (s.members i).point = .notStarted then
      some (s.set i { s.members i with
        state := .starting, error := none, point := .changed .starting })
    else none
  | .running i => if (s.members i).point = .working then some (s.change i .running) else none
  | .stopping i =>
    if (s.members i).point = .working then some (s.change i .stopping)
    else none
  | .stop i => if (s.members i).point = .working then some (s.change i .stopped) else none
  | .crash i err =>
    if (s.members i).point = .working then
      some (s.set i { s.members i with
        state := .crashed, error := some err, point := .changed .crashed })
    else none
  | .advance i => s.advance i
  | .stopService i => s.stopService i
  | .receiveStartup =>
    match s.main with
    | .startup k =>
      if k < n ∧ s.startupComplete then
        some { s with startupComplete := false, main := .startup (k + 1) }
      else none
    | _ => none
  | .receiveStop => s.receiveStop
  | .contextDone => if s.main = .select then some { s with main := .trigger n } else none
  | .main => s.mainStep

end Pool

def pool (n : Nat) : TransitionSystem (Pool n) (PoolAction n) where
  init := {}
  step := Pool.step

/-- The steps that concern one service and its `Stop` only. -/
inductive LocalStep (m : Member) : Member → Prop
  | start (hpoint : m.point = .notStarted) : LocalStep m { m with
        state := .starting, error := none, point := .changed .starting }
  | change (new : State) (hpoint : m.point = .working)
      (hnew : new = .running ∨ new = .stopping ∨ new = .stopped) :
      LocalStep m { m with state := new, point := .changed new }
  | crash (err : GoError) (hpoint : m.point = .working) : LocalStep m { m with
        state := .crashed, error := some err, point := .changed .crashed }
  | ignored (new : State) (hpoint : m.point = .changed new) (hsame : m.poolState = new) :
      LocalStep m { m with point := Pool.afterHandler new }
  | noted (new : State) (hpoint : m.point = .changed new) (hdiffers : m.poolState ≠ new) :
      LocalStep m { m with poolState := new, point := .switching new }
  | begun (hpoint : m.point = .switching .starting) : LocalStep m { m with point := .working }
  | passedOver (hstop : m.stop = .examining)
      (hstate : m.state = .stopping ∨ m.state = .stopped ∨ m.state = .crashed) :
      LocalStep m { m with stop := .passedOver }
  | found (hstop : m.stop = .examining) (hstate : ¬ (m.state = .stopping ∨ m.state = .stopped ∨
        m.state = .crashed)) : LocalStep m { m with stop := .cancelling }
  | cancelled (hstop : m.stop = .cancelling) :
      LocalStep m { m with cancelled := true, stop := .checking }
  | waits (hstop : m.stop = .checking) : LocalStep m { m with stop := .waiting }
  | returned (hstop : m.stop = .checking ∨ m.stop = .waiting) :
      LocalStep m { m with stop := .returned }

namespace Pool

variable {n : Nat} {s t : Pool n} {action : PoolAction n}

def errorAfter (s : Pool n) (i : Fin n) (new : State) : Option GoError :=
  if new = .crashed then (s.members i).error else s.lastError

def Stops (new : State) : Prop := new = .stopping ∨ new = .stopped ∨ new = .crashed

inductive Does (s : Pool n) : PoolAction n → Pool n → Prop
  | member (action : PoolAction n) (i : Fin n) (m : Member) (hlocal : LocalStep (s.members i) m)
      (hstop : m.stop = (s.members i).stop ∨ action = .stopService i) : Does s action (s.set i m)
  | announces (i : Fin n) (hpoint : (s.members i).point = .switching .running) :
      Does s (.advance i) { s.set i { s.members i with point := .working, announced := true } with
        startupComplete := true
        dropped := if s.startupComplete then s.dropped + 1 else s.dropped }
  | joins (i : Fin n) (new : State) (hnew : Stops new)
      (hpoint : (s.members i).point = .switching new) (hstopping : s.stopping = true) :
      Does s (.advance i) { s.set i { s.members i with point := afterTrigger new } with
        lastError := s.errorAfter i new
        triggerReturned := true }
  | triggers (i : Fin n) (new : State) (hnew : Stops new)
      (hpoint : (s.members i).point = .switching new) (hstopping : s.stopping = false) :
      Does s (.advance i) { s.stopAll.set i { s.members i with
          point := .triggering new, stop := .examining } with
        lastError := s.errorAfter i new }
  | triggered (i : Fin n) (new : State) (hpoint : (s.members i).point = .triggering new)
      (hall : s.allStopped = true) : Does s (.advance i) { s.set i
          { s.members i with point := afterTrigger new } with
        triggerReturned := true }
  | sends (i : Fin n) (hpoint : (s.members i).point = .sending) (hroom : s.stopComplete < n) :
      Does s (.advance i) { s.set i { s.members i with point := .finished } with
        stopComplete := s.stopComplete + 1 }
  | receivesStartup (k : Nat) (hmain : s.main = .startup k) (hk : k < n)
      (hfull : s.startupComplete = true) : Does s .receiveStartup { s with
        startupComplete := false, main := .startup (k + 1) }
  | receivesFirstStop (k : Nat) (hmain : s.main = .startup k) (hk : k < n)
      (htoken : s.stopComplete ≠ 0) : Does s .receiveStop { s with
        stopComplete := s.stopComplete - 1, main := .trigger (n - 1) }
  | receivesStopRunning (hmain : s.main = .select) (htoken : s.stopComplete ≠ 0) :
      Does s .receiveStop { s with stopComplete := s.stopComplete - 1, main := .draining (n - 1) }
  | receivesStop (k : Nat) (hmain : s.main = .draining (k + 1)) (htoken : s.stopComplete ≠ 0) :
      Does s .receiveStop { s with stopComplete := s.stopComplete - 1, main := .draining k }
  | contextDone (hmain : s.main = .select) : Does s .contextDone { s with main := .trigger n }
  | reports (hmain : s.main = .startup n) : Does s .main { s with main := .select }
  | mainJoins (k : Nat) (hmain : s.main = .trigger k) (hstopping : s.stopping = true) :
      Does s .main { s with main := .draining k, triggerReturned := true }
  | mainTriggers (k : Nat) (hmain : s.main = .trigger k) (hstopping : s.stopping = false) :
      Does s .main { s.stopAll with main := .triggering k }
  | mainTriggered (k : Nat) (hmain : s.main = .triggering k) (hall : s.allStopped = true) :
      Does s .main { s with main := .draining k, triggerReturned := true }
  | returns (hmain : s.main = .draining 0) : Does s .main { s with main := .returned s.lastError }

theorem does_triggerStop {i : Fin n} {new : State} (hnew : Stops new)
    (hpoint : (s.members i).point = .switching new) : Does s (.advance i)
      ({ s with lastError := s.errorAfter i new }.triggerStop i new) := by
  unfold triggerStop
  split
  · next hstopping => exact .joins i new hnew hpoint hstopping
  · next hstopping => exact .triggers i new hnew hpoint (Bool.not_eq_true _ ▸ hstopping)

theorem does_advance {i : Fin n} (hstep : s.advance i = some t) : Does s (.advance i) t := by
  simp only [advance] at hstep
  split at hstep
  · next new hpoint =>
      split at hstep <;> cases hstep
      · next hsame => exact .member _ i _ (.ignored new hpoint hsame) (.inl rfl)
      · next hdiffers => exact .member _ i _ (.noted new hpoint hdiffers) (.inl rfl)
  · next hpoint =>
      cases hstep
      exact .member _ i _ (.begun hpoint) (.inl rfl)
  · next hpoint =>
      cases hstep
      exact .announces i hpoint
  · next hpoint =>
      cases hstep
      exact does_triggerStop (.inr (.inr rfl)) hpoint
  · next new hstarting hrunning hcrashed hpoint =>
      cases hstep
      cases new with
      | starting => exact absurd rfl hstarting
      | running => exact absurd rfl hrunning
      | crashed => exact absurd rfl hcrashed
      | stopping => exact does_triggerStop (.inl rfl) hpoint
      | stopped => exact does_triggerStop (.inr (.inl rfl)) hpoint
  · next new hpoint =>
      split at hstep <;> cases hstep
      next hall => exact .triggered i new hpoint hall
  · next hpoint =>
      split at hstep <;> cases hstep
      next hroom => exact .sends i hpoint hroom
  all_goals cases hstep

theorem does_stopService {i : Fin n} (hstep : s.stopService i = some t) :
    Does s (.stopService i) t := by
  simp only [stopService] at hstep
  split at hstep
  · next hstop =>
      split at hstep <;> cases hstep
      · next hstate => exact .member _ i _ (.passedOver hstop hstate) (.inr rfl)
      · next hstate => exact .member _ i _ (.found hstop hstate) (.inr rfl)
  · next hstop =>
      cases hstep
      exact .member _ i _ (.cancelled hstop) (.inr rfl)
  · next hstop =>
      split at hstep <;> cases hstep
      · exact .member _ i _ (.returned (.inl hstop)) (.inr rfl)
      · exact .member _ i _ (.waits hstop) (.inr rfl)
  · next hstop =>
      split at hstep <;> cases hstep
      exact .member _ i _ (.returned (.inr hstop)) (.inr rfl)
  all_goals cases hstep

theorem does_receiveStop (hstep : s.receiveStop = some t) : Does s .receiveStop t := by
  simp only [receiveStop] at hstep
  split at hstep
  · cases hstep
  · next htoken =>
      split at hstep
      · next k hmain =>
          split at hstep <;> cases hstep
          next hk => exact .receivesFirstStop k hmain hk htoken
      · next hmain =>
          cases hstep
          exact .receivesStopRunning hmain htoken
      · next k hmain =>
          cases hstep
          exact .receivesStop k hmain htoken
      · cases hstep

theorem does_mainStep (hstep : s.mainStep = some t) : Does s .main t := by
  simp only [mainStep] at hstep
  split at hstep
  · next k hmain =>
      split at hstep <;> cases hstep
      next hk => exact .reports (hk ▸ hmain)
  · next k hmain =>
      split at hstep <;> cases hstep
      · next hstopping => exact .mainJoins k hmain hstopping
      · next hstopping => exact .mainTriggers k hmain (Bool.not_eq_true _ ▸ hstopping)
  · next k hmain =>
      split at hstep <;> cases hstep
      next hall => exact .mainTriggered k hmain hall
  · next hmain =>
      cases hstep
      exact .returns hmain
  · cases hstep

theorem does_of_step (hstep : s.step action = some t) : Does s action t := by
  cases action with
  | start i =>
    obtain ⟨hpoint, ⟨⟩⟩ := Option.ite_none_right_eq_some.mp hstep
    exact .member _ i _ (.start hpoint) (.inl rfl)
  | running i =>
    obtain ⟨hpoint, ⟨⟩⟩ := Option.ite_none_right_eq_some.mp hstep
    exact .member _ i _ (.change .running hpoint (.inl rfl)) (.inl rfl)
  | stopping i =>
    obtain ⟨hpoint, ⟨⟩⟩ := Option.ite_none_right_eq_some.mp hstep
    exact .member _ i _ (.change .stopping hpoint (.inr (.inl rfl))) (.inl rfl)
  | stop i =>
    obtain ⟨hpoint, ⟨⟩⟩ := Option.ite_none_right_eq_some.mp hstep
    exact .member _ i _ (.change .stopped hpoint (.inr (.inr rfl))) (.inl rfl)
  | crash i err =>
    obtain ⟨hpoint, ⟨⟩⟩ := Option.ite_none_right_eq_some.mp hstep
    exact .member _ i _ (.crash err hpoint) (.inl rfl)
  | advance => exact does_advance hstep
  | stopService => exact does_stopService hstep
  | receiveStartup =>
    simp only [step] at hstep
    split at hstep
    · next k hmain =>
        split at hstep <;> cases hstep
        next hk => exact .receivesStartup k hmain hk.1 hk.2
    · cases hstep
  | receiveStop => exact does_receiveStop hstep
  | contextDone =>
    obtain ⟨hmain, ⟨⟩⟩ := Option.ite_none_right_eq_some.mp hstep
    exact .contextDone hmain
  | main => exact does_mainStep hstep

end Pool

namespace Member

def PointOk (m : Member) : Prop :=
  match m.point with
  | .notStarted => m.state = .stopped ∧ m.poolState = .stopped
  | .working => m.poolState = m.state ∧
      (m.state = .starting ∨ m.state = .running ∨ m.state = .stopping)
  | .changed .starting => m.state = .starting ∧ m.poolState = .stopped
  | .changed new => m.state = new ∧ (m.poolState = .starting ∨
      m.poolState = .running ∨ m.poolState = .stopping)
  | .switching new => m.state = new ∧ m.poolState = new
  | .triggering new => m.state = new ∧ m.poolState = new ∧ Pool.Stops new
  | .sending | .finished => m.poolState = m.state ∧ (m.state = .stopped ∨ m.state = .crashed)

/-- How far a member is while the pool does not stop. -/
structure Calm (m : Member) : Prop where
  fresh : m.point = .switching .running → m.announced = false
  stopping : m.poolState = .stopping → m.point = .switching .stopping
  triggering : ∀ new, m.point ≠ .triggering new
  sending : m.point ≠ .sending
  finished : m.point ≠ .finished

structure Ok (stopping : Bool) (m : Member) : Prop where
  point : m.PointOk
  early : m.point = .notStarted ∨ m.point = .changed .starting ∨
    m.poolState = .starting → m.announced = false
  running : m.poolState = .running → m.point = .switching .running ∨ m.announced = true
  error : m.error.isSome = true ↔ m.state = .crashed
  cancelled : m.cancelled = true ↔ m.stop = .checking ∨ m.stop = .waiting ∨ m.stop = .returned
  stop : m.stop = .notStarted ↔ stopping = false
  calm : stopping = false → m.Calm

variable {stopping : Bool} {m m' : Member}

theorem PointOk.local (hpoint : m.PointOk) (hstep : LocalStep m m') :
    m'.PointOk := by
  cases hstep <;> grind [PointOk, Pool.afterHandler]

theorem Ok.calm_local (hm : m.Ok stopping) (hstopping : stopping = false)
    (hstep : LocalStep m m') : m'.Calm := by
  have hpoint := hm.point
  have hearly := hm.early
  obtain ⟨hfresh, hpool, htriggering, hsending, hfinished⟩ := hm.calm hstopping
  cases hstep <;> constructor <;> grind [PointOk, Pool.afterHandler]

theorem Ok.local (hm : m.Ok stopping) (hstep : LocalStep m m') : m'.Ok stopping where
  point := hm.point.local hstep
  early := by
    have hpoint := hm.point
    have hearly := hm.early
    cases hstep <;> grind [PointOk, Pool.afterHandler]
  running := by
    have hrunning := hm.running
    cases hstep <;> grind [PointOk]
  error := by
    have hpoint := hm.point
    have herror := hm.error
    cases hstep <;> grind [PointOk]
  cancelled := by
    have hcancelled := hm.cancelled
    cases hstep <;> grind
  stop := by
    have hstop := hm.stop
    cases hstep <;> grind
  calm := fun hstopping => hm.calm_local hstopping hstep

theorem Ok.announce (hm : m.Ok stopping) (hp : m.point = .switching .running) :
    Ok stopping { m with point := .working, announced := true } := by
  have hpoint := hm.point
  simp only [PointOk, hp] at hpoint
  exact {
    point := by simp [PointOk, hpoint]
    early := by simp [hpoint]
    running := fun _ => .inr rfl
    error := hm.error
    cancelled := hm.cancelled
    stop := hm.stop
    calm := fun _ => by constructor <;> simp [hpoint] }

theorem Ok.afterTrigger (hm : m.Ok stopping) (hstopping : stopping = true)
    {new : State} (hnew : Pool.Stops new)
    (hp : m.point = .switching new ∨ m.point = .triggering new) :
    Ok stopping { m with point := Pool.afterTrigger new } := by
  have hpoint := hm.point
  have hstate : m.state = new ∧ m.poolState = new := by
    rcases hp with hp | hp <;> simp only [PointOk, hp] at hpoint
    · exact hpoint
    · exact ⟨hpoint.1, hpoint.2.1⟩
  obtain ⟨hstate, hpool⟩ := hstate
  refine ⟨?_, ?_, ?_, hm.error, hm.cancelled, hm.stop, by simp [hstopping]⟩
  · rcases hnew with rfl | rfl | rfl <;>
      simp [PointOk, Pool.afterTrigger, hstate, hpool]
  · rcases hnew with rfl | rfl | rfl <;> simp [Pool.afterTrigger, hpool]
  · rcases hnew with rfl | rfl | rfl <;> simp [hpool]

theorem Ok.stopAll (hm : m.Ok false) : Ok true { m with stop := .examining } where
  point := hm.point
  early := hm.early
  running := hm.running
  error := hm.error
  cancelled := by
    have hcancelled := hm.cancelled
    rw [hm.stop.mpr rfl] at hcancelled
    simpa using hcancelled
  stop := by simp
  calm := by simp

theorem Ok.trigger (hm : m.Ok true) {new : State} (hnew : Pool.Stops new)
    (hp : m.point = .switching new) : Ok true { m with point := .triggering new } := by
  have hpoint := hm.point
  simp only [PointOk, hp] at hpoint
  obtain ⟨hstate, hpool⟩ := hpoint
  refine ⟨?_, ?_, ?_, hm.error, hm.cancelled, hm.stop, by simp⟩
  · simp [PointOk, hstate, hpool, hnew]
  · rcases hnew with rfl | rfl | rfl <;> simp [hpool]
  · rcases hnew with rfl | rfl | rfl <;> simp [hpool]

theorem Ok.send (hm : m.Ok stopping) (hp : m.point = .sending) :
    Ok stopping { m with point := .finished } := by
  have hpoint := hm.point
  simp only [PointOk, hp] at hpoint
  obtain ⟨hpool, hstate⟩ := hpoint
  refine ⟨⟨hpool, hstate⟩, ?_, ?_, hm.error, hm.cancelled, hm.stop, ?_⟩
  · rcases hstate with hstate | hstate <;> simp [hpool, hstate]
  · rcases hstate with hstate | hstate <;> simp [hpool, hstate]
  · exact fun hstopping => absurd hp (hm.calm hstopping).sending

end Member

namespace Pool

variable {n : Nat} {s t : Pool n} {action : PoolAction n}

def Ok (s : Pool n) : Prop := ∀ i, (s.members i).Ok s.stopping

theorem forall_set {P : Member → Prop} {i : Fin n} {m : Member}
    (hold : ∀ j, P (s.members j)) (hnew : P m) (j : Fin n) : P ((s.set i m).members j) := by
  by_cases hj : j = i
  · simpa [set, hj] using hnew
  · simpa [set, hj] using hold j

theorem Ok.stopping_of_triggering (hs : s.Ok) {i : Fin n} {new : State}
    (hpoint : (s.members i).point = .triggering new) : s.stopping = true := by
  by_contra hcalm
  exact ((hs i).calm (Bool.not_eq_true _ ▸ hcalm)).triggering new hpoint

theorem Ok.does (hs : s.Ok) (hdoes : Does s action t) : t.Ok := by
  cases hdoes with
  | member action i m hlocal => exact forall_set hs ((hs i).local hlocal)
  | announces i hpoint => exact forall_set hs ((hs i).announce hpoint)
  | joins i new hnew hpoint hstopping =>
    exact forall_set hs ((hs i).afterTrigger hstopping hnew (.inl hpoint))
  | triggers i new hnew hpoint hstopping =>
    have hstopped : ∀ j, ({ s.members j with stop := .examining } : Member).Ok
        true := by
      intro j
      have hj := hs j
      rw [hstopping] at hj
      exact hj.stopAll
    exact forall_set (s := s.stopAll) hstopped ((hstopped i).trigger hnew hpoint)
  | triggered i new hpoint =>
    have hi := hs i
    have hnew : Stops new := by
      have hok := hi.point
      simp only [Member.PointOk, hpoint] at hok
      exact hok.2.2
    have hstopping := hs.stopping_of_triggering hpoint
    exact forall_set hs (hi.afterTrigger hstopping hnew (.inr hpoint))
  | sends i hpoint => exact forall_set hs ((hs i).send hpoint)
  | mainTriggers k hmain hstopping =>
    intro j
    have hj := hs j
    rw [hstopping] at hj
    exact hj.stopAll
  | _ => exact hs

theorem ok_init : (pool n).init.Ok := by
  intro i
  exact {
    point := ⟨rfl, rfl⟩
    early := fun _ => rfl
    running := by simp [pool]
    error := by simp [pool]
    cancelled := by simp [pool]
    stop := by simp [pool]
    calm := fun _ => by constructor <;> simp [pool] }

theorem ok_of_reachable (hs : (pool n).Reachable s) : s.Ok :=
  hs.invariant ok_init fun _ _ _ hok hstep => hok.does (does_of_step hstep)

theorem runFrom_of_does {P : Pool n → Prop} (hdoes : ∀ s a t, s.Ok → P s → Does s a t → P t)
    {actions : List (PoolAction n)} (hs : (pool n).Reachable s) (hinv : P s)
    (hrun : (pool n).runFrom s actions = some t) : P t := by
  have hstep : ∀ s a t, (pool n).Reachable s → P s → (pool n).step s a = some t → P t :=
    fun s a t hs hinv hstep =>
      hdoes s a t (ok_of_reachable hs) hinv (does_of_step hstep)
  exact hs.runFrom_invariant hstep hinv hrun

theorem reachable_of_does {P : Pool n → Prop}
    (hdoes : ∀ s a t, s.Ok → P s → Does s a t → P t) (hinit : P (pool n).init)
    (hs : (pool n).Reachable s) : P s := by
  obtain ⟨actions, hrun⟩ := hs
  exact runFrom_of_does hdoes (pool n).reachable_init hinit hrun

noncomputable def count (s : Pool n) (p : Member → Bool) : Nat :=
  PartialMap.count p fun i => some (s.members i)

theorem count_set (s : Pool n) (p : Member → Bool) (i : Fin n) (m : Member) :
    ((s.set i m).count p : Int) = s.count p - (p (s.members i)).toNat + (p m).toNat := by
  have hupdate := @PartialMap.count_update (Fin n) Member _ p
    (fun j => some (s.members j)) (fun j => some ((s.set i m).members j)) i
    (fun j hj => by simp [set, hj])
  simpa [count, set] using hupdate

theorem count_set_of_eq (s : Pool n) {p : Member → Bool} {i : Fin n}
    {m : Member} (hm : p m = p (s.members i)) : (s.set i m).count p = s.count p := by
  have hcount := s.count_set p i m
  rw [hm] at hcount
  omega

theorem count_le (s : Pool n) (p : Member → Bool) : s.count p ≤ n := by
  simpa [count] using @PartialMap.count_le_card (Fin n) Member _ p fun j => some (s.members j)

theorem count_eq_iff (s : Pool n) (p : Member → Bool) :
    s.count p = n ↔ ∀ i, p (s.members i) = true := by
  simpa [count] using @PartialMap.count_eq_card_iff (Fin n) Member _ p fun j => some (s.members j)

theorem count_ne_zero_iff (s : Pool n) (p : Member → Bool) :
    s.count p ≠ 0 ↔ ∃ i, p (s.members i) = true := by
  rw [count, Ne, PartialMap.count_eq_zero_iff]
  simp

end Pool

end ContainerSSH.Service
