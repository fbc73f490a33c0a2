/-
The end of a service pool.
-/
import ContainerSSH.ServicePool

namespace ContainerSSH.Service

def Member.isFinished (m : Member) : Bool := m.point = .finished

def Member.reported (m : Member) : Bool :=
  m.state = .crashed && m.point ≠ .changed .crashed && m.point ≠ .switching .crashed

def MainPoint.outstanding (n : Nat) : MainPoint → Nat
  | startup _ | select => n
  | trigger k | triggering k | draining k => k
  | returned _ => 0

def StopPoint.isDecided : StopPoint → Bool
  | examining | cancelling => false
  | _ => true

namespace Member

variable {m m' : Member}

theorem isFinished_local (hm : m.PointOk) (hstep : LocalStep m m') :
    m'.isFinished = m.isFinished := by
  cases hstep <;> grind [PointOk, isFinished, Pool.afterHandler]

theorem reported_local (hm : m.PointOk) (hstep : LocalStep m m') : m'.reported = m.reported := by
  cases hstep <;> grind [PointOk, reported]

theorem reported_switching {new : State} (hm : m.PointOk)
    (hpoint : m.point = .switching new) {point : MemberPoint}
    (hafter : point = Pool.afterTrigger new ∨ point = .triggering new) : m.reported = false ∧
      { m with point := point }.reported = decide (new = .crashed) := by
  simp only [PointOk, hpoint] at hm
  rcases hafter with rfl | rfl <;>
    cases new <;> simp [reported, Pool.afterTrigger, hm, hpoint]

end Member

namespace Pool

variable {n : Nat} {s t : Pool n} {action : PoolAction n}

structure Drained (s : Pool n) : Prop where
  tokens : s.stopComplete + n = s.main.outstanding n + s.count Member.isFinished
  bounded : s.main.outstanding n ≤ n
  error : s.lastError.isSome = true ↔ s.count Member.reported ≠ 0
  result : ∀ err, s.main = .returned err → err = s.lastError

theorem count_switch {i : Fin n} {new : State} (hok : (s.members i).PointOk)
    (hpoint : (s.members i).point = .switching new) {point : MemberPoint}
    (hafter : point = afterTrigger new ∨ point = .triggering new) :
    (s.set i { s.members i with point := point }).count Member.isFinished =
        s.count Member.isFinished ∧
      (s.set i { s.members i with point := point }).count Member.reported =
        s.count Member.reported + (decide (new = .crashed)).toNat := by
  constructor
  · apply count_set_of_eq
    rcases hafter with rfl | rfl <;>
      cases new <;> simp [Member.isFinished, afterTrigger, hpoint]
  · obtain ⟨hold, hnew⟩ := Member.reported_switching hok hpoint hafter
    have hcount := s.count_set Member.reported i { s.members i with point := point }
    rw [hold, hnew, Bool.toNat_false] at hcount
    omega

theorem Drained.not_returned (hs : s.Drained) {i : Fin n}
    (hi : (s.members i).point ≠ .finished) (err : Option GoError) : s.main ≠ .returned err := by
  intro hreturned
  have htokens := hs.tokens
  have hle := s.count_le Member.isFinished
  rw [hreturned, MainPoint.outstanding] at htokens
  have hall := (s.count_eq_iff Member.isFinished).mp (by omega) i
  simp [Member.isFinished, hi] at hall

theorem Drained.switch (hs : s.Drained) (hok : s.Ok) {i : Fin n} {new : State}
    (hpoint : (s.members i).point = .switching new) {r : Pool n}
    (hfinished : r.count Member.isFinished = s.count Member.isFinished)
    (hreported : r.count Member.reported =
      s.count Member.reported + (decide (new = .crashed)).toNat)
    (hmain : r.main = s.main) (hstop : r.stopComplete = s.stopComplete)
    (herror : r.lastError = s.errorAfter i new) : r.Drained := by
  refine ⟨?_, ?_, ?_, ?_⟩
  · rw [hstop, hmain, hfinished]
    exact hs.tokens
  · rw [hmain]
    exact hs.bounded
  · rw [herror, errorAfter, hreported]
    by_cases hnew : new = .crashed
    · have hstate := (hok i).point
      simp only [Member.PointOk, hpoint, hnew] at hstate
      simp [hnew, (hok i).error.mpr hstate.1]
    · simp [hnew, hs.error]
  · intro err hreturned
    rw [hmain] at hreturned
    have hrunning : (s.members i).point ≠ .finished := by simp [hpoint]
    exact absurd hreturned (hs.not_returned hrunning err)

theorem Drained.go (hs : s.Drained) {i : Fin n} {m : Member}
    (hfinished : m.isFinished = (s.members i).isFinished)
    (hreported : m.reported = (s.members i).reported) : (s.set i m).Drained where
  tokens := by
    rw [count_set_of_eq s hfinished]
    exact hs.tokens
  bounded := hs.bounded
  error := by
    rw [count_set_of_eq s hreported]
    exact hs.error
  result := hs.result

theorem Drained.does (hs : s.Drained) (hok : s.Ok) (hdoes : Does s action t) :
    t.Drained := by
  have hle := s.count_le Member.isFinished
  have htokens := hs.tokens
  have hbounded := hs.bounded
  cases hdoes with
  | member action i m hlocal hstop =>
    have hpoint := (hok i).point
    exact hs.go (Member.isFinished_local hpoint hlocal) (Member.reported_local hpoint hlocal)
  | announces i hpoint =>
    have hstate := (hok i).point
    simp only [Member.PointOk, hpoint] at hstate
    have hgo : (s.set i { s.members i with point := .working, announced := true }).Drained :=
      hs.go (by simp [Member.isFinished, hpoint]) (by simp [Member.reported, hstate])
    exact ⟨hgo.tokens, hgo.bounded, hgo.error, hgo.result⟩
  | joins i new hnew hpoint hstopping =>
    obtain ⟨hfinished, hreported⟩ := count_switch (hok i).point hpoint (.inl rfl)
    exact hs.switch hok hpoint hfinished hreported rfl rfl rfl
  | triggers i new hnew hpoint hstopping =>
    obtain ⟨hfinished, hreported⟩ := count_switch (s := s.stopAll) (hok i).point hpoint (.inr rfl)
    exact hs.switch hok hpoint hfinished hreported rfl rfl rfl
  | triggered i new hpoint hall =>
    have hgo : (s.set i { s.members i with point := afterTrigger new }).Drained := by
      apply hs.go
      · cases new <;> simp [Member.isFinished, afterTrigger, hpoint]
      · cases new <;> simp [Member.reported, afterTrigger, hpoint]
    exact ⟨hgo.tokens, hgo.bounded, hgo.error, hgo.result⟩
  | sends i hpoint hroom =>
    refine ⟨?_, hs.bounded, ?_, hs.result⟩
    · have hcount := s.count_set Member.isFinished i { s.members i with point := .finished }
      simp only [Member.isFinished, hpoint, reduceCtorEq, decide_true,
        decide_false, Bool.toNat_true, Bool.toNat_false] at hcount
      change s.stopComplete + 1 + n = s.main.outstanding n + (s.set i _).count _
      omega
    · change _ ↔ (s.set i _).count _ ≠ 0
      rw [count_set_of_eq s]
      · exact hs.error
      · simp [Member.reported, hpoint]
  | receivesFirstStop _ hmain | receivesStopRunning hmain =>
    rw [hmain, MainPoint.outstanding] at htokens
    refine ⟨?_, Nat.sub_le n 1, hs.error, by simp⟩
    change s.stopComplete - 1 + n = n - 1 + s.count _
    omega
  | receivesStop k hmain htoken =>
    rw [hmain, MainPoint.outstanding] at htokens hbounded
    refine ⟨?_, Nat.le_of_succ_le hbounded, hs.error, by simp⟩
    change s.stopComplete - 1 + n = k + s.count _
    omega
  | receivesStartup k hmain hk hfull
  | contextDone hmain
  | reports hmain
  | mainJoins k hmain hstopping
  | mainTriggers k hmain hstopping
  | mainTriggered k hmain hall =>
    rw [hmain] at htokens hbounded
    exact ⟨htokens, hbounded, hs.error, by simp⟩
  | returns hmain =>
    rw [hmain] at htokens
    exact ⟨htokens, Nat.zero_le n, hs.error, by simp⟩

theorem drained_init : (pool n).init.Drained where
  tokens := by
    have hnone : (pool n).init.count Member.isFinished = 0 := PartialMap.count_eq_zero fun _ => rfl
    rw [hnone]
    exact Nat.zero_add n
  bounded := Nat.le_refl n
  error := by
    have hnone : (pool n).init.count Member.reported = 0 := PartialMap.count_eq_zero fun _ => rfl
    rw [hnone]
    simp [pool]
  result := by simp [pool]

theorem drained_of_reachable (hs : (pool n).Reachable s) : s.Drained :=
  reachable_of_does (fun _ _ _ hok hs hdoes => hs.does hok hdoes) drained_init hs

/-- The pool returns only after all services have ended, with an error exactly
if one of them has crashed; a service that reports its end always finds room in
the channel. -/
theorem pool_result (hs : (pool n).Reachable s) : (∀ err, s.main = .returned err →
      (∀ i, (s.members i).ended = true) ∧
        (err.isSome = true ↔ ∃ i, (s.members i).state = .crashed)) ∧
      ∀ i, (s.members i).point = .sending → s.stopComplete < n := by
  have hok := ok_of_reachable hs
  obtain ⟨htokens, hbounded, herror, hresult⟩ := drained_of_reachable hs
  have hle := s.count_le Member.isFinished
  constructor
  · intro err hreturned
    rw [hreturned, MainPoint.outstanding] at htokens
    have hfinished : ∀ i, (s.members i).point = .finished := by
      intro i
      have hi := (s.count_eq_iff Member.isFinished).mp (by omega) i
      simpa [Member.isFinished] using hi
    constructor
    · intro i
      have hpoint := (hok i).point
      simp only [Member.PointOk, hfinished i] at hpoint
      simp [Member.ended, hfinished i, hpoint.2]
    · rw [hresult err hreturned, herror, count_ne_zero_iff]
      simp [Member.reported, hfinished]
  · intro i hsending
    have hcount : s.count Member.isFinished ≠ n := by
      intro hcount
      have hi := (s.count_eq_iff Member.isFinished).mp hcount i
      simp [Member.isFinished, hsending] at hi
    omega

def bothRunning : List (PoolAction 2) :=
  [.start 0, .advance 0, .advance 0, .start 1, .advance 1, .advance 1,
    .running 0, .advance 0, .advance 0, .running 1, .advance 1, .advance 1]

theorem crash_is_returned : ∃ s, (pool 2).run (bothRunning ++ ([.crash 0 (.plain "failed"),
        .advance 0, .advance 0, .stopService 0, .stopService 1, .stopService 1, .stopService 1,
        .stop 1, .advance 1, .advance 1, .advance 1, .stopService 1, .advance 0, .advance 0,
        .receiveStop, .main, .receiveStop, .main] : List (PoolAction 2))) = some s ∧
      s.main = .returned (some (.plain "failed")) ∧ (∀ i, (s.members i).ended = true) ∧
      ∃ i, (s.members i).state = .crashed := by
  refine TransitionSystem.exists_run _ rfl fun s hrun => ?_
  have hreturned : s.main = .returned (some (.plain "failed")) := by
    rw [← Option.some.inj hrun]
    rfl
  obtain ⟨hended, herror⟩ := (pool_result ⟨_, hrun⟩).1 _ hreturned
  exact ⟨hreturned, hended, herror.mp rfl⟩

def Reached (s : Pool n) (i : Fin n) : Prop :=
  (s.members i).ended = true ∨ (s.members i).cancelled = true

/-- The call of `Stop` for the service has not come to the cancellation, or has left it out. -/
def Missed (s : Pool n) (i : Fin n) : Prop :=
  (s.members i).stop = .examining ∨ (s.members i).stop = .cancelling ∨
    (s.members i).stop = .passedOver

def Decided (s : Pool n) : Prop := ∀ i, (s.members i).stop.isDecided = true

def joins (s : Pool n) : PoolAction n → Bool
  | .advance i => s.stopping && match (s.members i).point with
      | .switching .stopping | .switching .stopped | .switching .crashed => true
      | _ => false
  | .main => s.stopping && match s.main with
      | .trigger _ => true
      | _ => false
  | _ => false

/-- A `Stop` finds its service starting, running or ended, and who joins a `triggerStop` finds
all its calls of `Stop` decided. -/
structure Attentive (s : Pool n) (action : PoolAction n) : Prop where
  finds : ∀ i, action = .stopService i → (s.members i).stop = .examining →
    (s.members i).state = .starting ∨ (s.members i).state = .running ∨ (s.members i).ended = true
  joins : s.joins action = true → s.Decided

instance decidableAttentive (s : Pool n) (action : PoolAction n) : Decidable (s.Attentive action) :=
  decidable_of_iff ((∀ i, action = .stopService i → (s.members i).stop = .examining →
      (s.members i).state = .starting ∨ (s.members i).state = .running ∨
        (s.members i).ended = true) ∧
      (s.joins action = true → ∀ i, (s.members i).stop.isDecided = true))
    ⟨fun h => ⟨h.1, h.2⟩, fun h => ⟨h.finds, h.joins⟩⟩

theorem reached_local {m m' : Member} (hstep : LocalStep m m')
    (hm : m.PointOk) (hreached : m.ended = true ∨ m.cancelled = true) :
    m'.ended = true ∨ m'.cancelled = true := by
  cases hstep <;> grind [Member.PointOk, Member.ended]

theorem reached_of_eq {m m' : Member} (hstate : m'.state = m.state)
    (hcancelled : m'.cancelled = m.cancelled) (hpoint : m'.point ≠ .notStarted)
    (hreached : m.ended = true ∨ m.cancelled = true) : m'.ended = true ∨ m'.cancelled = true := by
  grind [Member.ended]

theorem Reached.set {i j : Fin n} {m : Member} (hj : s.Reached j)
    (hm : s.Reached i → m.ended = true ∨ m.cancelled = true) : (s.set i m).Reached j := by
  by_cases h : j = i
  · rw [h] at hj
    simpa [Reached, Pool.set, h] using hm hj
  · simpa [Reached, Pool.set, h] using hj

theorem afterTrigger_ne (new : State) : afterTrigger new ≠ .notStarted := by
  cases new <;> simp [afterTrigger]

theorem Reached.does (hok : s.Ok) (hdoes : Does s action t) {j : Fin n}
    (hj : s.Reached j) : t.Reached j := by
  cases hdoes with
  | member action i m hlocal => exact hj.set (reached_local hlocal (hok i).point)
  | announces | sends => exact hj.set (reached_of_eq rfl rfl (by simp))
  | joins i new | triggered i new => exact hj.set (reached_of_eq rfl rfl (afterTrigger_ne new))
  | triggers => exact Reached.set (s := s.stopAll) hj (reached_of_eq rfl rfl (by simp))
  | _ => exact hj

theorem reached_runFrom {actions : List (PoolAction n)}
    (hs : (pool n).Reachable s) (hrun : (pool n).runFrom s actions = some t)
    {i : Fin n} (hi : s.Reached i) : t.Reached i :=
  runFrom_of_does (P := fun s => s.Reached i)
    (fun _ _ _ hok hi hdoes => hi.does hok hdoes) hs hi hrun

structure Triggered (s : Pool n) : Prop where
  returned : s.triggerReturned = true → s.stopping = true
  triggering : ∀ k, s.main = .triggering k → s.stopping = true

theorem Triggered.does (hs : s.Triggered) (hok : s.Ok) (hdoes : Does s action t) : t.Triggered := by
  obtain ⟨hreturned, htriggering⟩ := hs
  cases hdoes with
  | triggered i new hpoint hall => exact ⟨fun _ => hok.stopping_of_triggering hpoint, htriggering⟩
  | joins _ _ _ _ hstopping | mainJoins _ _ hstopping =>
    exact ⟨fun _ => hstopping, fun _ _ => hstopping⟩
  | triggers | mainTriggers => exact ⟨fun _ => rfl, fun _ _ => rfl⟩
  | mainTriggered k hmain hall =>
    exact ⟨fun _ => htriggering k hmain, fun _ _ => htriggering k hmain⟩
  | member | announces | sends => exact ⟨hreturned, htriggering⟩
  | _ => exact ⟨hreturned, by simp⟩

theorem Decided.does (hs : s.Decided) (hstopping : s.stopping = true)
    (hdoes : Does s action t) : t.Decided := by
  cases hdoes with
  | member action i m hlocal hstop =>
    refine forall_set (P := fun m => m.stop.isDecided = true) hs ?_
    have hi := hs i
    cases hlocal <;> simp_all [StopPoint.isDecided]
  | announces i hpoint
  | joins i new hnew hpoint hstopping
  | triggered i new hpoint hall
  | sends i hpoint hroom => exact forall_set (P := fun m => m.stop.isDecided = true) hs (hs i)
  | triggers i new hnew hpoint hcalm => simp [hstopping] at hcalm
  | mainTriggers k hmain hcalm => simp [hstopping] at hcalm
  | _ => exact hs

theorem triggered_init : (pool n).init.Triggered := ⟨by simp [pool], by simp [pool]⟩

theorem triggered_of_reachable (hs : (pool n).Reachable s) : s.Triggered :=
  reachable_of_does (fun _ _ _ hok hs hdoes => hs.does hok hdoes) triggered_init hs

structure Heeded (s : Pool n) : Prop where
  passedOver : ∀ i, (s.members i).stop = .passedOver → s.Reached i
  decided : s.triggerReturned = true → s.Decided

theorem passedOver_does (hdoes : Does s action t) {j : Fin n}
    (hover : (t.members j).stop = .passedOver) : (s.members j).stop = .passedOver ∨
      action = .stopService j ∧ (s.members j).stop = .examining ∧
        ((s.members j).state = .stopping ∨ (s.members j).state = .stopped ∨
          (s.members j).state = .crashed) := by
  cases hdoes with
  | member action i m hlocal hstop =>
    by_cases h : j = i
    · subst h
      simp only [set] at hover
      cases hlocal <;> simp_all
    · simp only [set, h] at hover
      exact .inl hover
  | announces i hpoint
  | joins i new hnew hpoint hstopping
  | triggered i new hpoint hall
  | sends i hpoint hroom => by_cases h : j = i <;> simp [set, h] at hover ⊢ <;> exact hover
  | triggers i new hnew hpoint hstopping => by_cases h : j = i <;> simp [set, stopAll, h] at hover
  | mainTriggers k hmain hstopping => simp [stopAll] at hover
  | _ => exact .inl hover

theorem triggerReturned_does (hok : s.Ok) (htriggered : s.Triggered)
    (hdoes : Does s action t) (hreturned : t.triggerReturned = true) : s.stopping = true ∧
      (s.triggerReturned = true ∨ s.allStopped = true ∨ s.joins action = true) := by
  cases hdoes with
  | joins i new hnew hpoint hstopping =>
    rcases hnew with rfl | rfl | rfl <;> simp [Pool.joins, hstopping, hpoint]
  | mainJoins k hmain hstopping =>
    exact ⟨hstopping, .inr (.inr (by simp [Pool.joins, hstopping, hmain]))⟩
  | triggered i new hpoint hall => exact ⟨hok.stopping_of_triggering hpoint, .inr (.inl hall)⟩
  | mainTriggered k hmain hall => exact ⟨htriggered.triggering k hmain, .inr (.inl hall)⟩
  | _ => exact ⟨htriggered.returned hreturned, .inl hreturned⟩

theorem decided_of_allStopped (hall : s.allStopped = true) : s.Decided := by
  intro i
  have hdone := of_decide_eq_true hall i
  cases hstop : (s.members i).stop <;>
    simp_all [StopPoint.isDone, StopPoint.isDecided]

theorem Heeded.does (hs : s.Heeded) (hok : s.Ok) (htriggered : s.Triggered)
    (hattentive : s.Attentive action) (hdoes : Does s action t) : t.Heeded where
  passedOver := by
    intro j hover
    rcases passedOver_does hdoes hover with hover | ⟨rfl, hstop, hstate⟩
    · exact (hs.passedOver j hover).does hok hdoes
    · refine Reached.does hok hdoes (.inl ?_)
      rcases hattentive.finds j rfl hstop with h | h | h
      · simp [h] at hstate
      · simp [h] at hstate
      · exact h
  decided := by
    intro hreturned
    obtain ⟨hstopping, hcases⟩ := triggerReturned_does hok htriggered hdoes hreturned
    rcases hcases with hbefore | hall | hjoins
    · exact (hs.decided hbefore).does hstopping hdoes
    · exact (decided_of_allStopped hall).does hstopping hdoes
    · exact (hattentive.joins hjoins).does hstopping hdoes

theorem heeded_of_meets {actions : List (PoolAction n)} (hrun : (pool n).run actions = some s)
    (hmeets : (pool n).Meets Attentive (pool n).init actions) : s.Heeded := by
  have hstep : ∀ (s : Pool n) a t, (pool n).Reachable s → s.Heeded →
      s.Attentive a → (pool n).step s a = some t → t.Heeded :=
    fun s a t hs hheeded hattentive hstep =>
      hheeded.does (ok_of_reachable hs) (triggered_of_reachable hs) hattentive (does_of_step hstep)
  have hinit : (pool n).init.Heeded := ⟨by simp [pool], by simp [pool]⟩
  exact (pool n).reachable_init.runFrom_invariant_of_meets hstep hinit hmeets hrun

theorem not_missed_iff (hok : s.Ok) (hstopping : s.stopping = true)
    (i : Fin n) : ¬ s.Missed i ↔ (s.members i).cancelled = true := by
  rw [(hok i).cancelled]
  have hcalled : (s.members i).stop ≠ .notStarted := by
    rw [Ne, (hok i).stop, hstopping]
    simp
  unfold Missed
  cases hstop : (s.members i).stop <;> simp_all

/-- Where every `Stop` finds its service started and nobody joins too early, every service
has ended or is cancelled after a call of `triggerStop` has returned, and so are all that
start later.  In general this is so exactly if those that the calls of `Stop` missed have
ended. -/
theorem stop_reaches_all_iff {actions : List (PoolAction n)} (hrun : (pool n).run actions = some s)
    (hreturned : s.triggerReturned = true) :
    ((pool n).Meets Attentive (pool n).init actions →
        ∀ rest t, (pool n).runFrom s rest = some t → ∀ i, t.Reached i) ∧
      ((∀ rest t, (pool n).runFrom s rest = some t → ∀ i, t.Reached i) ↔
        ∀ i, s.Missed i → (s.members i).ended = true) := by
  have hs : (pool n).Reachable s := ⟨actions, hrun⟩
  have hok := ok_of_reachable hs
  have hstopping := (triggered_of_reachable hs).returned hreturned
  have hreached : ∀ i, s.Reached i ↔ (s.Missed i → (s.members i).ended = true) := by
    intro i
    rw [Reached, ← not_missed_iff hok hstopping i]
    by_cases hmissed : s.Missed i <;> simp [hmissed]
  have hiff : (∀ rest t, (pool n).runFrom s rest = some t → ∀ i, t.Reached i) ↔
      ∀ i, s.Missed i → (s.members i).ended = true := by
    constructor
    · intro hall i
      exact (hreached i).mp (hall [] s rfl i)
    · intro hmissed rest t hrest i
      exact reached_runFrom hs hrest ((hreached i).mpr (hmissed i))
  refine ⟨fun hmeets => hiff.mpr fun i hmissed => ?_, hiff⟩
  have hheeded := heeded_of_meets hrun hmeets
  have hdecided := hheeded.decided hreturned i
  rcases hmissed with hstop | hstop | hstop
  · simp [hstop, StopPoint.isDecided] at hdecided
  · simp [hstop, StopPoint.isDecided] at hdecided
  · exact (hreached i).mp (hheeded.passedOver i hstop) (.inr (.inr hstop))

def stopOther : List (PoolAction 2) :=
  bothRunning ++ ([.stop 0, .advance 0, .advance 0, .stopService 0, .stopService 1,
    .stopService 1, .stopService 1, .stop 1, .advance 1, .advance 1] : List (PoolAction 2))

theorem other_is_cancelled : ∃ s, (pool 2).run stopOther = some s ∧ s.triggerReturned = true ∧
      (pool 2).Meets Attentive (pool 2).init stopOther ∧
      ∀ rest t, (pool 2).runFrom s rest = some t → ∀ i, t.Reached i := by
  have hrun : ∃ s, (pool 2).run stopOther = some s ∧ s.triggerReturned = true := ⟨_, rfl, rfl⟩
  have hmeets : (pool 2).Meets Attentive (pool 2).init stopOther := by decide +kernel
  obtain ⟨s, hrun, hreturned⟩ := hrun
  exact ⟨s, hrun, hreturned, hmeets, (stop_reaches_all_iff hrun hreturned).1 hmeets⟩

def crashBeforeStart : List (PoolAction 2) :=
  [.start 0, .advance 0, .advance 0, .crash 0 (.plain "failed"), .advance 0,
    .advance 0, .stopService 0, .stopService 1, .advance 0]

/-- The other starts after everything was stopped, and nobody stops it: the pool
waits for it. -/
theorem late_service_not_stopped : ∃ s t, (pool 2).run crashBeforeStart = some s ∧
      s.triggerReturned = true ∧ (pool 2).runFrom s [.start 1, .advance 1, .advance 1, .running 1,
        .advance 1, .advance 1, .advance 0, .receiveStop, .main] = some t ∧
      (t.members 1).state = .running ∧ (t.members 1).point = .working ∧
      (t.members 1).cancelled = false ∧ (t.members 1).stop = .passedOver ∧ t.main = .draining 1 :=
  ⟨_, _, rfl, rfl, rfl, rfl, rfl, rfl, rfl, rfl⟩

end Pool

end ContainerSSH.Service
