/-
The start of a service pool.
-/
import ContainerSSH.ServicePool

namespace ContainerSSH.Service

namespace Pool

variable {n : Nat} {s t : Pool n} {action : PoolAction n}

structure Steady (s : Pool n) : Prop where
  running : ∀ i, (s.members i).state = .running
  working : ∀ i, (s.members i).point = .working
  calm : s.stopping = false
  empty : s.startupComplete = false

/-- Every service runs, and the pool waits for an announcement that was dropped. -/
def Stalled (s : Pool n) : Prop := s.Steady ∧ ∃ k, s.main = .startup k ∧ k < n

def drops (s : Pool n) : PoolAction n → Bool
  | .advance i => (s.members i).point = .switching .running && s.startupComplete
  | _ => false

def received (s : Pool n) : Nat :=
  match s.main with
  | .startup k => k
  | _ => n

structure Started (s : Pool n) : Prop where
  tokens : s.count Member.announced = s.received + s.startupComplete.toNat + s.dropped
  silent : s.stopComplete = 0
  main : (∃ k, s.main = .startup k ∧ k ≤ n) ∨ s.main = .select ∨ ∃ k, s.main = .trigger k

theorem announced_local {m m' : Member} (hstep : LocalStep m m') : m'.announced = m.announced := by
  cases hstep <;> rfl

theorem Started.announces (hs : s.Started) (hok : s.Ok) (hcalm : s.stopping = false) {i : Fin n}
    (hpoint : (s.members i).point = .switching .running) : Started { s.set i
        { s.members i with point := .working, announced := true } with
      startupComplete := true
      dropped := if s.startupComplete then s.dropped + 1 else s.dropped } where
  tokens := by
    have hfresh := ((hok i).calm hcalm).fresh hpoint
    have hcount := s.count_set Member.announced i
      { s.members i with point := .working, announced := true }
    have htokens := hs.tokens
    change (s.set i _).count _ = s.received + 1 + _
    cases hfull : s.startupComplete <;> simp_all <;> omega
  silent := hs.silent
  main := hs.main

theorem Started.does (hs : s.stopping = false → s.Started) (hok : s.Ok)
    (hdoes : Does s action t) (hcalm : t.stopping = false) : t.Started := by
  cases hdoes with
  | member action i m hlocal =>
    obtain ⟨htokens, hsilent, hmain⟩ := hs hcalm
    refine ⟨?_, hsilent, hmain⟩
    rw [count_set_of_eq s (announced_local hlocal)]
    exact htokens
  | announces i hpoint => exact (hs hcalm).announces hok hcalm hpoint
  | joins i new hnew hpoint hstopping => simp [set, hstopping] at hcalm
  | triggers => simp [stopAll, set] at hcalm
  | triggered i new hpoint => exact absurd hpoint (((hok i).calm hcalm).triggering new)
  | sends i hpoint => exact absurd hpoint ((hok i).calm hcalm).sending
  | receivesStartup k hmain hk hfull =>
    obtain ⟨htokens, hsilent, -⟩ := hs hcalm
    refine ⟨?_, hsilent, .inl ⟨k + 1, rfl, hk⟩⟩
    simp only [received, hmain, hfull] at htokens
    exact htokens
  | receivesFirstStop k hmain hk htoken => exact absurd (hs hcalm).silent htoken
  | receivesStopRunning hmain htoken | receivesStop k hmain htoken =>
    exact absurd (hs hcalm).silent htoken
  | contextDone hmain =>
    obtain ⟨htokens, hsilent, -⟩ := hs hcalm
    refine ⟨?_, hsilent, .inr (.inr ⟨n, rfl⟩)⟩
    simp only [received, hmain] at htokens
    exact htokens
  | reports hmain =>
    obtain ⟨htokens, hsilent, -⟩ := hs hcalm
    refine ⟨?_, hsilent, .inr (.inl rfl)⟩
    simp only [received, hmain] at htokens
    exact htokens
  | mainJoins k hmain hstopping => simp [hstopping] at hcalm
  | mainTriggers => simp [stopAll] at hcalm
  | mainTriggered k hmain | returns hmain =>
    have hnot := (hs hcalm).main
    simp [hmain] at hnot

theorem started_init : (pool n).init.Started where
  tokens := PartialMap.count_eq_zero fun _ => rfl
  silent := rfl
  main := .inl ⟨0, rfl, Nat.zero_le n⟩

theorem started_of_reachable (hs : (pool n).Reachable s)
    (hcalm : s.stopping = false) : s.Started := by
  have hdoes : ∀ (s : Pool n) a t, s.Ok → (s.stopping = false → s.Started) →
      Does s a t → t.stopping = false → t.Started :=
    fun _ _ _ hok hs hdoes => Started.does hs hok hdoes
  exact reachable_of_does hdoes (fun _ => started_init) hs hcalm

theorem dropped_step (hstep : s.step action = some t) :
    t.dropped = s.dropped + (s.drops action).toNat := by
  cases action with
  | advance =>
    simp only [step, advance] at hstep
    split at hstep <;> grind [set, triggerStop, drops, stopAll]
  | stopService =>
    simp only [step, stopService] at hstep
    split at hstep <;> grind [set, drops]
  | receiveStop =>
    simp only [step, receiveStop] at hstep
    grind [drops]
  | main =>
    simp only [step, mainStep] at hstep
    grind [drops, stopAll]
  | _ =>
    simp only [step] at hstep
    grind [drops, set, change]

theorem dropped_eq_zero_iff {actions : List (PoolAction n)} (hrun : (pool n).run actions = some s) :
    s.dropped = 0 ↔ (pool n).Meets (fun s a => ¬ s.drops a = true) (pool n).init actions := by
  have hcount : ∀ (s : Pool n) a t, s.step a = some t → s.drops a = true →
      (t.dropped : Int) = s.dropped + 1 := by
    intro s a t hstep hdrops
    have hdropped := dropped_step hstep
    rw [hdrops, Bool.toNat_true] at hdropped
    omega
  have hsame : ∀ (s : Pool n) a t, s.step a = some t → ¬ s.drops a = true →
      (t.dropped : Int) = s.dropped := by
    intro s a t hstep hdrops
    have hdropped := dropped_step hstep
    rw [Bool.eq_false_iff.mpr hdrops, Bool.toNat_false] at hdropped
    omega
  have htally := ((pool n).runFrom_tally hcount hsame hrun).2
  simpa [pool] using htally

theorem Steady.announced (hs : s.Steady) (hok : s.Ok) : s.count Member.announced = n := by
  rw [count_eq_iff]
  intro i
  have hpoint := (hok i).point
  simp only [Member.PointOk, hs.working i] at hpoint
  have hrunning := (hok i).running (hpoint.1.trans (hs.running i))
  simpa [hs.working i] using hrunning

theorem Steady.received_add_dropped (hs : s.Steady)
    (hreach : (pool n).Reachable s) : s.received + s.dropped = n := by
  have hstarted := started_of_reachable hreach hs.calm
  have htokens := hstarted.tokens
  rw [hs.announced (ok_of_reachable hreach), hs.empty] at htokens
  exact htokens.symm

/-- A pool whose services all run is stalled exactly if the handler of some
service has found the channel full. -/
theorem stalled_iff {actions : List (PoolAction n)}
    (hrun : (pool n).run actions = some s) :
    s.Stalled ↔ s.Steady ∧ ¬ (pool n).Meets (fun s a => ¬ s.drops a = true) (pool n).init
        actions := by
  rw [← dropped_eq_zero_iff hrun]
  refine and_congr_right fun hsteady => ?_
  have hreach : (pool n).Reachable s := ⟨actions, hrun⟩
  have hreceived := hsteady.received_add_dropped hreach
  constructor
  · rintro ⟨k, hmain, hk⟩
    simp only [received, hmain] at hreceived
    omega
  · intro hdropped
    rcases (started_of_reachable hreach hsteady.calm).main with
      ⟨k, hmain, -⟩ | hmain | ⟨k, hmain⟩
    · simp only [received, hmain] at hreceived
      exact ⟨k, hmain, by omega⟩
    all_goals
      simp only [received, hmain] at hreceived
      omega

instance decidableSteady (s : Pool n) : Decidable s.Steady :=
  decidable_of_iff ((∀ i, (s.members i).state = .running) ∧
      (∀ i, (s.members i).point = .working) ∧ s.stopping = false ∧ s.startupComplete = false)
    ⟨fun ⟨h₁, h₂, h₃, h₄⟩ => ⟨h₁, h₂, h₃, h₄⟩, fun ⟨h₁, h₂, h₃, h₄⟩ => ⟨h₁, h₂, h₃, h₄⟩⟩

def startService (i : Fin n) : List (PoolAction n) :=
  [.start i, .advance i, .advance i, .running i, .advance i, .advance i]

def startOneByOne : List (PoolAction 2) :=
  startService ⟨0, Nat.zero_lt_two⟩ ++ .receiveStartup ::
    startService ⟨1, Nat.one_lt_two⟩ ++ [.receiveStartup]

theorem one_by_one_not_stalled :
    ∃ s, (pool 2).run startOneByOne = some s ∧ s.Steady ∧ ¬ s.Stalled := by
  refine ⟨_, rfl, by decide +kernel, ?_⟩
  rw [@stalled_iff 2 _ startOneByOne rfl]
  decide +kernel

def startTogether : List (PoolAction 2) :=
  startService ⟨0, Nat.zero_lt_two⟩ ++ startService ⟨1, Nat.one_lt_two⟩ ++ [.receiveStartup]

theorem start_together_stalls : ∃ s, (pool 2).run startTogether = some s ∧ s.Stalled :=
  ⟨_, rfl, by decide +kernel, 1, rfl, by decide⟩

end Pool

end ContainerSSH.Service
