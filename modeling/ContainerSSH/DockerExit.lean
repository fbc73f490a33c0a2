/-
The report of the exit of a program.
-/
import ContainerSSH.DockerExec

namespace ContainerSSH.DockerExec

def ReadOutcome.isOk {α : Type} : ReadOutcome α → Bool
  | .ok _ _ => true
  | _ => false

/-- The process id is read, and no inspection fails for good or is given up. -/
def Informs (config : Config) : Action → Prop
  | .readPID reads accepts => (readPIDFromStdout config.tty accepts reads).isOk = true
  | .inspect _ result => config.kind.inspect result ≠ .error .permanent
  | .giveUp => False
  | _ => True

instance decidableInforms (config : Config) (action : Action) :
    Decidable (Informs config action) := by
  induction action using Action.casesOn <;> unfold Informs <;> infer_instance

structure State.Ok (s : State) : Prop where
  pid : s.finish.marked = false → s.pid ≠ -1
  stage_of_point : ∀ g, s.point g ≠ .copying → s.stage = .running
  stage_of_finish : s.finish ≠ .idle → s.stage = .running
  ended : ∀ g, s.point g = .ended → s.finish = .returned
  doneChan : s.doneChan = s.finish.marked.toNat
  unreported : s.stage = .starting ∨ s.stage = .running →
    s.finish ≠ .returned → s.exits = [] ∧ s.released = false
  reported : s.finish = .returned → s.exits.length ≤ 1 ∧ (s.released = true ↔ s.exits ≠ [])

section Invariant

variable {config : Config} {s t : State}

theorem State.Ok.dead (hs : s.Ok) (hstarting : s.stage = .starting)
    (hstage : t.stage ≠ .starting ∧ t.stage ≠ .running)
    (hpid : t.pid = s.pid) (hpoint : t.point = s.point)
    (hfinish : t.finish = s.finish) (hdone : t.doneChan = s.doneChan) : t.Ok := by
  have hidle : s.finish = .idle := by
    by_contra hne
    rw [hs.stage_of_finish hne] at hstarting
    cases hstarting
  have hcopying : ∀ g, s.point g = .copying := by
    intro g
    by_contra hne
    rw [hs.stage_of_point g hne] at hstarting
    cases hstarting
  constructor
  · rw [hfinish, hpid]
    exact hs.pid
  · intro g hne
    exact absurd (hpoint ▸ hcopying g) hne
  · intro hne
    exact absurd (hfinish ▸ hidle) hne
  · intro g hended
    rw [hpoint, hcopying g] at hended
    cases hended
  · rw [hfinish, hdone]
    exact hs.doneChan
  · intro hrunning
    exact absurd hrunning (not_or.mpr hstage)
  · rw [hfinish, hidle]
    exact nofun

theorem State.Ok.loop (hs : s.Ok) (hactive : s.finish ≠ .idle ∧ s.finish ≠ .returned)
    (hloop : t.finish.marked = true ∧ t.finish ≠ .returned)
    (hdone : t.doneChan = 1) (hstage : t.stage = s.stage)
    (hpoint : t.point = s.point) (hexits : t.exits = s.exits)
    (hreleased : t.released = s.released) : t.Ok := by
  have hrunning := hs.stage_of_finish hactive.1
  constructor
  · rw [hloop.1]
    exact nofun
  · exact fun _ _ => hstage.trans hrunning
  · exact fun _ => hstage.trans hrunning
  · intro g hended
    rw [hpoint] at hended
    exact absurd (hs.ended g hended) hactive.2
  · rw [hdone, hloop.1, Bool.toNat_true]
  · rw [hexits, hreleased]
    exact fun _ _ => hs.unreported (.inr hrunning) hactive.2
  · exact fun hreturned => absurd hreturned hloop.2

theorem State.Ok.return (hs : s.Ok) (hmarked : s.finish.marked = true)
    (hreturned : t.finish = .returned)
    (hreported : t.exits.length ≤ 1 ∧ (t.released = true ↔ t.exits ≠ []))
    (hdone : t.doneChan = s.doneChan) (hstage : t.stage = s.stage) : t.Ok := by
  have hrunning : s.stage = .running :=
    hs.stage_of_finish fun hidle => by simp [hidle, FinishPoint.marked] at hmarked
  constructor
  · rw [hreturned]
    exact fun h => by cases h
  · exact fun _ _ => hstage.trans hrunning
  · exact fun _ => hstage.trans hrunning
  · exact fun _ _ => hreturned
  · rw [hdone, hs.doneChan, hmarked, hreturned]
    rfl
  · exact fun _ hne => absurd hreturned hne
  · exact fun _ => hreported

theorem State.Ok.doneChan_of_marked (hs : s.Ok) (hmarked : s.finish.marked = true) :
    s.doneChan = 1 := by
  rw [hs.doneChan, hmarked, Bool.toNat_true]

theorem State.Ok.unreported_of_active (hs : s.Ok)
    (hactive : s.finish ≠ .idle ∧ s.finish ≠ .returned) : s.exits = [] ∧ s.released = false :=
  hs.unreported (.inr (hs.stage_of_finish hactive.1)) hactive.2

theorem State.point_setPoint (s : State) (g h : Goroutine) (point : Point) :
    (s.setPoint g point).point h = if h = g then point else s.point h :=
  Function.update_apply s.point g point h

theorem ok_setPoint_exiting (hs : s.Ok) {g : Goroutine}
    (hstage : s.stage = .running) : (s.setPoint g .exiting).Ok := by
  refine ⟨hs.pid, fun _ _ => hstage, hs.stage_of_finish, fun h hended => ?_,
    hs.doneChan, hs.unreported, hs.reported⟩
  rw [State.point_setPoint] at hended
  split at hended
  next => cases hended
  next => exact hs.ended h hended

theorem ok_init : (system config).init.Ok := by
  refine ⟨fun _ => ?_, nofun, nofun, nofun, rfl, fun _ _ => ⟨rfl, rfl⟩, nofun⟩
  simp only [system, Config.pid]
  split <;> decide

theorem ok_step (hs : s.Ok) {action : Action} (hstep : s.step config action = some t) : t.Ok := by
  cases does_of_step hstep with
  | programWrites | programExits | clientSends | clientEOF | clientClose
  | readInput | writeInput | readOutput | writeOutput =>
    exact ⟨hs.pid, hs.stage_of_point, hs.stage_of_finish, hs.ended,
      hs.doneChan, hs.unreported, hs.reported⟩
  | started hstage =>
    exact ⟨hs.pid, fun _ _ => rfl, fun _ => rfl, hs.ended, hs.doneChan,
      fun _ => hs.unreported (.inl hstage), hs.reported⟩
  | pidRead hstage =>
    refine ⟨fun _ => ?_, fun _ _ => rfl, fun _ => rfl, hs.ended, hs.doneChan,
      fun _ => hs.unreported (.inl hstage), hs.reported⟩
    dsimp only
    omega
  | pidFails hstage =>
    unfold State.failed
    split
    next => exact hs.dead hstage (by simp) rfl rfl rfl rfl
    next => exact hs.dead hstage (by simp) rfl rfl rfl rfl
  | pidPanics hstage => exact hs.dead hstage (by simp) rfl rfl rfl rfl
  | breaksOff hstage => exact ok_setPoint_exiting hs hstage
  | copied hstage => exact ok_setPoint_exiting hs hstage
  | @enters g hpoint hidle =>
    have hstage := hs.stage_of_point g (by simp [hpoint])
    have hdone := hs.doneChan
    rw [hidle] at hdone
    refine ⟨fun _ => hs.pid (by rw [hidle]; rfl), hs.stage_of_point,
      fun _ => hstage, fun g' hended => ?_, hdone, fun hst _ => ?_, fun h => by cases h⟩
    · rw [hs.ended g' hended] at hidle
      cases hidle
    · exact hs.unreported hst (by simp [hidle])
  | @leaves g hpoint hreturned =>
    have hstage := hs.stage_of_point g (by simp [hpoint])
    exact ⟨hs.pid, fun _ _ => hstage, hs.stage_of_finish, fun _ _ => hreturned,
      hs.doneChan, hs.unreported, hs.reported⟩
  | marks hentered =>
    have hpid := hs.pid (by rw [hentered]; rfl)
    have hdone := hs.doneChan
    rw [hentered] at hdone
    rw [State.mark, if_neg hpid]
    refine hs.loop (by simp [hentered]) (State.enterLoop_finish _) ?_ rfl rfl rfl rfl
    simp [State.enterLoop, hdone, FinishPoint.marked]
  | stops hfinish | stopFails hfinish | retriesStop hfinish | waits hfinish =>
    have hone := hs.doneChan_of_marked (by rw [hfinish]; rfl)
    exact hs.loop (by simp [hfinish]) ⟨rfl, by simp⟩ hone rfl rfl rfl rfl
  | retries hwaiting =>
    have hone := hs.doneChan_of_marked (by rw [hwaiting]; rfl)
    exact hs.loop (by simp [hwaiting]) (State.enterLoop_finish _) hone rfl rfl rfl rfl
  | givesUpStop hfinish | reports hfinish =>
    obtain ⟨hexits, -⟩ := hs.unreported_of_active (by simp [hfinish])
    refine hs.return (by rw [hfinish]; rfl) rfl ?_ rfl rfl
    simp [State.returns, State.onExit, State.elapse, hexits]
  | abandons hfinish | givesUp hfinish =>
    obtain ⟨hexits, hreleased⟩ := hs.unreported_of_active (by simp [hfinish])
    refine hs.return (by rw [hfinish]; rfl) rfl ?_ rfl rfl
    simp [State.returns, State.elapse, hexits, hreleased]

end Invariant

def State.Sound (s : State) : Prop :=
  (s.stage = .starting ∨ s.stage = .running) ∧ (s.finish = .returned → s.exits ≠ [])

/-- `run` has failed, or both of its goroutines have ended. -/
def State.Ended (s : State) : Prop :=
  s.stage = .failed ∨ s.stage = .stuck ∨ s.stage = .panicked ∨ ∀ g, s.point g = .ended

section Report

variable {config : Config} {s t : State}

theorem sound_iff_of_unreturned {I : Prop} (hinforms : I)
    (hs : s.finish ≠ .returned) (ht : t.finish ≠ .returned)
    (hstage : t.stage = s.stage) : t.Sound ↔ s.Sound ∧ I := by
  rw [State.Sound, hstage, and_iff_left hinforms]
  exact and_congr_right fun _ =>
    iff_of_true (fun h => absurd h ht) (fun h => absurd h hs)

theorem sound_iff_of_reported {I : Prop} (hinforms : I)
    (hs : s.finish ≠ .returned) (ht : t.exits ≠ [])
    (hstage : t.stage = s.stage) : t.Sound ↔ s.Sound ∧ I := by
  rw [State.Sound, hstage, and_iff_left hinforms]
  exact and_congr_right fun _ =>
    iff_of_true (fun _ => ht) (fun h => absurd h hs)

theorem sound_step_iff (hs : s.Ok) {action : Action} (hstep : s.step config action = some t) :
    t.Sound ↔ s.Sound ∧ Informs config action := by
  cases does_of_step hstep with
  | started hstage => exact ⟨fun h => ⟨⟨.inl hstage, h.2⟩, trivial⟩, fun h => ⟨.inr rfl, h.1.2⟩⟩
  | pidRead hstage hread =>
    refine ⟨fun h => ⟨⟨.inl hstage, h.2⟩, ?_⟩, fun h => ⟨.inr rfl, h.1.2⟩⟩
    rw [Informs, hread]
    rfl
  | pidFails hstage hread =>
    refine iff_of_false (fun h => ?_) fun h => ?_
    · unfold State.failed at h
      split at h
      next => cases h.1 <;> contradiction
      next => cases h.1 <;> contradiction
    · have hok := h.2
      rw [Informs, hread] at hok
      cases hok
  | pidPanics hstage hread =>
    refine iff_of_false (fun h => ?_) fun h => ?_
    · cases h.1 <;> contradiction
    · have hok := h.2
      rw [Informs, hread] at hok
      cases hok
  | enters hpoint hidle => exact sound_iff_of_unreturned trivial (by simp [hidle]) nofun rfl
  | marks hentered =>
    have hpid := hs.pid (by rw [hentered]; rfl)
    rw [State.mark, if_neg hpid]
    exact sound_iff_of_unreturned trivial (by simp [hentered]) (State.enterLoop_finish _).2 rfl
  | stops hfinish | stopFails hfinish | retriesStop hfinish =>
    exact sound_iff_of_unreturned trivial (by simp [hfinish]) nofun rfl
  | waits hinspecting herror =>
    exact sound_iff_of_unreturned (by simp [Informs, herror]) (by simp [hinspecting]) nofun rfl
  | retries hwaiting =>
    exact sound_iff_of_unreturned trivial (by simp [hwaiting]) (State.enterLoop_finish _).2 rfl
  | givesUpStop hwaiting =>
    exact sound_iff_of_reported trivial (by simp [hwaiting])
      (by simp [State.returns, State.onExit]) rfl
  | reports hinspecting hcode =>
    exact sound_iff_of_reported (by simp [Informs, hcode])
      (by simp [hinspecting]) (by simp [State.returns, State.onExit]) rfl
  | abandons hinspecting herror =>
    have hexits := (hs.unreported_of_active (by simp [hinspecting])).1
    refine iff_of_false (fun h => h.2 rfl hexits) fun h => h.2 herror
  | givesUp hwaiting =>
    have hexits := (hs.unreported_of_active (by simp [hwaiting])).1
    exact iff_of_false (fun h => h.2 rfl hexits) fun h => h.2
  | _ => exact (and_iff_left trivial).symm

theorem sound_iff_of_ended (hs : s.Ok) (hended : s.Ended) :
    s.Sound ↔ s.exits.length = 1 ∧ s.doneChan = 1 ∧ s.released = true := by
  by_cases hrunning : s.stage = .running
  · have hall : ∀ g, s.point g = .ended := by simpa [State.Ended, hrunning] using hended
    have hreturned := hs.ended .input (hall .input)
    obtain ⟨hle, hreleased⟩ := hs.reported hreturned
    have hone := hs.doneChan_of_marked (by rw [hreturned]; rfl)
    simp only [State.Sound, hrunning, hreturned, hone, hreleased, or_true,
      true_and, forall_const, ← List.length_pos_iff]
    omega
  · have hidle : s.finish = .idle := by
      by_contra hne
      exact hrunning (hs.stage_of_finish hne)
    have hdone := hs.doneChan
    rw [hidle] at hdone
    have hstarting : s.stage ≠ .starting := by
      intro hstarting
      have hall : ∀ g, s.point g = .ended := by simpa [State.Ended, hstarting] using hended
      exact hrunning (hs.stage_of_point .input (by rw [hall .input]; nofun))
    exact iff_of_false (fun h => h.1.elim hstarting hrunning)
      (fun h => by simp [hdone, FinishPoint.marked] at h)

def Action.finishes : Action → Bool
  | .mark | .stop .. | .retryStop | .giveUpStop | .inspect .. | .retry | .giveUp => true
  | _ => false

/-- A bound on the steps that `finished` still takes. -/
def State.budget (s : State) : Nat :=
  match s.finish with
  | .idle | .entered => 3 * timeout + 4
  | .stopping => 3 * s.remaining + 3
  | .inspecting => 3 * s.remaining + 2
  | .stopWaiting | .waiting => 3 * s.remaining + 1
  | .returned => 0

theorem budget_step {action : Action} (hstep : s.step config action = some t) :
    t.budget + action.finishes.toNat ≤ s.budget := by
  cases does_of_step hstep with
  | pidFails =>
    unfold State.failed
    split <;> exact Nat.le_refl _
  | marks hfinish =>
    unfold State.mark State.enterLoop
    split_ifs <;> simp [State.budget, hfinish, Action.finishes]
  | retries hfinish htime =>
    unfold State.enterLoop
    split <;> simp only [State.budget, hfinish, Action.finishes, State.elapse, Bool.toNat_true] <;>
      omega
  | stops hfinish | stopFails hfinish | retriesStop hfinish | waits hfinish =>
    simp only [State.budget, hfinish, Action.finishes, State.elapse, Bool.toNat_true]
    omega
  | enters _ hfinish | givesUpStop hfinish | reports hfinish | abandons hfinish
  | givesUp hfinish => simp [State.budget, hfinish, Action.finishes, State.returns]
  | _ => exact Nat.le_refl _

end Report

/-- `finished` takes at most 184 steps.  When all goroutines of `run` have ended, `onExit` was
called exactly once, the channel closed exactly once and the caller released, exactly if the process
ID was read, Docker gave no permanent error and the minute was long enough. -/
theorem exit_reported_iff (config : Config) {actions : List Action} {s : State}
    (hrun : (system config).run actions = some s) :
    actions.countP Action.finishes ≤ 184 ∧ (s.Ended →
      ((s.exits.length = 1 ∧ s.doneChan = 1 ∧ s.released = true) ↔
        ∀ action ∈ actions, Informs config action)) := by
  have hcount := (system config).runFrom_measure (fun _ _ _ (_ : True) _ hstep =>
    ⟨trivial, budget_step hstep⟩) trivial ((system config).meets_true _ actions) hrun
  refine ⟨Nat.le_of_add_right_le hcount, fun hended => ?_⟩
  have hok : s.Ok := (system config).runFrom_invariant
    (fun _ _ _ hs hstep => ok_step hs hstep) ok_init hrun
  have hiff := (system config).runFrom_iff_meets (P := State.Sound)
    (fun _ _ _ hs hstep => ok_step hs hstep)
    (fun _ _ _ hs hstep => sound_step_iff hs hstep) ok_init hrun
  have hinit : (system config).init.Sound := ⟨.inl rfl, nofun⟩
  rw [← sound_iff_of_ended hok hended, hiff, and_iff_right hinit]
  exact (system config).meets_iff_forall_mem hrun

theorem exit_reported_once : ∃ s, (system ⟨.exec, .session, true, false, false⟩).run
        [.readPID [⟨[1, 0, 0, 0, 0, 0, 0, 4], false⟩, ⟨[7, 0, 0, 0], false⟩] true,
          .programExits, .readOutput 0, .copied .output, .once .output, .mark,
          .inspect 1 (.inspected ⟨false, false, 3⟩), .once .output, .clientClose,
          .readInput 0, .copied .input, .once .input] = some s ∧
      s.exits = [⟨3, true⟩] ∧ s.doneChan = 1 ∧ s.released = true := by
  refine TransitionSystem.exists_run _ rfl fun s hrun => ?_
  have hended : s.Ended := by
    rw [← Option.some.inj hrun]
    exact .inr (.inr (.inr (by decide)))
  exact ⟨by rw [← Option.some.inj hrun]; rfl, (((exit_reported_iff _ hrun).2 hended).mpr (by decide)).2⟩

/-- Docker answers with a permanent error, and `writeFile` waits for ever.  A
signal whose agent sends no process ID waits for ever, too. -/
theorem exit_never_reported : (∃ s, (system ⟨.exec, .writeFile, false, false, false⟩).run
        [.start, .programExits, .readOutput 0, .copied .output, .once .output,
          .mark, .inspect 1 (.fails true), .once .output, .clientEOF,
          .readInput 0, .copied .input, .once .input] = some s ∧
        s.Ended ∧ s.exits = [] ∧ s.released = false) ∧
      ∃ s, (system ⟨.exec, .signal, true, false, false⟩).run [.readPID [⟨[], true⟩] true] = some s ∧
        s.Ended ∧ s.doneChan = 0 ∧ s.released = false :=
  ⟨⟨_, rfl, .inr (.inr (.inr (by decide))), rfl, rfl⟩, ⟨_, rfl, .inr (.inl rfl), rfl, rfl⟩⟩

end ContainerSSH.DockerExec
