/-
The output of a program against the report of its exit.
-/
import ContainerSSH.DockerExit

namespace ContainerSSH.DockerExec

def Action.bytes (config : Config) : Action → List (Stream × UInt8)
  | .readPID reads accepts =>
    match readPIDFromStdout config.tty accepts reads with
    | .ok (_, data) _ => config.tag .stdout data
    | _ => []
  | .programWrites stream data => config.tag stream data
  | _ => []

def wrote (config : Config) (actions : List Action) : List (Stream × UInt8) :=
  actions.flatMap (Action.bytes config)

def State.codeReported (s : State) : Bool := s.exits.any ExitCall.inspected

/-- `processInput` comes to `finished` after `processOutput` has ended its copy,
and the copy ends with the output: it does not break off, and the client does not
close the session before. -/
def OutputFirst (s : State) : Action → Prop
  | .once .input => s.finish = .idle → s.point .output ≠ .copying
  | .breakOff .output => False
  | .clientClose => s.point .output ≠ .copying
  | _ => True

instance decidableOutputFirst (s : State) (action : Action) : Decidable (OutputFirst s action) := by
  induction action using Action.casesOn with
  | once g | breakOff g => cases g <;> unfold OutputFirst <;> infer_instance
  | _ => unfold OutputFirst; infer_instance

structure State.Consistent (s : State) : Prop where
  output : s.stage = .starting → s.output = {}
  stage : s.codeReported = true → s.stage ≠ .starting
  finish : s.codeReported = true → s.finish = .returned
  program : s.codeReported = true → s.programRunning = false

section Output

variable {config : Config} {s t : State}

theorem codeReported_of_failure {s t : State} (hexits : t.exits = s.exits ++ [⟨137, false⟩]) :
    t.codeReported = s.codeReported := by
  simp [State.codeReported, hexits]

theorem consistent_init : (system config).init.Consistent := ⟨fun _ => rfl, nofun, nofun, nofun⟩

theorem State.Consistent.of_unreported (houtput : t.stage = .starting → t.output = {})
    (hcode : t.codeReported = false) : t.Consistent := by
  have hnot : t.codeReported ≠ true := Bool.eq_false_iff.mp hcode
  exact ⟨houtput, fun h => absurd h hnot, fun h => absurd h hnot, fun h => absurd h hnot⟩

theorem State.Consistent.active (hs : s.Consistent) (hactive : s.finish ≠ .returned)
    (hcode : t.codeReported = s.codeReported) (hstage : t.stage = s.stage)
    (houtput : t.output = s.output) : t.Consistent := by
  refine .of_unreported (hstage ▸ houtput ▸ hs.output) ?_
  rw [hcode]
  exact Bool.eq_false_iff.mpr fun h => hactive (hs.finish h)

theorem consistent_step (hok : s.Ok) (hs : s.Consistent) {action : Action}
    (hstep : s.step config action = some t) : t.Consistent := by
  cases does_of_step hstep with
  | clientSends | clientEOF | clientClose | readInput | writeInput | breaksOff
  | copied | leaves => exact ⟨hs.output, hs.stage, hs.finish, hs.program⟩
  | programExits => exact ⟨hs.output, hs.stage, hs.finish, fun _ => rfl⟩
  | programWrites _ _ hstage => exact ⟨fun h => absurd h hstage, hs.stage, hs.finish, hs.program⟩
  | readOutput hstage | writeOutput hstage =>
    exact ⟨fun h => (nomatch hstage.symm.trans h), hs.stage, hs.finish, hs.program⟩
  | started | pidRead | pidPanics => exact ⟨nofun, fun _ => nofun, hs.finish, hs.program⟩
  | pidFails hstage =>
    have hcode : s.codeReported = false := Bool.eq_false_iff.mpr fun h => hs.stage h hstage
    unfold State.failed
    split <;>
      exact .of_unreported nofun ((codeReported_of_failure rfl).trans hcode)
  | enters _ hidle => exact hs.active (by simp [hidle]) rfl rfl rfl
  | marks hentered =>
    unfold State.mark
    split <;> exact hs.active (by simp [hentered]) rfl rfl rfl
  | stops hfinish | stopFails hfinish | retriesStop hfinish | waits hfinish
  | retries hfinish | abandons hfinish | givesUp hfinish =>
    exact hs.active (by simp [hfinish]) rfl rfl rfl
  | givesUpStop hwaiting =>
    exact hs.active (by simp [hwaiting]) (codeReported_of_failure rfl) rfl rfl
  | reports hinspecting _ hprogram =>
    have hstage := hok.stage_of_finish (by rw [hinspecting]; nofun)
    exact ⟨hs.output, fun _ h => (nomatch hstage.symm.trans h), fun _ => rfl, fun _ => hprogram⟩

theorem sent_step (hs : s.Consistent) {action : Action} (hstep : s.step config action = some t) :
    t.output.sent = s.output.sent ++ action.bytes config := by
  cases does_of_step hstep with
  | pidRead hstage hread => simp [StreamCopy.sent, Action.bytes, hread, hs.output hstage]
  | pidFails hstage hread =>
    have hsame : (s.failed config).output = s.output := by
      unfold State.failed
      split <;> rfl
    simp [Action.bytes, hread, hsame]
  | pidPanics hstage hread => simp [Action.bytes, hread]
  | programWrites => exact StreamCopy.sent_feed _
  | readOutput _ hread => simpa [Action.bytes] using StreamCopy.sent_read hread
  | writeOutput _ hwrite => simpa [Action.bytes] using StreamCopy.sent_write hwrite
  | marks =>
    unfold State.mark
    split <;> exact (List.append_nil _).symm
  | _ => exact (List.append_nil _).symm

theorem inv_step {action : Action} (hs : s.Ok ∧ s.Consistent)
    (hstep : s.step config action = some t) : t.Ok ∧ t.Consistent :=
  ⟨ok_step hs.1 hstep, consistent_step hs.1 hs.2 hstep⟩

theorem sent_run {actions : List Action} (hrun : (system config).run actions = some t) :
    t.output.sent = wrote config actions :=
  (system config).runFrom_flatMap (fun _ _ _ hs hstep => inv_step hs hstep)
    (fun _ _ _ hs hstep => sent_step hs.2 hstep) ⟨ok_init, consistent_init⟩ hrun

/-- The program has ended and all that it wrote has been copied. -/
def State.Copied (s : State) : Prop := s.programRunning = false ∧ s.output.Complete

structure State.Orderly (s : State) : Prop where
  opened : s.stage = .starting ∨ s.stage = .running → s.point .output = .copying →
    s.sessionClosed = false
  copied : s.point .output ≠ .copying ∨ s.output.ended = true → s.Copied
  finish : s.finish ≠ .idle → s.point .output ≠ .copying

theorem State.Orderly.active (hs : s.Orderly) (hactive : s.finish ≠ .idle)
    (hpoint : t.point = s.point) (houtput : t.output = s.output)
    (hprogram : s.programRunning = false → t.programRunning = false) : t.Orderly := by
  have hnot := hs.finish hactive
  obtain ⟨hended, hcomplete⟩ := hs.copied (.inl hnot)
  rw [← hpoint] at hnot
  exact ⟨fun _ h => absurd h hnot, fun _ => ⟨hprogram hended, houtput ▸ hcomplete⟩, fun _ => hnot⟩

theorem State.Orderly.setPoint (hs : s.Orderly) {g : Goroutine} {point : Point}
    (hpoint : point ≠ .copying) (hcopied : g = .output → s.Copied) :
    (s.setPoint g point).Orderly := by
  cases g with
  | input => exact ⟨hs.opened, hs.copied, hs.finish⟩
  | output => exact ⟨fun _ h => absurd h hpoint, fun _ => hcopied rfl, fun _ => hpoint⟩

theorem orderly_step (hs : s.Orderly) {action : Action} (hfirst : OutputFirst s action)
    (hstep : s.step config action = some t) : t.Orderly := by
  have hdoes := does_of_step hstep
  have hactive := hs.active (t := t)
  cases hdoes with
  | started hstage => exact ⟨fun _ => hs.opened (.inl hstage), hs.copied, hs.finish⟩
  | pidRead hstage =>
    refine ⟨fun _ => hs.opened (.inl hstage), fun h => ?_, hs.finish⟩
    have hleft := StreamCopy.complete_iff.mp (hs.copied h).2
    exact ⟨(hs.copied h).1, StreamCopy.complete_iff.mpr hleft⟩
  | pidFails hstage =>
    unfold State.failed
    split <;> exact ⟨by simp, hs.copied, hs.finish⟩
  | pidPanics => exact ⟨by simp, hs.copied, hs.finish⟩
  | programWrites _ _ _ hrunning =>
    refine ⟨hs.opened, fun h => ?_, hs.finish⟩
    exact nomatch hrunning.symm.trans (hs.copied h).1
  | programExits => exact ⟨hs.opened, fun h => ⟨rfl, (hs.copied h).2⟩, hs.finish⟩
  | clientClose => exact ⟨fun _ h => absurd h hfirst, hs.copied, hs.finish⟩
  | readOutput _ hread =>
    refine ⟨hs.opened, fun h => ?_, hs.finish⟩
    rcases h with hpoint | hended
    · exact (hs.copied (.inl hpoint)).imp_right fun hcomplete => hcomplete.read hread
    · obtain ⟨heof, hcomplete⟩ := StreamCopy.ended_read hread hended
      exact ⟨by simpa using heof, hcomplete⟩
  | writeOutput hstage hwrite =>
    -- nothing is left to write after the copy, and the session is open during it
    have hpoint : s.point .output = .copying := by
      by_contra hnot
      rw [(hs.copied (.inl hnot)).2.not_write] at hwrite
      cases hwrite
    refine ⟨hs.opened, fun h => ?_, hs.finish⟩
    have haccepts := StreamCopy.ended_write hwrite (h.resolve_left (not_not.mpr hpoint))
    simp [State.accepts, hs.opened (.inr hstage) hpoint] at haccepts
  | breaksOff =>
    refine hs.setPoint nofun ?_
    rintro rfl
    exact hfirst.elim
  | copied _ _ hended => exact hs.setPoint nofun fun hg => hs.copied (.inr (by rwa [hg] at hended))
  | @enters g hpoint hidle =>
    refine ⟨hs.opened, hs.copied, fun _ => ?_⟩
    cases g with
    | input => exact hfirst hidle
    | output => simp [hpoint]
  | leaves hpoint => exact hs.setPoint nofun fun hg => hs.copied (.inl (by simp [← hg, hpoint]))
  | marks hentered =>
    have hnot : s.finish ≠ .idle := by simp [hentered]
    refine hactive hnot ?_ ?_ ?_ <;> · unfold State.mark; split <;> simp [State.enterLoop]
  | stops hat => exact hactive (by simp [hat]) rfl rfl fun _ => rfl
  | stopFails hat | retriesStop hat | givesUpStop hat | reports hat | abandons hat | waits hat
  | retries hat | givesUp hat => exact hactive (by simp [hat]) rfl rfl id
  | _ => exact ⟨hs.opened, hs.copied, hs.finish⟩

end Output

/-- All along a run in which the output comes first, the exit code is reported only
after all output has been written to the session, and the end of the input does not
mark a running program as finished. -/
theorem complete_of_output_first (config : Config) {actions : List Action} {s : State}
    (hrun : (system config).run actions = some s)
    (hfirst : (system config).Meets OutputFirst (system config).init actions) :
    ∀ first t, first <+: actions → (system config).run first = some t →
      (t.codeReported = true → t.output.written = wrote config first) ∧
        (t.runner = some .input → t.finish.marked = true → t.programRunning = false) := by
  rintro first t ⟨rest, rfl⟩ hreached
  have hmeets := (((system config).meets_append_iff hreached).mp hfirst).1
  have hcopied : t.finish ≠ .idle → t.Copied := by
    have hs : t.Orderly := (system config).runFrom_invariant_of_meets
      (fun _ _ _ hs hfirst hstep => orderly_step hs hfirst hstep)
      ⟨fun _ _ => rfl, by simp [system], absurd rfl⟩ hmeets hreached
    exact fun hactive => hs.copied (.inl (hs.finish hactive))
  have hconsistent : t.Ok ∧ t.Consistent := (system config).runFrom_invariant
    (fun _ _ _ hs hstep => inv_step hs hstep) ⟨ok_init, consistent_init⟩ hreached
  refine ⟨fun hcode => ?_, fun _ hmarked => (hcopied fun hidle => ?_).1⟩
  · rw [← sent_run hreached]
    exact (hcopied (by simp [hconsistent.2.finish hcode])).2
  · rw [hidle] at hmarked
    cases hmarked

def outputFirst : List Action :=
  [.start, .programWrites .stdout [104], .clientEOF, .readInput 0, .copied .input,
    .programWrites .stderr [105], .programExits, .readOutput 1, .writeOutput 1, .readOutput 0,
    .copied .output, .once .input, .mark, .inspect 1 (.inspected ⟨false, false, 0⟩)]

theorem exit_after_output : ∃ s, (system ⟨.exec, .session, true, true, false⟩).run outputFirst =
        some s ∧ s.exits = [⟨0, true⟩] ∧ s.output.written = [(.stdout, 104), (.stderr, 105)] ∧
      s.output.written = wrote ⟨.exec, .session, true, true, false⟩ outputFirst := by
  refine TransitionSystem.exists_run _ rfl fun s hrun => ?_
  have hcomplete := complete_of_output_first _ hrun (by decide) _ s (List.prefix_refl _) hrun
  rw [← Option.some.inj hrun] at hcomplete ⊢
  exact ⟨rfl, rfl, hcomplete.1 rfl⟩

/-- The end of the input marks a running program as finished; the code of that
program is then reported before its output has been copied. -/
theorem exit_before_output :
    (∃ actions s, (system ⟨.exec, .session, true, true, false⟩).run actions =
        some s ∧ s.exits = [⟨0, true⟩] ∧
        wrote ⟨.exec, .session, true, true, false⟩ actions = [(.stdout, 104)] ∧
        s.output.written = []) ∧
      ∃ actions s, (system ⟨.attached, .session, false, true, false⟩).run actions =
        some s ∧ s.runner = some .input ∧ s.doneChan = 1 ∧
        s.finish = .stopping ∧ s.programRunning = true :=
  ⟨⟨[.start, .clientEOF, .readInput 0, .copied .input, .once .input, .mark,
      .programWrites .stdout [104], .programExits,
      .inspect 1 (.inspected ⟨false, false, 0⟩)], _, rfl, rfl, rfl, rfl⟩,
    ⟨[.start, .clientEOF, .readInput 0, .copied .input, .once .input, .mark],
      _, rfl, rfl, rfl, rfl, rfl⟩⟩

end ContainerSSH.DockerExec
