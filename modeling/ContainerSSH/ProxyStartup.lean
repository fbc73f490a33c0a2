/-
The start of a proxy session.
-/
import ContainerSSH.ProxySession

namespace ContainerSSH.SSHProxy.Session

/-- Until the client's channel has been accepted the backing server neither
closes the new channel nor reports an exit on it. -/
def BackendWaits (s : State) : Action → Prop
  | .backendRequest request =>
    (backendRequest request).isExit = true → s.wrapper.channel.isSome = true
  | .backendClose => s.wrapper.channel.isSome = true
  | _ => True

instance decidableBackendWaits (s : State) (action : Action) :
    Decidable (BackendWaits s action) := by
  induction action using Action.casesOn <;> unfold BackendWaits <;> infer_instance

/-- `handleBackendClientRequests` has, and will find, nothing to tell a client
whose channel does not exist. -/
structure State.Quiet (s : State) : Prop where
  ok : s.Ok
  running : s.panicked = false
  unused : s.wrapper.channel = none → s.usesSession = false
  requests : s.wrapper.channel = none → ∀ request ∈ s.requests,
    (backendRequest request).isExit = false
  opened : s.wrapper.channel = none → s.backing.receivedClose = false

theorem quiet_init : State.Quiet {} where
  ok := ok_init
  running := rfl
  unused _ := rfl
  requests _ := by simp
  opened _ := rfl

theorem quiet_step {s t : State} {action : Action} (hs : s.Quiet) (hwaits : BackendWaits s action)
    (hstep : s.step action = some t) : t.Quiet := by
  have hok := ok_step hs.ok hstep
  have hdoes := does_of_step hs.ok hstep
  obtain ⟨-, hrunning, hunused, hrequests, hopened⟩ := hs
  cases hdoes with
  | backendRequest request =>
    refine ⟨hok, hrunning, hunused, fun hnil other hother => ?_, hopened⟩
    rcases List.mem_append.mp hother with hold | hnew
    · exact hrequests hnil other hold
    · obtain rfl := List.mem_singleton.mp hnew
      refine Bool.eq_false_iff.mpr fun hexit => absurd (hwaits hexit) ?_
      simp [show s.wrapper.channel = none from hnil]
  | backendClose =>
    refine ⟨hok, hrunning, hunused, hrequests, fun hnil => ?_⟩
    simp [BackendWaits, show s.wrapper.channel = none from hnil] at hwaits
  | clientEOF | clientClose | accepted | closed => exact ⟨hok, hrunning, nofun, nofun, nofun⟩
  | exited _ hsent | closeOnOutputComplete _ _ hsent =>
    refine ⟨hok, hrunning, ?_, ?_, ?_⟩ <;> exact fun hnil => nomatch hsent.symm.trans hnil
  | @selectRequest request requests hqueue =>
    rw [hqueue] at hrequests
    refine ⟨hok, hrunning, fun hnil => ?_, fun hnil other hother => ?_, hopened⟩
    · exact hrequests hnil request List.mem_cons_self
    · exact hrequests hnil other (List.mem_cons_of_mem request hother)
  | selectClosed _ hclosed =>
    refine ⟨hok, hrunning, fun hnil => ?_, hrequests, hopened⟩
    rw [hopened hnil] at hclosed
    cases hclosed
  | selectDone | replied => exact ⟨hok, hrunning, fun _ => rfl, hrequests, hopened⟩
  | panicked huses _ hnil =>
    rw [hunused hnil] at huses
    cases huses
  | onClose | closeWriteStdin | closeStdin | closedByShutdown =>
    exact ⟨hok, hrunning, hunused, hrequests, by simpa using hopened⟩
  | _ => exact ⟨hok, hrunning, hunused, hrequests, hopened⟩

/-- The process does not panic as long as the backing server waits for the
acceptance of the client's channel, whatever else happens in whatever order. -/
theorem not_panicked_of_backend_waits {actions : List Action} {s : State}
    (hrun : system.run actions = some s) (hwaits : system.Meets BackendWaits system.init actions) :
    s.panicked = false :=
  (system.runFrom_invariant_of_meets (fun _ _ _ hs hwaits hstep => quiet_step hs hwaits hstep)
    quiet_init hwaits hrun).running

theorem not_panicked_after_acceptance :
    ∃ s, system.run [.returned, .accept true, .request .exec .accepted,
        .backendRequest ⟨"exit-status", false, [0, 0, 0, 0]⟩, .backendClose,
        .select, .handle, .select, .handle] = some s ∧ s.panicked = false :=
  TransitionSystem.exists_run _ rfl fun _ hrun => not_panicked_of_backend_waits hrun (by decide)

/-- The backing server closes the new channel before the client's is accepted. -/
theorem early_close_panics : ∃ s, system.run [.backendClose, .select, .handle] = some s ∧
      s.stage = .returning ∧ s.wrapper.channel = none ∧ s.panicked = true :=
  ⟨_, rfl, rfl, rfl, rfl⟩

end ContainerSSH.SSHProxy.Session
