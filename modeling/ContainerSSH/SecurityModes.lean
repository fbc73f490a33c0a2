/-
The modes that the handlers switch on.
-/
import ContainerSSH.SecurityIsolation

namespace ContainerSSH

/-- The mode in the section of the configuration that the handler of a call reads. -/
def SecurityConfig.ownMode (c : SecurityConfig) : Call → Option SecurityExecutionPolicy
  | .session _ (.env _ _ _) => some c.env.mode
  | .session _ (.pty _ _ _ _ _ _ _) => some c.tty.mode
  | .session _ (.exec _ _) => some c.command.mode
  | .session _ (.shell _) => some c.shell.mode
  | .session _ (.subsystem _ _) => some c.subsystem.mode
  -- as in `OnSignal`, not the mode of the signal section
  | .session _ (.signal _ _) => some c.shell.mode
  | .session _ (.window _ _ _ _ _) => none
  | .session _ (.x11 _ _ _ _ _) => some c.forwarding.x11ForwardingMode
  | .connection (.sessionChannel _ _) => none
  | .connection (.tcpForwardChannel _ _ _ _ _) => some c.forwarding.forwardingMode
  | .connection (.tcpReverseForward _ _) => some c.forwarding.reverseForwardingMode
  | .connection (.cancelTCPReverseForward _ _) => none
  | .connection (.directStreamLocal _ _) => some c.forwarding.socketForwardingMode
  | .connection (.streamLocal _) => some c.forwarding.socketListenMode
  | .connection (.cancelStreamLocal _) => none

/-- The mode that the handler of a call switches on; a call without one is passed on. -/
def SecurityConfig.switchedMode (c : SecurityConfig) (call : Call) :
    Option SecurityExecutionPolicy :=
  (c.ownMode call).map c.getPolicy

def RequestKind.IsForwarding : RequestKind → Prop
  | x11Forwarding => True
  | forwarding => True
  | reverseForwarding => True
  | socketForwarding => True
  | socketListen => True
  | _ => False

/-- The same configuration with one mode in every section. -/
def SecurityConfig.setModes (c : SecurityConfig) (mode : SecurityExecutionPolicy) :
    SecurityConfig :=
  { c with
    defaultMode := mode
    env := { c.env with mode := mode }
    command := { c.command with mode := mode }
    shell := { mode := mode }
    subsystem := { c.subsystem with mode := mode }
    forwarding := ⟨mode, mode, mode, mode, mode⟩
    tty := { mode := mode }
    signal := { c.signal with mode := mode } }

/-- Every handler switches on a recognised mode, and what is not rejected is
passed on by the mode enable or by the mode filter. -/
structure FailsClosed (c : SecurityConfig) : Prop where
  recognised : ∀ call mode, c.switchedMode call = some mode → mode.Effective
  closed : ∀ (backend : Backend) (count : Nat) (t : Trace) call mode,
    c.switchedMode call = some mode →
      ¬ ((SSHConnectionHandler.mk c backend count).serve t call).2.Rejected →
        mode = executionPolicyEnable ∨ mode = executionPolicyFilter

variable {mode : SecurityExecutionPolicy} {call : Call}

theorem SecurityConfig.getPolicy_ne_unconfigured (c : SecurityConfig)
    (primary : SecurityExecutionPolicy) :
    c.getPolicy primary ≠ executionPolicyUnconfigured := by
  unfold getPolicy
  split
  · assumption
  · split
    · assumption
    · decide

theorem SecurityConfig.getPolicy_getPolicy (c c' : SecurityConfig)
    (primary : SecurityExecutionPolicy) :
    c'.getPolicy (c.getPolicy primary) = c.getPolicy primary :=
  if_pos (c.getPolicy_ne_unconfigured primary)

/-- A handler reads no mode but the one it switches on: the call is served as
if every section had that mode. -/
theorem SSHConnectionHandler.serve_setModes (s : SSHConnectionHandler) (t : Trace)
    (hswitched : s.config.switchedMode call = some mode) :
    ((SSHConnectionHandler.mk (s.config.setModes mode) s.backend s.sessionCount).serve t call).2 =
      (s.serve t call).2 := by
  obtain ⟨own, hown, rfl⟩ := Option.map_eq_some_iff.mp hswitched
  cases call with
  | session channel request =>
    cases request <;> cases hown <;>
      simp only [serve, session, SessionHandler.serve, SessionHandler.onEnvRequest,
        SessionHandler.onPtyRequest, SessionHandler.onExecRequest, SessionHandler.onShell,
        SessionHandler.onSubsystem, SessionHandler.onSignal, SessionHandler.onX11Request,
        SessionHandler.forceWithOriginal, SessionHandler.call, SessionHandler.getPolicy,
        SecurityConfig.setModes, SecurityConfig.getPolicy_getPolicy] <;>
      congr
  | connection request =>
    cases request <;> cases hown <;>
      simp only [serve, onTCPForwardChannel, onRequestTCPReverseForward, onDirectStreamLocal,
        onRequestStreamLocal, call, getPolicy, SecurityConfig.setModes,
        SecurityConfig.getPolicy_getPolicy]

theorem SSHConnectionHandler.rejected_of_disabled (s : SSHConnectionHandler) (t : Trace)
    (hswitched : s.config.switchedMode call = some executionPolicyDisable) :
    (s.serve t call).2.Rejected := by
  rw [← s.serve_setModes t hswitched]
  cases call with
  | session channel request =>
    cases request <;> first | cases hswitched | exact ⟨_, rfl⟩
  | connection request =>
    cases request <;> first | cases hswitched | exact ⟨_, rfl⟩

theorem ForwardingConfig.validate_eq_ok_iff (f : ForwardingConfig) : f.validate = .ok () ↔
      f.reverseForwardingMode.Known ∧ f.forwardingMode.Known ∧
        f.socketForwardingMode.Known ∧ f.socketListenMode.Known ∧
        f.x11ForwardingMode.Known := by
  simp only [ForwardingConfig.validate, bind_eq_ok_iff]
  refine and_congr ?_ (and_congr ?_ (and_congr ?_ (and_congr ?_ ?_)))
  all_goals
    rw [← SecurityExecutionPolicy.validate_eq_ok_iff]
    split <;> simp [*]

theorem SecurityConfig.getPolicy_effective_iff (c : SecurityConfig)
    (hdefault : c.defaultMode.Known) (primary : SecurityExecutionPolicy) :
    (c.getPolicy primary).Effective ↔ primary.Known := by
  constructor
  · intro heffective
    by_cases hset : primary = executionPolicyUnconfigured
    · exact .inl hset
    · right
      simpa [getPolicy, hset, SecurityExecutionPolicy.Effective] using heffective
  · exact c.getPolicy_effective hdefault

variable {c : SecurityConfig}

theorem SecurityConfig.ownMode_known (hvalid : c.validate = .ok ())
    (hkind : ¬ call.kind.IsForwarding) (hown : c.ownMode call = some mode) :
    mode.Known := by
  obtain ⟨-, henv, hcommand, hshell, hsubsystem, htty, -, -⟩ := c.validate_eq_ok_iff.mp hvalid
  cases call with
  | session channel request =>
    cases request <;>
      simp only [Call.kind, RequestKind.IsForwarding, not_true_eq_false] at hkind <;>
      simp only [ownMode, Option.some.injEq, reduceCtorEq] at hown <;>
      subst hown <;> assumption
  | connection request =>
    cases request <;>
      simp only [Call.kind, RequestKind.IsForwarding, not_true_eq_false]
        at hkind
    simp [ownMode] at hown

theorem SecurityConfig.ownMode_known_of_forwarding
    (hforwarding : c.forwarding.validate = .ok ()) (hkind : call.kind.IsForwarding)
    (hown : c.ownMode call = some mode) : mode.Known := by
  obtain ⟨hreverse, hforward, hsocket, hlisten, hx11⟩ :=
    c.forwarding.validate_eq_ok_iff.mp hforwarding
  cases call with
  | session channel request =>
    cases request <;> simp only [Call.kind, RequestKind.IsForwarding] at hkind
    simp only [ownMode, Option.some.injEq] at hown
    exact hown ▸ hx11
  | connection request =>
    cases request <;>
      simp only [ownMode, Option.some.injEq, reduceCtorEq] at hown <;>
      subst hown <;> assumption

theorem FailsClosed.forwarding_valid (hdefault : c.defaultMode.Known) (hcloses : FailsClosed c) :
    c.forwarding.validate = .ok () := by
  have hknown : ∀ call mode, c.ownMode call = some mode → mode.Known := by
    intro call mode hown
    apply (c.getPolicy_effective_iff hdefault mode).mp
    apply hcloses.recognised call
    rw [SecurityConfig.switchedMode, hown, Option.map_some]
  rw [c.forwarding.validate_eq_ok_iff]
  refine ⟨?_, ?_, ?_, ?_, ?_⟩
  · exact hknown (.connection (.tcpReverseForward "" 0)) _ rfl
  · exact hknown (.connection (.tcpForwardChannel 0 "" 0 "" 0)) _ rfl
  · exact hknown (.connection (.directStreamLocal 0 "")) _ rfl
  · exact hknown (.connection (.streamLocal "")) _ rfl
  · exact hknown (.session 0 (.x11 0 false "" "" 0)) _ rfl

theorem FailsClosed.of_forwarding_valid (hvalid : c.validate = .ok ())
    (hforwarding : c.forwarding.validate = .ok ()) : FailsClosed c := by
  obtain ⟨hdefault, -⟩ := c.validate_eq_ok_iff.mp hvalid
  have hrecognised : ∀ call mode, c.switchedMode call = some mode → mode.Effective := by
    intro call mode hswitched
    obtain ⟨own, hown, rfl⟩ := Option.map_eq_some_iff.mp hswitched
    apply c.getPolicy_effective hdefault
    by_cases hkind : call.kind.IsForwarding
    · exact SecurityConfig.ownMode_known_of_forwarding hforwarding hkind hown
    · exact SecurityConfig.ownMode_known hvalid hkind hown
  refine ⟨hrecognised, fun backend count t call mode hswitched hserved => ?_⟩
  rcases hrecognised call mode hswitched with rfl | rfl | rfl
  · exact .inl rfl
  · exact .inr rfl
  · exact absurd (SSHConnectionHandler.rejected_of_disabled ⟨c, backend, count⟩ t hswitched) hserved

/-- Every handler decides by the mode it is said to switch on, and a valid
configuration fails closed if and only if its forwarding section, which
`Validate` does not look at, is valid as well. -/
theorem failsClosed_iff_forwarding_valid (c : SecurityConfig) (hvalid : c.validate = .ok ()) :
    (∀ (backend : Backend) (count : Nat) (t : Trace) call mode, c.switchedMode call = some mode →
      ((SSHConnectionHandler.mk c backend count).serve t call).2 =
        ((SSHConnectionHandler.mk (c.setModes mode) backend count).serve t call).2) ∧
      (FailsClosed c ↔ c.forwarding.validate = .ok ()) := by
  obtain ⟨hdefault, -⟩ := c.validate_eq_ok_iff.mp hvalid
  refine ⟨fun backend count t call mode hswitched => ?_, ?_⟩
  · exact (SSHConnectionHandler.serve_setModes ⟨c, backend, count⟩ t hswitched).symm
  · exact ⟨fun hcloses => hcloses.forwarding_valid hdefault, .of_forwarding_valid hvalid⟩

def filteredConfig : SecurityConfig :=
  { defaultMode := executionPolicyDisable
    env := { mode := executionPolicyFilter, allow := ["LANG"] }
    forwarding := { forwardingMode := executionPolicyEnable, x11ForwardingMode := ⟨""⟩ } }

theorem failsClosed_filtered : filteredConfig.validate = .ok () ∧ FailsClosed filteredConfig :=
  ⟨rfl, (failsClosed_iff_forwarding_valid filteredConfig rfl).2.mpr rfl⟩

def misspelledForwarding : SecurityConfig := { forwarding := { forwardingMode := ⟨"disabled"⟩ } }

theorem misspelledForwarding_reaches_backend : misspelledForwarding.validate = .ok () ∧
      ¬ FailsClosed misspelledForwarding ∧
      ((SSHConnectionHandler.new misspelledForwarding acceptingBackend).serve []
        (.connection (.tcpForwardChannel 1 "10.0.0.1" 22 "" 0))).2 = acceptingBackend.call []
            (.connection (.tcpForwardChannel 1 "10.0.0.1" 22 "" 0)) := by
  refine ⟨rfl, fun hcloses => ?_, rfl⟩
  have hvalid := hcloses.forwarding_valid (.inl rfl)
  rw [ForwardingConfig.validate_eq_ok_iff] at hvalid
  exact absurd hvalid.2.1 (by decide)

end ContainerSSH
