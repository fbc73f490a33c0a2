/-
Isolation between request kinds: which sections of the configuration a request depends on.
-/
import ContainerSSH.SecurityPolicy
import Mathlib.Data.Fintype.EquivFin

namespace ContainerSSH

inductive RequestKind where
  | env
  | command
  | shell
  | subsystem
  | tty
  | signal
  | x11Forwarding
  | forwarding
  | reverseForwarding
  | socketForwarding
  | socketListen
  | window
  | sessionChannel
deriving DecidableEq

def Call.kind : Call → RequestKind
  | .session _ (.env _ _ _) => .env
  | .session _ (.pty _ _ _ _ _ _ _) => .tty
  | .session _ (.exec _ _) => .command
  | .session _ (.shell _) => .shell
  | .session _ (.subsystem _ _) => .subsystem
  | .session _ (.signal _ _) => .signal
  | .session _ (.window _ _ _ _ _) => .window
  | .session _ (.x11 _ _ _ _ _) => .x11Forwarding
  | .connection (.sessionChannel _ _) => .sessionChannel
  | .connection (.tcpForwardChannel _ _ _ _ _) => .forwarding
  | .connection (.tcpReverseForward _ _) => .reverseForwarding
  | .connection (.cancelTCPReverseForward _ _) => .reverseForwarding
  | .connection (.directStreamLocal _ _) => .socketForwarding
  | .connection (.streamLocal _) => .socketListen
  | .connection (.cancelStreamLocal _) => .socketListen

def RequestKind.SameSection (c₁ c₂ : SecurityConfig) : RequestKind → Prop
  | env => c₁.env = c₂.env
  | command => c₁.command = c₂.command
  | shell => c₁.shell = c₂.shell
  | subsystem => c₁.subsystem = c₂.subsystem
  | tty => c₁.tty = c₂.tty
  | signal => c₁.signal = c₂.signal
  | x11Forwarding => c₁.forwarding.x11ForwardingMode = c₂.forwarding.x11ForwardingMode
  | forwarding => c₁.forwarding.forwardingMode = c₂.forwarding.forwardingMode
  | reverseForwarding => c₁.forwarding.reverseForwardingMode = c₂.forwarding.reverseForwardingMode
  | socketForwarding => c₁.forwarding.socketForwardingMode = c₂.forwarding.socketForwardingMode
  | socketListen => c₁.forwarding.socketListenMode = c₂.forwarding.socketListenMode
  | window => True
  | sessionChannel => True

/-- The configurations differ at most in the sections of other kinds. -/
structure AgreeOn (kind : RequestKind) (c₁ c₂ : SecurityConfig) : Prop where
  defaultMode : c₁.defaultMode = c₂.defaultMode
  forceCommand : c₁.forceCommand = c₂.forceCommand
  maxSessions : c₁.maxSessions = c₂.maxSessions
  sameSection : kind.SameSection c₁ c₂

def Served.observe (served : Served) : Bool × Trace := (served.1.isSome, served.2)

/-- The two configurations serve the requests of the kind alike. -/
def Isolated (kind : RequestKind) (c₁ c₂ : SecurityConfig) : Prop :=
  ∀ (backend : Backend) (calls : List Call), (∀ c ∈ calls, c.kind = kind) →
    ((SSHConnectionHandler.new c₁ backend).serveAll [] calls).map Served.observe =
      ((SSHConnectionHandler.new c₂ backend).serveAll [] calls).map Served.observe

def SignalModesCompatible (c₁ c₂ : SecurityConfig) : Prop :=
  c₁.getPolicy c₁.shell.mode = c₂.getPolicy c₂.shell.mode ∨ (c₁.signal.allow = [] ∧
      c₁.getPolicy c₁.shell.mode ≠ executionPolicyEnable ∧
      c₂.getPolicy c₂.shell.mode ≠ executionPolicyEnable)

instance (c₁ c₂ : SecurityConfig) : Decidable (SignalModesCompatible c₁ c₂) :=
  inferInstanceAs (Decidable (_ ∨ _))

def SameStep (c₁ c₂ : SecurityConfig) (backend : Backend) (c : Call) : Prop :=
  ∀ (t : Trace) (count : Nat), ((SSHConnectionHandler.mk c₁ backend count).serve t c).2.observe =
        ((SSHConnectionHandler.mk c₂ backend count).serve t c).2.observe ∧
      ((SSHConnectionHandler.mk c₁ backend count).serve t c).1.sessionCount =
        ((SSHConnectionHandler.mk c₂ backend count).serve t c).1.sessionCount

theorem SSHConnectionHandler.serve_fst (s : SSHConnectionHandler) (t : Trace) (c : Call) :
    (s.serve t c).1 = ⟨s.config, s.backend, (s.serve t c).1.sessionCount⟩ := by
  obtain ⟨hconfig, hbackend⟩ := s.serve_config_backend t c
  rw [← hconfig, ← hbackend]

variable {c₁ c₂ : SecurityConfig}

theorem serveAll_observe_eq {backend : Backend} (calls : List Call)
    (hsame : ∀ c ∈ calls, SameStep c₁ c₂ backend c) (t : Trace) (count : Nat) :
    ((SSHConnectionHandler.mk c₁ backend count).serveAll t calls).map Served.observe =
      ((SSHConnectionHandler.mk c₂ backend count).serveAll t calls).map
        Served.observe := by
  induction calls generalizing t count with
  | nil => rfl
  | cons c rest ih =>
    obtain ⟨hobserve, hcount⟩ := hsame c List.mem_cons_self t count
    have htrace := congrArg Prod.snd hobserve
    simp only [Served.observe] at htrace
    simp only [SSHConnectionHandler.serveAll, List.map_cons, hobserve, List.cons.injEq, true_and]
    rw [SSHConnectionHandler.serve_fst,
      SSHConnectionHandler.serve_fst ⟨c₂, backend, count⟩, hcount, htrace]
    exact ih (fun c' hc' => hsame c' (List.mem_cons_of_mem _ hc')) _ _

theorem getPolicy_congr (hdefault : c₁.defaultMode = c₂.defaultMode)
    (primary : SecurityExecutionPolicy) : c₁.getPolicy primary = c₂.getPolicy primary := by
  simp only [SecurityConfig.getPolicy, hdefault]

theorem forceWithOriginal_congr (hforce : c₁.forceCommand = c₂.forceCommand)
    (backend : Backend) (channel : Nat) (t : Trace) (requestID : UInt64) (original : String) :
    (SessionHandler.mk c₁ backend channel).forceWithOriginal t requestID original =
      (SessionHandler.mk c₂ backend channel).forceWithOriginal t requestID
        original := by
  unfold SessionHandler.forceWithOriginal
  rw [hforce]
  rfl

section
open SessionHandler

theorem AgreeOn.session_serve_eq {channel : Nat} {request : SessionRequest}
    (hagree : AgreeOn (Call.session channel request).kind c₁ c₂)
    (hsignal : (Call.session channel request).kind ≠ .signal) (backend : Backend) (t : Trace) :
    (SessionHandler.mk c₁ backend channel).serve t request =
      (SessionHandler.mk c₂ backend channel).serve t request := by
  obtain ⟨hdefault, hforce, -, hsection⟩ := hagree
  have hpolicy := getPolicy_congr hdefault
  cases request with
  | env =>
    have hsec : c₁.env = c₂.env := hsection
    simp only [serve, onEnvRequest, getPolicy, call, hsec, hpolicy]
  | pty =>
    have hsec : c₁.tty = c₂.tty := hsection
    simp only [serve, onPtyRequest, getPolicy, call, hsec, hpolicy]
  | exec =>
    have hsec : c₁.command = c₂.command := hsection
    simp only [serve, onExecRequest, getPolicy, call, forceWithOriginal_congr hforce, hsec,
      hforce, hpolicy]
    congr!
  | shell =>
    have hsec : c₁.shell = c₂.shell := hsection
    simp only [serve, onShell, getPolicy, call, hsec, hforce, hpolicy]
  | subsystem =>
    have hsec : c₁.subsystem = c₂.subsystem := hsection
    simp only [serve, onSubsystem, getPolicy, call, forceWithOriginal_congr hforce, hsec,
      hforce, hpolicy]
    congr!
  | signal => exact absurd rfl hsignal
  | window => rfl
  | x11 =>
    have hsec : c₁.forwarding.x11ForwardingMode = c₂.forwarding.x11ForwardingMode := hsection
    simp only [serve, onX11Request, getPolicy, call, hsec, hpolicy]

end

section
open SSHConnectionHandler

theorem AgreeOn.connection_sameStep {request : ConnectionRequest}
    (hagree : AgreeOn (Call.connection request).kind c₁ c₂) (backend : Backend) :
    SameStep c₁ c₂ backend (.connection request) := by
  obtain ⟨hdefault, -, hmax, hsection⟩ := hagree
  have hpolicy := getPolicy_congr hdefault
  intro t count
  cases request with
  | sessionChannel =>
    simp only [serve, onSessionChannel, call, hmax]
    split
    · exact ⟨rfl, rfl⟩
    · split <;> exact ⟨rfl, rfl⟩
  | tcpForwardChannel =>
    have hsec : c₁.forwarding.forwardingMode = c₂.forwarding.forwardingMode := hsection
    simp only [serve, onTCPForwardChannel, getPolicy, call, hsec, hpolicy, and_self]
  | tcpReverseForward =>
    have hsec : c₁.forwarding.reverseForwardingMode = c₂.forwarding.reverseForwardingMode := hsection
    simp only [serve, onRequestTCPReverseForward, getPolicy, call, hsec, hpolicy, and_self]
  | cancelTCPReverseForward | cancelStreamLocal => exact ⟨rfl, rfl⟩
  | directStreamLocal =>
    have hsec : c₁.forwarding.socketForwardingMode = c₂.forwarding.socketForwardingMode := hsection
    simp only [serve, onDirectStreamLocal, getPolicy, call, hsec, hpolicy, and_self]
  | streamLocal =>
    have hsec : c₁.forwarding.socketListenMode = c₂.forwarding.socketListenMode := hsection
    simp only [serve, onRequestStreamLocal, getPolicy, call, hsec, hpolicy, and_self]

end

theorem AgreeOn.sameStep {c : Call} (hagree : AgreeOn c.kind c₁ c₂)
    (hsignal : c.kind ≠ .signal) (backend : Backend) : SameStep c₁ c₂ backend c := by
  cases c with
  | session =>
    intro t count
    have hserve := hagree.session_serve_eq hsignal backend t
    exact ⟨congrArg Served.observe hserve, rfl⟩
  | connection => exact hagree.connection_sameStep backend

/-! ### Signals

The signal handler decides by the shell section, so isolation of signals is a
condition on the shell modes of the two configurations. -/

def SecurityConfig.SignalAdmits (c : SecurityConfig) (name : String) : Prop :=
  ListsAdmit (c.getPolicy c.shell.mode) c.signal.allow c.signal.deny name

theorem onSignal_forwardsWhen (s : SessionHandler)
    (hvalid : s.config.validate = .ok ()) (t : Trace) (requestID : UInt64) (signal : String) :
    ForwardsWhen (s.config.SignalAdmits signal)
      (s.onSignal t requestID signal) (s.call t (.signal requestID signal)) := by
  obtain ⟨hdefault, -, -, hshell, -⟩ := s.config.validate_eq_ok_iff.mp hvalid
  exact filterByLists_forwardsWhen (s.config.getPolicy_effective hdefault hshell) _ _ _ _ _ _ _

theorem onSignal_observe_eq_iff (hvalid₁ : c₁.validate = .ok ())
    (hvalid₂ : c₂.validate = .ok ()) (backend : Backend) (channel : Nat) (t : Trace)
    (requestID : UInt64) (signal : String) :
    ((SessionHandler.mk c₁ backend channel).onSignal t requestID signal).observe =
      ((SessionHandler.mk c₂ backend channel).onSignal t requestID signal).observe ↔
    (c₁.SignalAdmits signal ↔ c₂.SignalAdmits signal) := by
  obtain ⟨hforward₁, hreject₁⟩ := onSignal_forwardsWhen
    ⟨c₁, backend, channel⟩ hvalid₁ t requestID signal
  obtain ⟨hforward₂, hreject₂⟩ := onSignal_forwardsWhen
    ⟨c₂, backend, channel⟩ hvalid₂ t requestID signal
  by_cases h₁ : c₁.SignalAdmits signal <;> by_cases h₂ : c₂.SignalAdmits signal
  · rw [hforward₁ h₁, hforward₂ h₂]
    simp [h₁, h₂, SessionHandler.call]
  · obtain ⟨err, herr⟩ := hreject₂ h₂
    rw [hforward₁ h₁, herr]
    simp [h₁, h₂, SessionHandler.call, Backend.call, reject, Served.observe]
  · obtain ⟨err, herr⟩ := hreject₁ h₁
    rw [hforward₂ h₂, herr]
    simp [h₁, h₂, SessionHandler.call, Backend.call, reject, Served.observe]
  · obtain ⟨err₁, herr₁⟩ := hreject₁ h₁
    obtain ⟨err₂, herr₂⟩ := hreject₂ h₂
    rw [herr₁, herr₂]
    simp [h₁, h₂, reject, Served.observe]

theorem exists_name_notMem (names : List String) : ∃ name, name ∉ names := by
  obtain ⟨name, hname⟩ := Infinite.exists_notMem_finset names.toFinset
  exact ⟨name, by simpa using hname⟩

theorem listsAdmit_enable_ne {mode : SecurityExecutionPolicy}
    (hmode : mode ≠ executionPolicyEnable) (allow deny : List String) :
    ∃ name, ListsAdmit executionPolicyEnable allow deny name ∧
      ¬ ListsAdmit mode allow deny name := by
  obtain ⟨name, hname⟩ := exists_name_notMem (allow ++ deny)
  simp only [List.mem_append, not_or] at hname
  exact ⟨name, .inl ⟨rfl, hname.2⟩, by simp [ListsAdmit, hmode, hname.1]⟩

theorem listsAdmit_eq_iff {m₁ m₂ : SecurityExecutionPolicy}
    (hm₁ : m₁.Effective) (hm₂ : m₂.Effective) (allow deny : List String) :
    (∀ name, ListsAdmit m₁ allow deny name ↔ ListsAdmit m₂ allow deny name) ↔
      m₁ = m₂ ∨ (allow = [] ∧ m₁ ≠ executionPolicyEnable ∧ m₂ ≠ executionPolicyEnable) := by
  obtain ⟨hef, hed, hfd⟩ := executionPolicy_distinct
  by_cases h₁ : m₁ = executionPolicyEnable
  · subst h₁
    by_cases h₂ : m₂ = executionPolicyEnable
    · simp [h₂]
    · obtain ⟨name, hadmit, hnot⟩ := listsAdmit_enable_ne h₂ allow deny
      have hleft : ¬ ∀ name, ListsAdmit executionPolicyEnable allow deny name ↔
          ListsAdmit m₂ allow deny name :=
        fun hall => hnot ((hall name).mp hadmit)
      simp [hleft, Ne.symm h₂]
  · by_cases h₂ : m₂ = executionPolicyEnable
    · subst h₂
      obtain ⟨name, hadmit, hnot⟩ := listsAdmit_enable_ne h₁ allow deny
      have hleft : ¬ ∀ name, ListsAdmit m₁ allow deny name ↔
          ListsAdmit executionPolicyEnable allow deny name :=
        fun hall => hnot ((hall name).mpr hadmit)
      simp [hleft, h₁]
    · rcases hm₁.resolve_left h₁ with rfl | rfl <;>
        rcases hm₂.resolve_left h₂ with rfl | rfl
      · simp
      · simp [ListsAdmit, hef.symm, hed.symm, hfd, hfd.symm, List.eq_nil_iff_forall_not_mem]
      · simp [ListsAdmit, hef.symm, hed.symm, hfd.symm, List.eq_nil_iff_forall_not_mem]
      · simp

theorem signalAdmits_iff_compatible (hvalid₁ : c₁.validate = .ok ())
    (hvalid₂ : c₂.validate = .ok ()) (hsection : c₁.signal = c₂.signal) :
    (∀ name, c₁.SignalAdmits name ↔ c₂.SignalAdmits name) ↔ SignalModesCompatible c₁ c₂ := by
  obtain ⟨hdefault₁, -, -, hshell₁, -⟩ := c₁.validate_eq_ok_iff.mp hvalid₁
  obtain ⟨hdefault₂, -, -, hshell₂, -⟩ := c₂.validate_eq_ok_iff.mp hvalid₂
  simp only [SecurityConfig.SignalAdmits, SignalModesCompatible, hsection]
  exact listsAdmit_eq_iff (c₁.getPolicy_effective hdefault₁ hshell₁)
    (c₂.getPolicy_effective hdefault₂ hshell₂) _ _

theorem signal_sameStep (hvalid₁ : c₁.validate = .ok ()) (hvalid₂ : c₂.validate = .ok ())
    (hadmits : ∀ name, c₁.SignalAdmits name ↔ c₂.SignalAdmits name)
    (backend : Backend) {c : Call} (hkind : c.kind = .signal) : SameStep c₁ c₂ backend c := by
  rcases c with ⟨channel, request⟩ | request
  · cases request with
    | signal id name =>
      intro t count
      exact ⟨(onSignal_observe_eq_iff hvalid₁ hvalid₂ backend channel t id
        name).mpr (hadmits name), rfl⟩
    | _ => exact absurd hkind (by simp [Call.kind])
  · cases request <;> exact absurd hkind (by simp [Call.kind])

theorem Isolated.signalAdmits_iff (hvalid₁ : c₁.validate = .ok ())
    (hvalid₂ : c₂.validate = .ok ()) (hisolated : Isolated .signal c₁ c₂) (name : String) :
    c₁.SignalAdmits name ↔ c₂.SignalAdmits name := by
  have hone := hisolated acceptingBackend [.session 0 (.signal 0 name)] (by simp [Call.kind])
  simp only [SSHConnectionHandler.serveAll, List.map_cons, List.map_nil,
    List.cons.injEq, and_true] at hone
  exact (onSignal_observe_eq_iff hvalid₁ hvalid₂ acceptingBackend 0 [] 0 name).mp hone

/-- Isolation holds for every kind but signal, and for signals exactly when the
two shell sections lead to the same decisions. -/
theorem isolated_iff_signalModesCompatible (kind : RequestKind)
    (c₁ c₂ : SecurityConfig) (hvalid₁ : c₁.validate = .ok ())
    (hvalid₂ : c₂.validate = .ok ()) (hagree : AgreeOn kind c₁ c₂) :
    Isolated kind c₁ c₂ ↔ (kind = .signal → SignalModesCompatible c₁ c₂) := by
  constructor
  · rintro hisolated rfl
    exact (signalAdmits_iff_compatible hvalid₁ hvalid₂ hagree.sameSection).mp
      (hisolated.signalAdmits_iff hvalid₁ hvalid₂)
  · intro hcompatible backend calls hcalls
    refine serveAll_observe_eq calls (fun c hc => ?_) [] 0
    have hkind := hcalls c hc
    by_cases hsignal : kind = .signal
    · subst hsignal
      have hadmits := (signalAdmits_iff_compatible hvalid₁ hvalid₂
        hagree.sameSection).mpr (hcompatible rfl)
      exact signal_sameStep hvalid₁ hvalid₂ hadmits backend hkind
    · subst hkind
      exact hagree.sameStep hsignal backend

def shellDisabled : SecurityConfig := { shell := ⟨executionPolicyDisable⟩ }

theorem agreeOn_shellDisabled {kind : RequestKind} (hkind : kind ≠ .shell) :
    AgreeOn kind {} shellDisabled := by
  refine ⟨rfl, rfl, rfl, ?_⟩
  cases kind with
  | shell => exact absurd rfl hkind
  | window | sessionChannel => trivial
  | _ => rfl

theorem exec_isolated_from_shellDisabled :
    SecurityConfig.validate {} = .ok () ∧ shellDisabled.validate = .ok () ∧
      AgreeOn .command {} shellDisabled ∧ Isolated .command {} shellDisabled :=
  ⟨rfl, rfl, agreeOn_shellDisabled (by decide),
    (isolated_iff_signalModesCompatible .command {} shellDisabled rfl rfl
      (agreeOn_shellDisabled (by decide))).mpr (by decide)⟩

theorem signal_depends_on_shell_mode :
    SecurityConfig.validate {} = .ok () ∧ shellDisabled.validate = .ok () ∧
      AgreeOn .signal {} shellDisabled ∧ ¬ Isolated .signal {} shellDisabled := by
  refine ⟨rfl, rfl, agreeOn_shellDisabled (by decide), fun hisolated => ?_⟩
  have hadmits := hisolated.signalAdmits_iff rfl rfl "TERM"
  exact absurd (hadmits.mp (.inl ⟨rfl, by simp⟩))
    (by simp [SecurityConfig.SignalAdmits, ListsAdmit, shellDisabled,
      SecurityConfig.getPolicy, executionPolicyDisable,
      executionPolicyUnconfigured, executionPolicyEnable, executionPolicyFilter])

end ContainerSSH
