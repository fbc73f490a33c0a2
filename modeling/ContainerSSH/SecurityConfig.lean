/-
The security section of the configuration and its validation.
-/
import ContainerSSH.Message

namespace ContainerSSH

structure ConfigError where
  message : String
  optionPath : List String

def wrapOption (option : String) : Except ConfigError Unit → Except ConfigError Unit
  | .ok () => .ok ()
  | .error err => .error { err with optionPath := option :: err.optionPath }

structure SecurityExecutionPolicy where
  mode : String
deriving DecidableEq

def executionPolicyUnconfigured : SecurityExecutionPolicy := ⟨""⟩
def executionPolicyEnable : SecurityExecutionPolicy := ⟨"enable"⟩
def executionPolicyFilter : SecurityExecutionPolicy := ⟨"filter"⟩
def executionPolicyDisable : SecurityExecutionPolicy := ⟨"disable"⟩

def SecurityExecutionPolicy.validate (e : SecurityExecutionPolicy) :
    Except ConfigError Unit :=
  if e = executionPolicyUnconfigured ∨ e = executionPolicyEnable ∨
      e = executionPolicyFilter ∨ e = executionPolicyDisable then
    .ok ()
  else .error ⟨"invalid mode: " ++ e.mode, []⟩

structure SecurityEnvConfig where
  mode : SecurityExecutionPolicy := executionPolicyUnconfigured
  allow : List String := []
  deny : List String := []

structure CommandConfig where
  mode : SecurityExecutionPolicy := executionPolicyUnconfigured
  allow : List String := []

structure SecurityShellConfig where
  mode : SecurityExecutionPolicy := executionPolicyUnconfigured

structure SubsystemConfig where
  mode : SecurityExecutionPolicy := executionPolicyUnconfigured
  allow : List String := []
  deny : List String := []

structure ForwardingConfig where
  reverseForwardingMode : SecurityExecutionPolicy := executionPolicyDisable
  forwardingMode : SecurityExecutionPolicy := executionPolicyDisable
  socketForwardingMode : SecurityExecutionPolicy := executionPolicyDisable
  socketListenMode : SecurityExecutionPolicy := executionPolicyDisable
  x11ForwardingMode : SecurityExecutionPolicy := executionPolicyDisable

structure SecurityTTYConfig where
  mode : SecurityExecutionPolicy := executionPolicyUnconfigured

structure SecuritySignalConfig where
  mode : SecurityExecutionPolicy := executionPolicyUnconfigured
  allow : List String := []
  deny : List String := []

structure SecurityConfig where
  defaultMode : SecurityExecutionPolicy := executionPolicyUnconfigured
  forceCommand : String := ""
  env : SecurityEnvConfig := {}
  command : CommandConfig := {}
  shell : SecurityShellConfig := {}
  subsystem : SubsystemConfig := {}
  forwarding : ForwardingConfig := {}
  tty : SecurityTTYConfig := {}
  signal : SecuritySignalConfig := {}
  maxSessions : Int := -1

def validateMode (mode : SecurityExecutionPolicy) : Except ConfigError Unit :=
  wrapOption "mode" mode.validate

def ForwardingConfig.validate (f : ForwardingConfig) :
    Except ConfigError Unit := do
  let invalid (mode : SecurityExecutionPolicy) : Except ConfigError Unit :=
    match mode.validate with
    | .ok () => .ok ()
    | .error err => .error ⟨"invalid mode (" ++ err.message ++ ")", []⟩
  invalid f.reverseForwardingMode
  invalid f.forwardingMode
  invalid f.socketForwardingMode
  invalid f.socketListenMode
  invalid f.x11ForwardingMode

def SecurityConfig.validate (c : SecurityConfig) :
    Except ConfigError Unit := do
  wrapOption "defaultMode" c.defaultMode.validate
  wrapOption "env" (validateMode c.env.mode)
  wrapOption "command" (validateMode c.command.mode)
  wrapOption "shell" (validateMode c.shell.mode)
  wrapOption "subsystem" (validateMode c.subsystem.mode)
  wrapOption "tty" (validateMode c.tty.mode)
  wrapOption "signal" (validateMode c.signal.mode)
  if c.maxSessions < -1 then
    .error ⟨"invalid maxSessions setting: " ++ toString c.maxSessions, ["maxSessions"]⟩
  else .ok ()

def SecurityExecutionPolicy.Known (e : SecurityExecutionPolicy) : Prop :=
  e = executionPolicyUnconfigured ∨ e = executionPolicyEnable ∨
    e = executionPolicyFilter ∨ e = executionPolicyDisable

instance (e : SecurityExecutionPolicy) : Decidable e.Known := inferInstanceAs (Decidable (_ ∨ _))

theorem SecurityExecutionPolicy.validate_eq_ok_iff
    (e : SecurityExecutionPolicy) : e.validate = .ok () ↔ e.Known := by
  by_cases hknown : e.Known
  · simp only [hknown, iff_true]
    exact if_pos hknown
  · simp only [hknown, iff_false]
    rw [show e.validate = .error ⟨"invalid mode: " ++ e.mode, []⟩ from
      if_neg hknown]
    exact fun heq => nomatch heq

theorem wrapOption_eq_ok_iff (option : String) (result : Except ConfigError Unit) :
    wrapOption option result = .ok () ↔ result = .ok () := by
  cases result with
  | ok | error => simp [wrapOption]

theorem bind_eq_ok_iff (first : Except ConfigError Unit) (rest : Unit → Except ConfigError Unit) :
    (first >>= rest) = .ok () ↔ first = .ok () ∧ rest () = .ok () := by
  cases first with
  | ok | error => simp [bind, Except.bind]

theorem SecurityConfig.validate_eq_ok_iff (c : SecurityConfig) : c.validate = .ok () ↔
      c.defaultMode.Known ∧ c.env.mode.Known ∧ c.command.mode.Known ∧
        c.shell.mode.Known ∧ c.subsystem.mode.Known ∧ c.tty.mode.Known ∧
        c.signal.mode.Known ∧ -1 ≤ c.maxSessions := by
  simp only [SecurityConfig.validate, bind_eq_ok_iff, wrapOption_eq_ok_iff,
    validateMode, SecurityExecutionPolicy.validate_eq_ok_iff]
  by_cases hmax : c.maxSessions < -1
  · simp [hmax]
  · have hle : -1 ≤ c.maxSessions := by omega
    simp [hle]

end ContainerSSH
