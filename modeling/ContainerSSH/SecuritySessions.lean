/-
The session limit of a connection.
-/
import ContainerSSH.SecurityPolicy
import ContainerSSH.TransitionSystem

namespace ContainerSSH

inductive SessionAction where
  | openChannel (channelID : UInt64) (extraData : List UInt8) (answer : Option GoError)
  | close (channelID : UInt64)

def SessionAction.IsClose : SessionAction → Prop
  | .openChannel _ _ _ => False
  | .close _ => True

structure SessionLayer where
  config : SecurityConfig
  sessionCount : Nat := 0
  openChannels : List UInt64 := []
  closedAtBackend : List UInt64 := []

namespace SessionLayer

variable (s : SessionLayer)

def onSessionChannel (channelID : UInt64) (extraData : List UInt8)
    (answer : Option GoError) : SSHConnectionHandler × Served :=
  SSHConnectionHandler.onSessionChannel
    ⟨s.config, ⟨fun _ _ => answer⟩, s.sessionCount⟩ [] channelID extraData

def onClose (channelID : UInt64) : SessionLayer :=
  { s with
    openChannels := s.openChannels.erase channelID
    closedAtBackend := s.closedAtBackend ++ [channelID] }

def step : SessionAction → Option SessionLayer
  | .openChannel channelID extraData answer =>
    let (handler, served) := s.onSessionChannel channelID extraData answer
    match served.1 with
    | some _ => some { s with sessionCount := handler.sessionCount }
    | none =>
      some { s with
        sessionCount := handler.sessionCount
        openChannels := channelID :: s.openChannels }
  | .close channelID => if channelID ∈ s.openChannels then some (s.onClose channelID) else none

end SessionLayer

def sessionLayer (config : SecurityConfig) : TransitionSystem SessionLayer SessionAction where
  init := { config }
  step := SessionLayer.step

namespace SessionLayer

/-- The counter is the number of open channels, and a channel beyond the limit is refused. -/
structure LimitEnforced (s : SessionLayer) : Prop where
  counted : s.sessionCount = s.openChannels.length
  refused : ∀ channelID extraData answer,
    (s.onSessionChannel channelID extraData answer).2.Rejected ↔
      s.config.maxSessions ≤ s.openChannels.length

def Full (s : SessionLayer) : Prop :=
  -1 < s.config.maxSessions ∧ s.config.maxSessions ≤ s.sessionCount

theorem onSessionChannel_cases (s : SessionLayer) (channelID : UInt64)
    (extraData : List UInt8) (answer : Option GoError) : (s.Full ∧
        (s.onSessionChannel channelID extraData answer).1.sessionCount = s.sessionCount ∧
        (s.onSessionChannel channelID extraData answer).2 =
          reject SSHConnectionHandler.errTooManySessions) ∨ (¬ s.Full ∧
        (s.onSessionChannel channelID extraData answer).1.sessionCount =
          s.sessionCount + (if answer.isNone then 1 else 0) ∧
        (s.onSessionChannel channelID extraData answer).2 = Backend.call ⟨fun _ _ => answer⟩ []
            (.connection (.sessionChannel channelID extraData))) := by
  have hcondition : (s.config.maxSessions > -1 ∧
      s.sessionCount ≥ s.config.maxSessions.toNat) ↔ s.Full := by
    simp only [Full]
    omega
  by_cases hfull : s.Full
  · left
    simp only [onSessionChannel, SSHConnectionHandler.onSessionChannel,
      if_pos (hcondition.mpr hfull)]
    exact ⟨hfull, trivial, trivial⟩
  · right
    simp only [onSessionChannel, SSHConnectionHandler.onSessionChannel,
      if_neg (fun h => hfull (hcondition.mp h)), SSHConnectionHandler.call]
    refine ⟨hfull, ?_, ?_⟩
    · cases answer <;> rfl
    · cases answer <;> rfl

theorem onSessionChannel_rejected_iff (s : SessionLayer) (channelID : UInt64)
    (extraData : List UInt8) (answer : Option GoError) :
    (s.onSessionChannel channelID extraData answer).2.Rejected ↔ s.Full := by
  rcases s.onSessionChannel_cases channelID extraData answer with
    ⟨hfull, -, hserved⟩ | ⟨hroom, -, hserved⟩
  · rw [hserved]
    exact iff_of_true (reject_rejected _) hfull
  · rw [hserved]
    exact iff_of_false (Backend.call_not_rejected _ _ _) hroom

def surplus (s : SessionLayer) : Int := s.sessionCount - s.openChannels.length

theorem step_config {s t : SessionLayer} {action : SessionAction}
    (hstep : s.step action = some t) : t.config = s.config := by
  cases action with
  | openChannel =>
    simp only [step] at hstep
    split at hstep <;> simp only [Option.some.injEq] at hstep <;>
      rw [← hstep]
  | close =>
    simp only [step, Option.ite_none_right_eq_some, Option.some.injEq]
      at hstep
    rw [← hstep.2, onClose]

theorem surplus_of_open {s t : SessionLayer} {channelID : UInt64}
    {extraData : List UInt8} {answer : Option GoError}
    (hstep : s.step (.openChannel channelID extraData answer) = some t) :
    t.surplus = s.surplus := by
  rcases s.onSessionChannel_cases channelID extraData answer with
    ⟨-, hcount, hserved⟩ | ⟨-, hcount, hserved⟩
  · simp only [step, hserved, reject] at hstep
    cases hstep
    simp [hcount]
  · cases answer with
    | none =>
      simp only [step, hserved, Backend.call] at hstep
      cases hstep
      simp only [surplus, hcount, Option.isNone_none, if_true, List.length_cons]
      omega
    | some =>
      simp only [step, hserved, Backend.call] at hstep
      cases hstep
      simp [hcount]

theorem surplus_of_close {s t : SessionLayer} {channelID : UInt64}
    (hstep : s.step (.close channelID) = some t) : t.surplus = s.surplus + 1 := by
  obtain ⟨hopen, ⟨⟩⟩ := Option.ite_none_right_eq_some.mp hstep
  have hpositive : 0 < s.openChannels.length := List.length_pos_of_mem hopen
  simp only [surplus, onClose, List.length_erase_of_mem hopen]
  omega

end SessionLayer

/-- The limit is enforced after exactly the runs that close no session
channel. -/
theorem limitEnforced_iff_no_close (config : SecurityConfig)
    (hmax : 0 ≤ config.maxSessions) {actions : List SessionAction}
    {s : SessionLayer} (hrun : (sessionLayer config).run actions = some s) :
    s.LimitEnforced ↔ ∀ action ∈ actions, ¬ action.IsClose := by
  have hconfig : s.config = config := by
    apply @TransitionSystem.runFrom_invariant _ _ (sessionLayer config)
      (fun s => s.config = config) _ _ _ _ rfl hrun
    intro s action t hs hstep
    rw [SessionLayer.step_config hstep, hs]
  obtain ⟨-, htally⟩ := (sessionLayer config).runFrom_tally
    (m := SessionLayer.surplus) (p := fun _ action => action.IsClose) (by
      intro s action t hstep hclose
      cases action with
      | openChannel => exact hclose.elim
      | close => exact SessionLayer.surplus_of_close hstep)
    (by
      intro s action t hstep hopen
      cases action with
      | openChannel => exact SessionLayer.surplus_of_open hstep
      | close => exact absurd trivial hopen)
    hrun
  rw [TransitionSystem.meets_iff_forall_mem _ hrun] at htally
  rw [← htally]
  constructor
  · intro hlimit
    simp [SessionLayer.surplus, hlimit.counted, sessionLayer]
  · intro hsurplus
    have hcounted : s.sessionCount = s.openChannels.length := by
      simp only [SessionLayer.surplus, sessionLayer, List.length_nil] at hsurplus
      omega
    refine ⟨hcounted, ?_⟩
    intro channelID extraData answer
    rw [s.onSessionChannel_rejected_iff, SessionLayer.Full, hconfig]
    omega

def singleSession : SecurityConfig := { maxSessions := 1 }

theorem limitEnforced_after_open :
    ∃ s, (sessionLayer singleSession).run [.openChannel 1 [] none] = some s ∧
      s.openChannels = [1] ∧ s.LimitEnforced :=
  ⟨_, rfl, rfl, (@limitEnforced_iff_no_close singleSession (by decide)
    [.openChannel 1 [] none] _ rfl).mpr (by simp [SessionAction.IsClose])⟩

/-- A session that follows a closed one is refused although none is open. -/
theorem reopened_session_refused : ∃ s, (sessionLayer singleSession).run
        [.openChannel 1 [] none, .close 1] = some s ∧ s.openChannels = [] ∧
      (s.onSessionChannel 2 [] none).2 = reject SSHConnectionHandler.errTooManySessions ∧
      ¬ s.LimitEnforced := by
  refine ⟨_, rfl, rfl, rfl, ?_⟩
  intro hlimit
  exact absurd hlimit.counted (by decide)

end ContainerSSH
