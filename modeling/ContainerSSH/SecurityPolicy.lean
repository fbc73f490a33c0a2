/-
What the security layer lets through.
-/
import ContainerSSH.SecurityHandler

namespace ContainerSSH

def SecurityExecutionPolicy.Effective (e : SecurityExecutionPolicy) : Prop :=
  e = executionPolicyEnable ∨ e = executionPolicyFilter ∨ e = executionPolicyDisable

theorem executionPolicy_distinct : executionPolicyEnable ≠ executionPolicyFilter ∧
      executionPolicyEnable ≠ executionPolicyDisable ∧
      executionPolicyFilter ≠ executionPolicyDisable := by
  decide

theorem SecurityConfig.getPolicy_effective (c : SecurityConfig)
    {primary : SecurityExecutionPolicy} (hdefault : c.defaultMode.Known)
    (hprimary : primary.Known) : (c.getPolicy primary).Effective := by
  by_cases hset : primary = executionPolicyUnconfigured
  · by_cases hdef : c.defaultMode = executionPolicyUnconfigured
    · left
      simp [getPolicy, hset, hdef]
    · have heq : c.getPolicy primary = c.defaultMode := by simp [getPolicy, hset, hdef]
      rw [heq]
      exact hdefault.resolve_left hdef
  · have heq : c.getPolicy primary = primary := by simp [getPolicy, hset]
    rw [heq]
    exact hprimary.resolve_left hset

def Served.Rejected (served : Served) : Prop := ∃ err, served = reject err

theorem reject_rejected (err : GoError) : Served.Rejected (reject err) := ⟨err, rfl⟩

theorem Backend.call_not_rejected (b : Backend) (t : Trace) (c : Call) :
    ¬ Served.Rejected (b.call t c) := by
  rintro ⟨err, heq⟩
  have hcalls := congrArg Prod.snd heq
  simp [Backend.call, reject] at hcalls

def ListsAdmit (mode : SecurityExecutionPolicy) (allow deny : List String) (name : String) : Prop :=
  (mode = executionPolicyEnable ∧ name ∉ deny) ∨ (mode = executionPolicyFilter ∧ name ∈ allow)

def ForwardsWhen (admitted : Prop) (served forward : Served) : Prop :=
  (admitted → served = forward) ∧ (¬ admitted → served.Rejected)

theorem filterByLists_forwardsWhen {mode : SecurityExecutionPolicy}
    (hmode : mode.Effective) (allow deny : List String) (name : String)
    (disabled notAllowed denied : GoError) (forward : Served) :
    ForwardsWhen (ListsAdmit mode allow deny name)
      (filterByLists mode allow deny name disabled notAllowed denied forward)
      forward := by
  obtain ⟨hef, hed, hfd⟩ := executionPolicy_distinct
  rcases hmode with rfl | rfl | rfl
  · by_cases hmem : name ∈ deny
    · simp [ForwardsWhen, ListsAdmit, filterByLists, hef, hed, hmem, reject_rejected]
    · simp [ForwardsWhen, ListsAdmit, filterByLists, hef, hed, hmem]
  · by_cases hmem : name ∈ allow
    · simp [ForwardsWhen, ListsAdmit, filterByLists, hfd, hmem]
    · simp [ForwardsWhen, ListsAdmit, filterByLists, hfd, hef.symm, hmem, reject_rejected]
  · simp [ForwardsWhen, ListsAdmit, filterByLists, hed.symm, hfd.symm, reject_rejected]

inductive ListedKind where
  | env
  | exec
  | subsystem
deriving DecidableEq

namespace ListedKind

def mode (c : SecurityConfig) : ListedKind → SecurityExecutionPolicy
  | env => c.env.mode
  | exec => c.command.mode
  | subsystem => c.subsystem.mode

def allow (c : SecurityConfig) : ListedKind → List String
  | env => c.env.allow
  | exec => c.command.allow
  | subsystem => c.subsystem.allow

def deny (c : SecurityConfig) : ListedKind → List String
  | env => c.env.deny
  | exec => []
  | subsystem => c.subsystem.deny

def request (requestID : UInt64) (name value : String) : ListedKind → SessionRequest
  | env => .env requestID name value
  | exec => .exec requestID name
  | subsystem => .subsystem requestID name

theorem mode_effective (kind : ListedKind) {c : SecurityConfig} (hvalid : c.validate = .ok ()) :
    (c.getPolicy (kind.mode c)).Effective := by
  obtain ⟨hdefault, henv, hcommand, -, hsubsystem, -⟩ := c.validate_eq_ok_iff.mp hvalid
  cases kind with
  | env => exact c.getPolicy_effective hdefault henv
  | exec => exact c.getPolicy_effective hdefault hcommand
  | subsystem => exact c.getPolicy_effective hdefault hsubsystem

end ListedKind

def SecurityConfig.DocumentedAdmits (c : SecurityConfig) (kind : ListedKind)
    (name : String) : Prop :=
  (c.getPolicy (kind.mode c) = executionPolicyEnable ∧ name ∉ kind.deny c) ∨
    (c.getPolicy (kind.mode c) = executionPolicyFilter ∧ name ∈ kind.allow c ∧ name ∉ kind.deny c)

def FollowsDocumentation (s : SessionHandler) (t : Trace) (kind : ListedKind)
    (requestID : UInt64) (name value : String) : Prop :=
  let request := kind.request requestID name value
  (s.serve t request = s.call t request ↔ s.config.DocumentedAdmits kind name) ∧
    (¬ s.config.DocumentedAdmits kind name → (s.serve t request).Rejected)

theorem SessionHandler.serve_listed_forwardsWhen (s : SessionHandler)
    (t : Trace) (kind : ListedKind) (requestID : UInt64)
    (name value : String) (hvalid : s.config.validate = .ok ())
    (hforce : s.config.forceCommand = "") : ForwardsWhen
      (ListsAdmit (s.config.getPolicy (kind.mode s.config))
        (kind.allow s.config) (kind.deny s.config) name)
      (s.serve t (kind.request requestID name value))
      (s.call t (kind.request requestID name value)) := by
  obtain ⟨hef, hed, hfd⟩ := executionPolicy_distinct
  have hmode := kind.mode_effective hvalid
  cases kind with
  | env => exact filterByLists_forwardsWhen hmode _ _ _ _ _ _ _
  | exec =>
    simp only [ListedKind.mode] at hmode
    simp only [ListedKind.mode, ListedKind.allow, ListedKind.deny,
      ListedKind.request, serve, onExecRequest, getPolicy, hforce, if_true]
    rcases hmode with h | h | h <;> rw [h]
    · simp [ForwardsWhen, ListsAdmit, hef, hed]
    · by_cases hmem : name ∈ s.config.command.allow
      · simp [ForwardsWhen, ListsAdmit, hfd, hmem]
      · simp [ForwardsWhen, ListsAdmit, hfd, hef.symm, hmem, reject_rejected]
    · simp [ForwardsWhen, ListsAdmit, hed.symm, hfd.symm, reject_rejected]
  | subsystem =>
    simp only [ListedKind.mode] at hmode
    simp only [ListedKind.mode, ListedKind.allow, ListedKind.deny,
      ListedKind.request, serve, onSubsystem, getPolicy, hforce, if_true]
    rcases hmode with h | h | h <;> rw [h]
    · by_cases hmem : name ∈ s.config.subsystem.deny
      · simp [ForwardsWhen, ListsAdmit, hef, hed, hmem, reject_rejected]
      · simp [ForwardsWhen, ListsAdmit, hef, hed, hmem]
    · by_cases hmem : name ∈ s.config.subsystem.allow
      · simp [ForwardsWhen, ListsAdmit, hfd, hef.symm, hmem]
      · simp [ForwardsWhen, ListsAdmit, hfd, hef.symm, hmem, reject_rejected]
    · simp [ForwardsWhen, ListsAdmit, hed.symm, hfd.symm, reject_rejected]

theorem listsAdmit_iff_documentedAdmits_iff (c : SecurityConfig)
    (kind : ListedKind) (name : String) :
    (ListsAdmit (c.getPolicy (kind.mode c)) (kind.allow c) (kind.deny c) name ↔
      c.DocumentedAdmits kind name) ↔ ¬ (c.getPolicy (kind.mode c) = executionPolicyFilter ∧
      name ∈ kind.allow c ∧ name ∈ kind.deny c) := by
  obtain ⟨hef, -, -⟩ := executionPolicy_distinct
  by_cases hfilter : c.getPolicy (kind.mode c) = executionPolicyFilter
  · simp only [ListsAdmit, SecurityConfig.DocumentedAdmits, hfilter, hef.symm,
      false_and, true_and, false_or]
    tauto
  · simp [ListsAdmit, SecurityConfig.DocumentedAdmits, hfilter]

theorem followsDocumentation_iff (s : SessionHandler) (t : Trace)
    (kind : ListedKind) (requestID : UInt64) (name value : String)
    (hvalid : s.config.validate = .ok ()) (hforce : s.config.forceCommand = "") :
    FollowsDocumentation s t kind requestID name value ↔
      ¬ (s.config.getPolicy (kind.mode s.config) = executionPolicyFilter ∧
        name ∈ kind.allow s.config ∧ name ∈ kind.deny s.config) := by
  obtain ⟨hforward, hreject⟩ :=
    s.serve_listed_forwardsWhen t kind requestID name value hvalid hforce
  have hreaches : s.serve t (kind.request requestID name value) =
          s.call t (kind.request requestID name value) ↔
        ListsAdmit (s.config.getPolicy (kind.mode s.config))
          (kind.allow s.config) (kind.deny s.config) name := by
    constructor
    · intro heq
      by_contra hnot
      exact s.backend.call_not_rejected t _ (heq ▸ hreject hnot)
    · exact hforward
  rw [← listsAdmit_iff_documentedAdmits_iff]
  simp only [FollowsDocumentation, hreaches]
  constructor
  · exact fun hfollows => hfollows.1
  · intro hiff
    exact ⟨hiff, fun hnot => hreject (fun hadmit => hnot (hiff.mp hadmit))⟩

def acceptingBackend : Backend := ⟨fun _ _ => none⟩

def filteredEnv : SecurityConfig := { env := ⟨executionPolicyFilter, ["LANG"], ["LD_PRELOAD"]⟩ }

theorem followsDocumentation_filtered : filteredEnv.validate = .ok () ∧
      FollowsDocumentation ⟨filteredEnv, acceptingBackend, 0⟩ [] .env 1 "LD_PRELOAD" "x.so" :=
  ⟨rfl, (followsDocumentation_iff ⟨filteredEnv, acceptingBackend, 0⟩ [] .env 1 "LD_PRELOAD"
    "x.so" rfl rfl).mpr (by decide)⟩

def allowedAndDenied : SecurityConfig :=
  { env := ⟨executionPolicyFilter, ["LD_PRELOAD"], ["LD_PRELOAD"]⟩ }

theorem allowedAndDenied_reaches_backend : allowedAndDenied.validate = .ok () ∧
      allowedAndDenied.forceCommand = "" ∧
      ¬ FollowsDocumentation ⟨allowedAndDenied, acceptingBackend, 0⟩ [] .env 1
        "LD_PRELOAD" "/tmp/x.so" := by
  refine ⟨rfl, rfl, fun hfollows => ?_⟩
  have hadmits := hfollows.1.mp rfl
  simp [SecurityConfig.DocumentedAdmits, allowedAndDenied, ListedKind.mode,
    ListedKind.deny, ListedKind.allow] at hadmits

end ContainerSSH
