/-
Connections with a forced command.
-/
import ContainerSSH.SecurityPolicy
import ContainerSSH.ListBlocks

namespace ContainerSSH

structure Moment where
  handler : SSHConnectionHandler
  trace : Trace
  call : Call

def Moment.block (m : Moment) : Trace := (m.handler.serve m.trace m.call).2.2

def SSHConnectionHandler.moments (s : SSHConnectionHandler) (t : Trace) : List Call → List Moment
  | [] => []
  | c :: rest => ⟨s, t, c⟩ :: (s.serve t c).1.moments (t ++ (s.serve t c).2.2) rest

structure Received where
  trigger : Nat
  call : Call
  answer : Option GoError

def Moment.received (m : Moment) (position : Nat) : List Received :=
  m.block.map fun entry => ⟨position, entry.1, entry.2⟩

def SSHConnectionHandler.received (s : SSHConnectionHandler) (t : Trace)
    (calls : List Call) : List Received :=
  (s.moments t calls).zipIdx.flatMap fun tagged => tagged.1.received tagged.2

namespace SSHConnectionHandler

theorem moments_map_call (s : SSHConnectionHandler) (t : Trace)
    (calls : List Call) : (s.moments t calls).map Moment.call = calls := by
  induction calls generalizing s t with
  | nil => rfl
  | cons c rest ih => simp only [moments, List.map_cons, ih]

theorem moments_config_backend (s : SSHConnectionHandler) (t : Trace)
    (calls : List Call) : ∀ m ∈ s.moments t calls,
      m.handler.config = s.config ∧ m.handler.backend = s.backend := by
  induction calls generalizing s t with
  | nil => simp [moments]
  | cons c rest ih =>
    intro m hm
    obtain ⟨hconfig, hbackend⟩ := s.serve_config_backend t c
    rcases List.mem_cons.mp hm with rfl | hrest
    · exact ⟨rfl, rfl⟩
    · obtain ⟨hc, hb⟩ := ih _ _ m hrest
      exact ⟨hc.trans hconfig, hb.trans hbackend⟩

theorem moments_trace (s : SSHConnectionHandler) (t : Trace)
    (calls : List Call) {before after : List Moment} {m : Moment}
    (hsplit : s.moments t calls = before ++ m :: after) :
    m.trace = t ++ before.flatMap Moment.block := by
  induction calls generalizing s t before with
  | nil => simp [moments] at hsplit
  | cons c rest ih =>
    cases before with
    | nil =>
      simp only [moments, List.nil_append, List.cons.injEq] at hsplit
      simp [← hsplit.1]
    | cons =>
      simp only [moments, List.cons_append, List.cons.injEq] at hsplit
      obtain ⟨rfl, hrest⟩ := hsplit
      rw [ih _ _ hrest]
      simp [Moment.block]

end SSHConnectionHandler

def SessionRequest.launch? : SessionRequest → Option (UInt64 × Option String)
  | .exec id program => some (id, some program)
  | .shell id => some (id, none)
  | .subsystem id name => some (id, some name)
  | _ => none

def Call.launches : Call → Bool
  | .session _ request => request.launch?.isSome
  | .connection _ => false

def SecurityConfig.AdmitsLaunch (c : SecurityConfig) : SessionRequest → Prop
  | .exec _ program =>
    c.getPolicy c.command.mode ≠ executionPolicyDisable ∧
      (c.getPolicy c.command.mode = executionPolicyFilter → program ∈ c.command.allow)
  | .shell _ =>
    c.getPolicy c.shell.mode ≠ executionPolicyDisable ∧
      c.getPolicy c.shell.mode ≠ executionPolicyFilter
  | .subsystem _ name =>
    c.getPolicy c.subsystem.mode ≠ executionPolicyDisable ∧
      (c.getPolicy c.subsystem.mode = executionPolicyFilter → name ∈ c.subsystem.allow) ∧
      (c.getPolicy c.subsystem.mode = executionPolicyEnable → name ∉ c.subsystem.deny)
  | _ => False

def SecurityConfig.AdmitsEnv (c : SecurityConfig) (name : String) : Prop :=
  c.getPolicy c.env.mode ≠ executionPolicyDisable ∧
    (c.getPolicy c.env.mode = executionPolicyFilter → name ∈ c.env.allow) ∧
    (c.getPolicy c.env.mode ≠ executionPolicyFilter → name ∉ c.env.deny)

namespace SessionHandler

variable (s : SessionHandler)

theorem onEnvRequest_forwardsWhen (t : Trace) (id : UInt64) (name value : String) :
    ForwardsWhen (s.config.AdmitsEnv name) (s.onEnvRequest t id name value)
      (s.call t (.env id name value)) := by
  simp only [onEnvRequest, filterByLists, getPolicy, ForwardsWhen, SecurityConfig.AdmitsEnv]
  by_cases hdisable : s.config.getPolicy s.config.env.mode = executionPolicyDisable
  · simp [hdisable, reject_rejected]
  · by_cases hfilter : s.config.getPolicy s.config.env.mode = executionPolicyFilter
    · by_cases hmem : name ∈ s.config.env.allow
      · simp [hfilter, hmem, executionPolicy_distinct.2.2]
      · simp [hfilter, hmem, executionPolicy_distinct.2.2, reject_rejected]
    · by_cases hmem : name ∈ s.config.env.deny
      · simp [hdisable, hfilter, hmem, reject_rejected]
      · simp [hdisable, hfilter, hmem]

theorem onExecRequest_forced (hforce : s.config.forceCommand ≠ "") (t : Trace)
    (id : UInt64) (program : String) : ForwardsWhen (s.config.AdmitsLaunch (.exec id program))
      (s.onExecRequest t id program) (s.forceWithOriginal t id program) := by
  simp only [onExecRequest, getPolicy, ForwardsWhen, SecurityConfig.AdmitsLaunch, hforce]
  by_cases hdisable : s.config.getPolicy s.config.command.mode = executionPolicyDisable
  · simp [hdisable, reject_rejected]
  · by_cases hmem : program ∈ s.config.command.allow
    · simp [hdisable, hmem]
    · by_cases hfilter : s.config.getPolicy s.config.command.mode = executionPolicyFilter
      · simp [hfilter, hmem, executionPolicy_distinct.2.2, reject_rejected]
      · simp [hdisable, hfilter]

theorem onShell_forced (hforce : s.config.forceCommand ≠ "") (t : Trace) (id : UInt64) :
    ForwardsWhen (s.config.AdmitsLaunch (.shell id)) (s.onShell t id)
      (s.call t (.exec id s.config.forceCommand)) := by
  simp only [onShell, enableOnly, getPolicy, ForwardsWhen,
    SecurityConfig.AdmitsLaunch, hforce, if_false]
  by_cases hdisable : s.config.getPolicy s.config.shell.mode = executionPolicyDisable
  · simp [hdisable, reject_rejected]
  · by_cases hfilter : s.config.getPolicy s.config.shell.mode = executionPolicyFilter
    · simp [hfilter, reject_rejected]
    · simp [hdisable, hfilter]

theorem onSubsystem_forced (hforce : s.config.forceCommand ≠ "") (t : Trace)
    (id : UInt64) (name : String) : ForwardsWhen (s.config.AdmitsLaunch (.subsystem id name))
      (s.onSubsystem t id name) (s.forceWithOriginal t id name) := by
  simp only [onSubsystem, getPolicy, ForwardsWhen, SecurityConfig.AdmitsLaunch, hforce]
  obtain ⟨hef, hed, hfd⟩ := executionPolicy_distinct
  by_cases hdisable : s.config.getPolicy s.config.subsystem.mode = executionPolicyDisable
  · simp [hdisable, reject_rejected]
  · by_cases hfilter : s.config.getPolicy s.config.subsystem.mode = executionPolicyFilter
    · by_cases hmem : name ∈ s.config.subsystem.allow
      · simp [hfilter, hmem, hfd, hef.symm]
      · simp [hfilter, hmem, hfd, reject_rejected]
    · by_cases henable : s.config.getPolicy s.config.subsystem.mode = executionPolicyEnable
      · by_cases hmem : name ∈ s.config.subsystem.deny
        · simp [henable, hmem, hed, hef, reject_rejected]
        · simp [henable, hmem, hed, hef]
      · simp [hdisable, hfilter, henable]

theorem forceWithOriginal_snd (t : Trace) (id : UInt64) (original : String) :
    (s.forceWithOriginal t id original).2 =
      let setEnv := Call.session s.channel (.env id "SSH_ORIGINAL_COMMAND" original)
      let run := Call.session s.channel (.exec id s.config.forceCommand)
      match s.backend.answer t setEnv with
      | some err => [(setEnv, some err)]
      | none =>
        [(setEnv, none), (run, s.backend.answer (t ++ [(setEnv, none)]) run)] := by
  simp only [forceWithOriginal, call, Backend.call]
  split <;> simp_all

end SessionHandler

theorem filterByLists_snd (mode : SecurityExecutionPolicy)
    (allow deny : List String) (name : String)
    (disabled notAllowed denied : GoError) (forward : Served) :
    (filterByLists mode allow deny name disabled notAllowed denied forward).2 = [] ∨
      (filterByLists mode allow deny name disabled notAllowed denied forward).2 = forward.2 := by
  unfold filterByLists
  split_ifs <;> simp [reject]

theorem enableOnly_snd (mode : SecurityExecutionPolicy)
    (disabled filtered : GoError) (forward : Served) :
    (enableOnly mode disabled filtered forward).2 = [] ∨
      (enableOnly mode disabled filtered forward).2 = forward.2 := by
  unfold enableOnly
  split_ifs <;> simp [reject]

namespace Moment

variable (m : Moment)

def PassesOn : Prop := m.block = [] ∨ ∃ answer, m.block = [(m.call, answer)]

theorem passesOn_of_snd {served : Served} {backend : Backend} {t : Trace}
    (hblock : m.block = served.2) (hsnd : served.2 = [] ∨ served.2 = (backend.call t m.call).2) :
    m.PassesOn := by
  rcases hsnd with hnil | hcall
  · exact .inl (hblock.trans hnil)
  · exact .inr ⟨_, hblock.trans hcall⟩

theorem connection_passesOn {request : ConnectionRequest}
    (hcall : m.call = .connection request) : m.PassesOn := by
  obtain ⟨s, t, c⟩ := m
  subst hcall
  cases request with
  | sessionChannel =>
    simp only [PassesOn, block, SSHConnectionHandler.serve, SSHConnectionHandler.onSessionChannel]
    split_ifs
    · exact .inl rfl
    · split <;> exact .inr ⟨_, rfl⟩
  | cancelTCPReverseForward | cancelStreamLocal => exact .inr ⟨_, rfl⟩
  | _ => exact passesOn_of_snd _ rfl (enableOnly_snd _ _ _ _)

theorem session_passesOn {channel : Nat} {request : SessionRequest}
    (hcall : m.call = .session channel request)
    (hlaunch : request.launch? = none) : m.PassesOn := by
  obtain ⟨s, t, c⟩ := m
  subst hcall
  cases request with
  | env | signal => exact passesOn_of_snd _ rfl (filterByLists_snd _ _ _ _ _ _ _ _)
  | window => exact .inr ⟨_, rfl⟩
  | pty | x11 => exact passesOn_of_snd _ rfl (enableOnly_snd _ _ _ _)
  | exec | shell | subsystem => simp [SessionRequest.launch?] at hlaunch

def originalEntry (channel : Nat) (id : UInt64) (original : Option String) :
    Trace :=
  (original.map fun name =>
    (Call.session channel (.env id "SSH_ORIGINAL_COMMAND" name), none)).toList

def Forces (channel : Nat) (id : UInt64) (original : Option String)
    (answer : Option GoError) : Prop :=
  ∃ request, m.call = .session channel request ∧ request.launch? = some (id, original) ∧
    m.handler.config.AdmitsLaunch request ∧ m.block = originalEntry channel id original ++
      [(.session channel (.exec id m.handler.config.forceCommand), answer)]

theorem block_of_rejected {channel : Nat} {request : SessionRequest}
    (hcall : m.call = .session channel request)
    (hrejected : ((m.handler.session channel).serve m.trace request).Rejected) : m.block = [] := by
  obtain ⟨err, herr⟩ := hrejected
  simp only [block, hcall, SSHConnectionHandler.serve_session, herr, reject]

theorem forces_or_failed_setEnv {channel : Nat} {request : SessionRequest}
    {id : UInt64} {original : String} (hcall : m.call = .session channel request)
    (hlaunch : request.launch? = some (id, some original))
    (hadmits : m.handler.config.AdmitsLaunch request)
    (hserve : (m.handler.session channel).serve m.trace request =
      (m.handler.session channel).forceWithOriginal m.trace id original) :
    (∀ entry ∈ m.block, entry.1.launches = false) ∨
      ∃ answer, m.Forces channel id (some original) answer := by
  have hblock : m.block = ((m.handler.session channel).forceWithOriginal
      m.trace id original).2 := by
    simp only [block, hcall, SSHConnectionHandler.serve_session, hserve]
  rw [SessionHandler.forceWithOriginal_snd] at hblock
  simp only [SSHConnectionHandler.session] at hblock
  split at hblock
  · exact .inl (by simp [hblock, Call.launches, SessionRequest.launch?])
  · exact .inr ⟨_, request, hcall, hlaunch, hadmits, hblock⟩

theorem block_cases (hforce : m.handler.config.forceCommand ≠ "") :
    (∀ entry ∈ m.block, entry.1.launches = false) ∨
      ∃ channel id original answer, m.Forces channel id original answer := by
  have hpasses : m.PassesOn → m.call.launches = false →
      ∀ entry ∈ m.block, entry.1.launches = false := by
    rintro (hnil | ⟨answer, hblock⟩) hcall entry hentry
    · simp [hnil] at hentry
    · simp only [hblock, List.mem_singleton] at hentry
      rw [hentry]
      exact hcall
  have hrejects : ∀ {channel request}, m.call = .session channel request →
      ((m.handler.session channel).serve m.trace request).Rejected →
      ∀ entry ∈ m.block, entry.1.launches = false := by
    intro channel request hcall hrejected
    simp [m.block_of_rejected hcall hrejected]
  cases hcall : m.call with
  | connection => exact .inl (hpasses (m.connection_passesOn hcall) (by rw [hcall]; rfl))
  | session channel request =>
    cases request with
    | exec id program =>
      obtain ⟨hforward, hreject⟩ := (m.handler.session
        channel).onExecRequest_forced hforce m.trace id program
      by_cases hadmits : m.handler.config.AdmitsLaunch (.exec id program)
      · exact (m.forces_or_failed_setEnv hcall rfl hadmits (hforward hadmits)).imp_right
          fun ⟨_, hforces⟩ => ⟨_, _, _, _, hforces⟩
      · exact .inl (hrejects hcall (hreject hadmits))
    | subsystem id name =>
      obtain ⟨hforward, hreject⟩ := (m.handler.session
        channel).onSubsystem_forced hforce m.trace id name
      by_cases hadmits : m.handler.config.AdmitsLaunch (.subsystem id name)
      · exact (m.forces_or_failed_setEnv hcall rfl hadmits (hforward hadmits)).imp_right
          fun ⟨_, hforces⟩ => ⟨_, _, _, _, hforces⟩
      · exact .inl (hrejects hcall (hreject hadmits))
    | shell id =>
      obtain ⟨hforward, hreject⟩ := (m.handler.session channel).onShell_forced hforce m.trace id
      by_cases hadmits : m.handler.config.AdmitsLaunch (.shell id)
      · have hblock : m.block = ((m.handler.session channel).call m.trace
            (.exec id m.handler.config.forceCommand)).2 := by
          simp only [block, hcall, SSHConnectionHandler.serve_session]
          exact congrArg Prod.snd (hforward hadmits)
        exact .inr ⟨channel, id, none, _, _, hcall, rfl, hadmits, hblock⟩
      · exact .inl (hrejects hcall (hreject hadmits))
    | _ => exact .inl (hpasses (m.session_passesOn hcall rfl) (by rw [hcall]; rfl))

end Moment

namespace Moment

variable {m : Moment} {channel : Nat} {id : UInt64} {original : Option String}
  {answer : Option GoError}

theorem originalEntry_launches {entry : Call × Option GoError}
    (hentry : entry ∈ originalEntry channel id original) : entry.1.launches = false := by
  cases original with
  | none => simp [originalEntry] at hentry
  | some =>
    simp only [originalEntry, Option.map_some, Option.toList_some, List.mem_singleton] at hentry
    rw [hentry]
    rfl

theorem Forces.block_eq (hforces : m.Forces channel id original answer) :
    m.block = originalEntry channel id original ++
      [(.session channel (.exec id m.handler.config.forceCommand), answer)] :=
  hforces.choose_spec.2.2.2

theorem Forces.received_split (hforces : m.Forces channel id original answer)
    {position : Nat} {x y : List Received} {e : Received}
    (hsplit : m.received position = x ++ e :: y) (hlaunch : e.call.launches = true) :
    x = (originalEntry channel id original).map (fun entry => ⟨position, entry.1, entry.2⟩) ∧
      e = ⟨position, .session channel (.exec id m.handler.config.forceCommand), answer⟩ ∧
      y = [] := by
  simp only [received, hforces.block_eq, List.map_append] at hsplit
  refine ListBlocks.append_singleton_eq_append_cons hsplit fun hmem => ?_
  obtain ⟨entry, hentry, rfl⟩ := List.mem_map.mp hmem
  simp [originalEntry_launches hentry] at hlaunch

end Moment

/-- Every program the backend is asked to start is the forced command.  Exactly
one client request stands behind it, admitted by the policy of its kind; if it
carried a command or a subsystem name, the entry directly before is an accepted
setting of SSH_ORIGINAL_COMMAND to that string. -/
theorem received_launch_forced (s : SSHConnectionHandler) (t : Trace)
    (calls : List Call) (hforce : s.config.forceCommand ≠ "") :
    ∀ pre e post, s.received t calls = pre ++ e :: post → e.call.launches = true →
      ∃ channel id request original, e.call = .session channel (.exec id s.config.forceCommand) ∧
        calls[e.trigger]? = some (.session channel request) ∧
        request.launch? = some (id, original) ∧ s.config.AdmitsLaunch request ∧
        (∀ name, original = some name → ∃ before, pre = before ++ [⟨e.trigger, .session channel
            (.env id "SSH_ORIGINAL_COMMAND" name), none⟩]) ∧
        ∀ e' ∈ pre ++ post, e'.call.launches = true → e'.trigger ≠ e.trigger := by
  intro pre e post hlog hlaunch
  obtain ⟨before, ⟨m, position⟩, after, x, y, hmoments, hblock, rfl, rfl⟩ :=
    ListBlocks.flatMap_eq_append_cons hlog
  have hmem : (m, position) ∈ (s.moments t calls).zipIdx := by
    rw [hmoments]
    simp
  have hat : (s.moments t calls)[position]? = some m := List.mk_mem_zipIdx_iff_getElem?.mp hmem
  obtain ⟨hconfig, -⟩ := s.moments_config_backend t calls m (List.mem_of_getElem? hat)
  rcases m.block_cases (hconfig ▸ hforce) with
    hnone | ⟨channel, id, original, answer, hforces⟩
  · have hreceived : e ∈ m.received position := by
      rw [hblock]
      simp
    obtain ⟨entry, hentry, rfl⟩ := List.mem_map.mp hreceived
    simp [hnone entry hentry] at hlaunch
  · obtain ⟨rfl, rfl, rfl⟩ := hforces.received_split hblock hlaunch
    obtain ⟨request, hcall, hrequest, hadmits, -⟩ := hforces
    refine ⟨channel, id, request, original, ?_, ?_, hrequest, ?_, ?_, ?_⟩
    · rw [hconfig]
    · rw [← s.moments_map_call t calls, List.getElem?_map, hat]
      exact congrArg some hcall
    · exact hconfig ▸ hadmits
    · rintro name rfl
      exact ⟨_, rfl⟩
    · intro e' he' hlaunch' heq
      have houtside : position ∉ (before ++ after).map Prod.snd :=
        ListBlocks.zipIdx_position_notMem hmoments
      have htagged : ∀ tagged ∈ before ++ after, e' ∈ tagged.1.received tagged.2 → False := by
        rintro ⟨m', position'⟩ htagged hreceived
        obtain ⟨entry, -, rfl⟩ := List.mem_map.mp hreceived
        exact houtside (List.mem_map.mpr ⟨_, htagged, heq⟩)
      simp only [List.mem_append, List.mem_flatMap, List.not_mem_nil, false_or] at he'
      rcases he' with (⟨tagged, hin, hreceived⟩ | horiginal) | ⟨tagged, hin, hreceived⟩
      · exact htagged tagged (List.mem_append_left _ hin) hreceived
      · obtain ⟨entry, hentry, rfl⟩ := List.mem_map.mp horiginal
        simp [Moment.originalEntry_launches hentry] at hlaunch'
      · exact htagged tagged (List.mem_append_right _ hin) hreceived

def forcedDefault : SecurityConfig := { forceCommand := "/usr/bin/audit" }

theorem received_launch_forced_default : forcedDefault.forceCommand ≠ "" ∧
      ∃ channel id request original, Call.session 0 (.exec 1 "/usr/bin/audit") =
          .session channel (.exec id forcedDefault.forceCommand) ∧
        [Call.session 0 (.exec 1 "ls")][0]? = some (.session channel request) ∧
        request.launch? = some (id, original) ∧ forcedDefault.AdmitsLaunch request :=
  ⟨by decide,
    let ⟨channel, id, request, original, hcall, htrigger, hrequest, hadmits, _⟩ :=
      received_launch_forced (.new forcedDefault acceptingBackend) []
        [.session 0 (.exec 1 "ls")] (by decide)
        [⟨0, .session 0 (.env 1 "SSH_ORIGINAL_COMMAND" "ls"), none⟩]
        ⟨0, .session 0 (.exec 1 "/usr/bin/audit"), none⟩ [] rfl rfl
    ⟨channel, id, request, original, hcall, htrigger, hrequest, hadmits⟩⟩

end ContainerSSH
