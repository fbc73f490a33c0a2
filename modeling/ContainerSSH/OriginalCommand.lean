/-
What SSH_ORIGINAL_COMMAND holds when a forced command starts.
-/
import ContainerSSH.ForcedCommand
import Mathlib.Data.List.Induction

namespace ContainerSSH

def SetsVariable (channel : Nat) (name : String) (entry : Call × Option GoError) : Prop :=
  ∃ id value, entry = (.session channel (.env id name value), none)

def sessionEnv (channel : Nat) (name : String) (t : Trace) : Option String :=
  t.foldl (fun value entry =>
    match entry with
    | (.session c (.env _ n v), none) => if c = channel ∧ n = name then some v else value
    | _ => value) none

theorem sessionEnv_append_set (channel : Nat) (name value : String) (id : UInt64) (t : Trace) :
    sessionEnv channel name
      (t ++ [(.session channel (.env id name value), none)]) = some value := by
  simp [sessionEnv]

theorem sessionEnv_append_singleton_of_not {channel : Nat} {name : String}
    {entry : Call × Option GoError} (t : Trace) (hnot : ¬ SetsVariable channel name entry) :
    sessionEnv channel name (t ++ [entry]) = sessionEnv channel name t := by
  simp only [sessionEnv, List.foldl_append, List.foldl_cons]
  split
  · split_ifs with hsame
    · obtain ⟨rfl, rfl⟩ := hsame
      exact absurd ⟨_, _, rfl⟩ hnot
    · rfl
  · rfl

theorem sessionEnv_eq_none_iff (channel : Nat) (name : String) (t : Trace) :
    sessionEnv channel name t = none ↔ ∀ entry ∈ t, ¬ SetsVariable channel name entry := by
  induction t using List.reverseRecOn with
  | nil => simp [sessionEnv]
  | append_singleton t entry ih =>
    by_cases hset : SetsVariable channel name entry
    · obtain ⟨id, value, rfl⟩ := hset
      rw [sessionEnv_append_set]
      simp only [reduceCtorEq, false_iff, not_forall, not_not]
      exact ⟨_, List.mem_concat_self, id, value, rfl⟩
    · rw [sessionEnv_append_singleton_of_not t hset, ih]
      simp [or_imp, forall_and, hset]

namespace Moment

variable (m : Moment)

def expectedOriginal : Option String :=
  match m.call with
  | .session _ (.exec _ program) => some program
  | .session _ (.subsystem _ name) => some name
  | _ => none

def SetsOriginal (channel : Nat) : Prop :=
  match m.call with
  | .session c (.env id name value) =>
    c = channel ∧ name = "SSH_ORIGINAL_COMMAND" ∧ m.handler.config.AdmitsEnv name ∧
      m.handler.backend.answer m.trace (.session c (.env id name value)) = none
  | .session c (.exec id program) =>
    c = channel ∧ m.handler.config.AdmitsLaunch (.exec id program) ∧
      m.handler.backend.answer m.trace (.session c (.env id "SSH_ORIGINAL_COMMAND" program)) = none
  | .session c (.subsystem id name) =>
    c = channel ∧ m.handler.config.AdmitsLaunch (.subsystem id name) ∧
      m.handler.backend.answer m.trace (.session c (.env id "SSH_ORIGINAL_COMMAND" name)) = none
  | _ => False

def StartsShell (channel : Nat) : Prop :=
  ∃ id, m.call = .session channel (.shell id) ∧ m.handler.config.AdmitsLaunch (.shell id) ∧
    m.handler.backend.answer m.trace
      (.session channel (.exec id m.handler.config.forceCommand)) = none

end Moment

def OriginalCommandFaithful (s : SSHConnectionHandler) (calls : List Call) :
    Prop :=
  ∀ before m after, s.moments [] calls = before ++ m :: after → ∀ x channel id y, m.block = x ++
      (.session channel (.exec id s.config.forceCommand), none) :: y →
      sessionEnv channel "SSH_ORIGINAL_COMMAND" (m.trace ++ x) = m.expectedOriginal

def NoShellAfterSetting (s : SSHConnectionHandler) (calls : List Call) :
    Prop :=
  ∀ before m after, s.moments [] calls = before ++ m :: after → ∀ channel, m.StartsShell channel →
      ∀ m' ∈ before, ¬ m'.SetsOriginal channel

namespace Moment

variable {m : Moment} {channel : Nat}

theorem block_eq_of_serve {c : Nat} {request : SessionRequest} {served : Served}
    (hcall : m.call = .session c request)
    (hserve : (m.handler.session c).serve m.trace request = served) : m.block = served.2 := by
  simp only [block, hcall, SSHConnectionHandler.serve_session, hserve]

theorem PassesOn.not_setsVariable (hpasses : m.PassesOn) (channel : Nat) (name : String)
    (hcall : ∀ c id value, m.call ≠ .session c (.env id name value)) :
    ¬ ∃ entry ∈ m.block, SetsVariable channel name entry := by
  rintro ⟨entry, hentry, id, value, rfl⟩
  rcases hpasses with hnil | ⟨answer, hblock⟩
  · simp [hnil] at hentry
  · simp only [hblock, List.mem_singleton, Prod.mk.injEq] at hentry
    exact hcall _ _ _ hentry.1.symm

theorem forceWithOriginal_sets_iff {c : Nat} {id : UInt64} {original : String}
    (hblock : m.block = ((m.handler.session c).forceWithOriginal m.trace id original).2) :
    (∃ entry ∈ m.block, SetsVariable channel "SSH_ORIGINAL_COMMAND" entry) ↔
      c = channel ∧ m.handler.backend.answer m.trace
        (.session c (.env id "SSH_ORIGINAL_COMMAND" original)) = none := by
  rw [SessionHandler.forceWithOriginal_snd] at hblock
  simp only [SSHConnectionHandler.session] at hblock
  rw [hblock]
  cases hanswer : m.handler.backend.answer m.trace
      (.session c (.env id "SSH_ORIGINAL_COMMAND" original)) with
  | some | none => simp [SetsVariable]

theorem forced_sets_iff {c : Nat} {request : SessionRequest} {id : UInt64}
    {original : String} (hcall : m.call = .session c request)
    (hforwards : ForwardsWhen (m.handler.config.AdmitsLaunch request)
      ((m.handler.session c).serve m.trace request)
      ((m.handler.session c).forceWithOriginal m.trace id original)) :
    (∃ entry ∈ m.block, SetsVariable channel "SSH_ORIGINAL_COMMAND" entry) ↔
      c = channel ∧ m.handler.config.AdmitsLaunch request ∧ m.handler.backend.answer m.trace
          (.session c (.env id "SSH_ORIGINAL_COMMAND" original)) = none := by
  by_cases hadmits : m.handler.config.AdmitsLaunch request
  · rw [forceWithOriginal_sets_iff (block_eq_of_serve hcall (hforwards.1 hadmits))]
    simp [hadmits]
  · have hnil := m.block_of_rejected hcall (hforwards.2 hadmits)
    simp [hnil, hadmits]

theorem block_sets_iff (hforce : m.handler.config.forceCommand ≠ "") :
    (∃ entry ∈ m.block, SetsVariable channel "SSH_ORIGINAL_COMMAND" entry) ↔
      m.SetsOriginal channel := by
  cases hcall : m.call with
  | connection =>
    have hnot := (m.connection_passesOn hcall).not_setsVariable channel
      "SSH_ORIGINAL_COMMAND" (by simp [hcall])
    simp only [SetsOriginal, hcall, hnot]
  | session c request =>
    cases request with
    | env id name value =>
      obtain ⟨hforward, hreject⟩ := (m.handler.session
        c).onEnvRequest_forwardsWhen m.trace id name value
      simp only [SetsOriginal, hcall]
      by_cases hadmits : m.handler.config.AdmitsEnv name
      · rw [block_eq_of_serve hcall (hforward hadmits)]
        simp [SessionHandler.call, Backend.call,
          SSHConnectionHandler.session, SetsVariable, hadmits, and_assoc]
      · have hnil := m.block_of_rejected hcall (hreject hadmits)
        simp [hnil, hadmits]
    | exec id program =>
      rw [forced_sets_iff hcall ((m.handler.session
        c).onExecRequest_forced hforce m.trace id program)]
      simp only [SetsOriginal, hcall]
    | subsystem id name =>
      rw [forced_sets_iff hcall ((m.handler.session c).onSubsystem_forced hforce m.trace id name)]
      simp only [SetsOriginal, hcall]
    | shell id =>
      obtain ⟨hforward, hreject⟩ := (m.handler.session c).onShell_forced hforce m.trace id
      simp only [SetsOriginal, hcall]
      by_cases hadmits : m.handler.config.AdmitsLaunch (.shell id)
      · rw [block_eq_of_serve hcall (hforward hadmits)]
        simp [SessionHandler.call, Backend.call, SetsVariable]
      · have hnil := m.block_of_rejected hcall (hreject hadmits)
        simp [hnil]
    | _ =>
      have hnot := (m.session_passesOn hcall rfl).not_setsVariable
        channel "SSH_ORIGINAL_COMMAND" (by simp [hcall])
      simp only [SetsOriginal, hcall, hnot]

theorem StartsShell.block_eq (hforce : m.handler.config.forceCommand ≠ "")
    (hstarts : m.StartsShell channel) : ∃ id, m.call = .session channel (.shell id) ∧ m.block =
      [(.session channel (.exec id m.handler.config.forceCommand), none)] := by
  obtain ⟨id, hcall, hadmits, hanswer⟩ := hstarts
  have hserve := ((m.handler.session channel).onShell_forced hforce m.trace id).1 hadmits
  refine ⟨id, hcall, ?_⟩
  rw [block_eq_of_serve hcall hserve]
  simp only [SessionHandler.call, Backend.call, SSHConnectionHandler.session, hanswer]

theorem Forces.startsShell (hforce : m.handler.config.forceCommand ≠ "")
    {id : UInt64} (hforces : m.Forces channel id none none) : m.StartsShell channel := by
  obtain ⟨request, hcall, hlaunch, hadmits, hblock⟩ := hforces
  cases request with
  | shell id' =>
    have hserve := ((m.handler.session channel).onShell_forced hforce m.trace id').1 hadmits
    rw [block_eq_of_serve hcall hserve] at hblock
    simp only [SessionRequest.launch?, Option.some.injEq, Prod.mk.injEq, and_true] at hlaunch
    subst hlaunch
    simp only [SessionHandler.call, Backend.call,
      SSHConnectionHandler.session, originalEntry, Option.map_none,
      Option.toList_none, List.nil_append, List.cons.injEq, Prod.mk.injEq,
      true_and, and_true] at hblock
    exact ⟨id', hcall, hadmits, hblock⟩
  | _ => simp [SessionRequest.launch?] at hlaunch

theorem Forces.expectedOriginal {id : UInt64} {original : Option String}
    {answer : Option GoError} (hforces : m.Forces channel id original answer) :
    m.expectedOriginal = original := by
  obtain ⟨request, hcall, hlaunch, -, -⟩ := hforces
  cases request <;>
    simp_all [SessionRequest.launch?, Moment.expectedOriginal]

end Moment

theorem sessionEnv_moment_eq_none_iff {s : SSHConnectionHandler}
    (hforce : s.config.forceCommand ≠ "") {calls : List Call}
    {before after : List Moment} {m : Moment}
    (hmoments : s.moments [] calls = before ++ m :: after) (channel : Nat) :
    sessionEnv channel "SSH_ORIGINAL_COMMAND" m.trace = none ↔
      ∀ m' ∈ before, ¬ m'.SetsOriginal channel := by
  rw [s.moments_trace [] calls hmoments, sessionEnv_eq_none_iff]
  have hsets : ∀ m' ∈ before, ((∃ entry ∈ m'.block,
      SetsVariable channel "SSH_ORIGINAL_COMMAND" entry) ↔ m'.SetsOriginal channel) := by
    intro m' hm'
    obtain ⟨hconfig, -⟩ := s.moments_config_backend [] calls m'
      (hmoments ▸ List.mem_append_left _ hm')
    exact Moment.block_sets_iff (hconfig ▸ hforce)
  constructor
  · intro hnone m' hm' hset
    obtain ⟨entry, hentry, hvariable⟩ := (hsets m' hm').mpr hset
    exact hnone entry (List.mem_flatMap.mpr ⟨m', hm', hentry⟩) hvariable
  · intro hnone entry hentry hvariable
    obtain ⟨m', hm', hblock⟩ := List.mem_flatMap.mp hentry
    exact hnone m' hm' ((hsets m' hm').mp ⟨entry, hblock, hvariable⟩)

/-- The variable is faithful in a run exactly when no shell starts in a session
that has a value from an earlier request. -/
theorem originalCommandFaithful_iff (s : SSHConnectionHandler)
    (calls : List Call) (hforce : s.config.forceCommand ≠ "") :
    OriginalCommandFaithful s calls ↔ NoShellAfterSetting s calls := by
  constructor
  · intro hfaithful before m after hmoments channel hstarts
    obtain ⟨hconfig, -⟩ := s.moments_config_backend [] calls m (by simp [hmoments])
    obtain ⟨id, hcall, hblock⟩ := hstarts.block_eq (hconfig ▸ hforce)
    have hvalue := hfaithful before m after hmoments [] channel id [] (hconfig ▸ hblock)
    rw [List.append_nil] at hvalue
    rw [← sessionEnv_moment_eq_none_iff hforce hmoments, hvalue]
    simp [Moment.expectedOriginal, hcall]
  · intro hnone before m after hmoments x channel id y hsplit
    obtain ⟨hconfig, -⟩ := s.moments_config_backend [] calls m (by simp [hmoments])
    rcases m.block_cases (hconfig ▸ hforce) with
      hlaunch | ⟨channel', id', original, answer, hforces⟩
    · have hentry := hlaunch (.session channel (.exec id
        s.config.forceCommand), none) (by simp [hsplit])
      simp [Call.launches, SessionRequest.launch?] at hentry
    · rw [hforces.block_eq, hconfig] at hsplit
      obtain ⟨rfl, hentry, rfl⟩ :=
        ListBlocks.append_singleton_eq_append_cons hsplit fun hmem => by
          simpa [Call.launches, SessionRequest.launch?] using Moment.originalEntry_launches hmem
      obtain ⟨⟨rfl, rfl⟩, rfl⟩ := hentry
      rw [hforces.expectedOriginal]
      cases original with
      | some => exact sessionEnv_append_set _ _ _ _ _
      | none =>
        have hstarts := hforces.startsShell (hconfig ▸ hforce)
        simp only [Moment.originalEntry, Option.map_none, Option.toList_none, List.append_nil]
        exact (sessionEnv_moment_eq_none_iff hforce hmoments channel).mpr
          (hnone before m after hmoments channel hstarts)

theorem originalCommandFaithful_exec : forcedDefault.forceCommand ≠ "" ∧
      OriginalCommandFaithful (.new forcedDefault acceptingBackend)
        [.session 0 (.exec 1 "ls")] := by
  refine ⟨by decide, (originalCommandFaithful_iff (.new forcedDefault
    acceptingBackend) [.session 0 (.exec 1 "ls")] (by decide)).mpr ?_⟩
  intro before m after hmoments channel hstarts m' hm'
  cases before with
  | nil => simp at hm'
  | cons =>
    have hlength := congrArg List.length hmoments
    simp [SSHConnectionHandler.moments] at hlength

def forgedShell : List Call :=
  [.session 0 (.env 1 "SSH_ORIGINAL_COMMAND" "rm -rf /"), .session 0 (.shell 2)]

theorem forgedShell_not_faithful : forcedDefault.forceCommand ≠ "" ∧
      ¬ OriginalCommandFaithful (.new forcedDefault acceptingBackend)
        forgedShell := by
  refine ⟨by decide, fun hfaithful => ?_⟩
  have hvalue := hfaithful [⟨.new forcedDefault acceptingBackend, [],
      .session 0 (.env 1 "SSH_ORIGINAL_COMMAND" "rm -rf /")⟩] ⟨.new forcedDefault acceptingBackend,
      [(.session 0 (.env 1 "SSH_ORIGINAL_COMMAND" "rm -rf /"), none)],
      .session 0 (.shell 2)⟩ [] rfl [] 0 2 [] rfl
  exact absurd hvalue (by decide)

end ContainerSSH
