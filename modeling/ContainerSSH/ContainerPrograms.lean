/-
One program for each session.
-/
import ContainerSSH.ContainerBackend

namespace ContainerSSH.ContainerBackend

def Answered.Started (e : Answered) : Prop := e.events.any Event.Starts = true

def Answered.Refused (e : Answered) : Prop :=
  e.answer.isSome = true ∧ e.events.any Event.Creates = false

instance decidableStarted (e : Answered) : Decidable e.Started :=
  inferInstanceAs (Decidable (_ = _))

instance decidableRefused (e : Answered) : Decidable e.Refused :=
  inferInstanceAs (Decidable (_ ∧ _))

def OneProgram (history : List Answered) : Prop :=
  (history.flatMap Answered.events).countP Event.Starts ≤ 1 ∧
    history.Pairwise fun earlier later => earlier.Started → later.Refused

instance decidableOneProgram (history : List Answered) : Decidable (OneProgram history) :=
  inferInstanceAs (Decidable (_ ∧ _))

theorem countP_starts_pos {events : List Event} :
    0 < events.countP Event.Starts ↔ events.any Event.Starts = true := by
  rw [List.countP_pos_iff, List.any_eq_true]

theorem oneProgram_nil : OneProgram [] := ⟨Nat.zero_le 1, .nil⟩

theorem oneProgram_append {history : List Answered} {e : Answered}
    (honce : e.events.countP Event.Starts ≤ 1) : OneProgram (history ++ [e]) ↔ OneProgram history ∧
        ((∃ earlier ∈ history, earlier.Started) → e.Refused ∧ ¬ e.Started) := by
  have hsum : ((history ++ [e]).flatMap Answered.events).countP Event.Starts =
        (history.flatMap Answered.events).countP Event.Starts + e.events.countP Event.Starts := by
    simp
  have hstarted : 0 < (history.flatMap Answered.events).countP Event.Starts ↔
        ∃ earlier ∈ history, earlier.Started := by
    rw [countP_starts_pos, List.any_flatMap, List.any_eq_true]
    rfl
  have hnew : 0 < e.events.countP Event.Starts ↔ e.Started := countP_starts_pos
  rw [OneProgram, List.pairwise_append]
  simp only [List.pairwise_singleton, List.mem_singleton, forall_eq, true_and]
  constructor
  · rintro ⟨hcount, hpairwise, hlast⟩
    refine ⟨⟨by omega, hpairwise⟩, fun hearlier => ⟨?_, ?_⟩⟩
    · obtain ⟨earlier, hmem, hs⟩ := hearlier
      exact hlast earlier hmem hs
    · have hpos := hstarted.mpr hearlier
      exact fun hs => by have := hnew.mpr hs; omega
  · rintro ⟨⟨hcount, hpairwise⟩, hlast⟩
    refine ⟨?_, hpairwise, fun earlier hmem hs => (hlast ⟨earlier, hmem, hs⟩).1⟩
    by_cases hearlier : ∃ earlier ∈ history, earlier.Started
    · have hnone := mt hnew.mp (hlast hearlier).2
      omega
    · have hnone := mt hstarted.mp hearlier
      omega

def Request.AsksProgram (config : Config) : Request → Bool
  | .env _ _ => false
  | .pty _ _ _ => false
  | .exec _ => true
  | .shell => true
  | .subsystem name => (config.subsystems.lookup name).isSome

def State.CreatesNothing (s : State) (config : Config) (outcome : Outcome .kubernetes) : Prop :=
  match config.mode with
  | .connection => (∃ id ∈ s.network.container, id ∈ s.removed) ∨ outcome.createExec.isSome = true
  | .session => (createContainer s.next outcome).created = []
  | .other _ => True

section Requests

variable {platform : Platform} {config : Config} {s : State}
  {c : ChannelHandler} {request : Request} {outcome : Outcome platform}
  {performed : Performed}

theorem perform_program (hasks : request.AsksProgram config = true)
    (hperform : s.perform config c request outcome = some performed) :
    ∃ program, s.runProgram config c program outcome = some performed := by
  cases request with
  | env | pty => cases hasks
  | exec =>
    rw [State.perform] at hperform
    split at hperform
    · cases hperform
    · exact ⟨_, hperform⟩
  | shell => exact ⟨_, hperform⟩
  | subsystem =>
    obtain ⟨binary, hbinary⟩ := Option.isSome_iff_exists.mp hasks
    rw [State.perform, hbinary] at hperform
    exact ⟨_, hperform⟩

theorem perform_other (hasks : request.AsksProgram config = false)
    (hperform : s.perform config c request outcome = some performed) :
    performed.events = [] ∧ performed.handler.exec = c.exec ∧
      (c.exec.isSome = true → performed.answer.isSome = true) := by
  cases request with
  | env =>
    cases hperform
    rw [onEnvRequest]
    split <;> simp_all
  | pty =>
    cases hperform
    rw [onPtyRequest]
    split <;> simp_all
  | exec | shell => cases hasks
  | subsystem =>
    rw [Request.AsksProgram, Option.isSome_eq_false_iff, Option.isNone_iff_eq_none] at hasks
    rw [State.perform, hasks] at hperform
    cases hperform
    exact ⟨rfl, rfl, fun _ => rfl⟩

end Requests

@[simp]
theorem any_starts_events (creation : Creation) (env : Env)
    (tty : Option Bool) (cmd : List String) :
    (creation.events env tty cmd).any Event.Starts = false := by
  simp [Creation.events, Event.Starts]

@[simp]
theorem countP_starts_events (creation : Creation) (env : Env)
    (tty : Option Bool) (cmd : List String) :
    (creation.events env tty cmd).countP Event.Starts = 0 := by
  rw [List.countP_eq_zero]
  exact List.any_eq_false.mp (any_starts_events creation env tty cmd)

theorem any_creates_events (creation : Creation) (env : Env)
    (tty : Option Bool) (cmd : List String) :
    (creation.events env tty cmd).any Event.Creates = false ↔ creation.created = [] := by
  cases hlost : creation.lost with
  | nil =>
    cases hready : creation.ready with
    | nil => simp [Creation.events, Creation.created, hlost, hready]
    | cons => simp [Creation.events, Creation.created, hready, Event.Creates]
  | cons => simp [Creation.events, Creation.created, hlost, Event.Creates]

theorem created_ne_nil {creation : Creation} {id : Nat}
    (hresult : creation.result = .ok id) : creation.created ≠ [] := by
  simp [Creation.created, Creation.ready, hresult]

structure Performed.Recorded (performed : Performed) : Prop where
  once : performed.events.countP Event.Starts ≤ 1
  exec : performed.events.any Event.Starts = true → performed.handler.exec.isSome = true

theorem Ran.recorded {platform : Platform} {config : Config} {s : State}
    {c : ChannelHandler} {program : List String} {outcome : Outcome platform}
    {performed : Performed} (hran : Ran config s c program outcome performed) :
    performed.Recorded := by
  cases hran with
  | running | invalid | noExec | unattached => exact ⟨Nat.zero_le 1, nofun⟩
  | exec => exact ⟨Nat.le_refl 1, fun _ => rfl⟩
  | uncreated => exact ⟨by simp, by simp⟩
  | undone hmode handler id hresult started hstarted =>
    rcases hstarted with rfl | ⟨rfl, hexec⟩
    · exact ⟨by simp [Event.Starts], by simp [Event.Starts]⟩
    · exact ⟨by simp [Event.Starts, List.countP_cons], by simp [hexec]⟩
  | session hmode handler id hresult hexec => exact ⟨by simp [Event.Starts], by simp [hexec]⟩

section Guards

variable {platform : Platform} {config : Config} {s : State}
  {c : ChannelHandler} {request : Request} {outcome : Outcome platform}
  {performed : Performed}

theorem perform_recorded (hperform : s.perform config c request outcome = some performed) :
    performed.Recorded := by
  cases hasks : request.AsksProgram config with
  | false =>
    obtain ⟨hevents, -, -⟩ := perform_other hasks hperform
    exact ⟨by simp [hevents], by simp [hevents]⟩
  | true =>
    obtain ⟨program, hrun⟩ := perform_program hasks hperform
    exact (ran_of_runProgram hrun).recorded

theorem perform_docker {outcome : Outcome .docker} (hexec : c.exec.isSome = true)
    (hperform : s.perform config c request outcome = some performed) :
    performed.events = [] ∧ performed.handler.exec = c.exec ∧ performed.answer.isSome = true := by
  cases hasks : request.AsksProgram config with
  | false =>
    obtain ⟨hevents, hsame, hanswer⟩ := perform_other hasks hperform
    exact ⟨hevents, hsame, hanswer hexec⟩
  | true =>
    obtain ⟨program, hrun⟩ := perform_program hasks hperform
    rw [State.runProgram, Docker.run, if_pos hexec] at hrun
    cases hrun
    exact ⟨rfl, rfl, rfl⟩

theorem Ran.kubernetes_refused_iff {program : List String} {outcome : Outcome .kubernetes}
    (hran : Ran config s c program outcome performed) : (performed.answer.isSome = true ∧
        performed.events.any Event.Creates = false ↔ s.CreatesNothing config outcome) ∧
    (s.CreatesNothing config outcome →
      performed.events = [] ∧ performed.handler.exec = c.exec) := by
  cases hran with
  | running hplatform | unattached hplatform => cases hplatform
  | invalid text hmode => simp [State.CreatesNothing, hmode]
  | noExec hmode hfails => simpa [State.CreatesNothing, hmode] using hfails
  | exec hmode id hcontainer hlive hcreated =>
    simp [State.CreatesNothing, hmode, hcontainer, hlive, hcreated]
  | uncreated hmode handler hexec =>
    simp only [State.CreatesNothing, hmode, any_creates_events,
      Option.isSome_some, true_and, iff_self]
    refine fun hnone => ⟨?_, hexec⟩
    obtain ⟨hlost, hready⟩ := List.append_eq_nil_iff.mp hnone
    simp [Creation.events, hlost, hready]
  | undone hmode handler id hresult =>
    have hsome := created_ne_nil hresult
    have hcreates := mt (any_creates_events _ c.env (some c.pty) program).mp hsome
    simp only [State.CreatesNothing, hmode, List.any_append, hsome, iff_false,
      Bool.or_eq_false_iff, false_implies, and_true]
    exact fun h => hcreates h.2.1
  | session hmode handler id hresult =>
    have hsome := created_ne_nil hresult
    simp [State.CreatesNothing, hmode, hsome]

end Guards

def Session.Started (session : Session) : Prop := ∃ e ∈ session.history, e.Started

instance decidableSessionStarted (session : Session) : Decidable session.Started :=
  inferInstanceAs (Decidable (∃ e ∈ session.history, e.Started))

def State.OneProgramEach (s : State) : Prop :=
  ∀ (i : Nat) (session : Session), s.sessions[i]? = some session → OneProgram session.history

/-- On Kubernetes, a second program of a session creates nothing. -/
def SecondFails (config : Config) (s : State) : {platform : Platform} → Action platform → Prop
  | .kubernetes, .request i request outcome =>
    request.AsksProgram config = true → (∃ session ∈ s.sessions[i]?, session.Started) →
        s.CreatesNothing config outcome
  | _, _ => True

instance decidableCreatesNothing (config : Config) (s : State)
    (outcome : Outcome .kubernetes) : Decidable (s.CreatesNothing config outcome) := by
  unfold State.CreatesNothing
  split <;> infer_instance

instance decidableSecondFails (config : Config) (s : State) :
    {platform : Platform} → (action : Action platform) → Decidable (SecondFails config s action)
  | .docker, _ => .isTrue trivial
  | .kubernetes, .request _ _ _ => inferInstanceAs (Decidable (_ → _ → _))
  | .kubernetes, .handshake _ _ => .isTrue trivial
  | .kubernetes, .openSession => .isTrue trivial
  | .kubernetes, .close _ => .isTrue trivial
  | .kubernetes, .disconnect => .isTrue trivial

def State.Recorded (s : State) : Prop :=
  ∀ (i : Nat) (session : Session), s.sessions[i]? = some session →
    OneProgram session.history → session.Started → session.handler.exec.isSome = true

theorem started_append {handler : ChannelHandler} {history : List Answered}
    {e : Answered} {closed : Bool} : Session.Started ⟨handler, history ++ [e], closed⟩ ↔
      (∃ earlier ∈ history, earlier.Started) ∨ e.Started := by
  simp only [Session.Started, List.mem_append, List.mem_singleton]
  constructor
  · rintro ⟨earlier, hearlier | rfl, hstarted⟩
    · exact .inl ⟨earlier, hearlier, hstarted⟩
    · exact .inr hstarted
  · rintro (⟨earlier, hearlier, hstarted⟩ | hstarted)
    · exact ⟨earlier, .inl hearlier, hstarted⟩
    · exact ⟨e, .inr rfl, hstarted⟩

section Steps

variable {platform : Platform} {config : Config} {s t : State}

theorem perform_refused_iff {i : Nat} {request : Request}
    {outcome : Outcome platform} {handler : ChannelHandler}
    {history : List Answered} {performed : Performed}
    (hsession : s.sessions[i]? = some ⟨handler, history, false⟩)
    (hstarted : ∃ e ∈ history, e.Started) (hexec : handler.exec.isSome = true)
    (hperform : s.perform config handler request outcome = some performed) :
    ((performed.answer.isSome = true ∧ performed.events.any Event.Creates = false) ∧
        ¬ performed.events.any Event.Starts = true ↔
      SecondFails config s (.request i request outcome)) ∧
    (SecondFails config s (.request i request outcome) →
      performed.handler.exec = handler.exec) := by
  cases platform with
  | docker =>
    obtain ⟨hevents, hsame, hanswer⟩ := perform_docker hexec hperform
    simp [SecondFails, hevents, hsame, hanswer]
  | kubernetes =>
    cases hasks : request.AsksProgram config with
    | false =>
      obtain ⟨hevents, hsame, hanswer⟩ := perform_other hasks hperform
      simp [SecondFails, hasks, hevents, hsame, hanswer hexec]
    | true =>
      have hfails : SecondFails config s (.request i request outcome) ↔
          s.CreatesNothing config outcome := by
        refine ⟨fun h => h hasks ⟨_, hsession, hstarted⟩, fun h _ _ => h⟩
      obtain ⟨program, hrun⟩ := perform_program hasks hperform
      obtain ⟨hiff, hnothing⟩ := (ran_of_runProgram hrun).kubernetes_refused_iff
      rw [hfails, ← hiff]
      refine ⟨and_iff_left_of_imp fun h => ?_, fun h => ?_⟩
      · rw [(hnothing (hiff.mp h)).1]
        exact Bool.false_ne_true
      · exact (hnothing (hiff.mp h)).2

theorem secondFails_of_not_started {i : Nat} {request : Request}
    {outcome : Outcome platform} {session : Session}
    (hsession : s.sessions[i]? = some session) (hnot : ¬ session.Started) :
    SecondFails config s (.request i request outcome) := by
  cases platform with
  | docker => trivial
  | kubernetes =>
    rintro - ⟨other, hother, hstarted⟩
    rw [hsession, Option.mem_some_iff] at hother
    exact absurd (hother ▸ hstarted) hnot

theorem secondFails_other (action : Action platform)
    (hnot : ∀ i request outcome, action ≠ .request i request outcome) :
    SecondFails config s action := by
  cases platform with
  | docker => trivial
  | kubernetes =>
    cases action with
    | request i request outcome => exact absurd rfl (hnot i request outcome)
    | _ => trivial

variable {i : Nat} {request : Request} {outcome : Outcome platform}
  {handler : ChannelHandler} {history : List Answered} {performed : Performed}

theorem oneProgram_request (hrecorded : s.Recorded)
    (hsession : s.sessions[i]? = some ⟨handler, history, false⟩)
    (hperform : s.perform config handler request outcome = some performed) :
    OneProgram (history ++ [⟨request, performed.events, performed.answer⟩]) ↔
      OneProgram history ∧ SecondFails config s (.request i request outcome) := by
  rw [oneProgram_append (perform_recorded hperform).once]
  refine and_congr_right fun hone => ?_
  by_cases hstarted : ∃ e ∈ history, e.Started
  · have hexec := hrecorded i _ hsession hone hstarted
    rw [← (perform_refused_iff hsession hstarted hexec hperform).1]
    exact ⟨fun h => h hstarted, fun h _ => h⟩
  · exact iff_of_true (fun h => absurd h hstarted) (secondFails_of_not_started hsession hstarted)

theorem recorded_request (hrecorded : s.Recorded)
    (hsession : s.sessions[i]? = some ⟨handler, history, false⟩)
    (hperform : s.perform config handler request outcome = some performed) (hone : OneProgram
      (history ++ [⟨request, performed.events, performed.answer⟩]))
    (hstarted : Session.Started ⟨performed.handler,
      history ++ [⟨request, performed.events, performed.answer⟩], false⟩) :
    performed.handler.exec.isSome = true := by
  rw [started_append] at hstarted
  rcases hstarted with hstarted | hstarted
  · obtain ⟨hold, hfails⟩ := (oneProgram_request hrecorded hsession hperform).mp hone
    have hexec := hrecorded i _ hsession hold hstarted
    rw [(perform_refused_iff hsession hstarted hexec hperform).2 hfails]
    exact hexec
  · exact (perform_recorded hperform).exec hstarted

theorem State.Recorded.step {action : Action platform} (hrecorded : s.Recorded)
    (hstep : s.step config action = some t) : t.Recorded := by
  cases does_of_step hstep with
  | handshake env outcome =>
    rw [State.Recorded, (shook config s env outcome).sessions]
    exact hrecorded
  | openSession =>
    refine (ListBlocks.forall_getElem?_append_singleton ?_).mpr hrecorded
    rintro - ⟨e, he, -⟩
    cases he
  | request i request outcome handler history hsession performed hperform =>
    intro k session hk
    refine ListBlocks.forall_getElem?_set
      (P := fun _ session => OneProgram session.history → session.Started →
        session.handler.exec.isSome = true) (fun k session _ => hrecorded k session) ?_ hk
    exact recorded_request hrecorded hsession hperform
  | close i handler history hsession =>
    intro k session hk
    rw [State.setSession, onClose_sessions] at hk
    refine ListBlocks.forall_getElem?_set
      (P := fun _ session => OneProgram session.history → session.Started →
        session.handler.exec.isSome = true) (fun k session _ => hrecorded k session) ?_ hk
    exact hrecorded i ⟨handler, history, false⟩ hsession
  | disconnect =>
    rw [State.Recorded, onDisconnect_sessions]
    exact hrecorded

theorem oneProgramEach_step {action : Action platform}
    (hrecorded : s.Recorded) (hstep : s.step config action = some t) :
    t.OneProgramEach ↔ s.OneProgramEach ∧ SecondFails config s action := by
  have hother : (∀ i request outcome, action ≠ .request i request outcome) →
      SecondFails config s action :=
    secondFails_other action
  cases does_of_step hstep with
  | handshake env outcome =>
    rw [State.OneProgramEach, (shook config s env outcome).sessions]
    exact (and_iff_left (hother fun _ _ _ => by simp)).symm
  | openSession =>
    rw [and_iff_left (hother fun _ _ _ => by simp)]
    exact ListBlocks.forall_getElem?_append_singleton oneProgram_nil
  | request i request outcome handler history hsession performed hperform =>
    refine ListBlocks.forall_getElem?_set_iff
      (P := fun _ session => OneProgram session.history) hsession ?_
    exact oneProgram_request hrecorded hsession hperform
  | close i handler history hsession =>
    rw [State.setSession, onClose_sessions]
    refine ListBlocks.forall_getElem?_set_iff
      (P := fun _ session => OneProgram session.history) hsession ?_
    exact (and_iff_left (hother fun _ _ _ => by simp)).symm
  | disconnect =>
    rw [State.OneProgramEach, onDisconnect_sessions]
    exact (and_iff_left (hother fun _ _ _ => by simp)).symm

end Steps

/-- Every session has at most one program, and every request after it is
refused, exactly in the runs in which no second program of a Kubernetes session
gets anything created. -/
theorem one_program_iff (platform : Platform) (config : Config)
    {actions : List (Action platform)} {s : State}
    (hrun : (system platform config).run actions = some s) : s.OneProgramEach ↔
      (system platform config).Meets (fun s => SecondFails config s) {} actions := by
  have hinit : State.OneProgramEach {} := by
    intro i session hsession
    cases hsession
  have hrecorded : State.Recorded {} := by
    intro i session hsession
    cases hsession
  rw [(system platform config).runFrom_iff_meets (G := fun s => SecondFails config s)
    (fun _ _ _ => State.Recorded.step) (fun _ _ _ => oneProgramEach_step) hrecorded hrun]
  exact and_iff_right hinit

def twoShells (second : Outcome .kubernetes) : List (Action .kubernetes) :=
  [.handshake [] {}, .openSession, .request 0 .shell {}, .request 0 .shell second]

theorem one_program_when_cluster_refuses : ∃ s, (system .kubernetes { mode := .connection }).run
        (twoShells { createExec := some (.plain "timeout") }) = some s ∧
      s.OneProgramEach := by
  refine TransitionSystem.exists_run _ rfl fun s hrun => ?_
  exact (one_program_iff .kubernetes _ hrun).mpr (by decide)

/-- The second shell replaces the first: two programs run on the session, and
only one of them is recorded. -/
theorem second_program_started :
    ∃ s, (system .kubernetes { mode := .session }).run (twoShells {}) = some s ∧
      ¬ s.OneProgramEach := by
  refine ⟨_, rfl, fun hone => ?_⟩
  exact absurd (hone 0 _ rfl) (by decide)

def IsPath (words : List String) : Prop :=
  ∃ first ∈ words.head?, first.startsWith "/" || first.startsWith "./" || first.startsWith "../"

theorem parseProgram_of_isPath {parseCMD : String → Option (List String)} {program : String}
    {words : List String} (hwords : parseCMD program = some words) (hpath : IsPath words) :
    parseProgram parseCMD program = some words := by
  obtain ⟨first, hfirst, hpath⟩ := hpath
  obtain ⟨rest, rfl⟩ := List.head?_eq_some_iff.mp hfirst
  simp only [parseProgram, hwords, hpath, if_true]

theorem parseProgram_of_not_isPath {parseCMD : String → Option (List String)} {program : String}
    (hsome : parseCMD program ≠ some [])
    (hpath : ∀ words, parseCMD program = some words → ¬ IsPath words) :
    parseProgram parseCMD program = some ["/bin/sh", "-c", program] := by
  unfold parseProgram
  split
  next => rfl
  next hwords => exact absurd hwords hsome
  next first rest hwords => exact if_neg fun h => hpath _ hwords ⟨first, rfl, h⟩

/-- An exec request is run by both backends, as the words of a program with its
path or in a shell, exactly if its text has a word or cannot be parsed. -/
theorem exec_request_iff (platform : Platform) (config : Config) (program : String) :
    (∃ args, parseProgram config.parseCMD program = some args ∧ args ≠ [] ∧
      (∀ words, config.parseCMD program = some words → IsPath words → args = words) ∧
      ((∀ words, config.parseCMD program = some words → ¬ IsPath words) →
        args = ["/bin/sh", "-c", program]) ∧
      ∀ (s : State) (c : ChannelHandler) (outcome : Outcome platform),
        s.perform config c (.exec program) outcome = s.runProgram config c args outcome) ↔
      config.parseCMD program ≠ some [] := by
  constructor
  · rintro ⟨args, hargs, -⟩ hempty
    simp [parseProgram, hempty] at hargs
  · intro hsome
    by_cases hpath : ∃ words, config.parseCMD program = some words ∧ IsPath words
    · obtain ⟨words, hwords, hpath⟩ := hpath
      have hargs := parseProgram_of_isPath hwords hpath
      refine ⟨words, hargs, fun hnil => hsome (hnil ▸ hwords), ?_, ?_, ?_⟩
      · intro other hother _
        exact Option.some.inj (hwords.symm.trans hother)
      · exact fun hnone => absurd hpath (hnone words hwords)
      · intro s c outcome
        simp only [State.perform, hargs]
    · have hnone : ∀ words, config.parseCMD program = some words → ¬ IsPath words :=
        fun words hwords h => hpath ⟨words, hwords, h⟩
      have hargs := parseProgram_of_not_isPath hsome hnone
      refine ⟨_, hargs, by simp, fun words hwords h => absurd h (hnone words hwords),
        fun _ => rfl, ?_⟩
      intro s c outcome
      simp only [State.perform, hargs]

/-- A text without a word, such as the empty one, ends the process: the session is
open and the request is never answered. -/
theorem empty_exec_crashes : ∃ config program, parseProgram config.parseCMD program = none ∧
    ∀ platform, ∃ s, (system platform config).run [.handshake [] {}, .openSession] = some s ∧
      s.sessions = [{}] ∧
      s.step config (.request 0 (.exec program) ({} : Outcome platform)) = none := by
  refine ⟨{ mode := .session, parseCMD := fun text => some (if text = "" then [] else [text]) },
    "", rfl, fun platform => ?_⟩
  cases platform <;> exact ⟨_, rfl, rfl, rfl⟩

end ContainerSSH.ContainerBackend
