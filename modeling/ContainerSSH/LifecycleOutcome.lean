/-
The outcome of a run.
-/
import ContainerSSH.ServiceLifecycle

namespace ContainerSSH.Service.Lifecycle

def ServiceEnd.error : ServiceEnd → Option GoError
  | returned err => err
  | panicked value => some (paniced value)

def ServiceEnd.ret : ServiceEnd → Option GoError
  | returned err => err
  | panicked _ => none

theorem ServiceEnd.ret_eq_error_iff (e : ServiceEnd) :
    e.ret = e.error ↔ ∀ value, e ≠ .panicked value := by
  cases e <;> simp [ret, error]

def error (s : Lifecycle) : Option GoError := s.lastError

/-- `Run` and every `Wait` during it return the error the service is left with. -/
structure OneOutcome (s : Lifecycle) (i : Nat) (result : Result) : Prop where
  run : result = .error s.error
  waits : ∀ c ∈ s.calls, c.method = .wait → c.during = some i →
    ∀ err, c.point = .returned (.error err) → err = s.error
  crashed : s.error ≠ none ↔ s.state = .crashed

def runPoint (s : Lifecycle) : Option Point := s.latest.bind s.pointOf

/-- One `Run` at a time, and the service reports `Running` and `Stopping` only while it runs. -/
def Orderly (s : Lifecycle) : Action → Prop
  | .call .run => s.active = none
  | .call .running => s.runPoint = some .serving
  | .call .stopping => s.runPoint = some .serving
  | .serviceReturns _ _ => ∀ c ∈ s.calls,
      c.method = .running ∨ c.method = .stopping → c.point.isReturned = true
  | .servicePanics _ _ => ∀ c ∈ s.calls,
      c.method = .running ∨ c.method = .stopping → c.point.isReturned = true
  | _ => True

instance decidableOrderly (s : Lifecycle) (action : Action) : Decidable (s.Orderly action) := by
  cases action with
  | call method => cases method <;> unfold Orderly <;> infer_instance
  | _ => unfold Orderly; infer_instance

inductive Role where
  | run
  | report
  | other
deriving DecidableEq

def Section.role : Section → Role
  | starting => .run
  | stopped => .run
  | crashed _ _ => .run
  | running => .report
  | stopping => .report
  | _ => .other

def AfterHooks.role : AfterHooks → Role
  | leave _ => .report
  | _ => .run

def Point.role : Point → Role
  | resetError => .run
  | makeContext => .run
  | lock sec => sec.role
  | held sec => sec.role
  | unlock (.hooks after) => after.role
  | hooks after => after.role
  | serving => .run
  | cancelWait _ => .run
  | _ => .other

inductive Phase where
  | early
  | up
  | ended
deriving DecidableEq

def Point.phase : Point → Phase
  | resetError => .early
  | makeContext => .early
  | lock .starting => .early
  | held .starting => .early
  | lock _ => .up
  | held _ => .up
  | unlock (.hooks .serve) => .up
  | hooks .serve => .up
  | serving => .up
  | _ => .ended

def Over (s : Lifecycle) : Prop := s.state = .stopped ∨ s.state = .crashed

def Fresh (s : Lifecycle) : Prop := ∃ c, s.waitContext = some c ∧ c ∉ s.done

structure Up (s : Lifecycle) : Prop where
  notOver : ¬ s.Over
  noError : s.lastError = none
  fresh : s.Fresh

def Reported (s : Lifecycle) (ret : Option GoError) : Prop :=
  ∃ e, s.ended = some e ∧ ret = e.ret ∧ s.lastError = e.error ∧
    s.state = if e.error.isSome then .crashed else .stopped

def RunAt (s : Lifecycle) : Point → Prop
  | .resetError => s.Over
  | .makeContext => s.Over ∧ s.lastError = none
  | .lock .starting => s.Over ∧ s.lastError = none ∧ s.Fresh
  | .held .starting => s.Over ∧ s.lastError = none ∧ s.Fresh
  | .unlock (.hooks .serve) => s.Up
  | .hooks .serve => s.Up
  | .serving => s.Up
  | .lock .stopped => s.Up ∧ s.ended = some (.returned none)
  | .held .stopped => s.Up ∧ s.ended = some (.returned none)
  | .lock (.crashed err ret) => s.Up ∧ ∃ e, s.ended = some e ∧ e.error = some err ∧ ret = e.ret
  | .held (.crashed err ret) => s.Up ∧ ∃ e, s.ended = some e ∧ e.error = some err ∧ ret = e.ret
  | .unlock (.hooks (.finish ret)) => s.Reported ret
  | .hooks (.finish ret) => s.Reported ret
  | .cancelWait ret => s.Reported ret
  | .returned (.error ret) => s.Reported ret
  | _ => False

def Result.NoError : Result → Prop
  | error _ => False
  | _ => True

def WaitAt (s : Lifecycle) (phase : Phase) (j : Nat) : Point → Prop
  | .unlock (.block c) => phase ≠ .early ∧ c = s.waitContext
  | .block c => phase ≠ .early ∧ c = s.waitContext
  | .readError => phase = .ended
  | .returned (.error err) => phase = .ended ∧ err = s.lastError ∨ phase = .early ∧ s.mutex = some j
  | .unlock (.leave result) => result.NoError
  | .unlock (.hooks (.leave result)) => result.NoError
  | .hooks (.leave result) => result.NoError
  | _ => True

def PhaseAt (s : Lifecycle) : Phase → Prop
  | .early => s.Over
  | .up => s.Up
  | .ended => s.state = .crashed ∨ s.state = .stopped ∧ s.lastError = none

variable {s : Lifecycle} {ret : Option GoError}

theorem Reported.phaseAt (h : s.Reported ret) : s.PhaseAt .ended := by
  obtain ⟨e, -, -, herror, hstate⟩ := h
  cases he : e.error with
  | none =>
    rw [he] at herror hstate
    exact .inr ⟨hstate, herror⟩
  | some =>
    rw [he] at hstate
    exact .inl hstate

variable {point : Point}

theorem RunAt.phaseAt (h : s.RunAt point) : s.PhaseAt point.phase := by
  unfold RunAt at h
  split at h
  case h_16 => exact h.elim
  all_goals first
      | exact h
      | exact h.1
      | exact Reported.phaseAt h

theorem PhaseAt.isOver (h : s.PhaseAt .ended) : s.Over := h.symm.imp And.left id

structure Frame (s t : Lifecycle) : Prop where
  lastError : t.lastError = s.lastError
  waitContext : t.waitContext = s.waitContext
  waitContexts : t.waitContexts = s.waitContexts
  done : t.done = s.done
  latest : t.latest = s.latest
  ended : t.ended = s.ended

variable {phase : Phase} {j : Nat}

theorem PhaseAt.leaves {err : Option GoError} (hphase : s.PhaseAt phase)
    (hover : s.Over) (hmutex : s.mutex = some j) (herr : phase = .ended → err = s.lastError) :
    s.WaitAt phase j (.returned (.error err)) := by
  cases phase with
  | early => exact .inr ⟨rfl, hmutex⟩
  | up => exact (hphase.notOver hover).elim
  | ended => exact .inl ⟨rfl, herr rfl⟩

theorem PhaseAt.lastError_of_stopped (hphase : s.PhaseAt .ended)
    (hstopped : s.state = .stopped) : s.lastError = none := by
  rcases hphase with hcrashed | ⟨-, hnone⟩
  · rw [hstopped] at hcrashed
    cases hcrashed
  · exact hnone

theorem PhaseAt.over_of_done (hphase : s.PhaseAt phase) (hearly : phase ≠ .early)
    (hdone : (s.waitContext.all fun c => s.done.contains c) = true) : phase = .ended := by
  cases phase with
  | early => exact absurd rfl hearly
  | up =>
    obtain ⟨c, hc, hnot⟩ := hphase.fresh
    rw [hc] at hdone
    exact absurd (by simpa using hdone) hnot
  | ended => rfl

structure Others (s t : Lifecycle) (i : Nat) (point point' : Point) : Prop where
  calls : t.calls = (s.moveTo i point').calls
  frame : s.Frame t
  state : t.state = s.state ∨ point.role = .report ∧ ¬ t.Over
  role : point'.role = point.role ∨ point'.isReturned = true
  waits : ∀ phase, s.PhaseAt phase → s.WaitAt phase i point → t.WaitAt phase i point'

variable {i : Nat}

theorem others_of_enter {sec : Section} (hs : s.Consistent)
    (hpoint : s.pointOf i = some (.held sec)) (hrole : sec.role ≠ .run) :
    ∃ point', Others s (s.enter i sec) i (.held sec) point' := by
  cases sec with
  | starting | stopped | crashed => exact absurd rfl hrole
  | running | stopping =>
    exact ⟨_, rfl, ⟨rfl, rfl, rfl, rfl, rfl, rfl⟩,
      .inr ⟨rfl, by simp [Over, enter]⟩, .inl rfl, fun _ _ _ => trivial⟩
  | stop shutdownContext =>
    simp only [enter]
    split <;> exact ⟨_, rfl, ⟨rfl, rfl, rfl, rfl, rfl, rfl⟩, .inl rfl, .inl rfl,
      fun _ _ _ => trivial⟩
  | wait =>
    have hmutex := hs.holding i _ hpoint rfl
    simp only [enter]
    split
    next hcrashed =>
      exact ⟨_, rfl, ⟨rfl, rfl, rfl, rfl, rfl, rfl⟩, .inl rfl, .inr rfl,
        fun _ hphase _ => hphase.leaves (.inr hcrashed) hmutex fun _ => rfl⟩
    split
    next hstopped =>
      refine ⟨_, rfl, ⟨rfl, rfl, rfl, rfl, rfl, rfl⟩, .inl rfl, .inr rfl,
        fun _ hphase _ => hphase.leaves (.inl hstopped) hmutex ?_⟩
      rintro rfl
      exact (hphase.lastError_of_stopped hstopped).symm
    next hcrashed hstopped =>
      refine ⟨_, rfl, ⟨rfl, rfl, rfl, rfl, rfl, rfl⟩, .inl rfl, .inl rfl,
        fun _ hphase _ => ⟨?_, rfl⟩⟩
      rintro rfl
      exact hphase.elim hstopped hcrashed
  | _ => exact ⟨_, rfl, ⟨rfl, rfl, rfl, rfl, rfl, rfl⟩, .inl rfl, .inl rfl, fun _ _ _ => trivial⟩

theorem Result.NoError.waitAt {result : Result} (h : result.NoError)
    (t : Lifecycle) (phase : Phase) (i : Nat) : t.WaitAt phase i (.returned result) := by
  cases result with
  | error => exact h.elim
  | _ => trivial

variable {t : Lifecycle}

theorem others_of_advance (hs : s.Consistent) (hpoint : s.pointOf i = some point)
    (hrole : point.role ≠ .run) (hadvance : s.advance i point = some t) :
    ∃ point', Others s t i point point' := by
  cases point with
  | lock sec =>
    obtain ⟨-, ht⟩ := Option.ite_none_right_eq_some.mp hadvance
    cases ht
    exact ⟨_, rfl, ⟨rfl, rfl, rfl, rfl, rfl, rfl⟩, .inl rfl, .inl rfl, fun _ _ _ => trivial⟩
  | held sec =>
    cases hadvance
    exact others_of_enter hs hpoint hrole
  | unlock next =>
    cases hadvance
    refine ⟨next.point, rfl, ⟨rfl, rfl, rfl, rfl, rfl, rfl⟩, .inl rfl, ?_, ?_⟩
    · cases next <;> exact .inl rfl
    · intro phase _ hat
      cases next with
      | leave => exact Result.NoError.waitAt hat _ _ _
      | hooks after => cases after <;> exact hat
      | cancelRun => trivial
      | block => exact hat
  | hooks after =>
    cases hadvance
    cases after with
    | leave result =>
      exact ⟨_, rfl, ⟨rfl, rfl, rfl, rfl, rfl, rfl⟩, .inl rfl, .inr rfl,
        fun _ _ hat => Result.NoError.waitAt hat _ _ _⟩
    | serve | finish => exact absurd rfl hrole
  | block c =>
    obtain ⟨hdone, ht⟩ := Option.ite_none_right_eq_some.mp hadvance
    cases ht
    refine ⟨_, rfl, ⟨rfl, rfl, rfl, rfl, rfl, rfl⟩, .inl rfl, .inl rfl, ?_⟩
    rintro phase hphase ⟨hearly, rfl⟩
    exact hphase.over_of_done hearly hdone
  | readError =>
    cases hadvance
    exact ⟨_, rfl, ⟨rfl, rfl, rfl, rfl, rfl, rfl⟩, .inl rfl, .inr rfl,
      fun _ _ hat => .inl ⟨hat, rfl⟩⟩
  | cancelRun =>
    cases hadvance
    exact ⟨_, rfl, ⟨rfl, rfl, rfl, rfl, rfl, rfl⟩, .inl rfl, .inl rfl, fun _ _ _ => trivial⟩
  | resetError | makeContext | serving | cancelWait => exact absurd rfl hrole
  | returned => cases hadvance

inductive Proceeds (s t : Lifecycle) (i : Nat) : Phase → Phase → Prop
  | stays (phase : Phase) (hcontext : phase ≠ .early → t.waitContext = s.waitContext)
      (herror : phase = .ended → t.lastError = s.lastError) : Proceeds s t i phase phase
  | starts (hmutex : s.mutex = some i) : Proceeds s t i .early .up
  | ends (hcontext : t.waitContext = s.waitContext) : Proceeds s t i .up .ended

theorem WaitAt.proceeds {phase' : Phase} (hat : s.WaitAt phase j point)
    (hne : j ≠ i) (hproceeds : s.Proceeds t i phase phase')
    (hmutex : s.mutex = some j → point.isReturned = true → t.mutex = some j) :
    t.WaitAt phase' j point := by
  unfold WaitAt at hat ⊢
  split at hat
  case h_1 | h_2 =>
      obtain ⟨hearly, rfl⟩ := hat
      cases hproceeds with
      | stays _ hcontext => exact ⟨hearly, (hcontext hearly).symm⟩
      | starts => exact absurd rfl hearly
      | ends hcontext => exact ⟨by simp, hcontext.symm⟩
  case h_3 =>
      subst hat
      cases hproceeds
      rfl
  case h_4 =>
      rcases hat with ⟨rfl, rfl⟩ | ⟨rfl, hj⟩
      · cases hproceeds with
        | stays _ _ herror => exact .inl ⟨rfl, (herror rfl).symm⟩
      · cases hproceeds with
        | stays => exact .inr ⟨rfl, hmutex hj rfl⟩
        | starts hi => exact absurd (Option.some.inj (hj.symm.trans hi)) hne
  all_goals exact hat

theorem Fresh.frame (h : s.Fresh) (hcontext : t.waitContext = s.waitContext)
    (hdone : t.done = s.done) :
    t.Fresh := by
  rwa [Fresh, hcontext, hdone]

theorem Up.frame (h : s.Up) (hframe : s.Frame t) (hstate : ¬ t.Over) : t.Up :=
  ⟨hstate, hframe.lastError.trans h.noError, h.fresh.frame hframe.waitContext hframe.done⟩

theorem RunAt.frame (h : s.RunAt point) (hframe : s.Frame t)
    (hstate : t.state = s.state) : t.RunAt point := by
  have hover : t.Over ↔ s.Over := by rw [Over, Over, hstate]
  have hfresh : t.Fresh ↔ s.Fresh := by rw [Fresh, Fresh, hframe.waitContext, hframe.done]
  have hup : t.Up ↔ s.Up := by
    constructor
    · exact fun h => ⟨hover.not.mp h.1, hframe.lastError ▸ h.2, hfresh.mp h.3⟩
    · exact fun h => ⟨hover.not.mpr h.1, hframe.lastError ▸ h.2, hfresh.mpr h.3⟩
  have hreported : ∀ ret, t.Reported ret ↔ s.Reported ret := by
    intro ret
    rw [Reported, Reported, hframe.ended, hframe.lastError, hstate]
  unfold RunAt at h ⊢
  split at h
  case h_16 => exact h.elim
  all_goals simpa only [hover, hfresh, hup, hreported, hframe.lastError, hframe.ended] using h

structure Contexts (s : Lifecycle) : Prop where
  done_lt : ∀ c ∈ s.done, c < s.waitContexts
  lt : ∀ c, s.waitContext = some c → c < s.waitContexts

theorem Contexts.frame (hs : s.Contexts) (hframe : s.Frame t) :
    t.Contexts := by
  constructor
  · rw [hframe.done, hframe.waitContexts]
    exact hs.done_lt
  · rw [hframe.waitContext, hframe.waitContexts]
    exact hs.lt

structure Runs (s t : Lifecycle) (i : Nat) (point point' : Point) : Prop where
  calls : t.calls = (s.moveTo i point').calls
  latest : t.latest = s.latest
  contexts : t.Contexts
  runAt : t.RunAt point'
  proceeds : s.Proceeds t i point.phase point'.phase

variable {point' : Point}

theorem RunAt.runs (hat : s.RunAt point') (hcontexts : s.Contexts)
    (hframe : s.Frame t) (hstate : t.state = s.state) (hcalls : t.calls = (s.moveTo i point').calls)
    (hphase : point'.phase = point.phase) : Runs s t i point point' := by
  refine ⟨hcalls, hframe.latest, hcontexts.frame hframe, hat.frame hframe hstate, ?_⟩
  rw [hphase]
  exact .stays _ (fun _ => hframe.waitContext) fun _ => hframe.lastError

theorem RunAt.advance (hs : s.Consistent) (hcontexts : s.Contexts)
    (hpoint : s.pointOf i = some point) (hat : s.RunAt point)
    (hadvance : s.advance i point = some t) : ∃ point', Runs s t i point point' := by
  cases point with
  | resetError =>
    cases hadvance
    exact ⟨_, rfl, rfl, ⟨hcontexts.done_lt, hcontexts.lt⟩, ⟨hat, rfl⟩,
      .stays .early (by simp) (by simp)⟩
  | makeContext =>
    cases hadvance
    refine ⟨_, rfl, rfl, ⟨fun c hc => Nat.lt_succ_of_lt (hcontexts.done_lt c hc), ?_⟩,
      ⟨hat.1, hat.2, s.waitContexts, rfl, fun hdone => ?_⟩, .stays .early (by simp) (by simp)⟩
    · rintro _ ⟨⟩
      exact Nat.lt_succ_self _
    · exact Nat.lt_irrefl _ (hcontexts.done_lt _ hdone)
  | lock sec =>
    obtain ⟨-, ht⟩ := Option.ite_none_right_eq_some.mp hadvance
    cases ht
    have hsame : s.RunAt (.held sec) ∧ (Point.held sec).phase = (Point.lock sec).phase := by
      cases sec <;> exact ⟨hat, rfl⟩
    exact ⟨_, hsame.1.runs hcontexts ⟨rfl, rfl, rfl, rfl, rfl, rfl⟩ rfl rfl hsame.2⟩
  | held sec =>
    have hmutex := hs.holding i _ hpoint rfl
    have hsame : s.Contexts := hcontexts
    cases hadvance
    cases sec with
    | starting =>
      obtain ⟨-, hnone, hfresh⟩ := hat
      exact ⟨_, rfl, rfl, ⟨hsame.1, hsame.2⟩,
        ⟨by simp [Over, enter], hnone, hfresh⟩, .starts hmutex⟩
    | stopped =>
      obtain ⟨hup, hended⟩ := hat
      exact ⟨_, rfl, rfl, ⟨hsame.1, hsame.2⟩, ⟨_, hended, rfl, hup.noError, rfl⟩, .ends rfl⟩
    | crashed =>
      obtain ⟨-, e, hended, herror, hret⟩ := hat
      refine ⟨_, rfl, rfl, ⟨hsame.1, hsame.2⟩, ⟨e, hended, hret, herror.symm, ?_⟩, .ends rfl⟩
      rw [herror]
      rfl
    | _ => exact hat.elim
  | unlock next =>
    cases hadvance
    have hsame : s.RunAt next.point ∧ next.point.phase = (Point.unlock next).phase := by
      cases next with
      | hooks after => cases after <;> exact ⟨hat, rfl⟩
      | _ => exact hat.elim
    exact ⟨_, hsame.1.runs hcontexts ⟨rfl, rfl, rfl, rfl, rfl, rfl⟩ rfl rfl hsame.2⟩
  | hooks after =>
    cases hadvance
    have hsame : s.RunAt after.point ∧ after.point.phase = (Point.hooks after).phase := by
      cases after <;> first | exact ⟨hat, rfl⟩ | exact hat.elim
    exact ⟨_, hsame.1.runs hcontexts ⟨rfl, rfl, rfl, rfl, rfl, rfl⟩ rfl rfl hsame.2⟩
  | cancelWait ret =>
    cases hadvance
    refine ⟨_, rfl, rfl, ⟨fun c hc => ?_, hcontexts.lt⟩, hat,
      .stays .ended (fun _ => rfl) fun _ => rfl⟩
    rcases List.mem_append.mp hc with hnew | hold
    · exact hcontexts.lt c (Option.mem_toList.mp hnew)
    · exact hcontexts.done_lt c hold
  | serving | returned => cases hadvance
  | _ => exact hat.elim

theorem Up.serviceEnds (hup : s.Up) (hcontexts : s.Contexts) (i : Nat) (e : ServiceEnd) :
    ∃ point', Runs s (s.serviceEnds i e) i .serving point' := by
  have hstays : ∀ t : Lifecycle, t.waitContext = s.waitContext →
      s.Proceeds t i .up .up := fun _ h => .stays .up (fun _ => h) (by simp)
  obtain ⟨hnot, hnone, hfresh⟩ := hup
  obtain ⟨hdone, hlt⟩ := hcontexts
  cases e with
  | returned err =>
    cases err with
    | none => exact ⟨_, rfl, rfl, ⟨hdone, hlt⟩, ⟨⟨hnot, hnone, hfresh⟩, rfl⟩, hstays _ rfl⟩
    | some =>
      exact ⟨_, rfl, rfl, ⟨hdone, hlt⟩, ⟨⟨hnot, hnone, hfresh⟩, _, rfl, rfl, rfl⟩, hstays _ rfl⟩
  | panicked =>
    exact ⟨_, rfl, rfl, ⟨hdone, hlt⟩, ⟨⟨hnot, hnone, hfresh⟩, _, rfl, rfl, rfl⟩, hstays _ rfl⟩

theorem RunAt.role (hat : s.RunAt point) : point.role = .run ∨ point.isReturned = true := by
  unfold RunAt at hat
  split at hat
  case h_16 => exact hat.elim
  case h_15 => exact .inr rfl
  all_goals exact .inl rfl

variable {c : Call}

theorem getElem?_of_calls (hcalls : t.calls = (s.moveTo i point').calls)
    (hc : t.calls[j]? = some c) :
    (j = i ∧ ∃ c₀, s.calls[i]? = some c₀ ∧ c = { c₀ with point := point' }) ∨
      j ≠ i ∧ s.calls[j]? = some c := by
  rw [hcalls, moveTo, List.getElem?_modify] at hc
  by_cases hij : i = j
  · subst hij
    simp only [Option.map_eq_map, Option.map_eq_some_iff] at hc
    obtain ⟨c₀, hc₀, rfl⟩ := hc
    exact .inl ⟨rfl, c₀, hc₀, rfl⟩
  · exact .inr ⟨Ne.symm hij, by simpa [hij] using hc⟩

structure CallOk (s : Lifecycle) (j : Nat) (c : Call) : Prop where
  during_lt : ∀ d, c.during = some d → d < j
  runs : c.point.role = .run → s.latest = some j
  reports : c.point.role = .report →
    (c.method = .running ∨ c.method = .stopping) ∧ s.runPoint = some .serving
  waits : ∀ i point, s.latest = some i → s.pointOf i = some point →
    c.during = some i → s.WaitAt point.phase j c.point

structure Ordered (s : Lifecycle) : Prop where
  consistent : s.Consistent
  contexts : s.Contexts
  calls : ∀ j c, s.calls[j]? = some c → s.CallOk j c
  run : (s.latest = none ∧ s.state = .stopped) ∨
    ∃ i point, s.latest = some i ∧ s.pointOf i = some point ∧ s.RunAt point

theorem role_of_isReturned (h : point.isReturned = true) : point.role = .other := by
  cases point with
  | returned => rfl
  | _ => cases h

variable {action : Action}

theorem mutex_of_returned (hs : s.Consistent) (hc : s.calls[j]? = some c)
    (hstep : s.step action = some t) (hmutex : s.mutex = some j)
    (hreturned : c.point.isReturned = true) : t.mutex = some j := by
  have hpoint : s.pointOf j = some c.point := by rw [pointOf, hc]; rfl
  cases hp : c.point with
  | returned result =>
    rw [hp] at hpoint
    exact (Leaked.step hs ⟨hmutex, result, hpoint⟩ hstep).1
  | _ =>
    rw [hp] at hreturned
    cases hreturned

theorem Ordered.runAt (hs : s.Ordered) (hi : s.latest = some i) :
    ∃ point, s.pointOf i = some point ∧ s.RunAt point := by
  rcases hs.run with ⟨hnone, -⟩ | ⟨i', point, hi', hrest⟩
  · rw [hi] at hnone
    cases hnone
  · rw [hi, Option.some.injEq] at hi'
    exact ⟨point, hi' ▸ hrest⟩

theorem Ordered.runAt_of_pointOf (hs : s.Ordered) (hi : s.latest = some i)
    (hpoint : s.pointOf i = some point) : s.RunAt point := by
  obtain ⟨q, hq, hat⟩ := hs.runAt hi
  rw [hpoint, Option.some.injEq] at hq
  exact hq ▸ hat

theorem runPoint_eq (hi : s.latest = some i) : s.runPoint = s.pointOf i := by
  rw [runPoint, hi, Option.bind_some]

theorem CallOk.frame (h : s.CallOk j c) (hs : s.Consistent)
    (hc : s.calls[j]? = some c) (hstep : s.step action = some t)
    (hframe : s.Frame t) (hpoints : ∀ i point, s.latest = some i →
      (t.pointOf i = some point ↔ s.pointOf i = some point)) : t.CallOk j c where
  during_lt := h.during_lt
  runs hrole := hframe.latest.trans (h.runs hrole)
  reports hrole := by
    obtain ⟨hmethod, hserving⟩ := h.reports hrole
    obtain ⟨i, hi, hpoint⟩ := Option.bind_eq_some_iff.mp hserving
    refine ⟨hmethod, ?_⟩
    rw [runPoint_eq (hframe.latest.trans hi)]
    exact (hpoints i _ hi).mpr hpoint
  waits := by
    intro i point hi hpoint hd
    rw [hframe.latest] at hi
    exact (h.waits i point hi ((hpoints i point hi).mp hpoint) hd).proceeds
      (Nat.ne_of_lt (Nat.lt_succ_self j))
      (.stays _ (fun _ => hframe.waitContext) fun _ => hframe.lastError)
      (mutex_of_returned hs hc hstep)

theorem Ordered.run_moves (hs : s.Ordered) (hstep : s.step action = some t)
    (hi : s.latest = some i) (hpoint : s.pointOf i = some point)
    (hreports : ∀ (j : Nat) (c : Call), s.calls[j]? = some c → c.point.role ≠ .report)
    (hruns : Runs s t i point point') : t.Ordered := by
  have hi' := hruns.latest.trans hi
  have hpoint' : t.pointOf i = some point' := by
    rw [pointOf_of_calls hpoint hruns.calls, if_pos rfl]
  refine ⟨hs.consistent.step hstep, hruns.contexts, fun j c hc => ?_,
    .inr ⟨i, point', hi', hpoint', hruns.runAt⟩⟩
  rcases getElem?_of_calls hruns.calls hc with ⟨rfl, c₀, hc₀, rfl⟩ | ⟨hne, hold⟩
  · have h := hs.calls j c₀ hc₀
    refine ⟨h.during_lt, fun _ => hi', fun hrole => ?_, fun l q hl _ hd => ?_⟩
    · rcases hruns.runAt.role with hrun | hreturned
      · rw [hrun] at hrole
        cases hrole
      · rw [role_of_isReturned hreturned] at hrole
        cases hrole
    · rw [hi', Option.some.injEq] at hl
      exact absurd (h.during_lt l hd) (hl ▸ Nat.lt_irrefl j)
  · have h := hs.calls j c hold
    refine ⟨h.during_lt, fun hrole => hruns.latest.trans (h.runs hrole),
      fun hrole => absurd hrole (hreports j c hold), fun l q hl hq hd => ?_⟩
    rw [hi'] at hl
    cases hl
    rw [hpoint'] at hq
    cases hq
    exact (h.waits i point hi hpoint hd).proceeds hne hruns.proceeds
      (mutex_of_returned hs.consistent hold hstep)

theorem Ordered.other_moves (hs : s.Ordered) (hpoint : s.pointOf i = some point)
    (hrole : point.role ≠ .run) (hadvance : s.advance i point = some t) :
    t.Ordered := by
  have hstep : s.step (.advance i) = some t := (step_advance hpoint).trans hadvance
  obtain ⟨point', hothers⟩ := others_of_advance hs.consistent hpoint hrole hadvance
  obtain ⟨c₀, hc₀, hpoint₀⟩ := Option.map_eq_some_iff.mp hpoint
  have hframe := hothers.frame
  have hreport : point.role = .report → s.runPoint = some .serving := fun h =>
    ((hs.calls i c₀ hc₀).reports (hpoint₀ ▸ h)).2
  have hlatest : s.latest ≠ some i := by
    intro hi
    rcases (hs.runAt_of_pointOf hi hpoint).role with hrun | hreturned
    · exact hrole hrun
    · cases point with
      | returned => cases hadvance
      | _ => cases hreturned
  have hpoints : ∀ l q, s.latest = some l → (t.pointOf l = some q ↔ s.pointOf l = some q) := by
    intro l q hl
    rw [pointOf_of_calls hpoint hothers.calls, if_neg]
    rintro rfl
    exact hlatest hl
  refine ⟨hs.consistent.step hstep, hs.contexts.frame hframe, fun j c hc => ?_, ?_⟩
  · rcases getElem?_of_calls hothers.calls hc with ⟨rfl, c₁, hc₁, rfl⟩ | ⟨hj, hold⟩
    · rw [hc₀] at hc₁
      cases hc₁
      have h := (hs.calls j c₀ hc₀).frame hs.consistent hc₀ hstep hframe hpoints
      have hkept : point'.role ≠ .other → point'.role = c₀.point.role := fun hother =>
        hothers.role.elim (fun hsame => hpoint₀ ▸ hsame) fun hreturned =>
          absurd (role_of_isReturned hreturned) hother
      refine ⟨h.during_lt, fun hrun => h.runs ?_, fun hrep => h.reports ?_, fun l q hl hq hd => ?_⟩
      · exact (hkept (by simp [hrun])).symm.trans hrun
      · exact (hkept (by simp [hrep])).symm.trans hrep
      · rw [hframe.latest] at hl
        have hq' := (hpoints l q hl).mp hq
        refine hothers.waits _ (hs.runAt_of_pointOf hl hq').phaseAt ?_
        exact hpoint₀ ▸ (hs.calls j c₀ hc₀).waits l q hl hq' hd
    · exact (hs.calls j c hold).frame hs.consistent hold hstep hframe hpoints
  · rcases hs.run with ⟨hnone, hstopped⟩ | ⟨l, q, hl, hq, hat⟩
    · refine .inl ⟨hframe.latest.trans hnone, ?_⟩
      rcases hothers.state with hsame | ⟨hrep, -⟩
      · exact hsame.trans hstopped
      · have hserving := hreport hrep
        rw [runPoint, hnone] at hserving
        cases hserving
    · refine .inr ⟨l, q, hframe.latest.trans hl, (hpoints l q hl).mpr hq, ?_⟩
      rcases hothers.state with hsame | ⟨hrep, hnot⟩
      · exact hat.frame hframe hsame
      · have hserving := hreport hrep
        rw [runPoint_eq hl, hq] at hserving
        cases hserving
        exact Up.frame hat hframe hnot

variable {method : Method}

theorem frame_begin (s : Lifecycle) (hmethod : method ≠ .run) :
    s.Frame (s.begin method) ∧ (s.begin method).state = s.state := by
  rw [begin, if_neg hmethod]
  exact ⟨⟨rfl, rfl, rfl, rfl, rfl, rfl⟩, rfl⟩

theorem getElem?_begin (hc : (s.begin method).calls[j]? = some c) : s.calls[j]? = some c ∨
      j = s.calls.length ∧ c = ⟨method, s.active, method.entry⟩ := by
  rw [calls_begin] at hc
  rcases ListBlocks.getElem?_append_singleton_eq_some.mp hc with
    hold | ⟨hj, hnew⟩
  · exact .inl hold
  · exact .inr ⟨hj, hnew.symm⟩

theorem Ordered.active_lt (hs : s.Ordered) {d : Nat} (hd : s.active = some d) :
    d < s.calls.length := by
  obtain ⟨hlatest, -⟩ := Option.filter_eq_some_iff.mp hd
  obtain ⟨point, hpoint, -⟩ := hs.runAt hlatest
  obtain ⟨c, hc, -⟩ := Option.map_eq_some_iff.mp hpoint
  exact (List.getElem?_eq_some_iff.mp hc).1

theorem Ordered.isOver (hs : s.Ordered) (hidle : s.active = none) :
    s.Over ∧ s.runPoint ≠ some .serving ∧
      ∀ (j : Nat) (c : Call), s.calls[j]? = some c → c.point.role ≠ .run := by
  have hreturned : ∀ i point, s.latest = some i → s.pointOf i = some point →
      point.isReturned = true := by
    intro i point hi hpoint
    simpa [active, hi, hpoint] using hidle
  refine ⟨?_, ?_, ?_⟩
  · rcases hs.run with ⟨-, hstopped⟩ | ⟨i, point, hi, hpoint, hat⟩
    · exact .inl hstopped
    · have hgone := hreturned i point hi hpoint
      cases point with
      | returned => exact hat.phaseAt.isOver
      | _ => cases hgone
  · intro hserving
    obtain ⟨i, hi, hpoint⟩ := Option.bind_eq_some_iff.mp hserving
    cases hreturned i _ hi hpoint
  · intro j c hc hrole
    have hgone := hreturned j c.point ((hs.calls j c hc).runs hrole) (by rw [pointOf, hc]; rfl)
    rw [role_of_isReturned hgone] at hrole
    cases hrole

theorem Ordered.call_run (hs : s.Ordered) (hidle : s.active = none) : (s.begin .run).Ordered := by
  obtain ⟨hover, hserving, hruns⟩ := hs.isOver hidle
  have hstep : s.step (.call .run) = some (s.begin .run) := rfl
  have hpoint : (s.begin .run).pointOf s.calls.length = some .resetError := by
    rw [pointOf, calls_begin, List.getElem?_concat_length]
    rfl
  refine ⟨hs.consistent.step hstep, ⟨hs.contexts.done_lt, hs.contexts.lt⟩,
    fun j c hc => ?_, .inr ⟨s.calls.length, .resetError, rfl, hpoint, hover⟩⟩
  rcases getElem?_begin hc with hold | ⟨rfl, rfl⟩
  · have h := hs.calls j c hold
    refine ⟨h.during_lt, fun hrole => absurd hrole (hruns j c hold),
      fun hrole => absurd (h.reports hrole).2 hserving, ?_⟩
    -- nobody has called during a run that begins now
    rintro i _ ⟨⟩ - hd
    exact absurd (List.getElem?_eq_some_iff.mp hold).1 (Nat.lt_asymm (h.during_lt _ hd))
  · rw [hidle]
    exact ⟨by simp, fun _ => rfl, fun h => (by cases h), fun _ _ _ _ h => (by cases h)⟩

theorem Ordered.call (hs : s.Ordered) (hmethod : method ≠ .run)
    (horderly : s.Orderly (.call method)) : (s.begin method).Ordered := by
  obtain ⟨hframe, hstate⟩ := frame_begin s hmethod
  have hstep : s.step (.call method) = some (s.begin method) := rfl
  have hpoints : ∀ i point, s.latest = some i →
      ((s.begin method).pointOf i = some point ↔ s.pointOf i = some point) := by
    intro i point hi
    obtain ⟨q, hq, -⟩ := hs.runAt hi
    rw [hq, pointOf_begin_of_some hq]
  refine ⟨hs.consistent.step hstep, hs.contexts.frame hframe, fun j c hc => ?_, ?_⟩
  · rcases getElem?_begin hc with hold | ⟨rfl, rfl⟩
    · exact (hs.calls j c hold).frame hs.consistent hold hstep hframe hpoints
    · have hserving : s.runPoint = some .serving → (s.begin method).runPoint = some .serving := by
        intro h
        obtain ⟨i, hi, hserving⟩ := Option.bind_eq_some_iff.mp h
        rw [runPoint_eq (hframe.latest.trans hi)]
        exact (hpoints i _ hi).mpr hserving
      refine ⟨fun d hd => hs.active_lt hd, fun hrole => ?_, fun hrole => ?_, fun _ _ _ _ _ => ?_⟩
      · cases method <;> first | exact absurd rfl hmethod | cases hrole
      · cases method with
        | running => exact ⟨.inl rfl, hserving horderly⟩
        | stopping => exact ⟨.inr rfl, hserving horderly⟩
        | _ => cases hrole
      · cases method <;> trivial
  · rcases hs.run with ⟨hnone, hstopped⟩ | ⟨l, q, hl, hq, hat⟩
    · exact .inl ⟨hframe.latest.trans hnone, hstate.trans hstopped⟩
    · exact .inr ⟨l, q, hframe.latest.trans hl, (hpoints l q hl).mpr hq, hat.frame hframe hstate⟩

theorem Ordered.latest_of_role (hs : s.Ordered) (hpoint : s.pointOf i = some point)
    (hrole : point.role = .run) : s.latest = some i := by
  obtain ⟨c, hc, rfl⟩ := Option.map_eq_some_iff.mp hpoint
  exact (hs.calls i c hc).runs hrole

theorem Ordered.run_advances (hs : s.Ordered) (hpoint : s.pointOf i = some point)
    (hrole : point.role = .run) (hadvance : s.advance i point = some t) :
    t.Ordered := by
  have hi := hs.latest_of_role hpoint hrole
  obtain ⟨point', hruns⟩ := (hs.runAt_of_pointOf hi hpoint).advance hs.consistent
    hs.contexts hpoint hadvance
  refine hs.run_moves ((step_advance hpoint).trans hadvance) hi hpoint ?_ hruns
  -- who reports does so while the service is served, and then `Run` waits
  intro j c hc hreport
  have hserving := ((hs.calls j c hc).reports hreport).2
  rw [runPoint_eq hi, hpoint] at hserving
  cases hserving
  cases hadvance

theorem Ordered.service_ends {e : ServiceEnd} (hs : s.Ordered)
    (hpoint : s.pointOf i = some .serving) (hstep : s.step action = some (s.serviceEnds i e))
    (hreturned : ∀ c ∈ s.calls, c.method = .running ∨ c.method = .stopping →
      c.point.isReturned = true) : (s.serviceEnds i e).Ordered := by
  have hi := hs.latest_of_role hpoint rfl
  have hup : s.Up := hs.runAt_of_pointOf hi hpoint
  obtain ⟨point', hruns⟩ := hup.serviceEnds hs.contexts i e
  refine hs.run_moves hstep hi hpoint (fun j c hc hreport => ?_) hruns
  have hgone := hreturned c (List.mem_of_getElem? hc) ((hs.calls j c hc).reports hreport).1
  rw [role_of_isReturned hgone] at hreport
  cases hreport

theorem Ordered.step (hs : s.Ordered) (horderly : s.Orderly action)
    (hstep : s.step action = some t) : t.Ordered := by
  cases action with
  | call method =>
    cases hstep
    by_cases hmethod : method = .run
    · subst hmethod
      exact hs.call_run horderly
    · exact hs.call hmethod horderly
  | advance =>
    obtain ⟨point, hpoint, hadvance⟩ := Option.bind_eq_some_iff.mp hstep
    by_cases hrole : point.role = .run
    · exact hs.run_advances hpoint hrole hadvance
    · exact hs.other_moves hpoint hrole hadvance
  | serviceReturns | servicePanics =>
    obtain ⟨hpoint, ht⟩ := Option.ite_none_right_eq_some.mp hstep
    cases ht
    exact hs.service_ends hpoint hstep horderly

theorem ordered_of_run {actions : List Action} (hrun : lifecycles.run actions = some s)
    (horderly : lifecycles.Meets Orderly {} actions) : s.Ordered := by
  have hinit : Ordered {} := ⟨consistent_init, ⟨by simp, by simp⟩, by simp, .inl ⟨rfl, rfl⟩⟩
  exact lifecycles.runFrom_invariant_of_meets
    (fun _ _ _ hs horderly hstep => hs.step horderly hstep) hinit horderly hrun

theorem Reported.error_ne_none_iff (h : s.Reported ret) : s.error ≠ none ↔ s.state = .crashed := by
  obtain ⟨e, -, -, herror, hstate⟩ := h
  rw [error, herror, hstate]
  cases e.error <;> simp

theorem Reported.ret_eq_error_iff (h : s.Reported ret) :
    ret = s.error ↔ ∀ value, s.ended ≠ some (.panicked value) := by
  obtain ⟨e, hended, rfl, herror, -⟩ := h
  simp only [error, herror, hended, ne_eq, Option.some.injEq]
  exact e.ret_eq_error_iff

/-- Once the last `Run` has returned, there is one outcome exactly if its service
did not panic.  In any case those who have waited agree with `Error`, and an
error means a crash. -/
theorem one_outcome_iff {actions : List Action} {s : Lifecycle}
    (hrun : lifecycles.run actions = some s)
    (horderly : lifecycles.Meets Orderly {} actions) {i : Nat} {result : Result}
    (hi : s.latest = some i) (hreturned : s.pointOf i = some (.returned result)) :
    (s.OneOutcome i result ↔ ∀ value, s.ended ≠ some (.panicked value)) ∧
      (∀ c ∈ s.calls, c.method = .wait → c.during = some i →
        ∀ err, c.point = .returned (.error err) → err = s.error) ∧
      (s.error ≠ none ↔ s.state = .crashed) := by
  have hs := ordered_of_run hrun horderly
  have hat := hs.runAt_of_pointOf hi hreturned
  have hagree : ∀ c ∈ s.calls, c.method = .wait → c.during = some i →
      ∀ err, c.point = .returned (.error err) → err = s.error := by
    intro c hc _ hd err herr
    obtain ⟨j, hj⟩ := List.mem_iff_getElem?.mp hc
    have hwait := (hs.calls j c hj).waits i _ hi hreturned hd
    rw [herr] at hwait
    rcases hwait with ⟨-, hsame⟩ | ⟨hearly, -⟩
    · exact hsame
    · cases hearly
  cases result with
  | error ret =>
    have hreported : s.Reported ret := hat
    refine ⟨?_, hagree, hreported.error_ne_none_iff⟩
    rw [← hreported.ret_eq_error_iff]
    constructor
    · exact fun hone => Result.error.inj hone.run
    · exact fun hret => ⟨congrArg Result.error hret, hagree, hreported.error_ne_none_iff⟩
  | _ => exact hat.elim

theorem one_outcome_failure :
    ∃ s, lifecycles.run (waitedFor (.serviceReturns 0 (some (.plain "failed")))) = some s ∧
      s.pointOf 1 = some (.returned (.error (some (.plain "failed")))) ∧
      s.OneOutcome 0 (.error (some (.plain "failed"))) := by
  refine lifecycles.exists_run (by decide) fun s hrun => ?_
  have hlatest : s.latest = some 0 := by rw [← Option.some.inj hrun]; rfl
  have hresult : s.pointOf 0 = some (.returned (.error (some (.plain "failed")))) := by
    rw [← Option.some.inj hrun]
    decide
  refine ⟨by rw [← Option.some.inj hrun]; decide, ?_⟩
  refine (one_outcome_iff hrun (by decide) hlatest hresult).1.mpr fun value hended => ?_
  rw [← Option.some.inj hrun] at hended
  cases hended

/-- The service panics: `Run` returns nothing, and `Wait` an error. -/
theorem panic_not_returned : ∃ s, lifecycles.run (waitedFor (.servicePanics 0 "boom")) = some s ∧
      s.state = .crashed ∧ s.error = some (.plain "service paniced (boom)") ∧
      s.pointOf 0 = some (.returned (.error none)) ∧ s.pointOf 1 = some
        (.returned (.error (some (.plain "service paniced (boom)")))) ∧
      ¬ s.OneOutcome 0 (.error none) := by
  refine ⟨_, rfl, rfl, by decide, by decide, by decide, ?_⟩
  intro hone
  cases hone.run

end ContainerSSH.Service.Lifecycle
