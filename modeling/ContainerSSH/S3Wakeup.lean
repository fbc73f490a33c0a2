/-
The wake-up of the upload loop.
-/
import ContainerSSH.ListBlocks
import ContainerSSH.S3Upload

namespace ContainerSSH.S3

inductive FinishPoint where
  | locking
  | setting
  | marking
  | unlocking
  | done
deriving DecidableEq

inductive CheckPoint where
  | locking
  | reading
  | marking
  | unlocking
deriving DecidableEq

inductive Holder where
  | uploadLoop
  | finish (index : Nat)

structure Entry where
  upload : Upload := {}
  holder : Option Holder := none
  finishes : List FinishPoint := []
  check : CheckPoint := .locking

inductive WakeAction where
  | other (action : Action)
  | startFinish
  | finish (index : Nat)
  | uploadLoop (outcome : Outcome)

def Action.isOther : Action → Bool
  | .runOnClose => false
  | .uploadLoop _ => false
  | _ => true

namespace Entry

variable (q : UploadQueue) (e : Entry)

def startFinish : Option Entry :=
  if e.upload.onClose = 0 then none
  else
    some { e with
      upload.onClose := e.upload.onClose - 1
      finishes := if e.upload.queued then e.finishes ++ [.locking] else e.finishes }

def finish (index : Nat) : Option Entry :=
  match e.finishes[index]? with
  | some .locking =>
    if e.holder = none then
      some { e with holder := some (.finish index), finishes := e.finishes.set index .setting }
    else none
  | some .setting =>
    some { e with upload.finished := true, finishes := e.finishes.set index .marking }
  | some .marking =>
    some { e with
      upload := e.upload.markPartAvailable
      finishes := e.finishes.set index .unlocking }
  | some .unlocking => some { e with holder := none, finishes := e.finishes.set index .done }
  | some .done => none
  | none => none

def endIteration (errorHappened : Bool) : Option Entry :=
  match e.check with
  | .locking =>
    if e.holder = none then some { e with holder := some .uploadLoop, check := .reading }
    else none
  | .reading =>
    some { e with check := if errorHappened || e.upload.finished then .marking else .unlocking }
  | .marking => some { e with upload := e.upload.markPartAvailable, check := .unlocking }
  | .unlocking =>
    some { e with
      holder := none
      check := .locking
      upload.failures := if errorHappened then e.upload.failures + 1 else 0
      upload.point := .processShouldAbort }

def uploadLoop (outcome : Outcome) : Option Entry :=
  match e.upload.point with
  | .iterationEnd errorHappened => e.endIteration errorHappened
  | _ => (e.upload.uploadLoop q outcome).map fun upload => { e with upload }

def step : WakeAction → Option Entry
  | .other action =>
    if action.isOther then (e.upload.step q action).map fun upload => { e with upload }
    else none
  | .startFinish => e.startFinish
  | .finish index => e.finish index
  | .uploadLoop outcome => e.uploadLoop q outcome

end Entry

def wakeups (q : UploadQueue) : TransitionSystem Entry WakeAction where
  init := {}
  step := Entry.step q

namespace Entry

def WillSee (e : Entry) : Prop :=
  match e.upload.point with
  | .processShouldAbort => False
  | .waitPartAvailable => False
  | .iterationEnd _ => e.check ≠ .unlocking
  | _ => True

structure Wakes (e : Entry) : Prop where
  finishing : ∀ i point, e.finishes[i]? = some point →
    point = .setting ∨ point = .marking ∨ point = .unlocking → e.holder = some (.finish i)
  checking : e.check ≠ .locking → e.holder = some .uploadLoop ∧
    ∃ errorHappened, e.upload.point = .iterationEnd errorHappened
  woken : e.upload.finished = true → e.upload.partAvailable = true ∨
    (∃ i : Nat, e.finishes[i]? = some .marking) ∨ e.WillSee

variable {q : UploadQueue} {e t : Entry}

theorem wakes_init : Wakes (wakeups q).init where
  finishing := by simp [wakeups]
  checking := by simp [wakeups]
  woken := by simp [wakeups]

theorem uploadLoop_token {w next : Upload} {outcome : Outcome}
    (hstep : w.uploadLoop q outcome = some next)
    (hend : ∀ errorHappened, w.point ≠ .iterationEnd errorHappened) :
    (w.point = .processShouldAbort ∧ next.partAvailable = w.partAvailable) ∨
      (next.point ≠ .processShouldAbort ∧ next.point ≠ .waitPartAvailable) := by
  cases hpoint : w.point with
  | iterationEnd errorHappened => exact absurd hpoint (hend errorHappened)
  | processMultiPartUploadPart | finalizeUpload =>
    simp only [Upload.uploadLoop, hpoint, Option.map_eq_some_iff,
      Upload.processMultiPartUploadPart] at hstep
    obtain ⟨id, -, rfl⟩ := hstep
    split <;> simp
  | _ =>
    simp only [Upload.uploadLoop, hpoint, Upload.abort, Upload.processSingleUpload] at hstep
    grind

theorem Wakes.advance (he : e.Wakes) {index : Nat} {old new : FinishPoint}
    (hpoint : e.finishes[index]? = some old)
    (hholds : old = .setting ∨ old = .marking ∨ old = .unlocking)
    {upload : Upload} {holder : Option Holder}
    (hnew : new = .setting ∨ new = .marking ∨ new = .unlocking → holder = some (.finish index))
    (hsame : upload.point = e.upload.point)
    (hwoken : upload.finished = true → upload.partAvailable = true ∨
      new = .marking ∨ (old ≠ .marking ∧ e.upload.finished = true ∧
        upload.partAvailable = e.upload.partAvailable)) :
    Wakes { e with upload, holder, finishes := e.finishes.set index new } := by
  have hholder := he.finishing index old hpoint hholds
  have hlt := (List.getElem?_eq_some_iff.mp hpoint).1
  have honly : ∀ i point, e.finishes[i]? = some point →
      point = .setting ∨ point = .marking ∨ point = .unlocking → i = index := by
    intro i point hi hheld
    have hother := he.finishing i point hi hheld
    rw [hholder, Option.some.injEq, Holder.finish.injEq] at hother
    exact hother.symm
  refine ⟨?_, ?_, ?_⟩
  · intro i point hget
    refine ListBlocks.forall_getElem?_set (P := fun i point =>
      point = .setting ∨ point = .marking ∨ point = .unlocking →
        holder = some (.finish i)) ?_ hnew hget
    intro i point hne hi hheld
    exact absurd (honly i point hi hheld).symm hne
  · intro hcheck
    cases hholder.symm.trans (he.checking hcheck).1
  · intro hfinished
    rcases hwoken hfinished with htoken | rfl | ⟨hold, hbefore, htoken⟩
    · exact .inl htoken
    · exact .inr (.inl ⟨index, List.getElem?_set_self hlt⟩)
    · rcases he.woken hbefore with hbefore | ⟨i, hi⟩ | hsee
      · exact .inl (htoken.trans hbefore)
      · have hindex := honly i _ hi (.inr (.inl rfl))
        rw [hindex, hpoint, Option.some.injEq] at hi
        exact absurd hi hold
      · refine .inr (.inr ?_)
        unfold WillSee at hsee ⊢
        rwa [hsame]

theorem Wakes.finish (he : e.Wakes) {index : Nat} (hstep : e.finish index = some t) :
    t.Wakes := by
  unfold Entry.finish at hstep
  split at hstep
  · next hpoint =>
      obtain ⟨hfree, hstep⟩ := Option.ite_none_right_eq_some.mp hstep
      cases hstep
      refine ⟨?_, ?_, ?_⟩
      · intro i point hget
        refine ListBlocks.forall_getElem?_set (P := fun i point =>
          point = .setting ∨ point = .marking ∨ point = .unlocking →
            some (.finish index) = some (Holder.finish i)) ?_ (fun _ => rfl) hget
        intro i point _ hi hholds
        cases hfree.symm.trans (he.finishing i point hi hholds)
      · intro hcheck
        cases hfree.symm.trans (he.checking hcheck).1
      · intro hfinished
        rcases he.woken hfinished with htoken | ⟨i, hi⟩ | hsee
        · exact .inl htoken
        · cases hfree.symm.trans (he.finishing i _ hi (.inr (.inl rfl)))
        · exact .inr (.inr hsee)
  · next hpoint =>
      cases hstep
      have hholder := he.finishing index _ hpoint (.inl rfl)
      exact he.advance hpoint (.inl rfl) (fun _ => hholder) rfl fun _ => .inr (.inl rfl)
  · next hpoint =>
      cases hstep
      have hholder := he.finishing index _ hpoint (.inr (.inl rfl))
      exact he.advance hpoint (.inr (.inl rfl)) (fun _ => hholder) rfl fun _ => .inl rfl
  · next hpoint =>
      cases hstep
      exact he.advance hpoint (.inr (.inr rfl)) (by simp) rfl
        fun hfinished => .inr (.inr ⟨by simp, hfinished, rfl⟩)
  · cases hstep
  · cases hstep

theorem Wakes.frame (he : e.Wakes) {upload : Upload} (hpoint : upload.point = e.upload.point)
    (hfinished : upload.finished = e.upload.finished)
    (htoken : e.upload.partAvailable = true → upload.partAvailable = true) :
    Wakes { e with upload } where
  finishing := he.finishing
  checking := by
    intro hcheck
    obtain ⟨hholder, errorHappened, hend⟩ := he.checking hcheck
    exact ⟨hholder, errorHappened, hpoint.trans hend⟩
  woken := by
    intro hafter
    rcases he.woken (hfinished.symm.trans hafter) with hbefore | hmark | hsee
    · exact .inl (htoken hbefore)
    · exact .inr (.inl hmark)
    · refine .inr (.inr ?_)
      unfold WillSee at hsee ⊢
      rwa [hpoint]

theorem Wakes.other (he : e.Wakes) {action : Action} (hother : action.isOther = true)
    {upload : Upload} (hstep : e.upload.step q action = some upload) : Wakes { e with upload } := by
  cases action with
  | write | close | shutdown =>
    cases hstep
    exact he.frame rfl rfl fun h => h
  | runOnPart =>
    obtain ⟨-, ⟨⟩⟩ := Option.ite_none_left_eq_some.mp hstep
    exact he.frame rfl rfl fun _ => rfl
  | expire =>
    obtain ⟨-, ⟨⟩⟩ := Option.ite_none_right_eq_some.mp hstep
    exact he.frame rfl rfl fun h => h
  | runOnClose | uploadLoop => cases hother

theorem Wakes.startFinish (he : e.Wakes) (hstep : e.startFinish = some t) : t.Wakes := by
  unfold Entry.startFinish at hstep
  split_ifs at hstep with hnone hqueued <;> cases hstep
  · refine ⟨?_, he.checking, ?_⟩
    · intro i point hget hholds
      rcases ListBlocks.getElem?_append_singleton_eq_some.mp hget with hi | ⟨-, rfl⟩
      · exact he.finishing i point hi hholds
      · simp at hholds
    · intro hfinished
      rcases he.woken hfinished with htoken | ⟨i, hi⟩ | hsee
      · exact .inl htoken
      · exact .inr (.inl ⟨i, ListBlocks.getElem?_append_singleton_eq_some.mpr (.inl hi)⟩)
      · exact .inr (.inr hsee)
  · exact he.frame rfl rfl fun h => h

theorem Wakes.endIteration (he : e.Wakes) {errorHappened : Bool}
    (hend : e.upload.point = .iterationEnd errorHappened)
    (hstep : e.endIteration errorHappened = some t) : t.Wakes := by
  unfold Entry.endIteration at hstep
  split at hstep
  · next hcheck =>
      obtain ⟨hfree, hstep⟩ := Option.ite_none_right_eq_some.mp hstep
      cases hstep
      refine ⟨?_, fun _ => ⟨rfl, errorHappened, hend⟩, fun _ => ?_⟩
      · intro i point hi hholds
        cases hfree.symm.trans (he.finishing i point hi hholds)
      · exact .inr (.inr (by simp [WillSee, hend]))
  · next hcheck =>
      have hholder := (he.checking (by simp [hcheck])).1
      cases hstep
      refine ⟨he.finishing, fun _ => ⟨hholder, errorHappened, hend⟩, fun hfinished => ?_⟩
      have hfinished : e.upload.finished = true := hfinished
      exact .inr (.inr (by simp [WillSee, hend, hfinished]))
  · next hcheck =>
      have hholder := (he.checking (by simp [hcheck])).1
      cases hstep
      exact ⟨he.finishing, fun _ => ⟨hholder, errorHappened, hend⟩, fun _ => .inl rfl⟩
  · next hcheck =>
      have hholder := (he.checking (by simp [hcheck])).1
      cases hstep
      refine ⟨?_, by simp, ?_⟩
      · intro i point hi hholds
        cases hholder.symm.trans (he.finishing i point hi hholds)
      · intro hfinished
        rcases he.woken hfinished with htoken | ⟨i, hi⟩ | hsee
        · exact .inl htoken
        · cases hholder.symm.trans (he.finishing i _ hi (.inr (.inl rfl)))
        · simp [WillSee, hend, hcheck] at hsee

theorem Wakes.uploadLoop (he : e.Wakes) {outcome : Outcome}
    (hstep : e.uploadLoop q outcome = some t) : t.Wakes := by
  unfold Entry.uploadLoop at hstep
  split at hstep
  · next errorHappened hend => exact he.endIteration hend hstep
  · next hend =>
      obtain ⟨upload, hloop, rfl⟩ := Option.map_eq_some_iff.mp hstep
      have hlocking : e.check = .locking := by
        by_contra hcheck
        obtain ⟨-, errorHappened, hpoint⟩ := he.checking hcheck
        exact hend errorHappened hpoint
      have hfinished := (Upload.uploadLoop_entry hloop).2.1
      refine ⟨he.finishing, fun hcheck => absurd hlocking hcheck, fun hafter => ?_⟩
      rcases uploadLoop_token hloop hend with ⟨hstart, htoken⟩ | ⟨hstart, hwait⟩
      · rcases he.woken (hfinished.symm.trans hafter) with hbefore | hmark | hsee
        · exact .inl (htoken.trans hbefore)
        · exact .inr (.inl hmark)
        · simp [WillSee, hstart] at hsee
      · refine .inr (.inr ?_)
        cases hpoint : upload.point <;> simp_all [WillSee]

theorem Wakes.step (he : e.Wakes) {action : WakeAction}
    (hstep : e.step q action = some t) : t.Wakes := by
  cases action with
  | other =>
    obtain ⟨hother, hstep⟩ := Option.ite_none_right_eq_some.mp hstep
    obtain ⟨upload, hupload, rfl⟩ := Option.map_eq_some_iff.mp hstep
    exact he.other hother hupload
  | startFinish => exact he.startFinish hstep
  | finish => exact he.finish hstep
  | uploadLoop => exact he.uploadLoop hstep

theorem wakes_of_reachable (he : (wakeups q).Reachable e) : e.Wakes :=
  he.invariant wakes_init fun _ _ _ hwakes hstep => hwakes.step hstep

def MarkPending (e : Entry) : Prop := ∃ i : Nat, e.finishes[i]? = some .marking

/-- A finished upload waits for a part that nobody will announce. -/
def Lost (e : Entry) : Prop :=
  e.upload.finished = true ∧ e.upload.point = .waitPartAvailable ∧
    e.upload.partAvailable = false ∧ ¬ e.MarkPending

theorem Wakes.token_or_pending (he : e.Wakes) (hfinished : e.upload.finished = true)
    (hwaits : e.upload.point = .waitPartAvailable) :
    e.upload.partAvailable = true ∨ e.MarkPending := by
  rcases he.woken hfinished with htoken | hmark | hsee
  · exact .inl htoken
  · exact .inr hmark
  · simp [WillSee, hwaits] at hsee

theorem step_take (hwaits : e.upload.point = .waitPartAvailable)
    (htoken : e.upload.partAvailable = true) (outcome : Outcome) :
    (wakeups q).step e (.uploadLoop outcome) =
      some { e with upload.partAvailable := false, upload.point := .stat } := by
  simp [wakeups, step, uploadLoop, Upload.uploadLoop, hwaits, htoken]

theorem step_mark {i : Nat} (hi : e.finishes[i]? = some .marking) :
    ∃ t, (wakeups q).step e (.finish i) = some t ∧
      t.upload.point = e.upload.point ∧ t.upload.partAvailable = true := by
  have hstep : (wakeups q).step e (.finish i) = some { e with
        upload := e.upload.markPartAvailable
        finishes := e.finishes.set i .unlocking } := by
    simp [wakeups, step, finish, hi]
  exact ⟨_, hstep, rfl, rfl⟩

end Entry

/-- No wake-up is lost, and the loop of a finished entry that waits can go on. -/
theorem no_lost_wakeup {q : UploadQueue} {e : Entry} (he : (wakeups q).Reachable e) : ¬ e.Lost ∧
      (e.upload.finished = true → e.upload.point = .waitPartAvailable →
        ∃ actions t, (wakeups q).runFrom e actions = some t ∧ t.upload.point = .stat) := by
  have hwakes := Entry.wakes_of_reachable he
  constructor
  · rintro ⟨hfinished, hwaits, hempty, hpending⟩
    rcases hwakes.token_or_pending hfinished hwaits with htoken | hmark
    · cases hempty.symm.trans htoken
    · exact hpending hmark
  · intro hfinished hwaits
    rcases hwakes.token_or_pending hfinished hwaits with htoken | ⟨i, hi⟩
    · have hgo := (wakeups q).runFrom_cons_of_step (Entry.step_take hwaits htoken .succeeds) []
      exact ⟨_, _, hgo.trans ((wakeups q).runFrom_nil _), rfl⟩
    · obtain ⟨r, hmark, hsame, htoken⟩ := Entry.step_mark (q := q) hi
      have hgo := (wakeups q).runFrom_cons_of_step
        (Entry.step_take (hsame.trans hwaits) htoken .succeeds) []
      exact ⟨_, _, ((wakeups q).runFrom_cons_of_step hmark _).trans
        (hgo.trans ((wakeups q).runFrom_nil _)), rfl⟩

theorem closed_log_picked_up : ∃ e, (wakeups (newUploadQueue 0)).run
        [.other .close, .startFinish, .uploadLoop .succeeds, .finish 0, .finish 0] = some e ∧
      e.upload.finished = true ∧ e.upload.partAvailable = false ∧ ¬ e.Lost := by
  refine TransitionSystem.exists_run _ rfl fun e hrun => ?_
  have hlost := (no_lost_wakeup ⟨_, hrun⟩).1
  rw [← Option.some.inj hrun] at hlost ⊢
  exact ⟨rfl, rfl, hlost⟩

end ContainerSSH.S3
