/-
How often the upload loop goes on after a request has failed.
-/
import Mathlib.Data.List.TakeWhile
import ContainerSSH.S3Completeness

namespace ContainerSSH.S3

inductive S3Operation where
  | putObject
  | createMultipartUpload
  | uploadPart
  | completeMultipartUpload
deriving DecidableEq

def Upload.operation? (w : Upload) : Option (S3Operation × Option Store) :=
  match w.point with
  | .processSingleUpload =>
    let body := w.file.drop w.readOffset
    some (.putObject, if body.length = w.file.length then
      some (w.store.putObject body) else none)
  | .initializeMultiPartUpload _ =>
    some (.createMultipartUpload, some w.store.createMultipartUpload.1)
  | .processMultiPartUploadPart partNumber startingByte endingByte =>
    w.uploadID.map fun uploadID =>
      (.uploadPart, some (w.store.uploadPart uploadID partNumber
        ((w.file.drop startingByte).take (endingByte - startingByte))))
  | .finalizeUpload =>
    w.uploadID.map fun uploadID =>
      (.completeMultipartUpload, w.store.completeMultipartUpload uploadID w.completedParts)
  | _ => none

def Upload.failedOperation? (w : Upload) (outcome : Outcome) :
    Option S3Operation :=
  match w.operation? with
  | some (operation, effect) => if (w.request effect outcome).2 then none else some operation
  | none => none

structure Retries where
  upload : Upload := {}
  failed : Option S3Operation := none
  streak : List S3Operation := []

namespace Retries

variable (q : UploadQueue) (r : Retries)

def observe (outcome : Outcome) (upload : Upload) : Retries :=
  match r.upload.point with
  | .waitPartAvailable => { r with upload, failed := none }
  | .iterationEnd _ =>
    { r with
      upload
      streak := match r.failed with
        | some operation => operation :: r.streak
        | none => [] }
  | _ => { r with upload, failed := (r.upload.failedOperation? outcome).or r.failed }

def step (action : Action) : Option Retries :=
  (r.upload.step q action).map fun upload =>
    match action with
    | .uploadLoop outcome => r.observe outcome upload
    | _ => { r with upload }

end Retries

def retries (q : UploadQueue) : TransitionSystem Retries Action where
  init := {}
  step := Retries.step q

def sincePart (streak : List S3Operation) : List S3Operation :=
  streak.takeWhile fun operation => operation != .uploadPart

variable {q : UploadQueue}

theorem uploadLoop_failures {w t : Upload} {outcome : Outcome}
    (hstep : w.uploadLoop q outcome = some t)
    (hend : ∀ errorHappened, w.point ≠ .iterationEnd errorHappened) :
    t.failures = w.failures ∧ t.point ≠ .processShouldAbort ∧
      (w.point = .processShouldAbort → t.point = .ended ∨
        (t.point = .waitPartAvailable ∧ w.failures ≤ 20)) ∧
      ∀ operation, w.failedOperation? outcome = some operation →
        t.point = .iterationEnd (operation != .uploadPart) := by
  cases hpoint : w.point with
  | iterationEnd errorHappened => exact absurd hpoint (hend errorHappened)
  | processSingleUpload =>
    simp only [Upload.uploadLoop, hpoint, Upload.processSingleUpload, Option.some.injEq] at hstep
    simp only [Upload.failedOperation?, Upload.operation?, hpoint]
    generalize (if (w.file.drop w.readOffset).length = w.file.length then
      some (w.store.putObject (w.file.drop w.readOffset)) else none) = effect at hstep ⊢
    split_ifs at hstep ⊢ <;> subst hstep <;> simp
  | initializeMultiPartUpload =>
    simp only [Upload.uploadLoop, hpoint] at hstep
    simp only [Upload.failedOperation?, Upload.operation?, hpoint]
    split_ifs at hstep ⊢ <;> cases hstep <;> simp
  | processMultiPartUploadPart =>
    simp only [Upload.uploadLoop, hpoint, Option.map_eq_some_iff] at hstep
    obtain ⟨id, hid, rfl⟩ := hstep
    simp only [Upload.processMultiPartUploadPart, Upload.failedOperation?,
      Upload.operation?, hpoint, hid, Option.map_some]
    split_ifs <;> simp
  | finalizeUpload =>
    simp only [Upload.uploadLoop, hpoint, Option.map_eq_some_iff] at hstep
    obtain ⟨id, hid, rfl⟩ := hstep
    simp only [Upload.failedOperation?, Upload.operation?, hpoint, hid, Option.map_some]
    split_ifs <;> simp
  | _ =>
    simp only [Upload.uploadLoop, hpoint, Upload.abort, Upload.shouldAbort] at hstep
    simp only [Upload.failedOperation?, Upload.operation?, hpoint]
    grind

namespace Retries

structure Counted (r : Retries) : Prop where
  failing : ∀ operation, r.failed = some operation → r.upload.point = .processShouldAbort ∨
      r.upload.point = .waitPartAvailable ∨ r.upload.point = .ended ∨
      r.upload.point = .iterationEnd (operation != .uploadPart)
  covered : (sincePart r.streak).length ≤ r.upload.failures
  limit : r.upload.failures ≤ 21
  below : r.upload.point ≠ .processShouldAbort → r.upload.point ≠ .ended → r.upload.failures ≤ 20

variable {q : UploadQueue} {r t : Retries}

theorem counted_init (q : UploadQueue) : Counted (retries q).init where
  failing := by simp [retries]
  covered := by simp [retries, sincePart]
  limit := by simp [retries]
  below := by simp [retries]

variable {upload : Upload}

theorem Counted.other (hr : r.Counted) (hpoint : upload.point = r.upload.point)
    (hfailures : upload.failures = r.upload.failures) : Counted { r with upload } where
  failing := by simpa only [hpoint] using hr.failing
  covered := by simpa only [hfailures] using hr.covered
  limit := by simpa only [hfailures] using hr.limit
  below := by simpa only [hpoint, hfailures] using hr.below

theorem Counted.iterationEnd (hr : r.Counted) {errorHappened : Bool}
    (hpoint : r.upload.point = .iterationEnd errorHappened) {outcome : Outcome}
    (hstep : r.upload.uploadLoop q outcome = some upload) : Counted (r.observe outcome upload) := by
  have hbelow := hr.below (by simp [hpoint]) (by simp [hpoint])
  have hfailing := hr.failing
  have hcovered := hr.covered
  simp only [Upload.uploadLoop, hpoint, Option.some.injEq] at hstep hfailing
  simp only [observe, hpoint]
  subst hstep
  refine ⟨fun _ _ => .inl rfl, ?_, ?_, fun hne => absurd rfl hne⟩
  · cases hfailed : r.failed with
    | none => simp [sincePart]
    | some operation =>
      -- of all failed requests only the part is reported as no error
      have herror : errorHappened = (operation != .uploadPart) := by
        simpa using hfailing operation hfailed
      by_cases hpart : operation = .uploadPart
      · simp [sincePart, hpart]
      · have herror : errorHappened = true := by
          rw [herror]
          simpa using hpart
        have hcounts : sincePart (operation :: r.streak) = operation :: sincePart r.streak :=
          List.takeWhile_cons_of_pos (by simpa using hpart)
        simp only [hcounts, List.length_cons, herror, if_true]
        omega
  · show (if errorHappened then r.upload.failures + 1 else 0) ≤ 21
    split_ifs <;> omega

theorem observe_upload (outcome : Outcome) (upload : Upload) :
    (r.observe outcome upload).upload = upload := by
  unfold observe
  split <;> rfl

theorem observe_of_ne (hwait : r.upload.point ≠ .waitPartAvailable)
    (hend : ∀ errorHappened, r.upload.point ≠ .iterationEnd errorHappened)
    (outcome : Outcome) (upload : Upload) : r.observe outcome upload = { r with
        upload
        failed := (r.upload.failedOperation? outcome).or r.failed } := by
  unfold observe
  split
  · contradiction
  · exact absurd ‹_› (hend _)
  · rfl

theorem Counted.uploadLoop (hr : r.Counted) {outcome : Outcome}
    (hstep : r.upload.uploadLoop q outcome = some upload) : Counted (r.observe outcome upload) := by
  by_cases hend : ∃ errorHappened, r.upload.point = .iterationEnd errorHappened
  · obtain ⟨errorHappened, hpoint⟩ := hend
    exact hr.iterationEnd hpoint hstep
  · have hend : ∀ errorHappened, r.upload.point ≠ .iterationEnd errorHappened := not_exists.mp hend
    obtain ⟨hfailures, hpoint, habort, hfailed⟩ := uploadLoop_failures hstep hend
    have hrunning : r.upload.point ≠ .ended := fun hended => by
      simp [Upload.uploadLoop, hended] at hstep
    have hbelow : upload.point ≠ .ended → upload.failures ≤ 20 := by
      intro hgoes
      rw [hfailures]
      by_cases hfirst : r.upload.point = .processShouldAbort
      · exact ((habort hfirst).resolve_left hgoes).2
      · exact hr.below hfirst hrunning
    by_cases hwait : r.upload.point = .waitPartAvailable
    · simp only [observe, hwait]
      exact ⟨by simp, hfailures ▸ hr.covered, hfailures ▸ hr.limit, fun _ => hbelow⟩
    · rw [observe_of_ne hwait hend]
      refine ⟨?_, hfailures ▸ hr.covered, hfailures ▸ hr.limit, fun _ => hbelow⟩
      intro operation hnow
      rcases Option.or_eq_some_iff.mp hnow with hnow | ⟨-, hearlier⟩
      · exact .inr (.inr (.inr (hfailed operation hnow)))
      · -- the request failed in the iteration before, so this is the check
        have hfirst : r.upload.point = .processShouldAbort := by
          rcases hr.failing operation hearlier with h | h | h | h
          · exact h
          · exact absurd h hwait
          · exact absurd h hrunning
          · exact absurd h (hend _)
        rcases habort hfirst with hended | ⟨hwaits, -⟩
        · exact .inr (.inr (.inl hended))
        · exact .inr (.inl hwaits)

theorem Counted.step (hr : r.Counted) {action : Action}
    (hstep : r.step q action = some t) : t.Counted := by
  simp only [Retries.step, Option.map_eq_some_iff] at hstep
  obtain ⟨upload, hstep, rfl⟩ := hstep
  cases action with
  | uploadLoop => exact hr.uploadLoop hstep
  | _ =>
    obtain ⟨hpoint, -, hfailures, -⟩ := Upload.step_other (by simp) hstep
    exact hr.other hpoint hfailures

theorem counted_of_reachable (hr : (retries q).Reachable r) : r.Counted :=
  hr.invariant (counted_init q) fun _ _ _ hold hstep => hold.step hstep

def GivesUp (q : UploadQueue) (r : Retries) : Prop :=
  r.upload.point = .ended ∨ ∀ outcome, r.upload.uploadLoop q outcome = some (r.upload.abort outcome)

theorem Counted.givesUp (hr : r.Counted) (hfailures : 21 ≤ r.upload.failures) : r.GivesUp q := by
  by_cases hended : r.upload.point = .ended
  · exact .inl hended
  · have hpoint : r.upload.point = .processShouldAbort := by
      by_contra hpoint
      have hbelow := hr.below hpoint hended
      omega
    have habort : r.upload.shouldAbort = true := by
      simp only [Upload.shouldAbort, Bool.or_eq_true, decide_eq_true_eq]
      omega
    right
    intro outcome
    simp only [Upload.uploadLoop, hpoint, habort, if_true]

end Retries

/-- As long as none of the failed requests in a row was an `UploadPart`, there
are at most 21 of them, and after 21 the loop gives up. -/
theorem failure_limit {q : UploadQueue} {r : Retries}
    (hr : (retries q).Reachable r) (hparts : .uploadPart ∉ r.streak) :
    r.streak.length ≤ 21 ∧ (r.streak.length = 21 → r.GivesUp q) := by
  have hcounted := Retries.counted_of_reachable hr
  have hall : sincePart r.streak = r.streak := by
    refine List.takeWhile_eq_self_iff.mpr fun operation hmem => ?_
    have hne : operation ≠ .uploadPart := fun hpart => hparts (hpart ▸ hmem)
    simpa using hne
  have hcovered := hcounted.covered
  have hlimit := hcounted.limit
  rw [hall] at hcovered
  exact ⟨by omega, fun hlast => hcounted.givesUp (by omega)⟩

def refusedPuts (count : Nat) : List Action :=
  .write [1, 2] :: .close :: .runOnClose :: (List.replicate count
    (loops 4 ++ .uploadLoop (.fails 0) :: loops 1)).flatten

theorem failure_limit_refusedPuts :
    ∃ r, (retries (newUploadQueue 0)).run (refusedPuts 21) = some r ∧
      r.streak = List.replicate 21 .putObject ∧ r.GivesUp (newUploadQueue 0) := by
  have hstreak : ((retries (newUploadQueue 0)).run (refusedPuts 21)).map
      Retries.streak = some (List.replicate 21 .putObject) := by
    decide +kernel
  obtain ⟨r, hrun, hstreak⟩ := Option.map_eq_some_iff.mp hstreak
  have hlimit := failure_limit ⟨_, hrun⟩ (by simp [hstreak])
  exact ⟨r, hrun, hstreak, hlimit.2 (by simp [hstreak])⟩

structure Upload.LastPartLeft (w : Upload) : Prop where
  point : w.point = .processShouldAbort
  runs : w.shouldAbort = false
  available : w.partAvailable = true
  finished : w.finished = true
  started : w.uploadID ≠ none
  some : w.uploadedBytes ≠ 0
  left : w.uploadedBytes < w.file.length

def refusedPart : List Action := loops 6 ++ .uploadLoop (.fails 0) :: loops 1

variable {r : Retries}

theorem run_refusedPart (hleft : r.upload.LastPartLeft) :
    ∃ t, (retries q).runFrom r refusedPart = some t ∧
      t.upload.LastPartLeft ∧ t.streak = .uploadPart :: r.streak := by
  obtain ⟨id, hid⟩ := Option.ne_none_iff_exists'.mp hleft.started
  obtain ⟨hpoint, hruns, havailable, hfinished, -, hsome, hlt⟩ := hleft
  have hremaining : (r.upload.file.length : Int) - r.upload.uploadedBytes > 0 := by omega
  refine ⟨{ r with
    upload := { r.upload with
      partAvailable := true, failures := 0, point := .processShouldAbort }
    failed := some .uploadPart
    streak := .uploadPart :: r.streak }, ?_, ?_, rfl⟩
  · simp only [retries, refusedPart, loops, List.replicate, List.cons_append,
      List.nil_append, TransitionSystem.runFrom, Retries.step, Retries.observe,
      Upload.step, Upload.uploadLoop, Upload.failedOperation?, Upload.operation?,
      Upload.processMultiPartUploadPart, Upload.request, hpoint, hruns, havailable,
      hfinished, hid, hsome, hremaining, Option.none_or, Option.or_none,
      Option.map_some, Option.bind_some, Bool.false_eq_true, if_false, if_true,
      and_false, and_self, true_or, reduceCtorEq, Bool.or_self, Bool.or_true]
  · refine ⟨rfl, ?_, rfl, hfinished, by simp [hid], hsome, hlt⟩
    simp only [Upload.shouldAbort, Bool.or_eq_false_iff] at hruns
    simp [Upload.shouldAbort, hruns.1.1]

theorem run_refusedParts (count : Nat) (hleft : r.upload.LastPartLeft) :
    ∃ t, (retries q).runFrom r (List.replicate count refusedPart).flatten =
        some t ∧ t.upload.LastPartLeft ∧
      t.streak = List.replicate count .uploadPart ++ r.streak := by
  induction count generalizing r with
  | zero => exact ⟨r, rfl, hleft, rfl⟩
  | succ count ih =>
    obtain ⟨s, hfirst, hs, hstreak⟩ := run_refusedPart (q := q) hleft
    obtain ⟨t, hrest, ht, hmore⟩ := ih hs
    refine ⟨t, ?_, ht, ?_⟩
    · rw [List.replicate_succ, List.flatten_cons, (retries q).runFrom_append hfirst, hrest]
    · rw [hmore, hstreak, List.replicate_succ', List.append_assoc, List.singleton_append]

theorem exists_run_retries {actions : List Action} {w : Upload}
    (hrun : (uploads q).runFrom r.upload actions = some w) :
    ∃ t, (retries q).runFrom r actions = some t ∧ t.upload = w := by
  induction actions generalizing r with
  | nil => exact ⟨r, rfl, Option.some.inj hrun⟩
  | cons action rest ih =>
    obtain ⟨next, hstep, hrest⟩ := (uploads q).runFrom_cons_eq_some.mp hrun
    obtain ⟨s, hs, hupload⟩ : ∃ s, (retries q).step r action = some s ∧ s.upload = next := by
      refine ⟨_, Option.map_eq_some_iff.mpr ⟨next, hstep, rfl⟩, ?_⟩
      cases action with
      | uploadLoop outcome => exact Retries.observe_upload outcome next
      | _ => rfl
    obtain ⟨t, ht, hlast⟩ := ih (r := s) (hupload ▸ hrest)
    exact ⟨t, ((retries q).runFrom_cons_of_step hs rest).trans ht, hlast⟩

def closedAfterPart (q : UploadQueue) : List Action :=
  .write (List.replicate (q.partSize + 1) 0) :: .runOnPart ::
    (loops 9 ++ ([.close, .runOnClose] : List Action))

theorem reach_lastPartLeft (q : UploadQueue) :
    ∃ w, (uploads q).run (closedAfterPart q) = some w ∧ w.LastPartLeft := by
  have hpos := q.partSize_pos
  have hparts : 0 < (q.partSize + 1) / q.partSize := Nat.div_pos (Nat.le_succ _) hpos
  have hwritten : (uploads q).runFrom (uploads q).init
      [.write (List.replicate (q.partSize + 1) 0), .runOnPart] = some {
          file := List.replicate (q.partSize + 1) 0
          bytesWritten := q.partSize + 1
          partAvailable := true } := by
    simp [TransitionSystem.runFrom, uploads, Upload.step, Upload.write, hparts,
      Upload.markPartAvailable]
  have hstored := run_firstPart (w := {
      file := List.replicate (q.partSize + 1) 0
      bytesWritten := q.partSize + 1
      partAvailable := true }) q rfl rfl rfl rfl rfl rfl (by simp)
  refine ⟨_, ((uploads q).runFrom_append hwritten).trans
    (((uploads q).runFrom_append hstored).trans rfl), ?_⟩
  exact ⟨rfl, rfl, rfl, rfl, by simp [Upload.finish, Upload.close,
    Upload.markPartAvailable], Nat.ne_of_gt hpos, by simp [Upload.finish,
    Upload.close, Upload.markPartAvailable]⟩

theorem exists_refusedParts (q : UploadQueue) (count : Nat) :
    ∃ r, (retries q).Reachable r ∧ r.upload.LastPartLeft ∧
      List.replicate count .uploadPart <+: r.streak := by
  obtain ⟨w, hrun, hw⟩ := reach_lastPartLeft q
  obtain ⟨s, hs, rfl⟩ := exists_run_retries (r := (retries q).init) hrun
  obtain ⟨r, hr, hleft, hstreak⟩ := run_refusedParts (q := q) count hw
  exact ⟨r, ⟨_, ((retries q).runFrom_append hs).trans hr⟩, hleft, _, hstreak.symm⟩

theorem Upload.LastPartLeft.not_givesUp (hleft : r.upload.LastPartLeft) : ¬ r.GivesUp q := by
  rintro (hended | habort)
  · simp [hleft.point] at hended
  · have hsame := habort .succeeds
    simp [Upload.uploadLoop, hleft.point, hleft.runs, Upload.abort] at hsame

/-- After 22 iterations in a row in which `UploadPart` has failed, the loop goes
on to the next one. -/
theorem part_failures_unlimited : ∃ r, (retries (newUploadQueue 0)).Reachable r ∧
      List.replicate 22 .uploadPart <+: r.streak ∧
      ¬ r.streak.length ≤ 21 ∧ ¬ r.GivesUp (newUploadQueue 0) := by
  obtain ⟨r, hr, hleft, hstreak⟩ := exists_refusedParts (newUploadQueue 0) 22
  have hlength : 22 ≤ r.streak.length := by simpa using hstreak.length_le
  exact ⟨r, hr, hstreak, by omega, hleft.not_givesUp⟩

end ContainerSSH.S3
