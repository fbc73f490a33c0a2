/-
When the local file of an audit log is deleted, the object in the store has all its bytes,
provided the log is not finished behind the back of an iteration that has nothing left to upload.
-/
import ContainerSSH.S3Progress

namespace ContainerSSH.S3

def LoopPoint.Awake : LoopPoint → Prop
  | .processShouldAbort => False
  | .waitPartAvailable => False
  | .ended => False
  | _ => True

structure Sound (q : UploadQueue) (w : Upload) : Prop where
  counted : w.bytesWritten = w.file.length
  closing : w.finished = true ∨ 0 < w.onClose → w.writerClosed = true
  notified : 0 < w.onPart ∨ w.partAvailable = true ∨ w.point.Awake →
    q.partSize ≤ w.file.length ∨ w.finished = true
  progress : w.point ≠ .ended → Progress q.partSize w.file w.finished
    w.uploadedBytes w.completedParts w.uploadID w.store
  point : PointSound q.partSize w.file w.finished w.uploadedBytes w.uploadID w.store.object w.point
  complete : w.removed = true → w.finished = true ∧ w.point = .ended ∧ w.store.object = some w.file

namespace Sound

variable {q : UploadQueue} {w next : Upload}

theorem init (q : UploadQueue) : Sound q (uploads q).init where
  counted := rfl
  closing := by simp [uploads]
  notified := by simp [uploads, LoopPoint.Awake]
  progress := fun _ => by
    refine .tiled 0 ⟨rfl, by simp, NumberedParts.assemble_zero, Nat.le_refl _, .inl ?_⟩
    simp [uploads]
  point := trivial
  complete := by simp [uploads]

theorem write (hsound : Sound q w) (data : Bytes) : Sound q (w.write q data) := by
  simp only [Upload.write]
  generalize hwritten : (if w.writerClosed then [] else data) = written
  have hnothing : w.finished = true → written = [] := by
    intro hfinished
    rw [← hwritten, if_pos (hsound.closing (.inl hfinished))]
  have hlonger : w.file.length ≤ (w.file ++ written).length := by simp
  have hcounted : w.bytesWritten + written.length = (w.file ++ written).length := by
    rw [hsound.counted, List.length_append]
  refine ⟨hcounted, hsound.closing, ?_, ?_, ?_, ?_⟩
  · rintro (hpart | hawake)
    · rw [hcounted] at hpart
      split_ifs at hpart with hparts
      · exact .inl (Nat.div_pos_iff.mp (Nat.lt_of_le_of_lt (Nat.zero_le _) hparts)).2
      · exact (hsound.notified (.inl hpart)).imp_left fun hlong => Nat.le_trans hlong hlonger
    · exact (hsound.notified (.inr hawake)).imp_left fun hlong => Nat.le_trans hlong hlonger
  · have hprogress := hsound.progress
    cases hfinished : w.finished with
    | true => rwa [hnothing hfinished, List.append_nil, ← hfinished]
    | false =>
      rw [hfinished] at hprogress
      exact fun hrunning => (hprogress hrunning).grow written
  · have hpoint := hsound.point
    cases hfinished : w.finished with
    | true => rwa [hnothing hfinished, List.append_nil, ← hfinished]
    | false =>
      rw [hfinished] at hpoint
      exact hpoint.grow written
  · intro hremoved
    have hcomplete := hsound.complete hremoved
    rwa [hnothing hcomplete.1, List.append_nil]

theorem close (hsound : Sound q w) : Sound q w.close :=
  ⟨hsound.counted, fun _ => rfl, hsound.notified, hsound.progress, hsound.point, hsound.complete⟩

theorem runOnPart (hsound : Sound q w) (hpart : w.onPart ≠ 0) :
    Sound q { w with onPart := w.onPart - 1 }.markPartAvailable :=
  ⟨hsound.counted, hsound.closing, fun _ => hsound.notified (.inl (Nat.pos_of_ne_zero hpart)),
    hsound.progress, hsound.point, hsound.complete⟩

theorem runOnClose (hsound : Sound q w) (hclose : w.onClose ≠ 0)
    (hsees : ∀ size, w.point.size? = some size → size = w.uploadedBytes → size = w.file.length) :
    Sound q { w with onClose := w.onClose - 1 }.finish := by
  have hclosed := hsound.closing (.inr (Nat.pos_of_ne_zero hclose))
  cases hqueued : w.queued with
  | false =>
    exact ⟨hsound.counted, fun _ => hclosed, hsound.notified,
      hsound.progress, hsound.point, hsound.complete⟩
  | true =>
    simp only [Upload.finish]
    have hprogress := hsound.progress
    have hpoint := hsound.point
    refine ⟨hsound.counted, fun _ => hclosed, fun _ => .inr rfl, ?_, ?_,
      fun hremoved => ⟨rfl, (hsound.complete hremoved).2⟩⟩
    · cases hfinished : w.finished with
      | true => exact hfinished ▸ hprogress
      | false =>
        rw [hfinished] at hprogress
        exact fun hrunning => (hprogress hrunning).finish.1
    · cases hfinished : w.finished with
      | true => exact hfinished ▸ hpoint
      | false =>
        rw [hfinished] at hprogress hpoint
        by_cases hended : w.point = .ended
        · rw [hended]
          trivial
        · exact hpoint.finish (hprogress hended) hsees

theorem move (hsound : Sound q w) (hrunning : w.point ≠ .ended) {partAvailable : Bool}
    {store : Store} {uploadID : Option Nat} {uploadedBytes readOffset failures : Nat}
    {completedParts : List Nat} {point : LoopPoint}
    (hnotified : 0 < w.onPart ∨ partAvailable = true ∨ point.Awake →
      q.partSize ≤ w.file.length ∨ w.finished = true)
    (hprogress : Progress q.partSize w.file w.finished uploadedBytes completedParts uploadID store)
    (hpoint : PointSound q.partSize w.file w.finished uploadedBytes uploadID store.object point) :
    Sound q { w with
      partAvailable, store, uploadID, uploadedBytes, readOffset, failures
      completedParts, point } where
  counted := hsound.counted
  closing := hsound.closing
  notified := hnotified
  progress := fun _ => hprogress
  point := hpoint
  complete := fun hremoved => absurd (hsound.complete hremoved).2.1 hrunning

theorem endIteration (hsound : Sound q w) (hawake : w.point.Awake)
    {store : Store} {uploadedBytes readOffset : Nat} {completedParts : List Nat}
    (errorHappened : Bool) (hprogress : Progress q.partSize w.file w.finished uploadedBytes
      completedParts w.uploadID store) : Sound q { w with
      store, uploadedBytes, readOffset, completedParts
      point := .iterationEnd errorHappened } :=
  hsound.move (fun hended => by rw [hended] at hawake; exact hawake)
    (fun _ => hsound.notified (.inr (.inr hawake))) hprogress trivial

theorem stop (hsound : Sound q w) {store : Store} {removed : Bool}
    (hremoved : removed = true → w.finished = true ∧ store.object = some w.file) :
    Sound q { w with store, removed, queued := false, point := .ended } where
  counted := hsound.counted
  closing := hsound.closing
  notified := fun hwoken => hsound.notified (hwoken.imp_right (Or.imp_right False.elim))
  progress := fun hrunning => absurd rfl hrunning
  point := trivial
  complete := fun h => ⟨(hremoved h).1, rfl, (hremoved h).2⟩

theorem request_cases (w : Upload) (effect : Option Store) (outcome : Outcome) :
    (effect = some (w.request effect outcome).1) ∨ ((w.request effect outcome).1 = w.store ∧
        (w.request effect outcome).2 = false) := by
  cases outcome <;> cases effect <;> simp [Upload.request]

theorem processSingleUpload (hsound : Sound q w)
    (hpoint : w.point = .processSingleUpload) (outcome : Outcome) :
    Sound q (w.processSingleUpload outcome) := by
  have hat := hsound.point
  have hprogress := hsound.progress (by simp [hpoint])
  have hawake : w.point.Awake := by simp [hpoint, LoopPoint.Awake]
  rw [hpoint] at hat
  obtain ⟨hfinished, hzero⟩ := hat
  simp only [Upload.processSingleUpload]
  generalize heffect : (if (w.file.drop w.readOffset).length = w.file.length
    then some (w.store.putObject (w.file.drop w.readOffset)) else none) = effect
  rcases request_cases w effect outcome with hstore | ⟨hstore, hfailed⟩
  · have hsent : (w.request effect outcome).1 = w.store.putObject w.file := by
      rw [hstore] at heffect
      split_ifs at heffect with hlength
      rw [← Option.some.inj heffect]
      rw [List.length_drop] at hlength
      by_cases hempty : w.file.length = 0
      · simp [List.length_eq_zero_iff.mp hempty]
      · have hoffset : w.readOffset = 0 := by omega
        rw [hoffset, List.drop_zero]
    rw [hsent]
    split_ifs
    · refine hsound.endIteration hawake false ?_
      rw [hfinished] at hprogress ⊢
      exact hprogress.sendWhole q.partSize_pos hzero
    · exact hsound.endIteration hawake true (hprogress.putObject w.file hzero)
  · rw [hstore, hfailed]
    exact hsound.endIteration hawake true hprogress

theorem processMultiPartUploadPart (hsound : Sound q w)
    {partNumber startingByte endingByte id : Nat} (hpoint : w.point =
      .processMultiPartUploadPart partNumber startingByte endingByte)
    (hid : w.uploadID = some id) (outcome : Outcome) :
    Sound q (w.processMultiPartUploadPart id partNumber startingByte endingByte outcome) := by
  have hpart := hsound.point
  have hprogress := hsound.progress (by simp [hpoint])
  have hawake : w.point.Awake := by simp [hpoint, LoopPoint.Awake]
  rw [hpoint] at hpart
  rw [hid] at hprogress
  have hlt : w.uploadedBytes < w.file.length := Nat.lt_of_lt_of_le hpart.beyond hpart.within
  simp only [Upload.processMultiPartUploadPart]
  rcases request_cases w _ outcome with hstore | ⟨hstore, hfailed⟩
  · rw [← Option.some.inj hstore]
    split_ifs
    · refine hsound.endIteration hawake false ?_
      rw [hid]
      exact hprogress.part q.partSize_pos hpart
    · refine hsound.endIteration hawake false ?_
      rw [hid]
      exact hprogress.store_part q.partSize_pos hlt hpart.number
  · rw [hstore, hfailed]
    refine hsound.endIteration hawake false ?_
    rw [hid]
    exact hprogress

theorem initializeMultiPartUpload (hsound : Sound q w) {size : Nat}
    {outcome : Outcome} (hpoint : w.point = .initializeMultiPartUpload size)
    (hstep : w.uploadLoop q outcome = some next) : Sound q next := by
  have hat := hsound.point
  have hrunning : w.point ≠ .ended := by simp [hpoint]
  have hprogress := hsound.progress hrunning
  have hawake : w.point.Awake := by simp [hpoint, LoopPoint.Awake]
  rw [hpoint] at hat
  obtain ⟨hseen, hbeyond, henough, hnone⟩ := hat
  have hcreated := hprogress.create hnone (Nat.lt_of_lt_of_le hbeyond hseen.within)
  simp only [Upload.uploadLoop, hpoint] at hstep
  rcases request_cases w (some w.store.createMultipartUpload.1) outcome with
    hstore | ⟨hstore, hfailed⟩
  · rw [← Option.some.inj hstore] at hstep
    split_ifs at hstep <;> cases hstep
    · exact hsound.move hrunning (fun _ => hsound.notified (.inr (.inr hawake)))
        hcreated.2 ⟨hseen, hbeyond, henough⟩
    · exact hsound.endIteration hawake true (hnone ▸ hcreated.1)
  · rw [hstore, hfailed] at hstep
    cases hstep
    exact hsound.endIteration hawake true hprogress

theorem finalizeUpload (hsound : Sound q w) {outcome : Outcome} (hpoint : w.point = .finalizeUpload)
    (hstep : w.uploadLoop q outcome = some next) : Sound q next := by
  have hat := hsound.point
  have hrunning : w.point ≠ .ended := by simp [hpoint]
  have hprogress := hsound.progress hrunning
  have hawake : w.point.Awake := by simp [hpoint, LoopPoint.Awake]
  rw [hpoint] at hat
  obtain ⟨hfinished, hdone, -⟩ := hat
  simp only [Upload.uploadLoop, hpoint, Option.map_eq_some_iff] at hstep
  obtain ⟨id, hid, hstep⟩ := hstep
  rcases request_cases w (w.store.completeMultipartUpload id w.completedParts)
    outcome with hstore | ⟨hstore, hfailed⟩
  · rw [hid] at hprogress
    obtain ⟨hobject, hcompleted⟩ := hprogress.completed hdone hstore
    rw [← hid] at hcompleted
    split_ifs at hstep <;> subst hstep
    · exact hsound.move hrunning (fun _ => hsound.notified (.inr (.inr hawake)))
        hcompleted ⟨hfinished, hobject⟩
    · exact hsound.endIteration hawake true hcompleted
  · rw [hstore, hfailed] at hstep
    subst hstep
    exact hsound.endIteration hawake true hprogress

theorem uploadLoop (hsound : Sound q w) {outcome : Outcome}
    (hstep : w.uploadLoop q outcome = some next) : Sound q next := by
  have hat := hsound.point
  have hnotified := fun hawake => hsound.notified (.inr (.inr hawake))
  have hpos := q.partSize_pos
  have hrunning : w.point ≠ .ended := by
    intro hended
    simp [Upload.uploadLoop, hended] at hstep
  have hprogress := hsound.progress hrunning
  have hgo {point : LoopPoint} (hawake : w.point.Awake) (hnext : PointSound q.partSize w.file
      w.finished w.uploadedBytes w.uploadID w.store.object point) : Sound q { w with point } :=
    hsound.move hrunning (fun _ => hnotified hawake) hprogress hnext
  cases hpoint : w.point
  case initializeMultiPartUpload => exact hsound.initializeMultiPartUpload hpoint hstep
  case finalizeUpload => exact hsound.finalizeUpload hpoint hstep
  case ended => exact absurd hpoint hrunning
  all_goals
    simp only [Upload.uploadLoop, hpoint, Option.map_eq_some_iff] at hstep hnotified hat hgo
  case processShouldAbort =>
    split_ifs at hstep <;> cases hstep
    · exact hsound.stop fun hremoved => absurd (hsound.complete hremoved).2.1 hrunning
    · exact hsound.move hrunning (fun hwoken => hsound.notified
        (hwoken.imp_right (Or.imp_right False.elim))) hprogress trivial
  case waitPartAvailable =>
    split_ifs at hstep with havailable
    cases hstep
    exact hsound.move hrunning (fun _ => hsound.notified (.inr (.inl havailable))) hprogress trivial
  case stat =>
    -- the size is that of the whole file
    split at hstep <;> cases hstep
    · exact hgo trivial ⟨⟨Nat.le_refl _, fun _ _ => rfl, fun _ => rfl⟩, (hnotified trivial).symm⟩
    · exact hgo trivial trivial
  case finishedSingle =>
    split_ifs at hstep with hsingle <;> cases hstep
    · exact hgo trivial hsingle
    · refine hgo trivial ⟨hat.1, hat.2.imp_left fun hfinished hzero => hsingle ⟨hfinished, hzero⟩⟩
  case processSingleUpload =>
    cases hstep
    exact hsound.processSingleUpload hpoint outcome
  case finishedPart =>
    split_ifs at hstep with henough hnone <;> cases hstep
    · exact hgo trivial ⟨hat.1, by omega, henough.imp And.left (by omega), hnone⟩
    · exact hgo trivial ⟨hat.1, by omega, henough.imp And.left (by omega)⟩
    · exact hgo trivial hat
  case finishedLastPart =>
    cases hstep
    refine hgo trivial ?_
    rw [Upload.partRange_eq]
    exact partSound_of_seen hpos hprogress hat.1 hat.2.1 hat.2.2 rfl
  case processMultiPartUploadPart =>
    obtain ⟨id, hid, rfl⟩ := hstep
    exact hsound.processMultiPartUploadPart hpoint hid outcome
  case finishedDone size =>
    obtain ⟨hseen, hwoken⟩ := hat
    have hend : w.finished = true ∧ (size : Int) - w.uploadedBytes = 0 →
        w.uploadedBytes = w.file.length ∧ w.uploadedBytes ≠ 0 := by
      rintro ⟨hfinished, hdone⟩
      have hsize := hseen.done hfinished (by omega)
      omega
    split_ifs at hstep with hdone hnone <;> cases hstep
    · exact hgo trivial ⟨hdone.1, hprogress.object_of_done hnone (hend hdone).1 (hend hdone).2⟩
    · exact hgo trivial ⟨hdone.1, hend hdone⟩
    · exact hgo trivial trivial
  case remove =>
    cases hstep
    exact hsound.stop fun _ => hat
  case iterationEnd =>
    cases hstep
    exact hsound.move hrunning (fun _ => hnotified trivial) hprogress trivial

end Sound

/-- While the loop holds a size that is uploaded, only a file of that size is finished. -/
def FinishSeesAll (w : Upload) (action : Action) : Prop :=
  action = .runOnClose → ∀ size, w.point.size? = some size →
    size = w.uploadedBytes → size = w.file.length

theorem Sound.step {q : UploadQueue} {w next : Upload} {action : Action}
    (hsound : Sound q w) (hsees : FinishSeesAll w action)
    (hstep : w.step q action = some next) : Sound q next := by
  cases action with
  | write data =>
    cases hstep
    exact hsound.write data
  | close =>
    cases hstep
    exact hsound.close
  | runOnPart =>
    obtain ⟨hpart, ⟨⟩⟩ := Option.ite_none_left_eq_some.mp hstep
    exact hsound.runOnPart hpart
  | runOnClose =>
    obtain ⟨hclose, ⟨⟩⟩ := Option.ite_none_left_eq_some.mp hstep
    exact hsound.runOnClose hclose (hsees rfl)
  | shutdown =>
    cases hstep
    exact ⟨hsound.counted, hsound.closing, hsound.notified, hsound.progress,
      hsound.point, hsound.complete⟩
  | expire =>
    obtain ⟨-, ⟨⟩⟩ := Option.ite_none_right_eq_some.mp hstep
    exact ⟨hsound.counted, hsound.closing, hsound.notified, hsound.progress,
      hsound.point, hsound.complete⟩
  | uploadLoop => exact hsound.uploadLoop hstep

/-- In every run in which no log is finished behind the back of an iteration
that has nothing left to upload, the object is complete when the local file is
deleted. -/
theorem complete_of_finishSeesAll {q : UploadQueue} {actions : List Action} {w : Upload}
    (hmeets : (uploads q).Meets FinishSeesAll (uploads q).init actions)
    (hrun : (uploads q).run actions = some w) : w.Complete := by
  have hsound : Sound q w :=
    (uploads q).runFrom_invariant_of_meets
      (fun _ _ _ hold hsees hstep => hold.step hsees hstep) (Sound.init q) hmeets hrun
  exact fun hremoved => (hsound.complete hremoved).2.2

def smallRun : List Action :=
  [.write [1, 2], .close, .runOnClose] ++ List.replicate 13 (.uploadLoop .succeeds)

def smallResult : Upload where
  file := [1, 2]
  writerClosed := true
  bytesWritten := 2
  finished := true
  readOffset := 2
  queued := false
  removed := true
  uploadedBytes := 2
  point := .ended
  store := { object := some [1, 2] }

theorem complete_of_finishSeesAll_small :
    (uploads (newUploadQueue 0)).run smallRun = some smallResult ∧
      smallResult.removed = true ∧ smallResult.Complete := by
  refine ⟨rfl, rfl, @complete_of_finishSeesAll (newUploadQueue 0) smallRun _ ?_ rfl⟩
  refine TransitionSystem.meets_cons _ (by simp [FinishSeesAll]) rfl ?_
  refine TransitionSystem.meets_cons _ (by simp [FinishSeesAll]) rfl ?_
  refine TransitionSystem.meets_cons _ (fun _ _ hsize => by cases hsize) rfl ?_
  iterate 13 refine TransitionSystem.meets_cons _ (by simp [FinishSeesAll]) rfl ?_
  trivial

def loops (count : Nat) : List Action := List.replicate count (.uploadLoop .succeeds)

section
variable {q : UploadQueue} {w : Upload} {id count : Nat}

theorem run_wake (q : UploadQueue) (hpoint : w.point = .processShouldAbort)
    (habort : w.shouldAbort = false) (havailable : w.partAvailable = true) :
    (uploads q).runFrom w (loops 3) = some { w with
        partAvailable := false
        point := .finishedSingle w.file.length } := by
  simp [loops, TransitionSystem.runFrom, uploads, Upload.step,
    Upload.uploadLoop, hpoint, habort, havailable, List.replicate]

theorem run_finishedPart (q : UploadQueue) {size : Nat} {point : LoopPoint}
    (hpoint : w.point = .finishedSingle size) (hfinished : w.finished = false)
    (hroom : w.uploadedBytes + q.partSize ≤ size)
    (hnext : (if w.uploadID = none then .initializeMultiPartUpload size
      else .finishedLastPart size) = point) :
    (uploads q).runFrom w (loops 2) = some { w with point } := by
  have hremaining : (q.partSize : Int) ≤ size - w.uploadedBytes := by omega
  subst hnext
  simp only [loops, TransitionSystem.runFrom, uploads, Upload.step,
    Upload.uploadLoop, hpoint, hfinished, List.replicate, hremaining,
    Option.bind_some, Bool.false_eq_true, false_and, if_false, ge_iff_le, or_true, if_true]
  split_ifs <;> rfl

theorem run_part (q : UploadQueue) {size : Nat} (hpoint : w.point = .finishedLastPart size)
    (hfinished : w.finished = false) (hid : w.uploadID = some id)
    (hfull : w.uploadedBytes = count * q.partSize) (henough : w.uploadedBytes + q.partSize ≤ size) :
    (uploads q).runFrom w (loops 3) = some { w with
        uploadedBytes := (count + 1) * q.partSize
        completedParts := w.completedParts ++ [count]
        store := w.store.uploadPart id count ((w.file.drop (count * q.partSize)).take q.partSize)
        failures := 0
        point := .processShouldAbort } := by
  have hcount : count * q.partSize / q.partSize = count := Nat.mul_div_cancel _ q.partSize_pos
  have hnext : (count + 1) * q.partSize = count * q.partSize + q.partSize := Nat.succ_mul _ _
  have hend : min (count * q.partSize + q.partSize) size =
      count * q.partSize + q.partSize := by omega
  simp [loops, TransitionSystem.runFrom, uploads, Upload.step,
    Upload.uploadLoop, hpoint, hfinished, hid, List.replicate,
    Upload.partRange_eq, hcount, hend, Upload.processMultiPartUploadPart,
    Upload.request, hfull, hnext]

theorem run_loops {state result : Upload} {first second : Nat}
    (hfirst : (uploads q).runFrom w (loops first) = some state)
    (hsecond : (uploads q).runFrom state (loops second) = some result) :
    (uploads q).runFrom w (loops (first + second)) = some result := by
  rw [loops, ← List.replicate_append_replicate]
  exact ((uploads q).runFrom_append hfirst).trans hsecond

theorem run_create (q : UploadQueue) {size : Nat}
    (hpoint : w.point = .initializeMultiPartUpload size) : (uploads q).runFrom w (loops 1) =
      some { w with
        store := w.store.createMultipartUpload.1
        uploadID := some w.store.created
        point := .finishedLastPart size } := by
  simp [loops, TransitionSystem.runFrom, uploads, Upload.step,
    Upload.uploadLoop, hpoint, Upload.request, List.replicate, Store.createMultipartUpload]

theorem run_firstPart (q : UploadQueue) (hpoint : w.point = .processShouldAbort)
    (habort : w.shouldAbort = false) (havailable : w.partAvailable = true)
    (hfinished : w.finished = false) (hnone : w.uploadID = none)
    (hnothing : w.uploadedBytes = 0) (henough : q.partSize ≤ w.file.length) :
    (uploads q).runFrom w (loops 9) = some { w with
        partAvailable := false
        uploadID := some w.store.created
        uploadedBytes := q.partSize
        completedParts := w.completedParts ++ [0]
        store := w.store.createMultipartUpload.1.uploadPart w.store.created 0
          (w.file.take q.partSize)
        failures := 0
        point := .processShouldAbort } := by
  have hroom : w.uploadedBytes + q.partSize ≤ w.file.length := by omega
  have hstart := run_finishedPart (w := { w with
      partAvailable := false
      point := .finishedSingle w.file.length })
    q rfl hfinished hroom (if_pos hnone)
  have hstored := run_loops (run_loops (run_loops
    (run_wake q hpoint habort havailable) hstart) (run_create q rfl))
    (@run_part _ _ 0 q _ rfl hfinished rfl (by simpa using hnothing) hroom)
  simpa using hstored

theorem run_nextPart (q : UploadQueue) (hpoint : w.point = .processShouldAbort)
    (habort : w.shouldAbort = false) (havailable : w.partAvailable = true)
    (hfinished : w.finished = false) (hid : w.uploadID = some id)
    (hfull : w.uploadedBytes = count * q.partSize)
    (hroom : w.uploadedBytes + q.partSize ≤ w.file.length) : (uploads q).runFrom w (loops 8) =
      some { w with
        partAvailable := false
        uploadedBytes := (count + 1) * q.partSize
        completedParts := w.completedParts ++ [count]
        store := w.store.uploadPart id count ((w.file.drop (count * q.partSize)).take q.partSize)
        failures := 0
        point := .processShouldAbort } := by
  have hstart := run_finishedPart (w := { w with
      partAvailable := false
      point := .finishedSingle w.file.length })
    q rfl hfinished hroom (if_neg (by simp [hid]))
  exact run_loops (run_loops (run_wake q hpoint habort havailable) hstart)
    (run_part q rfl hfinished hid hfull hroom)

theorem run_finalize (q : UploadQueue) {completed : Store}
    (hpoint : w.point = .finishedSingle w.uploadedBytes)
    (hfinished : w.finished = true) (hsome : w.uploadedBytes ≠ 0) (hid : w.uploadID = some id)
    (hcomplete : w.store.completeMultipartUpload id w.completedParts = some completed) :
    (uploads q).runFrom w (loops 5) = some { w with
        store := completed
        removed := true
        queued := false
        point := .ended } := by
  have hpos : ¬ q.partSize = 0 := Nat.ne_of_gt q.partSize_pos
  simp [loops, TransitionSystem.runFrom, uploads, Upload.step,
    Upload.uploadLoop, hpoint, hfinished, hsome, hid, hcomplete, hpos,
    Upload.request, List.replicate]
end

def fillTwoParts (q : UploadQueue) : List Action :=
  [.write (List.replicate q.partSize 0), .write [1], .write (List.replicate (q.partSize - 1) 2)]

def twoParts (q : UploadQueue) : Bytes :=
  List.replicate q.partSize 0 ++ [1] ++ List.replicate (q.partSize - 1) 2

def caughtUp (q : UploadQueue) : Upload where
  file := twoParts q
  bytesWritten := q.partSize + q.partSize
  uploadID := some 0
  uploadedBytes := q.partSize + q.partSize
  completedParts := [0, 1]
  point := .finishedSingle (q.partSize + q.partSize)
  store := (({} : Store).createMultipartUpload.1.uploadPart 0 0
    ((twoParts q).take q.partSize)).uploadPart 0 1 (((twoParts q).drop q.partSize).take q.partSize)

theorem twoParts_length (q : UploadQueue) : (twoParts q).length = q.partSize + q.partSize := by
  have hpos := q.partSize_pos
  simp only [twoParts, List.length_append, List.length_replicate, List.length_singleton]
  omega

theorem run_fillTwoParts (q : UploadQueue) : (uploads q).run (fillTwoParts q) = some {
        file := twoParts q
        bytesWritten := q.partSize + q.partSize
        onPart := 3 } := by
  have hpos := q.partSize_pos
  have hparts : ∀ {size}, q.partSize ≤ size → 0 < size / q.partSize :=
    fun hle => Nat.div_pos hle hpos
  have hsum : q.partSize + 1 + (q.partSize - 1) = q.partSize + q.partSize := by omega
  have h1 := hparts (Nat.le_refl q.partSize)
  have h2 := hparts (Nat.le_add_right q.partSize 1)
  have h3 := hparts (Nat.le_add_right q.partSize q.partSize)
  simp [fillTwoParts, TransitionSystem.run, TransitionSystem.runFrom, uploads,
    Upload.step, Upload.write, twoParts, hsum, h1, h2, h3]

theorem reach_caughtUp (q : UploadQueue) :
    (uploads q).run (fillTwoParts q ++ ([Action.runOnPart] ++ (loops 9 ++
      ([Action.runOnPart] ++ (loops 8 ++ ([Action.runOnPart] ++ loops 3)))))) =
      some (caughtUp q) := by
  have hlength := twoParts_length q
  have hnotify : ∀ {w : Upload}, w.onPart ≠ 0 → (uploads q).runFrom w [.runOnPart] =
        some { w with onPart := w.onPart - 1, partAvailable := true } := by
    intro w hpart
    simp [TransitionSystem.runFrom, uploads, Upload.step, hpart, Upload.markPartAvailable]
  rw [TransitionSystem.run, (uploads q).runFrom_append (run_fillTwoParts q),
    (uploads q).runFrom_append (hnotify (by simp)),
    (uploads q).runFrom_append (run_firstPart q rfl rfl rfl rfl rfl rfl (by simp [hlength])),
    (uploads q).runFrom_append (hnotify (by simp)),
    (uploads q).runFrom_append (run_nextPart (w := _) q rfl rfl rfl rfl rfl
      (Nat.one_mul _).symm (by simp [hlength])), (uploads q).runFrom_append (hnotify (by simp)),
    run_wake q rfl rfl rfl]
  simp [caughtUp, hlength, Nat.succ_mul]

theorem caughtUp_assemble (q : UploadQueue) :
    NumberedParts.assemble ((caughtUp q).store.parts 0) (List.range 2) = some (twoParts q) := by
  have hlength := twoParts_length q
  have hfirst : (caughtUp q).store.parts 0 0 = some ((twoParts q).take q.partSize) := by
    simp [caughtUp, Store.uploadPart]
  have hsecond : (caughtUp q).store.parts 0 1 =
      some (((twoParts q).drop q.partSize).take q.partSize) := by
    simp [caughtUp, Store.uploadPart]
  have hall := NumberedParts.assemble_succ
    (NumberedParts.assemble_succ NumberedParts.assemble_zero hfirst) hsecond
  have hrest : ((twoParts q).drop q.partSize).take q.partSize = (twoParts q).drop q.partSize :=
    List.take_of_length_le (by simp [hlength])
  rw [hall, List.nil_append, hrest, List.take_append_drop]

/-- A byte that is written after the size was read, before the log is closed
and finished, is not in the object when the local file is deleted. -/
theorem last_byte_lost : ∃ actions w body, (uploads (newUploadQueue 0)).run actions = some w ∧
      w.removed = true ∧ w.store.object = some body ∧ w.file = body ++ [3] ∧ ¬ w.Complete := by
  generalize newUploadQueue 0 = q
  have hpos := q.partSize_pos
  have hcomplete : (caughtUp q).store.completeMultipartUpload 0 [0, 1] =
      some { (caughtUp q).store with object := some (twoParts q) } := by
    rw [Store.completeMultipartUpload, if_neg (by simp)]
    exact congrArg _ (caughtUp_assemble q)
  have hfinish : (uploads q).runFrom (caughtUp q) [.write [3], .close, .runOnClose] =
        some { ((caughtUp q).write q [3]).close.finish with onClose := 0 } :=
    rfl
  have hend := run_finalize (w := { ((caughtUp q).write q [3]).close.finish with
    onClose := 0 }) q rfl rfl (Nat.ne_of_gt (Nat.add_pos_left hpos _)) rfl
    hcomplete
  refine ⟨_, _, twoParts q, ((uploads q).runFrom_append
    (reach_caughtUp q)).trans (((uploads q).runFrom_append hfinish).trans hend),
    rfl, rfl, rfl, fun hwhole => ?_⟩
  have hsame : twoParts q = twoParts q ++ [3] := Option.some.inj (hwhole rfl)
  simp at hsame

end ContainerSSH.S3
