/-
The limits of S3 on the parts of an upload.
-/
import ContainerSSH.S3Completeness

namespace ContainerSSH.S3

/-- What S3 asks of the parts of an upload. -/
structure WithinLimits (partNumber contentLength : Nat) (last : Prop) : Prop where
  numbered : 1 ≤ partNumber ∧ partNumber ≤ 10000
  atMost : contentLength ≤ maxPartSize
  atLeast : ¬ last → minPartSize ≤ contentLength

structure PartAllowed (q : UploadQueue) (w : Upload) (size : Nat) : Prop where
  notFirst : q.partSize ≤ w.uploadedBytes
  few : w.uploadedBytes < 10001 * q.partSize
  rest : w.finished = true → size < w.uploadedBytes / q.partSize * q.partSize + 2 * q.partSize →
    size - w.uploadedBytes / q.partSize * q.partSize ≤ maxPartSize ∧ (size ≠ w.file.length →
        minPartSize ≤ size - w.uploadedBytes / q.partSize * q.partSize)

def Upload.HasNextPart (q : UploadQueue) (w : Upload) (size : Nat) : Prop :=
  w.uploadedBytes < size ∧ (w.finished = true ∨ w.uploadedBytes + q.partSize ≤ size)

def Upload.Guarded (q : UploadQueue) (w : Upload) : Prop :=
  ∀ size, w.point = .initializeMultiPartUpload size ∨
    w.point = .finishedLastPart size → w.HasNextPart q size

variable {q : UploadQueue} {w t : Upload}

theorem Upload.Guarded.other (hw : w.Guarded q) (hpoint : t.point = w.point)
    (hbytes : t.uploadedBytes = w.uploadedBytes)
    (hfinished : w.finished = true → t.finished = true) : t.Guarded q := by
  intro size hat
  rw [hpoint] at hat
  obtain ⟨hleft, henough⟩ := hw size hat
  exact ⟨hbytes ▸ hleft, henough.imp hfinished fun hroom => hbytes ▸ hroom⟩

theorem Upload.Guarded.uploadLoop {outcome : Outcome} (hw : w.Guarded q)
    (hstep : w.uploadLoop q outcome = some t) : t.Guarded q := by
  have hpos := q.partSize_pos
  intro size hat
  cases hpoint : w.point with
  | finishedPart seen =>
    simp only [Upload.uploadLoop, hpoint] at hstep
    have hseen : w.HasNextPart q seen ∨ t.point = .finishedDone seen := by
      split_ifs at hstep with hpart hnone <;> cases hstep
      · exact .inl ⟨by omega, hpart.imp And.left (by omega)⟩
      · exact .inl ⟨by omega, hpart.imp And.left (by omega)⟩
      · exact .inr rfl
    split_ifs at hstep <;> cases hstep <;> simp at hat hseen <;> exact hat ▸ hseen
  | initializeMultiPartUpload seen =>
    have hseen := hw seen (.inl hpoint)
    simp only [Upload.uploadLoop, hpoint] at hstep
    split_ifs at hstep <;> rw [← Option.some.inj hstep] at hat ⊢ <;>
      simp at hat
    exact hat ▸ hseen
  | processMultiPartUploadPart =>
    simp only [Upload.uploadLoop, hpoint, Option.map_eq_some_iff,
      Upload.processMultiPartUploadPart] at hstep
    grind
  | finalizeUpload =>
    simp only [Upload.uploadLoop, hpoint, Option.map_eq_some_iff] at hstep
    grind
  | _ =>
    simp only [Upload.uploadLoop, hpoint, Upload.abort, Upload.processSingleUpload] at hstep
    grind

theorem Upload.Guarded.step {action : Action} (hw : w.Guarded q)
    (hstep : w.step q action = some t) : t.Guarded q := by
  cases action with
  | uploadLoop => exact hw.uploadLoop hstep
  | _ =>
    obtain ⟨hpoint, hbytes, -, hfinished⟩ := Upload.step_other (by simp) hstep
    exact hw.other hpoint hbytes hfinished

theorem guarded_of_reachable (hw : (uploads q).Reachable w) : w.Guarded q :=
  hw.invariant (by simp [Upload.Guarded, uploads]) fun _ _ _ hold hstep =>
    hold.step hstep

theorem partRange_of_hasNextPart {size : Nat} (hnext : w.HasNextPart q size) :
    w.partRange q size w.finished =
      (w.uploadedBytes / q.partSize, w.uploadedBytes / q.partSize * q.partSize,
        if w.finished = true ∧ size < w.uploadedBytes / q.partSize * q.partSize + 2 * q.partSize
        then size
        else w.uploadedBytes / q.partSize * q.partSize + q.partSize) := by
  have hdiv := Nat.div_mul_le_self w.uploadedBytes q.partSize
  obtain ⟨hleft, henough⟩ := hnext
  rw [Upload.partRange_eq, Nat.succ_mul]
  generalize w.uploadedBytes / q.partSize * q.partSize = start at hdiv ⊢
  congr 2
  cases hfinished : w.finished with
  | false =>
    have hroom : w.uploadedBytes + q.partSize ≤ size := by simpa [hfinished] using henough
    simp only [Bool.false_eq_true, false_and, if_false]
    omega
  | true =>
    simp only [true_and]
    rcases Nat.le_total (start + q.partSize) size with hroom | hroom
    · rw [Nat.min_eq_left hroom]
      split_ifs <;> omega
    · rw [Nat.min_eq_right hroom]
      split_ifs <;> omega

theorem uploadLoop_finishedLastPart {size : Nat}
    (hpoint : w.point = .finishedLastPart size) (hnext : w.HasNextPart q size) (outcome : Outcome) :
    w.uploadLoop q outcome = some { w with
      point := .processMultiPartUploadPart (w.uploadedBytes / q.partSize)
        (w.uploadedBytes / q.partSize * q.partSize) (if w.finished = true ∧
            size < w.uploadedBytes / q.partSize * q.partSize + 2 * q.partSize
          then size
          else w.uploadedBytes / q.partSize * q.partSize + q.partSize) } := by
  simp only [Upload.uploadLoop, hpoint, partRange_of_hasNextPart hnext]

theorem numbered_iff (q : UploadQueue) (uploadedBytes : Nat) :
    1 ≤ uploadedBytes / q.partSize ∧ uploadedBytes / q.partSize ≤ 10000 ↔
      q.partSize ≤ uploadedBytes ∧ uploadedBytes < 10001 * q.partSize := by
  refine and_congr ?_ ?_
  · rw [Nat.le_div_iff_mul_le q.partSize_pos, Nat.one_mul]
  · rw [← Nat.lt_succ_iff, Nat.div_lt_iff_lt_mul q.partSize_pos]

/-- In every run, the next `UploadPart` request is within the limits exactly if
its part is an allowed one. -/
theorem part_limits_iff {q : UploadQueue} {w t : Upload} {outcome : Outcome}
    {size partNumber startingByte endingByte : Nat}
    (hw : (uploads q).Reachable w) (hpoint : w.point = .finishedLastPart size)
    (hstep : w.uploadLoop q outcome = some t) (hpart : t.point =
      .processMultiPartUploadPart partNumber startingByte endingByte) :
    WithinLimits partNumber (endingByte - startingByte)
        (w.finished = true ∧ endingByte = w.file.length) ↔ PartAllowed q w size := by
  have hnext := guarded_of_reachable hw size (.inr hpoint)
  rw [uploadLoop_finishedLastPart hpoint hnext] at hstep
  cases hstep
  obtain ⟨rfl, rfl, rfl⟩ := LoopPoint.processMultiPartUploadPart.inj hpart
  have hnumber := numbered_iff q w.uploadedBytes
  have hmin := q.minimum
  have hmax := q.maximum
  generalize hstart : w.uploadedBytes / q.partSize * q.partSize = start
  by_cases hrest : w.finished = true ∧ size < start + 2 * q.partSize
  · -- the part is the rest of what was seen, of which only the bounds are known
    rw [if_pos hrest]
    constructor
    · rintro ⟨hnumbered, hatMost, hatLeast⟩
      obtain ⟨hfirst, hfew⟩ := hnumber.mp hnumbered
      refine ⟨hfirst, hfew, fun _ _ => ?_⟩
      rw [hstart]
      exact ⟨hatMost, fun hmore => hatLeast fun hlast => hmore hlast.2⟩
    · rintro ⟨hfirst, hfew, hallowed⟩
      rw [hstart] at hallowed
      obtain ⟨hatMost, hatLeast⟩ := hallowed hrest.1 hrest.2
      exact ⟨hnumber.mpr ⟨hfirst, hfew⟩, hatMost, fun hmore =>
        hatLeast fun hsize => hmore ⟨hrest.1, hsize⟩⟩
  · -- the part is a full one, and the queue keeps its size within the limits
    rw [if_neg hrest, Nat.add_sub_cancel_left]
    constructor
    · rintro ⟨hnumbered, -, -⟩
      obtain ⟨hfirst, hfew⟩ := hnumber.mp hnumbered
      refine ⟨hfirst, hfew, fun hfinished hshort => ?_⟩
      rw [hstart] at hshort
      exact absurd ⟨hfinished, hshort⟩ hrest
    · rintro ⟨hfirst, hfew, -⟩
      exact ⟨hnumber.mpr ⟨hfirst, hfew⟩, hmax, fun _ => hmin⟩

structure Upload.AllUploaded (q : UploadQueue) (count : Nat) (w : Upload) : Prop where
  point : w.point = .processShouldAbort
  runs : w.shouldAbort = false
  unfinished : w.finished = false
  writable : w.writerClosed = false
  neverCounted : w.lastPart = 0
  length : w.file.length = count * q.partSize
  written : w.bytesWritten = count * q.partSize
  uploaded : w.uploadedBytes = count * q.partSize
  started : w.uploadID = none → count = 0

def Upload.fill (q : UploadQueue) (w : Upload) : Upload :=
  { w with
    file := w.file ++ List.replicate q.partSize 0
    bytesWritten := w.bytesWritten + q.partSize
    partAvailable := true }

namespace Upload.AllUploaded

variable {q : UploadQueue} {count : Nat} {w : Upload}

theorem length_fill (hw : w.AllUploaded q count) :
    (w.fill q).file.length = (count + 1) * q.partSize := by
  simp [Upload.fill, hw.length, Nat.succ_mul]

theorem room_fill (hw : w.AllUploaded q count) :
    (w.fill q).uploadedBytes + q.partSize ≤ (w.fill q).file.length := by
  rw [hw.length_fill, Nat.succ_mul]
  exact Nat.add_le_add_right (Nat.le_of_eq hw.uploaded) _

theorem run_fill (hw : w.AllUploaded q count) :
    (uploads q).runFrom w [.write (List.replicate q.partSize 0), .runOnPart] = some (w.fill q) := by
  have hpart : 0 < (w.bytesWritten + q.partSize) / q.partSize :=
    Nat.div_pos (Nat.le_add_left _ _) q.partSize_pos
  simp [TransitionSystem.runFrom, uploads, Upload.step, Upload.write, hw.writable,
    hw.neverCounted, hpart, Upload.markPartAvailable, Upload.fill]

theorem exists_next (hw : w.AllUploaded q count) :
    ∃ actions t, (uploads q).runFrom w actions = some t ∧ t.AllUploaded q (count + 1) := by
  have hfill := hw.run_fill
  have hlength := hw.length_fill
  have hnext : (count + 1) * q.partSize = count * q.partSize + q.partSize := Nat.succ_mul _ _
  have hwritten : w.bytesWritten + q.partSize = (count + 1) * q.partSize := by
    rw [hw.written, hnext]
  have hruns : ∀ {t : Upload}, t.shutdownExpired = w.shutdownExpired →
      t.failures = 0 → t.shouldAbort = false := by
    intro t hexpired hfailures
    have hruns := hw.runs
    simp only [Upload.shouldAbort, Bool.or_eq_false_iff] at hruns
    simp [Upload.shouldAbort, hexpired, hfailures, hruns.1.1]
  cases hid : w.uploadID with
  | none =>
    have hzero := hw.started hid
    subst hzero
    have hfirst := run_firstPart q (w := w.fill q) hw.point hw.runs rfl
      hw.unfinished hid (hw.uploaded.trans (Nat.zero_mul _)) (by omega)
    refine ⟨_, _, ((uploads q).runFrom_append hfill).trans hfirst, ?_⟩
    exact ⟨rfl, hruns rfl rfl, hw.unfinished, hw.writable, hw.neverCounted,
      hlength, hwritten, (Nat.one_mul _).symm, by simp⟩
  | some =>
    have hmore := run_nextPart q (w := w.fill q) hw.point hw.runs rfl
      hw.unfinished hid hw.uploaded hw.room_fill
    refine ⟨_, _, ((uploads q).runFrom_append hfill).trans hmore, ?_⟩
    exact ⟨rfl, hruns rfl rfl, hw.unfinished, hw.writable, hw.neverCounted,
      hlength, hwritten, rfl, by simp [Upload.fill, hid]⟩

end Upload.AllUploaded

theorem exists_allUploaded (q : UploadQueue) (count : Nat) :
    ∃ w, (uploads q).Reachable w ∧ w.AllUploaded q count := by
  induction count with
  | zero =>
    refine ⟨(uploads q).init, (uploads q).reachable_init, ?_⟩
    exact ⟨rfl, rfl, rfl, rfl, rfl, (Nat.zero_mul _).symm, (Nat.zero_mul _).symm,
      (Nat.zero_mul _).symm, fun _ => rfl⟩
  | succ count ih =>
    obtain ⟨w, hw, hall⟩ := ih
    obtain ⟨actions, t, hrun, ht⟩ := hall.exists_next
    exact ⟨t, hw.runFrom hrun, ht⟩

theorem exists_cut (q : UploadQueue) (count : Nat) :
    ∃ w size t, (uploads q).Reachable w ∧ w.point = .finishedLastPart size ∧
      w.uploadLoop q .succeeds = some t ∧
      t.point = .processMultiPartUploadPart count (count * q.partSize) ((count + 1) * q.partSize) ∧
      w.uploadedBytes = count * q.partSize ∧ w.finished = false := by
  obtain ⟨w, hw, hall⟩ := exists_allUploaded q count
  have hwoken := run_wake q (w := w.fill q) hall.point hall.runs rfl
  have hstart := run_finishedPart q (w := { w.fill q with
    partAvailable := false, point := .finishedSingle (w.fill q).file.length })
    rfl hall.unfinished hall.room_fill rfl
  have hreach := (hw.runFrom hall.run_fill).runFrom (run_loops hwoken hstart)
  obtain ⟨v, hv, hpoint, hbytes, hfinished⟩ : ∃ v, (uploads q).Reachable v ∧
      v.point = .finishedLastPart (w.fill q).file.length ∧
      v.uploadedBytes = count * q.partSize ∧ v.finished = false := by
    cases hid : w.uploadID with
    | none =>
      refine ⟨_, hreach.runFrom (run_create q (if_pos hid)), rfl, hall.uploaded, hall.unfinished⟩
    | some => exact ⟨_, hreach, if_neg (by simp [Upload.fill, hid]), hall.uploaded, hall.unfinished⟩
  have hnext := guarded_of_reachable hv _ (.inr hpoint)
  refine ⟨v, _, _, hv, hpoint, uploadLoop_finishedLastPart hpoint hnext .succeeds, ?_,
    hbytes, hfinished⟩
  simp only [hfinished, hbytes, Nat.mul_div_cancel _ q.partSize_pos, Nat.succ_mul,
    Bool.false_eq_true, false_and, if_false]

theorem part_limits_secondPart : ∃ w size t, (uploads (newUploadQueue 0)).Reachable w ∧
      w.point = .finishedLastPart size ∧ w.uploadLoop (newUploadQueue 0) .succeeds = some t ∧
      t.point = .processMultiPartUploadPart 1 5242880 10485760 ∧
      WithinLimits 1 5242880 (w.finished = true ∧ 10485760 = w.file.length) := by
  obtain ⟨w, size, t, hw, hpoint, hstep, hpart, hbytes, hfinished⟩ :=
    exists_cut (newUploadQueue 0) 1
  refine ⟨w, size, t, hw, hpoint, hstep, hpart, ?_⟩
  refine (part_limits_iff hw hpoint hstep hpart).mpr ⟨?_, ?_, ?_⟩
  · exact Nat.le_of_eq (hbytes.trans (Nat.one_mul _)).symm
  · rw [hbytes]
    exact Nat.mul_lt_mul_of_pos_right (by decide) (newUploadQueue 0).partSize_pos
  · simp [hfinished]

/-- The first part of every log has the number 0, and a log of more than 10001
parts has a part with the number 10001. -/
theorem part_numbers_off_limits : (∃ w size t, (uploads (newUploadQueue 0)).Reachable w ∧
      w.point = .finishedLastPart size ∧ w.uploadLoop (newUploadQueue 0) .succeeds = some t ∧
      t.point = .processMultiPartUploadPart 0 0 5242880 ∧
      ¬ WithinLimits 0 5242880 (w.finished = true ∧ 5242880 = w.file.length)) ∧
    (∃ w size t startingByte endingByte, (uploads (newUploadQueue 0)).Reachable w ∧
      w.point = .finishedLastPart size ∧ w.uploadLoop (newUploadQueue 0) .succeeds = some t ∧
      t.point = .processMultiPartUploadPart 10001 startingByte endingByte ∧
      ¬ WithinLimits 10001 (endingByte - startingByte)
        (w.finished = true ∧ endingByte = w.file.length)) := by
  constructor
  · obtain ⟨w, size, t, hw, hpoint, hstep, hpart, -, -⟩ := exists_cut (newUploadQueue 0) 0
    exact ⟨w, size, t, hw, hpoint, hstep, hpart, fun hlimits =>
      absurd hlimits.numbered.1 (by decide)⟩
  · obtain ⟨w, size, t, hw, hpoint, hstep, hpart, -, -⟩ := exists_cut (newUploadQueue 0) 10001
    exact ⟨w, size, t, _, _, hw, hpoint, hstep, hpart, fun hlimits =>
      absurd hlimits.numbered.2 (by decide)⟩

end ContainerSSH.S3
