/-
Whether the upload loop of a finished log comes to its end when every request succeeds.
-/
import ContainerSSH.S3Progress

namespace ContainerSSH.S3

def Action.isLoop : Action → Bool
  | .uploadLoop _ => true
  | _ => false

/-- Nothing more is written, no request fails and nobody shuts the queue down. -/
def Quiet (q : UploadQueue) (w : Upload) : Action → Prop
  | .uploadLoop outcome => outcome = .succeeds ∧
      ∀ t, w.uploadLoop q outcome = some t → t.point ≠ .iterationEnd true
  | .runOnPart => True
  | .runOnClose => True
  | _ => False

/-- The loop takes boundedly many steps and can go on until the file is removed. -/
structure Finishes (q : UploadQueue) (w : Upload) : Prop where
  bounded : ∃ bound, ∀ actions t, (uploads q).runFrom w actions = some t →
    (uploads q).Meets (Quiet q) w actions → actions.countP Action.isLoop ≤ bound
  live : ∀ actions t, (uploads q).runFrom w actions = some t →
    (uploads q).Meets (Quiet q) w actions →
    t.removed = true ∨ (t.uploadLoop q .succeeds).isSome = true

namespace Upload

def Whole (q : UploadQueue) (w : Upload) : Prop :=
  w.file ≠ [] ∧ ¬ Stuck q.partSize w.file w.finished w.uploadedBytes

def Settled (q : UploadQueue) (w : Upload) : Prop := w.shouldAbort = false ∧ w.Whole q

end Upload

inductive Advances (q : UploadQueue) (w : Upload) : Upload → Prop
  | aborts (store : Store) (hpoint : w.point = .processShouldAbort)
      (habort : w.shouldAbort = true) :
      Advances q w { w with store, queued := false, point := .ended }
  | begins (hpoint : w.point = .processShouldAbort) (habort : w.shouldAbort = false) :
      Advances q w { w with point := .waitPartAvailable }
  | wakes (hpoint : w.point = .waitPartAvailable) (havailable : w.partAvailable = true) :
      Advances q w { w with partAvailable := false, point := .stat }
  | sees (hpoint : w.point = .stat) : Advances q w { w with point := .finishedSingle w.file.length }
  | single (size : Nat) (hpoint : w.point = .finishedSingle size) (hzero : w.uploadedBytes = 0) :
      Advances q w { w with point := .processSingleUpload }
  | multipart (size : Nat) (hpoint : w.point = .finishedSingle size) (hsome : w.uploadedBytes ≠ 0) :
      Advances q w { w with point := .finishedPart size }
  | sends (store : Store) (readOffset : Nat) (hpoint : w.point = .processSingleUpload) :
      Advances q w { w with
        store, readOffset
        uploadedBytes := w.uploadedBytes + w.file.length
        point := .iterationEnd false }
  | initializes (size : Nat) (hpoint : w.point = .finishedPart size)
      (hless : w.uploadedBytes < size) :
      Advances q w { w with point := .initializeMultiPartUpload size }
  | continues (size : Nat) (hpoint : w.point = .finishedPart size)
      (hless : w.uploadedBytes < size) (hid : w.uploadID ≠ none) :
      Advances q w { w with point := .finishedLastPart size }
  | skips (size : Nat) (hpoint : w.point = .finishedPart size) (hnot : size ≤ w.uploadedBytes) :
      Advances q w { w with point := .finishedDone size }
  | creates (store : Store) (uploadID size : Nat)
      (hpoint : w.point = .initializeMultiPartUpload size) : Advances q w { w with
        store
        uploadID := some uploadID
        point := .finishedLastPart size }
  | chooses (size partNumber startingByte endingByte : Nat)
      (hpoint : w.point = .finishedLastPart size)
      (hpart : w.partRange q size true = (partNumber, startingByte, endingByte)) :
      Advances q w { w with
        point := .processMultiPartUploadPart partNumber startingByte endingByte }
  | uploads (store : Store) (partNumber startingByte endingByte : Nat) (hpoint : w.point =
        .processMultiPartUploadPart partNumber startingByte endingByte) : Advances q w { w with
        store
        uploadedBytes := w.uploadedBytes + (endingByte - startingByte)
        completedParts := w.completedParts ++ [partNumber]
        point := .iterationEnd false }
  | finalizes (size : Nat) (hpoint : w.point = .finishedDone size)
      (hdone : w.uploadedBytes = size) (hid : w.uploadID ≠ none) :
      Advances q w { w with point := .finalizeUpload }
  | sent (size : Nat) (hpoint : w.point = .finishedDone size) (hdone : w.uploadedBytes = size) :
      Advances q w { w with point := .remove }
  | idles (size : Nat) (hpoint : w.point = .finishedDone size) (hnot : w.uploadedBytes ≠ size) :
      Advances q w { w with point := .iterationEnd false }
  | completes (store : Store) (hpoint : w.point = .finalizeUpload) :
      Advances q w { w with store, point := .remove }
  | removes (hpoint : w.point = .remove) :
      Advances q w { w with removed := true, queued := false, point := .ended }
  | repeats (errorHappened : Bool) (hpoint : w.point = .iterationEnd errorHappened) :
      Advances q w { w with
        partAvailable := true
        failures := if errorHappened then w.failures + 1 else 0
        point := .processShouldAbort }

section
variable {q : UploadQueue} {w t : Upload}

theorem advances_of_uploadLoop (hfinished : w.finished = true)
    (hstep : w.uploadLoop q .succeeds = some t)
    (hsuccess : t.point ≠ .iterationEnd true) : Advances q w t := by
  cases hpoint : w.point <;>
    simp only [Upload.uploadLoop, hpoint, Option.map_eq_some_iff, reduceCtorEq] at hstep
  case processShouldAbort =>
    split_ifs at hstep with habort <;> cases hstep
    · exact .aborts _ hpoint habort
    · exact .begins hpoint (Bool.not_eq_true _ ▸ habort)
  case waitPartAvailable =>
    split_ifs at hstep with havailable
    cases hstep
    exact .wakes hpoint havailable
  case stat =>
    cases hstep
    exact .sees hpoint
  case finishedSingle size =>
    split_ifs at hstep with hsingle <;> cases hstep
    · exact .single size hpoint hsingle.2
    · exact .multipart size hpoint fun hzero => hsingle ⟨hfinished, hzero⟩
  case processSingleUpload =>
    simp only [Upload.processSingleUpload] at hstep
    split_ifs at hstep <;> cases hstep
    all_goals first
      | exact .sends _ _ hpoint
      | exact absurd rfl hsuccess
  case finishedPart size =>
    have hpos := q.partSize_pos
    split_ifs at hstep with hmore hnone <;> cases hstep
    · exact .initializes size hpoint (by omega)
    · exact .continues size hpoint (by omega) hnone
    · have hnot : ¬ ((size : Int) - w.uploadedBytes > 0) :=
        fun hless => hmore (.inl ⟨hfinished, hless⟩)
      exact .skips size hpoint (by omega)
  case initializeMultiPartUpload size =>
    cases hstep
    exact .creates _ _ size hpoint
  case finishedLastPart size =>
    cases hstep
    exact .chooses size _ _ _ hpoint (by rw [hfinished])
  case processMultiPartUploadPart partNumber startingByte endingByte =>
    obtain ⟨id, -, rfl⟩ := hstep
    exact .uploads _ partNumber startingByte endingByte hpoint
  case finishedDone size =>
    split_ifs at hstep with hdone hnone <;> cases hstep
    · exact .sent size hpoint (by omega)
    · exact .finalizes size hpoint (by omega) hnone
    · refine .idles size hpoint fun heq => hdone ⟨hfinished, ?_⟩
      omega
  case finalizeUpload =>
    obtain ⟨id, -, rfl⟩ := hstep
    split_ifs at hsuccess ⊢
    · exact .completes _ hpoint
    · exact absurd rfl hsuccess
  case remove =>
    cases hstep
    exact .removes hpoint
  case iterationEnd errorHappened =>
    have hagain : (w.partAvailable || errorHappened || w.finished) = true := by
      rw [hfinished, Bool.or_true]
    rw [hagain] at hstep
    cases hstep
    exact .repeats errorHappened hpoint

end

namespace Upload

def Identified (w : Upload) : LoopPoint → Prop
  | .finishedLastPart _ => w.uploadID ≠ none
  | .processMultiPartUploadPart _ _ _ => w.uploadID ≠ none
  | .finalizeUpload => w.uploadID ≠ none
  | _ => True

structure Ready (w : Upload) : Prop where
  available : w.point = .processShouldAbort ∨ w.point = .waitPartAvailable →
    w.finished = true → w.partAvailable = true
  identified : w.Identified w.point
  removed : w.removed = true → w.point = .ended

variable {q : UploadQueue} {w t : Upload}

theorem Ready.uploadLoop (hw : w.Ready) {outcome : Outcome}
    (hstep : w.uploadLoop q outcome = some t) : t.Ready := by
  obtain ⟨havailable, hidentified, hremoved⟩ := hw
  cases hpoint : w.point <;>
    simp only [Upload.uploadLoop, hpoint, Option.map_eq_some_iff, reduceCtorEq] at hstep hremoved
  case processShouldAbort =>
    split_ifs at hstep <;> cases hstep
    · exact ⟨by simp [abort], trivial, fun _ => rfl⟩
    · exact ⟨fun _ => havailable (.inl hpoint), trivial, by simpa using hremoved⟩
  case waitPartAvailable =>
    split_ifs at hstep
    cases hstep
    exact ⟨by simp, trivial, by simpa using hremoved⟩
  case remove =>
    cases hstep
    exact ⟨by simp, trivial, fun _ => rfl⟩
  case iterationEnd =>
    cases hstep
    exact ⟨fun _ hfinished => by simp_all, trivial, by simpa using hremoved⟩
  case processMultiPartUploadPart =>
    obtain ⟨id, -, rfl⟩ := hstep
    simp only [Upload.processMultiPartUploadPart]
    constructor <;> grind [Identified]
  case finalizeUpload =>
    obtain ⟨id, -, rfl⟩ := hstep
    constructor <;> grind [Identified]
  all_goals
    simp only [hpoint, Identified, Upload.processSingleUpload] at hidentified hstep
    constructor <;> grind [Identified]

theorem Ready.step (hw : w.Ready) {action : Action}
    (hstep : w.step q action = some t) : t.Ready := by
  obtain ⟨havailable, hidentified, hremoved⟩ := hw
  cases action with
  | uploadLoop => exact Ready.uploadLoop ⟨havailable, hidentified, hremoved⟩ hstep
  | runOnPart =>
    obtain ⟨-, ⟨⟩⟩ := Option.ite_none_left_eq_some.mp hstep
    exact ⟨fun _ _ => rfl, hidentified, hremoved⟩
  | runOnClose =>
    simp only [Upload.step, finish] at hstep
    split_ifs at hstep <;> cases hstep
    · exact ⟨fun _ _ => rfl, hidentified, hremoved⟩
    · exact ⟨havailable, hidentified, hremoved⟩
  | expire =>
    obtain ⟨-, ⟨⟩⟩ := Option.ite_none_right_eq_some.mp hstep
    exact ⟨havailable, hidentified, hremoved⟩
  | _ =>
    cases hstep
    exact ⟨havailable, hidentified, hremoved⟩

theorem ready_of_reachable (hw : (uploads q).Reachable w) : w.Ready :=
  hw.invariant ⟨by simp [uploads], trivial, by simp [uploads]⟩
    fun _ _ _ hold hstep => hold.step hstep

theorem Ready.isSome_uploadLoop (hw : w.Ready) (hfinished : w.finished = true)
    (hrunning : w.point ≠ .ended) : (w.uploadLoop q .succeeds).isSome = true := by
  obtain ⟨havailable, hidentified, -⟩ := hw
  cases hpoint : w.point with
  | ended => exact absurd hpoint hrunning
  | waitPartAvailable => simp [Upload.uploadLoop, hpoint, havailable (.inr hpoint) hfinished]
  | processMultiPartUploadPart | finalizeUpload =>
    simp only [Identified] at hidentified
    simpa [Upload.uploadLoop, hpoint, Option.isSome_iff_ne_none] using hidentified
  | _ =>
    simp only [Upload.uploadLoop, hpoint]
    repeat' split
    all_goals rfl

end Upload

section
variable {q : UploadQueue} {w t : Upload}

theorem stuck_part_iff {partNumber startingByte endingByte : Nat}
    (hfinished : w.finished = true) (hless : w.uploadedBytes < w.file.length)
    (hpart : w.partRange q w.file.length true = (partNumber, startingByte, endingByte)) :
    0 < endingByte - startingByte ∧ (Stuck q.partSize w.file w.finished
          (w.uploadedBytes + (endingByte - startingByte)) ↔
        Stuck q.partSize w.file w.finished w.uploadedBytes) := by
  rw [Upload.partRange_eq, Prod.mk.injEq, Prod.mk.injEq] at hpart
  obtain ⟨-, hstart, hend⟩ := hpart
  have hpos := q.partSize_pos
  have hdiv := Nat.div_add_mod w.uploadedBytes q.partSize
  have hmod := Nat.mod_lt w.uploadedBytes hpos
  rw [Nat.mul_comm] at hdiv
  rw [Nat.succ_mul, hstart] at hend
  split_ifs at hend with hlast
  · -- the part reaches up to the end of the file
    refine ⟨by omega, fun hstuck => ?_, fun hstuck => ?_⟩
    · have hnotDone := hstuck.notDone
      exact ⟨hfinished, by omega, fun _ => by omega⟩
    · have hoffset := hstuck.offset hless
      exact ⟨hfinished, by omega, fun _ => by omega⟩
  · -- a full part, with another one behind it
    have hroom : ¬ w.file.length - min (startingByte + q.partSize) w.file.length < q.partSize :=
      fun hshort => hlast ⟨rfl, hshort⟩
    have hjump : w.uploadedBytes + (endingByte - startingByte) = w.uploadedBytes + q.partSize := by
      omega
    rw [hjump]
    refine ⟨by omega, fun hstuck => ?_, fun hstuck => ?_⟩
    · have hoffset := hstuck.offset (by omega)
      rw [Nat.add_mod_right] at hoffset
      exact ⟨hfinished, by omega, fun _ => hoffset⟩
    · have hoffset := hstuck.offset hless
      refine ⟨hfinished, by omega, fun _ => ?_⟩
      rwa [Nat.add_mod_right]

def FreshPoint (q : UploadQueue) (w : Upload) : LoopPoint → Prop
  | .processShouldAbort => w.shouldAbort = false
  | .waitPartAvailable => True
  | .stat => True
  | .finishedSingle size => size = w.file.length
  | .processSingleUpload => w.uploadedBytes = 0
  | .finishedPart size => size = w.file.length ∧ w.uploadedBytes ≠ 0
  | .initializeMultiPartUpload size =>
    size = w.file.length ∧ w.uploadedBytes ≠ 0 ∧ w.uploadedBytes < w.file.length
  | .finishedLastPart size =>
    size = w.file.length ∧ w.uploadedBytes ≠ 0 ∧ w.uploadedBytes < w.file.length
  | .processMultiPartUploadPart partNumber startingByte endingByte =>
    w.partRange q w.file.length true = (partNumber, startingByte, endingByte) ∧
      w.uploadedBytes ≠ 0 ∧ w.uploadedBytes < w.file.length
  | .finishedDone size =>
    size = w.file.length ∧ w.uploadedBytes ≠ 0 ∧ w.file.length ≤ w.uploadedBytes
  | .finalizeUpload => w.uploadedBytes = w.file.length ∧ w.uploadedBytes ≠ 0
  | .remove => w.uploadedBytes = w.file.length ∧ w.uploadedBytes ≠ 0
  | .iterationEnd errorHappened => errorHappened = false
  | .ended => w.removed = true ∧ w.uploadedBytes = w.file.length ∧ w.uploadedBytes ≠ 0

structure Fresh (q : UploadQueue) (w : Upload) : Prop where
  finished : w.finished = true
  calm : w.shutdownExpired = false
  point : FreshPoint q w w.point

def LoopPoint.rank : LoopPoint → Nat
  | .ended => 0
  | .remove => 1
  | .finalizeUpload => 2
  | .finishedDone _ => 3
  | .processMultiPartUploadPart _ _ _ => 4
  | .finishedLastPart _ => 5
  | .initializeMultiPartUpload _ => 6
  | .processSingleUpload => 6
  | .finishedPart _ => 7
  | .finishedSingle _ => 8
  | .stat => 9
  | .waitPartAvailable => 10
  | .processShouldAbort => 11
  | .iterationEnd _ => 12

def Upload.remaining (w : Upload) : Nat := 13 * (w.file.length - w.uploadedBytes) + w.point.rank

theorem whole_of_done (hdone : w.uploadedBytes = w.file.length)
    (hsome : w.uploadedBytes ≠ 0) : w.Whole q := by
  refine ⟨fun hempty => hsome ?_, fun hstuck => hstuck.notDone hdone⟩
  rw [hdone, hempty, List.length_nil]

theorem whole_iff_of_zero (hzero : w.uploadedBytes = 0) : w.Whole q ↔ w.file ≠ [] := by
  refine ⟨fun hwhole => hwhole.1, fun hfile => ⟨hfile, fun hstuck => ?_⟩⟩
  have hpos := List.length_pos_iff.mpr hfile
  refine hstuck.offset (by omega) ?_
  rw [hzero, Nat.zero_mod]

theorem Fresh.advances (hw : Fresh q w) (hstep : Advances q w t) :
    Fresh q t ∧ t.file = w.file ∧ (t.Whole q ↔ w.Whole q) := by
  obtain ⟨hfinished, hcalm, hpoint⟩ := hw
  cases hstep with
  | aborts store hat habort => simp [hat, FreshPoint, habort] at hpoint
  | sends store readOffset hat =>
    rw [hat] at hpoint
    refine ⟨⟨hfinished, hcalm, rfl⟩, rfl, ?_⟩
    rw [whole_iff_of_zero hpoint]
    constructor
    · exact fun hwhole => hwhole.1
    · intro hfile
      have hzero : w.uploadedBytes = 0 := hpoint
      apply whole_of_done
      · simp [hzero]
      · simp [hfile]
  | uploads store partNumber startingByte endingByte hat =>
    rw [hat] at hpoint
    obtain ⟨hpart, hsome, hless⟩ := hpoint
    exact ⟨⟨hfinished, hcalm, rfl⟩, rfl, and_congr_right fun _ =>
        not_congr (stuck_part_iff hfinished hless hpart).2⟩
  | begins | wakes => exact ⟨⟨hfinished, hcalm, trivial⟩, rfl, Iff.rfl⟩
  | sees | idles => exact ⟨⟨hfinished, hcalm, rfl⟩, rfl, Iff.rfl⟩
  | single size hat hzero => exact ⟨⟨hfinished, hcalm, hzero⟩, rfl, Iff.rfl⟩
  | multipart size hat hsome =>
    rw [hat] at hpoint
    exact ⟨⟨hfinished, hcalm, hpoint, hsome⟩, rfl, Iff.rfl⟩
  | initializes size hat hless
  | continues size hat hless hid =>
    rw [hat] at hpoint
    exact ⟨⟨hfinished, hcalm, hpoint.1, hpoint.2, hpoint.1 ▸ hless⟩, rfl, Iff.rfl⟩
  | skips size hat hnot =>
    rw [hat] at hpoint
    exact ⟨⟨hfinished, hcalm, hpoint.1, hpoint.2, hpoint.1 ▸ hnot⟩, rfl, Iff.rfl⟩
  | creates store uploadID size hat | completes store hat =>
    rw [hat] at hpoint
    exact ⟨⟨hfinished, hcalm, hpoint⟩, rfl, Iff.rfl⟩
  | chooses size partNumber startingByte endingByte hat hpart =>
    rw [hat] at hpoint
    exact ⟨⟨hfinished, hcalm, hpoint.1 ▸ hpart, hpoint.2⟩, rfl, Iff.rfl⟩
  | finalizes size hat hdone | sent size hat hdone =>
    rw [hat] at hpoint
    exact ⟨⟨hfinished, hcalm, hdone.trans hpoint.1, hpoint.2.1⟩, rfl, Iff.rfl⟩
  | removes hat =>
    rw [hat] at hpoint
    exact ⟨⟨hfinished, hcalm, rfl, hpoint⟩, rfl, Iff.rfl⟩
  | repeats errorHappened hat =>
    rw [hat] at hpoint
    have hnone : errorHappened = false := hpoint
    exact ⟨⟨hfinished, hcalm, by simp [FreshPoint, Upload.shouldAbort, hnone, hcalm]⟩, rfl, Iff.rfl⟩

theorem Fresh.remaining_lt (hw : Fresh q w) (hwhole : w.Whole q)
    (hstep : Advances q w t) : t.remaining < w.remaining := by
  have hpoint := hw.point
  cases hstep with
  | sends store readOffset hat =>
    rw [hat] at hpoint
    have hzero : w.uploadedBytes = 0 := hpoint
    have hpos := List.length_pos_iff.mpr hwhole.1
    simp only [Upload.remaining, LoopPoint.rank]
    omega
  | uploads store partNumber startingByte endingByte hat =>
    rw [hat] at hpoint
    obtain ⟨hpart, hsome, hless⟩ := hpoint
    have hforward := (stuck_part_iff hw.finished hless hpart).1
    simp only [Upload.remaining, LoopPoint.rank]
    omega
  | idles size hat hnot =>
    -- the bytes that are left would have been uploaded
    rw [hat] at hpoint
    obtain ⟨hsize, hsome, hover⟩ := hpoint
    refine absurd ⟨hw.finished, hsize ▸ hnot, fun hless => ?_⟩ hwhole.2
    omega
  | _ => simp_all [Upload.remaining, LoopPoint.rank]

theorem Fresh.exists_uploadLoop (hw : Fresh q w) (hready : w.Ready) (hnot : ¬ w.Whole q) :
    ∃ t, w.uploadLoop q .succeeds = some t ∧ t.point ≠ .iterationEnd true := by
  obtain ⟨hfinished, -, hpoint⟩ := hw
  have hrunning : w.point ≠ .ended := by
    intro hat
    rw [hat] at hpoint
    exact hnot (whole_of_done hpoint.2.1 hpoint.2.2)
  obtain ⟨t, hstep⟩ := Option.isSome_iff_exists.mp
    (hready.isSome_uploadLoop (q := q) hfinished hrunning)
  refine ⟨t, hstep, ?_⟩
  cases hat : w.point with
  | processSingleUpload =>
    rw [hat] at hpoint
    have hempty : w.file = [] := by
      by_contra hfile
      exact hnot ((whole_iff_of_zero hpoint).mpr hfile)
    simp only [Upload.uploadLoop, hat, Upload.processSingleUpload, Upload.request, hempty] at hstep
    cases hstep
    simp
  | finalizeUpload | remove =>
    rw [hat] at hpoint
    exact absurd (whole_of_done hpoint.1 hpoint.2) hnot
  | processMultiPartUploadPart partNumber startingByte endingByte =>
    simp only [Upload.uploadLoop, hat, Option.map_eq_some_iff] at hstep
    obtain ⟨id, -, rfl⟩ := hstep
    simp [Upload.processMultiPartUploadPart, Upload.request]
  | _ =>
    simp only [Upload.uploadLoop, hat, Upload.request] at hstep
    grind [Upload.abort]

end

section
variable {q : UploadQueue} {w t : Upload}

inductive QuietStep (q : UploadQueue) (w : Upload) : Upload → Bool → Prop
  | loop (t : Upload) (hstep : Advances q w t) : QuietStep q w t true
  | other (partAvailable : Bool) (onPart onClose : Nat)
      (havailable : w.partAvailable = true → partAvailable = true) :
      QuietStep q w { w with partAvailable, onPart, onClose } false

theorem quietStep_of_step {action : Action} (hfinished : w.finished = true)
    (hquiet : Quiet q w action) (hstep : (uploads q).step w action = some t) :
    QuietStep q w t action.isLoop := by
  cases action with
  | uploadLoop =>
    obtain ⟨rfl, hsuccess⟩ := hquiet
    exact .loop t (advances_of_uploadLoop hfinished hstep (hsuccess t hstep))
  | runOnPart =>
    obtain ⟨-, ⟨⟩⟩ := Option.ite_none_left_eq_some.mp hstep
    exact .other true _ _ fun _ => rfl
  | runOnClose =>
    simp only [uploads, Upload.step, Upload.finish, Upload.markPartAvailable] at hstep
    split_ifs at hstep <;> cases hstep
    · have hsame : ({ w with
            onClose := w.onClose - 1
            finished := true
            partAvailable := true } : Upload) =
          { w with partAvailable := true, onClose := w.onClose - 1 } := by
        simp [hfinished]
      exact hsame ▸ .other true _ _ fun _ => rfl
    · exact .other _ _ _ id
  | _ => exact absurd hquiet id

variable {isLoop : Bool}

theorem Fresh.quietStep (hw : Fresh q w) (hstep : QuietStep q w t isLoop) :
    Fresh q t ∧ (t.Whole q ↔ w.Whole q) := by
  cases hstep with
  | loop t hstep =>
    obtain ⟨ht, -, hwhole⟩ := hw.advances hstep
    exact ⟨ht, hwhole⟩
  | other => exact ⟨⟨hw.finished, hw.calm, hw.point⟩, Iff.rfl⟩

def LoopPoint.toStart : LoopPoint → Nat
  | .processShouldAbort => 0
  | .ended => 0
  | .iterationEnd _ => 1
  | point => point.rank + 1

theorem toStart_lt (hstep : Advances q w t) (hstart : w.point ≠ .processShouldAbort) :
    t.file = w.file ∧ t.point.toStart < w.point.toStart := by
  cases hstep <;> simp_all [LoopPoint.toStart, LoopPoint.rank]

def Hopeful (q : UploadQueue) (w : Upload) : Prop :=
  ∀ actions t, (uploads q).runFrom w actions = some t → (uploads q).Meets (Quiet q) w actions →
    t.point = .processShouldAbort → t.Settled q

theorem Hopeful.step {action : Action} (hw : Hopeful q w)
    (hquiet : Quiet q w action) (hstep : (uploads q).step w action = some t) : Hopeful q t := by
  intro actions r hrun hmeets
  exact hw (action :: actions) r ((uploads q).runFrom_cons_eq_some.mpr ⟨t, hstep, hrun⟩)
    ((uploads q).meets_cons hquiet hstep hmeets)

theorem fresh_of_start (hfinished : w.finished = true)
    (hstart : w.point = .processShouldAbort) (habort : w.shouldAbort = false) : Fresh q w where
  finished := hfinished
  calm := by
    simp only [Upload.shouldAbort, Bool.or_eq_false_iff] at habort
    exact habort.1.1
  point := by
    rw [hstart]
    exact habort

open Classical in
noncomputable def stepBound (q : UploadQueue) (w : Upload) : Nat :=
  if Fresh q w ∧ w.Whole q then w.remaining
  else w.point.toStart + 13 * (w.file.length + 1)

theorem stepBound_le (q : UploadQueue) (w : Upload) :
    stepBound q w ≤ w.point.toStart + 13 * (w.file.length + 1) := by
  unfold stepBound
  split
  · have hrank : w.point.rank ≤ 12 := by cases w.point <;> simp [LoopPoint.rank]
    simp only [Upload.remaining]
    omega
  · exact Nat.le_refl _

theorem stepBound_quietStep (hfinished : w.finished = true) (hhope : Hopeful q w)
    (hstep : QuietStep q w t isLoop) : stepBound q t + isLoop.toNat ≤ stepBound q w := by
  by_cases hw : Fresh q w ∧ w.Whole q
  · have ht := hw.1.quietStep hstep
    rw [stepBound, stepBound, if_pos hw, if_pos ⟨ht.1, ht.2.mpr hw.2⟩]
    cases hstep with
    | loop t hstep => exact hw.1.remaining_lt hw.2 hstep
    | other => exact Nat.le_refl _
  · have hstart : w.point ≠ .processShouldAbort := by
      intro hstart
      have hsettled := hhope [] w rfl trivial hstart
      exact hw ⟨fresh_of_start hfinished hstart hsettled.1, hsettled.2⟩
    have hle := stepBound_le q t
    have hbound : stepBound q w = w.point.toStart + 13 * (w.file.length + 1) := if_neg hw
    rw [hbound]
    cases hstep with
    | loop t hstep =>
      obtain ⟨hfile, hless⟩ := toStart_lt hstep hstart
      rw [hfile] at hle
      simp only [Bool.toNat_true]
      omega
    | other => exact hle

theorem finished_quietStep (hstep : QuietStep q w t isLoop) : t.finished = w.finished := by
  cases hstep with
  | loop t hstep => cases hstep <;> rfl
  | other => rfl

variable {actions : List Action}

theorem bounded_of_hopeful (hfinished : w.finished = true) (hhope : Hopeful q w)
    (hrun : (uploads q).runFrom w actions = some t)
    (hmeets : (uploads q).Meets (Quiet q) w actions) :
    actions.countP Action.isLoop ≤ stepBound q w := by
  have hstep : ∀ w a t, (w.finished = true ∧ Hopeful q w) → Quiet q w a →
      (uploads q).step w a = some t → (t.finished = true ∧ Hopeful q t) ∧
        stepBound q t + a.isLoop.toNat ≤ stepBound q w := by
    rintro w a t ⟨hfinished, hhope⟩ hquiet hstep
    have hqs := quietStep_of_step hfinished hquiet hstep
    exact ⟨⟨(finished_quietStep hqs).trans hfinished, hhope.step hquiet hstep⟩,
      stepBound_quietStep hfinished hhope hqs⟩
  have hcount := (uploads q).runFrom_measure hstep ⟨hfinished, hhope⟩ hmeets hrun
  omega

theorem removed_quietStep (hhope : Hopeful q w) (hremoved : w.point = .ended → w.removed = true)
    (hstep : QuietStep q w t isLoop) : t.point = .ended → t.removed = true := by
  cases hstep with
  | loop t hadvances =>
    cases hadvances with
    | aborts store hat habort =>
      have hsettled := hhope [] w rfl trivial hat
      rw [hsettled.1] at habort
      exact absurd habort Bool.false_ne_true
    | removes => exact fun _ => rfl
    | _ => simp
  | other => exact hremoved

theorem removed_of_hopeful (hfinished : w.finished = true) (hhope : Hopeful q w)
    (hrunning : w.point ≠ .ended) (hrun : (uploads q).runFrom w actions = some t)
    (hmeets : (uploads q).Meets (Quiet q) w actions) :
    t.finished = true ∧ (t.point = .ended → t.removed = true) := by
  have hstep : ∀ w a t, (w.finished = true ∧ Hopeful q w ∧
        (w.point = .ended → w.removed = true)) → Quiet q w a → (uploads q).step w a = some t →
      t.finished = true ∧ Hopeful q t ∧ (t.point = .ended → t.removed = true) := by
    rintro w a t ⟨hfinished, hhope, hremoved⟩ hquiet hstep
    have hqs := quietStep_of_step hfinished hquiet hstep
    exact ⟨(finished_quietStep hqs).trans hfinished, hhope.step hquiet hstep,
      removed_quietStep hhope hremoved hqs⟩
  have hinv := (uploads q).runFrom_invariant_of_meets hstep
    ⟨hfinished, hhope, fun hended => absurd hended hrunning⟩ hmeets hrun
  exact ⟨hinv.1, hinv.2.2⟩

theorem Finishes.runFrom (hw : Finishes q w) (hrun : (uploads q).runFrom w actions = some t)
    (hmeets : (uploads q).Meets (Quiet q) w actions) : Finishes q t := by
  obtain ⟨⟨bound, hbound⟩, hlive⟩ := hw
  refine ⟨⟨bound, fun rest r hrest hquiet => ?_⟩, fun rest r hrest hquiet => ?_⟩
  · have hcount := hbound (actions ++ rest) r (((uploads q).runFrom_append hrun).trans hrest)
      (hmeets.append hrun hquiet)
    rw [List.countP_append] at hcount
    omega
  · exact hlive (actions ++ rest) r (((uploads q).runFrom_append hrun).trans hrest)
      (hmeets.append hrun hquiet)

theorem not_finishes_of_shouldAbort (hready : w.Ready)
    (hstart : w.point = .processShouldAbort) (habort : w.shouldAbort = true) : ¬ Finishes q w := by
  intro hw
  have hstep : w.uploadLoop q .succeeds = some (w.abort .succeeds) := by
    simp [Upload.uploadLoop, hstart, habort]
  have hquiet : Quiet q w (.uploadLoop .succeeds) := by
    refine ⟨rfl, fun t ht => ?_⟩
    rw [hstep, Option.some.injEq] at ht
    simp [← ht, Upload.abort]
  have hlive := hw.live [.uploadLoop .succeeds] (w.abort .succeeds)
    ((uploads q).runFrom_cons_eq_some.mpr ⟨_, hstep, rfl⟩)
    ((uploads q).meets_cons hquiet hstep trivial)
  rcases hlive with hremoved | hnext
  · have hended := hready.removed hremoved
    rw [hstart] at hended
    cases hended
  · simp [Upload.abort, Upload.uploadLoop] at hnext

theorem exists_long_run (hfresh : Fresh q w) (hready : w.Ready) (hnot : ¬ w.Whole q) (count : Nat) :
    ∃ actions t, (uploads q).runFrom w actions = some t ∧ (uploads q).Meets (Quiet q) w actions ∧
      actions.countP Action.isLoop = count := by
  have hstep : ∀ w, (Fresh q w ∧ w.Ready ∧ ¬ w.Whole q) →
      ∃ a t, a.isLoop = true ∧ Quiet q w a ∧ (uploads q).step w a = some t ∧
        (Fresh q t ∧ t.Ready ∧ ¬ t.Whole q) := by
    rintro w ⟨hfresh, hready, hnot⟩
    obtain ⟨t, hloop, hsuccess⟩ := hfresh.exists_uploadLoop hready hnot
    have hadvances := advances_of_uploadLoop hfresh.finished hloop hsuccess
    obtain ⟨ht, -, hwhole⟩ := hfresh.advances hadvances
    refine ⟨.uploadLoop .succeeds, t, rfl, ⟨rfl, fun r hr => ?_⟩, hloop, ht,
      hready.uploadLoop hloop, hwhole.not.mpr hnot⟩
    rw [hloop, Option.some.injEq] at hr
    exact hr ▸ hsuccess
  obtain ⟨actions, t, hrun, hmeets, hcount, -⟩ :=
    (uploads q).exists_runFrom_of_step hstep ⟨hfresh, hready, hnot⟩ count
  exact ⟨actions, t, hrun, hmeets, hcount⟩

theorem settled_of_finishes (hw : Finishes q w) (hready : w.Ready)
    (hfinished : w.finished = true) (hstart : w.point = .processShouldAbort) : w.Settled q := by
  have habort : w.shouldAbort = false := by
    by_contra habort
    exact not_finishes_of_shouldAbort hready hstart (Bool.not_eq_false _ ▸ habort) hw
  refine ⟨habort, ?_⟩
  by_contra hnot
  obtain ⟨bound, hbound⟩ := hw.bounded
  obtain ⟨actions, t, hrun, hmeets, hcount⟩ :=
    exists_long_run (fresh_of_start hfinished hstart habort) hready hnot (bound + 1)
  have hle := hbound actions t hrun hmeets
  omega

theorem finishes_of_hopeful (hw : (uploads q).Reachable w)
    (hfinished : w.finished = true) (hrunning : w.point ≠ .ended)
    (hhope : Hopeful q w) : Finishes q w where
  bounded := ⟨stepBound q w, fun _ _ hrun hmeets =>
    bounded_of_hopeful hfinished hhope hrun hmeets⟩
  live := by
    intro actions t hrun hmeets
    obtain ⟨hfinished, hremoved⟩ := removed_of_hopeful hfinished hhope hrunning hrun hmeets
    by_cases hended : t.point = .ended
    · exact .inl (hremoved hended)
    · have hready := Upload.ready_of_reachable (hw.runFrom hrun)
      exact .inr (hready.isSome_uploadLoop hfinished hended)

theorem finished_runFrom (hfinished : w.finished = true)
    (hrun : (uploads q).runFrom w actions = some t)
    (hmeets : (uploads q).Meets (Quiet q) w actions) : t.finished = true := by
  have hstep : ∀ w a t, w.finished = true → Quiet q w a →
      (uploads q).step w a = some t → t.finished = true :=
    fun w a t hfinished hquiet hstep =>
      (finished_quietStep (quietStep_of_step hfinished hquiet hstep)).trans hfinished
  exact (uploads q).runFrom_invariant_of_meets hstep hfinished hmeets hrun

theorem hopeful_of_settled (hw : w.Settled q) (hfinished : w.finished = true)
    (hstart : w.point = .processShouldAbort) : Hopeful q w := by
  intro actions t hrun hmeets hat
  have hstep : ∀ w a t, (Fresh q w ∧ w.Whole q) → Quiet q w a →
      (uploads q).step w a = some t → Fresh q t ∧ t.Whole q := by
    rintro w a t ⟨hfresh, hwhole⟩ hquiet hstep
    have ht := hfresh.quietStep (quietStep_of_step hfresh.finished hquiet hstep)
    exact ⟨ht.1, ht.2.mpr hwhole⟩
  obtain ⟨hfresh, hwhole⟩ := (uploads q).runFrom_invariant_of_meets hstep
    ⟨fresh_of_start hfinished hstart hw.1, hw.2⟩ hmeets hrun
  have hpoint := hfresh.point
  rw [hat] at hpoint
  exact ⟨hpoint, hwhole⟩

/-- The loop of a finished log ends, if every call succeeds, exactly if every
iteration that it comes to begins well; and if one does, so do the others. -/
theorem finishes_iff_settled (hw : (uploads q).Reachable w)
    (hfinished : w.finished = true) (hrunning : w.point ≠ .ended) : (Finishes q w ↔
      ∀ actions t, (uploads q).runFrom w actions = some t → (uploads q).Meets (Quiet q) w actions →
        t.point = .processShouldAbort → t.Settled q) ∧
      (w.point = .processShouldAbort → (Finishes q w ↔ w.Settled q)) := by
  constructor
  · constructor
    · intro hfinishes actions t hrun hmeets hstart
      exact settled_of_finishes (hfinishes.runFrom hrun hmeets)
        (Upload.ready_of_reachable (hw.runFrom hrun))
        (finished_runFrom hfinished hrun hmeets) hstart
    · exact finishes_of_hopeful hw hfinished hrunning
  · intro hstart
    constructor
    · intro hfinishes
      exact settled_of_finishes hfinishes (Upload.ready_of_reachable hw) hfinished hstart
    · intro hsettled
      exact finishes_of_hopeful hw hfinished hrunning (hopeful_of_settled hsettled hfinished hstart)

end

theorem one_byte_finishes :
    ∃ w, (uploads (newUploadQueue 0)).run [.write [1], .close, .runOnClose] =
        some w ∧ w.finished = true ∧ Finishes (newUploadQueue 0) w := by
  have hrun : ∃ w, (uploads (newUploadQueue 0)).run
      [.write [1], .close, .runOnClose] = some w ∧ w.finished = true ∧
      w.point = .processShouldAbort ∧ w.shouldAbort = false ∧
      w.file = [1] ∧ w.uploadedBytes = 0 := ⟨_, rfl, rfl, rfl, rfl, rfl, rfl⟩
  obtain ⟨w, hrun, hfinished, hstart, habort, hfile, hzero⟩ := hrun
  have hsettled : w.Settled (newUploadQueue 0) :=
    ⟨habort, (whole_iff_of_zero hzero).mpr (by simp [hfile])⟩
  have hiff := finishes_iff_settled ⟨_, hrun⟩ hfinished (by simp [hstart])
  exact ⟨w, hrun, hfinished, (hiff.2 hstart).mpr hsettled⟩

/-- Nothing is written before the log is closed: after an iteration in which
everything succeeds, the loop is where it was. -/
theorem empty_log_loops : ∃ w, (uploads (newUploadQueue 0)).run
        ([.close, .runOnClose] ++ List.replicate 6 (.uploadLoop .succeeds)) = some w ∧
      w.finished = true ∧ w.file = [] ∧ w.removed = false ∧ (uploads (newUploadQueue 0)).runFrom w
        (List.replicate 6 (.uploadLoop .succeeds)) = some w ∧ ¬ Finishes (newUploadQueue 0) w := by
  refine TransitionSystem.exists_run _ rfl fun w hrun => ?_
  have hready := Upload.ready_of_reachable ⟨_, hrun⟩
  rw [← Option.some.inj hrun] at hready ⊢
  exact ⟨rfl, rfl, rfl, rfl, fun hw => (settled_of_finishes hw hready rfl rfl).2.1 rfl⟩

end ContainerSSH.S3
