/-
The upload of one audit log to S3: the monitoring writer that fills the local file, the queue
entry and the upload loop.
-/
import ContainerSSH.NumberedParts
import ContainerSSH.TransitionSystem

namespace ContainerSSH.S3

abbrev Bytes := List UInt8

def minPartSize : Nat := 5 * 1024 * 1024

def maxPartSize : Nat := 5 * 1024 * 1024 * 1024

structure UploadQueue where
  partSize : Nat
  minimum : minPartSize ≤ partSize
  maximum : partSize ≤ maxPartSize

def newUploadQueue (partSize : Nat) : UploadQueue where
  partSize := min (max partSize minPartSize) maxPartSize
  minimum := by
    simp only [minPartSize, maxPartSize]
    omega
  maximum := Nat.min_le_right _ _

structure Store where
  object : Option Bytes := none
  created : Nat := 0
  parts : Nat → Nat → Option Bytes := fun _ _ => none

namespace Store

variable (s : Store)

def putObject (body : Bytes) : Store := { s with object := some body }

def createMultipartUpload : Store × Nat :=
  ({ s with
      created := s.created + 1
      parts := fun id => if id = s.created then fun _ => none else s.parts id },
    s.created)

def uploadPart (uploadID number : Nat) (body : Bytes) : Store :=
  { s with parts := fun id n => if id = uploadID ∧ n = number then some body else s.parts id n }

def completeMultipartUpload (uploadID : Nat) (numbers : List Nat) :
    Option Store :=
  if numbers = [] then none
  else
    (NumberedParts.assemble (s.parts uploadID) numbers).map fun body =>
      { s with object := some body }

def abortMultipartUpload (uploadID : Nat) : Store :=
  { s with parts := fun id => if id = uploadID then fun _ => none else s.parts id }

end Store

inductive Outcome where
  | succeeds
  | fails (consumed : Nat)
  | failsAfterEffect (consumed : Nat)

inductive LoopPoint where
  | processShouldAbort
  | waitPartAvailable
  | stat
  | finishedSingle (size : Nat)
  | processSingleUpload
  | finishedPart (size : Nat)
  | initializeMultiPartUpload (size : Nat)
  | finishedLastPart (size : Nat)
  | processMultiPartUploadPart (partNumber startingByte endingByte : Nat)
  | finishedDone (size : Nat)
  | finalizeUpload
  | remove
  | iterationEnd (errorHappened : Bool)
  | ended
deriving DecidableEq

def LoopPoint.size? : LoopPoint → Option Nat
  | .finishedSingle size => some size
  | .finishedPart size => some size
  | .initializeMultiPartUpload size => some size
  | .finishedLastPart size => some size
  | .finishedDone size => some size
  | _ => none

structure Upload where
  file : Bytes := []
  writerClosed : Bool := false
  bytesWritten : Nat := 0
  lastPart : Nat := 0
  onPart : Nat := 0
  onClose : Nat := 0
  finished : Bool := false
  partAvailable : Bool := false
  readOffset : Nat := 0
  queued : Bool := true
  removed : Bool := false
  ctxDone : Bool := false
  shutdownExpired : Bool := false
  uploadID : Option Nat := none
  uploadedBytes : Nat := 0
  completedParts : List Nat := []
  failures : Nat := 0
  point : LoopPoint := .processShouldAbort
  store : Store := {}

namespace Upload

variable (q : UploadQueue) (w : Upload)

def write (data : Bytes) : Upload :=
  let written := if w.writerClosed then [] else data
  let bytesWritten := w.bytesWritten + written.length
  { w with
    file := w.file ++ written
    bytesWritten
    onPart := if bytesWritten / q.partSize > w.lastPart then w.onPart + 1 else w.onPart }

def close : Upload := { w with writerClosed := true, onClose := w.onClose + 1 }

def markPartAvailable : Upload := { w with partAvailable := true }

def finish : Upload := if w.queued then { w with finished := true }.markPartAvailable else w

def partRange (size : Nat) (finished : Bool) : Nat × Nat × Nat :=
  let partNumber := w.uploadedBytes / q.partSize
  let startingByte := partNumber * q.partSize
  let endingByte := min ((partNumber + 1) * q.partSize) size
  if finished ∧ size - endingByte < q.partSize then (partNumber, startingByte, size)
  else (partNumber, startingByte, endingByte)

def request (effect : Option Store) : Outcome → Store × Bool
  | .succeeds => (effect.getD w.store, effect.isSome)
  | .fails _ => (w.store, false)
  | .failsAfterEffect _ => (effect.getD w.store, false)

def processSingleUpload (outcome : Outcome) : Upload :=
  let contentLength := w.file.length
  let body := w.file.drop w.readOffset
  let effect := if body.length = contentLength then some (w.store.putObject body) else none
  let (store, ok) := w.request effect outcome
  let readOffset :=
    match outcome with
    | .succeeds => w.file.length
    | .fails consumed => consumed
    | .failsAfterEffect consumed => consumed
  if ok then
    { w with
      store, readOffset
      uploadedBytes := w.uploadedBytes + contentLength
      point := .iterationEnd false }
  else { w with store, readOffset, point := .iterationEnd true }

def processMultiPartUploadPart (uploadID partNumber startingByte endingByte : Nat)
    (outcome : Outcome) : Upload :=
  let body := (w.file.drop startingByte).take (endingByte - startingByte)
  let (store, ok) := w.request (some (w.store.uploadPart uploadID partNumber body)) outcome
  if ok then
    { w with
      store
      uploadedBytes := w.uploadedBytes + (endingByte - startingByte)
      completedParts := w.completedParts ++ [partNumber]
      point := .iterationEnd false }
  else { w with store, point := .iterationEnd false }

def shouldAbort : Bool := w.shutdownExpired || w.failures > 20 || (w.failures > 3 && w.ctxDone)

def abort (outcome : Outcome) : Upload :=
  let effect := w.uploadID.map w.store.abortMultipartUpload
  { w with store := (w.request effect outcome).1, queued := false, point := .ended }

def uploadLoop (outcome : Outcome) : Option Upload :=
  match w.point with
  | .processShouldAbort =>
    if w.shouldAbort then some (w.abort outcome)
    else some { w with point := .waitPartAvailable }
  | .waitPartAvailable =>
    if w.partAvailable then some { w with partAvailable := false, point := .stat }
    else none
  | .stat =>
    match outcome with
    | .succeeds => some { w with point := .finishedSingle w.file.length }
    | _ => some { w with point := .iterationEnd true }
  | .finishedSingle size =>
    if w.finished ∧ w.uploadedBytes = 0 then some { w with point := .processSingleUpload }
    else some { w with point := .finishedPart size }
  | .processSingleUpload => some (w.processSingleUpload outcome)
  | .finishedPart size =>
    let remainingBytes : Int := size - w.uploadedBytes
    if (w.finished ∧ remainingBytes > 0) ∨ remainingBytes ≥ q.partSize then
      if w.uploadID = none then some { w with point := .initializeMultiPartUpload size }
      else some { w with point := .finishedLastPart size }
    else some { w with point := .finishedDone size }
  | .initializeMultiPartUpload size =>
    let (created, uploadID) := w.store.createMultipartUpload
    let (store, ok) := w.request (some created) outcome
    if ok then some { w with store, uploadID := some uploadID, point := .finishedLastPart size }
    else some { w with store, point := .iterationEnd true }
  | .finishedLastPart size =>
    let (partNumber, startingByte, endingByte) := w.partRange q size w.finished
    some { w with point := .processMultiPartUploadPart partNumber startingByte endingByte }
  | .processMultiPartUploadPart partNumber startingByte endingByte =>
    w.uploadID.map fun uploadID =>
      w.processMultiPartUploadPart uploadID partNumber startingByte endingByte outcome
  | .finishedDone size =>
    let remainingBytes : Int := size - w.uploadedBytes
    if w.finished ∧ remainingBytes = 0 then
      if w.uploadID = none then some { w with point := .remove }
      else some { w with point := .finalizeUpload }
    else some { w with point := .iterationEnd false }
  | .finalizeUpload =>
    w.uploadID.map fun uploadID =>
      let (store, ok) := w.request
        (w.store.completeMultipartUpload uploadID w.completedParts) outcome
      if ok then { w with store, point := .remove }
      else { w with store, point := .iterationEnd true }
  | .remove =>
    some { w with
      removed := match outcome with
        | .fails _ => false
        | _ => true
      queued := false
      point := .ended }
  | .iterationEnd errorHappened =>
    some { w with
      partAvailable := w.partAvailable || errorHappened || w.finished
      failures := if errorHappened then w.failures + 1 else 0
      point := .processShouldAbort }
  | .ended => none

end Upload

inductive Action where
  | write (data : Bytes)
  | close
  | runOnPart
  | runOnClose
  | shutdown
  | expire
  | uploadLoop (outcome : Outcome)

def Upload.step (q : UploadQueue) (w : Upload) : Action → Option Upload
  | .write data => some (w.write q data)
  | .close => some w.close
  | .runOnPart =>
    if w.onPart = 0 then none
    else some { w with onPart := w.onPart - 1 }.markPartAvailable
  | .runOnClose =>
    if w.onClose = 0 then none
    else some { w with onClose := w.onClose - 1 }.finish
  | .shutdown => some { w with ctxDone := true }
  | .expire => if w.ctxDone then some { w with shutdownExpired := true } else none
  | .uploadLoop outcome => w.uploadLoop q outcome

def uploads (q : UploadQueue) : TransitionSystem Upload Action where
  init := {}
  step := Upload.step q

def Upload.Complete (w : Upload) : Prop := w.removed = true → w.store.object = some w.file

theorem Upload.uploadLoop_entry {q : UploadQueue} {w t : Upload} {outcome : Outcome}
    (hstep : w.uploadLoop q outcome = some t) :
    t.file = w.file ∧ t.finished = w.finished ∧ t.onClose = w.onClose ∧
      t.writerClosed = w.writerClosed := by
  cases hpoint : w.point with
  | processMultiPartUploadPart =>
    simp only [Upload.uploadLoop, hpoint, Option.map_eq_some_iff] at hstep
    obtain ⟨id, -, rfl⟩ := hstep
    simp only [Upload.processMultiPartUploadPart]
    split <;> simp
  | finalizeUpload =>
    simp only [Upload.uploadLoop, hpoint, Option.map_eq_some_iff] at hstep
    obtain ⟨id, -, rfl⟩ := hstep
    split <;> simp
  | _ =>
    simp only [Upload.uploadLoop, hpoint, Upload.abort, Upload.processSingleUpload] at hstep
    grind

theorem Upload.step_other {q : UploadQueue} {w t : Upload} {action : Action}
    (hother : ∀ outcome, action ≠ .uploadLoop outcome) (hstep : w.step q action = some t) :
    t.point = w.point ∧ t.uploadedBytes = w.uploadedBytes ∧
      t.failures = w.failures ∧ (w.finished = true → t.finished = true) := by
  cases action with
  | write | close | shutdown =>
    cases hstep
    exact ⟨rfl, rfl, rfl, id⟩
  | runOnPart | expire =>
    simp only [Upload.step] at hstep
    split_ifs at hstep
    cases hstep
    exact ⟨rfl, rfl, rfl, id⟩
  | runOnClose =>
    simp only [Upload.step, Upload.finish] at hstep
    split_ifs at hstep <;> cases hstep
    · exact ⟨rfl, rfl, rfl, fun _ => rfl⟩
    · exact ⟨rfl, rfl, rfl, id⟩
  | uploadLoop outcome => exact absurd rfl (hother outcome)

end ContainerSSH.S3
