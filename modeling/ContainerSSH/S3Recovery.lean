/-
Audit logs that a previous process has left behind.
-/
import ContainerSSH.S3Termination

namespace ContainerSSH.S3

structure QueueEntryMetadata where
  startTime : Int := 0
  remoteAddr : String := ""
  authenticated : Bool := false
  username : String := ""
  country : String := ""

def QueueEntryMetadata.toMap (m : QueueEntryMetadata)
    (showUsername showIP : Bool) : List (String × Option String) :=
  let username := if m.authenticated then some m.username else none
  [("timestamp", some (toString m.startTime)), ("authenticated", some (toString m.authenticated)),
    ("country", some m.country)] ++ (if showUsername then [("username", username)] else []) ++
    (if showIP then [("ip", some m.remoteAddr)] else [])

def onMetadata (startTime : Int) (remoteAddr country : String)
    (username : Option String) : QueueEntryMetadata where
  startTime := startTime
  remoteAddr := remoteAddr
  country := country
  authenticated := username.isSome
  username := username.getD ""

def readMetadataFile (metadataFile : Option QueueEntryMetadata) :
    QueueEntryMetadata :=
  metadataFile.getD {}

structure EntryQueue extends UploadQueue where
  metadataUsername : Bool
  metadataIP : Bool

inductive S3Call where
  | putObject (body : Bytes) (contentLength : Nat) (metadata : List (String × Option String))
  | createMultipartUpload (metadata : List (String × Option String))
  | uploadPart (uploadID partNumber : Nat) (body : Bytes)
  | completeMultipartUpload (uploadID : Nat) (parts : List Nat)
  | abortMultipartUpload (uploadID : Nat)
deriving DecidableEq

def Upload.call? (q : EntryQueue) (metadata : QueueEntryMetadata) (w : Upload) : Option S3Call :=
  match w.point with
  | .processShouldAbort => if w.shouldAbort then w.uploadID.map .abortMultipartUpload else none
  | .processSingleUpload =>
    some (.putObject (w.file.drop w.readOffset) w.file.length
      (metadata.toMap q.metadataUsername q.metadataIP))
  | .initializeMultiPartUpload _ =>
    some (.createMultipartUpload (metadata.toMap q.metadataUsername q.metadataIP))
  | .processMultiPartUploadPart partNumber startingByte endingByte =>
    w.uploadID.map fun uploadID => .uploadPart uploadID partNumber
      ((w.file.drop startingByte).take (endingByte - startingByte))
  | .finalizeUpload =>
    w.uploadID.map fun uploadID => .completeMultipartUpload uploadID w.completedParts
  | _ => none

structure QueueEntry where
  lock : Bool
  metadata : QueueEntryMetadata := {}
  metadataFile : Option QueueEntryMetadata := none
  upload : Upload := {}
  calls : List S3Call := []
  panicked : Bool := false

inductive EntryAction where
  | setMetadata (startTime : Int) (remoteAddr country : String) (username : Option String)
  | upload (action : Action)

namespace QueueEntry

variable (q : EntryQueue) (e : QueueEntry)

def uploadLoop (outcome : Outcome) : Option QueueEntry :=
  match e.upload.point, e.lock with
  | .iterationEnd _, false => some { e with panicked := true }
  | _, _ =>
    (e.upload.uploadLoop q.toUploadQueue outcome).map fun w =>
      { e with upload := w, calls := e.calls ++ (e.upload.call? q e.metadata).toList }

def step : EntryAction → Option QueueEntry
  | .setMetadata startTime remoteAddr country username =>
    if e.panicked then none
    else
      let metadata := onMetadata startTime remoteAddr country username
      some { e with metadata, metadataFile := some metadata }
  | .upload action =>
    if e.panicked then none
    else
      match action with
      | .uploadLoop outcome => e.uploadLoop q outcome
      | action => (e.upload.step q.toUploadQueue action).map fun w => { e with upload := w }

end QueueEntry

def abortMultiPartUpload (store : Store) : Store := { store with parts := fun _ _ => none }

def openWriter (store : Store) : QueueEntry where
  lock := true
  upload := { store }

def recover (store : Store) (ctxDone shutdownExpired : Bool) (file : Bytes)
    (metadataFile : Option QueueEntryMetadata) : QueueEntry where
  lock := false
  metadata := readMetadataFile metadataFile
  metadataFile := metadataFile
  upload := {
    file, ctxDone, shutdownExpired
    writerClosed := true
    finished := true
    partAvailable := true
    store := abortMultiPartUpload store }

def entries (q : EntryQueue) (store : Store) : TransitionSystem QueueEntry EntryAction where
  init := openWriter store
  step := QueueEntry.step q

namespace EntryAction

def isLoop : EntryAction → Bool
  | upload (.uploadLoop _) => true
  | _ => false

def isQueue : EntryAction → Bool
  | upload (.uploadLoop _) => true
  | upload .shutdown => true
  | upload .expire => true
  | _ => false

def isAfterClose : EntryAction → Bool
  | setMetadata _ _ _ _ => false
  | upload (.write _) => false
  | upload .close => false
  | _ => true

end EntryAction

def InIteration (e : QueueEntry) (action : EntryAction) : Prop :=
  action.isLoop = true → ∀ errorHappened, e.upload.point ≠ .iterationEnd errorHappened

instance decidableInIteration (e : QueueEntry) (action : EntryAction) :
    Decidable (InIteration e action) :=
  inferInstanceAs (Decidable (action.isLoop = true →
    ∀ errorHappened, e.upload.point ≠ .iterationEnd errorHappened))

namespace Upload

def core (w : Upload) : Upload :=
  { w with
    writerClosed := true
    bytesWritten := 0
    lastPart := 0
    onPart := 0
    onClose := 0
    partAvailable := true }

variable {q : UploadQueue} {w t : Upload}

theorem core_uploadLoop (hw : w.Ready) (hfinished : w.finished = true) (outcome : Outcome) :
    (w.core.uploadLoop q outcome).map core = (w.uploadLoop q outcome).map core := by
  have hcore : w.core.point = w.point := rfl
  cases hpoint : w.point with
  | waitPartAvailable =>
    have havailable := hw.available (.inr hpoint) hfinished
    simp [uploadLoop, core, hpoint, havailable]
  | stat =>
    simp only [uploadLoop, hpoint, hcore]
    cases outcome <;> rfl
  | processSingleUpload =>
    simp only [uploadLoop, hpoint, hcore, processSingleUpload, Option.map_some, apply_ite core]
    rfl
  | processMultiPartUploadPart =>
    simp only [uploadLoop, hpoint, hcore, Option.map_map]
    congr 1
    funext uploadID
    simp only [Function.comp_apply, processMultiPartUploadPart, apply_ite core]
    rfl
  | finalizeUpload =>
    simp only [uploadLoop, hpoint, hcore, Option.map_map]
    congr 1
    funext uploadID
    simp only [Function.comp_apply, apply_ite core]
    rfl
  | ended =>
    simp only [uploadLoop, hpoint, hcore]
  | _ =>
    simp only [uploadLoop, hpoint, hcore, apply_ite (Option.map core)]
    rfl

theorem exists_uploadLoop_of_core {r u : Upload} (hr : r.Ready) (hw : w.Ready)
    (hfinished : w.finished = true) (hcore : r.core = w.core)
    {outcome : Outcome} (hstep : w.uploadLoop q outcome = some u) :
    ∃ v, r.uploadLoop q outcome = some v ∧ v.core = u.core := by
  have hrfinished : r.finished = true := (congrArg Upload.finished hcore).trans hfinished
  have hsame := core_uploadLoop hr hrfinished outcome (q := q)
  rw [hcore, core_uploadLoop hw hfinished outcome, hstep] at hsame
  exact Option.map_eq_some_iff.mp hsame.symm

end Upload

structure Alike (r w : QueueEntry) : Prop where
  core : r.upload.core = w.upload.core
  metadata : r.metadata = w.metadata
  calls : r.calls = w.calls
  locks : r.lock = false ∧ w.lock = true
  running : r.panicked = false ∧ w.panicked = false
  ready : r.upload.Ready ∧ w.upload.Ready
  finished : w.upload.finished = true

section
variable {q : EntryQueue} {store : Store} {r w t : QueueEntry}

theorem Alike.point (halike : Alike r w) : r.upload.point = w.upload.point := by
  have hpoint := congrArg Upload.point halike.core
  exact hpoint

theorem Alike.call (halike : Alike r w) :
    r.upload.call? q r.metadata = w.upload.call? q w.metadata := by
  have hcall := congrArg (Upload.call? q w.metadata) halike.core
  rw [halike.metadata]
  exact hcall

variable {e : QueueEntry}

theorem QueueEntry.uploadLoop_eq (hlock : e.lock = true ∨
      ∀ errorHappened, e.upload.point ≠ .iterationEnd errorHappened) (outcome : Outcome) :
    e.uploadLoop q outcome = (e.upload.uploadLoop q.toUploadQueue outcome).map fun w =>
        { e with
          upload := w
          calls := e.calls ++ (e.upload.call? q e.metadata).toList } := by
  unfold QueueEntry.uploadLoop
  split
  · next errorHappened hpoint hnone =>
      rcases hlock with hlock | hin
      · rw [hlock] at hnone
        cases hnone
      · exact absurd hpoint (hin errorHappened)
  · rfl

theorem Alike.uploadLoop (halike : Alike r w) {outcome : Outcome}
    (hin : ∀ errorHappened, w.upload.point ≠ .iterationEnd errorHappened)
    (hstep : w.uploadLoop q outcome = some t) :
    ∃ v, r.uploadLoop q outcome = some v ∧ Alike v t := by
  rw [QueueEntry.uploadLoop_eq (.inl halike.locks.2), Option.map_eq_some_iff] at hstep
  obtain ⟨u, hu, rfl⟩ := hstep
  obtain ⟨hr, hw⟩ := halike.ready
  obtain ⟨v, hv, hcore⟩ := Upload.exists_uploadLoop_of_core hr hw halike.finished halike.core hu
  have hrin : ∀ errorHappened, r.upload.point ≠ .iterationEnd errorHappened := by
    rw [halike.point]
    exact hin
  rw [QueueEntry.uploadLoop_eq (.inr hrin), hv]
  refine ⟨_, rfl, hcore, halike.metadata, ?_, halike.locks, halike.running,
    ⟨hr.uploadLoop hv, hw.uploadLoop hu⟩, (Upload.uploadLoop_entry hu).2.1.trans halike.finished⟩
  rw [halike.calls, halike.call]

theorem QueueEntry.uploadLoop_panics (hlock : e.lock = false) {errorHappened : Bool}
    (hpoint : e.upload.point = .iterationEnd errorHappened) (outcome : Outcome) :
    e.uploadLoop q outcome = some { e with panicked := true } := by
  unfold QueueEntry.uploadLoop
  rw [hpoint, hlock]

variable {action : Action}

theorem Alike.context (halike : Alike r w)
    (haction : action = .shutdown ∨ action = .expire) {u : Upload}
    (hstep : w.upload.step q.toUploadQueue action = some u) :
    ∃ v, r.upload.step q.toUploadQueue action = some v ∧
      Alike { r with upload := v } { w with upload := u } := by
  obtain ⟨hr, hw⟩ := halike.ready
  have hsame : ∃ v, r.upload.step q.toUploadQueue action = some v ∧
      v.core = u.core ∧ u.finished = true := by
    rcases haction with rfl | rfl
    · cases hstep
      have hcore := congrArg (fun u => { u with ctxDone := true }) halike.core
      exact ⟨_, rfl, hcore, halike.finished⟩
    · have hctx : r.upload.ctxDone = w.upload.ctxDone := by
        have hctx := congrArg Upload.ctxDone halike.core
        exact hctx
      have hcore := congrArg (fun u => { u with shutdownExpired := true }) halike.core
      obtain ⟨hdone, ⟨⟩⟩ := Option.ite_none_right_eq_some.mp hstep
      exact ⟨_, if_pos (hctx.trans hdone), hcore, halike.finished⟩
  obtain ⟨v, hv, hcore, hfinished⟩ := hsame
  exact ⟨v, hv, hcore, halike.metadata, halike.calls, halike.locks,
    halike.running, ⟨hr.step hv, hw.step hstep⟩, hfinished⟩

theorem Alike.leftover (halike : Alike r w)
    (haction : action = .runOnPart ∨ action = .runOnClose) {u : Upload}
    (hstep : w.upload.step q.toUploadQueue action = some u) : Alike r { w with upload := u } := by
  obtain ⟨hr, hw⟩ := halike.ready
  have hfinished := halike.finished
  have hsame : u.core = w.upload.core ∧ u.finished = true := by
    rcases haction with rfl | rfl
    · obtain ⟨-, ⟨⟩⟩ := Option.ite_none_left_eq_some.mp hstep
      exact ⟨rfl, hfinished⟩
    · simp only [Upload.step, Upload.finish] at hstep
      split_ifs at hstep <;> cases hstep
      · exact ⟨by simp [Upload.core, Upload.markPartAvailable, hfinished], rfl⟩
      · exact ⟨rfl, hfinished⟩
  exact ⟨halike.core.trans hsame.1.symm, halike.metadata, halike.calls,
    halike.locks, halike.running, ⟨hr, hw.step hstep⟩, hsame.2⟩

theorem QueueEntry.step_loop (he : e.panicked = false) (outcome : Outcome) :
    e.step q (.upload (.uploadLoop outcome)) = e.uploadLoop q outcome := by
  simp [QueueEntry.step, he]

theorem QueueEntry.step_other (he : e.panicked = false) (haction : action.isLoop = false) :
    e.step q (.upload action) = (e.upload.step q.toUploadQueue action).map fun w =>
        { e with upload := w } := by
  have hrunning : ¬ e.panicked = true := by simp [he]
  cases action with
  | uploadLoop => cases haction
  | _ => exact if_neg hrunning

variable {action : EntryAction}

theorem Alike.step_queue (halike : Alike r w) (hqueue : action.isQueue = true)
    (hin : InIteration w action) (hstep : w.step q action = some t) :
    ∃ v, r.step q action = some v ∧ Alike v t := by
  obtain ⟨hr, hw⟩ := halike.running
  have hcontext : ∀ action : Action, action = .shutdown ∨ action = .expire →
      w.step q (.upload action) = some t → ∃ v, r.step q (.upload action) = some v ∧ Alike v t := by
    intro action haction hstep
    have hother : action.isLoop = false := by rcases haction with rfl | rfl <;> rfl
    rw [QueueEntry.step_other hw hother] at hstep
    obtain ⟨u, hu, rfl⟩ := Option.map_eq_some_iff.mp hstep
    obtain ⟨v, hv, hnext⟩ := halike.context haction hu
    rw [QueueEntry.step_other hr hother, hv]
    exact ⟨_, rfl, hnext⟩
  cases action with
  | setMetadata => cases hqueue
  | upload action =>
    cases action with
    | uploadLoop =>
      rw [QueueEntry.step_loop hw] at hstep
      rw [QueueEntry.step_loop hr]
      exact halike.uploadLoop (hin rfl) hstep
    | shutdown => exact hcontext .shutdown (.inl rfl) hstep
    | expire => exact hcontext .expire (.inr rfl) hstep
    | _ => cases hqueue

theorem Alike.step_leftover (halike : Alike r w)
    (hafter : action.isAfterClose = true) (hqueue : action.isQueue = false)
    (hstep : w.step q action = some t) : Alike r t := by
  have hleftover : ∀ action : Action, action = .runOnPart ∨ action = .runOnClose →
      w.step q (.upload action) = some t → Alike r t := by
    intro action haction hstep
    have hother : action.isLoop = false := by rcases haction with rfl | rfl <;> rfl
    rw [QueueEntry.step_other halike.running.2 hother] at hstep
    obtain ⟨u, hu, rfl⟩ := Option.map_eq_some_iff.mp hstep
    exact halike.leftover haction hu
  cases action with
  | setMetadata => cases hafter
  | upload action =>
    cases action with
    | write | close => cases hafter
    | runOnPart => exact hleftover .runOnPart (.inl rfl) hstep
    | runOnClose => exact hleftover .runOnClose (.inr rfl) hstep
    | _ => cases hqueue

theorem panicked_of_runFrom (hr : r.panicked = true) {actions : List EntryAction}
    (hrun : (entries q store).runFrom r actions = some t) : t.panicked = true := by
  have hstep : ∀ (e : QueueEntry) a t, e.panicked = true →
      (entries q store).step e a = some t → t.panicked = true := by
    intro e a t he hstep
    cases a <;> simp [entries, QueueEntry.step, he] at hstep
  exact (entries q store).runFrom_invariant hstep hr hrun

theorem not_inIteration (hnot : ¬ InIteration e action) :
    ∃ outcome, action = .upload (.uploadLoop outcome) ∧
      ∃ errorHappened, e.upload.point = .iterationEnd errorHappened := by
  simp only [InIteration, not_forall, not_not] at hnot
  obtain ⟨hloop, hend⟩ := hnot
  cases action with
  | setMetadata => cases hloop
  | upload action =>
    cases action with
    | uploadLoop outcome => exact ⟨outcome, rfl, hend⟩
    | _ => cases hloop

theorem Alike.runFrom_iff (halike : Alike r w) {actions : List EntryAction}
    (hafter : ∀ a ∈ actions, a.isAfterClose = true)
    (hrun : (entries q store).runFrom w actions = some t) :
    (∃ v, (entries q store).runFrom r (actions.filter EntryAction.isQueue) = some v ∧
        v.calls = t.calls ∧ v.upload.removed = t.upload.removed ∧ v.panicked = false) ↔
      (entries q store).Meets InIteration w actions := by
  induction w, actions, hrun using TransitionSystem.runFrom_induction generalizing r with
  | nil =>
    have hremoved := congrArg Upload.removed halike.core
    exact iff_of_true ⟨r, rfl, halike.calls, hremoved, halike.running.1⟩ trivial
  | cons w a s rest hs hrest ih =>
    obtain ⟨ha, hlater⟩ := List.forall_mem_cons.mp hafter
    rw [(entries q store).meets_cons_iff hs]
    by_cases hqueue : a.isQueue = true
    · rw [List.filter_cons_of_pos hqueue]
      by_cases hin : InIteration w a
      · obtain ⟨v, hv, hnext⟩ := halike.step_queue hqueue hin hs
        rw [(entries q store).runFrom_cons_of_step hv, ih hnext hlater]
        exact (and_iff_right hin).symm
      · refine iff_of_false ?_ fun hboth => hin hboth.1
        rintro ⟨v, hv, -, -, hrunning⟩
        obtain ⟨outcome, rfl, errorHappened, hpoint⟩ := not_inIteration hin
        have hpanics : (entries q store).step r (.upload (.uploadLoop outcome)) =
            some { r with panicked := true } :=
          (QueueEntry.step_loop halike.running.1 outcome).trans
            (QueueEntry.uploadLoop_panics halike.locks.1 (halike.point.trans hpoint) outcome)
        rw [(entries q store).runFrom_cons_of_step hpanics] at hv
        rw [panicked_of_runFrom rfl hv] at hrunning
        cases hrunning
    · rw [List.filter_cons_of_neg hqueue]
      have hnext := halike.step_leftover ha (Bool.not_eq_true _ ▸ hqueue) hs
      rw [ih hnext hlater]
      refine (and_iff_right ?_).symm
      by_contra hin
      obtain ⟨outcome, rfl, -⟩ := not_inIteration hin
      exact hqueue rfl

end

def Upload.loopState (w : Upload) : Upload where
  readOffset := w.readOffset
  queued := w.queued
  removed := w.removed
  uploadID := w.uploadID
  uploadedBytes := w.uploadedBytes
  completedParts := w.completedParts
  failures := w.failures
  point := w.point
  store := w.store

theorem Upload.loopState_step {q : UploadQueue} {w t : Upload} {action : Action}
    (haction : action.isLoop = false) (hstep : w.step q action = some t) :
    t.loopState = w.loopState := by
  cases action with
  | uploadLoop outcome => cases haction
  | runOnPart | runOnClose | expire =>
    simp only [Upload.step, Upload.finish] at hstep
    split_ifs at hstep <;> cases hstep <;> rfl
  | _ =>
    cases hstep
    rfl

structure Unstarted (store : Store) (e : QueueEntry) : Prop where
  upload : e.upload.loopState = { store }
  metadata : e.metadata = readMetadataFile e.metadataFile
  calls : e.calls = []
  lock : e.lock = true
  running : e.panicked = false
  ready : e.upload.Ready

section
variable {q : EntryQueue} {store : Store} {w t : QueueEntry}

theorem Unstarted.step (hw : Unstarted store w) {action : EntryAction}
    (haction : action.isLoop = false) (hstep : w.step q action = some t) : Unstarted store t := by
  obtain ⟨hupload, hmetadata, hcalls, hlock, hrunning, hready⟩ := hw
  cases action with
  | setMetadata =>
    obtain ⟨-, ⟨⟩⟩ := Option.ite_none_left_eq_some.mp hstep
    exact ⟨hupload, rfl, hcalls, hlock, hrunning, hready⟩
  | upload action =>
    have hother : action.isLoop = false := by
      cases action with
      | uploadLoop => cases haction
      | _ => rfl
    rw [QueueEntry.step_other hrunning hother] at hstep
    obtain ⟨u, hu, rfl⟩ := Option.map_eq_some_iff.mp hstep
    exact ⟨(Upload.loopState_step hother hu).trans hupload, hmetadata, hcalls,
      hlock, hrunning, hready.step hu⟩

theorem unstarted_of_run {before : List EntryAction} (hbefore : ∀ a ∈ before, a.isLoop = false)
    (hrun : (entries q store).run before = some w) : Unstarted store w := by
  have hinit : Unstarted store (entries q store).init :=
    ⟨rfl, rfl, rfl, rfl, rfl, by simp [entries, openWriter], trivial, by simp [entries, openWriter]⟩
  have hmeets : (entries q store).Meets (fun _ a => a.isLoop = false)
      (entries q store).init before :=
    (TransitionSystem.meets_iff_forall_mem (entries q store)
      (G := fun a => a.isLoop = false) hrun).mpr hbefore
  exact (entries q store).runFrom_invariant_of_meets
    (fun _ _ _ hold haction hstep => hold.step haction hstep) hinit hmeets hrun

theorem Unstarted.alike (hw : Unstarted (abortMultiPartUpload store) w)
    (hfinished : w.upload.finished = true) :
    Alike (recover store w.upload.ctxDone w.upload.shutdownExpired
      w.upload.file w.metadataFile) w where
  core := by
    have hupload := hw.upload
    simp only [Upload.loopState, Upload.mk.injEq] at hupload
    simp [recover, Upload.core, hupload, hfinished]
  metadata := hw.metadata.symm
  calls := hw.calls.symm
  locks := ⟨rfl, hw.lock⟩
  running := ⟨rfl, hw.running⟩
  ready := ⟨⟨fun _ _ => rfl, trivial, by simp [recover]⟩, hw.ready⟩
  finished := hfinished

/-- Upload of a leftover file, compared with that of a log that was written and
closed before the first iteration: the same requests are made, the local file
is removed in the same cases and nothing panics exactly if the loop does not go
from one iteration to the next. -/
theorem recovers_like_open_iff {before after : List EntryAction}
    (hopen : (entries q (abortMultiPartUpload store)).run before = some w)
    (hbefore : ∀ a ∈ before, a.isLoop = false) (hfinished : w.upload.finished = true)
    (hrun : (entries q (abortMultiPartUpload store)).runFrom w after = some t)
    (hafter : ∀ a ∈ after, a.isAfterClose = true) :
    (∃ v, (entries q (abortMultiPartUpload store)).runFrom
          (recover store w.upload.ctxDone w.upload.shutdownExpired w.upload.file w.metadataFile)
          (after.filter EntryAction.isQueue) = some v ∧
        v.calls = t.calls ∧ v.upload.removed = t.upload.removed ∧ v.panicked = false) ↔
      (entries q (abortMultiPartUpload store)).Meets InIteration w after :=
  ((unstarted_of_run hbefore hopen).alike hfinished).runFrom_iff hafter hrun

end

def writeAndClose : List EntryAction :=
  [.setMetadata 7 "127.0.0.1" "" (some "user"), .upload (.write [1]),
    .upload .close, .upload .runOnClose]

def entryLoops (count : Nat) : List EntryAction :=
  List.replicate count (.upload (.uploadLoop .succeeds))

def smallQueue : EntryQueue := ⟨newUploadQueue 0, true, true⟩

theorem first_iteration_alike :
    ∃ w t v, (entries smallQueue (abortMultiPartUpload {})).run writeAndClose = some w ∧
      (entries smallQueue (abortMultiPartUpload {})).runFrom w (entryLoops 5) = some t ∧
      (entries smallQueue (abortMultiPartUpload {})).runFrom
        (recover {} w.upload.ctxDone w.upload.shutdownExpired w.upload.file
          w.metadataFile) (entryLoops 5) = some v ∧ v.calls = t.calls ∧ t.calls = [.putObject [1] 1
        [("timestamp", some "7"), ("authenticated", some "true"),
          ("country", some ""), ("username", some "user"), ("ip", some "127.0.0.1")]] := by
  have hruns : ∃ w t, (entries smallQueue (abortMultiPartUpload {})).run writeAndClose = some w ∧
      (entries smallQueue (abortMultiPartUpload {})).runFrom w (entryLoops 5) =
        some t ∧ w.upload.finished = true ∧
      (entries smallQueue (abortMultiPartUpload {})).Meets InIteration w (entryLoops 5) ∧
      t.calls = [.putObject [1] 1 [("timestamp", some "7"), ("authenticated", some "true"),
          ("country", some ""), ("username", some "user"), ("ip", some "127.0.0.1")]] := by
    exact ⟨_, _, rfl, rfl, rfl, by decide +kernel, by decide +kernel⟩
  obtain ⟨w, t, hopen, hrun, hfinished, hmeets, hcalls⟩ := hruns
  obtain ⟨v, hv, hsame, -, -⟩ := (recovers_like_open_iff hopen
    (by decide) hfinished hrun (by decide)).mpr hmeets
  exact ⟨w, t, v, hopen, hrun, hv, hsame, hcalls⟩

/-- After the first iteration the recovered entry panics, where the other one
goes on and removes its file. -/
theorem recovered_entry_panics :
    ∃ w t v, (entries smallQueue (abortMultiPartUpload {})).run writeAndClose = some w ∧
      (entries smallQueue (abortMultiPartUpload {})).runFrom w (entryLoops 13) =
        some t ∧ t.upload.removed = true ∧ (entries smallQueue (abortMultiPartUpload {})).runFrom
        (recover {} w.upload.ctxDone w.upload.shutdownExpired w.upload.file
          w.metadataFile) (entryLoops 6) = some v ∧ v.panicked = true ∧ v.upload.removed = false :=
  ⟨_, _, _, rfl, rfl, rfl, rfl, rfl, rfl⟩

end ContainerSSH.S3
