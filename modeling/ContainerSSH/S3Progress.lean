/-
How the upload of an audit log can stand.
-/
import ContainerSSH.S3Upload

namespace ContainerSSH.S3

section
variable (partSize : Nat) (file : Bytes) (finished : Bool) (uploaded : Nat)
  (numbers : List Nat) (uploadID : Option Nat) (store : Store)

def storedParts (uploadID : Option Nat) (store : Store) : Nat → Option Bytes :=
  match uploadID with
  | some id => store.parts id
  | none => fun _ => none

/-- The stored parts are a start of the file, cut at the part size. -/
structure Tiled (count : Nat) : Prop where
  numbers : numbers = List.range count
  started : 0 < count → uploadID ≠ none
  stored : NumberedParts.assemble (storedParts uploadID store)
    (List.range count) = some (file.take uploaded)
  within : uploaded ≤ file.length
  full : uploaded = count * partSize ∨ (finished = true ∧ uploaded = file.length)

structure SentWhole : Prop where
  finished : finished = true
  uploaded : uploaded = file.length
  nonempty : 0 < file.length
  numbers : numbers = []
  object : store.object = some file

structure Stuck : Prop where
  finished : finished = true
  notDone : uploaded ≠ file.length
  offset : uploaded < file.length → uploaded % partSize ≠ 0

inductive Progress : Prop
  | tiled (count : Nat) (htiled : Tiled partSize file finished uploaded numbers uploadID store
        count)
  | whole (hwhole : SentWhole file finished uploaded numbers store)
  | stuck (hstuck : Stuck partSize file finished uploaded)

structure Seen (size : Nat) : Prop where
  within : size ≤ file.length
  done : finished = true → size = uploaded → size = file.length
  stuck : Stuck partSize file finished uploaded → size = file.length

structure PartSound (partNumber startingByte endingByte : Nat) : Prop where
  number : partNumber = uploaded / partSize
  start : startingByte = partNumber * partSize
  beyond : uploaded < endingByte
  within : endingByte ≤ file.length
  cut : (uploaded % partSize = 0 ∧ (endingByte = startingByte + partSize ∨ (finished = true ∧
        (endingByte = file.length ∨ endingByte % partSize ≠ 0)))) ∨
    (Stuck partSize file finished uploaded ∧ (endingByte = file.length ∨
      (endingByte = startingByte + partSize ∧ endingByte + partSize ≤ file.length)))

def PointSound (object : Option Bytes) : LoopPoint → Prop
  | .finishedSingle size =>
    Seen partSize file finished uploaded size ∧ (finished = true ∨ partSize ≤ size)
  | .finishedPart size =>
    Seen partSize file finished uploaded size ∧ (uploaded ≠ 0 ∨ partSize ≤ size)
  | .finishedDone size =>
    Seen partSize file finished uploaded size ∧ (uploaded ≠ 0 ∨ partSize ≤ size)
  | .initializeMultiPartUpload size =>
    Seen partSize file finished uploaded size ∧ uploaded < size ∧
      (finished = true ∨ uploaded + partSize ≤ size) ∧ uploadID = none
  | .finishedLastPart size =>
    Seen partSize file finished uploaded size ∧ uploaded < size ∧
      (finished = true ∨ uploaded + partSize ≤ size)
  | .processMultiPartUploadPart partNumber startingByte endingByte =>
    PartSound partSize file finished uploaded partNumber startingByte endingByte
  | .processSingleUpload => finished = true ∧ uploaded = 0
  | .finalizeUpload => finished = true ∧ uploaded = file.length ∧ uploaded ≠ 0
  | .remove => finished = true ∧ object = some file
  | _ => True

end

theorem UploadQueue.partSize_pos (q : UploadQueue) : 0 < q.partSize := by
  have hmin := q.minimum
  simp only [minPartSize] at hmin
  omega

section
variable {partSize : Nat} {file : Bytes} {finished : Bool} {uploaded : Nat}
  {numbers : List Nat} {uploadID : Option Nat} {store : Store}
  {object : Option Bytes} {point : LoopPoint}

theorem Progress.grow (data : Bytes)
    (hprogress : Progress partSize file false uploaded numbers uploadID store) :
    Progress partSize (file ++ data) false uploaded numbers uploadID store := by
  cases hprogress with
  | tiled count htiled =>
    have hwithin := htiled.within
    refine .tiled count ⟨htiled.numbers, htiled.started, ?_, ?_, ?_⟩
    · rw [htiled.stored, List.take_append_of_le_length hwithin]
    · rw [List.length_append]
      omega
    · exact htiled.full.imp_right fun hfinished => by simp at hfinished
  | whole hwhole => exact absurd hwhole.finished Bool.false_ne_true
  | stuck hstuck => exact absurd hstuck.finished Bool.false_ne_true

theorem not_stuck_of_unfinished : ¬ Stuck partSize file false uploaded :=
  fun hstuck => absurd hstuck.finished Bool.false_ne_true

theorem Seen.grow (data : Bytes) {size : Nat} (hseen : Seen partSize file false uploaded size) :
    Seen partSize (file ++ data) false uploaded size where
  within := by
    rw [List.length_append]
    exact Nat.le_add_right_of_le hseen.within
  done := by simp
  stuck := fun hstuck => absurd hstuck not_stuck_of_unfinished

theorem PointSound.grow (data : Bytes)
    (hpoint : PointSound partSize file false uploaded uploadID object point) :
    PointSound partSize (file ++ data) false uploaded uploadID object point := by
  cases point with
  | finishedSingle | finishedPart | finishedDone | initializeMultiPartUpload
  | finishedLastPart => exact ⟨hpoint.1.grow data, hpoint.2⟩
  | processMultiPartUploadPart partNumber startingByte endingByte =>
    refine ⟨hpoint.number, hpoint.start, hpoint.beyond, ?_, ?_⟩
    · rw [List.length_append]
      exact Nat.le_add_right_of_le hpoint.within
    · rcases hpoint.cut with ⟨hfull, hend⟩ | ⟨hstuck, -⟩
      · exact .inl ⟨hfull, hend.imp_right fun hfinished =>
          absurd hfinished.1 Bool.false_ne_true⟩
      · exact absurd hstuck not_stuck_of_unfinished
  | processSingleUpload | finalizeUpload | remove => exact absurd hpoint.1 Bool.false_ne_true
  | _ => trivial

theorem Progress.finish (hprogress : Progress partSize file false uploaded numbers uploadID store) :
    Progress partSize file true uploaded numbers uploadID store ∧
      ¬ Stuck partSize file true uploaded := by
  cases hprogress with
  | tiled count htiled =>
    have hfull : uploaded = count * partSize := by
      rcases htiled.full with hfull | ⟨hfinished, -⟩
      · exact hfull
      · exact absurd hfinished Bool.false_ne_true
    refine ⟨.tiled count ⟨htiled.numbers, htiled.started, htiled.stored,
      htiled.within, .inl hfull⟩, ?_⟩
    intro hstuck
    have hwithin := htiled.within
    have hnotDone := hstuck.notDone
    refine hstuck.offset (by omega) ?_
    rw [hfull, Nat.mul_mod_left]
  | whole hwhole => exact absurd hwhole.finished Bool.false_ne_true
  | stuck hstuck => exact absurd hstuck.finished Bool.false_ne_true

theorem PointSound.finish (hprogress : Progress partSize file false uploaded numbers uploadID store)
    (hsees : ∀ size, point.size? = some size → size = uploaded → size = file.length)
    (hpoint : PointSound partSize file false uploaded uploadID object point) :
    PointSound partSize file true uploaded uploadID object point := by
  have hnotStuck := hprogress.finish.2
  have hseen : ∀ {size}, point.size? = some size → Seen partSize file false uploaded size →
      Seen partSize file true uploaded size := by
    intro size hsize hseen
    exact ⟨hseen.within, fun _ => hsees size hsize, fun hstuck => absurd hstuck hnotStuck⟩
  cases point with
  | finishedSingle size => exact ⟨hseen rfl hpoint.1, .inl rfl⟩
  | finishedPart | finishedDone => exact ⟨hseen rfl hpoint.1, hpoint.2⟩
  | initializeMultiPartUpload size => exact ⟨hseen rfl hpoint.1, hpoint.2.1, .inl rfl, hpoint.2.2.2⟩
  | finishedLastPart size => exact ⟨hseen rfl hpoint.1, hpoint.2.1, .inl rfl⟩
  | processMultiPartUploadPart partNumber startingByte endingByte =>
    refine ⟨hpoint.number, hpoint.start, hpoint.beyond, hpoint.within, ?_⟩
    rcases hpoint.cut with ⟨hfull, hend | ⟨hfinished, -⟩⟩ | ⟨hstuck, -⟩
    · exact .inl ⟨hfull, .inl hend⟩
    · exact absurd hfinished Bool.false_ne_true
    · exact absurd hstuck not_stuck_of_unfinished
  | processSingleUpload | finalizeUpload | remove => exact absurd hpoint.1 Bool.false_ne_true
  | _ => trivial

theorem Progress.of_lt (hprogress : Progress partSize file finished uploaded numbers uploadID
      store) (hlt : uploaded < file.length) :
    (∃ count, Tiled partSize file finished uploaded numbers uploadID store
        count ∧ uploaded = count * partSize) ∨ Stuck partSize file finished uploaded := by
  cases hprogress with
  | tiled count htiled =>
    refine .inl ⟨count, htiled, ?_⟩
    rcases htiled.full with hfull | ⟨-, hdone⟩
    · exact hfull
    · omega
  | whole hwhole =>
    have hdone := hwhole.uploaded
    omega
  | stuck hstuck => exact .inr hstuck

theorem next_boundary {partNumber count : Nat} (hbeyond : partNumber * partSize < count * partSize)
    (hrest : count * partSize - min ((partNumber + 1) * partSize) (count * partSize) < partSize) :
    count * partSize = partNumber * partSize + partSize := by
  have hlt : partNumber < count := Nat.lt_of_mul_lt_mul_right hbeyond
  have hnext := Nat.mul_le_mul_right partSize hlt
  by_cases hmore : partNumber + 2 ≤ count
  · have hmany := Nat.mul_le_mul_right partSize hmore
    simp only [Nat.succ_mul] at hnext hmany hrest
    omega
  · have hcount : count = partNumber + 1 := by omega
    rw [hcount, Nat.succ_mul]

theorem partSound_of_seen {size : Nat} (hpos : 0 < partSize)
    (hprogress : Progress partSize file finished uploaded numbers uploadID store)
    (hseen : Seen partSize file finished uploaded size) (hbeyond : uploaded < size)
    (henough : finished = true ∨ uploaded + partSize ≤ size) {endingByte : Nat} (hend : endingByte =
      if finished = true ∧ size - min ((uploaded / partSize + 1) * partSize) size < partSize
      then size else min ((uploaded / partSize + 1) * partSize) size) :
    PartSound partSize file finished uploaded (uploaded / partSize)
      (uploaded / partSize * partSize) endingByte := by
  have hwithin := hseen.within
  have hdiv := Nat.div_add_mod uploaded partSize
  have hmod := Nat.mod_lt uploaded hpos
  rw [Nat.mul_comm] at hdiv
  have hnext : (uploaded / partSize + 1) * partSize =
      uploaded / partSize * partSize + partSize := Nat.succ_mul _ _
  rw [hnext] at hend
  have hstands := hprogress.of_lt (Nat.lt_of_lt_of_le hbeyond hwithin)
  split_ifs at hend with hmerged
  · refine ⟨rfl, rfl, by omega, by omega, ?_⟩
    rw [hend]
    rcases hstands with ⟨count, htiled, hfull⟩ | hstuck
    · have haligned : uploaded % partSize = 0 := by rw [hfull, Nat.mul_mod_left]
      refine .inl ⟨haligned, ?_⟩
      by_cases hcut : size % partSize = 0
      · -- the size is a boundary, so the part is a full one
        left
        have hsize := Nat.div_add_mod size partSize
        rw [hcut, Nat.mul_comm] at hsize
        have hrest := hmerged.2
        rw [← hnext, ← hsize] at hrest
        rw [← hsize]
        exact next_boundary (by omega) hrest
      · exact .inr ⟨hmerged.1, .inr hcut⟩
    · exact .inr ⟨hstuck, .inl (hseen.stuck hstuck)⟩
  · have hrest : finished = true → ¬ size -
        min (uploaded / partSize * partSize + partSize) size < partSize :=
      fun hfinished hlt => hmerged ⟨hfinished, hlt⟩
    have hsmaller : uploaded / partSize * partSize + partSize ≤ size := by
      by_cases hfinished : finished = true
      · have hbehind := hrest hfinished
        omega
      · have hroom := henough.resolve_left hfinished
        omega
    rw [Nat.min_eq_left hsmaller] at hend
    refine ⟨rfl, rfl, by omega, by omega, ?_⟩
    rcases hstands with ⟨count, htiled, hfull⟩ | hstuck
    · exact .inl ⟨by rw [hfull, Nat.mul_mod_left], .inl hend⟩
    · have hsize := hseen.stuck hstuck
      have hbehind := hrest hstuck.finished
      exact .inr ⟨hstuck, .inr ⟨hend, by omega⟩⟩

theorem Tiled.next {count id endingByte : Nat} {body : Bytes}
    (htiled : Tiled partSize file finished uploaded numbers (some id) store count)
    (hbeyond : uploaded < endingByte) (hwithin : endingByte ≤ file.length)
    (hbody : body = (file.drop uploaded).take (endingByte - uploaded))
    (hfull : endingByte = (count + 1) * partSize ∨ (finished = true ∧ endingByte = file.length)) :
    Tiled partSize file finished endingByte (numbers ++ [count]) (some id)
      (store.uploadPart id count body) (count + 1) where
  numbers := by rw [htiled.numbers, List.range_succ]
  started := by simp
  stored := by
    have hold : NumberedParts.assemble (storedParts (some id) (store.uploadPart id count body))
        (List.range count) = some (file.take uploaded) := by
      rw [← htiled.stored]
      refine NumberedParts.assemble_congr fun number hlt => ?_
      simp [storedParts, Store.uploadPart, Nat.ne_of_lt hlt]
    have hnew : storedParts (some id) (store.uploadPart id count body) count = some body := by
      simp [storedParts, Store.uploadPart]
    rw [NumberedParts.assemble_succ hold hnew, hbody, ← List.take_add]
    congr 2
    omega
  within := hwithin
  full := hfull

theorem Progress.store_part {id partNumber : Nat} {body : Bytes}
    (hprogress : Progress partSize file finished uploaded numbers (some id)
      store) (hpos : 0 < partSize) (hlt : uploaded < file.length)
    (hnumber : partNumber = uploaded / partSize) :
    Progress partSize file finished uploaded numbers (some id)
      (store.uploadPart id partNumber body) := by
  rcases hprogress.of_lt hlt with ⟨count, htiled, hfull⟩ | hstuck
  · have hcount : partNumber = count := by rw [hnumber, hfull, Nat.mul_div_cancel _ hpos]
    refine .tiled count ⟨htiled.numbers, htiled.started, ?_, htiled.within, htiled.full⟩
    rw [← htiled.stored]
    refine NumberedParts.assemble_congr fun number hlt => ?_
    have hne : number ≠ partNumber := by omega
    simp [storedParts, Store.uploadPart, hne]
  · exact .stuck hstuck

theorem Progress.part {id partNumber startingByte endingByte : Nat} (hpos : 0 < partSize)
    (hprogress : Progress partSize file finished uploaded numbers (some id) store)
    (hpart : PartSound partSize file finished uploaded partNumber startingByte endingByte) :
    Progress partSize file finished (uploaded + (endingByte - startingByte))
      (numbers ++ [partNumber]) (some id) (store.uploadPart id partNumber
        ((file.drop startingByte).take (endingByte - startingByte))) := by
  obtain ⟨hnumber, hstart, hbeyond, hwithin, hcut⟩ := hpart
  have hdiv := Nat.div_add_mod uploaded partSize
  rw [Nat.mul_comm, ← hnumber] at hdiv
  rcases hprogress.of_lt (Nat.lt_of_lt_of_le hbeyond hwithin) with
    ⟨count, htiled, hfull⟩ | hstuck
  · have haligned : uploaded % partSize = 0 := by rw [hfull, Nat.mul_mod_left]
    have hsame : startingByte = uploaded := by omega
    have hcount : partNumber = count := by rw [hnumber, hfull, Nat.mul_div_cancel _ hpos]
    subst hsame hcount
    have hend : startingByte + (endingByte - startingByte) = endingByte := by omega
    rw [hend]
    have hnext : (partNumber + 1) * partSize = partNumber * partSize + partSize := Nat.succ_mul _ _
    rcases hcut with ⟨-, hlast | ⟨hfinished, hlast | hlast⟩⟩ | ⟨hstuck, -⟩
    · exact .tiled _ (htiled.next hbeyond hwithin rfl (.inl (by omega)))
    · exact .tiled _ (htiled.next hbeyond hwithin rfl (.inr ⟨hfinished, hlast⟩))
    · by_cases hdone : endingByte = file.length
      · exact .tiled _ (htiled.next hbeyond hwithin rfl (.inr ⟨hfinished, hdone⟩))
      · exact .stuck ⟨hfinished, hdone, fun _ => hlast⟩
    · exact absurd haligned (hstuck.offset (by omega))
  · have hoffset := hstuck.offset (Nat.lt_of_lt_of_le hbeyond hwithin)
    rcases hcut with ⟨haligned, -⟩ | ⟨-, hlast | ⟨hlast, hroom⟩⟩
    · exact absurd haligned hoffset
    · exact .stuck ⟨hstuck.finished, by omega, by omega⟩
    · have hjump : uploaded + (endingByte - startingByte) = uploaded + partSize := by omega
      rw [hjump]
      refine .stuck ⟨hstuck.finished, by omega, fun _ => ?_⟩
      rwa [Nat.add_mod_right]

theorem Progress.putObject (body : Bytes) (hzero : uploaded = 0)
    (hprogress : Progress partSize file finished uploaded numbers uploadID store) :
    Progress partSize file finished uploaded numbers uploadID (store.putObject body) := by
  cases hprogress with
  | tiled count htiled =>
    exact .tiled count ⟨htiled.numbers, htiled.started, htiled.stored, htiled.within, htiled.full⟩
  | whole hwhole =>
    have hdone := hwhole.uploaded
    have hnonempty := hwhole.nonempty
    omega
  | stuck hstuck => exact .stuck hstuck

theorem Progress.sendWhole (hpos : 0 < partSize) (hzero : uploaded = 0)
    (hprogress : Progress partSize file true uploaded numbers uploadID store) :
    Progress partSize file true (uploaded + file.length) numbers uploadID
      (store.putObject file) := by
  by_cases hempty : file.length = 0
  · rw [hempty]
    exact hprogress.putObject file hzero
  · rcases hprogress.of_lt (by omega) with ⟨count, htiled, hfull⟩ | hstuck
    · have hcount : count = 0 := by
        rcases Nat.mul_eq_zero.mp (hfull.symm.trans hzero) with hcount | hsize
        · exact hcount
        · omega
      refine .whole ⟨rfl, by omega, by omega, ?_, rfl⟩
      rw [htiled.numbers, hcount, List.range_zero]
    · have hoffset := hstuck.offset (by omega)
      simp [hzero] at hoffset

theorem Progress.create (hnone : uploadID = none)
    (hprogress : Progress partSize file finished uploaded numbers uploadID
      store) (hlt : uploaded < file.length) : Progress partSize file finished uploaded numbers none
        store.createMultipartUpload.1 ∧ Progress partSize file finished uploaded numbers
        (some store.createMultipartUpload.2) store.createMultipartUpload.1 := by
  subst hnone
  rcases hprogress.of_lt hlt with ⟨count, htiled, -⟩ | hstuck
  · have hcount : count = 0 := by
      by_contra hcount
      exact htiled.started (by omega) rfl
    subst hcount
    have hstored := htiled.stored
    rw [NumberedParts.assemble_zero] at hstored
    constructor
    · exact .tiled 0 ⟨htiled.numbers, by simp, htiled.stored, htiled.within, htiled.full⟩
    · exact .tiled 0 ⟨htiled.numbers, by simp,
        NumberedParts.assemble_zero.trans hstored, htiled.within, htiled.full⟩
  · exact ⟨.stuck hstuck, .stuck hstuck⟩

theorem Progress.completed {id : Nat} {completed : Store}
    (hprogress : Progress partSize file finished uploaded numbers (some id)
      store) (hdone : uploaded = file.length)
    (hcomplete : store.completeMultipartUpload id numbers = some completed) :
    completed.object = some file ∧ Progress partSize file finished uploaded numbers (some id)
        completed := by
  have hlisted : numbers ≠ [] := by
    rintro rfl
    simp [Store.completeMultipartUpload] at hcomplete
  rw [Store.completeMultipartUpload, if_neg hlisted, Option.map_eq_some_iff] at hcomplete
  obtain ⟨body, hbody, rfl⟩ := hcomplete
  cases hprogress with
  | tiled count htiled =>
    have hstored := htiled.stored
    rw [hdone, List.take_length] at hstored
    rw [htiled.numbers] at hbody
    have hfile : body = file := Option.some.inj (hbody.symm.trans hstored)
    exact ⟨congrArg some hfile, .tiled count ⟨htiled.numbers, htiled.started,
      htiled.stored, htiled.within, htiled.full⟩⟩
  | whole hwhole => exact absurd hwhole.numbers hlisted
  | stuck hstuck => exact absurd hdone hstuck.notDone

theorem Progress.object_of_done (hnone : uploadID = none)
    (hprogress : Progress partSize file finished uploaded numbers uploadID
      store) (hdone : uploaded = file.length) (hsome : uploaded ≠ 0) :
    store.object = some file := by
  cases hprogress with
  | tiled count htiled =>
    have hcount : count = 0 := by
      by_contra hcount
      exact htiled.started (by omega) hnone
    have hstored := htiled.stored
    rw [hcount, NumberedParts.assemble_zero, hdone, List.take_length, Option.some.injEq] at hstored
    simp [hdone, ← hstored] at hsome
  | whole hwhole => exact hwhole.object
  | stuck hstuck => exact absurd hdone hstuck.notDone

end

theorem Upload.partRange_eq (q : UploadQueue) (w : Upload) (size : Nat) (finished : Bool) :
    w.partRange q size finished = (w.uploadedBytes / q.partSize,
        w.uploadedBytes / q.partSize * q.partSize,
        if finished = true ∧ size - min ((w.uploadedBytes / q.partSize + 1) * q.partSize) size <
              q.partSize
        then size
        else min ((w.uploadedBytes / q.partSize + 1) * q.partSize) size) := by
  simp only [Upload.partRange]
  split_ifs <;> rfl

end ContainerSSH.S3
