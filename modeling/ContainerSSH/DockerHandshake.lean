/-
The process ID in front of the output of a Docker exec, for every way in which the connection
delivers it.
-/
import ContainerSSH.DockerExec

namespace ContainerSSH.DockerExec

/-- What the connection delivers to a call that has already read `i` bytes: the data, whether it
ends with an error, and the reads that are left. -/
inductive Delivers (bytes : Nat) : Nat → List Read → List UInt8 → Bool → List Read → Prop
  | nothing {reads : List Read} (hzero : bytes = 0) : Delivers bytes 0 reads [] false reads
  | failed {i : Nat} {read : Read} {rest : List Read} (hfits : i + read.data.length ≤ bytes)
      (hpos : 0 < bytes) (hfailed : read.failed = true) :
      Delivers bytes i (read :: rest) read.data true rest
  | full {i : Nat} {read : Read} {rest : List Read} (hfull : i + read.data.length = bytes)
      (hpos : 0 < bytes) (hok : read.failed = false) :
      Delivers bytes i (read :: rest) read.data false rest
  | more {i : Nat} {read : Read} {reads rest : List Read} {data : List UInt8} {failed : Bool}
      (hpart : i + read.data.length < bytes) (hok : read.failed = false)
      (hrest : Delivers bytes (i + read.data.length) reads data failed rest) :
      Delivers bytes i (read :: reads) (read.data ++ data) failed rest

def Whole (i : Nat) (data : List UInt8) : Prop :=
  i ≤ data.length ∧ data.take (data.length - i) ++ List.replicate i 0 = data

def CopiesAll (bytes : Nat) : Nat → List Read → Prop
  | _, [] => True
  | i, read :: rest => Whole i read.data ∧ (read.failed = false → i + read.data.length < bytes →
      CopiesAll bytes (i + read.data.length) rest)

variable {bytes i : Nat} {reads rest : List Read} {data done : List UInt8} {failed : Bool}

theorem copied_eq (hdone : done.length = i) (hlong : i ≤ data.length)
    (hfits : i + data.length ≤ bytes) :
    (done ++ List.replicate (bytes - i) 0).take i ++ data.take (data.length - i) ++
        (done ++ List.replicate (bytes - i) 0).drop data.length =
      (done ++ (data.take (data.length - i) ++ List.replicate i 0)) ++
        List.replicate (bytes - (i + data.length)) 0 := by
  subst hdone
  rw [List.take_left, List.drop_append, List.drop_of_length_le hlong, List.nil_append,
    List.drop_replicate, List.append_assoc, List.append_assoc, List.append_assoc,
    List.replicate_append_replicate]
  congr 3
  omega

theorem length_kept (hlong : i ≤ data.length) :
    (data.take (data.length - i) ++ List.replicate i (0 : UInt8)).length = data.length := by
  rw [List.length_append, List.length_take, List.length_replicate]
  omega

theorem readLoop_cons (read : Read) (hdone : done.length = i)
    (hfits : i + read.data.length ≤ bytes) :
    readLoop bytes (done ++ List.replicate (bytes - i) 0) i (read :: reads) =
      if read.data.length < i then .panics
      else
        let next := done ++ (read.data.take (read.data.length - i) ++ List.replicate i 0)
        if read.failed then .ok (next, true) reads
        else if i + read.data.length = bytes then .ok (next, false) reads
        else readLoop bytes (next ++ List.replicate (bytes - (i + read.data.length)) 0)
          (i + read.data.length) reads := by
  have hbuf : read.data.take (bytes - i) = read.data := List.take_of_length_le (by omega)
  simp only [readLoop, hbuf]
  split
  · rfl
  next hlong =>
    rw [Nat.not_lt] at hlong
    have hlength : (done ++ (read.data.take (read.data.length - i) ++ List.replicate i 0)).length =
        i + read.data.length := by
      rw [List.length_append, length_kept hlong, hdone]
    rw [copied_eq hdone hlong hfits]
    split
    · rw [← hlength, List.take_left]
    · split
      next hfull => rw [hfull, Nat.sub_self, List.replicate_zero, List.append_nil]
      next => rfl

theorem returned_iff {failed : Bool} (hlong : i ≤ data.length) :
    (ReadOutcome.ok (done ++ (data.take (data.length - i) ++ List.replicate i 0), failed) rest =
        .ok (done ++ data, failed) rest ↔ Whole i data) ∧
      ∀ v f r, ReadOutcome.ok (done ++ (data.take (data.length - i) ++ List.replicate i 0), failed)
        rest = .ok (v, f) r → done <+: v := by
  constructor
  · simp only [ReadOutcome.ok.injEq, Prod.mk.injEq, List.append_cancel_left_eq, and_true]
    exact (and_iff_right hlong).symm
  · rintro v f r ⟨⟩
    exact List.prefix_append _ _

theorem readLoop_iff (hpos : 0 < bytes) (hdelivers : Delivers bytes i reads data failed rest)
    (hdone : done.length = i) :
    (readLoop bytes (done ++ List.replicate (bytes - i) 0) i reads =
        .ok (done ++ data, failed) rest ↔ CopiesAll bytes i reads) ∧
      ∀ v f r, readLoop bytes (done ++ List.replicate (bytes - i) 0) i reads = .ok (v, f) r →
        done <+: v := by
  induction hdelivers generalizing done with
  | nothing hzero => omega
  | @failed i read rest hfits _ hfailed =>
    rw [readLoop_cons read hdone hfits]
    simp only [CopiesAll, hfailed, if_true, reduceCtorEq, false_imp_iff, and_true]
    split
    next hshort => exact ⟨iff_of_false (by simp) fun h => by have := h.1; omega, by simp⟩
    next hlong => exact returned_iff (Nat.not_lt.mp hlong)
  | @full i read rest hfull _ hok =>
    rw [readLoop_cons read hdone (by omega)]
    simp only [CopiesAll, hok, hfull, if_true, Nat.lt_irrefl, false_imp_iff, implies_true,
      and_true, Bool.false_eq_true, if_false]
    split
    next hshort => exact ⟨iff_of_false (by simp) fun h => by have := h.1; omega, by simp⟩
    next hlong => exact returned_iff (Nat.not_lt.mp hlong)
  | @more i read reads rest data failed hpart hok hrest ih =>
    rw [readLoop_cons read hdone (by omega)]
    simp only [CopiesAll, hok, Whole, Bool.false_eq_true, if_false, Nat.ne_of_lt hpart, hpart,
      forall_const]
    split
    · exact ⟨iff_of_false (by simp) (by omega), by simp⟩
    next hlong =>
      rw [Nat.not_lt] at hlong
      have hlength := length_kept hlong
      have hread : (done ++ (read.data.take (read.data.length - i) ++ List.replicate i 0)).length =
          i + read.data.length := by rw [List.length_append, hlength, hdone]
      obtain ⟨hiff, hbegins⟩ := ih hread
      refine ⟨?_, fun v f r hv => (List.prefix_append _ _).trans (hbegins v f r hv)⟩
      rw [and_iff_right hlong]
      by_cases hwhole : read.data.take (read.data.length - i) ++ List.replicate i 0 = read.data
      · rw [and_iff_right hwhole, ← hiff]
        simp only [hwhole, List.append_assoc]
      · refine iff_of_false (fun hv => hwhole ?_) fun h => hwhole h.1
        have hsame := (List.prefix_append_right_inj done).mp (hbegins _ _ _ hv)
        rw [List.prefix_iff_eq_take.mp hsame, hlength, List.take_left]

theorem readBytesFromReader_iff (hdelivers : Delivers bytes 0 reads data failed rest) :
    readBytesFromReader bytes reads = .ok (data, failed) rest ↔ CopiesAll bytes 0 reads := by
  rw [readBytesFromReader]
  split
  next hzero =>
    subst hzero
    cases hdelivers with
    | nothing => exact iff_of_true rfl (by cases reads <;> simp [CopiesAll, Whole])
    | failed | full | more => omega
  next hpos =>
    have hread := (readLoop_iff (Nat.pos_of_ne_zero hpos) hdelivers List.length_nil).1
    rwa [List.nil_append] at hread

theorem readBytes_of_copiesAll (hdelivers : Delivers bytes 0 reads data false rest)
    (hcopies : CopiesAll bytes 0 reads) : readBytes bytes reads = .ok data rest := by
  rw [readBytes, (readBytesFromReader_iff hdelivers).mpr hcopies]
  rfl

/-- A call returns the bytes that were delivered to it, with the error if there
was one, exactly if all reads were copied in full; then the process ID is that of
the first four bytes, and the standard output gets the rest of their frame. -/
theorem handshake_iff (hdelivers : Delivers bytes 0 reads data failed rest) :
    (readBytesFromReader bytes reads = .ok (data, failed) rest ↔ CopiesAll bytes 0 reads) ∧
    (∀ accepts reads pidBytes rest, Delivers 4 0 reads pidBytes false rest →
      CopiesAll 4 0 reads → readPIDFromStdout true accepts reads =
        .ok (Cbor.ofBigEndian pidBytes.reverse, []) rest) ∧
    ∀ reads header frames frame rest, Delivers 8 0 reads header false frames →
      CopiesAll 8 0 reads → header.headD 0 ≤ 1 → 4 ≤ Cbor.ofBigEndian (header.drop 4) →
      Delivers (Cbor.ofBigEndian (header.drop 4)) 0 frames frame false rest →
      CopiesAll (Cbor.ofBigEndian (header.drop 4)) 0 frames →
      readPIDFromStdout false true reads =
        .ok (Cbor.ofBigEndian (frame.take 4).reverse, frame.drop 4) rest := by
  refine ⟨readBytesFromReader_iff hdelivers, fun accepts reads pidBytes rest hdelivers hcopies => ?_,
    fun reads header frames frame rest hheader hcopies hstream hlength hframe hcopies' => ?_⟩
  · rw [readPIDFromStdout, readBytes_of_copiesAll hdelivers hcopies]
    rfl
  · have hkind : ¬ 2 < header.headD 0 ∧ header.headD 0 ≠ 2 := by
      constructor <;> intro h
      · rw [UInt8.lt_iff_toNat_lt] at h
        exact absurd (Nat.lt_of_lt_of_le h hstream) (by decide)
      · rw [h] at hstream
        exact absurd hstream (by decide)
    rw [readPIDFromStdout, if_neg Bool.false_ne_true, readBytes_of_copiesAll hheader hcopies]
    simp only [ReadOutcome.bind, if_neg hkind.1, readBytes_of_copiesAll hframe hcopies',
      if_neg (Nat.not_lt.mpr hlength), if_neg hkind.2, Bool.true_eq_false, and_false, if_false]

theorem handshake_split_frame : readPIDFromStdout false true
      [⟨[1, 0, 0, 0, 0, 0, 0, 5], false⟩, ⟨[7], false⟩, ⟨[1, 0, 0, 0], false⟩] = .ok (263, [0]) [] := by
  have hheader : Delivers 8 0 [⟨[1, 0, 0, 0, 0, 0, 0, 5], false⟩, ⟨[7], false⟩, ⟨[1, 0, 0, 0], false⟩]
      [1, 0, 0, 0, 0, 0, 0, 5] false [⟨[7], false⟩, ⟨[1, 0, 0, 0], false⟩] :=
    .full rfl (by decide) rfl
  refine (handshake_iff hheader).2.2 _ _ _ [7, 1, 0, 0, 0] _ hheader ?_ (by decide) (by decide)
    (.more (by decide) rfl (.full rfl (by decide) rfl)) ?_
  · exact ⟨⟨Nat.zero_le _, rfl⟩, by simp⟩
  · exact ⟨⟨Nat.zero_le _, rfl⟩, fun _ _ => ⟨⟨by decide, rfl⟩, fun _ h => absurd h (by decide)⟩⟩

/-- Two bytes and two bytes: the process ID loses its upper half.  Three bytes and
one: the slice is out of range. -/
theorem cut_pid_wrong :
    readPIDFromStdout true true [⟨[1, 2], false⟩, ⟨[3, 4], false⟩] = .ok (513, []) [] ∧
      Cbor.ofBigEndian [4, 3, 2, 1] ≠ 513 ∧
      readPIDFromStdout true true [⟨[1, 2, 3], false⟩, ⟨[4], false⟩] = .panics := by
  decide

end ContainerSSH.DockerExec
