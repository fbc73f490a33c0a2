/-
The parts of a multipart upload.
-/
import ContainerSSH.S3Upload
import ContainerSSH.Tiling

namespace ContainerSSH.S3

open Tiling (Tiles)

structure PartRange where
  partNumber : Nat
  startingByte : Nat
  endingByte : Nat
deriving DecidableEq

def PartRange.contentLength (part : PartRange) : Nat := part.endingByte - part.startingByte

def PartRange.range (part : PartRange) : Nat × Nat := (part.startingByte, part.endingByte)

structure Answers where
  putObject : Bool
  createMultipartUpload : Bool
  uploadPart : Bool
  completeMultipartUpload : Bool

inductive Request where
  | putObject (contentLength : Nat) (ok : Bool)
  | createMultipartUpload (ok : Bool)
  | uploadPart (part : PartRange) (ok : Bool)
  | completeMultipartUpload (partNumbers : List Nat) (ok : Bool)
deriving DecidableEq

structure UploadVars where
  uploadedBytes : Nat := 0
  uploadID : Bool := false
  completedParts : List Nat := []

structure Iteration where
  errorHappened : Bool
  finished : Bool
  vars : UploadVars
  requests : List Request

def nextPart (partSize size : Nat) (finished : Bool) (uploadedBytes : Nat) :
    PartRange :=
  let partNumber := uploadedBytes / partSize
  let startingByte := partNumber * partSize
  let endingByte := (partNumber + 1) * partSize
  let endingByte := if size < endingByte then size else endingByte
  -- what would be too little for another part goes with this one
  let endingByte := if finished ∧ size - endingByte < partSize then size else endingByte
  ⟨partNumber, startingByte, endingByte⟩

def doMultipartUpload (partSize size : Nat) (finished : Bool) (v : UploadVars)
    (ok : Bool) : UploadVars × PartRange :=
  let part := nextPart partSize size finished v.uploadedBytes
  if ok then
    ({ v with
        uploadedBytes := v.uploadedBytes + part.contentLength
        completedParts := v.completedParts ++ [part.partNumber] }, part)
  else (v, part)

/-- One iteration of the loop of `Upload.uploadLoop` on the sizes alone, for any part size. -/
def processUpload (partSize size : Nat) (finished : Bool) (answers : Answers)
    (v : UploadVars) : Iteration :=
  let remainingBytes : Int := size - v.uploadedBytes
  if finished ∧ v.uploadedBytes = 0 then
    -- nothing was uploaded yet: the file is sent as a single object
    if answers.putObject then
      ⟨false, false, { v with uploadedBytes := v.uploadedBytes + size }, [.putObject size true]⟩
    else ⟨true, false, v, [.putObject size false]⟩
  else if (finished ∧ remainingBytes > 0) ∨ remainingBytes ≥ partSize then
    -- an error of the part is not reported, one of the creation is
    if v.uploadID then
      let (vars, part) := doMultipartUpload partSize size finished v answers.uploadPart
      ⟨false, false, vars, [.uploadPart part answers.uploadPart]⟩
    else if answers.createMultipartUpload then
      let (vars, part) := doMultipartUpload partSize size finished
        { v with uploadID := true } answers.uploadPart
      ⟨false, false, vars, [.createMultipartUpload true, .uploadPart part answers.uploadPart]⟩
    else ⟨true, false, v, [.createMultipartUpload false]⟩
  else if finished ∧ remainingBytes = 0 then
    if v.uploadID then
      if answers.completeMultipartUpload then
        ⟨false, true, v, [.completeMultipartUpload v.completedParts true]⟩
      else ⟨true, false, v, [.completeMultipartUpload v.completedParts false]⟩
    else ⟨false, true, v, []⟩
  else ⟨false, false, v, []⟩

def nextPart64 (partSize size : Int64) (finished : Bool) (uploadedBytes : Int64) :
    Int64 × Int64 × Int64 :=
  let partNumber := uploadedBytes / partSize
  let startingByte := partNumber * partSize
  let endingByte := (partNumber + 1) * partSize
  let endingByte := if size < endingByte then size else endingByte
  let endingByte := if finished ∧ size - endingByte < partSize then size else endingByte
  (partNumber, startingByte, endingByte)

variable {size partSize : Nat}

theorem sub_of_overflow {endingByte : Nat} (hsize : size < 9223372036854775808)
    (hpart : partSize < 9223372036854775808) (hbeyond : 9223372036854775808 ≤ endingByte)
    (hending : endingByte ≤ size + 9223372036854775808) :
    ¬ Int64.ofNat size < Int64.ofNat endingByte ∧
      Int64.ofNat size - Int64.ofNat endingByte < Int64.ofNat partSize := by
  have hwrapped : (Int64.ofNat endingByte).toInt = (endingByte : Int) - 18446744073709551616 := by
    rw [Int64.toInt_ofNat', Int.bmod_def, Int64.size]
    omega
  rw [Int64.lt_iff_toInt_lt, Int64.lt_iff_toInt_lt, Int64.toInt_sub,
    Int64.toInt_ofNat_of_lt hsize, Int64.toInt_ofNat_of_lt hpart, hwrapped, Int.bmod_def]
  omega

/-- The upload loop cuts its parts in the same way, for the part sizes of its queue. -/
theorem Upload.partRange_eq_nextPart (q : UploadQueue) (w : Upload) (size : Nat)
    (finished : Bool) : w.partRange q size finished =
      let part := nextPart q.partSize size finished w.uploadedBytes
      (part.partNumber, part.startingByte, part.endingByte) := by
  have hmin : ∀ n : Nat, (if size < n then size else n) = min n size := by
    intro n
    split <;> omega
  simp only [Upload.partRange, nextPart, hmin]
  split_ifs <;> rfl

/-- The products wrap around only at the end of a finished log, where the result is the size
of the log all the same. -/
theorem nextPart64_eq {uploadedBytes : Nat} {finished : Bool}
    (hpart : partSize < 9223372036854775808) (hsize : size < 9223372036854775808)
    (hleft : uploadedBytes < size) (henough : finished = true ∨ uploadedBytes + partSize ≤ size) :
    nextPart64 (.ofNat partSize) (.ofNat size) finished (.ofNat uploadedBytes) =
      let part := nextPart partSize size finished uploadedBytes
      (.ofNat part.partNumber, .ofNat part.startingByte, .ofNat part.endingByte) := by
  have hdiv : uploadedBytes / partSize * partSize ≤ uploadedBytes :=
    Nat.div_mul_le_self uploadedBytes partSize
  have hnumber : Int64.ofNat uploadedBytes / .ofNat partSize =
      .ofNat (uploadedBytes / partSize) := (Int64.ofNat_div (by omega) hpart).symm
  have hstart : Int64.ofNat (uploadedBytes / partSize) * .ofNat partSize =
      .ofNat (uploadedBytes / partSize * partSize) := (Int64.ofNat_mul _ _).symm
  have hend : (Int64.ofNat (uploadedBytes / partSize) + 1) * .ofNat partSize =
      .ofNat ((uploadedBytes / partSize + 1) * partSize) := by
    rw [Int64.ofNat_mul, Int64.ofNat_add]
    rfl
  simp only [nextPart64, nextPart, hnumber, hstart, hend]
  generalize hending : (uploadedBytes / partSize + 1) * partSize = endingByte
  rw [Nat.succ_mul] at hending
  by_cases hfits : endingByte < 9223372036854775808
  · simp only [Int64.ofNat_lt_iff_lt hsize hfits]
    generalize hcut : (if size < endingByte then size else endingByte) = cut
    have hcut64 : (if size < endingByte then Int64.ofNat size
        else .ofNat endingByte) = .ofNat cut := by
      rw [← hcut]
      split_ifs <;> rfl
    have hle : cut ≤ size := by
      rw [← hcut]
      split_ifs <;> omega
    rw [hcut64, ← Int64.ofNat_sub size cut hle]
    simp only [Int64.ofNat_lt_iff_lt (Nat.lt_of_le_of_lt (Nat.sub_le size cut) hsize) hpart]
    split_ifs <;> rfl
  · -- only the end of a finished log can lie beyond its size
    have hfinished : finished = true := henough.resolve_right (by omega)
    obtain ⟨hless, hshort⟩ := sub_of_overflow hsize hpart (by omega)
      (show endingByte ≤ size + 9223372036854775808 by omega)
    rw [if_neg hless, if_pos ⟨hfinished, hshort⟩, if_pos (by omega : size < endingByte), ite_self]

/-- The product for the end of the part wraps around. -/
theorem nextPart64_wraps : nextPart64 (.ofNat 4611686018427387904) (.ofNat 9223372036854775807)
    true (.ofNat 4611686018427387904) = (1, 4611686018427387904, 9223372036854775807) :=
  nextPart64_eq (by decide) (by decide) (by decide) (.inl rfl)

structure History where
  size : Nat := 0
  finished : Bool := false
  vars : UploadVars := {}
  ended : Bool := false
  requests : List Request := []

inductive HistoryAction where
  | write (count : Nat)
  | finish
  | iterate (answers : Answers)
  | abort

namespace History

variable (partSize : Nat) (h : History)

def iteration (answers : Answers) : Iteration :=
  processUpload partSize h.size h.finished answers h.vars

def step : HistoryAction → Option History
  | .write count => if h.finished then none else some { h with size := h.size + count }
  | .finish => some { h with finished := true }
  | .iterate answers =>
    if h.ended then none
    else
      let iteration := h.iteration partSize answers
      some { h with
        vars := iteration.vars
        ended := iteration.finished
        requests := h.requests ++ iteration.requests }
  | .abort => some { h with ended := true }

end History

def histories (partSize : Nat) : TransitionSystem History HistoryAction where
  init := {}
  step := History.step partSize

def Request.part? : Request → Option PartRange
  | .uploadPart part true => some part
  | _ => none

def History.parts (h : History) : List PartRange := h.requests.filterMap Request.part?

/-- The parts cover a start of the file without gap or overlap, all full but the last. -/
structure PartsTile (partSize : Nat) (parts : List PartRange) : Prop where
  contiguous : ∃ last, Tiles 0 (parts.map PartRange.range) last
  disjoint : parts.Pairwise fun a b => Disjoint
    (Set.Ico a.startingByte a.endingByte) (Set.Ico b.startingByte b.endingByte)
  increasing : parts.Pairwise fun a b => a.partNumber < b.partNumber
  full : ∀ part ∈ parts.dropLast, part.contentLength = partSize
  last : ∀ part ∈ parts.getLast?, 1 ≤ part.contentLength ∧ part.contentLength < 2 * partSize

structure FullParts (partSize : Nat) (parts : List PartRange) : Prop where
  numbers : parts.map PartRange.partNumber = List.range parts.length
  tiles : Tiles 0 (parts.map PartRange.range) (parts.length * partSize)
  full : ∀ part ∈ parts, part.contentLength = partSize

theorem fullParts_nil (partSize : Nat) : FullParts partSize [] where
  numbers := rfl
  tiles := (Nat.zero_mul partSize).symm
  full := by simp

section
variable {partSize : Nat} {parts : List PartRange} {part : PartRange}

structure Follows (partSize : Nat) (parts : List PartRange) (part : PartRange) :
    Prop where
  number : part.partNumber = parts.length
  start : part.startingByte = parts.length * partSize
  longer : part.startingByte < part.endingByte

theorem Follows.tiles (hparts : FullParts partSize parts) (hnext : Follows partSize parts part) :
    Tiles 0 ((parts ++ [part]).map PartRange.range) part.endingByte := by
  have hstart := hnext.longer
  rw [List.map_append, List.map_singleton, PartRange.range, hnext.start]
  exact hparts.tiles.append_singleton (hnext.start ▸ hstart)

theorem Follows.numbers (hparts : FullParts partSize parts) (hnext : Follows partSize parts part) :
    (parts ++ [part]).map PartRange.partNumber = List.range (parts ++ [part]).length := by
  rw [List.map_append, hparts.numbers, List.length_append, List.length_singleton,
    List.range_succ, List.map_singleton, hnext.number]

theorem FullParts.append (hparts : FullParts partSize parts) (hnext : Follows partSize parts part)
    (hfull : part.endingByte = part.startingByte + partSize) :
    FullParts partSize (parts ++ [part]) where
  numbers := hnext.numbers hparts
  tiles := by
    have hend : (parts ++ [part]).length * partSize = part.endingByte := by
      rw [List.length_append, List.length_singleton, Nat.succ_mul, hfull, hnext.start]
    rw [hend]
    exact hnext.tiles hparts
  full := by
    intro other hmem
    rcases List.mem_append.mp hmem with hold | hnew
    · exact hparts.full other hold
    · rw [List.mem_singleton.mp hnew, PartRange.contentLength, hfull, Nat.add_sub_cancel_left]

theorem partsTile_of {last : Nat}
    (hnumbers : parts.map PartRange.partNumber = List.range parts.length)
    (htiles : Tiles 0 (parts.map PartRange.range) last)
    (hfull : ∀ part ∈ parts.dropLast, part.contentLength = partSize)
    (hlast : ∀ part ∈ parts.getLast?, 1 ≤ part.contentLength ∧ part.contentLength < 2 * partSize) :
    PartsTile partSize parts where
  contiguous := ⟨last, htiles⟩
  disjoint := by
    have hdisjoint := htiles.pairwise_disjoint
    rw [List.pairwise_map] at hdisjoint
    exact hdisjoint
  increasing := by
    rw [← List.pairwise_map, hnumbers]
    exact List.pairwise_lt_range
  full := hfull
  last := hlast

theorem FullParts.partsTile (hpos : 1 ≤ partSize)
    (hparts : FullParts partSize parts) : PartsTile partSize parts := by
  refine partsTile_of hparts.numbers hparts.tiles
    (fun part hmem => hparts.full part (List.dropLast_subset parts hmem)) ?_
  intro part hmem
  rw [hparts.full part (List.mem_of_mem_getLast? hmem)]
  omega

theorem FullParts.partsTile_append (hparts : FullParts partSize parts)
    (hnext : Follows partSize parts part) (hlength : part.contentLength < 2 * partSize) :
    PartsTile partSize (parts ++ [part]) := by
  refine partsTile_of (hnext.numbers hparts) (hnext.tiles hparts) ?_ ?_
  · rw [List.dropLast_concat]
    exact hparts.full
  · intro other hmem
    rw [List.getLast?_concat, Option.mem_some_iff] at hmem
    subst hmem
    have hlonger := hnext.longer
    refine ⟨?_, hlength⟩
    rw [PartRange.contentLength]
    omega

end

theorem nextPart_of_full {uploadedBytes count : Nat} {finished : Bool}
    (hpos : 1 ≤ partSize) (huploaded : uploadedBytes = count * partSize)
    (hleft : uploadedBytes < size) (henough : finished = true ∨ uploadedBytes + partSize ≤ size) :
    ∃ endingByte, nextPart partSize size finished uploadedBytes =
        ⟨count, uploadedBytes, endingByte⟩ ∧ uploadedBytes < endingByte ∧
      ((endingByte = uploadedBytes + partSize ∧ endingByte ≤ size) ∨
        (finished = true ∧ endingByte = size ∧ endingByte < uploadedBytes + 2 * partSize)) := by
  have hcount : uploadedBytes / partSize = count := by rw [huploaded, Nat.mul_div_cancel _ hpos]
  have hnext : (count + 1) * partSize = uploadedBytes + partSize := by rw [Nat.succ_mul, huploaded]
  simp only [nextPart, hcount, ← huploaded]
  refine ⟨_, rfl, ?_⟩
  cases finished with
  | false =>
    have hroom : uploadedBytes + partSize ≤ size := by simpa using henough
    rw [if_neg (by simp), if_neg (by omega)]
    omega
  | true =>
    simp only [true_and]
    split_ifs <;> omega

inductive History.Standing (partSize : Nat) (h : History) : Prop
  | full (hparts : FullParts partSize h.parts)
      (huploaded : h.vars.uploadedBytes = h.parts.length * partSize)
      (hwithin : h.vars.uploadedBytes ≤ h.size)
  | whole (hfinished : h.finished = true) (huploaded : h.vars.uploadedBytes = h.size)
      (hparts : PartsTile partSize h.parts)
      (htiles : h.parts ≠ [] → Tiles 0 (h.parts.map PartRange.range) h.size)

namespace History

variable {partSize : Nat} {h t : History}

theorem Standing.partsTile (hpos : 1 ≤ partSize) (hs : h.Standing partSize) :
    PartsTile partSize h.parts := by
  cases hs with
  | full hparts => exact hparts.partsTile hpos
  | whole _ _ hparts => exact hparts

def after (h : History) (vars : UploadVars) (ended : Bool) (requests : List Request) : History :=
  { h with vars, ended, requests := h.requests ++ requests }

theorem parts_after (vars : UploadVars) (ended : Bool) (requests : List Request) :
    (h.after vars ended requests).parts = h.parts ++ requests.filterMap Request.part? :=
  List.filterMap_append

variable {vars : UploadVars} {requests : List Request}

theorem Standing.same (hs : h.Standing partSize)
    (hsame : vars.uploadedBytes = h.vars.uploadedBytes) (ended : Bool)
    (hnone : requests.filterMap Request.part? = []) :
    (h.after vars ended requests).Standing partSize := by
  have hparts : (h.after vars ended requests).parts = h.parts := by
    rw [parts_after, hnone, List.append_nil]
  cases hs with
  | full hfull huploaded hwithin =>
    exact .full (hparts ▸ hfull) (hsame.trans (hparts ▸ huploaded)) (hsame.trans_le hwithin)
  | whole hfinished huploaded htile htiles =>
    exact .whole hfinished (hsame.trans huploaded) (hparts ▸ htile) (hparts ▸ htiles)

theorem Standing.putObject (hpos : 1 ≤ partSize) (hs : h.Standing partSize)
    (hfinished : h.finished = true) (hnothing : h.vars.uploadedBytes = 0)
    (hvars : vars.uploadedBytes = h.size) (ended : Bool)
    (hnone : requests.filterMap Request.part? = []) :
    (h.after vars ended requests).Standing partSize := by
  have hparts : (h.after vars ended requests).parts = h.parts := by
    rw [parts_after, hnone, List.append_nil]
  refine .whole hfinished hvars (hparts ▸ hs.partsTile hpos) ?_
  rw [hparts]
  cases hs with
  | full =>
    intro hsome
    have hempty : h.parts.length * partSize = 0 := by omega
    have hlength := List.length_pos_iff.mpr hsome
    rcases Nat.mul_eq_zero.mp hempty with hzero | hzero <;> omega
  | whole _ _ _ htiles => exact htiles

theorem Standing.uploadPart (hpos : 1 ≤ partSize) (hs : h.Standing partSize)
    (hleft : h.vars.uploadedBytes < h.size)
    (henough : h.finished = true ∨ h.vars.uploadedBytes + partSize ≤ h.size)
    (hvars : vars.uploadedBytes = h.vars.uploadedBytes +
      (nextPart partSize h.size h.finished h.vars.uploadedBytes).contentLength)
    (hrequests : requests.filterMap Request.part? =
      [nextPart partSize h.size h.finished h.vars.uploadedBytes]) (ended : Bool) :
    (h.after vars ended requests).Standing partSize := by
  cases hs with
  | whole => omega
  | full hparts huploaded =>
    obtain ⟨endingByte, hpart, hlonger, hend⟩ := nextPart_of_full hpos huploaded hleft henough
    rw [hpart] at hvars hrequests
    have hnext : Follows partSize h.parts ⟨h.parts.length, h.vars.uploadedBytes, endingByte⟩ :=
      ⟨rfl, huploaded, hlonger⟩
    have hafter : (h.after vars ended requests).parts =
        h.parts ++ [⟨h.parts.length, h.vars.uploadedBytes, endingByte⟩] := by
      rw [parts_after, hrequests]
    have hbytes : vars.uploadedBytes = endingByte := by
      rw [hvars]
      exact Nat.add_sub_cancel' hlonger.le
    rcases hend with ⟨hfull, hroom⟩ | ⟨hfinished, hsize, hshort⟩
    · refine .full (hafter ▸ hparts.append hnext hfull) ?_ (hbytes.trans_le hroom)
      rw [hafter, List.length_append, List.length_singleton, Nat.succ_mul, ← huploaded, ← hfull]
      exact hbytes
    · refine .whole hfinished (hbytes.trans hsize) ?_ ?_
      · rw [hafter]
        refine hparts.partsTile_append hnext ?_
        omega
      · intro _
        rw [hafter]
        exact hsize ▸ hnext.tiles hparts

theorem Standing.doMultipartUpload (hpos : 1 ≤ partSize) (hs : h.Standing partSize)
    (hleft : h.vars.uploadedBytes < h.size)
    (henough : h.finished = true ∨ h.vars.uploadedBytes + partSize ≤ h.size)
    (vars : UploadVars) (hvars : vars.uploadedBytes = h.vars.uploadedBytes)
    {ok : Bool} (hrequests : requests.filterMap Request.part? =
      (Request.uploadPart (nextPart partSize h.size h.finished
        h.vars.uploadedBytes) ok).part?.toList) :
    (h.after (S3.doMultipartUpload partSize h.size h.finished vars ok).1 false
      requests).Standing partSize := by
  cases ok with
  | false => exact hs.same hvars false hrequests
  | true =>
    refine hs.uploadPart hpos hleft henough ?_ hrequests false
    simp only [S3.doMultipartUpload, if_true, hvars]

theorem part_doMultipartUpload (size : Nat) (finished : Bool) (v : UploadVars) (ok : Bool) :
    [Request.uploadPart (S3.doMultipartUpload partSize size finished v ok).2
      ok].filterMap Request.part? =
      (Request.uploadPart (nextPart partSize size finished v.uploadedBytes) ok).part?.toList := by
  cases ok <;> rfl

theorem Standing.iteration (hpos : 1 ≤ partSize) (hs : h.Standing partSize) (answers : Answers) :
    (h.after (h.iteration partSize answers).vars (h.iteration partSize answers).finished
      (h.iteration partSize answers).requests).Standing partSize := by
  simp only [History.iteration, processUpload]
  split_ifs with hsingle hput hpart hid hcreate hdone hid hcomplete
  · exact hs.putObject hpos hsingle.1 hsingle.2 (by simp [hsingle.2]) false rfl
  · exact hs.same rfl false rfl
  · exact hs.doMultipartUpload hpos (by omega) (hpart.imp And.left (by omega))
      h.vars rfl (part_doMultipartUpload ..)
  · exact hs.doMultipartUpload hpos (by omega) (hpart.imp And.left (by omega))
      { h.vars with uploadID := true } rfl (part_doMultipartUpload ..)
  all_goals exact hs.same rfl _ rfl

theorem Standing.step (hpos : 1 ≤ partSize) (hs : h.Standing partSize)
    {action : HistoryAction} (hstep : h.step partSize action = some t) : t.Standing partSize := by
  cases action with
  | write =>
    obtain ⟨hfinished, ⟨⟩⟩ := Option.ite_none_left_eq_some.mp hstep
    cases hs with
    | full hparts huploaded hwithin => exact .full hparts huploaded (Nat.le_add_right_of_le hwithin)
    | whole hdone => exact absurd hdone hfinished
  | finish =>
    cases hstep
    cases hs with
    | full hparts huploaded hwithin => exact .full hparts huploaded hwithin
    | whole _ huploaded hparts htiles => exact .whole rfl huploaded hparts htiles
  | iterate answers =>
    obtain ⟨-, ⟨⟩⟩ := Option.ite_none_left_eq_some.mp hstep
    exact hs.iteration hpos answers
  | abort =>
    cases hstep
    cases hs with
    | full hparts huploaded hwithin => exact .full hparts huploaded hwithin
    | whole hdone huploaded hparts htiles => exact .whole hdone huploaded hparts htiles

theorem standing_init (partSize : Nat) : (histories partSize).init.Standing partSize :=
  .full (fullParts_nil partSize) (Nat.zero_mul partSize).symm (Nat.le_refl 0)

theorem standing_of_reachable (hpos : 1 ≤ partSize)
    (hh : (histories partSize).Reachable h) : h.Standing partSize :=
  hh.invariant (standing_init partSize) fun _ _ _ hold hstep =>
    hold.step hpos hstep

def Completes (h : History) (partSize : Nat) (answers : Answers) : Prop :=
  h.ended = false ∧ ∃ partNumbers ok, .completeMultipartUpload partNumbers ok ∈
    (h.iteration partSize answers).requests

theorem Completes.done {answers : Answers} (hcompletes : h.Completes partSize answers) :
    h.finished = true ∧ h.vars.uploadedBytes = h.size := by
  obtain ⟨-, partNumbers, ok, hmem⟩ := hcompletes
  simp only [History.iteration, processUpload] at hmem
  split_ifs at hmem with hsingle hput hpart hid hcreate hdone hid hcomplete <;>
    simp at hmem <;> exact ⟨hdone.1, by omega⟩

theorem Standing.tiles (hs : h.Standing partSize)
    (hdone : h.finished = true ∧ h.vars.uploadedBytes = h.size)
    (hsome : h.parts ≠ []) : Tiles 0 (h.parts.map PartRange.range) h.size := by
  cases hs with
  | full hparts huploaded =>
    rw [← hdone.2, huploaded]
    exact hparts.tiles
  | whole _ _ _ htiles => exact htiles hsome

end History

/-- For every part size and every history of the file, the parts follow each
other from its start; when the upload is completed, they cover the file. -/
theorem parts_tile {partSize : Nat} (hpos : 1 ≤ partSize) {h : History}
    (hh : (histories partSize).Reachable h) : PartsTile partSize h.parts ∧
      ∀ answers, h.Completes partSize answers → h.parts ≠ [] → ∀ byte, (∃ part ∈ h.parts,
          byte ∈ Set.Ico part.startingByte part.endingByte) ↔ byte < h.size := by
  have hs := History.standing_of_reachable hpos hh
  refine ⟨hs.partsTile hpos, fun answers hcompletes hsome byte => ?_⟩
  have htiles := hs.tiles hcompletes.done hsome
  simpa [PartRange.range] using htiles.exists_mem_iff byte

theorem parts_tile_eightBytes : ∃ h, (histories 3).run [.write 4, .iterate ⟨true, true, true, true⟩,
        .write 4, .finish, .iterate ⟨true, true, false, true⟩,
        .iterate ⟨true, true, true, true⟩] = some h ∧
      h.parts = [⟨0, 0, 3⟩, ⟨1, 3, 8⟩] ∧ PartsTile 3 h.parts ∧ ∀ byte, (∃ part ∈ h.parts,
        byte ∈ Set.Ico part.startingByte part.endingByte) ↔ byte < 8 := by
  refine TransitionSystem.exists_run _ rfl fun h hrun => ?_
  obtain ⟨htile, hcover⟩ := parts_tile (by decide) ⟨_, hrun⟩
  rw [← Option.some.inj hrun] at htile hcover ⊢
  exact ⟨rfl, htile, hcover ⟨true, true, true, true⟩ ⟨rfl, [0, 1], true, by decide⟩
    (List.cons_ne_nil _ _)⟩

end ContainerSSH.S3
