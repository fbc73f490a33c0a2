/-
Objects that are put together from numbered parts, in the order of the numbers.
-/
import Mathlib.Tactic.Common

namespace NumberedParts

universe u

variable {α : Type u} {parts other : Nat → Option (List α)} {count : Nat}

def assemble (parts : Nat → Option (List α)) (numbers : List Nat) : Option (List α) :=
  ((numbers.mergeSort (· ≤ ·)).mapM parts).map List.flatten

theorem mapM_congr {β : Type u} {f g : Nat → Option β} {numbers : List Nat}
    (hsame : ∀ number ∈ numbers, f number = g number) : numbers.mapM f = numbers.mapM g := by
  induction numbers with
  | nil => rfl
  | cons head tail ih =>
    rw [List.mapM_cons, List.mapM_cons, hsame head List.mem_cons_self,
      ih fun number hmem => hsame number (List.mem_cons_of_mem head hmem)]

theorem assemble_range (parts : Nat → Option (List α)) (count : Nat) :
    assemble parts (List.range count) = ((List.range count).mapM parts).map List.flatten := by
  rw [assemble, List.mergeSort_of_pairwise]
  simpa using List.pairwise_le_range

theorem assemble_zero : assemble parts (List.range 0) = some [] := by
  rw [assemble_range]
  rfl

theorem assemble_congr (hsame : ∀ number < count, parts number = other number) :
    assemble parts (List.range count) = assemble other (List.range count) := by
  rw [assemble_range, assemble_range, mapM_congr]
  exact fun number hmem => hsame number (List.mem_range.mp hmem)

theorem assemble_succ {body last : List α} (hbody : assemble parts (List.range count) = some body)
    (hlast : parts count = some last) :
    assemble parts (List.range (count + 1)) = some (body ++ last) := by
  rw [assemble_range, Option.map_eq_some_iff] at hbody
  obtain ⟨bodies, hbodies, rfl⟩ := hbody
  rw [assemble_range, List.range_succ, List.mapM_append, hbodies]
  simp [hlast]

end NumberedParts
