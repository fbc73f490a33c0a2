/-
How many keys of a partial map hold a value with some property, and how the number changes when
one key is updated.
-/
import Mathlib.Data.Set.Card
import Mathlib.Tactic.Common

universe u v

namespace PartialMap

variable {κ : Type u} {α : Type v}

noncomputable def count (p : α → Bool) (m : κ → Option α) : Nat := {k | (m k).any p = true}.ncard

theorem count_eq_zero {p : α → Bool} {m : κ → Option α}
    (hnone : ∀ k, (m k).any p = false) : count p m = 0 := by
  simp [count, hnone]

variable [Finite κ] {p : α → Bool} {m m' : κ → Option α}

theorem count_eq_add (k : κ) : count p m =
      {i | i ≠ k ∧ (m i).any p = true}.ncard + ((m k).any p).toNat := by
  cases hk : (m k).any p with
  | true =>
    have hinsert : {i | (m i).any p = true} = insert k {i | i ≠ k ∧ (m i).any p = true} := by
      ext i
      by_cases hi : i = k <;> simp [hi, hk]
    rw [count, hinsert, Set.ncard_insert_of_notMem (by simp)]
    rfl
  | false =>
    have hothers : {i | (m i).any p = true} = {i | i ≠ k ∧ (m i).any p = true} := by
      ext i
      by_cases hi : i = k <;> simp [hi, hk]
    rw [count, hothers]
    rfl

theorem count_update {k : κ} (hsame : ∀ i, i ≠ k → m' i = m i) : (count p m' : Int) =
      count p m - ((m k).any p).toNat + ((m' k).any p).toNat := by
  have hothers : {i | i ≠ k ∧ (m' i).any p = true} = {i | i ≠ k ∧ (m i).any p = true} := by
    ext i
    simp only [Set.mem_ofPred_eq, and_congr_right_iff]
    intro hi
    rw [hsame i hi]
  rw [count_eq_add k, hothers, count_eq_add (m := m) k]
  omega

theorem count_eq_zero_iff : count p m = 0 ↔ ∀ k, (m k).any p = false := by
  rw [count, Set.ncard_eq_zero, Set.eq_empty_iff_forall_notMem]
  simp

theorem count_le_card : count p m ≤ Nat.card κ := Set.ncard_le_card _

theorem count_eq_card_iff : count p m = Nat.card κ ↔ ∀ k, (m k).any p = true := by
  rw [count, ← Set.eq_univ_iff_ncard, Set.eq_univ_iff_forall]
  exact Iff.rfl

end PartialMap
