/-
The records of a sequence: the elements whose key exceeds the keys of all the records before them.
-/
import Mathlib.Data.List.Nodup
import Mathlib.Data.List.Perm.Subperm
import Mathlib.Order.Lattice
import Mathlib.Tactic.Common

universe u v

namespace Records

variable {α : Type u} {κ : Type v} [LinearOrder κ] (key : α → κ)

def keep (last : κ) : List α → List α
  | [] => []
  | a :: rest => if last < key a then a :: keep (key a) rest else keep last rest

def latest (last : κ) : List α → κ
  | [] => last
  | a :: rest => if last < key a then latest (key a) rest else latest last rest

theorem keep_append_singleton (last : κ) (l : List α) (a : α) : keep key last (l ++ [a]) =
      keep key last l ++ if latest key last l < key a then [a] else [] := by
  induction l generalizing last with
  | nil => by_cases ha : last < key a <;> simp [keep, latest, ha]
  | cons b rest ih =>
    by_cases hb : last < key b
    · simp [keep, latest, hb, ih]
    · simp [keep, latest, hb, ih]

theorem latest_append_singleton (last : κ) (l : List α) (a : α) : latest key last (l ++ [a]) =
      if latest key last l < key a then key a else latest key last l := by
  induction l generalizing last with
  | nil => by_cases ha : last < key a <;> simp [latest, ha]
  | cons b rest ih =>
    by_cases hb : last < key b
    · simp [latest, hb, ih]
    · simp [latest, hb, ih]

theorem keep_sublist (last : κ) (l : List α) : (keep key last l).Sublist l := by
  induction l generalizing last with
  | nil => exact List.Sublist.refl []
  | cons a rest ih =>
    by_cases ha : last < key a
    · simpa [keep, ha] using ih (key a)
    · simpa [keep, ha] using (ih last).cons a

theorem le_latest (last : κ) (l : List α) : last ≤ latest key last l := by
  induction l generalizing last with
  | nil => exact le_refl last
  | cons a rest ih =>
    by_cases ha : last < key a
    · simpa [latest, ha] using ha.le.trans (ih (key a))
    · simpa [latest, ha] using ih last

theorem le_latest_of_mem {last : κ} {l : List α} {a : α}
    (hmem : a ∈ keep key last l) : key a ≤ latest key last l := by
  induction l generalizing last with
  | nil => simp [keep] at hmem
  | cons b rest ih =>
    by_cases hb : last < key b
    · simp only [keep, hb, if_true, List.mem_cons] at hmem
      simp only [latest, hb]
      rcases hmem with rfl | hmem
      · exact le_latest key (key a) rest
      · exact ih hmem
    · simp only [keep, hb] at hmem
      simp only [latest, hb]
      exact ih hmem

theorem keep_eq_self_iff (last : κ) (l : List α) : keep key last l = l ↔
      (∀ a ∈ l, last < key a) ∧ l.Pairwise (fun a b => key a < key b) := by
  induction l generalizing last with
  | nil => simp [keep]
  | cons a rest ih =>
    by_cases ha : last < key a
    · simp only [keep, ha, if_true, List.cons.injEq, true_and, ih,
        List.forall_mem_cons, List.pairwise_cons]
      constructor
      · rintro ⟨habove, hpairs⟩
        exact ⟨fun b hb => ha.trans (habove b hb), habove, hpairs⟩
      · rintro ⟨-, habove, hpairs⟩
        exact ⟨habove, hpairs⟩
    · simp only [keep, ha, if_false, List.forall_mem_cons, false_and, iff_false]
      intro heq
      have hlength := (keep_sublist key last rest).length_le
      rw [heq, List.length_cons] at hlength
      omega

theorem keep_eq_self_of_subset {last : κ} {l : List α} (hnodup : l.Nodup)
    (hsubset : ∀ a ∈ l, a ∈ keep key last l) : keep key last l = l := by
  apply (keep_sublist key last l).eq_of_length_le
  exact (hnodup.subperm hsubset).length_le

end Records
