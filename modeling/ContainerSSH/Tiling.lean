/-
Ranges that tile an interval: each begins where the one before it ends.
-/
import Mathlib.Order.CompletePartialOrder
import Mathlib.Order.Interval.Set.Disjoint
import Mathlib.Tactic.Common

namespace Tiling

universe u

variable {α : Type u} [LinearOrder α] {first last next : α} {ranges : List (α × α)}

def Tiles (first : α) : List (α × α) → α → Prop
  | [], last => first = last
  | range :: rest, last => range.1 = first ∧ range.1 < range.2 ∧ Tiles range.2 rest last

theorem Tiles.append_singleton (htiles : Tiles first ranges last)
    (hlt : last < next) : Tiles first (ranges ++ [(last, next)]) next := by
  induction ranges generalizing first with
  | nil => exact ⟨htiles.symm, hlt, rfl⟩
  | cons range rest ih => exact ⟨htiles.1, htiles.2.1, ih htiles.2.2⟩

theorem Tiles.le (htiles : Tiles first ranges last) : first ≤ last := by
  induction ranges generalizing first with
  | nil => exact htiles.le
  | cons range rest ih =>
    rw [← htiles.1]
    exact htiles.2.1.le.trans (ih htiles.2.2)

theorem Tiles.exists_mem_iff (htiles : Tiles first ranges last) (x : α) :
    (∃ range ∈ ranges, x ∈ Set.Ico range.1 range.2) ↔ x ∈ Set.Ico first last := by
  induction ranges generalizing first with
  | nil => simp [show first = last from htiles]
  | cons range rest ih =>
    obtain ⟨hfirst, hlt, hrest⟩ := htiles
    simp only [List.mem_cons, exists_eq_or_imp, ih hrest]
    rw [← Set.mem_union, Set.Ico_union_Ico_eq_Ico hlt.le hrest.le, hfirst]

theorem Tiles.pairwise_disjoint (htiles : Tiles first ranges last) :
    ranges.Pairwise fun a b => Disjoint (Set.Ico a.1 a.2) (Set.Ico b.1 b.2) := by
  induction ranges generalizing first with
  | nil => exact .nil
  | cons range rest ih =>
    obtain ⟨-, -, hrest⟩ := htiles
    refine .cons (fun later hmem => ?_) (ih hrest)
    rw [Set.disjoint_left]
    intro x hx hlater
    have hbeyond := ((hrest.exists_mem_iff x).mp ⟨later, hmem, hlater⟩).1
    exact absurd hx.2 (not_lt.mpr hbeyond)

end Tiling
