/-
Lists made of blocks.
-/
import Mathlib.Algebra.Ring.Int.Defs
import Mathlib.Data.List.Nodup

namespace ListBlocks

universe u v

variable {α : Type u} {β : Type v}

variable {f : α → List β} {l : List α}

theorem flatMap_eq_append_cons {pre post : List β} {e : β}
    (hsplit : l.flatMap f = pre ++ e :: post) :
    ∃ before a after x y, l = before ++ a :: after ∧ f a = x ++ e :: y ∧
      pre = before.flatMap f ++ x ∧ post = y ++ after.flatMap f := by
  induction l generalizing pre with
  | nil => simp at hsplit
  | cons head tail ih =>
    rw [List.flatMap_cons, List.append_eq_append_iff] at hsplit
    rcases hsplit with ⟨skipped, rfl, htail⟩ | ⟨rest, hhead, hrest⟩
    · obtain ⟨before, a, after, x, y, rfl, hblock, rfl, rfl⟩ := ih htail
      exact ⟨head :: before, a, after, x, y, rfl, hblock, by simp, rfl⟩
    · cases rest with
      | nil =>
        obtain ⟨before, a, after, x, y, rfl, hblock, hpre, rfl⟩ := @ih [] hrest.symm
        refine ⟨head :: before, a, after, x, y, rfl, hblock, ?_, rfl⟩
        simp [hhead, ← hpre]
      | cons first rest =>
        obtain ⟨rfl, rfl⟩ := hrest
        exact ⟨[], head, tail, pre, rest, rfl, hhead, rfl, rfl⟩

variable {a : α}

theorem append_singleton_eq_append_cons {x y : List α} {e : α}
    (hsplit : l ++ [a] = x ++ e :: y) (he : e ∉ l) : x = l ∧ e = a ∧ y = [] := by
  rcases List.append_eq_append_iff.mp hsplit with
    ⟨middle, rfl, hlast⟩ | ⟨middle, rfl, hlast⟩
  · cases middle with
    | nil => simp_all
    | cons => simp at hlast
  · cases middle with
    | nil | cons => simp_all

theorem append_cons_inj_of_last {x x' y y' : List α} (hy : a ∉ y) (hy' : a ∉ y')
    (hsame : x ++ a :: y = x' ++ a :: y') : x = x' ∧ y = y' := by
  rcases List.append_eq_append_iff.mp hsame with ⟨middle, rfl, htail⟩ | ⟨middle, rfl, htail⟩
  · cases middle with
    | nil | cons => simp_all
  · cases middle with
    | nil | cons => simp_all

theorem splitOn_flatMap_append [DecidableEq α] {blocks : List (List α)}
    (hblocks : ∀ block ∈ blocks, a ∉ block) :
    (blocks.flatMap fun block => block ++ [a]).splitOn a = blocks ++ [[]] := by
  induction blocks with
  | nil => rfl
  | cons block rest ih =>
    obtain ⟨hblock, hrest⟩ := List.forall_mem_cons.mp hblocks
    have hdiffers : ∀ x ∈ block, (x == a) = false := by
      intro x hx
      exact beq_false_of_ne (ne_of_mem_of_not_mem hx hblock)
    rw [List.flatMap_cons, List.append_assoc, List.singleton_append,
      List.splitOn, List.splitOnP_append_cons_of_forall_mem hdiffers a
        (beq_self_eq_true a), ← List.splitOn, ih hrest, List.cons_append]

theorem zipIdx_position_notMem {before after : List (α × Nat)} {position : Nat}
    (hsplit : l.zipIdx = before ++ (a, position) :: after) :
    position ∉ (before ++ after).map Prod.snd := by
  have hnodup : (l.zipIdx.map Prod.snd).Nodup := by
    rw [List.zipIdx_map_snd]
    exact List.nodup_range'
  rw [hsplit] at hnodup
  simp only [List.map_append] at hnodup ⊢
  exact (List.nodup_middle.mp hnodup).notMem

theorem flatMap_sublist_flatMap {g : α → List β} (hsublist : ∀ a ∈ l, (f a).Sublist (g a)) :
    (l.flatMap f).Sublist (l.flatMap g) := by
  induction l with
  | nil => exact List.Sublist.refl _
  | cons head tail ih =>
    obtain ⟨hhead, htail⟩ := List.forall_mem_cons.mp hsublist
    exact hhead.append (ih htail)

theorem flatMap_eq_flatMap_iff {g : α → List β} (hsublist : ∀ a ∈ l, (f a).Sublist (g a)) :
    l.flatMap f = l.flatMap g ↔ ∀ a ∈ l, f a = g a := by
  induction l with
  | nil => simp
  | cons head tail ih =>
    obtain ⟨hhead, htail⟩ := List.forall_mem_cons.mp hsublist
    have hrest := flatMap_sublist_flatMap htail
    rw [List.flatMap_cons, List.flatMap_cons, List.forall_mem_cons, ← ih htail]
    constructor
    · intro heq
      have hlength := congrArg List.length heq
      rw [List.length_append, List.length_append] at hlength
      have hle := hhead.length_le
      have hle' := hrest.length_le
      exact ⟨hhead.eq_of_length (by omega), hrest.eq_of_length (by omega)⟩
    · rintro ⟨hsame, hsame'⟩
      rw [hsame, hsame']

section Set

variable {l : List α} {k : Nat} {P : Nat → α → Prop}

variable {new : α}

theorem forall_getElem?_set (hold : ∀ i a, k ≠ i → l[i]? = some a → P i a)
    (hnew : P k new) {i : Nat} {a : α} (ha : (l.set k new)[i]? = some a) : P i a := by
  rw [List.getElem?_set] at ha
  by_cases hi : k = i
  · rw [if_pos hi, Option.ite_none_right_eq_some] at ha
    cases ha.2
    exact hi ▸ hnew
  · rw [if_neg hi] at ha
    exact hold i a hi ha

theorem forall_getElem?_set_iff {old : α} {g : Prop} (hold : l[k]? = some old)
    (hnew : P k new ↔ P k old ∧ g) : (∀ i a, (l.set k new)[i]? = some a → P i a) ↔
      (∀ i a, l[i]? = some a → P i a) ∧ g := by
  have hlt : k < l.length := (List.getElem?_eq_some_iff.mp hold).1
  constructor
  · intro hall
    have hkept := hnew.mp (hall k new (List.getElem?_set_self hlt))
    refine ⟨fun i a ha => ?_, hkept.2⟩
    by_cases hi : k = i
    · subst hi
      rw [hold, Option.some.injEq] at ha
      exact ha ▸ hkept.1
    · exact hall i a (by rwa [List.getElem?_set_ne hi])
  · rintro ⟨hall, hg⟩ i a ha
    exact forall_getElem?_set (fun i a _ => hall i a) (hnew.mpr ⟨hall k old hold, hg⟩) ha

theorem getElem?_append_singleton_eq_some {i : Nat} {a : α} :
    (l ++ [new])[i]? = some a ↔ l[i]? = some a ∨ i = l.length ∧ new = a := by
  rw [List.getElem?_append]
  split
  next hlt => simp [Nat.ne_of_lt hlt]
  next hle =>
    rw [List.getElem?_singleton, Option.ite_none_right_eq_some,
      List.getElem?_eq_none (by omega), Option.some.injEq]
    have hplace : i - l.length = 0 ↔ i = l.length := by omega
    simp [hplace]

theorem forall_getElem?_append_singleton (hnew : P l.length new) :
    (∀ i a, (l ++ [new])[i]? = some a → P i a) ↔ ∀ i a, l[i]? = some a → P i a := by
  constructor
  · intro hall i a ha
    have hlt : i < l.length := (List.getElem?_eq_some_iff.mp ha).1
    exact hall i a (by rwa [List.getElem?_append_left hlt])
  · intro hall i a ha
    rcases getElem?_append_singleton_eq_some.mp ha with hold | ⟨rfl, rfl⟩
    · exact hall i a hold
    · exact hnew

end Set

theorem modify_congr {f g : α → α} {k : Nat} (ha : l[k]? = some a)
    (hsame : f a = g a) : l.modify k f = l.modify k g := by
  apply List.ext_getElem?
  intro i
  by_cases hi : k = i
  · subst hi
    simp [ha, hsame]
  · simp [hi]

theorem modify_append_singleton (f : α → α) (l : List α) (a : α) :
    (l ++ [a]).modify l.length f = l ++ [f a] := by
  induction l with
  | nil => rfl
  | cons b l ih => simpa using ih

theorem countP_set {p : α → Bool} {k : Nat} {b : α} (ha : l[k]? = some a) :
    ((l.set k b).countP p : Int) = l.countP p + ((p b).toNat - (p a).toNat) := by
  obtain ⟨hlt, rfl⟩ := List.getElem?_eq_some_iff.mp ha
  have hle := List.boole_getElem_le_countP (p := p) hlt
  rw [List.countP_set hlt]
  grind

theorem sum_map_modify {f : α → Int} {g : α → α} {k : Nat} (ha : l[k]? = some a) :
    ((l.modify k g).map f).sum = (l.map f).sum + (f (g a) - f a) := by
  induction l generalizing k with
  | nil => simp at ha
  | cons b l ih =>
    cases k with
    | zero =>
      rw [List.getElem?_cons_zero] at ha
      cases ha
      simp only [List.modify_zero_cons, List.map_cons, List.sum_cons]
      omega
    | succ =>
      simp only [List.modify_succ_cons, List.map_cons, List.sum_cons, ih ha]
      omega

theorem sum_map_eq_countP {f : α → Int} {p : α → Bool}
    (hf : ∀ a, f a = if p a then 1 else 0) (l : List α) : (l.map f).sum = l.countP p := by
  induction l with
  | nil => rfl
  | cons a l ih =>
    rw [List.map_cons, List.sum_cons, hf, List.countP_cons]
    split_ifs <;> omega

theorem mapM_eq_ite (f : α → Option β) (l : List α) :
    l.mapM f = if ∀ a ∈ l, f a ≠ none then some (l.filterMap f) else none := by
  induction l with
  | nil => simp
  | cons a rest ih =>
    rw [List.mapM_cons, ih]
    cases hfirst : f a with
    | none => simp [hfirst]
    | some b =>
      by_cases hrest : ∀ c ∈ rest, f c ≠ none
      · rw [if_pos hrest, if_pos (by simpa [hfirst] using hrest), List.filterMap_cons_some hfirst]
        rfl
      · rw [if_neg hrest, if_neg fun h => hrest fun c hc => h c (List.mem_cons_of_mem a hc)]
        rfl

end ListBlocks
