/-
Labelled transition systems whose step is a partial function.
-/
import Mathlib.Tactic.Common

universe u v

structure TransitionSystem (State : Type u) (Action : Type v) where
  init : State
  step : State → Action → Option State

namespace TransitionSystem

variable {State : Type u} {Action : Type v} (T : TransitionSystem State Action)

def runFrom (s : State) : List Action → Option State
  | [] => some s
  | a :: rest => (T.step s a).bind fun t => runFrom t rest

def run (actions : List Action) : Option State := T.runFrom T.init actions

def Reachable (s : State) : Prop := ∃ actions, T.run actions = some s

/-- `G` holds of every action of the run at the state in which it is taken. -/
def Meets (G : State → Action → Prop) (s : State) : List Action → Prop
  | [] => True
  | a :: rest => G s a ∧ ∀ t, T.step s a = some t → Meets G t rest

instance decidableMeets {G : State → Action → Prop}
    [∀ s a, Decidable (G s a)] (s : State) :
    (actions : List Action) → Decidable (T.Meets G s actions)
  | [] => .isTrue trivial
  | a :: rest =>
    match hstep : T.step s a with
    | none => decidable_of_iff (G s a) (by simp [Meets, hstep])
    | some t =>
      have : Decidable (T.Meets G t rest) := decidableMeets t rest
      decidable_of_iff (G s a ∧ T.Meets G t rest) (by simp [Meets, hstep])

variable {G : State → Action → Prop} {Inv : State → Prop} {s t : State} {a : Action}
  {first second rest actions : List Action}

@[simp]
theorem runFrom_nil (s : State) : T.runFrom s [] = some s := rfl

theorem runFrom_cons_eq_some : T.runFrom s (a :: rest) = some t ↔
      ∃ r, T.step s a = some r ∧ T.runFrom r rest = some t := by
  rw [runFrom, Option.bind_eq_some_iff]

theorem runFrom_cons_of_step {r : State} (hstep : T.step s a = some r)
    (rest : List Action) : T.runFrom s (a :: rest) = T.runFrom r rest := by
  rw [runFrom, hstep, Option.bind_some]

theorem runFrom_induction {T : TransitionSystem State Action} {t : State}
    {motive : (s : State) → (actions : List Action) → T.runFrom s actions = some t → Prop}
    (nil : motive t [] rfl) (cons : ∀ s a r rest (hstep : T.step s a = some r)
      (hrest : T.runFrom r rest = some t), motive r rest hrest →
      motive s (a :: rest) ((T.runFrom_cons_of_step hstep rest).trans hrest))
    (s : State) (actions : List Action) (hrun : T.runFrom s actions = some t) :
    motive s actions hrun := by
  induction actions generalizing s with
  | nil =>
    cases hrun
    exact nil
  | cons a rest ih =>
    obtain ⟨r, hstep, hrest⟩ := T.runFrom_cons_eq_some.mp hrun
    exact cons s a r rest hstep hrest (ih r hrest)

theorem runFrom_append (hfirst : T.runFrom s first = some t) :
    T.runFrom s (first ++ second) = T.runFrom t second := by
  induction s, first, hfirst using runFrom_induction with
  | nil => rw [List.nil_append]
  | cons s a r rest hstep hrest ih => rw [List.cons_append, T.runFrom_cons_of_step hstep, ih]

theorem meets_cons_iff (hstep : T.step s a = some t) :
    T.Meets G s (a :: rest) ↔ G s a ∧ T.Meets G t rest := by
  simp [Meets, hstep]

theorem meets_cons (hmeets : G s a) (hstep : T.step s a = some t)
    (hrest : T.Meets G t rest) : T.Meets G s (a :: rest) :=
  (T.meets_cons_iff hstep).mpr ⟨hmeets, hrest⟩

theorem meets_append_iff (hfirst : T.runFrom s first = some t) :
    T.Meets G s (first ++ second) ↔ T.Meets G s first ∧ T.Meets G t second := by
  induction s, first, hfirst using runFrom_induction with
  | nil => simp [Meets]
  | cons s a r rest hstep hrest ih =>
    rw [List.cons_append, T.meets_cons_iff hstep, T.meets_cons_iff hstep, ih, and_assoc]

theorem Meets.append {T : TransitionSystem State Action}
    (hmeets : T.Meets G s first) (hfirst : T.runFrom s first = some t)
    (hsecond : T.Meets G t second) : T.Meets G s (first ++ second) :=
  (T.meets_append_iff hfirst).mpr ⟨hmeets, hsecond⟩

theorem runFrom_invariant_of_meets (hstep : ∀ s a t, Inv s → G s a → T.step s a = some t → Inv t)
    (hs : Inv s) (hmeets : T.Meets G s actions) (hrun : T.runFrom s actions = some t) : Inv t := by
  induction s, actions, hrun using runFrom_induction with
  | nil => exact hs
  | cons s a r rest hr hrest ih => exact ih (hstep s a r hs hmeets.1 hr) (hmeets.2 r hr)

theorem meets_true (s : State) (actions : List Action) : T.Meets (fun _ _ => True) s actions := by
  induction actions generalizing s with
  | nil => trivial
  | cons a rest ih => exact ⟨trivial, fun t _ => ih t⟩

theorem runFrom_invariant (hstep : ∀ s a t, Inv s → T.step s a = some t → Inv t)
    (hs : Inv s) (hrun : T.runFrom s actions = some t) : Inv t :=
  T.runFrom_invariant_of_meets (fun s a t hinv _ => hstep s a t hinv) hs
    (T.meets_true s actions) hrun

theorem exists_run {P : State → Prop} (hsome : (T.run actions).isSome = true)
    (hend : ∀ s, T.run actions = some s → P s) : ∃ s, T.run actions = some s ∧ P s := by
  obtain ⟨s, hrun⟩ := Option.isSome_iff_exists.mp hsome
  exact ⟨s, hrun, hend s hrun⟩

theorem reachable_init (T : TransitionSystem State Action) : T.Reachable T.init := ⟨[], rfl⟩

namespace Reachable

variable {T}

theorem invariant (hs : T.Reachable s) (hinit : Inv T.init)
    (hstep : ∀ s a t, Inv s → T.step s a = some t → Inv t) : Inv s := by
  obtain ⟨actions, hrun⟩ := hs
  exact T.runFrom_invariant hstep hinit hrun

theorem step (hs : T.Reachable s) (hstep : T.step s a = some t) : T.Reachable t := by
  obtain ⟨actions, hrun⟩ := hs
  refine ⟨actions ++ [a], ?_⟩
  rw [run, T.runFrom_append hrun]
  exact T.runFrom_cons_eq_some.mpr ⟨t, hstep, rfl⟩

theorem runFrom (hs : T.Reachable s) (hrun : T.runFrom s actions = some t) : T.Reachable t :=
  T.runFrom_invariant (fun _ _ _ hr hstep => hr.step hstep) hs hrun

theorem runFrom_invariant_of_meets
    (hstep : ∀ s a t, T.Reachable s → Inv s → G s a → T.step s a = some t → Inv t)
    (hs : T.Reachable s) (hinv : Inv s) (hmeets : T.Meets G s actions)
    (hrun : T.runFrom s actions = some t) : Inv t := by
  have hboth : ∀ s a t, (T.Reachable s ∧ Inv s) → G s a →
      T.step s a = some t → T.Reachable t ∧ Inv t :=
    fun s a t hs hg hstep' =>
      ⟨hs.1.step hstep', hstep s a t hs.1 hs.2 hg hstep'⟩
  exact (T.runFrom_invariant_of_meets hboth ⟨hs, hinv⟩ hmeets hrun).2

theorem runFrom_invariant (hstep : ∀ s a t, T.Reachable s → Inv s → T.step s a = some t → Inv t)
    (hs : T.Reachable s) (hinv : Inv s) (hrun : T.runFrom s actions = some t) : Inv t :=
  hs.runFrom_invariant_of_meets (fun s a t hs hinv _ => hstep s a t hs hinv)
    hinv (T.meets_true s actions) hrun

end Reachable

theorem meets_iff_forall_cut (hrun : T.runFrom s actions = some t) : T.Meets G s actions ↔
      ∀ before a after r, actions = before ++ a :: after → T.runFrom s before = some r → G r a := by
  induction s, actions, hrun using runFrom_induction with
  | nil => simp [Meets]
  | cons s a r rest hstep hrest ih =>
    rw [T.meets_cons_iff hstep, ih]
    constructor
    · rintro ⟨hfirst, hcuts⟩ before b after q hcut hbefore
      cases before with
      | nil =>
        cases hcut
        cases hbefore
        exact hfirst
      | cons c before =>
        cases hcut
        rw [T.runFrom_cons_of_step hstep] at hbefore
        exact hcuts before b after q rfl hbefore
    · intro hcuts
      refine ⟨hcuts [] a rest s rfl rfl, ?_⟩
      rintro before b after q rfl hbefore
      apply hcuts (a :: before) b after q rfl
      rw [T.runFrom_cons_of_step hstep, hbefore]

theorem meets_iff_forall_mem {G : Action → Prop} (hrun : T.runFrom s actions = some t) :
    T.Meets (fun _ a => G a) s actions ↔ ∀ a ∈ actions, G a := by
  induction s, actions, hrun using runFrom_induction with
  | nil => simp [Meets]
  | cons s a r rest hstep hrest ih => rw [T.meets_cons_iff hstep, ih, List.forall_mem_cons]

theorem runFrom_iff_meets {P : State → Prop} (hinv : ∀ s a t, Inv s → T.step s a = some t → Inv t)
    (hstep : ∀ s a t, Inv s → T.step s a = some t → (P t ↔ P s ∧ G s a))
    (hs : Inv s) (hrun : T.runFrom s actions = some t) : P t ↔ P s ∧ T.Meets G s actions := by
  induction s, actions, hrun using runFrom_induction with
  | nil => simp [Meets]
  | cons s a r rest hr hrest ih =>
    rw [ih (hinv s a r hs hr), hstep s a r hs hr, T.meets_cons_iff hr, and_assoc]

theorem forall_prefix_iff_meets {P : State → Prop}
    (hinv : ∀ s a t, Inv s → T.step s a = some t → Inv t)
    (hstep : ∀ s a t, Inv s → P s → T.step s a = some t → (P t ↔ G s a))
    (hs : Inv s) (hP : P s) (hrun : T.runFrom s actions = some t) :
    (∀ first r, first <+: actions → T.runFrom s first = some r → P r) ↔ T.Meets G s actions := by
  induction s, actions, hrun using runFrom_induction with
  | nil =>
    refine iff_of_true (fun first r hfirst hr => ?_) trivial
    cases List.prefix_nil.mp hfirst
    cases hr
    exact hP
  | cons s a q rest hq hrest ih =>
    have hgoes := hstep s a q hs hP hq
    have hih := fun hPq => ih (hinv s a q hs hq) hPq
    constructor
    · intro hall
      have hPq : P q := by
        apply hall [a] q (by simp)
        rw [T.runFrom_cons_of_step hq, runFrom_nil]
      refine T.meets_cons (hgoes.mp hPq) hq ((hih hPq).mp ?_)
      intro first r hfirst hr
      apply hall (a :: first) r (List.cons_prefix_cons.mpr ⟨rfl, hfirst⟩)
      rw [T.runFrom_cons_of_step hq, hr]
    · intro hmeets first r hfirst hr
      cases first with
      | nil =>
        cases hr
        exact hP
      | cons b first =>
        obtain ⟨rfl, htail⟩ := List.cons_prefix_cons.mp hfirst
        rw [T.runFrom_cons_of_step hq] at hr
        exact (hih (hgoes.mpr hmeets.1)).mpr (hmeets.2 q hq) first r htail hr

theorem forall_step_iff_meets {P : State → Action → State → Prop}
    (hinv : ∀ s a t, Inv s → G s a → T.step s a = some t → Inv t)
    (hstep : ∀ s a t, Inv s → T.step s a = some t → (P s a t ↔ G s a))
    (hs : Inv s) (hrun : T.runFrom s actions = some t) :
    (∀ before a after q r, actions = before ++ a :: after →
        T.runFrom s before = some q → T.step q a = some r → P q a r) ↔ T.Meets G s actions := by
  have hcuts := T.meets_iff_forall_cut (G := fun s a => ∀ r, T.step s a = some r → P s a r) hrun
  have hsame : T.Meets (fun s a => ∀ r, T.step s a = some r → P s a r) s actions ↔
      T.Meets G s actions := by
    clear hcuts
    induction s, actions, hrun using runFrom_induction with
    | nil => exact Iff.rfl
    | cons s a r rest hr hrest ih =>
      simp only [T.meets_cons_iff hr, hr, Option.some.injEq, forall_eq', hstep s a r hs hr]
      exact and_congr_right fun hmeets => ih (hinv s a r hs hmeets hr)
  rw [← hsame, hcuts]
  exact ⟨fun h before a after q hcut hq r => h before a after q r hcut hq,
    fun h before a after q r hcut hq => h before a after q hcut hq r⟩

theorem runFrom_tally {m : State → Int} {p : State → Action → Prop}
    (hcount : ∀ s a t, T.step s a = some t → p s a → m t = m s + 1)
    (hsame : ∀ s a t, T.step s a = some t → ¬ p s a → m t = m s)
    (hrun : T.runFrom s actions = some t) :
    m s ≤ m t ∧ (m t = m s ↔ T.Meets (fun s a => ¬ p s a) s actions) := by
  induction s, actions, hrun using runFrom_induction with
  | nil => simp [Meets]
  | cons s a r rest hstep hrest ih =>
    obtain ⟨hle, hiff⟩ := ih
    rw [T.meets_cons_iff hstep, ← hiff]
    by_cases hp : p s a
    · have hgrows := hcount s a r hstep hp
      exact ⟨by omega, iff_of_false (by omega) fun hmeets => hmeets.1 hp⟩
    · rw [hsame s a r hstep hp] at hle ⊢
      exact ⟨hle, (and_iff_right hp).symm⟩

theorem runFrom_flatMap {β : Type*} {m : State → List β} {f : Action → List β}
    (hinv : ∀ s a t, Inv s → T.step s a = some t → Inv t)
    (hstep : ∀ s a t, Inv s → T.step s a = some t → m t = m s ++ f a)
    (hs : Inv s) (hrun : T.runFrom s actions = some t) : m t = m s ++ actions.flatMap f := by
  induction s, actions, hrun using runFrom_induction with
  | nil => rw [List.flatMap_nil, List.append_nil]
  | cons s a r rest hr hrest ih =>
    rw [ih (hinv s a r hs hr), hstep s a r hs hr, List.flatMap_cons, List.append_assoc]

theorem runFrom_measure {p : Action → Bool} {measure : State → Nat}
    (hstep : ∀ s a t, Inv s → G s a → T.step s a = some t →
      Inv t ∧ measure t + (p a).toNat ≤ measure s) (hs : Inv s) (hmeets : T.Meets G s actions)
    (hrun : T.runFrom s actions = some t) : actions.countP p + measure t ≤ measure s := by
  induction s, actions, hrun using runFrom_induction with
  | nil => simp
  | cons s a r rest hr hrest ih =>
    obtain ⟨hinv, hless⟩ := hstep s a r hs hmeets.1 hr
    have hcount := ih hinv (hmeets.2 r hr)
    cases hp : p a <;> simp [hp] at hless ⊢ <;> omega

theorem exists_runFrom_of_step {p : Action → Bool} (hstep : ∀ s, Inv s →
      ∃ a t, p a = true ∧ G s a ∧ T.step s a = some t ∧ Inv t) (hs : Inv s) (count : Nat) :
    ∃ actions t, T.runFrom s actions = some t ∧ T.Meets G s actions ∧
      actions.countP p = count ∧ Inv t := by
  induction count generalizing s with
  | zero => exact ⟨[], s, rfl, trivial, rfl, hs⟩
  | succ count ih =>
    obtain ⟨a, r, hp, hmeets, hr, hinv⟩ := hstep s hs
    obtain ⟨rest, t, hrun, hrest, hcount, ht⟩ := ih hinv
    refine ⟨a :: rest, t, T.runFrom_cons_eq_some.mpr ⟨r, hr, hrun⟩,
      T.meets_cons hmeets hr hrest, ?_, ht⟩
    rw [List.countP_cons_of_pos hp, hcount]

end TransitionSystem
