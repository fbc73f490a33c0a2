/-
Threads that wait for mutual exclusion locks.
-/
import ContainerSSH.TransitionSystem
import Mathlib.Data.Set.Basic

universe u v w x

structure LockSystem {State : Type u} {Action : Type v}
    (T : TransitionSystem State Action) (Thread : Type w) (Lock : Type x) where
  holder : State → Lock → Option Thread
  waits : State → Thread → Option Lock
  actor : Action → Option Thread
  /-- A thread that waits for a lock moves only when the lock is free. -/
  free : ∀ s a t thread lock, T.Reachable s → T.step s a = some t →
    actor a = some thread → waits s thread = some lock → holder s lock = none
  /-- Nobody takes a lock from the thread that holds it. -/
  keeps : ∀ s a t thread lock, T.Reachable s → T.step s a = some t →
    holder s lock = some thread → actor a ≠ some thread → holder t lock = some thread
  /-- Nobody moves another thread. -/
  stays : ∀ s a t thread lock, T.Reachable s → T.step s a = some t →
    waits s thread = some lock → actor a ≠ some thread → waits t thread = some lock

namespace LockSystem

variable {State : Type u} {Action : Type v} {T : TransitionSystem State Action}
  {Thread : Type w} {Lock : Type x} (L : LockSystem T Thread Lock)

def Deadlocked (threads : Set Thread) (s : State) : Prop :=
  ∀ thread ∈ threads, ∃ lock, L.waits s thread = some lock ∧
    ∃ other ∈ threads, L.holder s lock = some other

variable {L} {threads : Set Thread} {s t : State}

theorem Deadlocked.not_actor (hdead : L.Deadlocked threads s)
    (hs : T.Reachable s) {a : Action} (hstep : T.step s a = some t)
    {thread : Thread} (hthread : thread ∈ threads) : L.actor a ≠ some thread := by
  obtain ⟨lock, hwaits, other, -, hholder⟩ := hdead thread hthread
  intro hactor
  have hfree := L.free s a t thread lock hs hstep hactor hwaits
  rw [hholder] at hfree
  cases hfree

theorem Deadlocked.step (hdead : L.Deadlocked threads s) (hs : T.Reachable s)
    {a : Action} (hstep : T.step s a = some t) : L.Deadlocked threads t := by
  intro thread hthread
  obtain ⟨lock, hwaits, other, hother, hholder⟩ := hdead thread hthread
  exact ⟨lock, L.stays s a t thread lock hs hstep hwaits (hdead.not_actor hs hstep hthread),
    other, hother, L.keeps s a t other lock hs hstep hholder (hdead.not_actor hs hstep hother)⟩

structure Still (L : LockSystem T Thread Lock) (threads : Set Thread)
    (s t : State) : Prop where
  holder : ∀ thread ∈ threads, ∀ lock, L.holder s lock = some thread → L.holder t lock = some thread
  waits : ∀ thread ∈ threads, ∀ lock, L.waits s thread = some lock → L.waits t thread = some lock

theorem Deadlocked.runFrom (hdead : L.Deadlocked threads s)
    (hs : T.Reachable s) {actions : List Action}
    (hrun : T.runFrom s actions = some t) : L.Still threads s t := by
  have hstep : ∀ r a t, T.Reachable r →
      (L.Deadlocked threads r ∧ L.Still threads s r) → T.step r a = some t →
        L.Deadlocked threads t ∧ L.Still threads s t := by
    rintro r a t hr ⟨hdead, hstill⟩ hstep
    refine ⟨hdead.step hr hstep, fun thread hthread lock hlock => ?_,
      fun thread hthread lock hlock => ?_⟩
    · exact L.keeps r a t thread lock hr hstep (hstill.holder thread hthread lock hlock)
        (hdead.not_actor hr hstep hthread)
    · exact L.stays r a t thread lock hr hstep (hstill.waits thread hthread lock hlock)
        (hdead.not_actor hr hstep hthread)
  exact (hs.runFrom_invariant hstep ⟨hdead, fun _ _ _ h => h, fun _ _ _ h => h⟩ hrun).2

end LockSystem
