/-
Copying a stream.
-/
import Mathlib.Tactic.Common

universe u

structure StreamCopy (α : Type u) where
  written : List α := []
  /-- Read from the source and not yet written. -/
  chunk : List α := []
  /-- Sent by the source and not yet read. -/
  pending : List α := []
  ended : Bool := false

namespace StreamCopy

variable {α : Type u} (c : StreamCopy α)

def sent : List α := c.written ++ c.chunk ++ c.pending

def feed (data : List α) : StreamCopy α := { c with pending := c.pending ++ data }

def read (size : Nat) (eof : Bool) : Option (StreamCopy α) :=
  if c.ended = true ∨ c.chunk ≠ [] then none
  else if c.pending = [] then if eof then some { c with ended := true } else none
  else some { c with chunk := c.pending.take (size + 1), pending := c.pending.drop (size + 1) }

def write (size : Nat) (accepts : Bool) : Option (StreamCopy α) :=
  if c.ended = true ∨ c.chunk = [] then none
  else if accepts then
    some { c with
      written := c.written ++ c.chunk.take (size + 1)
      chunk := c.chunk.drop (size + 1) }
  else some { c with ended := true }

def Complete : Prop := c.written = c.sent

variable {c} {d : StreamCopy α}

theorem complete_iff : c.Complete ↔ c.chunk = [] ∧ c.pending = [] := by
  rw [Complete, sent, List.append_assoc, eq_comm, List.append_right_eq_self, List.append_eq_nil_iff]

theorem complete_of_sent_nil (hsent : c.sent = []) : c.Complete := by
  simp only [sent, List.append_eq_nil_iff] at hsent
  exact complete_iff.mpr ⟨hsent.1.2, hsent.2⟩

@[simp]
theorem sent_feed (data : List α) : (c.feed data).sent = c.sent ++ data := by
  simp [sent, feed]

theorem sent_read {size : Nat} {eof : Bool} (hread : c.read size eof = some d) :
    d.sent = c.sent := by
  rw [read, Option.ite_none_left_eq_some] at hread
  obtain ⟨hreads, hread⟩ := hread
  have hchunk : c.chunk = [] := by
    by_contra hne
    exact hreads (.inr hne)
  split_ifs at hread with hpending heof <;> cases hread
  · rfl
  · simp [sent, hchunk]

theorem sent_write {size : Nat} {accepts : Bool}
    (hwrite : c.write size accepts = some d) : d.sent = c.sent := by
  rw [write, Option.ite_none_left_eq_some] at hwrite
  obtain ⟨-, hwrite⟩ := hwrite
  split_ifs at hwrite with haccepts <;> cases hwrite
  · simp [sent]
  · rfl

/-- A copy ends with the source, when everything has been written, or with the
destination. -/
theorem ended_read {size : Nat} {eof : Bool} (hread : c.read size eof = some d)
    (hended : d.ended = true) : eof = true ∧ d.Complete := by
  rw [read, Option.ite_none_left_eq_some, not_or, not_not] at hread
  obtain ⟨⟨hgoes, hchunk⟩, hread⟩ := hread
  split_ifs at hread with hpending heof <;> cases hread
  · exact ⟨heof, complete_iff.mpr ⟨hchunk, hpending⟩⟩
  · exact absurd hended hgoes

theorem ended_write {size : Nat} {accepts : Bool} (hwrite : c.write size accepts = some d)
    (hended : d.ended = true) : accepts = false := by
  rw [write, Option.ite_none_left_eq_some, not_or] at hwrite
  obtain ⟨⟨hgoes, -⟩, hwrite⟩ := hwrite
  split_ifs at hwrite with haccepts <;> cases hwrite
  · exact absurd hended hgoes
  · exact Bool.eq_false_iff.mpr haccepts

theorem read_of_ended (hended : c.ended = true) (size : Nat) (eof : Bool) : c.read size eof = none :=
  if_pos (.inl hended)

theorem write_of_ended (hended : c.ended = true) (size : Nat) (accepts : Bool) :
    c.write size accepts = none :=
  if_pos (.inl hended)

theorem Complete.read (hc : c.Complete) {size : Nat} {eof : Bool}
    (hread : c.read size eof = some d) : d.Complete := by
  obtain ⟨hchunk, hpending⟩ := complete_iff.mp hc
  simp only [StreamCopy.read, hpending, Option.ite_none_left_eq_some, if_true,
    Option.ite_none_right_eq_some, Option.some.injEq] at hread
  obtain ⟨-, -, rfl⟩ := hread
  exact complete_iff.mpr ⟨hchunk, rfl⟩

theorem Complete.not_write (hc : c.Complete) (size : Nat) (accepts : Bool) :
    c.write size accepts = none := by
  rw [write, if_pos (.inr (complete_iff.mp hc).1)]

end StreamCopy
