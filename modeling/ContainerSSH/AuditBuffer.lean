/-
What the audit log records of an input that is read into one buffer again and again.
-/
import ContainerSSH.AuditIntercept
import ContainerSSH.TransitionSystem

namespace ContainerSSH.AuditLog

structure BufferState where
  buffer : List UInt8
  reader : Option Nat := none
  encoder : Option Nat := none
  returned : List (List UInt8) := []
  serialised : List (List UInt8) := []

inductive BufferAction where
  | read (data : List UInt8)
  | handOver
  | serialise

namespace BufferState

variable (s : BufferState)

def overwrite (data : List UInt8) : List UInt8 := data ++ s.buffer.drop data.length

def read (data : List UInt8) : Option BufferState :=
  if s.reader = none ∧ data.length ≤ s.buffer.length then
    if 0 < data.length then
      some { s with
        buffer := s.overwrite data
        reader := some data.length
        returned := s.returned ++ [data] }
    else some s
  else none

def handOver : Option BufferState :=
  match s.reader, s.encoder with
  | some n, none => some { s with reader := none, encoder := some n }
  | _, _ => none

def serialise : Option BufferState :=
  match s.encoder with
  | some n => some { s with encoder := none, serialised := s.serialised ++ [s.buffer.take n] }
  | none => none

def step : BufferAction → Option BufferState
  | .read data => s.read data
  | .handOver => s.handOver
  | .serialise => s.serialise

end BufferState

def copyLoop (buffer : List UInt8) : TransitionSystem BufferState BufferAction where
  init := { buffer := buffer }
  step := BufferState.step

namespace BufferState

inductive Does (s : BufferState) : BufferAction → BufferState → Prop
  | readNothing (hreader : s.reader = none) : Does s (.read []) s
  | read (data : List UInt8) (hreader : s.reader = none) (hdata : data ≠ [])
      (hlength : data.length ≤ s.buffer.length) : Does s (.read data) { s with
          buffer := s.overwrite data
          reader := some data.length
          returned := s.returned ++ [data] }
  | handOver (n : Nat) (hreader : s.reader = some n) (hencoder : s.encoder = none) :
      Does s .handOver { s with reader := none, encoder := some n }
  | serialise (n : Nat) (hencoder : s.encoder = some n) : Does s .serialise { s with
          encoder := none
          serialised := s.serialised ++ [s.buffer.take n] }

variable {s t : BufferState} {action : BufferAction}

theorem does_of_step (hstep : s.step action = some t) : Does s action t := by
  cases action with
  | read data =>
    simp only [step, read] at hstep
    split_ifs at hstep with hfree hdata <;> cases hstep
    · exact .read data hfree.1 (List.ne_nil_of_length_pos hdata) hfree.2
    · rw [List.length_pos_iff, not_not] at hdata
      rw [hdata]
      exact .readNothing hfree.1
  | handOver =>
    simp only [step, handOver] at hstep
    split at hstep <;> cases hstep
    next n hreader hencoder => exact .handOver n hreader hencoder
  | serialise =>
    simp only [step, serialise] at hstep
    split at hstep <;> cases hstep
    next n hencoder => exact .serialise n hencoder

structure Tracked (s : BufferState) : Prop where
  length : s.returned.length =
    s.serialised.length + s.encoder.toList.length + s.reader.toList.length
  pending : ∀ n, s.reader = some n → s.returned.getLast? = some (s.buffer.take n)
  fresh : ∀ n, s.encoder = some n → s.reader = none →
    s.returned[s.serialised.length]? = some (s.buffer.take n)

theorem tracked_init (buffer : List UInt8) : Tracked { buffer := buffer } where
  length := rfl
  pending := by simp
  fresh := by simp

theorem take_overwrite (s : BufferState) (data : List UInt8) :
    (s.overwrite data).take data.length = data := by
  rw [overwrite, List.take_left]

theorem Tracked.step (hs : s.Tracked) (hdoes : Does s action t) :
    t.Tracked := by
  obtain ⟨hlength, hpending, hfresh⟩ := hs
  cases hdoes with
  | readNothing => exact ⟨hlength, hpending, hfresh⟩
  | read data hreader _ _ =>
    refine ⟨?_, ?_, by simp⟩
    · simp only [hreader, Option.toList_none, List.length_nil] at hlength
      simp only [List.length_append, Option.toList_some, List.length_singleton, hlength]
    · rintro n ⟨⟩
      rw [List.getLast?_concat, take_overwrite]
  | handOver n hreader hencoder =>
    simp only [hreader, hencoder, Option.toList_none, Option.toList_some,
      List.length_nil, List.length_singleton] at hlength
    refine ⟨by simpa using hlength, by simp, ?_⟩
    rintro _ ⟨⟩ -
    have hlast := hpending n hreader
    rw [List.getLast?_eq_getElem?, hlength] at hlast
    exact hlast
  | serialise n hencoder =>
    refine ⟨?_, hpending, by simp⟩
    simp only [hencoder, Option.toList_some] at hlength
    simp only [List.length_append, Option.toList_none, List.length_nil,
      List.length_singleton, hlength]

/-- The encoder holds the chunk that was returned for it. -/
structure Intact (s : BufferState) : Prop where
  recorded : s.serialised <+: s.returned
  held : ∀ n, s.encoder = some n → s.returned[s.serialised.length]? = some (s.buffer.take n)

/-- A read does not change the bytes that wait to be serialised. -/
def Keeps (s : BufferState) : BufferAction → Prop
  | .read data => ∀ n, s.encoder = some n → (s.overwrite data).take n = s.buffer.take n
  | _ => True

instance decidableKeeps (s : BufferState) : (action : BufferAction) → Decidable (s.Keeps action)
  | .read data =>
    match hencoder : s.encoder with
    | none => .isTrue fun n hn => by simp [hencoder] at hn
    | some n =>
      decidable_of_iff ((s.overwrite data).take n = s.buffer.take n) (by simp [Keeps, hencoder])
  | .handOver | .serialise => .isTrue trivial

theorem concat_prefix_iff {l r : List (List UInt8)} {a : List UInt8} :
    l ++ [a] <+: r ↔ l <+: r ∧ r[l.length]? = some a := by
  constructor
  · rintro ⟨rest, rfl⟩
    refine ⟨⟨a :: rest, by simp⟩, by simp⟩
  · rintro ⟨⟨rest, rfl⟩, hget⟩
    rw [List.getElem?_append_right (Nat.le_refl _), Nat.sub_self] at hget
    cases rest with
    | nil => simp at hget
    | cons b rest =>
      simp only [List.getElem?_cons_zero, Option.some.injEq] at hget
      exact ⟨rest, by simp [hget]⟩

theorem Tracked.intact_read_iff (hs : s.Tracked) (hreader : s.reader = none) (data : List UInt8) :
    Intact { s with
      buffer := s.overwrite data
      reader := some data.length
      returned := s.returned ++ [data] } ↔
    s.Intact ∧ s.Keeps (.read data) := by
  have hlength := hs.length
  have hrecorded : s.serialised <+: s.returned ++ [data] ↔ s.serialised <+: s.returned := by
    refine ⟨fun h => ?_, fun h => h.trans (List.prefix_append _ _)⟩
    exact List.prefix_of_prefix_length_le h (List.prefix_append _ _) (by omega)
  rcases Option.eq_none_or_eq_some s.encoder with hencoder | ⟨n, hencoder⟩
  · constructor
    · rintro ⟨h, -⟩
      exact ⟨⟨hrecorded.mp h, by simp [hencoder]⟩, by simp [Keeps, hencoder]⟩
    · rintro ⟨⟨h, -⟩, -⟩
      exact ⟨hrecorded.mpr h, by simp [hencoder]⟩
  · have hfresh := hs.fresh n hencoder hreader
    have hget : (s.returned ++ [data])[s.serialised.length]? = some (s.buffer.take n) := by
      simp only [hencoder, Option.toList_some, List.length_singleton]
        at hlength
      rw [List.getElem?_append_left (by omega), hfresh]
    have honly : ∀ {m}, s.encoder = some m → m = n := fun {m} hm =>
      Option.some.inj (hm.symm.trans hencoder)
    constructor
    · rintro ⟨h, hheld⟩
      refine ⟨⟨hrecorded.mp h, fun m hm => honly hm ▸ hfresh⟩, fun m hm => ?_⟩
      have hnow := hheld m hm
      rw [honly hm] at hnow ⊢
      exact Option.some.inj (hnow.symm.trans hget)
    · rintro ⟨⟨h, -⟩, hkeeps⟩
      refine ⟨hrecorded.mpr h, fun m hm => ?_⟩
      rw [honly hm]
      exact hget.trans (congrArg some (hkeeps n hencoder).symm)

theorem Tracked.intact_iff (hs : s.Tracked) (hdoes : Does s action t) :
    t.Intact ↔ s.Intact ∧ s.Keeps action := by
  cases hdoes with
  | readNothing =>
    have hkeeps : s.Keeps (.read []) := fun n _ => rfl
    exact ⟨fun h => ⟨h, hkeeps⟩, And.left⟩
  | read data hreader => exact hs.intact_read_iff hreader data
  | handOver n hreader hencoder =>
    have hfresh := (hs.step (.handOver n hreader hencoder)).fresh n rfl rfl
    constructor
    · rintro ⟨hrecorded, -⟩
      exact ⟨⟨hrecorded, by simp [hencoder]⟩, trivial⟩
    · rintro ⟨⟨hrecorded, -⟩, -⟩
      refine ⟨hrecorded, ?_⟩
      rintro _ ⟨⟩
      exact hfresh
  | serialise n hencoder =>
    constructor
    · rintro ⟨hrecorded, -⟩
      obtain ⟨hbefore, hget⟩ := concat_prefix_iff.mp hrecorded
      refine ⟨⟨hbefore, fun m hm => ?_⟩, trivial⟩
      rw [hencoder, Option.some.injEq] at hm
      exact hm ▸ hget
    · rintro ⟨⟨hrecorded, hheld⟩, -⟩
      exact ⟨concat_prefix_iff.mpr ⟨hrecorded, hheld n hencoder⟩, by simp⟩

end BufferState

open BufferState

variable {buffer : List UInt8} {actions : List BufferAction} {s : BufferState}

theorem intact_iff_of_run (hrun : (copyLoop buffer).run actions = some s) : s.Intact ↔
      (copyLoop buffer).Meets Keeps { buffer := buffer } actions := by
  have hinit : Intact { buffer := buffer } := ⟨List.prefix_rfl, by simp⟩
  have hrun := (copyLoop buffer).runFrom_iff_meets (fun _ _ _ hs h => hs.step (does_of_step h))
    (fun _ _ _ hs h => hs.intact_iff (does_of_step h)) (tracked_init buffer) hrun
  rw [hrun]
  exact and_iff_right hinit

/-- Whatever is read while the encoder still holds an earlier read must leave
its bytes as they were: then everything recorded was read, and if the encoder
has recorded all it has taken, only then. -/
theorem recorded_iff (buffer : List UInt8) (actions : List BufferAction)
    (s : BufferState) (hrun : (copyLoop buffer).run actions = some s) :
    ((copyLoop buffer).Meets Keeps { buffer := buffer } actions → s.serialised <+: s.returned) ∧
    (s.encoder = none → (s.serialised <+: s.returned ↔
        (copyLoop buffer).Meets Keeps { buffer := buffer } actions)) := by
  have hintact := intact_iff_of_run hrun
  refine ⟨fun hmeets => (hintact.mpr hmeets).recorded, fun hencoder =>
    ⟨fun hrecorded => ?_, fun hmeets => (hintact.mpr hmeets).recorded⟩⟩
  exact hintact.mp ⟨hrecorded, by simp [hencoder]⟩

theorem recorded_in_turn : ∃ s, (copyLoop [0, 0]).run [.read [1], .handOver, .serialise,
        .read [2, 3], .handOver, .serialise] = some s ∧ s.serialised <+: s.returned := by
  refine ⟨_, rfl, (recorded_iff [0, 0] [.read [1], .handOver, .serialise,
    .read [2, 3], .handOver, .serialise] _ rfl).1 ?_⟩
  decide

/-- The second read comes before the first one is recorded. -/
theorem second_read_recorded_twice :
    ∃ s, (copyLoop [0]).run [.read [1], .handOver, .read [2], .serialise,
        .handOver, .serialise] = some s ∧ s.returned = [[1], [2]] ∧ s.serialised = [[2], [2]] :=
  ⟨_, rfl, rfl, rfl⟩

end ContainerSSH.AuditLog
