/-
Parsers take a value off the front of their input.
-/
import Mathlib.Data.List.Infix
import Mathlib.Tactic.Common

universe u v

inductive ParseError where
  | incomplete
  | malformed (reason : String)

def Parser (σ : Type u) (α : Type v) : Type (max u v) := List σ → Except ParseError (α × List σ)

namespace Parser

variable {σ : Type u} {α β : Type v}

def pure (a : α) : Parser σ α := fun input => .ok (a, input)

def fail (e : ParseError) : Parser σ α := fun _ => .error e

def bind (p : Parser σ α) (f : α → Parser σ β) : Parser σ β := fun input =>
  match p input with
  | .ok (a, rest) => f a rest
  | .error e => .error e

def token : Parser σ σ
  | [] => .error .incomplete
  | a :: rest => .ok (a, rest)

def take (n : Nat) : Parser σ (List σ) := fun input =>
  if input.length < n then .error .incomplete
  else .ok (input.take n, input.drop n)

def many (p : Parser σ α) : Nat → Parser σ (List α)
  | 0 => pure []
  | n + 1 => bind p fun a => bind (many p n) fun rest => pure (a :: rest)

section Bind

variable {p : Parser σ α} {f : α → Parser σ β} {input rest : List σ} {a : α}

theorem bind_of_ok (hp : p input = .ok (a, rest)) : p.bind f input = f a rest := by
  simp [bind, hp]

theorem bind_of_error {e : ParseError} (hp : p input = .error e) : p.bind f input = .error e := by
  simp [bind, hp]

theorem bind_eq_ok {r : β × List σ} (hbind : p.bind f input = .ok r) :
    ∃ a rest, p input = .ok (a, rest) ∧ f a rest = .ok r := by
  cases hp : p input with
  | error => simp [bind_of_error hp] at hbind
  | ok result =>
    obtain ⟨a, rest⟩ := result
    rw [bind_of_ok hp] at hbind
    exact ⟨a, rest, rfl, hbind⟩

end Bind

/-- `p` reads exactly `word`, and fails on every proper start of it. -/
structure Delimits (p : Parser σ α) (word : List σ) (a : α) : Prop where
  reads : ∀ rest, p (word ++ rest) = .ok (a, rest)
  cut : ∀ part, part <+: word → part ≠ word → ∃ e, p part = .error e

theorem prefix_append_cases {part first second : List σ} (hpart : part <+: first ++ second) :
    (part <+: first ∧ part ≠ first) ∨ ∃ rest, part = first ++ rest ∧ rest <+: second := by
  obtain hfirst | ⟨rest, rfl⟩ :=
    List.prefix_or_prefix_of_prefix hpart (List.prefix_append first second)
  · by_cases heq : part = first
    · exact .inr ⟨[], by rw [heq, List.append_nil], List.nil_prefix⟩
    · exact .inl ⟨hfirst, heq⟩
  · exact .inr ⟨rest, rfl, (List.prefix_append_right_inj first).mp hpart⟩

theorem delimits_pure (a : α) : Delimits (pure a : Parser σ α) [] a where
  reads := fun _ => rfl
  cut := fun _ hpart hne => absurd (List.prefix_nil.mp hpart) hne

variable {p : Parser σ α} {f : α → Parser σ β}

theorem Delimits.bind {first second : List σ} {a : α} {b : β}
    (hp : p.Delimits first a) (hf : (f a).Delimits second b) :
    (p.bind f).Delimits (first ++ second) b where
  reads rest := by
    rw [List.append_assoc, bind_of_ok (hp.reads _), hf.reads]
  cut part hpart hne := by
    rcases prefix_append_cases hpart with ⟨hfirst, hne'⟩ | ⟨rest, rfl, hrest⟩
    · obtain ⟨e, he⟩ := hp.cut part hfirst hne'
      exact ⟨e, bind_of_error he⟩
    · have hrestne : rest ≠ second := fun heq => hne (by rw [heq])
      obtain ⟨e, he⟩ := hf.cut rest hrest hrestne
      exact ⟨e, by rw [bind_of_ok (hp.reads rest), he]⟩

theorem Delimits.map {word : List σ} {a : α} (hp : p.Delimits word a) (f : α → β) :
    (p.bind fun a => pure (f a)).Delimits word (f a) := by
  rw [← List.append_nil word]
  exact hp.bind (delimits_pure (f a))

theorem delimits_token (a : σ) : Delimits token [a] a where
  reads := fun _ => rfl
  cut part hpart hne := by
    cases part with
    | nil => exact ⟨.incomplete, rfl⟩
    | cons b rest =>
      refine absurd ?_ hne
      exact hpart.eq_of_length_le (Nat.le_add_left 1 rest.length)

theorem delimits_take (word : List σ) : Delimits (take word.length) word word where
  reads rest := by
    rw [take, if_neg (by simp), List.take_left, List.drop_left]
  cut part hpart hne := by
    have hshort : part.length < word.length :=
      Nat.lt_of_not_le fun hle => hne (hpart.eq_of_length_le hle)
    exact ⟨.incomplete, if_pos hshort⟩

theorem delimits_many {word : α → List σ} {l : List α} (hp : ∀ a ∈ l, p.Delimits (word a) a) :
    (p.many l.length).Delimits (l.flatMap word) l := by
  induction l with
  | nil => exact delimits_pure []
  | cons a rest ih =>
    have hrest := ih fun b hb => hp b (List.mem_cons_of_mem a hb)
    exact (hp a List.mem_cons_self).bind (hrest.map (a :: ·))

def Recognises (p : Parser σ α) (word : α → List σ → Prop) : Prop :=
  ∀ input a rest, p input = .ok (a, rest) ↔ ∃ w, word a w ∧ input = w ++ rest

theorem recognises_pure (a : α) : Recognises (pure a : Parser σ α) fun b w => b = a ∧ w = [] := by
  intro input b rest
  constructor
  · rintro ⟨⟩
    exact ⟨[], ⟨rfl, rfl⟩, rfl⟩
  · rintro ⟨_, ⟨rfl, rfl⟩, rfl⟩
    rfl

theorem recognises_token : Recognises (token : Parser σ σ) fun a w => w = [a] := by
  intro input a rest
  constructor
  · intro htoken
    cases input with
    | nil => cases htoken
    | cons =>
      cases htoken
      exact ⟨[a], rfl, rfl⟩
  · rintro ⟨_, rfl, rfl⟩
    rfl

theorem recognises_take (n : Nat) :
    Recognises (take n : Parser σ (List σ)) fun a w => w = a ∧ a.length = n := by
  intro input a rest
  constructor
  · intro htake
    unfold take at htake
    split at htake
    · cases htake
    · cases htake
      exact ⟨_, ⟨rfl, by simp; omega⟩, (List.take_append_drop n input).symm⟩
  · rintro ⟨_, ⟨rfl, rfl⟩, rfl⟩
    exact (delimits_take _).reads rest

theorem Recognises.bind {first : α → List σ → Prop} {second : α → β → List σ → Prop}
    (hp : p.Recognises first) (hf : ∀ a, (f a).Recognises (second a)) :
    (p.bind f).Recognises fun b w =>
      ∃ a x y, first a x ∧ second a b y ∧ w = x ++ y := by
  intro input b rest
  constructor
  · intro hbind
    obtain ⟨a, middle, ha, hb⟩ := bind_eq_ok hbind
    obtain ⟨x, hx, rfl⟩ := (hp input a middle).mp ha
    obtain ⟨y, hy, rfl⟩ := (hf a middle b rest).mp hb
    exact ⟨x ++ y, ⟨a, x, y, hx, hy, rfl⟩, (List.append_assoc x y rest).symm⟩
  · rintro ⟨_, ⟨a, x, y, hx, hy, rfl⟩, rfl⟩
    have hfirst := (hp _ a (y ++ rest)).mpr ⟨x, hx, rfl⟩
    rw [List.append_assoc, bind_of_ok hfirst]
    exact (hf a _ b rest).mpr ⟨y, hy, rfl⟩

variable {word : α → List σ → Prop}

theorem Recognises.map (hp : p.Recognises word) (f : α → β) :
    (p.bind fun a => pure (f a)).Recognises fun b w =>
      ∃ a, b = f a ∧ word a w := by
  intro input b rest
  rw [hp.bind (fun a => recognises_pure (f a)) input b rest]
  constructor
  · rintro ⟨_, ⟨a, x, _, hx, ⟨rfl, rfl⟩, rfl⟩, rfl⟩
    exact ⟨x ++ [], ⟨a, rfl, by rwa [List.append_nil]⟩, rfl⟩
  · rintro ⟨w, ⟨a, rfl, hw⟩, rfl⟩
    exact ⟨w, ⟨a, w, [], hw, ⟨rfl, rfl⟩, (List.append_nil w).symm⟩, rfl⟩

theorem Recognises.congr {word' : α → List σ → Prop} (hp : p.Recognises word)
    (hword : ∀ a w, word a w ↔ word' a w) : p.Recognises word' := by
  intro input a rest
  simp only [hp input a rest, hword]

def orFail (p : Parser σ α) (reason : String) : Parser σ α := fun input =>
  match p input with
  | .ok result => .ok result
  | .error _ => .error (.malformed reason)

theorem Recognises.orFail (hp : p.Recognises word) (reason : String) :
    (p.orFail reason).Recognises word := by
  intro input a rest
  rw [← hp input a rest]
  unfold Parser.orFail
  cases p input <;> simp

def Takes (p : Parser σ α) (k : Nat) : Prop :=
  ∀ input a rest, p input = .ok (a, rest) → rest.length + k ≤ input.length

theorem takes_pure (a : α) : Takes (pure a : Parser σ α) 0 := by
  rintro input _ _ ⟨⟩
  exact Nat.le_refl _

theorem takes_fail (e : ParseError) (k : Nat) : Takes (fail e : Parser σ α) k := by
  rintro input a rest ⟨⟩

theorem Takes.bind {k : Nat} (hp : p.Takes k) (hf : ∀ a, (f a).Takes 0) : (p.bind f).Takes k := by
  intro input b rest hbind
  obtain ⟨a, middle, ha, hb⟩ := bind_eq_ok hbind
  have hfirst := hp input a middle ha
  have hsecond := hf a middle b rest hb
  omega

theorem Takes.weaken {k : Nat} (hp : p.Takes k) : p.Takes 0 := by
  intro input a rest h
  have := hp input a rest h
  omega

theorem takes_token : Takes (token : Parser σ σ) 1 := by
  rintro (_ | ⟨a, rest⟩) b _ ⟨⟩
  exact Nat.le_refl _

theorem takes_take (n : Nat) : Takes (take n : Parser σ (List σ)) 0 := by
  intro input a rest htake
  unfold take at htake
  split at htake
  · cases htake
  · cases htake
    simp

theorem Takes.many (hp : p.Takes 0) (n : Nat) : (p.many n).Takes 0 := by
  induction n with
  | zero => exact takes_pure []
  | succ n ih => exact hp.bind fun a => ih.bind fun rest => takes_pure _

def Below (p q : Parser σ α) : Prop := ∀ input r, p input = .ok r → q input = .ok r

theorem Below.refl (p : Parser σ α) : p.Below p := fun _ _ h => h

theorem below_fail (e : ParseError) (q : Parser σ α) : (fail e).Below q := by
  rintro input r ⟨⟩

theorem Below.bind {q : Parser σ α} {g : α → Parser σ β} (hpq : p.Below q)
    (hfg : ∀ a, (f a).Below (g a)) : (p.bind f).Below (q.bind g) := by
  intro input r hbind
  obtain ⟨a, rest, ha, hr⟩ := bind_eq_ok hbind
  rw [bind_of_ok (hpq _ _ ha)]
  exact hfg a rest r hr

theorem Below.many {q : Parser σ α} (hpq : p.Below q) (n : Nat) : (p.many n).Below (q.many n) := by
  induction n with
  | zero => exact Below.refl _
  | succ n ih => exact hpq.bind fun a => ih.bind fun rest => Below.refl _

end Parser

structure ItemFormat (σ : Type u) (Item : Type v) where
  encode : Item → List σ
  decode : Parser σ Item
  delimits : ∀ a, decode.Delimits (encode a) a
  takes : decode.Takes 1

namespace ItemFormat

variable {σ : Type u} {Item : Type v} (format : ItemFormat σ Item)

def next (ending : String) (input : List σ) : Except String (Item × List σ) :=
  if input.isEmpty then .error ending
  else
    match format.decode input with
    | .ok result => .ok result
    | .error .incomplete => .error ending
    | .error (.malformed reason) => .error reason

variable {format} {ending : String} {input tail : List σ} {a : Item}

theorem next_nil : format.next ending [] = .error ending := rfl

theorem next_eq_ok {result : Item × List σ} : format.next ending input = .ok result ↔
      input ≠ [] ∧ format.decode input = .ok result := by
  unfold next
  cases input with
  | nil => simp
  | cons =>
    simp only [List.isEmpty_cons, Bool.false_eq_true, ↓reduceIte]
    split <;> simp_all

theorem length_lt_of_next {result : Item × List σ} (hnext : format.next ending input = .ok result) :
    result.2.length < input.length :=
  format.takes input result.1 result.2 (next_eq_ok.mp hnext).2

theorem next_encode_append (a : Item) (tail : List σ) :
    format.next ending (format.encode a ++ tail) = .ok (a, tail) := by
  have hreads := (format.delimits a).reads tail
  have hlength := format.takes _ _ _ hreads
  refine next_eq_ok.mpr ⟨fun hnil => ?_, hreads⟩
  rw [hnil, List.length_nil] at hlength
  omega

theorem next_of_prefix (hinput : input <+: format.encode a ++ tail) :
    (∃ e, format.next ending input = .error e) ∨
      ∃ rest, rest <+: tail ∧ format.next ending input = .ok (a, rest) := by
  rcases Parser.prefix_append_cases hinput with ⟨hpart, hne⟩ | ⟨rest, rfl, hrest⟩
  · left
    obtain ⟨e, he⟩ := (format.delimits a).cut input hpart hne
    cases hnext : format.next ending input with
    | error reason => exact ⟨reason, rfl⟩
    | ok =>
      rw [(next_eq_ok.mp hnext).2] at he
      cases he
  · exact .inr ⟨rest, hrest, next_encode_append a rest⟩

end ItemFormat
