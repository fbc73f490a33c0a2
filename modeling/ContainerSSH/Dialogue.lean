/-
Computations that make requests and wait for the replies.
-/
import Mathlib.Tactic.Common

universe u v w

structure Exchange (Req : Type u) (Rep : Req → Type v) where
  request : Req
  reply : Option (Rep request)

structure DialogueOutcome (Req : Type u) (Rep : Req → Type v) (α : Type w) where
  result : Option (α × Nat)
  log : List (Exchange Req Rep)

def Dialogue (Req : Type u) (Rep : Req → Type v) (α : Type w) : Type (max u v w) :=
  (Nat → (r : Req) → Rep r) → Nat → DialogueOutcome Req Rep α

namespace Dialogue

variable {Req : Type u} {Rep : Req → Type v} {α β σ : Type w}

def ask (r : Req) : Dialogue Req Rep (Rep r) := fun replies n =>
  match n with
  | 0 => ⟨none, [⟨r, none⟩]⟩
  | n + 1 => ⟨some (replies n r, n), [⟨r, some (replies n r)⟩]⟩

def andThen (m : Dialogue Req Rep α) (f : α → Dialogue Req Rep β) :
    Dialogue Req Rep β := fun replies n =>
  match m replies n with
  | ⟨none, log⟩ => ⟨none, log⟩
  | ⟨some (a, left), log⟩ => ⟨(f a replies left).result, log ++ (f a replies left).log⟩

instance : Monad (Dialogue Req Rep) where
  pure a := fun _ n => ⟨some (a, n), []⟩
  bind := andThen

inductive Verdict (σ α : Type w) where
  | again (s : σ)
  | finish (a : α)

def rounds (body : σ → Dialogue Req Rep (Verdict σ α)) : Nat → σ → Dialogue Req Rep α
  | 0, _ => fun _ _ => ⟨none, []⟩
  | fuel + 1, s => do
      match ← body s with
      | .again next => rounds body fuel next
      | .finish a => pure a

def loop (body : σ → Dialogue Req Rep (Verdict σ α)) (s : σ) :
    Dialogue Req Rep α := fun replies n =>
  rounds body (n + 1) s replies n

/-! ### What holds of log and result -/

structure Ensures (m : Dialogue Req Rep α)
    (P : List (Exchange Req Rep) → Option α → Prop) : Prop where
  holds : ∀ replies n, P (m replies n).log ((m replies n).result.map Prod.fst)

variable {m : Dialogue Req Rep α} {f : α → Dialogue Req Rep β}
  {P Q : List (Exchange Req Rep) → Option α → Prop}
  {R : List (Exchange Req Rep) → Option β → Prop}

theorem ensures_pure {a : α} (ha : P [] (some a)) : Ensures (pure a : Dialogue Req Rep α) P :=
  ⟨fun _ _ => ha⟩

theorem Ensures.mono (hm : Ensures m P)
    (hPQ : ∀ log result, P log result → Q log result) : Ensures m Q :=
  ⟨fun replies n => hPQ _ _ (hm.holds replies n)⟩

theorem Ensures.and (hP : Ensures m P) (hQ : Ensures m Q) :
    Ensures m fun log result => P log result ∧ Q log result :=
  ⟨fun replies n => ⟨hP.holds replies n, hQ.holds replies n⟩⟩

variable {r : Req}

theorem ensures_ask {P : List (Exchange Req Rep) → Option (Rep r) → Prop}
    (hwait : P [⟨r, none⟩] none) (hreply : ∀ reply, P [⟨r, some reply⟩] (some reply)) :
    Ensures (ask r) P := by
  constructor
  intro replies n
  cases n with
  | zero => exact hwait
  | succ n => exact hreply (replies n r)

variable {log : List (Exchange Req Rep)}

theorem bind_of_waiting {replies : Nat → (r : Req) → Rep r} {n : Nat}
    (hm : m replies n = ⟨none, log⟩) : (m >>= f) replies n = ⟨none, log⟩ := by
  change andThen m f replies n = _
  rw [andThen, hm]

theorem bind_of_done {replies : Nat → (r : Req) → Rep r} {n left : Nat} {a : α}
    (hm : m replies n = ⟨some (a, left), log⟩) : (m >>= f) replies n =
      ⟨(f a replies left).result, log ++ (f a replies left).log⟩ := by
  change andThen m f replies n = _
  rw [andThen, hm]

theorem ensures_bind (hm : Ensures m P) (hwait : ∀ log, P log none → R log none)
    (hnext : ∀ log a, P log (some a) → Ensures (f a) fun later result => R (log ++ later) result) :
    Ensures (m >>= f) R := by
  constructor
  intro replies n
  have hfirst := hm.holds replies n
  cases hout : m replies n with
  | mk result log =>
    rw [hout] at hfirst
    cases result with
    | none =>
      rw [bind_of_waiting hout]
      exact hwait log hfirst
    | some done =>
      rw [bind_of_done hout]
      exact (hnext log done.1 hfirst).holds replies done.2

variable {body : σ → Dialogue Req Rep (Verdict σ α)} {s : σ}

theorem ensures_rounds {I : List (Exchange Req Rep) → σ → Prop}
    (hwait : ∀ log s, I log s → P log none)
    (hbody : ∀ log s, I log s → Ensures (body s) fun later verdict =>
      match verdict with
      | none => P (log ++ later) none
      | some (.again next) => I (log ++ later) next
      | some (.finish a) => P (log ++ later) (some a)) (fuel : Nat) (hI : I log s) :
    Ensures (rounds body fuel s) fun later result =>
      P (log ++ later) result := by
  induction fuel generalizing log s with
  | zero =>
    constructor
    intro replies n
    simpa [rounds] using hwait log s hI
  | succ fuel ih =>
    apply ensures_bind (hbody log s hI)
    · exact fun _ hnone => hnone
    · intro later verdict hverdict
      cases verdict with
      | again =>
        have hrest := ih hverdict
        simpa only [List.append_assoc] using hrest
      | finish =>
        apply ensures_pure
        simpa using hverdict

theorem ensures_loop (I : List (Exchange Req Rep) → σ → Prop) (hI : I [] s)
    (hwait : ∀ log s, I log s → P log none)
    (hbody : ∀ log s, I log s → Ensures (body s) fun later verdict =>
      match verdict with
      | none => P (log ++ later) none
      | some (.again next) => I (log ++ later) next
      | some (.finish a) => P (log ++ later) (some a)) :
    Ensures (loop body s) P :=
  ⟨fun replies n => (ensures_rounds hwait hbody (n + 1) hI).holds replies n⟩

/-! ### What is returned -/

abbrev Returns (m : Dialogue Req Rep α) (Q : List (Exchange Req Rep) → α → Prop) : Prop :=
  Ensures m fun log result => ∀ a, result = some a → Q log a

section Returns

variable {Q Q' : List (Exchange Req Rep) → α → Prop}
  {R : List (Exchange Req Rep) → β → Prop}

theorem returns_pure {a : α} (ha : Q [] a) : Returns (pure a : Dialogue Req Rep α) Q := by
  apply ensures_pure
  intro a' h
  cases h
  exact ha

theorem returns_ask {r : Req} {Q : List (Exchange Req Rep) → Rep r → Prop}
    (hreply : ∀ reply, Q [⟨r, some reply⟩] reply) : Returns (ask r) Q := by
  apply ensures_ask
  · intro reply h
    cases h
  · intro reply reply' h
    cases h
    exact hreply reply

theorem Returns.mono (hm : Returns m Q) (hQ : ∀ log a, Q log a → Q' log a) : Returns m Q' :=
  Ensures.mono hm fun log _ h a ha => hQ log a (h a ha)

theorem Returns.bind (hm : Returns m Q) (hnext : ∀ log a, Q log a →
      Returns (f a) fun later b => R (log ++ later) b) : Returns (m >>= f) R := by
  apply ensures_bind hm
  · intro log _ b h
    cases h
  · intro log a ha
    exact hnext log a (ha a rfl)

theorem returns_bind_of_forall {R : β → Prop} (hf : ∀ a, Returns (f a) fun _ b => R b) :
    Returns (m >>= f) fun _ b => R b :=
  Returns.bind (Q := fun _ _ => True) ⟨fun _ _ _ _ => trivial⟩ fun _ a _ => hf a

theorem returns_loop {body : σ → Dialogue Req Rep (Verdict σ α)}
    (I : List (Exchange Req Rep) → σ → Prop) {s : σ} (hI : I [] s)
    (hbody : ∀ log s, I log s → Returns (body s) fun later verdict =>
      match verdict with
      | .again next => I (log ++ later) next
      | .finish a => Q (log ++ later) a) :
    Returns (loop body s) Q := by
  apply ensures_loop I hI
  · intro log s _ a h
    cases h
  · intro log s hI
    apply Ensures.mono (hbody log s hI)
    intro later verdict h
    cases verdict with
    | none =>
      intro a ha
      cases ha
    | some verdict =>
      cases verdict with
      | again => exact h _ rfl
      | finish =>
        intro a' ha
        cases ha
        exact h _ rfl

end Returns

/-! ### What is asked -/

abbrev OnlyAsks (m : Dialogue Req Rep α) (p : Req → Prop) : Prop :=
  Ensures m fun log _ => ∀ x ∈ log, p x.request

variable {p q : Req → Prop}

theorem onlyAsks_pure (a : α) (p : Req → Prop) : OnlyAsks (pure a : Dialogue Req Rep α) p :=
  ensures_pure (by simp)

theorem onlyAsks_ask (hr : p r) : OnlyAsks (ask r : Dialogue Req Rep (Rep r)) p := by
  apply ensures_ask
  · simpa using hr
  · intro reply
    simpa using hr

theorem OnlyAsks.mono (hm : OnlyAsks m p) (hpq : ∀ r, p r → q r) : OnlyAsks m q :=
  Ensures.mono hm fun _ _ hlog x hx => hpq _ (hlog x hx)

theorem OnlyAsks.bind (hm : OnlyAsks m p) (hf : ∀ a, OnlyAsks (f a) p) : OnlyAsks (m >>= f) p := by
  apply ensures_bind hm (fun _ hlog => hlog)
  intro log a hlog
  exact Ensures.mono (hf a) fun later _ hlater => List.forall_mem_append.mpr ⟨hlog, hlater⟩

theorem OnlyAsks.loop (hbody : ∀ s, OnlyAsks (body s) p) (s : σ) : OnlyAsks (loop body s) p := by
  apply ensures_loop (fun log _ => ∀ x ∈ log, p x.request) (by simp)
  · exact fun _ _ hlog => hlog
  · intro log s hlog
    apply Ensures.mono (hbody s)
    intro later verdict hlater
    cases verdict with
    | none => exact List.forall_mem_append.mpr ⟨hlog, hlater⟩
    | some verdict => cases verdict <;> exact List.forall_mem_append.mpr ⟨hlog, hlater⟩

abbrev Begins (m : Dialogue Req Rep α) (r : Req) : Prop :=
  Ensures m fun log _ => ∃ reply later, log = ⟨r, reply⟩ :: later

theorem begins_ask (r : Req) : Begins (ask r : Dialogue Req Rep (Rep r)) r :=
  ensures_ask ⟨none, [], rfl⟩ fun reply => ⟨some reply, [], rfl⟩

theorem Begins.bind (hm : Begins m r) : Begins (m >>= f) r := by
  apply ensures_bind hm (fun _ hlog => hlog)
  rintro log a ⟨reply, later, rfl⟩
  constructor
  intro replies n
  exact ⟨reply, later ++ (f a replies n).log, by simp⟩

theorem Begins.loop (hbody : Begins (body s) r) : Begins (loop body s) r :=
  ⟨fun replies n => (Begins.bind hbody).holds replies n⟩

/-! ### Loops that repeat one request -/

def answer (m : Dialogue Req Rep α) (replies : Nat → (r : Req) → Rep r) (n : Nat) : Option α :=
  (m replies n).result.map Prod.fst

def upcoming (replies : Nat → (r : Req) → Rep r) (r : Req) : Nat → List (Rep r)
  | 0 => []
  | n + 1 => replies n r :: upcoming replies r n

section Retry

variable {σ α ρ : Type v}

def retry (r : Req) (receive : σ → Rep r → Verdict σ α) (s : σ) :
    Dialogue Req Rep α :=
  loop (fun s => do
    let reply ← ask r
    pure (receive s reply)) s

def attempts (receive : σ → ρ → Verdict σ α) : σ → List ρ → Option α
  | _, [] => none
  | s, reply :: rest =>
    match receive s reply with
    | .again next => attempts receive next rest
    | .finish a => some a

variable {receive : σ → ρ → Verdict σ α} {s : σ} {reply : ρ}

theorem attempts_cons_of_again {next : σ} (h : receive s reply = .again next) (rest : List ρ) :
    attempts receive s (reply :: rest) = attempts receive next rest := by
  rw [attempts, h]

theorem attempts_cons_of_finish {a : α} (h : receive s reply = .finish a) (rest : List ρ) :
    attempts receive s (reply :: rest) = some a := by
  rw [attempts, h]

theorem attempts_singleton_iff {a : α} :
    attempts receive s [reply] = some a ↔ receive s reply = .finish a := by
  cases h : receive s reply <;> simp [attempts, h]

theorem rounds_retry {r : Req} (receive : σ → Rep r → Verdict σ α) (s : σ)
    (replies : Nat → (r : Req) → Rep r) (n : Nat) {fuel : Nat} (hfuel : n < fuel) :
    answer (rounds (fun s => do
      let reply ← ask r
      pure (receive s reply)) fuel s) replies n =
      attempts receive s (upcoming replies r n) := by
  induction n generalizing fuel s with
  | zero =>
    obtain ⟨fuel, rfl⟩ := Nat.exists_eq_succ_of_ne_zero (Nat.ne_zero_of_lt hfuel)
    rfl
  | succ n ih =>
    obtain ⟨fuel, rfl⟩ := Nat.exists_eq_succ_of_ne_zero (Nat.ne_zero_of_lt hfuel)
    have hbody : (do
        let reply ← ask r
        pure (receive s reply) : Dialogue Req Rep (Verdict σ α)) replies (n + 1) =
        ⟨some (receive s (replies n r), n), [⟨r, some (replies n r)⟩]⟩ := rfl
    rw [answer, rounds, bind_of_done hbody]
    cases hverdict : receive s (replies n r) with
    | again next =>
      rw [upcoming, attempts_cons_of_again hverdict]
      exact ih next (Nat.lt_of_succ_lt_succ hfuel)
    | finish =>
      rw [upcoming, attempts_cons_of_finish hverdict]
      rfl

theorem answer_retry {r : Req} (receive : σ → Rep r → Verdict σ α) (s : σ)
    (replies : Nat → (r : Req) → Rep r) (n : Nat) : answer (retry r receive s) replies n =
      attempts receive s (upcoming replies r n) :=
  rounds_retry receive s replies n (Nat.lt_succ_self n)

theorem attempts_append {step : σ → ρ → σ} (hagain : ∀ s reply next, receive s reply = .again next →
      next = step s reply) {failed : List ρ}
    (hfailed : attempts receive s failed = none) (rest : List ρ) :
    attempts receive s (failed ++ rest) = attempts receive (failed.foldl step s) rest := by
  induction failed generalizing s with
  | nil => rfl
  | cons reply failed ih =>
    cases hverdict : receive s reply with
    | again next =>
      rw [attempts_cons_of_again hverdict] at hfailed
      rw [List.cons_append, attempts_cons_of_again hverdict, ih hfailed,
        hagain s reply next hverdict]
      rfl
    | finish =>
      rw [attempts_cons_of_finish hverdict] at hfailed
      cases hfailed

structure RetryRuns (r : Req) (receive : σ → Rep r → Verdict σ α) (s : σ)
    (Accepted : α → Prop) where
  replies : Nat → (r : Req) → Rep r
  n : Nat
  aloneReplies : Nat → (r : Req) → Rep r
  aloneN : Nat
  failed : List (Rep r)
  final : Rep r
  replies_eq : upcoming replies r n = failed ++ [final]
  alone_eq : upcoming aloneReplies r aloneN = [final]
  failed_eq : attempts receive s failed = none
  accepted : ∃ a, receive s final = .finish a ∧ Accepted a

namespace RetryRuns

variable {r : Req} {receive : σ → Rep r → Verdict σ α} {s : σ}
  {Accepted : α → Prop} (runs : RetryRuns r receive s Accepted)

def SameAnswer (m : Dialogue Req Rep α) : Prop :=
  answer m runs.replies runs.n = answer m runs.aloneReplies runs.aloneN

theorem sameAnswer_iff {step : σ → Rep r → σ}
    (hagain : ∀ s reply next, receive s reply = .again next →
      next = step s reply) {a : α} (ha : receive s runs.final = .finish a) :
    runs.SameAnswer (retry r receive s) ↔
      receive (runs.failed.foldl step s) runs.final = .finish a := by
  rw [SameAnswer, answer_retry, answer_retry, runs.replies_eq, runs.alone_eq,
    attempts_append hagain runs.failed_eq, attempts_cons_of_finish ha, attempts_singleton_iff]

end RetryRuns

end Retry

end Dialogue
