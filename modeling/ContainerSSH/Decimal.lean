/-
Numbers as ASCII digits, and lists of numbers with a separator between them.
-/
import Mathlib.Data.List.Basic
import Mathlib.Tactic.Common

namespace Decimal

def encode (n : Nat) : List UInt8 := (Nat.toDigits 10 n).map fun c => UInt8.ofNat c.toNat

def isDigit (b : UInt8) : Bool := 48 ≤ b.toNat && b.toNat ≤ 57

def value (text : List UInt8) : Nat := Nat.ofDigitChars 10 (text.map fun b => Char.ofNat b.toNat) 0

def decode (text : List UInt8) : Option Nat :=
  if text ≠ [] ∧ text.all isDigit = true then some (value text) else none

theorem toNat_ofNat_of_isDigit {c : Char} (hc : c.isDigit = true) :
    (UInt8.ofNat c.toNat).toNat = c.toNat ∧ 48 ≤ c.toNat ∧ c.toNat ≤ 57 := by
  have hbounds : 48 ≤ c.toNat ∧ c.toNat ≤ 57 := by
    rw [Char.isDigit, Bool.and_eq_true, decide_eq_true_eq, decide_eq_true_eq] at hc
    exact ⟨UInt32.le_iff_toNat_le.mp hc.1, UInt32.le_iff_toNat_le.mp hc.2⟩
  rw [UInt8.toNat_ofNat']
  omega

theorem isDigit_of_mem_encode {n : Nat} {b : UInt8} (hb : b ∈ encode n) : isDigit b = true := by
  obtain ⟨c, hc, rfl⟩ := List.mem_map.mp hb
  have hdigit := Nat.isDigit_of_mem_toDigits (by decide) (by decide) hc
  obtain ⟨heq, hle, hge⟩ := toNat_ofNat_of_isDigit hdigit
  simp [isDigit, heq, hle, hge]

theorem encode_ne_nil (n : Nat) : encode n ≠ [] := by
  simp [encode]

theorem value_encode (n : Nat) : value (encode n) = n := by
  have hchars : (encode n).map (fun b => Char.ofNat b.toNat) = Nat.toDigits 10 n := by
    rw [encode, List.map_map]
    refine (List.map_congr_left fun c hc => ?_).trans (List.map_id _)
    have hdigit := Nat.isDigit_of_mem_toDigits (by decide) (by decide) hc
    simp [(toNat_ofNat_of_isDigit hdigit).1]
  rw [value, hchars, Nat.ofDigitChars_ten_toDigits]

@[simp]
theorem decode_encode (n : Nat) : decode (encode n) = some n := by
  have hall : (encode n).all isDigit = true :=
    List.all_eq_true.mpr fun _ hb => isDigit_of_mem_encode hb
  rw [decode, if_pos ⟨encode_ne_nil n, hall⟩, value_encode]

def join (separator : UInt8) (numbers : List Nat) : List UInt8 :=
  [separator].intercalate (numbers.map encode)

def split (separator : UInt8) (text : List UInt8) : Option (List Nat) :=
  (text.splitOn separator).mapM decode

theorem not_mem_encode {b : UInt8} (hb : isDigit b = false) (n : Nat) : b ∉ encode n := by
  intro hmem
  rw [isDigit_of_mem_encode hmem] at hb
  cases hb

theorem join_cons_cons (separator : UInt8) (first next : Nat) (rest : List Nat) :
    join separator (first :: next :: rest) =
      encode first ++ separator :: join separator (next :: rest) := by
  simp [join]

theorem join_ne_nil (separator : UInt8) {numbers : List Nat} (hne : numbers ≠ []) :
    join separator numbers ≠ [] := by
  cases numbers with
  | nil => exact absurd rfl hne
  | cons first rest =>
    cases rest with
    | nil => simpa [join] using encode_ne_nil first
    | cons => simp [join_cons_cons]

theorem mem_join {separator b : UInt8} {numbers : List Nat}
    (hb : b ∈ join separator numbers) : b = separator ∨ isDigit b = true := by
  induction numbers with
  | nil => cases hb
  | cons first rest ih =>
    cases rest with
    | nil =>
      refine .inr (@isDigit_of_mem_encode first _ ?_)
      simpa [join] using hb
    | cons =>
      rw [join_cons_cons, List.mem_append, List.mem_cons] at hb
      rcases hb with hfirst | rfl | hrest
      · exact .inr (isDigit_of_mem_encode hfirst)
      · exact .inl rfl
      · exact ih hrest

theorem not_mem_join {separator b : UInt8} (hne : b ≠ separator)
    (hb : isDigit b = false) (numbers : List Nat) : b ∉ join separator numbers := by
  intro hmem
  rcases mem_join hmem with hsep | hdigit
  · exact hne hsep
  · rw [hdigit] at hb
    cases hb

theorem count_join {separator : UInt8} (hsep : isDigit separator = false)
    (first : Nat) (rest : List Nat) :
    (join separator (first :: rest)).count separator = rest.length := by
  induction rest generalizing first with
  | nil => simpa [join] using List.count_eq_zero.mpr (not_mem_encode hsep first)
  | cons next rest ih =>
    rw [join_cons_cons, List.count_append, List.count_cons_self, ih,
      List.count_eq_zero.mpr (not_mem_encode hsep first), List.length_cons, Nat.zero_add]

theorem mapM_decode (numbers : List Nat) : (numbers.map encode).mapM decode = some numbers := by
  induction numbers with
  | nil => rfl
  | cons first rest ih =>
    rw [List.map_cons, List.mapM_cons, decode_encode, ih]
    rfl

theorem split_join {separator : UInt8} (hsep : isDigit separator = false)
    {numbers : List Nat} (hne : numbers ≠ []) :
    split separator (join separator numbers) = some numbers := by
  have hparts : (join separator numbers).splitOn separator = numbers.map encode := by
    refine List.splitOn_intercalate separator (fun part hpart => ?_) (by simpa using hne)
    obtain ⟨n, -, rfl⟩ := List.mem_map.mp hpart
    exact not_mem_encode hsep n
  rw [split, hparts, mapM_decode]

end Decimal
