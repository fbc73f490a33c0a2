/-
Reading bytes as UTF-8 with a character in the place of every byte at which no character begins.
-/
import Mathlib.Tactic.Common

namespace Utf8

def encode (text : List Char) : List UInt8 := text.flatMap String.utf8EncodeChar

def next (bytes : List UInt8) : Option Char := bytes.toByteArray.utf8DecodeChar? 0

def decodeFrom (replacement : Char) : Nat → List UInt8 → List Char
  | _, [] => []
  | skip + 1, _ :: rest => decodeFrom replacement skip rest
  | 0, b :: rest =>
    match next (b :: rest) with
    | some c => c :: decodeFrom replacement (c.utf8Size - 1) rest
    | none => replacement :: decodeFrom replacement 0 rest

def decode (replacement : Char) (bytes : List UInt8) : List Char := decodeFrom replacement 0 bytes

def Valid (bytes : List UInt8) : Prop := ∃ text, encode text = bytes

theorem encode_cons (c : Char) (text : List Char) :
    encode (c :: text) = String.utf8EncodeChar c ++ encode text :=
  List.flatMap_cons

theorem next_utf8EncodeChar_append (c : Char) (rest : List UInt8) :
    next (String.utf8EncodeChar c ++ rest) = some c := by
  rw [next, List.toByteArray_append]
  exact ByteArray.utf8DecodeChar?_utf8EncodeChar_append

theorem eq_append_of_next {bytes : List UInt8} {c : Char} (hnext : next bytes = some c) :
    ∃ rest, bytes = String.utf8EncodeChar c ++ rest := by
  have hsome : (bytes.toByteArray.utf8DecodeChar? 0).isSome = true := by
    rw [← next, hnext]
    rfl
  have hchar : bytes.toByteArray.utf8DecodeChar 0 hsome = c := Option.get_of_eq_some hsome hnext
  have hextract (k : Nat) : bytes.toByteArray.extract 0 k = (bytes.take k).toByteArray := by
    ext1
    simp
  have hbytes := ByteArray.utf8EncodeChar_utf8DecodeChar (h := hsome)
  rw [hchar, hextract, List.toByteArray_inj] at hbytes
  exact ⟨_, hbytes ▸ (List.take_append_drop _ bytes).symm⟩

theorem decodeFrom_eq_drop (replacement : Char) (skip : Nat) (bytes : List UInt8) :
    decodeFrom replacement skip bytes = decode replacement (bytes.drop skip) := by
  induction bytes generalizing skip with
  | nil => simp [decode, decodeFrom]
  | cons b rest ih =>
    cases skip with
    | zero => rfl
    | succ => rw [decodeFrom, ih, List.drop_succ_cons]

theorem decode_utf8EncodeChar_append (replacement c : Char) (rest : List UInt8) :
    decode replacement (String.utf8EncodeChar c ++ rest) = c :: decode replacement rest := by
  have hnext := next_utf8EncodeChar_append c rest
  cases hbytes : String.utf8EncodeChar c with
  | nil => exact absurd hbytes String.utf8EncodeChar_ne_nil
  | cons b others =>
    have hsize : c.utf8Size - 1 = others.length := by
      rw [← String.length_utf8EncodeChar, hbytes]
      rfl
    rw [hbytes, List.cons_append] at hnext
    rw [decode, List.cons_append, decodeFrom]
    simp only [hnext, hsize, decodeFrom_eq_drop, List.drop_left]

theorem decode_cons_of_next {replacement : Char} {b : UInt8}
    {rest : List UInt8} (hnext : next (b :: rest) = none) :
    decode replacement (b :: rest) = replacement :: decode replacement rest := by
  rw [decode, decodeFrom]
  simp only [hnext]
  rfl

theorem decode_encode (replacement : Char) (text : List Char) :
    decode replacement (encode text) = text := by
  induction text with
  | nil => rfl
  | cons c text ih => rw [encode_cons, decode_utf8EncodeChar_append, ih]

theorem encode_decode_of_valid {bytes : List UInt8} (hvalid : Valid bytes)
    (replacement : Char) : encode (decode replacement bytes) = bytes := by
  obtain ⟨text, rfl⟩ := hvalid
  rw [decode_encode]

instance decidableValid (bytes : List UInt8) : Decidable (Valid bytes) :=
  decidable_of_iff (encode (decode '?' bytes) = bytes)
    ⟨fun h => ⟨_, h⟩, fun h => encode_decode_of_valid h '?'⟩

theorem next_induction {motive : List UInt8 → Prop} (nil : motive [])
    (char : ∀ c rest, motive rest → motive (String.utf8EncodeChar c ++ rest))
    (byte : ∀ b rest, next (b :: rest) = none → motive rest → motive (b :: rest))
    (bytes : List UInt8) : motive bytes := by
  induction hn : bytes.length using Nat.strongRecOn generalizing bytes with
  | ind n ih =>
    cases bytes with
    | nil => exact nil
    | cons b rest =>
      cases hnext : next (b :: rest) with
      | none =>
        refine byte b rest hnext (ih rest.length ?_ rest rfl)
        rw [← hn, List.length_cons]
        omega
      | some c =>
        obtain ⟨tail, htail⟩ := eq_append_of_next hnext
        have hpos : 0 < c.utf8Size := Char.utf8Size_pos c
        rw [htail]
        refine char c tail (ih tail.length ?_ tail rfl)
        rw [← hn, htail, List.length_append, String.length_utf8EncodeChar]
        omega

section Replacement

variable {replacement : Char}

theorem length_encode_decode (hwide : 1 < replacement.utf8Size) (bytes : List UInt8) :
    bytes.length ≤ (encode (decode replacement bytes)).length ∧
      ((encode (decode replacement bytes)).length = bytes.length → Valid bytes) := by
  induction bytes using next_induction with
  | nil => exact ⟨Nat.le_refl _, fun _ => ⟨[], rfl⟩⟩
  | char c rest ih =>
    obtain ⟨hle, hvalid⟩ := ih
    rw [decode_utf8EncodeChar_append, encode_cons]
    simp only [List.length_append]
    refine ⟨by omega, fun hlength => ?_⟩
    obtain ⟨text, rfl⟩ := hvalid (by omega)
    exact ⟨c :: text, encode_cons c text⟩
  | byte b rest hnext =>
    rw [decode_cons_of_next hnext, encode_cons]
    simp only [List.length_append, List.length_cons, String.length_utf8EncodeChar]
    exact ⟨by omega, fun hlength => absurd hlength (by omega)⟩

theorem length_flatten_le (hwide : 1 < replacement.utf8Size) (pieces : List (List UInt8)) :
    pieces.flatten.length ≤
      (pieces.flatMap fun piece => encode (decode replacement piece)).length := by
  induction pieces with
  | nil => exact Nat.le_refl _
  | cons piece rest ih =>
    rw [List.flatMap_cons, List.flatten_cons, List.length_append, List.length_append]
    exact Nat.add_le_add (length_encode_decode hwide piece).1 ih

theorem flatMap_encode_decode_eq_iff (hwide : 1 < replacement.utf8Size)
    (pieces : List (List UInt8)) : (pieces.flatMap fun piece => encode (decode replacement piece)) =
        pieces.flatten ↔ ∀ piece ∈ pieces, Valid piece := by
  induction pieces with
  | nil => simp
  | cons piece rest ih =>
    rw [List.flatMap_cons, List.flatten_cons, List.forall_mem_cons, ← ih]
    constructor
    · intro heq
      have hlength := congrArg List.length heq
      simp only [List.length_append] at hlength
      obtain ⟨hle, hvalid⟩ := length_encode_decode hwide piece
      have hrest := length_flatten_le hwide rest
      have hpiece := hvalid (by omega)
      rw [encode_decode_of_valid hpiece, List.append_cancel_left_eq] at heq
      exact ⟨hpiece, heq⟩
    · rintro ⟨hpiece, hrest⟩
      rw [encode_decode_of_valid hpiece, hrest]

end Replacement

end Utf8
