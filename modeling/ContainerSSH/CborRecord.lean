/-
Structs as CBOR maps.
-/
import ContainerSSH.Cbor

structure CborKind where
  Value : Type
  zero : Value
  encode : Value → CborValue
  decode : CborValue → Option Value
  decode_encode : ∀ v, decode (encode v) = some v

structure CborField where
  key : String
  name : String
  kind : CborKind

namespace CborField

def equalFold (a b : String) : Bool := a.toList.map Char.toLower = b.toList.map Char.toLower

def lookup {α : Type} (name : String) (entries : List (String × α)) : Option α :=
  ((entries.find? fun e => e.1 = name).or (entries.find? fun e => equalFold e.1 name)).map Prod.snd

section Lookup

variable {α : Type} {name key : String} {v : α} {before after : List (String × α)}

theorem find?_append_cons {p : String × α → Bool} {e : String × α}
    (hbefore : ∀ x ∈ before, p x = false) (hafter : ∀ x ∈ after, p x = false) :
    (before ++ e :: after).find? p = if p e then some e else none := by
  rw [List.find?_append, List.find?_eq_none.mpr (by simpa using hbefore),
    Option.none_or, List.find?_cons]
  split
  · simp [*]
  · simpa [*] using hafter

theorem lookup_append_cons (hkey : equalFold key name = true)
    (hbefore : ∀ e ∈ before, equalFold e.1 name = false)
    (hafter : ∀ e ∈ after, equalFold e.1 name = false) :
    lookup name (before ++ (key, v) :: after) = some v := by
  have hexact : ∀ {l : List (String × α)}, (∀ e ∈ l, equalFold e.1 name = false) →
      ∀ e ∈ l, decide (e.1 = name) = false := by
    intro l hl e he
    rw [decide_eq_false_iff_not]
    intro heq
    have hfold := hl e he
    simp [heq, equalFold] at hfold
  rw [lookup, find?_append_cons (hexact hbefore) (hexact hafter),
    find?_append_cons hbefore hafter, if_pos hkey]
  split <;> rfl

end Lookup

def Record : List CborField → Type
  | [] => Unit
  | f :: fields => f.kind.Value × Record fields

def toEntries : (fields : List CborField) → Record fields → List (String × CborValue)
  | [], _ => []
  | f :: fields, r => (f.key, f.kind.encode r.1) :: toEntries fields r.2

def read (entries : List (String × CborValue)) (f : CborField) : Option f.kind.Value :=
  match lookup f.name entries with
  | none => some f.kind.zero
  | some v => f.kind.decode v

def ofEntries (entries : List (String × CborValue)) :
    (fields : List CborField) → Option (Record fields)
  | [] => some ()
  | f :: fields =>
    (f.read entries).bind fun v => (ofEntries entries fields).map fun rest => (v, rest)

def WellKeyed (fields : List CborField) : Prop :=
  (∀ f ∈ fields, equalFold f.key f.name = true) ∧ fields.Pairwise fun f g =>
      equalFold f.key g.name = false ∧ equalFold g.key f.name = false

instance decidableWellKeyed (fields : List CborField) : Decidable (WellKeyed fields) :=
  inferInstanceAs (Decidable (_ ∧ _))

theorem exists_key_of_mem_toEntries {fields : List CborField}
    {r : Record fields} {e : String × CborValue}
    (he : e ∈ toEntries fields r) : ∃ f ∈ fields, e.1 = f.key := by
  induction fields with
  | nil => simp [toEntries] at he
  | cons f fields ih =>
    rcases List.mem_cons.mp he with rfl | hrest
    · exact ⟨f, List.mem_cons_self, rfl⟩
    · obtain ⟨g, hg, hkey⟩ := ih hrest
      exact ⟨g, List.mem_cons_of_mem f hg, hkey⟩

theorem ofEntries_append_toEntries {fields : List CborField}
    (hkeyed : WellKeyed fields) (r : Record fields) {before : List (String × CborValue)}
    (hbefore : ∀ e ∈ before, ∀ f ∈ fields, equalFold e.1 f.name = false) :
    ofEntries (before ++ toEntries fields r) fields = some r := by
  induction fields generalizing before with
  | nil => rfl
  | cons f fields ih =>
    obtain ⟨hfold, hpairwise⟩ := hkeyed
    rw [List.pairwise_cons] at hpairwise
    have hafter : ∀ e ∈ toEntries fields r.2, equalFold e.1 f.name = false := by
      intro e he
      obtain ⟨g, hg, hkey⟩ := exists_key_of_mem_toEntries he
      rw [hkey]
      exact (hpairwise.1 g hg).2
    have hread : f.read (before ++ toEntries (f :: fields) r) = some r.1 := by
      have hlookup : lookup f.name (before ++ toEntries (f :: fields) r) =
          some (f.kind.encode r.1) :=
        lookup_append_cons (hfold f List.mem_cons_self)
          (fun e he => hbefore e he f List.mem_cons_self) hafter
      rw [read, hlookup]
      exact f.kind.decode_encode r.1
    have hrest := @ih ⟨fun g hg => hfold g (List.mem_cons_of_mem f hg), hpairwise.2⟩ r.2
      (before ++ [(f.key, f.kind.encode r.1)]) (by
        intro e he g hg
        rcases List.mem_append.mp he with he | he
        · exact hbefore e he g (List.mem_cons_of_mem f hg)
        · rw [List.mem_singleton.mp he]
          exact (hpairwise.1 g hg).1)
    rw [List.append_assoc, List.singleton_append] at hrest
    rw [ofEntries, hread, toEntries, hrest]
    rfl

theorem ofEntries_toEntries {fields : List CborField}
    (hkeyed : WellKeyed fields) (r : Record fields) :
    ofEntries (toEntries fields r) fields = some r :=
  @ofEntries_append_toEntries fields hkeyed r [] (by simp)

def zeros : (fields : List CborField) → Record fields
  | [] => ()
  | f :: fields => (f.kind.zero, zeros fields)

end CborField

structure CborStruct (α : Type) where
  fields : List CborField
  values : α → CborField.Record fields
  build : CborField.Record fields → α
  build_values : ∀ a, build (values a) = a
  keyed : CborField.WellKeyed fields

namespace CborStruct

variable {α : Type} (struct : CborStruct α)

def zero : α := struct.build (CborField.zeros struct.fields)

def encode (a : α) : CborValue := .map (CborField.toEntries struct.fields (struct.values a))

def decode : CborValue → Option α
  | .null => some struct.zero
  | .map entries => (CborField.ofEntries entries struct.fields).map struct.build
  | _ => none

theorem decode_encode (a : α) : struct.decode (struct.encode a) = some a := by
  rw [encode, decode, CborField.ofEntries_toEntries struct.keyed,
    Option.map_some, struct.build_values]

end CborStruct

namespace CborKind

def string : CborKind where
  Value := String
  zero := ""
  encode := .text
  decode
    | .null => some ""
    | .text s => some s
    | _ => none
  decode_encode := fun _ => rfl

def bytes : CborKind where
  Value := List UInt8
  zero := []
  encode := .bytes
  decode
    | .null => some []
    | .bytes data => some data
    | _ => none
  decode_encode := fun _ => rfl

def bool : CborKind where
  Value := Bool
  zero := false
  encode := .bool
  decode
    | .null => some false
    | .bool b => some b
    | _ => none
  decode_encode := fun _ => rfl

def int : CborKind where
  Value := Int
  zero := 0
  encode := .int
  decode
    | .null => some 0
    | .int n => some n
    | _ => none
  decode_encode := fun _ => rfl

def uint32 : CborKind where
  Value := UInt32
  zero := 0
  encode n := .int n.toNat
  decode
    | .null => some 0
    | .int (Int.ofNat n) => some (UInt32.ofNat n)
    | _ => none
  decode_encode := fun _ => congrArg some UInt32.ofNat_toNat

def uint64 : CborKind where
  Value := UInt64
  zero := 0
  encode n := .int n.toNat
  decode
    | .null => some 0
    | .int (Int.ofNat n) => some (UInt64.ofNat n)
    | _ => none
  decode_encode := fun _ => congrArg some UInt64.ofNat_toNat

def pointer (kind : CborKind) (hnull : ∀ v, kind.encode v ≠ .null) : CborKind where
  Value := Option kind.Value
  zero := none
  encode
    | none => .null
    | some v => kind.encode v
  decode
    | .null => some none
    | v => (kind.decode v).map some
  decode_encode v := by
    cases v with
    | none => rfl
    | some v =>
      dsimp only
      split
      next h => exact absurd h (hnull v)
      next => rw [kind.decode_encode, Option.map_some]

def list (kind : CborKind) : CborKind where
  Value := List kind.Value
  zero := []
  encode l := .array (l.map kind.encode)
  decode
    | .null => some []
    | .array items => items.mapM kind.decode
    | _ => none
  decode_encode l := by
    dsimp only
    induction l with
    | nil => rfl
    | cons v rest ih =>
      rw [List.map_cons, List.mapM_cons, kind.decode_encode, ih]
      rfl

def entries : CborKind where
  Value := List (String × CborValue)
  zero := []
  encode := .map
  decode
    | .null => some []
    | .map entries => some entries
    | _ => none
  decode_encode := fun _ => rfl

theorem entries_encode_ne_null (v : entries.Value) : entries.encode v ≠ .null := by
  rintro ⟨⟩

theorem uint64_encode_ne_null (v : uint64.Value) : uint64.encode v ≠ .null := by
  rintro ⟨⟩

def ofStruct {α : Type} (struct : CborStruct α) : CborKind where
  Value := α
  zero := struct.zero
  encode := struct.encode
  decode := struct.decode
  decode_encode := struct.decode_encode

end CborKind
