/-
The wire format of SSH messages.
-/
import ContainerSSH.Cbor

namespace SshWire

/-! ### Fields -/

inductive FieldType where
  | bool
  | uint32
  | string
  | bytes
deriving DecidableEq

abbrev FieldType.Value : FieldType → Type
  | bool => Bool
  | uint32 => UInt32
  | string => List UInt8
  | bytes => List UInt8

structure Field where
  name : String
  type : FieldType
deriving DecidableEq

structure Struct where
  name : String
  fields : List Field
deriving DecidableEq

def Record : List Field → Type
  | [] => Unit
  | f :: fields => f.type.Value × Record fields

/-! ### The words of a struct -/

def FieldType.Word : (t : FieldType) → t.Value → List UInt8 → Prop
  | bool, b, w => ∃ x : UInt8, b = decide (x ≠ 0) ∧ w = [x]
  | uint32, n, w => w = Cbor.bigEndian 4 n.toNat
  | string, s, w => s.length < Cbor.bound 4 ∧ w = Cbor.bigEndian 4 s.length ++ s
  | bytes, s, w => s.length < Cbor.bound 4 ∧ w = Cbor.bigEndian 4 s.length ++ s

def Word : (fields : List Field) → Record fields → List UInt8 → Prop
  | [], _, w => w = []
  | f :: fields, r, w => ∃ x y, f.type.Word r.1 x ∧ Word fields r.2 y ∧ w = x ++ y

theorem FieldType.ne_nil_of_word {t : FieldType} {v : t.Value} {w : List UInt8}
    (hword : t.Word v w) : w ≠ [] := by
  cases t with
  | bool =>
    obtain ⟨x, -, rfl⟩ := hword
    exact List.cons_ne_nil x []
  | uint32 =>
    obtain rfl := hword
    simp [Cbor.bigEndian]
  | string | bytes =>
    obtain ⟨-, rfl⟩ := hword
    simp [Cbor.bigEndian]

theorem ne_nil_of_word {fields : List Field} (hfields : fields ≠ [])
    {r : Record fields} {w : List UInt8} (hword : Word fields r w) : w ≠ [] := by
  cases fields with
  | nil => exact absurd rfl hfields
  | cons =>
    obtain ⟨x, y, hx, -, rfl⟩ := hword
    simp [FieldType.ne_nil_of_word hx]

/-! ### Reading -/

def shortRead : String := "ssh: short read"

def fieldError (struct : String) (f : Field) : String :=
  "ssh: unmarshal error for field " ++ f.name ++ " of type " ++ struct

def parseError : String := "ssh: parse error in message type 0"

def counted : Parser UInt8 (List UInt8) := (Cbor.number 4).bind Parser.take

def FieldType.read (onShortText : String) : (t : FieldType) → Parser UInt8 t.Value
  | bool => Parser.orFail (Parser.token.bind fun x => .pure (decide (x ≠ 0))) shortRead
  | uint32 => Parser.orFail ((Cbor.number 4).bind fun n => .pure (UInt32.ofNat n)) shortRead
  | string => counted.orFail onShortText
  | bytes => counted.orFail shortRead

def readFields (struct : String) : (fields : List Field) → Parser UInt8 (Record fields)
  | [] => .pure ()
  | f :: fields =>
    (f.type.read (fieldError struct f)).bind fun v =>
      (readFields struct fields).bind fun r => .pure (v, r)

def unmarshal (struct : Struct) (data : List UInt8) : Except String (Record struct.fields) :=
  if data.isEmpty then .error parseError
  else
    match readFields struct.name struct.fields data with
    | .ok (r, rest) => if rest.isEmpty then .ok r else .error parseError
    | .error (.malformed reason) => .error reason
    | .error .incomplete => .error shortRead

/-! ### What is read -/

theorem ofBigEndian_append_singleton (bytes : List UInt8) (b : UInt8) :
    Cbor.ofBigEndian (bytes ++ [b]) = 256 * Cbor.ofBigEndian bytes + b.toNat := by
  simp [Cbor.ofBigEndian]

theorem ofBigEndian_lt (bytes : List UInt8) : Cbor.ofBigEndian bytes < Cbor.bound bytes.length := by
  induction bytes using List.reverseRecOn with
  | nil => decide
  | append_singleton bytes b =>
    have hb := b.toNat_lt
    rw [ofBigEndian_append_singleton, List.length_append]
    simp only [List.length_cons, List.length_nil, Cbor.bound]
    omega

theorem bigEndian_ofBigEndian (bytes : List UInt8) :
    Cbor.bigEndian bytes.length (Cbor.ofBigEndian bytes) = bytes := by
  induction bytes using List.reverseRecOn with
  | nil => rfl
  | append_singleton bytes b ih =>
    have hb := b.toNat_lt
    rw [ofBigEndian_append_singleton, List.length_append]
    simp only [List.length_cons, List.length_nil, Cbor.bigEndian]
    have hhigh : (256 * Cbor.ofBigEndian bytes + b.toNat) / 256 = Cbor.ofBigEndian bytes := by omega
    have hlow : UInt8.ofNat (256 * Cbor.ofBigEndian bytes + b.toNat) = b := by
      apply UInt8.toNat_inj.mp
      rw [UInt8.toNat_ofNat']
      omega
    rw [hhigh, hlow, ih]

theorem recognises_number (width : Nat) : (Cbor.number width).Recognises fun n w =>
      n < Cbor.bound width ∧ w = Cbor.bigEndian width n := by
  refine ((Parser.recognises_take width).map Cbor.ofBigEndian).congr ?_
  intro n w
  constructor
  · rintro ⟨bytes, rfl, rfl, rfl⟩
    exact ⟨ofBigEndian_lt _, (bigEndian_ofBigEndian _).symm⟩
  · rintro ⟨hn, rfl⟩
    exact ⟨_, (Cbor.ofBigEndian_bigEndian hn).symm, rfl, Cbor.length_bigEndian width n⟩

theorem recognises_counted : counted.Recognises fun s w =>
      s.length < Cbor.bound 4 ∧ w = Cbor.bigEndian 4 s.length ++ s := by
  refine ((recognises_number 4).bind fun n => Parser.recognises_take n).congr ?_
  intro s w
  constructor
  · rintro ⟨_, _, _, ⟨hn, rfl⟩, ⟨rfl, rfl⟩, rfl⟩
    exact ⟨hn, rfl⟩
  · rintro ⟨hn, rfl⟩
    exact ⟨s.length, _, s, ⟨hn, rfl⟩, ⟨rfl, rfl⟩, rfl⟩

theorem recognises_uint32 : ((Cbor.number 4).bind fun n => .pure (UInt32.ofNat n)).Recognises
      fun v w => w = Cbor.bigEndian 4 v.toNat := by
  refine ((recognises_number 4).map UInt32.ofNat).congr ?_
  intro v w
  have hsize : Cbor.bound 4 = UInt32.size := by decide
  constructor
  · rintro ⟨n, rfl, hn, rfl⟩
    rw [UInt32.toNat_ofNat_of_lt' (hsize ▸ hn)]
  · rintro rfl
    exact ⟨v.toNat, (UInt32.ofNat_toNat).symm, hsize ▸ v.toNat_lt, rfl⟩

theorem recognises_read (onShortText : String) (t : FieldType) :
    (t.read onShortText).Recognises t.Word := by
  cases t with
  | bool => exact (Parser.recognises_token.map fun x : UInt8 => decide (x ≠ 0)).orFail _
  | uint32 => exact recognises_uint32.orFail _
  | string | bytes => exact recognises_counted.orFail _

theorem recognises_readFields (struct : String) (fields : List Field) :
    (readFields struct fields).Recognises (Word fields) := by
  induction fields with
  | nil =>
    refine (Parser.recognises_pure ()).congr fun r w => ?_
    simp [Word]
  | cons f fields ih =>
    refine ((recognises_read _ f.type).bind fun v =>
      ih.map fun r => (v, r)).congr fun r w => ?_
    constructor
    · rintro ⟨v, x, y, hv, ⟨r, rfl, hr⟩, rfl⟩
      exact ⟨x, y, hv, hr, rfl⟩
    · rintro ⟨x, y, hv, hr, rfl⟩
      exact ⟨r.1, x, y, hv, ⟨r.2, rfl, hr⟩, rfl⟩

theorem unmarshal_eq_ok_iff {struct : Struct} {data : List UInt8} {r : Record struct.fields} :
    unmarshal struct data = .ok r ↔ data ≠ [] ∧ Word struct.fields r data := by
  have hreads := recognises_readFields struct.name struct.fields data r []
  simp only [List.append_nil, exists_eq_right'] at hreads
  unfold unmarshal
  cases data with
  | nil => simp
  | cons =>
    simp only [List.isEmpty_cons, Bool.false_eq_true, ↓reduceIte, ne_eq,
      reduceCtorEq, not_false_eq_true, true_and, ← hreads]
    split
    · next r' rest heq => cases rest <;> simp [heq]
    · next reason heq => simp [heq]
    · next heq => simp [heq]

end SshWire
