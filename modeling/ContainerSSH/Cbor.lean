/-
CBOR.
-/
import ContainerSSH.Parsing

inductive CborValue where
  | null
  | bool (b : Bool)
  | int (n : Int)
  | bytes (data : List UInt8)
  | text (s : String)
  | array (items : List CborValue)
  | map (entries : List (String × CborValue))
deriving Repr

namespace Cbor

inductive Major where
  | unsigned
  | negative
  | bytes
  | text
  | array
  | map
  | simple
deriving DecidableEq

namespace Major

def code : Major → Nat
  | unsigned => 0
  | negative => 1
  | bytes => 2
  | text => 3
  | array => 4
  | map => 5
  | simple => 7

def ofCode : Nat → Option Major
  | 0 => some unsigned
  | 1 => some negative
  | 2 => some bytes
  | 3 => some text
  | 4 => some array
  | 5 => some map
  | 7 => some simple
  | _ => none

theorem code_lt (major : Major) : major.code < 8 := by
  cases major <;> decide

theorem ofCode_code (major : Major) : ofCode major.code = some major := by
  cases major <;> rfl

end Major

def bound : Nat → Nat
  | 0 => 1
  | width + 1 => 256 * bound width

def bigEndian : Nat → Nat → List UInt8
  | 0, _ => []
  | width + 1, n => bigEndian width (n / 256) ++ [UInt8.ofNat n]

def ofBigEndian (bytes : List UInt8) : Nat := bytes.foldl (fun n b => 256 * n + b.toNat) 0

@[simp]
theorem length_bigEndian (width n : Nat) : (bigEndian width n).length = width := by
  induction width generalizing n with
  | zero => rfl
  | succ width ih => simp [bigEndian, ih]

theorem ofBigEndian_bigEndian {width n : Nat} (hn : n < bound width) :
    ofBigEndian (bigEndian width n) = n := by
  induction width generalizing n with
  | zero =>
    have hzero : n = 0 := Nat.lt_one_iff.mp hn
    rw [hzero]
    rfl
  | succ width ih =>
    have hhigh : n / 256 < bound width := Nat.div_lt_of_lt_mul hn
    have hbytes : ofBigEndian (bigEndian (width + 1) n) =
        256 * ofBigEndian (bigEndian width (n / 256)) + (UInt8.ofNat n).toNat := by
      simp [bigEndian, ofBigEndian]
    rw [hbytes, ih hhigh]
    exact Nat.div_add_mod n 256

def number (width : Nat) : Parser UInt8 Nat :=
  (Parser.take width).bind fun bytes => .pure (ofBigEndian bytes)

theorem delimits_number {width n : Nat} (hn : n < bound width) :
    (number width).Delimits (bigEndian width n) n := by
  have htake := Parser.delimits_take (bigEndian width n)
  rw [length_bigEndian] at htake
  have hmap := htake.map ofBigEndian
  rwa [ofBigEndian_bigEndian hn] at hmap

/-- CBOR has no argument of `2 ^ 64` or more, nor has Go; such a number is written in unary, so
that every `Nat` has a word. -/
def unaryWord : Nat → List UInt8
  | 0 => [0]
  | n + 1 => 1 :: unaryWord n

def unary : Parser UInt8 Nat
  | [] => .error .incomplete
  | b :: rest =>
    if b = 0 then .ok (0, rest)
    else
      match unary rest with
      | .ok (n, rest) => .ok (n + 1, rest)
      | .error e => .error e

theorem delimits_unary (n : Nat) : unary.Delimits (unaryWord n) n := by
  induction n with
  | zero =>
    refine ⟨fun rest => rfl, fun part hpart hne => ?_⟩
    cases part with
    | nil => exact ⟨.incomplete, rfl⟩
    | cons b rest =>
      refine absurd ?_ hne
      exact hpart.eq_of_length_le (Nat.le_add_left 1 rest.length)
  | succ n ih =>
    refine ⟨fun rest => ?_, fun part hpart hne => ?_⟩
    · simp [unaryWord, unary, ih.reads rest]
    · cases part with
      | nil => exact ⟨.incomplete, rfl⟩
      | cons b rest =>
        rw [unaryWord, List.cons_prefix_cons] at hpart
        obtain ⟨rfl, hrest⟩ := hpart
        obtain ⟨e, he⟩ := ih.cut rest hrest fun heq => hne (by rw [heq]; rfl)
        exact ⟨e, by simp [unary, he]⟩

theorem takes_unary : unary.Takes 0 := by
  intro input
  induction input with
  | nil => rintro n rest ⟨⟩
  | cons b tail ih =>
    intro n rest hunary
    simp only [unary] at hunary
    split at hunary
    · cases hunary
      simp
    · split at hunary
      · cases hunary
        have := ih _ _ (by assumption)
        simp only [List.length_cons]
        omega
      · cases hunary

def info (n : Nat) : Nat :=
  if n < 24 then n
  else if n < bound 1 then 24
  else if n < bound 2 then 25
  else if n < bound 4 then 26
  else if n < bound 8 then 27
  else 28

def argumentWord (n : Nat) : List UInt8 :=
  if n < 24 then []
  else if n < bound 1 then bigEndian 1 n
  else if n < bound 2 then bigEndian 2 n
  else if n < bound 4 then bigEndian 4 n
  else if n < bound 8 then bigEndian 8 n
  else unaryWord n

def argument (info : Nat) : Parser UInt8 Nat :=
  if info < 24 then .pure info
  else if info = 24 then number 1
  else if info = 25 then number 2
  else if info = 26 then number 4
  else if info = 27 then number 8
  else if info = 28 then unary
  else .fail (.malformed "invalid additional information")

theorem delimits_argument (n : Nat) : (argument (info n)).Delimits (argumentWord n) n := by
  unfold info argumentWord
  split
  next hsmall =>
    rw [argument, if_pos hsmall]
    exact Parser.delimits_pure n
  next =>
    split
    next h => exact delimits_number h
    next =>
      split
      next h => exact delimits_number h
      next =>
        split
        next h => exact delimits_number h
        next =>
          split
          next h => exact delimits_number h
          next => exact delimits_unary n

theorem info_lt (n : Nat) : info n < 32 := by
  unfold info
  repeat' split
  all_goals omega

theorem takes_number (width : Nat) : (number width).Takes 0 :=
  (Parser.takes_take width).bind fun _ => Parser.takes_pure _

theorem takes_argument (code : Nat) : (argument code).Takes 0 := by
  unfold argument
  repeat' split
  · exact Parser.takes_pure code
  · exact takes_number 1
  · exact takes_number 2
  · exact takes_number 4
  · exact takes_number 8
  · exact takes_unary
  · exact Parser.takes_fail _ 0

def headWord (major : Major) (n : Nat) : List UInt8 :=
  UInt8.ofNat (32 * major.code + info n) :: argumentWord n

def head : Parser UInt8 (Major × Nat) :=
  Parser.token.bind fun b =>
    match Major.ofCode (b.toNat / 32) with
    | none => .fail (.malformed "unsupported major type")
    | some major => (argument (b.toNat % 32)).bind fun n => .pure (major, n)

theorem delimits_head (major : Major) (n : Nat) : head.Delimits (headWord major n) (major, n) := by
  have hinfo := info_lt n
  have hcode := major.code_lt
  have hbyte : (UInt8.ofNat (32 * major.code + info n)).toNat = 32 * major.code + info n := by
    exact Nat.mod_eq_of_lt (by omega)
  refine (Parser.delimits_token _).bind ?_
  have hmajor : (32 * major.code + info n) / 32 = major.code := by omega
  have harg : (32 * major.code + info n) % 32 = info n := by omega
  simp only [hbyte, hmajor, harg, major.ofCode_code]
  exact (delimits_argument n).map (major, ·)

theorem takes_head : head.Takes 1 := by
  refine Parser.takes_token.bind fun b => ?_
  split
  · exact Parser.takes_fail _ 0
  · exact (takes_argument _).bind fun n => Parser.takes_pure _

def textWord (s : String) : List UInt8 := s.toByteArray.data.toList

def ofText (bytes : List UInt8) : Parser UInt8 String :=
  let array : ByteArray := ⟨bytes.toArray⟩
  if h : array.IsValidUTF8 then .pure (.ofByteArray array h)
  else .fail (.malformed "invalid UTF-8 string")

def string (length : Nat) : Parser UInt8 String := (Parser.take length).bind ofText

theorem delimits_string (s : String) : (string (textWord s).length).Delimits (textWord s) s := by
  have harray : ByteArray.mk (textWord s).toArray = s.toByteArray := by simp [textWord]
  have hvalid : (ByteArray.mk (textWord s).toArray).IsValidUTF8 := harray ▸ s.isValidUTF8
  have htext : (ofText (textWord s)).Delimits [] s := by
    rw [ofText, dif_pos hvalid]
    exact Parser.delimits_pure s
  have hstring := (Parser.delimits_take (textWord s)).bind htext
  rwa [List.append_nil] at hstring

theorem takes_string (length : Nat) : (string length).Takes 0 := by
  refine (Parser.takes_take length).bind fun bytes => ?_
  unfold ofText
  dsimp only
  split
  · exact Parser.takes_pure _
  · exact Parser.takes_fail _ 0

def entry (value : Parser UInt8 CborValue) : Parser UInt8 (String × CborValue) :=
  head.bind fun h =>
    if h.1 = .text then (string h.2).bind fun key => value.bind fun v => .pure (key, v)
    else .fail (.malformed "unsupported key")

def simple (n : Nat) : Parser UInt8 CborValue :=
  if n = 20 then .pure (.bool false)
  else if n = 21 then .pure (.bool true)
  else if n = 22 then .pure .null
  else .fail (.malformed "unsupported simple value")

theorem takes_simple (n : Nat) : (simple n).Takes 0 := by
  unfold simple
  repeat' split
  · exact Parser.takes_pure _
  · exact Parser.takes_pure _
  · exact Parser.takes_pure _
  · exact Parser.takes_fail _ 0

def content (value : Parser UInt8 CborValue) : Major × Nat → Parser UInt8 CborValue
  | (.unsigned, n) => .pure (.int n)
  | (.negative, n) => .pure (.int (Int.negSucc n))
  | (.bytes, n) => (Parser.take n).bind fun bytes => .pure (.bytes bytes)
  | (.text, n) => (string n).bind fun s => .pure (.text s)
  | (.array, n) => (value.many n).bind fun items => .pure (.array items)
  | (.map, n) => ((entry value).many n).bind fun entries => .pure (.map entries)
  | (.simple, n) => simple n

def value : Nat → Parser UInt8 CborValue
  | 0 => .fail (.malformed "exceeded nesting depth")
  | depth + 1 => head.bind (content (value depth))

def decode : Parser UInt8 CborValue := fun input => value input.length input

mutual

def word : CborValue → List UInt8
  | .null => headWord .simple 22
  | .bool b => headWord .simple (if b then 21 else 20)
  | .int (Int.ofNat n) => headWord .unsigned n
  | .int (Int.negSucc n) => headWord .negative n
  | .bytes data => headWord .bytes data.length ++ data
  | .text s => headWord .text (textWord s).length ++ textWord s
  | .array items => headWord .array items.length ++ itemsWord items
  | .map entries => headWord .map entries.length ++ entriesWord entries

def itemsWord : List CborValue → List UInt8
  | [] => []
  | v :: rest => word v ++ itemsWord rest

def entriesWord : List (String × CborValue) → List UInt8
  | [] => []
  | (key, v) :: rest =>
    headWord .text (textWord key).length ++ (textWord key ++ word v) ++ entriesWord rest

end

def entryWord (e : String × CborValue) : List UInt8 :=
  headWord .text (textWord e.1).length ++ (textWord e.1 ++ word e.2)

theorem itemsWord_eq (items : List CborValue) : itemsWord items = items.flatMap word := by
  induction items with
  | nil => rw [itemsWord, List.flatMap_nil]
  | cons v rest ih => rw [itemsWord, List.flatMap_cons, ih]

theorem entriesWord_eq (entries : List (String × CborValue)) :
    entriesWord entries = entries.flatMap entryWord := by
  induction entries with
  | nil => rw [entriesWord, List.flatMap_nil]
  | cons e rest ih => rw [entriesWord, List.flatMap_cons, ih, entryWord]

theorem value_induction {P : CborValue → Prop} (null : P .null)
    (bool : ∀ b, P (.bool b)) (int : ∀ n, P (.int n))
    (bytes : ∀ data, P (.bytes data)) (text : ∀ s, P (.text s))
    (array : ∀ items, (∀ v ∈ items, P v) → P (.array items))
    (map : ∀ entries, (∀ e ∈ entries, P e.2) → P (.map entries)) (v : CborValue) : P v :=
  @CborValue.rec P (fun items => ∀ v ∈ items, P v)
    (fun entries => ∀ e ∈ entries, P e.2) (fun e => P e.2) null bool int bytes text array map
    (by simp) (fun _ _ hhead htail => List.forall_mem_cons.mpr ⟨hhead, htail⟩)
    (by simp) (fun _ _ hhead htail => List.forall_mem_cons.mpr ⟨hhead, htail⟩) (fun _ _ h => h) v

theorem length_headWord_pos (major : Major) (n : Nat) : 0 < (headWord major n).length :=
  Nat.zero_lt_succ _

theorem delimits_entry {p : Parser UInt8 CborValue} {e : String × CborValue}
    (hp : p.Delimits (word e.2) e.2) : (entry p).Delimits (entryWord e) e := by
  refine (delimits_head .text _).bind ?_
  exact (delimits_string e.1).bind (hp.map (e.1, ·))

theorem delimits_value_of_content {depth n : Nat} {major : Major}
    {rest : List UInt8} {v : CborValue} (hdepth : (headWord major n ++ rest).length ≤ depth)
    (hcontent : ∀ inner, rest.length ≤ inner → (content (value inner) (major, n)).Delimits rest v) :
    (value depth).Delimits (headWord major n ++ rest) v := by
  have hpos := length_headWord_pos major n
  rw [List.length_append] at hdepth
  cases depth with
  | zero => omega
  | succ inner => exact (delimits_head major n).bind (hcontent inner (by omega))

theorem delimits_value_of_head {depth n : Nat} {major : Major} {v : CborValue}
    (hdepth : (headWord major n).length ≤ depth)
    (hcontent : ∀ inner, content (value inner) (major, n) = .pure v) :
    (value depth).Delimits (headWord major n) v := by
  rw [← List.append_nil (headWord major n)] at hdepth ⊢
  refine delimits_value_of_content hdepth fun inner _ => ?_
  rw [hcontent inner]
  exact Parser.delimits_pure v

theorem length_le_length_flatMap {α : Type} (f : α → List UInt8) {a : α}
    {l : List α} (ha : a ∈ l) : (f a).length ≤ (l.flatMap f).length := by
  exact (List.sublist_flatten_of_mem (List.mem_map_of_mem ha)).length_le

theorem delimits_value (v : CborValue) (depth : Nat)
    (hdepth : (word v).length ≤ depth) : (value depth).Delimits (word v) v := by
  induction v using value_induction generalizing depth with
  | null => exact delimits_value_of_head hdepth fun _ => rfl
  | bool b => cases b <;> exact delimits_value_of_head hdepth fun _ => rfl
  | int n => cases n <;> exact delimits_value_of_head hdepth fun _ => rfl
  | bytes data =>
    refine delimits_value_of_content hdepth fun inner _ => ?_
    exact (Parser.delimits_take data).map CborValue.bytes
  | text s =>
    refine delimits_value_of_content hdepth fun inner _ => ?_
    exact (delimits_string s).map CborValue.text
  | array items ih =>
    rw [word, itemsWord_eq] at hdepth ⊢
    refine delimits_value_of_content hdepth fun inner hinner => ?_
    refine (Parser.delimits_many fun v hv => ?_).map CborValue.array
    exact ih v hv inner ((length_le_length_flatMap word hv).trans hinner)
  | map entries ih =>
    rw [word, entriesWord_eq] at hdepth ⊢
    refine delimits_value_of_content hdepth fun inner hinner => ?_
    refine (Parser.delimits_many fun e he => ?_).map CborValue.map
    refine delimits_entry (ih e he inner ?_)
    have hentry := length_le_length_flatMap entryWord he
    simp only [entryWord, List.length_append] at hentry
    omega

theorem below_content {p q : Parser UInt8 CborValue} (hpq : p.Below q)
    (h : Major × Nat) : (content p h).Below (content q h) := by
  have hentry : (entry p).Below (entry q) := by
    refine (Parser.Below.refl head).bind fun h => ?_
    split
    · refine (Parser.Below.refl _).bind fun key => ?_
      exact hpq.bind fun v => Parser.Below.refl _
    · exact Parser.Below.refl _
  obtain ⟨major, n⟩ := h
  cases major with
  | array => exact (hpq.many n).bind fun items => Parser.Below.refl _
  | map => exact (hentry.many n).bind fun entries => Parser.Below.refl _
  | _ => exact Parser.Below.refl _

theorem below_value {depth depth' : Nat} (hle : depth ≤ depth') :
    (value depth).Below (value depth') := by
  induction depth generalizing depth' with
  | zero => exact Parser.below_fail _ _
  | succ depth ih =>
    cases depth' with
    | zero => omega
    | succ =>
      refine (Parser.Below.refl head).bind fun h => ?_
      exact below_content (ih (Nat.le_of_succ_le_succ hle)) h

theorem takes_content {p : Parser UInt8 CborValue} (hp : p.Takes 0)
    (h : Major × Nat) : (content p h).Takes 0 := by
  have hentry : (entry p).Takes 0 := by
    refine takes_head.weaken.bind fun h => ?_
    split
    · refine (takes_string _).bind fun key => ?_
      exact hp.bind fun v => Parser.takes_pure _
    · exact Parser.takes_fail _ 0
  obtain ⟨major, n⟩ := h
  cases major with
  | unsigned | negative => exact Parser.takes_pure _
  | bytes => exact (Parser.takes_take n).bind fun _ => Parser.takes_pure _
  | text => exact (takes_string n).bind fun s => Parser.takes_pure _
  | array => exact (hp.many n).bind fun items => Parser.takes_pure _
  | map => exact (hentry.many n).bind fun entries => Parser.takes_pure _
  | simple => exact takes_simple n

theorem takes_value (depth : Nat) : (value depth).Takes 1 := by
  induction depth with
  | zero => exact Parser.takes_fail _ 1
  | succ depth ih => exact takes_head.bind (takes_content ih.weaken)

theorem delimits_decode (v : CborValue) : decode.Delimits (word v) v where
  reads rest := (delimits_value v _ (by simp)).reads rest
  cut part hpart hne := by
    cases hpartial : decode part with
    | error e => exact ⟨e, rfl⟩
    | ok result =>
      obtain ⟨e, he⟩ := (delimits_value v _ (Nat.le_refl _)).cut part hpart hne
      have hfull := below_value hpart.length_le part result hpartial
      rw [hfull] at he
      cases he

def format : ItemFormat UInt8 CborValue where
  encode := word
  decode := decode
  delimits := delimits_decode
  takes := fun input => takes_value input.length input

example : word (.map [("a", .int (-500)), ("b", .bytes [1])]) =
    [0xa2, 0x61, 0x61, 0x39, 0x01, 0xf3, 0x61, 0x62, 0x41, 0x01] := by
  decide +kernel

end Cbor
