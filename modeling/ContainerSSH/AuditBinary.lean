/-
The binary format of the audit log: a header with a magic string and a version, and then a gzip
stream of CBOR items, one for each message.
-/
import ContainerSSH.AuditChannel
import ContainerSSH.AuditPayload

namespace ContainerSSH.AuditLog

/-! ### Gzip -/

structure Gzip where
  stream : List (List UInt8) → List UInt8
  inflate : List UInt8 → Except String (List UInt8 × String)
  inflate_stream : ∀ chunks, inflate (stream chunks) = .ok (chunks.flatten, "unexpected EOF")
  inflate_prefix : ∀ chunks file, file <+: stream chunks → (∃ e, inflate file = .error e) ∨
      ∃ data, data <+: chunks.flatten ∧ inflate file = .ok (data, "unexpected EOF")

/-- A stream without compression or checksum: it has the laws of `Gzip`, not its bytes. -/
def Gzip.stored : Gzip where
  stream chunks := [0x1f, 0x8b] ++ chunks.flatten
  inflate file :=
    if file.take 2 = [0x1f, 0x8b] then .ok (file.drop 2, "unexpected EOF")
    else .error "gzip: invalid header"
  inflate_stream chunks := by simp
  inflate_prefix chunks file hfile := by
    rcases Parser.prefix_append_cases hfile with ⟨hpart, hne⟩ | ⟨rest, rfl, hrest⟩
    · left
      have hshort : file.length < 2 := Nat.lt_of_not_le fun hle => hne (hpart.eq_of_length_le hle)
      refine ⟨_, if_neg fun htake => ?_⟩
      have hlength := congrArg List.length htake
      simp only [List.length_take, List.length_cons, List.length_nil] at hlength
      omega
    · exact .inr ⟨rest, hrest, by simp⟩

/-! ### The header -/

def fileFormatMagic : String := "ContainerSSH-Auditlog"

def fileFormatLength : Nat := 32

def currentVersion : UInt64 := 2

def fileFormatBytes : List UInt8 :=
  let magic := fileFormatMagic.toList.map fun c => UInt8.ofNat c.toNat
  magic ++ List.replicate (fileFormatLength - magic.length) 0

def putUint64 (n : UInt64) : List UInt8 :=
  (List.range 8).map fun i => UInt8.ofNat (n.toNat >>> (8 * i))

def uint64 (bytes : List UInt8) : UInt64 :=
  UInt64.ofNat (bytes.foldr (fun b n => b.toNat + 256 * n) 0)

def headerBytes (version : UInt64) : List UInt8 := fileFormatBytes ++ putUint64 version

def showBytes (bytes : List UInt8) : String :=
  "[" ++ " ".intercalate (bytes.map fun b => toString b.toNat) ++ "]"

def readHeader (input : List UInt8) (maxVersion : UInt64) : Except String (UInt64 × List UInt8) :=
  if input.isEmpty then .error "EOF"
  else if input.length < fileFormatLength + 8 then .error "unexpected EOF"
  else
    let magic := input.take fileFormatLength
    let rest := input.drop fileFormatLength
    if magic ≠ fileFormatBytes then .error ("invalid file format header: " ++ showBytes magic)
    else
      let version := uint64 (rest.take 8)
      if maxVersion < version then
        .error ("file format version is higher than supported: " ++ toString version.toNat)
      else .ok (version, rest.drop 8)

theorem length_fileFormatBytes : fileFormatBytes.length = fileFormatLength := by
  decide

theorem length_putUint64 (n : UInt64) : (putUint64 n).length = 8 := by
  simp [putUint64]

theorem length_headerBytes (version : UInt64) :
    (headerBytes version).length = fileFormatLength + 8 := by
  rw [headerBytes, List.length_append, length_fileFormatBytes, length_putUint64]

theorem uint64_putUint64 (n : UInt64) : uint64 (putUint64 n) = n := by
  have hlt := n.toNat_lt
  have hdigits : (putUint64 n).foldr (fun b k => b.toNat + 256 * k) 0 =
      n.toNat := by
    simp only [putUint64, List.range, List.range.loop, List.map_cons,
      List.map_nil, List.foldr_cons, List.foldr_nil, Nat.shiftRight_eq_div_pow, UInt8.toNat_ofNat']
    omega
  rw [uint64, hdigits, UInt64.ofNat_toNat]

theorem putUint64_uint64 {bytes : List UInt8} (hlength : bytes.length = 8) :
    putUint64 (uint64 bytes) = bytes := by
  match bytes, hlength with
  | [b₀, b₁, b₂, b₃, b₄, b₅, b₆, b₇], _ =>
    have h₀ := b₀.toNat_lt
    have h₁ := b₁.toNat_lt
    have h₂ := b₂.toNat_lt
    have h₃ := b₃.toNat_lt
    have h₄ := b₄.toNat_lt
    have h₅ := b₅.toNat_lt
    have h₆ := b₆.toNat_lt
    have h₇ := b₇.toNat_lt
    simp only [putUint64, uint64, List.range, List.range.loop, List.map_cons,
      List.map_nil, List.foldr_cons, List.foldr_nil,
      Nat.shiftRight_eq_div_pow, List.cons.injEq, and_true,
      ← UInt8.toNat_inj, UInt8.toNat_ofNat', UInt64.toNat_ofNat']
    refine ⟨?_, ?_, ?_, ?_, ?_, ?_, ?_, ?_⟩ <;> omega

theorem readHeader_headerBytes {version maxVersion : UInt64}
    (hle : version ≤ maxVersion) (rest : List UInt8) :
    readHeader (headerBytes version ++ rest) maxVersion = .ok (version, rest) := by
  have hlength : ¬ (headerBytes version ++ rest).length < fileFormatLength + 8 := by
    rw [List.length_append, length_headerBytes]
    omega
  have hsome : (headerBytes version ++ rest).isEmpty = false := rfl
  have htake : (headerBytes version ++ rest).take fileFormatLength =
      fileFormatBytes := by
    rw [headerBytes, List.append_assoc, ← length_fileFormatBytes, List.take_left]
  have hdrop : (headerBytes version ++ rest).drop fileFormatLength = putUint64 version ++ rest := by
    rw [headerBytes, List.append_assoc, ← length_fileFormatBytes, List.drop_left]
  have hversion : (putUint64 version ++ rest).take 8 = putUint64 version :=
    List.take_left' (length_putUint64 _)
  have hrest : (putUint64 version ++ rest).drop 8 = rest := List.drop_left' (length_putUint64 _)
  simp only [readHeader, hsome, hlength, htake, hdrop, hversion, hrest,
    uint64_putUint64, Bool.false_eq_true, ne_eq, not_true_eq_false, ↓reduceIte,
    UInt64.not_lt.mpr hle]

theorem readHeader_append (rest : List UInt8) :
    readHeader (headerBytes currentVersion ++ rest) currentVersion = .ok (currentVersion, rest) :=
  readHeader_headerBytes (UInt64.le_refl _) rest

theorem eq_headerBytes_of_readHeader {input rest : List UInt8} {version maxVersion : UInt64}
    (hread : readHeader input maxVersion = .ok (version, rest)) :
    input = headerBytes version ++ rest ∧ version ≤ maxVersion := by
  simp only [readHeader] at hread
  split_ifs at hread with hempty hshort hmagic hhigh
  obtain ⟨rfl, rfl⟩ := hread
  refine ⟨?_, UInt64.not_lt.mp hhigh⟩
  have height : ((input.drop fileFormatLength).take 8).length = 8 := by
    rw [List.length_take, List.length_drop]
    omega
  rw [headerBytes, putUint64_uint64 height, ← not_ne_iff.mp hmagic,
    List.append_assoc, List.take_append_drop, List.take_append_drop]

theorem readHeader_of_short {input : List UInt8}
    (hshort : input.length < fileFormatLength + 8) (maxVersion : UInt64) :
    ∃ e, readHeader input maxVersion = .error e := by
  by_cases hempty : input.isEmpty = true
  · exact ⟨"EOF", by rw [readHeader, if_pos hempty]⟩
  · exact ⟨"unexpected EOF", by rw [readHeader, if_neg hempty, if_pos hshort]⟩

section Codec

variable (cbor : ItemFormat UInt8 CborValue) (gzip : Gzip)

def encodeMessages : List Message → List (List UInt8)
  | [] => [[]]
  | m :: rest =>
    cbor.encode m.toCbor :: if m.messageType = .disconnect then [[]] else encodeMessages rest

def encodeFile (messages : List Message) : List UInt8 :=
  headerBytes currentVersion ++ gzip.stream (encodeMessages cbor messages)

/-! ### The decoder -/

structure Decoded where
  messages : List Message := []
  errors : List String := []

def decodeFailure (e : String) : String := "failed to decode messages (" ++ e ++ ")"

def decodeList (ending : String) (data : List UInt8) : Decoded :=
  match cbor.next ending data with
  | .error e => { errors := [decodeFailure e] }
  | .ok (v, _) =>
    match (CborKind.list (.ofStruct DecodedMessage.struct)).decode v with
    | none => { errors := [decodeFailure "cbor: cannot unmarshal"] }
    | some vs =>
      let results : List (Except String Message) := List.map DecodedMessage.decodeMessage vs
      { messages := results.filterMap Except.toOption
        errors := results.filterMap fun
          | .error e => some e
          | .ok _ => none }

def decodeMessages (ending : String) (data : List UInt8) : Decoded :=
  match hnext : cbor.next ending data with
  | .error e => { errors := if e = "unexpected EOF" then [] else [decodeFailure e] }
  | .ok (v, rest) =>
    have : rest.length < data.length := ItemFormat.length_lt_of_next hnext
    match DecodedMessage.struct.decode v with
    | none => { errors := [decodeFailure "cbor: cannot unmarshal"] }
    | some msg =>
      match msg.decodeMessage with
      | .error e => { errors := [e] }
      | .ok m =>
        let decoded := decodeMessages ending rest
        { decoded with messages := m :: decoded.messages }
termination_by data.length

def decodeFile (file : List UInt8) : Decoded :=
  match readHeader file currentVersion with
  | .error e => { errors := [e] }
  | .ok (version, rest) =>
    match gzip.inflate rest with
    | .error e => { errors := ["failed to open gzip stream (" ++ e ++ ")"] }
    | .ok (data, ending) =>
      if version = 1 then decodeList cbor ending data
      else if version = 2 then decodeMessages cbor ending data
      else {}

def upToDisconnect : List Message → List Message
  | [] => []
  | m :: rest => m :: if m.messageType = .disconnect then [] else upToDisconnect rest

theorem upToDisconnect_isPrefix (messages : List Message) :
    upToDisconnect messages <+: messages := by
  induction messages with
  | nil => exact List.prefix_rfl
  | cons m rest ih =>
    rw [upToDisconnect, List.cons_prefix_cons]
    refine ⟨rfl, ?_⟩
    split
    · exact List.nil_prefix
    · exact ih

variable {messages : List Message}

theorem flatten_encodeMessages (messages : List Message) : (encodeMessages cbor messages).flatten =
      (upToDisconnect messages).flatMap fun m => cbor.encode m.toCbor := by
  induction messages with
  | nil => rfl
  | cons m rest ih =>
    rw [encodeMessages, upToDisconnect, List.flatten_cons, List.flatMap_cons]
    split
    · rfl
    · rw [ih]

variable {cbor}

theorem decode_toCbor (m : Message) : DecodedMessage.struct.decode m.toCbor = some m.decoded := by
  rw [m.toCbor_eq, CborStruct.decode_encode]

variable {ending : String} {data rest : List UInt8}

theorem decodeMessages_of_next {m : Message} (hm : m.Typed)
    (hnext : cbor.next ending data = .ok (m.toCbor, rest)) : decodeMessages cbor ending data =
      { decodeMessages cbor ending rest with
        messages := m :: (decodeMessages cbor ending rest).messages } := by
  rw [decodeMessages]
  split
  next e h => simp [hnext] at h
  next v rest' h =>
    rw [hnext] at h
    obtain ⟨rfl, rfl⟩ := h
    simp only [decode_toCbor, Message.decodeMessage_decoded hm]

theorem decodeMessages_of_error {e : String} (hnext : cbor.next ending data = .error e) :
    decodeMessages cbor ending data =
      { errors := if e = "unexpected EOF" then [] else [decodeFailure e] } := by
  rw [decodeMessages]
  split
  next e' h =>
    rw [hnext, Except.error.injEq] at h
    rw [h]
  next v rest h => simp [hnext] at h

theorem decodeMessages_flatMap (hmessages : ∀ m ∈ messages, m.Typed) :
    decodeMessages cbor "unexpected EOF" (messages.flatMap fun m => cbor.encode m.toCbor) =
        { messages := messages } := by
  induction messages with
  | nil => exact decodeMessages_of_error ItemFormat.next_nil
  | cons m rest ih =>
    obtain ⟨hm, hrest⟩ := List.forall_mem_cons.mp hmessages
    rw [List.flatMap_cons, decodeMessages_of_next hm (ItemFormat.next_encode_append _ _), ih hrest]

theorem decodeMessages_prefix (hmessages : ∀ m ∈ messages, m.Typed)
    (hdata : data <+: messages.flatMap fun m => cbor.encode m.toCbor) :
    (decodeMessages cbor ending data).messages <+: messages := by
  have herror : ∀ {data : List UInt8} {messages : List Message},
      (∃ e, cbor.next ending data = .error e) →
      (decodeMessages cbor ending data).messages <+: messages := by
    rintro data messages ⟨e, he⟩
    rw [decodeMessages_of_error he]
    exact List.nil_prefix
  induction messages generalizing data with
  | nil =>
    rw [List.flatMap_nil, List.prefix_nil] at hdata
    exact herror ⟨ending, hdata ▸ ItemFormat.next_nil⟩
  | cons m rest ih =>
    obtain ⟨hm, hrest⟩ := List.forall_mem_cons.mp hmessages
    rcases ItemFormat.next_of_prefix hdata with hfail | ⟨tail, htail, hnext⟩
    · exact herror hfail
    · rw [decodeMessages_of_next hm hnext, List.cons_prefix_cons]
      exact ⟨rfl, ih hrest htail⟩

theorem decodeFile_encodeFile (hmessages : ∀ m ∈ upToDisconnect messages, m.Typed) :
    decodeFile cbor gzip (encodeFile cbor gzip messages) =
      { messages := upToDisconnect messages } := by
  simp only [decodeFile, encodeFile, readHeader_append, gzip.inflate_stream, flatten_encodeMessages]
  exact decodeMessages_flatMap hmessages

/-- Whatever the callbacks of the logger have sent is read back up to the first
disconnect message, and no error is reported. -/
theorem decodeFile_encodeFile_emitted (cbor : ItemFormat UInt8 CborValue)
    (gzip : Gzip) (messages : List Message) (hmessages : ∀ m ∈ messages, m.Emitted) :
    decodeFile cbor gzip (encodeFile cbor gzip messages) =
      { messages := upToDisconnect messages, errors := [] } := by
  refine decodeFile_encodeFile gzip fun m hm => ?_
  exact (hmessages m ((upToDisconnect_isPrefix messages).subset hm)).typed

theorem decodeFile_encodeFile_late :
    decodeFile Cbor.format Gzip.stored (encodeFile Cbor.format Gzip.stored
        [⟨"0a", 1, .connect, some (.connect "192.0.2.1" "XX"), none⟩,
          ⟨"0a", 2, .exit, some (.exit 1), some 7⟩,
          ⟨"0a", 3, .disconnect, none, none⟩,
          ⟨"0a", 4, .close, none, some 7⟩]) =
      { messages :=
          [⟨"0a", 1, .connect, some (.connect "192.0.2.1" "XX"), none⟩,
            ⟨"0a", 2, .exit, some (.exit 1), some 7⟩,
            ⟨"0a", 3, .disconnect, none, none⟩]
        errors := [] } := by
  refine decodeFile_encodeFile_emitted Cbor.format Gzip.stored _ ?_
  simp only [List.forall_mem_cons, List.not_mem_nil, false_implies, implies_true, and_true]
  exact ⟨.connect "0a" 1 "192.0.2.1" "XX",
    .callback {} "0a" 2 (.onExit (some 7) 1) _ rfl,
    .callback {} "0a" 3 .onDisconnect _ rfl,
    .callback {} "0a" 4 (.onClose (some 7)) _ rfl⟩

/-! ### Files that have been cut off -/

abbrev TypedMessage := { m : Message // m.Typed }

/-- However much of the file has been written, the messages that are read are
the first ones of those that were sent.  A file that ends in its header is
reported. -/
theorem decodeFile_of_prefix (cbor : ItemFormat UInt8 CborValue) (gzip : Gzip)
    (messages : List TypedMessage) (file : List UInt8)
    (hfile : file <+: encodeFile cbor gzip (messages.map Subtype.val)) :
    (decodeFile cbor gzip file).messages <+: upToDisconnect (messages.map Subtype.val) ∧
      (file.length < fileFormatLength + 8 →
        ∃ e, decodeFile cbor gzip file = { messages := [], errors := [e] }) := by
  by_cases hshort : file.length < fileFormatLength + 8
  · obtain ⟨e, he⟩ := readHeader_of_short hshort currentVersion
    have hdecode : decodeFile cbor gzip file = { errors := [e] } := by rw [decodeFile, he]
    rw [hdecode]
    refine ⟨?_, fun _ => ⟨e, rfl⟩⟩
    exact List.nil_prefix
  · refine ⟨?_, fun h => absurd h hshort⟩
    rcases Parser.prefix_append_cases hfile with ⟨hpart, hne⟩ | ⟨rest, rfl, hrest⟩
    · have hlength := hpart.length_le
      rw [length_headerBytes] at hlength
      exact absurd (hpart.eq_of_length (by rw [length_headerBytes]; omega)) hne
    · have htyped : ∀ m ∈ upToDisconnect (messages.map Subtype.val),
          m.Typed := by
        intro m hm
        obtain ⟨m', -, rfl⟩ := List.mem_map.mp ((upToDisconnect_isPrefix _).subset hm)
        exact m'.property
      simp only [decodeFile, readHeader_append]
      rcases gzip.inflate_prefix _ rest hrest with ⟨e, he⟩ | ⟨data, hdata, he⟩
      · rw [he]
        exact List.nil_prefix
      · rw [he]
        rw [flatten_encodeMessages] at hdata
        exact decodeMessages_prefix htyped hdata

theorem decodeFile_of_prefix_cut : (decodeFile Cbor.format Gzip.stored
        ((encodeFile Cbor.format Gzip.stored
          [⟨"0a", 1, .connect, some (.connect "192.0.2.1" "XX"), none⟩,
            ⟨"0a", 3, .disconnect, none, none⟩]).take 60)).messages <+: upToDisconnect
        [⟨"0a", 1, .connect, some (.connect "192.0.2.1" "XX"), none⟩,
          ⟨"0a", 3, .disconnect, none, none⟩] := by
  refine And.left <| decodeFile_of_prefix Cbor.format Gzip.stored
    [⟨⟨"0a", 1, .connect, some (.connect "192.0.2.1" "XX"), none⟩, rfl⟩,
      ⟨⟨"0a", 3, .disconnect, none, none⟩, rfl⟩] _ ?_
  exact List.take_prefix 60 _

def HasDecoder (file : List UInt8) : Prop :=
  ∃ version rest, (version = 1 ∨ version = 2) ∧ file = headerBytes version ++ rest

theorem version_cases {version : UInt64} (hle : version ≤ currentVersion) :
    version = 0 ∨ version = 1 ∨ version = 2 := by
  simp only [← UInt64.toNat_inj, UInt64.le_iff_toNat_le] at hle ⊢
  have hcurrent : currentVersion.toNat = 2 := rfl
  change version.toNat = 0 ∨ version.toNat = 1 ∨ version.toNat = 2
  omega

theorem headerBytes_append_inj {version version' : UInt64} {rest' : List UInt8}
    (heq : headerBytes version ++ rest = headerBytes version' ++ rest') :
    version = version' ∧ rest = rest' := by
  obtain ⟨hheader, hrest⟩ := List.append_inj heq (by rw [length_headerBytes, length_headerBytes])
  have hversion := List.append_cancel_left hheader
  rw [← uint64_putUint64 version, hversion, uint64_putUint64]
  exact ⟨rfl, hrest⟩

theorem decodeFile_version_zero {opened : List UInt8 × String}
    (hopen : gzip.inflate rest = .ok opened) :
    decodeFile cbor gzip (headerBytes 0 ++ rest) = {} := by
  have hread : readHeader (headerBytes 0 ++ rest) currentVersion =
      .ok (0, rest) := readHeader_headerBytes (by decide) rest
  simp only [decodeFile, hread, hopen]
  rfl

/-- Every header up to the maximum is read back.  A file without an error has a
decoder, unless it is a stream that opens under version 0. -/
theorem headers_checked_iff (cbor : ItemFormat UInt8 CborValue) (gzip : Gzip) :
    (∀ (version maxVersion : UInt64) (rest : List UInt8), version ≤ maxVersion →
        readHeader (headerBytes version ++ rest) maxVersion = .ok (version, rest)) ∧
    ∀ file, ((decodeFile cbor gzip file).errors = [] → HasDecoder file) ↔
      ¬ ∃ rest opened, file = headerBytes 0 ++ rest ∧ gzip.inflate rest = .ok opened := by
  refine ⟨fun _ _ rest hle => readHeader_headerBytes hle rest, fun file => ?_⟩
  constructor
  · rintro hchecked ⟨rest, opened, rfl, hopen⟩
    have hsilent : (decodeFile cbor gzip (headerBytes 0 ++ rest)).errors = [] := by
      rw [decodeFile_version_zero gzip hopen]
    obtain ⟨version, rest', hversion, hfile⟩ := hchecked hsilent
    obtain ⟨rfl, -⟩ := headerBytes_append_inj hfile
    exact absurd hversion (by decide)
  · intro hzero hsilent
    cases hread : readHeader file currentVersion with
    | error => simp [decodeFile, hread] at hsilent
    | ok result =>
      obtain ⟨version, rest⟩ := result
      obtain ⟨hfile, hle⟩ := eq_headerBytes_of_readHeader hread
      rcases version_cases hle with rfl | hdecoder
      · cases hopen : gzip.inflate rest with
        | error => simp [decodeFile, hread, hopen] at hsilent
        | ok opened => exact absurd ⟨rest, opened, hfile, hopen⟩ hzero
      · exact ⟨version, rest, hdecoder, hfile⟩

theorem headers_checked_current : HasDecoder (encodeFile Cbor.format Gzip.stored
      [⟨"0a", 3, .disconnect, none, none⟩]) := by
  refine ((headers_checked_iff Cbor.format Gzip.stored).2 _).mpr ?_ ?_
  · rintro ⟨rest, opened, hfile, -⟩
    exact absurd (headerBytes_append_inj hfile).1 (by decide)
  · rw [decodeFile_encodeFile Gzip.stored (by decide)]

/-- An empty stream under version 0: no message and no error. -/
theorem version_zero_silent : decodeFile Cbor.format Gzip.stored
        (headerBytes 0 ++ Gzip.stored.stream [[]]) = { messages := [], errors := [] } ∧
    ¬ HasDecoder (headerBytes 0 ++ Gzip.stored.stream [[]]) := by
  refine ⟨decodeFile_version_zero Gzip.stored rfl, ?_⟩
  rintro ⟨version, rest, hversion, hfile⟩
  obtain ⟨rfl, -⟩ := headerBytes_append_inj hfile
  exact absurd hversion (by decide)

end Codec

end ContainerSSH.AuditLog
