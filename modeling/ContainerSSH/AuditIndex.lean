/-
The metadata under which the encoders of the audit log file their logs in the storage: when the
connection began, the address and the country of the client, and the user.
-/
import ContainerSSH.AuditBinary

namespace ContainerSSH.AuditLog

structure MetadataCall where
  startTime : Int
  sourceIP : String
  country : String
  username : Option String
deriving DecidableEq

def toSeconds (timestamp : Int) : Int := timestamp.tdiv 1000000000

structure BinaryIndex where
  startTime : Int := 0
  ip : String := ""
  country : String := "XX"
  username : Option String := none

section Binary

variable (lookup : String → String) (s : BinaryIndex)

def BinaryIndex.setMetadata (ip country : String) (username : Option String) :
    MetadataCall :=
  ⟨toSeconds s.startTime, ip, country, username⟩

def BinaryIndex.authenticated (username : String) : BinaryIndex × Option MetadataCall :=
  ({ s with username := some username }, some (s.setMetadata s.ip s.country (some username)))

def storeMetadata (msg : Message) : Option (BinaryIndex × Option MetadataCall) :=
  match msg.messageType, msg.payload with
  | .connect, some (.connect remoteAddr _) =>
    some ({ s with ip := remoteAddr },
      some (s.setMetadata remoteAddr (lookup remoteAddr) s.username))
  | .authPasswordSuccessful, some (.authPassword username _) => some (s.authenticated username)
  | .authPubKeySuccessful, some (.authPubKey username _) => some (s.authenticated username)
  | .handshakeSuccessful, some (.handshakeSuccessful username) => some (s.authenticated username)
  | .connect, _ => none
  | .authPasswordSuccessful, _ => none
  | .authPubKeySuccessful, _ => none
  | .handshakeSuccessful, _ => none
  | _, _ => some (s, none)

def binaryCalls (s : BinaryIndex) : List Message → Option (List (Option MetadataCall))
  | [] => some []
  | msg :: rest =>
    let s := if s.startTime = 0 then { s with startTime := msg.timestamp }
      else s
    (storeMetadata lookup s msg).bind fun (s, call) =>
      if msg.messageType = .disconnect then some [call]
      else (binaryCalls s rest).map (call :: ·)

end Binary

structure AsciinemaIndex where
  startTime : Int := 0
  ip : String := ""
  username : Option String := none

section Asciinema

variable (lookup : String → String) (s : AsciinemaIndex)

def AsciinemaIndex.handleAuthenticated (country username : String) :
    AsciinemaIndex × Option MetadataCall :=
  ({ s with username := some username }, some ⟨toSeconds s.startTime, s.ip, country, some username⟩)

def encodeMessage (msg : Message) : Option (AsciinemaIndex × Option MetadataCall) :=
  let s := if msg.messageType = .connect then
      { s with startTime := msg.timestamp }
    else s
  let country := lookup s.ip
  match msg.messageType, msg.payload with
  | .connect, some (.connect remoteAddr _) =>
    some ({ s with ip := remoteAddr },
      some ⟨toSeconds s.startTime, remoteAddr, country, s.username⟩)
  | .authPasswordSuccessful, some (.authPassword username _) =>
    some (s.handleAuthenticated country username)
  | .authPubKeySuccessful, some (.authPubKey username _) =>
    some (s.handleAuthenticated country username)
  | .handshakeSuccessful, some (.handshakeSuccessful username) =>
    some (s.handleAuthenticated country username)
  | .connect, _ => none
  | .authPasswordSuccessful, _ => none
  | .authPubKeySuccessful, _ => none
  | .handshakeSuccessful, _ => none
  | _, _ => some (s, none)

def asciinemaCalls (s : AsciinemaIndex) : List Message → Option (List (Option MetadataCall))
  | [] => some []
  | msg :: rest =>
    (encodeMessage lookup s msg).bind fun (s, call) => (asciinemaCalls s rest).map (call :: ·)

end Asciinema

def Message.authenticatedUser (m : Message) : Option String :=
  match m.messageType, m.payload with
  | .authPasswordSuccessful, some (.authPassword username _) => some username
  | .authPubKeySuccessful, some (.authPubKey username _) => some username
  | .handshakeSuccessful, some (.handshakeSuccessful username) => some username
  | _, _ => none

def latestUser (messages : List Message) : Option String :=
  (messages.filterMap Message.authenticatedUser).getLast?

theorem exists_of_latestUser {messages : List Message} {username : String}
    (hlatest : latestUser messages = some username) :
    ∃ m ∈ messages, m.authenticatedUser.isSome := by
  obtain ⟨m, hm, huser⟩ := List.mem_filterMap.mp (List.mem_of_getLast? hlatest)
  exact ⟨m, hm, by rw [huser]; rfl⟩

theorem latestUser_concat_some {messages : List Message} {m : Message}
    {username : String} (hm : m.authenticatedUser = some username) :
    latestUser (messages ++ [m]) = some username := by
  simp [latestUser, hm]

inductive IndexRole : Message → Prop
  | connect (connectionID : String) (timestamp : Int)
      (remoteAddr country : String) (channelID : Option UInt64) :
      IndexRole ⟨connectionID, timestamp, .connect, some (.connect remoteAddr country), channelID⟩
  | password (connectionID : String) (timestamp : Int) (username : String)
      (password : List UInt8) (channelID : Option UInt64) :
      IndexRole ⟨connectionID, timestamp, .authPasswordSuccessful,
        some (.authPassword username password), channelID⟩
  | pubKey (connectionID : String) (timestamp : Int) (username key : String)
      (channelID : Option UInt64) : IndexRole ⟨connectionID, timestamp, .authPubKeySuccessful,
        some (.authPubKey username key), channelID⟩
  | handshake (connectionID : String) (timestamp : Int) (username : String)
      (channelID : Option UInt64) : IndexRole ⟨connectionID, timestamp, .handshakeSuccessful,
        some (.handshakeSuccessful username), channelID⟩
  | other (m : Message) (hother : m.messageType ∉ [MessageType.connect, .authPasswordSuccessful,
        .authPubKeySuccessful, .handshakeSuccessful]) : IndexRole m

theorem Message.Typed.indexRole {m : Message} (hm : m.Typed) : IndexRole m := by
  obtain ⟨connectionID, timestamp, messageType, payload, channelID⟩ := m
  by_cases hother : messageType ∉ [MessageType.connect,
      .authPasswordSuccessful, .authPubKeySuccessful, .handshakeSuccessful]
  · exact .other _ hother
  · have hsome : ∀ {t : PayloadType}, messageType.payload = some t →
        ∃ p, payload = some p ∧ p.type = t := by
      intro t ht
      exact Option.map_eq_some_iff.mp (Eq.trans hm ht)
    simp only [List.mem_cons, List.not_mem_nil, or_false, not_not] at hother
    rcases hother with rfl | rfl | rfl | rfl
    all_goals
      obtain ⟨p, rfl, hp⟩ := hsome rfl
      cases p <;> first
        | exact .connect ..
        | exact .password ..
        | exact .pubKey ..
        | exact .handshake ..
        | cases hp

theorem storeMetadata_of_typed {lookup : String → String} {s : BinaryIndex}
    {m : Message} (hm : m.Typed) (hconnect : m.messageType ≠ .connect) :
    ∃ username, storeMetadata lookup s m =
      some ({ s with username := username }, m.authenticatedUser.map fun u =>
        ⟨toSeconds s.startTime, s.ip, s.country, some u⟩) := by
  cases hm.indexRole with
  | connect => exact absurd rfl hconnect
  | password | pubKey | handshake => exact ⟨_, rfl⟩
  | other m hother =>
    obtain ⟨connectionID, timestamp, messageType, payload, channelID⟩ := m
    refine ⟨s.username, ?_⟩
    cases messageType <;> first
      | rfl
      | simp at hother

theorem encodeMessage_of_typed {lookup : String → String} {s : AsciinemaIndex}
    {m : Message} (hm : m.Typed) (hconnect : m.messageType ≠ .connect) :
    ∃ username, encodeMessage lookup s m =
      some ({ s with username := username }, m.authenticatedUser.map fun u =>
        ⟨toSeconds s.startTime, s.ip, lookup s.ip, some u⟩) := by
  cases hm.indexRole with
  | connect => exact absurd rfl hconnect
  | password | pubKey | handshake => exact ⟨_, rfl⟩
  | other m hother =>
    obtain ⟨connectionID, timestamp, messageType, payload, channelID⟩ := m
    refine ⟨s.username, ?_⟩
    cases messageType <;> first
      | rfl
      | simp at hother

def userCalls (startTime : Int) (ip country : String)
    (messages : List Message) : List (Option MetadataCall) :=
  messages.map fun m => m.authenticatedUser.map fun u => ⟨toSeconds startTime, ip, country, some u⟩

theorem binaryCalls_of_typed {lookup : String → String}
    {messages : List Message} (htyped : ∀ m ∈ messages, m.Typed)
    (honce : ∀ m ∈ messages, m.messageType ≠ .connect) (s : BinaryIndex)
    (hstart : s.startTime ≠ 0) : binaryCalls lookup s messages =
      some (userCalls s.startTime s.ip s.country (upToDisconnect messages)) := by
  induction messages generalizing s with
  | nil => rfl
  | cons m rest ih =>
    obtain ⟨hm, hrest⟩ := List.forall_mem_cons.mp htyped
    obtain ⟨hconnect, honce⟩ := List.forall_mem_cons.mp honce
    obtain ⟨username, hstore⟩ := @storeMetadata_of_typed lookup s m hm hconnect
    rw [binaryCalls, if_neg hstart, hstore, Option.bind_some, upToDisconnect]
    dsimp only
    split
    · rfl
    · rw [ih hrest honce { s with username := username } hstart]
      rfl

theorem asciinemaCalls_of_typed {lookup : String → String}
    {messages : List Message} (htyped : ∀ m ∈ messages, m.Typed)
    (honce : ∀ m ∈ messages, m.messageType ≠ .connect) (s : AsciinemaIndex) :
    asciinemaCalls lookup s messages =
      some (userCalls s.startTime s.ip (lookup s.ip) messages) := by
  induction messages generalizing s with
  | nil => rfl
  | cons m rest ih =>
    obtain ⟨hm, hrest⟩ := List.forall_mem_cons.mp htyped
    obtain ⟨hconnect, honce⟩ := List.forall_mem_cons.mp honce
    obtain ⟨username, hencode⟩ := @encodeMessage_of_typed lookup s m hm hconnect
    rw [asciinemaCalls, hencode, Option.bind_some]
    dsimp only
    rw [ih hrest honce]
    rfl

structure ConnectedLog where
  connectionID : String
  timestamp : Int
  remoteAddr : String
  country : String
  channelID : Option UInt64 := none
  rest : List Message
  typed : ∀ m ∈ rest, m.Typed
  once : ∀ m ∈ rest, m.messageType ≠ .connect

namespace ConnectedLog

variable (log : ConnectedLog) (lookup : String → String)

def connect : Message :=
  ⟨log.connectionID, log.timestamp, .connect,
    some (.connect log.remoteAddr log.country), log.channelID⟩

def messages : List Message := log.connect :: log.rest

def expected (before : List Message) : MetadataCall :=
  ⟨toSeconds log.timestamp, log.remoteAddr, lookup log.remoteAddr, latestUser before⟩

def Correct (calls : List (Option MetadataCall)) : Prop :=
  ∀ k call, calls[k]? = some (some call) → call = log.expected lookup (log.messages.take (k + 1))

def lastCall (calls : List (Option MetadataCall)) : Option MetadataCall :=
  (calls.filterMap id).getLast?

/-- Both formats write an index, and the two are correct and end alike. -/
def IndexedAlike : Prop :=
  ∃ binary asciinema, binaryCalls lookup {} log.messages = some binary ∧
    asciinemaCalls lookup {} log.messages = some asciinema ∧
    log.Correct lookup binary ∧ log.Correct lookup asciinema ∧ lastCall binary = lastCall asciinema

variable {log lookup}

theorem binaryCalls_eq (hstart : log.timestamp ≠ 0) : binaryCalls lookup {} log.messages =
      some (some ⟨toSeconds log.timestamp, log.remoteAddr, lookup log.remoteAddr, none⟩ ::
        userCalls log.timestamp log.remoteAddr "XX" (upToDisconnect log.rest)) := by
  have hrest := @binaryCalls_of_typed lookup log.rest log.typed log.once
    ⟨log.timestamp, log.remoteAddr, "XX", none⟩ hstart
  have hconnect : binaryCalls lookup {} log.messages =
      (binaryCalls lookup ⟨log.timestamp, log.remoteAddr, "XX", none⟩
        log.rest).map (some ⟨toSeconds log.timestamp, log.remoteAddr,
          lookup log.remoteAddr, none⟩ :: ·) := rfl
  rw [hconnect, hrest]
  rfl

theorem asciinemaCalls_eq : asciinemaCalls lookup {} log.messages =
      some (some ⟨toSeconds log.timestamp, log.remoteAddr, lookup "", none⟩ ::
        userCalls log.timestamp log.remoteAddr (lookup log.remoteAddr) log.rest) := by
  have hrest := @asciinemaCalls_of_typed lookup log.rest log.typed log.once
  have hconnect : asciinemaCalls lookup {} log.messages =
      (asciinemaCalls lookup ⟨log.timestamp, log.remoteAddr, none⟩
        log.rest).map (some ⟨toSeconds log.timestamp, log.remoteAddr, lookup "", none⟩ :: ·) := rfl
  rw [hconnect, hrest]
  rfl

theorem expected_of_user {read : List Message} (hread : read <+: log.rest)
    {k : Nat} {m : Message} (hk : read[k]? = some m) {u : String}
    (hu : m.authenticatedUser = some u) : log.expected lookup (log.messages.take (k + 2)) =
      ⟨toSeconds log.timestamp, log.remoteAddr, lookup log.remoteAddr, some u⟩ := by
  have hm : log.rest[k]? = some m := by
    obtain ⟨hlt, -⟩ := List.getElem?_eq_some_iff.mp hk
    obtain ⟨later, hlater⟩ := hread
    rw [← hlater, List.getElem?_append_left hlt, hk]
  have htake : log.messages.take (k + 2) = (log.connect :: log.rest.take k) ++ [m] := by
    rw [messages, List.take_succ_cons, List.take_add_one, hm]
    rfl
  rw [expected, htake, latestUser_concat_some hu]

theorem getElem?_userCalls {startTime : Int} {ip country : String}
    {read : List Message} {k : Nat} {call : MetadataCall} :
    (userCalls startTime ip country read)[k]? = some (some call) ↔
      ∃ m u, read[k]? = some m ∧ m.authenticatedUser = some u ∧
        call = ⟨toSeconds startTime, ip, country, some u⟩ := by
  rw [userCalls, List.getElem?_map, Option.map_eq_some_iff]
  constructor
  · rintro ⟨m, hm, hcall⟩
    obtain ⟨u, hu, rfl⟩ := Option.map_eq_some_iff.mp hcall
    exact ⟨m, u, hm, hu, rfl⟩
  · rintro ⟨m, u, hm, hu, rfl⟩
    exact ⟨m, hm, by rw [hu, Option.map_some]⟩

theorem correct_iff {read : List Message} (hread : read <+: log.rest) (first later : String) :
    log.Correct lookup (some ⟨toSeconds log.timestamp, log.remoteAddr, first,
        none⟩ :: userCalls log.timestamp log.remoteAddr later read) ↔
      first = lookup log.remoteAddr ∧ ((∃ m ∈ read, m.authenticatedUser.isSome) →
          later = lookup log.remoteAddr) := by
  constructor
  · intro hcorrect
    refine ⟨congrArg MetadataCall.country (hcorrect 0 _ rfl), ?_⟩
    rintro ⟨m, hm, huser⟩
    obtain ⟨k, hk⟩ := List.mem_iff_getElem?.mp hm
    obtain ⟨u, hu⟩ := Option.isSome_iff_exists.mp huser
    have hcall := hcorrect (k + 1) _ (getElem?_userCalls.mpr ⟨m, u, hk, hu, rfl⟩)
    exact congrArg MetadataCall.country hcall
  · rintro ⟨rfl, hlater⟩ k call hcall
    cases k with
    | zero =>
      cases hcall
      rfl
    | succ =>
      obtain ⟨m, u, hk, hu, rfl⟩ := getElem?_userCalls.mp hcall
      have hsome : ∃ m ∈ read, m.authenticatedUser.isSome :=
        ⟨m, List.mem_of_getElem? hk, by rw [hu]; rfl⟩
      rw [expected_of_user hread hk hu, hlater hsome]

theorem lastCall_cons (first : MetadataCall) (startTime : Int)
    (ip country : String) (read : List Message) :
    lastCall (some first :: userCalls startTime ip country read) =
      some (((latestUser read).map fun u =>
        ⟨toSeconds startTime, ip, country, some u⟩).getD first) := by
  have hcalls : (some first :: userCalls startTime ip country read).filterMap
      id = first :: (read.filterMap Message.authenticatedUser).map fun u =>
        ⟨toSeconds startTime, ip, country, some u⟩ := by
    simp only [List.filterMap_cons, userCalls, List.filterMap_map, List.map_filterMap]
    rfl
  rw [lastCall, hcalls, List.getLast?_cons, List.getLast?_map, latestUser]

def germanClient : ConnectedLog :=
  ⟨"0a", 5000000000, "192.0.2.1", "DE", none, [⟨"0a", 6000000000, .handshakeSuccessful,
    some (.handshakeSuccessful "alice"), none⟩], by decide, by decide⟩

def germanLookup (ip : String) : String := if ip = "192.0.2.1" then "DE" else "XX"

end ConnectedLog

end ContainerSSH.AuditLog
