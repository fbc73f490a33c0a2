/-
The remote address of a connection as a text, as the webhooks are told it.
-/
import ContainerSSH.ConnectionMetadata
import ContainerSSH.Decimal

namespace ContainerSSH

def v4InV6Prefix : List UInt8 := [0, 0, 0, 0, 0, 0, 0, 0, 0, 0, 255, 255]

def to4 (ip : List UInt8) : Option (List UInt8) :=
  if ip.length = 4 then some ip
  else if ip.length = 16 ∧ ip.take 12 = v4InV6Prefix then some (ip.drop 12)
  else none

def to16 (ip : List UInt8) : List UInt8 := if ip.length = 4 then v4InV6Prefix ++ ip else ip

def ipEqual (ip x : List UInt8) : Bool :=
  if ip.length = x.length then ip = x
  else if ip.length = 4 ∧ x.length = 16 then x.take 12 = v4InV6Prefix ∧ ip = x.drop 12
  else if ip.length = 16 ∧ x.length = 4 then ip.take 12 = v4InV6Prefix ∧ ip.drop 12 = x
  else false

def IsIP (ip : List UInt8) : Prop := ip.length = 4 ∨ ip.length = 16

structure IPText where
  string : List UInt8 → List UInt8
  parseIP : List UInt8 → Option (List UInt8)
  parseIP_string : ∀ ip, IsIP ip → parseIP (string ip) = some (to16 ip)
  string_ipv4 : ∀ ip ip4, to4 ip = some ip4 → string ip = Decimal.join 46 (ip4.map UInt8.toNat)
  string_ipv6 : ∀ ip, ip.length = 16 → to4 ip = none →
    2 ≤ (string ip).count 58 ∧ 91 ∉ string ip ∧ 93 ∉ string ip

def joinHostPort (host port : List UInt8) : List UInt8 :=
  if 58 ∈ host then 91 :: host ++ [93, 58] ++ port else host ++ [58] ++ port

def itoa (n : Int) : List UInt8 :=
  if n < 0 then 45 :: Decimal.encode n.natAbs else Decimal.encode n.natAbs

def sign : List UInt8 → Bool × List UInt8
  | 45 :: digits => (true, digits)
  | 43 :: digits => (false, digits)
  | digits => (false, digits)

def atoi (text : List UInt8) : Int × Bool :=
  match Decimal.decode (sign text).2 with
  | none => (0, true)
  | some n =>
    if (sign text).1 then
      if n ≤ 9223372036854775808 then (-n, false) else (-9223372036854775808, true)
    else if n ≤ 9223372036854775807 then (n, false) else (9223372036854775807, true)

def bytes (text : String) : List UInt8 := text.toUTF8.toList

namespace RemoteAddress

variable (t : IPText)

def marshalText (r : RemoteAddress) : List UInt8 := joinHostPort (t.string r.ip) (itoa r.port)

def unbracketed : List UInt8 → Option (List UInt8)
  | [] => none
  | [91] => none
  | 91 :: rest => some rest.dropLast
  | ip => some ip

/-- The receiver after the call, and the error. -/
def unmarshalText (r : RemoteAddress) (input : List UInt8) :
    Option (RemoteAddress × Option (List UInt8)) :=
  let parts := input.splitOn 58
  if parts.length < 2 then some (r, some (bytes "invalid IP:port combination: " ++ input))
  else
    let (port, failed) := atoi (parts.getLastD [])
    if failed then some (r, some (bytes "invalid port number: " ++ itoa port))
    else if port < 0 ∨ port > 65535 then some (r, some (bytes "invalid port number: " ++ itoa port))
    else
      (unbracketed (List.intercalate [58] parts.dropLast)).map fun ip =>
        ({ r with ip := (t.parseIP ip).getD [], port := port }, none)

end RemoteAddress

theorem to4_eq_some {ip ip4 : List UInt8} (h : to4 ip = some ip4) :
    ip4.length = 4 ∧ to16 ip4 = to16 ip := by
  unfold to4 at h
  split at h
  next h4 =>
    cases h
    exact ⟨h4, rfl⟩
  split at h
  next hlong =>
    obtain ⟨h16, hprefix⟩ := hlong
    cases h
    have h4 : (ip.drop 12).length = 4 := by rw [List.length_drop, h16]
    refine ⟨h4, ?_⟩
    rw [to16, if_pos h4, ← hprefix, List.take_append_drop, to16, h16, if_neg (by decide)]
  next => cases h

theorem length_of_to4_eq_none {ip : List UInt8} (hip : IsIP ip)
    (h : to4 ip = none) : ip.length = 16 := by
  rcases hip with h4 | h16
  · rw [to4, if_pos h4] at h
    cases h
  · exact h16

theorem sign_encode (n : Nat) : sign (Decimal.encode n) = (false, Decimal.encode n) := by
  have hdigits : ∀ b ∈ Decimal.encode n, b ≠ 45 ∧ b ≠ 43 := by
    intro b hb
    have hdigit := Decimal.isDigit_of_mem_encode hb
    refine ⟨?_, ?_⟩ <;> rintro rfl <;> cases hdigit
  unfold sign
  split
  next heq => exact absurd rfl (hdigits 45 (heq ▸ List.mem_cons_self)).1
  next heq => exact absurd rfl (hdigits 43 (heq ▸ List.mem_cons_self)).2
  next => rfl

theorem atoi_itoa {n : Int} (hn : 0 ≤ n) (hle : n ≤ 9223372036854775807) :
    itoa n = Decimal.encode n.natAbs ∧ atoi (itoa n) = (n, false) := by
  have hitoa : itoa n = Decimal.encode n.natAbs := if_neg (Int.not_lt.mpr hn)
  refine ⟨hitoa, ?_⟩
  rw [hitoa, atoi, sign_encode, Decimal.decode_encode]
  have hbound : n.natAbs ≤ 9223372036854775807 := by omega
  simp only [Bool.false_eq_true, if_false, if_pos hbound]
  rw [Int.natAbs_of_nonneg hn]

theorem splitOn_port {host port : List UInt8} (hport : 58 ∉ port) :
    (host ++ [58] ++ port).splitOn 58 = host.splitOn 58 ++ [port] := by
  have hsplit : (host ++ 58 :: port).splitOn 58 =
      host.splitOn 58 ++ port.splitOn 58 := List.splitOnP_append_cons _ _ rfl
  rw [List.append_assoc, List.singleton_append, hsplit, List.splitOn_eq_singleton hport]

namespace RemoteAddress

def ValidPort (port : List UInt8) : Prop :=
  (atoi port).2 = false ∧ ¬ ((atoi port).1 < 0 ∨ (atoi port).1 > 65535)

theorem unmarshalText_port (t : IPText) (r : RemoteAddress) (host : List UInt8)
    {port : List UInt8} (hcolon : 58 ∉ port) :
    (ValidPort port → r.unmarshalText t (host ++ [58] ++ port) = (unbracketed host).map fun ip =>
        ({ r with ip := (t.parseIP ip).getD [], port := (atoi port).1 }, none)) ∧
      (¬ ValidPort port → ∃ err, r.unmarshalText t (host ++ [58] ++ port) = some (r, some err)) := by
  have hparts : 1 ≤ (host.splitOn 58).length := List.length_pos_iff.mpr (List.splitOn_ne_nil _ _)
  have hlength : ¬ (host.splitOn 58 ++ [port]).length < 2 := by
    rw [List.length_append, List.length_singleton]
    omega
  simp only [unmarshalText, splitOn_port hcolon, if_neg hlength,
    List.getLastD_concat, List.dropLast_concat, List.intercalate_splitOn]
  constructor
  · rintro ⟨hread, hrange⟩
    rw [hread, if_neg Bool.false_ne_true, if_neg hrange]
  · intro hinvalid
    split_ifs with hfailed hrange
    · exact ⟨_, rfl⟩
    · exact ⟨_, rfl⟩
    · exact absurd ⟨by simpa using hfailed, hrange⟩ hinvalid

theorem unmarshalText_host (t : IPText) (r : RemoteAddress) (host : List UInt8)
    {port : Int} (hport : 0 ≤ port ∧ port ≤ 65535) : r.unmarshalText t (host ++ [58] ++ itoa port) =
      (unbracketed host).map fun ip =>
        ({ r with ip := (t.parseIP ip).getD [], port := port }, none) := by
  obtain ⟨hitoa, hatoi⟩ := atoi_itoa hport.1 (by omega)
  have hcolon : 58 ∉ itoa port := by
    rw [hitoa]
    exact Decimal.not_mem_encode rfl _
  have hread := (unmarshalText_port t r host hcolon).1 ⟨by rw [hatoi], by rw [hatoi]; omega⟩
  rwa [hatoi] at hread

theorem unbracketed_of_notMem {ip : List UInt8} (hne : ip ≠ []) (hbracket : 91 ∉ ip) :
    unbracketed ip = some ip := by
  unfold unbracketed
  split
  next => exact absurd rfl hne
  next => exact absurd List.mem_cons_self hbracket
  next => exact absurd List.mem_cons_self hbracket
  next => rfl

theorem unbracketed_brackets (host : List UInt8) :
    unbracketed (91 :: host ++ [93]) = some host := by
  have hrest : host ++ [93] ≠ [] := by simp
  rw [List.cons_append]
  unfold unbracketed
  split
  next heq => cases heq
  next heq => exact absurd (List.cons.inj heq).2 hrest
  next heq => rw [← (List.cons.inj heq).2, List.dropLast_concat]
  next hother => exact absurd rfl (hother _)

theorem ipEqual_to16 {ip : List UInt8} (hip : IsIP ip) : ipEqual (to16 ip) ip = true := by
  rcases hip with h4 | h16
  · have hlong : (v4InV6Prefix ++ ip).length = 16 := by
      rw [List.length_append, h4]
      rfl
    rw [to16, if_pos h4, ipEqual, hlong, h4]
    simp [v4InV6Prefix]
  · simp [to16, ipEqual, h16]

theorem unbracketed_string (t : IPText) {ip : List UInt8} (hip : IsIP ip) :
    58 ∉ t.string ip ∧ unbracketed (t.string ip) = some (t.string ip) ∨ 58 ∈ t.string ip := by
  cases h4 : to4 ip with
  | some ip4 =>
    rw [t.string_ipv4 ip ip4 h4]
    have hne : ip4.map UInt8.toNat ≠ [] := by
      rw [ne_eq, List.map_eq_nil_iff]
      exact List.ne_nil_of_length_eq_add_one (to4_eq_some h4).1
    refine .inl ⟨Decimal.not_mem_join (by decide) rfl _, ?_⟩
    exact unbracketed_of_notMem (Decimal.join_ne_nil 46 hne)
      (Decimal.not_mem_join (by decide) rfl _)
  | none =>
    obtain ⟨hcolons, -⟩ := t.string_ipv6 ip (length_of_to4_eq_none hip h4) h4
    exact .inr (List.count_pos_iff.mp (Nat.lt_of_lt_of_le Nat.zero_lt_two hcolons))

/-- An address and a port are read back from their text, whatever they are read
into.  The address is given its long form, which is the same address. -/
theorem unmarshalText_marshalText (t : IPText) (r target : RemoteAddress)
    (hip : IsIP r.ip) (hport : 0 ≤ r.port ∧ r.port ≤ 65535) :
    target.unmarshalText t (r.marshalText t) =
        some ({ target with ip := to16 r.ip, port := r.port }, none) ∧
      ipEqual (to16 r.ip) r.ip = true := by
  refine ⟨?_, ipEqual_to16 hip⟩
  have hhost : ∃ host, r.marshalText t = host ++ [58] ++ itoa r.port ∧
      unbracketed host = some (t.string r.ip) := by
    rw [marshalText, joinHostPort]
    rcases unbracketed_string t hip with ⟨hnot, hplain⟩ | hcolon
    · exact ⟨_, if_neg hnot, hplain⟩
    · refine ⟨91 :: t.string r.ip ++ [93], ?_, unbracketed_brackets _⟩
      rw [if_pos hcolon]
      simp
  obtain ⟨host, htext, hunbracketed⟩ := hhost
  rw [htext, unmarshalText_host t target host hport, hunbracketed, Option.map_some,
    t.parseIP_string r.ip hip, Option.getD_some]

end RemoteAddress

/-! A way to write addresses that is as it is required of the library, with all
numbers in decimal. -/

def decimalString (ip : List UInt8) : List UInt8 :=
  match to4 ip with
  | some ip4 => Decimal.join 46 (ip4.map UInt8.toNat)
  | none => Decimal.join 58 (ip.map UInt8.toNat)

def decimalParse (text : List UInt8) : Option (List UInt8) :=
  if 58 ∈ text then (Decimal.split 58 text).map fun ns => ns.map UInt8.ofNat
  else (Decimal.split 46 text).map fun ns => to16 (ns.map UInt8.ofNat)

theorem map_ofNat_map_toNat (ip : List UInt8) : (ip.map UInt8.toNat).map UInt8.ofNat = ip := by
  simp [Function.comp_def]

theorem count_decimalString {ip : List UInt8} (h16 : ip.length = 16)
    (h4 : to4 ip = none) : 2 ≤ (decimalString ip).count 58 := by
  rw [decimalString, h4]
  cases ip with
  | nil => cases h16
  | cons first rest =>
    have hrest : rest.length = 15 := Nat.succ.inj h16
    simp only [List.map_cons]
    rw [Decimal.count_join rfl, List.length_map, hrest]
    decide

theorem decimalParse_decimalString {ip : List UInt8} (hip : IsIP ip) :
    decimalParse (decimalString ip) = some (to16 ip) := by
  cases h4 : to4 ip with
  | some ip4 =>
    obtain ⟨hlength, hlong⟩ := to4_eq_some h4
    have hne : ip4.map UInt8.toNat ≠ [] := by
      rw [ne_eq, List.map_eq_nil_iff]
      exact List.ne_nil_of_length_eq_add_one hlength
    have hcolon : 58 ∉ Decimal.join 46 (ip4.map UInt8.toNat) :=
      Decimal.not_mem_join (by decide) rfl _
    rw [decimalString, h4, decimalParse, if_neg hcolon, Decimal.split_join rfl hne,
      Option.map_some, map_ofNat_map_toNat, hlong]
  | none =>
    have h16 := length_of_to4_eq_none hip h4
    have hcolon : 58 ∈ decimalString ip :=
      List.count_pos_iff.mp (Nat.lt_of_lt_of_le Nat.zero_lt_two (count_decimalString h16 h4))
    have hne : ip.map UInt8.toNat ≠ [] := by
      rw [ne_eq, List.map_eq_nil_iff]
      exact List.ne_nil_of_length_eq_add_one h16
    rw [decimalParse, if_pos hcolon, decimalString, h4]
    rw [Decimal.split_join rfl hne, Option.map_some, map_ofNat_map_toNat, to16,
      h16, if_neg (by decide)]

/-- Every byte in decimal; `net.IP` writes an address of version 6 in hexadecimal. -/
def decimalText : IPText where
  string := decimalString
  parseIP := decimalParse
  parseIP_string _ := decimalParse_decimalString
  string_ipv4 ip ip4 h4 := by rw [decimalString, h4]
  string_ipv6 ip h16 h4 := by
    refine ⟨count_decimalString h16 h4, ?_, ?_⟩ <;>
    · rw [decimalString, h4]
      exact Decimal.not_mem_join (by decide) rfl _

theorem unmarshalText_marshalText_localhost :
    (⟨[], 0, ""⟩ : RemoteAddress).unmarshalText decimalText
        ((⟨[127, 0, 0, 1], 2222, ""⟩ : RemoteAddress).marshalText decimalText) =
      some (⟨[0, 0, 0, 0, 0, 0, 0, 0, 0, 0, 255, 255, 127, 0, 0, 1], 2222, ""⟩, none) ∧
    (⟨[], 0, ""⟩ : RemoteAddress).unmarshalText decimalText
        ((⟨[0, 0, 0, 0, 0, 0, 0, 0, 0, 0, 0, 0, 0, 0, 0, 1], 22, ""⟩ :
          RemoteAddress).marshalText decimalText) =
      some (⟨[0, 0, 0, 0, 0, 0, 0, 0, 0, 0, 0, 0, 0, 0, 0, 1], 22, ""⟩, none) := by
  constructor
  · exact (RemoteAddress.unmarshalText_marshalText decimalText
      ⟨[127, 0, 0, 1], 2222, ""⟩ ⟨[], 0, ""⟩ (.inl rfl) (by decide)).1
  · exact (RemoteAddress.unmarshalText_marshalText decimalText
      ⟨[0, 0, 0, 0, 0, 0, 0, 0, 0, 0, 0, 0, 0, 0, 0, 1], 22, ""⟩ ⟨[], 0, ""⟩
      (.inr rfl) (by decide)).1

namespace RemoteAddress

variable (t : IPText)

def unmarshalJSON (decode : List UInt8 → Except (List UInt8) (List UInt8)) (r : RemoteAddress)
    (input : List UInt8) : Option (RemoteAddress × Option (List UInt8)) :=
  match decode input with
  | .error err =>
    some (r, some (bytes "failed to unmarshal remote address data: " ++ input ++ bytes " (" ++
      err ++ bytes ")"))
  | .ok data => r.unmarshalText t data

def IsHost (host : List UInt8) : Prop :=
  (host ≠ [] ∧ 91 ∉ host ∧ (t.parseIP host).isSome = true) ∨
    ∃ text, host = 91 :: text ++ [93] ∧ 58 ∈ text ∧ (t.parseIP text).isSome = true

def HasForm (input : List UInt8) : Prop :=
  ∃ host port, input = host ++ [58] ++ port ∧ 58 ∉ port ∧ ValidPort port ∧ IsHost t host

structure Rejects (r : RemoteAddress) (form : Prop)
    (result : Option (RemoteAddress × Option (List UInt8))) : Prop where
  returns : result ≠ none
  formed : ∀ r', result = some (r', none) → form
  unchanged : ∀ r' err, result = some (r', some err) → r' = r

def HostBeforePort (input : List UInt8) : Prop :=
  ∀ host port, input = host ++ [58] ++ port → 58 ∉ port → ValidPort port → IsHost t host

theorem exists_port {input : List UInt8} (hcolon : 58 ∈ input) :
    ∃ host port, input = host ++ [58] ++ port ∧ 58 ∉ port := by
  obtain ⟨port, host, hsplit, hport⟩ := List.eq_append_cons_of_mem (List.mem_reverse.mpr hcolon)
  refine ⟨host.reverse, port.reverse, ?_, by simpa using hport⟩
  rw [← List.reverse_reverse input, hsplit]
  simp

theorem port_unique {host host' port port' : List UInt8} (hport : 58 ∉ port) (hport' : 58 ∉ port')
    (hsame : host ++ [58] ++ port = host' ++ [58] ++ port') : host = host' ∧ port = port' := by
  have hparts := congrArg (List.splitOn 58) hsame
  rw [splitOn_port hport, splitOn_port hport'] at hparts
  obtain ⟨-, hlast⟩ := List.append_inj' hparts rfl
  cases hlast
  simpa using hsame

theorem IsHost.unbracketed_ne_none {t : IPText} {host : List UInt8} (hhost : IsHost t host) :
    unbracketed host ≠ none := by
  rcases hhost with ⟨hne, hbracket, -⟩ | ⟨text, rfl, -⟩
  · simp [unbracketed_of_notMem hne hbracket]
  · rw [unbracketed_brackets]
    simp

theorem rejects_error (r : RemoteAddress) (form : Prop) (err : List UInt8) :
    Rejects r form (some (r, some err)) :=
  ⟨by simp, by simp, by simp⟩

theorem unmarshalText_rejects_iff (r : RemoteAddress) (input : List UInt8) :
    Rejects r (HasForm t input) (r.unmarshalText t input) ↔ HostBeforePort t input := by
  by_cases hcolon : 58 ∈ input
  · obtain ⟨host, port, rfl, hport⟩ := exists_port hcolon
    obtain ⟨hvalid, hinvalid⟩ := unmarshalText_port t r host hport
    have hunique : HostBeforePort t (host ++ [58] ++ port) ↔ (ValidPort port → IsHost t host) := by
      refine ⟨fun h => h host port rfl hport, fun h host' port' hsame hport' => ?_⟩
      obtain ⟨rfl, rfl⟩ := port_unique hport hport' hsame
      exact h
    rw [hunique]
    by_cases hp : ValidPort port
    · rw [hvalid hp]
      constructor
      · rintro ⟨hreads, hform, -⟩ -
        obtain ⟨ip, hip⟩ := Option.ne_none_iff_exists'.mp (mt (congrArg _) hreads)
        obtain ⟨host', port', hsame, hport', -, hhost⟩ := hform _ (by rw [hip]; rfl)
        exact (port_unique hport hport' hsame).1 ▸ hhost
      · intro hhost
        refine ⟨?_, fun _ _ => ⟨host, port, rfl, hport, hp, hhost hp⟩, by simp⟩
        simpa using (hhost hp).unbracketed_ne_none
    · obtain ⟨err, herr⟩ := hinvalid hp
      rw [herr]
      exact iff_of_true (rejects_error r _ err) fun h => absurd h hp
  · have hparts : (input.splitOn 58).length < 2 := by
      rw [List.splitOn_eq_singleton hcolon]
      exact Nat.one_lt_two
    rw [unmarshalText, if_pos hparts]
    refine iff_of_true (rejects_error r _ _) ?_
    rintro host port rfl
    simp at hcolon

/-- Bad input is rejected, with the receiver as it was, exactly if there is a
host in front of every valid port; for JSON that is asked of the string in it. -/
theorem unmarshal_rejects_iff (decode : List UInt8 → Except (List UInt8) (List UInt8))
    (r : RemoteAddress) (input : List UInt8) :
    (Rejects r (HasForm t input) (r.unmarshalText t input) ↔ HostBeforePort t input) ∧
      (Rejects r (∃ data, decode input = .ok data ∧ HasForm t data)
          (r.unmarshalJSON t decode input) ↔
        ∀ data, decode input = .ok data → HostBeforePort t data) := by
  refine ⟨unmarshalText_rejects_iff t r input, ?_⟩
  rw [unmarshalJSON]
  cases hdecode : decode input with
  | error => exact iff_of_true (rejects_error r _ _) (by simp)
  | ok data => simpa using unmarshalText_rejects_iff t r data

end RemoteAddress

/-- Without a host, as in `:22`, or with a bracket alone reading panics, and a
host that is no address is accepted, as in `x:22`. -/
theorem missing_host_panics :
    RemoteAddress.unmarshalText decimalText ⟨[], 0, ""⟩ [58, 50, 50] = none ∧
      RemoteAddress.unmarshalText decimalText ⟨[], 0, ""⟩ [91, 58, 50, 50] = none ∧
      RemoteAddress.unmarshalText decimalText ⟨[], 0, ""⟩ [120, 58, 50, 50] =
        some (⟨[], 22, ""⟩, none) := by
  have hread (host : List UInt8) :=
    RemoteAddress.unmarshalText_host decimalText ⟨[], 0, ""⟩ host
      (by decide : (0 : Int) ≤ 22 ∧ (22 : Int) ≤ 65535)
  exact ⟨hread [], hread [91], hread [120]⟩

end ContainerSSH
