/-
The metadata of a connection in its three stages: connected, authenticating under a user name,
authenticated.
-/
import Mathlib.Tactic.Common

namespace ContainerSSH

structure MetadataValue where
  value : String
  sensitive : Bool
deriving DecidableEq

structure MetadataBinaryValue where
  value : List UInt8
  sensitive : Bool
deriving DecidableEq

structure RemoteAddress where
  ip : List UInt8
  port : Int
  zone : String
deriving DecidableEq

structure ConnectionMetadata where
  remoteAddress : RemoteAddress
  connectionID : String
  metadata : Option (List (String × MetadataValue)) := none
  environment : Option (List (String × MetadataValue)) := none
  files : Option (List (String × MetadataBinaryValue)) := none
deriving DecidableEq

structure ConnectionAuthPendingMetadata extends ConnectionMetadata where
  clientVersion : String
  username : String
deriving DecidableEq

structure ConnectionAuthenticatedMetadata extends
    ConnectionAuthPendingMetadata where
  authenticatedUsername : String
deriving DecidableEq

def ConnectionMetadata.startAuthentication (metadata : ConnectionMetadata)
    (clientVersion username : String) : ConnectionAuthPendingMetadata :=
  ⟨metadata, clientVersion, username⟩

def newTestMetadata : ConnectionMetadata where
  remoteAddress := ⟨[127, 0, 0, 1], 22, ""⟩
  connectionID := "0123456789ABCDEF"
  metadata := some []
  environment := some []
  files := some []

def ConnectionAuthPendingMetadata.authenticated
    (c : ConnectionAuthPendingMetadata) (username : String) :
    ConnectionAuthenticatedMetadata :=
  ⟨c, username⟩

def ConnectionAuthPendingMetadata.authFailed
    (c : ConnectionAuthPendingMetadata) : ConnectionAuthenticatedMetadata :=
  ⟨c, ""⟩

def ConnectionAuthenticatedMetadata.zero : ConnectionAuthenticatedMetadata where
  remoteAddress := ⟨[], 0, ""⟩
  connectionID := ""
  clientVersion := ""
  username := ""
  authenticatedUsername := ""

def assign {α : Type} (key : String) (value : α) (m : List (String × α)) : List (String × α) :=
  (key, value) :: m.filter fun old => old.1 ≠ key

theorem lookup_assign {α : Type} (key other : String) (value : α) (m : List (String × α)) :
    (assign key value m).lookup other = if other = key then some value else m.lookup other := by
  rw [assign, List.lookup_cons]
  by_cases hsame : other = key
  · simp [hsame]
  · simp only [hsame, beq_eq_false_iff_ne.mpr hsame, if_false]
    induction m with
    | nil => rfl
    | cons entry rest ih =>
      by_cases hentry : entry.1 = key
      · have hother : (other == entry.1) = false := by simpa [hentry] using hsame
        rw [List.filter_cons_of_neg (by simpa using hentry), List.lookup_cons, hother, ih]
      · rw [List.filter_cons_of_pos (by simpa using hentry), List.lookup_cons, List.lookup_cons, ih]

namespace ConnectionMetadata

variable (c newMeta : ConnectionMetadata)

def created {α : Type} (m : Option (List α)) : Option (List α) := some (m.getD [])

def getMetadata : ConnectionMetadata := { c with metadata := created c.metadata }

def getFiles : ConnectionMetadata := { c with files := created c.files }

def getEnvironment : ConnectionMetadata := { c with environment := created c.environment }

def merge : ConnectionMetadata :=
  let newMeta := newMeta.getMetadata
  let c :=
    if newMeta.metadata.isSome then { c with metadata := newMeta.metadata }
    else c
  let newMeta := newMeta.getFiles
  let c := if newMeta.files.isSome then { c with files := newMeta.files } else c
  let newMeta := newMeta.getEnvironment
  if newMeta.environment.isSome then { c with environment := newMeta.environment }
  else c

end ConnectionMetadata

namespace ConnectionAuthenticatedMetadata

variable (a b c : ConnectionAuthenticatedMetadata)

def merge (newMeta : ConnectionAuthenticatedMetadata) :
    ConnectionAuthenticatedMetadata :=
  let c := { c with
    toConnectionMetadata := c.toConnectionMetadata.merge newMeta.toConnectionMetadata }
  if newMeta.authenticatedUsername ≠ "" then
    { c with authenticatedUsername := newMeta.authenticatedUsername }
  else c

def overrideName (old new : String) : String := if new ≠ "" then new else old

theorem overrideName_assoc (x y z : String) :
    overrideName (overrideName x y) z = overrideName x (overrideName y z) := by
  by_cases hz : z = "" <;> simp [overrideName, hz]

theorem overrideName_self (x : String) : overrideName x x = x := by
  simp [overrideName]

theorem overrideName_empty (x : String) : overrideName "" x = x := by
  by_cases hx : x = "" <;> simp [overrideName]

theorem overrideName_eq_right_iff (old new : String) :
    new = overrideName old new ↔ new ≠ "" ∨ old = "" := by
  by_cases hnew : new = "" <;> simp [overrideName, hnew]

def override (newMeta : ConnectionAuthenticatedMetadata) :
    ConnectionAuthenticatedMetadata :=
  { c with
    metadata := newMeta.metadata.or c.metadata
    environment := newMeta.environment.or c.environment
    files := newMeta.files.or c.files
    authenticatedUsername := overrideName c.authenticatedUsername newMeta.authenticatedUsername }

def unset : ConnectionAuthenticatedMetadata :=
  { c with metadata := none, environment := none, files := none, authenticatedUsername := "" }

theorem merge_eq : a.merge b = { a with
      metadata := ConnectionMetadata.created b.metadata
      environment := ConnectionMetadata.created b.environment
      files := ConnectionMetadata.created b.files
      authenticatedUsername := overrideName a.authenticatedUsername b.authenticatedUsername } := by
  simp only [merge, overrideName]
  split <;> rfl

theorem merge_authenticatedUsername : (a.merge b).authenticatedUsername =
    overrideName a.authenticatedUsername b.authenticatedUsername := by
  rw [merge_eq]

theorem override_unset : a.override b.unset = a := rfl

theorem override_self : a.override a = a := by
  simp only [override, Option.or_self, overrideName_self]

structure CoveredBy : Prop where
  metadata : b.metadata.isSome ∨ a.metadata = some []
  environment : b.environment.isSome ∨ a.environment = some []
  files : b.files.isSome ∨ a.files = some []

theorem created_eq_or_iff {α : Type} (m old : Option (List α)) :
    ConnectionMetadata.created m = m.or old ↔ m.isSome ∨ old = some [] := by
  cases m with
  | none => simp [ConnectionMetadata.created, eq_comm]
  | some => simp [ConnectionMetadata.created]

theorem merge_eq_override_iff : a.merge b = a.override b ↔ a.CoveredBy b := by
  rw [merge_eq, override]
  constructor
  · intro heq
    injection heq with hpending
    injection hpending with hconnection
    injection hconnection with _ _ hmetadata henvironment hfiles
    exact ⟨(created_eq_or_iff _ _).mp hmetadata, (created_eq_or_iff _ _).mp henvironment,
      (created_eq_or_iff _ _).mp hfiles⟩
  · rintro ⟨hmetadata, henvironment, hfiles⟩
    rw [(created_eq_or_iff _ _).mpr hmetadata, (created_eq_or_iff _ _).mpr henvironment,
      (created_eq_or_iff _ _).mpr hfiles]

theorem merge_assoc : (a.merge b).merge c = a.merge (b.merge c) := by
  simp only [merge_eq, overrideName_assoc]
  rfl

/-- The identity of the connection stays and the user name is overridden if the
new one is set.  The maps are treated as described exactly when those that are
not set would replace empty maps; this also decides whether metadata that sets
nothing is neutral and whether merging with oneself is.  Merging is associative
in any case. -/
theorem merge_laws : ((a.merge b).remoteAddress = a.remoteAddress ∧
      (a.merge b).connectionID = a.connectionID ∧ (a.merge b).username = a.username ∧
      (a.merge b).authenticatedUsername =
        overrideName a.authenticatedUsername b.authenticatedUsername) ∧
    (a.merge b = a.override b ↔ a.CoveredBy b) ∧ (a.merge b.unset = a ↔ a.CoveredBy b.unset) ∧
    (a.merge a = a ↔ a.CoveredBy a) ∧ (a.merge b).merge c = a.merge (b.merge c) := by
  refine ⟨?_, a.merge_eq_override_iff b, ?_, ?_, merge_assoc a b c⟩
  · refine ⟨?_, ?_, ?_, a.merge_authenticatedUsername b⟩ <;> rw [merge_eq]
  · rw [← merge_eq_override_iff, override_unset]
  · rw [← merge_eq_override_iff, override_self]

/-- A response without metadata removes the metadata of the login. -/
theorem merge_unset_drops_metadata :
    let a : ConnectionAuthenticatedMetadata :=
      ((newTestMetadata.startAuthentication "SSH-2.0-FooSSH" "foo").authenticated "foo")
    let a := { a with metadata := some [("GITHUB_TOKEN", ⟨"secret", true⟩)] }
    (a.merge a.unset).metadata = some [] ∧
      a.merge a.unset ≠ a ∧ a.merge a.unset ≠ a.override a.unset := by
  decide

end ConnectionAuthenticatedMetadata

end ContainerSSH
