/-
Authentication and authorization of one network connection.
-/
import ContainerSSH.Message
import ContainerSSH.ConnectionMetadata

namespace ContainerSSH


structure AuthResponse where
  code : UInt8
deriving DecidableEq

def authResponseSuccess : AuthResponse := ⟨1⟩
def authResponseFailure : AuthResponse := ⟨2⟩
def authResponseUnavailable : AuthResponse := ⟨3⟩

structure AuthOutcome where
  response : AuthResponse
  metadata : ConnectionAuthenticatedMetadata
  error : Option GoError

structure AuthorizationResponse where
  success : Bool
  error : Option GoError
  metadata : ConnectionAuthenticatedMetadata

structure KeyboardInteractiveQuestion where
  id : String
  question : String
  echoResponse : Bool
deriving DecidableEq

def Challenge : Type :=
  String → List KeyboardInteractiveQuestion → Except GoError (List (String × String))

structure GSSAPIServer (World : Type) where
  success : World → Bool
  error : World → Option GoError
  acceptSecContext : World → List UInt8 → World × (List UInt8 × String × Bool × Option GoError)
  verifyMIC : World → List UInt8 → List UInt8 → World × Option GoError
  deleteSecContext : World → World × Option GoError
  allowLogin : World → String → ConnectionAuthPendingMetadata →
    World × ConnectionAuthenticatedMetadata × Option GoError

structure NetworkConnectionHandler (World : Type) where
  onAuthPassword : World → ConnectionAuthPendingMetadata → List UInt8 → World × AuthOutcome
  onAuthPubKey : World → ConnectionAuthPendingMetadata → String → World × AuthOutcome
  onAuthKeyboardInteractive : World → ConnectionAuthPendingMetadata →
    Challenge → World × AuthOutcome
  onAuthGSSAPI : World → ConnectionMetadata → World × Option (GSSAPIServer World)

structure AuthzProvider (World : Type) where
  authorize : World → ConnectionAuthenticatedMetadata → World × AuthorizationResponse

inductive NilDereference where
  | provider
  | backend
  | response
  | error
  | client
deriving DecidableEq

variable {World : Type}

structure AuthzGssApiServer (World : Type) where
  backend : Option (GSSAPIServer World)
  authorizationProvider : Option (AuthzProvider World)
  authzResponse : Option AuthorizationResponse

namespace AuthzGssApiServer

variable (g : AuthzGssApiServer World)

def deref : Except NilDereference (GSSAPIServer World) :=
  match g.backend with
  | none => .error .backend
  | some backend => .ok backend

def success (w : World) : Except NilDereference Bool := do
  let backend ← g.deref
  match backend.success w, g.authzResponse with
  | true, some response => .ok response.success
  | _, _ => .ok false

def error (w : World) : Except NilDereference (Option GoError) := do
  let backend ← g.deref
  match backend.error w, g.authzResponse with
  | none, some response => .ok response.error
  | backendErr, _ => .ok backendErr

def acceptSecContext (w : World) (token : List UInt8) :
    Except NilDereference (World × (List UInt8 × String × Bool × Option GoError)) := do
  let backend ← g.deref
  .ok (backend.acceptSecContext w token)

def verifyMIC (w : World) (micField micToken : List UInt8) :
    Except NilDereference (World × Option GoError) := do
  let backend ← g.deref
  .ok (backend.verifyMIC w micField micToken)

def deleteSecContext (w : World) : Except NilDereference (World × Option GoError) := do
  let backend ← g.deref
  .ok (backend.deleteSecContext w)

def allowLogin (w : World) (username : String)
    (metadata : ConnectionAuthPendingMetadata) :
    Except NilDereference (AuthzGssApiServer World × World ×
      ConnectionAuthenticatedMetadata × Option GoError) := do
  let backend ← g.deref
  match backend.allowLogin w username metadata with
  | (w, authenticated, some err) => .ok (g, w, authenticated, some err)
  | (w, authenticated, none) =>
    match g.authorizationProvider with
    | none => .error .provider
    | some provider =>
      let (w, response) := provider.authorize w authenticated
      .ok ({ g with authzResponse := some response }, w, response.metadata, response.error)

end AuthzGssApiServer

structure AuthzNetworkConnectionHandler (World : Type) where
  backend : NetworkConnectionHandler World
  authorizationProvider : AuthzProvider World

namespace AuthzNetworkConnectionHandler

variable (a : AuthzNetworkConnectionHandler World)

def genericAuthorization (w : World) (outcome : AuthOutcome) : World × AuthOutcome :=
  if outcome.response ≠ authResponseSuccess then (w, outcome)
  else
    let (w, authz) := a.authorizationProvider.authorize w outcome.metadata
    if authz.success then (w, ⟨authResponseSuccess, authz.metadata, outcome.error⟩)
    else (w, ⟨authResponseFailure, authz.metadata, authz.error⟩)

def onAuthPassword (w : World) (metadata : ConnectionAuthPendingMetadata)
    (password : List UInt8) : World × AuthOutcome :=
  let (w, outcome) := a.backend.onAuthPassword w metadata password
  a.genericAuthorization w outcome

def onAuthPubKey (w : World) (metadata : ConnectionAuthPendingMetadata)
    (pubKey : String) : World × AuthOutcome :=
  let (w, outcome) := a.backend.onAuthPubKey w metadata pubKey
  a.genericAuthorization w outcome

def onAuthKeyboardInteractive (w : World)
    (metadata : ConnectionAuthPendingMetadata) (challenge : Challenge) :
    World × AuthOutcome :=
  let (w, outcome) := a.backend.onAuthKeyboardInteractive w metadata challenge
  a.genericAuthorization w outcome

def onAuthGSSAPI (w : World) (metadata : ConnectionMetadata) : World × AuthzGssApiServer World :=
  let (w, gssApiServer) := a.backend.onAuthGSSAPI w metadata
  (w, ⟨gssApiServer, none, none⟩)

end AuthzNetworkConnectionHandler

end ContainerSSH
