/-
The server's side of authentication: how it turns the results of the authorization layer into a
login or a refusal, for every method and every order of callbacks on one connection.
-/
import ContainerSSH.AuthHandlers

namespace ContainerSSH

variable {World : Type}

structure ConnMetadata where
  clientVersion : String
  user : String

inductive AuthMethod where
  | password
  | publicKey
  | keyboardInteractive
  | gssapi
deriving DecidableEq

def AuthMethod.name : AuthMethod → String
  | password => "Password"
  | publicKey => "Public key"
  | keyboardInteractive => "Keyboard-interactive"
  | gssapi => "GSSAPI"

def AuthMethod.labelValue : AuthMethod → String
  | password => "password"
  | publicKey => "public key"
  | keyboardInteractive => "keyboard-interactive"
  | gssapi => "gssapi"

def wrapAndLogAuthUnavailable (conn : ConnectionAuthPendingMetadata)
    (method : AuthMethod) (err : Option GoError) :
    Except NilDereference GoError :=
  match err with
  | none => .error .error
  | some err =>
    .ok ((((wrapUser err "SSH_AUTH_UNAVAILABLE"
      "Authentication is currently unavailable, please try a different authentication method or try again later."
      (method.name ++ " authentication for user " ++ conn.username ++
        " currently unavailable.")).label "username" conn.username).label
      "method" method.labelValue).label "reason" err.error)

def wrapAndLogAuthFailure (conn : ConnectionAuthPendingMetadata)
    (method : AuthMethod) (err : Option GoError) : GoError :=
  let explanation := method.name ++ " authentication for user " ++
    conn.username ++ " failed."
  match err with
  | none =>
    ((userMessage "SSH_AUTH_FAILED" "Authentication failed."
      explanation).label "username" conn.username).label "method" method.labelValue
  | some err =>
    (((wrapUser err "SSH_AUTH_FAILED" "Authentication failed."
      explanation).label "username" conn.username).label
      "method" method.labelValue).label "reason" err.error

inductive AuthReply where
  | granted (metadata : ConnectionAuthenticatedMetadata)
  | refused (err : GoError)
  | undecided

def authenticatorReply (conn : ConnectionAuthPendingMetadata)
    (method : AuthMethod) (outcome : AuthOutcome) :
    Except NilDereference AuthReply :=
  if outcome.response = authResponseSuccess then .ok (.granted outcome.metadata)
  else if outcome.response = authResponseFailure then
    .ok (.refused (wrapAndLogAuthFailure conn method outcome.error))
  else if outcome.response = authResponseUnavailable then
    match wrapAndLogAuthUnavailable conn method outcome.error with
    | .ok err => .ok (.refused err)
    | .error nilDereference => .error nilDereference
  else .ok (.refused (.plain "authentication currently unavailable"))

inductive AuthCallback where
  | password (conn : ConnMetadata) (password : List UInt8)
  | publicKey (conn : ConnMetadata) (authorizedKey : String)
  | keyboardInteractive (conn : ConnMetadata) (challenge : Challenge)
  | acceptSecContext (token : List UInt8)
  | verifyMIC (micField micToken : List UInt8)
  | deleteSecContext
  | gssapiLogin (conn : ConnMetadata)

structure AuthConnection (World : Type) where
  handler : AuthzNetworkConnectionHandler World
  connectionMetadata : ConnectionMetadata
  gssServer : AuthzGssApiServer World
  world : World

namespace AuthConnection

def new (handler : AuthzNetworkConnectionHandler World)
    (connectionMetadata : ConnectionMetadata) (w : World) :
    AuthConnection World :=
  let (w, gssServer) := handler.onAuthGSSAPI w connectionMetadata
  ⟨handler, connectionMetadata, gssServer, w⟩

variable (c : AuthConnection World)

def pending (conn : ConnMetadata) : ConnectionAuthPendingMetadata :=
  c.connectionMetadata.startAuthentication conn.clientVersion conn.user

def authenticate (conn : ConnMetadata) (method : AuthMethod)
    (result : World × AuthOutcome) :
    Except NilDereference (AuthConnection World × AuthReply) := do
  let reply ← authenticatorReply (c.pending conn) method result.2
  .ok ({ c with world := result.1 }, reply)

def gssapiLogin (conn : ConnMetadata) :
    Except NilDereference (AuthConnection World × AuthReply) := do
  if ← c.gssServer.success c.world then
    let (gssServer, w, authenticated, err) ←
      c.gssServer.allowLogin c.world conn.user (c.pending conn)
    let next := { c with gssServer := gssServer, world := w }
    match err with
    | some err => .ok (next, .refused (wrapAndLogAuthFailure (c.pending conn) .gssapi (some err)))
    | none => .ok (next, .granted authenticated)
  else
    match ← c.gssServer.error c.world with
    | none => .ok (c, .refused (newMessage "SSH_AUTH_FAILED" "Authentication failed"))
    | some err => .ok (c, .refused err)

def serve : AuthCallback → Except NilDereference (AuthConnection World × AuthReply)
  | .password conn password =>
    c.authenticate conn .password (c.handler.onAuthPassword c.world (c.pending conn) password)
  | .publicKey conn authorizedKey =>
    c.authenticate conn .publicKey (c.handler.onAuthPubKey c.world (c.pending conn) authorizedKey)
  | .keyboardInteractive conn challenge =>
    c.authenticate conn .keyboardInteractive
      (c.handler.onAuthKeyboardInteractive c.world (c.pending conn) challenge)
  | .acceptSecContext token => do
      let (w, _) ← c.gssServer.acceptSecContext c.world token
      .ok ({ c with world := w }, .undecided)
  | .verifyMIC micField micToken => do
      let (w, _) ← c.gssServer.verifyMIC c.world micField micToken
      .ok ({ c with world := w }, .undecided)
  | .deleteSecContext => do
      let (w, _) ← c.gssServer.deleteSecContext c.world
      .ok ({ c with world := w }, .undecided)
  | .gssapiLogin conn => c.gssapiLogin conn

def history (c : AuthConnection World) :
    List AuthCallback → List (AuthConnection World × AuthCallback)
  | [] => []
  | callback :: rest =>
    (c, callback) ::
      match c.serve callback with
      | .ok (next, _) => next.history rest
      | .error _ => []

def Authorized (result : World × AuthOutcome) : Prop :=
  result.2.response = authResponseSuccess ∧ (c.handler.authorizationProvider.authorize result.1
      result.2.metadata).2.success = true

def ShouldGrant : AuthCallback → Prop
  | .password conn password =>
    c.Authorized (c.handler.backend.onAuthPassword c.world (c.pending conn) password)
  | .publicKey conn authorizedKey =>
    c.Authorized (c.handler.backend.onAuthPubKey c.world (c.pending conn) authorizedKey)
  | .keyboardInteractive conn challenge =>
    c.Authorized (c.handler.backend.onAuthKeyboardInteractive c.world (c.pending conn) challenge)
  | .gssapiLogin conn =>
    ∃ server, c.gssServer.backend = some server ∧ server.success c.world = true ∧ ∃ w authenticated,
        server.allowLogin c.world conn.user (c.pending conn) = (w, authenticated, none) ∧
        (c.handler.authorizationProvider.authorize w authenticated).2.success = true
  | _ => False

/-- The callback grants exactly what it should grant. -/
def Enforced (callback : AuthCallback) : Prop :=
  match c.serve callback with
  | .ok (_, reply) => (∃ metadata, reply = .granted metadata) ↔ c.ShouldGrant callback
  | .error nilDereference => nilDereference = .error ∧ ¬ c.ShouldGrant callback

def GssapiHarmless : AuthCallback → Prop
  | .acceptSecContext _ => c.gssServer.backend.isSome
  | .verifyMIC _ _ => c.gssServer.backend.isSome
  | .deleteSecContext => c.gssServer.backend.isSome
  | .gssapiLogin conn => c.gssServer.backend.isSome ∧ ¬ c.ShouldGrant (.gssapiLogin conn)
  | _ => True

end AuthConnection

theorem authResponseFailure_ne_success : authResponseFailure ≠ authResponseSuccess := by
  decide

theorem AuthzNetworkConnectionHandler.genericAuthorization_success_iff
    (a : AuthzNetworkConnectionHandler World) (w : World) (outcome : AuthOutcome) :
    (a.genericAuthorization w outcome).2.response = authResponseSuccess ↔
      outcome.response = authResponseSuccess ∧ (a.authorizationProvider.authorize w
          outcome.metadata).2.success = true := by
  by_cases hresponse : outcome.response = authResponseSuccess
  · by_cases hauthz : (a.authorizationProvider.authorize w outcome.metadata).2.success = true
    · simp [genericAuthorization, hresponse, hauthz]
    · simp [genericAuthorization, hresponse, hauthz, authResponseFailure_ne_success]
  · simp [genericAuthorization, hresponse]

theorem authenticatorReply_spec (conn : ConnectionAuthPendingMetadata)
    (method : AuthMethod) (outcome : AuthOutcome) :
    (∃ reply, authenticatorReply conn method outcome = .ok reply ∧
      ((∃ metadata, reply = .granted metadata) ↔ outcome.response = authResponseSuccess)) ∨
    (authenticatorReply conn method outcome = .error .error ∧
      outcome.response ≠ authResponseSuccess) := by
  by_cases hsuccess : outcome.response = authResponseSuccess
  · exact .inl ⟨_, if_pos hsuccess, by simp [hsuccess]⟩
  · have hrefused : ∀ {err}, authenticatorReply conn method outcome = .ok (.refused err) →
        ∃ reply, authenticatorReply conn method outcome = .ok reply ∧
          ((∃ metadata, reply = .granted metadata) ↔ outcome.response = authResponseSuccess) :=
      fun heq => ⟨_, heq, by simp [hsuccess]⟩
    by_cases hfailure : outcome.response = authResponseFailure
    · exact .inl (hrefused ((if_neg hsuccess).trans (if_pos hfailure)))
    · by_cases hunavailable : outcome.response = authResponseUnavailable
      · have hbranch : authenticatorReply conn method outcome = _ :=
          (if_neg hsuccess).trans ((if_neg hfailure).trans (if_pos hunavailable))
        cases herror : outcome.error with
        | none =>
          rw [herror] at hbranch
          exact .inr ⟨hbranch, hsuccess⟩
        | some =>
          rw [herror] at hbranch
          exact .inl (hrefused hbranch)
      · exact .inl (hrefused ((if_neg hsuccess).trans
          ((if_neg hfailure).trans (if_neg hunavailable))))

namespace AuthConnection

variable {c : AuthConnection World}

theorem enforced_of_authenticate {callback : AuthCallback} {conn : ConnMetadata}
    {method : AuthMethod} {result : World × AuthOutcome}
    (hserve : c.serve callback = c.authenticate conn method
      (c.handler.genericAuthorization result.1 result.2))
    (hshould : c.ShouldGrant callback ↔ c.Authorized result) : c.Enforced callback := by
  have hauthorized := c.handler.genericAuthorization_success_iff result.1 result.2
  simp only [Enforced, hserve, hshould, authenticate]
  rcases authenticatorReply_spec (c.pending conn) method
    (c.handler.genericAuthorization result.1 result.2).2 with
    ⟨reply, hreply, hgranted⟩ | ⟨herror, hnot⟩
  · rw [hreply]
    exact hgranted.trans hauthorized
  · rw [herror]
    exact ⟨rfl, fun hshould => hnot (hauthorized.mpr hshould)⟩

def Unanswered (c : AuthConnection World) : Prop := c.gssServer.authzResponse = none

theorem unanswered_new (handler : AuthzNetworkConnectionHandler World)
    (connectionMetadata : ConnectionMetadata) (w : World) :
    (new handler connectionMetadata w).Unanswered := rfl

theorem gssServer_success_of_unanswered (hunanswered : c.Unanswered)
    {server : GSSAPIServer World} (hbackend : c.gssServer.backend = some server)
    (w : World) : c.gssServer.success w = .ok false := by
  have hnone : c.gssServer.authzResponse = none := hunanswered
  cases hsuccess : server.success w <;>
    simp [AuthzGssApiServer.success, AuthzGssApiServer.deref, hbackend, hnone,
      hsuccess, bind, Except.bind]

theorem gssapiLogin_of_unanswered (hunanswered : c.Unanswered)
    {server : GSSAPIServer World} (hbackend : c.gssServer.backend = some server)
    (conn : ConnMetadata) : ∃ err, c.gssapiLogin conn = .ok (c, .refused err) := by
  have hnone : c.gssServer.authzResponse = none := hunanswered
  have herror : c.gssServer.error c.world = .ok (server.error c.world) := by
    cases hserver : server.error c.world <;>
      simp [AuthzGssApiServer.error, AuthzGssApiServer.deref, hbackend, hnone,
        hserver, bind, Except.bind]
  simp only [gssapiLogin, gssServer_success_of_unanswered hunanswered hbackend,
    herror, bind, Except.bind]
  cases server.error c.world with
  | none => exact ⟨_, rfl⟩
  | some err => exact ⟨err, rfl⟩

theorem deref_of_none (hbackend : c.gssServer.backend = none) :
    c.gssServer.deref = .error .backend := by
  simp [AuthzGssApiServer.deref, hbackend]

theorem deref_of_some {server : GSSAPIServer World} (hbackend : c.gssServer.backend = some server) :
    c.gssServer.deref = .ok server := by
  simp [AuthzGssApiServer.deref, hbackend]

theorem serve_unanswered (hunanswered : c.Unanswered) {callback : AuthCallback}
    {next : AuthConnection World} {reply : AuthReply}
    (hserve : c.serve callback = .ok (next, reply)) : next.Unanswered := by
  have hauthenticate : ∀ {conn method result},
      c.authenticate conn method result = .ok (next, reply) →
        next.Unanswered := by
    intro conn method result heq
    simp only [authenticate, bind, Except.bind] at heq
    split at heq
    · simp at heq
    · cases heq
      exact hunanswered
  cases callback with
  | password | publicKey | keyboardInteractive => exact hauthenticate hserve
  | gssapiLogin conn =>
    cases hbackend : c.gssServer.backend with
    | none =>
      simp [serve, gssapiLogin, AuthzGssApiServer.success,
        deref_of_none hbackend, bind, Except.bind] at hserve
    | some =>
      obtain ⟨err, hlogin⟩ := gssapiLogin_of_unanswered hunanswered hbackend conn
      simp only [serve, hlogin] at hserve
      cases hserve
      exact hunanswered
  | _ =>
    cases hbackend : c.gssServer.backend with
    | none =>
      simp [serve, AuthzGssApiServer.acceptSecContext,
        AuthzGssApiServer.verifyMIC, AuthzGssApiServer.deleteSecContext,
        deref_of_none hbackend, bind, Except.bind] at hserve
    | some =>
      simp only [serve, AuthzGssApiServer.acceptSecContext,
        AuthzGssApiServer.verifyMIC, AuthzGssApiServer.deleteSecContext,
        deref_of_some hbackend, bind, Except.bind, Except.ok.injEq, Prod.mk.injEq] at hserve
      rw [← hserve.1]
      exact hunanswered

theorem history_unanswered (hunanswered : c.Unanswered) (callbacks : List AuthCallback) :
    ∀ m ∈ c.history callbacks, m.1.Unanswered := by
  induction callbacks generalizing c with
  | nil => simp [history]
  | cons callback rest ih =>
    intro m hm
    rcases List.mem_cons.mp hm with rfl | hrest
    · exact hunanswered
    · cases hserve : c.serve callback with
      | error => simp [hserve] at hrest
      | ok result =>
        simp only [hserve] at hrest
        exact ih (serve_unanswered hunanswered hserve) m hrest

theorem enforced_iff_gssapiHarmless (hunanswered : c.Unanswered) (callback : AuthCallback) :
    c.Enforced callback ↔ c.GssapiHarmless callback := by
  cases callback with
  | password | publicKey | keyboardInteractive =>
    exact iff_of_true (enforced_of_authenticate rfl Iff.rfl) trivial
  | gssapiLogin conn =>
    cases hbackend : c.gssServer.backend with
    | none =>
      simp [Enforced, GssapiHarmless, serve, gssapiLogin,
        AuthzGssApiServer.success, deref_of_none hbackend, hbackend, bind, Except.bind]
    | some =>
      obtain ⟨err, hlogin⟩ := gssapiLogin_of_unanswered hunanswered hbackend conn
      simp [Enforced, GssapiHarmless, serve, hlogin, hbackend]
  | _ =>
    cases hbackend : c.gssServer.backend with
    | none =>
      simp [Enforced, GssapiHarmless, serve,
        AuthzGssApiServer.acceptSecContext, AuthzGssApiServer.verifyMIC,
        AuthzGssApiServer.deleteSecContext, deref_of_none hbackend, hbackend, bind, Except.bind]
    | some =>
      simp [Enforced, GssapiHarmless, serve, ShouldGrant,
        AuthzGssApiServer.acceptSecContext, AuthzGssApiServer.verifyMIC,
        AuthzGssApiServer.deleteSecContext, deref_of_some hbackend, hbackend, bind, Except.bind]

/-- Authorization is enforced throughout a connection exactly when GSSAPI does
not come into play: for the other methods it always is, while a GSSAPI login is
never granted and a backend without GSSAPI is dereferenced. -/
theorem authorization_enforced_iff (handler : AuthzNetworkConnectionHandler World)
    (connectionMetadata : ConnectionMetadata) (w : World) (callbacks : List AuthCallback) :
    (∀ m ∈ (new handler connectionMetadata w).history callbacks, m.1.Enforced m.2) ↔
    (∀ m ∈ (new handler connectionMetadata w).history callbacks, m.1.GssapiHarmless m.2) := by
  have hunanswered := history_unanswered (unanswered_new handler connectionMetadata w) callbacks
  exact forall₂_congr fun m hm =>
    enforced_iff_gssapiHarmless (hunanswered m hm) m.2

def verifiedServer : GSSAPIServer Unit where
  success _ := true
  error _ := none
  acceptSecContext w _ := (w, [], "", false, none)
  verifyMIC w _ _ := (w, none)
  deleteSecContext w := (w, none)
  allowLogin w username metadata := (w, metadata.authenticated username, none)

def gssapiBackend (server : Option (GSSAPIServer Unit)) : NetworkConnectionHandler Unit where
  onAuthPassword w metadata _ := (w, ⟨authResponseFailure, metadata.authFailed, none⟩)
  onAuthPubKey w metadata _ := (w, ⟨authResponseFailure, metadata.authFailed, none⟩)
  onAuthKeyboardInteractive w metadata _ := (w, ⟨authResponseFailure, metadata.authFailed, none⟩)
  onAuthGSSAPI w _ := (w, server)

def authorizesAll : AuthzProvider Unit where
  authorize w metadata := (w, ⟨true, none, metadata⟩)

theorem gssapi_authorization_not_enforced :
    (¬ ∀ m ∈ (new ⟨gssapiBackend (some verifiedServer), authorizesAll⟩
        newTestMetadata ()).history [.gssapiLogin ⟨"SSH-2.0-FooSSH", "foo"⟩], m.1.Enforced m.2) ∧
    (¬ ∀ m ∈ (new ⟨gssapiBackend none, authorizesAll⟩ newTestMetadata ()).history
        [.acceptSecContext []], m.1.Enforced m.2) := by
  constructor
  · intro hall
    have hgranted := (hall _ List.mem_cons_self).mpr ⟨verifiedServer, rfl, rfl, _, _, rfl, rfl⟩
    obtain ⟨metadata, heq⟩ := hgranted
    exact AuthReply.noConfusion heq
  · intro hall
    exact absurd (hall _ List.mem_cons_self).1 (by decide)

end AuthConnection

end ContainerSSH
