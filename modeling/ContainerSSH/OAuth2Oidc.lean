/-
The OIDC provider, with the discovery of its endpoints, and the generic OAuth2 provider.
-/
import ContainerSSH.OAuth2Client

namespace ContainerSSH

structure OAuth2AccessTokenResponse where
  accessToken : String := ""
  error : String := ""
  errorDescription : String := ""

def OAuth2AccessTokenResponse.decode (resp : OAuth2AccessTokenResponse)
    (reply : HttpReply) : OAuth2AccessTokenResponse where
  accessToken := reply.stringOr "access_token" resp.accessToken
  error := reply.stringOr "error" resp.error
  errorDescription := reply.stringOr "error_description" resp.errorDescription

def wrapWithExtra (cause : GoError) (code explanation argument : String) :
    GoError :=
  .wrapping cause code "Internal Error" (explanation ++ " (" ++ argument ++
      ")%!(EXTRA *message.wrappingMessage=" ++ cause.error ++ ")") []

structure CodeExchange where
  request : HttpRequest
  fetchFailed : String
  server : String
  api : String
  timeout : String
  flow : String

namespace CodeExchange

variable (e : CodeExchange) (ctx : Context)

def receive (resp : OAuth2AccessTokenResponse) (reply : HttpReply) :
    Dialogue.Verdict OAuth2AccessTokenResponse (String × Option GoError) :=
  let resp := resp.decode reply
  if reply.err = none ∧ reply.statusCode = 200 ∧ resp.error = "" then
    .finish (resp.accessToken, none)
  else
    let err :=
      if reply.err = none ∧ reply.statusCode = 200 then
        some (userMessage e.fetchFailed "Authentication failed"
          ("Error returned from " ++ e.server ++ " (" ++ resp.error ++ ": " ++
            resp.errorDescription ++ ")"))
      else reply.err
    let err := wrapUserErr err e.fetchFailed "Cannot authenticate at this time."
      ("Non-200 status code from " ++ e.api ++ " (" ++
        toString reply.statusCode ++ "; " ++ resp.error ++ "; " ++ resp.errorDescription ++ ").")
    if 399 < reply.statusCode ∧ reply.statusCode < 500 then .finish ("", some err)
    else if ctx.done reply then
      .finish ("", some (wrapWithExtra err e.timeout "Cannot authenticate at this time."
        ("Timeout during " ++ e.flow ++ " authentication flow.")))
    else .again resp

def getAccessToken : OAuth2 (String × Option GoError) :=
  Dialogue.loop (fun resp => do
    let reply ← ContainerSSH.request e.request
    pure (e.receive ctx resp reply)) {}

end CodeExchange

/-! ### OIDC -/

structure OidcProvider where
  urls : UrlLibrary
  clientID : String
  clientSecret : String
  url : String
  deviceFlow : Bool
  authorizationCodeFlow : Bool
  usernameField : String := "sub"
  redirectURI : String := ""

structure OidcDiscoveryResponse where
  authorizationEndpoint : String
  tokenEndpoint : String
  userInfoEndpoint : String
  deviceAuthorizationEndpoint : String
  revocationEndpoint : String

def OidcDiscoveryResponse.decode (reply : HttpReply) : OidcDiscoveryResponse where
  authorizationEndpoint := reply.string "authorization_endpoint"
  tokenEndpoint := reply.string "token_endpoint"
  userInfoEndpoint := reply.string "userinfo_endpoint"
  deviceAuthorizationEndpoint := reply.string "device_authorization_endpoint"
  revocationEndpoint := reply.string "revocation_endpoint"

structure OidcFlow where
  provider : OidcProvider
  metadata : ConnectionAuthPendingMetadata
  discoveryResponse : OidcDiscoveryResponse
  accessToken : String := ""

namespace OidcProvider

variable (p : OidcProvider)

def basic : Authorization := .basic p.clientID p.clientSecret

def discoveryRequest : HttpRequest where
  method := "GET"
  base := p.url
  path := ".well-known/openid-configuration"
  authorization := p.basic

def receiveDiscovery (ctx : Context) (reply : HttpReply) :
    Dialogue.Verdict Unit (Except GoError OidcDiscoveryResponse) :=
  let err := wrapUserErr reply.err "OIDC_DISCOVERY_FAILED"
    "Authentication currently unavailable"
    "OIDC endpoint configuration request failed."
  if reply.err = none ∧ reply.statusCode = 200 then
    .finish (.ok (OidcDiscoveryResponse.decode reply))
  else if 399 < reply.statusCode ∧ reply.statusCode < 500 then .finish (.error err)
  else if ctx.done reply then
    .finish (.error (wrapUser err "OIDC_DISCOVERY_TIMEOUT" "Authentication currently unavailable"
      "Timeout while performing OIDC discovery."))
  else .again ()

def discover (ctx : Context) : OAuth2 (Except GoError OidcDiscoveryResponse) :=
  Dialogue.loop (fun _ => do
    let reply ← request p.discoveryRequest
    pure (receiveDiscovery ctx reply)) ()

def createFlow (ctx : Context) (metadata : ConnectionAuthPendingMetadata) :
    OAuth2 (Except GoError OidcFlow) := do
  match ← newClient p.url p.basic with
  | some err =>
    pure (.error (wrapUser err "OIDC_HTTP_CLIENT_CREATE_FAILED"
      "Authentication currently unavailable."
      "Cannot create OIDC device flow authenticator because the HTTP urlEncodedClient configuration failed."))
  | none =>
    match ← p.discover ctx with
    | .error err => pure (.error err)
    | .ok discoveryResponse => pure (.ok { provider := p, metadata, discoveryResponse })

end OidcProvider

namespace OidcFlow

variable (o : OidcFlow) (ctx : Context)

def post (endpoint : String) (form : List (String × String)) : HttpRequest where
  method := "POST"
  base := endpoint
  authorization := o.provider.basic
  form := form

def receiveRevocation (error : String) (reply : HttpReply) :
    Dialogue.Verdict String Unit :=
  let error := reply.stringOr "error" error
  let failed := reply.err ≠ none ∨ error ≠ ""
  if reply.err = none ∧ error = "invalid_token" then .finish ()
  else if ¬ failed ∨ reply.statusCode = 200 then .finish ()
  else if 399 < reply.statusCode ∧ reply.statusCode < 500 then .finish ()
  else if ctx.done reply then .finish ()
  else .again error

def deauthorize : OAuth2 OidcFlow := do
  if o.accessToken = "" then pure o
  else
    Dialogue.loop (fun error => do
      let reply ← request (o.post o.discoveryResponse.revocationEndpoint
        [("token", o.accessToken), ("token_type_hint", "access_token")])
      pure (receiveRevocation ctx error reply)) ""
    pure { o with accessToken := "" }

def userMetadata (token : String) (reply : HttpReply) : List (String × MetadataValue) :=
  ("OIDC_TOKEN", ⟨token, true⟩) :: reply.body.filterMap fun field =>
    match field.2 with
    | .string value => some ("OIDC_USERINFO_" ++ field.1.toUpper, ⟨value, false⟩)
    | _ => none

def receiveUser (token : String) (reply : HttpReply) :
    Dialogue.Verdict Unit Verified :=
  if reply.err = none ∧ 100 < reply.statusCode ∧ reply.statusCode < 300 then
    match reply.body.lookup o.provider.usernameField with
    | none =>
      .finish ⟨token, o.metadata.authFailed, some (userMessage "OIDC_NO_USERNAME"
          "Authentication currently unavailable" ("The OIDC server did not return the " ++
            o.provider.usernameField ++
            " field in the response, which was configured to be used as the username. Please check your ContainerSSH configuration against your OIDC server configuration."))⟩
    | some (.string username) =>
      .finish ⟨token, (o.metadata.setMetadata (userMetadata token reply)).authenticated
          username, none⟩
    | some _ =>
      .finish ⟨token, o.metadata.authFailed, some (userMessage "OIDC_NO_USERNAME"
          "Authentication currently unavailable"
          ("The OIDC server returned the " ++ o.provider.usernameField ++
            " field in the response, which was configured to be used as the username, but it was not a string."))⟩
  else if ctx.done reply then
    let err :=
      if reply.err = none then
        some (userMessage "OIDC_USER_INFO_FETCH_FAILED" "Authentication currently unavailable"
          ("Non-200 status code from OIDC userinfo API (" ++ toString reply.statusCode ++ ")."))
      else reply.err
    .finish ⟨"", o.metadata.authFailed, some (wrapErr err "OIDC_TIMEOUT"
        "Timeout while trying to get user info.")⟩
  else .again ()

def getIdentity (token : String) : OAuth2 Verified := do
  match ← newClient o.provider.url (.bearer token) with
  | some err => pure ⟨"", o.metadata.authFailed, some err⟩
  | none =>
    Dialogue.loop (fun _ => do
      let reply ← request
        { method := "GET"
          base := o.discoveryResponse.userInfoEndpoint
          authorization := .bearer token }
      pure (o.receiveUser ctx token reply)) ()

def identify (accessToken : String) (err : Option GoError) : OAuth2 (OidcFlow × Verified) := do
  let o := { o with accessToken }
  match err with
  | some err =>
    let o ← if accessToken = "" then pure o else o.deauthorize ctx
    pure (o, ⟨"", o.metadata.authFailed, some err⟩)
  | none =>
    let verified ← o.getIdentity ctx accessToken
    pure (o, verified)

/-! #### The authorization code flow -/

def authorizationURL : Except GoError String :=
  match o.provider.urls.parse o.discoveryResponse.authorizationEndpoint with
  | some err => .error err
  | none =>
    .ok (o.provider.urls.text o.discoveryResponse.authorizationEndpoint none
      [("response_type", "code"), ("client_id", o.provider.clientID),
        ("scope", "openid"), ("state", o.metadata.connectionID),
        ("redirect_uri", o.provider.redirectURI)])

def codeRequest (authorizationCode : String) : HttpRequest :=
  o.post o.discoveryResponse.tokenEndpoint
    [("grant_type", "authorization_code"), ("code", authorizationCode),
      ("client_id", o.provider.clientID), ("device_code", ""),
      ("redirect_uri", o.provider.redirectURI)]

def codeExchange (authorizationCode : String) : CodeExchange where
  request := o.codeRequest authorizationCode
  fetchFailed := "OIDC_ACCESS_TOKEN_FETCH_FAILED"
  server := "OIDC server"
  api := "OIDC access token API"
  timeout := "OIDC_TIMEOUT"
  flow := "OIDC"

def verify (_state authorizationCode : String) : OAuth2 (OidcFlow × Verified) := do
  let (accessToken, err) ← (o.codeExchange authorizationCode).getAccessToken ctx
  o.identify ctx accessToken err

end OidcFlow

/-! #### The device flow -/

structure OidcDeviceFlow extends OidcFlow where
  interval : Nat := 10
  deviceCode : String := ""

namespace OidcDeviceFlow

variable (o : OidcDeviceFlow) (ctx : Context)

def verificationLink (reply : HttpReply) : String :=
  let complete := reply.string "verification_uri_complete"
  if complete = "" then reply.string "verification_uri" else complete

def getAuthorizationURL : OAuth2 (OidcDeviceFlow × Except GoError DeviceAuthorization) := do
  match ← Dialogue.loop (fun _ => do
      let reply ← request
        (o.post o.discoveryResponse.deviceAuthorizationEndpoint [("client_id", o.provider.clientID),
            ("grant_type", "urn:ietf:params:oauth:grant-type:device_code"), ("scope", "openid")])
      pure (receiveDeviceCode ctx "OAuth2" verificationLink reply)) () with
  | .error err => pure (o, .error err)
  | .ok code =>
    pure ({ o with interval := code.interval, deviceCode := code.deviceCode },
      .ok code.authorization)

def receiveToken : HttpReply → Dialogue.Verdict Unit (String × Option GoError) :=
  receiveDeviceToken ctx o.interval (fun _ => true) (fun _ => none)

def getAccessToken : OAuth2 (String × Option GoError) :=
  Dialogue.loop (fun _ => do
    let reply ← request (o.post o.discoveryResponse.tokenEndpoint
      [("grant_type", "urn:ietf:params:oauth:grant-type:device_code"),
        ("code", ""), ("client_id", o.provider.clientID),
        ("device_code", o.deviceCode), ("redirect_uri", "")])
    pure (o.receiveToken ctx reply)) ()

def verify : OAuth2 (OidcDeviceFlow × Verified) := do
  let (accessToken, err) ← o.getAccessToken ctx
  let (flow, verified) ← o.identify ctx accessToken err
  pure ({ o with toOidcFlow := flow }, verified)

end OidcDeviceFlow

def OidcProvider.provider (p : OidcProvider) : OAuth2Provider where
  DeviceFlow := OidcDeviceFlow
  CodeFlow := OidcFlow
  supportsDeviceFlow := p.deviceFlow
  getDeviceFlow := fun metadata => do
    match ← p.createFlow .todo metadata with
    | .error err => pure (.error err)
    | .ok flow => pure (.ok { toOidcFlow := flow })
  deviceAuthorizationURL := fun flow => flow.getAuthorizationURL .todo
  deviceVerify := fun flow => flow.verify .timeout
  deviceDeauthorize := fun flow => do
    let o ← flow.deauthorize .todo
    pure { flow with toOidcFlow := o }
  supportsAuthorizationCodeFlow := p.authorizationCodeFlow
  getAuthorizationCodeFlow := p.createFlow .todo
  authorizationURL := OidcFlow.authorizationURL
  verify := fun flow => flow.verify .todo

/-! ### The generic provider -/

structure GenericProvider where
  urls : UrlLibrary
  clientID : String
  clientSecret : String
  authorizeEndpointURL : String
  tokenEndpointURL : String
  redirectURI : String := ""

structure GenericFlow where
  provider : GenericProvider
  metadata : ConnectionAuthPendingMetadata
  accessToken : String := ""

namespace GenericProvider

variable (p : GenericProvider)

def basic : Authorization := .basic p.clientID p.clientSecret

def createFlow (metadata : ConnectionAuthPendingMetadata) :
    OAuth2 (Except GoError GenericFlow) := do
  match ← newClient p.tokenEndpointURL p.basic with
  | some err =>
    pure (.error (wrapUser err "GENERIC_HTTP_CLIENT_CREATE_FAILED"
      "Authentication currently unavailable."
      "Cannot create authenticator because the token endpoint configuration failed."))
  | none => pure (.ok { provider := p, metadata })

end GenericProvider

namespace GenericFlow

variable (g : GenericFlow) (ctx : Context)

def authorizationURL : Except GoError String :=
  match g.provider.urls.parse g.provider.authorizeEndpointURL with
  | some err => .error err
  | none =>
    .ok (g.provider.urls.text g.provider.authorizeEndpointURL none
      [("response_type", "code"), ("client_id", g.provider.clientID),
        ("scope", ""), ("state", g.metadata.connectionID),
        ("redirect_uri", g.provider.redirectURI)])

def codeRequest (authorizationCode : String) : HttpRequest where
  method := "POST"
  base := g.provider.tokenEndpointURL
  authorization := g.provider.basic
  form :=
    [("grant_type", "authorization_code"), ("code", authorizationCode),
      ("client_id", g.provider.clientID), ("redirect_uri", g.provider.redirectURI)]

def codeExchange (authorizationCode : String) : CodeExchange where
  request := g.codeRequest authorizationCode
  fetchFailed := "GENERIC_ACCESS_TOKEN_FETCH_FAILED"
  server := "generic oAuth2 server"
  api := "oAuth2 access token API"
  timeout := "GENERIC_TIMEOUT"
  flow := "generic oAuth2"

def verify (_state authorizationCode : String) : OAuth2 (GenericFlow × Verified) := do
  let (accessToken, err) ← (g.codeExchange authorizationCode).getAccessToken ctx
  let g := { g with accessToken }
  match err with
  | some err => pure (g, ⟨"", g.metadata.authFailed, some err⟩)
  | none =>
    pure (g, ⟨accessToken, (g.metadata.setMetadata
        [("OAUTH2_TOKEN", ⟨accessToken, true⟩)]).authenticated "", none⟩)

end GenericFlow

def GenericProvider.provider (p : GenericProvider) : OAuth2Provider where
  DeviceFlow := Empty
  CodeFlow := GenericFlow
  supportsDeviceFlow := false
  getDeviceFlow := fun _ =>
    pure (.error (.plain "the generic provider does not support the device flow"))
  deviceAuthorizationURL := fun flow => flow.elim
  deviceVerify := fun flow => flow.elim
  deviceDeauthorize := fun flow => flow.elim
  supportsAuthorizationCodeFlow := true
  getAuthorizationCodeFlow := p.createFlow
  authorizationURL := GenericFlow.authorizationURL
  verify := fun flow => flow.verify .todo

/-! ### Neither provider talks to the user -/

section Quiet

open Dialogue

variable {ctx : Context} {metadata : ConnectionAuthPendingMetadata}

theorem quiet_newClient (base : String) (authorization : Authorization) :
    Quiet (newClient base authorization) :=
  onlyAsks_ask rfl

theorem quiet_requestLoop {σ α : Type} {r : HttpRequest}
    (receive : σ → HttpReply → Verdict σ α) (s : σ) : Quiet (loop (fun s => do
      let reply ← request r
      pure (receive s reply)) s) :=
  onlyAsks_requestLoop receive s rfl

theorem OidcProvider.createFlow_quiet (p : OidcProvider) : Quiet (p.createFlow ctx metadata) := by
  apply OnlyAsks.bind (quiet_newClient _ _)
  intro created
  cases created with
  | some => exact onlyAsks_pure _ _
  | none =>
    apply OnlyAsks.bind (quiet_requestLoop _ _)
    intro response
    cases response <;> exact onlyAsks_pure _ _

theorem OidcFlow.deauthorize_quiet (o : OidcFlow) : Quiet (o.deauthorize ctx) := by
  unfold OidcFlow.deauthorize
  split
  · exact onlyAsks_pure _ _
  · apply OnlyAsks.bind (quiet_requestLoop _ _)
    intro _
    exact onlyAsks_pure _ _

theorem OidcFlow.getIdentity_quiet (o : OidcFlow) (token : String) :
    Quiet (o.getIdentity ctx token) := by
  apply OnlyAsks.bind (quiet_newClient _ _)
  intro created
  cases created with
  | some => exact onlyAsks_pure _ _
  | none => exact quiet_requestLoop _ _

theorem OidcFlow.identify_quiet (o : OidcFlow) (accessToken : String)
    (err : Option GoError) : Quiet (o.identify ctx accessToken err) := by
  unfold OidcFlow.identify
  cases err with
  | some =>
    dsimp only
    split
    · apply OnlyAsks.bind (onlyAsks_pure _ _)
      intro o'
      exact onlyAsks_pure _ _
    · apply OnlyAsks.bind (OidcFlow.deauthorize_quiet _)
      intro o'
      exact onlyAsks_pure _ _
  | none =>
    apply OnlyAsks.bind (OidcFlow.getIdentity_quiet _ _)
    intro verified
    exact onlyAsks_pure _ _

theorem CodeExchange.getAccessToken_quiet (e : CodeExchange) : Quiet (e.getAccessToken ctx) :=
  quiet_requestLoop _ _

theorem OidcProvider.provider_isQuiet (p : OidcProvider) : p.provider.IsQuiet where
  getDeviceFlow metadata := by
    apply OnlyAsks.bind p.createFlow_quiet
    intro flow
    cases flow <;> exact onlyAsks_pure _ _
  deviceAuthorizationURL flow := by
    apply OnlyAsks.bind (quiet_requestLoop _ _)
    intro code
    cases code <;> exact onlyAsks_pure _ _
  deviceVerify flow := by
    apply OnlyAsks.bind (quiet_requestLoop _ _)
    intro token
    apply OnlyAsks.bind (OidcFlow.identify_quiet _ _ _)
    intro verified
    exact onlyAsks_pure _ _
  deviceDeauthorize flow := by
    apply OnlyAsks.bind (OidcFlow.deauthorize_quiet _)
    intro o
    exact onlyAsks_pure _ _
  getAuthorizationCodeFlow metadata := p.createFlow_quiet
  verify flow state code := by
    apply OnlyAsks.bind (CodeExchange.getAccessToken_quiet _)
    intro token
    exact OidcFlow.identify_quiet _ _ _

theorem GenericProvider.provider_isQuiet (p : GenericProvider) : p.provider.IsQuiet where
  getDeviceFlow metadata := onlyAsks_pure _ _
  deviceAuthorizationURL flow := flow.elim
  deviceVerify flow := flow.elim
  deviceDeauthorize flow := flow.elim
  getAuthorizationCodeFlow metadata := by
    apply OnlyAsks.bind (quiet_newClient _ _)
    intro created
    cases created <;> exact onlyAsks_pure _ _
  verify flow state code := by
    apply OnlyAsks.bind (CodeExchange.getAccessToken_quiet _)
    rintro ⟨accessToken, err⟩
    cases err <;> exact onlyAsks_pure _ _

end Quiet

end ContainerSSH
