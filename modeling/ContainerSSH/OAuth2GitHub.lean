/-
The GitHub provider: the device flow, the authorization code flow and what they share, the check
of the granted scopes and the request for the identity.
-/
import ContainerSSH.OAuth2Client

namespace ContainerSSH

def splitString (separator : Char) (s : String) : List String :=
  (s.toList.splitOn separator).map String.ofList

structure GitHubProvider where
  urls : UrlLibrary
  url : String
  apiURL : String
  clientID : String
  clientSecret : String
  requiredOrgMembership : String := ""
  scopes : List String := []
  enforceScopes : Bool := false
  require2FA : Bool := false
  enforceUsername : Bool := true

structure GitHubUserResponse where
  login : String
  id : Nat
  nodeID : String
  avatarURL : String
  profileURL : String
  name : String
  company : String
  blogURL : String
  location : String
  email : String
  bio : String
  twitterUsername : String
  twoFactorAuthentication : Option Bool

def GitHubUserResponse.decode (reply : HttpReply) : GitHubUserResponse where
  login := reply.string "login"
  id := reply.nat "id"
  nodeID := reply.string "node_id"
  avatarURL := reply.string "avatar_url"
  profileURL := reply.string "html_url"
  name := reply.string "name"
  company := reply.string "company"
  blogURL := reply.string "blog"
  location := reply.string "location"
  email := reply.string "email"
  bio := reply.string "bio"
  twitterUsername := reply.string "twitter_username"
  twoFactorAuthentication := reply.bool? "two_factor_authentication"

def GitHubUserResponse.metadata (user : GitHubUserResponse)
    (accessToken : String) : List (String × MetadataValue) :=
  [("GITHUB_METHOD", ⟨"device", false⟩), ("GITHUB_TOKEN", ⟨accessToken, true⟩),
    ("GITHUB_LOGIN", ⟨user.login, true⟩), ("GITHUB_ID", ⟨toString user.id, true⟩),
    ("GITHUB_NODE_ID", ⟨user.nodeID, true⟩), ("GITHUB_NAME", ⟨user.name, true⟩),
    ("GITHUB_AVATAR_URL", ⟨user.avatarURL, true⟩), ("GITHUB_BIO", ⟨user.bio, true⟩),
    ("GITHUB_COMPANY", ⟨user.company, true⟩), ("GITHUB_EMAIL", ⟨user.email, true⟩),
    ("GITHUB_BLOG_URL", ⟨user.blogURL, true⟩), ("GITHUB_LOCATION", ⟨user.location, true⟩),
    ("GITHUB_TWITTER_USERNAME", ⟨user.twitterUsername, true⟩),
    ("GITHUB_PROFILE_URL", ⟨user.profileURL, true⟩), ("GITHUB_AVATAR_URL", ⟨user.avatarURL, true⟩)]

namespace GitHubProvider

variable (p : GitHubProvider)

def addScope (needed : Bool) (wide scope : String) (scopes : List String) :
    List String :=
  if needed ∧ ¬ (wide ∈ scopes ∨ scope ∈ scopes) then scopes ++ [scope]
  else scopes

def getScope : String :=
  ",".intercalate (addScope p.require2FA "user" "read:user"
      (addScope (p.requiredOrgMembership ≠ "") "org" "read:org" p.scopes))

def scopeGranted (grantedScopes : List String) (requiredScope : String) :
    Bool :=
  grantedScopes.any fun grantedScope =>
    grantedScope = requiredScope ||
      match splitString ':' requiredScope with
      | part :: _ :: _ => decide (part = grantedScope)
      | _ => false

def checkGrantedScopes (scope : String) : Option GoError :=
  let grantedScopes := splitString ',' scope
  let missing :=
    if p.enforceScopes then
      p.scopes.find? fun requiredScope => !scopeGranted grantedScopes requiredScope
    else none
  match missing with
  | some requiredScope =>
    some (userMessage "GITHUB_REQUIRED_SCOPE_NOT_GRANTED"
      ("You have not granted us the required " ++ requiredScope ++ " permission.")
      ("The user has not granted the " ++ requiredScope ++ " permission."))
  | none =>
    if p.requiredOrgMembership ≠ "" ∧
        ¬ ("org" ∈ grantedScopes ∨ "read:org" ∈ grantedScopes) then
      some (userMessage "GITHUB_REQUIRED_SCOPE_NOT_GRANTED"
        "You have not granted us permissions to read your organization memberships required for login."
        "The user has not granted the org or read:org memberships required to validate the organization member ship.")
    else none

def checkUser (username : String) (user : GitHubUserResponse) :
    Option GoError :=
  if p.enforceUsername ∧ user.login ≠ username then
    some (userMessage "GITHUB_USER_DOES_NOT_MATCH"
      "The username entered in your SSH urlEncodedClient does not match your GitHub login."
      "The user's username entered in the SSH username and on GitHub login do not match, but enforceUsername is enabled.")
  else if user.twoFactorAuthentication = some false ∧ p.require2FA then
    some (userMessage "GITHUB_2FA_NOT_ENABLED"
      "Please enable two-factor authentication on GitHub to access this server."
      "The user does not have two-factor authentication enabled on their GitHub account.")
  else if user.twoFactorAuthentication = none ∧ p.require2FA then
    some (userMessage "GITHUB_2FA_NOT_ENABLED"
      "Please grant the read:user permission so we can check your 2FA status."
      "The user did not provide the read:user permission to read the 2FA status.")
  else if p.enforceUsername ∧ user.login ≠ username then
    some (userMessage "GITHUB_USERNAME_DOES_NOT_MATCH"
      "Your GitHub username does not match your SSH login. Please try again and specify your GitHub username when connecting."
      "User did not use their GitHub username in the SSH login.")
  else none

def accessTokenRequest (form : List (String × String)) : HttpRequest where
  method := "POST"
  base := p.url
  path := "/login/oauth/access_token"
  form := form

def deviceCodeRequest : HttpRequest where
  method := "POST"
  base := p.url
  path := "/login/device/code"
  form := [("client_id", p.clientID), ("scope", p.getScope)]

def userAuthorization (accessToken : String) : Authorization :=
  if accessToken = "" then .none else .bearer accessToken

def userRequest (accessToken : String) : HttpRequest where
  method := "GET"
  base := p.apiURL
  path := "/user"
  authorization := userAuthorization accessToken

def deleteRequest (accessToken : String) : HttpRequest where
  method := "DELETE"
  base := p.apiURL
  path := "/applications/" ++ p.clientID ++ "/token"
  authorization := .basic p.clientID p.clientSecret
  form := [("AccessToken", accessToken)]

def clientError (err : GoError) (explanation : String) : GoError :=
  wrapUser err "GITHUB_HTTP_CLIENT_CREATE_FAILED"
    "Authentication currently unavailable." explanation

def createFlow : OAuth2 (Option GoError) := do
  let explanation := "Cannot create GitHub device flow authenticator because the HTTP urlEncodedClient configuration failed."
  match ← newClient p.url .none with
  | some err => pure (some (clientError err explanation))
  | none =>
    match ← newClient p.url .none with
    | some err => pure (some (clientError err explanation))
    | none => pure none

end GitHubProvider

structure GitHubFlow where
  provider : GitHubProvider
  accessToken : String := ""

namespace GitHubFlow

variable (g : GitHubFlow) (ctx : Context)

def receiveUser (metadata : ConnectionAuthPendingMetadata)
    (accessToken : String) (reply : HttpReply) :
    Dialogue.Verdict Unit Verified :=
  if reply.err = none ∧ reply.statusCode = 200 then
    let user := GitHubUserResponse.decode reply
    match g.provider.checkUser metadata.username user with
    | some err => .finish ⟨g.accessToken, metadata.authFailed, some err⟩
    | none =>
      .finish ⟨g.accessToken, (metadata.setMetadata (user.metadata accessToken)).authenticated
          user.login, none⟩
  else if ctx.done reply then
    .finish ⟨g.accessToken, metadata.authFailed,
      some (wrapUserErr reply.err "GITHUB_USER_REQUEST_FAILED"
        "Timeout while trying to fetch your identity from GitHub."
        "Timeout while trying fetch user identity from GitHub.")⟩
  else .again ()

def getIdentity (metadata : ConnectionAuthPendingMetadata)
    (accessToken : String) : OAuth2 Verified := do
  match ← newClient g.provider.apiURL
      (GitHubProvider.userAuthorization accessToken) with
  | some err =>
    pure ⟨g.accessToken, metadata.authFailed, some (GitHubProvider.clientError err
        "Cannot create GitHub authenticator because the HTTP urlEncodedClient configuration failed.")⟩
  | none =>
    Dialogue.loop (fun _ => do
      let reply ← request (g.provider.userRequest accessToken)
      pure (g.receiveUser ctx metadata accessToken reply)) ()

def tryDeauthorize : OAuth2 (Dialogue.Verdict Unit GitHubFlow) := do
  match ← newClient g.provider.apiURL
      (.basic g.provider.clientID g.provider.clientSecret) with
  | some _ => pure (.finish g)
  | none =>
    let reply ← request (g.provider.deleteRequest g.accessToken)
    if reply.err = none ∧ reply.statusCode = 204 then pure (.finish { g with accessToken := "" })
    else if ctx.done reply then pure (.finish g)
    else pure (.again ())

def deauthorize : OAuth2 GitHubFlow := do
  if g.accessToken = "" then pure g
  else Dialogue.loop (fun _ => g.tryDeauthorize ctx) ()

def identify (metadata : ConnectionAuthPendingMetadata)
    (failedToken : GitHubFlow → String) (accessToken : String)
    (err : Option GoError) : OAuth2 (GitHubFlow × Verified) := do
  let g := { g with accessToken }
  match err with
  | some err =>
    let g ← if accessToken = "" then pure g else g.deauthorize ctx
    pure (g, ⟨failedToken g, metadata.authFailed, some err⟩)
  | none =>
    let verified ← g.getIdentity ctx metadata accessToken
    pure (g, verified)

end GitHubFlow

structure GitHubAuthorizationCodeFlow extends GitHubFlow where
  metadata : ConnectionAuthPendingMetadata

namespace GitHubAuthorizationCodeFlow

variable (g : GitHubAuthorizationCodeFlow) (ctx : Context)

def getAuthorizationURL : String :=
  g.provider.urls.text g.provider.url (some "/login/oauth/authorize")
    [("client_id", g.provider.clientID), ("login", g.metadata.username),
      ("scope", g.provider.getScope), ("state", g.metadata.connectionID)]

def receiveToken (reply : HttpReply) : Dialogue.Verdict Unit (String × Option GoError) :=
  if reply.statusCode ≠ 200 then awaitToken ctx reply (some (accessTokenError reply))
  else if reply.err = none then
    .finish (reply.string "access_token", g.provider.checkGrantedScopes (reply.string "scope"))
  else awaitToken ctx reply reply.err

def getAccessToken (code : String) : OAuth2 (String × Option GoError) :=
  Dialogue.loop (fun _ => do
    let reply ← request (g.provider.accessTokenRequest
      [("client_id", g.provider.clientID),
        ("client_secret", g.provider.clientSecret), ("code", code),
        ("device_code", ""), ("grant_type", ""), ("state", g.metadata.connectionID)])
    pure (g.receiveToken ctx reply)) ()

def verify (state authorizationCode : String) :
    OAuth2 (GitHubAuthorizationCodeFlow × Verified) := do
  if state ≠ g.metadata.connectionID then
    pure (g, ⟨g.accessToken, g.metadata.authFailed, some (userMessage "GITHUB_STATE_DOES_NOT_MATCH"
        "The returned code is invalid."
        "The user provided a code that contained an invalid state component.")⟩)
  else
    let (accessToken, err) ← g.getAccessToken ctx authorizationCode
    let (flow, verified) ← g.identify ctx g.metadata (·.accessToken)
      accessToken err
    pure ({ g with toGitHubFlow := flow }, verified)

end GitHubAuthorizationCodeFlow

structure GitHubDeviceFlow extends GitHubFlow where
  metadata : ConnectionAuthPendingMetadata
  interval : Nat := 10
  deviceCode : String := ""

namespace GitHubDeviceFlow

variable (d : GitHubDeviceFlow) (ctx : Context)

def getAuthorizationURL : OAuth2 (GitHubDeviceFlow × Except GoError DeviceAuthorization) := do
  match ← Dialogue.loop (fun _ => do
      let reply ← request d.provider.deviceCodeRequest
      pure (receiveDeviceCode ctx "GitHub" (·.string "verification_uri") reply))
    () with
  | .error err => pure (d, .error err)
  | .ok code =>
    pure ({ d with interval := code.interval, deviceCode := code.deviceCode },
      .ok code.authorization)

def receiveToken : HttpReply → Dialogue.Verdict Unit (String × Option GoError) :=
  receiveDeviceToken ctx d.interval (fun reply => 15 < reply.nat "interval")
    d.provider.checkGrantedScopes

def getAccessToken : OAuth2 (String × Option GoError) :=
  Dialogue.loop (fun _ => do
    let reply ← request (d.provider.accessTokenRequest
      [("client_id", d.provider.clientID), ("client_secret", ""),
        ("code", ""), ("device_code", d.deviceCode),
        ("grant_type", "urn:ietf:params:oauth:grant-type:device_code"), ("state", "")])
    pure (d.receiveToken ctx reply)) ()

def verify : OAuth2 (GitHubDeviceFlow × Verified) := do
  let (accessToken, err) ← d.getAccessToken ctx
  let (flow, verified) ← d.identify ctx d.metadata (fun _ => "") accessToken err
  pure ({ d with toGitHubFlow := flow }, verified)

end GitHubDeviceFlow

def GitHubProvider.provider (p : GitHubProvider) : OAuth2Provider where
  DeviceFlow := GitHubDeviceFlow
  CodeFlow := GitHubAuthorizationCodeFlow
  supportsDeviceFlow := true
  getDeviceFlow := fun metadata => do
    match ← p.createFlow with
    | some err => pure (.error err)
    | none => pure (.ok { provider := p, metadata })
  deviceAuthorizationURL := fun flow => flow.getAuthorizationURL .todo
  deviceVerify := fun flow => flow.verify .timeout
  deviceDeauthorize := fun flow => do
    let g ← flow.deauthorize .todo
    pure { flow with toGitHubFlow := g }
  supportsAuthorizationCodeFlow := true
  getAuthorizationCodeFlow := fun metadata => do
    match ← p.createFlow with
    | some err => pure (.error err)
    | none => pure (.ok { provider := p, metadata })
  authorizationURL := fun flow => .ok flow.getAuthorizationURL
  verify := fun flow => flow.verify .todo

def GitHubProvider.Sends (p : GitHubProvider) : OAuth2Request → Prop
  | .challenge _ _ => False
  | .newClient _ _ => True
  | .http r =>
    r = p.deviceCodeRequest ∨ (∃ form, r = p.accessTokenRequest form) ∨
      ∃ token, r = p.userRequest token ∨ r = p.deleteRequest token

section Sends

open Dialogue

theorem GitHubProvider.createFlow_sends (p : GitHubProvider) : OnlyAsks p.createFlow p.Sends := by
  apply OnlyAsks.bind (onlyAsks_ask trivial)
  intro first
  cases first with
  | some => exact onlyAsks_pure _ _
  | none =>
    apply OnlyAsks.bind (onlyAsks_ask trivial)
    intro second
    cases second with
    | some | none => exact onlyAsks_pure _ _

theorem GitHubFlow.getIdentity_sends (g : GitHubFlow) (ctx : Context)
    (metadata : ConnectionAuthPendingMetadata) (accessToken : String) :
    OnlyAsks (g.getIdentity ctx metadata accessToken) g.provider.Sends := by
  apply OnlyAsks.bind (onlyAsks_ask trivial)
  intro created
  cases created with
  | some => exact onlyAsks_pure _ _
  | none =>
    apply onlyAsks_requestLoop
    exact .inr (.inr ⟨accessToken, .inl rfl⟩)

theorem GitHubFlow.deauthorize_sends (g : GitHubFlow) (ctx : Context) :
    OnlyAsks (g.deauthorize ctx) g.provider.Sends := by
  unfold GitHubFlow.deauthorize
  split
  · exact onlyAsks_pure _ _
  · apply OnlyAsks.loop
    intro _
    apply OnlyAsks.bind (onlyAsks_ask trivial)
    intro created
    cases created with
    | some => exact onlyAsks_pure _ _
    | none =>
      apply OnlyAsks.bind (onlyAsks_ask (.inr (.inr ⟨g.accessToken, .inr rfl⟩)))
      intro reply
      split
      · exact onlyAsks_pure _ _
      · split <;> exact onlyAsks_pure _ _

theorem GitHubFlow.identify_sends (g : GitHubFlow) (ctx : Context)
    (metadata : ConnectionAuthPendingMetadata)
    (failedToken : GitHubFlow → String) (accessToken : String) (err : Option GoError) :
    OnlyAsks (g.identify ctx metadata failedToken accessToken err)
      g.provider.Sends := by
  unfold GitHubFlow.identify
  cases err with
  | some =>
    dsimp only
    split
    · apply OnlyAsks.bind (onlyAsks_pure _ _)
      intro g'
      exact onlyAsks_pure _ _
    · apply OnlyAsks.bind (GitHubFlow.deauthorize_sends { g with accessToken } ctx)
      intro g'
      exact onlyAsks_pure _ _
  | none =>
    apply OnlyAsks.bind (GitHubFlow.getIdentity_sends { g with accessToken } ctx _ _)
    intro verified
    exact onlyAsks_pure _ _

theorem GitHubAuthorizationCodeFlow.verify_sends (g : GitHubAuthorizationCodeFlow) (ctx : Context)
    (state authorizationCode : String) :
    OnlyAsks (g.verify ctx state authorizationCode) g.provider.Sends := by
  unfold GitHubAuthorizationCodeFlow.verify
  split
  · exact onlyAsks_pure _ _
  · apply OnlyAsks.bind
    · apply onlyAsks_requestLoop
      exact .inr (.inl ⟨_, rfl⟩)
    · intro token
      apply OnlyAsks.bind (g.identify_sends ctx _ _ _ _)
      intro verified
      exact onlyAsks_pure _ _

theorem GitHubDeviceFlow.getAuthorizationURL_sends (d : GitHubDeviceFlow) (ctx : Context) :
    OnlyAsks (d.getAuthorizationURL ctx) d.provider.Sends := by
  apply OnlyAsks.bind
  · apply onlyAsks_requestLoop
    exact .inl rfl
  · intro code
    cases code with
    | error | ok => exact onlyAsks_pure _ _

theorem GitHubDeviceFlow.verify_sends (d : GitHubDeviceFlow) (ctx : Context) :
    OnlyAsks (d.verify ctx) d.provider.Sends := by
  apply OnlyAsks.bind
  · apply onlyAsks_requestLoop
    exact .inr (.inl ⟨_, rfl⟩)
  · intro token
    apply OnlyAsks.bind (d.identify_sends ctx _ _ _ _)
    intro verified
    exact onlyAsks_pure _ _

theorem GitHubProvider.quiet_of_sends {p : GitHubProvider} {α : Type}
    {m : OAuth2 α} (hm : OnlyAsks m p.Sends) : Quiet m := by
  apply OnlyAsks.mono hm
  intro r hr
  cases r with
  | challenge => exact hr.elim
  | newClient | http => rfl

theorem GitHubProvider.provider_isQuiet (p : GitHubProvider) : p.provider.IsQuiet where
  getDeviceFlow metadata := by
    apply quiet_of_sends
    apply OnlyAsks.bind p.createFlow_sends
    intro err
    cases err <;> exact onlyAsks_pure _ _
  deviceAuthorizationURL flow :=
    quiet_of_sends (GitHubDeviceFlow.getAuthorizationURL_sends flow .todo)
  deviceVerify flow := quiet_of_sends (GitHubDeviceFlow.verify_sends flow .timeout)
  deviceDeauthorize flow := by
    apply quiet_of_sends
    apply OnlyAsks.bind (GitHubFlow.deauthorize_sends _ .todo)
    intro g
    exact onlyAsks_pure _ _
  getAuthorizationCodeFlow metadata := by
    apply quiet_of_sends
    apply OnlyAsks.bind p.createFlow_sends
    intro err
    cases err <;> exact onlyAsks_pure _ _
  verify flow state code := quiet_of_sends (GitHubAuthorizationCodeFlow.verify_sends flow .todo _ _)

end Sends

end ContainerSSH
