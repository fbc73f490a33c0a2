/-
Keyboard-interactive login with OAuth2.
-/
import ContainerSSH.AuthHandlers
import ContainerSSH.Dialogue

namespace ContainerSSH

inductive JsonValue where
  | null
  | bool (b : Bool)
  | number (n : Int)
  | string (s : String)
  | other
deriving DecidableEq

inductive Authorization where
  | none
  | bearer (token : String)
  | basic (clientID clientSecret : String)

structure HttpRequest where
  method : String
  base : String
  path : String := ""
  authorization : Authorization := .none
  form : List (String × String) := []

structure HttpReply where
  statusCode : Int
  err : Option GoError := none
  body : List (String × JsonValue) := []
  timeUp : Bool := false

namespace HttpReply

variable (reply : HttpReply)

def stringOr (name old : String) : String :=
  match reply.body.lookup name with
  | some (.string s) => s
  | _ => old

def string (name : String) : String := reply.stringOr name ""

def nat (name : String) : Nat :=
  match reply.body.lookup name with
  | some (.number n) => n.toNat
  | _ => 0

def bool? (name : String) : Option Bool :=
  match reply.body.lookup name with
  | some (.bool b) => some b
  | _ => none

end HttpReply

inductive OAuth2Request where
  | challenge (instruction : String) (questions : List KeyboardInteractiveQuestion)
  | newClient (base : String) (authorization : Authorization)
  | http (request : HttpRequest)

def OAuth2Request.Reply : OAuth2Request → Type
  | .challenge _ _ => Except GoError (List (String × String))
  | .newClient _ _ => Option GoError
  | .http _ => HttpReply

abbrev OAuth2Exchange : Type := Exchange OAuth2Request OAuth2Request.Reply

abbrev OAuth2 : Type → Type := Dialogue OAuth2Request OAuth2Request.Reply

def challenge (instruction : String)
    (questions : List KeyboardInteractiveQuestion) :
    OAuth2 (Except GoError (List (String × String))) :=
  Dialogue.ask (OAuth2Request.challenge instruction questions)

def newClient (base : String) (authorization : Authorization) : OAuth2 (Option GoError) :=
  Dialogue.ask (OAuth2Request.newClient base authorization)

def request (r : HttpRequest) : OAuth2 HttpReply := Dialogue.ask (OAuth2Request.http r)

/-! Every retry of the providers is a loop that makes the same request. -/

section RequestLoop

variable {σ α : Type} {r : HttpRequest} (receive : σ → HttpReply → Dialogue.Verdict σ α) (s : σ)

theorem onlyAsks_requestLoop {p : OAuth2Request → Prop} (hr : p (.http r)) : Dialogue.OnlyAsks
      (Dialogue.loop (fun s => do
        let reply ← request r
        pure (receive s reply)) s) p := by
  apply Dialogue.OnlyAsks.loop
  intro s
  apply Dialogue.OnlyAsks.bind (Dialogue.onlyAsks_ask hr)
  intro reply
  exact Dialogue.onlyAsks_pure _ p

theorem begins_requestLoop : Dialogue.Begins (Dialogue.loop (fun s => do
        let reply ← request r
        pure (receive s reply)) s) (.http r) := by
  apply Dialogue.Begins.loop
  apply Dialogue.Begins.bind
  exact Dialogue.begins_ask _

theorem returns_requestLoop : Dialogue.Returns (Dialogue.loop (fun s => do
        let reply ← request r
        pure (receive s reply)) s)
      fun log a => ∃ s reply, ⟨.http r, some reply⟩ ∈ log ∧ receive s reply = .finish a := by
  apply Dialogue.returns_loop (fun _ _ => True) trivial
  intro log s _
  apply Dialogue.Returns.bind (Q := fun later reply =>
    ⟨.http r, some reply⟩ ∈ later)
  · apply Dialogue.returns_ask
    simp
  · intro later reply hreply
    apply Dialogue.returns_pure
    cases hverdict : receive s reply with
    | again => trivial
    | finish =>
      refine ⟨s, reply, ?_, hverdict⟩
      simp [hreply]

end RequestLoop

inductive Context where
  | todo
  | timeout
deriving DecidableEq

def Context.done (ctx : Context) (reply : HttpReply) : Bool :=
  match ctx with
  | .todo => false
  | .timeout => reply.timeUp

structure UrlLibrary where
  parse : String → Option GoError
  text : String → Option String → List (String × String) → String

def wrapUserErr (cause : Option GoError) (code user explanation : String) :
    GoError :=
  match cause with
  | some cause => wrapUser cause code user explanation
  | none => userMessage code user (explanation ++ " (<nil>)")

def wrapErr (cause : Option GoError) (code explanation : String) : GoError :=
  wrapUserErr cause code "Internal Error" explanation

def ConnectionAuthPendingMetadata.setMetadata
    (c : ConnectionAuthPendingMetadata)
    (entries : List (String × MetadataValue)) : ConnectionAuthPendingMetadata :=
  { c with
    metadata := some (entries.foldl (fun m entry => entry :: m.filter fun old => old.1 ≠ entry.1)
      (c.metadata.getD [])) }

structure Verified where
  accessToken : String
  metadata : ConnectionAuthenticatedMetadata
  err : Option GoError

structure DeviceAuthorization where
  verificationLink : String
  userCode : String
  expiration : Nat

/-! ### The device flow

The two device flows read the answers of their servers in the same way. -/

structure DeviceCode where
  interval : Nat
  deviceCode : String
  authorization : DeviceAuthorization

def receiveDeviceCode (ctx : Context) (server : String)
    (link : HttpReply → String) (reply : HttpReply) :
    Dialogue.Verdict Unit (Except GoError DeviceCode) :=
  let error := reply.string "error"
  let errorDescription := reply.string "error_description"
  let lastError :=
    if reply.err = none then
      some (userMessage "AUTH_OAUTH2_DEVICE_CODE_REQUEST_FAILED" "Cannot authenticate at this time."
        ("Non-200 status code from " ++ server ++ " device code API (" ++
          toString reply.statusCode ++ "; " ++ error ++ "; " ++ errorDescription ++ ")."))
    else reply.err
  if reply.err = none ∧ reply.statusCode = 200 then
    .finish (.ok ⟨reply.nat "interval", reply.string "device_code",
      ⟨link reply, reply.string "user_code", reply.nat "expires_in"⟩⟩)
  else if reply.err = none ∧ error = "slow_down" then
    .finish (.error (userMessage "GITHUB_DEVICE_AUTHORIZATION_LIMIT"
      "Cannot authenticate at this time."
      ("GitHub device authorization limit reached (" ++ errorDescription ++ ").")))
  else if ctx.done reply then
    .finish (.error (wrapUserErr lastError "AUTH_OAUTH2_TIMEOUT" "Cannot authenticate at this time."
      ("Timeout while trying to obtain a " ++ server ++ " device code.")))
  else .again ()

def accessTokenError (reply : HttpReply) : GoError :=
  userMessage "GITHUB_ACCESS_TOKEN_FETCH_FAILED" "Cannot authenticate at this time."
    ("Non-200 status code from GitHub access token API (" ++
      toString reply.statusCode ++ "; " ++ reply.string "error" ++ "; " ++
      reply.string "error_description" ++ ").")

def awaitToken (ctx : Context) (reply : HttpReply)
    (lastError : Option GoError) :
    Dialogue.Verdict Unit (String × Option GoError) :=
  if ctx.done reply then
    .finish ("", some (wrapUserErr lastError "AUTH_OAUTH2_TIMEOUT"
      "Timeout while trying to obtain GitHub authentication data."
      "Timeout while trying to obtain GitHub authentication data."))
  else .again ()

def receiveDeviceToken (ctx : Context) (interval : Nat)
    (rateLimited : HttpReply → Bool) (checkScopes : String → Option GoError)
    (reply : HttpReply) : Dialogue.Verdict Unit (String × Option GoError) :=
  let error := reply.string "error"
  if reply.statusCode ≠ 200 then
    if error = "authorization_pending" then
      awaitToken ctx reply (some (newMessage "AUTH_OAUTH2_AUTHORIZATION_PENDING"
          ("User authorization still pending, retrying in " ++
            toString (interval * 1000000000) ++ " seconds.")))
    else awaitToken ctx reply (some (accessTokenError reply))
  else if reply.err ≠ none then awaitToken ctx reply reply.err
  else if error = "authorization_pending" then
    awaitToken ctx reply (some (userMessage "AUTH_OAUTH2_AUTHORIZATION_PENDING"
        "Authentication is still pending." "The user hasn't completed the authentication process."))
  else if error = "slow_down" ∧ rateLimited reply then
    .finish ("", some (userMessage "OAUTH_DEVICE_FLOW_RATE_LIMIT_EXCEEDED"
      "Cannot authenticate at this time. Please try again later."
      "Rate limit for device flow exceeded, attempting authorization code flow."))
  else if error = "expired_token" then
    .finish ("", some (.plain "BUG: expired token during device flow authentication"))
  else if error = "unsupported_grant_type" then
    .finish ("", some (.plain
      "BUG: unsupported grant type error while trying device authorization"))
  else if error = "incorrect_client_credentials" then
    .finish ("", some (userMessage "OAUTH_INCORRECT_CLIENT_CREDENTIALS"
      "GitHub authentication failed" "User entered incorrect device code"))
  else if error = "incorrect_device_code" then
    .finish ("", some (userMessage "AUTH_FAILED"
      "GitHub authentication failed" "User entered incorrect device code"))
  else if error = "access_denied" then
    .finish ("", some (userMessage "AUTH_FAILED"
      "GitHub authentication failed" "User canceled GitHub authentication"))
  else if error = "" then .finish (reply.string "access_token", checkScopes (reply.string "scope"))
  else awaitToken ctx reply none

/-! ### The keyboard-interactive login -/

structure OAuth2Provider where
  DeviceFlow : Type
  CodeFlow : Type
  supportsDeviceFlow : Bool
  getDeviceFlow : ConnectionAuthPendingMetadata → OAuth2 (Except GoError DeviceFlow)
  deviceAuthorizationURL : DeviceFlow → OAuth2 (DeviceFlow × Except GoError DeviceAuthorization)
  deviceVerify : DeviceFlow → OAuth2 (DeviceFlow × Verified)
  deviceDeauthorize : DeviceFlow → OAuth2 DeviceFlow
  supportsAuthorizationCodeFlow : Bool
  getAuthorizationCodeFlow : ConnectionAuthPendingMetadata → OAuth2 (Except GoError CodeFlow)
  authorizationURL : CodeFlow → Except GoError String
  verify : CodeFlow → String → String → OAuth2 (CodeFlow × Verified)

structure OAuth2Context where
  success : Bool
  metadata : ConnectionAuthenticatedMetadata
  err : Option GoError

def Verified.context (v : Verified) : OAuth2Context := ⟨v.err.isNone, v.metadata, v.err⟩

def splitCode (code : String) : Option (String × String) :=
  match code.toList.dropWhile (· ≠ '|') with
  | [] => none
  | _ :: rest => some (String.ofList (code.toList.takeWhile (· ≠ '|')), String.ofList rest)

def codeQuestions : List KeyboardInteractiveQuestion :=
  [{ id := "code"
     question := "Please paste the received code: "
     echoResponse := false }]

namespace OAuth2Provider

variable (p : OAuth2Provider) (metadata : ConnectionAuthPendingMetadata)

def deviceLogin : OAuth2 (Option OAuth2Context) := do
  if p.supportsDeviceFlow then
    match ← p.getDeviceFlow metadata with
    | .error _ => pure none
    | .ok flow =>
      match ← p.deviceAuthorizationURL flow with
      | (_, .error _) => pure none
      | (flow, .ok device) =>
        match ← challenge
            ("Please click the following link: " ++ device.verificationLink ++
              "\n\nEnter the following code: " ++ device.userCode ++ "\n")
            [] with
        | .error err => pure (some ⟨false, metadata.authFailed, some err⟩)
        | .ok _ =>
          let (flow, verified) ← p.deviceVerify flow
          if verified.err.isSome then
            let _ ← p.deviceDeauthorize flow
            pure (some verified.context)
          else pure (some verified.context)
  else pure none

def verifyAnswer (flow : p.CodeFlow) (answers : List (String × String)) :
    OAuth2 OAuth2Context := do
  match answers.lookup "code" with
  | none => pure ⟨false, metadata.authFailed, none⟩
  | some code =>
    match splitCode code with
    | none =>
      pure ⟨false, metadata.authFailed, some (userMessage "AUTH_FAILED" "Authentication failed."
          "Authentication failed because the return code did not contain the requisite state and code.")⟩
    | some (state, authorizationCode) =>
      let (_, verified) ← p.verify flow state authorizationCode
      pure verified.context

def codeLogin : OAuth2 OAuth2Context := do
  let unavailable : OAuth2Context :=
    ⟨false, metadata.authFailed, some (wrapUserErr none "AUTH_FAILED" "Authentication failed."
        "Authentication failed.")⟩
  if p.supportsAuthorizationCodeFlow then
    match ← p.getAuthorizationCodeFlow metadata with
    | .error _ => pure unavailable
    | .ok flow =>
      match p.authorizationURL flow with
      | .error _ => pure unavailable
      | .ok link =>
        match ← challenge
            ("Please click the following link to log in: " ++ link ++ "\n\n") codeQuestions with
        | .error err => pure ⟨false, metadata.authFailed, some err⟩
        | .ok answers => p.verifyAnswer metadata flow answers
  else pure unavailable

def keyboardInteractive : OAuth2 OAuth2Context := do
  match ← p.deviceLogin metadata with
  | some context => pure context
  | none => p.codeLogin metadata

end OAuth2Provider

/-! ### Who talks to the user -/

def OAuth2Request.isChallenge : OAuth2Request → Bool
  | .challenge _ _ => true
  | _ => false

abbrev Quiet {α : Type} (m : OAuth2 α) : Prop := Dialogue.OnlyAsks m fun r => r.isChallenge = false

structure OAuth2Provider.IsQuiet (p : OAuth2Provider) : Prop where
  getDeviceFlow : ∀ metadata, Quiet (p.getDeviceFlow metadata)
  deviceAuthorizationURL : ∀ flow, Quiet (p.deviceAuthorizationURL flow)
  deviceVerify : ∀ flow, Quiet (p.deviceVerify flow)
  deviceDeauthorize : ∀ flow, Quiet (p.deviceDeauthorize flow)
  getAuthorizationCodeFlow : ∀ metadata, Quiet (p.getAuthorizationCodeFlow metadata)
  verify : ∀ flow state code, Quiet (p.verify flow state code)

end ContainerSSH
