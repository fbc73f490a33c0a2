/-
The client of the authentication and authorization webhooks.
-/
import ContainerSSH.Dialogue
import ContainerSSH.Kerberos

namespace ContainerSSH

def authenticationTypePublicKey : String := "pubkey"
def authenticationTypeAuthz : String := "authz"

/-- The bodies of the requests.  The password is sent in base64. -/
inductive AuthRequestBody where
  | password (metadata : ConnectionAuthPendingMetadata) (password : List UInt8)
  | publicKey (metadata : ConnectionAuthPendingMetadata) (publicKey : String)
  | authorization (metadata : ConnectionAuthenticatedMetadata)

structure WebhookRequest where
  url : String
  body : AuthRequestBody

structure AuthResponseBody extends ConnectionAuthenticatedMetadata where
  success : Bool

structure WebhookReply where
  statusCode : Int
  err : Option GoError := none
  response : AuthResponseBody
  timeUp : Bool := false

abbrev Webhook : Type → Type := Dialogue WebhookRequest fun _ => WebhookReply

def postError (err : Option GoError) (statusCode : Int)
    (invalidStatus : GoError) : Option GoError :=
  match err with
  | some err => some err
  | none => if statusCode ≠ 200 then some invalidStatus else none

structure WebhookClientContext where
  metadata : ConnectionAuthenticatedMetadata
  success : Bool
  err : Option GoError

structure WebhookClient where
  endpoint : String := ""
  enablePassword : Bool
  enablePubKey : Bool
  enableAuthz : Bool

def newWebhookClient (authType : String) : WebhookClient where
  enablePassword := authType = authenticationTypePassword ∨ authType = authenticationTypeAll
  enablePubKey := authType = authenticationTypePublicKey ∨ authType = authenticationTypeAll
  enableAuthz := authType = authenticationTypeAuthz ∨ authType = authenticationTypeAll

namespace WebhookReply

variable (reply : WebhookReply)

def authServerRequest : Option GoError :=
  postError reply.err reply.statusCode
    (userMessage "AUTH_INVALID_STATUS" "Cannot authenticate at this time."
      ("auth server responded with an invalid status code: " ++ toString reply.statusCode))

def conclude (metadata : ConnectionAuthPendingMetadata) (giveUp : String) :
    Except GoError AuthResponseBody → WebhookClientContext
  | .ok response =>
    ⟨(metadata.authenticated "").merge
      response.toConnectionAuthenticatedMetadata, response.success, none⟩
  | .error lastError =>
    ⟨metadata.authFailed, false, some (wrapMessage lastError "AUTH_BACKEND_ERROR" giveUp)⟩

def receive (metadata : ConnectionAuthPendingMetadata) (giveUp : String) :
    Dialogue.Verdict Unit WebhookClientContext :=
  match reply.authServerRequest with
  | none => .finish (conclude metadata giveUp (.ok reply.response))
  | some lastError =>
    if reply.timeUp then .finish (conclude metadata giveUp (.error lastError))
    else .again ()

end WebhookReply

namespace WebhookClient

def processAuthWithRetry (metadata : ConnectionAuthPendingMetadata)
    (method : String) (authRequest : WebhookRequest) :
    Webhook WebhookClientContext :=
  Dialogue.retry authRequest (fun _ reply => reply.receive metadata
      ("Backend request for " ++ method.toLower ++ " authentication failed, giving up")) ()

def processAuthzWithRetry (metadata : ConnectionAuthenticatedMetadata)
    (authzRequest : WebhookRequest) : Webhook WebhookClientContext :=
  Dialogue.retry authzRequest (fun _ reply => reply.receive metadata.toConnectionAuthPendingMetadata
      "Backend request for authorization failed, giving up") ()

def disabled (metadata : ConnectionAuthPendingMetadata)
    (user explanation : String) : WebhookClientContext :=
  ⟨metadata.authFailed, false, some (userMessage "AUTH_DISABLED" user explanation)⟩

variable (client : WebhookClient)

def authzRequest (metadata : ConnectionAuthenticatedMetadata) :
    WebhookRequest :=
  ⟨client.endpoint ++ "/authz", .authorization metadata⟩

def authorize (metadata : ConnectionAuthenticatedMetadata) :
    Webhook WebhookClientContext :=
  if client.enableAuthz = false then
    pure (disabled metadata.toConnectionAuthPendingMetadata
      "Authorization failed." "Authorization is disabled.")
  else processAuthzWithRetry metadata (client.authzRequest metadata)

def password (metadata : ConnectionAuthPendingMetadata)
    (password : List UInt8) : Webhook WebhookClientContext :=
  if client.enablePassword = false then
    pure (disabled metadata "Password authentication failed."
      "Password authentication is disabled.")
  else
    processAuthWithRetry metadata "Password"
      ⟨client.endpoint ++ "/password", .password metadata password⟩

def pubKey (metadata : ConnectionAuthPendingMetadata) (pubKey : String) :
    Webhook WebhookClientContext :=
  if client.enablePubKey = false then
    pure (disabled metadata "Public key authentication failed."
      "Public key authentication is disabled.")
  else
    processAuthWithRetry metadata "Public key"
      ⟨client.endpoint ++ "/pubkey", .publicKey metadata pubKey⟩

end WebhookClient

namespace WebhookReply

variable (metadata : ConnectionAuthPendingMetadata) (giveUp : String)

def finalAnswer : List WebhookReply → Option (Except GoError AuthResponseBody)
  | [] => none
  | reply :: rest =>
    match reply.authServerRequest with
    | none => some (.ok reply.response)
    | some lastError => if reply.timeUp then some (.error lastError) else finalAnswer rest

theorem attempts_receive (replies : List WebhookReply) :
    Dialogue.attempts (fun _ reply => reply.receive metadata giveUp) ()
      replies = (finalAnswer replies).map (conclude metadata giveUp) := by
  induction replies with
  | nil => rfl
  | cons reply rest ih =>
    cases hrequest : reply.authServerRequest with
    | none => simp [Dialogue.attempts, receive, finalAnswer, hrequest]
    | some =>
      cases htime : reply.timeUp with
      | false =>
        have hagain : reply.receive metadata giveUp = .again () := by
          simp [receive, hrequest, htime]
        rw [Dialogue.attempts_cons_of_again hagain, ih]
        simp [finalAnswer, hrequest, htime]
      | true => simp [Dialogue.attempts, receive, finalAnswer, hrequest, htime]

end WebhookReply

namespace WebhookClient

open ConnectionAuthenticatedMetadata (overrideName)

variable (client : WebhookClient)

theorem answer_processAuthWithRetry (metadata : ConnectionAuthPendingMetadata)
    (method : String) (authRequest : WebhookRequest)
    (replies : Nat → WebhookRequest → WebhookReply) (n : Nat) :
    Dialogue.answer (processAuthWithRetry metadata method authRequest) replies n =
      (WebhookReply.finalAnswer (Dialogue.upcoming replies authRequest n)).map
        (WebhookReply.conclude metadata ("Backend request for " ++ method.toLower ++
            " authentication failed, giving up")) := by
  rw [processAuthWithRetry, Dialogue.answer_retry]
  exact WebhookReply.attempts_receive _ _ _

theorem answer_authorize {client : WebhookClient} (henabled : client.enableAuthz = true)
    (a : ConnectionAuthenticatedMetadata)
    (replies : Nat → WebhookRequest → WebhookReply) (n : Nat) :
    Dialogue.answer (client.authorize a) replies n = (WebhookReply.finalAnswer
        (Dialogue.upcoming replies (client.authzRequest a) n)).map
        (WebhookReply.conclude a.toConnectionAuthPendingMetadata
          "Backend request for authorization failed, giving up") := by
  rw [authorize, if_neg (by simp [henabled]), processAuthzWithRetry, Dialogue.answer_retry]
  exact WebhookReply.attempts_receive _ _ _

theorem conclude_authenticatedUsername (metadata : ConnectionAuthPendingMetadata) (giveUp : String)
    (response : AuthResponseBody) : (WebhookReply.conclude metadata giveUp
      (.ok response)).metadata.authenticatedUsername =
      response.authenticatedUsername := by
  rw [WebhookReply.conclude, ConnectionAuthenticatedMetadata.merge_authenticatedUsername]
  exact ConnectionAuthenticatedMetadata.overrideName_empty _

/-- The final answer decides, and without one there is no success.  A user name
in the answer is taken over; the user of the authentication is kept when the
answer does not repeat it only if there was none. -/
theorem authorize_preserves_user_iff (client : WebhookClient) (henabled : client.enableAuthz = true)
    (a : ConnectionAuthenticatedMetadata)
    (replies : Nat → WebhookRequest → WebhookReply) (n : Nat) : (∀ r, WebhookReply.finalAnswer
        (Dialogue.upcoming replies (client.authzRequest a) n) = some (.ok r) →
      ∃ context, Dialogue.answer (client.authorize a) replies n =
          some context ∧ context.success = r.success ∧ (context.metadata.authenticatedUsername =
          overrideName a.authenticatedUsername r.authenticatedUsername ↔
          r.authenticatedUsername ≠ "" ∨ a.authenticatedUsername = "")) ∧
    (∀ err, WebhookReply.finalAnswer (Dialogue.upcoming replies (client.authzRequest a) n) =
          some (.error err) → ∃ context, Dialogue.answer (client.authorize a) replies n =
        some context ∧ context.success = false) ∧ (WebhookReply.finalAnswer
        (Dialogue.upcoming replies (client.authzRequest a) n) = none →
      Dialogue.answer (client.authorize a) replies n = none) := by
  rw [answer_authorize henabled]
  refine ⟨fun r hfinal => ?_, fun err hfinal => ?_, fun hfinal => ?_⟩
  · rw [hfinal]
    refine ⟨_, rfl, rfl, ?_⟩
    rw [conclude_authenticatedUsername]
    exact ConnectionAuthenticatedMetadata.overrideName_eq_right_iff _ _
  · rw [hfinal]
    exact ⟨_, rfl, rfl⟩
  · rw [hfinal]
    rfl

def authzClient : WebhookClient := newWebhookClient authenticationTypeAuthz

def kerberosLogin : ConnectionAuthenticatedMetadata :=
  (newTestMetadata.startAuthentication "SSH-2.0-FooSSH" "foo").authenticated "foo@EXAMPLE.COM"

def allowsSecond (username : String) (left : Nat) (_ : WebhookRequest) : WebhookReply where
  statusCode := if left = 0 then 200 else 503
  response :=
    { newTestMetadata with
      clientVersion := ""
      username := ""
      authenticatedUsername := username
      success := decide (left = 0) }

theorem authorize_takes_user_over : authzClient.enableAuthz = true ∧
      ∃ context, Dialogue.answer (authzClient.authorize kerberosLogin)
          (allowsSecond "foo") 2 = some context ∧ context.success = true ∧
        (context.metadata.authenticatedUsername =
          overrideName kerberosLogin.authenticatedUsername "foo" ↔
          "foo" ≠ "" ∨ kerberosLogin.authenticatedUsername = "") :=
  ⟨rfl, (authorize_preserves_user_iff authzClient rfl kerberosLogin (allowsSecond "foo") 2).1 _ rfl⟩

theorem authorize_drops_user : ∃ context, Dialogue.answer (authzClient.authorize kerberosLogin)
        (allowsSecond "") 2 = some context ∧ context.success = true ∧
      context.metadata.authenticatedUsername = "" ∧ context.metadata.authenticatedUsername ≠
        overrideName kerberosLogin.authenticatedUsername "" :=
  ⟨_, rfl, rfl, rfl, by decide⟩

end WebhookClient

end ContainerSSH
