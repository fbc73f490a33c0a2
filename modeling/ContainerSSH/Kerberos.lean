/-
Kerberos authentication contexts.
-/
import ContainerSSH.AuthHandlers
import Mathlib.Data.List.Basic

namespace ContainerSSH

structure AuthKerberosClientConfig where
  credentialCachePath : String := "/tmp/krb5cc"
  enforceUsername : Bool := true

def authenticationTypeAll : String := ""
def authenticationTypePassword : String := "password"
def authenticationTypeGSSAPI : String := "gssapi"

structure KerberosAuthClient where
  config : AuthKerberosClientConfig
  authType : String

structure KerberosAuthContext where
  client : Option KerberosAuthClient
  connectionId : String
  remoteAddr : List UInt8
  key : List UInt8 := []
  principalUsername : String := ""
  loginUsername : String := ""
  credentials : Option (List UInt8) := none
  storedMetadata : ConnectionAuthenticatedMetadata := .zero
  success : Bool := false
  err : Option GoError := none

def KerberosAuthClient.gssapi (c : KerberosAuthClient)
    (metadata : ConnectionMetadata) : KerberosAuthContext :=
  if c.authType ≠ authenticationTypeGSSAPI ∧
      c.authType ≠ authenticationTypeAll then
    { client := none
      connectionId := metadata.connectionID
      remoteAddr := metadata.remoteAddress.ip
      err := some (.plain
        "authentication urlEncodedClient not configured for GSSAPI authentication") }
  else
    { client := some c
      connectionId := metadata.connectionID
      remoteAddr := metadata.remoteAddress.ip }

structure TokenReading where
  unmarshal : Option GoError
  verified : Bool
  principal : String
  apReqVerify : Except GoError Bool
  subKey : List UInt8
  newAPRep : Option GoError
  marshalAPRep : Except GoError (List UInt8)
  credDelegation : Except GoError Bool
  unmarshalCred : Option GoError
  decryptCred : Option GoError
  toCredentials : Option GoError
  marshalCache : Except GoError (List UInt8)

structure GSSAPIMicField where
  sessionIdentifier : String
  request : UInt8
  userName : String
  service : String
  method : String

structure MicReading where
  unmarshal : Option GoError
  verify : List UInt8 → Except GoError Bool
  field : Except GoError GSSAPIMicField

def MicReading.userName? (r : MicReading) : Option String :=
  match r.field with
  | .ok field => some field.userName
  | .error _ => none

structure SecContextResult where
  outputToken : List UInt8 := []
  srcName : String := ""
  needContinue : Bool := false
  err : Option GoError := none

def kerberosVerificationFailed (cause : GoError) (explanation : String) :
    GoError :=
  wrapMessage cause "KRB_VERIFY_ERROR" explanation

namespace KerberosAuthContext

variable (k : KerberosAuthContext)

def acceptDelegation (r : TokenReading) (output : List UInt8) :
    KerberosAuthContext × SecContextResult :=
  let accepted : SecContextResult := { outputToken := output, srcName := k.principalUsername }
  match r.credDelegation, r.unmarshalCred with
  | .ok true, none =>
    match r.decryptCred, r.toCredentials, r.marshalCache with
    | some err, _, _ => (k, { err := some err })
    | none, some err, _ => (k, { err := some err })
    | none, none, .error err => (k, { err := some err })
    | none, none, .ok cache => ({ k with credentials := some cache }, accepted)
  | _, _ => (k, accepted)

def acceptAPReq (r : TokenReading) : KerberosAuthContext × SecContextResult :=
  let k := { k with key := r.subKey }
  match r.newAPRep, r.marshalAPRep with
  | some err, _ =>
    (k, { err := some (kerberosVerificationFailed err "Failed to generate an AP_REP packet") })
  | none, .error err =>
    (k, { err := some (kerberosVerificationFailed err "Failed to marshal the AP_REP packet") })
  | none, .ok output => k.acceptDelegation r output

def acceptVerified (r : TokenReading) : KerberosAuthContext × SecContextResult :=
  let k := { k with principalUsername := r.principal }
  match r.apReqVerify with
  | .error err =>
    (k, { err := some (kerberosVerificationFailed err
      "Failed to verify the AP_REQ packet (is the acceptor correct?)") })
  | .ok false =>
    (k, { err := some (newMessage "KRB_VERIFY_ERROR" "Couldn't verify AP_REQ packet (<nil>)") })
  | .ok true => k.acceptAPReq r

def acceptSecContext (r : TokenReading) :
    Except NilDereference (KerberosAuthContext × SecContextResult) :=
  match r.unmarshal, k.client with
  | some err, _ =>
    .ok (k, { err := some (kerberosVerificationFailed err
      "Failed to unmarshal the initial KRB token") })
  | none, none => .error .client
  | none, some _ =>
    if r.verified then .ok (k.acceptVerified r)
    else .ok (k, { err := some (.plain "invalid token") })

def checkMicField (field : GSSAPIMicField) :
    Except NilDereference (KerberosAuthContext × Option GoError) :=
  if field.request ≠ 50 ∨ field.service ≠ "ssh-connection" ∨
      field.method ≠ "gssapi-with-mic" then
    .ok (k, some (newMessage "KRB_VERIFY_ERROR" "Received MIC packet with unexpected values"))
  else
    match k.client with
    | none => .error .client
    | some client =>
      if client.config.enforceUsername ∧
          field.userName ≠ k.principalUsername then
        .ok (k, some (userMessage "KRB_VERIFY_ERROR" "Unable to login with the requested username"
          ("Cannot login to account " ++ field.userName ++
            " using principal " ++ k.principalUsername)))
      else .ok ({ k with loginUsername := field.userName, success := true }, none)

def verifyMIC (r : MicReading) : Except NilDereference (KerberosAuthContext × Option GoError) :=
  match r.unmarshal, r.verify k.key, r.field with
  | some err, _, _ => .ok (k, some err)
  | none, .error err, _ => .ok (k, some err)
  | none, .ok false, _ =>
    .ok (k, some (newMessage "KRB_VERIFY_ERROR" "Verify() returned unverified but no error"))
  | none, .ok true, .error err => .ok (k, some err)
  | none, .ok true, .ok field => k.checkMicField field

def allowLogin (username : String)
    (metadata : ConnectionAuthPendingMetadata) :
    Except NilDereference (ConnectionAuthenticatedMetadata × Option GoError) :=
  if k.success = false then .ok (metadata.authFailed, none)
  else if k.loginUsername ≠ username then .ok (metadata.authFailed, none)
  else
    match k.client with
    | none => .error .client
    | some client =>
      if client.config.enforceUsername ∧ username ≠ k.principalUsername then
        .ok (metadata.authFailed, none)
      else .ok (metadata.authenticated username, none)

def metadata : ConnectionAuthenticatedMetadata :=
  match k.client, k.credentials with
  | some client, some credentials =>
    let path := client.config.credentialCachePath
    if path ≠ "" then
      { k.storedMetadata with
        files := some (assign path ⟨credentials, true⟩ (k.storedMetadata.files.getD []))
        environment := some (assign "KRB5CCNAME" ⟨"FILE:" ++ path, false⟩
          (k.storedMetadata.environment.getD [])) }
    else k.storedMetadata
  | _, _ => k.storedMetadata

end KerberosAuthContext

structure PasswordReading where
  login : Option GoError
  getCCache : Option GoError
  marshalCache : Except GoError (List UInt8)

def KerberosAuthClient.passwordContext (c : KerberosAuthClient)
    (metadata : ConnectionAuthPendingMetadata) (r : PasswordReading) :
    Except GoError KerberosAuthContext :=
  if c.authType ≠ authenticationTypePassword ∧
      c.authType ≠ authenticationTypeAll then
    .error (.plain "authentication urlEncodedClient not configured for password authentication")
  else
    match r.login, r.getCCache, r.marshalCache with
    | some err, _, _ => .error err
    | none, some err, _ => .error err
    | none, none, .error err => .error err
    | none, none, .ok cache =>
      .ok { client := some c
            connectionId := metadata.connectionID
            remoteAddr := metadata.remoteAddress.ip
            principalUsername := metadata.username
            loginUsername := metadata.username
            credentials := some cache
            success := true }

structure KerberosPasswordAuthContext extends KerberosAuthContext where
  passwordMetadata : ConnectionAuthenticatedMetadata

inductive KerberosPasswordResult where
  | failed (context : KerberosAuthContext)
  | allowed (context : KerberosPasswordAuthContext)

def KerberosPasswordResult.context : KerberosPasswordResult → KerberosAuthContext
  | failed context => context
  | allowed context => context.toKerberosAuthContext

def KerberosAuthClient.password (c : KerberosAuthClient)
    (metadata : ConnectionAuthPendingMetadata) (r : PasswordReading) :
    Except NilDereference KerberosPasswordResult :=
  match c.passwordContext metadata r with
  | .error err =>
    if c.authType ≠ authenticationTypePassword ∧
        c.authType ≠ authenticationTypeAll then
      .ok (.failed
        { client := none
          connectionId := ""
          remoteAddr := []
          storedMetadata := metadata.authFailed
          err := some err })
    else
      .ok (.failed
        { client := some c, connectionId := "", remoteAddr := []
          err := some err })
  | .ok context =>
    match context.allowLogin metadata.username metadata with
    | .error crash => .error crash
    | .ok (_, some err) =>
      .ok (.failed
        { client := some c, connectionId := "", remoteAddr := []
          err := some err })
    | .ok (authMeta, none) =>
      .ok (.allowed { toKerberosAuthContext := context
                      passwordMetadata := authMeta })

inductive KerberosEvent where
  | acceptSecContext (r : TokenReading)
  | verifyMIC (r : MicReading)
  | deleteSecContext

namespace KerberosAuthContext

def serve (k : KerberosAuthContext) : KerberosEvent →
    Except NilDereference (KerberosAuthContext × Option String)
  | .acceptSecContext r => do
      let (k, _) ← k.acceptSecContext r
      .ok (k, none)
  | .verifyMIC r => do
      let (k, err) ← k.verifyMIC r
      match err with
      | some _ => .ok (k, none)
      | none => .ok (k, r.userName?)
  | .deleteSecContext => .ok (k, none)

def serveAll (k : KerberosAuthContext) : List KerberosEvent →
    Except NilDereference (KerberosAuthContext × List String)
  | [] => .ok (k, [])
  | e :: rest => do
      let (k, verified) ← k.serve e
      let (k, later) ← k.serveAll rest
      .ok (k, verified.toList ++ later)

end KerberosAuthContext

def lastPrincipal (start : String) : List KerberosEvent → String
  | [] => start
  | .acceptSecContext r :: rest =>
    lastPrincipal (if r.unmarshal = none ∧ r.verified then r.principal else start) rest
  | _ :: rest => lastPrincipal start rest

def LoginSound (c : KerberosAuthClient) (k : KerberosAuthContext)
    (username : String) (metadata : ConnectionAuthPendingMetadata) : Prop :=
  ∀ authenticated, k.allowLogin username metadata = .ok (authenticated, none) →
    k.success = true ∧ k.loginUsername = username ∧
      (c.config.enforceUsername = true → k.principalUsername = username)

namespace KerberosAuthContext

variable {k next : KerberosAuthContext}

structure SameLogin (k next : KerberosAuthContext) : Prop where
  client : next.client = k.client
  success : next.success = k.success
  loginUsername : next.loginUsername = k.loginUsername

theorem acceptDelegation_frame (k : KerberosAuthContext) (r : TokenReading) (output : List UInt8) :
    SameLogin k (k.acceptDelegation r output).1 ∧
      (k.acceptDelegation r output).1.principalUsername =
        k.principalUsername := by
  unfold acceptDelegation
  split
  · split <;> exact ⟨⟨rfl, rfl, rfl⟩, rfl⟩
  · exact ⟨⟨rfl, rfl, rfl⟩, rfl⟩

theorem acceptAPReq_frame (k : KerberosAuthContext) (r : TokenReading) :
    SameLogin k (k.acceptAPReq r).1 ∧
      (k.acceptAPReq r).1.principalUsername = k.principalUsername := by
  unfold acceptAPReq
  split
  · exact ⟨⟨rfl, rfl, rfl⟩, rfl⟩
  · exact ⟨⟨rfl, rfl, rfl⟩, rfl⟩
  · obtain ⟨⟨hclient, hsuccess, hlogin⟩, hprincipal⟩ :=
      acceptDelegation_frame { k with key := r.subKey } r _
    exact ⟨⟨hclient, hsuccess, hlogin⟩, hprincipal⟩

theorem acceptVerified_frame (k : KerberosAuthContext) (r : TokenReading) :
    SameLogin k (k.acceptVerified r).1 ∧
      (k.acceptVerified r).1.principalUsername = r.principal := by
  unfold acceptVerified
  split
  · exact ⟨⟨rfl, rfl, rfl⟩, rfl⟩
  · exact ⟨⟨rfl, rfl, rfl⟩, rfl⟩
  · obtain ⟨⟨hclient, hsuccess, hlogin⟩, hprincipal⟩ :=
      acceptAPReq_frame { k with principalUsername := r.principal } r
    exact ⟨⟨hclient, hsuccess, hlogin⟩, hprincipal⟩

theorem acceptSecContext_frame {r : TokenReading} {result : SecContextResult}
    (haccept : k.acceptSecContext r = .ok (next, result)) :
    SameLogin k next ∧ next.principalUsername =
      lastPrincipal k.principalUsername [.acceptSecContext r] := by
  unfold acceptSecContext at haccept
  split at haccept
  · rename_i hunmarshal
    obtain ⟨rfl, -⟩ := haccept
    exact ⟨⟨rfl, rfl, rfl⟩, by simp [lastPrincipal, hunmarshal]⟩
  · simp at haccept
  · rename_i hunmarshal _
    by_cases hverified : r.verified = true
    · simp only [hverified, if_true, Except.ok.injEq] at haccept
      obtain ⟨hframe, hprincipal⟩ := acceptVerified_frame k r
      rw [haccept] at hframe hprincipal
      exact ⟨hframe, by simpa [lastPrincipal, hunmarshal, hverified] using hprincipal⟩
    · simp only [hverified] at haccept
      obtain ⟨rfl, -⟩ := haccept
      exact ⟨⟨rfl, rfl, rfl⟩, by simp [lastPrincipal, hverified]⟩

theorem verifyMIC_cases {r : MicReading} {err : Option GoError}
    (hverify : k.verifyMIC r = .ok (next, err)) : (next = k ∧ err ≠ none) ∨
      ∃ userName, r.userName? = some userName ∧ k.client.isSome ∧
        next = { k with loginUsername := userName, success := true } ∧ err = none := by
  have hrejected : ∀ {reason : GoError}, (Except.ok (k, some reason) : Except NilDereference _) =
        .ok (next, err) → next = k ∧ err ≠ none := by
    intro reason heq
    obtain ⟨rfl, rfl⟩ := heq
    simp
  unfold verifyMIC at hverify
  split at hverify
  case h_5 field _ _ hfield =>
    unfold checkMicField at hverify
    split at hverify
    · exact .inl (hrejected hverify)
    · split at hverify
      · simp at hverify
      · rename_i client hclient
        split at hverify
        · exact .inl (hrejected hverify)
        · cases hverify
          exact .inr ⟨field.userName, by simp [MicReading.userName?, hfield],
            by simp [hclient], rfl, rfl⟩
  all_goals exact .inl (hrejected hverify)

structure Tracks (k next : KerberosAuthContext) (verified : List String) :
    Prop where
  client : next.client = k.client
  login : match verified.getLast? with
    | none => next.success = k.success ∧ next.loginUsername = k.loginUsername
    | some userName => k.client.isSome ∧ next.success = true ∧ next.loginUsername = userName

theorem serve_tracks {e : KerberosEvent} {verified : Option String}
    (hserve : k.serve e = .ok (next, verified)) : Tracks k next verified.toList ∧
      next.principalUsername = lastPrincipal k.principalUsername [e] := by
  cases e with
  | acceptSecContext =>
    simp only [serve, bind, Except.bind] at hserve
    split at hserve <;> cases hserve
    next accepted haccept =>
      obtain ⟨⟨hclient, hsuccess, hlogin⟩, hprincipal⟩ := acceptSecContext_frame haccept
      exact ⟨⟨hclient, hsuccess, hlogin⟩, hprincipal⟩
  | verifyMIC =>
    simp only [serve, bind, Except.bind] at hserve
    split at hserve
    · simp at hserve
    · rename_i result hverify
      obtain ⟨after, err⟩ := result
      rcases verifyMIC_cases hverify with
        ⟨rfl, herr⟩ | ⟨userName, huser, hclient, rfl, rfl⟩
      · cases err with
        | none => exact absurd rfl herr
        | some =>
          obtain ⟨rfl, rfl⟩ := hserve
          exact ⟨⟨rfl, rfl, rfl⟩, rfl⟩
      · simp only [huser] at hserve
        obtain ⟨rfl, rfl⟩ := hserve
        exact ⟨⟨rfl, hclient, rfl, rfl⟩, rfl⟩
  | deleteSecContext =>
    obtain ⟨rfl, rfl⟩ := hserve
    exact ⟨⟨rfl, rfl, rfl⟩, rfl⟩

theorem Tracks.trans {final : KerberosAuthContext} {first later : List String}
    (h₁ : Tracks k next first) (h₂ : Tracks next final later) :
    Tracks k final (first ++ later) := by
  refine ⟨h₂.client.trans h₁.client, ?_⟩
  have hlogin₁ := h₁.login
  have hlogin₂ := h₂.login
  rw [List.getLast?_append]
  cases hlater : later.getLast? with
  | some =>
    rw [hlater] at hlogin₂
    exact ⟨h₁.client ▸ hlogin₂.1, hlogin₂.2⟩
  | none =>
    rw [hlater] at hlogin₂
    cases hfirst : first.getLast? with
    | some =>
      rw [hfirst] at hlogin₁
      exact ⟨hlogin₁.1, hlogin₂.1.trans hlogin₁.2.1, hlogin₂.2.trans hlogin₁.2.2⟩
    | none =>
      rw [hfirst] at hlogin₁
      exact ⟨hlogin₂.1.trans hlogin₁.1, hlogin₂.2.trans hlogin₁.2⟩

theorem lastPrincipal_cons (start : String) (e : KerberosEvent) (rest : List KerberosEvent) :
    lastPrincipal start (e :: rest) = lastPrincipal (lastPrincipal start [e]) rest := by
  cases e <;> rfl

theorem serveAll_tracks {events : List KerberosEvent} {verified : List String}
    (hrun : k.serveAll events = .ok (next, verified)) : Tracks k next verified ∧
      next.principalUsername = lastPrincipal k.principalUsername events := by
  induction events generalizing k verified with
  | nil =>
    obtain ⟨rfl, rfl⟩ := hrun
    exact ⟨⟨rfl, rfl, rfl⟩, rfl⟩
  | cons e rest ih =>
    simp only [serveAll, bind, Except.bind] at hrun
    split at hrun
    · simp at hrun
    · rename_i served hserve
      split at hrun
      · simp at hrun
      · rename_i finished hrest
        obtain ⟨rfl, rfl⟩ := hrun
        obtain ⟨htracks, hprincipal⟩ := serve_tracks hserve
        obtain ⟨hlater, hfinal⟩ := ih hrest
        refine ⟨htracks.trans hlater, ?_⟩
        rw [hfinal, hprincipal, ← lastPrincipal_cons]

theorem allowLogin_error_nil (hclient : k.success = true → k.client.isSome)
    (username : String) (metadata : ConnectionAuthPendingMetadata) : ∃ authenticated,
      k.allowLogin username metadata = .ok (authenticated, none) := by
  unfold allowLogin
  split_ifs with hsuccess hlogin
  · exact ⟨_, rfl⟩
  · exact ⟨_, rfl⟩
  · split
    · rename_i hnone
      simp [hnone, hsuccess] at hclient
    · split_ifs <;> exact ⟨_, rfl⟩

theorem loginSound_iff {c : KerberosAuthClient}
    (hclient : k.success = true → k.client.isSome) (username : String)
    (metadata : ConnectionAuthPendingMetadata) : LoginSound c k username metadata ↔
      k.success = true ∧ k.loginUsername = username ∧
        (c.config.enforceUsername = true → k.principalUsername = username) := by
  obtain ⟨authenticated, hallow⟩ := allowLogin_error_nil hclient username metadata
  exact ⟨fun hsound => hsound authenticated hallow, fun hverdict _ _ => hverdict⟩

end KerberosAuthContext

theorem KerberosAuthClient.gssapi_unverified (c : KerberosAuthClient)
    (connection : ConnectionMetadata) : (c.gssapi connection).success = false ∧
      (c.gssapi connection).principalUsername = "" := by
  unfold gssapi
  split_ifs <;> exact ⟨rfl, rfl⟩

/-- The nil error of `AllowLogin` is justified exactly when the last verified
message integrity code carried the requested user and, with enforcement, the
last verified token was of a principal with that name. -/
theorem gssapi_loginSound_iff (c : KerberosAuthClient)
    (connection : ConnectionMetadata) (events : List KerberosEvent)
    (k : KerberosAuthContext) (verified : List String)
    (hrun : (c.gssapi connection).serveAll events = .ok (k, verified))
    (username : String) (metadata : ConnectionAuthPendingMetadata) :
    LoginSound c k username metadata ↔ verified.getLast? = some username ∧
        (c.config.enforceUsername = true → lastPrincipal "" events = username) := by
  obtain ⟨⟨hclient, hlogin⟩, hprincipal⟩ := KerberosAuthContext.serveAll_tracks hrun
  obtain ⟨hfresh, hstart⟩ := c.gssapi_unverified connection
  rw [hstart] at hprincipal
  cases hlast : verified.getLast? with
  | none =>
    rw [hlast] at hlogin
    have hsuccess : k.success = false := hlogin.1.trans hfresh
    rw [KerberosAuthContext.loginSound_iff (by simp [hsuccess])]
    simp [hsuccess]
  | some =>
    rw [hlast] at hlogin
    obtain ⟨hsome, hsuccess, huser⟩ := hlogin
    rw [KerberosAuthContext.loginSound_iff (fun _ => hclient ▸ hsome)]
    simp [hsuccess, huser, hprincipal]

def aliceToken : TokenReading where
  unmarshal := none
  verified := true
  principal := "alice"
  apReqVerify := .ok true
  subKey := [1]
  newAPRep := none
  marshalAPRep := .ok []
  credDelegation := .ok false
  unmarshalCred := none
  decryptCred := none
  toCredentials := none
  marshalCache := .ok []

def aliceMic : MicReading where
  unmarshal := none
  verify key := .ok (key = [1])
  field := .ok ⟨"", 50, "alice", "ssh-connection", "gssapi-with-mic"⟩

def kerberosClient : KerberosAuthClient := ⟨{}, authenticationTypeGSSAPI⟩

theorem gssapi_loginSound_alice : ∃ k, (kerberosClient.gssapi newTestMetadata).serveAll
        [.acceptSecContext aliceToken, .verifyMIC aliceMic] = .ok (k, ["alice"]) ∧
      LoginSound kerberosClient k "alice"
        (newTestMetadata.startAuthentication "SSH-2.0-FooSSH" "alice") :=
  ⟨_, rfl, (gssapi_loginSound_iff kerberosClient newTestMetadata
    [.acceptSecContext aliceToken, .verifyMIC aliceMic] _ ["alice"] rfl "alice"
    (newTestMetadata.startAuthentication "SSH-2.0-FooSSH" "alice")).mpr ⟨rfl, fun _ => rfl⟩⟩

theorem unverified_login_without_error :
    ∃ k, (kerberosClient.gssapi newTestMetadata).serveAll [] = .ok (k, []) ∧
      ¬ LoginSound kerberosClient k "root"
        (newTestMetadata.startAuthentication "SSH-2.0-FooSSH" "root") := by
  refine ⟨_, rfl, fun hsound => ?_⟩
  exact absurd (hsound _ rfl).1 (by decide)

end ContainerSSH
