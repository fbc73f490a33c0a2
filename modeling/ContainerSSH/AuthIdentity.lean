/-
Which connection a successful login belongs to.
-/
import ContainerSSH.OAuth2State
import ContainerSSH.WebhookClient

namespace ContainerSSH

open Dialogue

structure SameIdentity (m : ConnectionAuthPendingMetadata)
    (a : ConnectionAuthenticatedMetadata) : Prop where
  remoteAddress : a.remoteAddress = m.remoteAddress
  connectionID : a.connectionID = m.connectionID
  username : a.username = m.username

variable (m : ConnectionAuthPendingMetadata)

theorem sameIdentity_authenticated (username : String) :
    SameIdentity m (m.authenticated username) :=
  ⟨rfl, rfl, rfl⟩

theorem sameIdentity_setMetadata (entries : List (String × MetadataValue)) (username : String) :
    SameIdentity m ((m.setMetadata entries).authenticated username) :=
  ⟨rfl, rfl, rfl⟩

theorem SameIdentity.merge {m : ConnectionAuthPendingMetadata}
    {a : ConnectionAuthenticatedMetadata} (ha : SameIdentity m a)
    (b : ConnectionAuthenticatedMetadata) : SameIdentity m (a.merge b) := by
  rw [ConnectionAuthenticatedMetadata.merge_eq]
  exact ⟨ha.remoteAddress, ha.connectionID, ha.username⟩

theorem WebhookReply.conclude_sameIdentity (giveUp : String)
    (final : Except GoError AuthResponseBody) :
    SameIdentity m (conclude m giveUp final).metadata := by
  cases final with
  | ok => exact (sameIdentity_authenticated m "").merge _
  | error => exact sameIdentity_authenticated m ""

theorem WebhookClient.processAuthWithRetry_sameIdentity (method : String)
    (authRequest : WebhookRequest) :
    Returns (processAuthWithRetry m method authRequest) fun _ context =>
      SameIdentity m context.metadata := by
  constructor
  intro replies n context hcontext
  change answer _ replies n = some context at hcontext
  rw [answer_processAuthWithRetry, Option.map_eq_some_iff] at hcontext
  obtain ⟨final, -, rfl⟩ := hcontext
  exact WebhookReply.conclude_sameIdentity m _ final

theorem WebhookClient.password_sameIdentity (client : WebhookClient) (password : List UInt8) :
    Returns (client.password m password) fun _ context =>
      SameIdentity m context.metadata := by
  unfold WebhookClient.password
  split
  · exact returns_pure (sameIdentity_authenticated m "")
  · exact processAuthWithRetry_sameIdentity m _ _

theorem WebhookClient.pubKey_sameIdentity (client : WebhookClient) (pubKey : String) :
    Returns (client.pubKey m pubKey) fun _ context =>
      SameIdentity m context.metadata := by
  unfold WebhookClient.pubKey
  split
  · exact returns_pure (sameIdentity_authenticated m "")
  · exact processAuthWithRetry_sameIdentity m _ _

structure OAuth2Provider.Keeps (p : OAuth2Provider)
    (Device : p.DeviceFlow → Prop) (Code : p.CodeFlow → Prop)
    (Q : ConnectionAuthenticatedMetadata → Prop) : Prop where
  getDeviceFlow : Returns (p.getDeviceFlow m) fun _ result =>
    ∀ flow, result = .ok flow → Device flow
  deviceAuthorizationURL : ∀ flow, Device flow →
    Returns (p.deviceAuthorizationURL flow) fun _ result => Device result.1
  deviceVerify : ∀ flow, Device flow → Returns (p.deviceVerify flow) fun _ result =>
      result.2.err = none → Q result.2.metadata
  getAuthorizationCodeFlow : Returns (p.getAuthorizationCodeFlow m)
    fun _ result => ∀ flow, result = .ok flow → Code flow
  verify : ∀ flow, Code flow → ∀ state code, Returns (p.verify flow state code) fun _ result =>
      result.2.err = none → Q result.2.metadata

namespace OAuth2Provider

variable {m} {p : OAuth2Provider} {Device : p.DeviceFlow → Prop}
  {Code : p.CodeFlow → Prop} {Q : ConnectionAuthenticatedMetadata → Prop}

theorem context_of_verified {v : Verified} (hv : v.err = none → Q v.metadata)
    (hsuccess : v.context.success = true) : Q v.context.metadata :=
  hv (Option.isNone_iff_eq_none.mp hsuccess)

theorem Keeps.deviceLogin (hp : p.Keeps m Device Code Q) :
    Returns (p.deviceLogin m) fun _ result => ∀ context,
      result = some context → context.success = true → Q context.metadata := by
  have hnone : Returns (pure none : OAuth2 (Option OAuth2Context))
      fun _ result => ∀ context, result = some context →
        context.success = true → Q context.metadata := by
    apply returns_pure
    intro context h
    cases h
  unfold OAuth2Provider.deviceLogin
  split
  case isFalse => exact hnone
  case isTrue =>
    apply Returns.bind hp.getDeviceFlow
    intro _ result hflow
    cases result with
    | error => exact hnone
    | ok flow =>
      apply Returns.bind (hp.deviceAuthorizationURL flow (hflow flow rfl))
      rintro _ ⟨flow, device⟩ hflow
      cases device with
      | error => exact hnone
      | ok =>
        apply returns_bind_of_forall
        intro answers
        cases answers with
        | error =>
          apply returns_pure
          intro context h hsuccess
          cases h
          cases hsuccess
        | ok =>
          apply Returns.bind (hp.deviceVerify flow hflow)
          rintro _ ⟨flow, verified⟩ hverified
          have hcontext : ∀ context, some verified.context = some context → context.success = true →
                Q context.metadata := by
            intro context h
            cases h
            exact context_of_verified hverified
          dsimp only
          split
          · apply returns_bind_of_forall
            intro _
            exact returns_pure hcontext
          · exact returns_pure hcontext

theorem Keeps.verifyAnswer (hp : p.Keeps m Device Code Q) {flow : p.CodeFlow}
    (hflow : Code flow) (answers : List (String × String)) :
    Returns (p.verifyAnswer m flow answers) fun _ context =>
      context.success = true → Q context.metadata := by
  unfold OAuth2Provider.verifyAnswer
  split
  · apply returns_pure
    intro h
    cases h
  · split
    · apply returns_pure
      intro h
      cases h
    · apply Returns.bind (hp.verify flow hflow _ _)
      rintro _ ⟨flow, verified⟩ hverified
      exact returns_pure (context_of_verified hverified)

theorem Keeps.codeLogin (hp : p.Keeps m Device Code Q) : Returns (p.codeLogin m) fun _ context =>
      context.success = true → Q context.metadata := by
  have hrefused : ∀ err, Returns (pure ⟨false, m.authFailed, err⟩ : OAuth2 OAuth2Context)
      fun _ context => context.success = true → Q context.metadata := by
    intro err
    apply returns_pure
    intro h
    cases h
  unfold OAuth2Provider.codeLogin
  split
  case isFalse => exact hrefused _
  case isTrue =>
    apply Returns.bind hp.getAuthorizationCodeFlow
    intro _ result hflow
    cases result with
    | error => exact hrefused _
    | ok flow =>
      dsimp only
      split
      · exact hrefused _
      · apply returns_bind_of_forall
        intro answers
        cases answers with
        | error => exact hrefused _
        | ok answers => exact hp.verifyAnswer (hflow flow rfl) answers

theorem Keeps.keyboardInteractive (hp : p.Keeps m Device Code Q) :
    Returns (p.keyboardInteractive m) fun _ context =>
      context.success = true → Q context.metadata := by
  apply Returns.bind hp.deviceLogin
  intro _ result hresult
  cases result with
  | some context => exact returns_pure (hresult context rfl)
  | none => exact hp.codeLogin

end OAuth2Provider

def Verified.Keeps (m : ConnectionAuthPendingMetadata) (v : Verified) : Prop :=
  v.err = none → SameIdentity m v.metadata

theorem Verified.keeps_of_err {v : Verified} {err : GoError}
    (herr : v.err = some err) : v.Keeps m := by
  intro hnone
  rw [herr] at hnone
  cases hnone

theorem Verified.keeps_authenticated (token : String)
    (entries : List (String × MetadataValue)) (username : String) : Verified.Keeps m
      ⟨token, (m.setMetadata entries).authenticated username, none⟩ :=
  fun _ => sameIdentity_setMetadata m entries username

theorem GitHubFlow.receiveUser_keeps {g : GitHubFlow} {ctx : Context}
    {token : String} {reply : HttpReply} {v : Verified}
    (h : g.receiveUser ctx m token reply = .finish v) : v.Keeps m := by
  unfold GitHubFlow.receiveUser at h
  dsimp only at h
  split at h
  · split at h <;> cases h
    · exact Verified.keeps_of_err m rfl
    · exact Verified.keeps_authenticated m _ _ _
  · split at h <;> cases h
    exact Verified.keeps_of_err m rfl

theorem GitHubFlow.getIdentity_keeps (g : GitHubFlow) (ctx : Context) (token : String) :
    Returns (g.getIdentity ctx m token) fun _ v => v.Keeps m := by
  apply returns_bind_of_forall
  intro created
  cases created with
  | some => exact returns_pure (Verified.keeps_of_err m rfl)
  | none =>
    apply Returns.mono (returns_requestLoop _ _)
    rintro _ v ⟨_, reply, -, h⟩
    exact receiveUser_keeps m h

theorem GitHubFlow.identify_keeps (g : GitHubFlow) (ctx : Context)
    (failedToken : GitHubFlow → String) (token : String)
    (err : Option GoError) :
    Returns (g.identify ctx m failedToken token err) fun _ result =>
      result.2.Keeps m := by
  unfold GitHubFlow.identify
  cases err with
  | some =>
    dsimp only
    split
    all_goals
      apply returns_bind_of_forall
      intro g
      exact returns_pure (Verified.keeps_of_err m rfl)
  | none =>
    apply Returns.bind (GitHubFlow.getIdentity_keeps m _ ctx token)
    intro _ v hv
    exact returns_pure hv

theorem GitHubAuthorizationCodeFlow.verify_keeps
    (g : GitHubAuthorizationCodeFlow) (ctx : Context) (state code : String) :
    Returns (g.verify ctx state code) fun _ result =>
      result.2.Keeps g.metadata := by
  unfold GitHubAuthorizationCodeFlow.verify
  split
  · exact returns_pure (Verified.keeps_of_err _ rfl)
  · apply returns_bind_of_forall
    rintro ⟨token, err⟩
    apply Returns.bind (GitHubFlow.identify_keeps g.metadata _ _ _ _ _)
    rintro _ ⟨flow, v⟩ hv
    exact returns_pure hv

theorem GitHubDeviceFlow.verify_keeps (d : GitHubDeviceFlow) (ctx : Context) :
    Returns (d.verify ctx) fun _ result => result.2.Keeps d.metadata := by
  apply returns_bind_of_forall
  rintro ⟨token, err⟩
  apply Returns.bind (GitHubFlow.identify_keeps d.metadata _ _ _ _ _)
  rintro _ ⟨flow, v⟩ hv
  exact returns_pure hv

theorem GitHubProvider.provider_keeps (p : GitHubProvider) :
    p.provider.Keeps m (fun flow : GitHubDeviceFlow => flow.metadata = m)
      (fun flow : GitHubAuthorizationCodeFlow => flow.metadata = m) (SameIdentity m) where
  getDeviceFlow := by
    apply returns_bind_of_forall
    intro err
    cases err <;> apply returns_pure <;> intro flow h <;> cases h
    rfl
  deviceAuthorizationURL flow hflow := by
    apply returns_bind_of_forall
    intro code
    cases code <;> exact returns_pure hflow
  deviceVerify flow hflow := hflow ▸ GitHubDeviceFlow.verify_keeps flow _
  getAuthorizationCodeFlow := by
    apply returns_bind_of_forall
    intro err
    cases err <;> apply returns_pure <;> intro flow h <;> cases h
    rfl
  verify flow hflow state code := hflow ▸ GitHubAuthorizationCodeFlow.verify_keeps flow _ state code

theorem OidcProvider.createFlow_metadata (p : OidcProvider) (ctx : Context) :
    Returns (p.createFlow ctx m) fun _ result =>
      ∀ flow, result = .ok flow → flow.metadata = m := by
  apply returns_bind_of_forall
  intro created
  cases created with
  | some =>
    apply returns_pure
    intro flow h
    cases h
  | none =>
    apply returns_bind_of_forall
    intro response
    cases response <;> apply returns_pure <;> intro flow h <;> cases h
    rfl

theorem OidcFlow.receiveUser_keeps {o : OidcFlow} {ctx : Context}
    {token : String} {reply : HttpReply} {v : Verified}
    (h : o.receiveUser ctx token reply = .finish v) : v.Keeps o.metadata := by
  unfold OidcFlow.receiveUser at h
  split at h
  · split at h <;> cases h
    · exact Verified.keeps_of_err _ rfl
    · exact Verified.keeps_authenticated _ _ _ _
    · exact Verified.keeps_of_err _ rfl
  · split at h <;> cases h
    exact Verified.keeps_of_err _ rfl

theorem OidcFlow.identify_keeps (o : OidcFlow) (ctx : Context)
    (token : String) (err : Option GoError) :
    Returns (o.identify ctx token err) fun _ result =>
      result.2.Keeps o.metadata := by
  unfold OidcFlow.identify
  cases err with
  | some =>
    dsimp only
    split
    all_goals
      apply returns_bind_of_forall
      intro o'
      exact returns_pure (Verified.keeps_of_err _ rfl)
  | none =>
    apply Returns.bind (Q := fun _ v => v.Keeps o.metadata)
    · apply returns_bind_of_forall
      intro created
      cases created with
      | some => exact returns_pure (Verified.keeps_of_err _ rfl)
      | none =>
        apply Returns.mono (returns_requestLoop _ _)
        rintro _ v ⟨_, reply, -, h⟩
        exact receiveUser_keeps h
    · intro _ v hv
      exact returns_pure hv

theorem OidcProvider.provider_keeps (p : OidcProvider) :
    p.provider.Keeps m (fun flow : OidcDeviceFlow => flow.metadata = m)
      (fun flow : OidcFlow => flow.metadata = m) (SameIdentity m) where
  getDeviceFlow := by
    apply Returns.bind (p.createFlow_metadata m .todo)
    intro _ result hflow
    cases result <;> apply returns_pure <;> intro flow h <;> cases h
    exact hflow _ rfl
  deviceAuthorizationURL flow hflow := by
    apply returns_bind_of_forall
    intro code
    cases code <;> exact returns_pure hflow
  deviceVerify flow hflow := by
    apply returns_bind_of_forall
    rintro ⟨token, err⟩
    apply Returns.bind (OidcFlow.identify_keeps _ _ _ _)
    rintro _ ⟨flow', v⟩ hv
    exact returns_pure (hflow ▸ hv)
  getAuthorizationCodeFlow := p.createFlow_metadata m .todo
  verify flow hflow state code := by
    apply returns_bind_of_forall
    rintro ⟨token, err⟩
    exact hflow ▸ OidcFlow.identify_keeps flow _ _ _

theorem GenericProvider.provider_keeps (p : GenericProvider) : p.provider.Keeps m (fun _ => True)
      (fun flow : GenericFlow => flow.metadata = m) (SameIdentity m) where
  getDeviceFlow := returns_pure fun _ _ => trivial
  deviceAuthorizationURL flow := flow.elim
  deviceVerify flow := flow.elim
  getAuthorizationCodeFlow := by
    apply returns_bind_of_forall
    intro created
    cases created <;> apply returns_pure <;> intro flow h <;> cases h
    rfl
  verify flow hflow state code := by
    apply returns_bind_of_forall
    rintro ⟨token, err⟩
    rw [← hflow]
    cases err with
    | some => exact returns_pure (Verified.keeps_of_err _ rfl)
    | none => exact returns_pure (Verified.keeps_authenticated _ _ _ _)

theorem keyboardInteractive_sameIdentity (c : CodeProvider) :
    Returns (c.provider.keyboardInteractive m) fun _ context =>
      context.success = true → SameIdentity m context.metadata := by
  cases c with
  | gitHub p | oidc p | generic p => exact (p.provider_keeps m).keyboardInteractive

theorem KerberosAuthContext.metadata_identity (k : KerberosAuthContext) :
    k.metadata.remoteAddress = k.storedMetadata.remoteAddress ∧
      k.metadata.connectionID = k.storedMetadata.connectionID ∧
      k.metadata.username = k.storedMetadata.username ∧ k.metadata.authenticatedUsername =
        k.storedMetadata.authenticatedUsername := by
  unfold KerberosAuthContext.metadata
  split
  · dsimp only
    split <;> exact ⟨rfl, rfl, rfl, rfl⟩
  · exact ⟨rfl, rfl, rfl, rfl⟩

theorem KerberosAuthClient.password_success {c : KerberosAuthClient}
    {r : PasswordReading} {result : KerberosPasswordResult} (h : c.password m r = .ok result)
    (hsuccess : result.context.success = true) : result.context.storedMetadata = .zero ∧
      result.context.principalUsername = m.username := by
  unfold KerberosAuthClient.password at h
  split at h
  case h_1 => split at h <;> cases h <;> cases hsuccess
  case h_2 context hcontext =>
    split at h <;> cases h
    · cases hsuccess
    · unfold KerberosAuthClient.passwordContext at hcontext
      split at hcontext
      · cases hcontext
      · split at hcontext <;> cases hcontext
        exact ⟨rfl, rfl⟩

structure NoIdentity : Prop where
  remoteAddress : m.remoteAddress = ⟨[], 0, ""⟩
  connectionID : m.connectionID = ""
  username : m.username = ""

theorem KerberosAuthClient.password_identity_iff {c : KerberosAuthClient}
    {r : PasswordReading} {result : KerberosPasswordResult} (h : c.password m r = .ok result)
    (hsuccess : result.context.success = true) : SameIdentity m result.context.metadata ∧
        result.context.metadata.authenticatedUsername =
          result.context.principalUsername ↔ NoIdentity m := by
  obtain ⟨hstored, hprincipal⟩ := password_success m h hsuccess
  obtain ⟨haddress, hid, hname, huser⟩ := result.context.metadata_identity
  rw [hstored] at haddress hid hname huser
  constructor
  · rintro ⟨hsame, -⟩
    exact ⟨hsame.remoteAddress ▸ haddress, hsame.connectionID ▸ hid, hsame.username ▸ hname⟩
  · rintro ⟨hnoAddress, hnoId, hnoName⟩
    refine ⟨⟨haddress.trans hnoAddress.symm, hid.trans hnoId.symm, hname.trans hnoName.symm⟩, ?_⟩
    rw [huser, hprincipal, hnoName]
    rfl

/-- Whatever the user, the credentials and the servers: a successful login over
a webhook or OAuth2 belongs to the connection that it was started for; one with
a Kerberos password loses the connection and its principal, unless there was
nothing to lose. -/
theorem login_identity : (∀ (client : WebhookClient) (password : List UInt8),
      Returns (client.password m password) fun _ context =>
        context.success = true → SameIdentity m context.metadata) ∧
    (∀ (client : WebhookClient) (pubKey : String), Returns (client.pubKey m pubKey) fun _ context =>
        context.success = true → SameIdentity m context.metadata) ∧
    (∀ provider : CodeProvider, Returns (provider.provider.keyboardInteractive m) fun _ context =>
        context.success = true → SameIdentity m context.metadata) ∧
    (∀ (client : KerberosAuthClient) (reading : PasswordReading) (result : KerberosPasswordResult),
      client.password m reading = .ok result → result.context.success = true →
          (SameIdentity m result.context.metadata ∧ result.context.metadata.authenticatedUsername =
              result.context.principalUsername ↔ NoIdentity m)) := by
  refine ⟨fun client password => ?_, fun client pubKey => ?_,
    keyboardInteractive_sameIdentity m, fun client reading result => ?_⟩
  · exact (client.password_sameIdentity m password).mono fun _ _ h _ => h
  · exact (client.pubKey_sameIdentity m pubKey).mono fun _ _ h _ => h
  · exact KerberosAuthClient.password_identity_iff m

/-- The password is right and the credentials are stored, but the connection id
and the user are gone. -/
theorem kerberos_password_drops_identity :
    let m := newTestMetadata.startAuthentication "SSH-2.0-FooSSH" "foo"
    ∃ result, KerberosAuthClient.password ⟨{}, "password"⟩ m ⟨none, none, .ok [1]⟩ = .ok result ∧
      result.context.success = true ∧ result.context.principalUsername = "foo" ∧
      result.context.metadata.connectionID = "" ∧ result.context.metadata.username = "" ∧
      result.context.metadata.authenticatedUsername = "" ∧
      ¬ SameIdentity m result.context.metadata := by
  refine ⟨_, rfl, rfl, rfl, rfl, rfl, rfl, ?_⟩
  intro hsame
  exact absurd hsame.username (by decide)

end ContainerSSH
