/-
Whether a login with an authorization code is bound to the connection that asked for the code.
-/
import ContainerSSH.OAuth2GitHub
import ContainerSSH.OAuth2Oidc
import Mathlib.Data.List.Basic

namespace ContainerSSH

open Dialogue

def OAuth2Request.asksCode : OAuth2Request → Bool
  | .challenge _ questions => questions = codeQuestions
  | _ => false

def pastedState : OAuth2Exchange → Option String
  | ⟨.challenge _ _, some (.ok answers)⟩ => do
      let code ← answers.lookup "code"
      let parts ← splitCode code
      pure parts.1
  | _ => none

def Succeeds (result : Option OAuth2Context) : Prop :=
  ∃ context, result = some context ∧ context.success = true

inductive Login
    (V : List OAuth2Exchange → String → List OAuth2Exchange → Option Verified → Prop) :
    List OAuth2Exchange → Option OAuth2Context → Prop
  | unasked {log result} (hlog : ∀ x ∈ log, x.request.asksCode = false) : Login V log result
  | unanswered {log x result} (hlog : ∀ x ∈ log, x.request.asksCode = false)
      (hx : x.request.asksCode = true) (hstate : pastedState x = none)
      (hresult : ¬ Succeeds result) : Login V (log ++ [x]) result
  | answered {log setup x later state verified}
      (hlog : ∀ x ∈ log, x.request.asksCode = false) (hsetup : setup <:+ log)
      (hx : x.request.asksCode = true) (hstate : pastedState x = some state)
      (hlater : ∀ x ∈ later, x.request.asksCode = false) (hverify : V setup state later verified) :
      Login V (log ++ x :: later) (verified.map Verified.context)

theorem asksCode_of_not_isChallenge {r : OAuth2Request}
    (hr : r.isChallenge = false) : r.asksCode = false := by
  cases r with
  | challenge => cases hr
  | newClient | http => rfl

theorem Quiet.asksNoCode {α : Type} {m : OAuth2 α} (hm : Quiet m) :
    OnlyAsks m fun r => r.asksCode = false :=
  OnlyAsks.mono hm fun _ hr => asksCode_of_not_isChallenge hr

theorem challenge_asksNoCode (instruction : String) :
    OnlyAsks (challenge instruction []) fun r => r.asksCode = false :=
  onlyAsks_ask rfl

variable {p : OAuth2Provider} {metadata : ConnectionAuthPendingMetadata}

theorem deviceLogin_asksNoCode (hp : p.IsQuiet) :
    OnlyAsks (p.deviceLogin metadata) fun r => r.asksCode = false := by
  unfold OAuth2Provider.deviceLogin
  split
  · apply OnlyAsks.bind (hp.getDeviceFlow metadata).asksNoCode
    intro flow
    cases flow with
    | error => exact onlyAsks_pure _ _
    | ok flow =>
      apply OnlyAsks.bind (hp.deviceAuthorizationURL flow).asksNoCode
      rintro ⟨flow, device⟩
      cases device with
      | error => exact onlyAsks_pure _ _
      | ok =>
        apply OnlyAsks.bind (challenge_asksNoCode _)
        intro answers
        cases answers with
        | error => exact onlyAsks_pure _ _
        | ok =>
          apply OnlyAsks.bind (hp.deviceVerify flow).asksNoCode
          rintro ⟨flow, verified⟩
          dsimp only
          split
          · apply OnlyAsks.bind (hp.deviceDeauthorize flow).asksNoCode
            intro _
            exact onlyAsks_pure _ _
          · exact onlyAsks_pure _ _
  · exact onlyAsks_pure _ _

section Front

variable {F : List OAuth2Exchange → p.CodeFlow → Prop}
  {V : List OAuth2Exchange → String → List OAuth2Exchange → Option Verified → Prop}

theorem not_succeeds_none : ¬ Succeeds none := by
  rintro ⟨context, hcontext, -⟩
  cases hcontext

theorem not_succeeds_of_refused {context : OAuth2Context}
    (hcontext : context.success = false) : ¬ Succeeds (some context) := by
  rintro ⟨context', h, hsuccess⟩
  cases h
  rw [hcontext] at hsuccess
  cases hsuccess

theorem Login.prepend {log later : List OAuth2Exchange}
    {result : Option OAuth2Context} (hlogin : Login V later result)
    (hlog : ∀ x ∈ log, x.request.asksCode = false) : Login V (log ++ later) result := by
  cases hlogin with
  | unasked hlater => exact .unasked (List.forall_mem_append.mpr ⟨hlog, hlater⟩)
  | unanswered hlater hx hstate hresult =>
    rw [← List.append_assoc]
    exact .unanswered (List.forall_mem_append.mpr ⟨hlog, hlater⟩) hx hstate hresult
  | answered hlater hsetup hx hstate hrest hverify =>
    rw [← List.append_assoc]
    apply Login.answered (List.forall_mem_append.mpr ⟨hlog, hlater⟩) _ hx hstate hrest hverify
    exact hsetup.trans (List.suffix_append _ _)

theorem ensures_verifyAnswer (hp : p.IsQuiet) {log : List OAuth2Exchange}
    (hlog : ∀ x ∈ log, x.request.asksCode = false) {flow : p.CodeFlow}
    (hverify : ∀ state code, Ensures (p.verify flow state code)
      fun later result => V log state later (result.map Prod.snd))
    (instruction : String) (answers : List (String × String)) :
    Ensures (p.verifyAnswer metadata flow answers) fun later result =>
      Login V (log ++ [⟨.challenge instruction codeQuestions,
        some (.ok answers)⟩] ++ later) result := by
  unfold OAuth2Provider.verifyAnswer
  cases hcode : answers.lookup "code" with
  | none =>
    apply ensures_pure
    rw [List.append_nil]
    exact .unanswered hlog rfl (by simp [pastedState, hcode]) (not_succeeds_of_refused rfl)
  | some code =>
    dsimp only
    cases hparts : splitCode code with
    | none =>
      apply ensures_pure
      rw [List.append_nil]
      exact .unanswered hlog rfl (by simp [pastedState, hcode, hparts])
        (not_succeeds_of_refused rfl)
    | some parts =>
      have hstate : pastedState ⟨.challenge instruction codeQuestions,
          some (.ok answers)⟩ = some parts.1 := by
        simp [pastedState, hcode, hparts]
      apply ensures_bind ((hp.verify flow parts.1 parts.2).asksNoCode.and (hverify parts.1 parts.2))
      · rintro later ⟨hlater, hV⟩
        rw [List.append_assoc]
        exact .answered hlog List.suffix_rfl rfl hstate hlater hV
      · rintro later verified ⟨hlater, hV⟩
        apply ensures_pure
        rw [List.append_nil, List.append_assoc]
        exact .answered hlog List.suffix_rfl rfl hstate hlater hV

variable (hp : p.IsQuiet)
    (hflow : Returns (p.getAuthorizationCodeFlow metadata) fun log result =>
      ∀ flow, result = .ok flow → F log flow)
    (hverify : ∀ log flow state code, F log flow →
      Ensures (p.verify flow state code) fun later result =>
        V log state later (result.map Prod.snd))

include hp hflow hverify

theorem ensures_codeLogin : Ensures (p.codeLogin metadata) (Login V) := by
  unfold OAuth2Provider.codeLogin
  split
  · apply ensures_bind ((hp.getAuthorizationCodeFlow metadata).asksNoCode.and hflow)
    · rintro log ⟨hlog, -⟩
      exact .unasked hlog
    rintro log flow ⟨hlog, hF⟩
    cases flow with
    | error =>
      apply ensures_pure
      exact .unasked (by simpa using hlog)
    | ok flow =>
      dsimp only
      cases p.authorizationURL flow with
      | error =>
        apply ensures_pure
        exact .unasked (by simpa using hlog)
      | ok =>
        apply ensures_bind (P := fun later reply =>
          later = [⟨.challenge _ codeQuestions, reply⟩])
          (ensures_ask rfl fun _ => rfl)
        · rintro later rfl
          exact .unanswered hlog rfl rfl not_succeeds_none
        rintro later answers rfl
        cases answers with
        | error =>
          apply ensures_pure
          exact .unanswered hlog rfl rfl (not_succeeds_of_refused rfl)
        | ok answers =>
          apply Ensures.mono (ensures_verifyAnswer hp hlog
            (fun state code => hverify log flow state code (hF _ rfl flow rfl)) _ answers)
          intro later result hlogin
          rwa [List.append_assoc] at hlogin
  · apply ensures_pure
    exact .unasked (by simp)

theorem ensures_keyboardInteractive : Ensures (p.keyboardInteractive metadata) (Login V) := by
  apply ensures_bind (deviceLogin_asksNoCode hp)
  · exact fun log hlog => .unasked hlog
  · intro log context hlog
    cases context with
    | some =>
      apply ensures_pure
      exact .unasked (by simpa using hlog)
    | none =>
      apply Ensures.mono (ensures_codeLogin hp hflow hverify)
      exact fun later result hlogin => hlogin.prepend hlog

end Front

inductive CodeProvider where
  | gitHub (p : GitHubProvider)
  | oidc (p : OidcProvider)
  | generic (p : GenericProvider)

def Contacts (x : OAuth2Exchange) (url : String) : Prop :=
  ∃ r, x.request = .http r ∧ r.base ++ r.path = url

/-- Every code comes with the state of this connection. -/
def StatesMatch (connectionID : String) (log : List OAuth2Exchange) : Prop :=
  ∀ x ∈ log, x.request.asksCode = true → ∀ state, pastedState x = some state → state = connectionID

namespace CodeProvider

def provider : CodeProvider → OAuth2Provider
  | gitHub p => p.provider
  | oidc p => p.provider
  | generic p => p.provider

def isGitHub : CodeProvider → Bool
  | gitHub _ => true
  | _ => false

def TokenEndpoint (log : List OAuth2Exchange) (url : String) : CodeProvider → Prop
  | gitHub p => url = p.url ++ "/login/oauth/access_token"
  | oidc p => ∃ reply : HttpReply, ⟨.http p.discoveryRequest, some reply⟩ ∈ log ∧ reply.err = none ∧
        reply.statusCode = 200 ∧ url = reply.string "token_endpoint"
  | generic p => url = p.tokenEndpointURL

def StateChecked (c : CodeProvider) (connectionID : String)
    (log : List OAuth2Exchange) (result : Option OAuth2Context) : Prop :=
  ∀ before x after, log = before ++ x :: after → x.request.asksCode = true →
    (Succeeds result → pastedState x = some connectionID) ∧
    (pastedState x ≠ some connectionID → ∀ y ∈ after, ∀ url,
      c.TokenEndpoint log url → ¬ Contacts y url)

def VerifiesState (connectionID : String) (setup : List OAuth2Exchange)
    (state : String) (later : List OAuth2Exchange)
    (verified : Option Verified) (c : CodeProvider) : Prop :=
  if c.isGitHub then state ≠ connectionID → later = [] ∧ ¬ Succeeds (verified.map Verified.context)
  else ∃ url, c.TokenEndpoint setup url ∧ ∃ y ∈ later, Contacts y url

end CodeProvider

theorem OidcProvider.receiveDiscovery_eq_ok {ctx : Context}
    {reply : HttpReply} {response : OidcDiscoveryResponse}
    (h : receiveDiscovery ctx reply = .finish (.ok response)) :
    reply.err = none ∧ reply.statusCode = 200 ∧ response = OidcDiscoveryResponse.decode reply := by
  unfold receiveDiscovery at h
  split at h
  case isTrue hreply =>
    cases h
    exact ⟨hreply.1, hreply.2, rfl⟩
  case isFalse =>
    split at h
    · cases h
    · split at h <;> cases h

theorem OidcProvider.createFlow_endpoint (p : OidcProvider) (ctx : Context)
    (metadata : ConnectionAuthPendingMetadata) :
    Returns (p.createFlow ctx metadata) fun log result =>
      ∀ flow, result = .ok flow → (CodeProvider.oidc p).TokenEndpoint log
          flow.discoveryResponse.tokenEndpoint := by
  apply Returns.bind (Q := fun _ _ => True) (returns_ask fun _ => trivial)
  intro log created _
  cases created with
  | some =>
    apply returns_pure
    intro flow h
    cases h
  | none =>
    apply Returns.bind (returns_requestLoop _ _)
    rintro discovery response ⟨_, reply, hreply, hreceive⟩
    cases response with
    | error =>
      apply returns_pure
      intro flow h
      cases h
    | ok =>
      apply returns_pure
      intro flow h
      cases h
      obtain ⟨herr, hstatus, rfl⟩ := receiveDiscovery_eq_ok hreceive
      refine ⟨reply, ?_, herr, hstatus, rfl⟩
      simp [hreply]

theorem GitHubAuthorizationCodeFlow.verify_verifiesState {p : GitHubProvider}
    {connectionID : String} (g : GitHubAuthorizationCodeFlow)
    (hg : g.metadata.connectionID = connectionID) (ctx : Context)
    (setup : List OAuth2Exchange) (state code : String) :
    Ensures (g.verify ctx state code) fun later result =>
      (CodeProvider.gitHub p).VerifiesState connectionID setup state later
        (result.map Prod.snd) := by
  unfold GitHubAuthorizationCodeFlow.verify
  split
  · apply ensures_pure
    intro _
    exact ⟨rfl, not_succeeds_of_refused rfl⟩
  case isFalse hstate =>
    have hmatch : state = connectionID := by
      rw [← hg]
      exact not_not.mp hstate
    constructor
    intro replies n hother
    exact absurd hmatch hother

theorem verifiesState_of_begins {α : Type} {m : OAuth2 (α × Verified)}
    {c : CodeProvider} (hc : c.isGitHub = false) {r : HttpRequest}
    (hm : Begins m (.http r)) {setup : List OAuth2Exchange}
    (hr : c.TokenEndpoint setup (r.base ++ r.path)) (connectionID state : String) :
    Ensures m fun later result =>
      c.VerifiesState connectionID setup state later (result.map Prod.snd) := by
  apply Ensures.mono hm
  rintro later result ⟨reply, rest, rfl⟩
  unfold CodeProvider.VerifiesState
  rw [hc]
  exact ⟨_, hr, _, List.mem_cons_self, r, rfl, rfl⟩

theorem CodeExchange.getAccessToken_begins (e : CodeExchange) (ctx : Context) :
    Begins (e.getAccessToken ctx) (.http e.request) :=
  begins_requestLoop _ _

theorem OidcFlow.verify_verifiesState {p : OidcProvider} (o : OidcFlow)
    {setup : List OAuth2Exchange} (ho : (CodeProvider.oidc p).TokenEndpoint setup
      o.discoveryResponse.tokenEndpoint) (ctx : Context) (connectionID state code : String) :
    Ensures (o.verify ctx state code) fun later result =>
      (CodeProvider.oidc p).VerifiesState connectionID setup state later (result.map Prod.snd) := by
  apply verifiesState_of_begins rfl (CodeExchange.getAccessToken_begins _ _).bind
  simpa [OidcFlow.codeExchange, OidcFlow.codeRequest, OidcFlow.post] using ho

theorem GenericFlow.verify_verifiesState {p : GenericProvider}
    (g : GenericFlow) (hg : g.provider = p) (ctx : Context)
    (setup : List OAuth2Exchange) (connectionID state code : String) :
    Ensures (g.verify ctx state code) fun later result =>
      (CodeProvider.generic p).VerifiesState connectionID setup state later
        (result.map Prod.snd) := by
  apply verifiesState_of_begins rfl (CodeExchange.getAccessToken_begins _ _).bind
  simp [GenericFlow.codeExchange, GenericFlow.codeRequest, CodeProvider.TokenEndpoint, hg]

theorem GitHubProvider.getAuthorizationCodeFlow_metadata (p : GitHubProvider)
    (metadata : ConnectionAuthPendingMetadata) :
    Returns (p.provider.getAuthorizationCodeFlow metadata) fun _ result =>
      ∀ flow : GitHubAuthorizationCodeFlow, result = .ok flow →
        flow.metadata.connectionID = metadata.connectionID := by
  apply returns_bind_of_forall
  intro err
  cases err with
  | some =>
    apply returns_pure
    intro flow h
    cases h
  | none =>
    apply returns_pure
    intro flow h
    cases h
    rfl

theorem GenericProvider.createFlow_provider (p : GenericProvider)
    (metadata : ConnectionAuthPendingMetadata) : Returns (p.createFlow metadata) fun _ result =>
      ∀ flow, result = .ok flow → flow.provider = p := by
  apply returns_bind_of_forall
  intro err
  cases err with
  | some =>
    apply returns_pure
    intro flow h
    cases h
  | none =>
    apply returns_pure
    intro flow h
    cases h
    rfl

theorem keyboardInteractive_login (c : CodeProvider) (metadata : ConnectionAuthPendingMetadata) :
    Ensures (c.provider.keyboardInteractive metadata) (Login fun setup state later verified =>
        c.VerifiesState metadata.connectionID setup state later verified) := by
  cases c with
  | gitHub p =>
    apply ensures_keyboardInteractive p.provider_isQuiet
      (p.getAuthorizationCodeFlow_metadata metadata)
    intro setup flow state code hflow
    exact GitHubAuthorizationCodeFlow.verify_verifiesState flow hflow ..
  | oidc p =>
    apply ensures_keyboardInteractive p.provider_isQuiet (p.createFlow_endpoint .todo metadata)
    intro setup flow state code hflow
    exact OidcFlow.verify_verifiesState flow hflow ..
  | generic p =>
    apply ensures_keyboardInteractive p.provider_isQuiet (p.createFlow_provider metadata)
    intro setup flow state code hflow
    exact GenericFlow.verify_verifiesState flow hflow ..

theorem CodeProvider.TokenEndpoint.mono {c : CodeProvider} {url : String}
    {log later : List OAuth2Exchange} (hsub : ∀ x ∈ log, x ∈ later)
    (hurl : c.TokenEndpoint log url) : c.TokenEndpoint later url := by
  cases c with
  | gitHub | generic => exact hurl
  | oidc =>
    obtain ⟨reply, hreply, hrest⟩ := hurl
    exact ⟨reply, hsub _ hreply, hrest⟩

section Check

variable {c : CodeProvider} {connectionID : String} {x : OAuth2Exchange}
  {log later : List OAuth2Exchange} {result : Option OAuth2Context}

theorem stateChecked_of_split (hlog : ∀ x ∈ log, x.request.asksCode = false)
    (hlater : ∀ x ∈ later, x.request.asksCode = false)
    (hsuccess : Succeeds result → pastedState x = some connectionID)
    (hcontact : pastedState x ≠ some connectionID → ∀ y ∈ later, ∀ url,
      c.TokenEndpoint (log ++ x :: later) url → ¬ Contacts y url) :
    c.StateChecked connectionID (log ++ x :: later) result := by
  intro before x' after hsplit hx'
  have hnot : ∀ part : List OAuth2Exchange,
      (∀ x ∈ part, x.request.asksCode = false) → x' ∉ part := by
    intro part hpart hmem
    rw [hpart x' hmem] at hx'
    cases hx'
  obtain ⟨-, rfl, rfl⟩ := (List.append_cons_inj_of_notMem (hnot log hlog)
    (hnot later hlater)).mp hsplit
  exact ⟨hsuccess, hcontact⟩

theorem stateChecked_of_unasked (hlog : ∀ x ∈ log, x.request.asksCode = false) :
    c.StateChecked connectionID log result := by
  rintro before x after rfl hx
  rw [hlog x (by simp)] at hx
  cases hx

theorem statesMatch_of_unasked (hlog : ∀ x ∈ log, x.request.asksCode = false) :
    StatesMatch connectionID log := by
  intro x hmem hx
  rw [hlog x hmem] at hx
  cases hx

theorem statesMatch_split_iff (hlog : ∀ x ∈ log, x.request.asksCode = false)
    (hlater : ∀ x ∈ later, x.request.asksCode = false) (hx : x.request.asksCode = true) :
    StatesMatch connectionID (log ++ x :: later) ↔
      ∀ state, pastedState x = some state → state = connectionID := by
  constructor
  · intro hmatch
    exact hmatch x (by simp) hx
  · intro hstate y hy hask
    rcases List.mem_append.mp hy with hy | hy
    · exact statesMatch_of_unasked hlog y hy hask
    · rcases List.mem_cons.mp hy with rfl | hy
      · exact hstate
      · exact statesMatch_of_unasked hlater y hy hask

theorem stateChecked_iff_of_answered {setup : List OAuth2Exchange}
    {state : String} {verified : Option Verified}
    (hlog : ∀ x ∈ log, x.request.asksCode = false) (hsetup : setup <:+ log)
    (hx : x.request.asksCode = true) (hstate : pastedState x = some state)
    (hlater : ∀ x ∈ later, x.request.asksCode = false)
    (hverify : c.VerifiesState connectionID setup state later verified) :
    c.StateChecked connectionID (log ++ x :: later) (verified.map Verified.context) ↔
      c.isGitHub = true ∨ state = connectionID := by
  unfold CodeProvider.VerifiesState at hverify
  constructor
  · intro hchecked
    by_contra hneither
    obtain ⟨hc, hother⟩ := not_or.mp hneither
    rw [if_neg hc] at hverify
    obtain ⟨url, hurl, y, hy, hcontact⟩ := hverify
    have hnone := (hchecked log x later rfl hx).2 (by simpa [hstate])
    apply hnone y hy url _ hcontact
    apply hurl.mono
    intro z hz
    exact List.mem_append_left _ (hsetup.mem hz)
  · intro hor
    by_cases hmatch : state = connectionID
    · apply stateChecked_of_split hlog hlater
      · intro _
        rw [hstate, hmatch]
      · intro hother
        rw [hstate, hmatch] at hother
        exact absurd rfl hother
    · have hc := hor.resolve_right hmatch
      rw [if_pos hc] at hverify
      obtain ⟨rfl, hrefused⟩ := hverify hmatch
      apply stateChecked_of_split hlog hlater
      · exact fun hsuccess => absurd hsuccess hrefused
      · intro _ y hy
        cases hy

theorem stateChecked_iff_of_login (hlogin : Login (fun setup state later verified =>
      c.VerifiesState connectionID setup state later verified) log result) :
    c.StateChecked connectionID log result ↔ c.isGitHub = true ∨ StatesMatch connectionID log := by
  cases hlogin with
  | unasked hlog =>
    exact iff_of_true (stateChecked_of_unasked hlog) (.inr (statesMatch_of_unasked hlog))
  | unanswered hlog hx hstate hresult =>
    apply iff_of_true
    · apply stateChecked_of_split hlog (by simp)
      · exact fun hsuccess => absurd hsuccess hresult
      · intro _ y hy
        cases hy
    · right
      rw [statesMatch_split_iff hlog (by simp) hx, hstate]
      simp
  | answered hlog hsetup hx hstate hlater hverify =>
    rw [stateChecked_iff_of_answered hlog hsetup hx hstate hlater hverify,
      statesMatch_split_iff hlog hlater hx, hstate]
    simp

end Check

/-- The state is checked exactly if the provider is GitHub or every pasted state
is the connection id: the OIDC and the generic flow exchange the code whatever
state comes with it. -/
theorem stateChecked_iff (c : CodeProvider) (metadata : ConnectionAuthPendingMetadata)
    (replies : Nat → (r : OAuth2Request) → r.Reply) (n : Nat) : c.StateChecked metadata.connectionID
        (c.provider.keyboardInteractive metadata replies n).log
        ((c.provider.keyboardInteractive metadata replies n).result.map Prod.fst) ↔
      c.isGitHub = true ∨ StatesMatch metadata.connectionID
        (c.provider.keyboardInteractive metadata replies n).log :=
  stateChecked_iff_of_login ((keyboardInteractive_login c metadata).holds _ _)

/-! A login to a generic provider on the connection "c1" with the code that was
given out for the connection "c2". -/

def tokenService : CodeProvider :=
  .generic
    { urls := ⟨fun _ => none, fun base _ _ => base⟩
      clientID := "containerssh"
      clientSecret := "secret"
      authorizeEndpointURL := "authorize"
      tokenEndpointURL := "token" }

def pendingLogin : ConnectionAuthPendingMetadata where
  remoteAddress := ⟨[127, 0, 0, 1], 2222, ""⟩
  connectionID := "c1"
  clientVersion := "SSH-2.0-OpenSSH"
  username := "alice"

def foreignCode (_ : Nat) : (r : OAuth2Request) → r.Reply
  | .challenge _ _ => .ok [("code", "c2|4f9d")]
  | .newClient _ _ => none
  | .http _ => { statusCode := 200, body := [("access_token", .string "token")] }

theorem foreignCode_not_checked : ¬ tokenService.StateChecked pendingLogin.connectionID
      (tokenService.provider.keyboardInteractive pendingLogin foreignCode 3).log
      ((tokenService.provider.keyboardInteractive pendingLogin foreignCode
        3).result.map Prod.fst) := by
  intro hchecked
  have hstate := (hchecked [_] _ [_] rfl rfl).1 ⟨_, rfl, rfl⟩
  revert hstate
  decide

end ContainerSSH
