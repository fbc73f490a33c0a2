/-
What a successful GitHub login establishes: which answers of GitHub it rests on, and that none of
them is about the membership in an organization.
-/
import ContainerSSH.OAuth2GitHub
import Mathlib.Data.List.Basic

namespace ContainerSSH

open Dialogue

inductive GitHubVerification where
  | code (flow : GitHubAuthorizationCodeFlow) (state authorizationCode : String)
  | device (flow : GitHubDeviceFlow)

namespace GitHubVerification

def provider : GitHubVerification → GitHubProvider
  | code flow _ _ => flow.provider
  | device flow => flow.provider

def username : GitHubVerification → String
  | code flow _ _ => flow.metadata.username
  | device flow => flow.metadata.username

def verify (ctx : Context) : GitHubVerification → OAuth2 Verified
  | code flow state authorizationCode => do
      let (_, verified) ← flow.verify ctx state authorizationCode
      pure verified
  | device flow => do
      let (_, verified) ← flow.verify ctx
      pure verified

end GitHubVerification

def HttpReply.Ok (reply : HttpReply) : Prop := reply.err = none ∧ reply.statusCode = 200

structure GitHubAnswers (p : GitHubProvider) (log : List OAuth2Exchange) where
  form : List (String × String)
  tokenReply : HttpReply
  userReply : HttpReply
  token_mem : ⟨.http (p.accessTokenRequest form), some tokenReply⟩ ∈ log
  token_ok : tokenReply.Ok
  user_mem : ⟨.http (p.userRequest (tokenReply.string "access_token")), some userReply⟩ ∈ log
  user_ok : userReply.Ok

namespace GitHubAnswers

variable {p : GitHubProvider} {log : List OAuth2Exchange} (a : GitHubAnswers p log)

def grantedScopes : List String := splitString ',' (a.tokenReply.string "scope")

def user : GitHubUserResponse := GitHubUserResponse.decode a.userReply

end GitHubAnswers

def ScopeGranted (grantedScopes : List String) (scope : String) : Prop :=
  scope ∈ grantedScopes ∨ ∃ part rest : String,
    scope = part ++ ":" ++ rest ∧ ':' ∉ part.toList ∧ part ∈ grantedScopes

def HttpRequest.AsksOrganization (r : HttpRequest) : Prop :=
  r.method ≠ "DELETE" ∧ ("/org".toList <:+: r.path.toList ∨ r.path = "/graphql")

def ConfirmsMembership (log : List OAuth2Exchange) : Prop :=
  ∃ (r : HttpRequest) (reply : HttpReply), ⟨.http r, some reply⟩ ∈ log ∧
    r.AsksOrganization ∧ reply.err = none

structure GitHubAnswers.Meet {p : GitHubProvider} {log : List OAuth2Exchange}
    (a : GitHubAnswers p log) (username : String) (verified : Verified) :
    Prop where
  authenticated : verified.metadata.authenticatedUsername = a.user.login
  username : p.enforceUsername = true → a.user.login = username
  twoFactor : p.require2FA = true → a.user.twoFactorAuthentication = some true
  scopes : p.enforceScopes = true → ∀ scope ∈ p.scopes, ScopeGranted a.grantedScopes scope

def LoginPolicy (p : GitHubProvider) (username : String)
    (log : List OAuth2Exchange) (verified : Verified) : Prop :=
  (∃ a : GitHubAnswers p log, a.Meet username verified) ∧
    (p.requiredOrgMembership ≠ "" → ConfirmsMembership log)

variable {scope : String}

theorem splitString_colon {part next : String} {rest : List String}
    (h : splitString ':' scope = part :: next :: rest) :
    ∃ after : String, scope = part ++ ":" ++ after ∧ ':' ∉ part.toList := by
  unfold splitString at h
  by_cases hmem : ':' ∈ scope.toList
  · obtain ⟨before, after, hsplit, hbefore⟩ := List.eq_append_cons_of_mem hmem
    have hcolon : ∀ c ∈ before, (c == ':') = false := by
      intro c hc
      exact beq_false_of_ne (ne_of_mem_of_not_mem hc hbefore)
    rw [hsplit, List.splitOn, List.splitOnP_append_cons_of_forall_mem hcolon
      ':' rfl, List.map_cons] at h
    obtain ⟨rfl, -⟩ := List.cons.inj h
    refine ⟨String.ofList after, ?_, by simpa using hbefore⟩
    apply String.toList_inj.mp
    rw [hsplit]
    simp
  · rw [List.splitOn_eq_singleton hmem] at h
    cases h

theorem GitHubProvider.scopeGranted_sound {grantedScopes : List String}
    (h : scopeGranted grantedScopes scope = true) : ScopeGranted grantedScopes scope := by
  obtain ⟨granted, hmem, hgranted⟩ := List.any_eq_true.mp h
  rcases Bool.or_eq_true_iff.mp hgranted with heq | hpart
  · left
    rwa [← of_decide_eq_true heq]
  · right
    split at hpart
    case h_1 part next rest hsplit =>
      obtain ⟨after, hscope, hcolon⟩ := splitString_colon hsplit
      rw [← of_decide_eq_true hpart] at hmem
      exact ⟨part, after, hscope, hcolon, hmem⟩
    case h_2 => cases hpart

variable {p : GitHubProvider}

theorem GitHubProvider.scopes_of_checkGrantedScopes
    (h : p.checkGrantedScopes scope = none) (henforce : p.enforceScopes = true) :
    ∀ s ∈ p.scopes, ScopeGranted (splitString ',' scope) s := by
  intro s hs
  unfold checkGrantedScopes at h
  simp only [if_pos henforce] at h
  split at h
  case h_1 => cases h
  case h_2 hmissing =>
    have hgranted := List.find?_eq_none.mp hmissing s hs
    exact scopeGranted_sound (by simpa using hgranted)

theorem GitHubProvider.checkUser_eq_none {username : String}
    {user : GitHubUserResponse} (h : p.checkUser username user = none) :
    (p.enforceUsername = true → user.login = username) ∧
      (p.require2FA = true → user.twoFactorAuthentication = some true) := by
  unfold checkUser at h
  split_ifs at h with hname hoff hunknown
  constructor
  · intro henforce
    by_contra hlogin
    exact hname ⟨henforce, hlogin⟩
  · intro hrequire
    cases htwo : user.twoFactorAuthentication with
    | none => exact absurd ⟨htwo, hrequire⟩ hunknown
    | some enabled =>
      cases enabled with
      | true => rfl
      | false => exact absurd ⟨htwo, hrequire⟩ hoff

/-! ### What `Verify` returns -/

def TokenReceived (p : GitHubProvider) (log : List OAuth2Exchange)
    (token : String × Option GoError) : Prop :=
  token.2 = none → ∃ (form : List (String × String)) (reply : HttpReply),
    ⟨.http (p.accessTokenRequest form), some reply⟩ ∈ log ∧ reply.Ok ∧
    p.checkGrantedScopes (reply.string "scope") = none ∧ token.1 = reply.string "access_token"

variable {ctx : Context} {reply : HttpReply} {token : String}

theorem awaitToken_ne_finish {lastError : Option GoError} :
    awaitToken ctx reply lastError ≠ .finish (token, none) := by
  unfold awaitToken
  split <;> simp

/-! An error code of the device flow is tried again or ends with an error. -/

theorem eq_finish_of_await {c : Prop} [Decidable c] {lastError : Option GoError}
    {rest : Verdict Unit (String × Option GoError)}
    (h : (if c then awaitToken ctx reply lastError else rest) =
      .finish (token, none)) : rest = .finish (token, none) := by
  split at h
  · exact absurd h awaitToken_ne_finish
  · exact h

theorem eq_finish_of_error {c : Prop} [Decidable c] {text : String} {err : GoError}
    {rest : Verdict Unit (String × Option GoError)}
    (h : (if c then .finish (text, some err) else rest) =
      .finish (token, none)) : rest = .finish (token, none) := by
  split at h
  · cases h
  · exact h

theorem GitHubAuthorizationCodeFlow.receiveToken_eq_finish {g : GitHubAuthorizationCodeFlow}
    (h : g.receiveToken ctx reply = .finish (token, none)) :
    reply.Ok ∧ g.provider.checkGrantedScopes (reply.string "scope") = none ∧
      token = reply.string "access_token" := by
  unfold receiveToken at h
  split_ifs at h with hstatus herr
  · exact absurd h awaitToken_ne_finish
  · injection h with h
    injection h with htoken hscope
    exact ⟨⟨herr, not_not.mp hstatus⟩, hscope, htoken.symm⟩
  · exact absurd h awaitToken_ne_finish

theorem receiveDeviceToken_eq_finish {interval : Nat}
    {rateLimited : HttpReply → Bool} {checkScopes : String → Option GoError}
    (h : receiveDeviceToken ctx interval rateLimited checkScopes reply = .finish (token, none)) :
    reply.Ok ∧ checkScopes (reply.string "scope") = none ∧ token = reply.string "access_token" := by
  unfold receiveDeviceToken at h
  by_cases hstatus : reply.statusCode = 200
  case neg =>
    rw [if_pos hstatus] at h
    split at h <;> exact absurd h awaitToken_ne_finish
  by_cases herr : reply.err = none
  case neg =>
    rw [if_neg (not_not.mpr hstatus), if_pos herr] at h
    exact absurd h awaitToken_ne_finish
  rw [if_neg (not_not.mpr hstatus), if_neg (not_not.mpr herr)] at h
  have hslow := eq_finish_of_await h
  have hunsupported := eq_finish_of_error (eq_finish_of_error hslow)
  have hcode := eq_finish_of_error (eq_finish_of_error hunsupported)
  have hgranted := eq_finish_of_error (eq_finish_of_error hcode)
  split at hgranted
  · injection hgranted with hgranted
    injection hgranted with htoken hscope
    exact ⟨⟨herr, hstatus⟩, hscope, htoken.symm⟩
  · exact absurd hgranted awaitToken_ne_finish

theorem GitHubAuthorizationCodeFlow.getAccessToken_received
    (g : GitHubAuthorizationCodeFlow) (ctx : Context) (code : String) :
    Returns (g.getAccessToken ctx code) (TokenReceived g.provider) := by
  apply Returns.mono (returns_requestLoop _ _)
  rintro log ⟨token, err⟩ ⟨_, reply, hmem, hreceive⟩ rfl
  exact ⟨_, reply, hmem, receiveToken_eq_finish hreceive⟩

theorem GitHubDeviceFlow.getAccessToken_received (d : GitHubDeviceFlow) (ctx : Context) :
    Returns (d.getAccessToken ctx) (TokenReceived d.provider) := by
  apply Returns.mono (returns_requestLoop _ _)
  rintro log ⟨token, err⟩ ⟨_, reply, hmem, hreceive⟩ rfl
  exact ⟨_, reply, hmem, receiveDeviceToken_eq_finish hreceive⟩

def UserAccepted (p : GitHubProvider) (username accessToken : String)
    (log : List OAuth2Exchange) (verified : Verified) : Prop :=
  verified.err = none → ∃ reply : HttpReply,
    ⟨.http (p.userRequest accessToken), some reply⟩ ∈ log ∧ reply.Ok ∧
    p.checkUser username (GitHubUserResponse.decode reply) = none ∧
    verified.metadata.authenticatedUsername = (GitHubUserResponse.decode reply).login

theorem GitHubFlow.receiveUser_eq_finish {g : GitHubFlow}
    {metadata : ConnectionAuthPendingMetadata} {accessToken : String} {verified : Verified}
    (h : g.receiveUser ctx metadata accessToken reply = .finish verified)
    (herr : verified.err = none) : reply.Ok ∧
      g.provider.checkUser metadata.username (GitHubUserResponse.decode reply) = none ∧
      verified.metadata.authenticatedUsername = (GitHubUserResponse.decode reply).login := by
  unfold receiveUser at h
  split at h
  case isTrue hreply =>
    dsimp only at h
    split at h
    case h_1 =>
      injection h with h
      subst h
      cases herr
    case h_2 hcheck =>
      injection h with h
      subst h
      exact ⟨hreply, hcheck, rfl⟩
  case isFalse =>
    split at h
    · injection h with h
      subst h
      cases herr
    · cases h

theorem GitHubFlow.getIdentity_accepted (g : GitHubFlow) (ctx : Context)
    (metadata : ConnectionAuthPendingMetadata) (accessToken : String) :
    Returns (g.getIdentity ctx metadata accessToken)
      (UserAccepted g.provider metadata.username accessToken) := by
  apply Returns.bind (Q := fun _ _ => True) (returns_ask fun _ => trivial)
  intro log created _
  cases created with
  | some =>
    apply returns_pure
    intro h
    cases h
  | none =>
    apply Returns.mono (returns_requestLoop _ _)
    rintro later verified ⟨_, reply, hmem, hreceive⟩ herr
    exact ⟨reply, List.mem_append_right log hmem, receiveUser_eq_finish hreceive herr⟩

theorem GitHubFlow.identify_accepted (g : GitHubFlow) (ctx : Context)
    (metadata : ConnectionAuthPendingMetadata)
    (failedToken : GitHubFlow → String) (accessToken : String) (err : Option GoError) :
    Returns (g.identify ctx metadata failedToken accessToken err)
      fun log out => out.2.err = none → err = none ∧
        UserAccepted g.provider metadata.username accessToken log out.2 := by
  unfold GitHubFlow.identify
  cases err with
  | some err =>
    apply Returns.mono (Q := fun _ out => out.2.err ≠ none)
    · dsimp only
      split
      · apply returns_bind_of_forall
        intro g'
        exact returns_pure (Option.some_ne_none err)
      · apply returns_bind_of_forall
        intro g'
        exact returns_pure (Option.some_ne_none err)
    · intro log out hout hnone
      exact absurd hnone hout
  | none =>
    apply Returns.bind (GitHubFlow.getIdentity_accepted { g with accessToken } ctx _ _)
    intro log verified haccepted
    apply returns_pure
    intro hnone
    rw [List.append_nil]
    exact ⟨rfl, haccepted⟩

theorem answers_of_received {username : String} {log later : List OAuth2Exchange}
    {token : String × Option GoError} {verified : Verified}
    (htoken : TokenReceived p log token)
    (hverified : verified.err = none → token.2 = none ∧
      UserAccepted p username token.1 later verified) (hnone : verified.err = none) :
    ∃ a : GitHubAnswers p (log ++ later), a.Meet username verified := by
  obtain ⟨hreceived, haccepted⟩ := hverified hnone
  obtain ⟨form, tokenReply, htokenMem, htokenOk, hscopes, heq⟩ := htoken hreceived
  obtain ⟨userReply, huserMem, huserOk, hcheck, hlogin⟩ := haccepted hnone
  rw [heq] at huserMem
  obtain ⟨husername, htwoFactor⟩ := GitHubProvider.checkUser_eq_none hcheck
  exact ⟨{ form, tokenReply, userReply
           token_mem := List.mem_append_left _ htokenMem
           token_ok := htokenOk
           user_mem := List.mem_append_right _ huserMem
           user_ok := huserOk },
    { authenticated := hlogin
      username := husername
      twoFactor := htwoFactor
      scopes := GitHubProvider.scopes_of_checkGrantedScopes hscopes }⟩

theorem identify_answers {Flow : Type} {m : OAuth2 (String × Option GoError)}
    (g : GitHubFlow) (hm : Returns m (TokenReceived g.provider)) (ctx : Context)
    (metadata : ConnectionAuthPendingMetadata)
    (failedToken : GitHubFlow → String) (wrap : GitHubFlow → Flow) : Returns (do
        let (accessToken, err) ← m
        let (flow, verified) ←
          g.identify ctx metadata failedToken accessToken err
        pure (wrap flow, verified))
      fun log out => out.2.err = none → ∃ a : GitHubAnswers g.provider log,
          a.Meet metadata.username out.2 := by
  apply Returns.bind hm
  intro log token htoken
  apply Returns.bind (g.identify_accepted ctx _ _ _ _)
  intro later out hout
  apply returns_pure
  intro hnone
  rw [List.append_nil]
  exact answers_of_received htoken hout hnone

theorem GitHubAuthorizationCodeFlow.verify_answers (g : GitHubAuthorizationCodeFlow) (ctx : Context)
    (state authorizationCode : String) :
    Returns (g.verify ctx state authorizationCode) fun log out =>
      out.2.err = none → ∃ a : GitHubAnswers g.provider log, a.Meet g.metadata.username out.2 := by
  unfold GitHubAuthorizationCodeFlow.verify
  split
  · apply returns_pure
    intro hnone
    cases hnone
  · exact identify_answers g.toGitHubFlow (g.getAccessToken_received ctx _) ctx
      g.metadata _ fun flow => { g with toGitHubFlow := flow }

theorem GitHubDeviceFlow.verify_answers (d : GitHubDeviceFlow) (ctx : Context) :
    Returns (d.verify ctx) fun log out =>
      out.2.err = none → ∃ a : GitHubAnswers d.provider log, a.Meet d.metadata.username out.2 := by
  exact identify_answers d.toGitHubFlow (d.getAccessToken_received ctx) ctx
    d.metadata _ fun flow => { d with toGitHubFlow := flow }

theorem GitHubVerification.verify_answers (v : GitHubVerification) (ctx : Context) :
    Returns (v.verify ctx) fun log verified => verified.err = none →
      ∃ a : GitHubAnswers v.provider log, a.Meet v.username verified := by
  cases v with
  | code flow state authorizationCode =>
    apply Returns.bind (flow.verify_answers ctx state authorizationCode)
    rintro log ⟨flow', verified⟩ hanswers
    apply returns_pure
    rwa [List.append_nil]
  | device flow =>
    apply Returns.bind (flow.verify_answers ctx)
    rintro log ⟨flow', verified⟩ hanswers
    apply returns_pure
    rwa [List.append_nil]

theorem GitHubVerification.verify_sends (v : GitHubVerification)
    (ctx : Context) : OnlyAsks (v.verify ctx) v.provider.Sends := by
  cases v with
  | code flow state authorizationCode =>
    apply OnlyAsks.bind (flow.verify_sends ctx state authorizationCode)
    intro out
    exact onlyAsks_pure _ _
  | device flow =>
    apply OnlyAsks.bind (flow.verify_sends ctx)
    intro out
    exact onlyAsks_pure _ _

theorem GitHubProvider.not_confirmsMembership {log : List OAuth2Exchange}
    (hlog : ∀ x ∈ log, p.Sends x.request) : ¬ ConfirmsMembership log := by
  rintro ⟨r, reply, hmem, ⟨hmethod, hpath⟩, -⟩
  have hpaths : ∀ path ∈ ["/login/device/code", "/login/oauth/access_token",
      "/user"], ¬ ("/org".toList <:+: path.toList ∨ path = "/graphql") := by
    decide +kernel
  rcases hlog _ hmem with rfl | ⟨form, rfl⟩ | ⟨token, rfl | rfl⟩
  · exact hpaths "/login/device/code" (by simp) hpath
  · exact hpaths "/login/oauth/access_token" (by simp) hpath
  · exact hpaths "/user" (by simp) hpath
  · exact hmethod rfl

/-- Every login without an error meets the policy exactly if no membership is
required: a required membership is never asked for. -/
theorem loginPolicy_iff (v : GitHubVerification) (ctx : Context)
    (replies : Nat → (r : OAuth2Request) → r.Reply) (n left : Nat) (verified : Verified)
    (hresult : (v.verify ctx replies n).result = some (verified, left))
    (herr : verified.err = none) :
    LoginPolicy v.provider v.username (v.verify ctx replies n).log verified ↔
      v.provider.requiredOrgMembership = "" := by
  have hanswers := (v.verify_answers ctx).holds replies n verified (by rw [hresult]; rfl) herr
  have hnone := GitHubProvider.not_confirmsMembership ((v.verify_sends ctx).holds replies n)
  constructor
  · rintro ⟨-, horganization⟩
    by_contra hrequired
    exact hnone (horganization hrequired)
  · intro hempty
    exact ⟨hanswers, fun hrequired => absurd hempty hrequired⟩

/-! A login of "alice" with the authorization code flow.  GitHub grants the
scopes and reports the user; it is not asked for more. -/

def aliceLogin (requiredOrgMembership : String) : GitHubVerification :=
  .code
    { provider :=
        { urls := ⟨fun _ => none, fun base _ _ => base⟩
          url := "https://github.com"
          apiURL := "https://api.github.com"
          clientID := "containerssh"
          clientSecret := "secret"
          requiredOrgMembership
          scopes := ["repo:status"]
          enforceScopes := true
          require2FA := true }
      metadata :=
        { remoteAddress := ⟨[127, 0, 0, 1], 2222, ""⟩
          connectionID := "c1"
          clientVersion := "SSH-2.0-OpenSSH"
          username := "alice" } }
    "c1" "4f9d"

def gitHubReply (_ : Nat) : (r : OAuth2Request) → r.Reply
  | .challenge _ _ => .ok []
  | .newClient _ _ => none
  | .http r =>
    if r.path = "/user" then
      { statusCode := 200
        body := [("login", .string "alice"), ("two_factor_authentication", .bool true)] }
    else
      { statusCode := 200
        body := [("access_token", .string "token"), ("scope", .string "repo,read:user,read:org")] }

theorem loginPolicy_aliceLogin : ∃ verified left,
      ((aliceLogin "").verify .todo gitHubReply 3).result =
        some (verified, left) ∧ verified.err = none ∧ LoginPolicy (aliceLogin "").provider "alice"
        ((aliceLogin "").verify .todo gitHubReply 3).log verified :=
  ⟨_, _, rfl, rfl, (loginPolicy_iff _ _ _ _ _ _ rfl rfl).mpr rfl⟩

theorem outsider_logs_in : ∃ verified left,
      ((aliceLogin "containerssh").verify .todo gitHubReply 3).result =
        some (verified, left) ∧ verified.err = none ∧
      ¬ LoginPolicy (aliceLogin "containerssh").provider "alice"
        ((aliceLogin "containerssh").verify .todo gitHubReply 3).log verified := by
  refine ⟨_, _, rfl, rfl, ?_⟩
  rintro ⟨-, horganization⟩
  have hnone := GitHubProvider.not_confirmsMembership
    (((aliceLogin "containerssh").verify_sends .todo).holds gitHubReply 3)
  exact hnone (horganization (by decide))

/-! ### Requested and granted scopes -/

namespace GitHubProvider

def requestedScopes (p : GitHubProvider) : List String :=
  addScope p.require2FA "user" "read:user"
    (addScope (p.requiredOrgMembership ≠ "") "org" "read:org" p.scopes)

theorem getScope_eq (p : GitHubProvider) : p.getScope = ",".intercalate p.requestedScopes := rfl

variable {scope : String}

theorem mem_addScope_of_mem {needed : Bool} {wide s : String} {scopes : List String}
    (hs : s ∈ scopes) : s ∈ addScope needed wide scope scopes := by
  rw [addScope]
  split
  · exact List.mem_append_left _ hs
  · exact hs

theorem mem_or_eq_of_mem_addScope {needed : Bool} {wide s : String}
    {scopes : List String} (hs : s ∈ addScope needed wide scope scopes) :
    s ∈ scopes ∨ s = scope := by
  rw [addScope] at hs
  split at hs
  · exact (List.mem_append.mp hs).imp id List.mem_singleton.mp
  · exact .inl hs

theorem mem_addScope (wide scope : String) (scopes : List String) :
    wide ∈ addScope true wide scope scopes ∨ scope ∈ addScope true wide scope scopes := by
  rw [addScope]
  split
  · exact .inr (by simp)
  next hthere => exact Decidable.not_not.mp fun hnone => hthere ⟨rfl, hnone⟩

theorem checkGrantedScopes_of_requested {p : GitHubProvider}
    (h : ∀ s ∈ p.requestedScopes, s ∈ splitString ',' scope) :
    p.checkGrantedScopes scope = none := by
  have hscopes : ∀ s ∈ p.scopes, scopeGranted (splitString ',' scope) s = true := by
    intro s hs
    have hgranted := h s (mem_addScope_of_mem (mem_addScope_of_mem hs))
    exact List.any_eq_true.mpr ⟨s, hgranted, by simp⟩
  have horg : p.requiredOrgMembership ≠ "" →
      "org" ∈ splitString ',' scope ∨ "read:org" ∈ splitString ',' scope := by
    intro hrequired
    have hadded := mem_addScope "org" "read:org" p.scopes
    rw [← decide_eq_true hrequired] at hadded
    exact hadded.imp (fun hmem => h _ (mem_addScope_of_mem hmem))
      fun hmem => h _ (mem_addScope_of_mem hmem)
  have hmissing : p.scopes.find? (fun requiredScope =>
      !scopeGranted (splitString ',' scope) requiredScope) = none :=
    List.find?_eq_none.mpr fun s hs => by simp [hscopes s hs]
  simp only [checkGrantedScopes, hmissing, ite_self]
  exact if_neg fun hdenied => hdenied.2 (horg hdenied.1)

theorem mem_splitString_intercalate {granted : List String}
    (hcomma : ',' ∉ scope.toList) (hmem : scope ∈ granted) :
    scope ∈ splitString ',' (",".intercalate granted) := by
  induction granted with
  | nil => cases hmem
  | cons first rest ih =>
    cases rest with
    | nil =>
      obtain rfl := List.mem_singleton.mp hmem
      rw [String.intercalate_singleton, splitString, List.splitOn_eq_singleton hcomma]
      simp
    | cons next rest =>
      have hsplit : splitString ',' (",".intercalate (first :: next :: rest)) =
          splitString ',' first ++ splitString ',' (",".intercalate (next :: rest)) := by
        rw [splitString, String.intercalate_cons_cons, String.toList_append,
          String.toList_append, List.append_assoc]
        exact (congrArg (List.map String.ofList)
          (List.splitOnP_append_cons _ _ rfl)).trans List.map_append
      rw [hsplit, List.mem_append]
      rcases List.mem_cons.mp hmem with rfl | hrest
      · left
        rw [splitString, List.splitOn_eq_singleton hcomma]
        simp
      · exact .inr (ih hrest)

/-- What is requested is accepted when it is granted, and also as part of any
longer list. -/
theorem requested_scopes_accepted (p : GitHubProvider) (hcomma : ∀ s ∈ p.scopes, ',' ∉ s.toList) :
    p.checkGrantedScopes p.getScope = none ∧ ∀ granted : List String, p.requestedScopes ⊆ granted →
        p.checkGrantedScopes (",".intercalate granted) = none := by
  have hrequested : ∀ s ∈ p.requestedScopes, ',' ∉ s.toList := by
    intro s hs
    rcases mem_or_eq_of_mem_addScope hs with hs | rfl
    · rcases mem_or_eq_of_mem_addScope hs with hs | rfl
      · exact hcomma s hs
      · decide
    · decide
  have haccepted : ∀ granted : List String, p.requestedScopes ⊆ granted →
      p.checkGrantedScopes (",".intercalate granted) = none :=
    fun granted hsub => checkGrantedScopes_of_requested fun s hs =>
      mem_splitString_intercalate (hrequested s hs) (hsub hs)
  refine ⟨?_, haccepted⟩
  rw [getScope_eq]
  exact haccepted p.requestedScopes (List.Subset.refl _)

theorem requested_scopes_accepted_alice : (aliceLogin "containerssh").provider.getScope =
        "repo:status,read:org,read:user" ∧ (aliceLogin "containerssh").provider.checkGrantedScopes
        "repo:status,read:org,read:user" = none ∧
      (aliceLogin "containerssh").provider.checkGrantedScopes
        "gist,read:user,repo:status,read:org" = none := by
  have haccepted := requested_scopes_accepted (aliceLogin "containerssh").provider
    (by decide +kernel)
  refine ⟨by decide +kernel, haccepted.1, ?_⟩
  exact haccepted.2 ["gist", "read:user", "repo:status", "read:org"] (by decide +kernel)

end GitHubProvider

end ContainerSSH
