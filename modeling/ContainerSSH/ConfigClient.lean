/-
The client of the configuration server, and what repeated requests leak.
-/
import ContainerSSH.OAuth2Oidc
import ContainerSSH.WebhookClient

namespace ContainerSSH

structure ConfigRequest where
  url : String
  metadata : ConnectionAuthenticatedMetadata

abbrev ConfigDialogue : Type → Type := Dialogue ConfigRequest fun _ => HttpReply

/-- The fields of the response by their paths, `config.backend` for instance. -/
abbrev ConfigResponseBody : Type := String → JsonValue

/-- What decoding a reply stores in the field at `path`, if anything: null is
ignored unless it stands at one of `nillable`, the pointers, maps and slices
that hold the field. -/
def HttpReply.stored (reply : HttpReply) (nillable : List String) (path : String) :
    Option JsonValue :=
  match reply.body.lookup path with
  | some .null | none => if nillable.any (reply.body.lookup · = some .null) then some .null else none
  | some value => some value

def HttpReply.decodeInto (reply : HttpReply) (nillable : String → List String)
    (response : ConfigResponseBody) : ConfigResponseBody :=
  fun path => (reply.stored (nillable path) path).getD (response path)

inductive ConfigResult where
  | received (response : ConfigResponseBody)
  | unchanged (metadata : ConnectionAuthenticatedMetadata) (err : Option GoError)

structure ConfigClient where
  httpClient : Option String
  zero : ConfigResponseBody
  nillable : String → List String

namespace ConfigClient

variable (c : ConfigClient) (ctx : Context) (metadata : ConnectionAuthenticatedMetadata)

def configServerRequest (reply : HttpReply) : Option GoError :=
  postError reply.err reply.statusCode (userMessage "CONFIG_INVALID_STATUS_CODE"
      "Cannot authenticate at this time."
      ("Configuration server responded with an invalid status code: " ++ toString reply.statusCode))

def receive (response : ConfigResponseBody) (reply : HttpReply) :
    Dialogue.Verdict ConfigResponseBody ConfigResult :=
  let response := reply.decodeInto c.nillable response
  match configServerRequest reply with
  | none => .finish (.received response)
  | some lastError =>
    if ctx.done reply then
      .finish (.unchanged metadata (some (wrapMessage lastError "CONFIG_BACKEND_ERROR"
          "Configuration request to backend failed, giving up")))
    else .again response

def get : ConfigDialogue ConfigResult :=
  match c.httpClient with
  | none => pure (.unchanged metadata none)
  | some url => Dialogue.retry ⟨url, metadata⟩ (c.receive ctx metadata) c.zero

theorem receive_again {response next : ConfigResponseBody} {reply : HttpReply}
    (h : c.receive ctx metadata response reply = .again next) :
    next = reply.decodeInto c.nillable response := by
  unfold receive at h
  split at h
  · cases h
  · split at h <;> cases h
    rfl

theorem receive_eq_received_iff {response result : ConfigResponseBody} {reply : HttpReply} :
    c.receive ctx metadata response reply = .finish (.received result) ↔
      configServerRequest reply = none ∧ result = reply.decodeInto c.nillable response := by
  unfold receive
  split
  case h_1 hnone => simp [hnone, eq_comm]
  case h_2 hsome =>
    rw [hsome]
    split <;> simp

end ConfigClient

theorem HttpReply.decodeInto_eq_iff (reply : HttpReply) (nillable : String → List String)
    (response response' : ConfigResponseBody) :
    reply.decodeInto nillable response = reply.decodeInto nillable response' ↔
      ∀ path, (reply.stored (nillable path) path).isSome ∨ response path = response' path := by
  rw [funext_iff]
  apply forall_congr'
  intro path
  unfold HttpReply.decodeInto
  cases reply.stored (nillable path) path <;> simp

def ConfigClient.after (c : ConfigClient) (failed : List HttpReply) : ConfigResponseBody :=
  failed.foldl (fun response reply => reply.decodeInto c.nillable response) c.zero

abbrev ConfigClient.Runs (c : ConfigClient) (ctx : Context)
    (metadata : ConnectionAuthenticatedMetadata) (url : String) : Type :=
  @Dialogue.RetryRuns ConfigRequest (fun _ => HttpReply) _ _ ⟨url, metadata⟩
    (c.receive ctx metadata) c.zero fun result => ∃ response, result = .received response

theorem ConfigClient.get_sameAnswer_iff {c : ConfigClient} {url : String}
    (hclient : c.httpClient = some url) (ctx : Context) (metadata : ConnectionAuthenticatedMetadata)
    (runs : c.Runs ctx metadata url) : runs.SameAnswer (c.get ctx metadata) ↔
      ∀ path, (runs.final.stored (c.nillable path) path).isSome ∨
        c.after runs.failed path = c.zero path := by
  obtain ⟨_, hfinal, response, rfl⟩ := runs.accepted
  obtain ⟨hrequest, rfl⟩ := (c.receive_eq_received_iff ctx metadata).mp hfinal
  have hget : c.get ctx metadata =
      Dialogue.retry ⟨url, metadata⟩ (c.receive ctx metadata) c.zero := by
    rw [ConfigClient.get, hclient]
  rw [hget, runs.sameAnswer_iff (fun _ _ _ h => c.receive_again ctx metadata h) hfinal,
    receive_eq_received_iff, ← HttpReply.decodeInto_eq_iff]
  constructor
  · exact fun h => h.2.symm
  · exact fun h => ⟨hrequest, h.symm⟩

def HttpReply.Sets (reply : HttpReply) (name : String) : Prop :=
  ∃ value, reply.body.lookup name = some (.string value)

theorem HttpReply.stringOr_eq_iff (reply : HttpReply) (name old : String) :
    reply.stringOr name old = reply.stringOr name "" ↔ reply.Sets name ∨ old = "" := by
  unfold HttpReply.stringOr HttpReply.Sets
  split
  case h_1 value hvalue => simp [hvalue]
  case h_2 hother =>
    constructor
    · exact .inr
    · rintro (⟨value, hvalue⟩ | hold)
      · exact absurd hvalue (hother value)
      · exact hold

def OAuth2AccessTokenResponse.after (failed : List HttpReply) :
    OAuth2AccessTokenResponse :=
  failed.foldl OAuth2AccessTokenResponse.decode {}

namespace CodeExchange

variable {e : CodeExchange} {ctx : Context} {resp : OAuth2AccessTokenResponse}
  {reply : HttpReply}

theorem receive_again {next : OAuth2AccessTokenResponse}
    (h : e.receive ctx resp reply = .again next) : next = resp.decode reply := by
  unfold receive at h
  dsimp only at h
  split at h
  · cases h
  · split at h
    · cases h
    · split at h <;> cases h
      rfl

theorem receive_eq_token_iff {result : String × Option GoError} (hresult : result.2 = none) :
    e.receive ctx resp reply = .finish result ↔ (reply.err = none ∧ reply.statusCode = 200) ∧
        (resp.decode reply).error = "" ∧ result.1 = (resp.decode reply).accessToken := by
  obtain ⟨token, err⟩ := result
  cases hresult
  unfold receive
  dsimp only
  split
  case isTrue h => simp [h, eq_comm]
  case isFalse h =>
    constructor
    · intro hreceive
      split at hreceive
      · cases hreceive
      · split at hreceive <;> cases hreceive
    · rintro ⟨⟨herr, hstatus⟩, herror, -⟩
      exact absurd ⟨herr, hstatus, herror⟩ h

theorem receive_after_iff {failed : List HttpReply} {final : HttpReply}
    {result : String × Option GoError} (hresult : result.2 = none)
    (hfinal : e.receive ctx {} final = .finish result) :
    e.receive ctx (.after failed) final = .finish result ↔ (final.Sets "error" ∨
        (OAuth2AccessTokenResponse.after failed).error = "") ∧ (final.Sets "access_token" ∨
        (OAuth2AccessTokenResponse.after failed).accessToken = "") := by
  obtain ⟨hstatus, herror, htoken⟩ := (receive_eq_token_iff hresult).mp hfinal
  rw [receive_eq_token_iff hresult, ← HttpReply.stringOr_eq_iff, ← HttpReply.stringOr_eq_iff]
  constructor
  · rintro ⟨-, herror', htoken'⟩
    exact ⟨herror'.trans herror.symm, htoken'.symm.trans htoken⟩
  · rintro ⟨herror', htoken'⟩
    exact ⟨hstatus, herror'.trans herror, htoken.trans htoken'.symm⟩

abbrev Runs (e : CodeExchange) (ctx : Context) : Type :=
  @Dialogue.RetryRuns OAuth2Request OAuth2Request.Reply _ _
    (.http e.request) (e.receive ctx) {} fun result => result.2 = none

theorem getAccessToken_sameAnswer_iff (e : CodeExchange) (ctx : Context) (runs : e.Runs ctx) :
    runs.SameAnswer (e.getAccessToken ctx) ↔ (HttpReply.Sets runs.final "error" ∨
        (OAuth2AccessTokenResponse.after runs.failed).error = "") ∧
      (HttpReply.Sets runs.final "access_token" ∨
        (OAuth2AccessTokenResponse.after runs.failed).accessToken = "") := by
  obtain ⟨result, hfinal, hresult⟩ := runs.accepted
  exact (runs.sameAnswer_iff (fun _ _ _ h => receive_again h) hfinal).trans
    (receive_after_iff hresult hfinal)

end CodeExchange

def failsFirst (body : List (String × JsonValue)) (left : Nat) : HttpReply where
  statusCode := if left = 0 then 200 else 500
  body := if left = 0 then [] else body

def failsFirstOAuth2 (body : List (String × JsonValue)) (left : Nat) : (r : OAuth2Request) → r.Reply
  | .challenge _ _ => .ok []
  | .newClient _ _ => none
  | .http _ => failsFirst body left

def configClient : ConfigClient := ⟨some "", fun _ => .null, fun _ => []⟩

def genericFlow : GenericFlow where
  provider :=
    { urls := ⟨fun _ => none, fun url _ _ => url⟩
      clientID := "id"
      clientSecret := "secret"
      authorizeEndpointURL := "/authorize"
      tokenEndpointURL := "/token" }
  metadata := newTestMetadata.startAuthentication "SSH-2.0-FooSSH" "foo"

end ContainerSSH
