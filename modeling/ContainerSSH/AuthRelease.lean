/-
The authentication contexts of one connection.
-/
import ContainerSSH.AuthHandlers
import ContainerSSH.ListBlocks
import ContainerSSH.TransitionSystem

namespace ContainerSSH.AuthIntegration

inductive Behavior where
  | noPassthrough
  | passthroughOnFailure
  | passthroughOnSuccess
  | passthroughOnUnavailable
deriving DecidableEq

structure AuthenticationContext where
  success : Bool
  error : Option GoError
  metadata : ConnectionAuthenticatedMetadata
deriving DecidableEq

structure Config where
  behavior : Behavior
  passwordAuthenticator : Bool
  publicKeyAuthenticator : Bool
  keyboardInteractiveAuthenticator : Bool
  gssapiAuthenticator : Bool

structure Issued where
  context : AuthenticationContext
  disconnects : Nat := 0
deriving DecidableEq

structure Handler where
  authContext : Option Nat := none
  issued : List Issued := []
  latestSuccess : Option Nat := none
  releasedEarly : Bool := false

namespace Handler

variable (h : Handler)

def disconnect (i : Nat) : Handler :=
  { h with issued := h.issued.modify i fun c => { c with disconnects := c.disconnects + 1 } }

def release : Handler :=
  match h.authContext with
  | none => h
  | some i =>
    { h.disconnect i with releasedEarly := h.releasedEarly || decide (h.latestSuccess = some i) }

def replace (context : AuthenticationContext) (outcome : AuthOutcome) : Handler :=
  { h with
    authContext := some h.issued.length
    issued := h.issued ++ [{ context }]
    latestSuccess :=
      if outcome.response = authResponseSuccess then some h.issued.length
      else h.latestSuccess }

def answer (behavior : Behavior) (context : AuthenticationContext)
    (unavailable failure success backend : AuthOutcome) : AuthOutcome :=
  if context.success then if behavior = .passthroughOnSuccess then backend else success
  else
    match context.error with
    | some _ => if behavior = .passthroughOnUnavailable then backend else unavailable
    | none => if behavior = .passthroughOnFailure then backend else failure

def attempt (enabled : Bool) (disabled outcome : AuthOutcome)
    (context : AuthenticationContext) : Handler × AuthOutcome :=
  if enabled then (h.release.replace context outcome, outcome)
  else (h.release, disabled)

def methodDisabled (metadata : ConnectionAuthPendingMetadata)
    (explanation : String) : AuthOutcome :=
  ⟨authResponseUnavailable, metadata.authFailed, some (userMessage "SSH_AUTH_UNAVAILABLE"
      "This authentication method is currently unavailable." explanation)⟩

variable (config : Config)

def onAuthPassword (metadata : ConnectionAuthPendingMetadata)
    (context : AuthenticationContext) (backend : AuthOutcome) :
    Handler × AuthOutcome :=
  h.attempt config.passwordAuthenticator
    (methodDisabled metadata "Password authentication is disabled.") (answer config.behavior context
      ⟨authResponseUnavailable, metadata.authFailed, context.error⟩
      ⟨authResponseFailure, metadata.authFailed, none⟩
      ⟨authResponseSuccess, context.metadata, none⟩ backend) context

def onAuthPubKey (metadata : ConnectionAuthPendingMetadata)
    (context : AuthenticationContext) (backend : AuthOutcome) :
    Handler × AuthOutcome :=
  h.attempt config.publicKeyAuthenticator
    (methodDisabled metadata "Public key authentication is disabled.")
    (answer config.behavior context ⟨authResponseUnavailable, context.metadata, context.error⟩
      ⟨authResponseFailure, context.metadata, context.error⟩
      ⟨authResponseSuccess, context.metadata, context.error⟩ backend) context

def onAuthKeyboardInteractive (metadata : ConnectionAuthPendingMetadata)
    (context : AuthenticationContext) (backend : AuthOutcome) :
    Handler × AuthOutcome :=
  h.attempt config.keyboardInteractiveAuthenticator
    (methodDisabled metadata "Keyboard-interactive authentication is disabled.")
    (answer config.behavior context ⟨authResponseUnavailable, context.metadata, context.error⟩
      ⟨authResponseFailure, context.metadata, context.error⟩
      ⟨authResponseSuccess, context.metadata, context.error⟩ backend) context

def onAuthGSSAPI (success : Bool) : Handler :=
  { h with latestSuccess := if config.gssapiAuthenticator ∧ success then none else h.latestSuccess }

def onDisconnect : Handler :=
  match h.authContext with
  | none => h
  | some i => h.disconnect i

end Handler

inductive Attempt where
  | password (metadata : ConnectionAuthPendingMetadata)
      (context : AuthenticationContext) (backend : AuthOutcome)
  | publicKey (metadata : ConnectionAuthPendingMetadata)
      (context : AuthenticationContext) (backend : AuthOutcome)
  | keyboardInteractive (metadata : ConnectionAuthPendingMetadata)
      (context : AuthenticationContext) (backend : AuthOutcome)
  | gssapi (success : Bool)

def Handler.step (config : Config) (h : Handler) : Attempt → Handler
  | .password metadata context backend => (h.onAuthPassword config metadata context backend).1
  | .publicKey metadata context backend => (h.onAuthPubKey config metadata context backend).1
  | .keyboardInteractive metadata context backend =>
    (h.onAuthKeyboardInteractive config metadata context backend).1
  | .gssapi success => h.onAuthGSSAPI config success

def attempts (config : Config) : TransitionSystem Handler Attempt where
  init := {}
  step := fun h attempt => some (h.step config attempt)

/-- Each context is released once, and not while it is that of the login. -/
structure Handler.Released (h : Handler) : Prop where
  once : ∀ c ∈ h.issued, c.disconnects = 1
  timely : h.releasedEarly = false

def Attempt.enabled? (config : Config) : Attempt → Option Bool
  | .password _ _ _ => some config.passwordAuthenticator
  | .publicKey _ _ _ => some config.publicKeyAuthenticator
  | .keyboardInteractive _ _ _ => some config.keyboardInteractiveAuthenticator
  | .gssapi _ => none

/-- The attempt touches no context, or its method is enabled and it drops none of a login. -/
def Replaces (config : Config) (h : Handler) (attempt : Attempt) : Prop :=
  attempt.enabled? config = none ∨ h.authContext = none ∨
    attempt.enabled? config = some true ∧ h.latestSuccess ≠ h.authContext

instance decidableReplaces (config : Config) (h : Handler) (attempt : Attempt) :
    Decidable (Replaces config h attempt) :=
  inferInstanceAs (Decidable (_ ∨ _))

namespace Handler

variable {config : Config} {h : Handler} {attempt : Attempt}

def Held (h : Handler) : Prop := ∀ i, h.authContext = some i → i < h.issued.length

structure Orderly (h : Handler) : Prop where
  released : ∀ i c, h.issued[i]? = some c → c.disconnects = if h.authContext = some i then 0 else 1
  timely : h.releasedEarly = false

inductive Does (config : Config) (h : Handler) (attempt : Attempt) :
    Handler → Prop
  | ignores (latest : Option Nat) (henabled : attempt.enabled? config = none) :
      Does config h attempt { h with latestSuccess := latest }
  | releases (henabled : attempt.enabled? config = some false) : Does config h attempt h.release
  | replaces (context : AuthenticationContext) (outcome : AuthOutcome)
      (henabled : attempt.enabled? config = some true) :
      Does config h attempt (h.release.replace context outcome)

theorem does_attempt {enabled : Bool} (henabled : attempt.enabled? config = some enabled)
    (disabled outcome : AuthOutcome) (context : AuthenticationContext) :
    Does config h attempt (h.attempt enabled disabled outcome context).1 := by
  cases enabled with
  | false => exact .releases henabled
  | true => exact .replaces context outcome henabled

theorem does_step (config : Config) (h : Handler) (attempt : Attempt) :
    Does config h attempt (h.step config attempt) := by
  cases attempt with
  | password | publicKey | keyboardInteractive => exact does_attempt rfl _ _ _
  | gssapi => exact .ignores _ rfl

@[simp]
theorem release_authContext : h.release.authContext = h.authContext := by
  unfold release
  split <;> rfl

@[simp]
theorem release_length : h.release.issued.length = h.issued.length := by
  unfold release
  split
  · rfl
  · exact List.length_modify ..

theorem getElem?_release (i : Nat) : h.release.issued[i]? = (h.issued[i]?).map fun c =>
      { c with disconnects := c.disconnects + if h.authContext = some i then 1 else 0 } := by
  unfold release
  split
  · next hnone => simp [hnone]
  · next j hsome =>
      by_cases hi : j = i
      · simp [disconnect, hsome, hi]
      · simp [disconnect, hsome, hi]

theorem releasedEarly_release : h.release.releasedEarly = (h.releasedEarly ||
        decide (h.authContext ≠ none ∧ h.latestSuccess = h.authContext)) := by
  unfold release
  split
  · next hnone => simp [hnone]
  · next i hsome => simp [hsome]

theorem Held.step (hheld : h.Held) : (h.step config attempt).Held := by
  have hdoes := does_step config h attempt
  generalize h.step config attempt = next at hdoes
  cases hdoes with
  | ignores => exact hheld
  | releases =>
    intro i hi
    rw [release_authContext] at hi
    rw [release_length]
    exact hheld i hi
  | replaces =>
    intro i hi
    simp only [replace, Option.some.injEq] at hi
    simp [replace, ← hi]

theorem orderly_release_iff (hheld : h.Held) :
    h.release.Orderly ↔ h.Orderly ∧ h.authContext = none := by
  constructor
  · intro horderly
    have hnone : h.authContext = none := by
      by_contra hsome
      obtain ⟨i, hi⟩ := Option.ne_none_iff_exists'.mp hsome
      have hreleased := horderly.released i _ (by
        rw [getElem?_release, List.getElem?_eq_getElem (hheld i hi)]
        rfl)
      simp [hi] at hreleased
    have hsame : h.release = h := by simp [release, hnone]
    exact ⟨hsame ▸ horderly, hnone⟩
  · rintro ⟨horderly, hnone⟩
    have hsame : h.release = h := by simp [release, hnone]
    rwa [hsame]

theorem disconnects_release_iff : (∀ (i : Nat) (c : Issued), h.release.issued[i]? = some c →
        c.disconnects = 1) ↔ ∀ i c, h.issued[i]? = some c →
        c.disconnects = if h.authContext = some i then 0 else 1 := by
  constructor
  · intro hall i c hc
    have hreleased := hall i _ (by rw [getElem?_release, hc, Option.map_some])
    dsimp only at hreleased
    split_ifs at hreleased ⊢ <;> omega
  · intro hall i c hc
    rw [getElem?_release, Option.map_eq_some_iff] at hc
    obtain ⟨old, hold, rfl⟩ := hc
    have hmissing := hall i old hold
    dsimp only
    split_ifs at hmissing ⊢ <;> omega

theorem orderly_replace_iff (context : AuthenticationContext) (outcome : AuthOutcome) :
    (h.release.replace context outcome).Orderly ↔
      h.Orderly ∧ (h.authContext = none ∨ h.latestSuccess ≠ h.authContext) := by
  -- the contexts of before are no longer in the field
  have hreleased : (∀ (i : Nat) (c : Issued),
      (h.release.replace context outcome).issued[i]? = some c → c.disconnects =
          if (h.release.replace context outcome).authContext = some i then 0
          else 1) ↔ ∀ (i : Nat) (c : Issued), h.release.issued[i]? = some c →
        c.disconnects = 1 := by
    have hothers : ∀ (i : Nat) (c : Issued), h.release.issued[i]? = some c →
        h.release.issued.length ≠ i := by
      intro i c hc
      have hlt := (List.getElem?_eq_some_iff.mp hc).1
      omega
    have hnew : ({ context } : Issued).disconnects =
        if h.release.issued.length = h.release.issued.length then 0 else 1 := by
      rw [if_pos rfl]
    simp only [replace, Option.some.injEq]
    refine (ListBlocks.forall_getElem?_append_singleton hnew).trans ?_
    exact forall_congr' fun i => forall_congr' fun c =>
      imp_congr_right fun hc => by rw [if_neg (hothers i c hc)]
  have htimely : (h.release.replace context outcome).releasedEarly = false ↔
      h.releasedEarly = false ∧ (h.authContext = none ∨ h.latestSuccess ≠ h.authContext) := by
    have hrelease := h.releasedEarly_release
    simp only [replace, hrelease, Bool.or_eq_false_iff, decide_eq_false_iff_not,
      not_and, ne_eq, ← or_iff_not_imp_left]
  rw [disconnects_release_iff] at hreleased
  constructor
  · rintro ⟨hcounts, hlate⟩
    obtain ⟨hold, hnew⟩ := htimely.mp hlate
    exact ⟨⟨hreleased.mp hcounts, hold⟩, hnew⟩
  · rintro ⟨⟨hcounts, hold⟩, hnew⟩
    exact ⟨hreleased.mpr hcounts, htimely.mpr ⟨hold, hnew⟩⟩

theorem orderly_step_iff (hheld : h.Held) :
    (h.step config attempt).Orderly ↔ h.Orderly ∧ Replaces config h attempt := by
  have hdoes := does_step config h attempt
  generalize h.step config attempt = next at hdoes
  cases hdoes with
  | ignores latest henabled =>
    have hreplaces : Replaces config h attempt := .inl henabled
    exact ⟨fun horderly => ⟨⟨horderly.released, horderly.timely⟩, hreplaces⟩,
      fun horderly => ⟨horderly.1.released, horderly.1.timely⟩⟩
  | releases henabled =>
    rw [orderly_release_iff hheld]
    simp [Replaces, henabled]
  | replaces context outcome henabled =>
    rw [orderly_replace_iff]
    simp [Replaces, henabled]

theorem onDisconnect_issued : h.onDisconnect.issued = h.release.issued := by
  unfold onDisconnect release
  split <;> rfl

theorem onDisconnect_releasedEarly : h.onDisconnect.releasedEarly = h.releasedEarly := by
  unfold onDisconnect
  split <;> rfl

theorem released_onDisconnect_iff : h.onDisconnect.Released ↔ h.Orderly := by
  have hall : (∀ c ∈ h.onDisconnect.issued, c.disconnects = 1) ↔
      ∀ (i : Nat) (c : Issued), h.release.issued[i]? = some c → c.disconnects = 1 := by
    rw [onDisconnect_issued]
    constructor
    · exact fun hmem i c hc => hmem c (List.mem_of_getElem? hc)
    · intro hget c hc
      obtain ⟨i, hi⟩ := List.getElem?_of_mem hc
      exact hget i c hi
  rw [disconnects_release_iff] at hall
  constructor
  · intro hreleased
    have htimely := hreleased.timely
    rw [onDisconnect_releasedEarly] at htimely
    exact ⟨hall.mp hreleased.once, htimely⟩
  · intro horderly
    refine ⟨hall.mpr horderly.released, ?_⟩
    rw [onDisconnect_releasedEarly]
    exact horderly.timely

end Handler

/-- After a disconnect every context was released once, and none too early,
exactly if each attempt replaced the context that it found. -/
theorem contexts_released_iff {config : Config} {actions : List Attempt}
    {h : Handler} (hrun : (attempts config).run actions = some h) : h.onDisconnect.Released ↔
      (attempts config).Meets (Replaces config) {} actions := by
  have hheld : ({} : Handler).Held := by simp [Handler.Held]
  have horderly : ({} : Handler).Orderly := ⟨by simp, rfl⟩
  have hstays : ∀ h a t, Handler.Held h → (attempts config).step h a = some t →
      t.Held := by
    intro h a t hh hstep
    rw [← Option.some.inj hstep]
    exact hh.step
  have hgoes : ∀ h a t, Handler.Held h → (attempts config).step h a = some t →
      (t.Orderly ↔ h.Orderly ∧ Replaces config h a) := by
    intro h a t hh hstep
    rw [← Option.some.inj hstep]
    exact Handler.orderly_step_iff hh
  rw [Handler.released_onDisconnect_iff,
    (attempts config).runFrom_iff_meets hstays hgoes hheld hrun]
  exact and_iff_right horderly

def twoMethods : Config where
  behavior := .noPassthrough
  passwordAuthenticator := true
  publicKeyAuthenticator := true
  keyboardInteractiveAuthenticator := false
  gssapiAuthenticator := true

def someUser : ConnectionAuthPendingMetadata :=
  newTestMetadata.startAuthentication "SSH-2.0-test" "foo"

def refusal : AuthenticationContext := ⟨false, none, someUser.authFailed⟩

def login : AuthenticationContext := ⟨true, none, someUser.authenticated "foo"⟩

def unasked : AuthOutcome := ⟨authResponseFailure, someUser.authFailed, none⟩

theorem contexts_released_login : ∃ h, (attempts twoMethods).run [.gssapi false,
        .password someUser refusal unasked, .publicKey someUser login unasked] = some h ∧
      h.issued.length = 2 ∧ h.onDisconnect.Released := by
  refine TransitionSystem.exists_run _ rfl fun h hrun => ?_
  have hlength : h.issued.length = 2 := by rw [← Option.some.inj hrun]; rfl
  exact ⟨hlength, (contexts_released_iff hrun).mpr (by decide)⟩

/-- A method that is disabled leaves a context behind that was released, and it
is released once more.  A login that is followed by another attempt is released
during that. -/
theorem context_released_twice :
    (∃ h, (attempts twoMethods).run [.password someUser refusal unasked,
        .keyboardInteractive someUser login unasked] = some h ∧
      h.onDisconnect.issued.map Issued.disconnects = [2] ∧ ¬ h.onDisconnect.Released) ∧
    ∃ h, (attempts twoMethods).run [.password someUser login unasked,
        .publicKey someUser refusal unasked] = some h ∧
      h.onDisconnect.issued.map Issued.disconnects = [1, 1] ∧
      h.releasedEarly = true ∧ ¬ h.onDisconnect.Released := by
  refine ⟨⟨_, rfl, rfl, ?_⟩, ⟨_, rfl, rfl, rfl, ?_⟩⟩
  · intro hreleased
    exact absurd (hreleased.once ⟨refusal, 2⟩ (by decide)) (by decide)
  · intro hreleased
    exact Bool.false_ne_true hreleased.timely.symm

end ContainerSSH.AuthIntegration
