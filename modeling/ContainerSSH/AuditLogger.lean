/-
The audit logger of one connection.
-/
import ContainerSSH.AuditMessage
import ContainerSSH.AuthHandlers
import Mathlib.Data.List.Basic

namespace ContainerSSH.AuditLog

structure InterceptConfig where
  stdin : Bool := false
  stdout : Bool := false
  stderr : Bool := false
  passwords : Bool := false
  forwarding : Bool := false

inductive Event where
  | onDisconnect
  | onAuthPassword (username : String) (password : List UInt8)
  | onAuthPasswordSuccess (username : String) (password : List UInt8)
  | onAuthPasswordFailed (username : String) (password : List UInt8)
  | onAuthPasswordBackendError (username : String) (password : List UInt8) (reason : String)
  | onAuthPubKey (username pubKey : String)
  | onAuthPubKeySuccess (username pubKey : String)
  | onAuthPubKeyFailed (username pubKey : String)
  | onAuthPubKeyBackendError (username pubKey reason : String)
  | onAuthKeyboardInteractiveChallenge (username instruction : String)
      (questions : List KeyboardInteractiveQuestion)
  | onAuthKeyboardInteractiveAnswer (username : String) (answers : List KeyboardInteractiveAnswer)
  | onAuthKeyboardInteractiveFailed (username : String)
  | onAuthKeyboardInteractiveBackendError (username reason : String)
  | onHandshakeFailed (reason : String)
  | onHandshakeSuccessful (username : String)
  | onGlobalRequestUnknown (requestType : String)
  | onGlobalRequestDecodeFailed (requestID : UInt64) (requestType : String)
      (payload : List UInt8) (reason : GoError)
  | onNewChannel (channelID : Option UInt64) (channelType : String)
  | onNewChannelFailed (channelID : Option UInt64) (channelType reason : String)
  | onNewChannelSuccess (channelID : Option UInt64) (channelType : String)
  | onRequestTCPReverseForward (bindHost : String) (bindPort : UInt32)
  | onRequestCancelTCPReverseForward (bindHost : String) (bindPort : UInt32)
  | onTCPForwardChannel (channelID : Option UInt64) (hostToConnect : String)
      (portToConnect : UInt32) (originatorHost : String) (originatorPort : UInt32)
  | onReverseForwardChannel (channelID : Option UInt64)
      (connectedHost : String) (connectedPort : UInt32)
      (originatorHost : String) (originatorPort : UInt32)
  | onReverseStreamLocalChannel (channelID : Option UInt64) (path : String)
  | onReverseX11ForwardChannel (channelID : Option UInt64)
      (originatorHost : String) (originatorPort : UInt32)
  | onDirectStreamLocal (channelID : Option UInt64) (path : String)
  | onRequestStreamLocal (path : String)
  | onRequestCancelStreamLocal (path : String)
  | onRequestUnknown (channelID : Option UInt64) (requestID : UInt64)
      (requestType : String) (payload : List UInt8)
  | onRequestDecodeFailed (channelID : Option UInt64) (requestID : UInt64)
      (requestType : String) (payload : List UInt8) (reason : String)
  | onRequestSetEnv (channelID : Option UInt64) (requestID : UInt64) (name value : String)
  | onRequestExec (channelID : Option UInt64) (requestID : UInt64) (program : String)
  | onRequestPty (channelID : Option UInt64) (requestID : UInt64)
      (term : String) (columns rows width height : UInt32) (modeList : List UInt8)
  | onRequestX11 (channelID : Option UInt64) (requestID : UInt64)
      (singleConnection : Bool) (protocol cookie : String) (screen : UInt32)
  | onRequestShell (channelID : Option UInt64) (requestID : UInt64)
  | onRequestSignal (channelID : Option UInt64) (requestID : UInt64) (signal : String)
  | onRequestSubsystem (channelID : Option UInt64) (requestID : UInt64) (subsystem : String)
  | onRequestWindow (channelID : Option UInt64) (requestID : UInt64)
      (columns rows width height : UInt32)
  | onRequestFailed (channelID : Option UInt64) (requestID : UInt64) (reason : GoError)
  | onExit (channelID : Option UInt64) (exitStatus : UInt32)
  | onExitSignal (channelID : Option UInt64) (signal : String)
      (coreDumped : Bool) (errorMessage languageTag : String)
  | onWriteClose (channelID : Option UInt64)
  | onClose (channelID : Option UInt64)
  | forwardingRead (channelID : Option UInt64) (data : List UInt8)
  | forwardingWrite (channelID : Option UInt64) (data : List UInt8)
  | stdinRead (channelID : Option UInt64) (data : List UInt8)
  | stdoutWrite (channelID : Option UInt64) (data : List UInt8)
  | stderrWrite (channelID : Option UInt64) (data : List UInt8)
deriving DecidableEq

structure Entry where
  messageType : MessageType
  payload : Option Payload := none
  channelID : Option UInt64 := none

def ioEntry (intercepted : Bool) (channelID : Option UInt64) (stream : Stream)
    (data : List UInt8) : Option Entry :=
  if intercepted && !data.isEmpty then some ⟨.io, some (.io stream data), channelID⟩
  else none

def Event.entry (intercept : InterceptConfig) : Event → Option Entry
  | onDisconnect => some ⟨.disconnect, none, none⟩
  | onAuthPassword username password =>
    some ⟨.authPassword, some (.authPassword username password), none⟩
  | onAuthPasswordSuccess username password =>
    some ⟨.authPasswordSuccessful, some (.authPassword username password), none⟩
  | onAuthPasswordFailed username password =>
    some ⟨.authPasswordFailed, some (.authPassword username password), none⟩
  | onAuthPasswordBackendError username password reason =>
    some ⟨.authPasswordBackendError,
      some (.authPasswordBackendError username password reason), none⟩
  | onAuthPubKey username pubKey => some ⟨.authPubKey, some (.authPubKey username pubKey), none⟩
  | onAuthPubKeySuccess username pubKey =>
    some ⟨.authPubKeySuccessful, some (.authPubKey username pubKey), none⟩
  | onAuthPubKeyFailed username pubKey =>
    some ⟨.authPubKeyFailed, some (.authPubKey username pubKey), none⟩
  | onAuthPubKeyBackendError username pubKey reason =>
    some ⟨.authPubKeyBackendError, some (.authPubKeyBackendError username pubKey reason), none⟩
  | onAuthKeyboardInteractiveChallenge username instruction questions =>
    some ⟨.authKeyboardInteractiveChallenge,
      some (.authKeyboardInteractiveChallenge username instruction questions), none⟩
  | onAuthKeyboardInteractiveAnswer username answers =>
    some ⟨.authKeyboardInteractiveAnswer,
      some (.authKeyboardInteractiveAnswer username answers), none⟩
  | onAuthKeyboardInteractiveFailed username =>
    some ⟨.authKeyboardInteractiveFailed, some (.authKeyboardInteractiveFailed username), none⟩
  | onAuthKeyboardInteractiveBackendError username reason =>
    some ⟨.authKeyboardInteractiveBackendError,
      some (.authKeyboardInteractiveBackendError username reason), none⟩
  | onHandshakeFailed reason => some ⟨.handshakeFailed, some (.handshakeFailed reason), none⟩
  | onHandshakeSuccessful username =>
    some ⟨.handshakeSuccessful, some (.handshakeSuccessful username), none⟩
  | onGlobalRequestUnknown requestType =>
    some ⟨.globalRequestUnknown, some (.globalRequestUnknown requestType), none⟩
  | onGlobalRequestDecodeFailed requestID requestType payload reason =>
    some ⟨.globalRequestDecodeFailed, some (.globalRequestDecodeFailed requestID requestType payload
        reason.error), none⟩
  | onNewChannel channelID channelType =>
    some ⟨.newChannel, some (.newChannel channelType), channelID⟩
  | onNewChannelFailed channelID channelType reason =>
    some ⟨.newChannelFailed, some (.newChannelFailed channelType reason), channelID⟩
  | onNewChannelSuccess channelID channelType =>
    some ⟨.newChannelSuccessful, some (.newChannelSuccessful channelType), channelID⟩
  | onRequestTCPReverseForward bindHost bindPort =>
    some ⟨.requestReverseForward, some (.requestReverseForward bindHost bindPort), none⟩
  | onRequestCancelTCPReverseForward bindHost bindPort =>
    some ⟨.requestCancelReverseForward, some (.requestReverseForward bindHost bindPort), none⟩
  | onTCPForwardChannel channelID hostToConnect portToConnect originatorHost originatorPort =>
    some ⟨.newForwardChannel, some (.newForwardChannel hostToConnect portToConnect originatorHost
        originatorPort), channelID⟩
  | onReverseForwardChannel channelID connectedHost connectedPort originatorHost originatorPort =>
    some ⟨.newReverseForwardChannel, some (.newReverseForwardChannel connectedHost connectedPort
        originatorHost originatorPort), channelID⟩
  | onReverseStreamLocalChannel channelID path =>
    some ⟨.newReverseStreamLocalChannel, some (.requestStreamLocal path), channelID⟩
  | onReverseX11ForwardChannel channelID originatorHost originatorPort =>
    some ⟨.newReverseX11ForwardChannel,
      some (.newReverseX11ForwardChannel originatorHost originatorPort), channelID⟩
  | onDirectStreamLocal channelID path =>
    some ⟨.newForwardStreamLocalChannel, some (.requestStreamLocal path), channelID⟩
  | onRequestStreamLocal path => some ⟨.requestStreamLocal, some (.requestStreamLocal path), none⟩
  | onRequestCancelStreamLocal path =>
    some ⟨.requestCancelStreamLocal, some (.requestStreamLocal path), none⟩
  | onRequestUnknown channelID requestID requestType payload =>
    some ⟨.channelRequestUnknownType,
      some (.channelRequestUnknownType requestID requestType payload), channelID⟩
  | onRequestDecodeFailed channelID requestID requestType payload reason =>
    some ⟨.channelRequestDecodeFailed,
      some (.channelRequestDecodeFailed requestID requestType payload reason), channelID⟩
  | onRequestSetEnv channelID requestID name value =>
    some ⟨.channelRequestSetEnv, some (.channelRequestSetEnv requestID name value), channelID⟩
  | onRequestExec channelID requestID program =>
    some ⟨.channelRequestExec, some (.channelRequestExec requestID program), channelID⟩
  | onRequestPty channelID requestID term columns rows width height modeList =>
    some ⟨.channelRequestPty, some (.channelRequestPty requestID term columns rows width height
        modeList), channelID⟩
  | onRequestX11 channelID requestID singleConnection protocol cookie screen =>
    some ⟨.channelRequestX11, some (.channelRequestX11 requestID singleConnection protocol cookie
        screen), channelID⟩
  | onRequestShell channelID requestID =>
    some ⟨.channelRequestShell, some (.channelRequestShell requestID), channelID⟩
  | onRequestSignal channelID requestID signal =>
    some ⟨.channelRequestSignal, some (.channelRequestSignal requestID signal), channelID⟩
  | onRequestSubsystem channelID requestID subsystem =>
    some ⟨.channelRequestSubsystem, some (.channelRequestSubsystem requestID subsystem), channelID⟩
  | onRequestWindow channelID requestID columns rows width height =>
    some ⟨.channelRequestWindow, some (.channelRequestWindow requestID columns rows width height),
      channelID⟩
  | onRequestFailed channelID requestID reason =>
    some ⟨.requestFailed, some (.requestFailed requestID reason.error), channelID⟩
  | onExit channelID exitStatus => some ⟨.exit, some (.exit exitStatus), channelID⟩
  | onExitSignal channelID signal coreDumped errorMessage languageTag =>
    some ⟨.exitSignal, some (.exitSignal signal coreDumped errorMessage languageTag), channelID⟩
  | onWriteClose channelID => some ⟨.writeClose, none, channelID⟩
  | onClose channelID => some ⟨.close, none, channelID⟩
  | forwardingRead channelID data => ioEntry intercept.forwarding channelID .stdin data
  | forwardingWrite channelID data => ioEntry intercept.forwarding channelID .stdout data
  | stdinRead channelID data => ioEntry intercept.stdin channelID .stdin data
  | stdoutWrite channelID data => ioEntry intercept.stdout channelID .stdout data
  | stderrWrite channelID data => ioEntry intercept.stdout channelID .stderr data

structure LoggerConnection where
  intercept : InterceptConfig
  connectionID : String
  closed : Bool
  sent : List Message

namespace LoggerConnection

def log (l : LoggerConnection) (timestamp : Int) (entry : Entry) :
    LoggerConnection :=
  if l.closed then l
  else
    { l with
      sent := l.sent ++ [⟨l.connectionID, timestamp, entry.messageType,
        entry.payload, entry.channelID⟩] }

def onConnect (intercept : InterceptConfig) (connectionID : String)
    (timestamp : Int) (remoteAddr country : String) : LoggerConnection :=
  LoggerConnection.log ⟨intercept, connectionID, false, []⟩ timestamp
    ⟨.connect, some (.connect remoteAddr country), none⟩

def handle (l : LoggerConnection) (timestamp : Int) (e : Event) :
    Option LoggerConnection :=
  let logged := match e.entry l.intercept with
    | none => l
    | some entry => l.log timestamp entry
  if e = .onDisconnect then if logged.closed then none else some { logged with closed := true }
  else some logged

def run (l : LoggerConnection) : List (Int × Event) → LoggerConnection
  | [] => l
  | (timestamp, e) :: rest =>
    match l.handle timestamp e with
    | none => l
    | some next => next.run rest

variable {l : LoggerConnection}

theorem log_of_closed (hclosed : l.closed = true) (timestamp : Int) (entry : Entry) :
    l.log timestamp entry = l := by
  simp [log, hclosed]

theorem handle_of_closed {next : LoggerConnection} (hclosed : l.closed = true)
    {timestamp : Int} {e : Event} (hnext : l.handle timestamp e = some next) :
    next = l := by
  simp only [handle, log_of_closed hclosed] at hnext
  cases hentry : e.entry l.intercept <;> by_cases hdis : e = .onDisconnect <;>
    simp_all

theorem handle_of_open (hopen : l.closed = false) (timestamp : Int) (e : Event) :
    ∃ next, l.handle timestamp e = some next ∧
      next.intercept = l.intercept ∧
      next.connectionID = l.connectionID ∧
      next.closed = decide (e = .onDisconnect) ∧
      next.sent = l.sent ++ ((e.entry l.intercept).map fun entry =>
        ⟨l.connectionID, timestamp, entry.messageType, entry.payload, entry.channelID⟩).toList := by
  simp only [handle]
  cases hentry : e.entry l.intercept <;> by_cases hdis : e = .onDisconnect <;>
    simp [log, hopen, hdis]

theorem handle_of_ne_disconnect (l : LoggerConnection) (timestamp : Int)
    {e : Event} (he : e ≠ .onDisconnect) : l.handle timestamp e =
      some ((e.entry l.intercept).elim l (l.log timestamp)) := by
  simp only [handle, if_neg he]
  cases e.entry l.intercept <;> rfl

theorem run_of_closed (hclosed : l.closed = true) (es : List (Int × Event)) : l.run es = l := by
  induction es with
  | nil => rfl
  | cons head rest ih =>
    simp only [run]
    cases hnext : l.handle head.1 head.2 with
    | none => rfl
    | some =>
      rw [handle_of_closed hclosed hnext]
      exact ih

theorem sent_prefix_run (l : LoggerConnection) (es : List (Int × Event)) :
    l.sent <+: (l.run es).sent := by
  induction es generalizing l with
  | nil => exact List.prefix_rfl
  | cons head rest ih =>
    cases hclosed : l.closed with
    | true => simp [run_of_closed hclosed]
    | false =>
      obtain ⟨next, hnext, -, -, -, hsent⟩ := handle_of_open hclosed head.1 head.2
      simp only [run, hnext]
      exact (hsent ▸ List.prefix_append _ _).trans (ih next)

theorem run_append_of_open (hopen : l.closed = false) {before : List (Int × Event)}
    (hbefore : ∀ timestamp, (timestamp, Event.onDisconnect) ∉ before) :
    ∃ m : LoggerConnection, m.closed = false ∧ m.intercept = l.intercept ∧
      ∀ rest, l.run (before ++ rest) = m.run rest := by
  induction before generalizing l with
  | nil => exact ⟨l, hopen, rfl, fun rest => rfl⟩
  | cons head tail ih =>
    obtain ⟨timestamp, e⟩ := head
    obtain ⟨next, hnext, hintercept, -, hclosed, -⟩ := handle_of_open hopen timestamp e
    have he : e ≠ .onDisconnect := by
      rintro rfl
      exact hbefore timestamp List.mem_cons_self
    obtain ⟨m, hm, hmi, hrun⟩ := @ih next (by simp [hclosed, he])
      (fun t ht => hbefore t (List.mem_cons_of_mem _ ht))
    refine ⟨m, hm, hmi.trans hintercept, fun rest => ?_⟩
    simp only [List.cons_append, run, hnext]
    exact hrun rest

end LoggerConnection

namespace Event

def password? : Event → Option (List UInt8)
  | onAuthPassword _ password => some password
  | onAuthPasswordSuccess _ password => some password
  | onAuthPasswordFailed _ password => some password
  | onAuthPasswordBackendError _ password _ => some password
  | _ => none

def setPassword (password : List UInt8) : Event → Event
  | onAuthPassword username _ => onAuthPassword username password
  | onAuthPasswordSuccess username _ => onAuthPasswordSuccess username password
  | onAuthPasswordFailed username _ => onAuthPasswordFailed username password
  | onAuthPasswordBackendError username _ reason =>
    onAuthPasswordBackendError username password reason
  | e => e

variable {e : Event}

theorem setPassword_of_none (hnone : e.password? = none) (password : List UInt8) :
    e.setPassword password = e := by
  cases e <;> first | rfl | simp [password?] at hnone

theorem setPassword_setPassword (e : Event) (p q : List UInt8) :
    (e.setPassword p).setPassword q = e.setPassword q := by
  cases e <;> rfl

theorem password?_setPassword (e : Event) (p : List UInt8) :
    (e.setPassword p).password? = e.password?.map fun _ => p := by
  cases e <;> rfl

theorem eq_of_setPassword_eq {e' : Event} {p : List UInt8}
    (heq : e.setPassword p = e'.setPassword p) (hnone : e.password? = none) : e' = e := by
  have hnone' : e'.password? = none := by
    have hpassword := congrArg password? heq
    rw [password?_setPassword, password?_setPassword, hnone] at hpassword
    simpa using hpassword.symm
  rw [← setPassword_of_none hnone p, heq, setPassword_of_none hnone' p]

theorem entry_setPassword_inj (hsome : e.password?.isSome)
    (intercept : InterceptConfig) {p q : List UInt8} (heq : (e.setPassword p).entry intercept =
      (e.setPassword q).entry intercept) : p = q := by
  cases e <;> simp_all [password?, setPassword, entry]

theorem entry_isSome_of_password (hsome : e.password?.isSome)
    (intercept : InterceptConfig) (p : List UInt8) :
    ∃ entry, (e.setPassword p).entry intercept = some entry := by
  cases e <;> simp_all [password?, setPassword, entry]

end Event

def DifferOnlyInPasswords (es es' : List (Int × Event)) : Prop :=
  es.map (fun e => (e.1, e.2.setPassword [])) = es'.map (fun e => (e.1, e.2.setPassword []))

def PasswordIndependent (l : LoggerConnection) (es : List (Int × Event)) :
    Prop :=
  ∀ es', DifferOnlyInPasswords es es' → (l.run es').sent = (l.run es).sent

def PasswordsAfterDisconnect (es : List (Int × Event)) : Prop :=
  ∀ before timestamp e after, es = before ++ (timestamp, e) :: after →
    e.password?.isSome → ∃ t, (t, Event.onDisconnect) ∈ before

variable {l : LoggerConnection}

theorem passwordIndependent_of_open (hopen : l.closed = false)
    {es : List (Int × Event)} (hafter : PasswordsAfterDisconnect es) :
    PasswordIndependent l es := by
  induction es generalizing l with
  | nil =>
    intro es' hdiffer
    have hnil : es' = [] := by simpa [DifferOnlyInPasswords] using hdiffer
    rw [hnil]
  | cons head rest ih =>
    intro es' hdiffer
    obtain ⟨timestamp, e⟩ := head
    cases es' with
    | nil => simp [DifferOnlyInPasswords] at hdiffer
    | cons head' rest' =>
      obtain ⟨timestamp', e'⟩ := head'
      simp only [DifferOnlyInPasswords, List.map_cons, List.cons.injEq, Prod.mk.injEq] at hdiffer
      obtain ⟨⟨rfl, he⟩, hrest⟩ := hdiffer
      have hnone : e.password? = none := by
        rw [← Option.not_isSome_iff_eq_none]
        intro hsome
        obtain ⟨t, ht⟩ := hafter [] timestamp e rest rfl hsome
        simp at ht
      obtain rfl := Event.eq_of_setPassword_eq he hnone
      obtain ⟨next, hnext, -, -, hclosed, -⟩ := LoggerConnection.handle_of_open hopen timestamp e'
      simp only [LoggerConnection.run, hnext]
      by_cases hdis : e' = .onDisconnect
      · have hnextClosed : next.closed = true := by simp [hclosed, hdis]
        rw [LoggerConnection.run_of_closed hnextClosed, LoggerConnection.run_of_closed hnextClosed]
      · refine ih (by simp [hclosed, hdis]) (fun before t e after heq hsome => ?_) rest' hrest
        obtain ⟨t', ht'⟩ := hafter ((timestamp, e') :: before) t e after (by rw [heq]; rfl) hsome
        rcases List.mem_cons.mp ht' with hhead | htail
        · simp only [Prod.mk.injEq] at hhead
          exact absurd hhead.2.symm hdis
        · exact ⟨t', htail⟩

theorem differOnlyInPasswords_setPassword (before after : List (Int × Event))
    (timestamp : Int) (e : Event) (p : List UInt8) :
    DifferOnlyInPasswords (before ++ (timestamp, e) :: after)
      (before ++ (timestamp, e.setPassword p) :: after) := by
  simp [DifferOnlyInPasswords, Event.setPassword_setPassword]

theorem not_passwordIndependent_of_logged (hopen : l.closed = false)
    {before after : List (Int × Event)} {timestamp : Int} {e : Event}
    (hsome : e.password?.isSome) (hbefore : ∀ t, (t, Event.onDisconnect) ∉ before) :
    ¬ PasswordIndependent l (before ++ (timestamp, e) :: after) := by
  intro hindependent
  obtain ⟨m, hm, -, hrun⟩ := LoggerConnection.run_append_of_open hopen hbefore
  have hentries : ∀ p, ∃ entry, (e.setPassword p).entry m.intercept =
      some entry ∧ m.sent ++ [⟨m.connectionID, timestamp, entry.messageType,
        entry.payload, entry.channelID⟩] <+: (l.run (before ++ (timestamp, e) :: after)).sent := by
    intro p
    obtain ⟨entry, hentry⟩ := Event.entry_isSome_of_password hsome m.intercept p
    obtain ⟨next, hnext, -, -, -, hsent⟩ :=
      LoggerConnection.handle_of_open hm timestamp (e.setPassword p)
    refine ⟨entry, hentry, ?_⟩
    rw [← hindependent _ (differOnlyInPasswords_setPassword before after timestamp e p), hrun]
    simp only [LoggerConnection.run, hnext]
    rw [hentry] at hsent
    exact hsent ▸ next.sent_prefix_run after
  obtain ⟨entry₁, hentry₁, hprefix₁⟩ := hentries []
  obtain ⟨entry₂, hentry₂, hprefix₂⟩ := hentries [0]
  have hsame := List.IsPrefix.eq_of_length
    (List.prefix_of_prefix_length_le hprefix₁ hprefix₂ (by simp)) (by simp)
  have hentry : entry₁ = entry₂ := by
    cases entry₁
    cases entry₂
    simpa using hsame
  rw [hentry, ← hentry₂] at hentry₁
  exact absurd (Event.entry_setPassword_inj hsome m.intercept hentry₁) (by decide)

/-- With passwords excluded from interception, the log is independent of them
exactly when no password reaches the logger before the connection is closed:
the setting itself has no effect. -/
theorem passwordIndependent_iff (intercept : InterceptConfig)
    (connectionID : String) (timestamp : Int) (remoteAddr country : String)
    (es : List (Int × Event)) (_hpasswords : intercept.passwords = false) :
    PasswordIndependent (.onConnect intercept connectionID timestamp remoteAddr
      country) es ↔ PasswordsAfterDisconnect es := by
  have hopen : (LoggerConnection.onConnect intercept connectionID timestamp
      remoteAddr country).closed = false := rfl
  constructor
  · rintro hindependent before t e after rfl hsome
    by_contra hnone
    exact not_passwordIndependent_of_logged hopen hsome (not_exists.mp hnone) hindependent
  · exact passwordIndependent_of_open hopen

theorem passwordIndependent_after_disconnect : InterceptConfig.passwords {} = false ∧
      PasswordIndependent (.onConnect {} "0123456789ABCDEF" 0 "127.0.0.1" "XX")
        [(1, .onAuthPubKey "foo" "ssh-rsa"), (2, .onDisconnect),
          (3, .onAuthPassword "foo" [98, 97, 114])] := by
  refine ⟨rfl, (passwordIndependent_iff {} "0123456789ABCDEF" 0 "127.0.0.1" "XX" _ rfl).mpr ?_⟩
  rintro (_ | ⟨first, _ | ⟨second, rest⟩⟩) timestamp e after heq hsome
  · cases heq
    cases hsome
  · cases heq
    cases hsome
  · injection heq with _ heq
    injection heq with hsecond
    exact ⟨2, by simp [hsecond]⟩

theorem failed_login_reveals_password : InterceptConfig.passwords {} = false ∧ ¬ PasswordIndependent
        (.onConnect {} "0123456789ABCDEF" 0 "127.0.0.1" "XX")
        [(1, .onAuthPassword "foo" [98, 97, 114]),
          (2, .onAuthPasswordFailed "foo" [98, 97, 114])] :=
  ⟨rfl, not_passwordIndependent_of_logged rfl rfl
    (fun t : Int => List.not_mem_nil (a := (t, Event.onDisconnect)))⟩

end ContainerSSH.AuditLog
