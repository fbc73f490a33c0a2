/-
The threads around an audit log.
-/
import ContainerSSH.AuditLogger
import ContainerSSH.TransitionSystem
import Mathlib.Data.List.Perm.Basic

namespace ContainerSSH.AuditLog

inductive AuditLogFormat where
  | none
  | asciinema
  | binary
deriving DecidableEq

def AuditLogFormat.stopsAtDisconnect : AuditLogFormat → Bool
  | none => true
  | asciinema => false
  | binary => true

structure LogCall where
  ticket : Nat
  message : Message
deriving DecidableEq

namespace LogCall

variable (c : LogCall)

def isConnect : Bool := c.message.messageType = .connect

def isDisconnect : Bool := c.message.messageType = .disconnect

end LogCall

inductive Holder where
  | sending (c : LogCall)
  | sent (c : LogCall)
  | closing
  | closed
deriving DecidableEq

inductive EncoderPoint where
  | header
  | reading
  | encoding (c : LogCall)
  | stopped
deriving DecidableEq

structure AuditSetup where
  format : AuditLogFormat
  intercept : InterceptConfig
  connectionID : String
  timestamp : Int
  remoteAddr : String
  country : String

structure AuditState where
  waiting : List LogCall
  holder : Option Holder := none
  connected : Bool := false
  disconnected : Bool := false
  wantsClose : Bool := false
  channelClosed : Bool := false
  closed : Bool := false
  encoder : EncoderPoint
  received : List LogCall := []
  next : Nat := 1
  panicked : Bool := false

inductive AuditAction where
  | call (timestamp : Int) (e : Event)
  | onDisconnect (timestamp : Int)
  | acquire (index : Nat)
  | send
  | unlock
  | acquireClose
  | close
  | unlockClose
  | header (ok : Bool)
  | encode (ok : Bool)
  | drain

namespace AuditSetup

variable (setup : AuditSetup)

def message (timestamp : Int) (entry : Entry) : Message :=
  ⟨setup.connectionID, timestamp, entry.messageType, entry.payload, entry.channelID⟩

def connectCall : LogCall :=
  ⟨0, setup.message setup.timestamp
    ⟨.connect, some (.connect setup.remoteAddr setup.country), none⟩⟩

end AuditSetup

namespace AuditState

variable (setup : AuditSetup) (s : AuditState)

def init : AuditState where
  waiting := [setup.connectCall]
  encoder := if setup.format = .binary then .header else .reading

def enqueue (message : Message) : AuditState :=
  { s with waiting := s.waiting ++ [⟨s.next, message⟩], next := s.next + 1 }

def acquire (index : Nat) : Option AuditState :=
  match s.waiting[index]?, s.holder with
  | some c, none =>
    some { s with
      waiting := s.waiting.eraseIdx index
      holder := some (if s.closed then .sent c else .sending c) }
  | _, _ => none

def send : Option AuditState :=
  match s.holder, s.encoder with
  | some (.sending c), encoder =>
    if s.channelClosed then some { s with panicked := true }
    else if encoder = .reading then
      some { s with
        holder := some (.sent c)
        encoder := .encoding c
        received := s.received ++ [c] }
    else none
  | _, _ => none

def unlock : Option AuditState :=
  match s.holder with
  | some (.sent c) =>
    some { s with
      holder := none
      connected := s.connected || c.isConnect
      wantsClose := s.wantsClose || c.isDisconnect }
  | _ => none

def acquireClose : Option AuditState :=
  if s.wantsClose ∧ s.holder = none then
    some { s with wantsClose := false, holder := some .closing }
  else none

def close : Option AuditState :=
  if s.holder = some .closing then
    if s.channelClosed then some { s with panicked := true }
    else some { s with channelClosed := true, holder := some .closed }
  else none

def unlockClose : Option AuditState :=
  if s.holder = some .closed then some { s with closed := true, holder := none }
  else none

def writeHeader (ok : Bool) : Option AuditState :=
  if s.encoder = .header then some { s with encoder := if ok then .reading else .stopped }
  else none

def encode (format : AuditLogFormat) (ok : Bool) : Option AuditState :=
  match s.encoder with
  | .encoding c =>
    some { s with
      encoder :=
        if ok && !(format.stopsAtDisconnect && c.isDisconnect) then .reading
        else .stopped }
  | _ => none

def drain : Option AuditState :=
  if s.encoder = .reading ∧ s.channelClosed then some { s with encoder := .stopped }
  else none

def step (action : AuditAction) : Option AuditState :=
  if s.panicked then none
  else
    match action with
    | .call timestamp e =>
      if s.connected ∧ e ≠ .onDisconnect then
        (e.entry setup.intercept).map fun entry => s.enqueue (setup.message timestamp entry)
      else none
    | .onDisconnect timestamp =>
      if s.connected ∧ s.disconnected = false then
        some { s.enqueue (setup.message timestamp ⟨.disconnect, none, none⟩)
          with disconnected := true }
      else none
    | .acquire index => s.acquire index
    | .send => s.send
    | .unlock => s.unlock
    | .acquireClose => s.acquireClose
    | .close => s.close
    | .unlockClose => s.unlockClose
    | .header ok => s.writeHeader ok
    | .encode ok => s.encode setup.format ok
    | .drain => s.drain

end AuditState

def auditConnection (setup : AuditSetup) : TransitionSystem AuditState AuditAction where
  init := AuditState.init setup
  step := AuditState.step setup

namespace AuditState

inductive Does (setup : AuditSetup) (s : AuditState) :
    AuditAction → AuditState → Prop
  | call (timestamp : Int) (e : Event) (entry : Entry)
      (hconnected : s.connected = true) (he : e ≠ .onDisconnect)
      (hentry : e.entry setup.intercept = some entry) : Does setup s (.call timestamp e)
        (s.enqueue (setup.message timestamp entry))
  | onDisconnect (timestamp : Int) (hconnected : s.connected = true)
      (hfirst : s.disconnected = false) : Does setup s (.onDisconnect timestamp)
        { s.enqueue (setup.message timestamp ⟨.disconnect, none, none⟩) with
          disconnected := true }
  | drop (index : Nat) (c : LogCall) (hc : s.waiting[index]? = some c)
      (hfree : s.holder = none) (hclosed : s.closed = true) : Does setup s (.acquire index) { s with
          waiting := s.waiting.eraseIdx index
          holder := some (.sent c) }
  | enter (index : Nat) (c : LogCall) (hc : s.waiting[index]? = some c)
      (hfree : s.holder = none) (hopen : s.closed = false) : Does setup s (.acquire index) { s with
          waiting := s.waiting.eraseIdx index
          holder := some (.sending c) }
  | panicSend (c : LogCall) (hholder : s.holder = some (.sending c))
      (hclosed : s.channelClosed = true) : Does setup s .send { s with panicked := true }
  | handOver (c : LogCall) (hholder : s.holder = some (.sending c))
      (hopen : s.channelClosed = false) (hreading : s.encoder = .reading) : Does setup s .send
        { s with holder := some (.sent c), encoder := .encoding c, received := s.received ++ [c] }
  | unlock (c : LogCall) (hholder : s.holder = some (.sent c)) : Does setup s .unlock { s with
          holder := none
          connected := s.connected || c.isConnect
          wantsClose := s.wantsClose || c.isDisconnect }
  | acquireClose (hwants : s.wantsClose = true) (hfree : s.holder = none) :
      Does setup s .acquireClose { s with wantsClose := false, holder := some .closing }
  | panicClose (hholder : s.holder = some .closing) (hclosed : s.channelClosed = true) :
      Does setup s .close { s with panicked := true }
  | close (hholder : s.holder = some .closing) (hopen : s.channelClosed = false) :
      Does setup s .close { s with channelClosed := true, holder := some .closed }
  | unlockClose (hholder : s.holder = some .closed) :
      Does setup s .unlockClose { s with closed := true, holder := none }
  | header (ok : Bool) (hencoder : s.encoder = .header) : Does setup s (.header ok)
        { s with encoder := if ok then .reading else .stopped }
  | encode (ok : Bool) (c : LogCall) (hencoder : s.encoder = .encoding c) :
      Does setup s (.encode ok) { s with
          encoder :=
            if ok && !(setup.format.stopsAtDisconnect && c.isDisconnect) then .reading
            else .stopped }
  | drain (hreading : s.encoder = .reading) (hclosed : s.channelClosed = true) :
      Does setup s .drain { s with encoder := .stopped }

variable {setup : AuditSetup} {s t : AuditState} {action : AuditAction}

theorem does_of_acquire {index : Nat} (hstep : s.acquire index = some t) :
    Does setup s (.acquire index) t := by
  unfold acquire at hstep
  split at hstep
  case h_1 c hc hfree =>
    cases hstep
    by_cases hclosed : s.closed = true
    · rw [if_pos hclosed]
      exact .drop index c hc hfree hclosed
    · rw [if_neg hclosed]
      exact .enter index c hc hfree (Bool.eq_false_iff.mpr hclosed)
  case h_2 => cases hstep

theorem does_of_send (hstep : s.send = some t) : Does setup s .send t := by
  unfold send at hstep
  split at hstep
  case h_1 c hholder =>
    split_ifs at hstep with hclosed hreading <;> cases hstep
    · exact .panicSend c hholder hclosed
    · exact .handOver c hholder (Bool.eq_false_iff.mpr hclosed) hreading
  case h_2 => cases hstep

theorem does_of_close (hstep : s.close = some t) : Does setup s .close t := by
  unfold close at hstep
  split_ifs at hstep with hholder hclosed <;> cases hstep
  · exact .panicClose hholder hclosed
  · exact .close hholder (Bool.eq_false_iff.mpr hclosed)

theorem does_of_step (hstep : step setup s action = some t) : Does setup s action t := by
  unfold step at hstep
  split at hstep
  · cases hstep
  · cases action
    case acquire => exact does_of_acquire hstep
    case send => exact does_of_send hstep
    case close => exact does_of_close hstep
    all_goals
      dsimp only [unlock, acquireClose, unlockClose, writeHeader, encode, drain] at hstep
      split at hstep <;> try cases hstep
    next timestamp e h =>
      obtain ⟨entry, hentry, rfl⟩ := Option.map_eq_some_iff.mp hstep
      exact .call timestamp e entry h.1 h.2 hentry
    next timestamp h => exact .onDisconnect timestamp h.1 h.2
    next c hholder => exact .unlock c hholder
    next h => exact .acquireClose h.1 h.2
    next hholder => exact .unlockClose hholder
    next ok hencoder => exact .header ok hencoder
    next ok _ c hencoder => exact .encode ok c hencoder
    next h => exact .drain h.1 h.2

end AuditState

theorem Event.entry_messageType {intercept : InterceptConfig} {e : Event}
    {entry : Entry} (hentry : e.entry intercept = some entry) :
    entry.messageType ≠ .connect ∧ (entry.messageType = .disconnect ↔ e = .onDisconnect) := by
  cases e <;> simp only [Event.entry, ioEntry] at hentry
  case forwardingRead | forwardingWrite | stdinRead | stdoutWrite | stderrWrite =>
    split at hentry <;> cases hentry
    simp
  all_goals
    cases hentry
    simp

theorem perm_of_getElem? {l : List LogCall} {index : Nat} {c : LogCall}
    (hc : l[index]? = some c) : (c :: l.eraseIdx index).Perm l := by
  obtain ⟨hlt, rfl⟩ := List.getElem?_eq_some_iff.mp hc
  exact List.getElem_cons_eraseIdx_perm hlt

namespace AuditState

variable {setup : AuditSetup} {s t : AuditState} {action : AuditAction}

/-! ### The channel is closed once, and nothing is sent on it after that -/

def holderTokens : Option Holder → Nat
  | some (.sending c) => c.isDisconnect.toNat
  | some (.sent c) => c.isDisconnect.toNat
  | some .closing => 1
  | some .closed => 0
  | none => 0

def tokens (s : AuditState) : Nat :=
  s.waiting.countP LogCall.isDisconnect + holderTokens s.holder +
    s.wantsClose.toNat + s.channelClosed.toNat

/-- Nobody sends on the closed channel, which is closed once. -/
structure Orderly (s : AuditState) : Prop where
  noPanic : s.panicked = false
  tokens : s.tokens = s.disconnected.toNat
  closed : s.channelClosed = true → s.closed = true ∨ s.holder = some .closed
  sending : ∀ c, s.holder = some (.sending c) → s.closed = false

theorem orderly_init (setup : AuditSetup) : (init setup).Orderly where
  noPanic := rfl
  tokens := rfl
  closed := by simp [init]
  sending := by simp [init]

theorem Orderly.open_of_sending (hs : s.Orderly) {c : LogCall}
    (hholder : s.holder = some (.sending c)) : s.channelClosed = false := by
  rw [Bool.eq_false_iff]
  intro hclosed
  rcases hs.closed hclosed with h | h
  · exact absurd h (by simp [hs.sending c hholder])
  · simp [hholder] at h

theorem Orderly.open_of_closing (hs : s.Orderly)
    (hholder : s.holder = some .closing) : s.channelClosed = false := by
  rw [Bool.eq_false_iff]
  intro hclosed
  have htokens := hs.tokens
  have hone : s.disconnected.toNat ≤ 1 := Bool.toNat_le _
  simp only [AuditState.tokens, hholder, holderTokens, hclosed, Bool.toNat_true] at htokens
  omega

theorem countP_eraseIdx {l : List LogCall} {index : Nat} {c : LogCall} (hc : l[index]? = some c) :
    (l.eraseIdx index).countP LogCall.isDisconnect + c.isDisconnect.toNat =
      l.countP LogCall.isDisconnect := by
  rw [← (perm_of_getElem? hc).countP_eq, List.countP_cons]
  cases c.isDisconnect <;> rfl

theorem tokens_enqueue (s : AuditState) (message : Message) : (s.enqueue message).tokens =
      s.tokens + (decide (message.messageType = .disconnect)).toNat := by
  have hcount : (s.waiting ++ [LogCall.mk s.next message]).countP
      LogCall.isDisconnect = s.waiting.countP LogCall.isDisconnect +
        (decide (message.messageType = .disconnect)).toNat := by
    cases h : decide (message.messageType = .disconnect) <;>
      simp [LogCall.isDisconnect, h]
  simp only [AuditState.tokens, enqueue]
  omega

theorem Orderly.step (hs : s.Orderly) (hstep : Does setup s action t) :
    t.Orderly := by
  have htokens := hs.tokens
  cases hstep with
  | call timestamp e entry _ he hentry =>
    refine ⟨hs.noPanic, ?_, hs.closed, hs.sending⟩
    have hother : (setup.message timestamp entry).messageType ≠ .disconnect :=
      fun hdis => he ((Event.entry_messageType hentry).2.mp hdis)
    rw [tokens_enqueue, htokens, decide_eq_false hother]
    rfl
  | onDisconnect timestamp _ hfirst =>
    refine ⟨hs.noPanic, ?_, hs.closed, hs.sending⟩
    change (s.enqueue _).tokens = 1
    rw [tokens_enqueue, htokens, hfirst]
    rfl
  | drop index c hc hfree hclosed =>
    refine ⟨hs.noPanic, ?_, fun _ => .inl hclosed, by simp⟩
    have hcount := countP_eraseIdx hc
    simp only [AuditState.tokens, hfree, holderTokens] at htokens ⊢
    omega
  | enter index c hc hfree hopen =>
    refine ⟨hs.noPanic, ?_, fun hclosed => ?_, fun _ _ => hopen⟩
    · have hcount := countP_eraseIdx hc
      simp only [AuditState.tokens, hfree, holderTokens] at htokens ⊢
      omega
    · simpa [hfree] using hs.closed hclosed
  | panicSend c hholder hclosed => simp [hs.open_of_sending hholder] at hclosed
  | handOver c hholder hopen hreading =>
    refine ⟨hs.noPanic, ?_, fun hclosed => ?_, by simp⟩
    · simpa only [AuditState.tokens, hholder, holderTokens] using htokens
    · simp [hopen] at hclosed
  | unlock c hholder =>
    refine ⟨hs.noPanic, ?_, fun hclosed => ?_, by simp⟩
    · have hone : s.disconnected.toNat ≤ 1 := Bool.toNat_le _
      simp only [AuditState.tokens, hholder, holderTokens] at htokens ⊢
      cases hwants : s.wantsClose <;> cases hdis : c.isDisconnect <;>
        simp only [hwants, hdis, Bool.toNat_true, Bool.toNat_false,
          Bool.or_self, Bool.or_true, Bool.or_false] at htokens ⊢ <;>
        omega
    · simpa [hholder] using hs.closed hclosed
  | acquireClose hwants hfree =>
    refine ⟨hs.noPanic, ?_, fun hclosed => ?_, by simp⟩
    · simp only [AuditState.tokens, hfree, hwants, holderTokens,
        Bool.toNat_true, Bool.toNat_false] at htokens ⊢
      omega
    · simpa [hfree] using hs.closed hclosed
  | panicClose hholder hclosed => simp [hs.open_of_closing hholder] at hclosed
  | close hholder hopen =>
    refine ⟨hs.noPanic, ?_, fun _ => .inr rfl, by simp⟩
    simp only [AuditState.tokens, hholder, hopen, holderTokens,
      Bool.toNat_true, Bool.toNat_false] at htokens ⊢
    omega
  | unlockClose hholder =>
    refine ⟨hs.noPanic, ?_, fun _ => .inl rfl, by simp⟩
    simpa only [AuditState.tokens, hholder, holderTokens] using htokens
  | header | encode | drain => exact ⟨hs.noPanic, hs.tokens, hs.closed, hs.sending⟩

/-! ### Every call is received at most once -/

def pending : Option Holder → List LogCall
  | some (.sending c) => [c]
  | _ => []

def calls (s : AuditState) : List LogCall := s.received ++ (pending s.holder ++ s.waiting)

theorem calls_enqueue (s : AuditState) (message : Message) :
    (s.enqueue message).calls = s.calls ++ [⟨s.next, message⟩] := by
  simp [calls, enqueue]

def Logged (setup : AuditSetup) (c : LogCall) : Prop :=
  ∃ timestamp e entry, Event.entry setup.intercept e = some entry ∧
    c.message = setup.message timestamp entry

theorem calls_of_does (hstep : Does setup s action t) :
    (t.calls.Subperm s.calls ∧ t.next = s.next) ∨
    ∃ message, Logged setup ⟨s.next, message⟩ ∧ t.next = s.next + 1 ∧
      t.calls = s.calls ++ [⟨s.next, message⟩] := by
  have hsame : ∀ {holder : Option Holder}, pending holder = pending s.holder →
      (s.received ++ (pending holder ++ s.waiting)).Subperm s.calls := by
    intro holder hpending
    rw [hpending]
    exact List.Subperm.refl _
  cases hstep with
  | call timestamp e entry _ _ hentry =>
    exact .inr ⟨setup.message timestamp entry,
      ⟨timestamp, e, entry, hentry, rfl⟩, rfl, calls_enqueue s _⟩
  | onDisconnect timestamp _ _ =>
    exact .inr ⟨setup.message timestamp ⟨.disconnect, none, none⟩,
      ⟨timestamp, .onDisconnect, _, rfl, rfl⟩, rfl, calls_enqueue s _⟩
  | drop index c hc hfree _ =>
    refine .inl ⟨?_, rfl⟩
    rw [calls, calls, hfree]
    exact ((List.eraseIdx_sublist _ _).append_left _).subperm
  | enter index c hc hfree _ =>
    refine .inl ⟨?_, rfl⟩
    rw [calls, calls, hfree]
    exact ((perm_of_getElem? hc).append_left _).subperm
  | panicSend | panicClose | header | encode | drain => exact .inl ⟨hsame rfl, rfl⟩
  | handOver c hholder _ _ =>
    refine .inl ⟨?_, rfl⟩
    rw [calls, calls, hholder, List.append_assoc]
    exact List.Subperm.refl _
  | unlock _ hholder | acquireClose _ hholder | close hholder | unlockClose hholder =>
    exact .inl ⟨hsame (by rw [hholder]; rfl), rfl⟩

structure Numbered (setup : AuditSetup) (s : AuditState) : Prop where
  nodup : (s.calls.map LogCall.ticket).Nodup
  bound : ∀ c ∈ s.calls, c.ticket < s.next
  origin : ∀ c ∈ s.calls, c = setup.connectCall ∨ Logged setup c

theorem numbered_init (setup : AuditSetup) : (init setup).Numbered setup where
  nodup := by simp [calls, pending, init]
  bound := by simp [calls, pending, init, AuditSetup.connectCall]
  origin := by simp [calls, pending, init]

theorem Numbered.step (hs : s.Numbered setup) (hstep : Does setup s action t) :
    t.Numbered setup := by
  rcases calls_of_does hstep with ⟨hsub, hnext⟩ | ⟨message, hlogged, hnext, hcalls⟩
  · refine ⟨?_, fun c hc => ?_, fun c hc => hs.origin c (hsub.subset hc)⟩
    · obtain ⟨l, hperm, hsublist⟩ := hsub
      exact (hperm.map _).nodup_iff.mp ((hsublist.map _).nodup hs.nodup)
    · exact hnext ▸ hs.bound c (hsub.subset hc)
  · have hmem : ∀ c ∈ t.calls, c ∈ s.calls ∨ c = ⟨s.next, message⟩ := by
      intro c hc
      rwa [hcalls, List.mem_append, List.mem_singleton] at hc
    refine ⟨?_, fun c hc => ?_, fun c hc => ?_⟩
    · rw [hcalls, List.map_append, List.nodup_append]
      refine ⟨hs.nodup, by simp, ?_⟩
      intro ticket hticket other hother
      obtain ⟨c, hc, rfl⟩ := List.mem_map.mp hticket
      rw [List.map_singleton, List.mem_singleton] at hother
      exact hother ▸ Nat.ne_of_lt (hs.bound c hc)
    · rcases hmem c hc with hold | rfl
      · exact hnext ▸ Nat.lt_succ_of_lt (hs.bound c hold)
      · exact hnext ▸ Nat.lt_succ_self _
    · exact (hmem c hc).elim (hs.origin c) fun h => .inr (h ▸ hlogged)

theorem Numbered.received_nodup (hs : s.Numbered setup) : (s.received.map LogCall.ticket).Nodup :=
  ((List.sublist_append_left _ _).map _).nodup hs.nodup

/-! ### The connect message is received first -/

structure Connecting (setup : AuditSetup) (s : AuditState) : Prop where
  connected : s.connected = false
  closed : s.closed = false
  wantsClose : s.wantsClose = false
  place : (s.waiting = [setup.connectCall] ∧ s.holder = none ∧ s.received = []) ∨
    (s.waiting = [] ∧ s.holder = some (.sending setup.connectCall) ∧ s.received = []) ∨
    (s.waiting = [] ∧ s.holder = some (.sent setup.connectCall) ∧ s.received = [setup.connectCall])

structure Connected (setup : AuditSetup) (s : AuditState) : Prop where
  connected : s.connected = true
  received : ∃ rest, s.received = setup.connectCall :: rest

theorem connecting_init (setup : AuditSetup) : (init setup).Connecting setup :=
  ⟨rfl, rfl, rfl, .inl ⟨rfl, rfl, rfl⟩⟩

theorem Connected.step (hs : s.Connected setup)
    (hstep : Does setup s action t) : t.Connected setup := by
  obtain ⟨hconnected, rest, hreceived⟩ := hs
  cases hstep with
  | handOver c => exact ⟨hconnected, rest ++ [c], by rw [hreceived, List.cons_append]⟩
  | unlock => exact ⟨by simp [hconnected], rest, hreceived⟩
  | _ => exact ⟨hconnected, rest, hreceived⟩

theorem Connecting.step (hs : s.Connecting setup) (hstep : Does setup s action t) :
    t.Connecting setup ∨ t.Connected setup := by
  obtain ⟨hconnected, hclosed, hwants, hplace⟩ := hs
  cases hstep with
  | call _ _ _ h | onDisconnect _ h => simp [hconnected] at h
  | drop _ _ _ _ h => simp [hclosed] at h
  | enter index c hc hfree _ =>
    simp only [hfree, reduceCtorEq, false_and, and_false, or_false, true_and] at hplace
    obtain ⟨hwaiting, hreceived⟩ := hplace
    rw [hwaiting] at hc
    obtain ⟨rfl, rfl⟩ : index = 0 ∧ c = setup.connectCall := by
      cases index with
      | zero => simpa [eq_comm] using hc
      | succ => simp at hc
    refine .inl ⟨hconnected, hclosed, hwants, .inr (.inl ⟨?_, rfl, hreceived⟩)⟩
    rw [hwaiting]
    rfl
  | handOver c hholder _ _ =>
    simp only [hholder, reduceCtorEq, false_and, and_false, or_false, false_or,
      Option.some.injEq, Holder.sending.injEq] at hplace
    obtain ⟨hwaiting, rfl, hreceived⟩ := hplace
    exact .inl ⟨hconnected, hclosed, hwants, .inr (.inr ⟨hwaiting, rfl, by rw [hreceived]; rfl⟩)⟩
  | unlock c hholder =>
    simp only [hholder, reduceCtorEq, false_and, and_false, false_or,
      Option.some.injEq, Holder.sent.injEq] at hplace
    obtain ⟨-, rfl, hreceived⟩ := hplace
    exact .inr ⟨Bool.or_true _, [], hreceived⟩
  | acquireClose h _ => simp [hwants] at h
  | panicClose hholder | close hholder | unlockClose hholder => simp [hholder] at hplace
  | panicSend | header | encode | drain => exact .inl ⟨hconnected, hclosed, hwants, hplace⟩

def ConnectFirst (setup : AuditSetup) (s : AuditState) : Prop :=
  s.received = [] ∨ ∃ rest, s.received = setup.connectCall :: rest

theorem Connecting.connectFirst (hs : s.Connecting setup) : s.ConnectFirst setup := by
  rcases hs.place with ⟨-, -, h⟩ | ⟨-, -, h⟩ | ⟨-, -, h⟩
  · exact .inl h
  · exact .inl h
  · exact .inr ⟨[], h⟩

/-! ### Nothing is received after the disconnect message -/

def NothingAfterDisconnect (s : AuditState) : Prop :=
  ∀ c ∈ s.received.dropLast, c.isDisconnect = false

structure Stops (s : AuditState) : Prop where
  last : s.NothingAfterDisconnect
  reading : s.encoder = .header ∨ s.encoder = .reading → ∀ c ∈ s.received, c.isDisconnect = false
  encoding : ∀ c, s.encoder = .encoding c → s.received.getLast? = some c

theorem stops_init (setup : AuditSetup) : (init setup).Stops where
  last := by simp [NothingAfterDisconnect, init]
  reading := by simp [init]
  encoding := by
    intro c hencoding
    simp only [init] at hencoding
    split at hencoding <;> cases hencoding

theorem Stops.step (hformat : setup.format.stopsAtDisconnect = true)
    (hs : s.Stops) (hstep : Does setup s action t) : t.Stops := by
  cases hstep with
  | handOver c _ _ hreading =>
    refine ⟨?_, by simp, ?_⟩
    · rw [NothingAfterDisconnect, List.dropLast_concat]
      exact hs.reading (.inr hreading)
    · rintro c' h
      cases h
      exact List.getLast?_concat
  | header ok hencoder =>
    have hnone := hs.reading (.inl hencoder)
    refine ⟨hs.last, fun _ => hnone, fun c h => ?_⟩
    split at h <;> cases h
  | encode ok c hencoder =>
    refine ⟨hs.last, fun h => ?_, fun c h => by split at h <;> cases h⟩
    have hlast := hs.encoding c hencoder
    have hother : c.isDisconnect = false := by
      by_contra hdis
      simp [hformat, hdis] at h
    intro d hd
    rw [← List.dropLast_append_getLast? c hlast] at hd
    rcases List.mem_append.mp hd with hbefore | hc
    · exact hs.last d hbefore
    · rw [List.mem_singleton.mp hc]
      exact hother
  | drain => exact ⟨hs.last, by simp, by simp⟩
  | _ => exact ⟨hs.last, hs.reading, hs.encoding⟩

/-! ### Nobody is left behind -/

def Blocked (s : AuditState) : Prop := ∃ c, s.holder = some (.sending c) ∧ s.encoder = .stopped

def Disconnected (s : AuditState) : Prop := ∃ c ∈ s.received, c.isDisconnect = true

/-- The storage takes what is encoded, and no call enters between a disconnect and the close. -/
def Undisturbed (s : AuditState) : AuditAction → Prop
  | .header ok => ok = true
  | .encode ok => ok = true
  | .acquire _ => s.Disconnected → s.closed = true
  | _ => True

instance decidableUndisturbed (s : AuditState) :
    (action : AuditAction) → Decidable (s.Undisturbed action)
  | .header ok | .encode ok => inferInstanceAs (Decidable (ok = true))
  | .acquire _ =>
    inferInstanceAs (Decidable ((∃ c ∈ s.received, c.isDisconnect = true) → s.closed = true))
  | .call .. | .onDisconnect _ | .send | .unlock | .acquireClose | .close
  | .unlockClose | .drain => inferInstanceAs (Decidable True)

structure Attended (s : AuditState) : Prop where
  last : s.NothingAfterDisconnect
  noSender : s.Disconnected → ∀ c, s.holder ≠ some (.sending c)
  encoding : ∀ c, s.encoder = .encoding c → c ∈ s.received
  stopped : s.encoder = .stopped → s.Disconnected ∨ s.channelClosed = true

theorem attended_init (setup : AuditSetup) : (init setup).Attended where
  last := by simp [NothingAfterDisconnect, init]
  noSender := by simp [init]
  encoding := by
    intro c h
    simp only [init] at h
    split at h <;> cases h
  stopped := by
    intro h
    simp only [init] at h
    split at h <;> cases h

theorem Attended.step (hs : s.Attended) (hcalm : s.Undisturbed action)
    (hstep : Does setup s action t) : t.Attended := by
  obtain ⟨hlast, hnoSender, hencoding, hstopped⟩ := hs
  cases hstep with
  | drop _ c _ _ _ => exact ⟨hlast, by simp, hencoding, hstopped⟩
  | enter _ c _ _ hopen =>
    refine ⟨hlast, fun hdis => ?_, hencoding, hstopped⟩
    simp [hcalm hdis] at hopen
  | handOver c hholder _ _ =>
    refine ⟨?_, by simp, ?_, by simp⟩
    · -- the sender shows that the disconnect message has not been received
      rw [NothingAfterDisconnect, List.dropLast_concat]
      intro d hd
      by_contra hdis
      exact hnoSender ⟨d, hd, Bool.of_not_eq_false hdis⟩ c hholder
    · rintro c' h
      cases h
      simp
  | unlock | acquireClose | unlockClose => exact ⟨hlast, by simp, hencoding, hstopped⟩
  | close => exact ⟨hlast, by simp, hencoding, fun _ => .inr rfl⟩
  | header ok hencoder =>
    cases (hcalm : ok = true)
    exact ⟨hlast, hnoSender, by simp, by simp⟩
  | encode ok c hencoder =>
    cases (hcalm : ok = true)
    refine ⟨hlast, hnoSender, fun d h => ?_, fun h => ?_⟩
    · split at h <;> cases h
    · refine .inl ⟨c, hencoding c hencoder, ?_⟩
      by_contra hother
      simp [hother] at h
  | drain _ hclosed => exact ⟨hlast, hnoSender, by simp, fun _ => .inr hclosed⟩
  | _ => exact ⟨hlast, hnoSender, hencoding, hstopped⟩

theorem Attended.not_blocked (hs : s.Attended) (horderly : s.Orderly) : ¬ s.Blocked := by
  rintro ⟨c, hholder, hstopped⟩
  rcases hs.stopped hstopped with hdis | hclosed
  · exact hs.noSender hdis c hholder
  · simp [horderly.open_of_sending hholder] at hclosed

end AuditState

open AuditState

variable {setup : AuditSetup} {s : AuditState} {actions : List AuditAction}

theorem auditConnection_invariant {Inv : AuditState → Prop} (hinit : Inv (.init setup))
    (hstep : ∀ s action t, Inv s → Does setup s action t → Inv t)
    (hrun : (auditConnection setup).run actions = some s) : Inv s :=
  (auditConnection setup).runFrom_invariant
    (fun s a t hinv h => hstep s a t hinv (does_of_step h)) hinit hrun

theorem orderly_of_run (hrun : (auditConnection setup).run actions = some s) :
    s.Orderly :=
  auditConnection_invariant (orderly_init setup) (fun _ _ _ hs h => hs.step h) hrun

theorem numbered_of_run (hrun : (auditConnection setup).run actions = some s) : s.Numbered setup :=
  auditConnection_invariant (numbered_init setup) (fun _ _ _ hs h => hs.step h) hrun

theorem connectFirst_of_run (hrun : (auditConnection setup).run actions = some s) :
    s.ConnectFirst setup := by
  have hconnect : s.Connecting setup ∨ s.Connected setup := by
    apply auditConnection_invariant (.inl (connecting_init setup)) _ hrun
    rintro s action t (hs | hs) h
    · exact hs.step h
    · exact .inr (hs.step h)
  rcases hconnect with h | h
  · exact h.connectFirst
  · exact .inr h.received

theorem attended_of_run (hrun : (auditConnection setup).run actions = some s)
    (hcalm : (auditConnection setup).Meets Undisturbed (.init setup) actions) :
    s.Attended := by
  have hstep : ∀ s a t, s.Attended → s.Undisturbed a →
      (auditConnection setup).step s a = some t → t.Attended :=
    fun s a t hs ha h => hs.step ha (does_of_step h)
  exact (auditConnection setup).runFrom_invariant_of_meets hstep (attended_init setup) hcalm hrun

theorem nothingAfterDisconnect_of_run (hformat : setup.format.stopsAtDisconnect = true)
    (hrun : (auditConnection setup).run actions = some s) :
    s.NothingAfterDisconnect := by
  have hstops : s.Stops :=
    auditConnection_invariant (stops_init setup) (fun _ _ _ hs h => hs.step hformat h) hrun
  exact hstops.last

/-- In every interleaving the process does not panic, the connect message comes
first, no call is received twice, and an encoder that stops at the disconnect
message receives nothing after it.  Nobody is blocked, and no encoder receives
anything after the disconnect message, if the storage does not fail and no
callback takes the lock between the critical sections of `OnDisconnect`. -/
theorem auditConnection_safe (setup : AuditSetup) (actions : List AuditAction)
    (s : AuditState) (hrun : (auditConnection setup).run actions = some s) :
    (s.panicked = false ∧ s.ConnectFirst setup ∧ (s.received.map LogCall.ticket).Nodup ∧
      (setup.format.stopsAtDisconnect = true → s.NothingAfterDisconnect)) ∧
    ((auditConnection setup).Meets Undisturbed (.init setup) actions →
      ¬ s.Blocked ∧ s.NothingAfterDisconnect) := by
  have horderly := orderly_of_run hrun
  refine ⟨⟨horderly.noPanic, connectFirst_of_run hrun, (numbered_of_run hrun).received_nodup,
    fun hformat => nothingAfterDisconnect_of_run hformat hrun⟩, fun hcalm => ?_⟩
  have hattended := attended_of_run hrun hcalm
  exact ⟨hattended.not_blocked horderly, hattended.last⟩

def binarySetup : AuditSetup := ⟨.binary, {}, "0a", 1, "192.0.2.1", "XX"⟩

def connecting : List AuditAction := [.header true, .acquire 0, .send, .unlock, .encode true]

def disconnecting : List AuditAction := [.onDisconnect 2, .acquire 0, .send, .unlock]

theorem auditConnection_safe_late : ∃ s, (auditConnection binarySetup).run
        (connecting ++ disconnecting ++ [.encode true, .acquireClose, .close,
          .unlockClose, .call 3 (.onHandshakeFailed "EOF"), .acquire 0, .unlock]) = some s ∧
      s.received.length = 2 ∧ ¬ s.Blocked ∧ s.NothingAfterDisconnect := by
  have hlength : ((auditConnection binarySetup).run
      (connecting ++ disconnecting ++ ([.encode true, .acquireClose, .close,
        .unlockClose, .call 3 (.onHandshakeFailed "EOF"), .acquire 0,
        .unlock] : List AuditAction))).map (fun s => s.received.length) = some 2 := by
    decide +kernel
  obtain ⟨s, hrun, hreceived⟩ := Option.map_eq_some_iff.mp hlength
  exact ⟨s, hrun, hreceived, (auditConnection_safe binarySetup _ s hrun).2 (by decide +kernel)⟩

/-- A callback takes the lock between the critical sections of `OnDisconnect`.
The encoder stops after the disconnect message, and the callback waits for it
with the lock, so that the channel is never closed. -/
theorem callback_blocks_after_disconnect : ∃ s, (auditConnection binarySetup).run
        (connecting ++ disconnecting ++ [.call 3 (.onHandshakeFailed "EOF"),
          .acquire 0, .encode true]) = some s ∧
      s.Blocked :=
  ⟨_, rfl, _, rfl, rfl⟩

end ContainerSSH.AuditLog
