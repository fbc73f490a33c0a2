/-
The keys of the reverse forwards.
-/
import ContainerSSH.AgentShutdown
import ContainerSSH.ListBlocks

namespace ContainerSSH.Agent

inductive Bind where
  | tcp (addr : String) (port : UInt32)
  | unix (path : String)
deriving DecidableEq

def Bind.mangleForwardAddr : Bind → String
  | .tcp addr port => AgentForward.mangleTCP addr port
  | .unix path => AgentForward.mangleUnix path

/-- The port stands after the last colon, whatever the address. -/
theorem mangleTCP_inj {addr other : String} {port otherPort : UInt32}
    (hsame : AgentForward.mangleTCP addr port = AgentForward.mangleTCP other otherPort) :
    addr = other ∧ port = otherPort := by
  have hcolon (n : Nat) : ':' ∉ Nat.toDigits 10 n := fun hmem =>
    absurd (Nat.isDigit_of_mem_toDigits (by decide) (by decide) hmem) (by decide)
  have hchars : addr.toList ++ ':' :: Nat.toDigits 10 port.toNat =
      other.toList ++ ':' :: Nat.toDigits 10 otherPort.toNat := by
    simpa [AgentForward.mangleTCP] using congrArg String.toList hsame
  obtain ⟨haddr, hport⟩ := ListBlocks.append_cons_inj_of_last (hcolon _) (hcolon _) hchars
  refine ⟨String.toList_inj.mp haddr, UInt32.toNat_inj.mp ?_⟩
  rw [← Nat.ofDigitChars_ten_toDigits (n := port.toNat), hport, Nat.ofDigitChars_ten_toDigits]

theorem mangleForwardAddr_injective : Function.Injective Bind.mangleForwardAddr := by
  have hproto (addr path : String) (port : UInt32) :
      AgentForward.mangleTCP addr port ≠ AgentForward.mangleUnix path := by
    intro hsame
    have hchars := congrArg String.toList hsame
    simp [AgentForward.mangleTCP, AgentForward.mangleUnix] at hchars
  intro first second hsame
  cases first with
  | tcp addr port =>
    cases second with
    | tcp other otherPort =>
      obtain ⟨rfl, rfl⟩ := mangleTCP_inj hsame
      rfl
    | unix path => exact absurd hsame (hproto addr path port)
  | unix path =>
    cases second with
    | tcp addr port => exact absurd hsame.symm (hproto addr path port)
    | unix other =>
      have hchars : path.toList = other.toList := by
        simpa [Bind.mangleForwardAddr, AgentForward.mangleUnix] using congrArg String.toList hsame
      rw [String.toList_inj.mp hchars]

inductive ReverseCall where
  | new (bind : Bind) (outcome : SetupOutcome)
  | cancel (bind : Bind) (write : Option GoError)

def ReverseCall.bind : ReverseCall → Bind
  | .new bind _ => bind
  | .cancel bind _ => bind

def Performed.returned (done : Performed) : Except Stuck (AgentForward × Option GoError) :=
  done.result.map fun err => (done.state, err)

namespace AgentForward

variable (f : AgentForward)

def entry (bind : Bind) : Option ForwardCtx := f.reverseForwards bind.mangleForwardAddr

def setEntry (bind : Bind) (ctx : Option ForwardCtx) : AgentForward :=
  { f with reverseForwards := fun key =>
      if key = bind.mangleForwardAddr then ctx else f.reverseForwards key }

def call : ReverseCall → Except Stuck (AgentForward × Option GoError)
  | .new (.tcp bindHost bindPort) outcome =>
    (f.newTCPReverseForwarding bindHost bindPort outcome).returned
  | .new (.unix path) outcome => (f.newUnixReverseForwarding path outcome).returned
  | .cancel (.tcp bindHost bindPort) write => f.cancelTCPForwarding bindHost bindPort write
  | .cancel (.unix path) write => f.cancelStreamLocalForwarding path write

def calls (f : AgentForward) : List ReverseCall →
    Except Stuck (AgentForward × List (Bind × Option GoError))
  | [] => .ok (f, [])
  | c :: rest =>
    match f.call c with
    | .error stuck => .error stuck
    | .ok (g, err) => (calls g rest).map fun (last, answers) => (last, (c.bind, err) :: answers)

end AgentForward

def Bind.alreadyStarted : Bind → String
  | .tcp _ _ => "Forwarding already started for this host/port combo"
  | .unix _ => "Forwarding already started for this socket"

def ReverseCall.effect : ReverseCall → Option ForwardCtx →
    Except Stuck (Option ForwardCtx × Option GoError)
  | .new bind _, some ctx => .ok (some ctx, some (.plain bind.alreadyStarted))
  | .new _ outcome, none =>
    match outcome.callback with
    | some err => .ok (none, some err)
    | none => .ok (some {}, outcome.handshake)
  | .cancel _ _, none => .ok (none, some (.plain "Forwarding not found"))
  | .cancel _ write, some ctx =>
    match ctx.noMoreConnections, write with
    | .error stuck, _ => .error stuck
    | .ok (next, _), some err => .ok (some next, some err)
    | .ok _, none => .ok (none, none)

namespace AgentForward

variable {f g : AgentForward} {c : ReverseCall} {bind : Bind}

theorem entry_setEntry (f : AgentForward) (bind other : Bind) (ctx : Option ForwardCtx) :
    (f.setEntry bind ctx).entry other = if other = bind then ctx else f.entry other := by
  simp only [setEntry, entry, mangleForwardAddr_injective.eq_iff]

theorem setEntry_entry (f : AgentForward) (bind : Bind) : f.setEntry bind (f.entry bind) = f := by
  have hsame : (fun key => if key = bind.mangleForwardAddr then f.entry bind
      else f.reverseForwards key) = f.reverseForwards := by
    funext key
    split_ifs with hkey
    · rw [hkey, entry]
    · rfl
  rw [setEntry, hsame]

theorem call_new (f : AgentForward) (bind : Bind) (outcome : SetupOutcome) :
    ∃ packet, f.call (.new bind outcome) = (f.newReverseForwarding bind.mangleForwardAddr
      bind.alreadyStarted packet outcome).returned := by
  cases bind <;> exact ⟨_, rfl⟩

theorem call_cancel (f : AgentForward) (bind : Bind) (write : Option GoError) :
    f.call (.cancel bind write) = f.cancelForwarding bind.mangleForwardAddr write := by
  cases bind <;> rfl

theorem call_eq (f : AgentForward) (c : ReverseCall) : f.call c =
    (c.effect (f.entry c.bind)).map fun (ctx, err) => (f.setEntry c.bind ctx, err) := by
  cases c with
  | new bind outcome =>
    have hkept := f.setEntry_entry bind
    obtain ⟨packet, hcall⟩ := f.call_new bind outcome
    rw [hcall, newReverseForwarding, ← entry, ReverseCall.bind]
    cases hentry : f.entry bind <;> rw [hentry] at hkept
    case some => simp [Performed.returned, ReverseCall.effect, Except.map, hkept]
    case none =>
      cases hcallback : outcome.callback with
      | some err =>
        simp [setupAgent, Performed.returned, ReverseCall.effect, Except.map, hcallback, hkept]
      | none =>
        simp [setupAgent, ReverseCall.effect, hcallback]
        rfl
  | cancel bind write =>
    have hkept := f.setEntry_entry bind
    rw [call_cancel, cancelForwarding, ← entry, ReverseCall.bind]
    cases hentry : f.entry bind with
    | none =>
      rw [hentry] at hkept
      simp [ReverseCall.effect, Except.map, hkept]
    | some ctx =>
      simp only [ReverseCall.effect]
      cases ctx.noMoreConnections with
      | error => rfl
      | ok => cases write <;> rfl

theorem effect_of_call {err : Option GoError} (hcall : f.call c = .ok (g, err)) :
    ∃ ctx, c.effect (f.entry c.bind) = .ok (ctx, err) ∧ g = f.setEntry c.bind ctx := by
  rw [call_eq] at hcall
  cases heffect : c.effect (f.entry c.bind) with
  | error => simp [heffect, Except.map] at hcall
  | ok result =>
    rw [heffect] at hcall
    cases hcall
    exact ⟨result.1, rfl, rfl⟩

theorem entry_call_of_ne {err : Option GoError} (hcall : f.call c = .ok (g, err))
    (hne : bind ≠ c.bind) : g.entry bind = f.entry bind := by
  obtain ⟨ctx, -, rfl⟩ := effect_of_call hcall
  rw [entry_setEntry, if_neg hne]

theorem call_congr {f' : AgentForward} {err : Option GoError} (hcall : f.call c = .ok (g, err))
    (hsame : f'.entry c.bind = f.entry c.bind) :
    ∃ g', f'.call c = .ok (g', err) ∧ g'.entry c.bind = g.entry c.bind := by
  obtain ⟨ctx, heffect, rfl⟩ := effect_of_call hcall
  refine ⟨f'.setEntry c.bind ctx, ?_, ?_⟩
  · rw [call_eq, hsame, heffect]
    rfl
  · rw [entry_setEntry, entry_setEntry, if_pos rfl, if_pos rfl]

/-- What a sequence of calls does for an address is what its own calls do. -/
theorem calls_filter {f' : AgentForward} {calls : List ReverseCall}
    {answers : List (Bind × Option GoError)} (hcalls : f.calls calls = .ok (g, answers))
    (hsame : f'.entry bind = f.entry bind) :
    ∃ g', f'.calls (calls.filter fun c => c.bind = bind) =
        .ok (g', answers.filter fun answer => answer.1 = bind) ∧
      g'.entry bind = g.entry bind := by
  induction calls generalizing f f' answers with
  | nil =>
    cases hcalls
    exact ⟨f', rfl, hsame⟩
  | cons c rest ih =>
    rw [AgentForward.calls] at hcalls
    split at hcalls
    next => cases hcalls
    next h err hcall =>
      cases hrest : h.calls rest with
      | error => simp [hrest, Except.map] at hcalls
      | ok result =>
        rw [hrest] at hcalls
        cases hcalls
        by_cases hbind : c.bind = bind
        · subst hbind
          obtain ⟨h', hcall', hsame'⟩ := call_congr hcall hsame
          obtain ⟨g', hcalls', hentry⟩ := ih hrest hsame'
          refine ⟨g', ?_, hentry⟩
          simp [AgentForward.calls, hcall', hcalls', Except.map]
        · have hsame' := hsame.trans (entry_call_of_ne hcall (Ne.symm hbind)).symm
          obtain ⟨g', hcalls', hentry⟩ := ih hrest hsame'
          exact ⟨g', by simpa [hbind] using hcalls', hentry⟩

end AgentForward

/-- The keys of two bind addresses or sockets are different.  So a call for one
leaves the entry of any other as it is, and in every sequence of calls, from any
state, each has the entry and gets the answers that its own calls alone lead to. -/
theorem reverse_forwards_apart : Function.Injective Bind.mangleForwardAddr ∧
    (∀ (f g : AgentForward) (c : ReverseCall) (err : Option GoError) (bind : Bind),
      f.call c = .ok (g, err) → bind ≠ c.bind → g.entry bind = f.entry bind) ∧
    ∀ (f g : AgentForward) (calls : List ReverseCall) (answers : List (Bind × Option GoError))
      (bind : Bind), f.calls calls = .ok (g, answers) →
        ∃ g', f.calls (calls.filter fun c => c.bind = bind) =
            .ok (g', answers.filter fun answer => answer.1 = bind) ∧
          g'.entry bind = g.entry bind :=
  ⟨mangleForwardAddr_injective, fun _ _ _ _ _ => AgentForward.entry_call_of_ne,
    fun _ _ _ _ _ hcalls => AgentForward.calls_filter hcalls rfl⟩

def lookalikes : List ReverseCall :=
  [.new (.tcp "::1" 22) {}, .new (.tcp "::" 122) {}, .new (.unix "::1:22") {},
    .cancel (.tcp "::1" 22) none]

theorem reverse_forwards_apart_lookalikes :
    ∃ g answers, ({} : AgentForward).calls lookalikes = .ok (g, answers) ∧
      ∃ g', ({} : AgentForward).calls (lookalikes.filter fun c => c.bind = .tcp "::" 122) =
          .ok (g', answers.filter fun answer => answer.1 = .tcp "::" 122) ∧
        g'.entry (.tcp "::" 122) = g.entry (.tcp "::" 122) :=
  ⟨_, _, rfl, reverse_forwards_apart.2.2 _ _ _ _ _ rfl⟩

end ContainerSSH.Agent
