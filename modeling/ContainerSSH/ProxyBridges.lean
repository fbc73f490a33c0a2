/-
Channels that the backing server opens.
-/
import ContainerSSH.ProxyForwarding

namespace ContainerSSH.SSHProxy

open SSHServer

def Disposition.Sound : Disposition → Prop
  | .rejected _ _ => True
  | .bridged _ _ client server => client = true ∧ server = true

structure State.Sound (s : State) : Prop where
  alive : s.panicked = false
  channels : ∀ id c, s.connections id = some c → ∀ d ∈ c.channels, d.Sound

def ChannelPoint.ClientFailed : ChannelPoint → Bool
  | .accept _ _ client => !client
  | _ => false

def Bridges (s : State) : Action → Prop
  | .lockForChannel id => ∀ c ∈ s.connections id, c.accepted ≠ []
  | .accepted id err => err = none ∧ ∀ c ∈ s.connections id, c.channel.ClientFailed = false
  | _ => True

instance decidableBridges (s : State) (action : Action) : Decidable (Bridges s action) := by
  induction action using Action.casesOn <;> unfold Bridges <;> infer_instance

section Steps

variable {s t : State} {action : Action} {id : String} {c c' : Connection}

theorem sound_set_iff {g : Prop} (hc : s.connections id = some c) (halive : t.panicked = s.panicked)
    (ht : t.connections = (s.setConnection id c').connections)
    (hnew : (∀ d ∈ c'.channels, d.Sound) ↔ (∀ d ∈ c.channels, d.Sound) ∧ g) :
    t.Sound ↔ s.Sound ∧ g := by
  constructor
  · intro hsound
    have hself := hnew.mp (hsound.channels id c' (by rw [ht, setConnection_self]))
    refine ⟨⟨halive ▸ hsound.alive, fun other d hd => ?_⟩, hself.2⟩
    by_cases hother : other = id
    · subst hother
      rw [hc, Option.some.injEq] at hd
      exact hd ▸ hself.1
    · exact hsound.channels other d (by rw [ht, setConnection_of_ne hother, hd])
  · rintro ⟨hsound, hg⟩
    refine ⟨halive ▸ hsound.alive, fun other d hd => ?_⟩
    rw [ht] at hd
    by_cases hother : other = id
    · subst hother
      rw [setConnection_self, Option.some.injEq] at hd
      exact hd ▸ hnew.mpr ⟨hsound.channels other c hc, hg⟩
    · rw [setConnection_of_ne hother] at hd
      exact hsound.channels other d hd

theorem sound_set_same (hc : s.connections id = some c) (halive : t.panicked = s.panicked)
    (ht : t.connections = (s.setConnection id c').connections)
    (hsame : c'.channels = c.channels) : t.Sound ↔ s.Sound ∧ True :=
  sound_set_iff hc halive ht (by rw [hsame, and_true])

theorem sound_connect (hnew : s.connections id = none) (metadataID : String) (connMap : ConnMap) :
    State.Sound { s.setConnection id { metadataID := metadataID } with
        connMap := connMap } ↔ s.Sound := by
  constructor
  · intro hsound
    refine ⟨hsound.alive, fun other d hd => ?_⟩
    have hother : other ≠ id := fun h => by
      rw [h, hnew] at hd
      cases hd
    exact hsound.channels other d ((setConnection_of_ne hother).trans hd)
  · intro hsound
    refine ⟨hsound.alive, fun other d hd => ?_⟩
    by_cases hother : other = id
    · subst hother
      rw [setConnection_self] at hd
      cases hd
      exact nofun
    · rw [setConnection_of_ne hother] at hd
      exact hsound.channels other d hd

theorem sound_callHandler (hs : s.Ok) (hc : s.connections id = some c)
    (newChannel : NewChannel) (call : ClientChannel) : (s.callHandler id c newChannel call).Sound ↔
      s.Sound ∧ Bridges s (.lockForChannel id) := by
  have hok := hs.connections id c hc
  have hbridges : Bridges s (.lockForChannel id) ↔ c.reverseHandler.isSome = true := by
    rw [hok.accepted]
    simp [Bridges, hc]
  rw [hbridges, State.callHandler]
  split
  next sshConn hhandler =>
    rw [hhandler, Option.isSome_some, eq_self_iff_true]
    exact sound_set_same hc rfl rfl rfl
  next hnil =>
    -- Where there is a handler its server pointer is set.
    have hnone : c.reverseHandler = none := by
      cases hhandler : c.reverseHandler with
      | none => rfl
      | some handler =>
        have hserver := hok.reverseHandler handler hhandler
        exact absurd (hhandler.trans (by rw [← hserver])) (hnil handler.sshConn)
    rw [hnone]
    exact iff_of_false (fun h => Bool.false_ne_true h.alive.symm) (by simp)

theorem answered_channels (request : ForwardRequest)
    (handler : ReverseForwardHandler) (reply : Except GoError Bool) :
    (c.answered request handler reply).channels = c.channels := by
  cases reply with
  | error => rfl
  | ok ok => cases ok <;> rfl

theorem sound_step (hs : s.Ok) (hstep : s.step action = some t) :
    t.Sound ↔ s.Sound ∧ Bridges s action := by
  cases does_of_step hstep with
  | connect id metadataID hlock hnew =>
    exact (sound_connect hnew metadataID _).trans (and_true _).symm.to_iff
  | clientOpens =>
    exact ⟨fun h => ⟨⟨h.alive, h.channels⟩, trivial⟩, fun h => ⟨h.1.alive, h.1.channels⟩⟩
  | x11Request | directStreamLocal => exact (and_true _).symm.to_iff
  | request id c hc | unlockServer id c hc => exact sound_set_same hc rfl rfl rfl
  | lockServer id c hc | lockForward id c hc | drawChannelID id c hc | opened id c hc =>
    exact sound_set_same hc rfl rfl rfl
  | sent id c hc request handler hpoint reply =>
    exact sound_set_same hc rfl rfl (answered_channels request handler reply)
  | newChannel id c hc =>
    refine sound_set_iff hc rfl rfl ?_
    rw [Connection.receive]
    split
    next => simp [Bridges]
    next => simp [or_imp, forall_and, Bridges, Disposition.Sound]
  | lockForChannel id c hc newChannel call => exact sound_callHandler hs hc newChannel call
  | accepted id c hc newChannel call client hpoint =>
    refine sound_set_iff hc rfl rfl ?_
    simp [or_imp, forall_and, Disposition.Sound, Bridges, hc, hpoint,
      ChannelPoint.ClientFailed, and_comm]

end Steps

/-- Every channel of the backing server is rejected or bridged to an open
channel, and no nil pointer is followed, exactly in the runs in which the
reverse handler is called only after an accepted forwarding request and both
ends of every bridge were opened. -/
theorem channels_bridged_iff {actions : List Action} {s : State}
    (hrun : system.run actions = some s) : s.Sound ↔ system.Meets Bridges {} actions := by
  have hinit : State.Sound {} := ⟨rfl, fun id c hc => by cases hc⟩
  rw [system.runFrom_iff_meets (G := Bridges) (fun _ _ _ => State.Ok.step)
    (fun _ _ _ => sound_step) ok_init hrun]
  exact and_iff_right hinit

def forwardedChannel (client server : Option GoError) : List Action :=
  [.connect "a" "a", .request "a" (.streamLocal "/run/socket"), .lockServer "a",
    .lockForward "a", .sent "a" (.ok true), .unlockServer "a",
    .newChannel "a" ⟨"forwarded-streamlocal@openssh.com", []⟩,
    .lockForChannel "a", .drawChannelID "a", .opened "a" client, .accepted "a" server]

theorem forwarded_channel_bridged :
    ∃ s, system.run (forwardedChannel none none) = some s ∧ s.Sound :=
  TransitionSystem.exists_run _ rfl fun _ hrun => (channels_bridged_iff hrun).mpr (by decide)

/-- After an X11 request, which the proxy does not remember, a channel of the
type it was for follows a nil pointer. -/
theorem x11_channel_panics :
    ∃ s, system.run [.connect "a" "a", .x11Request, .newChannel "a" ⟨"x11", []⟩,
        .lockForChannel "a"] = some s ∧ s.panicked = true ∧ ¬ s.Sound := by
  refine ⟨_, rfl, rfl, fun hsound => ?_⟩
  cases hsound.alive

end ContainerSSH.SSHProxy
