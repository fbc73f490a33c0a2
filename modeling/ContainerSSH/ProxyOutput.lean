/-
The end of a proxy session.
-/
import ContainerSSH.ProxySession

namespace ContainerSSH.SSHProxy.Session

def Action.bytes (fd : Output) : Action → List UInt8
  | .backendSends fd' data => if fd' = fd then data else []
  | _ => []

def sentBy (fd : Output) (actions : List Action) : List UInt8 := actions.flatMap (Action.bytes fd)

/-- The backing server sends the output of a program that has been started, and
`handleBackendClientRequests` finds the end of its requests after both copies
have ended. The client ends its input, or its session, after the backing server
has ended the output, and so does a shutdown that cannot reach the program. -/
def InTurn (s : State) : Action → Prop
  | .backendSends _ _ => s.started = true
  | .select => s.requests = [] → s.started = true → ∀ fd, (s.output fd).ended = true
  | .clientEOF => s.backing.finished = true
  | .clientClose => s.backing.finished = true
  | .kill outcome => sendRequest "signal" outcome ≠ none → s.backing.finished = true
  | _ => True

instance decidableInTurn (s : State) (action : Action) : Decidable (InTurn s action) := by
  induction action using Action.casesOn <;> unfold InTurn <;> infer_instance

/-- The proxy has closed the backing channel, or is on the way there. -/
def State.Ending (s : State) : Prop :=
  s.stdin.ended = true ∨ s.wrapper.channel.any Channel.finished = true ∨ s.stage = .closing ∨
    s.stdinPoint = .closing ∨ s.backing.writable = false

/-- How the copy of an output stands, given what its surroundings have done. -/
structure CopyOk (started finished clientClosed sentEOF closing sentClose : Prop)
    (c : StreamCopy UInt8) : Prop where
  unsent : ¬ started → c.sent = []
  ended : c.ended = true → finished ∧ c.Complete ∨ clientClosed
  eof : sentEOF → c.ended = true
  closing : closing → c.ended = true ∨ c.Complete
  complete : sentClose → c.Complete

def State.CopyOk (s : State) : StreamCopy UInt8 → Prop :=
  Session.CopyOk (s.started = true) (s.backing.finished = true)
    (s.wrapper.channel.any Channel.receivedClose = true)
    (s.wrapper.channel.any Channel.sentEOF = true) (s.loop = .closing) (s.wrapper.sentClose = true)

structure Complete (s : State) : Prop where
  ok : s.Ok
  finished : s.Ending → s.backing.finished = true
  output : ∀ fd, s.CopyOk (s.output fd)

section Output

variable {s t : State}

theorem sent_setOutput {fd : Output} {copy : StreamCopy UInt8}
    {data : List UInt8} (hsent : copy.sent = (s.output fd).sent ++ data) (fd' : Output) :
    ((s.setOutput fd copy).output fd').sent =
      (s.output fd').sent ++ if fd = fd' then data else [] := by
  rw [State.output_setOutput]
  split_ifs with hfd hfd' hfd'
  · rw [hfd, hsent]
  · exact absurd hfd.symm hfd'
  · exact absurd hfd'.symm hfd
  · rw [List.append_nil]

theorem sent_step (hs : s.Ok) {action : Action} (hstep : s.step action = some t) (fd : Output) :
    (t.output fd).sent = (s.output fd).sent ++ action.bytes fd := by
  cases does_of_step hs hstep with
  | backendSends fd' data => exact sent_setOutput (StreamCopy.sent_feed data) fd
  | readOutput hread =>
    have hsame := (StreamCopy.sent_read hread).trans (List.append_nil _).symm
    simpa [Action.bytes] using sent_setOutput hsame fd
  | writeOutput _ hwrite =>
    have hsame := (StreamCopy.sent_write hwrite).trans (List.append_nil _).symm
    simpa [Action.bytes] using sent_setOutput hsame fd
  | _ => simp [Action.bytes, State.setChannel]

theorem sent_run {actions : List Action} (hrun : system.run actions = some t)
    (fd : Output) : (t.output fd).sent = sentBy fd actions :=
  system.runFrom_flatMap (fun _ _ _ hs hstep => ok_step hs hstep)
    (fun _ _ _ hs hstep => sent_step hs hstep fd) ok_init hrun

@[simp]
theorem Channel.sentEOF_close (c : Channel) : c.close.sentEOF = c.sentEOF := by
  rw [Channel.close]
  split <;> rfl

theorem finished_step (hs : s.Ending → s.backing.finished = true) {action : Action}
    (hturn : InTurn s action) (hdoes : Does s action t) :
    t.Ending → t.backing.finished = true := by
  cases hdoes with
  | backendEOF => exact fun _ => rfl
  | backendClose => exact fun _ => Bool.or_true _
  | clientEOF | clientClose => exact fun _ => hturn
  | returned | notAccepted =>
    exact fun hending => hs (hending.imp_right (Or.imp_right (Or.imp_left nofun)))
  | accepted =>
    exact fun hending => hs (hending.imp_right (Or.imp nofun (Or.imp_left nofun)))
  | unregister hchannel hclosed =>
    exact fun _ => hs (.inr (.inl (by simp [hchannel, Channel.finished, hclosed])))
  | onClose hstage => exact fun _ => (Channel.finished_close _).trans (hs (.inr (.inr (.inl hstage))))
  | readStdin hchannel hread =>
    rintro (hstdin | hending)
    · exact hs (.inr (.inl (by simp [hchannel, (StreamCopy.ended_read hread hstdin).1])))
    · exact hs (.inr hending)
  | writeStdin hwrite =>
    rintro (hstdin | hending)
    · exact hs (.inr (.inr (.inr (.inr (StreamCopy.ended_write hwrite hstdin)))))
    · exact hs (.inr hending)
  | closeWriteStdin hended =>
    exact fun _ => (Channel.finished_closeWrite _).trans (hs (.inl hended))
  | closeStdin hpoint =>
    exact fun _ => (Channel.finished_close _).trans (hs (.inr (.inr (.inr (.inl hpoint)))))
  | closedByShutdown hfails => exact fun _ => (Channel.finished_close _).trans (hturn hfails)
  | exited hchannel hsent | closeOnOutputComplete _ hchannel hsent =>
    refine fun hending => hs (hending.imp_right (Or.imp_left fun hclient => ?_))
    simpa [hchannel, hsent, Channel.finished] using hclient
  | closed _ hchannel =>
    refine fun hending => hs (hending.imp_right (Or.imp_left fun hclient => ?_))
    simpa [hchannel] using hclient
  | _ => exact hs

theorem CopyOk.mono {started finished clientClosed sentEOF closing sentClose : Prop}
    {started' finished' clientClosed' sentEOF' closing' sentClose' : Prop} {c : StreamCopy UInt8}
    (hc : CopyOk started finished clientClosed sentEOF closing sentClose c)
    (hstarted : started → started') (hfinished : finished → finished')
    (hclient : clientClosed → clientClosed') (heof : sentEOF' → sentEOF)
    (hclosing : closing' → closing) (hclose : sentClose' → sentClose) :
    CopyOk started' finished' clientClosed' sentEOF' closing' sentClose' c where
  unsent hnot := hc.unsent (mt hstarted hnot)
  ended hended := (hc.ended hended).imp (And.imp_left hfinished) hclient
  eof hsent := hc.eof (heof hsent)
  closing hloop := hc.closing (hclosing hloop)
  complete hsent := hc.complete (hclose hsent)

variable {c d : StreamCopy UInt8} {size : Nat} {data : List UInt8}

theorem copyOk_feed (hs : s.Ok) (hc : s.CopyOk c) (hopen : s.backing.finished = false)
    (hstarted : s.started = true) : s.CopyOk (c.feed data) := by
  have hnot (hclosed : s.backing.receivedClose = true) : False := by
    simp [Channel.finished, hclosed] at hopen
  refine ⟨absurd hstarted, fun hended => (hc.ended hended).imp_left fun h => ?_, hc.eof,
    fun hloop => (hnot (hs.closed_of_closing hloop)).elim,
    fun hsent => (hnot (hs.closed_of_sentClose hsent)).elim⟩
  exact nomatch hopen.symm.trans h.1

theorem copyOk_read (hc : s.CopyOk c) (hread : c.read size s.backing.finished = some d) :
    s.CopyOk d := by
  have hgoes : c.ended ≠ true := fun hended => by
    rw [StreamCopy.read_of_ended hended] at hread
    cases hread
  refine ⟨fun hnot => (StreamCopy.sent_read hread).trans (hc.unsent hnot),
    fun hended => .inl (StreamCopy.ended_read hread hended), fun heof => absurd (hc.eof heof) hgoes,
    fun hloop => .inr (((hc.closing hloop).resolve_left hgoes).read hread),
    fun hsent => (hc.complete hsent).read hread⟩

theorem copyOk_write (hc : s.CopyOk c) {channel : Channel}
    (hchannel : s.wrapper.channel = some channel)
    (hwrite : c.write size channel.writable = some d) : s.CopyOk d := by
  have hgoes : c.ended ≠ true := fun hended => by
    rw [StreamCopy.write_of_ended hended] at hwrite
    cases hwrite
  have hleft : ¬ c.Complete := fun hcomplete => by
    rw [hcomplete.not_write] at hwrite
    cases hwrite
  refine ⟨fun hnot => (StreamCopy.sent_write hwrite).trans (hc.unsent hnot), fun hended => .inr ?_,
    fun heof => absurd (hc.eof heof) hgoes,
    fun hloop => absurd (hc.closing hloop) (not_or.mpr ⟨hgoes, hleft⟩),
    fun hsent => absurd (hc.complete hsent) hleft⟩
  -- the write failed, and the proxy has not ended its side of the channel
  have heof := mt hc.eof hgoes
  have hsent := mt hc.complete hleft
  have hwritable := StreamCopy.ended_write hwrite hended
  simp only [ChannelWrapper.sentClose, hchannel, Option.any_some, Bool.not_eq_true] at heof hsent
  simpa [hchannel, Channel.writable, Channel.closed, heof, hsent] using hwritable

theorem copyOk_setOutput (hs : ∀ fd, s.CopyOk (s.output fd)) (fd : Output) (hd : s.CopyOk d) :
    ∀ fd', (s.setOutput fd d).CopyOk ((s.setOutput fd d).output fd') := by
  intro fd'
  rw [State.output_setOutput]
  split
  · exact hd
  · exact hs fd'

theorem copyOk_step (hs : Complete s) {action : Action} (hturn : InTurn s action)
    (hdoes : Does s action t) : ∀ fd, t.CopyOk (t.output fd) := by
  have hcopy := hs.output
  cases hdoes with
  | backendSends fd data hopen =>
    exact copyOk_setOutput hcopy fd (copyOk_feed hs.ok (hcopy fd) hopen hturn)
  | readOutput hread => exact copyOk_setOutput hcopy _ (copyOk_read (hcopy _) hread)
  | writeOutput hchannel hwrite =>
    exact copyOk_setOutput hcopy _ (copyOk_write (hcopy _) hchannel hwrite)
  | backendEOF => exact fun fd => (hcopy fd).mono id (fun _ => rfl) id id id id
  | backendClose => exact fun fd => (hcopy fd).mono id (fun _ => Bool.or_true _) id id id id
  | onClose | closeStdin | closedByShutdown | closeWriteStdin =>
    exact fun fd => (hcopy fd).mono id (by simp) id id id id
  | clientEOF hchannel | clientClose hchannel =>
    refine fun fd => (hcopy fd).mono id id ?_ ?_ id ?_ <;>
      simp_all [State.setChannel, ChannelWrapper.sentClose]
  | accepted hstage =>
    have hnil := hs.ok.nil_of_early (.inr hstage)
    refine fun fd => (hcopy fd).mono id id (by simp [hnil]) ?_ id ?_ <;>
      simp [State.setChannel, ChannelWrapper.sentClose]
  | answered _ hstarted =>
    exact fun fd => (hcopy fd).mono (fun h => by by_contra hnot; simp_all) id id id id id
  | selectRequest | selectDone | replied =>
    exact fun fd => (hcopy fd).mono id id id id (by simp) id
  | selectClosed hempty =>
    refine fun fd => { hcopy fd with closing := fun _ => ?_ }
    by_cases hstarted : s.started = true
    · exact .inl (hturn hempty hstarted fd)
    · exact .inr (StreamCopy.complete_of_sent_nil ((hcopy fd).unsent hstarted))
  | exited hchannel hsent =>
    refine fun fd => (hcopy fd).mono id id ?_ ?_ ?_ ?_ <;>
      simp_all [ChannelWrapper.sentClose]
  | closed hloop hchannel =>
    -- the client's channel is still open to the close of the proxy
    refine fun fd => { (hcopy fd).mono id id (by simp [hchannel]) (by simp [hchannel]) (by simp) id
      with complete := fun hsent => ?_ }
    by_contra hleft
    have hopen := mt (hcopy fd).complete hleft
    have hended := ((hcopy fd).closing hloop).resolve_right hleft
    have hclosed := ((hcopy fd).ended hended).resolve_left fun h => hleft h.2
    simp_all [ChannelWrapper.sentClose, Channel.close, Channel.closed]
  | panicked _ hloop => exact fun fd => (hcopy fd).mono id id id id (absurd · hloop) id
  | closeOnOutputComplete hended hchannel hsent =>
    refine fun fd => { (hcopy fd).mono id id ?_ id id ?_ with eof := fun _ => hended fd } <;>
      simp_all [ChannelWrapper.sentClose]
  | _ => exact hcopy

theorem complete_step (hs : Complete s) {action : Action} (hturn : InTurn s action)
    (hstep : s.step action = some t) : Complete t where
  ok := ok_step hs.ok hstep
  finished := finished_step hs.finished hturn (does_of_step hs.ok hstep)
  output := copyOk_step hs hturn (does_of_step hs.ok hstep)

end Output

theorem complete_init : Complete {} where
  ok := ok_init
  finished := by simp [State.Ending, Channel.writable, Channel.closed]
  output _ := ⟨fun _ => rfl, nofun, nofun, nofun, nofun⟩

/-- All along a run in which everything comes in turn, the proxy closes the
client's session only after all output was written to it, and the backing channel
only after the backing server had finished. -/
theorem output_complete_in_turn {actions : List Action} {s : State}
    (hrun : system.run actions = some s) (hturn : system.Meets InTurn system.init actions) :
    ∀ first t, first <+: actions → system.run first = some t →
      (t.wrapper.sentClose = true → ∀ fd, (t.output fd).written = sentBy fd first) ∧
        (t.backing.sentClose = true → t.backing.finished = true) := by
  rintro first t ⟨rest, rfl⟩ hfirst
  have hmeets := ((system.meets_append_iff hfirst).mp hturn).1
  have hcomplete : Complete t := system.runFrom_invariant_of_meets
    (fun _ _ _ hs hturn hstep => complete_step hs hturn hstep) complete_init hmeets hfirst
  refine ⟨fun hsent fd => ?_, fun hsent => hcomplete.finished ?_⟩
  · rw [← sent_run hfirst]
    exact (hcomplete.output fd).complete hsent
  · simp [State.Ending, Channel.writable, Channel.closed, hsent]

def copiedFirst : List Action :=
  [.returned, .accept true, .request .exec .accepted, .backendSends .stdout [104, 105],
    .backendRequest ⟨"exit-status", false, [0, 0, 0, 0]⟩, .backendClose, .readOutput .stdout 1,
    .select, .writeOutput .stdout 1, .handle, .readOutput .stdout 0, .readOutput .stderr 0,
    .closeOnOutputComplete, .select, .handle, .clientEOF, .readStdin 0, .closeWriteStdin,
    .closeStdin]

theorem output_complete_copiedFirst : ∃ s, system.run copiedFirst = some s ∧
      s.wrapper.sentClose = true ∧ ∀ fd, (s.output fd).written = sentBy fd copiedFirst := by
  refine TransitionSystem.exists_run _ rfl fun s hrun => ?_
  have hsent : s.wrapper.sentClose = true := by rw [← Option.some.inj hrun]; rfl
  exact ⟨hsent, (output_complete_in_turn hrun (by decide) _ s (List.prefix_refl _) hrun).1 hsent⟩

/-- The end of the backing channel overtakes the copy of the output, and the end
of the client's input closes the backing channel while the program runs. -/
theorem output_cut : (∃ actions s, system.run actions = some s ∧ s.wrapper.sentClose = true ∧
        sentBy .stdout actions = [104, 105] ∧ (s.output .stdout).written = []) ∧
      ∃ actions s, system.run actions = some s ∧ s.wrapper.channel = some { receivedEOF := true } ∧
        s.backing.sentClose = true ∧ s.backing.finished = false :=
  ⟨⟨[.returned, .accept true, .request .exec .accepted,
      .backendSends .stdout [104, 105], .backendClose, .select, .handle], _, rfl, rfl, rfl, rfl⟩,
    ⟨[.returned, .accept true, .request .exec .accepted, .clientEOF,
      .readStdin 0, .closeWriteStdin, .closeStdin], _, rfl, rfl, rfl, rfl⟩⟩

end ContainerSSH.SSHProxy.Session
