/-
`serveConnection` over the agent protocol.
-/
import ContainerSSH.AgentThreads

namespace ContainerSSH.Agent

def Pipe.closed (p : Pipe) : Bool := p.writerClosed || p.readerClosed

inductive ReaderPoint where
  | reading
  | writing (chunk : List UInt8)
  | closingClient
  | closingConnection
  | done
deriving DecidableEq

def ReaderPoint.stopped : ReaderPoint → Bool
  | .reading => false
  | .writing _ => false
  | .closingClient => true
  | .closingConnection => true
  | .done => true

inductive WriterPoint where
  | reading
  | writing (chunk : List UInt8) (ended : Bool)
  | closingConnection
  | closingClient
  | done
deriving DecidableEq

structure Served where
  reader : ReaderPoint := .reading
  writer : WriterPoint := .reading

structure Forwarding where
  threads : Threads := {}
  delivering : Option (UInt64 × List UInt8) := none
  served : UInt64 → Option Served := fun _ => none

inductive CopyEvent where
  | read
  | clientWrite (ok : Bool)
  | closeClient
  | close
  | clientRead (chunk : List UInt8) (ended : Bool)
  | write
  | writerClose
  | writerCloseClient
deriving DecidableEq

inductive ForwardAction where
  | thread (action : ThreadAction)
  | receiveData (id : UInt64) (payload : List UInt8)
  | serve (id : UInt64)
  | copy (id : UInt64) (event : CopyEvent)
deriving DecidableEq

def copyBuffer : Nat := 32 * 1024

namespace Forwarding

variable (s : Forwarding)

def locked (id : UInt64) : Bool :=
  match s.delivering with
  | none => false
  | some (i, _) => decide (i = id)

def waits : ThreadAction → Bool
  | .receive packet => s.delivering.isSome || decide (packet.type = .data)
  | .loop => s.delivering.isSome
  | .call _ (.read _) => true
  | .call id _ => s.locked id
  | .close id => s.locked id
  | .closeImm id => s.locked id
  | .newConnection _ => false
  | .writeClose _ => false
  | .noMoreConnections => false

def setServed (id : UInt64) (v : Served) : Forwarding :=
  { s with served := fun i => if i = id then some v else s.served i }

def stepThread (action : ThreadAction) : Option Forwarding :=
  if s.waits action then none
  else (s.threads.step action).map fun threads => { s with threads }

def receiveData (id : UInt64) (payload : List UInt8) : Option Forwarding :=
  if s.threads.loop ≠ .idle ∨ s.delivering.isSome ∨ s.threads.ctx.connMapMu
  then none
  else
    match s.threads.ctx.connMap id with
    | none => some s
    | some c =>
      if c.state ≠ .started ∨ c.pipe.closed then some s
      else some { s with delivering := some (id, payload) }

def taken (id : UInt64) (c : Connection) (v : Served) (rest : List UInt8) :
    Forwarding :=
  let chunk := rest.take copyBuffer
  { s.setServed id { v with reader := if chunk = [] then .reading else .writing chunk } with
    threads.ctx := s.threads.ctx.setConnection id { c with
        pipe.handed := c.pipe.handed ++ chunk }
    delivering :=
      if rest.drop copyBuffer = [] then none
      else some (id, rest.drop copyBuffer) }

def read (id : UInt64) (v : Served) : Option Forwarding :=
  match s.threads.ctx.connMap id with
  | none => none
  | some c =>
    if c.pipe.closed then some (s.setServed id { v with reader := .closingClient })
    else
      match s.delivering with
      | none => none
      | some (i, rest) => if i = id then some (s.taken id c v rest) else none

def closeThen (id : UInt64) (v : Served) : Option Forwarding :=
  (s.stepThread (.close id)).map fun t => t.setServed id v

def write (id : UInt64) (v : Served) (chunk : List UInt8) (ended : Bool) :
    Option Forwarding :=
  match s.threads.ctx.connMap id with
  | none => none
  | some c =>
    let failed := c.state ≠ .started
    (s.stepThread (.call id (.write chunk))).map fun t =>
      t.setServed id { v with writer := if failed ∨ ended then .closingConnection else .reading }

def copy (id : UInt64) (v : Served) : CopyEvent → Option Forwarding
  | .read => if v.reader = .reading then s.read id v else none
  | .clientWrite ok =>
    match v.reader with
    | .writing _ =>
      some (s.setServed id { v with reader := if ok then .reading else .closingClient })
    | _ => none
  | .closeClient =>
    if v.reader = .closingClient then some (s.setServed id { v with reader := .closingConnection })
    else none
  | .close =>
    if v.reader = .closingConnection then s.closeThen id { v with reader := .done }
    else none
  | .clientRead chunk ended =>
    if v.writer = .reading then
      some (s.setServed id { v with
          writer :=
            if chunk ≠ [] then .writing chunk ended
            else if ended then .closingConnection
            else .reading })
    else none
  | .write =>
    match v.writer with
    | .writing chunk ended => s.write id v chunk ended
    | _ => none
  | .writerClose =>
    if v.writer = .closingConnection then s.closeThen id { v with writer := .closingClient }
    else none
  | .writerCloseClient =>
    if v.writer = .closingClient then some (s.setServed id { v with writer := .done })
    else none

def step : ForwardAction → Option Forwarding
  | .thread action => s.stepThread action
  | .receiveData id payload => s.receiveData id payload
  | .serve id =>
    if (s.threads.ctx.connMap id).isSome ∧ s.served id = none then some (s.setServed id {})
    else none
  | .copy id event => (s.served id).bind fun v => s.copy id v event

end Forwarding

def forwarding : TransitionSystem Forwarding ForwardAction where
  init := {}
  step := Forwarding.step

/-- The packet loop delivers to a connection whose reader has stopped reading. -/
def Forwarding.Wedged (s : Forwarding) (id : UInt64) : Prop :=
  ∃ rest v, s.delivering = some (id, rest) ∧ s.served id = some v ∧ v.reader = .closingConnection

namespace Forwarding

inductive Copies (s : Forwarding) (id : UInt64) (v : Served) :
    CopyEvent → Forwarding → Prop
  | ends (c) (hreader : v.reader = .reading) (hconn : s.threads.ctx.connMap id = some c)
      (hclosed : c.pipe.closed = true) :
      Copies s id v .read (s.setServed id { v with reader := .closingClient })
  | takes (c rest) (hreader : v.reader = .reading) (hconn : s.threads.ctx.connMap id = some c)
      (hopen : c.pipe.closed = false) (hdelivering : s.delivering = some (id, rest)) :
      Copies s id v .read (s.taken id c v rest)
  | passes (chunk) (hreader : v.reader = .writing chunk) : Copies s id v (.clientWrite true)
        (s.setServed id { v with reader := .reading })
  | fails (chunk) (hreader : v.reader = .writing chunk) : Copies s id v (.clientWrite false)
        (s.setServed id { v with reader := .closingClient })
  | closesClient (hreader : v.reader = .closingClient) : Copies s id v .closeClient
        (s.setServed id { v with reader := .closingConnection })
  | closes (t) (hreader : v.reader = .closingConnection)
      (hthread : s.stepThread (.close id) = some t) :
      Copies s id v .close (t.setServed id { v with reader := .done })
  | writerMoves (event writer) : Copies s id v event (s.setServed id { v with writer })
  | writerCalls (event writer t) (action : ThreadAction)
      (haction : action = .close id ∨ ∃ data, action = .call id (.write data))
      (hthread : s.stepThread action = some t) :
      Copies s id v event (t.setServed id { v with writer })

variable {v : Served} {event : CopyEvent}

theorem copies_of_copy {s t : Forwarding} {id : UInt64} (hcopy : s.copy id v event = some t) :
    Copies s id v event t := by
  cases event with
  | read =>
    simp only [copy, Option.ite_none_right_eq_some] at hcopy
    obtain ⟨hreader, hread⟩ := hcopy
    unfold read at hread
    split at hread
    · simp at hread
    rename_i c hconn
    split_ifs at hread with hclosed
    · cases hread
      exact .ends c hreader hconn hclosed
    split at hread
    · simp at hread
    rename_i i rest hdelivering
    split_ifs at hread with hi
    rw [Option.some.injEq] at hread
    subst hi hread
    exact .takes c rest hreader hconn (by simpa using hclosed) hdelivering
  | clientWrite ok =>
    simp only [copy] at hcopy
    split at hcopy
    · rename_i chunk hreader
      cases hcopy
      cases ok with
      | true => exact .passes chunk hreader
      | false => exact .fails chunk hreader
    · simp at hcopy
  | closeClient =>
    simp only [copy, Option.ite_none_right_eq_some, Option.some.injEq]
      at hcopy
    obtain ⟨hreader, rfl⟩ := hcopy
    exact .closesClient hreader
  | close =>
    simp only [copy, closeThen, Option.ite_none_right_eq_some, Option.map_eq_some_iff] at hcopy
    obtain ⟨hreader, r, hthread, rfl⟩ := hcopy
    exact .closes r hreader hthread
  | clientRead | writerCloseClient =>
    simp only [copy, Option.ite_none_right_eq_some, Option.some.injEq]
      at hcopy
    obtain ⟨-, rfl⟩ := hcopy
    exact .writerMoves _ _
  | write =>
    simp only [copy] at hcopy
    split at hcopy
    · rename_i chunk ended hwriter
      unfold write at hcopy
      split at hcopy
      · simp at hcopy
      · obtain ⟨r, hthread, rfl⟩ := Option.map_eq_some_iff.mp hcopy
        exact .writerCalls _ _ r _ (.inr ⟨chunk, rfl⟩) hthread
    · simp at hcopy
  | writerClose =>
    simp only [copy, closeThen, Option.ite_none_right_eq_some, Option.map_eq_some_iff] at hcopy
    obtain ⟨-, r, hthread, rfl⟩ := hcopy
    exact .writerCalls _ _ r _ (.inl rfl) hthread

theorem pipeEvolution : Connection.Evolution fun c c' =>
    c.pipe.closed = true → c'.pipe.closed = true where
  refl := fun _ hclosed => hclosed
  call := by
    intro c c' call out hcall hclosed
    cases Connection.calls_of_call hcall with
    | writeFails => simp [Pipe.closed]
    | reads n pipe data hread =>
      obtain ⟨unread, rfl⟩ := Pipe.eq_of_read hread
      exact hclosed
    | _ => exact hclosed
  closeImm := by
    intro c c' hclose _
    simp [Connection.closeImm_eq hclose, Pipe.closed]
  receive := by
    intro c data hclosed
    simp only [Pipe.closed] at hclosed
    simp only [Pipe.write, hclosed]
    exact hclosed

variable {s t : Forwarding} {id : UInt64}

variable {action : ThreadAction}

theorem connMap_of_locked {threads : Threads} {rest : List UInt8} {c : Connection}
    (hdelivering : s.delivering = some (id, rest)) (hwaits : ¬ s.waits action = true)
    (hstep : s.threads.step action = some threads) (hconn : s.threads.ctx.connMap id = some c) :
    threads.ctx.connMap id = some c := by
  have hother : ∀ i, ¬ s.locked i = true → id ≠ i := by
    intro i hlocked heq
    simp [locked, hdelivering, heq] at hlocked
  cases Threads.does_of_step hstep with
  | opens _ hperform =>
    obtain ⟨ctx, out, hopens, rfl⟩ := Threads.perform_eq_some.mp hperform
    obtain ⟨-, -, hcases⟩ := ForwardCtx.newConnection_cases hopens
    rcases hcases with ⟨-, hmap, -⟩ | ⟨hfree, -, hsame, -⟩
    · exact (congrFun hmap id).trans hconn
    · have hid : id ≠ s.threads.ctx.connectionId + 1 := by
        intro heq
        rw [heq, hfree] at hconn
        simp at hconn
      exact (hsame id hid).trans hconn
  | receives _ _ => simp [waits, hdelivering] at hwaits
  | continues _ => simp [waits, hdelivering] at hwaits
  | @calls i call _ _ _ hnotClose _ _ =>
    have hi : id ≠ i := by
      cases call <;> simp_all [waits]
    exact (s.threads.ctx.setConnection_of_ne _ hi).trans hconn
  | @closes i d _ =>
    have hsame := (s.threads.ctx.setConnection_of_ne d.close.1 (hother i hwaits)).trans hconn
    unfold Threads.close
    split_ifs <;> exact hsame
  | writesClose _ => exact hconn
  | @closesImm i d hd =>
    have hsame := (s.threads.ctx.closeConnectionImm_connMap i hd).2
    exact (hsame.connMap id (hother i hwaits)).trans hconn
  | stops hperform =>
    obtain ⟨ctx, out, hstops, rfl⟩ := Threads.perform_eq_some.mp hperform
    unfold ForwardCtx.noMoreConnections at hstops
    split_ifs at hstops
    cases hstops
    exact hconn

structure Flows (s : Forwarding) (id : UInt64) : Prop where
  keyed : s.threads.ctx.Keyed
  reader : ∀ v, s.served id = some v → v.reader.stopped = true →
    ∃ c, s.threads.ctx.connMap id = some c ∧ c.pipe.closed = true
  delivering : ∀ rest, s.delivering = some (id, rest) →
    ∃ c, s.threads.ctx.connMap id = some c ∧ c.pipe.closed = false

theorem flows_init (id : UInt64) : Flows forwarding.init id where
  keyed := Threads.sound_init.keyed
  reader := by simp [forwarding]
  delivering := by simp [forwarding]

theorem Flows.stepThread (hs : s.Flows id) (hstep : s.stepThread action = some t) : t.Flows id := by
  unfold Forwarding.stepThread at hstep
  rw [Option.ite_none_left_eq_some, Option.map_eq_some_iff] at hstep
  obtain ⟨hwaits, threads, hthread, rfl⟩ := hstep
  obtain ⟨out, hadvances, -⟩ := Threads.steps_of_step pipeEvolution hs.keyed
    (fun _ _ _ _ _ hclosed => hclosed) hthread
  refine ⟨hadvances.keyed, ?_, ?_⟩
  · intro v hv hstopped
    obtain ⟨c, hconn, hclosed⟩ := hs.reader v hv hstopped
    obtain ⟨c', hconn', hkeeps⟩ := hadvances.evolves id c hconn
    exact ⟨c', hconn', hkeeps hclosed⟩
  · intro rest hdelivering
    have hlocked : s.delivering = some (id, rest) := hdelivering
    obtain ⟨c, hconn, hopen⟩ := hs.delivering rest hlocked
    exact ⟨c, connMap_of_locked hlocked hwaits hthread hconn, hopen⟩

theorem stepThread_frame (hstep : s.stepThread action = some t) :
    t.delivering = s.delivering ∧ t.served = s.served := by
  unfold Forwarding.stepThread at hstep
  rw [Option.ite_none_left_eq_some, Option.map_eq_some_iff] at hstep
  obtain ⟨-, threads, -, rfl⟩ := hstep
  exact ⟨rfl, rfl⟩

variable {i : UInt64}

theorem Flows.setServed (hs : s.Flows id) (hreader : i = id → v.reader.stopped = true →
      ∃ c, s.threads.ctx.connMap id = some c ∧ c.pipe.closed = true) :
    (s.setServed i v).Flows id where
  keyed := hs.keyed
  reader := by
    intro w hw hstopped
    by_cases hi : i = id
    · subst hi
      simp only [Forwarding.setServed, if_true] at hw
      cases hw
      exact hreader rfl hstopped
    · simp only [Forwarding.setServed, if_neg (Ne.symm hi)] at hw
      exact hs.reader w hw hstopped
  delivering := hs.delivering

theorem Flows.receiveData (hs : s.Flows id) {payload : List UInt8}
    (hstep : s.receiveData i payload = some t) : t.Flows id := by
  unfold Forwarding.receiveData at hstep
  rw [Option.ite_none_left_eq_some] at hstep
  obtain ⟨-, hstep⟩ := hstep
  split at hstep
  · cases hstep
    exact hs
  · rename_i c hconn
    split_ifs at hstep with hrefused <;> rw [Option.some.injEq] at hstep <;>
      subst hstep
    · exact hs
    · refine ⟨hs.keyed, hs.reader, ?_⟩
      intro rest hdelivering
      obtain ⟨rfl, rfl⟩ := hdelivering
      push Not at hrefused
      exact ⟨c, hconn, by simpa using hrefused.2⟩

theorem Flows.taken (hs : s.Flows id) {c : Connection} {rest : List UInt8}
    (hconn : s.threads.ctx.connMap i = some c) (hopen : c.pipe.closed = false) :
    (s.taken i c v rest).Flows id := by
  refine ⟨?_, ?_, ?_⟩
  · apply hs.keyed.update (s.threads.ctx.setConnection_self i _)
    · exact hs.keyed i c hconn
    · exact fun j hj => s.threads.ctx.setConnection_of_ne _ hj
  · intro w hw hstopped
    by_cases hi : id = i
    · simp only [Forwarding.taken, Forwarding.setServed, if_pos hi, Option.some.injEq] at hw
      rw [← hw] at hstopped
      split_ifs at hstopped <;> simp [ReaderPoint.stopped] at hstopped
    · simp only [Forwarding.taken, Forwarding.setServed, if_neg hi] at hw
      obtain ⟨d, hd, hclosed⟩ := hs.reader w hw hstopped
      exact ⟨d, (s.threads.ctx.setConnection_of_ne _ hi).trans hd, hclosed⟩
  · intro rest' hrest
    simp only [Forwarding.taken] at hrest
    split_ifs at hrest
    rw [Option.some.injEq, Prod.mk.injEq] at hrest
    obtain ⟨rfl, -⟩ := hrest
    exact ⟨_, s.threads.ctx.setConnection_self i _, hopen⟩

theorem Flows.copy (hs : s.Flows id) (hserved : s.served i = some v)
    (hclient : i = id → event ≠ .clientWrite false)
    (hcopy : s.copy i v event = some t) : t.Flows id := by
  cases copies_of_copy hcopy with
  | ends c hreader hconn hclosed =>
    apply hs.setServed
    rintro rfl -
    exact ⟨c, hconn, hclosed⟩
  | takes c rest hreader hconn hopen => exact hs.taken hconn hopen
  | passes =>
    apply hs.setServed
    simp [ReaderPoint.stopped]
  | fails =>
    apply hs.setServed
    exact fun hi => absurd rfl (hclient hi)
  | closesClient hreader =>
    apply hs.setServed
    rintro rfl -
    exact hs.reader v hserved (by simp [hreader, ReaderPoint.stopped])
  | closes r hreader hthread =>
    have hr := hs.stepThread hthread
    apply hr.setServed
    rintro rfl -
    rw [← (stepThread_frame hthread).2] at hserved
    exact hr.reader v hserved (by simp [hreader, ReaderPoint.stopped])
  | writerMoves =>
    apply hs.setServed
    rintro rfl hstopped
    exact hs.reader v hserved hstopped
  | writerCalls event writer r action haction hthread =>
    have hr := hs.stepThread hthread
    apply hr.setServed
    rintro rfl hstopped
    rw [← (stepThread_frame hthread).2] at hserved
    exact hr.reader v hserved hstopped

theorem Flows.step (hs : s.Flows id) {action : ForwardAction}
    (hclient : action ≠ .copy id (.clientWrite false))
    (hstep : s.step action = some t) : t.Flows id := by
  cases action with
  | thread => exact hs.stepThread hstep
  | receiveData => exact hs.receiveData hstep
  | serve =>
    obtain ⟨-, ⟨⟩⟩ := Option.ite_none_right_eq_some.mp hstep
    apply hs.setServed
    simp [ReaderPoint.stopped]
  | copy =>
    simp only [Forwarding.step, Option.bind_eq_some_iff] at hstep
    obtain ⟨v, hserved, hcopy⟩ := hstep
    apply hs.copy hserved _ hcopy
    rintro rfl rfl
    exact hclient rfl

theorem Flows.not_wedged (hs : s.Flows id) : ¬ s.Wedged id := by
  rintro ⟨rest, v, hdelivering, hserved, hreader⟩
  obtain ⟨c, hconn, hopen⟩ := hs.delivering rest hdelivering
  obtain ⟨c', hconn', hclosed⟩ := hs.reader v hserved (by simp [hreader, ReaderPoint.stopped])
  rw [hconn, Option.some.injEq] at hconn'
  rw [hconn', hclosed] at hopen
  simp at hopen

theorem Wedged.stepThread (hwedged : s.Wedged id)
    (haction : action = .close id ∨ ∃ data, action = .call id (.write data)) :
    s.stepThread action = none := by
  obtain ⟨rest, v, hdelivering, -, -⟩ := hwedged
  rcases haction with rfl | ⟨data, rfl⟩ <;>
    simp [Forwarding.stepThread, waits, locked, hdelivering]

theorem Wedged.of_frame (hwedged : s.Wedged id)
    (hframe : t.delivering = s.delivering ∧ t.served = s.served) : t.Wedged id := by
  obtain ⟨rest, v, hdelivering, hserved, hreader⟩ := hwedged
  exact ⟨rest, v, hframe.1.trans hdelivering, (congrFun hframe.2 id).trans hserved, hreader⟩

theorem Wedged.setServed (hwedged : s.Wedged id)
    (hreader : i = id → v.reader = .closingConnection) : (s.setServed i v).Wedged id := by
  obtain ⟨rest, w, hdelivering, hw, hwaiting⟩ := hwedged
  by_cases hi : i = id
  · exact ⟨rest, v, hdelivering, by simp [Forwarding.setServed, hi], hreader hi⟩
  · refine ⟨rest, w, hdelivering, ?_, hwaiting⟩
    simp only [Forwarding.setServed, if_neg (Ne.symm hi)]
    exact hw

theorem Wedged.reader (hwedged : s.Wedged id) (hserved : s.served id = some v) :
    v.reader = .closingConnection := by
  obtain ⟨rest, w, -, hw, hreader⟩ := hwedged
  rw [hserved, Option.some.injEq] at hw
  rw [hw]
  exact hreader

theorem Wedged.copy (hwedged : s.Wedged id) (hserved : s.served i = some v)
    (hcopy : s.copy i v event = some t) : t.Wedged id ∧ t.delivering = s.delivering := by
  have hwaiting : i = id → v.reader = .closingConnection := by
    rintro rfl
    exact hwedged.reader hserved
  have hother : v.reader ≠ .closingConnection → i ≠ id := fun hreader hi => hreader (hwaiting hi)
  cases copies_of_copy hcopy with
  | ends c hreader | passes chunk hreader | fails chunk hreader =>
    have hi := hother (by simp [hreader])
    exact ⟨hwedged.setServed fun heq => absurd heq hi, rfl⟩
  | takes c rest hreader hconn hopen hdelivering =>
    obtain ⟨rest', w, hdelivering', -, -⟩ := hwedged
    rw [hdelivering, Option.some.injEq, Prod.mk.injEq] at hdelivering'
    exact absurd hdelivering'.1 (hother (by simp [hreader]))
  | closesClient => exact ⟨hwedged.setServed fun _ => rfl, rfl⟩
  | closes r hreader hthread =>
    have hframe := stepThread_frame hthread
    refine ⟨(hwedged.of_frame hframe).setServed fun hi => ?_, hframe.1⟩
    subst hi
    rw [hwedged.stepThread (.inl rfl)] at hthread
    simp at hthread
  | writerMoves => exact ⟨hwedged.setServed hwaiting, rfl⟩
  | writerCalls event writer r action haction hthread =>
    have hframe := stepThread_frame hthread
    exact ⟨(hwedged.of_frame hframe).setServed hwaiting, hframe.1⟩

theorem Wedged.step (hwedged : s.Wedged id) {action : ForwardAction}
    (hstep : s.step action = some t) : t.Wedged id ∧ t.delivering = s.delivering := by
  cases action with
  | thread =>
    have hframe := stepThread_frame hstep
    exact ⟨hwedged.of_frame hframe, hframe.1⟩
  | receiveData =>
    obtain ⟨rest, v, hdelivering, -, -⟩ := hwedged
    simp [Forwarding.step, Forwarding.receiveData, hdelivering] at hstep
  | serve =>
    simp only [Forwarding.step, Option.ite_none_right_eq_some, Option.some.injEq] at hstep
    obtain ⟨⟨-, hfree⟩, rfl⟩ := hstep
    refine ⟨hwedged.setServed fun hi => ?_, rfl⟩
    obtain ⟨rest, v, -, hserved, -⟩ := hwedged
    rw [← hi, hfree] at hserved
    simp at hserved
  | copy =>
    simp only [Forwarding.step, Option.bind_eq_some_iff] at hstep
    obtain ⟨v, hserved, hcopy⟩ := hstep
    exact hwedged.copy hserved hcopy

end Forwarding

theorem wedged_forever {s t : Forwarding} {id : UInt64}
    {actions : List ForwardAction} (hwedged : s.Wedged id)
    (hrun : forwarding.runFrom s actions = some t) : t.Wedged id ∧ t.delivering = s.delivering := by
  have hinit : s.Wedged id ∧ s.delivering = s.delivering := ⟨hwedged, rfl⟩
  apply forwarding.runFrom_invariant _ hinit hrun
  intro r action r' hr hstep
  obtain ⟨hstill, hsame⟩ := hr.1.step hstep
  exact ⟨hstill, hsame.trans hr.2⟩

/-- The packet loop is not wedged on a connection whose client has taken all
that was written to it. -/
theorem not_wedged_of_client_writes {actions : List ForwardAction}
    {s : Forwarding} {id : UInt64} (hrun : forwarding.run actions = some s)
    (hclient : ForwardAction.copy id (.clientWrite false) ∉ actions) : ¬ s.Wedged id := by
  have hmeets : forwarding.Meets (fun _ action => action ≠ .copy id (.clientWrite false))
      forwarding.init actions := by
    rw [forwarding.meets_iff_forall_mem hrun]
    rintro action hmem rfl
    exact hclient hmem
  have hstep : ∀ r action r', Forwarding.Flows r id → action ≠ .copy id (.clientWrite false) →
      forwarding.step r action = some r' → Forwarding.Flows r' id :=
    fun _ _ _ hr haction hstep => hr.step haction hstep
  exact (forwarding.runFrom_invariant_of_meets hstep
    (Forwarding.flows_init id) hmeets hrun).not_wedged

def servedByte : List ForwardAction :=
  [.thread (.receive (ForwardCtx.newPacket 1 {})), .thread .loop,
    .thread (.call 1 .accept), .serve 1, .receiveData 1 [7],
    .copy 1 .read, .copy 1 (.clientWrite true), .receiveData 1 [8]]

theorem not_wedged_servedByte :
    ∃ s, forwarding.run servedByte = some s ∧ s.delivering = some (1, [8]) ∧ ¬ s.Wedged 1 :=
  ⟨_, rfl, rfl, @not_wedged_of_client_writes servedByte _ 1 rfl (by decide)⟩

def failedByte : List ForwardAction :=
  [.thread (.receive (ForwardCtx.newPacket 1 {})), .thread .loop,
    .thread (.call 1 .accept), .serve 1, .receiveData 1 [7],
    .copy 1 .read, .copy 1 (.clientWrite false), .receiveData 1 [8], .copy 1 .closeClient]

/-- The loop waits for a reader that waits for the loop. -/
theorem failedByte_wedged : ∃ s, forwarding.run failedByte = some s ∧ s.Wedged 1 ∧
      ∀ more t, forwarding.runFrom s more = some t → t.delivering = some (1, [8]) := by
  have hwedged : ∀ {s}, forwarding.run failedByte = some s → s.Wedged 1 := by
    intro s hrun
    rw [← Option.some.inj hrun]
    exact ⟨[8], { reader := .closingConnection }, rfl, rfl, rfl⟩
  refine ⟨_, rfl, hwedged rfl, ?_⟩
  intro more t hrun
  exact (wedged_forever (hwedged rfl) hrun).2

end ContainerSSH.Agent
