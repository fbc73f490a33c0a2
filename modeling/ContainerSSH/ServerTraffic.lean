/-
The traffic of established connections.
-/
import ContainerSSH.ListBlocks
import ContainerSSH.ServerBookkeeping

namespace ContainerSSH.SSHServer

/-! ### What a step does to the traffic -/

namespace Action

def isLifecycle : Action → Bool
  | accept _ | onNetworkConnection _ _ | handshake _ _ | advance _ | watch _
  | disconnectClients => true
  | _ => false

def OwnMetadata : Action → Prop
  | handshake id (.succeeded metadataID) => metadataID = id
  | _ => True

instance decidableOwnMetadata (action : Action) : Decidable action.OwnMetadata := by
  unfold OwnMetadata
  split <;> infer_instance

def request? : Action → Option (Request × Option GoError)
  | globalRequest _ request answer => some (request, answer)
  | channelRequest _ request answer => some (request, answer)
  | _ => none

end Action

namespace Server

variable {s t : Server} {action : Action}

structure SameTraffic (s t : Server) : Prop where
  nextChannelID : t.nextChannelID = s.nextChannelID
  channels : t.channels = s.channels
  handedOut : t.handedOut = s.handedOut
  channelIDs : t.channelIDs = s.channelIDs
  drawn : t.drawn = s.drawn
  served : t.served = s.served
  nilDereference : t.nilDereference = s.nilDereference

inductive Does (s : Server) : Action → Server → Prop
  | lifecycle (action : Action) (t : Server)
      (haction : action.isLifecycle = true) (hsame : SameTraffic s t) : Does s action t
  | globalRequest (id : String) (c : Connection) (request : Request)
      (answer : Option GoError) (hc : s.connections id = some c) (hpoint : c.point = .serving) :
      Does s (.globalRequest id request answer) (s.globalRequest c request answer)
  | channel (id : String) (c : Connection) (newChannel : NewChannel)
      (rejection : Option ChannelRejection) (acceptFails : Bool)
      (hc : s.connections id = some c) (hpoint : c.point = .serving) :
      Does s (.channel id newChannel rejection acceptFails)
        (s.channel c newChannel rejection acceptFails)
  | channelRequest (index : Nat) (c : OpenChannel) (request : Request)
      (answer : Option GoError) (hc : s.channels[index]? = some c) :
      Does s (.channelRequest index request answer) (s.channelRequest index c request answer)
  | closeChannel (index : Nat) (c : OpenChannel) (hc : s.channels[index]? = some c) :
      Does s (.closeChannel index) (s.closeChannel index c)
  | openReverse (index : Nat) (succeeds : Bool) (i : Invocation)
      (handler : ReverseForwardHandler) (hi : s.handedOut[index]? = some i)
      (hhandler : i.reverseHandler = some handler) :
      Does s (.openReverse index succeeds) (s.openReverse handler succeeds)

variable {id : String} {c : Connection}

theorem sameTraffic_advance (hstep : s.advance id c = some t) : SameTraffic s t := by
  unfold advance at hstep
  split at hstep <;> cases hstep <;> constructor <;> rfl

theorem sameTraffic_endHandshake {result : Handshake}
    (hstep : s.endHandshake id c result = some t) : SameTraffic s t := by
  unfold endHandshake at hstep
  split at hstep
  · split at hstep <;> cases hstep <;> constructor <;> rfl
  · cases hstep

theorem sameTraffic_watch (hstep : s.watch id c = some t) : SameTraffic s t := by
  unfold watch at hstep
  split at hstep <;> cases hstep <;> constructor <;> rfl

theorem does_of_step (hstep : s.step action = some t) : Does s action t := by
  obtain ⟨-, -, hact⟩ := act_of_step hstep
  cases action <;>
    simp only [act, Option.bind_eq_some_iff, Option.ite_none_left_eq_some,
      Option.ite_none_right_eq_some, Option.map_eq_some_iff, Option.some.injEq] at hact
  case accept =>
    obtain ⟨-, rfl⟩ := hact
    exact .lifecycle _ _ rfl (by constructor <;> rfl)
  case onNetworkConnection =>
    obtain ⟨c, -, -, rfl⟩ := hact
    exact .lifecycle _ _ rfl (by constructor <;> rfl)
  case handshake =>
    obtain ⟨c, -, hact⟩ := hact
    exact .lifecycle _ _ rfl (sameTraffic_endHandshake hact)
  case advance =>
    obtain ⟨c, -, hact⟩ := hact
    exact .lifecycle _ _ rfl (sameTraffic_advance hact)
  case watch =>
    obtain ⟨c, -, hact⟩ := hact
    exact .lifecycle _ _ rfl (sameTraffic_watch hact)
  case disconnectClients =>
    cases hact
    exact .lifecycle _ _ rfl (by constructor <;> rfl)
  case globalRequest id request answer =>
    obtain ⟨c, hc, hpoint, rfl⟩ := hact
    exact .globalRequest id c request answer hc hpoint
  case channel id newChannel rejection acceptFails =>
    obtain ⟨c, hc, hpoint, rfl⟩ := hact
    exact .channel id c newChannel rejection acceptFails hc hpoint
  case channelRequest index request answer =>
    obtain ⟨c, hc, -, rfl⟩ := hact
    exact .channelRequest index c request answer hc
  case closeChannel index =>
    obtain ⟨c, hc, -, rfl⟩ := hact
    exact .closeChannel index c hc
  case openReverse index succeeds =>
    obtain ⟨i, hi, handler, hhandler, rfl⟩ := hact
    exact .openReverse index succeeds i handler hi hhandler

/-! ### Metadata and the map of connections -/

def OwnMetadata (s : Server) : Prop :=
  ∀ id c, s.connections id = some c →
    c.point = .authenticated ∨ c.established = true → c.metadataID = id

theorem ownMetadata_moves {l l' : Local} {c' : Connection}
    (hown : action.OwnMetadata) (hmoves : Moves action id l l') (hl : ∀ c, l.connection = some c →
      c.point = .authenticated ∨ c.established = true → c.metadataID = id)
    (hc' : l'.connection = some c') (hpoint : c'.point = .authenticated ∨ c'.established = true) :
    c'.metadataID = id := by
  cases hmoves with
  | stays | closes => exact hl c' hc' hpoint
  | accepts =>
    cases hc'
    simp at hpoint
  | authenticates c hc hhandshake metadataID haction =>
    cases hc'
    rw [haction] at hown
    exact hown
  | _ c hc =>
    cases hc'
    exact hl c hc (by simp_all)

theorem OwnMetadata.step (hs : s.OwnMetadata) (hown : action.OwnMetadata)
    (hstep : s.step action = some t) : t.OwnMetadata := by
  intro id c hc hpoint
  exact ownMetadata_moves hown (moves_of_step hstep id) (hs id) hc hpoint

theorem connMap_step (hstep : s.step action = some t)
    (hconn : (s.connMap id).isSome = true) : (t.connMap id).isSome = true := by
  have hmoves := moves_of_step hstep id
  have hlocal : (s.local id).conn.isSome = true := hconn
  have hafter : (t.local id).conn.isSome = true := by
    generalize t.local id = l' at hmoves
    cases hmoves with
    | establishes => rfl
    | _ => exact hlocal
  exact hafter

theorem connMap_of_serving (hs : server.Reachable s) (hown : s.OwnMetadata)
    (hc : s.connections id = some c) (hpoint : c.point = .serving) :
    s.connMap c.metadataID = some ⟨id⟩ := by
  have htracked := (Local.consistent_of_reachable hs id).of_some hc
  have hestablished : c.established = true := htracked.established.mpr (.inr (.inr hpoint))
  have hconn := htracked.conn
  rw [hestablished] at hconn
  rw [hown id c hc (.inr hestablished)]
  exact hconn

end Server

def Conforms (kinds : List Kind) (onUnsupported : HandlerCall)
    (onFailedDecode : GoError → HandlerCall) (request : Request)
    (answer : Option GoError) (handled : Handled) : Prop :=
  (∃ invocation, handled.calls = [invocation] ∧
    Dispatches kinds onUnsupported onFailedDecode request invocation.call) ∧
  Answers request (Accepted kinds request answer) handled.replies

def Served.Correct (r : Served) : Prop :=
  ∃ handled, r.handled = some handled ∧
    match r.source with
    | .global =>
      if r.request.requestType = "keepalive@openssh.com" then
        handled.calls = [] ∧ Answers r.request
          (Accepted globalKinds r.request r.answer) handled.replies
      else
        Conforms globalKinds (.unsupportedGlobalRequest r.requestID r.request.requestType
            r.request.payload) (.failedDecodeGlobalRequest r.requestID r.request.requestType
            r.request.payload) r.request r.answer handled
    | .session _ channelID =>
      Conforms (sessionKinds channelID r.requestID)
        (.unsupportedChannelRequest channelID r.requestID r.request.requestType r.request.payload)
        (.failedDecodeChannelRequest channelID r.requestID r.request.requestType r.request.payload)
        r.request r.answer handled

variable {connMap : ConnMap} {connectionID : String}

theorem correct_channelRequest {conn : ServerConn}
    (hconn : connMap connectionID = some conn) (index : Nat)
    (channelID requestID : UInt64) (request : Request) (answer : Option GoError) :
    Served.Correct ⟨.session index channelID, requestID, request, answer,
      handleChannelRequest connMap connectionID channelID requestID request answer⟩ := by
  obtain ⟨handled, invocation, hhandled, hcalls, hdispatches, hanswers⟩ :=
    handleRequest_of_agrees (agrees_session hconn channelID requestID request)
      (nodup_sessionKinds channelID requestID)
      (.unsupportedChannelRequest channelID requestID request.requestType request.payload)
      "unsupported request type: "
      (.failedDecodeChannelRequest channelID requestID request.requestType request.payload) answer
  exact ⟨handled, hhandled, ⟨invocation, hcalls, hdispatches⟩, hanswers⟩

theorem correct_globalRequest {conn : ServerConn}
    (hconn : connMap connectionID = some conn) (requestID : UInt64)
    (request : Request) (answer : Option GoError) :
    Served.Correct ⟨.global, requestID, request, answer,
      serveGlobalRequest connMap connectionID requestID request answer⟩ := by
  by_cases hkeepAlive : request.requestType = keepAlive
  · refine ⟨handleKeepAliveRequest request, if_pos hkeepAlive, ?_⟩
    simp only [hkeepAlive]
    refine ⟨rfl, answers_createReply request (iff_of_false Bool.false_ne_true ?_) ""⟩
    rintro ⟨⟨k, hk, hname, -⟩, -⟩
    rw [hkeepAlive] at hname
    simp only [globalKinds, List.mem_cons, List.not_mem_nil, or_false] at hk
    rcases hk with rfl | rfl | rfl | rfl <;> exact absurd hname (by decide)
  · obtain ⟨handled, invocation, hhandled, hcalls, hdispatches, hanswers⟩ :=
      handleRequest_of_agrees (agrees_global hconn request) nodup_globalKinds
        (.unsupportedGlobalRequest requestID request.requestType request.payload)
        "unsupported global request type: "
        (.failedDecodeGlobalRequest requestID request.requestType request.payload) answer
    refine ⟨handled, (if_neg hkeepAlive).trans hhandled, ?_⟩
    simp only [show request.requestType ≠ "keepalive@openssh.com" from
      hkeepAlive, if_false]
    exact ⟨⟨invocation, hcalls, hdispatches⟩, hanswers⟩

namespace Server

variable {s t : Server} {action : Action}

@[simp]
theorem channels_openReverse (s : Server) (handler : ReverseForwardHandler)
    (succeeds : Bool) : (s.openReverse handler succeeds).channels = s.channels := by
  unfold openReverse
  split
  · split
    · split <;> rfl
    · rfl
  · rfl

@[simp]
theorem served_openReverse (s : Server) (handler : ReverseForwardHandler)
    (succeeds : Bool) : (s.openReverse handler succeeds).served = s.served := by
  unfold openReverse
  split
  · split
    · split <;> rfl
    · rfl
  · rfl

variable {c : OpenChannel}

theorem mem_opened_handleChannel {connectionID : String} {channelID : UInt64}
    {newChannel : NewChannel} {rejection : Option ChannelRejection} {acceptFails : Bool}
    (hc : c ∈ opened acceptFails (handleChannel connectionID channelID newChannel
      rejection acceptFails)) : c = ⟨connectionID, channelID, c.isSession, 0, false⟩ := by
  have hsession {call : HandlerCall} (h : c ∈ opened acceptFails (offer call
      (.session connectionID channelID) rejection acceptFails)) :
      c = ⟨connectionID, channelID, c.isSession, 0, false⟩ := by
    cases rejection <;> cases acceptFails <;> simp_all [offer, opened]
  have hforward {payload : SshWire.Struct} {call : SshWire.Record payload.fields → HandlerCall}
      (h : c ∈ opened acceptFails (decodeAndOffer payload call
        (.directTCPIP connectionID channelID) newChannel rejection acceptFails)) :
      c = ⟨connectionID, channelID, c.isSession, 0, false⟩ := by
    unfold decodeAndOffer at h
    split at h
    · simp [opened] at h
    · cases rejection <;> cases acceptFails <;> simp_all [offer, opened]
  unfold handleChannel at hc
  split at hc
  · exact hsession hc
  split at hc
  · exact hforward hc
  split at hc
  · exact hforward hc
  · simp [opened] at hc

structure Dispatching (s : Server) : Prop where
  metadata : s.OwnMetadata
  channels : ∀ c ∈ s.channels, (s.connMap c.connectionID).isSome = true
  served : ∀ r ∈ s.served, r.Correct

theorem Dispatching.step (hd : s.Dispatching) (hs : server.Reachable s)
    (hown : action.OwnMetadata) (hstep : s.step action = some t) :
    t.Dispatching := by
  have hmetadata := hd.metadata.step hown hstep
  have hold : ∀ c ∈ s.channels, (t.connMap c.connectionID).isSome = true :=
    fun c hc => connMap_step hstep (hd.channels c hc)
  cases does_of_step hstep with
  | lifecycle _ _ haction hsame =>
    exact ⟨hmetadata, hsame.channels ▸ hold, hsame.served ▸ hd.served⟩
  | globalRequest id c request answer hc hpoint =>
    refine ⟨hmetadata, hold, ?_⟩
    have hconn := connMap_of_serving hs hd.metadata hc hpoint
    simp only [globalRequest, serve, List.mem_append, List.mem_singleton]
    rintro r (hr | rfl)
    · exact hd.served r hr
    · exact correct_globalRequest hconn _ _ _
  | channel id c newChannel rejection acceptFails hc hpoint =>
    refine ⟨hmetadata, ?_, hd.served⟩
    have hconn := connMap_of_serving hs hd.metadata hc hpoint
    simp only [channel, List.mem_append]
    rintro o (ho | ho)
    · exact hold o ho
    · rw [mem_opened_handleChannel ho, hconn]
      rfl
  | channelRequest index c request answer hc =>
    have hmem : c ∈ s.channels := List.mem_of_getElem? hc
    obtain ⟨conn, hconn⟩ := Option.isSome_iff_exists.mp (hd.channels c hmem)
    refine ⟨hmetadata, fun o ho => ?_, ?_⟩
    · rcases List.mem_or_eq_of_mem_set ho with ho | rfl
      · exact hold o ho
      · exact hold c hmem
    · simp only [channelRequest, serve, List.mem_append, List.mem_singleton]
      rintro r (hr | rfl)
      · exact hd.served r hr
      · exact correct_channelRequest hconn _ _ _ _ _
  | closeChannel index c hc =>
    refine ⟨hmetadata, fun o ho => ?_, hd.served⟩
    rcases List.mem_or_eq_of_mem_set ho with ho | rfl
    · exact hold o ho
    · exact hold c (List.mem_of_getElem? hc)
  | openReverse =>
    refine ⟨hmetadata, ?_, ?_⟩
    · simpa using hold
    · simpa using hd.served

/-! ### Request ids -/

def idFor (index : Nat) (r : Served) : Option UInt64 :=
  match r.source with
  | .global => none
  | .session i _ => if i = index then some r.requestID else none

def requestIDs (s : Server) (index : Nat) : List UInt64 := s.served.filterMap (idFor index)

structure Numbered (s : Server) : Prop where
  ids : ∀ index, s.requestIDs index = (List.range (s.requestIDs index).length).map UInt64.ofNat
  next : ∀ index c, s.channels[index]? = some c →
    c.nextRequestID = UInt64.ofNat (s.requestIDs index).length
  unused : ∀ index, s.channels.length ≤ index → s.requestIDs index = []

theorem requestIDs_serve (s : Server) (r : Served) (index : Nat) : (s.serve r).requestIDs index =
      s.requestIDs index ++ (idFor index r).toList := by
  simp only [serve, requestIDs, List.filterMap_append, List.filterMap_cons]
  cases idFor index r <;> rfl

theorem Numbered.frame (hn : s.Numbered) (hserved : t.served = s.served)
    (hchannels : t.channels = s.channels) : t.Numbered := by
  have hids : t.requestIDs = s.requestIDs := by
    funext index
    rw [requestIDs, hserved, requestIDs]
  exact ⟨by rw [hids]; exact hn.ids, by rw [hids, hchannels]; exact hn.next,
    by rw [hids, hchannels]; exact hn.unused⟩

theorem Numbered.globalRequest (hn : s.Numbered) (c : Connection)
    (request : Request) (answer : Option GoError) :
    (s.globalRequest c request answer).Numbered := by
  have hids : (s.globalRequest c request answer).requestIDs = s.requestIDs := by
    funext index
    rw [Server.globalRequest, requestIDs_serve]
    exact List.append_nil _
  exact ⟨by rw [hids]; exact hn.ids, by rw [hids]; exact hn.next, by rw [hids]; exact hn.unused⟩

theorem Numbered.channel (hn : s.Numbered) (c : Connection)
    (newChannel : NewChannel) (rejection : Option ChannelRejection) (acceptFails : Bool) :
    (s.channel c newChannel rejection acceptFails).Numbered where
  ids := hn.ids
  next := by
    intro index o ho
    simp only [Server.channel, List.getElem?_append] at ho
    split at ho
    · exact hn.next index o ho
    · next hnew =>
        have hnone : s.requestIDs index = [] := hn.unused index (Nat.le_of_not_lt hnew)
        rw [mem_opened_handleChannel (List.mem_of_getElem? ho)]
        exact (congrArg (fun ids => UInt64.ofNat ids.length) hnone).symm
  unused := by
    intro index hindex
    simp only [Server.channel, List.length_append] at hindex
    exact hn.unused index (by omega)

theorem Numbered.channelRequest (hn : s.Numbered) {index : Nat}
    (hc : s.channels[index]? = some c) (request : Request) (answer : Option GoError) :
    (s.channelRequest index c request answer).Numbered := by
  have hnext := hn.next index c hc
  have hids (i : Nat) : (s.channelRequest index c request answer).requestIDs i =
        s.requestIDs i ++ if index = i then [c.nextRequestID] else [] := by
    rw [Server.channelRequest, requestIDs_serve]
    simp only [idFor]
    split <;> rfl
  refine ⟨fun i => ?_, fun i o ho => ?_, fun i hi => ?_⟩
  · by_cases hi : index = i
    · subst hi
      simp [hids, hnext, List.range_succ, ← hn.ids]
    · simp [hids, hi, ← hn.ids]
  · refine ListBlocks.forall_getElem?_set (P := fun i o => o.nextRequestID = UInt64.ofNat
        ((s.channelRequest index c request answer).requestIDs i).length) (fun i o hi ho => ?_) ?_ ho
    · rw [hids, if_neg hi, List.append_nil]
      exact hn.next i o ho
    · simp [hids, hnext]
  · have hlength : s.channels.length ≤ i := by simpa [Server.channelRequest, serve] using hi
    have hlt : index < s.channels.length := (List.getElem?_eq_some_iff.mp hc).1
    have hne : index ≠ i := by omega
    rw [hids, if_neg hne, List.append_nil]
    exact hn.unused i hlength

theorem Numbered.closeChannel (hn : s.Numbered) {index : Nat} (hc : s.channels[index]? = some c) :
    (s.closeChannel index c).Numbered where
  ids := hn.ids
  next := by
    intro i o ho
    refine ListBlocks.forall_getElem?_set (fun i o _ ho => hn.next i o ho) ?_ ho
    exact hn.next index c hc
  unused := by
    intro i hi
    simp only [Server.closeChannel, List.length_set] at hi
    exact hn.unused i hi

theorem Numbered.step (hn : s.Numbered) (hstep : s.step action = some t) :
    t.Numbered := by
  cases does_of_step hstep with
  | lifecycle _ _ haction hsame => exact hn.frame hsame.served hsame.channels
  | globalRequest id c request answer => exact hn.globalRequest c request answer
  | channel id c newChannel rejection acceptFails =>
    exact hn.channel c newChannel rejection acceptFails
  | channelRequest index c request answer hc => exact hn.channelRequest hc request answer
  | closeChannel index c hc => exact hn.closeChannel hc
  | openReverse => exact hn.frame (by simp) (by simp)

/-! ### The requests of a run -/

theorem served_step (hstep : s.step action = some t) :
    t.served.map (fun r => (r.request, r.answer)) = s.served.map (fun r => (r.request, r.answer)) ++
        action.request?.toList := by
  cases does_of_step hstep with
  | lifecycle _ _ haction hsame =>
    rw [hsame.served]
    cases action <;> simp_all [Action.isLifecycle, Action.request?]
  | openReverse => simp [Action.request?]
  | _ =>
    simp [globalRequest, channelRequest, channel, closeChannel, unregister, serve, Action.request?]

theorem served_runFrom {actions : List Action} (hrun : server.runFrom s actions = some t) :
    t.served.map (fun r => (r.request, r.answer)) = s.served.map (fun r => (r.request, r.answer)) ++
        actions.filterMap Action.request? := by
  have hstep : ∀ s a t, True → server.step s a = some t →
      t.served.map (fun r => (r.request, r.answer)) =
        s.served.map (fun r => (r.request, r.answer)) ++ a.request?.toList :=
    fun _ _ _ _ hstep => served_step hstep
  rw [List.filterMap_eq_flatMap_toList]
  exact server.runFrom_flatMap (fun _ _ _ _ _ => trivial) hstep trivial hrun

end Server

/-- Every request of a run is served once and as the table says, and the
requests of each session are numbered from zero. -/
theorem requests_dispatched {actions : List Action} {s : Server}
    (hrun : server.run actions = some s) (hown : ∀ action ∈ actions, action.OwnMetadata) :
    s.served.map (fun r => (r.request, r.answer)) = actions.filterMap Action.request? ∧
      (∀ r ∈ s.served, r.Correct) ∧ ∀ index, s.requestIDs index =
        (List.range (s.requestIDs index).length).map UInt64.ofNat := by
  have hinit : server.init.Dispatching ∧ server.init.Numbered :=
    ⟨⟨by simp [Server.OwnMetadata, server], by simp [server], by simp [server]⟩,
      ⟨fun _ => rfl, by simp [server], fun _ _ => rfl⟩⟩
  have hstep : ∀ s a t, server.Reachable s → s.Dispatching ∧ s.Numbered →
      a.OwnMetadata → server.step s a = some t → t.Dispatching ∧ t.Numbered :=
    fun s a t hs hinv ha hstep =>
      ⟨hinv.1.step hs ha hstep, hinv.2.step hstep⟩
  have hmeets := (server.meets_iff_forall_mem hrun).mpr hown
  have hend := server.reachable_init.runFrom_invariant_of_meets hstep hinit hmeets hrun
  exact ⟨Server.served_runFrom hrun, hend.1.served, hend.2.ids⟩

def connects (id metadataID : String) : List Action :=
  [.accept id, .onNetworkConnection id true, .advance id,
    .handshake id (.succeeded metadataID), .advance id, .advance id, .advance id]

theorem requests_dispatched_in_session : ∃ s, server.run (connects "a" "a" ++
        [.channel "a" ⟨"session", []⟩ none false,
          .channelRequest 0 ⟨"env", true, [0, 0, 0, 1, 65, 0, 0, 0, 0]⟩ none,
          .globalRequest "a" ⟨"keepalive@openssh.com", true, []⟩ none,
          .channelRequest 0 ⟨"foo", false, []⟩ none]) = some s ∧
      s.served.length = 3 ∧ (∀ r ∈ s.served, r.Correct) ∧ s.requestIDs 0 = [0, 1] := by
  refine server.exists_run (by decide +kernel) fun s hrun => ?_
  obtain ⟨hserved, hcorrect, hids⟩ := requests_dispatched hrun (by decide)
  refine ⟨?_, hcorrect, ?_⟩
  · have hcount := congrArg List.length hserved
    rw [List.length_map] at hcount
    exact hcount
  · rw [hids 0, ← Option.some.inj hrun]
    decide +kernel

/-! ### Channels towards the client -/

def HandlerCall.isX11 : HandlerCall → Bool
  | .session _ (.x11 _ _ _ _ _) => true
  | _ => false

def Invocation.Complete (i : Invocation) : Prop :=
  ∀ handler, i.reverseHandler = some handler →
    handler.sshConn.isSome = true ∧ handler.server = !i.call.isX11

def Decision.Complete (d : Decision) : Prop := ∀ i, d = .calls i → i.Complete

theorem complete_withConnection {decision : ServerConn → Decision}
    (hdecision : ∀ conn, (decision conn).Complete) :
    (withConnection connMap connectionID decision).Complete := by
  unfold withConnection
  split
  · rintro i ⟨⟩
  · exact hdecision _

theorem complete_of_none (call : HandlerCall) : (Decision.calls ⟨call, none⟩).Complete := by
  rintro _ ⟨⟩ handler ⟨⟩

variable {requestID : UInt64}

theorem complete_handleDecodedChannelRequest {channelID : UInt64} {type : String}
    {payload : Dynamic} {d : Decision}
    (hd : handleDecodedChannelRequest connMap connectionID channelID requestID
      type payload = some d) : d.Complete := by
  unfold handleDecodedChannelRequest onEnvRequest onPtyRequest onShell onExec
    onSubsystem onChannel onSignal onX11 at hd
  repeat' split at hd
  all_goals simp only [Option.map_eq_some_iff, Option.some.injEq] at hd
  case isFalse.isFalse.isTrue =>
    subst hd
    exact complete_of_none _
  case isFalse.isFalse.isFalse.isFalse.isFalse.isFalse.isFalse.isTrue =>
    obtain ⟨p, -, rfl⟩ := hd
    apply complete_withConnection
    rintro conn _ ⟨⟩ handler ⟨⟩
    exact ⟨rfl, rfl⟩
  case isFalse.isFalse.isFalse.isFalse.isFalse.isFalse.isFalse.isFalse =>
    subst hd
    rintro i ⟨⟩
  all_goals
    obtain ⟨p, -, rfl⟩ := hd
    exact complete_of_none _

theorem complete_handleDecodedGlobalRequest {type : String} {payload : Dynamic}
    {d : Decision}
    (hd : handleDecodedGlobalRequest connMap connectionID type payload = some d) :
    d.Complete := by
  unfold handleDecodedGlobalRequest onForwardTCPIP onCancelForward
    onForwardStreamLocal onCancelForwardStreamLocal at hd
  repeat' split at hd
  all_goals simp only [Option.map_eq_some_iff, Option.some.injEq] at hd
  case isTrue | isFalse.isFalse.isTrue =>
    obtain ⟨p, -, rfl⟩ := hd
    apply complete_withConnection
    rintro conn _ ⟨⟩ handler ⟨⟩
    exact ⟨rfl, rfl⟩
  case isFalse.isFalse.isFalse.isFalse =>
    subst hd
    rintro i ⟨⟩
  all_goals
    obtain ⟨p, -, rfl⟩ := hd
    exact complete_of_none _

variable {request : Request} {answer : Option GoError} {handled : Handled}

theorem complete_handleRequest {unmarshalled : Option (Except String Dynamic)}
    {onUnsupported : HandlerCall} {unsupportedText : String}
    {onFailedDecode : GoError → HandlerCall} {handleDecoded : Dynamic → Option Decision}
    (hdecoded : ∀ payload d, handleDecoded payload = some d → d.Complete)
    (hhandled : handleRequest unmarshalled onUnsupported unsupportedText
      onFailedDecode handleDecoded request answer = some handled) :
    ∀ i ∈ handled.calls, i.Complete := by
  unfold handleRequest at hhandled
  split at hhandled
  · cases hhandled
    simp [Invocation.Complete]
  · cases hhandled
    simp [Invocation.Complete]
  · obtain ⟨d, hd, rfl⟩ := Option.map_eq_some_iff.mp hhandled
    have hcomplete := hdecoded _ d hd
    cases d with
    | calls invocation => cases answer <;> simpa [replyTo] using hcomplete invocation rfl
    | fails | nothing => simp [replyTo]

theorem complete_serveGlobalRequest
    (hhandled : serveGlobalRequest connMap connectionID requestID request
      answer = some handled) : ∀ i ∈ handled.calls, i.Complete := by
  unfold serveGlobalRequest at hhandled
  split at hhandled
  · cases hhandled
    simp [handleKeepAliveRequest]
  · exact complete_handleRequest (fun _ _ hd => complete_handleDecodedGlobalRequest hd) hhandled

theorem complete_handleChannelRequest {channelID : UInt64}
    (hhandled : handleChannelRequest connMap connectionID channelID requestID
      request answer = some handled) : ∀ i ∈ handled.calls, i.Complete :=
  complete_handleRequest (fun _ _ hd => complete_handleDecodedChannelRequest hd) hhandled

namespace Server

variable {s t : Server} {action : Action}

structure Reversible (s : Server) : Prop where
  next : s.nextChannelID = UInt64.ofNat s.drawn
  ids : s.channelIDs.Sublist ((List.range s.drawn).map UInt64.ofNat)
  handedOut : ∀ i ∈ s.handedOut, i.Complete

theorem handedOut_serve {r : Served} (hs : ∀ i ∈ s.handedOut, i.Complete)
    (hr : ∀ handled, r.handled = some handled → ∀ i ∈ handled.calls, i.Complete) :
    ∀ i ∈ (s.serve r).handedOut, i.Complete := by
  simp only [serve, List.mem_append, List.mem_filter]
  rintro i (hi | ⟨hi, -⟩)
  · exact hs i hi
  · cases hhandled : r.handled with
    | none => simp [hhandled] at hi
    | some handled =>
      simp only [hhandled] at hi
      exact hr handled hhandled i hi

theorem Reversible.draw (hs : s.Reversible) : s.nextChannelID + 1 = UInt64.ofNat (s.drawn + 1) ∧
      (s.channelIDs ++ [s.nextChannelID]).Sublist ((List.range (s.drawn + 1)).map UInt64.ofNat) ∧
      s.channelIDs.Sublist ((List.range (s.drawn + 1)).map UInt64.ofNat) := by
  rw [List.range_succ, List.map_append, hs.next]
  refine ⟨by simp [UInt64.ofNat_add], hs.ids.append (List.Sublist.refl _), ?_⟩
  exact hs.ids.trans (List.sublist_append_left _ _)

theorem Reversible.step (hs : s.Reversible) (hstep : s.step action = some t) :
    t.Reversible := by
  cases does_of_step hstep with
  | lifecycle _ _ haction hsame =>
    exact ⟨by rw [hsame.nextChannelID, hsame.drawn, hs.next],
      by rw [hsame.channelIDs, hsame.drawn]; exact hs.ids,
      by rw [hsame.handedOut]; exact hs.handedOut⟩
  | globalRequest =>
    exact ⟨hs.next, hs.ids, handedOut_serve hs.handedOut
      fun _ hhandled => complete_serveGlobalRequest hhandled⟩
  | channel =>
    obtain ⟨hnext, hids, -⟩ := hs.draw
    exact ⟨hnext, hids, hs.handedOut⟩
  | channelRequest =>
    exact ⟨hs.next, hs.ids, handedOut_serve hs.handedOut
      fun _ hhandled => complete_handleChannelRequest hhandled⟩
  | closeChannel => exact ⟨hs.next, hs.ids, hs.handedOut⟩
  | openReverse =>
    obtain ⟨hnext, hids, hlost⟩ := hs.draw
    unfold openReverse
    split
    · split
      · split
        · exact ⟨hnext, hids, hs.handedOut⟩
        · exact ⟨hnext, hlost, hs.handedOut⟩
      · exact ⟨hnext, hlost, hs.handedOut⟩
    · exact ⟨hs.next, hs.ids, hs.handedOut⟩

def throughX11 (s : Server) : Action → Bool
  | .openReverse index _ => s.handedOut[index]?.any fun i => i.call.isX11
  | _ => false

theorem nilDereference_step (hs : s.Reversible) (hstep : s.step action = some t) :
    t.nilDereference = false ↔ s.nilDereference = false ∧ s.throughX11 action = false := by
  cases does_of_step hstep with
  | lifecycle _ _ haction hsame =>
    rw [hsame.nilDereference]
    cases action <;> simp_all [throughX11, Action.isLifecycle]
  | openReverse index succeeds i handler hi hhandler =>
    obtain ⟨hconn, hserver⟩ := hs.handedOut i (List.mem_of_getElem? hi) handler hhandler
    cases hx11 : i.call.isX11 <;> cases succeeds <;>
      simp_all [openReverse, throughX11]
  | _ =>
    simp_all [throughX11, globalRequest, channelRequest, channel, closeChannel, unregister, serve]

end Server

theorem nodup_map_ofNat_range {n : Nat} (hn : n ≤ UInt64.size) :
    ((List.range n).map UInt64.ofNat).Nodup := by
  refine List.nodup_range.map_on fun a ha b hb heq => ?_
  have hlt {i : Nat} (hi : i ∈ List.range n) : i < UInt64.size :=
    Nat.lt_of_lt_of_le (List.mem_range.mp hi) hn
  rw [← UInt64.toNat_ofNat_of_lt' (hlt ha), heq, UInt64.toNat_ofNat_of_lt' (hlt hb)]

/-- No channel id is used twice, as long as the counter has not wrapped around,
and a nil pointer is followed exactly if a handler opens a channel through the
object that a request for X11 gave it. -/
theorem reverse_channels_safe_iff {actions : List Action} {s : Server}
    (hrun : server.run actions = some s) (hdrawn : s.drawn ≤ UInt64.size) : s.channelIDs.Nodup ∧
      (s.nilDereference = false ↔
        server.Meets (fun s a => s.throughX11 a = false) server.init actions) := by
  have hinit : server.init.Reversible := ⟨rfl, by simp [server], by simp [server]⟩
  have hstep : ∀ s a t, s.Reversible → server.step s a = some t → t.Reversible :=
    fun s a t hs hstep => hs.step hstep
  have hnil : ∀ s a t, s.Reversible → server.step s a = some t → (t.nilDereference = false ↔
        s.nilDereference = false ∧ s.throughX11 a = false) :=
    fun s a t hs hstep => Server.nilDereference_step hs hstep
  have hend := server.runFrom_invariant hstep hinit hrun
  refine ⟨hend.ids.nodup (nodup_map_ofNat_range hdrawn), ?_⟩
  rw [server.runFrom_iff_meets hstep hnil hinit hrun]
  exact and_iff_right rfl

theorem forwarded_channel_safe : ∃ s, server.run (connects "a" "a" ++
        [.channel "a" ⟨"session", []⟩ none false,
          .globalRequest "a" ⟨"tcpip-forward", true, [0, 0, 0, 0, 0, 0, 0, 22]⟩ none,
          .openReverse 0 true]) = some s ∧ s.channelIDs = [0, 1] ∧ s.channelIDs.Nodup ∧
      s.nilDereference = false := by
  refine server.exists_run rfl fun s hrun => ?_
  have hdrawn : s.drawn = 2 := by rw [← Option.some.inj hrun]; rfl
  obtain ⟨hnodup, hsafe⟩ := reverse_channels_safe_iff hrun (by rw [hdrawn]; decide)
  exact ⟨by rw [← Option.some.inj hrun]; rfl, hnodup, hsafe.mpr (by decide)⟩

/-- The first channel for X11 ends the server. -/
theorem x11_channel_nil_dereference : ∃ s, server.run (connects "a" "a" ++
        [.channel "a" ⟨"session", []⟩ none false, .channelRequest 0
            ⟨"x11-req", true, [0, 0, 0, 0, 0, 0, 0, 0, 0, 0, 0, 0, 0]⟩ none,
          .openReverse 0 true]) = some s ∧ s.channelIDs = [0] ∧ s.nilDereference = true :=
  ⟨_, rfl, rfl, rfl⟩

end ContainerSSH.SSHServer
