import KoreWebsocket.Rtc.Aborts
import KoreWebsocket.Rtc.LinkedRooms

/-!
# What a step of a room does, in full

`Outcome` says what a step leaves of capabilities, parameters and senders, which is all that a mesh is
about. Pointers, listeners and streams need more. Here a change inside a peer is one of a few kinds
(`Peer.Edit`), with the guards of its handler, and so is a change of the room (`Room.Edit`), which gives
new parameters only to the receiver that the event gives them to (`receives?`). A step is a chain of them
(`edits_step`), and an invariant of edits holds after every run (`exec_inv_of_edit`).
-/

namespace KoreWebsocket.Rtc

open JsonCpp

/-- The kinds of changes inside a peer that leave its receivers, with their parameters, and its
senders. -/
inductive Peer.Edit (peer : Peer) : Peer → Prop
  | createTransport {transportId : UInt32} (hnew : peer.transports.find? transportId = none) :
      Edit peer { peer with transports := peer.transports.insert transportId {} }
  | setTransport {transportId : UInt32} {t t' : Transport}
      (ht : peer.transports.find? transportId = some t) (hsame : t'.rtpListener = t.rtpListener) :
      Edit peer { peer with transports := peer.transports.insert transportId t' }
  | closeTransport (transportId : UInt32) : Edit peer (peer.onTransportClosed transportId)
  /-- The receiver has parameters already, or it is not added. -/
  | addRtpReceiver {transportId id : UInt32} {r : RtpReceiver} (p : RtpParameters)
      (hr : peer.rtpReceivers.find? id = some r)
      (h : r.rtpParameters.isSome = true ∨
        ∃ fault, (peer.addRtpReceiver transportId id (some p)).2 = .error fault) :
      Edit peer (peer.addRtpReceiver transportId id (some p)).1
  | attachRtpReceiver {transportId id : UInt32} {r : RtpReceiver} (hasRemb : Bool)
      (hr : peer.rtpReceivers.find? id = some r)
      (ht : (peer.transports.find? transportId).isSome = true) :
      Edit peer { peer with
        transports :=
          if hasRemb then peer.transports.modify transportId Transport.enableRemb else peer.transports
        rtpReceivers := peer.rtpReceivers.insert id { r with transport := some transportId } }
  | setRtpEvent {id : UInt32} {r r' : RtpReceiver} (hr : peer.rtpReceivers.find? id = some r)
      (htransport : r'.transport = r.transport) (hp : r'.rtpParameters = r.rtpParameters)
      (hstreams : r'.rtpStreams = r.rtpStreams) (hdeleted : r'.deletedRtx = r.deletedRtx) :
      Edit peer { peer with rtpReceivers := peer.rtpReceivers.insert id r' }
  | createRtpStreams {id : UInt32} {peer' : Peer} (h : peer.createRtpStreams id = .ok peer') :
      Edit peer peer'
  | attachRtpSender {transportId id : UInt32} {s : RtpSender}
      (hs : peer.rtpSenders.find? id = some s)
      (ht : (peer.transports.find? transportId).isSome = true) :
      Edit peer { peer with
        rtpSenders := peer.rtpSenders.insert id { s with transport := some transportId } }
  | disableRtpSender {id : UInt32} {s : RtpSender} (disabled : Bool)
      (hs : peer.rtpSenders.find? id = some s) :
      Edit peer { peer with rtpSenders := peer.rtpSenders.insert id { s with disabled } }
  | rtpPacket (transportId ssrc : UInt32) (payloadType : UInt8) :
      Edit peer (peer.onRtpPacket transportId ssrc payloadType)

/-- Changes inside a peer, one after the other. -/
abbrev Peer.Edits : Peer → Peer → Prop := Relation.ReflTransGen Peer.Edit

/-- The receiver that an event gives new parameters, if they are accepted. -/
def Room.receives? (room : Room) : RoomEvent → Option RtpReceiver
  | .request _ request => do
      guard (request.method = .rtpReceiverReceive)
      let (peer, r) ← room.namedRtpReceiver request
      let rtpReceiverId ← request.id? "rtpReceiverId"
      let p ← (RtpParameters.ofJson request.data).toOption
      let _ ← (peer.onRtpReceiverParameters rtpReceiverId r p).2.toOption
      return r
  | _ => none

/-- An event gives this receiver new parameters. -/
def Room.Receives (room : Room) (e : RoomEvent) (r : RtpReceiver) : Prop := room.receives? e = some r

/-- The kinds of changes of a room, where these receivers may get new parameters. -/
inductive Room.Edit (receives : RtpReceiver → Prop) (room : Room) : Room → Prop
  | peer (peerId : UInt32) (f : Peer → Peer)
      (h : ∀ peer, room.peers.find? peerId = some peer → peer.Edits (f peer)) :
      Edit receives room (room.modifyPeer peerId f)
  | audioLevels (enabled : Bool) : Edit receives room { room with audioLevelsEventEnabled := enabled }
  | createPeer (peerId : UInt32) (peerName : String) (hnew : room.peers.find? peerId = none) :
      Edit receives room { room with peers := room.peers.insert peerId { peerName } }
  | closePeer (peerId : UInt32) : Edit receives room (room.closePeer peerId)
  | setCapabilities (env : Environment) {peerId : UInt32} {peer : Peer} {data : Value}
      {capabilities : RtpCapabilities} {room' : Room} (hpeer : room.peers.find? peerId = some peer)
      (hnone : peer.capabilities = none)
      (hdata : RtpCapabilities.ofJson data .peerCapability = .ok capabilities)
      (h : room.onPeerCapabilities env peerId capabilities = .ok room') : Edit receives room room'
  | createRtpReceiver {peerId rtpReceiverId transportId : UInt32} {peer : Peer} (kind : MediaKind)
      (hpeer : room.peers.find? peerId = some peer) (hcapabilities : peer.capabilities.isSome = true)
      (hnew : peer.rtpReceivers.find? rtpReceiverId = none)
      (ht : (peer.transports.find? transportId).isSome = true) :
      Edit receives room (room.modifyPeer peerId fun peer =>
        { peer with
          rtpReceivers :=
            peer.rtpReceivers.insert rtpReceiverId { kind, transport := some transportId } })
  | closeRtpReceiver (ref : Ref) : Edit receives room (room.closeRtpReceiver ref)
  /-- The receiver is added to the listener with the parameters that it gets. -/
  | receive (env : Environment) {ref : Ref} {peer : Peer} {r : RtpReceiver} {data : Value}
      {given p : RtpParameters} {room' : Room} (hpeer : room.peers.find? ref.1 = some peer)
      (hr : peer.rtpReceivers.find? ref.2 = some r) (hreceives : receives r)
      (hdata : RtpParameters.ofJson data = .ok given)
      (hp : (peer.onRtpReceiverParameters ref.2 r given).2 = .ok p)
      (h : ((room.modifyPeer ref.1 fun _ =>
          (peer.onRtpReceiverParameters ref.2 r given).1).setParameters ref r p).onPeerRtpReceiverParameters
        env ref { r.clearRtpStreams with rtpParameters := some p } = .ok room') : Edit receives room room'

/-- Changes of a room, one after the other. -/
abbrev Room.Edits (receives : RtpReceiver → Prop) : Room → Room → Prop :=
  Relation.ReflTransGen (Room.Edit receives)

namespace Peer

variable {peer peer' : Peer}

/-- A change inside a peer is no change of its members. -/
theorem Edit.sameMembers (h : peer.Edit peer') : peer.SameMembers peer' := by
  cases h with
  | createTransport | setTransport | rtpPacket => exact sameMembers_transports _
  | closeTransport transportId => exact sameMembers_onTransportClosed transportId
  | addRtpReceiver p => exact sameMembers_addRtpReceiver _ _ _
  | attachRtpReceiver _ hr =>
      refine sameMembers_rtpReceiver hr ?_ _
      rfl
  | setRtpEvent hr _ hp => exact sameMembers_rtpReceiver hr hp _
  | createRtpStreams h => exact sameMembers_createRtpStreams h
  | attachRtpSender hs | disableRtpSender _ hs => exact sameMembers_rtpSender hs

theorem SameMembers.trans {peer'' : Peer} (h : peer.SameMembers peer') (h' : peer'.SameMembers peer'') :
    peer.SameMembers peer'' where
  capabilities := h'.capabilities.trans h.capabilities
  rtpParameters := fun id => (h'.rtpParameters id).trans (h.rtpParameters id)
  rtpSenders := fun id => (h'.rtpSenders id).trans (h.rtpSenders id)

/-- The edits of a peer keep its members. -/
theorem Edits.sameMembers (h : peer.Edits peer') : peer.SameMembers peer' := by
  induction h with
  | refl => exact .refl peer
  | tail _ hedit ih => exact ih.trans hedit.sameMembers

/-- What every change inside a peer keeps is kept by a chain of them. -/
theorem Edits.inv {I : Peer → Prop} (hstep : ∀ peer peer', I peer → peer.Edit peer' → I peer')
    (h : peer.Edits peer') (h0 : I peer) : I peer' := by
  induction h with
  | refl => exact h0
  | tail _ hedit ih => exact hstep _ _ ih hedit

end Peer

namespace Room

variable {room room' : Room} {env : Environment} {request : Request} {receives : RtpReceiver → Prop}

/-! ## Edits are changes -/

/-- A change that is told in full is a chain of the changes that `Outcome` tells. -/
theorem Edit.chain (h : room.Edit receives room') : room.Chain room' := by
  cases h with
  | peer peerId f h => exact .single (.members peerId f fun peer hpeer => (h peer hpeer).sameMembers)
  | audioLevels enabled => exact .single (.audioLevels enabled)
  | createPeer peerId peerName hnew => exact .single (.createPeer peerId peerName hnew)
  | closePeer peerId => exact .single (.closePeer peerId)
  | setCapabilities env hpeer hnone hdata h => exact .single (.setCapabilities env hpeer hnone hdata h)
  | createRtpReceiver kind hpeer hcapabilities hnew _ =>
      exact .single (.createRtpReceiver kind hpeer hcapabilities hnew)
  | closeRtpReceiver ref => exact .single (.closeRtpReceiver ref)
  | @receive env ref peer r data given p _ hpeer hr _ hdata hp h =>
      obtain ⟨reduced, hreduced, heq⟩ := Peer.onRtpReceiverParameters_ok hp
      have hsame := peer.sameMembers_onRtpReceiverParameters ref.2 r given
      refine (chain_modifyPeer hpeer hsame).tail (.receive env (find?_modifyPeer hpeer) ?_ ?_ h)
      · rw [Peer.onRtpReceiverParameters_rtpReceivers]
        exact hr
      · refine ⟨data, given, reduced, hdata, ?_⟩
        rw [hsame.capabilities]
        exact ⟨hreduced, heq⟩

/-! ## The handlers make edits -/

/-- A peer that is found is changed inside. -/
theorem edits_modifyPeer {peerId : UInt32} {peer : Peer} {f : Peer → Peer}
    (hpeer : room.peers.find? peerId = some peer) (h : peer.Edits (f peer)) :
    room.Edits receives (room.modifyPeer peerId f) := by
  refine .single (.peer peerId f fun peer' hpeer' => ?_)
  obtain rfl := Option.some.inj (hpeer.symm.trans hpeer')
  exact h

/-- A transport that closes is one edit of its peer. -/
theorem edits_closeTransport (peerId transportId : UInt32) :
    room.Edits receives (room.closeTransport peerId transportId) :=
  .single (.peer peerId _ fun _ _ => .single (.closeTransport transportId))

/-- The room closes its peers one after the other. -/
theorem edits_destroy (room : Room) : room.Edits receives room.destroy := by
  have hpeers : ∀ (peerIds : List UInt32) (room : Room),
      room.Edits receives (peerIds.foldl closePeer room) := by
    intro peerIds
    induction peerIds with
    | nil => exact fun room => .refl
    | cons peerId peerIds ih => exact fun room => .head (.closePeer peerId) (ih _)
  exact hpeers _ room

/-- A new peer is one edit. -/
theorem edits_createPeer : Leaves (fun _ => room.Edits receives) (room.createPeer request) := by
  unfold createPeer
  refine leaves_tryReject (fun _ _ _ => .refl) fun peerId _ => ?_
  split
  case isTrue => exact leaves_reject .refl
  case isFalse hnew =>
    split
    case isTrue => exact leaves_reject .refl
    case isFalse =>
      exact leaves_accept (.single (.createPeer peerId _ (Option.not_isSome_iff_eq_none.1 hnew)))

/-- The event of the audio levels. -/
theorem edits_setAudioLevelsEvent (data : Value) :
    Leaves (fun _ => room.Edits receives) (room.setAudioLevelsEvent data) := by
  unfold setAudioLevelsEvent
  split
  case isTrue => exact leaves_reject .refl
  case isFalse =>
    split
    case isTrue =>
      intro room' heq
      cases heq
      exact .refl
    case isFalse => exact leaves_accept (.single (.audioLevels _))

section
variable {peerId : UInt32} {peer : Peer}

/-- A peer gets its capabilities, and senders. -/
theorem edits_setPeerCapabilities (hpeer : NamesPeer room request peerId peer) :
    Leaves (fun _ => room.Edits receives) (room.setPeerCapabilities env peerId peer request) := by
  unfold setPeerCapabilities
  split
  case isTrue => exact leaves_reject .refl
  case isFalse hnone =>
    refine leaves_tryReject (fun _ _ _ => .refl) fun capabilities hdata => ?_
    split
    case h_1 => exact leaves_error _ _
    case h_2 room' hok =>
      refine leaves_accept (.single (.setCapabilities env hpeer.peerFound ?_ hdata hok))
      exact Option.not_isSome_iff_eq_none.1 hnone

/-- A new transport is one edit of its peer. -/
theorem edits_createTransport (hpeer : NamesPeer room request peerId peer) :
    Leaves (fun _ => room.Edits receives) (room.createTransport env peerId peer request) := by
  unfold createTransport
  refine leaves_tryReject (fun _ _ _ => .refl) fun transportId _ => ?_
  split
  case isTrue => exact leaves_reject .refl
  case isFalse hnew =>
    refine leaves_tryReject (fun _ _ _ => .refl) fun t ht => ?_
    have hempty : t = {} := by
      unfold Transport.create at ht
      split at ht
      case isTrue => cases ht
      case isFalse => exact (Except.ok.inj ht).symm
    subst hempty
    refine leaves_accept (edits_modifyPeer hpeer.peerFound (.single (.createTransport ?_)))
    exact Option.not_isSome_iff_eq_none.1 hnew

/-- A new receiver is one edit of its peer. -/
theorem edits_createRtpReceiver (hpeer : NamesPeer room request peerId peer) :
    Leaves (fun _ => room.Edits receives) (room.createRtpReceiver peerId peer request) := by
  unfold createRtpReceiver
  split
  case isTrue => exact leaves_reject .refl
  case isFalse hcapabilities =>
    refine leaves_tryReject (fun _ _ _ => .refl) fun rtpReceiverId _ => ?_
    split
    case isTrue => exact leaves_reject .refl
    case isFalse hnew =>
      refine leaves_tryReject (fun _ _ _ => .refl) fun transportId _ => ?_
      split
      case isTrue => exact leaves_reject .refl
      case isFalse ht =>
        split
        case isTrue => exact leaves_error _ _
        case isFalse =>
          refine leaves_tryReject (fun _ _ _ => .refl) fun kind _ => ?_
          refine leaves_accept (.single (.createRtpReceiver kind hpeer.peerFound ?_ ?_ ?_))
          · exact Option.isSome_iff_ne_none.2 fun hnone => hcapabilities (by rw [hnone]; rfl)
          · exact Option.not_isSome_iff_eq_none.1 hnew
          · exact Option.isSome_iff_ne_none.2 fun hnone => ht (by rw [hnone]; rfl)

/-- A request to a sender is rejected, or comes to the sender that it names. -/
theorem leaves_withNamedRtpSender {P : List Response → Room → Prop}
    (h : ∀ reason, P [.reject reason] room) {handler : UInt32 → RtpSender → Handled}
    (hpeer : NamesPeer room request peerId peer)
    (hhandler : ∀ id s, NamesRtpSender room request (peerId, id) peer s → Leaves P (handler id s)) :
    Leaves P (room.withRtpSender peer request handler) := by
  unfold withRtpSender
  refine leaves_tryReject (fun _ reason _ => h reason) fun id hid => ?_
  split
  case h_1 => exact leaves_reject (h _)
  case h_2 s hs => exact hhandler id s ⟨hpeer, Request.idFrom_ok hid, hs⟩

/-- The DTLS parameters are no edit. -/
theorem edits_setRemoteDtlsParameters {room₁ : Room} (h : room.Edits receives room₁) (data : Value) :
    Leaves (fun _ => room.Edits receives) (room₁.setRemoteDtlsParameters data) := by
  unfold setRemoteDtlsParameters
  dsimp only
  split
  · exact leaves_reject h
  · split
    · exact leaves_reject h
    · split
      · exact leaves_reject h
      · have hrole : ∀ role : String, Leaves (fun _ => room.Edits receives)
            (if role = "client" then room₁.accept (.object [("role", .string "server")])
            else if role = "server" ∨ role = "auto" then
              room₁.accept (.object [("role", .string "client")])
            else room₁.reject "invalid data.role") := by
          intro role
          split
          · exact leaves_accept h
          · split
            · exact leaves_accept h
            · exact leaves_reject h
        exact hrole _

/-- The requests to a transport. -/
theorem edits_handleTransportRequest {transportId : UInt32} {t : Transport}
    (hpeer : NamesPeer room request peerId peer) (ht : peer.transports.find? transportId = some t) :
    Leaves (fun _ => room.Edits receives)
      (room.handleTransportRequest env peerId transportId t request) := by
  have hset : ∀ t' : Transport, t'.rtpListener = t.rtpListener →
      room.Edits receives (room.modifyPeer peerId fun peer =>
        { peer with transports := peer.transports.insert transportId t' }) :=
    fun t' hsame => edits_modifyPeer hpeer.peerFound (.single (.setTransport ht hsame))
  unfold handleTransportRequest
  dsimp only
  split
  case h_1 => exact leaves_accept (edits_closeTransport _ _)
  case h_2 => exact leaves_accept .refl
  case h_3 =>
    split
    · exact leaves_reject .refl
    · exact edits_setRemoteDtlsParameters (hset { t with remoteDtlsParametersGiven := true } rfl) _
  case h_4 =>
    split
    · exact leaves_reject .refl
    · refine leaves_accept (hset _ ?_)
      rfl
  case h_5 => exact leaves_accept .refl
  case h_6 => exact leaves_reject .refl

end

section
variable {ref : Ref} {peer : Peer} {r : RtpReceiver}

/-- A flag of a receiver, which keeps what the others refer to. -/
theorem edits_setRtpEvent (hr : NamesRtpReceiver room request ref peer r) {set : Bool → RtpReceiver}
    (hset : ∀ enabled, (set enabled).transport = r.transport ∧
      (set enabled).rtpParameters = r.rtpParameters ∧ (set enabled).rtpStreams = r.rtpStreams ∧
      (set enabled).deletedRtx = r.deletedRtx)
    (data : Value) : Leaves (fun _ => room.Edits receives) (room.setRtpEvent ref data set) := by
  unfold setRtpEvent
  split
  · exact leaves_reject .refl
  · obtain ⟨htransport, hp, hstreams, hdeleted⟩ := hset (data.member "enabled").asBool
    refine leaves_accept (edits_modifyPeer hr.peerFound (.single ?_))
    exact .setRtpEvent hr.receiverFound htransport hp hstreams hdeleted

/-- A receiver that is not added to a listener leaves the peer as a failed `AddRtpReceiver` does. -/
theorem edits_onRtpReceiverParameters {given : RtpParameters} {fault : Fault}
    (hr : peer.rtpReceivers.find? ref.2 = some r)
    (h : (peer.onRtpReceiverParameters ref.2 r given).2 = .error fault) :
    peer.Edits (peer.onRtpReceiverParameters ref.2 r given).1 := by
  unfold Peer.onRtpReceiverParameters at h ⊢
  dsimp only at h ⊢
  split at h
  case h_1 => exact .refl
  case h_2 p hp =>
    split at h
    case h_1 => cases h
    case h_2 transportId _ =>
      refine .single (.addRtpReceiver _ hr (.inr ?_))
      cases hadd : (peer.addRtpReceiver transportId ref.2 (some (p.reduceHeaderExtensions
          (peer.capabilities.getD {}).headerExtensions))).2 with
      | error fault => exact ⟨fault, rfl⟩
      | ok =>
          rw [hadd] at h
          cases h

/-- The streams of a receiver are created. -/
theorem edits_createRtpStreams (h : room.createRtpStreams ref = .ok room') : room.Edits receives room' := by
  unfold createRtpStreams at h
  split at h
  case h_1 => cases h; exact .refl
  case h_2 peer hpeer =>
    obtain ⟨peer', hpeer', heq⟩ := Checked.bind_eq_ok.1 h
    cases heq
    exact edits_modifyPeer hpeer (.single (.createRtpStreams hpeer'))

/-- A request with new parameters that are accepted gives them to the receiver that it names. -/
theorem receives_of_accepted (env : Environment) {before p : RtpParameters}
    (hr : NamesRtpReceiver room request ref peer r)
    (hmethod : request.method = .rtpReceiverReceive)
    (hdata : RtpParameters.ofJson request.data = .ok before)
    (hp : (peer.onRtpReceiverParameters ref.2 r before).2 = .ok p) :
    room.Receives (.request env request) r := by
  unfold Receives receives?
  dsimp only
  rw [namedRtpReceiver_eq hr, hr.receiverNamed, hdata, hmethod]
  dsimp only [Option.bind_eq_bind, Option.bind_some, Except.toOption]
  rw [hp]
  rfl

/-- A receiver gets new parameters, and then its streams. -/
theorem edits_receive (hr : NamesRtpReceiver room request ref peer r)
    (hmethod : request.method = .rtpReceiverReceive) :
    Leaves (fun _ => room.Edits (room.Receives (.request env request)))
      (room.receive env ref peer r request.data) := by
  unfold receive
  refine leaves_tryReject (fun _ _ _ => .refl) fun given hdata => ?_
  refine leaves_tryReject (fun fault _ hfault => ?_) fun p hp room' hdone => ?_
  · exact edits_modifyPeer hr.peerFound (edits_onRtpReceiverParameters hr.receiverFound hfault)
  · obtain ⟨room₁, hroom₁, hstreams⟩ := Checked.bind_eq_ok.1 hdone
    have hreceives := receives_of_accepted env hr hmethod hdata hp
    refine .head (.receive env hr.peerFound hr.receiverFound hreceives hdata hp hroom₁) ?_
    exact edits_createRtpStreams hstreams

/-- A receiver is added to the listener of a transport, and gets this transport. -/
theorem edits_setRtpReceiverTransport {transportId : UInt32} {t : Transport}
    (hr : NamesRtpReceiver room request ref peer r) (ht : peer.transports.find? transportId = some t) :
    Leaves (fun _ => room.Edits receives) (room.setRtpReceiverTransport ref peer r transportId) := by
  unfold setRtpReceiverTransport
  cases hp : r.rtpParameters with
  | none =>
      intro room' hok
      rw [Peer.addRtpReceiver, ht] at hok
      cases hok
  | some p =>
      have hadd : room.Edits receives (room.modifyPeer ref.1 fun _ =>
          (peer.addRtpReceiver transportId ref.2 (some p)).1) := by
        refine edits_modifyPeer hr.peerFound (.single (.addRtpReceiver p hr.receiverFound (.inl ?_)))
        rw [hp]
        rfl
      have hpeer := find?_modifyPeer
        (f := fun _ => (peer.addRtpReceiver transportId ref.2 (some p)).1) hr.peerFound
      have hreceivers := Peer.addRtpReceiver_rtpReceivers peer transportId ref.2 (some p)
      have htransports : ((peer.addRtpReceiver transportId ref.2 (some p)).1.transports.find?
          transportId).isSome = true := by
        rw [Peer.addRtpReceiver, ht]
        dsimp only
        rw [Table.find?_insert, if_pos rfl]
        rfl
      dsimp only
      refine leaves_tryReject (fun _ _ _ => hadd) fun _ _ => leaves_accept (hadd.trans ?_)
      rw [← hp] at hpeer hreceivers htransports ⊢
      refine edits_modifyPeer hpeer (.single (.attachRtpReceiver _ ?_ htransports))
      rw [hreceivers]
      exact hr.receiverFound

/-- The requests to a receiver. -/
theorem edits_handleRtpReceiverRequest (hr : NamesRtpReceiver room request ref peer r) :
    Leaves (fun _ => room.Edits (room.Receives (.request env request)))
      (room.handleRtpReceiverRequest env ref peer r request) := by
  unfold handleRtpReceiverRequest
  split
  case h_1 => exact leaves_accept (.single (.closeRtpReceiver ref))
  case h_2 => exact leaves_accept .refl
  case h_3 hmethod => exact edits_receive hr hmethod
  case h_4 | h_5 => refine edits_setRtpEvent hr (fun enabled => ⟨?_, ?_, ?_, ?_⟩) request.data <;> rfl
  case h_6 => exact leaves_reject .refl

/-- A sender is disabled or enabled. -/
theorem edits_disable {s : RtpSender} (hs : NamesRtpSender room request ref peer s) (data : Value) :
    Leaves (fun _ => room.Edits receives) (room.disable ref s data) := by
  unfold disable
  split
  · exact leaves_reject .refl
  · dsimp only
    split
    · exact leaves_accept .refl
    · split
      · exact leaves_error _ _
      · refine leaves_accept (edits_modifyPeer hs.peerFound (.single ?_))
        exact .disableRtpSender _ hs.senderFound

end

/-- The requests to a peer and to what it has. -/
theorem edits_handlePeerRequest {peerId : UInt32} {peer : Peer}
    (hpeer : NamesPeer room request peerId peer) :
    Leaves (fun _ => room.Edits (room.Receives (.request env request)))
      (room.handlePeerRequest env peerId peer request) := by
  unfold handlePeerRequest
  split
  case h_1 => exact leaves_accept (.single (.closePeer peerId))
  case h_2 => exact leaves_accept .refl
  case h_3 => exact edits_setPeerCapabilities hpeer
  case h_4 => exact edits_createTransport hpeer
  case h_5 => exact edits_createRtpReceiver hpeer
  case h_6 | h_7 | h_8 | h_9 | h_10 =>
    exact leaves_withTransport (fun _ => .refl) fun transportId t ht =>
      edits_handleTransportRequest hpeer ht.found
  case h_11 | h_12 | h_13 | h_14 | h_15 =>
    exact leaves_withRtpReceiver (fun _ => .refl) hpeer fun id r hr => edits_handleRtpReceiverRequest hr
  case h_16 =>
    refine leaves_withRtpReceiver (fun _ => .refl) hpeer fun id r hr => ?_
    exact leaves_withTransport (fun _ => .refl) fun transportId t ht =>
      edits_setRtpReceiverTransport hr ht.found
  case h_17 =>
    exact leaves_withNamedRtpSender (fun _ => .refl) hpeer fun id s _ => leaves_accept .refl
  case h_18 =>
    refine leaves_withNamedRtpSender (fun _ => .refl) hpeer fun id s hs => ?_
    refine leaves_withTransport (fun _ => .refl) fun transportId t ht => ?_
    refine leaves_accept (edits_modifyPeer hpeer.peerFound (.single ?_))
    refine .attachRtpSender hs.senderFound ?_
    rw [ht.found]
    rfl
  case h_19 =>
    exact leaves_withNamedRtpSender (fun _ => .refl) hpeer fun id s hs => edits_disable hs request.data
  case h_20 => exact leaves_reject .refl

/-- Every request is a chain of edits. -/
theorem edits_handleRequest (room : Room) (env : Environment) (request : Request) :
    Leaves (fun _ => room.Edits (room.Receives (.request env request)))
      (room.handleRequest env request) := by
  unfold handleRequest
  split
  case h_1 => exact leaves_accept (edits_destroy room)
  case h_2 => exact leaves_accept .refl
  case h_3 => exact edits_createPeer
  case h_4 => exact edits_setAudioLevelsEvent request.data
  case h_5 | h_6 | h_7 => exact leaves_reject .refl
  case h_8 =>
    refine leaves_tryReject (fun _ _ _ => .refl) fun peerId hid => ?_
    split
    case h_1 => exact leaves_reject .refl
    case h_2 peer hpeer => exact edits_handlePeerRequest ⟨Request.idFrom_ok hid, hpeer⟩

/-- **A step is a chain of edits.** -/
theorem edits_step {e : RoomEvent} (h : room.step e = some room') :
    room.Edits (room.Receives e) room' := by
  cases e with
  | request env request =>
      exact edits_handleRequest room env request room' (Checked.toOption_eq_some.1 h)
  | transportClosed peerId transportId =>
      cases h
      exact edits_closeTransport peerId transportId
  | rtpPacket peerId transportId ssrc payloadType =>
      cases h
      exact .single (.peer peerId _ fun _ _ => .single (.rtpPacket transportId ssrc payloadType))

/-- What every edit keeps, in a full mesh of usable parameters, is kept by a chain of them. -/
theorem Edits.inv {I : Room → Prop} (hstep : ∀ room room', Mesh room.view → room.media.Sound → I room →
      room.Edit receives room' → I room')
    (h : room.Edits receives room') (hmesh : Mesh room.view) (hsound : room.media.Sound) (h0 : I room) :
    (Mesh room'.view ∧ room'.media.Sound) ∧ I room' := by
  induction h with
  | refl => exact ⟨⟨hmesh, hsound⟩, h0⟩
  | tail _ hedit ih =>
      obtain ⟨⟨hmesh, hsound⟩, hI⟩ := ih
      exact ⟨⟨hedit.chain.inv (fun _ _ => mesh_change) hmesh,
        hedit.chain.inv (fun _ _ => sound_change) hsound⟩, hstep _ _ hmesh hsound hI hedit⟩

/-- **The invariant rule for edits.** A run of a room whose events meet a condition keeps the mesh, with
usable parameters, and what every edit of such an event keeps in one. -/
theorem exec_inv_of_edit_of_meets {I : Room → Prop} {C : Room → RoomEvent → Prop}
    (hstep : ∀ start e, C start e → ∀ room room', Mesh room.view → room.media.Sound → I room →
      room.Edit (start.Receives e) room' → I room')
    {roomId : UInt32} {data : Value} {events : List RoomEvent}
    (hcreate : Room.create roomId data = .ok room) (hC : Machine.Meets step C room events)
    (h : Machine.exec step room events = some room') (h0 : I room) :
    (Mesh room'.view ∧ room'.media.Sound) ∧ I room' := by
  have hsound : room.media.Sound := (ends_create roomId data).of_ok hcreate
  exact Machine.exec_inv_of_meets (I := fun room => (Mesh room.view ∧ room.media.Sound) ∧ I room)
    (fun start e _ hI hC hs => (edits_step hs).inv (hstep start e hC) hI.1.1 hI.1.2 hI.2) hC h
    ⟨⟨mesh_create hcreate, hsound⟩, h0⟩

/-- The rule for edits, for runs of any events. -/
theorem exec_inv_of_edit {I : Room → Prop}
    (hstep : ∀ receives : RtpReceiver → Prop, ∀ room room', Mesh room.view → room.media.Sound → I room →
      room.Edit receives room' → I room')
    {roomId : UInt32} {data : Value} {events : List RoomEvent}
    (hcreate : Room.create roomId data = .ok room)
    (h : Machine.exec step room events = some room') (h0 : I room) :
    (Mesh room'.view ∧ room'.media.Sound) ∧ I room' :=
  exec_inv_of_edit_of_meets (C := fun _ _ => True) (fun start e _ => hstep (start.Receives e)) hcreate
    (Machine.meets_of_forall (fun _ _ _ => trivial) room) h h0

end Room

end KoreWebsocket.Rtc
