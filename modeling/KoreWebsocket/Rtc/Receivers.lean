import KoreWebsocket.Rtc.LinkedRooms
import KoreWebsocket.Rtc.Mesh

/-!
# The receivers that a request leaves (`Room::HandleRequest`, `mediasoup_1/soup`)

A request other than `room.close` closes the receivers that it names, by themselves or with their peer
(`Closes`), and leaves the others.
-/

namespace KoreWebsocket.Rtc

open JsonCpp

/-- The request names the receiver to be closed, or its peer. -/
def Request.Closes (request : Request) (ref : Ref) : Prop :=
  request.id? "peerId" = some ref.1 ∧
    (request.method = .peerClose ∨
      request.method = .rtpReceiverClose ∧ request.id? "rtpReceiverId" = some ref.2)

instance (request : Request) (ref : Ref) : Decidable (request.Closes ref) :=
  inferInstanceAs (Decidable (_ ∧ _))

namespace Room

variable {room : Room} {env : Environment} {request : Request} {ref : Ref}

/-! ## Closing -/

/-- When a receiver closes, the others are alive as before. -/
theorem alive_closeRtpReceiver (room : Room) (closed : Ref) :
    (room.closeRtpReceiver closed).view.alive ref = (decide (ref ≠ closed) && room.view.alive ref) := by
  rw [view_closeRtpReceiver]
  rfl

/-- Receivers are gone, by induction on their list. -/
theorem alive_closeRtpReceivers (closed : List Ref) (room : Room) :
    (closed.foldl closeRtpReceiver room).view.alive ref =
      (decide (ref ∉ closed) && room.view.alive ref) := by
  induction closed generalizing room with
  | nil => simp
  | cons first closed ih =>
      rw [List.foldl_cons, ih, alive_closeRtpReceiver]
      by_cases hfirst : ref = first <;> simp [hfirst]

/-- Those of a peer are gone. -/
theorem alive_closePeer (room : Room) (peerId : UInt32) :
    (room.closePeer peerId).view.alive ref = (decide (ref.1 ≠ peerId) && room.view.alive ref) := by
  have halive : ((room.rtpReceiversOf peerId).foldl closeRtpReceiver room).view.alive ref = _ :=
    alive_closeRtpReceivers (room.rtpReceiversOf peerId) room
  unfold closePeer
  dsimp only
  generalize (room.rtpReceiversOf peerId).foldl closeRtpReceiver room = room₁ at halive
  rw [view_erasePeer, view_closeTransports, view_closeRtpSenders]
  change (decide (ref.1 ≠ peerId) && room₁.view.alive ref) = _
  rw [halive]
  by_cases hpeer : ref.1 = peerId
  · simp [hpeer]
  · have hother : ref ∉ room.rtpReceiversOf peerId := fun hmem => hpeer (mem_rtpReceiversOf.1 hmem).1
    simp [hother]

/-! ## Requests that close nothing -/

/-- A sender that is added leaves the receivers. -/
theorem alive_addRtpSenderForRtpReceiver {senderPeerId : UInt32} {r : RtpReceiver} {room' : Room}
    (h : room.addRtpSenderForRtpReceiver env senderPeerId ref r = .ok room') :
    room'.view.alive = room.view.alive := by
  unfold addRtpSenderForRtpReceiver at h
  split at h
  case h_1 => cases h; rfl
  case h_2 =>
    split at h
    case h_2 => cases h
    case h_1 =>
      dsimp only at h
      split at h
      case isTrue => cases h
      case isFalse =>
        obtain ⟨sent, -, heq⟩ := Checked.bind_eq_ok.1 h
        cases heq
        exact alive_modifyPeer fun _ _ _ => rfl

/-- The capabilities of a peer bring senders only. -/
theorem alive_onPeerCapabilities {peerId : UInt32} {capabilities : RtpCapabilities} {room' : Room}
    (h : room.onPeerCapabilities env peerId capabilities = .ok room') :
    room'.view.alive = room.view.alive := by
  obtain ⟨reduced, -, hadd⟩ := Checked.bind_eq_ok.1 h
  have henabled : (room.modifyPeer peerId fun peer =>
      { peer with capabilities := some reduced }).view.alive = room.view.alive :=
    alive_modifyPeer fun _ _ _ => rfl
  refine Checked.foldlM_inv (I := fun room' => room'.view.alive = room.view.alive)
    (fun room₁ a room₂ halive h => ?_) hadd henabled
  exact (alive_addRtpSenderForRtpReceiver h).trans halive

/-- New parameters reach the senders only. -/
theorem alive_onPeerRtpReceiverParameters {r : RtpReceiver} {room' : Room}
    (h : room.onPeerRtpReceiverParameters env ref r = .ok room') :
    room'.view.alive = room.view.alive := by
  unfold onPeerRtpReceiverParameters at h
  split at h
  case h_1 => cases h
  case h_2 =>
    split at h
    case h_1 =>
      refine Checked.foldlM_inv (I := fun room' => room'.view.alive = room.view.alive)
        (fun room₁ a room₂ halive h => ?_) h rfl
      exact (alive_addRtpSenderForRtpReceiver h).trans halive
    case h_2 =>
      refine Checked.foldlM_inv (I := fun room' => room'.view.alive = room.view.alive)
        (fun room₁ s room₂ halive h => ?_) h rfl
      rw [view_send h, halive]

/-- The streams of a receiver are not seen. -/
theorem view_createRtpStreams {room' : Room} (h : room.createRtpStreams ref = .ok room') :
    room'.view = room.view := by
  unfold createRtpStreams at h
  split at h
  case h_1 => cases h; rfl
  case h_2 peer hpeer =>
    obtain ⟨peer', hpeer', heq⟩ := Checked.bind_eq_ok.1 h
    cases heq
    refine view_modifyPeer fun peer₁ hpeer₁ => ?_
    obtain rfl := Option.some.inj (hpeer.symm.trans hpeer₁)
    exact Peer.sameMembers_createRtpStreams hpeer'

/-! ## The handlers -/

section
variable {peerId : UInt32} {peer : Peer} {r : RtpReceiver}

/-- The receiver is there in the room that a handler leaves. -/
abbrev LeavesAlive (ref : Ref) : Handled → Prop :=
  Leaves fun _ room' => room'.view.alive ref = true

/-- A handler that changes a peer's other members leaves the receivers. -/
theorem alive_sameMembers {f : Peer → Peer} (halive : room.view.alive ref = true)
    (hpeer : room.peers.find? peerId = some peer) (h : peer.SameMembers (f peer)) :
    (room.modifyPeer peerId f).view.alive ref = true := by
  rw [view_modifyPeer fun peer' hpeer' => ?_, halive]
  obtain rfl := Option.some.inj (hpeer.symm.trans hpeer')
  exact h

/-- The event of the audio levels closes nothing. -/
theorem leavesAlive_setAudioLevelsEvent (halive : room.view.alive ref = true) (data : Value) :
    LeavesAlive ref (room.setAudioLevelsEvent data) := by
  unfold setAudioLevelsEvent
  split
  · exact leaves_reject halive
  · split
    · intro room' h
      cases h
      exact halive
    · exact leaves_accept halive

/-- A new peer has an id of its own. -/
theorem leavesAlive_createPeer (halive : room.view.alive ref = true) :
    LeavesAlive ref (room.createPeer request) := by
  unfold createPeer
  refine leaves_tryReject (fun _ _ _ => halive) fun peerId _ => ?_
  split
  case isTrue => exact leaves_reject halive
  case isFalse hnew =>
    split
    case isTrue => exact leaves_reject halive
    case isFalse =>
      refine leaves_accept ?_
      rw [view_createPeer (Option.not_isSome_iff_eq_none.1 hnew)]
      exact halive

/-- A new transport closes nothing. -/
theorem leavesAlive_createTransport (halive : room.view.alive ref = true)
    (hpeer : room.peers.find? peerId = some peer) :
    LeavesAlive ref (room.createTransport env peerId peer request) := by
  unfold createTransport
  refine leaves_tryReject (fun _ _ _ => halive) fun transportId _ => ?_
  split
  · exact leaves_reject halive
  · refine leaves_tryReject (fun _ _ _ => halive) fun t _ => ?_
    exact leaves_accept (alive_sameMembers halive hpeer (Peer.sameMembers_transports _))

/-- A new receiver closes no other. -/
theorem leavesAlive_createRtpReceiver (halive : room.view.alive ref = true)
    (hpeer : room.peers.find? peerId = some peer) :
    LeavesAlive ref (room.createRtpReceiver peerId peer request) := by
  unfold createRtpReceiver
  split
  · exact leaves_reject halive
  · refine leaves_tryReject (fun _ _ _ => halive) fun rtpReceiverId _ => ?_
    split
    case isTrue => exact leaves_reject halive
    case isFalse hnew =>
      refine leaves_tryReject (fun _ _ _ => halive) fun transportId _ => ?_
      split
      · exact leaves_reject halive
      · split
        · exact leaves_error _ _
        · refine leaves_tryReject (fun _ _ _ => halive) fun kind _ => leaves_accept ?_
          rw [view_createRtpReceiver kind hpeer (Option.not_isSome_iff_eq_none.1 hnew)]
          exact Bool.or_eq_true_iff.2 (.inr halive)

/-- The capabilities of a peer close nothing. -/
theorem leavesAlive_setPeerCapabilities (halive : room.view.alive ref = true) :
    LeavesAlive ref (room.setPeerCapabilities env peerId peer request) := by
  unfold setPeerCapabilities
  split
  · exact leaves_reject halive
  · refine leaves_tryReject (fun _ _ _ => halive) fun capabilities _ => ?_
    split
    case h_1 => exact leaves_error _ _
    case h_2 room' h => exact leaves_accept (by rw [alive_onPeerCapabilities h, halive])

/-- A request to a transport does what its handler does, or nothing. -/
theorem leavesAlive_withTransport (halive : room.view.alive ref = true)
    {handler : UInt32 → Transport → Handled}
    (h : ∀ transportId t, LeavesAlive ref (handler transportId t)) :
    LeavesAlive ref (room.withTransport peer request handler) := by
  unfold withTransport
  refine leaves_tryReject (fun _ _ _ => halive) fun transportId _ => ?_
  split
  case h_1 => exact leaves_reject halive
  case h_2 t _ => exact h transportId t

/-- A request to a receiver does what its handler does, or nothing. -/
theorem leavesAlive_withRtpReceiver (halive : room.view.alive ref = true)
    {handler : UInt32 → RtpReceiver → Handled}
    (h : ∀ id r, request.id? "rtpReceiverId" = some id → peer.rtpReceivers.find? id = some r →
      LeavesAlive ref (handler id r)) :
    LeavesAlive ref (room.withRtpReceiver peer request handler) := by
  unfold withRtpReceiver
  refine leaves_tryReject (fun _ _ _ => halive) fun id hid => ?_
  split
  case h_1 => exact leaves_reject halive
  case h_2 r hr => exact h id r (Request.idFrom_ok hid) hr

/-- A request to a sender does what its handler does, or nothing. -/
theorem leavesAlive_withRtpSender (halive : room.view.alive ref = true)
    {handler : UInt32 → RtpSender → Handled}
    (h : ∀ id s, peer.rtpSenders.find? id = some s → LeavesAlive ref (handler id s)) :
    LeavesAlive ref (room.withRtpSender peer request handler) := by
  unfold withRtpSender
  refine leaves_tryReject (fun _ _ _ => halive) fun id _ => ?_
  split
  case h_1 => exact leaves_reject halive
  case h_2 s hs => exact h id s hs

/-- The DTLS parameters close nothing. -/
theorem leavesAlive_setRemoteDtlsParameters (halive : room.view.alive ref = true) (data : Value) :
    LeavesAlive ref (room.setRemoteDtlsParameters data) := by
  unfold setRemoteDtlsParameters
  dsimp only
  split
  · exact leaves_reject halive
  · split
    · exact leaves_reject halive
    · split
      · exact leaves_reject halive
      · generalize (if (data.member "role").isString then (data.member "role").asString
          else "auto") = role
        split
        · exact leaves_accept halive
        · split
          · exact leaves_accept halive
          · exact leaves_reject halive

/-- A transport that closes leaves its receivers. -/
theorem leavesAlive_handleTransportRequest (halive : room.view.alive ref = true)
    (hpeer : room.peers.find? peerId = some peer) (transportId : UInt32) (t : Transport) :
    LeavesAlive ref (room.handleTransportRequest env peerId transportId t request) := by
  have hset : ∀ t : Transport, (room.modifyPeer peerId fun peer =>
      { peer with transports := peer.transports.insert transportId t }).view.alive ref = true :=
    fun t => alive_sameMembers halive hpeer (Peer.sameMembers_transports _)
  unfold handleTransportRequest
  dsimp only
  split
  case h_1 =>
    exact leaves_accept (alive_sameMembers halive hpeer (Peer.sameMembers_onTransportClosed transportId))
  case h_2 => exact leaves_accept halive
  case h_3 =>
    split
    · exact leaves_reject halive
    · exact leavesAlive_setRemoteDtlsParameters (hset _) _
  case h_4 =>
    split
    · exact leaves_reject halive
    · exact leaves_accept (hset _)
  case h_5 => exact leaves_accept halive
  case h_6 => exact leaves_reject halive

/-- A flag of a receiver closes nothing. -/
theorem leavesAlive_setRtpEvent {ref' : Ref} (halive : room.view.alive ref = true)
    (hpeer : room.peers.find? ref'.1 = some peer) (hr : peer.rtpReceivers.find? ref'.2 = some r)
    (data : Value) {set : Bool → RtpReceiver}
    (hset : ∀ enabled, (set enabled).rtpParameters = r.rtpParameters) :
    LeavesAlive ref (room.setRtpEvent ref' data set) := by
  unfold setRtpEvent
  split
  · exact leaves_reject halive
  · exact leaves_accept (alive_sameMembers halive hpeer
      (Peer.sameMembers_rtpReceiver hr (hset _) peer.transports))

/-- New parameters of a receiver close no receiver. -/
theorem leavesAlive_receive {ref' : Ref} (halive : room.view.alive ref = true)
    (hpeer : room.peers.find? ref'.1 = some peer) (hr : peer.rtpReceivers.find? ref'.2 = some r)
    (data : Value) : LeavesAlive ref (room.receive env ref' peer r data) := by
  unfold receive
  refine leaves_tryReject (fun _ _ _ => halive) fun given _ => ?_
  have halive₁ : (room.modifyPeer ref'.1 fun _ =>
      (peer.onRtpReceiverParameters ref'.2 r given).1).view.alive ref = true :=
    alive_sameMembers halive hpeer (Peer.sameMembers_onRtpReceiverParameters _ _ _)
  have hpeer₁ : (room.modifyPeer ref'.1 fun _ =>
      (peer.onRtpReceiverParameters ref'.2 r given).1).peers.find? ref'.1 =
        some (peer.onRtpReceiverParameters ref'.2 r given).1 := find?_modifyPeer hpeer
  refine leaves_tryReject (fun _ _ _ => halive₁) fun p _ => ?_
  intro room' hroom'
  obtain ⟨room₂, hroom₂, hstreams⟩ := Checked.bind_eq_ok.1 hroom'
  have hr₁ : (peer.onRtpReceiverParameters ref'.2 r given).1.rtpReceivers.find? ref'.2 = some r := by
    rw [Peer.onRtpReceiverParameters_rtpReceivers]
    exact hr
  rw [view_createRtpStreams hstreams, alive_onPeerRtpReceiverParameters hroom₂,
    view_setParameters hpeer₁ hr₁]
  exact halive₁

/-- A new transport of a receiver closes no receiver. -/
theorem leavesAlive_setRtpReceiverTransport {ref' : Ref} (halive : room.view.alive ref = true)
    (hpeer : room.peers.find? ref'.1 = some peer) (hr : peer.rtpReceivers.find? ref'.2 = some r)
    (transportId : UInt32) : LeavesAlive ref (room.setRtpReceiverTransport ref' peer r transportId) := by
  have halive₁ : (room.modifyPeer ref'.1 fun _ =>
      (peer.addRtpReceiver transportId ref'.2 r.rtpParameters).1).view.alive ref = true :=
    alive_sameMembers halive hpeer (Peer.sameMembers_addRtpReceiver _ _ _)
  have hpeer₁ := find?_modifyPeer
    (f := fun _ => (peer.addRtpReceiver transportId ref'.2 r.rtpParameters).1) hpeer
  have hr₁ : (peer.addRtpReceiver transportId ref'.2 r.rtpParameters).1.rtpReceivers.find? ref'.2 =
      some r := by
    rw [Peer.addRtpReceiver_rtpReceivers]
    exact hr
  have hmoved : { r with transport := some transportId }.rtpParameters = r.rtpParameters := rfl
  unfold setRtpReceiverTransport
  refine leaves_tryReject (fun _ _ _ => halive₁) fun _ _ => leaves_accept ?_
  exact alive_sameMembers halive₁ hpeer₁ (Peer.sameMembers_rtpReceiver hr₁ hmoved _)

/-- A disabled sender closes no receiver. -/
theorem leavesAlive_disable {ref' : Ref} {s : RtpSender} (halive : room.view.alive ref = true)
    (hpeer : room.peers.find? ref'.1 = some peer) (hs : peer.rtpSenders.find? ref'.2 = some s)
    (data : Value) : LeavesAlive ref (room.disable ref' s data) := by
  unfold disable
  split
  · exact leaves_reject halive
  · dsimp only
    split
    · exact leaves_accept halive
    · split
      · exact leaves_error _ _
      · exact leaves_accept (alive_sameMembers halive hpeer (Peer.sameMembers_rtpSender hs))

/-- **A request to a peer leaves every receiver that it does not close.** -/
theorem leavesAlive_handlePeerRequest (halive : room.view.alive ref = true)
    (hnamed : request.id? "peerId" = some peerId) (hpeer : room.peers.find? peerId = some peer)
    (hcloses : ¬ request.Closes ref) :
    LeavesAlive ref (room.handlePeerRequest env peerId peer request) := by
  unfold handlePeerRequest
  split
  case h_1 hmethod =>
    refine leaves_accept ?_
    rw [alive_closePeer, halive, Bool.and_true, decide_eq_true_iff]
    rintro rfl
    exact hcloses ⟨hnamed, .inl hmethod⟩
  case h_2 => exact leaves_accept halive
  case h_3 => exact leavesAlive_setPeerCapabilities halive
  case h_4 => exact leavesAlive_createTransport halive hpeer
  case h_5 => exact leavesAlive_createRtpReceiver halive hpeer
  case h_6 | h_7 | h_8 | h_9 | h_10 =>
    exact leavesAlive_withTransport halive fun transportId t =>
      leavesAlive_handleTransportRequest halive hpeer transportId t
  case h_11 | h_12 | h_13 | h_14 | h_15 =>
    refine leavesAlive_withRtpReceiver halive fun id r hid hr => ?_
    unfold handleRtpReceiverRequest
    split
    case h_1 hmethod =>
      refine leaves_accept ?_
      rw [alive_closeRtpReceiver, halive, Bool.and_true, decide_eq_true_iff]
      rintro rfl
      exact hcloses ⟨hnamed, .inr ⟨hmethod, hid⟩⟩
    case h_2 => exact leaves_accept halive
    case h_3 => exact leavesAlive_receive halive hpeer hr _
    case h_4 => exact leavesAlive_setRtpEvent halive hpeer hr _ fun _ => rfl
    case h_5 => exact leavesAlive_setRtpEvent halive hpeer hr _ fun _ => rfl
    case h_6 => exact leaves_reject halive
  case h_16 =>
    refine leavesAlive_withRtpReceiver halive fun id r _ hr => ?_
    exact leavesAlive_withTransport halive fun transportId _ =>
      leavesAlive_setRtpReceiverTransport halive hpeer hr transportId
  case h_17 => exact leavesAlive_withRtpSender halive fun id s _ => leaves_accept halive
  case h_18 =>
    refine leavesAlive_withRtpSender halive fun id s hs => ?_
    refine leavesAlive_withTransport halive fun transportId _ => leaves_accept ?_
    exact alive_sameMembers halive hpeer (Peer.sameMembers_rtpSender hs)
  case h_19 => exact leavesAlive_withRtpSender halive fun id s hs => leavesAlive_disable halive hpeer hs _
  case h_20 => exact leaves_reject halive

/-- **A request other than `room.close` leaves every receiver that it does not close.** -/
theorem leavesAlive_handleRequest (halive : room.view.alive ref = true)
    (hroom : request.method ≠ .roomClose) (hcloses : ¬ request.Closes ref) :
    LeavesAlive ref (room.handleRequest env request) := by
  unfold handleRequest
  split
  case h_1 hmethod => exact absurd hmethod hroom
  case h_2 => exact leaves_accept halive
  case h_3 => exact leavesAlive_createPeer halive
  case h_4 => exact leavesAlive_setAudioLevelsEvent halive _
  case h_5 | h_6 | h_7 => exact leaves_reject halive
  case h_8 =>
    refine leaves_tryReject (fun _ _ _ => halive) fun peerId hid => ?_
    split
    case h_1 => exact leaves_reject halive
    case h_2 peer hpeer =>
      exact leavesAlive_handlePeerRequest halive (Request.idFrom_ok hid) hpeer hcloses

/-- **A receiver that a request closes is not left.** -/
theorem leaves_handleRequest_of_closes (halive : room.view.alive ref = true)
    (hcloses : request.Closes ref) :
    Leaves (fun _ room' => room'.view.alive ref = false) (room.handleRequest env request) := by
  obtain ⟨hnamed, hmethod⟩ := hcloses
  obtain ⟨peer, hpeer, hreceiver⟩ := (Option.any_eq_true _ _).1 halive
  obtain ⟨r, hr⟩ := Option.isSome_iff_exists.1 hreceiver
  have hpassed : room.handleRequest env request = room.handlePeerRequest env ref.1 peer request := by
    unfold handleRequest
    rcases hmethod with hmethod | ⟨hmethod, -⟩
    all_goals
      rw [hmethod]
      refine (tryReject_idFrom hnamed _).trans ?_
      rw [hpeer]
  rw [hpassed]
  unfold handlePeerRequest
  rcases hmethod with hmethod | ⟨hmethod, hid⟩
  · rw [hmethod]
    refine leaves_accept ?_
    rw [alive_closePeer, decide_eq_false (not_not.2 rfl), Bool.false_and]
  · rw [hmethod]
    dsimp only
    rw [withRtpReceiver_eq ⟨⟨hnamed, hpeer⟩, hid, hr⟩, handleRtpReceiverRequest, hmethod]
    refine leaves_accept ?_
    rw [alive_closeRtpReceiver, decide_eq_false (not_not.2 rfl), Bool.false_and]

end

end Room

end KoreWebsocket.Rtc
