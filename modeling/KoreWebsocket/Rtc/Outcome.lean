import KoreWebsocket.Lib.Checked
import KoreWebsocket.Lib.Machine
import KoreWebsocket.Rtc.Room

/-!
# What a request can do to a room

Everything that a handler can do is said once here. The changes of a room are of a few kinds
(`Change`), and a handler makes some of them one after the other (`Chain`). A request is answered with
one response, unless it ends in one of the other ways that `Outcome` lists, each with the state and the
data that lead to it. The invariants of rooms are proved for the kinds of changes, and the faults are
excluded one by one.
-/

namespace KoreWebsocket.Rtc

open JsonCpp
open Checked (Ends)

/-- The two peers have the same capabilities, receivers with the same parameters, and senders. -/
structure Peer.SameMembers (peer peer' : Peer) : Prop where
  capabilities : peer'.capabilities = peer.capabilities
  rtpParameters : ∀ id, (peer'.rtpReceivers.find? id).map (·.rtpParameters) =
    (peer.rtpReceivers.find? id).map (·.rtpParameters)
  rtpSenders : ∀ id, (peer'.rtpSenders.find? id).isSome = (peer.rtpSenders.find? id).isSome

/-- The parameters that a receiver of the peer gets are read from a request, and reduced to what the
peer supports. -/
def Peer.Supported (peer : Peer) (p : RtpParameters) : Prop :=
  ∃ data given reduced, RtpParameters.ofJson data = .ok given ∧
    given.reduceCodecsAndEncodings (peer.capabilities.getD {}) = .ok reduced ∧
    p = reduced.reduceHeaderExtensions (peer.capabilities.getD {}).headerExtensions

/-- The kinds of changes of a room. -/
inductive Room.Change (room : Room) : Room → Prop
  | members (peerId : UInt32) (f : Peer → Peer)
      (h : ∀ peer, room.peers.find? peerId = some peer → peer.SameMembers (f peer)) :
      Change room (room.modifyPeer peerId f)
  | audioLevels (enabled : Bool) : Change room { room with audioLevelsEventEnabled := enabled }
  | createPeer (peerId : UInt32) (peerName : String) (h : room.peers.find? peerId = none) :
      Change room { room with peers := room.peers.insert peerId { peerName } }
  | closePeer (peerId : UInt32) : Change room (room.closePeer peerId)
  | setCapabilities (env : Environment) {peerId : UInt32} {peer : Peer} {data : Value}
      {capabilities : RtpCapabilities} {room' : Room} (hpeer : room.peers.find? peerId = some peer)
      (hnone : peer.capabilities = none)
      (hdata : RtpCapabilities.ofJson data .peerCapability = .ok capabilities)
      (h : room.onPeerCapabilities env peerId capabilities = .ok room') : Change room room'
  | createRtpReceiver {peerId rtpReceiverId transportId : UInt32} {peer : Peer} (kind : MediaKind)
      (hpeer : room.peers.find? peerId = some peer) (hcapabilities : peer.capabilities.isSome = true)
      (hnew : peer.rtpReceivers.find? rtpReceiverId = none) :
      Change room (room.modifyPeer peerId fun peer =>
        { peer with
          rtpReceivers :=
            peer.rtpReceivers.insert rtpReceiverId { kind, transport := some transportId } })
  | closeRtpReceiver (ref : Ref) : Change room (room.closeRtpReceiver ref)
  | receive (env : Environment) {ref : Ref} {peer : Peer} {r : RtpReceiver} {p : RtpParameters}
      {room' : Room} (hpeer : room.peers.find? ref.1 = some peer)
      (hr : peer.rtpReceivers.find? ref.2 = some r) (hp : peer.Supported p)
      (h : (room.setParameters ref r p).onPeerRtpReceiverParameters env ref
        { r.clearRtpStreams with rtpParameters := some p } = .ok room') : Change room room'

/-- Changes, one after the other. -/
abbrev Room.Chain : Room → Room → Prop := Relation.ReflTransGen Room.Change

/-- An invariant that every change keeps is kept by a chain of changes. -/
theorem Room.Chain.inv {I : Room → Prop} (hstep : ∀ room room', I room → room.Change room' → I room')
    {room room' : Room} (h : room.Chain room') (h0 : I room) : I room' := by
  induction h with
  | refl => exact h0
  | tail _ hchange ih => exact hstep _ _ ih hchange

/-- The id that a request has in `internal`. -/
def Request.id? (request : Request) (key : String) : Option UInt32 :=
  if (request.internal.member key).isUInt then some (request.internal.member key).asUInt else none

/-- The request names this peer. -/
structure NamesPeer (room : Room) (request : Request) (peerId : UInt32) (peer : Peer) : Prop where
  peerNamed : request.id? "peerId" = some peerId
  peerFound : room.peers.find? peerId = some peer

/-- The request names this receiver. -/
structure NamesRtpReceiver (room : Room) (request : Request) (ref : Ref) (peer : Peer)
    (r : RtpReceiver) : Prop extends NamesPeer room request ref.1 peer where
  receiverNamed : request.id? "rtpReceiverId" = some ref.2
  receiverFound : peer.rtpReceivers.find? ref.2 = some r

/-- The request names this transport of a peer. -/
structure NamesTransport (request : Request) (peer : Peer) (transportId : UInt32) (t : Transport) :
    Prop where
  named : request.id? "transportId" = some transportId
  found : peer.transports.find? transportId = some t

/-- The request names this sender. -/
structure NamesRtpSender (room : Room) (request : Request) (ref : Ref) (peer : Peer)
    (s : RtpSender) : Prop extends NamesPeer room request ref.1 peer where
  senderNamed : request.id? "rtpSenderId" = some ref.2
  senderFound : peer.rtpSenders.find? ref.2 = some s

/-- A fault that no handler catches. -/
def Fault.Uncaught (fault : Fault) : Prop := ∀ what, fault ≠ .mediaSoupError what

/-- **Everything that a request can end with.** It is answered with one response and makes a chain of
changes, or it is one of the cases that are not answered or end with a fault. -/
inductive Outcome (room : Room) (env : Environment) (request : Request) : Handled → Prop
  | answered (response : Response) {room' : Room} (h : room.Chain room') :
      Outcome room env request ([response], .ok room')
  | unchanged (hmethod : request.method = .roomSetAudioLevelsEvent)
      (henabled : request.data.member "enabled" = .bool room.audioLevelsEventEnabled) :
      Outcome room env request ([], .ok room)
  | missingKind {peerId rtpReceiverId transportId : UInt32} {peer : Peer} {t : Transport}
      (hmethod : request.method = .peerCreateRtpReceiver)
      (hpeer : NamesPeer room request peerId peer) (hcapabilities : peer.capabilities.isSome = true)
      (hid : request.id? "rtpReceiverId" = some rtpReceiverId)
      (hnew : peer.rtpReceivers.find? rtpReceiverId = none)
      (htransport : NamesTransport request peer transportId t)
      (hkind : (request.data.member "kind").isString = false) :
      Outcome room env request ([], msThrow "missing kind")
  | capabilitiesError {peerId : UInt32} {peer : Peer} {fault : Fault}
      (hmethod : request.method = .peerSetCapabilities) (hpeer : NamesPeer room request peerId peer)
      (hnone : peer.capabilities = none)
      (h : RtpCapabilities.ofJson request.data .peerCapability = .error fault)
      (huncaught : fault.Uncaught) : Outcome room env request ([], .error fault)
  | onPeerCapabilities {peerId : UInt32} {peer : Peer} {capabilities : RtpCapabilities}
      {fault : Fault} (hmethod : request.method = .peerSetCapabilities)
      (hpeer : NamesPeer room request peerId peer) (hnone : peer.capabilities = none)
      (hdata : RtpCapabilities.ofJson request.data .peerCapability = .ok capabilities)
      (h : room.onPeerCapabilities env peerId capabilities = .error fault) :
      Outcome room env request ([], .error fault)
  | parametersError {ref : Ref} {peer : Peer} {r : RtpReceiver} {fault : Fault}
      (hmethod : request.method = .rtpReceiverReceive)
      (hr : NamesRtpReceiver room request ref peer r)
      (h : RtpParameters.ofJson request.data = .error fault)
      (huncaught : fault.Uncaught) : Outcome room env request ([], .error fault)
  | reduceError {ref : Ref} {peer : Peer} {r : RtpReceiver} {p : RtpParameters} {fault : Fault}
      (hmethod : request.method = .rtpReceiverReceive)
      (hr : NamesRtpReceiver room request ref peer r)
      (hdata : RtpParameters.ofJson request.data = .ok p)
      (h : (peer.onRtpReceiverParameters ref.2 r p).2 = .error fault)
      (huncaught : fault.Uncaught) : Outcome room env request ([], .error fault)
  | parametersDone {ref : Ref} {peer : Peer} {r : RtpReceiver} {given p : RtpParameters}
      {room₁ : Room} {fault : Fault} (hmethod : request.method = .rtpReceiverReceive)
      (hr : NamesRtpReceiver room request ref peer r)
      (hdata : RtpParameters.ofJson request.data = .ok given)
      (hp : (peer.onRtpReceiverParameters ref.2 r given).2 = .ok p)
      (hroom : room₁ =
        room.modifyPeer ref.1 fun _ => (peer.onRtpReceiverParameters ref.2 r given).1)
      (h : (room₁.setParameters ref r p).onRtpReceiverParametersDone env ref
        { r.clearRtpStreams with rtpParameters := some p } = .error fault) :
      Outcome room env request ([.accept (.rtpParameters p)], .error fault)
  | setTransport {ref : Ref} {peer : Peer} {r : RtpReceiver} {transportId : UInt32} {t : Transport}
      (hmethod : request.method = .rtpReceiverSetTransport)
      (hr : NamesRtpReceiver room request ref peer r)
      (ht : NamesTransport request peer transportId t) (hparameters : r.rtpParameters = none) :
      Outcome room env request ([], .error (.abort .listenerAddRtpReceiver))
  | disable {ref : Ref} {peer : Peer} {s : RtpSender} (hmethod : request.method = .rtpSenderDisable)
      (hs : NamesRtpSender room request ref peer s)
      (hmap : room.mapRtpSenderRtpReceiver.find? ref = none) :
      Outcome room env request ([], .error (.abort .onFullFrameRequired))

namespace Outcome

variable {room : Room} {env : Environment} {request : Request}

/-- The room as the handler has changed it, and a rejection. -/
theorem reject {room' : Room} (h : room.Chain room') (reason : String) :
    Outcome room env request (room'.reject reason) :=
  .answered (.reject reason) h

/-- The room as the handler has changed it, and an acceptance. -/
theorem accept {room' : Room} (h : room.Chain room') (data : Payload) :
    Outcome room env request (room'.accept data) :=
  .answered (.accept data) h

/-- **The rule for a `try` block.** -/
theorem tryReject {α : Type} {room' : Room} {x : Except Fault α} {handler : α → Handled}
    (h : room.Chain room')
    (herror : ∀ fault, x = .error fault → fault.Uncaught → Outcome room env request ([], .error fault))
    (hok : ∀ a, x = .ok a → Outcome room env request (handler a)) :
    Outcome room env request (room'.tryReject x handler) := by
  unfold Room.tryReject
  split
  case h_1 a => exact hok a rfl
  case h_2 what => exact .reject h what
  case h_3 fault hne => exact herror fault rfl hne

end Outcome

/-- What `MS_THROW_ERROR` throws is caught. -/
theorem not_uncaught_msThrow {α : Type} {desc : String} {fault : Fault}
    (h : (msThrow desc : Except Fault α) = .error fault) : ¬ fault.Uncaught := by
  intro huncaught
  cases h
  exact huncaught _ rfl

namespace Request

variable {request : Request} {key desc : String}

/-- An id that was read is the one of the request. -/
theorem idFrom_ok {id : UInt32} (h : request.idFrom key desc = .ok id) : request.id? key = some id := by
  unfold idFrom at h
  split at h
  case isTrue hint =>
    cases h
    exact if_pos hint
  case isFalse => cases h

/-- An id is read just if it is there. -/
theorem idFrom_eq (request : Request) (key desc : String) :
    request.idFrom key desc = (request.id? key).elim (msThrow desc) .ok := by
  unfold idFrom id?
  split <;> rfl

/-- An id that the request has is read. -/
theorem idFrom_of_id? {id : UInt32} (h : request.id? key = some id) :
    request.idFrom key desc = .ok id := by
  rw [idFrom_eq, h]
  rfl

/-- A missing id is a `MediaSoupError`. -/
theorem idFrom_caught {fault : Fault} (h : request.idFrom key desc = .error fault) :
    ¬ fault.Uncaught := by
  unfold idFrom at h
  split at h
  case isTrue => cases h
  case isFalse => exact not_uncaught_msThrow h

end Request

/-- An unknown kind is a `MediaSoupError`. -/
theorem getKind_caught {str : String} {fault : Fault} (h : getKind str = .error fault) :
    ¬ fault.Uncaught := by
  unfold getKind at h
  split at h
  case h_1 => cases h
  case h_2 => exact not_uncaught_msThrow h

/-- What is wrong with the options of a transport is a `MediaSoupError`. -/
theorem Transport.create_caught {env : Environment} {data : Value} {fault : Fault}
    (h : Transport.create env data = .error fault) : ¬ fault.Uncaught := by
  unfold Transport.create at h
  split at h
  case isTrue => exact not_uncaught_msThrow h
  case isFalse => cases h

/-! ## The handlers -/

namespace Peer

theorem SameMembers.refl (peer : Peer) : peer.SameMembers peer := ⟨rfl, fun _ => rfl, fun _ => rfl⟩

variable {peer : Peer}

/-- New transports do not change the members. -/
theorem sameMembers_transports (transports : Table UInt32 Transport) :
    peer.SameMembers { peer with transports } := ⟨rfl, fun _ => rfl, fun _ => rfl⟩

/-- A receiver is replaced by one with the same parameters. -/
theorem sameMembers_rtpReceiver {id : UInt32} {r r' : RtpReceiver}
    (hr : peer.rtpReceivers.find? id = some r) (hp : r'.rtpParameters = r.rtpParameters)
    (transports : Table UInt32 Transport) :
    peer.SameMembers
      { peer with transports, rtpReceivers := peer.rtpReceivers.insert id r' } where
  capabilities := rfl
  rtpParameters := fun id' => by
    rw [Table.find?_insert]
    split
    case isTrue h => rw [h, hr, Option.map_some, Option.map_some, hp]
    case isFalse => rfl
  rtpSenders := fun _ => rfl

/-- A sender is replaced. -/
theorem sameMembers_rtpSender {id : UInt32} {s s' : RtpSender}
    (hs : peer.rtpSenders.find? id = some s) :
    peer.SameMembers { peer with rtpSenders := peer.rtpSenders.insert id s' } where
  capabilities := rfl
  rtpParameters := fun _ => rfl
  rtpSenders := fun id' => by
    rw [Table.find?_insert]
    split
    case isTrue h => rw [h, hs]; rfl
    case isFalse => rfl

/-- A transport that closes leaves the receivers and the senders, without a transport. -/
theorem sameMembers_onTransportClosed (transportId : UInt32) :
    peer.SameMembers (peer.onTransportClosed transportId) where
  capabilities := rfl
  rtpParameters := fun id => by
    rw [onTransportClosed, Table.find?_mapValues, Option.map_map]
    congr 1
    funext r
    change (r.removeTransport transportId).rtpParameters = r.rtpParameters
    unfold RtpReceiver.removeTransport
    split <;> rfl
  rtpSenders := fun id => by rw [onTransportClosed, Table.find?_mapValues, Option.isSome_map]

/-- `AddRtpReceiver` changes a listener. -/
theorem sameMembers_addRtpReceiver (transportId rtpReceiverId : UInt32) (p : Option RtpParameters) :
    peer.SameMembers (peer.addRtpReceiver transportId rtpReceiverId p).1 := by
  unfold addRtpReceiver
  split
  case h_1 transport _ => exact sameMembers_transports _
  case h_2 => exact .refl peer

/-- `OnRtpReceiverParameters` changes a listener. -/
theorem sameMembers_onRtpReceiverParameters (rtpReceiverId : UInt32) (r : RtpReceiver)
    (p : RtpParameters) : peer.SameMembers (peer.onRtpReceiverParameters rtpReceiverId r p).1 := by
  unfold onRtpReceiverParameters
  dsimp only
  split
  · exact .refl peer
  · split
    · exact .refl peer
    · exact sameMembers_addRtpReceiver _ _ _

/-- A receiver with parameters is refused with a `MediaSoupError` only. -/
theorem addRtpReceiver_caught {transportId rtpReceiverId : UInt32} {p : RtpParameters} {fault : Fault}
    (h : (peer.addRtpReceiver transportId rtpReceiverId (some p)).2 = .error fault) :
    ¬ fault.Uncaught := by
  unfold addRtpReceiver at h
  split at h
  case h_1 t _ =>
    dsimp only [Transport.addRtpReceiver] at h
    split at h
    · exact not_uncaught_msThrow h
    · cases h
  case h_2 => cases h

/-- The receivers stay as they are. -/
theorem addRtpReceiver_rtpReceivers (peer : Peer) (transportId rtpReceiverId : UInt32)
    (p : Option RtpParameters) :
    (peer.addRtpReceiver transportId rtpReceiverId p).1.rtpReceivers = peer.rtpReceivers := by
  unfold addRtpReceiver
  split <;> rfl

/-- The receivers stay as they are, also the one with the new parameters. -/
theorem onRtpReceiverParameters_rtpReceivers (peer : Peer) (rtpReceiverId : UInt32) (r : RtpReceiver)
    (p : RtpParameters) :
    (peer.onRtpReceiverParameters rtpReceiverId r p).1.rtpReceivers = peer.rtpReceivers := by
  unfold onRtpReceiverParameters
  dsimp only
  split
  · rfl
  · split
    · rfl
    · exact addRtpReceiver_rtpReceivers _ _ _ _

/-- The parameters that a receiver gets are the given ones, reduced. -/
theorem onRtpReceiverParameters_ok {rtpReceiverId : UInt32} {r : RtpReceiver} {given p : RtpParameters}
    (h : (peer.onRtpReceiverParameters rtpReceiverId r given).2 = .ok p) :
    ∃ reduced, given.reduceCodecsAndEncodings (peer.capabilities.getD {}) = .ok reduced ∧
      p = reduced.reduceHeaderExtensions (peer.capabilities.getD {}).headerExtensions := by
  unfold onRtpReceiverParameters at h
  dsimp only at h
  split at h
  case h_1 => cases h
  case h_2 reduced hreduced =>
    refine ⟨reduced, hreduced, ?_⟩
    split at h
    case h_1 => exact (Except.ok.inj h).symm
    case h_2 transportId _ =>
      cases hadd : (peer.addRtpReceiver transportId rtpReceiverId (some (reduced.reduceHeaderExtensions
        (peer.capabilities.getD {}).headerExtensions))).2 with
      | error fault =>
          rw [hadd] at h
          cases h
      | ok =>
          rw [hadd] at h
          exact (Except.ok.inj h).symm

end Peer

/-- Creating a stream leaves the parameters of the receiver as they are. -/
theorem RtpReceiver.createRtpStream_rtpParameters (p : RtpParameters)
    (s : Table UInt32 Transport × RtpReceiver) (encoding : RtpEncodingParameters) :
    Ends (createRtpStream p s encoding) (fun s' => s'.2.rtpParameters = s.2.rtpParameters)
      fun _ => True := by
  have hrtx : ∀ r : RtpReceiver, Ends (r.createRtxStream p encoding)
      (fun r' => r'.rtpParameters = r.rtpParameters) fun _ => True := by
    intro r
    unfold createRtxStream
    split
    · refine (Ends.self _).mono (fun _ _ => trivial) (fun _ _ => trivial) |>.bind fun codec _ => ?_
      split <;> rfl
    · rfl
  unfold createRtpStream
  split
  · rfl
  · refine ((Ends.self _).mono (fun _ _ => trivial) fun _ _ => trivial).bind fun codec _ => ?_
    refine ((Ends.self _).mono (fun _ _ => trivial) fun _ _ => trivial).bind fun transports _ => ?_
    exact (hrtx _).bind fun r' hr' => hr'

/-- New streams keep the parameters of their receiver. -/
theorem Peer.sameMembers_createRtpStreams {peer peer' : Peer} {rtpReceiverId : UInt32}
    (h : peer.createRtpStreams rtpReceiverId = .ok peer') : peer.SameMembers peer' := by
  unfold Peer.createRtpStreams at h
  split at h
  case h_1 => cases h; exact .refl peer
  case h_2 r hr =>
    split at h
    case h_1 => cases h; exact .refl peer
    case h_2 p hp =>
      obtain ⟨s, hs, heq⟩ := Checked.bind_eq_ok.1 h
      cases heq
      have hkept : Ends (p.encodings.foldlM (RtpReceiver.createRtpStream p) (peer.transports, r))
          (fun s => s.2.rtpParameters = r.rtpParameters) fun _ => True := by
        refine Checked.ends_foldlM (fun s encoding _ hs => ?_) rfl
        exact (RtpReceiver.createRtpStream_rtpParameters p s encoding).mono
          (fun s' hs' => hs'.trans hs) fun _ h => h
      exact Peer.sameMembers_rtpReceiver hr (hkept.of_ok hs) s.1

namespace Room

variable {room : Room} {env : Environment} {request : Request}

/-- A change of one peer that keeps its members is a chain of one. -/
theorem chain_modifyPeer {peerId : UInt32} {peer : Peer} {f : Peer → Peer}
    (hpeer : room.peers.find? peerId = some peer) (h : peer.SameMembers (f peer)) :
    room.Chain (room.modifyPeer peerId f) := by
  refine .single (.members peerId f fun peer' hpeer' => ?_)
  obtain rfl := Option.some.inj (hpeer.symm.trans hpeer')
  exact h

/-- A transport that closes. -/
theorem chain_closeTransport (peerId transportId : UInt32) :
    room.Chain (room.closeTransport peerId transportId) :=
  .single (.members peerId _ fun _ _ => Peer.sameMembers_onTransportClosed transportId)

/-- Peers that close one after the other, by induction on their list. -/
theorem chain_closePeers (peerIds : List UInt32) : ∀ room : Room, room.Chain (peerIds.foldl closePeer room) := by
  induction peerIds with
  | nil => exact fun room => .refl
  | cons peerId peerIds ih => exact fun room => .head (.closePeer peerId) (ih _)

/-- The room is destroyed peer by peer. -/
theorem chain_destroy (room : Room) : room.Chain room.destroy := chain_closePeers _ room

/-- The receivers that are ready are those with parameters. -/
theorem mem_readyRtpReceivers {ref : Ref} {r : RtpReceiver} :
    (ref, r) ∈ room.readyRtpReceivers ↔ ∃ peer, room.peers.find? ref.1 = some peer ∧
      peer.rtpReceivers.find? ref.2 = some r ∧ r.rtpParameters.isSome = true := by
  unfold readyRtpReceivers
  rw [List.mem_flatMap]
  constructor
  · rintro ⟨e, hpeer, hmem⟩
    obtain ⟨e', hr, heq⟩ := List.mem_map.1 hmem
    obtain ⟨hr, hready⟩ := List.mem_filter.1 hr
    cases heq
    exact ⟨e.2, (Table.find?_eq_some _).2 hpeer, (Table.find?_eq_some _).2 hr, hready⟩
  · rintro ⟨peer, hpeer, hr, hready⟩
    refine ⟨(ref.1, peer), (Table.find?_eq_some _).1 hpeer, ?_⟩
    refine List.mem_map.2 ⟨(ref.2, r), List.mem_filter.2 ⟨?_, hready⟩, rfl⟩
    exact (Table.find?_eq_some _).1 hr

/-- After a peer is replaced, it is found. -/
theorem find?_modifyPeer {peerId : UInt32} {peer : Peer} {f : Peer → Peer}
    (hpeer : room.peers.find? peerId = some peer) :
    (room.modifyPeer peerId f).peers.find? peerId = some (f peer) := by
  rw [modifyPeer, Table.find?_modify, if_pos rfl, hpeer]
  rfl

/-- `room.setAudioLevelsEvent` does not answer if the event is enabled or disabled already. -/
theorem outcome_setAudioLevelsEvent (hmethod : request.method = .roomSetAudioLevelsEvent) :
    Outcome room env request (room.setAudioLevelsEvent request.data) := by
  unfold setAudioLevelsEvent
  split
  case isTrue => exact .reject .refl _
  case isFalse hbool =>
    split
    case isTrue hsame =>
      refine .unchanged hmethod ?_
      cases henabled : request.data.member "enabled" with
      | bool b =>
          rw [henabled] at hsame
          rw [← hsame]
          rfl
      | _ =>
          rw [henabled] at hbool
          exact absurd rfl hbool
    case isFalse => exact .accept (.single (.audioLevels _)) _

/-- `room.createPeer` accepts a new id with a name, and rejects everything else. -/
theorem outcome_createPeer : Outcome room env request (room.createPeer request) := by
  unfold createPeer
  refine .tryReject .refl (fun fault h huncaught => absurd huncaught (Request.idFrom_caught h)) ?_
  intro peerId _
  split
  case isTrue => exact .reject .refl _
  case isFalse hnew =>
    split
    case isTrue => exact .reject .refl _
    case isFalse => exact .accept (.single (.createPeer peerId _ (Option.not_isSome_iff_eq_none.1 hnew))) _

section
variable {peerId : UInt32} {peer : Peer}

/-- `peer.createTransport` is answered, whatever is wrong with the options. -/
theorem outcome_createTransport (hpeer : NamesPeer room request peerId peer) :
    Outcome room env request (room.createTransport env peerId peer request) := by
  unfold createTransport
  refine .tryReject .refl (fun fault h huncaught => absurd huncaught (Request.idFrom_caught h)) ?_
  intro transportId _
  split
  case isTrue => exact .reject .refl _
  case isFalse =>
    refine .tryReject .refl (fun fault h huncaught => absurd huncaught (Transport.create_caught h)) ?_
    intro t _
    exact .accept (chain_modifyPeer hpeer.peerFound (Peer.sameMembers_transports _)) _

/-- `peer.createRtpReceiver`, which throws where nobody catches if the kind is no text. -/
theorem outcome_createRtpReceiver (hmethod : request.method = .peerCreateRtpReceiver)
    (hpeer : NamesPeer room request peerId peer) :
    Outcome room env request (room.createRtpReceiver peerId peer request) := by
  unfold createRtpReceiver
  split
  case isTrue => exact .reject .refl _
  case isFalse hcapabilities =>
    have hsome : peer.capabilities.isSome = true := by
      rw [← Option.not_isNone, Bool.eq_false_iff.2 hcapabilities, Bool.not_false]
    refine .tryReject .refl (fun fault h huncaught => absurd huncaught (Request.idFrom_caught h)) ?_
    intro rtpReceiverId hid
    split
    case isTrue => exact .reject .refl _
    case isFalse hnew =>
      have hnew := Option.not_isSome_iff_eq_none.1 hnew
      refine .tryReject .refl (fun fault h huncaught => absurd huncaught (Request.idFrom_caught h)) ?_
      intro transportId htransportId
      split
      case isTrue => exact .reject .refl _
      case isFalse htransport =>
        obtain ⟨t, ht⟩ := Option.ne_none_iff_exists'.1 (mt Option.isNone_iff_eq_none.2 htransport)
        split
        case isTrue hkind =>
          exact .missingKind hmethod hpeer hsome (Request.idFrom_ok hid) hnew
            ⟨Request.idFrom_ok htransportId, ht⟩ (by rw [Bool.not_eq_true'] at hkind; exact hkind)
        case isFalse =>
          refine .tryReject .refl (fun fault h huncaught => absurd huncaught (getKind_caught h)) ?_
          intro kind _
          exact .accept (.single (.createRtpReceiver kind hpeer.peerFound hsome hnew)) _

/-- `peer.setCapabilities`, with the senders that it brings. -/
theorem outcome_setPeerCapabilities (hmethod : request.method = .peerSetCapabilities)
    (hpeer : NamesPeer room request peerId peer) :
    Outcome room env request (room.setPeerCapabilities env peerId peer request) := by
  unfold setPeerCapabilities
  split
  case isTrue => exact .reject .refl _
  case isFalse hcapabilities =>
    have hnone := Option.not_isSome_iff_eq_none.1 hcapabilities
    refine .tryReject .refl (fun fault h => .capabilitiesError hmethod hpeer hnone h) ?_
    intro capabilities hdata
    split
    case h_1 fault h => exact .onPeerCapabilities hmethod hpeer hnone hdata h
    case h_2 room' h => exact .accept (.single (.setCapabilities env hpeer.peerFound hnone hdata h)) _

/-- A request to a transport is rejected, or comes to the transport that it names. -/
theorem outcome_withTransport {handler : UInt32 → Transport → Handled}
    (h : ∀ transportId t, NamesTransport request peer transportId t →
      Outcome room env request (handler transportId t)) :
    Outcome room env request (room.withTransport peer request handler) := by
  unfold withTransport
  refine .tryReject .refl (fun fault h huncaught => absurd huncaught (Request.idFrom_caught h)) ?_
  intro transportId hid
  split
  case h_1 => exact .reject .refl _
  case h_2 t ht => exact h transportId t ⟨Request.idFrom_ok hid, ht⟩

/-- A request to a receiver is rejected, or comes to the receiver that it names. -/
theorem outcome_withRtpReceiver (hpeer : NamesPeer room request peerId peer)
    {handler : UInt32 → RtpReceiver → Handled}
    (h : ∀ id r, NamesRtpReceiver room request (peerId, id) peer r →
      Outcome room env request (handler id r)) :
    Outcome room env request (room.withRtpReceiver peer request handler) := by
  unfold withRtpReceiver
  refine .tryReject .refl (fun fault h huncaught => absurd huncaught (Request.idFrom_caught h)) ?_
  intro id hid
  split
  case h_1 => exact .reject .refl _
  case h_2 r hr => exact h id r ⟨hpeer, Request.idFrom_ok hid, hr⟩

/-- A request to a sender is rejected, or comes to the sender that it names. -/
theorem outcome_withRtpSender (hpeer : NamesPeer room request peerId peer)
    {handler : UInt32 → RtpSender → Handled}
    (h : ∀ id s, NamesRtpSender room request (peerId, id) peer s →
      Outcome room env request (handler id s)) :
    Outcome room env request (room.withRtpSender peer request handler) := by
  unfold withRtpSender
  refine .tryReject .refl (fun fault h huncaught => absurd huncaught (Request.idFrom_caught h)) ?_
  intro id hid
  split
  case h_1 => exact .reject .refl _
  case h_2 s hs => exact h id s ⟨hpeer, Request.idFrom_ok hid, hs⟩

/-- The end of `transport.setRemoteDtlsParameters`: a known algorithm, a value and a role, or a rejection. -/
theorem outcome_setRemoteDtlsParameters {room' : Room} (h : room.Chain room') :
    Outcome room env request (room'.setRemoteDtlsParameters request.data) := by
  unfold setRemoteDtlsParameters
  dsimp only
  split
  · exact .reject h _
  · split
    · exact .reject h _
    · split
      · exact .reject h _
      · have hrole : ∀ role : String, Outcome room env request
            (if role = "client" then room'.accept (.object [("role", .string "server")])
            else if role = "server" ∨ role = "auto" then
              room'.accept (.object [("role", .string "client")])
            else room'.reject "invalid data.role") := by
          intro role
          split
          · exact .accept h _
          · split
            · exact .accept h _
            · exact .reject h _
        exact hrole _

/-- The requests to a transport. -/
theorem outcome_handleTransportRequest {transportId : UInt32} {t : Transport}
    (hpeer : NamesPeer room request peerId peer) :
    Outcome room env request (room.handleTransportRequest env peerId transportId t request) := by
  have hset : ∀ t : Transport, room.Chain (room.modifyPeer peerId fun peer =>
      { peer with transports := peer.transports.insert transportId t }) :=
    fun t => chain_modifyPeer hpeer.peerFound (Peer.sameMembers_transports _)
  unfold handleTransportRequest
  dsimp only
  split
  case h_1 => exact .accept (chain_closeTransport _ _) _
  case h_2 => exact .accept .refl _
  case h_3 =>
    split
    · exact .reject .refl _
    · exact outcome_setRemoteDtlsParameters (hset _)
  case h_4 =>
    split
    · exact .reject .refl _
    · exact .accept (hset _) _
  case h_5 => exact .accept .refl _
  case h_6 => exact .reject .refl _

end

section
variable {ref : Ref} {peer : Peer} {r : RtpReceiver}

/-- The two methods that set a flag of a receiver. -/
theorem outcome_setRtpEvent (hr : NamesRtpReceiver room request ref peer r)
    {set : Bool → RtpReceiver} (hset : ∀ enabled, (set enabled).rtpParameters = r.rtpParameters) :
    Outcome room env request (room.setRtpEvent ref request.data set) := by
  unfold setRtpEvent
  split
  case isTrue => exact .reject .refl _
  case isFalse =>
    exact .accept (chain_modifyPeer hr.peerFound
      (Peer.sameMembers_rtpReceiver hr.receiverFound (hset _) peer.transports)) _

/-- The streams of a receiver are created. -/
theorem chain_createRtpStreams {room' : Room} (h : room.createRtpStreams ref = .ok room') :
    room.Chain room' := by
  unfold createRtpStreams at h
  split at h
  case h_1 => cases h; exact .refl
  case h_2 peer hpeer =>
    obtain ⟨peer', hpeer', heq⟩ := Checked.bind_eq_ok.1 h
    cases heq
    exact chain_modifyPeer hpeer (Peer.sameMembers_createRtpStreams hpeer')

/-- Receiving: what comes before the parameters are stored, the parameters in the room, and the
streams, one after the other. -/
theorem outcome_receive (hmethod : request.method = .rtpReceiverReceive)
    (hr : NamesRtpReceiver room request ref peer r) :
    Outcome room env request (room.receive env ref peer r request.data) := by
  unfold receive
  refine .tryReject .refl (fun fault h => .parametersError hmethod hr h) ?_
  intro given hdata
  have hchain : room.Chain (room.modifyPeer ref.1 fun _ =>
      (peer.onRtpReceiverParameters ref.2 r given).1) :=
    chain_modifyPeer hr.peerFound (Peer.sameMembers_onRtpReceiverParameters _ _ _)
  refine .tryReject hchain (fun fault h => .reduceError hmethod hr hdata h) ?_
  intro p hp
  obtain ⟨reduced, hreduced, heq⟩ := Peer.onRtpReceiverParameters_ok hp
  generalize hroom : room.modifyPeer ref.1 (fun _ =>
    (peer.onRtpReceiverParameters ref.2 r given).1) = room₁
  cases hdone : (room₁.setParameters ref r p).onRtpReceiverParametersDone env ref
      { r.clearRtpStreams with rtpParameters := some p } with
  | error fault => exact .parametersDone hmethod hr hdata hp hroom.symm hdone
  | ok room' =>
      obtain ⟨room₂, hroom₂, hstreams⟩ := Checked.bind_eq_ok.1 hdone
      have hpeer : room₁.peers.find? ref.1 = some (peer.onRtpReceiverParameters ref.2 r given).1 := by
        rw [← hroom]
        exact find?_modifyPeer hr.peerFound
      have hfound : (peer.onRtpReceiverParameters ref.2 r given).1.rtpReceivers.find? ref.2 = some r := by
        rw [Peer.onRtpReceiverParameters_rtpReceivers]
        exact hr.receiverFound
      have hsupported : (peer.onRtpReceiverParameters ref.2 r given).1.Supported p := by
        refine ⟨request.data, given, reduced, hdata, ?_⟩
        rw [(Peer.sameMembers_onRtpReceiverParameters ref.2 r given).capabilities]
        exact ⟨hreduced, heq⟩
      have hchange : room₁.Chain room₂ := .single (.receive env hpeer hfound hsupported hroom₂)
      rw [hroom] at hchain
      exact .answered _ ((hchain.trans hchange).trans (chain_createRtpStreams hstreams))

/-- `rtpReceiver.setTransport`, with a receiver that has parameters and with one that has none. -/
theorem outcome_setRtpReceiverTransport {transportId : UInt32} {t : Transport}
    (hmethod : request.method = .rtpReceiverSetTransport)
    (hr : NamesRtpReceiver room request ref peer r) (ht : NamesTransport request peer transportId t) :
    Outcome room env request (room.setRtpReceiverTransport ref peer r transportId) := by
  have hchain : room.Chain (room.modifyPeer ref.1 fun _ =>
      (peer.addRtpReceiver transportId ref.2 r.rtpParameters).1) :=
    chain_modifyPeer hr.peerFound (Peer.sameMembers_addRtpReceiver _ _ _)
  have hpeer := find?_modifyPeer
    (f := fun _ => (peer.addRtpReceiver transportId ref.2 r.rtpParameters).1) hr.peerFound
  have hfound : (peer.addRtpReceiver transportId ref.2 r.rtpParameters).1.rtpReceivers.find? ref.2 =
      some r := by
    rw [Peer.addRtpReceiver_rtpReceivers]
    exact hr.receiverFound
  unfold setRtpReceiverTransport
  refine .tryReject hchain (fun fault h huncaught => ?_) ?_
  · cases hp : r.rtpParameters with
    | none =>
        rw [hp, Peer.addRtpReceiver, ht.found] at h
        cases h
        exact .setTransport hmethod hr ht hp
    | some p => exact absurd huncaught (Peer.addRtpReceiver_caught (hp ▸ h))
  · intro _ _
    have hmoved : { r with transport := some transportId }.rtpParameters = r.rtpParameters := rfl
    exact .accept (hchain.trans (chain_modifyPeer hpeer (Peer.sameMembers_rtpReceiver hfound hmoved _))) _

/-- The requests to a receiver. -/
theorem outcome_handleRtpReceiverRequest (hr : NamesRtpReceiver room request ref peer r) :
    Outcome room env request (room.handleRtpReceiverRequest env ref peer r request) := by
  unfold handleRtpReceiverRequest
  split
  case h_1 => exact .accept (.single (.closeRtpReceiver ref)) _
  case h_2 => exact .accept .refl _
  case h_3 hmethod => exact outcome_receive hmethod hr
  case h_4 => exact outcome_setRtpEvent hr fun _ => rfl
  case h_5 => exact outcome_setRtpEvent hr fun _ => rfl
  case h_6 => exact .reject .refl _

/-- `rtpSender.disable`, which fails if the room has no receiver for the sender and a full frame is needed. -/
theorem outcome_disable {s : RtpSender} (hmethod : request.method = .rtpSenderDisable)
    (hs : NamesRtpSender room request ref peer s) :
    Outcome room env request (room.disable ref s request.data) := by
  unfold disable
  split
  · exact .reject .refl _
  · dsimp only
    split
    · exact .accept .refl _
    · split
      case isTrue hmap => exact .disable hmethod hs hmap.2.2
      case isFalse =>
        exact .accept (chain_modifyPeer hs.peerFound (Peer.sameMembers_rtpSender hs.senderFound)) _

/-- The requests to a peer and to what it has. -/
theorem outcome_handlePeerRequest {peerId : UInt32} (hpeer : NamesPeer room request peerId peer) :
    Outcome room env request (room.handlePeerRequest env peerId peer request) := by
  unfold handlePeerRequest
  split
  case h_1 => exact .accept (.single (.closePeer peerId)) _
  case h_2 => exact .accept .refl _
  case h_3 hmethod => exact outcome_setPeerCapabilities hmethod hpeer
  case h_4 => exact outcome_createTransport hpeer
  case h_5 hmethod => exact outcome_createRtpReceiver hmethod hpeer
  case h_6 | h_7 | h_8 | h_9 | h_10 =>
    exact outcome_withTransport fun transportId t _ => outcome_handleTransportRequest hpeer
  case h_11 | h_12 | h_13 | h_14 | h_15 =>
    exact outcome_withRtpReceiver hpeer fun id r hr => outcome_handleRtpReceiverRequest hr
  case h_16 hmethod =>
    exact outcome_withRtpReceiver hpeer fun id r hr =>
      outcome_withTransport fun transportId t ht => outcome_setRtpReceiverTransport hmethod hr ht
  case h_17 => exact outcome_withRtpSender hpeer fun id s _ => .accept .refl _
  case h_18 =>
    exact outcome_withRtpSender hpeer fun id s hs => outcome_withTransport fun transportId t _ =>
      .accept (chain_modifyPeer hpeer.peerFound (Peer.sameMembers_rtpSender hs.senderFound)) _
  case h_19 hmethod =>
    exact outcome_withRtpSender hpeer fun id s hs => outcome_disable hmethod hs
  case h_20 => exact .reject .refl _

/-- **Everything that a request can do.** -/
theorem outcome_handleRequest (room : Room) (env : Environment) (request : Request) :
    Outcome room env request (room.handleRequest env request) := by
  unfold handleRequest
  split
  case h_1 => exact .accept (chain_destroy room) _
  case h_2 => exact .accept .refl _
  case h_3 => exact outcome_createPeer
  case h_4 hmethod => exact outcome_setAudioLevelsEvent hmethod
  case h_5 | h_6 | h_7 => exact .reject .refl _
  case h_8 =>
    refine .tryReject .refl (fun fault h huncaught => absurd huncaught (Request.idFrom_caught h)) ?_
    intro peerId hid
    split
    case h_1 => exact .reject .refl _
    case h_2 peer hpeer => exact outcome_handlePeerRequest ⟨Request.idFrom_ok hid, hpeer⟩

end

/-! ## Requests that name what there is -/

/-- A check that passes comes to the handler. -/
theorem tryReject_ok {α : Type} (a : α) (handler : α → Handled) :
    room.tryReject (.ok a) handler = handler a := rfl

/-- An id that is there comes to the handler. -/
theorem tryReject_idFrom {key what : String} {id : UInt32} (h : request.id? key = some id)
    (handler : UInt32 → Handled) :
    room.tryReject (request.idFrom key what) handler = handler id := by
  rw [Request.idFrom_of_id? h, tryReject_ok]

section
variable {peerId : UInt32} {peer : Peer} {ref : Ref} {r : RtpReceiver}

/-- A request that names a peer is passed to it. -/
theorem handleRequest_peer (hpeer : NamesPeer room request peerId peer)
    (hmethod : request.method = .peerSetCapabilities ∨ request.method = .peerCreateRtpReceiver ∨
      request.method = .rtpReceiverReceive ∨ request.method = .rtpReceiverSetTransport) :
    room.handleRequest env request = room.handlePeerRequest env peerId peer request := by
  unfold handleRequest
  rcases hmethod with h | h | h | h
  all_goals
    rw [h]
    refine (tryReject_idFrom hpeer.peerNamed _).trans ?_
    rw [hpeer.peerFound]

/-- A request to a receiver that it names comes to the handler. -/
theorem withRtpReceiver_eq (hr : NamesRtpReceiver room request ref peer r)
    (handler : UInt32 → RtpReceiver → Handled) :
    room.withRtpReceiver peer request handler = handler ref.2 r := by
  rw [withRtpReceiver, tryReject_idFrom hr.receiverNamed, hr.receiverFound]

/-- A request to a transport that it names comes to the handler. -/
theorem withTransport_eq {transportId : UInt32} {t : Transport}
    (ht : NamesTransport request peer transportId t) (handler : UInt32 → Transport → Handled) :
    room.withTransport peer request handler = handler transportId t := by
  rw [withTransport, tryReject_idFrom ht.named, ht.found]

end

/-- Every step of a room is a chain of changes. -/
theorem chain_step {room room' : Room} {e : RoomEvent} (h : room.step e = some room') :
    room.Chain room' := by
  cases e with
  | request env request =>
      have houtcome := outcome_handleRequest room env request
      have hok : (room.handleRequest env request).2 = .ok room' := by
        change (room.handleRequest env request).2.toOption = some room' at h
        cases hresult : (room.handleRequest env request).2 with
        | error fault => rw [hresult] at h; cases h
        | ok room₁ => rw [hresult] at h; cases h; rfl
      cases houtcome' : room.handleRequest env request with
      | mk responses result =>
          rw [houtcome'] at houtcome hok
          obtain rfl : result = .ok room' := hok
          cases houtcome with
          | answered response h => exact h
          | unchanged => exact .refl
  | transportClosed peerId transportId =>
      cases h
      exact chain_closeTransport peerId transportId
  | rtpPacket peerId transportId ssrc payloadType =>
      cases h
      exact .single (.members peerId _ fun peer _ => Peer.sameMembers_transports _)

/-- **The invariant rule for rooms.** What every change keeps holds after every run. -/
theorem exec_inv_of_change {I : Room → Prop}
    (hstep : ∀ room room', I room → room.Change room' → I room') {room room' : Room}
    {events : List RoomEvent} (h : Machine.exec step room events = some room') (h0 : I room) :
    I room' :=
  Machine.exec_inv (fun _ _ _ hI hs => (chain_step hs).inv hstep hI) h h0

end Room

end KoreWebsocket.Rtc
