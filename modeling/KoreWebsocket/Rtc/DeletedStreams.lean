import KoreWebsocket.Rtc.Attached

/-!
# Deleted streams in the RTX tables (`RtpReceiver::ClearRtpStreams`, `mediasoup_1/soup`)

New parameters delete the streams of a receiver, and `rtxStreamMap` keeps pointing to those that had an RTX
SSRC (`ReceiverStreams.liveRtx_iff` is about one receiver). In a room no receiver has such a pointer as
long as new parameters are accepted only for receivers without RTX (`noneDeleted_of_exec`).
-/

namespace KoreWebsocket.Rtc

/-- No receiver of the peer points to a deleted stream. -/
def Peer.NoneDeleted (peer : Peer) : Prop :=
  ∀ id r, peer.rtpReceivers.find? id = some r → r.deletedRtx = []

/-- Creating streams deletes none. -/
theorem RtpReceiver.createRtpStream_deletedRtx {p : RtpParameters}
    {s s' : Table UInt32 Transport × RtpReceiver} {encoding : RtpEncodingParameters}
    (h : RtpReceiver.createRtpStream p s encoding = .ok s') :
    s'.2.deletedRtx = s.2.deletedRtx := by
  have hrtx : ∀ r r' : RtpReceiver, r.createRtxStream p encoding = .ok r' →
      r'.deletedRtx = r.deletedRtx := by
    intro r r' h
    unfold RtpReceiver.createRtxStream at h
    split at h
    case isTrue =>
      obtain ⟨codec, -, h⟩ := Checked.bind_eq_ok.1 h
      split at h <;> cases h <;> rfl
    case isFalse =>
      cases h
      rfl
  unfold RtpReceiver.createRtpStream at h
  split at h
  case isTrue =>
    cases h
    rfl
  case isFalse =>
    obtain ⟨codec, -, h⟩ := Checked.bind_eq_ok.1 h
    obtain ⟨transports, -, h⟩ := Checked.bind_eq_ok.1 h
    obtain ⟨r', hr', h⟩ := Checked.bind_eq_ok.1 h
    have hsame := hrtx _ _ hr'
    cases h
    exact hsame

namespace Peer

variable {peer peer' : Peer}

/-- A receiver without deleted streams is put in. -/
theorem NoneDeleted.insert (h : peer.NoneDeleted) {id : UInt32} {r : RtpReceiver} (hr : r.deletedRtx = [])
    (heq : peer'.rtpReceivers = peer.rtpReceivers.insert id r) : peer'.NoneDeleted := by
  intro id' r' hfind
  rw [heq, Table.find?_insert] at hfind
  split at hfind
  case isTrue =>
    cases hfind
    exact hr
  case isFalse => exact h id' r' hfind

/-- The receivers are the same. -/
theorem NoneDeleted.of_eq (h : peer.NoneDeleted) (heq : peer'.rtpReceivers = peer.rtpReceivers) :
    peer'.NoneDeleted := by
  unfold NoneDeleted
  rw [heq]
  exact h

/-- The streams of a receiver are created. -/
theorem NoneDeleted.createRtpStreams (h : peer.NoneDeleted) {id : UInt32}
    (hok : peer.createRtpStreams id = .ok peer') : peer'.NoneDeleted := by
  unfold Peer.createRtpStreams at hok
  split at hok
  case h_1 =>
    cases hok
    exact h
  case h_2 r hr =>
    split at hok
    case h_1 =>
      cases hok
      exact h
    case h_2 p _ =>
      obtain ⟨⟨transports, r'⟩, hs, heq⟩ := Checked.bind_eq_ok.1 hok
      cases heq
      refine h.insert (r := r') ?_ rfl
      exact Checked.foldlM_inv (I := fun s => s.2.deletedRtx = [])
        (fun _ _ _ hnone hcreate => (RtpReceiver.createRtpStream_deletedRtx hcreate).trans hnone) hs
        (h id r hr)

/-- **The step lemma for a change inside a peer.** -/
theorem NoneDeleted.edit (h : peer.NoneDeleted) (hedit : peer.Edit peer') : peer'.NoneDeleted := by
  cases hedit with
  | createTransport | setTransport | attachRtpSender | disableRtpSender | rtpPacket => exact h.of_eq rfl
  | closeTransport transportId =>
      intro id r hfind
      rw [Peer.onTransportClosed, Table.find?_mapValues] at hfind
      obtain ⟨r₀, hr₀, rfl⟩ := Option.map_eq_some_iff.1 hfind
      unfold RtpReceiver.removeTransport
      split <;> exact h id r₀ hr₀
  | addRtpReceiver p => exact h.of_eq (Peer.addRtpReceiver_rtpReceivers _ _ _ _)
  | @attachRtpReceiver transportId id r hasRemb hr ht =>
      exact h.insert (r := { r with transport := some transportId }) (h id r hr) rfl
  | @setRtpEvent id r r' hr htransport hp hstreams hdeleted =>
      exact h.insert (hdeleted.trans (h id r hr)) rfl
  | createRtpStreams hok => exact h.createRtpStreams hok

end Peer

namespace Room

variable {room room' : Room} {env : Environment} {receives : RtpReceiver → Prop}

/-- No receiver of the room points to a deleted stream. -/
def NoneDeleted (room : Room) : Prop :=
  ∀ peerId peer, room.peers.find? peerId = some peer → peer.NoneDeleted

/-- New parameters are accepted only for a receiver that has no stream with an RTX SSRC. -/
def NoRtxBefore (room : Room) (e : RoomEvent) : Prop := ∀ r, room.Receives e r → r.rtxStreamMap = []

theorem NoneDeleted.of_peers (h : room.NoneDeleted) (heq : room'.peers = room.peers) :
    room'.NoneDeleted := by
  unfold NoneDeleted
  rw [heq]
  exact h

/-- One peer is changed: it is enough that this one has no deleted stream. -/
theorem NoneDeleted.modifyPeer (h : room.NoneDeleted) {peerId : UInt32} {f : Peer → Peer}
    (hf : ∀ peer, room.peers.find? peerId = some peer → (f peer).NoneDeleted) :
    (room.modifyPeer peerId f).NoneDeleted := by
  intro peerId' peer' hpeer'
  rw [Room.modifyPeer, Table.find?_modify] at hpeer'
  split at hpeer'
  case isTrue heq =>
    obtain ⟨peer, hpeer, rfl⟩ := Option.map_eq_some_iff.1 hpeer'
    exact hf peer (heq ▸ hpeer)
  case isFalse => exact h peerId' peer' hpeer'

/-- A change of the senders leaves the streams alone. -/
theorem NoneDeleted.onlySenders (h : room.NoneDeleted) (hsame : room.OnlySenders room') :
    room'.NoneDeleted := by
  intro peerId peer' hpeer'
  have heq := hsame.peers peerId
  rw [hpeer', Option.map_some] at heq
  obtain ⟨peer, hpeer, hmembers⟩ := Option.map_eq_some_iff.1 heq.symm
  exact (h peerId peer hpeer).of_eq (congrArg Peer.rtpReceivers hmembers).symm

/-- A receiver goes with its streams. -/
theorem NoneDeleted.closeRtpReceiver (h : room.NoneDeleted) (ref : Ref) :
    (room.closeRtpReceiver ref).NoneDeleted := by
  have hclosed : (room.modifyPeer ref.1 fun peer => peer.onRtpReceiverClosed ref.2).NoneDeleted := by
    refine h.modifyPeer fun peer hpeer id r hfind => ?_
    rw [Peer.onRtpReceiverClosed, Table.find?_erase] at hfind
    split at hfind
    case isTrue => cases hfind
    case isFalse => exact h ref.1 peer hpeer id r hfind
  unfold Room.closeRtpReceiver onPeerRtpReceiverClosed
  split
  case h_1 => exact hclosed
  case h_2 senders _ => exact (hclosed.onlySenders (onlySenders_closeRtpSenders senders _)).of_peers rfl

/-- A peer goes with its receivers. -/
theorem NoneDeleted.closePeer (h : room.NoneDeleted) (peerId : UInt32) :
    (room.closePeer peerId).NoneDeleted := by
  unfold Room.closePeer
  dsimp only
  have hreceivers := List.foldlRecOn (room.rtpReceiversOf peerId) Room.closeRtpReceiver h
    fun _ h ref _ => h.closeRtpReceiver ref
  generalize (room.rtpReceiversOf peerId).foldl Room.closeRtpReceiver room = room₁ at hreceivers
  have hsenders := hreceivers.onlySenders (onlySenders_closeRtpSenders (room₁.rtpSendersOf peerId) room₁)
  generalize (room₁.rtpSendersOf peerId).foldl closeRtpSender room₁ = room₂ at hsenders
  have htransports := List.foldlRecOn (room₂.transportsOf peerId)
    (fun room id => room.closeTransport peerId id) hsenders fun _ h id _ =>
      h.modifyPeer fun peer hpeer => (h peerId peer hpeer).edit (.closeTransport id)
  intro peerId' peer hpeer
  rw [Table.find?_erase] at hpeer
  split at hpeer
  case isTrue => cases hpeer
  case isFalse => exact htransports peerId' peer hpeer

/-- **Receiving.** A receiver without RTX has nothing in its table that could be deleted. -/
theorem NoneDeleted.receive (h : room.NoneDeleted) {ref : Ref} {peer : Peer} {r : RtpReceiver}
    (hpeer : room.peers.find? ref.1 = some peer) (hrtx : r.rtxStreamMap = []) (given p : RtpParameters) :
    ((room.modifyPeer ref.1 fun _ =>
      (peer.onRtpReceiverParameters ref.2 r given).1).setParameters ref r p).NoneDeleted := by
  have hadded : (room.modifyPeer ref.1 fun _ =>
      (peer.onRtpReceiverParameters ref.2 r given).1).NoneDeleted := by
    refine h.modifyPeer fun _ _ => (h ref.1 peer hpeer).of_eq ?_
    exact Peer.onRtpReceiverParameters_rtpReceivers _ _ _ _
  refine hadded.modifyPeer fun peer' hpeer' => ?_
  exact (hadded ref.1 peer' hpeer').insert
    (r := { r.clearRtpStreams with rtpParameters := some p }) hrtx rfl

end Room

end KoreWebsocket.Rtc
