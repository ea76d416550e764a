import KoreWebsocket.Rtc.DeletedStreams
import KoreWebsocket.Rtc.Feeds

/-!
# The way of an RTP packet (`mediasoup_1/soup`)

A packet that a transport has decrypted is looked up in the listener (`Transport::OnRtpDataRecv`), is
taken by a stream of the receiver (`RtpReceiver::ReceiveRtpPacket`), and goes to all the senders of the
receiver (`Room::OnPeerRtpPacket`, `RtpSender::SendRtpPacket`). On the way the code asserts that the room
has an entry for the receiver and that an active sender has a stream, and follows pointers to receivers,
streams, senders and transports. One of these goes wrong: an RTX packet may meet a stream that new
parameters have deleted (`FindsDeletedRtx`). In every run nothing else does, and the packet goes to those
who should get it.
-/

namespace KoreWebsocket.Rtc

/-- What would end the worker on the way of a packet: an assertion, or a pointer to nothing. -/
inductive MediaFault
  /-- `MS_ASSERT`: "RtpReceiver not present in the map". -/
  | rtpReceiverNotInMap
  /-- `MS_ASSERT`: "RtpSender not present in the map". -/
  | rtpSenderNotInMap
  /-- `MS_ASSERT`: "no RtpStream set". -/
  | noRtpStream
  /-- `rtpParameters->encodings[0]` where there is none. -/
  | noEncoding
  /-- A receiver that is closed, or that has no parameters. -/
  | rtpReceiver
  /-- A stream that is deleted. -/
  | rtpStream
  /-- A sender that is closed. -/
  | rtpSender
  /-- A transport that is closed. -/
  | transport
  deriving DecidableEq

/-- What the streams say to packets: whether the stream of a receiver accepts one, what it makes of an
RTX packet that it accepts, and whether the stream of a sender accepts one. They may have any state. -/
structure Streams where
  receivePacket : Ref → (ssrc : UInt32) → (payloadType : UInt8) → Bool
  receiveRtxPacket : Ref → (ssrc : UInt32) → (payloadType : UInt8) → Option (UInt32 × UInt8)
  sendPacket : Ref → (ssrc : UInt32) → (payloadType : UInt8) → Bool

/-- Streams that accept every packet, without RTX. -/
def takeAll : Streams where
  receivePacket := fun _ _ _ => true
  receiveRtxPacket := fun _ _ _ => none
  sendPacket := fun _ _ _ => true

/-- `RtpSender::SendRtpPacket`: the transport that the packet is sent to, unless it is ignored. -/
def RtpSender.sendRtpPacket (s : RtpSender) (accepts : Bool) (ssrc : UInt32) (payloadType : UInt8) :
    Except MediaFault (Option UInt32) :=
  if !s.getActive then .ok none
  else if !s.hasRtpStream then .error .noRtpStream
  else
    match (s.rtpParameters.getD {}).encodings with
    | [] => .error .noEncoding
    | encoding :: _ =>
        if ssrc ≠ encoding.ssrc then .ok none
        else if payloadType ∉ s.supportedPayloadTypes then .ok none
        else if !accepts then .ok none
        else .ok s.transport

namespace Peer

variable (peer : Peer)

/-- A receiver of the peer, which the listener leads to. -/
def useRtpReceiver (rtpReceiverId : UInt32) : Except MediaFault RtpReceiver :=
  match peer.rtpReceivers.find? rtpReceiverId with
  | none => .error .rtpReceiver
  | some r => .ok r

/-- `RtpListener::GetRtpReceiver` reads the parameters of the receiver that has the SSRC. -/
def checkParameters (l : RtpListener) (ssrc : UInt32) : Except MediaFault Unit :=
  match l.ssrcTable.find? ssrc with
  | none => .ok ()
  | some rtpReceiver => do
      let r ← peer.useRtpReceiver (UInt32.ofNat rtpReceiver)
      if r.rtpParameters.isSome then .ok () else .error .rtpReceiver

end Peer

namespace Room

variable (room : Room) (streams : Streams)

/-- A transport of a peer, which a pointer leads to. -/
def useTransport (peerId transportId : UInt32) : Except MediaFault UInt32 :=
  if ((room.peers.find? peerId).bind (·.transports.find? transportId)).isSome then .ok transportId
  else .error .transport

/-- One round of the loop in `Room::OnPeerRtpPacket`: the transport that the packet is sent to. -/
def sendRtpPacket (ssrc : UInt32) (payloadType : UInt8) (s : Ref) :
    Except MediaFault (Option UInt32) :=
  match room.rtpSender? s with
  | none => .error .rtpSender
  | some sender => do
      match ← sender.sendRtpPacket (streams.sendPacket s ssrc payloadType) ssrc payloadType with
      | none => return none
      | some transportId => return some (← room.useTransport s.1 transportId)

/-- The loop in `Room::OnPeerRtpPacket`: the senders that send the packet, with their transports. -/
def sendRtpPackets (ssrc : UInt32) (payloadType : UInt8) :
    List Ref → Except MediaFault (List (Ref × UInt32))
  | [] => .ok []
  | s :: rtpSenders => do
      let sent ← room.sendRtpPacket streams ssrc payloadType s
      let rest ← sendRtpPackets ssrc payloadType rtpSenders
      match sent with
      | some transportId => return (s, transportId) :: rest
      | none => return rest

/-- `Room::OnPeerRtpPacket`, apart from the audio levels. -/
def onPeerRtpPacket (ref : Ref) (ssrc : UInt32) (payloadType : UInt8) :
    Except MediaFault (List (Ref × UInt32)) :=
  match room.mapRtpReceiverRtpSenders.find? ref with
  | none => .error .rtpReceiverNotInMap
  | some rtpSenders => room.sendRtpPackets streams ssrc payloadType rtpSenders

/-- `RtpReceiver::ReceiveRtpPacket`: the packet that is passed on to the room. -/
def receiveRtpPacket (ref : Ref) (r : RtpReceiver) (ssrc : UInt32) (payloadType : UInt8) :
    Except MediaFault (Option (UInt32 × UInt8)) :=
  if ssrc ∈ r.rtpStreams then
    .ok (if streams.receivePacket ref ssrc payloadType then some (ssrc, payloadType) else none)
  else if ssrc ∈ r.rtxStreamMap then
    if ssrc ∈ r.deletedRtx then .error .rtpStream
    else .ok (streams.receiveRtxPacket ref ssrc payloadType)
  else .ok none

/-- `Transport::OnRtpDataRecv`, once the packet is parsed: the receiver that it is for, and what this
passes on. What the listener learns is in `Peer.onRtpPacket`. -/
def receive? (peerId transportId ssrc : UInt32) (payloadType : UInt8) :
    Except MediaFault (Option (Ref × UInt32 × UInt8)) :=
  match room.peers.find? peerId with
  | none => .ok none
  | some peer =>
      match peer.transports.find? transportId with
      | none => .ok none
      | some t => do
          peer.checkParameters t.rtpListener ssrc
          match (t.rtpListener.getRtpReceiver peer.payloadTypesOf ssrc payloadType).1 with
          | none => return none
          | some rtpReceiver =>
              let ref := (peerId, UInt32.ofNat rtpReceiver)
              let r ← peer.useRtpReceiver ref.2
              let passed? ← receiveRtpPacket streams ref r ssrc payloadType
              return passed?.map fun passed => (ref, passed)

/-- The whole way of a packet: the senders that send it, with their transports. -/
def onRtpDataRecv (peerId transportId ssrc : UInt32) (payloadType : UInt8) :
    Except MediaFault (List (Ref × UInt32)) := do
  match ← room.receive? streams peerId transportId ssrc payloadType with
  | none => return []
  | some (ref, ssrc, payloadType) => room.onPeerRtpPacket streams ref ssrc payloadType

end Room

/-- A packet of a peer is for an RTX stream that is deleted: the listener leads to a receiver that has the
SSRC in `rtxStreamMap` only, from parameters that it had before. -/
inductive Room.FindsDeletedRtx (room : Room) (peerId transportId ssrc : UInt32) (payloadType : UInt8) : Prop
  | intro {peer : Peer} {t : Transport} {n : Nat} {r : RtpReceiver}
      (hpeer : room.peers.find? peerId = some peer) (ht : peer.transports.find? transportId = some t)
      (hlisted : (t.rtpListener.getRtpReceiver peer.payloadTypesOf ssrc payloadType).1 = some n)
      (hr : peer.rtpReceivers.find? (UInt32.ofNat n) = some r)
      (hdeleted : ssrc ∉ r.rtpStreams ∧ ssrc ∈ r.rtxStreamMap ∧ ssrc ∈ r.deletedRtx) :
      FindsDeletedRtx room peerId transportId ssrc payloadType

/-- The sender `s` sends the packets of a receiver with this SSRC and payload type to a transport: it is
fed by the receiver and not disabled, the SSRC is that of the receiver's first encoding, and its stream
accepts them. -/
structure Room.Sends (room : Room) (streams : Streams) (ref : Ref) (ssrc : UInt32) (payloadType : UInt8)
    (s : Ref) (transportId : UInt32) : Prop where
  fed : room.mapRtpSenderRtpReceiver.find? s = some ref
  active : ∃ sender, room.rtpSender? s = some sender ∧ sender.disabled = false ∧
    sender.transport = some transportId ∧ payloadType ∈ sender.supportedPayloadTypes
  encoding : ∃ p encoding, room.media.rtpParameters ref = some p ∧
    p.encodings.head? = some encoding ∧ encoding.ssrc = ssrc
  accepts : streams.sendPacket s ssrc payloadType = true

/-- What a listener leads to can be used. -/
theorem Peer.Ready.useRtpReceiver {peer : Peer} {n : Nat} (h : peer.Ready n) :
    ∃ r, peer.useRtpReceiver (UInt32.ofNat n) = .ok r ∧ r.rtpParameters.isSome = true := by
  obtain ⟨id, r, rfl, hr, hparameters⟩ := h
  exact ⟨r, by rw [UInt32.ofNat_toNat, Peer.useRtpReceiver, hr], hparameters⟩

/-- A ready receiver of a peer is one of the room. -/
theorem Peer.Ready.view_ready {room : Room} {peerId : UInt32} {peer : Peer} {n : Nat} (h : peer.Ready n)
    (hpeer : room.peers.find? peerId = some peer) : room.view.ready (peerId, UInt32.ofNat n) = true := by
  obtain ⟨id, r, rfl, hr, hparameters⟩ := h
  rw [Room.view_ready, hpeer, Option.any_some, UInt32.ofNat_toNat, hr]
  exact hparameters

namespace RtpSender

variable {s : RtpSender} {p : RtpParameters}

/-- **A sender that carries the parameters of its receiver** ends with no fault, and sends what it
should. -/
theorem Carries.sendRtpPacket (h : s.Carries p) (accepts : Bool) (ssrc : UInt32) (payloadType : UInt8) :
    ∃ sent, s.sendRtpPacket accepts ssrc payloadType = .ok sent ∧ ∀ transportId,
      sent = some transportId ↔ s.disabled = false ∧ s.transport = some transportId ∧
        (∃ encoding, p.encodings.head? = some encoding ∧ encoding.ssrc = ssrc) ∧
        payloadType ∈ s.supportedPayloadTypes ∧ accepts = true := by
  obtain ⟨q, hq, -, hencodings, -, hstream, havailable⟩ := h
  unfold RtpSender.sendRtpPacket getActive
  rw [hq, Option.getD_some, hencodings, hstream, havailable]
  cases p.encodings with
  | nil => exact ⟨none, rfl, fun _ => ⟨nofun, fun h => nomatch h.2.2.1⟩⟩
  | cons encoding encodings =>
      cases htransport : s.transport with
      | none => exact ⟨none, rfl, fun _ => ⟨nofun, fun h => nomatch h.2.1⟩⟩
      | some transportId =>
          cases hdisabled : s.disabled with
          | true => exact ⟨none, rfl, fun _ => ⟨nofun, fun h => nomatch h.1⟩⟩
          | false =>
              by_cases hssrc : ssrc = encoding.ssrc
              · by_cases hsupported : payloadType ∈ s.supportedPayloadTypes
                · cases accepts with
                  | true => exact ⟨some transportId, by simp [hssrc, hsupported], by simp [hssrc, hsupported]⟩
                  | false => exact ⟨none, by simp [hssrc, hsupported], by simp⟩
                · exact ⟨none, by simp [hssrc, hsupported], by simp [hsupported]⟩
              · exact ⟨none, by simp [hssrc], by simp [Ne.symm hssrc]⟩

end RtpSender

namespace Room

variable {room room' : Room} {streams : Streams} {env : Environment} {receives : RtpReceiver → Prop}

/-! ## No sender is twice in a set -/

/-- The sets of senders have no duplicates, as sets have none. -/
def Distinct (room : Room) : Prop :=
  ∀ ref rtpSenders, room.mapRtpReceiverRtpSenders.find? ref = some rtpSenders → rtpSenders.Nodup

theorem Distinct.of_eq (h : room.Distinct)
    (heq : room'.mapRtpReceiverRtpSenders = room.mapRtpReceiverRtpSenders) : room'.Distinct := by
  unfold Distinct
  rw [heq]
  exact h

/-- A set is put in. -/
theorem Distinct.insert (h : room.Distinct) {ref : Ref} {rtpSenders : List Ref} (hnodup : rtpSenders.Nodup)
    (heq : room'.mapRtpReceiverRtpSenders = room.mapRtpReceiverRtpSenders.insert ref rtpSenders) :
    room'.Distinct := by
  intro ref' rtpSenders' hfind
  rw [heq, Table.find?_insert] at hfind
  split at hfind
  case isTrue =>
    cases hfind
    exact hnodup
  case isFalse => exact h ref' rtpSenders' hfind

/-- A new sender has a new id, so it is in no list yet. -/
theorem Distinct.addRtpSenderForRtpReceiver (h : room.Distinct) {peerId : UInt32} {ref : Ref}
    {r : RtpReceiver} (hok : room.addRtpSenderForRtpReceiver env peerId ref r = .ok room') :
    room'.Distinct := by
  have hset : ((room.mapRtpReceiverRtpSenders.find? ref).getD []).Nodup := by
    cases hfind : room.mapRtpReceiverRtpSenders.find? ref with
    | none => exact List.nodup_nil
    | some rtpSenders => exact h ref rtpSenders hfind
  unfold Room.addRtpSenderForRtpReceiver at hok
  split at hok
  case h_1 => cases hok; exact h
  case h_2 =>
    split at hok
    case h_2 => cases hok
    case h_1 =>
      dsimp only at hok
      split at hok
      case isTrue => cases hok
      case isFalse =>
        obtain ⟨sent, -, heq⟩ := Checked.bind_eq_ok.1 hok
        cases heq
        exact h.insert (hset.insert (a := (peerId, env.rtpSenderIds room.numRtpSenders))) rfl

/-- The parameters of a sender are not in the lists. -/
theorem Distinct.send (h : room.Distinct) {p : RtpParameters} {s : Ref}
    (hok : room.send env p s = .ok room') : room'.Distinct := by
  unfold Room.send at hok
  split at hok
  case h_1 => cases hok; exact h
  case h_2 =>
    split at hok
    case h_1 => cases hok; exact h
    case h_2 =>
      obtain ⟨sent, -, heq⟩ := Checked.bind_eq_ok.1 hok
      cases heq
      exact h.of_eq rfl

/-- A sender leaves all lists. -/
theorem Distinct.closeRtpSender (h : room.Distinct) (s : Ref) : (room.closeRtpSender s).Distinct := by
  intro ref rtpSenders hfind
  rw [Room.closeRtpSender, Table.find?_mapValues] at hfind
  obtain ⟨before, hbefore, rfl⟩ := Option.map_eq_some_iff.1 hfind
  exact (h ref before hbefore).filter _

/-- A receiver takes its list with it. -/
theorem Distinct.closeRtpReceiver (h : room.Distinct) (ref : Ref) : (room.closeRtpReceiver ref).Distinct := by
  have hclosed : (room.modifyPeer ref.1 fun peer => peer.onRtpReceiverClosed ref.2).Distinct := h.of_eq rfl
  unfold Room.closeRtpReceiver onPeerRtpReceiverClosed
  split
  case h_1 => exact hclosed
  case h_2 rtpSenders _ =>
    have hall := List.foldlRecOn rtpSenders Room.closeRtpSender hclosed fun _ h s _ => h.closeRtpSender s
    intro ref' rtpSenders' hfind
    rw [Table.find?_erase] at hfind
    split at hfind
    case isTrue => cases hfind
    case isFalse => exact hall ref' rtpSenders' hfind

/-- A peer closes its receivers and its senders one after the other. -/
theorem Distinct.closePeer (h : room.Distinct) (peerId : UInt32) : (room.closePeer peerId).Distinct := by
  unfold Room.closePeer
  dsimp only
  have hreceivers := List.foldlRecOn (room.rtpReceiversOf peerId) Room.closeRtpReceiver h
    fun _ h ref _ => h.closeRtpReceiver ref
  generalize (room.rtpReceiversOf peerId).foldl Room.closeRtpReceiver room = room₁ at hreceivers
  have hsenders := List.foldlRecOn (room₁.rtpSendersOf peerId) Room.closeRtpSender hreceivers
    fun _ h s _ => h.closeRtpSender s
  generalize (room₁.rtpSendersOf peerId).foldl Room.closeRtpSender room₁ = room₂ at hsenders
  have htransports := List.foldlRecOn (room₂.transportsOf peerId)
    (fun room id => room.closeTransport peerId id) hsenders fun _ h _ _ => h.of_eq rfl
  exact htransports.of_eq rfl

/-- **The step lemma.** -/
theorem distinct_edit (h : room.Distinct) (hedit : room.Edit receives room') : room'.Distinct := by
  cases hedit with
  | peer | audioLevels | createPeer | createRtpReceiver => exact h.of_eq rfl
  | closePeer peerId => exact h.closePeer peerId
  | setCapabilities env hpeer hnone hdata hok =>
      unfold onPeerCapabilities at hok
      obtain ⟨reduced, -, hok⟩ := Checked.bind_eq_ok.1 hok
      exact Checked.foldlM_inv (I := Distinct) (fun _ _ _ h hadd => h.addRtpSenderForRtpReceiver hadd) hok
        (h.of_eq rfl)
  | closeRtpReceiver ref => exact h.closeRtpReceiver ref
  | receive env hpeer hr _ hdata hp hok =>
      unfold onPeerRtpReceiverParameters at hok
      split at hok
      case h_1 => cases hok
      case h_2 =>
        split at hok
        case h_1 =>
          exact Checked.foldlM_inv (I := Distinct) (fun _ _ _ h hadd => h.addRtpSenderForRtpReceiver hadd)
            hok (h.insert List.nodup_nil rfl)
        case h_2 =>
          exact Checked.foldlM_inv (I := Distinct) (fun _ _ _ h hsend => h.send hsend) hok (h.of_eq rfl)

/-! ## What is sent -/

/-- What the way of a packet needs: the mesh, good pointers, and senders that carry what their receivers
have. -/
structure Forwards (room : Room) : Prop where
  mesh : Mesh room.view
  attached : room.Attached
  carries : room.CarriesBut fun _ => False
  distinct : room.Distinct

/-- Every run keeps what forwarding needs. -/
theorem forwards_of_exec {roomId : UInt32} {data : JsonCpp.Value} {events : List RoomEvent}
    (hcreate : Room.create roomId data = .ok room) (h : Machine.exec step room events = some room') :
    room'.Forwards := by
  have hdistinct : room.Distinct := by
    intro ref rtpSenders hfind
    rw [(create_ok hcreate).2.1] at hfind
    cases hfind
  obtain ⟨hmesh, hattached, hcarries⟩ := kept_of_exec hcreate h
  exact ⟨hmesh, hattached, hcarries,
    (exec_inv_of_edit (fun _ _ _ _ _ => distinct_edit) hcreate h hdistinct).2⟩

/-- A receiver with parameters has an entry. -/
theorem Forwards.entry (h : room.Forwards) {ref : Ref} (hready : room.view.ready ref = true) :
    ∃ rtpSenders, room.mapRtpReceiverRtpSenders.find? ref = some rtpSenders :=
  Option.isSome_iff_exists.1 ((h.mesh.entries ref).trans hready)

/-- A pointer to a transport is good. -/
theorem useTransport_eq {peerId transportId : UInt32}
    (hlive : ((room.peers.find? peerId).bind (·.transports.find? transportId)).isSome = true) :
    room.useTransport peerId transportId = .ok transportId := if_pos hlive

/-- **One sender.** It ends with no fault, and sends the packet if it should. -/
theorem Forwards.sendRtpPacket (h : room.Forwards) (streams : Streams) {s ref : Ref}
    (hs : room.mapRtpSenderRtpReceiver.find? s = some ref) (ssrc : UInt32) (payloadType : UInt8) :
    ∃ sent, room.sendRtpPacket streams ssrc payloadType s = .ok sent ∧
      ∀ transportId, sent = some transportId ↔ room.Sends streams ref ssrc payloadType s transportId := by
  have howned : room.view.owned s = true := by
    rw [h.mesh.owned]
    exact Option.isSome_iff_exists.2 ⟨ref, hs⟩
  rw [view_owned_eq_isSome] at howned
  obtain ⟨sender, hsender⟩ := Option.isSome_iff_exists.1 howned
  obtain ⟨p, hp, hcarries⟩ := (h.carries s ref sender hs hsender).resolve_left not_false
  obtain ⟨sent, hok, hsent⟩ :=
    hcarries.sendRtpPacket (streams.sendPacket s ssrc payloadType) ssrc payloadType
  have hiff : ∀ transportId, sent = some transportId ↔
      room.Sends streams ref ssrc payloadType s transportId := by
    intro transportId
    rw [hsent]
    constructor
    · rintro ⟨hdisabled, ht, ⟨encoding, hencoding, hssrc⟩, hsupported, haccepts⟩
      exact ⟨hs, ⟨sender, hsender, hdisabled, ht, hsupported⟩, ⟨p, encoding, hp, hencoding, hssrc⟩, haccepts⟩
    · rintro ⟨-, ⟨sender', hsender', hdisabled, ht, hsupported⟩, ⟨p', encoding, hp', hencoding, hssrc⟩,
        haccepts⟩
      obtain rfl := Option.some.inj (hsender.symm.trans hsender')
      obtain rfl := Option.some.inj (hp.symm.trans hp')
      exact ⟨hdisabled, ht, ⟨encoding, hencoding, hssrc⟩, hsupported, haccepts⟩
  refine ⟨sent, ?_, hiff⟩
  unfold Room.sendRtpPacket
  rw [hsender]
  dsimp only
  rw [hok, Checked.ok_bind]
  cases sent with
  | none => rfl
  | some transportId =>
      have ht : sender.transport = some transportId := ((hsent transportId).1 rfl).2.1
      dsimp only
      rw [useTransport_eq (h.attached.rtpSender_transport hsender ht)]
      rfl

/-- **The loop.** No sender ends it, and those that should send the packet do, in order. -/
theorem Forwards.sendRtpPackets (h : room.Forwards) (streams : Streams) (ref : Ref) (ssrc : UInt32)
    (payloadType : UInt8) {rtpSenders : List Ref}
    (hfed : ∀ s ∈ rtpSenders, room.mapRtpSenderRtpReceiver.find? s = some ref) :
    ∃ sent, room.sendRtpPackets streams ssrc payloadType rtpSenders = .ok sent ∧
      (sent.map Prod.fst).Sublist rtpSenders ∧ ∀ s transportId, (s, transportId) ∈ sent ↔
        s ∈ rtpSenders ∧ room.Sends streams ref ssrc payloadType s transportId := by
  induction rtpSenders with
  | nil => exact ⟨[], rfl, List.Sublist.refl _, fun s transportId => by simp⟩
  | cons s rtpSenders ih =>
      obtain ⟨rest, hrest, hsub, hmem⟩ := ih fun s' hs' => hfed s' (List.mem_cons_of_mem s hs')
      obtain ⟨sent, hok, hsent⟩ := h.sendRtpPacket streams (hfed s List.mem_cons_self) ssrc payloadType
      unfold Room.sendRtpPackets
      rw [hok, Checked.ok_bind, hrest, Checked.ok_bind]
      cases sent with
      | none =>
          refine ⟨rest, rfl, hsub.cons s, fun s' transportId => ?_⟩
          rw [hmem, List.mem_cons]
          refine ⟨fun ⟨hs', hsends⟩ => ⟨.inr hs', hsends⟩, fun ⟨hs', hsends⟩ => ⟨hs'.resolve_left ?_, hsends⟩⟩
          rintro rfl
          exact nomatch (hsent transportId).2 hsends
      | some transportId₀ =>
          refine ⟨(s, transportId₀) :: rest, rfl, hsub.cons_cons s, fun s' transportId => ?_⟩
          rw [List.mem_cons, hmem, List.mem_cons, Prod.mk.injEq]
          constructor
          · rintro (⟨rfl, rfl⟩ | ⟨hs', hsends⟩)
            · exact ⟨.inl rfl, (hsent transportId).1 rfl⟩
            · exact ⟨.inr hs', hsends⟩
          · rintro ⟨rfl | hs', hsends⟩
            · exact .inl ⟨rfl, (Option.some.inj ((hsent transportId).2 hsends)).symm⟩
            · exact .inr ⟨hs', hsends⟩

/-- **The room.** A receiver with parameters has its senders send the packet, each peer once at most. -/
theorem Forwards.onPeerRtpPacket (h : room.Forwards) (streams : Streams) {ref : Ref}
    (hready : room.view.ready ref = true) (ssrc : UInt32) (payloadType : UInt8) :
    ∃ sent, room.onPeerRtpPacket streams ref ssrc payloadType = .ok sent ∧
      (sent.map fun sending => sending.1.1).Nodup ∧ ∀ s transportId, (s, transportId) ∈ sent ↔
        room.Sends streams ref ssrc payloadType s transportId := by
  obtain ⟨rtpSenders, hentry⟩ := h.entry hready
  have hfed : ∀ s, s ∈ rtpSenders ↔ room.mapRtpSenderRtpReceiver.find? s = some ref := by
    intro s
    refine Iff.trans ⟨fun hs => ⟨rtpSenders, hentry, hs⟩, ?_⟩ (h.mesh.inverse s ref)
    rintro ⟨rtpSenders', hentry', hs⟩
    change room.mapRtpReceiverRtpSenders.find? ref = some rtpSenders' at hentry'
    rw [hentry] at hentry'
    cases hentry'
    exact hs
  obtain ⟨sent, hok, hsub, hmem⟩ :=
    h.sendRtpPackets streams ref ssrc payloadType fun s hs => (hfed s).1 hs
  refine ⟨sent, ?_, ?_, fun s transportId => ?_⟩
  · rw [Room.onPeerRtpPacket, hentry]
    exact hok
  · have hpeers : (rtpSenders.map Prod.fst).Nodup := by
      refine (h.distinct ref rtpSenders hentry).map_on fun s hs s' hs' heq => ?_
      exact h.mesh.unique s s' ref ((hfed s).1 hs) ((hfed s').1 hs') heq
    have hmapped : sent.map (fun sending => sending.1.1) = (sent.map Prod.fst).map Prod.fst := by
      rw [List.map_map]
      rfl
    rw [hmapped]
    exact (hsub.map Prod.fst).nodup hpeers
  · rw [hmem]
    exact ⟨fun hsends => hsends.2, fun hsends => ⟨(hfed s).2 hsends.fed, hsends⟩⟩

/-- **A receiver.** It ends with a fault just if the packet is for a deleted stream. -/
theorem receiveRtpPacket_cases (streams : Streams) (ref : Ref) (r : RtpReceiver) (ssrc : UInt32)
    (payloadType : UInt8) :
    (∃ passed, receiveRtpPacket streams ref r ssrc payloadType = .ok passed ∧
      ¬ (ssrc ∉ r.rtpStreams ∧ ssrc ∈ r.rtxStreamMap ∧ ssrc ∈ r.deletedRtx)) ∨
    receiveRtpPacket streams ref r ssrc payloadType = .error .rtpStream ∧
      ssrc ∉ r.rtpStreams ∧ ssrc ∈ r.rtxStreamMap ∧ ssrc ∈ r.deletedRtx := by
  unfold receiveRtpPacket
  split
  case isTrue hmem => exact .inl ⟨_, rfl, fun h => h.1 hmem⟩
  case isFalse hmem =>
    split
    case isTrue hrtx =>
      split
      case isTrue hdeleted => exact .inr ⟨rfl, hmem, hrtx, hdeleted⟩
      case isFalse hdeleted => exact .inl ⟨_, rfl, fun h => hdeleted h.2.2⟩
    case isFalse hrtx => exact .inl ⟨none, rfl, fun h => hrtx h.2.1⟩

/-- **The listener.** What it leads to is a receiver that has parameters. -/
theorem Forwards.ready (h : room.Forwards) {peerId transportId : UInt32} {peer : Peer} {t : Transport}
    (hpeer : room.peers.find? peerId = some peer) (ht : peer.transports.find? transportId = some t)
    (ssrc : UInt32) (payloadType : UInt8) :
    peer.checkParameters t.rtpListener ssrc = .ok () ∧
      ∀ n, (t.rtpListener.getRtpReceiver peer.payloadTypesOf ssrc payloadType).1 = some n →
        peer.Ready n := by
  have hlisted := (h.attached peerId peer hpeer).listed transportId t
  refine ⟨?_, fun n hn => ?_⟩
  · unfold Peer.checkParameters
    split
    case h_1 => rfl
    case h_2 n hfind =>
      obtain ⟨r, hr, hparameters⟩ := (hlisted (.ssrc ssrc) n ht hfind).useRtpReceiver
      rw [hr, Checked.ok_bind, if_pos hparameters]
  · unfold RtpListener.getRtpReceiver at hn
    split at hn
    case h_1 n' hfind =>
      dsimp only at hn
      split at hn
      · cases hn
        exact hlisted (.ssrc ssrc) _ ht hfind
      · cases hn
    case h_2 =>
      split at hn
      case h_1 n' hfind =>
        cases hn
        exact hlisted (.payloadType payloadType) _ ht hfind
      case h_2 => cases hn

/-- **The receiving side.** A receiver with parameters passes the packet on or not, unless the packet is for
a deleted stream. -/
theorem Forwards.receive? (h : room.Forwards) (streams : Streams) (peerId transportId ssrc : UInt32)
    (payloadType : UInt8) :
    (∃ received, room.receive? streams peerId transportId ssrc payloadType = .ok received ∧
      ¬ room.FindsDeletedRtx peerId transportId ssrc payloadType ∧
      ∀ ref passed, received = some (ref, passed) → ref.1 = peerId ∧ room.view.ready ref = true) ∨
    room.receive? streams peerId transportId ssrc payloadType = .error .rtpStream ∧
      room.FindsDeletedRtx peerId transportId ssrc payloadType := by
  unfold Room.receive?
  cases hpeer : room.peers.find? peerId with
  | none =>
      refine .inl ⟨none, rfl, ?_, nofun⟩
      rintro ⟨hpeer', -, -, -, -⟩
      exact nomatch hpeer.symm.trans hpeer'
  | some peer =>
      cases ht : peer.transports.find? transportId with
      | none =>
          refine .inl ⟨none, by dsimp only; rw [ht], ?_, nofun⟩
          rintro ⟨hpeer', ht', -, -, -⟩
          cases hpeer.symm.trans hpeer'
          exact nomatch ht.symm.trans ht'
      | some t =>
          obtain ⟨hcheck, hready⟩ := h.ready hpeer ht ssrc payloadType
          dsimp only
          rw [ht]
          dsimp only
          rw [hcheck, Checked.ok_bind]
          cases hn : (t.rtpListener.getRtpReceiver peer.payloadTypesOf ssrc payloadType).1 with
          | none =>
              refine .inl ⟨none, rfl, ?_, nofun⟩
              rintro ⟨hpeer', ht', hn', -, -⟩
              cases hpeer.symm.trans hpeer'
              cases ht.symm.trans ht'
              exact nomatch hn.symm.trans hn'
          | some n =>
              obtain ⟨r, hr, -⟩ := (hready n hn).useRtpReceiver
              have hfind : peer.rtpReceivers.find? (UInt32.ofNat n) = some r := by
                unfold Peer.useRtpReceiver at hr
                split at hr
                case h_1 => cases hr
                case h_2 r' hfind =>
                  cases hr
                  exact hfind
              dsimp only
              rw [hr, Checked.ok_bind]
              rcases receiveRtpPacket_cases streams (peerId, UInt32.ofNat n) r ssrc payloadType with
                ⟨passed?, hpassed, hnot⟩ | ⟨hfault, hdeleted⟩
              · rw [hpassed]
                refine .inl ⟨_, rfl, ?_, fun ref passed heq => ?_⟩
                · rintro ⟨hpeer', ht', hn', hr', hdeleted⟩
                  cases hpeer.symm.trans hpeer'
                  cases ht.symm.trans ht'
                  cases hn.symm.trans hn'
                  cases hfind.symm.trans hr'
                  exact hnot hdeleted
                · obtain ⟨passed', -, heq⟩ := Option.map_eq_some_iff.1 heq
                  cases heq
                  exact ⟨rfl, (hready n hn).view_ready hpeer⟩
              · rw [hfault]
                exact .inr ⟨rfl, .intro hpeer ht hn hfind hdeleted⟩

/-- The way of a packet of a peer, with what a receiver passes on and the senders that send it with their
transports. -/
structure Delivers (room : Room) (streams : Streams) (peerId transportId ssrc : UInt32) (payloadType : UInt8)
    (received : Option (Ref × UInt32 × UInt8)) (sent : List (Ref × UInt32)) : Prop where
  received_eq : room.receive? streams peerId transportId ssrc payloadType = .ok received
  sent_eq : room.onRtpDataRecv streams peerId transportId ssrc payloadType = .ok sent
  once : (sent.map fun sending => sending.1.1).Nodup
  others : ∀ s target, (s, target) ∈ sent → s.1 ≠ peerId
  live : ∀ s target, (s, target) ∈ sent →
    ((room.peers.find? s.1).bind (·.transports.find? target)).isSome = true
  exactly : ∀ s target, (s, target) ∈ sent ↔ ∃ ref ssrc' payloadType',
    received = some (ref, ssrc', payloadType') ∧ ref.1 = peerId ∧
      room.Sends streams ref ssrc' payloadType' s target

/-- What becomes of a packet: it is delivered, but for one that finds a deleted stream, which ends the
worker. -/
structure Ends (room : Room) (streams : Streams) (peerId transportId ssrc : UInt32) (payloadType : UInt8) :
    Prop where
  delivered : ¬ room.FindsDeletedRtx peerId transportId ssrc payloadType →
    ∃ received sent, room.Delivers streams peerId transportId ssrc payloadType received sent
  fault : room.FindsDeletedRtx peerId transportId ssrc payloadType →
    room.onRtpDataRecv streams peerId transportId ssrc payloadType = .error .rtpStream

/-- VP8 with payload type 101 and the RTX codec that a room has for it, in JSON. -/
def vp8WithRtx : List JsonCpp.Value :=
  [.object [("kind", .string "video"), ("name", .string "video/VP8"), ("clockRate", .int 90000),
      ("payloadType", .int 101)],
    .object [("kind", .string "video"), ("name", .string "video/rtx"), ("clockRate", .int 90000),
      ("payloadType", .int 100), ("parameters", .object [("apt", .int 101)])]]

/-- A receiver gets the same parameters with an RTX SSRC twice. -/
def parametersTwice : List RoomEvent :=
  let receive := numberedRequest .rtpReceiverReceive [("peerId", .int 1), ("rtpReceiverId", .int 5)]
    [("codecs", .array vp8WithRtx), ("encodings", .array
      [.object [("ssrc", .int 1111), ("codecPayloadType", .int 101), ("rtx", .object [("ssrc", .int 2222)])]])]
  [numberedRequest .roomCreatePeer [("peerId", .int 1), ("peerName", .string "alice")] [],
    numberedRequest .peerSetCapabilities [("peerId", .int 1)] [("codecs", .array vp8WithRtx)],
    numberedRequest .peerCreateTransport [("peerId", .int 1), ("transportId", .int 7)] [],
    numberedRequest .peerCreateRtpReceiver
      [("peerId", .int 1), ("transportId", .int 7), ("rtpReceiverId", .int 5)] [("kind", .string "video")],
    receive, receive]

/-- A packet with the RTX SSRC ends the worker then. -/
example : ((Room.create 1 (.object [("mediaCodecs", .array (vp8WithRtx.take 1))])).toOption.any fun room =>
    (Machine.exec step room parametersTwice).any fun room' =>
      room'.onRtpDataRecv takeAll 1 7 2222 100 = .error .rtpStream) = true := by
  decide +kernel

end Room

end KoreWebsocket.Rtc
