import KoreWebsocket.Rtc.Forwarding
import KoreWebsocket.Rtcp.Serialize

/-!
# The way of RTCP packets (`mediasoup_1/soup`)

What a peer reports about the media that it gets, or asks for, is about a sender of the room, which
`Peer::GetRtpSender` finds by the SSRC. Reports and NACK items are for the sender's stream; a request for a
key frame and the like is passed on to the receiver that feeds the sender, whose transport sends it to the
peer that the media come from. Sender reports go the other way, to a receiver of the peer that they are
from. In every run the packets of a peer are routed with no fault, and feedback about a packet that was
sent returns to where the packet came from.
-/

namespace KoreWebsocket.Rtc

open Rtcp (Packet Header)

/-! ## Routing -/

/-- `GetMediaSsrc` of a feedback packet. -/
def mediaSsrc (header : Header 8) : UInt32 := UInt32.ofNat (Bytes.be (header.1.drop 4))

/-- `GetSsrc` of a report. -/
def reportSsrc (report : Header 24) : UInt32 := UInt32.ofNat (Bytes.be (report.1.take 4))

/-- The feedback packets that `Peer::OnTransportRtcpPacket` passes on, by their header and `GetSize`. -/
def passedOn : Packet → Option (Header 8 × Nat)
  | .pli header => some (header, 12)
  | .sli header items => some (header, 12 + 4 * items.length)
  | .rpsi header items => some (header, 12 + 8 * items.length)
  | .fir header items => some (header, 12 + 8 * items.length)
  | .afb header data => some (header, 12 + data.length)
  | _ => none

/-- What is done with a part of an RTCP packet. -/
inductive Routed
  /-- The stream of a sender gets a receiver report. -/
  | report (rtpSender : Ref)
  /-- The transport of the receiver that feeds a sender sends a feedback packet. -/
  | feedback (rtpSender rtpReceiver : Ref) (transportId : UInt32)
  /-- The stream of a sender is asked for packets, which are sent again to a transport, if any. -/
  | retransmit (rtpSender : Ref) (transportId : Option UInt32)
  /-- The stream of a receiver gets a sender report. -/
  | senderReport (rtpReceiver : Ref)
  deriving DecidableEq

/-- An encoding with its FEC and RTX streams has the SSRC. -/
def RtpEncodingParameters.hasSsrc (encoding : RtpEncodingParameters) (ssrc : UInt32) : Bool :=
  encoding.ssrc = ssrc || encoding.hasFec && encoding.fec.ssrc = ssrc ||
    encoding.hasRtx && encoding.rtx.ssrc = ssrc

/-- An encoding of the sender has the SSRC. -/
def RtpSender.hasSsrc (s : RtpSender) (ssrc : UInt32) : Bool :=
  s.rtpParameters.any fun p => p.encodings.any (·.hasSsrc ssrc)

/-- `Peer::GetRtpSender`, in the order that the table has. -/
def Peer.getRtpSender (peer : Peer) (ssrc : UInt32) : Option (UInt32 × RtpSender) :=
  peer.rtpSenders.entries.find? fun entry => entry.2.hasSsrc ssrc

/-- A loop that routes one part after the other. -/
def routeAll {α : Type} (route : α → Except MediaFault (List Routed)) :
    List α → Except MediaFault (List Routed)
  | [] => .ok []
  | a :: as => do
      let routed ← route a
      let rest ← routeAll route as
      return routed ++ rest

namespace Room

variable (room : Room)

/-- `Room::OnPeerRtcpReceiverReport`, with `RtpSender::ReceiveRtcpReceiverReport`. -/
def onPeerRtcpReceiverReport (s : Ref) (sender : RtpSender) : Except MediaFault (List Routed) :=
  if (room.mapRtpSenderRtpReceiver.find? s).isNone then .error .rtpSenderNotInMap
  else .ok (if sender.hasRtpStream then [.report s] else [])

/-- `RtpReceiver::ReceiveRtcpFeedback` of a packet of this size. -/
def receiveRtcpFeedback (s ref : Ref) (r : RtpReceiver) (size : Nat) : Except MediaFault (List Routed) :=
  match r.transport with
  | none => .ok []
  | some transportId =>
      if size > Rtcp.bufferSize then .ok []
      else do return [.feedback s ref (← room.useTransport ref.1 transportId)]

/-- `Room::OnPeerRtcpFeedback`. -/
def onPeerRtcpFeedback (s : Ref) (size : Nat) : Except MediaFault (List Routed) :=
  match room.mapRtpSenderRtpReceiver.find? s with
  | none => .error .rtpSenderNotInMap
  | some ref =>
      match (room.peers.find? ref.1).bind (·.rtpReceivers.find? ref.2) with
      | none => .error .rtpReceiver
      | some r => room.receiveRtcpFeedback s ref r size

/-- `Room::OnPeerRtcpSenderReport`, with `RtpReceiver::ReceiveRtcpSenderReport`. -/
def onPeerRtcpSenderReport (ref : Ref) (r : RtpReceiver) (ssrc : UInt32) : Except MediaFault (List Routed) :=
  if (room.mapRtpReceiverRtpSenders.find? ref).isNone then .error .rtpReceiverNotInMap
  else .ok (if ssrc ∈ r.rtpStreams then [.senderReport ref] else [])

/-- `RtpSender::ReceiveNack`: the transport that `RtpSender::RetransmitRtpPacket` sends to. -/
def receiveNack (s : Ref) (sender : RtpSender) : Except MediaFault (List Routed) :=
  if !sender.hasRtpStream then .ok []
  else if !sender.getActive then .ok [.retransmit s none]
  else
    match sender.transport with
    | none => .error .transport
    | some transportId => do return [.retransmit s (some (← room.useTransport s.1 transportId))]

variable (peerId : UInt32) (peer : Peer) (l : RtpListener)

/-- A part of a packet that is for the sender with an SSRC. -/
def toRtpSender (ssrc : UInt32) (handler : Ref → RtpSender → Except MediaFault (List Routed)) :
    Except MediaFault (List Routed) :=
  match peer.getRtpSender ssrc with
  | none => .ok []
  | some (id, sender) => handler (peerId, id) sender

/-- A sender report of a packet. -/
def routeSenderReport (report : Header 24) : Except MediaFault (List Routed) :=
  match l.ssrcTable.find? (reportSsrc report) with
  | none => .ok []
  | some rtpReceiver => do
      let r ← peer.useRtpReceiver (UInt32.ofNat rtpReceiver)
      room.onPeerRtcpSenderReport (peerId, UInt32.ofNat rtpReceiver) r (reportSsrc report)

/-- One round of the loop in `Peer::OnTransportRtcpPacket`. -/
def routePacket (packet : Packet) : Except MediaFault (List Routed) :=
  match packet with
  | .rr _ reports => routeAll (fun report =>
      toRtpSender peerId peer (reportSsrc report) room.onPeerRtcpReceiverReport) reports
  | .sr reports => routeAll (room.routeSenderReport peerId peer l) reports
  | .nack header _ => toRtpSender peerId peer (mediaSsrc header) room.receiveNack
  | packet =>
      match passedOn packet with
      | none => .ok []
      | some (header, size) =>
          toRtpSender peerId peer (mediaSsrc header) fun s sender =>
            if !sender.getActive then .ok [] else room.onPeerRtcpFeedback s size

/-- `Peer::OnTransportRtcpPacket`, with the packets of a compound packet. -/
def onTransportRtcpPacket (transportId : UInt32) (packets : List Packet) : Except MediaFault (List Routed) :=
  match room.peers.find? peerId with
  | none => .ok []
  | some peer =>
      match peer.transports.find? transportId with
      | none => .ok []
      | some t => routeAll (room.routePacket peerId peer t.rtpListener) packets

/-- What may be done with a part of an RTCP packet of a peer. -/
def MayRoute (room : Room) (peerId : UInt32) : Routed → Prop
  | .report s => s.1 = peerId ∧ ∃ sender, room.rtpSender? s = some sender ∧ sender.hasRtpStream = true
  | .feedback s ref transportId => s.1 = peerId ∧ room.mapRtpSenderRtpReceiver.find? s = some ref ∧
      ref.1 ≠ peerId ∧ (∃ sender, room.rtpSender? s = some sender ∧ sender.getActive = true) ∧
      (∃ r, (room.peers.find? ref.1).bind (·.rtpReceivers.find? ref.2) = some r ∧
        r.transport = some transportId) ∧
      ((room.peers.find? ref.1).bind (·.transports.find? transportId)).isSome = true
  | .retransmit s transportId => s.1 = peerId ∧ ∃ sender, room.rtpSender? s = some sender ∧
      sender.hasRtpStream = true ∧ ∀ target, transportId = some target →
        sender.getActive = true ∧ sender.transport = some target ∧
        ((room.peers.find? peerId).bind (·.transports.find? target)).isSome = true
  | .senderReport ref => ref.1 = peerId ∧ room.view.ready ref = true

end Room

/-! ## What is routed -/

/-- **The loop.** If every part is routed as it may be, so is the whole. -/
theorem routeAll_ok {α : Type} {route : α → Except MediaFault (List Routed)} {P : Routed → Prop}
    {as : List α} (h : ∀ a ∈ as, ∃ routed, route a = .ok routed ∧ ∀ x ∈ routed, P x) :
    ∃ routed, routeAll route as = .ok routed ∧ ∀ x ∈ routed, P x := by
  induction as with
  | nil => exact ⟨[], rfl, fun _ => nofun⟩
  | cons a as ih =>
      obtain ⟨routed, hok, hP⟩ := h a List.mem_cons_self
      obtain ⟨rest, hrest, hPrest⟩ := ih fun a' ha' => h a' (List.mem_cons_of_mem a ha')
      refine ⟨routed ++ rest, ?_, fun x hx => ?_⟩
      · rw [routeAll, hok, Checked.ok_bind, hrest]
        rfl
      · exact (List.mem_append.1 hx).elim (hP x) (hPrest x)

/-- The sender that is found has the SSRC. -/
theorem Peer.getRtpSender_eq_some {peer : Peer} {ssrc id : UInt32} {sender : RtpSender}
    (h : peer.getRtpSender ssrc = some (id, sender)) :
    peer.rtpSenders.find? id = some sender ∧ sender.hasSsrc ssrc = true := by
  unfold Peer.getRtpSender at h
  refine ⟨(Table.find?_eq_some _).2 (List.mem_of_find?_eq_some h), ?_⟩
  exact List.find?_some (p := fun entry : UInt32 × RtpSender => entry.2.hasSsrc ssrc) h

namespace Room

variable {room room' : Room} {streams : Streams} {peerId : UInt32} {peer : Peer}

/-- A part that is for a sender is routed as it may be if the handler does so. -/
theorem Forwards.toRtpSender (hpeer : room.peers.find? peerId = some peer) (ssrc : UInt32)
    {handler : Ref → RtpSender → Except MediaFault (List Routed)}
    (hhandler : ∀ s sender, s.1 = peerId → room.rtpSender? s = some sender →
      ∃ routed, handler s sender = .ok routed ∧ ∀ x ∈ routed, room.MayRoute peerId x) :
    ∃ routed, Room.toRtpSender peerId peer ssrc handler = .ok routed ∧
      ∀ x ∈ routed, room.MayRoute peerId x := by
  unfold Room.toRtpSender
  split
  case h_1 => exact ⟨[], rfl, fun _ => nofun⟩
  case h_2 id sender hget =>
    exact hhandler (peerId, id) sender rfl
      ((rtpSender?_of_peer hpeer).trans (Peer.getRtpSender_eq_some hget).1)

/-- A report of a receiver is for the sender that it is about. -/
theorem Forwards.onPeerRtcpReceiverReport (h : room.Forwards) {s : Ref} {sender : RtpSender}
    (hs : s.1 = peerId) (hsender : room.rtpSender? s = some sender) :
    ∃ routed, room.onPeerRtcpReceiverReport s sender = .ok routed ∧
      ∀ x ∈ routed, room.MayRoute peerId x := by
  obtain ⟨ref, href, -⟩ := fed_of_mesh h.mesh hsender
  refine ⟨_, by rw [Room.onPeerRtcpReceiverReport, href]; rfl, fun x hx => ?_⟩
  split at hx
  case isTrue hstream =>
    obtain rfl := List.mem_singleton.1 hx
    exact ⟨hs, sender, hsender, hstream⟩
  case isFalse => cases hx

/-- The receiver that feeds a sender. -/
theorem Forwards.receiver (h : room.Forwards) {s ref : Ref}
    (href : room.mapRtpSenderRtpReceiver.find? s = some ref) :
    ∃ owner r, room.peers.find? ref.1 = some owner ∧ owner.rtpReceivers.find? ref.2 = some r := by
  have hready := h.mesh.ready_of_rtpReceiver href
  rw [view_ready] at hready
  obtain ⟨owner, howner, hready⟩ := (Option.any_eq_true _ _).1 hready
  obtain ⟨r, hr, -⟩ := (Option.any_eq_true _ _).1 hready
  exact ⟨owner, r, howner, hr⟩

/-- **Feedback** about a sender is sent by the transport of the receiver that feeds it. -/
theorem Forwards.onPeerRtcpFeedback (h : room.Forwards) {s ref : Ref} {owner : Peer} {r : RtpReceiver}
    (href : room.mapRtpSenderRtpReceiver.find? s = some ref) (howner : room.peers.find? ref.1 = some owner)
    (hr : owner.rtpReceivers.find? ref.2 = some r) (size : Nat) :
    room.onPeerRtcpFeedback s size = .ok (if size > Rtcp.bufferSize then []
      else (r.transport.map (Routed.feedback s ref)).toList) := by
  unfold Room.onPeerRtcpFeedback receiveRtcpFeedback
  rw [href]
  dsimp only
  rw [howner, Option.bind_some, hr]
  dsimp only
  cases ht : r.transport with
  | none =>
      dsimp only
      split <;> rfl
  | some transportId =>
      dsimp only
      split
      case isTrue => rfl
      case isFalse =>
        rw [useTransport_eq (h.attached.rtpReceiver_transport howner hr ht)]
        rfl

/-- A NACK is for the stream of a sender, and its packets go to the sender's transport. -/
theorem Forwards.receiveNack (h : room.Forwards) {s : Ref} {sender : RtpSender} (hs : s.1 = peerId)
    (hsender : room.rtpSender? s = some sender) :
    ∃ routed, room.receiveNack s sender = .ok routed ∧ ∀ x ∈ routed, room.MayRoute peerId x := by
  unfold Room.receiveNack
  split
  case isTrue => exact ⟨[], rfl, fun x hx => absurd hx List.not_mem_nil⟩
  case isFalse hstream =>
    have hstream : sender.hasRtpStream = true := by simpa using hstream
    split
    case isTrue =>
      refine ⟨_, rfl, fun x hx => ?_⟩
      obtain rfl := List.mem_singleton.1 hx
      exact ⟨hs, sender, hsender, hstream, fun target htarget => nomatch htarget⟩
    case isFalse hactive =>
      cases ht : sender.transport with
      | none => exact absurd (by simp [RtpSender.getActive, ht]) hactive
      | some transportId =>
          have hactive : sender.getActive = true := by simpa using hactive
          have hlive := h.attached.rtpSender_transport hsender ht
          refine ⟨[.retransmit s (some transportId)], ?_, fun x hx => ?_⟩
          · dsimp only
            rw [useTransport_eq hlive]
            rfl
          · obtain rfl := List.mem_singleton.1 hx
            refine ⟨hs, sender, hsender, hstream, fun target htarget => ?_⟩
            cases htarget
            exact ⟨hactive, ht, hs ▸ hlive⟩

/-- A sender report is for a receiver that the listener leads to. -/
theorem Forwards.routeSenderReport (h : room.Forwards) {transportId : UInt32} {t : Transport}
    (hpeer : room.peers.find? peerId = some peer) (ht : peer.transports.find? transportId = some t)
    (report : Header 24) :
    ∃ routed, room.routeSenderReport peerId peer t.rtpListener report = .ok routed ∧
      ∀ x ∈ routed, room.MayRoute peerId x := by
  unfold Room.routeSenderReport
  split
  case h_1 => exact ⟨[], rfl, fun _ => nofun⟩
  case h_2 n hfind =>
    have hlisted := (h.attached peerId peer hpeer).listed transportId t (.ssrc (reportSsrc report)) n ht hfind
    obtain ⟨r, hr, -⟩ := hlisted.useRtpReceiver
    obtain ⟨rtpSenders, hentry⟩ := h.entry (hlisted.view_ready hpeer)
    rw [hr, Checked.ok_bind, Room.onPeerRtcpSenderReport, hentry]
    refine ⟨_, rfl, fun x hx => ?_⟩
    split at hx
    case isTrue =>
      obtain rfl := List.mem_singleton.1 hx
      exact ⟨rfl, hlisted.view_ready hpeer⟩
    case isFalse => cases hx

/-- **One packet.** -/
theorem Forwards.routePacket (h : room.Forwards) {transportId : UInt32} {t : Transport}
    (hpeer : room.peers.find? peerId = some peer) (ht : peer.transports.find? transportId = some t)
    (packet : Packet) :
    ∃ routed, room.routePacket peerId peer t.rtpListener packet = .ok routed ∧
      ∀ x ∈ routed, room.MayRoute peerId x := by
  unfold Room.routePacket
  split
  case h_1 =>
    refine routeAll_ok fun report _ => Forwards.toRtpSender hpeer _ fun s sender hs hsender => ?_
    exact h.onPeerRtcpReceiverReport hs hsender
  case h_2 => exact routeAll_ok fun report _ => h.routeSenderReport hpeer ht report
  case h_3 => exact Forwards.toRtpSender hpeer _ fun s sender hs hsender => h.receiveNack hs hsender
  case h_4 =>
    split
    case h_1 => exact ⟨[], rfl, fun _ => nofun⟩
    case h_2 header size _ =>
      refine Forwards.toRtpSender hpeer _ fun s sender hs hsender => ?_
      split
      case isTrue => exact ⟨[], rfl, fun _ => nofun⟩
      case isFalse hactive =>
        obtain ⟨ref, href, hne⟩ := fed_of_mesh h.mesh hsender
        obtain ⟨owner, r, howner, hr⟩ := h.receiver href
        refine ⟨_, h.onPeerRtcpFeedback href howner hr size, fun x hx => ?_⟩
        split at hx
        case isTrue => cases hx
        case isFalse =>
          obtain ⟨target, htarget, rfl⟩ := Option.map_eq_some_iff.1 (Option.mem_toList.1 hx)
          refine ⟨hs, href, hs ▸ hne, ⟨sender, hsender, by simpa using hactive⟩, ⟨r, ?_, htarget⟩,
            h.attached.rtpReceiver_transport howner hr htarget⟩
          rw [howner]
          exact hr

/-- **RTCP packets go where they may.** In every run of a room the packets of a peer, whatever they are, are
routed with no fault. Reports and NACK items are for senders of the peer, packets are sent again over the
live transport of an active one, and sender reports are for its receivers. Feedback is sent by the live
transport of the receiver of another peer that feeds an active sender of this one. -/
theorem rtcp_routed {roomId : UInt32} {data : JsonCpp.Value} {events : List RoomEvent}
    (hcreate : Room.create roomId data = .ok room) (h : Machine.exec step room events = some room')
    (peerId transportId : UInt32) (packets : List Packet) :
    ∃ routed, room'.onTransportRtcpPacket peerId transportId packets = .ok routed ∧
      ∀ x ∈ routed, room'.MayRoute peerId x := by
  have hforwards := forwards_of_exec hcreate h
  unfold onTransportRtcpPacket
  split
  case h_1 => exact ⟨[], rfl, fun _ => nofun⟩
  case h_2 peer hpeer =>
    split
    case h_1 => exact ⟨[], rfl, fun _ => nofun⟩
    case h_2 t ht => exact routeAll_ok fun packet _ => hforwards.routePacket hpeer ht packet

/-- A PLI about the SSRC of the first peer's receiver. -/
def sampleFeedback : Packet := .pli ⟨[0, 0, 0, 0, 0, 0, 4, 87], rfl⟩

/-- A feedback packet comes back over the transport of the sender. -/
theorem rtcp_routed_attachedSender : ∃ room room',
    Room.create 1 (.object [("mediaCodecs", .array [vp8])]) = .ok room ∧
      Machine.exec step room attachedSender = some room' ∧
      (room'.onTransportRtcpPacket 2 8 [sampleFeedback]).toOption =
        some [.feedback (2, 10000000) (1, 5) 7] ∧
      ∃ routed, room'.onTransportRtcpPacket 2 8 [sampleFeedback] = .ok routed ∧
        ∀ x ∈ routed, room'.MayRoute 2 x := by
  have hrun : ∃ room room', Room.create 1 (.object [("mediaCodecs", .array [vp8])]) = .ok room ∧
      Machine.exec step room attachedSender = some room' ∧
      (room'.onTransportRtcpPacket 2 8 [sampleFeedback]).toOption =
        some [.feedback (2, 10000000) (1, 5) 7] :=
    exists_run (fun _ _ h => of_decide_eq_true h) (by decide +kernel)
  obtain ⟨room, room', hcreate, hexec, hrouted⟩ := hrun
  exact ⟨room, room', hcreate, hexec, hrouted, rtcp_routed hcreate hexec 2 8 [sampleFeedback]⟩

/-! ## What returns -/

/-- A sender that sends packets of an SSRC is active, and has the SSRC. -/
theorem Sends.sender {ref s : Ref} {ssrc : UInt32} {payloadType : UInt8} {target : UInt32}
    (hsends : room.Sends streams ref ssrc payloadType s target) (h : room.Forwards) :
    ∃ sender, room.rtpSender? s = some sender ∧ sender.getActive = true ∧ sender.hasSsrc ssrc = true := by
  obtain ⟨sender, hsender, hdisabled, htransport, -⟩ := hsends.active
  obtain ⟨p, encoding, hp, hencoding, hssrc⟩ := hsends.encoding
  obtain ⟨p', hp', q, hq, -, hencodings, -, -, havailable⟩ :=
    (h.carries s ref sender hsends.fed hsender).resolve_left not_false
  obtain rfl := Option.some.inj (hp.symm.trans hp')
  refine ⟨sender, hsender, ?_, ?_⟩
  · rw [RtpSender.getActive, havailable, htransport, hdisabled]
    cases hlist : p.encodings with
    | nil => rw [hlist] at hencoding; cases hencoding
    | cons => rfl
  · rw [RtpSender.hasSsrc, hq, Option.any_some, hencodings]
    cases hlist : p.encodings with
    | nil => rw [hlist] at hencoding; cases hencoding
    | cons encoding' encodings =>
        rw [hlist] at hencoding
        cases hencoding
        simp [RtpEncodingParameters.hasSsrc, hssrc]

/-- The only sender of a peer with an SSRC is found. -/
theorem getRtpSender_of_unique {s : Ref} {ssrc : UInt32} {sender : RtpSender}
    (hpeer : room.peers.find? s.1 = some peer) (hsender : room.rtpSender? s = some sender)
    (hssrc : sender.hasSsrc ssrc = true)
    (hunique : ∀ id other, room.rtpSender? (s.1, id) = some other → other.hasSsrc ssrc = true → id = s.2) :
    peer.getRtpSender ssrc = some (s.2, sender) := by
  have hfind : peer.rtpSenders.find? s.2 = some sender := (rtpSender?_of_peer hpeer).symm.trans hsender
  cases hget : peer.getRtpSender ssrc with
  | none => exact absurd hssrc (List.find?_eq_none.1 hget (s.2, sender) ((Table.find?_eq_some _).1 hfind))
  | some found =>
      obtain ⟨id, other⟩ := found
      obtain ⟨hother, hhas⟩ := Peer.getRtpSender_eq_some hget
      obtain rfl := hunique id other ((rtpSender?_of_peer (s := (s.1, id)) hpeer).trans hother) hhas
      rw [hother] at hfind
      cases hfind
      rfl

/-- **Feedback returns to where the packets come from.** In every run, when a sender sends packets of an
SSRC and no other sender of its peer has this SSRC, feedback of the peer about the SSRC, over any of its
transports, is sent by the transport of the receiver that the packets come from, and nothing else is done
with it. -/
theorem feedback_returns {roomId : UInt32} {data : JsonCpp.Value} {events : List RoomEvent}
    (hcreate : Room.create roomId data = .ok room) (h : Machine.exec step room events = some room')
    {ref s : Ref} {ssrc : UInt32} {payloadType : UInt8} {target : UInt32}
    (hsends : room'.Sends streams ref ssrc payloadType s target)
    (hunique : ∀ id other, room'.rtpSender? (s.1, id) = some other → other.hasSsrc ssrc = true → id = s.2)
    {owner : Peer} {r : RtpReceiver} {source : UInt32} (howner : room'.peers.find? ref.1 = some owner)
    (hr : owner.rtpReceivers.find? ref.2 = some r) (hsource : r.transport = some source)
    {via : UInt32} (hvia : ((room'.peers.find? s.1).bind (·.transports.find? via)).isSome = true)
    (packet : Packet) {header : Header 8} {size : Nat} (hpacket : passedOn packet = some (header, size))
    (hmedia : mediaSsrc header = ssrc) (hsize : size ≤ Rtcp.bufferSize) :
    room'.onTransportRtcpPacket s.1 via [packet] = .ok [.feedback s ref source] := by
  have hforwards := forwards_of_exec hcreate h
  obtain ⟨sender, hsender, hactive, hssrc⟩ := hsends.sender hforwards
  obtain ⟨t, ht⟩ := Option.isSome_iff_exists.1 hvia
  obtain ⟨peer, hpeer, ht⟩ := Option.bind_eq_some_iff.1 ht
  have hget := getRtpSender_of_unique hpeer hsender hssrc hunique
  have hroute : room'.routePacket s.1 peer t.rtpListener packet = .ok [.feedback s ref source] := by
    unfold Room.routePacket
    split
    case h_1 | h_2 | h_3 => cases hpacket
    case h_4 =>
      rw [hpacket]
      dsimp only
      rw [Room.toRtpSender, hmedia, hget]
      dsimp only
      rw [hactive, hforwards.onPeerRtcpFeedback hsends.fed howner hr, if_neg (Nat.not_lt.2 hsize), hsource]
      rfl
  unfold onTransportRtcpPacket
  rw [hpeer]
  dsimp only
  rw [ht]
  dsimp only
  rw [routeAll, hroute]
  rfl

/-- The peer of the sender has another transport, over which its RTCP packets come. -/
def secondTransport : List RoomEvent :=
  attachedSender ++
    [numberedRequest .peerCreateTransport [("peerId", .int 2), ("transportId", .int 9)] []]

/-- It comes over another transport of the peer. -/
theorem feedback_returns_secondTransport : ∃ room room',
    Room.create 1 (.object [("mediaCodecs", .array [vp8])]) = .ok room ∧
      Machine.exec step room secondTransport = some room' ∧
      room'.onTransportRtcpPacket 2 9 [sampleFeedback] = .ok [.feedback (2, 10000000) (1, 5) 7] := by
  have hrun : ∃ room room', Room.create 1 (.object [("mediaCodecs", .array [vp8])]) = .ok room ∧
      Machine.exec step room secondTransport = some room' ∧
      ((room'.onPeerRtpPacket takeAll (1, 5) 1111 100).toOption = some [((2, 10000000), 8)] ∧
      (room'.view.ready (1, 5) = true ∧
      ((room'.peers.find? 1).any fun owner => (owner.rtpReceivers.find? 5).any fun r =>
        r.transport = some 7) = true ∧
      ((room'.peers.find? 2).any fun peer => peer.rtpSenders.entries.all fun entry =>
        !entry.2.hasSsrc 1111 || entry.1 = 10000000) = true ∧
      ((room'.peers.find? 2).bind (·.transports.find? 9)).isSome = true)) :=
    exists_run (fun _ _ h => of_decide_eq_true h) (by decide +kernel)
  obtain ⟨room, room', hcreate, hexec, hsent, hready, howner, hpeer, hvia⟩ := hrun
  obtain ⟨owner, howner, hr⟩ := (Option.any_eq_true _ _).1 howner
  obtain ⟨r, hr, hsource⟩ := (Option.any_eq_true _ _).1 hr
  obtain ⟨peer, hpeer, hentries⟩ := (Option.any_eq_true _ _).1 hpeer
  obtain ⟨sent, hok, -, hmem⟩ :=
    (forwards_of_exec hcreate hexec).onPeerRtpPacket takeAll hready 1111 100
  rw [hok] at hsent
  obtain rfl := Option.some.inj hsent
  have hsends := (hmem (2, 10000000) 8).1 List.mem_cons_self
  refine ⟨room, room', hcreate, hexec, feedback_returns hcreate hexec hsends (fun id other hother hhas => ?_)
    howner hr (of_decide_eq_true hsource) hvia sampleFeedback rfl rfl (by decide)⟩
  rw [rtpSender?_of_peer hpeer] at hother
  have hentry := List.all_eq_true.1 hentries (id, other) ((Table.find?_eq_some _).1 hother)
  simpa [hhas] using hentry

end Room

end KoreWebsocket.Rtc
