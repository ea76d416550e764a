import KoreWebsocket.Rtc.Media
import KoreWebsocket.Rtc.Mesh

/-!
# Receivers, transports and the assertions between them

A receiver that gets a transport is asserted to have parameters, and one whose streams ask for REMB is
taken to have a transport. Nothing makes the requests come in this order, so `linked` is a condition on
the room and the request; an encoding has its codec in any case. In a run of which every step is linked,
none of these faults is met.
-/

namespace KoreWebsocket.Rtc

open JsonCpp
open Checked (Ends)

/-- The faults between receivers, transports and listeners. -/
inductive Fault.Linkage : Fault → Prop
  | nullTransport : Linkage .nullTransport
  | listenerAddRtpReceiver : Linkage (.abort .listenerAddRtpReceiver)
  | getCodecForEncoding : Linkage (.abort .getCodecForEncoding)

theorem Fault.Thrown.not_linkage {fault : Fault} (h : fault.Thrown) : ¬ fault.Linkage := by
  rintro hlinkage
  rcases h with ⟨what, rfl⟩ | rfl
  · cases hlinkage
  · cases hlinkage

/-- A stream of the parameters that the peer supports of these asks for REMB. -/
def Peer.asksForRemb (peer : Peer) (data : Value) : Bool :=
  match RtpParameters.ofJson data with
  | .error _ => false
  | .ok given =>
      match given.reduceCodecsAndEncodings (peer.capabilities.getD {}) with
      | .error _ => false
      | .ok p => p.asksForRemb [] p.encodings

namespace Room

variable {room room' : Room} {env : Environment} {request : Request}

/-- The receiver that a request names, and its peer. -/
def namedRtpReceiver (room : Room) (request : Request) : Option (Peer × RtpReceiver) :=
  ((request.id? "peerId").bind room.peers.find?).bind fun peer =>
    ((request.id? "rtpReceiverId").bind peer.rtpReceivers.find?).map fun r => (peer, r)

/-- The transport that a request names. -/
def namedTransport (peer : Peer) (request : Request) : Option Transport :=
  (request.id? "transportId").bind peer.transports.find?

/-- The order that the handlers take for granted: a receiver has parameters before it gets another
transport, and it has a transport when its streams ask for REMB. -/
def linked (room : Room) : RoomEvent → Bool
  | .request _ request =>
      match room.namedRtpReceiver request with
      | none => true
      | some (peer, r) =>
          match request.method with
          | .rtpReceiverSetTransport => r.rtpParameters.isSome || (namedTransport peer request).isNone
          | .rtpReceiverReceive => r.transport.isSome || !peer.asksForRemb request.data
          | _ => true
  | _ => true

/-- The fault that an event ends with. -/
def fault? (room : Room) (e : RoomEvent) : Option Fault :=
  match (room.handle e).2 with
  | .ok _ => none
  | .error fault => some fault

theorem namedRtpReceiver_eq {ref : Ref} {peer : Peer} {r : RtpReceiver}
    (hr : NamesRtpReceiver room request ref peer r) : room.namedRtpReceiver request = some (peer, r) := by
  unfold namedRtpReceiver
  rw [hr.peerNamed, Option.bind_some, hr.peerFound, Option.bind_some, hr.receiverNamed,
    Option.bind_some, hr.receiverFound]
  rfl

/-- What is asked of a request that names a receiver. -/
theorem linked_receiver {ref : Ref} {peer : Peer} {r : RtpReceiver}
    (hr : NamesRtpReceiver room request ref peer r) :
    room.linked (.request env request) =
      match request.method with
      | .rtpReceiverSetTransport => r.rtpParameters.isSome || (namedTransport peer request).isNone
      | .rtpReceiverReceive => r.transport.isSome || !peer.asksForRemb request.data
      | _ => true := by
  unfold linked
  dsimp only
  rw [namedRtpReceiver_eq hr]

/-- New parameters are brought to what the peer supports, or they are rejected. -/
theorem ends_onRtpReceiverParameters {peer : Peer} {given : RtpParameters}
    (hcapabilities : ∀ codec ∈ (peer.capabilities.getD {}).codecs, codec.Usable)
    (hgiven : ∀ codec ∈ given.codecs, codec.Complete) (rtpReceiverId : UInt32) (r : RtpReceiver) :
    Ends (peer.onRtpReceiverParameters rtpReceiverId r given).2 RtpParameters.Usable Fault.Caught := by
  have hreduce := RtpParameters.ends_reduceCodecsAndEncodings hcapabilities hgiven
  have hadd : ∀ (transportId : UInt32) (p : RtpParameters),
      Ends (peer.addRtpReceiver transportId rtpReceiverId (some p)).2 (fun _ => True) Fault.Caught := by
    intro transportId p
    unfold Peer.addRtpReceiver
    split
    · unfold Transport.addRtpReceiver
      dsimp only
      split
      · exact ends_msThrow
      · trivial
    · trivial
  unfold Peer.onRtpReceiverParameters
  dsimp only
  split
  case h_1 fault h => exact hreduce.of_error h
  case h_2 p h =>
    have husable := (hreduce.of_ok h).reduceHeaderExtensions
      (peer.capabilities.getD {}).headerExtensions
    split
    case h_1 => exact husable
    case h_2 transportId _ =>
      have hadded := hadd transportId
        (p.reduceHeaderExtensions (peer.capabilities.getD {}).headerExtensions)
      dsimp only
      cases hresult : (peer.addRtpReceiver transportId rtpReceiverId
          (some (p.reduceHeaderExtensions (peer.capabilities.getD {}).headerExtensions))).2 with
      | error fault => exact hadded.of_error hresult
      | ok => exact husable

/-- The streams that are asked for are those of the parameters that the peer supports. -/
theorem asksForRemb_eq {peer : Peer} {data : Value} {given p : RtpParameters} {rtpReceiverId : UInt32}
    {r : RtpReceiver} (hdata : RtpParameters.ofJson data = .ok given)
    (hp : (peer.onRtpReceiverParameters rtpReceiverId r given).2 = .ok p) :
    peer.asksForRemb data = p.asksForRemb [] p.encodings := by
  obtain ⟨reduced, hreduced, rfl⟩ := Peer.onRtpReceiverParameters_ok hp
  have hheader : ∀ (supported : List RtpHeaderExtension) (encodings : List RtpEncodingParameters)
      (rtpStreams : List UInt32), (reduced.reduceHeaderExtensions supported).asksForRemb rtpStreams
        encodings = reduced.asksForRemb rtpStreams encodings := by
    intro supported encodings
    induction encodings with
    | nil => exact fun _ => rfl
    | cons encoding encodings ih =>
        intro rtpStreams
        unfold RtpParameters.asksForRemb
        rw [ih, ih]
        rfl
  unfold Peer.asksForRemb
  rw [hdata]
  dsimp only
  rw [hreduced]
  exact (hheader _ _ _).symm

/-- What can go wrong after the acceptance of new parameters: the ids of new senders may clash, and a
receiver whose streams ask for REMB may have no transport. -/
theorem parametersDone_error (hsound : room.media.Sound) {ref : Ref} {peer : Peer} {r : RtpReceiver}
    {given p : RtpParameters} {room₁ : Room} {fault : Fault} (hr : NamesRtpReceiver room request ref peer r)
    (hdata : RtpParameters.ofJson request.data = .ok given)
    (hp : (peer.onRtpReceiverParameters ref.2 r given).2 = .ok p)
    (hroom : room₁ = room.modifyPeer ref.1 fun _ => (peer.onRtpReceiverParameters ref.2 r given).1)
    (h : (room₁.setParameters ref r p).onRtpReceiverParametersDone env ref
      { r.clearRtpStreams with rtpParameters := some p } = .error fault) :
    fault = .abort .peerAddRtpSender ∨
      fault = .nullTransport ∧ r.transport = none ∧ p.asksForRemb [] p.encodings = true := by
  have hcomplete := (RtpParameters.ends_ofJson _).of_ok hdata
  have husable := (ends_onRtpReceiverParameters (usable_capabilities hsound hr.peerFound) hcomplete
    _ _).of_ok hp
  have hpeer : room₁.peers.find? ref.1 = some (peer.onRtpReceiverParameters ref.2 r given).1 := by
    rw [hroom]
    exact find?_modifyPeer hr.peerFound
  have hpeer' := find?_modifyPeer (f := fun peer => { peer with
    rtpReceivers := peer.rtpReceivers.insert ref.2
      { r.clearRtpStreams with rtpParameters := some p } }) hpeer
  exact (ends_onRtpReceiverParametersDone hpeer'
    ((Table.find?_insert _ _ _ _).trans (if_pos rfl)) rfl husable).of_error h

/-- **The step lemma**: a linked request does not end with one of these faults. -/
theorem not_linkage_of_linked (hsound : room.media.Sound)
    (hlinked : room.linked (.request env request) = true) {responses : List Response} {fault : Fault}
    (houtcome : Outcome room env request (responses, .error fault)) : ¬ fault.Linkage := by
  cases houtcome with
  | missingKind =>
      intro hlinkage
      cases hlinkage
  | capabilitiesError hmethod hpeer hnone h =>
      exact ((ends_capabilities _ _).of_error h).not_linkage
  | onPeerCapabilities hmethod hpeer hnone hdata h =>
      have hfault := (ends_onPeerCapabilities hsound hpeer.peerFound
        ((ends_capabilities _ _).of_ok hdata)).of_error h
      intro hlinkage
      rcases hfault with ⟨rfl, -⟩ | rfl
      · cases hlinkage
      · cases hlinkage
  | parametersError hmethod hr h => exact ((RtpParameters.ends_ofJson _).of_error h).not_linkage
  | reduceError hmethod hr hdata h =>
      have hcomplete := (RtpParameters.ends_ofJson _).of_ok hdata
      exact ((ends_onRtpReceiverParameters (usable_capabilities hsound hr.peerFound) hcomplete _
        _).of_error h).thrown.not_linkage
  | parametersDone hmethod hr hdata hp hroom h =>
      intro hlinkage
      rcases parametersDone_error hsound hr hdata hp hroom h with rfl | ⟨rfl, htransport, hremb⟩
      · cases hlinkage
      · rw [linked_receiver hr, hmethod] at hlinked
        dsimp only at hlinked
        rw [asksForRemb_eq hdata hp, hremb, htransport] at hlinked
        cases hlinked
  | setTransport hmethod hr ht hparameters =>
      rw [linked_receiver hr, hmethod] at hlinked
      dsimp only at hlinked
      unfold namedTransport at hlinked
      rw [hparameters, ht.named, Option.bind_some, ht.found] at hlinked
      cases hlinked
  | disable =>
      intro hlinkage
      cases hlinkage

theorem fault?_eq_some {e : RoomEvent} {fault : Fault} (h : room.fault? e = some fault) :
    ∃ responses, room.handle e = (responses, .error fault) := by
  unfold fault? at h
  cases hresult : room.handle e with
  | mk responses result =>
      rw [hresult] at h
      cases result with
      | ok room' => cases h
      | error fault' =>
          cases h
          exact ⟨responses, rfl⟩

/-- **In a linked run no event ends with one of these faults.** -/
theorem no_linkage_fault {roomId : UInt32} {data : Value} {events : List RoomEvent} {e : RoomEvent}
    (hcreate : Room.create roomId data = .ok room)
    (hlinked : Machine.Meets step (fun room e => room.linked e = true) room (events ++ [e]))
    (hexec : Machine.exec step room events = some room') :
    ∀ fault, room'.fault? e = some fault → ¬ fault.Linkage := by
  intro fault hfault
  have hsound : room'.media.Sound :=
    exec_inv_of_change (I := fun room => room.media.Sound) (fun _ _ => sound_change) hexec
      ((ends_create roomId data).of_ok hcreate)
  have hmeets : room'.linked e = true := (Machine.meets_append.1 hlinked).2 room' hexec |>.1
  obtain ⟨responses, hhandle⟩ := fault?_eq_some hfault
  cases e with
  | request env request =>
      have houtcome := outcome_handleRequest room' env request
      have heq : room'.handleRequest env request = (responses, .error fault) := hhandle
      rw [heq] at houtcome
      exact not_linkage_of_linked hsound hmeets houtcome
  | transportClosed => cases hhandle
  | rtpPacket => cases hhandle

/-- The receiver of the first peer gets its transport once more. -/
def setTransportAgain : RoomEvent :=
  numberedRequest .rtpReceiverSetTransport
    [("peerId", .int 1), ("rtpReceiverId", .int 5), ("transportId", .int 7)] []

/-- The transport of the first peer is closed. -/
def closeItsTransport : RoomEvent :=
  numberedRequest .transportClose [("peerId", .int 1), ("transportId", .int 7)] []

/-- The receiver of the first peer gets parameters whose stream asks for REMB. -/
def receiveWithRemb : RoomEvent :=
  numberedRequest .rtpReceiverReceive [("peerId", .int 1), ("rtpReceiverId", .int 5)]
    [("codecs", .array [vp8]), ("encodings", .array [.object [("ssrc", .int 1111)]])]

/-- The receiver has parameters when it gets its transport once more. -/
theorem no_linkage_fault_twoPeers : ∃ room room',
    Room.create 1 (.object [("mediaCodecs", .array [vp8])]) = .ok room ∧
      Machine.exec step room twoPeers = some room' ∧
      room'.fault? setTransportAgain = none ∧
      ∀ fault, room'.fault? setTransportAgain = some fault → ¬ fault.Linkage := by
  have hrun : ∃ room room', Room.create 1 (.object [("mediaCodecs", .array [vp8])]) = .ok room ∧
      Machine.exec step room twoPeers = some room' ∧
      Machine.Meets step (fun room e => room.linked e = true) room
        (twoPeers ++ [setTransportAgain]) ∧ room'.fault? setTransportAgain = none :=
    exists_run (fun _ _ h => of_decide_eq_true h) (by decide +kernel)
  obtain ⟨room, room', hcreate, hexec, hlinked, hnone⟩ := hrun
  exact ⟨room, room', hcreate, hexec, hnone, no_linkage_fault hcreate hlinked hexec⟩

/-- A receiver that gets a transport before it has parameters makes the worker abort, and a receiver
whose transport is closed is taken to have one. -/
theorem requests_end_the_worker : ∃ room room',
    Room.create 1 (.object [("mediaCodecs", .array [vp8])]) = .ok room ∧
      Machine.exec step room onePeer = some room' ∧
      room'.fault? setTransportAgain = some (.abort .listenerAddRtpReceiver) ∧
      ∃ room'', room'.step closeItsTransport = some room'' ∧
        room''.fault? receiveWithRemb = some .nullTransport := by
  refine exists_run (c := fun _ room' =>
      decide (room'.fault? setTransportAgain = some (.abort .listenerAddRtpReceiver)) &&
        (room'.step closeItsTransport).any fun room'' =>
          room''.fault? receiveWithRemb = some .nullTransport) (fun room room' h => ?_) ?_
  · obtain ⟨habort, hclosed⟩ := Bool.and_eq_true_iff.1 h
    obtain ⟨room'', hstep, hnull⟩ := (Option.any_eq_true _ _).1 hclosed
    exact ⟨of_decide_eq_true habort, room'', hstep, of_decide_eq_true hnull⟩
  · decide +kernel

end Room

end KoreWebsocket.Rtc
