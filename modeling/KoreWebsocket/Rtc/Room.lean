import KoreWebsocket.Rtc.Peer
import KoreWebsocket.Worker.Loop

/-!
# Rooms and their requests (`RTC::Room`, `mediasoup_1/soup`)

A pointer to a receiver or a sender is the number of its peer and its own number in the peer; a new
sender is given a number that its peer does not have, or the worker aborts. A request is handled by
the room, the peer, and the transport, receiver or sender that it names. A handler sends responses and
leaves a room, or a fault that ends the worker; a `MediaSoupError` inside a `try` block is answered
with a rejection (`tryReject`), and the other faults are not caught.
-/

namespace KoreWebsocket.Rtc

open JsonCpp
open Worker (MethodId)

/-- A receiver or a sender: the peer's number, and its own. -/
abbrev Ref := UInt32 × UInt32

/-- `Room`, with the number of senders that it has created. -/
structure Room where
  roomId : UInt32
  capabilities : RtpCapabilities := {}
  mapPayloadRtxCodecParameters : Table UInt8 RtpCodecParameters := ∅
  peers : Table UInt32 Peer := ∅
  mapRtpReceiverRtpSenders : Table Ref (List Ref) := ∅
  mapRtpSenderRtpReceiver : Table Ref Ref := ∅
  audioLevelsEventEnabled : Bool := false
  numRtpSenders : Nat := 0

/-- The data of an accepted request, by the object whose JSON it is. -/
inductive Payload
  | empty
  | room (room : Room)
  | peer (peerId : UInt32) (peer : Peer)
  | transport (peerId transportId : UInt32) (candidates : Option (List Value)) (t : Transport)
  | rtpReceiver (ref : Ref) (r : RtpReceiver)
  | rtpSender (ref : Ref) (s : RtpSender)
  | capabilities (capabilities : RtpCapabilities)
  | rtpParameters (p : RtpParameters)
  | object (members : List (String × Value))

/-- What a request is answered with. -/
inductive Response
  | accept (data : Payload)
  | reject (reason : String)

/-- The responses of a handler, and what it leaves. -/
abbrev Handled := List Response × Except Fault Room

/-- `Channel::Request`, after it is parsed. -/
structure Request where
  method : MethodId
  internal : Value := .empty
  data : Value := .empty

/-- An id in `internal`. -/
def Request.idFrom (request : Request) (key desc : String) : Except Fault UInt32 :=
  if (request.internal.member key).isUInt then .ok (request.internal.member key).asUInt
  else msThrow desc

namespace Room

variable (env : Environment) (room : Room)

/-! ## Capabilities of a room -/

/-- The codecs that the room may have (`Room::supportedRtpCapabilities`): kind, MIME type, clock rate
and number of channels of the audio codecs. -/
def supportedAudioCodecs : List (MimeSubtype × UInt32 × UInt32) :=
  [(.opus, 48000, 2), (.pcmu, 8000, 1), (.pcma, 8000, 1), (.isac, 32000, 1), (.isac, 16000, 1),
    (.g722, 8000, 1), (.ilbc, 8000, 1), (.silk, 24000, 1), (.silk, 16000, 1), (.silk, 12000, 1),
    (.silk, 8000, 1), (.cn, 32000, 1), (.cn, 16000, 1), (.cn, 8000, 1), (.cn, 32000, 1),
    (.telephoneEvent, 48000, 1), (.telephoneEvent, 32000, 1), (.telephoneEvent, 16000, 1),
    (.telephoneEvent, 8000, 1)]

/-- The video codecs that the room may have, with the packetization mode of H264. -/
def supportedVideoCodecs : List (MimeSubtype × Parameters) :=
  [(.vp8, {}), (.vp9, {}), (.h264, Parameters.setValue {} "packetizationMode" (.integer 0)),
    (.h264, Parameters.setValue {} "packetizationMode" (.integer 1)), (.h265, {})]

/-- The RTCP feedback of the video codecs. -/
def videoRtcpFeedback : List RtcpFeedback :=
  [{ type := "nack" }, { type := "nack", parameter := "pli" }, { type := "nack", parameter := "sli" },
    { type := "nack", parameter := "rpsi" }, { type := "nack", parameter := "app" },
    { type := "ccm", parameter := "fir" }, { type := "ack", parameter := "rpsi" },
    { type := "ack", parameter := "app" }, { type := "goog-remb" }]

/-- `Room::supportedRtpCapabilities`. -/
def supportedRtpCapabilities : RtpCapabilities where
  codecs :=
    (supportedAudioCodecs.map fun (subtype, clockRate, numChannels) =>
      { kind := .audio, mime := { type := .audio, subtype }, clockRate, numChannels }) ++
    supportedVideoCodecs.map fun (subtype, parameters) =>
      { kind := .video, mime := { type := .video, subtype }, clockRate := 90000, parameters,
        rtcpFeedback := videoRtcpFeedback }
  headerExtensions :=
    [{ kind := .audio, uri := "urn:ietf:params:rtp-hdrext:ssrc-audio-level", type := .ssrcAudioLevel,
        preferredId := 1 },
      { kind := .video, uri := "urn:ietf:params:rtp-hdrext:toffset", type := .toOffset,
        preferredId := 2 },
      { kind := .all, uri := "http://www.webrtc.org/experiments/rtp-hdrext/abs-send-time",
        type := .absSendTime, preferredId := 3 },
      { kind := .video, uri := "urn:3gpp:video-orientation", type := .videoOrientation,
        preferredId := 4 },
      { kind := .all, uri := "urn:ietf:params:rtp-hdrext:sdes:rtp-stream-id", type := .rtpStreamId,
        preferredId := 5 }]

/-- The loop over `mediaCodecs` in `Room::Room`: the codecs that mediasoup supports, with the RTCP
feedback that it has for them. -/
def supportedMediaCodecs : List Value → Except Fault (List RtpCodecParameters)
  | [] => .ok []
  | jsonMediaCodec :: rest => do
      let mediaCodec ← RtpCodecParameters.ofJson jsonMediaCodec .roomCapability
      let found ←
        if mediaCodec.mime.isFeatureCodec then pure none
        else RtpCodecParameters.findMatch mediaCodec false supportedRtpCapabilities.codecs
      let mediaCodecs ← supportedMediaCodecs rest
      match found with
      | some supported => return { mediaCodec with rtcpFeedback := supported.rtcpFeedback } :: mediaCodecs
      | none => return mediaCodecs

/-- `DynamicPayloadTypes` in `Room::SetCapabilities`. -/
def dynamicPayloadTypes : List UInt8 :=
  [100, 101, 102, 103, 104, 105, 106, 107, 108, 109, 110, 111, 112, 113, 114, 115, 116, 117, 118, 119,
    120, 121, 122, 123, 124, 125, 126, 127, 96, 97, 98, 99, 77, 78, 79, 80, 81, 82, 83, 84, 85, 86, 87,
    88, 89, 90, 91, 92, 93, 94, 95, 35, 36, 37, 38, 39, 40, 41, 42, 43, 44, 45, 46, 47, 48, 49, 50, 51,
    52, 53, 54, 55, 56, 57, 58, 59, 60, 61, 62, 63, 64, 65, 66, 67, 68, 69, 70, 71]

/-- The first dynamic payload type that the room does not use, and those after it. -/
def nextPayloadType (roomPayloadTypes : List UInt8) : List UInt8 → Option UInt8 × List UInt8
  | [] => (none, [])
  | payloadType :: rest =>
      if payloadType ∈ roomPayloadTypes then nextPayloadType roomPayloadTypes rest
      else (some payloadType, rest)

/-- The payload type of a media codec: its own if it is not used yet, or else a dynamic one. One that
finds no dynamic payload type keeps its own. -/
def assignPayloadType (roomPayloadTypes dynamic : List UInt8) (mediaCodec : RtpCodecParameters) :
    Except Fault (RtpCodecParameters × List UInt8) :=
  if mediaCodec.hasPayloadType ∧ mediaCodec.payloadType ∉ roomPayloadTypes then
    .ok (mediaCodec, dynamic)
  else
    match nextPayloadType roomPayloadTypes dynamic with
    | (some payloadType, dynamic) =>
        .ok ({ mediaCodec with payloadType, hasPayloadType := true }, dynamic)
    | (none, dynamic) =>
        if mediaCodec.hasPayloadType then .ok (mediaCodec, dynamic)
        else msThrow "no more available dynamic payload types for given media codecs"

/-- The RTX codec of a video codec. -/
def rtxCodec (mediaCodec : RtpCodecParameters) (payloadType : UInt8) : RtpCodecParameters :=
  { kind := .video, mime := { type := .video, subtype := .rtx }
    payloadType, hasPayloadType := true, clockRate := mediaCodec.clockRate
    parameters := Parameters.setValue {} "apt" (.integer mediaCodec.payloadType.toNat) }

/-- The loop of `Room::SetCapabilities`, with the payload types that the room uses and the dynamic ones
that are left. -/
def setCodecs :
    Room → (roomPayloadTypes dynamic : List UInt8) → List RtpCodecParameters → Except Fault Room
  | room, _, _, [] => .ok room
  | room, roomPayloadTypes, dynamic, mediaCodec :: mediaCodecs => do
      let (mediaCodec, dynamic) ← assignPayloadType roomPayloadTypes dynamic mediaCodec
      let stored : Room :=
        { room with
          capabilities :=
            { room.capabilities with codecs := room.capabilities.codecs ++ [mediaCodec] } }
      if mediaCodec.kind = .video then
        match nextPayloadType roomPayloadTypes dynamic with
        | (some payloadType, dynamic) =>
            setCodecs
              { stored with
                mapPayloadRtxCodecParameters := room.mapPayloadRtxCodecParameters.insert
                  mediaCodec.payloadType (rtxCodec mediaCodec payloadType) }
              (mediaCodec.payloadType :: roomPayloadTypes) dynamic mediaCodecs
        | (none, _) => msThrow "no more available dynamic payload types for given RTX codec"
      else setCodecs stored (mediaCodec.payloadType :: roomPayloadTypes) dynamic mediaCodecs

/-- `Room::SetCapabilities`. -/
def setCapabilities (mediaCodecs : List RtpCodecParameters) : Except Fault Room := do
  let room ← room.setCodecs [] dynamicPayloadTypes mediaCodecs
  return { room with
    capabilities :=
      { room.capabilities with
        headerExtensions := supportedRtpCapabilities.headerExtensions
        fecMechanisms := supportedRtpCapabilities.fecMechanisms } }

/-- `Room::Room`. -/
def create (roomId : UInt32) (data : Value) : Except Fault Room :=
  if (data.member "mediaCodecs").isArray then do
    setCapabilities { roomId } (← supportedMediaCodecs (data.member "mediaCodecs").elements)
  else .ok { roomId }

/-! ## Senders for receivers -/

/-- `Room::AddRtpSenderForRtpReceiver` and `Peer::AddRtpSender`. -/
def addRtpSenderForRtpReceiver (senderPeerId : UInt32) (ref : Ref) (rtpReceiver : RtpReceiver) :
    Except Fault Room :=
  match room.peers.find? senderPeerId with
  | none => .ok room
  | some senderPeer =>
      match senderPeer.capabilities, rtpReceiver.rtpParameters with
      | some capabilities, some rtpParameters =>
          let rtpSender : Ref := (senderPeerId, env.rtpSenderIds room.numRtpSenders)
          if (senderPeer.rtpSenders.find? rtpSender.2).isSome then
            .error (.abort .peerAddRtpSender)
          else do
            let sent ← RtpSender.send { kind := rtpReceiver.kind } (env.muxIds rtpSender) capabilities
              rtpParameters
            return { room with
              numRtpSenders := room.numRtpSenders + 1
              mapRtpReceiverRtpSenders := room.mapRtpReceiverRtpSenders.insert ref
                (((room.mapRtpReceiverRtpSenders.find? ref).getD []).insert rtpSender)
              mapRtpSenderRtpReceiver := room.mapRtpSenderRtpReceiver.insert rtpSender ref
              peers := room.peers.modify senderPeerId fun peer =>
                { peer with rtpSenders := peer.rtpSenders.insert rtpSender.2 sent } }
      | _, _ => .error (.abort .addRtpSenderForRtpReceiver)

/-- The loop over the codecs in `Room::OnPeerCapabilities`: those that the room has, with its payload
types, and the RTX codecs of the video codecs among them. -/
def reducePeerCodecs :
    List RtpCodecParameters → Except Fault (List RtpCodecParameters × List RtpCodecParameters)
  | [] => .ok ([], [])
  | codec :: codecs => do
      match ← RtpCodecParameters.findMatch codec false room.capabilities.codecs with
      | none => reducePeerCodecs codecs
      | some roomCodec =>
          let reduced := RtpCodecParameters.reduceRtcpFeedback
            { codec with payloadType := roomCodec.payloadType, hasPayloadType := true }
            roomCodec.rtcpFeedback
          if codec.kind = .video then
            match room.mapPayloadRtxCodecParameters.find? roomCodec.payloadType with
            | none => .error (.abort .onPeerCapabilities)
            | some rtxCodec => do
                let (kept, rtxCodecs) ← reducePeerCodecs codecs
                return (reduced :: kept, rtxCodec :: rtxCodecs)
          else
            let (kept, rtxCodecs) ← reducePeerCodecs codecs
            return (reduced :: kept, rtxCodecs)

/-- The peer's capabilities that the room supports. -/
def reduceCapabilities (capabilities : RtpCapabilities) : Except Fault RtpCapabilities := do
  let (codecs, rtxCodecs) ← room.reducePeerCodecs capabilities.codecs
  return (RtpCapabilities.reduceHeaderExtensions { capabilities with codecs := codecs ++ rtxCodecs }
    room.capabilities.headerExtensions).reduceFecMechanisms room.capabilities.fecMechanisms

/-- The receivers of all the peers that have parameters. -/
def readyRtpReceivers : List (Ref × RtpReceiver) :=
  room.peers.entries.flatMap fun (peerId, peer) =>
    (peer.rtpReceivers.entries.filter fun (_, r) => r.rtpParameters.isSome).map fun (id, r) =>
      ((peerId, id), r)

/-- `Room::OnPeerCapabilities`: the room in which the peer has the capabilities that it supports, and a
sender for each receiver that is ready. -/
def onPeerCapabilities (peerId : UInt32) (capabilities : RtpCapabilities) : Except Fault Room := do
  let capabilities ← room.reduceCapabilities capabilities
  let room : Room :=
    { room with
      peers := room.peers.modify peerId fun peer => { peer with capabilities := some capabilities } }
  room.readyRtpReceivers.foldlM
    (fun room ready => room.addRtpSenderForRtpReceiver env peerId ready.1 ready.2) room

/-- `rtpSender->Send(rtpParameters)`. -/
def send (rtpParameters : RtpParameters) (rtpSender : Ref) : Except Fault Room :=
  match room.peers.find? rtpSender.1 with
  | none => .ok room
  | some peer =>
      match peer.rtpSenders.find? rtpSender.2 with
      | none => .ok room
      | some s => do
          let s ← s.send (env.muxIds rtpSender) (peer.capabilities.getD {}) rtpParameters
          return { room with
            peers := room.peers.modify rtpSender.1 fun peer =>
              { peer with rtpSenders := peer.rtpSenders.insert rtpSender.2 s } }

/-- The peers that get a sender for a new receiver: the others that have capabilities. -/
def senderPeers (peerId : UInt32) : List UInt32 :=
  (room.peers.keysWhere (·.capabilities.isSome)).filter (· ≠ peerId)

/-- `Room::OnPeerRtpReceiverParameters`. -/
def onPeerRtpReceiverParameters (ref : Ref) (rtpReceiver : RtpReceiver) : Except Fault Room :=
  match rtpReceiver.rtpParameters with
  | none => .error (.abort .onPeerRtpReceiverParameters)
  | some rtpParameters =>
      match room.mapRtpReceiverRtpSenders.find? ref with
      | none =>
          (room.senderPeers ref.1).foldlM
            (fun room senderPeerId => room.addRtpSenderForRtpReceiver env senderPeerId ref rtpReceiver)
            { room with mapRtpReceiverRtpSenders := room.mapRtpReceiverRtpSenders.insert ref [] }
      | some rtpSenders =>
          rtpSenders.foldlM (fun room rtpSender => room.send env rtpParameters rtpSender) room

/-! ## Closing -/

/-- `RtpSender::Destroy`, with `Peer::OnRtpSenderClosed` and `Room::OnPeerRtpSenderClosed`. -/
def closeRtpSender (rtpSender : Ref) : Room :=
  { room with
    peers := room.peers.modify rtpSender.1 fun peer =>
      { peer with rtpSenders := peer.rtpSenders.erase rtpSender.2 }
    mapRtpReceiverRtpSenders := room.mapRtpReceiverRtpSenders.mapValues fun _ rtpSenders =>
      rtpSenders.filter (· ≠ rtpSender)
    mapRtpSenderRtpReceiver := room.mapRtpSenderRtpReceiver.erase rtpSender }

/-- `Room::OnPeerRtpReceiverClosed`, which closes the senders in a copy of the receiver's set. -/
def onPeerRtpReceiverClosed (ref : Ref) : Room :=
  match room.mapRtpReceiverRtpSenders.find? ref with
  | none => room
  | some rtpSenders =>
      let room := rtpSenders.foldl closeRtpSender room
      { room with mapRtpReceiverRtpSenders := room.mapRtpReceiverRtpSenders.erase ref }

/-- `RtpReceiver::Destroy`, with `Peer::OnRtpReceiverClosed`. -/
def closeRtpReceiver (ref : Ref) : Room :=
  onPeerRtpReceiverClosed
    { room with peers := room.peers.modify ref.1 fun peer => peer.onRtpReceiverClosed ref.2 } ref

/-- `Transport::Destroy`, with `Peer::OnTransportClosed`. -/
def closeTransport (peerId transportId : UInt32) : Room :=
  { room with peers := room.peers.modify peerId fun peer => peer.onTransportClosed transportId }

/-- The receivers of a peer. -/
def rtpReceiversOf (peerId : UInt32) : List Ref :=
  match room.peers.find? peerId with
  | some peer => peer.rtpReceivers.keys.map fun id => (peerId, id)
  | none => []

/-- The senders of a peer. -/
def rtpSendersOf (peerId : UInt32) : List Ref :=
  match room.peers.find? peerId with
  | some peer => peer.rtpSenders.keys.map fun id => (peerId, id)
  | none => []

/-- The transports of a peer. -/
def transportsOf (peerId : UInt32) : List UInt32 :=
  match room.peers.find? peerId with
  | some peer => peer.transports.keys
  | none => []

/-- `Peer::Destroy`, with `Room::OnPeerClosed`: the receivers, the senders and the transports are
closed in this order. -/
def closePeer (peerId : UInt32) : Room :=
  let room := (room.rtpReceiversOf peerId).foldl closeRtpReceiver room
  let room := (room.rtpSendersOf peerId).foldl closeRtpSender room
  let room := (room.transportsOf peerId).foldl (fun room id => room.closeTransport peerId id) room
  { room with peers := room.peers.erase peerId }

/-- `Room::Destroy`. -/
def destroy : Room := room.peers.keys.foldl closePeer room

/-! ## Requests -/

/-- `request->Reject(reason)`. -/
def reject (reason : String) : Handled := ([.reject reason], .ok room)

/-- `request->Accept(data)`. -/
def accept (data : Payload) : Handled := ([.accept data], .ok room)

/-- A `try` block that rejects the request if a `MediaSoupError` is thrown. -/
def tryReject {α : Type} (x : Except Fault α) (handler : α → Handled) : Handled :=
  match x with
  | .ok a => handler a
  | .error (.mediaSoupError what) => room.reject what
  | .error fault => ([], .error fault)

/-- The room with a peer changed. -/
def modifyPeer (peerId : UInt32) (f : Peer → Peer) : Room :=
  { room with peers := room.peers.modify peerId f }

/-- `DtlsTransport::string2FingerprintAlgorithm` has this algorithm. -/
def isFingerprintAlgorithm (algorithm : String) : Bool :=
  algorithm ∈ ["sha-1", "sha-224", "sha-256", "sha-384", "sha-512"]

/-- `TRANSPORT_SET_REMOTE_DTLS_PARAMETERS`, after the call is noted. -/
def setRemoteDtlsParameters (data : Value) : Handled :=
  let fingerprint := data.member "fingerprint"
  if !fingerprint.isObject then room.reject "missing data.fingerprint"
  else if !(fingerprint.member "algorithm").isString || !(fingerprint.member "value").isString then
    room.reject "missing data.fingerprint.algorithm and/or data.fingerprint.value"
  else if !isFingerprintAlgorithm (fingerprint.member "algorithm").asString then
    room.reject "unsupported data.fingerprint.algorithm"
  else
    let role := if (data.member "role").isString then (data.member "role").asString else "auto"
    if role = "client" then room.accept (.object [("role", .string "server")])
    else if role = "server" ∨ role = "auto" then room.accept (.object [("role", .string "client")])
    else room.reject "invalid data.role"

/-- `Transport::HandleRequest`. -/
def handleTransportRequest (peerId transportId : UInt32) (t : Transport) (request : Request) : Handled :=
  let set := fun t : Transport =>
    room.modifyPeer peerId fun peer =>
      { peer with transports := peer.transports.insert transportId t }
  match request.method with
  | .transportClose => (room.closeTransport peerId transportId).accept .empty
  | .transportDump => room.accept (.transport peerId transportId none t)
  | .transportSetRemoteDtlsParameters =>
      if t.remoteDtlsParametersGiven then room.reject "method already called"
      else (set { t with remoteDtlsParametersGiven := true }).setRemoteDtlsParameters request.data
  | .transportSetMaxBitrate =>
      if !(request.data.member "bitrate").isUInt then room.reject "missing data.bitrate"
      else (set { t with maxBitrate := max (request.data.member "bitrate").asUInt 10000 }).accept .empty
  | .transportChangeUfragPwd =>
      room.accept (.object [("usernameFragment", .string env.usernameFragment),
        ("password", .string env.password)])
  | _ => room.reject "unknown method"

/-- A receiver with new parameters, and without the streams of the previous ones. -/
def setParameters (ref : Ref) (r : RtpReceiver) (p : RtpParameters) : Room :=
  room.modifyPeer ref.1 fun peer =>
    { peer with
      rtpReceivers :=
        peer.rtpReceivers.insert ref.2 { r.clearRtpStreams with rtpParameters := some p } }

/-- The streams of a receiver's new parameters. -/
def createRtpStreams (ref : Ref) : Except Fault Room :=
  match room.peers.find? ref.1 with
  | none => .ok room
  | some peer => do
      let peer ← peer.createRtpStreams ref.2
      return room.modifyPeer ref.1 fun _ => peer

/-- What follows the acceptance of new parameters: the room is told, and the streams are created. -/
def onRtpReceiverParametersDone (ref : Ref) (r : RtpReceiver) : Except Fault Room := do
  (← room.onPeerRtpReceiverParameters env ref r).createRtpStreams ref

/-- `RTP_RECEIVER_RECEIVE`. The request is accepted before the room and the streams are brought up to
date. -/
def receive (ref : Ref) (peer : Peer) (r : RtpReceiver) (data : Value) : Handled :=
  room.tryReject (RtpParameters.ofJson data) fun p =>
    let updated := peer.onRtpReceiverParameters ref.2 r p
    let room := room.modifyPeer ref.1 fun _ => updated.1
    room.tryReject updated.2 fun p =>
      ([.accept (.rtpParameters p)],
        (room.setParameters ref r p).onRtpReceiverParametersDone env ref
          { r.clearRtpStreams with rtpParameters := some p })

/-- `RTP_RECEIVER_SET_RTP_RAW_EVENT` and `RTP_RECEIVER_SET_RTP_OBJECT_EVENT`. -/
def setRtpEvent (ref : Ref) (data : Value) (set : Bool → RtpReceiver) : Handled :=
  if !(data.member "enabled").isBool then room.reject "Request has invalid data.enabled"
  else
    (room.modifyPeer ref.1 fun peer =>
      { peer with
        rtpReceivers := peer.rtpReceivers.insert ref.2 (set (data.member "enabled").asBool) }).accept
      .empty

/-- `RtpReceiver::HandleRequest`. -/
def handleRtpReceiverRequest (ref : Ref) (peer : Peer) (r : RtpReceiver) (request : Request) : Handled :=
  match request.method with
  | .rtpReceiverClose => (room.closeRtpReceiver ref).accept .empty
  | .rtpReceiverDump => room.accept (.rtpReceiver ref r)
  | .rtpReceiverReceive => room.receive env ref peer r request.data
  | .rtpReceiverSetRtpRawEvent =>
      room.setRtpEvent ref request.data fun enabled => { r with rtpRawEventEnabled := enabled }
  | .rtpReceiverSetRtpObjectEvent =>
      room.setRtpEvent ref request.data fun enabled => { r with rtpObjectEventEnabled := enabled }
  | _ => room.reject "unknown method"

/-- `RTP_RECEIVER_SET_TRANSPORT`, once the receiver and the transport are found. -/
def setRtpReceiverTransport (ref : Ref) (peer : Peer) (r : RtpReceiver) (transportId : UInt32) :
    Handled :=
  let updated := peer.addRtpReceiver transportId ref.2 r.rtpParameters
  let room := room.modifyPeer ref.1 fun _ => updated.1
  room.tryReject updated.2 fun _ =>
    -- REMB is carried over from the previous transport.
    let hasRemb := (r.transport.bind updated.1.transports.find?).any (·.hasRemb)
    (room.modifyPeer ref.1 fun peer =>
      { peer with
        transports :=
          if hasRemb then peer.transports.modify transportId Transport.enableRemb else peer.transports
        rtpReceivers := peer.rtpReceivers.insert ref.2 { r with transport := some transportId } }).accept
      .empty

/-- `RTP_SENDER_DISABLE`. A sender that becomes active asks its receiver for a full frame, which the
room looks up. -/
def disable (ref : Ref) (s : RtpSender) (data : Value) : Handled :=
  if !(data.member "disabled").isBool then room.reject "Request has invalid data.disabled"
  else
    let disabled := (data.member "disabled").asBool
    let changed := { s with disabled }
    if s.disabled = disabled then room.accept .empty
    else if s.getActive = false ∧ changed.getActive ∧ room.mapRtpSenderRtpReceiver.find? ref = none then
      ([], .error (.abort .onFullFrameRequired))
    else
      (room.modifyPeer ref.1 fun peer =>
        { peer with rtpSenders := peer.rtpSenders.insert ref.2 changed }).accept .empty

/-- `PEER_CREATE_RTP_RECEIVER`. The error for a missing `kind` is thrown outside of a `try` block. -/
def createRtpReceiver (peerId : UInt32) (peer : Peer) (request : Request) : Handled :=
  if peer.capabilities.isNone then room.reject "peer capabilities are not yet set"
  else
    room.tryReject (request.idFrom "rtpReceiverId" "Request has not numeric internal.rtpReceiverId")
      fun rtpReceiverId =>
    if (peer.rtpReceivers.find? rtpReceiverId).isSome then room.reject "RtpReceiver already exists"
    else
      room.tryReject (request.idFrom "transportId" "Request has not numeric internal.transportId")
        fun transportId =>
      if (peer.transports.find? transportId).isNone then room.reject "Transport does not exist"
      else if !(request.data.member "kind").isString then ([], msThrow "missing kind")
      else
        room.tryReject (getKind (request.data.member "kind").asString) fun kind =>
          (room.modifyPeer peerId fun peer =>
            { peer with
              rtpReceivers := peer.rtpReceivers.insert rtpReceiverId
                { kind, transport := some transportId } }).accept .empty

/-- `PEER_CREATE_TRANSPORT`. -/
def createTransport (peerId : UInt32) (peer : Peer) (request : Request) : Handled :=
  room.tryReject (request.idFrom "transportId" "Request has not numeric internal.transportId")
    fun transportId =>
  if (peer.transports.find? transportId).isSome then room.reject "Transport already exists"
  else
    room.tryReject (Transport.create env request.data) fun t =>
      (room.modifyPeer peerId fun peer =>
        { peer with transports := peer.transports.insert transportId t }).accept
        (.transport peerId transportId (some (Transport.iceLocalCandidates env request.data)) t)

/-- `PEER_SET_CAPABILITIES`. -/
def setPeerCapabilities (peerId : UInt32) (peer : Peer) (request : Request) : Handled :=
  if peer.capabilities.isSome then room.reject "peer capabilities already set"
  else
    room.tryReject (RtpCapabilities.ofJson request.data .peerCapability) fun capabilities =>
      match room.onPeerCapabilities env peerId capabilities with
      | .error fault => ([], .error fault)
      | .ok room =>
          room.accept (.capabilities (((room.peers.find? peerId).bind (·.capabilities)).getD {}))

/-- The transport that a request names. -/
def withTransport (peer : Peer) (request : Request) (handler : UInt32 → Transport → Handled) : Handled :=
  room.tryReject (request.idFrom "transportId" "Request has not numeric internal.transportId")
    fun transportId =>
  match peer.transports.find? transportId with
  | none => room.reject "Transport does not exist"
  | some t => handler transportId t

/-- The receiver that a request names. -/
def withRtpReceiver (peer : Peer) (request : Request) (handler : UInt32 → RtpReceiver → Handled) :
    Handled :=
  room.tryReject (request.idFrom "rtpReceiverId" "Request has not numeric internal.rtpReceiverId")
    fun rtpReceiverId =>
  match peer.rtpReceivers.find? rtpReceiverId with
  | none => room.reject "RtpReceiver does not exist"
  | some r => handler rtpReceiverId r

/-- The sender that a request names. -/
def withRtpSender (peer : Peer) (request : Request) (handler : UInt32 → RtpSender → Handled) : Handled :=
  room.tryReject (request.idFrom "rtpSenderId" "Request has not numeric internal.rtpSenderId")
    fun rtpSenderId =>
  match peer.rtpSenders.find? rtpSenderId with
  | none => room.reject "RtpSender does not exist"
  | some s => handler rtpSenderId s

/-- `Peer::HandleRequest`. -/
def handlePeerRequest (peerId : UInt32) (peer : Peer) (request : Request) : Handled :=
  match request.method with
  | .peerClose => (room.closePeer peerId).accept .empty
  | .peerDump => room.accept (.peer peerId peer)
  | .peerSetCapabilities => room.setPeerCapabilities env peerId peer request
  | .peerCreateTransport => room.createTransport env peerId peer request
  | .peerCreateRtpReceiver => room.createRtpReceiver peerId peer request
  | .transportClose | .transportDump | .transportSetRemoteDtlsParameters | .transportSetMaxBitrate
  | .transportChangeUfragPwd =>
      room.withTransport peer request fun transportId t =>
        room.handleTransportRequest env peerId transportId t request
  | .rtpReceiverClose | .rtpReceiverDump | .rtpReceiverReceive | .rtpReceiverSetRtpRawEvent
  | .rtpReceiverSetRtpObjectEvent =>
      room.withRtpReceiver peer request fun rtpReceiverId r =>
        room.handleRtpReceiverRequest env (peerId, rtpReceiverId) peer r request
  | .rtpReceiverSetTransport =>
      room.withRtpReceiver peer request fun rtpReceiverId r =>
        room.withTransport peer request fun transportId _ =>
          room.setRtpReceiverTransport (peerId, rtpReceiverId) peer r transportId
  | .rtpSenderDump =>
      room.withRtpSender peer request fun rtpSenderId s =>
        room.accept (.rtpSender (peerId, rtpSenderId) s)
  | .rtpSenderSetTransport =>
      room.withRtpSender peer request fun rtpSenderId s =>
        room.withTransport peer request fun transportId _ =>
          (room.modifyPeer peerId fun peer =>
            { peer with
              rtpSenders := peer.rtpSenders.insert rtpSenderId
                { s with transport := some transportId } }).accept .empty
  | .rtpSenderDisable =>
      room.withRtpSender peer request fun rtpSenderId s =>
        room.disable (peerId, rtpSenderId) s request.data
  | _ => room.reject "unknown method"

/-- `ROOM_CREATE_PEER`. -/
def createPeer (request : Request) : Handled :=
  room.tryReject (request.idFrom "peerId" "Request has not numeric .peerId field") fun peerId =>
  if (room.peers.find? peerId).isSome then room.reject "Peer already exists"
  else if !(request.internal.member "peerName").isString then
    room.reject "Request has not string internal.peerName"
  else
    accept
      { room with
        peers := room.peers.insert peerId
          { peerName := (request.internal.member "peerName").asString } } .empty

/-- `ROOM_SET_AUDIO_LEVELS_EVENT`, which does not answer a request that changes nothing. -/
def setAudioLevelsEvent (data : Value) : Handled :=
  if !(data.member "enabled").isBool then room.reject "Request has invalid data.enabled"
  else if (data.member "enabled").asBool = room.audioLevelsEventEnabled then ([], .ok room)
  else accept { room with audioLevelsEventEnabled := (data.member "enabled").asBool } .empty

/-- `Room::HandleRequest`. -/
def handleRequest (request : Request) : Handled :=
  match request.method with
  | .roomClose => room.destroy.accept .empty
  | .roomDump => room.accept (.room room)
  | .roomCreatePeer => room.createPeer request
  | .roomSetAudioLevelsEvent => room.setAudioLevelsEvent request.data
  | .workerDump | .workerUpdateSettings | .workerCreateRoom => room.reject "unknown method"
  | _ =>
      room.tryReject (request.idFrom "peerId" "Request has not numeric .peerId field") fun peerId =>
      match room.peers.find? peerId with
      | none => room.reject "Peer does not exist"
      | some peer => room.handlePeerRequest env peerId peer request

end Room

/-! ## Runs of a room -/

/-- What happens to a room: a request, the end of a transport by itself (ICE is disconnected, DTLS is
closed or has failed), or a packet that reaches the listener of a transport. -/
inductive RoomEvent
  | request (env : Environment) (request : Request)
  | transportClosed (peerId transportId : UInt32)
  | rtpPacket (peerId transportId ssrc : UInt32) (payloadType : UInt8)

namespace Peer

/-- The payload types in the parameters of a receiver. -/
def payloadTypesOf (peer : Peer) (rtpReceiver : Nat) : List UInt8 :=
  match peer.rtpReceivers.find? (UInt32.ofNat rtpReceiver) with
  | some { rtpParameters := some p, .. } => p.codecs.map (·.payloadType)
  | _ => []

/-- A packet is looked up in the listener of a transport, which may learn its SSRC. -/
def onRtpPacket (peer : Peer) (transportId ssrc : UInt32) (payloadType : UInt8) : Peer :=
  { peer with
    transports := peer.transports.modify transportId fun t =>
      { t with
        rtpListener := (t.rtpListener.getRtpReceiver peer.payloadTypesOf ssrc payloadType).2 } }

end Peer

namespace Room

/-- What an event leaves. -/
def handle (room : Room) : RoomEvent → Handled
  | .request env request => room.handleRequest env request
  | .transportClosed peerId transportId => ([], .ok (room.closeTransport peerId transportId))
  | .rtpPacket peerId transportId ssrc payloadType =>
      ([], .ok (room.modifyPeer peerId fun peer => peer.onRtpPacket transportId ssrc payloadType))

/-- One step of a run: the room after an event. After a fault there is none. -/
def step (room : Room) (e : RoomEvent) : Option Room := (room.handle e).2.toOption

end Room

end KoreWebsocket.Rtc
