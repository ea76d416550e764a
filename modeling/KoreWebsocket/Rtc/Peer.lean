import KoreWebsocket.Rtc.RtpDictionaries
import KoreWebsocket.Rtc.RtpListener

/-!
# Transports, receivers, senders and peers (`RTC::Peer` and its parts, `mediasoup_1/soup`)

The objects that requests create and close, with the members that the handlers read. A pointer to a
transport is the number of the transport in its peer, and a listener has receivers by their number in
the peer. What the network does to a transport (ICE, DTLS, SRTP, the bitrate) and the counters of the
streams are not here: no handler decides by them, and a dump takes them from the environment.
-/

namespace KoreWebsocket.Rtc

open JsonCpp

/-- What a request finds outside of the objects: the numbers and texts that are drawn at random, the
candidates of the sockets that could be opened, and what the network has made of transports and
streams. -/
structure Environment where
  /-- The ids that are drawn for senders, in the order in which a room creates them. -/
  rtpSenderIds : Nat → UInt32
  /-- The `muxId` that a sender draws. -/
  muxIds : UInt32 × UInt32 → String
  usernameFragment : String
  password : String
  /-- The ICE candidate of a UDP or TCP socket for IPv4 or IPv6, if it can be opened. -/
  candidate : (udp ipv6 : Bool) → (priority : Nat) → Option Value
  /-- The other members in the JSON of a transport. -/
  transportJson : UInt32 → UInt32 → List (String × Value)
  /-- The JSON of a stream of a receiver or a sender. -/
  rtpStreamJson : UInt32 × UInt32 → UInt32 → Value

/-- `Transport`. -/
structure Transport where
  rtpListener : RtpListener := {}
  hasRemb : Bool := false
  remoteDtlsParametersGiven : Bool := false
  maxBitrate : UInt32 := 0

namespace Transport

variable (t : Transport)

/-- `Transport::EnableRemb`. -/
def enableRemb : Transport := { t with hasRemb := true }

/-- `Transport::RemoveRtpReceiver`. -/
def removeRtpReceiver (rtpReceiverId : UInt32) : Transport :=
  { t with rtpListener := t.rtpListener.removeRtpReceiver rtpReceiverId.toNat }

/-- `Transport::AddRtpReceiver` of a receiver with these parameters: the transport afterwards, and
what is thrown. -/
def addRtpReceiver (rtpReceiverId : UInt32) : Option RtpParameters → Transport × Except Fault Unit
  | none => (t, .error (.abort .listenerAddRtpReceiver))
  | some p =>
      match t.rtpListener.addRtpReceiver rtpReceiverId.toNat p with
      | (rtpListener, some what) => ({ t with rtpListener }, msThrow what)
      | (rtpListener, none) => ({ t with rtpListener }, .ok ())

/-- `generateIceCandidatePriority`. -/
def generateIceCandidatePriority (localPreference : Nat) : Nat :=
  2 ^ 24 * 64 + 2 ^ 8 * localPreference + (256 - 1)

/-- The candidate of one of the four sockets that the constructor tries. -/
def openSocket (env : Environment) (data : Value) (udp ipv6 : Bool) : Option Value :=
  let tried := data.member (if udp then "udp" else "tcp")
  let family := if ipv6 then "preferIPv6" else "preferIPv4"
  let protocol := if udp then "preferUdp" else "preferTcp"
  let localPreference := 20000 + (if (data.member family).asBool then 10000 else 0) +
    (if (data.member protocol).asBool then 5000 else 0)
  if tried.isBool && !tried.asBool then none
  else env.candidate udp ipv6 (generateIceCandidatePriority localPreference)

/-- `iceLocalCandidates`, as the constructor leaves them. -/
def iceLocalCandidates (env : Environment) (data : Value) : List Value :=
  [openSocket env data true false, openSocket env data true true, openSocket env data false false,
    openSocket env data false true].filterMap id

/-- `Transport::Transport`. -/
def create (env : Environment) (data : Value) : Except Fault Transport :=
  if (iceLocalCandidates env data).isEmpty then msThrow "could not open any IP:port" else .ok {}

end Transport

/-- `RtpReceiver`. Of its streams the SSRCs are here, and those of `rtxStreamMap`, among them those whose
stream is deleted. -/
structure RtpReceiver where
  kind : MediaKind
  transport : Option UInt32 := none
  rtpParameters : Option RtpParameters := none
  rtpStreams : List UInt32 := []
  rtxStreamMap : List UInt32 := []
  deletedRtx : List UInt32 := []
  rtpRawEventEnabled : Bool := false
  rtpObjectEventEnabled : Bool := false

namespace RtpReceiver

variable (r : RtpReceiver)

/-- `RtpReceiver::RemoveTransport`. -/
def removeTransport (transportId : UInt32) : RtpReceiver :=
  if r.transport = some transportId then { r with transport := none } else r

/-- `RtpReceiver::ClearRtpStreams`. What `rtxStreamMap` points to is deleted with the other streams. -/
def clearRtpStreams : RtpReceiver := { r with rtpStreams := [], deletedRtx := r.rtxStreamMap }

/-- `this->transport->EnableRemb()`, in the transports of the peer, if the codec asks for it. -/
def enableRemb (codec : RtpCodecParameters) (transports : Table UInt32 Transport) :
    Except Fault (Table UInt32 Transport) :=
  if codec.useRemb then
    match r.transport with
    | some transportId => .ok (transports.modify transportId Transport.enableRemb)
    | none => .error .nullTransport
  else .ok transports

/-- The RTX part of `RtpReceiver::CreateRtpStream`. -/
def createRtxStream (p : RtpParameters) (encoding : RtpEncodingParameters) :
    Except Fault RtpReceiver :=
  if encoding.hasRtx && encoding.rtx.ssrc ≠ 0 && encoding.rtx.ssrc ∉ r.rtxStreamMap then do
    let codec ← p.getRtxCodecForEncoding encoding
    if codec.hasPayloadType then
      return { r with rtxStreamMap := encoding.rtx.ssrc :: r.rtxStreamMap }
    return r
  else .ok r

/-- `RtpReceiver::CreateRtpStream`, with the transports of the peer. -/
def createRtpStream (p : RtpParameters) (s : Table UInt32 Transport × RtpReceiver)
    (encoding : RtpEncodingParameters) : Except Fault (Table UInt32 Transport × RtpReceiver) :=
  if encoding.ssrc = 0 ∨ encoding.ssrc ∈ s.2.rtpStreams then .ok s
  else do
    let codec ← p.getCodecForEncoding encoding
    let r := { s.2 with rtpStreams := encoding.ssrc :: s.2.rtpStreams }
    let transports ← r.enableRemb codec s.1
    return (transports, ← r.createRtxStream p encoding)

end RtpReceiver

/-- `RtpSender`. -/
structure RtpSender where
  kind : MediaKind
  transport : Option UInt32 := none
  rtpParameters : Option RtpParameters := none
  hasRtpStream : Bool := false
  supportedPayloadTypes : List UInt8 := []
  available : Bool := false
  disabled : Bool := false

namespace RtpSender

variable (s : RtpSender)

/-- `RtpSender::GetActive`. -/
def getActive : Bool := s.available && s.transport.isSome && !s.disabled

/-- `RtpSender::RemoveTransport`. -/
def removeTransport (transportId : UInt32) : RtpSender :=
  if s.transport = some transportId then { s with transport := none } else s

/-- The loop over the codecs in `RtpSender::Send`, after these. It looks for a match among the codecs
themselves. -/
def supportedCodecs : (before rest : List RtpCodecParameters) → Except Fault (List RtpCodecParameters)
  | before, [] => .ok before
  | before, codec :: rest => do
      match ← RtpCodecParameters.findMatch codec false (before ++ codec :: rest) with
      | some _ => supportedCodecs (before ++ [codec]) rest
      | none => supportedCodecs before rest

/-- The codecs that `RtpSender::CreateRtpStream` looks up. -/
def createRtpStream (p : RtpParameters) (encoding : RtpEncodingParameters) : Except Fault Unit := do
  let _ ← p.getCodecForEncoding encoding
  if encoding.hasRtx && encoding.rtx.ssrc ≠ 0 then
    let _ ← p.getRtxCodecForEncoding encoding

/-- `RtpSender::Send`, for a peer with these capabilities and with the `muxId` that is drawn. -/
def send (muxId : String) (peerCapabilities : RtpCapabilities) (p : RtpParameters) :
    Except Fault RtpSender := do
  let codecs ← supportedCodecs [] p.codecs
  let supportedPayloadTypes := codecs.map (·.payloadType) ∪ s.supportedPayloadTypes
  let encodings := (p.encodings.filter (·.codecPayloadType ∈ supportedPayloadTypes)).take 1
  let p : RtpParameters :=
    { { p with codecs, encodings }.reduceHeaderExtensions peerCapabilities.headerExtensions with muxId }
  encodings.forM (createRtpStream p)
  return { s with
    rtpParameters := some p, supportedPayloadTypes
    hasRtpStream := !encodings.isEmpty, available := !encodings.isEmpty }

end RtpSender

/-- `Peer`. The capabilities are there if `hasCapabilities` is set. -/
structure Peer where
  peerName : String := ""
  capabilities : Option RtpCapabilities := none
  transports : Table UInt32 Transport := ∅
  rtpReceivers : Table UInt32 RtpReceiver := ∅
  rtpSenders : Table UInt32 RtpSender := ∅

namespace Peer

variable (peer : Peer)

/-- `Peer::OnTransportClosed`. -/
def onTransportClosed (transportId : UInt32) : Peer :=
  { peer with
    rtpReceivers := peer.rtpReceivers.mapValues fun _ r => r.removeTransport transportId
    rtpSenders := peer.rtpSenders.mapValues fun _ s => s.removeTransport transportId
    transports := peer.transports.erase transportId }

/-- `transport->AddRtpReceiver(rtpReceiver)`: the peer afterwards, and what is thrown. -/
def addRtpReceiver (transportId rtpReceiverId : UInt32) (p : Option RtpParameters) :
    Peer × Except Fault Unit :=
  match peer.transports.find? transportId with
  | some transport =>
      let (transport, result) := transport.addRtpReceiver rtpReceiverId p
      ({ peer with transports := peer.transports.insert transportId transport }, result)
  | none => (peer, .ok ())

/-- `Peer::OnRtpReceiverParameters` for a receiver that has been given new parameters: the peer
afterwards, and the parameters that it supports unless something is thrown. -/
def onRtpReceiverParameters (rtpReceiverId : UInt32) (r : RtpReceiver) (p : RtpParameters) :
    Peer × Except Fault RtpParameters :=
  let capabilities := peer.capabilities.getD {}
  match p.reduceCodecsAndEncodings capabilities with
  | .error fault => (peer, .error fault)
  | .ok p =>
      let p := p.reduceHeaderExtensions capabilities.headerExtensions
      match r.transport with
      | none => (peer, .ok p)
      | some transportId =>
          let (peer, result) := peer.addRtpReceiver transportId rtpReceiverId (some p)
          (peer, result.map fun _ => p)

/-- The streams of a receiver's new parameters. -/
def createRtpStreams (rtpReceiverId : UInt32) : Except Fault Peer :=
  match peer.rtpReceivers.find? rtpReceiverId with
  | none => .ok peer
  | some r =>
      match r.rtpParameters with
      | none => .ok peer
      | some p => do
          let (transports, r) ← p.encodings.foldlM (RtpReceiver.createRtpStream p) (peer.transports, r)
          return { peer with transports, rtpReceivers := peer.rtpReceivers.insert rtpReceiverId r }

/-- The part of `Peer::OnRtpReceiverClosed` that is in the peer. -/
def onRtpReceiverClosed (rtpReceiverId : UInt32) : Peer :=
  { peer with
    transports := peer.transports.mapValues fun _ t => t.removeRtpReceiver rtpReceiverId
    rtpReceivers := peer.rtpReceivers.erase rtpReceiverId }

end Peer

end KoreWebsocket.Rtc
