import KoreWebsocket.Rtc.RtpParameters

/-!
# RTP dictionaries (`RTC/RtpDictionaries/*.cpp`, `mediasoup_1/soup`)

The constructors that read the dictionaries from the JSON of a request, and the operations on them. A
`MediaSoupError` is thrown with its text, cut to the buffer that it is printed into. A call can also
end without a result in ways that no handler catches: the JSON library throws an error of its own, or
an assertion fails and the worker aborts.
-/

namespace KoreWebsocket.Rtc

open JsonCpp

/-! ## Exceptions and assertions -/

/-- The assertions that a request can reach (`MS_ASSERT` and `MS_ABORT`), by the function that has
them. -/
inductive Assertion
  | parametersGetInteger
  | getCodecForEncoding
  | listenerAddRtpReceiver
  | onPeerCapabilities
  | onPeerRtpReceiverParameters
  | onFullFrameRequired
  | addRtpSenderForRtpReceiver
  | peerAddRtpSender
  deriving DecidableEq, Repr

/-- What ends a call before it returns. -/
inductive Fault
  | mediaSoupError (what : String)
  | logicError
  | abort (assertion : Assertion)
  | nullTransport
  deriving DecidableEq, Repr

/-- The characters that fit into a number of bytes. -/
def clip : Nat → List Char → List Char
  | _, [] => []
  | n, c :: cs => if c.utf8Size ≤ n then c :: clip (n - c.utf8Size) cs else []

/-- `MS_THROW_ERROR`: the buffer has 2000 bytes, the last for the terminator. -/
def msThrow {α : Type} (desc : String) : Except Fault α :=
  .error (.mediaSoupError (String.ofList (clip 1999 desc.toList)))

/-- `Utils::String::ToLowerCase`. -/
def toLowerCase (str : String) : String := String.ofList (str.toList.map Char.toLower)

/-! ## Media kinds, MIME types and parameters -/

/-- `Media::string2Kind`. -/
def string2Kind : List (String × MediaKind) :=
  [("", .all), ("audio", .audio), ("video", .video), ("depth", .depth)]

/-- `Media::GetKind`. -/
def getKind (str : String) : Except Fault MediaKind :=
  match string2Kind.lookup (toLowerCase str) with
  | some kind => .ok kind
  | none => msThrow ("invalid media kind [kind:" ++ toLowerCase str ++ "]")

/-- `RtpCodecMime::string2Type`. -/
def string2Type : List (String × MimeType) := [("audio", .audio), ("video", .video)]

/-- `RtpCodecMime::string2Subtype`. -/
def string2Subtype : List (String × MimeSubtype) :=
  [("opus", .opus), ("pcma", .pcma), ("pcmu", .pcmu), ("isac", .isac), ("g722", .g722),
    ("ilbc", .ilbc), ("silk", .silk),
    ("vp8", .vp8), ("vp9", .vp9), ("h264", .h264), ("x-h264uc", .xH264uc), ("h265", .h265),
    ("cn", .cn), ("telephone-event", .telephoneEvent),
    ("rtx", .rtx), ("ulpfec", .ulpfec), ("flexfec", .flexfec), ("x-ulpfecuc", .xUlpfecuc),
    ("red", .red)]

/-- `RtpCodecMime::SetName`. -/
def RtpCodecMime.setName (name : String) : Except Fault RtpCodecMime :=
  let type := name.toList.takeWhile (· ≠ '/')
  let subtype := (name.toList.dropWhile (· ≠ '/')).tail
  -- No slash, nothing before it or nothing after it.
  if '/' ∉ name.toList ∨ type = [] ∨ subtype = [] then msThrow "wrong codec MIME"
  else
    let type := toLowerCase (String.ofList type)
    let subtype := toLowerCase (String.ofList subtype)
    match string2Type.lookup type with
    | none => msThrow ("unknown codec MIME type '" ++ type ++ "'")
    | some mimeType =>
        match string2Subtype.lookup subtype with
        | none => msThrow ("unknown codec MIME subtype '" ++ subtype ++ "'")
        | some mimeSubtype => .ok { type := mimeType, subtype := mimeSubtype }

namespace Parameters

variable (p : Parameters)

/-- `Parameters::SetInteger`, and the same for the other types. -/
def setValue (key : String) (value : ParameterValue) : Parameters :=
  { mapKeyValues := p.mapKeyValues.insert key value }

/-- One member in `Parameters::Set`. An array counts if all its elements are integers, and the types
that are not listed are ignored. -/
def setMember (m : String × Value) : Except Fault Parameters :=
  match m.2 with
  | .bool b => .ok (p.setValue m.1 (.boolean b))
  | .int _ =>
      match m.2.asInt? with
      | some n => .ok (p.setValue m.1 (.integer n))
      | none => .error .logicError
  | .real q => .ok (p.setValue m.1 (.double q))
  | .string s => .ok (p.setValue m.1 (.string s))
  | .array elements =>
      if elements.isEmpty || !elements.all Value.isInt then .ok p
      else .ok (p.setValue m.1 (.arrayOfIntegers (elements.filterMap Value.asInt?)))
  | .null | .uint _ | .object _ => .ok p

/-- `Parameters::Set`. -/
def set (data : Value) : Except Fault Parameters := data.members.foldlM setMember p

/-- The member `parameters` of codecs and header extensions, which is read if it is an object. -/
def ofJson (data : Value) : Except Fault Parameters := if data.isObject then set {} data else .ok {}

/-- `Parameters::HasInteger`. -/
def hasInteger (key : String) : Bool :=
  match p.mapKeyValues.find? key with
  | some (.integer _) => true
  | _ => false

/-- `Parameters::GetInteger`, which aborts if there is no such key. -/
def getInteger (key : String) : Except Fault Int :=
  match p.mapKeyValues.find? key with
  | some value => .ok value.integerValue
  | none => .error (.abort .parametersGetInteger)

end Parameters

/-! ## Codecs -/

/-- `RtcpFeedback::RtcpFeedback`. -/
def RtcpFeedback.ofJson (data : Value) : Except Fault RtcpFeedback :=
  if !data.isObject then msThrow "RtcpFeedback is not an object"
  else if !(data.member "type").isString then msThrow "missing RtcpFeedback.type"
  else
    .ok { type := (data.member "type").asString, parameter := (data.member "parameter").asString }

namespace RtpCodecParameters

variable (codec : RtpCodecParameters)

/-- `RtpCodecParameters::CheckCodec`. -/
def checkCodec : Except Fault RtpCodecParameters :=
  match codec.mime.subtype with
  | .rtx =>
      if codec.parameters.hasInteger "apt" then .ok codec
      else msThrow "missing apt parameter in RTX RtpCodecParameters"
  | .opus => .ok (if codec.numChannels < 2 then { codec with numChannels := 2 } else codec)
  | .h264 =>
      .ok (if codec.parameters.hasInteger "packetizationMode" then codec
        else { codec with parameters := codec.parameters.setValue "packetizationMode" (.integer 0) })
  | _ => .ok codec

/-- An unsigned integer that may be missing. -/
def optionalUInt (data : Value) (key : String) (default : UInt32) : UInt32 :=
  if (data.member key).isUInt then (data.member key).asUInt else default

/-- The kind, which the codecs of a receiver do not have. -/
def readKind (data : Value) (scope : Scope) : Except Fault MediaKind :=
  if scope = .receive then .ok .all
  else if !(data.member "kind").isString then msThrow "missing RtpCodecParameters.kind"
  else getKind (data.member "kind").asString

/-- The members that `RtpCodecParameters::RtpCodecParameters` reads, before the codec is checked. -/
def readFields (data : Value) (scope : Scope) : Except Fault RtpCodecParameters := do
  unless data.isObject do msThrow "RtpCodecParameters is not an object"
  let kind ← readKind data scope
  unless (data.member "name").isString do msThrow "missing RtpCodec.name"
  let mime ← RtpCodecMime.setName (data.member "name").asString
  let hasPayloadType := (data.member "payloadType").isUInt
  if scope ≠ .roomCapability ∧ hasPayloadType = false then
    msThrow "missing RtpCodecParameters.payloadType"
  unless (data.member "clockRate").isUInt do msThrow "missing RtpCodecParameters.clockRate"
  let parameters ← Parameters.ofJson (data.member "parameters")
  let rtcpFeedback ← (data.member "rtcpFeedback").elements.mapM RtcpFeedback.ofJson
  return {
    scope, kind, mime, hasPayloadType, parameters, rtcpFeedback
    payloadType := if hasPayloadType then (data.member "payloadType").asUInt.toUInt8 else 0
    clockRate := (data.member "clockRate").asUInt
    maxptime := optionalUInt data "maxptime" 0
    ptime := optionalUInt data "ptime" 0
    numChannels := optionalUInt data "numChannels" 1 }

/-- `RtpCodecParameters::RtpCodecParameters`. -/
def ofJson (data : Value) (scope : Scope) : Except Fault RtpCodecParameters := do
  (← readFields data scope).checkCodec

/-- `RtpCodecParameters::Matches`. -/
def matchesCodec (given : RtpCodecParameters) (checkPayloadType : Bool) : Except Fault Bool :=
  if codec.mime ≠ given.mime then .ok false
  else if checkPayloadType && codec.payloadType ≠ given.payloadType then .ok false
  else if codec.clockRate ≠ given.clockRate then .ok false
  else if codec.kind = .audio && codec.numChannels ≠ given.numChannels then .ok false
  else if codec.mime.subtype = .h264 then do
    let packetizationMode ← codec.parameters.getInteger "packetizationMode"
    let givenPacketizationMode ← given.parameters.getInteger "packetizationMode"
    return packetizationMode = givenPacketizationMode
  else .ok true

/-- The first codec of a list that matches a given one. -/
def findMatch (given : RtpCodecParameters) (checkPayloadType : Bool) :
    List RtpCodecParameters → Except Fault (Option RtpCodecParameters)
  | [] => .ok none
  | codec :: codecs => do
      if ← codec.matchesCodec given checkPayloadType then return some codec
      findMatch given checkPayloadType codecs

/-- `RtpCodecParameters::ReduceRtcpFeedback`. -/
def reduceRtcpFeedback (supported : List RtcpFeedback) : RtpCodecParameters :=
  { codec with
    rtcpFeedback := codec.rtcpFeedback.filterMap fun item =>
      supported.find? fun supportedItem =>
        item.type = supportedItem.type && item.parameter = supportedItem.parameter }

/-- The codec asks for REMB. -/
def useRemb : Bool := codec.rtcpFeedback.any (·.type = "goog-remb")

end RtpCodecParameters

/-! ## Header extensions and capabilities -/

/-- `RtpHeaderExtensionUri::string2Type`. -/
def string2HeaderExtensionType : List (String × HeaderExtensionType) :=
  [("urn:ietf:params:rtp-hdrext:ssrc-audio-level", .ssrcAudioLevel),
    ("urn:ietf:params:rtp-hdrext:toffset", .toOffset),
    ("http://www.webrtc.org/experiments/rtp-hdrext/abs-send-time", .absSendTime),
    ("urn:3gpp:video-orientation", .videoOrientation),
    ("urn:ietf:params:rtp-hdrext:sdes:rtp-stream-id", .rtpStreamId)]

/-- `RtpHeaderExtensionUri::GetType` of a URI that is in lower case already. -/
def getHeaderExtensionType (uri : String) : HeaderExtensionType :=
  (string2HeaderExtensionType.lookup uri).getD .unknown

/-- `RtpHeaderExtension::RtpHeaderExtension`. `GetType` changes the URI to lower case. -/
def RtpHeaderExtension.ofJson (data : Value) : Except Fault RtpHeaderExtension := do
  unless data.isObject do msThrow "RtpHeaderExtension is not an object"
  unless (data.member "kind").isString do msThrow "missing RtpCodecCapability.kind"
  let kind ← getKind (data.member "kind").asString
  unless (data.member "uri").isString do msThrow "missing RtpHeaderExtension.uri"
  if (data.member "uri").asString = "" then msThrow "empty RtpHeaderExtension.uri"
  let uri := toLowerCase (data.member "uri").asString
  unless (data.member "preferredId").isUInt do msThrow "missing RtpHeaderExtension.preferredId"
  return {
    kind, uri
    type := getHeaderExtensionType uri
    preferredId := (data.member "preferredId").asUInt.toUInt8
    preferredEncrypt := (data.member "preferredEncrypt").asBool }

/-- `RtpHeaderExtensionParameters::RtpHeaderExtensionParameters`. -/
def RtpHeaderExtensionParameters.ofJson (data : Value) : Except Fault RtpHeaderExtensionParameters := do
  unless data.isObject do msThrow "RtpHeaderExtensionParameters is not an object"
  unless (data.member "uri").isString do msThrow "missing RtpHeaderExtensionParameters.uri"
  if (data.member "uri").asString = "" then msThrow "empty RtpHeaderExtensionParameters.uri"
  let uri := toLowerCase (data.member "uri").asString
  unless (data.member "id").isUInt do msThrow "missing RtpHeaderExtensionParameters.id"
  let parameters ← Parameters.ofJson (data.member "parameters")
  return {
    uri, parameters
    type := getHeaderExtensionType uri
    id := (data.member "id").asUInt.toUInt8
    encrypt := (data.member "encrypt").asBool }

namespace RtpCapabilities

variable (capabilities : RtpCapabilities)

/-- No payload type is there twice. -/
def validatePayloadTypes : List UInt8 → List RtpCodecParameters → Except Fault Unit
  | _, [] => .ok ()
  | payloadTypes, codec :: codecs =>
      if codec.payloadType ∈ payloadTypes then msThrow "duplicated codec.payloadType"
      else validatePayloadTypes (codec.payloadType :: payloadTypes) codecs

/-- `RtpCapabilities::ValidateCodecs`. -/
def validateCodecs (scope : Scope) : Except Fault Unit :=
  if scope = .peerCapability then validatePayloadTypes [] capabilities.codecs else .ok ()

/-- One element of `fecMechanisms`. -/
def fecMechanism (data : Value) : Except Fault String :=
  if data.isString then .ok data.asString else msThrow "invalid RtpCapabilities.fecMechanisms"

/-- `RtpCapabilities::RtpCapabilities`. -/
def ofJson (data : Value) (scope : Scope) : Except Fault RtpCapabilities := do
  let codecs ← (data.member "codecs").elements.mapM (RtpCodecParameters.ofJson · scope)
  let headerExtensions ← (data.member "headerExtensions").elements.mapM RtpHeaderExtension.ofJson
  let fecMechanisms ← (data.member "fecMechanisms").elements.mapM fecMechanism
  let capabilities : RtpCapabilities :=
    { codecs, fecMechanisms, headerExtensions := headerExtensions.filter (·.type ≠ .unknown) }
  capabilities.validateCodecs scope
  return capabilities

/-- `RtpCapabilities::ReduceHeaderExtensions`. -/
def reduceHeaderExtensions (supported : List RtpHeaderExtension) : RtpCapabilities :=
  { capabilities with
    headerExtensions := capabilities.headerExtensions.filterMap fun headerExtension =>
      (supported.find? fun s =>
        headerExtension.type = s.type && (headerExtension.kind = s.kind || s.kind = .all)).map
        fun s => { headerExtension with
          preferredId := s.preferredId, preferredEncrypt := s.preferredEncrypt } }

/-- `RtpCapabilities::ReduceFecMechanisms`. -/
def reduceFecMechanisms (supported : List String) : RtpCapabilities :=
  { capabilities with
    fecMechanisms := capabilities.fecMechanisms.filter (· ∈ supported) }

end RtpCapabilities

/-! ## Encodings and parameters -/

/-- `RtpFecParameters::RtpFecParameters` of the member `fec`, which is read if it is an object. -/
def RtpFecParameters.ofJson (data : Value) : Except Fault RtpFecParameters :=
  if !data.isObject then .ok {}
  else if !(data.member "mechanism").isString then msThrow "missing RtpFecParameters.mechanism"
  else .ok {
    mechanism := (data.member "mechanism").asString
    ssrc := RtpCodecParameters.optionalUInt data "ssrc" 0 }

/-- `RtpEncodingParameters::RtpEncodingParameters`. -/
def RtpEncodingParameters.ofJson (data : Value) : Except Fault RtpEncodingParameters := do
  unless data.isObject do msThrow "RtpEncodingParameters is not an object"
  let hasCodecPayloadType := (data.member "codecPayloadType").isUInt
  let hasFec := (data.member "fec").isObject
  let fec ← RtpFecParameters.ofJson (data.member "fec")
  let hasRtx := (data.member "rtx").isObject
  return {
    hasCodecPayloadType, hasFec, fec, hasRtx
    ssrc := RtpCodecParameters.optionalUInt data "ssrc" 0
    codecPayloadType :=
      if hasCodecPayloadType then (data.member "codecPayloadType").asUInt.toUInt8 else 0
    rtx := { ssrc := RtpCodecParameters.optionalUInt (data.member "rtx") "ssrc" 0 }
    resolutionScale :=
      if (data.member "resolutionScale").isDouble then (data.member "resolutionScale").asDouble else 1
    framerateScale :=
      if (data.member "framerateScale").isDouble then (data.member "framerateScale").asDouble else 1
    maxFramerate := RtpCodecParameters.optionalUInt data "maxFramerate" 0
    active := if (data.member "active").isBool then (data.member "active").asBool else true
    encodingId := (data.member "encodingId").asString
    dependencyEncodingIds :=
      ((data.member "dependencyEncodingIds").elements.filter Value.isString).map Value.asString }

/-- `RtcpParameters::RtcpParameters` of the member `rtcp`, which is read if it is an object. -/
def RtcpParameters.ofJson (data : Value) : Except Fault (Option RtcpParameters) :=
  if !data.isObject then .ok none
  else if (data.member "cname").isString ∧ (data.member "cname").asString = "" then
    msThrow "empty RtcpParameters.cname"
  else .ok (some {
    cname := (data.member "cname").asString
    ssrc := RtpCodecParameters.optionalUInt data "ssrc" 0
    reducedSize :=
      if (data.member "reducedSize").isBool then (data.member "reducedSize").asBool else true })

namespace RtpParameters

variable (p : RtpParameters)

/-- The check of an RTX codec in `RtpParameters::ValidateCodecs`. The test for an `apt` that names no
codec is inside the loop over the codecs, where it never holds. -/
def validateApt (codec : RtpCodecParameters) : Except Fault Unit :=
  match codec.mime.subtype with
  | .rtx => do
      let apt ← codec.parameters.getInteger "apt"
      match p.codecs.find? fun codec => codec.payloadType.toNat = apt with
      | some codec =>
          match codec.mime.subtype with
          | .rtx => msThrow "apt in RTX codec points to a RTX codec"
          | .ulpfec => msThrow "apt in RTX codec points to a ULPFEC codec"
          | .flexfec => msThrow "apt in RTX codec points to a FLEXFEC codec"
          | _ => .ok ()
      | none => .ok ()
  | _ => .ok ()

/-- The loop of `RtpParameters::ValidateCodecs`, after these payload types. -/
def validateCodecsFrom : List UInt8 → List RtpCodecParameters → Except Fault Unit
  | _, [] => .ok ()
  | payloadTypes, codec :: codecs => do
      if codec.payloadType ∈ payloadTypes then msThrow "duplicated codec.payloadType"
      p.validateApt codec
      validateCodecsFrom (codec.payloadType :: payloadTypes) codecs

/-- `RtpParameters::ValidateCodecs`. -/
def validateCodecs : Except Fault Unit :=
  if p.codecs.isEmpty then msThrow "empty RtpParameters.codecs"
  else p.validateCodecsFrom [] p.codecs

/-- One encoding in `RtpParameters::ValidateEncodings`. -/
def validateEncoding (firstMediaPayloadType : UInt8) (encoding : RtpEncodingParameters) :
    Except Fault RtpEncodingParameters :=
  if encoding.hasCodecPayloadType then
    match p.codecs.find? (·.payloadType = encoding.codecPayloadType) with
    | some codec =>
        if codec.mime.isMediaCodec then .ok encoding
        else msThrow "invalid encoding.codecPayloadType"
    | none => msThrow "unknown encoding.codecPayloadType"
  else
    .ok { encoding with codecPayloadType := firstMediaPayloadType, hasCodecPayloadType := true }

/-- `RtpParameters::ValidateEncodings`. -/
def validateEncodings : Except Fault RtpParameters :=
  match p.codecs.find? (·.mime.isMediaCodec) with
  | none => msThrow "no media codecs found"
  | some codec =>
      if p.encodings.isEmpty then
        .ok { p with
          encodings := [{ codecPayloadType := codec.payloadType, hasCodecPayloadType := true }] }
      else do
        return { p with encodings := ← p.encodings.mapM (p.validateEncoding codec.payloadType) }

/-- The members that `RtpParameters::RtpParameters` reads, before they are validated. -/
def readFields (data : Value) : Except Fault RtpParameters := do
  if (data.member "muxId").isString ∧ (data.member "muxId").asString = "" then
    msThrow "empty RtpParameters.muxId"
  unless (data.member "codecs").isArray do msThrow "missing RtpParameters.codecs"
  let codecs ← (data.member "codecs").elements.mapM (RtpCodecParameters.ofJson · .receive)
  let encodings ← (data.member "encodings").elements.mapM RtpEncodingParameters.ofJson
  let headerExtensions ←
    (data.member "headerExtensions").elements.mapM RtpHeaderExtensionParameters.ofJson
  let rtcp ← RtcpParameters.ofJson (data.member "rtcp")
  return {
    codecs, encodings, rtcp
    muxId := (data.member "muxId").asString
    headerExtensions := headerExtensions.filter (·.type ≠ .unknown)
    userParameters :=
      if (data.member "userParameters").isObject then data.member "userParameters" else .empty }

/-- `RtpParameters::RtpParameters`. -/
def ofJson (data : Value) : Except Fault RtpParameters := do
  let p ← readFields data
  p.validateCodecs
  p.validateEncodings

/-- The loop over the codecs in `RtpParameters::ReduceCodecsAndEncodings`: those that are supported,
and the payload types of the others. -/
def reduceCodecs (capabilities : RtpCapabilities) :
    List RtpCodecParameters → Except Fault (List RtpCodecParameters × List UInt8)
  | [] => .ok ([], [])
  | codec :: codecs => do
      let found ← RtpCodecParameters.findMatch codec true capabilities.codecs
      let (kept, removed) ← reduceCodecs capabilities codecs
      match found with
      | some capability => return (codec.reduceRtcpFeedback capability.rtcpFeedback :: kept, removed)
      | none => return (kept, codec.payloadType :: removed)

/-- `RtpParameters::ReduceCodecsAndEncodings`. -/
def reduceCodecsAndEncodings (capabilities : RtpCapabilities) : Except Fault RtpParameters := do
  let (codecs, removedCodecPayloadTypes) ← reduceCodecs capabilities p.codecs
  let p : RtpParameters :=
    { p with
      codecs
      encodings := p.encodings.filter (·.codecPayloadType ∉ removedCodecPayloadTypes) }
  p.validateCodecs
  p.validateEncodings

/-- `RtpParameters::ReduceHeaderExtensions`. -/
def reduceHeaderExtensions (supported : List RtpHeaderExtension) : RtpParameters :=
  { p with
    headerExtensions := p.headerExtensions.filterMap fun headerExtension =>
      (supported.find? (headerExtension.type = ·.type)).map fun s =>
        { headerExtension with id := s.preferredId, encrypt := s.preferredEncrypt } }

/-- `RtpParameters::GetCodecForEncoding`, which aborts if there is no such codec. -/
def getCodecForEncoding (encoding : RtpEncodingParameters) : Except Fault RtpCodecParameters :=
  match p.codecs.find? (·.payloadType = encoding.codecPayloadType) with
  | some codec => .ok codec
  | none => .error (.abort .getCodecForEncoding)

/-- The loop of `RtpParameters::GetRtxCodecForEncoding`. -/
def findRtxCodec (payloadType : UInt8) : List RtpCodecParameters → Except Fault RtpCodecParameters
  | [] => .ok {}
  | codec :: codecs => do
      if codec.mime.isFeatureCodec then
        if (← codec.parameters.getInteger "apt") = payloadType.toNat then return codec
      findRtxCodec payloadType codecs

/-- `RtpParameters::GetRtxCodecForEncoding`, which returns an empty codec if there is none. -/
def getRtxCodecForEncoding (encoding : RtpEncodingParameters) : Except Fault RtpCodecParameters :=
  findRtxCodec encoding.codecPayloadType p.codecs

end RtpParameters

end KoreWebsocket.Rtc
