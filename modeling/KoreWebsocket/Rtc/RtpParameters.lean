import KoreWebsocket.Lib.JsonCpp
import KoreWebsocket.Lib.Table

/-!
# RTP parameters (`RTC::RtpParameters` and its parts, `mediasoup_1/soup`)

The values that requests give to rooms, peers and receivers, after they are parsed
(`RTC/RtpDictionaries.hpp`, `RTC/Parameters.hpp`).
-/

namespace KoreWebsocket.Rtc

/-- `Media::Kind`. -/
inductive MediaKind
  | all | audio | video | depth
  deriving DecidableEq, Repr

/-- `RtpCodecMime::Type`. -/
inductive MimeType
  | unset | audio | video
  deriving DecidableEq, Repr

/-- `RtpCodecMime::Subtype`. -/
inductive MimeSubtype
  | unset
  | opus | pcma | pcmu | isac | g722 | ilbc | silk
  | vp8 | vp9 | h264 | xH264uc | h265
  | cn | telephoneEvent
  | rtx | ulpfec | xUlpfecuc | flexfec | red
  deriving DecidableEq, Repr

/-- `RtpCodecMime`. -/
structure RtpCodecMime where
  type : MimeType := .unset
  subtype : MimeSubtype := .unset
  deriving DecidableEq, Repr

/-- `RtpCodecMime::IsMediaCodec`: the audio codecs and the video codecs. -/
def RtpCodecMime.isMediaCodec (mime : RtpCodecMime) : Bool :=
  match mime.subtype with
  | .opus | .pcma | .pcmu | .isac | .g722 | .ilbc | .silk => true
  | .vp8 | .vp9 | .h264 | .xH264uc | .h265 => true
  | _ => false

/-- `RtpCodecMime::IsFeatureCodec`. -/
def RtpCodecMime.isFeatureCodec (mime : RtpCodecMime) : Bool :=
  match mime.subtype with
  | .rtx | .ulpfec | .xUlpfecuc | .flexfec | .red => true
  | _ => false

/-- `Parameters::Value`. -/
inductive ParameterValue
  | boolean (booleanValue : Bool)
  | integer (integerValue : Int)
  | double (doubleValue : ℚ)
  | string (stringValue : String)
  | arrayOfIntegers (arrayOfIntegers : List Int)
  deriving DecidableEq, Repr

/-- The member `integerValue`, which a value of another type leaves at its default. -/
def ParameterValue.integerValue : ParameterValue → Int
  | .integer integerValue => integerValue
  | _ => 0

/-- `Parameters`. -/
structure Parameters where
  mapKeyValues : Table String ParameterValue := ∅
  deriving DecidableEq, Repr

/-- `RtcpFeedback`. -/
structure RtcpFeedback where
  type : String
  parameter : String := ""
  deriving DecidableEq, Repr

/-- `Scope`. -/
inductive Scope
  | roomCapability | peerCapability | receive
  deriving DecidableEq, Repr

/-- `RtpCodecParameters`. -/
structure RtpCodecParameters where
  scope : Scope := .roomCapability
  kind : MediaKind := .all
  mime : RtpCodecMime := {}
  payloadType : UInt8 := 0
  hasPayloadType : Bool := false
  clockRate : UInt32 := 0
  maxptime : UInt32 := 0
  ptime : UInt32 := 0
  numChannels : UInt32 := 1
  parameters : Parameters := {}
  rtcpFeedback : List RtcpFeedback := []
  deriving DecidableEq, Repr

/-- `RtpHeaderExtensionUri::Type`. -/
inductive HeaderExtensionType
  | unknown | ssrcAudioLevel | toOffset | absSendTime | videoOrientation | rtpStreamId
  deriving DecidableEq, Repr

/-- `RtpHeaderExtension`. -/
structure RtpHeaderExtension where
  kind : MediaKind := .all
  uri : String
  type : HeaderExtensionType
  preferredId : UInt8 := 0
  preferredEncrypt : Bool := false
  deriving DecidableEq, Repr

/-- `RtpCapabilities`. -/
structure RtpCapabilities where
  codecs : List RtpCodecParameters := []
  headerExtensions : List RtpHeaderExtension := []
  fecMechanisms : List String := []
  deriving DecidableEq, Repr

/-- `RtpRtxParameters`. -/
structure RtpRtxParameters where
  ssrc : UInt32 := 0
  deriving DecidableEq, Repr

/-- `RtpFecParameters`. -/
structure RtpFecParameters where
  mechanism : String := ""
  ssrc : UInt32 := 0
  deriving DecidableEq, Repr

/-- `RtpEncodingParameters`. -/
structure RtpEncodingParameters where
  ssrc : UInt32 := 0
  codecPayloadType : UInt8 := 0
  hasCodecPayloadType : Bool := false
  fec : RtpFecParameters := {}
  hasFec : Bool := false
  rtx : RtpRtxParameters := {}
  hasRtx : Bool := false
  resolutionScale : ℚ := 1
  framerateScale : ℚ := 1
  maxFramerate : UInt32 := 0
  active : Bool := true
  encodingId : String := ""
  dependencyEncodingIds : List String := []
  deriving DecidableEq, Repr

/-- `RtpHeaderExtensionParameters`. -/
structure RtpHeaderExtensionParameters where
  uri : String
  type : HeaderExtensionType
  id : UInt8 := 0
  encrypt : Bool := false
  parameters : Parameters := {}
  deriving DecidableEq, Repr

/-- `RtcpParameters`. -/
structure RtcpParameters where
  cname : String := ""
  ssrc : UInt32 := 0
  reducedSize : Bool := true
  deriving DecidableEq, Repr

/-- `RtpParameters`. `rtcp` is there if `hasRtcp` is set. -/
structure RtpParameters where
  muxId : String := ""
  codecs : List RtpCodecParameters := []
  encodings : List RtpEncodingParameters := []
  headerExtensions : List RtpHeaderExtensionParameters := []
  rtcp : Option RtcpParameters := none
  userParameters : JsonCpp.Value := .empty
  deriving Repr

end KoreWebsocket.Rtc
