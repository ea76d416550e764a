import KoreWebsocket.Rtc.Outcome

/-!
# Codecs and their assertions

The operations on codecs assert what the constructors have checked: the packetization mode of H264 and
the `apt` of an RTX codec (`Complete`), and that an encoding has a codec (`RtpParameters.Usable`). The
constructors throw and do not abort (`OnlyThrows`), and the codecs that they return are complete; codecs
that are matched with usable ones are usable, and no operation on usable parameters aborts.
-/

namespace KoreWebsocket.Rtc

open JsonCpp
open Checked (Ends)

/-! ## Exceptions -/

/-- A `MediaSoupError`. -/
def Fault.Caught (fault : Fault) : Prop := ∃ what, fault = .mediaSoupError what

/-- An exception, and not an assertion that fails. -/
def Fault.Thrown (fault : Fault) : Prop := fault.Caught ∨ fault = .logicError

/-- The call ends without an assertion that fails. -/
abbrev OnlyThrows {α : Type} (x : Except Fault α) : Prop := Ends x (fun _ => True) Fault.Thrown

/-- What is caught was thrown. -/
theorem Fault.Caught.thrown {fault : Fault} (h : fault.Caught) : fault.Thrown := .inl h

section
variable {α : Type} {P : α → Prop} {desc : String} {f : Unit → Except Fault α}

/-- `MS_THROW_ERROR` throws what is caught. -/
theorem ends_msThrow : Ends (msThrow desc : Except Fault α) P Fault.Caught := ⟨_, rfl⟩

/-- `MS_THROW_ERROR` throws an exception. -/
theorem ends_msThrow_thrown : Ends (msThrow desc : Except Fault α) P Fault.Thrown := .inl ⟨_, rfl⟩

/-- A call that goes on if a condition holds. -/
theorem ends_unless {c : Prop} [Decidable c] (h : Ends (f ()) P Fault.Thrown) :
    Ends (if c then f () else msThrow desc >>= f) P Fault.Thrown := by
  split
  · exact h
  · exact .inl ⟨_, rfl⟩

/-- A call that goes on if a condition does not hold. -/
theorem ends_throwIf {c : Prop} [Decidable c] (h : Ends (f ()) P Fault.Thrown) :
    Ends (if c then msThrow desc >>= f else f ()) P Fault.Thrown := by
  split
  · exact .inl ⟨_, rfl⟩
  · exact h

end

/-! ## The constructors -/

/-- `GetKind` knows the kinds of media. -/
theorem onlyThrows_getKind (str : String) : OnlyThrows (getKind str) := by
  unfold getKind
  split
  · trivial
  · exact ends_msThrow_thrown

/-- `SetName` knows the MIME types. -/
theorem onlyThrows_setName (name : String) : OnlyThrows (RtpCodecMime.setName name) := by
  unfold RtpCodecMime.setName
  dsimp only
  split
  · exact ends_msThrow_thrown
  · split
    · exact ends_msThrow_thrown
    · split
      · exact ends_msThrow_thrown
      · trivial

/-- The parameters of a codec are read or refused. -/
theorem onlyThrows_parameters (data : Value) : OnlyThrows (Parameters.ofJson data) := by
  unfold Parameters.ofJson
  split
  · refine Checked.ends_foldlM (fun p m _ _ => ?_) trivial
    unfold Parameters.setMember
    split
    · trivial
    · split
      · trivial
      · exact .inr rfl
    · trivial
    · trivial
    · split <;> trivial
    · trivial
    · trivial
    · trivial
  · trivial

/-- An RTCP feedback is read or refused. -/
theorem onlyThrows_rtcpFeedback (data : Value) : OnlyThrows (RtcpFeedback.ofJson data) := by
  unfold RtcpFeedback.ofJson
  split
  · exact ends_msThrow_thrown
  · split
    · exact ends_msThrow_thrown
    · trivial

/-- A header extension is read or refused. -/
theorem onlyThrows_headerExtension (data : Value) : OnlyThrows (RtpHeaderExtension.ofJson data) := by
  unfold RtpHeaderExtension.ofJson
  refine ends_unless (ends_unless ?_)
  refine (onlyThrows_getKind _).bind fun kind _ => ?_
  exact ends_unless (ends_throwIf (ends_unless trivial))

/-- The parameters of a header extension are read or refused. -/
theorem onlyThrows_headerExtensionParameters (data : Value) :
    OnlyThrows (RtpHeaderExtensionParameters.ofJson data) := by
  unfold RtpHeaderExtensionParameters.ofJson
  refine ends_unless (ends_unless (ends_throwIf (ends_unless ?_)))
  exact (onlyThrows_parameters _).bind fun parameters _ => trivial

/-- The FEC of an encoding is read or refused. -/
theorem onlyThrows_fec (data : Value) : OnlyThrows (RtpFecParameters.ofJson data) := by
  unfold RtpFecParameters.ofJson
  split
  · trivial
  · split
    · exact ends_msThrow_thrown
    · trivial

/-- The RTCP parameters are read or refused. -/
theorem onlyThrows_rtcp (data : Value) : OnlyThrows (RtcpParameters.ofJson data) := by
  unfold RtcpParameters.ofJson
  split
  · trivial
  · split
    · exact ends_msThrow_thrown
    · trivial

/-- An encoding is read or refused. -/
theorem onlyThrows_encoding (data : Value) : OnlyThrows (RtpEncodingParameters.ofJson data) := by
  unfold RtpEncodingParameters.ofJson
  refine ends_unless ?_
  exact (onlyThrows_fec _).bind fun fec _ => trivial

/-- A FEC mechanism is read or refused. -/
theorem onlyThrows_fecMechanism (data : Value) : OnlyThrows (RtpCapabilities.fecMechanism data) := by
  unfold RtpCapabilities.fecMechanism
  split
  · trivial
  · exact ends_msThrow_thrown

namespace RtpCodecParameters

variable {codec given : RtpCodecParameters}

/-- The fields of a codec are read or refused, in every scope. -/
theorem onlyThrows_readFields (data : Value) (scope : Scope) : OnlyThrows (readFields data scope) := by
  have hkind : OnlyThrows (readKind data scope) := by
    unfold readKind
    split
    · trivial
    · split
      · exact ends_msThrow_thrown
      · exact onlyThrows_getKind _
  unfold readFields
  refine ends_unless ?_
  refine hkind.bind fun kind _ => ?_
  refine ends_unless ?_
  refine (onlyThrows_setName _).bind fun mime _ => ?_
  refine ends_throwIf (ends_unless ?_)
  refine (onlyThrows_parameters _).bind fun parameters _ => ?_
  have hfeedback : OnlyThrows ((data.member "rtcpFeedback").elements.mapM RtcpFeedback.ofJson) :=
    (Checked.ends_mapM fun value _ => onlyThrows_rtcpFeedback value).mono (fun _ _ => trivial)
      fun _ h => h
  exact hfeedback.bind fun rtcpFeedback _ => trivial

/-- The parameters that a codec is asserted to have. -/
structure Complete (codec : RtpCodecParameters) : Prop where
  packetizationMode : codec.mime.subtype = .h264 →
    (codec.parameters.mapKeyValues.find? "packetizationMode").isSome = true
  apt : codec.mime.subtype = .rtx → (codec.parameters.mapKeyValues.find? "apt").isSome = true

/-- A codec that a peer may have: its feature codecs are RTX codecs. -/
structure Usable (codec : RtpCodecParameters) : Prop extends codec.Complete where
  rtx : codec.mime.isFeatureCodec = true → codec.mime.subtype = .rtx

/-- A parameter that is an integer is there. -/
theorem find?_of_hasInteger {p : Parameters} {key : String} (h : p.hasInteger key = true) :
    (p.mapKeyValues.find? key).isSome = true := by
  unfold Parameters.hasInteger at h
  split at h
  case h_1 n hfind => rw [hfind]; rfl
  case h_2 => cases h

/-- What is asserted is checked. -/
theorem ends_checkCodec (codec : RtpCodecParameters) :
    Ends codec.checkCodec Complete Fault.Thrown := by
  unfold checkCodec
  split
  case h_1 hrtx =>
    split
    case isTrue h =>
      exact ⟨fun hh264 => absurd (hrtx.symm.trans hh264) (by decide), fun _ => find?_of_hasInteger h⟩
    case isFalse => exact ends_msThrow_thrown
  case h_2 hopus =>
    have hmime : (if codec.numChannels < 2 then { codec with numChannels := 2 } else codec).mime =
        codec.mime := by split <;> rfl
    refine ⟨fun h => ?_, fun h => ?_⟩
    · rw [hmime, hopus] at h
      cases h
    · rw [hmime, hopus] at h
      cases h
  case h_3 hh264 =>
    split
    case isTrue h =>
      exact ⟨fun _ => find?_of_hasInteger h, fun hrtx => absurd (hh264.symm.trans hrtx) (by decide)⟩
    case isFalse =>
      refine ⟨fun _ => ?_, fun hrtx => absurd (hh264.symm.trans hrtx) (by decide)⟩
      change ((codec.parameters.mapKeyValues.insert _ _).find? _).isSome = true
      rw [Table.find?_insert, if_pos rfl]
      rfl
  case h_4 hrtx hopus hh264 => exact ⟨fun h => absurd h hh264, fun h => absurd h hrtx⟩

/-- A codec that is read has what it is asserted to have. -/
theorem ends_ofJson (data : Value) (scope : Scope) : Ends (ofJson data scope) Complete Fault.Thrown :=
  (onlyThrows_readFields data scope).bind fun codec _ => ends_checkCodec codec

/-- `GetInteger` of a parameter that is there fails no assertion. -/
theorem ends_getInteger {p : Parameters} {key : String}
    (h : (p.mapKeyValues.find? key).isSome = true) :
    Ends (p.getInteger key) (fun _ => True) fun _ => False := by
  obtain ⟨value, hvalue⟩ := Option.isSome_iff_exists.1 h
  unfold Parameters.getInteger
  rw [hvalue]
  trivial

/-- Complete codecs are compared without an assertion that fails. -/
theorem ends_matchesCodec (hcodec : codec.Complete) (hgiven : given.Complete)
    (checkPayloadType : Bool) :
    Ends (codec.matchesCodec given checkPayloadType) (fun found => found = true → codec.mime = given.mime)
      fun _ => False := by
  unfold matchesCodec
  split
  case isTrue => exact fun h => absurd h Bool.false_ne_true
  case isFalse hmime =>
    have hmime := not_not.1 hmime
    split
    · exact fun _ => hmime
    · split
      · exact fun _ => hmime
      · split
        · exact fun _ => hmime
        · split
          case isTrue hh264 =>
            refine (ends_getInteger (hcodec.packetizationMode hh264)).bind fun _ _ => ?_
            rw [hmime] at hh264
            refine (ends_getInteger (hgiven.packetizationMode hh264)).bind fun _ _ => ?_
            exact fun _ => hmime
          case isFalse => exact fun _ => hmime

/-- The codec that is found is one of the list, of the same format. -/
theorem ends_findMatch (hgiven : given.Complete) (checkPayloadType : Bool)
    {codecs : List RtpCodecParameters} (hcodecs : ∀ codec ∈ codecs, codec.Complete) :
    Ends (findMatch given checkPayloadType codecs)
      (fun found => ∀ codec, found = some codec → codec ∈ codecs ∧ codec.mime = given.mime)
      fun _ => False := by
  induction codecs with
  | nil => exact fun codec h => nomatch h
  | cons codec codecs ih =>
      obtain ⟨hcodec, hcodecs⟩ := List.forall_mem_cons.1 hcodecs
      unfold findMatch
      refine (ends_matchesCodec hcodec hgiven checkPayloadType).bind fun found hfound => ?_
      split
      case isTrue h =>
        intro codec' hcodec'
        obtain rfl := Option.some.inj hcodec'
        exact ⟨List.mem_cons_self, hfound h⟩
      case isFalse =>
        refine (ih hcodecs).mono (fun found' h codec' hcodec' => ?_) fun _ h => h
        exact ⟨List.mem_cons_of_mem codec (h codec' hcodec').1, (h codec' hcodec').2⟩

/-- A complete codec matches itself. -/
theorem matchesCodec_self (h : codec.Complete) : codec.matchesCodec codec false = .ok true := by
  unfold matchesCodec
  simp only [ne_eq, not_true_eq_false, decide_false, Bool.and_false, if_false, Bool.false_eq_true]
  split
  case isTrue hh264 =>
    obtain ⟨value, hvalue⟩ := Option.isSome_iff_exists.1 (h.packetizationMode hh264)
    unfold Parameters.getInteger
    rw [hvalue]
    simp
  case isFalse => rfl

/-- A codec of the list is found, or one before it that it matches. -/
theorem ends_findMatch_mem {codecs : List RtpCodecParameters} (hmem : given ∈ codecs)
    (hcodecs : ∀ codec ∈ codecs, codec.Complete) :
    Ends (findMatch given false codecs) (fun found => found.isSome = true) fun _ => False := by
  have hgiven := hcodecs given hmem
  induction codecs with
  | nil => exact absurd hmem List.not_mem_nil
  | cons codec codecs ih =>
      obtain ⟨hcodec, hcodecs⟩ := List.forall_mem_cons.1 hcodecs
      unfold findMatch
      rcases List.mem_cons.1 hmem with rfl | hmem
      · rw [matchesCodec_self hcodec]
        rfl
      · refine (ends_matchesCodec hcodec hgiven false).bind fun found _ => ?_
        split
        · rfl
        · exact ih hmem hcodecs

/-- A complete codec of the format of a usable one is usable. -/
theorem Complete.usable (h : given.Complete) (hcodec : codec.Usable) (hmime : codec.mime = given.mime) :
    given.Usable where
  toComplete := h
  rtx := fun hfeature => by
    rw [← hmime] at hfeature ⊢
    exact hcodec.rtx hfeature

end RtpCodecParameters

/-- The codecs of the capabilities that are read are complete. -/
theorem ends_capabilities (data : Value) (scope : Scope) :
    Ends (RtpCapabilities.ofJson data scope) (fun c => ∀ codec ∈ c.codecs, codec.Complete)
      Fault.Thrown := by
  have hvalid : ∀ codecs payloadTypes,
      OnlyThrows (RtpCapabilities.validatePayloadTypes payloadTypes codecs) := by
    intro codecs
    induction codecs with
    | nil => exact fun _ => trivial
    | cons codec codecs ih =>
        intro payloadTypes
        unfold RtpCapabilities.validatePayloadTypes
        split
        · exact ends_msThrow_thrown
        · exact ih _
  unfold RtpCapabilities.ofJson
  refine (Checked.ends_mapM fun value _ => RtpCodecParameters.ends_ofJson value scope).bind
    fun codecs hcodecs => ?_
  refine (Checked.ends_mapM fun value _ => onlyThrows_headerExtension value).bind
    fun headerExtensions _ => ?_
  refine (Checked.ends_mapM fun value _ => onlyThrows_fecMechanism value).bind
    fun fecMechanisms _ => ?_
  have hvalidated : OnlyThrows (RtpCapabilities.validateCodecs
      { codecs, fecMechanisms, headerExtensions := headerExtensions.filter (·.type ≠ .unknown) }
      scope) := by
    unfold RtpCapabilities.validateCodecs
    split
    · exact hvalid _ _
    · trivial
  exact hvalidated.bind fun _ _ => hcodecs

namespace RtpParameters

variable {p : RtpParameters} {capabilities : RtpCapabilities}

/-- Every encoding has its codec. -/
def EncodingsHaveCodecs (p : RtpParameters) : Prop :=
  ∀ encoding ∈ p.encodings, ∃ codec ∈ p.codecs, codec.payloadType = encoding.codecPayloadType

/-- There is an encoding, and every encoding is one of a media codec. -/
structure MediaEncodings (p : RtpParameters) : Prop where
  ne_nil : p.encodings ≠ []
  media : ∀ encoding ∈ p.encodings, ∃ codec ∈ p.codecs, codec.mime.isMediaCodec = true ∧
    codec.payloadType = encoding.codecPayloadType

/-- An encoding of a media codec has a codec. -/
theorem MediaEncodings.haveCodecs (h : p.MediaEncodings) : p.EncodingsHaveCodecs := by
  intro encoding hmem
  obtain ⟨codec, hcodec, -, hpayloadType⟩ := h.media encoding hmem
  exact ⟨codec, hcodec, hpayloadType⟩

/-- The parameters that a receiver may have. -/
structure Usable (p : RtpParameters) : Prop where
  codecs : ∀ codec ∈ p.codecs, codec.Usable
  encodings : p.EncodingsHaveCodecs

/-- `ValidateCodecs` throws only what is caught, if the codecs are complete. -/
theorem ends_validateCodecs (h : ∀ codec ∈ p.codecs, codec.Complete) :
    Ends p.validateCodecs (fun _ => True) Fault.Caught := by
  have hloop : ∀ codecs payloadTypes, (∀ codec ∈ codecs, codec.Complete) →
      Ends (p.validateCodecsFrom payloadTypes codecs) (fun _ => True) Fault.Caught := by
    intro codecs
    induction codecs with
    | nil => exact fun _ _ => trivial
    | cons codec codecs ih =>
        intro payloadTypes hcodecs
        obtain ⟨hcodec, hcodecs⟩ := List.forall_mem_cons.1 hcodecs
        have hapt : Ends (p.validateApt codec) (fun _ => True) Fault.Caught := by
          unfold validateApt
          split
          case h_1 hrtx =>
            refine ((RtpCodecParameters.ends_getInteger (hcodec.apt hrtx)).mono (fun _ h => h)
              fun _ h => h.elim).bind fun apt _ => ?_
            split
            · split
              · exact ends_msThrow
              · exact ends_msThrow
              · exact ends_msThrow
              · trivial
            · trivial
          case h_2 => trivial
        unfold validateCodecsFrom
        dsimp only
        split
        · exact ends_msThrow
        · exact hapt.bind fun _ _ => ih _ hcodecs
  unfold validateCodecs
  split
  · exact ends_msThrow
  · exact hloop _ _ h

/-- What `ValidateEncodings` is for. -/
theorem ends_validateEncodings (p : RtpParameters) :
    Ends p.validateEncodings (fun p' => p'.codecs = p.codecs ∧ p'.MediaEncodings) Fault.Caught := by
  unfold validateEncodings
  split
  case h_1 => exact ends_msThrow
  case h_2 media hmedia =>
    have hmem := List.mem_of_find?_eq_some hmedia
    have hkind := List.find?_some hmedia
    split
    case isTrue =>
      refine ⟨rfl, List.cons_ne_nil _ _, fun encoding hencoding => ?_⟩
      obtain rfl := List.mem_singleton.1 hencoding
      exact ⟨media, hmem, hkind, rfl⟩
    case isFalse hsome =>
      have hencoding : ∀ encoding ∈ p.encodings,
          Ends (p.validateEncoding media.payloadType encoding)
            (fun encoding => ∃ codec ∈ p.codecs, codec.mime.isMediaCodec = true ∧
              codec.payloadType = encoding.codecPayloadType)
            Fault.Caught := by
        intro encoding _
        unfold validateEncoding
        split
        · split
          case h_1 codec hcodec =>
            split
            case isTrue hmedia =>
              have hpayloadType := List.find?_some hcodec
              rw [decide_eq_true_iff] at hpayloadType
              exact ⟨codec, List.mem_of_find?_eq_some hcodec, hmedia, hpayloadType⟩
            case isFalse => exact ends_msThrow
          case h_2 => exact ends_msThrow
        · exact ⟨media, hmem, hkind, rfl⟩
      have hencodings := Checked.ends_mapM hencoding
      cases hmap : p.encodings.mapM (p.validateEncoding media.payloadType) with
      | error fault => exact hencodings.of_error hmap
      | ok encodings =>
          refine ⟨rfl, fun hnil => hsome ?_, hencodings.of_ok hmap⟩
          have hlength := Checked.length_mapM hmap
          rw [show encodings = [] from hnil] at hlength
          exact List.isEmpty_iff_length_eq_zero.2 hlength.symm

/-- The codecs of the parameters that are read are complete. -/
theorem ends_ofJson (data : Value) :
    Ends (ofJson data) (fun p => ∀ codec ∈ p.codecs, codec.Complete) Fault.Thrown := by
  have hfields : Ends (readFields data) (fun p => ∀ codec ∈ p.codecs, codec.Complete)
      Fault.Thrown := by
    unfold readFields
    refine ends_throwIf (ends_unless ?_)
    refine (Checked.ends_mapM fun value _ => RtpCodecParameters.ends_ofJson value .receive).bind
      fun codecs hcodecs => ?_
    refine (Checked.ends_mapM fun value _ => onlyThrows_encoding value).bind fun encodings _ => ?_
    refine (Checked.ends_mapM fun value _ => onlyThrows_headerExtensionParameters value).bind
      fun headerExtensions _ => ?_
    exact (onlyThrows_rtcp _).bind fun rtcp _ => hcodecs
  unfold ofJson
  refine hfields.bind fun p hp => ?_
  refine ((ends_validateCodecs hp).mono (fun _ h => h) fun _ h => h.thrown).bind fun _ _ => ?_
  refine (ends_validateEncodings p).mono (fun p' hp' => ?_) fun _ h => h.thrown
  rw [hp'.1]
  exact hp

/-- The codecs that a peer supports are usable. -/
theorem ends_reduceCodecs (hcapabilities : ∀ codec ∈ capabilities.codecs, codec.Usable)
    {codecs : List RtpCodecParameters} (hcodecs : ∀ codec ∈ codecs, codec.Complete) :
    Ends (reduceCodecs capabilities codecs) (fun out => ∀ codec ∈ out.1, codec.Usable)
      fun _ => False := by
  induction codecs with
  | nil => exact fun codec h => absurd h List.not_mem_nil
  | cons codec codecs ih =>
      obtain ⟨hcodec, hcodecs⟩ := List.forall_mem_cons.1 hcodecs
      unfold reduceCodecs
      refine (RtpCodecParameters.ends_findMatch hcodec true
        fun codec h => (hcapabilities codec h).toComplete).bind fun found hfound => ?_
      refine (ih hcodecs).bind fun out hout => ?_
      dsimp only
      split
      case h_1 capability =>
        obtain ⟨hmem, hmime⟩ := hfound capability rfl
        refine List.forall_mem_cons.2 ⟨?_, hout⟩
        obtain ⟨hcomplete, hrtx⟩ := hcodec.usable (hcapabilities capability hmem) hmime
        exact ⟨⟨hcomplete.packetizationMode, hcomplete.apt⟩, hrtx⟩
      case h_2 => exact hout

/-- **Reducing is safe**: what a peer supports of given parameters is usable, or the reduction is
rejected. -/
theorem ends_reduceCodecsAndEncodings (hcapabilities : ∀ codec ∈ capabilities.codecs, codec.Usable)
    (hp : ∀ codec ∈ p.codecs, codec.Complete) :
    Ends (p.reduceCodecsAndEncodings capabilities) Usable Fault.Caught := by
  unfold reduceCodecsAndEncodings
  refine ((ends_reduceCodecs hcapabilities hp).mono (fun _ h => h) fun _ h => h.elim).bind
    fun out hout => ?_
  dsimp only
  refine (ends_validateCodecs fun codec h => (hout codec h).toComplete).bind fun _ _ => ?_
  refine (ends_validateEncodings _).mono (fun p' hp' => ⟨?_, hp'.2.haveCodecs⟩) fun _ h => h
  rw [hp'.1]
  exact hout

/-- The header extensions have nothing to do with it. -/
theorem Usable.reduceHeaderExtensions (h : p.Usable) (supported : List RtpHeaderExtension) :
    (p.reduceHeaderExtensions supported).Usable := ⟨h.codecs, h.encodings⟩

/-- The codec of an encoding is the first with its payload type. -/
theorem ends_getCodecForEncoding (h : p.EncodingsHaveCodecs) {encoding : RtpEncodingParameters}
    (hmem : encoding ∈ p.encodings) :
    Ends (p.getCodecForEncoding encoding)
      (fun codec => p.codecs.find? (·.payloadType = encoding.codecPayloadType) = some codec)
      fun _ => False := by
  obtain ⟨codec, hcodec, hpayloadType⟩ := h encoding hmem
  have hfound : (p.codecs.find? (·.payloadType = encoding.codecPayloadType)).isSome = true :=
    List.find?_isSome.2 ⟨codec, hcodec, decide_eq_true hpayloadType⟩
  obtain ⟨found, hfound⟩ := Option.isSome_iff_exists.1 hfound
  unfold getCodecForEncoding
  rw [hfound]
  rfl

/-- `GetRtxCodecForEncoding` fails no assertion. -/
theorem ends_getRtxCodecForEncoding (h : ∀ codec ∈ p.codecs, codec.Usable)
    (encoding : RtpEncodingParameters) :
    Ends (p.getRtxCodecForEncoding encoding) (fun _ => True) fun _ => False := by
  have hloop : ∀ codecs : List RtpCodecParameters, (∀ codec ∈ codecs, codec.Usable) →
      Ends (findRtxCodec encoding.codecPayloadType codecs) (fun _ => True) fun _ => False := by
    intro codecs
    induction codecs with
    | nil => exact fun _ => trivial
    | cons codec codecs ih =>
        intro hcodecs
        obtain ⟨hcodec, hcodecs⟩ := List.forall_mem_cons.1 hcodecs
        unfold findRtxCodec
        dsimp only
        split
        case isTrue hfeature =>
          refine (RtpCodecParameters.ends_getInteger (hcodec.apt (hcodec.rtx hfeature))).bind
            fun apt _ => ?_
          split
          · trivial
          · exact ih hcodecs
        case isFalse => exact ih hcodecs
  exact hloop p.codecs h

end RtpParameters

/-! ## Streams -/

namespace RtpSender

/-- Every codec matches itself, or one before it. -/
theorem ends_supportedCodecs {before rest : List RtpCodecParameters}
    (h : ∀ codec ∈ before ++ rest, codec.Complete) :
    Ends (supportedCodecs before rest) (fun codecs => codecs = before ++ rest) fun _ => False := by
  induction rest generalizing before with
  | nil => exact (List.append_nil before).symm
  | cons codec rest ih =>
      have hmem : codec ∈ before ++ codec :: rest := List.mem_append_right before List.mem_cons_self
      unfold supportedCodecs
      refine (RtpCodecParameters.ends_findMatch_mem hmem h).bind fun found hfound => ?_
      obtain ⟨matching, rfl⟩ := Option.isSome_iff_exists.1 hfound
      have happend : before ++ codec :: rest = before ++ [codec] ++ rest := by simp
      rw [happend] at h ⊢
      exact ih h

/-- **Sending usable parameters** ends neither with an exception nor with an assertion. -/
theorem ends_send (s : RtpSender) (muxId : String) (peerCapabilities : RtpCapabilities)
    {p : RtpParameters} (h : p.Usable) :
    Ends (s.send muxId peerCapabilities p) (fun _ => True) fun _ => False := by
  unfold send
  refine (ends_supportedCodecs fun codec h' => (h.codecs codec h').toComplete).bind
    fun codecs hcodecs => ?_
  obtain rfl : codecs = p.codecs := hcodecs
  dsimp only
  refine (Checked.ends_forM fun encoding hencoding => ?_).bind fun _ _ => trivial
  have hmem : encoding ∈ p.encodings := (List.mem_filter.1 (List.mem_of_mem_take hencoding)).1
  obtain ⟨codec, hcodec, hpayloadType⟩ := h.encodings encoding hmem
  unfold createRtpStream
  have hcodecs : ∀ q : RtpParameters, q.codecs = p.codecs →
      Ends (q.getCodecForEncoding encoding) (fun _ => True) fun _ => False := by
    intro q hq
    obtain ⟨found, hfound⟩ := (RtpParameters.ends_getCodecForEncoding h.encodings hmem).exists_ok
    unfold RtpParameters.getCodecForEncoding at hfound ⊢
    rw [hq, hfound.1]
    trivial
  refine (hcodecs _ rfl).bind fun _ _ => ?_
  split
  · exact (RtpParameters.ends_getRtxCodecForEncoding h.codecs encoding).bind fun _ _ => trivial
  · trivial

end RtpSender

/-- A stream that is created for these encodings, with those that there are already, asks for REMB. -/
def RtpParameters.asksForRemb (p : RtpParameters) :
    (rtpStreams : List UInt32) → List RtpEncodingParameters → Bool
  | _, [] => false
  | rtpStreams, encoding :: encodings =>
      if encoding.ssrc = 0 ∨ encoding.ssrc ∈ rtpStreams then p.asksForRemb rtpStreams encodings
      else
        (p.codecs.find? (·.payloadType = encoding.codecPayloadType)).any (·.useRemb) ||
          p.asksForRemb (encoding.ssrc :: rtpStreams) encodings

namespace RtpReceiver

variable {p : RtpParameters}

/-- The RTX stream of an encoding is created, or there is none. -/
theorem ends_createRtxStream (r : RtpReceiver) (h : ∀ codec ∈ p.codecs, codec.Usable)
    (encoding : RtpEncodingParameters) :
    Ends (r.createRtxStream p encoding)
      (fun r' => r'.transport = r.transport ∧ r'.rtpStreams = r.rtpStreams) fun _ => False := by
  unfold createRtxStream
  split
  · refine (RtpParameters.ends_getRtxCodecForEncoding h encoding).bind fun codec _ => ?_
    split
    · exact ⟨rfl, rfl⟩
    · exact ⟨rfl, rfl⟩
  · exact ⟨rfl, rfl⟩

/-- **Creating the streams of usable parameters** fails only if REMB is asked for and there is no
transport. -/
theorem ends_createRtpStreams (h : p.Usable) {encodings : List RtpEncodingParameters}
    (hencodings : ∀ encoding ∈ encodings, encoding ∈ p.encodings) (s : Table UInt32 Transport × RtpReceiver) :
    Ends (encodings.foldlM (createRtpStream p) s) (fun _ => True) fun fault =>
      fault = .nullTransport ∧ s.2.transport = none ∧
        p.asksForRemb s.2.rtpStreams encodings = true := by
  induction encodings generalizing s with
  | nil => trivial
  | cons encoding encodings ih =>
      obtain ⟨hencoding, hencodings⟩ := List.forall_mem_cons.1 hencodings
      rw [List.foldlM_cons]
      unfold createRtpStream RtpParameters.asksForRemb
      split
      case isTrue => exact ih hencodings s
      case isFalse =>
        refine Ends.bind (P := fun s' => s'.2.transport = s.2.transport ∧
          s'.2.rtpStreams = encoding.ssrc :: s.2.rtpStreams) ?_ fun s' hs' => ?_
        · refine ((RtpParameters.ends_getCodecForEncoding h.encodings hencoding).mono (fun _ h => h)
            fun _ h => h.elim).bind fun codec hcodec => ?_
          dsimp only
          refine Ends.bind (P := fun _ => True) ?_ fun transports _ => ?_
          · unfold enableRemb
            split
            case isTrue hremb =>
              split
              case h_1 => trivial
              case h_2 htransport =>
                refine ⟨rfl, htransport, Bool.or_eq_true_iff.2 (.inl ?_)⟩
                rw [hcodec]
                exact hremb
            case isFalse => trivial
          · refine ((ends_createRtxStream _ h.codecs encoding).mono (fun _ h => h)
              fun _ h => h.elim).bind fun r' hr' => hr'
        · refine (ih hencodings s').mono (fun _ h => h) fun fault hfault => ?_
          rw [hs'.1, hs'.2] at hfault
          exact ⟨hfault.1, hfault.2.1, Bool.or_eq_true_iff.2 (.inr hfault.2.2)⟩

end RtpReceiver

end KoreWebsocket.Rtc
