import KoreWebsocket.Rtc.Codecs

/-!
# What the checks of `RtpParameters` are good for

Parameters that pass `ValidateCodecs` and `ValidateEncodings` have codecs with different payload types, and
every encoding has its media codec. The codec that an RTX codec is for is looked at only if there is one: the
test for an `apt` that names no codec is inside the loop, where it never holds. So the parameters that are
read, or reduced to what a peer supports, are well formed just if every RTX codec comes with its codec
(`wellFormed_iff`).
-/

namespace KoreWebsocket.Rtc.RtpParameters

open JsonCpp
open Checked (Ends)

/-- The `apt` of a codec is the payload type of another. -/
def AptOf (codec target : RtpCodecParameters) : Prop :=
  codec.parameters.getInteger "apt" = .ok target.payloadType.toNat

/-- Well-formed parameters. -/
structure WellFormed (p : RtpParameters) : Prop where
  distinct : (p.codecs.map (·.payloadType)).Nodup
  encodings : p.MediaEncodings
  apt : ∀ codec ∈ p.codecs, codec.mime.subtype = .rtx → ∃ target ∈ p.codecs, AptOf codec target ∧
    target.mime.subtype ≠ .rtx ∧ target.mime.subtype ≠ .ulpfec ∧ target.mime.subtype ≠ .flexfec
  getCodec : ∀ encoding ∈ p.encodings, ∃ codec, p.getCodecForEncoding encoding = .ok codec

/-- Every RTX codec comes with a codec that its `apt` names. -/
def HasApts (codecs : List RtpCodecParameters) : Prop :=
  ∀ codec ∈ codecs, codec.mime.subtype = .rtx → ∃ target ∈ codecs, AptOf codec target

/-- The codecs of a JSON value do. -/
def GivesApts (data : Value) : Prop :=
  ∀ codecs, (data.member "codecs").elements.mapM (RtpCodecParameters.ofJson · .receive) = .ok codecs →
    HasApts codecs

/-- A codec of the capabilities matches. -/
def Supports (capabilities : RtpCapabilities) (codec : RtpCodecParameters) : Prop :=
  ∃ capability, RtpCodecParameters.findMatch codec true capabilities.codecs = .ok (some capability)

/-- Every RTX codec that is supported comes with a codec that is supported too. -/
def SupportsApts (capabilities : RtpCapabilities) (codecs : List RtpCodecParameters) : Prop :=
  ∀ codec ∈ codecs, Supports capabilities codec → codec.mime.subtype = .rtx →
    ∃ target ∈ codecs, Supports capabilities target ∧ AptOf codec target

/-! ## The checks -/

section
variable {p p' : RtpParameters} {codec : RtpCodecParameters} {capabilities : RtpCapabilities}

/-- The codec that an `apt` names is looked at. -/
theorem validateApt_ok (h : p.validateApt codec = .ok ()) (hrtx : codec.mime.subtype = .rtx)
    (hapt : ∃ target ∈ p.codecs, AptOf codec target) :
    ∃ target ∈ p.codecs, AptOf codec target ∧ target.mime.subtype ≠ .rtx ∧
      target.mime.subtype ≠ .ulpfec ∧ target.mime.subtype ≠ .flexfec := by
  obtain ⟨target, hmem, hapt⟩ := hapt
  have hfound : (p.codecs.find? fun codec =>
      (codec.payloadType.toNat : Int) = target.payloadType.toNat).isSome = true :=
    List.find?_isSome.2 ⟨target, hmem, decide_eq_true rfl⟩
  obtain ⟨found, hfound⟩ := Option.isSome_iff_exists.1 hfound
  have hsame := List.find?_some hfound
  rw [decide_eq_true_iff] at hsame
  rw [validateApt, hrtx] at h
  obtain ⟨apt, hget, h⟩ := Checked.bind_eq_ok.1 h
  obtain rfl := Except.ok.inj (hget.symm.trans hapt)
  rw [hfound] at h
  dsimp only at h
  refine ⟨found, List.mem_of_find?_eq_some hfound, ?_, ?_⟩
  · rw [AptOf, hapt, hsame]
  · split at h
    case h_1 => cases h
    case h_2 => cases h
    case h_3 => cases h
    case h_4 hrtx hulpfec hflexfec => exact ⟨hrtx, hulpfec, hflexfec⟩

/-- What the loop of `ValidateCodecs` has checked. -/
theorem validateCodecsFrom_ok {payloadTypes : List UInt8} {codecs : List RtpCodecParameters}
    (h : p.validateCodecsFrom payloadTypes codecs = .ok ()) :
    (codecs.map (·.payloadType)).Nodup ∧ (∀ codec ∈ codecs, codec.payloadType ∉ payloadTypes) ∧
      ∀ codec ∈ codecs, p.validateApt codec = .ok () := by
  induction codecs generalizing payloadTypes with
  | nil => exact ⟨List.nodup_nil, List.forall_mem_nil _, List.forall_mem_nil _⟩
  | cons codec codecs ih =>
      rw [validateCodecsFrom] at h
      split at h
      case isTrue => cases h
      case isFalse hnew =>
        obtain ⟨⟨⟩, hapt, h⟩ := Checked.bind_eq_ok.1 h
        obtain ⟨hnodup, hother, hapts⟩ := ih h
        refine ⟨List.nodup_cons.2 ⟨fun hmem => ?_, hnodup⟩, List.forall_mem_cons.2 ⟨hnew, ?_⟩,
          List.forall_mem_cons.2 ⟨hapt, hapts⟩⟩
        · obtain ⟨other, hmem, hsame⟩ := List.mem_map.1 hmem
          exact hother other hmem (hsame ▸ List.mem_cons_self)
        · exact fun other hmem hused => hother other hmem (List.mem_cons_of_mem _ hused)

theorem validateCodecs_ok (h : p.validateCodecs = .ok ()) :
    (p.codecs.map (·.payloadType)).Nodup ∧ ∀ codec ∈ p.codecs, p.validateApt codec = .ok () := by
  rw [validateCodecs] at h
  split at h
  case isTrue => cases h
  case isFalse =>
    obtain ⟨hnodup, -, hapts⟩ := validateCodecsFrom_ok h
    exact ⟨hnodup, hapts⟩

/-- **Both checks.** Only the codecs of the RTX codecs are missing. -/
theorem wellFormed_of_validate (hcodecs : p.validateCodecs = .ok ()) (h : p.validateEncodings = .ok p') :
    p'.codecs = p.codecs ∧ (p'.WellFormed ↔ HasApts p.codecs) := by
  obtain ⟨hnodup, hapts⟩ := validateCodecs_ok hcodecs
  obtain ⟨hsame, hencodings⟩ := (ends_validateEncodings p).of_ok h
  refine ⟨hsame, fun hwell codec hmem hrtx => ?_, fun hhas => ?_⟩
  · obtain ⟨target, htarget, hapt, -⟩ := hwell.apt codec (hsame ▸ hmem) hrtx
    exact ⟨target, hsame ▸ htarget, hapt⟩
  · refine ⟨hsame ▸ hnodup, hencodings, fun codec hmem hrtx => ?_, fun encoding hmem => ?_⟩
    · rw [hsame] at hmem ⊢
      exact validateApt_ok (hapts codec hmem) hrtx (hhas codec hmem hrtx)
    · obtain ⟨found, hfound, -⟩ := (ends_getCodecForEncoding hencodings.haveCodecs hmem).exists_ok
      exact ⟨found, hfound⟩

/-! ## The constructor and the reduction -/

/-- The codecs are those that are read. -/
theorem ends_readFields (data : Value) :
    Ends (readFields data) (fun p =>
      (data.member "codecs").elements.mapM (RtpCodecParameters.ofJson · .receive) = .ok p.codecs)
      Fault.Thrown := by
  have hcodecs : Ends ((data.member "codecs").elements.mapM (RtpCodecParameters.ofJson · .receive))
      (fun _ => True) Fault.Thrown :=
    (Checked.ends_mapM fun value _ => RtpCodecParameters.ends_ofJson value .receive).mono
      (fun _ _ => trivial) fun _ h => h
  unfold readFields
  refine ends_throwIf (ends_unless ?_)
  cases hmap : (data.member "codecs").elements.mapM (RtpCodecParameters.ofJson · .receive) with
  | error fault => exact hcodecs.of_error hmap
  | ok codecs =>
      refine (Checked.ends_mapM fun value _ => onlyThrows_encoding value).bind fun encodings _ => ?_
      refine (Checked.ends_mapM fun value _ => onlyThrows_headerExtensionParameters value).bind
        fun headerExtensions _ => ?_
      exact (onlyThrows_rtcp _).bind fun rtcp _ => rfl

/-- The codecs that are left are those that are supported. -/
theorem mem_reduceCodecs {codecs kept : List RtpCodecParameters} {removed : List UInt8}
    (h : reduceCodecs capabilities codecs = .ok (kept, removed)) {codec : RtpCodecParameters} :
    codec ∈ kept ↔ ∃ given ∈ codecs, ∃ capability,
      RtpCodecParameters.findMatch given true capabilities.codecs = .ok (some capability) ∧
        codec = given.reduceRtcpFeedback capability.rtcpFeedback := by
  induction codecs generalizing kept removed with
  | nil =>
      cases h
      exact ⟨fun hmem => absurd hmem List.not_mem_nil, fun ⟨_, hmem, _⟩ => absurd hmem List.not_mem_nil⟩
  | cons given codecs ih =>
      rw [reduceCodecs] at h
      obtain ⟨found, hfound, h⟩ := Checked.bind_eq_ok.1 h
      obtain ⟨⟨rest, others⟩, hrest, h⟩ := Checked.bind_eq_ok.1 h
      simp only [List.mem_cons, exists_eq_or_imp, hfound, Except.ok.injEq]
      cases found with
      | none =>
          cases h
          rw [ih hrest]
          simp
      | some capability =>
          cases h
          rw [List.mem_cons, ih hrest]
          simp

/-- What is left has the codecs of its RTX codecs just if they are supported. -/
theorem hasApts_reduceCodecs {codecs kept : List RtpCodecParameters} {removed : List UInt8}
    (h : reduceCodecs capabilities codecs = .ok (kept, removed)) :
    HasApts kept ↔ SupportsApts capabilities codecs := by
  constructor
  · intro hhas codec hmem ⟨capability, hfound⟩ hrtx
    obtain ⟨target, htarget, hapt⟩ :=
      hhas _ ((mem_reduceCodecs h).2 ⟨codec, hmem, capability, hfound, rfl⟩) hrtx
    obtain ⟨given, hgiven, capability, hfound, rfl⟩ := (mem_reduceCodecs h).1 htarget
    exact ⟨given, hgiven, ⟨capability, hfound⟩, hapt⟩
  · intro hhas codec hmem hrtx
    obtain ⟨given, hgiven, capability, hfound, rfl⟩ := (mem_reduceCodecs h).1 hmem
    obtain ⟨target, htarget, ⟨capability', hfound'⟩, hapt⟩ := hhas given hgiven ⟨capability, hfound⟩ hrtx
    exact ⟨_, (mem_reduceCodecs h).2 ⟨target, htarget, capability', hfound', rfl⟩, hapt⟩

end

/-- **Parameters that are read are well formed just if the codecs of the RTX codecs are given, and what is
left of them just if these are supported too.** -/
theorem wellFormed_iff (data : Value) (p : RtpParameters) (h : ofJson data = .ok p) :
    (p.WellFormed ↔ GivesApts data) ∧ ∀ capabilities p',
      p.reduceCodecsAndEncodings capabilities = .ok p' →
        (p'.WellFormed ↔ SupportsApts capabilities p.codecs) := by
  obtain ⟨fields, hfields, h⟩ := Checked.bind_eq_ok.1 h
  obtain ⟨⟨⟩, hvalid, h⟩ := Checked.bind_eq_ok.1 h
  have hread := (ends_readFields data).of_ok hfields
  obtain ⟨-, hwell⟩ := wellFormed_of_validate hvalid h
  refine ⟨hwell.trans ⟨fun hhas codecs hcodecs => ?_, fun hgives => hgives _ hread⟩, ?_⟩
  · rw [← Except.ok.inj (hread.symm.trans hcodecs)]
    exact hhas
  · intro capabilities p' hreduce
    obtain ⟨⟨kept, removed⟩, hkept, hreduce⟩ := Checked.bind_eq_ok.1 hreduce
    obtain ⟨⟨⟩, hvalid, hreduce⟩ := Checked.bind_eq_ok.1 hreduce
    obtain ⟨-, hwell⟩ := wellFormed_of_validate hvalid hreduce
    exact hwell.trans (hasApts_reduceCodecs hkept)

/-- VP8 with payload type 100, and an RTX codec with 101 that is for a given payload type. -/
def vp8WithRtx (apt : Int) : Value :=
  .object [("codecs", .array [
    .object [("kind", .string "video"), ("name", .string "video/VP8"), ("payloadType", .uint 100),
      ("clockRate", .uint 90000)],
    .object [("kind", .string "video"), ("name", .string "video/rtx"), ("payloadType", .uint 101),
      ("clockRate", .uint 90000), ("parameters", .object [("apt", .int apt)])]])]

theorem wellFormed_iff_vp8_with_rtx : ∃ p capabilities p', ofJson (vp8WithRtx 100) = .ok p ∧
    p.reduceCodecsAndEncodings capabilities = .ok p' ∧ p'.codecs.length = 2 ∧
    (p.WellFormed ↔ GivesApts (vp8WithRtx 100)) ∧
      (p'.WellFormed ↔ SupportsApts capabilities p.codecs) := by
  have hread : ((ofJson (vp8WithRtx 100)).toOption.any fun p =>
      (RtpCapabilities.ofJson (vp8WithRtx 100) .peerCapability).toOption.any fun capabilities =>
        (p.reduceCodecsAndEncodings capabilities).toOption.any fun p' => p'.codecs.length = 2) = true := by
    decide +kernel
  obtain ⟨p, hp, hread⟩ := (Option.any_eq_true _ _).1 hread
  obtain ⟨capabilities, -, hread⟩ := (Option.any_eq_true _ _).1 hread
  obtain ⟨p', hp', hlength⟩ := (Option.any_eq_true _ _).1 hread
  have hp := Checked.toOption_eq_some.1 hp
  have hp' := Checked.toOption_eq_some.1 hp'
  obtain ⟨hgiven, hreduced⟩ := wellFormed_iff _ p hp
  exact ⟨p, capabilities, p', hp, hp', of_decide_eq_true hlength, hgiven, hreduced capabilities p' hp'⟩

/-- No codec has payload type 99. -/
theorem rtx_without_its_codec : ∃ p, ofJson (vp8WithRtx 99) = .ok p ∧ ¬ p.WellFormed := by
  have hread : ((ofJson (vp8WithRtx 99)).toOption.any fun p =>
      p.codecs.any fun codec => codec.mime.subtype = .rtx && p.codecs.all fun target =>
        (codec.parameters.getInteger "apt").toOption ≠ some (target.payloadType.toNat : Int)) = true := by
    decide +kernel
  obtain ⟨p, hp, hcodecs⟩ := (Option.any_eq_true _ _).1 hread
  obtain ⟨codec, hmem, hcodec⟩ := List.any_eq_true.1 hcodecs
  obtain ⟨hrtx, hnone⟩ := Bool.and_eq_true_iff.1 hcodec
  refine ⟨p, Checked.toOption_eq_some.1 hp, fun hwell => ?_⟩
  obtain ⟨target, htarget, hapt, -⟩ := hwell.apt codec hmem (of_decide_eq_true hrtx)
  exact of_decide_eq_true (List.all_eq_true.1 hnone target htarget) (Checked.toOption_eq_some.2 hapt)

end KoreWebsocket.Rtc.RtpParameters
