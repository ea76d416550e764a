import KoreWebsocket.Lib.Machine
import KoreWebsocket.Rtc.Codecs

/-!
# The parameters of a sender (`RtpSender::Send`, `mediasoup_1/soup`)

A sender is given the parameters of its receiver, again and again, and is to keep what its peer
supports, whatever transport it gets in between. The loop over the codecs compares them with each other and
not with the capabilities of the peer, so it removes none, and the set of payload types only grows.
-/

namespace KoreWebsocket.Rtc

namespace RtpCodecParameters

variable {codec given : RtpCodecParameters}

/-- A codec that is compared with itself matches, if the comparison returns. -/
theorem matchesCodec_self_of_ok {found : Bool} (h : codec.matchesCodec codec false = .ok found) :
    found = true := by
  unfold matchesCodec at h
  simp only [ne_eq, not_true_eq_false, decide_false, Bool.and_false, if_false, Bool.false_eq_true] at h
  split at h
  case isTrue =>
    obtain ⟨mode, hmode, h⟩ := Checked.bind_eq_ok.1 h
    rw [hmode, Checked.ok_bind] at h
    cases h
    exact decide_eq_true rfl
  case isFalse =>
    cases h
    rfl

/-- A codec of the list is found, or one before it. -/
theorem isSome_of_findMatch {codecs : List RtpCodecParameters} {found : Option RtpCodecParameters}
    (hmem : given ∈ codecs) (h : findMatch given false codecs = .ok found) : found.isSome = true := by
  induction codecs with
  | nil => exact absurd hmem List.not_mem_nil
  | cons codec codecs ih =>
      unfold findMatch at h
      obtain ⟨found', hfound', h⟩ := Checked.bind_eq_ok.1 h
      split at h
      case isTrue =>
        cases h
        rfl
      case isFalse hno =>
        rcases List.mem_cons.1 hmem with rfl | hmem
        · exact absurd (matchesCodec_self_of_ok hfound') hno
        · exact ih hmem h

end RtpCodecParameters

namespace RtpSender

variable {s s' : RtpSender} {muxId : String} {peerCapabilities : RtpCapabilities} {p : RtpParameters}

/-- **Run.** The loop over the codecs removes none. -/
theorem supportedCodecs_eq {before rest codecs : List RtpCodecParameters}
    (h : supportedCodecs before rest = .ok codecs) : codecs = before ++ rest := by
  induction rest generalizing before with
  | nil =>
      cases h
      exact (List.append_nil _).symm
  | cons codec rest ih =>
      have hmem : codec ∈ before ++ codec :: rest := List.mem_append_right before List.mem_cons_self
      unfold supportedCodecs at h
      obtain ⟨found, hfound, h⟩ := Checked.bind_eq_ok.1 h
      obtain ⟨matching, rfl⟩ := Option.isSome_iff_exists.1
        (RtpCodecParameters.isSome_of_findMatch hmem hfound)
      rw [ih h, List.append_assoc, List.singleton_append]

/-- `RtpSender::SendRtpPacket` passes a packet on to the transport, if the stream accepts it. -/
def sendsRtpPacket (s : RtpSender) (ssrc : UInt32) (payloadType : UInt8) : Bool :=
  s.getActive && payloadType ∈ s.supportedPayloadTypes &&
    s.rtpParameters.any fun p => p.encodings.head?.any (·.ssrc = ssrc)

/-- The peer has a codec that matches. -/
def Supports (peerCapabilities : RtpCapabilities) (codec : RtpCodecParameters) : Prop :=
  ∃ codecCapability ∈ peerCapabilities.codecs, codecCapability.matchesCodec codec false = .ok true

/-- **The property.** A sender that has been given parameters keeps what its peer supports. -/
structure Respects (peerCapabilities : RtpCapabilities) (s : RtpSender) : Prop where
  codecs : ∀ p, s.rtpParameters = some p → ∀ codec ∈ p.codecs, Supports peerCapabilities codec
  encodings : ∀ p, s.rtpParameters = some p → ∀ encoding ∈ p.encodings,
    ∃ codec ∈ p.codecs, codec.payloadType = encoding.codecPayloadType
  supportedPayloadTypes : ∀ p, s.rtpParameters = some p → ∀ payloadType,
    payloadType ∈ s.supportedPayloadTypes ↔ ∃ codec ∈ p.codecs, codec.payloadType = payloadType
  /-- No payload type is forwarded that the peer has no codec for. -/
  forwarded : ∀ ssrc payloadType, s.sendsRtpPacket ssrc payloadType = true →
    ∃ p, s.rtpParameters = some p ∧
      ∃ codec ∈ p.codecs, codec.payloadType = payloadType ∧ Supports peerCapabilities codec

/-- The peer supports all the codecs that the sender is given, and they still have the payload types
that it has noted. -/
def GivesSupported (peerCapabilities : RtpCapabilities) (s : RtpSender) (p : RtpParameters) : Prop :=
  (∀ codec ∈ p.codecs, Supports peerCapabilities codec) ∧
    ∀ payloadType ∈ s.supportedPayloadTypes, ∃ codec ∈ p.codecs, codec.payloadType = payloadType

/-- What `RtpSender::Send` leaves: all the codecs, and their payload types with those of before. -/
theorem send_ok (h : s.send muxId peerCapabilities p = .ok s') :
    ∃ q, s'.rtpParameters = some q ∧ q.codecs = p.codecs ∧
      (∀ encoding ∈ q.encodings, encoding.codecPayloadType ∈ s'.supportedPayloadTypes) ∧
      ∀ payloadType, payloadType ∈ s'.supportedPayloadTypes ↔
        (∃ codec ∈ p.codecs, codec.payloadType = payloadType) ∨ payloadType ∈ s.supportedPayloadTypes := by
  unfold send at h
  obtain ⟨codecs, hcodecs, h⟩ := Checked.bind_eq_ok.1 h
  obtain rfl : codecs = p.codecs := supportedCodecs_eq hcodecs
  obtain ⟨_, -, h⟩ := Checked.bind_eq_ok.1 h
  cases h
  refine ⟨_, rfl, rfl, fun encoding hencoding => ?_, fun payloadType => ?_⟩
  · exact of_decide_eq_true (List.mem_filter.1 (List.mem_of_mem_take hencoding)).2
  · rw [List.mem_union_iff, List.mem_map]

/-- **Step.** A call leaves what the peer supports just if it gives the sender what the peer supports. -/
theorem respects_send_iff (h : s.send muxId peerCapabilities p = .ok s') :
    Respects peerCapabilities s' ↔ GivesSupported peerCapabilities s p := by
  obtain ⟨q, hq, hcodecs, hencodings, hpayloadTypes⟩ := send_ok h
  constructor
  · intro hrespects
    refine ⟨fun codec hcodec => hrespects.codecs q hq codec (hcodecs ▸ hcodec), fun payloadType hold => ?_⟩
    have hsupported := (hpayloadTypes payloadType).2 (.inr hold)
    rw [hrespects.supportedPayloadTypes q hq, hcodecs] at hsupported
    exact hsupported
  · rintro ⟨hsupports, hold⟩
    have hset : ∀ payloadType, payloadType ∈ s'.supportedPayloadTypes ↔
        ∃ codec ∈ q.codecs, codec.payloadType = payloadType := fun payloadType => by
      rw [hpayloadTypes, hcodecs]
      exact or_iff_left_of_imp (hold payloadType)
    have hall : ∀ codec ∈ q.codecs, Supports peerCapabilities codec := fun codec hcodec =>
      hsupports codec (hcodecs ▸ hcodec)
    have hparameters : ∀ p, s'.rtpParameters = some p → p = q := fun p hp =>
      Option.some.inj (hp.symm.trans hq)
    constructor
    case codecs =>
      intro p hp
      obtain rfl := hparameters p hp
      exact hall
    case encodings =>
      intro p hp encoding hencoding
      obtain rfl := hparameters p hp
      exact (hset _).1 (hencodings encoding hencoding)
    case supportedPayloadTypes =>
      intro p hp
      obtain rfl := hparameters p hp
      exact hset
    case forwarded =>
      intro ssrc payloadType hsends
      have hmem := (Bool.and_eq_true_iff.1 (Bool.and_eq_true_iff.1 hsends).1).2
      obtain ⟨codec, hcodec, hpayloadType⟩ := (hset payloadType).1 (of_decide_eq_true hmem)
      exact ⟨q, hq, codec, hcodec, hpayloadType, hall codec hcodec⟩

/-- Parameters and noted payload types that the peer supports are supported with another transport, too. -/
theorem respects_of_eq (h : Respects peerCapabilities s) (hp : s'.rtpParameters = s.rtpParameters)
    (hsupported : s'.supportedPayloadTypes = s.supportedPayloadTypes) : Respects peerCapabilities s' where
  codecs := hp ▸ h.codecs
  encodings := hp ▸ h.encodings
  supportedPayloadTypes := hp ▸ hsupported ▸ h.supportedPayloadTypes
  forwarded := fun ssrc payloadType hsends => by
    obtain ⟨hactive, hencoding⟩ := Bool.and_eq_true_iff.1 hsends
    have hmem : payloadType ∈ s.supportedPayloadTypes :=
      hsupported ▸ of_decide_eq_true (Bool.and_eq_true_iff.1 hactive).2
    rw [hp] at hencoding ⊢
    obtain ⟨p, hp, -⟩ := (Option.any_eq_true _ _).1 hencoding
    obtain ⟨codec, hcodec, hpayloadType⟩ := (h.supportedPayloadTypes p hp payloadType).1 hmem
    exact ⟨p, hp, codec, hcodec, hpayloadType, h.codecs p hp codec hcodec⟩

end RtpSender

/-- What happens to a sender: `Send`, with the `muxId` that is drawn in it, and what makes it active or
not. -/
inductive SenderEvent
  | send (muxId : String) (p : RtpParameters)
  | setTransport (transportId : UInt32)
  | removeTransport (transportId : UInt32)
  | disable (disabled : Bool)

namespace RtpSender

variable {s s' : RtpSender} {peerCapabilities : RtpCapabilities}

/-- The sender after an event, unless the process ends in it. -/
def step (peerCapabilities : RtpCapabilities) (s : RtpSender) : SenderEvent → Option RtpSender
  | .send muxId p => (s.send muxId peerCapabilities p).toOption
  | .setTransport transportId => some { s with transport := some transportId }
  | .removeTransport transportId => some (s.removeTransport transportId)
  | .disable disabled => some { s with disabled }

/-- A call of `Send` gives the sender what the peer supports. -/
def SendsSupported (peerCapabilities : RtpCapabilities) (s : RtpSender) : SenderEvent → Prop
  | .send _ p => GivesSupported peerCapabilities s p
  | _ => True

/-- **Step, for any event.** -/
theorem respects_step_iff (h : Respects peerCapabilities s) {e : SenderEvent}
    (hstep : s.step peerCapabilities e = some s') :
    Respects peerCapabilities s' ↔ SendsSupported peerCapabilities s e := by
  cases e with
  | send muxId p => exact respects_send_iff (Checked.toOption_eq_some.1 hstep)
  | setTransport transportId =>
      cases hstep
      exact iff_of_true (respects_of_eq h rfl rfl) trivial
  | removeTransport transportId =>
      cases hstep
      refine iff_of_true (respects_of_eq h ?_ ?_) trivial
      · rw [removeTransport]
        split <;> rfl
      · rw [removeTransport]
        split <;> rfl
  | disable disabled =>
      cases hstep
      exact iff_of_true (respects_of_eq h rfl rfl) trivial

/-- **A sender has what its peer supports all the time, just if each call of `Send` gives it codecs that the
peer supports, with the payload types of the codecs before.** -/
theorem respects_iff (peerCapabilities : RtpCapabilities) (kind : MediaKind) {events : List SenderEvent}
    {s : RtpSender} (h : Machine.exec (step peerCapabilities) { kind } events = some s) :
    Machine.Always (step peerCapabilities) (Respects peerCapabilities) { kind } events ↔
      Machine.Meets (step peerCapabilities) (SendsSupported peerCapabilities) { kind } events := by
  have hnone : Respects peerCapabilities { kind } := by
    refine ⟨nofun, nofun, nofun, fun ssrc payloadType hsends => ?_⟩
    cases hsends
  exact Machine.always_iff_meets (I := fun _ => True) (fun _ _ _ _ _ => trivial)
    (fun _ _ _ _ hrespects hstep => respects_step_iff hrespects hstep) h trivial hnone

/-- A video codec with a payload type. -/
def videoCodec (subtype : MimeSubtype) (payloadType : UInt8) : RtpCodecParameters :=
  { kind := .video, mime := { type := .video, subtype }, payloadType, hasPayloadType := true,
    clockRate := 90000 }

/-- Parameters with a codec and an encoding for it. -/
def videoParameters (subtype : MimeSubtype) (payloadType : UInt8) : RtpParameters :=
  { codecs := [videoCodec subtype payloadType]
    encodings := [{ ssrc := 1111, codecPayloadType := payloadType, hasCodecPayloadType := true }] }

instance (peerCapabilities : RtpCapabilities) (codec : RtpCodecParameters) :
    Decidable (Supports peerCapabilities codec) :=
  decidable_of_iff (∃ codecCapability ∈ peerCapabilities.codecs,
      (codecCapability.matchesCodec codec false).toOption = some true) (by
    simp only [Supports, Checked.toOption_eq_some])

instance (peerCapabilities : RtpCapabilities) (s : RtpSender) (p : RtpParameters) :
    Decidable (GivesSupported peerCapabilities s p) :=
  inferInstanceAs (Decidable (_ ∧ _))

instance (peerCapabilities : RtpCapabilities) (s : RtpSender) :
    ∀ e : SenderEvent, Decidable (SendsSupported peerCapabilities s e)
  | .send _ p => inferInstanceAs (Decidable (GivesSupported peerCapabilities s p))
  | .setTransport _ | .removeTransport _ | .disable _ => isTrue trivial

/-- The capabilities of a peer with VP8 and VP9. -/
def vp8Vp9 : RtpCapabilities := { codecs := [videoCodec .vp8 100, videoCodec .vp9 101] }

/-- VP8 is given twice, and in between the sender gets a transport. -/
def vp8Twice : List SenderEvent :=
  [.send "a" (videoParameters .vp8 100), .setTransport 8, .send "b" (videoParameters .vp8 100)]

theorem respects_iff_vp8Twice : ∃ s, Machine.exec (step vp8Vp9) { kind := .video } vp8Twice = some s ∧
    s.sendsRtpPacket 1111 100 = true ∧
    Machine.Always (step vp8Vp9) (Respects vp8Vp9) { kind := .video } vp8Twice := by
  have hrun : (Machine.exec (step vp8Vp9) { kind := .video } vp8Twice).any
      (·.sendsRtpPacket 1111 100) = true := by
    decide +kernel
  obtain ⟨s, hs, hsends⟩ := (Option.any_eq_true _ _).1 hrun
  exact ⟨s, hs, hsends, (respects_iff vp8Vp9 .video hs).2 (by decide +kernel)⟩

/-- A codec that the peer does not have is kept, and so is a payload type of the call before. Packets with
either are passed on. -/
theorem send_keeps_unsupported :
    (∃ s, Machine.exec (step vp8Vp9) { kind := .video }
        [.send "a" (videoParameters .h265 102), .setTransport 8] = some s ∧
      s.sendsRtpPacket 1111 102 = true ∧ ¬ Respects vp8Vp9 s) ∧
    (∃ s, Machine.exec (step vp8Vp9) { kind := .video } [.send "a" (videoParameters .vp8 100),
        .setTransport 8, .send "b" (videoParameters .vp9 101)] = some s ∧
      s.supportedPayloadTypes = [101, 100] ∧ s.sendsRtpPacket 1111 100 = true ∧
      (s.rtpParameters.map fun p => p.codecs.map (·.payloadType)) = some [101]) ∧
    ¬ ∀ (peerCapabilities : RtpCapabilities) (kind : MediaKind) (events : List SenderEvent)
      (s : RtpSender), Machine.exec (step peerCapabilities) { kind } events = some s →
        Machine.Always (step peerCapabilities) (Respects peerCapabilities) { kind } events := by
  have hkeeps : ∃ s, Machine.exec (step vp8Vp9) { kind := .video }
      [.send "a" (videoParameters .h265 102), .setTransport 8] = some s ∧
      s.sendsRtpPacket 1111 102 = true ∧ ¬ Respects vp8Vp9 s := by
    have hrun : (Machine.exec (step vp8Vp9) { kind := .video }
        [.send "a" (videoParameters .h265 102), .setTransport 8]).any (fun s =>
          s.sendsRtpPacket 1111 102 && s.rtpParameters.any fun p =>
            p.codecs.any fun codec => !decide (Supports vp8Vp9 codec)) = true := by
      decide +kernel
    obtain ⟨s, hs, hcheck⟩ := (Option.any_eq_true _ _).1 hrun
    obtain ⟨hsends, hcodecs⟩ := Bool.and_eq_true_iff.1 hcheck
    obtain ⟨p, hp, hcodecs⟩ := (Option.any_eq_true _ _).1 hcodecs
    obtain ⟨codec, hcodec, hnot⟩ := List.any_eq_true.1 hcodecs
    refine ⟨s, hs, hsends, fun hrespects => ?_⟩
    have hsupports := hrespects.codecs p hp codec hcodec
    simp [hsupports] at hnot
  have hgrows : (Machine.exec (step vp8Vp9) { kind := .video } [.send "a" (videoParameters .vp8 100),
      .setTransport 8, .send "b" (videoParameters .vp9 101)]).any (fun s =>
        s.supportedPayloadTypes = [101, 100] && s.sendsRtpPacket 1111 100 &&
          (s.rtpParameters.map fun p => p.codecs.map (·.payloadType)) = some [101]) = true := by
    decide +kernel
  refine ⟨hkeeps, ?_, fun h => ?_⟩
  · obtain ⟨s, hs, hcheck⟩ := (Option.any_eq_true _ _).1 hgrows
    obtain ⟨hsupported, hcodecs⟩ := Bool.and_eq_true_iff.1 hcheck
    obtain ⟨hsupported, hsends⟩ := Bool.and_eq_true_iff.1 hsupported
    exact ⟨s, hs, of_decide_eq_true hsupported, hsends, of_decide_eq_true hcodecs⟩
  · obtain ⟨s, hs, -, hnot⟩ := hkeeps
    exact hnot (h vp8Vp9 .video _ s hs _ s List.prefix_rfl hs)

end RtpSender

end KoreWebsocket.Rtc
