import KoreWebsocket.Rtc.Room
import KoreWebsocket.Rtcp.RoundTrip
import KoreWebsocket.Rtp.Codec
import KoreWebsocket.Stun.Message

/-!
# What a transport receives (`RTC::Transport::OnPacketRecv`, `mediasoup_1/soup`)

STUN, RTCP, RTP and DTLS come over one tuple, and the first bytes tell them apart. RTCP is told from RTP
by its second byte, which is the packet type of the one and the marker with the payload type of the other:
from 192 to 223 it is RTCP. `Room::SetCapabilities` leaves out the payload types that would look like the
packet types 200 to 204 behind a marker, but has others whose second byte is in the range
(`marked_packet_is_taken_for_rtcp`). `packets_dispatched_iff` has the exact condition.
-/

namespace KoreWebsocket.Rtc

open Bytes

/-- Where `Transport::OnPacketRecv` passes the data on. -/
inductive Received
  | stun | rtcp | rtp | dtls | ignored
  deriving DecidableEq, Repr

/-- `DtlsTransport::IsDtls`. -/
def isDtls (d : List UInt8) : Bool := 13 ≤ d.length && 19 < d.getD 0 0 && d.getD 0 0 < 64

/-- `Transport::OnPacketRecv`. -/
def onPacketRecv (d : List UInt8) : Received :=
  if Stun.isStun d then .stun
  else if Rtcp.isRtcp d then .rtcp
  else if Rtp.isRtp d then .rtp
  else if isDtls d then .dtls
  else .ignored

/-- The payload types of a room's codecs and of their RTX codecs. -/
def Room.payloadTypes (room : Room) : List UInt8 :=
  room.capabilities.codecs.map (·.payloadType) ++
    room.mapPayloadRtxCodecParameters.entries.map (·.2.payloadType)

/-! ## RTP -/

/-- A packet that is accepted has the version of RTP, and its buffer is the data. -/
theorem isRtp_of_parse {behind : UInt8} {d : List UInt8} {p : Rtp.Packet}
    (h : Rtp.parse behind d = .ok (some p)) : Rtp.isRtp d = true ∧ p.buf = d := by
  have hfits : Rtp.Fits d := Rtp.fits_of_parse behind (by rw [h]; nofun)
  obtain ⟨s, rfl⟩ := hfits.sections
  obtain ⟨q, hq, hbuf, -⟩ := Rtp.parse_sections behind s
  cases hq.symm.trans h
  exact ⟨(Rtp.isRtp_iff _).2 ⟨hfits.1, hfits.2.1⟩, hbuf⟩

/-- The first byte of RTP and RTCP is not that of STUN. -/
theorem not_isStun {d : List UInt8} (h : 127 < d.getD 0 0) : Stun.isStun d = false := by
  have hnot : ¬ d.getD 0 0 < 3 := by
    rw [UInt8.lt_iff_toNat_lt] at h ⊢
    exact fun hlt => absurd (h.trans hlt) (by decide)
  unfold Stun.isStun
  rw [decide_eq_false hnot, Bool.and_false, Bool.false_and]

/-- Whether RTP looks like RTCP is seen in the second byte. -/
theorem isRtcp_iff_of_isRtp {d : List UInt8} (h : Rtp.isRtp d = true) :
    Rtcp.isRtcp d = true ↔ 192 ≤ d.getD 1 0 ∧ d.getD 1 0 ≤ 223 := by
  obtain ⟨hlen, hversion⟩ := (Rtp.isRtp_iff d).1 h
  have hlen' : 4 ≤ d.length := le_trans (by decide) hlen
  unfold Rtp.isRtp at h
  simp only [Bool.and_eq_true, decide_eq_true_eq] at h
  obtain ⟨⟨⟨-, hlow⟩, hhigh⟩, -⟩ := h
  have hshift : ∀ b : UInt8, 127 < b → b < 192 → (b >>> 6 == 2) = true := by decide +kernel
  unfold Rtcp.isRtcp
  simp only [Bool.and_eq_true, decide_eq_true_eq, hshift _ hlow hhigh, hlen', hlow, hhigh, true_and]

/-- The second byte of RTP. -/
theorem second_byte_iff (b : UInt8) :
    192 ≤ b ∧ b ≤ 223 ↔ 128 ≤ b ∧ 64 ≤ b &&& 0x7F ∧ b &&& 0x7F ≤ 95 := by
  revert b
  decide +kernel

/-- **RTP is passed on as RTP** unless it has the marker and a payload type from 64 to 95. -/
theorem onPacketRecv_of_parse {behind : UInt8} {d : List UInt8} {p : Rtp.Packet}
    (h : Rtp.parse behind d = .ok (some p)) :
    onPacketRecv d = .rtp ↔
      ¬ (p.hasMarker = true ∧ 64 ≤ p.getPayloadType ∧ p.getPayloadType ≤ 95) := by
  obtain ⟨hrtp, rfl⟩ := isRtp_of_parse h
  have hfirst : 127 < p.buf.getD 0 0 := by
    unfold Rtp.isRtp at hrtp
    simp only [Bool.and_eq_true, decide_eq_true_eq] at hrtp
    exact hrtp.1.1.2
  have hclash : Rtcp.isRtcp p.buf = true ↔
      p.hasMarker = true ∧ 64 ≤ p.getPayloadType ∧ p.getPayloadType ≤ 95 := by
    rw [isRtcp_iff_of_isRtp hrtp, second_byte_iff, Rtp.Packet.hasMarker, decide_eq_true_eq]
    rfl
  unfold onPacketRecv
  rw [if_neg (by rw [not_isStun hfirst]; nofun), ← hclash]
  split
  case isTrue hrtcp => exact ⟨nofun, fun hnot => absurd hrtcp hnot⟩
  case isFalse hrtcp => exact ⟨fun _ => hrtcp, fun _ => rfl⟩

/-! ## RTCP -/

/-- **What starts with an RTCP header is passed on as RTCP.** -/
theorem onPacketRecv_headerBytes (size count : Nat) {type : UInt8} (hlow : 200 ≤ type)
    (hhigh : type ≤ 206) (z : List UInt8) :
    onPacketRecv (Rtcp.headerBytes size count type ++ z) = .rtcp := by
  have hrtcp : Rtcp.isRtcp (Rtcp.headerBytes size count type ++ z) = true :=
    Rtcp.isRtcp_headerBytes (UInt8.le_trans (show (192 : UInt8) ≤ 200 by decide) hlow)
      (UInt8.le_trans hhigh (show (206 : UInt8) ≤ 223 by decide))
  have hfirst : 127 < (Rtcp.headerBytes size count type ++ z).getD 0 0 := by
    have h := hrtcp
    unfold Rtcp.isRtcp at h
    simp only [Bool.and_eq_true, decide_eq_true_eq] at h
    exact h.1.1.1.1.2
  unfold onPacketRecv
  rw [if_neg (by rw [not_isStun hfirst]; nofun), if_pos hrtcp]

/-- **RTP and RTCP are told apart** where no packet with the marker has a payload type from 64 to 95. -/
theorem packets_dispatched_iff (roomId : UInt32) (mediaCodecs : List RtpCodecParameters) :
    (∀ room, Room.setCapabilities { roomId } mediaCodecs = .ok room →
      ∀ payloadType ∈ room.payloadTypes, ∀ behind d p, Rtp.parse behind d = .ok (some p) →
        p.getPayloadType = payloadType →
          (onPacketRecv d = .rtp ↔ ¬ (p.hasMarker = true ∧ 64 ≤ payloadType ∧ payloadType ≤ 95))) ∧
    ∀ size count type buffer, 200 ≤ type → type ≤ 206 → 4 ≤ buffer.length →
      ∃ d, Rtcp.serializeHeader size count type buffer 0 = .ok (d, 4) ∧ onPacketRecv d = .rtcp := by
  constructor
  · rintro room - payloadType - behind d p hparse rfl
    exact onPacketRecv_of_parse hparse
  · intro size count type buffer hlow hhigh hfit
    have hwrite := (Writer.writes_put (Rtcp.headerBytes size count type)).start buffer
      (by rw [Rtcp.length_headerBytes]; exact hfit)
    rw [Rtcp.length_headerBytes] at hwrite
    exact ⟨_, hwrite, onPacketRecv_headerBytes size count hlow hhigh _⟩

/-- A packet without a payload: version 2, the marker and payload type 100. -/
def marked100 : List UInt8 := [0x80, 0xE4, 0, 1, 0, 0, 0, 2, 0, 0, 0, 3]

/-- Video codecs without payload types of their own. -/
def videoCodecs (n : Nat) : List RtpCodecParameters :=
  List.replicate n { kind := .video, mime := { type := .video, subtype := .vp8 }, clockRate := 90000 }

theorem packets_dispatched_iff_marked100 :
    onPacketRecv marked100 = .rtp ∧
      ∃ d, Rtcp.serializeHeader 28 0 200 (List.replicate 4 0) 0 = .ok (d, 4) ∧ onPacketRecv d = .rtcp :=
  have hdispatched := packets_dispatched_iff 1 (videoCodecs 1)
  ⟨(hdispatched.1 _ rfl 100 (by decide) 0 marked100 _ rfl rfl).2 (by decide),
    hdispatched.2 28 0 200 (List.replicate 4 0) (by decide) (by decide) (by decide)⟩

/-- A packet without a payload: version 2, the marker and payload type 77. -/
def marked77 : List UInt8 := [0x80, 0xCD, 0, 1, 0, 0, 0, 2, 0, 0, 0, 3]

/-- **A packet with the marker and an assigned payload type is taken for RTCP**: the 17th video codec of a
room gets 77. -/
theorem marked_packet_is_taken_for_rtcp :
    ¬ ((∀ roomId mediaCodecs room, Room.setCapabilities { roomId } mediaCodecs = .ok room →
        ∀ payloadType ∈ room.payloadTypes, ∀ behind d p, Rtp.parse behind d = .ok (some p) →
          p.getPayloadType = payloadType → onPacketRecv d = .rtp) ∧
      ∀ size count type buffer, 200 ≤ type → type ≤ 206 → 4 ≤ buffer.length →
        ∃ d, Rtcp.serializeHeader size count type buffer 0 = .ok (d, 4) ∧ onPacketRecv d = .rtcp) := by
  rintro ⟨h, -⟩
  have hrtp := h 1 (videoCodecs 17) _ rfl 77 (by decide +kernel) 0 marked77 _ rfl rfl
  exact absurd hrtp (by decide)

end KoreWebsocket.Rtc
