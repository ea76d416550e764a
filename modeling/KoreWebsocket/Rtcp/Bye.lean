import KoreWebsocket.Rtcp.RoundTrip

/-!
# BYE packets round trip (`RTC::RTCP::ByePacket`)

A BYE packet has its SSRCs and, when it is not empty, a reason behind a byte with its length; zeros fill
it to a multiple of four. The parser takes the count of the header for the SSRCs and reads a reason when
any byte is left, so a packet without a reason must end with its SSRCs, and it does: it needs no zeros.
-/

namespace KoreWebsocket.Rtcp

open Bytes Byte Writer

variable {ssrcs : List UInt32} {reason : List UInt8}

/-- The size without the zeros, `offset` in `ByePacket::Serialize`. -/
def byeOffset (ssrcs : List UInt32) (reason : List UInt8) : Nat :=
  4 + ssrcs.length * 4 + if reason = [] then 0 else 1 + reason.length

/-- `ByePacket::GetSize`. -/
def byeSize (ssrcs : List UInt32) (reason : List UInt8) : Nat := pad4 (byeOffset ssrcs reason)

/-- The zeros behind the reason, `(-offset) & 3`. -/
def byePadding (ssrcs : List UInt32) (reason : List UInt8) : Nat :=
  (4 - byeOffset ssrcs reason % 4) % 4

/-- The reason in `ByePacket::Serialize`, which an empty string does not have. -/
def serializeReason (reason : List UInt8) : Writer :=
  if reason = [] then put [] else (put [UInt8.ofNat reason.length]).andThen (put reason)

/-- `ByePacket::Serialize`. -/
def serializeBye (ssrcs : List UInt32) (reason : List UInt8) : Writer :=
  (((serializeHeader (byeSize ssrcs reason) ssrcs.length 203).andThen
    (each (fun ssrc => put (beBytes 4 ssrc.toNat)) ssrcs)).andThen
    (serializeReason reason)).andThen (put (List.replicate (byePadding ssrcs reason) 0))

/-! ## The bytes -/

def reasonBytes (reason : List UInt8) : List UInt8 :=
  if reason = [] then [] else [UInt8.ofNat reason.length] ++ reason

def byeBytes (ssrcs : List UInt32) (reason : List UInt8) : List UInt8 :=
  ((headerBytes (byeSize ssrcs reason) ssrcs.length 203 ++ ssrcsBytes ssrcs) ++ reasonBytes reason) ++
    List.replicate (byePadding ssrcs reason) 0

/-- A reason has its length in front. -/
theorem length_reasonBytes (reason : List UInt8) :
    (reasonBytes reason).length = if reason = [] then 0 else 1 + reason.length := by
  rw [reasonBytes]
  split
  · rfl
  · rw [List.length_append, List.length_singleton]

/-- `GetSize` of a BYE packet is what it takes. -/
theorem length_byeBytes : (byeBytes ssrcs reason).length = byeSize ssrcs reason := by
  simp only [byeBytes, List.length_append, length_headerBytes, length_ssrcsBytes, length_reasonBytes,
    List.length_replicate, byePadding, byeSize, byeOffset, pad4]
  omega

/-- A reason is its length and its text. -/
theorem writes_reason (reason : List UInt8) : Writes (serializeReason reason) (reasonBytes reason) := by
  unfold serializeReason reasonBytes
  split
  · exact writes_put []
  · exact (writes_put _).andThen (writes_put reason)

/-- A BYE packet is written as its SSRCs and its reason. -/
theorem writes_bye (ssrcs : List UInt32) (reason : List UInt8) :
    Writes (serializeBye ssrcs reason) (byeBytes ssrcs reason) :=
  (((writes_put _).andThen (writes_each (fun ssrc : UInt32 => writes_put (beBytes 4 ssrc.toNat))
    ssrcs)).andThen (writes_reason reason)).andThen (writes_put _)

/-! ## What is parsed -/

/-- A reason and its zeros, or nothing. -/
theorem reasonAt_reasonBytes (a : List UInt8) (n : Nat) (hreason : reason.length ≤ 255)
    (hn : reason = [] → n = 0) :
    reasonAt (a ++ (reasonBytes reason ++ List.replicate n 0)) a.length = reason := by
  rw [reasonAt]
  by_cases hempty : reason = []
  · subst hempty
    rw [hn rfl]
    have hbytes : reasonBytes [] ++ List.replicate 0 0 = ([] : List UInt8) := rfl
    rw [hbytes, List.append_nil, if_neg (by omega)]
  · have hbytes : reasonBytes reason = UInt8.ofNat reason.length :: reason := if_neg hempty
    have hfirst : (a ++ (reasonBytes reason ++ List.replicate n 0)).getD a.length 0 =
        UInt8.ofNat reason.length := by
      rw [hbytes, List.getD_append_right _ _ _ _ (Nat.le_refl _), Nat.sub_self]
      rfl
    have hlen : (UInt8.ofNat reason.length).toNat = reason.length := by
      rw [UInt8.toNat_ofNat']
      omega
    have hbehind : (a ++ (reasonBytes reason ++ List.replicate n 0)).drop (a.length + 1) =
        reason ++ List.replicate n 0 := by
      rw [← List.drop_drop, List.drop_left, hbytes]
      rfl
    rw [hfirst, hlen, hbehind, List.take_left, if_pos]
    rw [List.length_append, List.length_append, hbytes, List.length_cons]
    omega

/-- A BYE packet is read back. -/
theorem byePacket_byeBytes (hssrcs : ssrcs.length ≤ 31) (hreason : reason.length ≤ 255) :
    byePacket (byeBytes ssrcs reason) = .ok (some [.bye ssrcs reason]) := by
  have hsize : (byeBytes ssrcs reason).length = byeSize ssrcs reason := length_byeBytes
  have h4 : 4 + 4 * ssrcs.length ≤ byeSize ssrcs reason := by
    rw [byeSize, byeOffset, pad4]
    omega
  have hcount : count (byeBytes ssrcs reason) = ssrcs.length := by
    rw [byeBytes, List.append_assoc, List.append_assoc, count_headerBytes]
    omega
  have hmin : min ssrcs.length (((byeBytes ssrcs reason).length - 4) / 4) = ssrcs.length := by
    omega
  have hssrcsAt : ssrcsAt (byeBytes ssrcs reason) ssrcs.length 4 = ssrcs := by
    have hat := ssrcsAt_ssrcsBytes (headerBytes (byeSize ssrcs reason) ssrcs.length 203)
      (reasonBytes reason ++ List.replicate (byePadding ssrcs reason) 0) ssrcs
    rwa [length_headerBytes, ← List.append_assoc, ← List.append_assoc,
      List.append_assoc (headerBytes _ _ _)] at hat
  have hreasonAt : reasonAt (byeBytes ssrcs reason) (4 + 4 * ssrcs.length) = reason := by
    have hnone : reason = [] → byePadding ssrcs reason = 0 := by
      rintro rfl
      rw [byePadding, byeOffset, if_pos rfl]
      omega
    have hat := reasonAt_reasonBytes
      (headerBytes (byeSize ssrcs reason) ssrcs.length 203 ++ ssrcsBytes ssrcs) _ hreason hnone
    rwa [← List.append_assoc, List.length_append, length_headerBytes, length_ssrcsBytes] at hat
  rw [byePacket_eq (by omega), hcount, hmin, hssrcsAt, hreasonAt, if_pos (by omega)]

/-- **BYE packets round trip.** The packet is written with exactly the size that `GetSize` says, a
multiple of four that the header announces as it announces the SSRCs, and the parser gives its SSRCs and
its reason back. -/
theorem bye_round_trips (ssrcs : List UInt32) (reason : List UInt8) (hssrcs : ssrcs.length ≤ 31)
    (hreason : reason.length ≤ 255) :
    ∃ bytes : List UInt8,
      (∀ buffer, bytes.length ≤ buffer.length → serializeBye ssrcs reason buffer 0 =
        .ok (bytes ++ buffer.drop bytes.length, byeSize ssrcs reason)) ∧
      bytes.length = byeSize ssrcs reason ∧ byeSize ssrcs reason % 4 = 0 ∧
      packetLen bytes = byeSize ssrcs reason ∧ count bytes = ssrcs.length ∧
      parse bytes = .ok [.bye ssrcs reason] := by
  have hmod : byeSize ssrcs reason % 4 = 0 := by
    rw [byeSize, pad4]
    omega
  have hrange : 4 ≤ byeSize ssrcs reason ∧ byeSize ssrcs reason ≤ 262144 := by
    rw [byeSize, byeOffset, pad4]
    split <;> omega
  have hbytes : byeBytes ssrcs reason = headerBytes (byeSize ssrcs reason) ssrcs.length 203 ++
      (ssrcsBytes ssrcs ++ (reasonBytes reason ++ List.replicate (byePadding ssrcs reason) 0)) := by
    rw [byeBytes, List.append_assoc, List.append_assoc]
  have hlen : (byeBytes ssrcs reason).length = byeSize ssrcs reason := length_byeBytes
  have hpl : packetLen (byeBytes ssrcs reason) = byeSize ssrcs reason := by
    rw [hbytes, packetLen_headerBytes hmod hrange.1 hrange.2]
  refine ⟨byeBytes ssrcs reason, ?_, hlen, hmod, hpl, ?_, ?_⟩
  · intro buffer hfit
    have hwrite := (writes_bye ssrcs reason).start buffer hfit
    rwa [hlen] at hwrite ⊢
  · rw [hbytes, count_headerBytes]
    omega
  · have hpacket : parsePacket (byeBytes ssrcs reason) = .ok (some [.bye ssrcs reason]) :=
      byePacket_byeBytes hssrcs hreason
    rw [hbytes] at hlen hpacket ⊢
    exact parse_headerBytes hlen hmod hrange.2 (by decide) (by decide) hpacket

/-- A reason of one byte, which leaves two zeros behind it. -/
theorem bye_round_trips_one_byte : ∃ bytes : List UInt8,
    (∀ buffer, bytes.length ≤ buffer.length → serializeBye [7] [104] buffer 0 =
      .ok (bytes ++ buffer.drop bytes.length, byeSize [7] [104])) ∧
    bytes.length = byeSize [7] [104] ∧ byeSize [7] [104] % 4 = 0 ∧
    packetLen bytes = byeSize [7] [104] ∧ count bytes = [7].length ∧
    parse bytes = .ok [.bye [7] [104]] :=
  bye_round_trips [7] [104] (by decide) (by decide)

end KoreWebsocket.Rtcp
