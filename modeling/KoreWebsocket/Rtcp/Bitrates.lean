import KoreWebsocket.Lib.Mantissa
import KoreWebsocket.Rtcp.Nack

/-!
# Bitrates on the wire (`FeedbackPsRembPacket`, `FeedbackRtpTmmbItem`)

REMB packets and TMMB items have a bitrate as an exponent of 6 bits and a mantissa of 18 or 17 bits.
`Serialize` halves the bitrate until it fits the mantissa; the parsers shift the mantissa back and refuse
the packet or the item if that lost bits.
-/

namespace KoreWebsocket.Rtcp

open Bytes Byte Writer Mantissa

/-! ## What is sent -/

/-- `FeedbackPsRembPacket::GetSize`, `size` of a packet that was not parsed being 0. -/
def rembSize (ssrcs : List UInt32) : Nat := 4 + 8 + 8 + 4 * ssrcs.length

/-- The fields of a REMB packet in front of its SSRCs. -/
def rembFields (numSsrcs mantissa exponent : Nat) : List UInt8 :=
  beBytes 4 uniqueIdentifier.toNat ++ ([UInt8.ofNat numSsrcs] ++
    ([UInt8.ofNat (exponent <<< 2 ||| mantissa >>> 16)] ++ beBytes 2 (mantissa % 2 ^ 16)))

/-- `FeedbackPsRembPacket::Serialize`. -/
def serializeRemb (senderSsrc mediaSsrc : UInt32) (ssrcs : List UInt32) (bitrate : UInt64) : Writer :=
  let (mantissa, exponent) := normalise 0x3FFFF bitrate.toNat 0
  (((serializeHeader (rembSize ssrcs) 15 206).andThen (put (feedbackHeader senderSsrc mediaSsrc).1)).andThen
    (put (rembFields ssrcs.length mantissa exponent))).andThen
    (each (fun ssrc => put (beBytes 4 ssrc.toNat)) ssrcs)

/-- `compact` in `FeedbackRtpTmmbItem::Serialize`, of which 32 bits are written. -/
def compactOf (mantissa exponent overhead : Nat) : Nat := exponent <<< 26 ||| mantissa <<< 9 ||| overhead

/-- `FeedbackRtpTmmbItem::Serialize`. -/
def TmmbItem.serialize (item : TmmbItem) : Writer :=
  let (mantissa, exponent) := normalise 0x1ffff item.bitrate.toNat 0
  (put (beBytes 4 item.ssrc.toNat)).andThen
    (put (beBytes 4 (compactOf mantissa exponent item.overhead.toNat)))

/-! ## The bytes -/

def rembBytes (senderSsrc mediaSsrc : UInt32) (ssrcs : List UInt32) (mantissa exponent : Nat) :
    List UInt8 :=
  ((headerBytes (rembSize ssrcs) 15 206 ++ (feedbackHeader senderSsrc mediaSsrc).bytes) ++
    rembFields ssrcs.length mantissa exponent) ++ ssrcsBytes ssrcs

def tmmbBytes (ssrc : UInt32) (mantissa exponent overhead : Nat) : List UInt8 :=
  beBytes 4 ssrc.toNat ++ beBytes 4 (compactOf mantissa exponent overhead)

/-- What a bitrate becomes on the wire with a mantissa of `bits` bits. -/
structure Truncates (bits : Nat) (bitrate result : UInt64) : Prop where
  least : IsLeast {e | bitrate.toNat >>> e < 2 ^ bits} (exponent bits bitrate.toNat)
  fits : exponent bits bitrate.toNat < 2 ^ 6
  value : result.toNat = bitrate.toNat >>> exponent bits bitrate.toNat * 2 ^ exponent bits bitrate.toNat
  greatest : IsGreatest {v | v ≤ bitrate.toNat ∧ ∃ m e, m < 2 ^ bits ∧ v = m * 2 ^ e} result.toNat

section
variable {senderSsrc mediaSsrc : UInt32} {ssrcs : List UInt32} {bitrate : UInt64} {m e bits : Nat}

/-- The fields of a REMB packet before its SSRCs. -/
theorem length_rembFields (n : Nat) : (rembFields n m e).length = 8 := by
  simp only [rembFields, List.length_append, length_beBytes, List.length_singleton]

/-- `GetSize` of a REMB packet is what it takes. -/
theorem length_rembBytes : (rembBytes senderSsrc mediaSsrc ssrcs m e).length = rembSize ssrcs := by
  simp only [rembBytes, List.length_append, length_headerBytes, Header.bytes,
    (feedbackHeader senderSsrc mediaSsrc).2, length_rembFields, length_ssrcsBytes, rembSize]

/-- A REMB packet is written with the mantissa and the exponent of its bitrate. -/
theorem writes_remb (senderSsrc mediaSsrc : UInt32) (ssrcs : List UInt32) (bitrate : UInt64) :
    Writes (serializeRemb senderSsrc mediaSsrc ssrcs bitrate)
      (rembBytes senderSsrc mediaSsrc ssrcs (bitrate.toNat / 2 ^ exponent 18 bitrate.toNat)
        (exponent 18 bitrate.toNat)) := by
  have hnormal : normalise 0x3FFFF bitrate.toNat 0 = _ := normalise_eq 18 bitrate.toNat
  rw [serializeRemb, hnormal]
  exact (((writes_put _).andThen (writes_put _)).andThen (writes_put _)).andThen
    (writes_each (fun ssrc : UInt32 => writes_put (beBytes 4 ssrc.toNat)) ssrcs)

/-- An item of a TMMBR packet is written with the mantissa and the exponent of its bitrate. -/
theorem TmmbItem.writes (item : TmmbItem) : Writes item.serialize
    (tmmbBytes item.ssrc (item.bitrate.toNat / 2 ^ exponent 17 item.bitrate.toNat)
      (exponent 17 item.bitrate.toNat) item.overhead.toNat) := by
  have hnormal : normalise 0x1ffff item.bitrate.toNat 0 = _ := normalise_eq 17 item.bitrate.toNat
  rw [TmmbItem.serialize, hnormal]
  exact (writes_put _).andThen (writes_put _)

/-! ## The shift of a mantissa -/

theorem toNat_shiftLeft_ofNat (hm : m < 2 ^ 64) (he : e < 64) :
    (UInt64.ofNat m <<< UInt64.ofNat e).toNat = m * 2 ^ e % 2 ^ 64 := by
  rw [UInt64.toNat_shiftLeft, UInt64.toNat_ofNat', UInt64.toNat_ofNat', Nat.mod_eq_of_lt hm,
    Nat.mod_mod_of_dvd _ (by decide), Nat.mod_eq_of_lt he, Nat.shiftLeft_eq]

/-- To shift is to multiply, as numbers of 64 bits. -/
theorem shiftLeft_ofNat (hm : m < 2 ^ 64) (he : e < 64) :
    UInt64.ofNat m <<< UInt64.ofNat e = UInt64.ofNat (m * 2 ^ e) := by
  rw [← UInt64.toNat_inj, toNat_shiftLeft_ofNat hm he, UInt64.toNat_ofNat']

/-- Shifting back gives the mantissa exactly if nothing was lost. -/
theorem bitrateFits_iff (hm : m < 2 ^ 64) (he : e < 64) :
    bitrateFits (UInt64.ofNat m) e = true ↔ m * 2 ^ e < 2 ^ 64 := by
  have hpos : 0 < 2 ^ e := Nat.two_pow_pos e
  have hback : (UInt64.ofNat m <<< UInt64.ofNat e >>> UInt64.ofNat e).toNat =
      m * 2 ^ e % 2 ^ 64 / 2 ^ e := by
    rw [UInt64.toNat_shiftRight, toNat_shiftLeft_ofNat hm he, UInt64.toNat_ofNat',
      Nat.mod_mod_of_dvd _ (by decide), Nat.mod_eq_of_lt he, Nat.shiftRight_eq_div_pow]
  rw [bitrateFits, beq_iff_eq, ← UInt64.toNat_inj, hback, UInt64.toNat_ofNat', Nat.mod_eq_of_lt hm]
  constructor
  · intro h
    have hlt : m * 2 ^ e % 2 ^ 64 < 2 ^ 64 := Nat.mod_lt _ (by decide)
    have hsplit : 2 ^ 64 = 2 ^ (64 - e) * 2 ^ e := by
      rw [← Nat.pow_add]
      congr 1
      omega
    rw [hsplit] at hlt h ⊢
    have hdiv := (Nat.div_lt_iff_lt_mul hpos).2 hlt
    rw [h] at hdiv
    exact (Nat.mul_lt_mul_right hpos).2 hdiv
  · intro h
    rw [Nat.mod_eq_of_lt h, Nat.mul_div_cancel _ hpos]

theorem toNat_truncate (bits : Nat) (bitrate : UInt64) :
    (UInt64.ofNat (truncate bits bitrate.toNat)).toNat = truncate bits bitrate.toNat := by
  rw [UInt64.toNat_ofNat']
  exact Nat.mod_eq_of_lt ((truncate_le bits _).trans_lt bitrate.toNat_lt)

/-- The bitrate that is read is the largest one with such a mantissa that is not above it. -/
theorem truncates (hbits : 0 < bits) (hle : bits ≤ 64) (hexp : 64 - bits < 2 ^ 6) (bitrate : UInt64) :
    Truncates bits bitrate (UInt64.ofNat (truncate bits bitrate.toNat)) := by
  have hlt := bitrate.toNat_lt
  have hexponent : exponent bits bitrate.toNat ≤ 64 - bits := by
    refine exponent_le ?_
    rwa [Nat.add_sub_cancel' hle]
  refine ⟨?_, hexponent.trans_lt hexp, ?_, ?_⟩
  · simp only [Nat.shiftRight_eq_div_pow]
    exact isLeast_exponent bits bitrate.toNat
  · rw [toNat_truncate, Nat.shiftRight_eq_div_pow, truncate]
  · rw [toNat_truncate]
    exact isGreatest_truncate hbits bitrate.toNat

/-! ## What is parsed -/

/-- The second byte of a bitrate has the exponent and the top of the mantissa. -/
theorem toNat_exponentByte (hm : m < 2 ^ 18) (he : e < 64) :
    (UInt8.ofNat (e <<< 2 ||| m >>> 16)).toNat = 4 * e + m / 2 ^ 16 := by
  have hhigh : m >>> 16 < 2 ^ 2 := by
    rw [Nat.shiftRight_eq_div_pow]
    omega
  rw [← Nat.shiftLeft_add_eq_or_of_lt hhigh, UInt8.toNat_ofNat', Nat.shiftLeft_eq,
    Nat.shiftRight_eq_div_pow]
  omega

/-- The fields of a REMB packet are read as they are. -/
theorem get_rembFields (n m e : Nat) {a : List UInt8} (z : List UInt8) (ha : a.length = 12) :
    get4Bytes (a ++ (rembFields n m e ++ z)) 12 = .ok uniqueIdentifier ∧
      get1Byte (a ++ (rembFields n m e ++ z)) 16 = .ok (UInt8.ofNat n) ∧
      get1Byte (a ++ (rembFields n m e ++ z)) 17 = .ok (UInt8.ofNat (e <<< 2 ||| m >>> 16)) ∧
      get2Bytes (a ++ (rembFields n m e ++ z)) 18 = .ok (UInt16.ofNat (m % 2 ^ 16)) := by
  have hlow : beBytes 2 (m % 2 ^ 16) = beBytes 2 (UInt16.ofNat (m % 2 ^ 16)).toNat := by
    rw [UInt16.toNat_ofNat', Nat.mod_mod]
  simp only [rembFields, List.append_assoc]
  refine ⟨get4Bytes_mid _ ha.symm, ?_, ?_, ?_⟩
  · rw [← List.append_assoc a]
    refine get1Byte_mid _ ?_
    rw [List.length_append, ha, length_beBytes]
  · rw [← List.append_assoc a, ← List.append_assoc (a ++ _)]
    refine get1Byte_mid _ ?_
    rw [List.length_append, List.length_append, ha, length_beBytes, List.length_singleton]
  · rw [← List.append_assoc a, ← List.append_assoc (a ++ _), ← List.append_assoc (a ++ _ ++ _), hlow]
    refine get2Bytes_mid _ ?_
    simp only [List.length_append, ha, length_beBytes, List.length_singleton]

/-- A REMB packet is refused exactly if its mantissa and its exponent are too large. -/
theorem rembPacket_rembBytes (hssrcs : ssrcs.length ≤ 255) (hm : m < 2 ^ 18) (he : e < 64) :
    ∃ data, rembPacket (rembBytes senderSsrc mediaSsrc ssrcs m e) = .ok (if m * 2 ^ e < 2 ^ 64 then
      some [.remb (feedbackHeader senderSsrc mediaSsrc) data ssrcs (UInt64.ofNat (m * 2 ^ e))]
      else none) := by
  have hsize : rembSize ssrcs = 20 + ssrcs.length * 4 := by
    rw [rembSize]
    omega
  have hlen : (rembBytes senderSsrc mediaSsrc ssrcs m e).length = 20 + ssrcs.length * 4 := by
    rw [length_rembBytes, hsize]
  have hpl : packetLen (rembBytes senderSsrc mediaSsrc ssrcs m e) = 20 + ssrcs.length * 4 := by
    rw [rembBytes, List.append_assoc, List.append_assoc,
      packetLen_headerBytes (by omega) (by omega) (by omega), hsize]
  have h12 : 4 + 8 ≤ (rembBytes senderSsrc mediaSsrc ssrcs m e).length := by omega
  have hheader : headerAt (rembBytes senderSsrc mediaSsrc ssrcs m e) 4 h12 =
      feedbackHeader senderSsrc mediaSsrc := by
    simp only [rembBytes, List.append_assoc _ (rembFields _ _ _)]
    exact headerAt_feedbackHeader _
  have hlen12 : (headerBytes (rembSize ssrcs) 15 206 ++
      (feedbackHeader senderSsrc mediaSsrc).bytes).length = 12 := length_feedbackHeader
  obtain ⟨hid, hnum, hbyte, hlow⟩ := get_rembFields ssrcs.length m e (ssrcsBytes ssrcs) hlen12
  rw [← List.append_assoc, ← rembBytes] at hid hnum hbyte hlow
  have hread : rembSsrcs (rembBytes senderSsrc mediaSsrc ssrcs m e) ssrcs.length 20 = .ok ssrcs := by
    have hat := ssrcsAt_ssrcsBytes ((headerBytes (rembSize ssrcs) 15 206 ++
      (feedbackHeader senderSsrc mediaSsrc).bytes) ++ rembFields ssrcs.length m e) [] ssrcs
    rw [List.length_append, length_feedbackHeader, length_rembFields, List.append_nil] at hat
    rw [rembSsrcs_ok (by omega)]
    exact congrArg Except.ok hat
  have hbyte' := toNat_exponentByte hm he
  have hexp : (UInt8.ofNat (e <<< 2 ||| m >>> 16)).toNat / 4 = e := by omega
  have hmant : (UInt8.ofNat (e <<< 2 ||| m >>> 16)).toNat % 4 * 2 ^ 16 +
      (UInt16.ofNat (m % 2 ^ 16)).toNat = m := by
    rw [UInt16.toNat_ofNat']
    omega
  have hn : (UInt8.ofNat ssrcs.length).toNat = ssrcs.length := by
    rw [UInt8.toNat_ofNat']
    omega
  have hafb : afbSize (rembBytes senderSsrc mediaSsrc ssrcs m e) =
      .ok (packetLen (rembBytes senderSsrc mediaSsrc ssrcs m e) - 12) := if_pos (by omega)
  refine ⟨((rembBytes senderSsrc mediaSsrc ssrcs m e).drop 12).take
    (packetLen (rembBytes senderSsrc mediaSsrc ssrcs m e) - 12), ?_⟩
  rw [rembPacket, feedback_of_le h12, hafb, Checked.ok_bind, hid, Checked.ok_bind,
    if_neg (not_not.2 rfl), hnum, Checked.ok_bind, hbyte, Checked.ok_bind, hlow, Checked.ok_bind]
  dsimp only
  rw [hexp, hmant, hn, hheader]
  by_cases hfits : m * 2 ^ e < 2 ^ 64
  · have hbits := (bitrateFits_iff (hm.trans (by decide)) he).2 hfits
    rw [hbits, Bool.not_true, if_neg (by decide), if_neg (not_not.2 hpl), hread, if_pos hfits,
      shiftLeft_ofNat (hm.trans (by decide)) he]
    rfl
  · have hbits : bitrateFits (UInt64.ofNat m) e = false :=
      Bool.eq_false_iff.2 fun h => hfits ((bitrateFits_iff (hm.trans (by decide)) he).1 h)
    rw [hbits, if_neg hfits]
    rfl

/-- The same in `Packet::Parse`. -/
theorem parse_rembBytes (hssrcs : ssrcs.length ≤ 255) (hm : m < 2 ^ 18) (he : e < 64) :
    ∃ data, parse (rembBytes senderSsrc mediaSsrc ssrcs m e) = .ok (if m * 2 ^ e < 2 ^ 64 then
      [.remb (feedbackHeader senderSsrc mediaSsrc) data ssrcs (UInt64.ofNat (m * 2 ^ e))] else []) := by
  obtain ⟨data, hremb⟩ : ∃ data, rembPacket (rembBytes senderSsrc mediaSsrc ssrcs m e) = _ :=
    rembPacket_rembBytes hssrcs hm he
  have hsize : rembSize ssrcs = 20 + ssrcs.length * 4 := by
    rw [rembSize]
    omega
  have hassoc : rembBytes senderSsrc mediaSsrc ssrcs m e = headerBytes (rembSize ssrcs) 15 206 ++
      ((feedbackHeader senderSsrc mediaSsrc).bytes ++ (rembFields ssrcs.length m e ++ ssrcsBytes ssrcs)) := by
    rw [rembBytes, List.append_assoc, List.append_assoc]
  have hlen : (rembBytes senderSsrc mediaSsrc ssrcs m e).length = rembSize ssrcs := length_rembBytes
  have h12 : 4 + 8 ≤ (rembBytes senderSsrc mediaSsrc ssrcs m e).length := by omega
  have hlen12 : (headerBytes (rembSize ssrcs) 15 206 ++
      (feedbackHeader senderSsrc mediaSsrc).bytes).length = 12 := length_feedbackHeader
  have hid := (get_rembFields ssrcs.length m e (ssrcsBytes ssrcs) hlen12).1
  rw [← List.append_assoc, ← rembBytes] at hid
  have hcount : count (rembBytes senderSsrc mediaSsrc ssrcs m e) = 15 := by
    rw [hassoc, count_headerBytes]
  have hpacket : parsePacket (rembBytes senderSsrc mediaSsrc ssrcs m e) =
      rembPacket (rembBytes senderSsrc mediaSsrc ssrcs m e) := by
    change feedbackPsPacket (rembBytes senderSsrc mediaSsrc ssrcs m e) = _
    rw [feedbackPsPacket, feedback_of_le h12, hcount]
    change afbPacket (rembBytes senderSsrc mediaSsrc ssrcs m e) = _
    rw [afbPacket, feedback_of_le h12, hid, Checked.ok_bind, if_pos rfl]
  refine ⟨data, ?_⟩
  rw [hremb] at hpacket
  rw [hassoc] at hlen hpacket ⊢
  by_cases hfits : m * 2 ^ e < 2 ^ 64
  · rw [if_pos hfits] at hpacket ⊢
    exact parse_headerBytes hlen (by omega) (by omega) (by decide) (by decide) hpacket
  · rw [if_neg hfits] at hpacket ⊢
    have hframed := framed_headerBytes hlen (by omega) (by omega) (by decide) (by decide)
    exact (parse_framed hframed).2 (.inl ⟨hpacket, rfl⟩)

/-! ### TMMB items -/

/-- The three numbers of an item share one word. -/
theorem compactOf_eq {overhead : Nat} (hm : m < 2 ^ 17) (ho : overhead < 2 ^ 9) :
    compactOf m e overhead = e * 2 ^ 26 + m * 2 ^ 9 + overhead := by
  have hmantissa : m <<< 9 < 2 ^ 26 := by
    rw [Nat.shiftLeft_eq]
    omega
  have hshift : e <<< 26 + m <<< 9 = (e * 2 ^ 17 + m) <<< 9 := by
    simp only [Nat.shiftLeft_eq]
    ring
  rw [compactOf, ← Nat.shiftLeft_add_eq_or_of_lt hmantissa, hshift, ← Nat.shiftLeft_add_eq_or_of_lt ho,
    Nat.shiftLeft_eq]
  ring

/-- A TMMB item in front of other bytes is refused exactly if its mantissa and its exponent are too
large. -/
theorem tmmbItem_tmmbBytes (ssrc : UInt32) (overhead : UInt16) (z : List UInt8) (hm : m < 2 ^ 17)
    (he : e < 64) (ho : overhead.toNat < 2 ^ 9) :
    tmmbItem (tmmbBytes ssrc m e overhead.toNat ++ z) = .ok (if m * 2 ^ e < 2 ^ 64 then
      some ({ ssrc, bitrate := UInt64.ofNat (m * 2 ^ e), overhead }, 8) else none) := by
  have hlen : (tmmbBytes ssrc m e overhead.toNat).length = 8 := by
    rw [tmmbBytes, List.length_append, length_beBytes, length_beBytes]
  have h8 : 0 + 8 ≤ (tmmbBytes ssrc m e overhead.toNat ++ z).length := by
    rw [List.length_append, hlen]
    omega
  obtain ⟨header, hbytes⟩ : ∃ header : Header 8, header.1 = tmmbBytes ssrc m e overhead.toNat :=
    ⟨⟨_, hlen⟩, rfl⟩
  have hheader : headerAt (tmmbBytes ssrc m e overhead.toNat ++ z) 0 h8 = header := by
    refine Subtype.ext ?_
    rw [hbytes]
    exact List.take_left' hlen
  have hcompact : tmmbCompact header = e * 2 ^ 26 + m * 2 ^ 9 + overhead.toNat := by
    rw [tmmbCompact, hbytes, tmmbBytes, List.drop_left' (length_beBytes 4 _), be_beBytes,
      compactOf_eq hm ho]
    omega
  have hssrc : UInt32.ofNat (be (header.1.take 4)) = ssrc := by
    rw [hbytes, tmmbBytes, List.take_left' (length_beBytes 4 _), ofNat_be_beBytes_four]
  have hexp : (e * 2 ^ 26 + m * 2 ^ 9 + overhead.toNat) / 2 ^ 26 = e := by omega
  have hmant : (e * 2 ^ 26 + m * 2 ^ 9 + overhead.toNat) / 2 ^ 9 % 2 ^ 17 = m := by omega
  have hover : (e * 2 ^ 26 + m * 2 ^ 9 + overhead.toNat) % 2 ^ 9 = overhead.toNat := by omega
  have hm64 : m < 2 ^ 64 := hm.trans (by decide)
  rw [tmmbItem, headerItem, dif_pos h8, hheader, tmmbCorrect, decodeTmmb, hcompact, hexp, hmant, hover,
    hssrc, UInt16.ofNat_toNat, shiftLeft_ofNat hm64 he]
  by_cases hfits : m * 2 ^ e < 2 ^ 64
  · rw [if_pos ((bitrateFits_iff hm64 he).2 hfits), if_pos hfits]
    rfl
  · rw [if_neg (mt (bitrateFits_iff hm64 he).1 hfits), if_neg hfits]
    rfl

end

/-! ## Every bitrate -/

/-- **The bitrates on the wire.** What is sent of a bitrate is parsed as the largest value with a
mantissa of 18 or 17 bits that is not above it, with everything else as it was, and is written as the same
bytes again. An exponent and a mantissa are accepted exactly if their value has 64 bits. -/
theorem bitrates_truncate :
    (∀ (senderSsrc mediaSsrc : UInt32) (ssrcs : List UInt32), ssrcs.length ≤ 255 →
      (∀ bitrate, ∃ bytes data result,
        Writes (serializeRemb senderSsrc mediaSsrc ssrcs bitrate) bytes ∧
        parse bytes = .ok [.remb (feedbackHeader senderSsrc mediaSsrc) data ssrcs result] ∧
        Truncates 18 bitrate result ∧
        Writes (serializeRemb senderSsrc mediaSsrc ssrcs result) bytes) ∧
      ∀ mantissa exponent, mantissa < 2 ^ 18 → exponent < 2 ^ 6 →
        ((∃ packet, parse (rembBytes senderSsrc mediaSsrc ssrcs mantissa exponent) = .ok [packet]) ↔
          mantissa * 2 ^ exponent < 2 ^ 64)) ∧
    ∀ (ssrc : UInt32) (overhead : UInt16) (z : List UInt8), overhead.toNat < 2 ^ 9 →
      (∀ bitrate, ∃ bytes result,
        Writes (TmmbItem.serialize { ssrc, bitrate, overhead }) bytes ∧
        tmmbItem (bytes ++ z) = .ok (some ({ ssrc, bitrate := result, overhead }, 8)) ∧
        Truncates 17 bitrate result ∧
        Writes (TmmbItem.serialize { ssrc, bitrate := result, overhead }) bytes) ∧
      ∀ mantissa exponent, mantissa < 2 ^ 17 → exponent < 2 ^ 6 →
        ((∃ item, tmmbItem (tmmbBytes ssrc mantissa exponent overhead.toNat ++ z) = .ok (some item)) ↔
          mantissa * 2 ^ exponent < 2 ^ 64) := by
  have hvalue : ∀ (bits : Nat) (bitrate : UInt64), bitrate.toNat / 2 ^ exponent bits bitrate.toNat *
      2 ^ exponent bits bitrate.toNat < 2 ^ 64 :=
    fun bits bitrate => (truncate_le bits bitrate.toNat).trans_lt bitrate.toNat_lt
  refine ⟨fun senderSsrc mediaSsrc ssrcs hssrcs => ⟨fun bitrate => ?_, fun m e hm he => ?_⟩,
    fun ssrc overhead z ho => ⟨fun bitrate => ?_, fun m e hm he => ?_⟩⟩
  · have htrunc : Truncates 18 bitrate _ := truncates (by decide) (by decide) (by decide) bitrate
    obtain ⟨data, hparse⟩ : ∃ data, parse (rembBytes senderSsrc mediaSsrc ssrcs _ _) = _ :=
      parse_rembBytes hssrcs (mantissa_lt 18 bitrate.toNat) htrunc.fits
    rw [if_pos (hvalue 18 bitrate)] at hparse
    refine ⟨_, data, _, writes_remb senderSsrc mediaSsrc ssrcs bitrate, hparse, htrunc, ?_⟩
    have hagain := writes_remb senderSsrc mediaSsrc ssrcs (UInt64.ofNat (truncate 18 bitrate.toNat))
    rwa [toNat_truncate, mantissa_truncate (by decide), exponent_truncate (by decide)] at hagain
  · obtain ⟨data, hparse⟩ : ∃ data, parse (rembBytes senderSsrc mediaSsrc ssrcs m e) = _ :=
      parse_rembBytes hssrcs hm he
    rw [hparse]
    by_cases hfits : m * 2 ^ e < 2 ^ 64
    · rw [if_pos hfits]
      exact iff_of_true ⟨_, rfl⟩ hfits
    · rw [if_neg hfits]
      refine iff_of_false ?_ hfits
      rintro ⟨packet, h⟩
      cases h
  · have htrunc : Truncates 17 bitrate _ := truncates (by decide) (by decide) (by decide) bitrate
    have hparse := tmmbItem_tmmbBytes ssrc overhead z (mantissa_lt 17 bitrate.toNat) htrunc.fits ho
    rw [if_pos (hvalue 17 bitrate)] at hparse
    refine ⟨_, _, TmmbItem.writes { ssrc, bitrate, overhead }, hparse, htrunc, ?_⟩
    have hagain := TmmbItem.writes
      { ssrc, bitrate := UInt64.ofNat (truncate 17 bitrate.toNat), overhead }
    rwa [toNat_truncate, mantissa_truncate (by decide), exponent_truncate (by decide)] at hagain
  · rw [tmmbItem_tmmbBytes ssrc overhead z hm he ho]
    by_cases hfits : m * 2 ^ e < 2 ^ 64
    · rw [if_pos hfits]
      exact iff_of_true ⟨_, rfl⟩ hfits
    · rw [if_neg hfits]
      refine iff_of_false ?_ hfits
      rintro ⟨item, h⟩
      cases h

/-- A REMB packet with one SSRC and a TMMB item, and exponents that a peer may send. -/
theorem bitrates_truncate_one_ssrc :
    ((∀ bitrate, ∃ bytes data result,
      Writes (serializeRemb 1 2 [3] bitrate) bytes ∧
      parse bytes = .ok [.remb (feedbackHeader 1 2) data [3] result] ∧
      Truncates 18 bitrate result ∧ Writes (serializeRemb 1 2 [3] result) bytes) ∧
    ((∃ packet, parse (rembBytes 1 2 [3] 1 63) = .ok [packet]) ↔ 1 * 2 ^ 63 < 2 ^ 64)) ∧
    (∀ bitrate, ∃ bytes result,
      Writes (TmmbItem.serialize { ssrc := 1, bitrate, overhead := 40 }) bytes ∧
      tmmbItem (bytes ++ []) = .ok (some ({ ssrc := 1, bitrate := result, overhead := 40 }, 8)) ∧
      Truncates 17 bitrate result ∧
      Writes (TmmbItem.serialize { ssrc := 1, bitrate := result, overhead := 40 }) bytes) ∧
    ((∃ item, tmmbItem (tmmbBytes 1 2 63 40 ++ []) = .ok (some item)) ↔ 2 * 2 ^ 63 < 2 ^ 64) :=
  have hremb := bitrates_truncate.1 1 2 [3] (by decide)
  have htmmb := bitrates_truncate.2 1 40 [] (by decide)
  ⟨⟨hremb.1, hremb.2 1 63 (by decide) (by decide)⟩, htmmb.1, htmmb.2 2 63 (by decide) (by decide)⟩

end KoreWebsocket.Rtcp
