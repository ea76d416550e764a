import KoreWebsocket.Rtp.Rtx
import KoreWebsocket.Rtp.SendBuffer

/-!
# The RTX buffer (`RTC::RtpSender::RetransmitRtpPacket`)

A packet of the send buffer is cloned into `RtxBuffer` and encoded there before it is sent. `StorePacket`
keeps packets of up to `MtuSize` bytes, and `RtxBuffer` has as many, but `RtxEncode` makes a packet two
bytes longer: what is sent lies in the buffer just if there are two bytes left (`retransmission_fits_iff`).
-/

namespace KoreWebsocket.Rtp

open Bytes

/-- `RtpSender::RetransmitRtpPacket` with RTX: what `Transport::SendRtpPacket` reads of `RtxBuffer`. -/
def Packet.retransmit (p : Packet) (behind : UInt8) (rtxBuffer : List UInt8) (payloadType : UInt8)
    (ssrc : UInt32) (seq : UInt16) : Except Fault (List UInt8) := do
  let rtxPacket ← p.clone behind rtxBuffer
  let rtxPacket ← rtxPacket.rtxEncode payloadType ssrc seq
  read rtxPacket.buf 0 rtxPacket.size

/-! ## Encoding -/

/-- What can happen in a buffer: it is left, or it keeps its length. -/
inductive Stays {α : Type} (P : α → Prop) : Except Fault α → Prop
  | ok {a : α} (h : P a) : Stays P (.ok a)
  | overread : Stays P (.error .overread)
  | overwrite : Stays P (.error .overwrite)

section
variable {α β : Type} {P : α → Prop} {Q : β → Prop}

/-- One access after another. -/
theorem Stays.bind {r : Except Fault α} {f : α → Except Fault β} (h : Stays P r)
    (hf : ∀ a, P a → Stays Q (f a)) : Stays Q (r >>= f) := by
  cases h with
  | ok h => exact hf _ h
  | overread => exact .overread
  | overwrite => exact .overwrite

/-- What is read within the buffer changes nothing. -/
theorem stays_read (d : List UInt8) (i n : Nat) : Stays (fun _ => True) (Bytes.read d i n) := by
  unfold Bytes.read
  split
  · exact .ok trivial
  · exact .overread

/-- What is written within the buffer does not change its size. -/
theorem stays_write (d : List UInt8) (i : Nat) (bs : List UInt8) :
    Stays (fun d' => d'.length = d.length) (write d i bs) := by
  unfold write
  split
  case isTrue h =>
    refine .ok ?_
    simp only [List.length_append, List.length_take, List.length_drop]
    omega
  case isFalse => exact .overwrite

end

section
variable (p : Packet) (payloadType : UInt8) (ssrc : UInt32) (seq : UInt16)

/-- The payload type is set within the buffer. -/
theorem setPayloadType_stays :
    Stays (fun q => q.buf.length = p.buf.length ∧ q.size = p.size) (p.setPayloadType payloadType) :=
  (stays_write _ _ _).bind fun _ h => .ok ⟨h, rfl⟩

/-- The SSRC is set within the buffer. -/
theorem setSsrc_stays :
    Stays (fun q => q.buf.length = p.buf.length ∧ q.size = p.size) (p.setSsrc ssrc) :=
  (stays_write _ _ _).bind fun _ h => .ok ⟨h, rfl⟩

/-- The sequence number is set within the buffer. -/
theorem setSequenceNumber_stays :
    Stays (fun q => q.buf.length = p.buf.length ∧ q.size = p.size) (p.setSequenceNumber seq) :=
  (stays_write _ _ _).bind fun _ h => .ok ⟨h, rfl⟩

/-- `RtxEncode` makes the packet longer by two bytes, and not the buffer. -/
theorem rtxEncode_stays : Stays (fun e => e.buf.length = p.buf.length ∧ e.size = p.size + 2)
    (p.rtxEncode payloadType ssrc seq) := by
  refine (setPayloadType_stays p payloadType).bind fun p₁ h₁ => ?_
  refine (setSsrc_stays p₁ ssrc).bind fun p₂ h₂ => ?_
  refine (stays_read _ _ _).bind fun bytes _ => ?_
  refine (stays_write _ _ _).bind fun buf₁ hbuf₁ => ?_
  refine (stays_write _ _ _).bind fun buf₂ hbuf₂ => ?_
  refine (setSequenceNumber_stays _ seq).bind fun p₃ h₃ => .ok ⟨?_, ?_⟩
  · exact h₃.1.trans (hbuf₂.trans (hbuf₁.trans (h₂.1.trans h₁.1)))
  · exact congrArg (· + 2) (h₃.2.trans (h₂.2.trans h₁.2))

end

/-! ## One packet -/

section
variable {p : Packet} {s : Sections} {rtxBuffer : List UInt8}

/-- **Clone and RtxEncode.** They stay in the buffer, and so does what is sent, just if there is room for two
more bytes. -/
theorem Packet.Shows.retransmit_inBuffer_iff (h : p.Shows s) (hsize : p.size ≤ rtxBuffer.length)
    (behind payloadType : UInt8) (ssrc : UInt32) (seq : UInt16) :
    InBuffer (p.retransmit behind rtxBuffer payloadType ssrc seq) ↔ p.size + 2 ≤ rtxBuffer.length := by
  obtain ⟨c, hc, hbuf, hshows⟩ := h.clone behind hsize
  have hlength : c.buf.length = rtxBuffer.length := by
    rw [hbuf, List.length_append, List.length_drop, ← h.size]
    omega
  have hcsize : c.size = p.size := hshows.size.trans h.size.symm
  have hstays := rtxEncode_stays c payloadType ssrc seq
  rw [Packet.retransmit, hc, Checked.ok_bind]
  constructor
  · intro hin
    cases hencode : c.rtxEncode payloadType ssrc seq with
    | ok e =>
        rw [hencode] at hstays hin
        cases hstays with
        | ok hroom =>
            by_contra hfull
            refine hin.1 (read_error ?_)
            rw [hroom.1, hroom.2, hlength, hcsize, Nat.zero_add]
            exact hfull
    | error f =>
        rw [hencode] at hstays hin
        cases hstays with
        | overread => exact absurd rfl hin.1
        | overwrite => exact absurd rfl hin.2
  · intro hroom
    obtain ⟨f, hf⟩ := exists_fields s.header_length
    have hbuf' : c.buf = f.bytes ++ ((s.csrcs ++ s.ext) ++
        (s.body ++ (s.pad ++ rtxBuffer.drop p.size))) := by
      rw [hbuf, ← hf]
      simp only [Sections.bytes, List.append_assoc]
    have hrest : 2 ≤ (s.pad ++ rtxBuffer.drop p.size).length := by
      rw [List.length_append, List.length_drop]
      omega
    have he := rtxEncode_ok hbuf' (by rw [hshows.payload, List.length_append]; omega)
      hshows.payloadLength hrest payloadType ssrc seq
    rw [he] at hstays ⊢
    cases hstays with
    | ok hsame =>
        rw [Checked.ok_bind, read_ok (by rw [hsame.1, hsame.2]; omega)]
        constructor <;> intro hfault <;> cases hfault

end

/-! ## Packets of the wire -/

/-- What `Parse` returns, or what `RtxDecode` recovers from it. -/
def Packet.FromWire (packet : Packet) : Prop :=
  ∃ behind bytes p, parse behind bytes = .ok (some p) ∧
    (packet = p ∨ ∃ payloadType ssrc, p.rtxDecode payloadType ssrc = .ok (true, packet))

section
variable {p d q : Packet} {s : Sections} {behind payloadType : UInt8} {ssrc : UInt32}
  {buffer : List UInt8}

/-- What `Clone` asserts: the sections make up the size. -/
theorem Packet.clone_sum (h : p.clone behind buffer = .ok q) (hpos : 0 < p.size) :
    headerSize + (if p.csrcList.isSome then csrcCount p.buf * 4 else 0) +
      (if p.extensionHeader.isSome then 4 + p.getExtensionHeaderLength else 0) + p.payloadLength +
      p.payloadPadding.toNat = p.size := by
  unfold clone at h
  obtain ⟨bytes, hread, h⟩ := Checked.bind_eq_ok.1 h
  obtain ⟨buf₁, hwrite, h⟩ := Checked.bind_eq_ok.1 h
  obtain ⟨hfits, rfl⟩ := read_eq_ok hread
  obtain ⟨-, rfl⟩ := write_eq_ok hwrite
  have hcount : csrcCount (p.buf.take p.size ++ buffer.drop (p.buf.take p.size).length) =
      csrcCount p.buf := by
    rw [csrcCount, csrcCount, List.getD_append _ _ _ _ (by rw [List.length_take]; omega),
      getD_zero_take _ hpos]
  dsimp only at h
  rw [hcount] at h
  obtain ⟨buf₂, -, h⟩ := Checked.bind_eq_ok.1 h
  obtain ⟨⟨⟩, hensure, -⟩ := Checked.bind_eq_ok.1 h
  by_contra hne
  rw [ensure, if_neg ?_] at hensure
  · cases hensure
  · intro heq
    refine hne (Eq.trans ?_ heq)
    split <;> split <;> omega

/-- An object with the header of its RTX packet shows the sections of that. -/
theorem Packet.Shows.withRtxHeader (h : p.Shows s) {f : Fields} (hf : s.header = f.bytes)
    (seq : UInt16) (tail : List UInt8) :
    ({ p with buf := (s.rtx f hf payloadType ssrc seq).bytes ++ tail } : Packet).Shows
      (s.rtx f hf payloadType ssrc seq) where
  buf := ⟨tail, rfl⟩
  csrcList := by
    rw [h.csrcList, hf]
    rfl
  extensionHeader := by
    rw [h.extensionHeader, hf]
    rfl
  payload := h.payload
  payloadLength := h.payloadLength
  payloadPadding := h.payloadPadding
  size := by
    rw [h.size, Sections.length_bytes, Sections.length_bytes]
    rfl

/-- An object with another payload and padding behind the same front shows the sections with these. -/
theorem Packet.Shows.withBody (h : p.Shows s) {body pad : List UInt8} {payloadLength size : Nat}
    {payloadPadding : UInt8} (tail : List UInt8) (hpad : PadOk (padding s.header) pad)
    (hbuf : p.buf = s.front ++ (body ++ (pad ++ tail))) (hlength : payloadLength = body.length)
    (hpadding : payloadPadding.toNat = pad.length)
    (hsize : size = headerSize + s.csrcs.length + s.ext.length + body.length + pad.length) :
    ({ p with payloadLength, payloadPadding, size } : Packet).Shows (s.withBody body pad hpad) where
  buf := by
    refine ⟨tail, ?_⟩
    rw [Sections.bytes_eq_front]
    change p.buf = s.front ++ (body ++ pad) ++ tail
    rw [hbuf, List.append_assoc, List.append_assoc]
  csrcList := h.csrcList
  extensionHeader := h.extensionHeader
  payload := h.payload
  payloadLength := hlength
  payloadPadding := hpadding
  size := hsize.trans (Sections.length_bytes (s.withBody body pad hpad)).symm

/-- `Clone` clones what `RtxDecode` has cut short only if the packet has no padding. -/
theorem Packet.Shows.pad_eq_nil (h : p.Shows s) {payloadLength : Nat}
    (hlength : payloadLength + 2 = p.payloadLength)
    (hclone : ({ p with payloadLength, payloadPadding := 0, size := p.size - 2 } : Packet).clone behind
      buffer = .ok q) : s.pad = [] := by
  have hlen : p.size = headerSize + s.csrcs.length + s.ext.length + s.body.length + s.pad.length :=
    h.size.trans s.length_bytes
  have hpos : 0 < p.size - 2 := by
    rw [headerSize] at hlen
    omega
  have hsum := Packet.clone_sum hclone hpos
  have hcsrcs := h.csrcSize
  have hext := h.extensionSize
  have hbody := h.payloadLength
  dsimp only [Packet.getExtensionHeaderLength] at hsum hcsrcs hext
  rw [hcsrcs, hext, UInt8.toNat_zero] at hsum
  exact List.length_eq_zero_iff.1 (by omega)

/-- What `RtxDecode` recovers and `Clone` clones has no padding, so the clone shows sections again. -/
theorem Packet.Shows.rtxDecode_clone (h : p.Shows s)
    (hdecode : p.rtxDecode payloadType ssrc = .ok (true, d)) (hclone : d.clone behind buffer = .ok q) :
    ∃ s' : Sections, q.Shows s' := by
  obtain ⟨f, hf⟩ := exists_fields s.header_length
  obtain ⟨tail, htail⟩ := h.buf
  have hbodyLength := h.payloadLength
  have htwo : 2 ≤ p.payloadLength := by
    by_contra hlt
    rw [rtxDecode, if_pos (Nat.lt_of_not_le hlt)] at hdecode
    cases hdecode
  obtain ⟨seq, hseq⟩ : ∃ seq : UInt16, beBytes 2 seq.toNat = s.body.take 2 :=
    ⟨_, beBytes_ofNat_be_two (by rw [List.length_take]; omega)⟩
  have hbody : beBytes 2 seq.toNat ++ (s.body.drop 2 ++ (s.pad ++ tail)) = s.body ++ (s.pad ++ tail) := by
    rw [hseq, ← List.append_assoc, List.take_append_drop]
  have hp : p.buf = f.bytes ++ ((s.csrcs ++ s.ext) ++
      (beBytes 2 seq.toNat ++ (s.body.drop 2 ++ (s.pad ++ tail)))) := by
    rw [htail, Sections.bytes, hf, hbody]
    simp only [List.append_assoc]
  have hpayload : p.payload = headerSize + (s.csrcs ++ s.ext).length := by
    rw [h.payload, List.length_append, Nat.add_assoc]
  cases (rtxDecode_ok hp hpayload htwo payloadType ssrc).symm.trans hdecode
  have hbuf : (f.rtx payloadType ssrc seq).bytes ++ ((s.csrcs ++ s.ext) ++
      (beBytes 2 seq.toNat ++ (s.body.drop 2 ++ (s.pad ++ tail)))) =
        (s.rtx f hf payloadType ssrc seq).bytes ++ tail := by
    rw [hbody]
    simp only [Sections.bytes, Sections.rtx, Sections.withHeader, List.append_assoc]
  rw [hbuf] at hclone
  have hfull : ({ p with buf := (s.rtx f hf payloadType ssrc seq).bytes ++ tail } : Packet).Shows
      (s.rtx f hf payloadType ssrc seq) := h.withRtxHeader hf seq tail
  have hnil : s.pad = [] := hfull.pad_eq_nil (Nat.sub_add_cancel htwo) hclone
  have hpadding : PadOk (padding (s.rtx f hf payloadType ssrc seq).header) [] := by
    rw [padding_rtx, ← hnil]
    exact s.pad_length
  -- the last two bytes of the payload are behind the object now
  have hcut : ({ p with
      buf := (s.rtx f hf payloadType ssrc seq).bytes ++ tail
      payloadLength := p.payloadLength - 2, payloadPadding := 0, size := p.size - 2 } : Packet).Shows
      ((s.rtx f hf payloadType ssrc seq).withBody (s.body.take (s.body.length - 2)) [] hpadding) := by
    refine hfull.withBody (s.body.drop (s.body.length - 2) ++ tail) hpadding ?_ ?_ rfl ?_
    · dsimp only
      rw [Sections.bytes_eq_front, List.nil_append, ← List.append_assoc (s.body.take _),
        List.take_append_drop, List.append_assoc]
      change _ ++ (s.body ++ s.pad ++ tail) = _
      rw [hnil, List.append_nil]
    · rw [List.length_take, hbodyLength]
      omega
    · change p.size - 2 = headerSize + s.csrcs.length + s.ext.length +
        (s.body.take (s.body.length - 2)).length + 0
      rw [h.size, s.length_bytes, List.length_take, hnil, List.length_nil]
      omega
  obtain ⟨-, hfits, -⟩ := Packet.clone_eq hclone fun hne => absurd rfl hne
  obtain ⟨q', hq', -, hshows⟩ := hcut.clone behind hfits
  cases hq'.symm.trans hclone
  exact ⟨_, hshows⟩

/-- A packet of the wire that is cloned shows sections then. -/
theorem Packet.FromWire.clone (hwire : p.FromWire) (hclone : p.clone behind buffer = .ok q) :
    ∃ s : Sections, q.Shows s := by
  obtain ⟨behind', bytes, p₀, hparse, hp₀⟩ := hwire
  obtain ⟨s, rfl⟩ := (fits_of_parse behind' (by rw [hparse]; nofun)).sections
  obtain ⟨p₁, hp₁, -, hshows⟩ := parse_sections behind' s
  cases hp₁.symm.trans hparse
  rcases hp₀ with rfl | ⟨payloadType, ssrc, hdecode⟩
  · obtain ⟨-, hfits, -⟩ := Packet.clone_eq hclone hshows.padded
    obtain ⟨q', hq', -, hshows'⟩ := hshows.clone behind hfits
    cases hq'.symm.trans hclone
    exact ⟨s, hshows'⟩
  · exact hshows.rtxDecode_clone hdecode hclone

end

/-! ## Packets of the send buffer -/

/-- The packets of a run come from the wire. -/
def SendEvent.FromWire : SendEvent → Prop
  | .packet _ p _ => p.toPacket.FromWire
  | .receiverReport _ | .request .. => True

/-- A packet with a payload of `n` zeros. -/
def plainPacket (n : Nat) : PaddedPacket where
  buf := (plainSections (List.replicate n 0)).bytes
  payload := headerSize
  payloadLength := n
  payloadPadding := 0
  size := headerSize + n
  padded := fun h => absurd rfl h

/-- It is one that `Parse` returns. -/
theorem plainPacket_fromWire (n : Nat) : (plainPacket n).toPacket.FromWire := by
  refine ⟨0, (plainPacket n).buf, _, ?_, .inl rfl⟩
  have hlen : (plainPacket n).buf.length = headerSize + n := by
    rw [plainPacket, Sections.length_bytes]
    simp [plainSections]
  have hfirst : (plainPacket n).buf.getD 0 0 = 0x80 := by
    simp [plainPacket, Sections.bytes, plainSections]
  have hrtp : isRtp (plainPacket n).buf = true := by
    rw [isRtp_iff]
    exact ⟨by omega, by rw [version, hfirst]; rfl⟩
  have hcount : csrcCount (plainPacket n).buf = 0 := by
    rw [csrcCount, hfirst]
    rfl
  have hext : checkExtension (plainPacket n).buf (headerSize + 0 * 4) = some (none, 0, headerSize) := by
    rw [checkExtension, extension, hfirst]
    rfl
  have hpad : checkPadding (plainPacket n).buf (headerSize + n - headerSize) = some (n, 0) := by
    rw [checkPadding, padding, hfirst, Nat.add_sub_cancel_left]
    rfl
  rw [parse]
  simp only [hrtp, hcount, hlen, hext, hpad, Bool.not_true, Bool.false_eq_true, if_false]
  have hsum : headerSize + n =
      (headerSize + 0 * 4 + if (none : Option Nat).isSome = true then 4 + 0 else 0) + n + UInt8.toNat 0 := rfl
  have hmaps : (plainPacket n).toPacket.parseExtensions 0 = .ok (plainPacket n).toPacket := by
    have hid : (plainPacket n).getExtensionHeaderId = 0 := rfl
    rw [Packet.parseExtensions, hid]
    rfl
  rw [if_neg (by omega), ensure_true (Nat.le_add_right _ _), Checked.ok_bind, ensure_true hsum, Checked.ok_bind]
  change some <$> (plainPacket n).toPacket.parseExtensions 0 = _
  rw [hmaps]
  rfl

namespace RtpStreamSend

section
variable {s t : RtpStreamSend} {item : BufferItem}

/-- The objects of the buffer show sections. -/
theorem shows_step (h : ∀ item ∈ s.buffer, ∃ sections : Sections, item.clone.packet.Shows sections)
    {e : SendEvent} (he : e.FromWire) (hstep : s.step e = some t) :
    ∀ item ∈ t.buffer, ∃ sections : Sections, item.clone.packet.Shows sections := by
  intro item hitem
  cases e with
  | packet behind packet now =>
      obtain ⟨⟨u, accepted⟩, hu, rfl⟩ := Option.map_eq_some_iff.1 hstep
      rcases (mem_receivePacket (Checked.toOption_eq_some.1 hu)).2 item hitem with hitem | hnew
      · exact h item hitem
      · obtain ⟨behind', buffer, hclone⟩ := hnew.cloned
        exact Packet.FromWire.clone he hclone
  | receiverReport rtt =>
      cases hstep
      exact h item hitem
  | request seq bitmask container now =>
      obtain ⟨⟨u, container'⟩, hu, rfl⟩ := Option.map_eq_some_iff.1 hstep
      obtain ⟨handed, hhands, -, -⟩ := requestRtpRetransmission_hands (Checked.toOption_eq_some.1 hu)
      have hentry : item.entry ∈ s.buffer.map BufferItem.entry := by
        rw [← hhands.entries]
        exact List.mem_map_of_mem hitem
      obtain ⟨item₀, hitem₀, heq⟩ := List.mem_map.1 hentry
      obtain ⟨-, hclone⟩ := Prod.mk.inj heq
      rw [← hclone]
      exact h item₀ hitem₀

/-- An object of the buffer is the one that was cloned. -/
theorem Kept.packetOf_eq (h : Kept s) (hitem : item ∈ s.buffer) :
    s.packetOf item.clone = item.clone.packet := by
  rw [packetOf, h.held item hitem]

/-- **The RTX buffer.** In every run of packets of the wire, a packet of the send buffer is cloned, encoded
and sent inside `RtxBuffer` just if it is two bytes smaller than the buffer. -/
theorem retransmission_fits_iff {clockRate : UInt32} {useNack : Bool} {bufferSize : Nat}
    {events : List SendEvent}
    (hrun : Machine.exec RtpStreamSend.step (new clockRate useNack bufferSize) events = some s)
    (hwire : ∀ e ∈ events, e.FromWire) (hitem : item ∈ s.buffer) {rtxBuffer : List UInt8}
    (hbuffer : rtxBuffer.length = mtuSize) (behind payloadType : UInt8) (ssrc : UInt32) (seq : UInt16) :
    InBuffer ((s.packetOf item.clone).retransmit behind rtxBuffer payloadType ssrc seq) ↔
      (s.packetOf item.clone).size + 2 ≤ mtuSize := by
  have hkept := kept_run hrun
  obtain ⟨sections, hshows⟩ := Machine.exec_inv_of_meets
    (I := fun s => ∀ item ∈ s.buffer, ∃ sections : Sections, item.clone.packet.Shows sections)
    (fun _ _ _ h he hstep => shows_step h he hstep)
    (Machine.meets_of_forall (fun e he _ => hwire e he) _) hrun nofun item hitem
  rw [hkept.packetOf_eq hitem]
  have hsize : item.clone.packet.size ≤ rtxBuffer.length := by
    obtain ⟨tail, htail⟩ := hshows.buf
    have hslot : item.clone.slot < s.storage.length :=
      (hkept.slot_lt item hitem).trans_le hkept.length_le
    have hstore : item.clone.packet.buf.length = mtuSize := by
      rw [← hkept.held item hitem, List.getD_eq_getElem s.storage [] hslot]
      exact hkept.stores _ (List.getElem_mem hslot)
    rw [hshows.size, hbuffer, ← hstore, htail, List.length_append]
    exact Nat.le_add_right _ _
  rw [hshows.retransmit_inBuffer_iff hsize, hbuffer]

end

/-- A packet of 1498 bytes fits. -/
theorem retransmission_fits_1498 : ∃ s item, Machine.exec RtpStreamSend.step (new 90000 true 1)
    [.packet 0 (plainPacket 1486) 1] = some s ∧ item ∈ s.buffer ∧
    InBuffer ((s.packetOf item.clone).retransmit 0 (List.replicate 1500 0) 97 2 1) := by
  have hrun : (Machine.exec RtpStreamSend.step (new 90000 true 1) [.packet 0 (plainPacket 1486) 1]).map
      (fun s => decide (∃ item ∈ s.buffer, (s.packetOf item.clone).size + 2 ≤ mtuSize)) = some true := by
    decide +kernel
  obtain ⟨s, hs, hfacts⟩ := Option.map_eq_some_iff.1 hrun
  obtain ⟨item, hitem, hsize⟩ := of_decide_eq_true hfacts
  have hwire : ∀ e ∈ [SendEvent.packet 0 (plainPacket 1486) 1], e.FromWire :=
    List.forall_mem_singleton.2 (plainPacket_fromWire 1486)
  exact ⟨s, item, hs, hitem,
    (retransmission_fits_iff hs hwire hitem (List.length_replicate) 0 97 2 1).2 hsize⟩

/-- A packet of 1500 bytes is kept, and its payload is moved over the end of the buffer. -/
theorem retransmission_overflows : ∃ s item, Machine.exec RtpStreamSend.step (new 90000 true 1)
    [.packet 0 (plainPacket 1488) 1] = some s ∧ (plainPacket 1488).toPacket.FromWire ∧
    (plainPacket 1488).size ≤ mtuSize ∧ item ∈ s.buffer ∧
    (s.packetOf item.clone).retransmit 0 (List.replicate 1500 0) 97 2 1 = .error .overwrite := by
  have hrun : (Machine.exec RtpStreamSend.step (new 90000 true 1) [.packet 0 (plainPacket 1488) 1]).map
      (fun s => decide (∃ item ∈ s.buffer,
        (s.packetOf item.clone).retransmit 0 (List.replicate 1500 0) 97 2 1 = .error .overwrite)) =
      some true := by decide +kernel
  obtain ⟨s, hs, hfacts⟩ := Option.map_eq_some_iff.1 hrun
  obtain ⟨item, hitem, herror⟩ := of_decide_eq_true hfacts
  exact ⟨s, item, hs, plainPacket_fromWire 1488, by decide, hitem, herror⟩

end RtpStreamSend

end KoreWebsocket.Rtp
