import KoreWebsocket.Rtp.Codec

/-!
# Retransmission with RTX

`rtxEncode` puts the sequence number in front of the payload and `rtxDecode` moves the pointer behind
it, in the bytes that are sent afterwards. Two things go wrong there. `rtxEncode` leaves the padding
bit and the size of the padding as they are, so the last byte that is sent is one that stood behind
the clone in its buffer. `rtxDecode` leaves the sequence number where it is, so the payload that is
sent afterwards begins with it and lacks its own last two bytes. `rtx_round_trip_iff` says when the
bytes come out right all the same.
-/

namespace KoreWebsocket.Rtp

open Bytes Byte

/-! ## Packets with the same front -/

/-- The padding is well formed for this padding bit. -/
def PadOk (padding : Bool) (pad : List UInt8) : Prop :=
  if padding then pad ≠ [] ∧ pad.length = (pad.getD (pad.length - 1) 0).toNat else pad = []

/-- The header, the CSRC list and the header extension. -/
def Sections.front (s : Sections) : List UInt8 := s.header ++ (s.csrcs ++ s.ext)

/-- The sections with another payload and padding. -/
def Sections.withBody (s : Sections) (body pad : List UInt8) (h : PadOk (padding s.header) pad) :
    Sections :=
  { s with body, pad, pad_length := h }

/-- The bytes in front of the payload, and those from there. -/
theorem Sections.bytes_eq_front (s : Sections) : s.bytes = s.front ++ (s.body ++ s.pad) := by
  simp only [bytes, front, List.append_assoc]

/-- What is behind the front of sections is the payload and the padding of any sections that have the
same bytes. -/
theorem Sections.front_inj {s s' : Sections} {x : List UInt8} (h : s.front ++ x = s'.bytes) :
    s'.header = s.header ∧ s'.csrcs = s.csrcs ∧ s'.ext = s.ext ∧ x = s'.body ++ s'.pad := by
  simp only [front, bytes, List.append_assoc] at h
  obtain ⟨hheader, h⟩ := List.append_inj h (s.header_length.trans s'.header_length.symm)
  have hcount : s.csrcs.length = s'.csrcs.length := by
    rw [s.csrcs_length, s'.csrcs_length, hheader]
  obtain ⟨hcsrcs, h⟩ := List.append_inj h hcount
  have hext : s.ext.length = s'.ext.length := by
    have he := s.ext_length
    have he' := s'.ext_length
    rw [← hheader] at he'
    split at he
    case isTrue hx =>
      rw [if_pos hx] at he'
      have hget : get16 s.ext 2 = get16 s'.ext 2 := by
        rw [← get16_mid (a := []) (m := s.ext) (z := x) (i := 0) rfl (by omega),
          ← get16_mid (a := []) (m := s'.ext) (z := s'.body ++ s'.pad) (i := 0) rfl (by omega), h]
      omega
    case isFalse hx =>
      rw [if_neg hx] at he'
      rw [he, he']
  obtain ⟨hext, h⟩ := List.append_inj h hext
  exact ⟨hheader.symm, hcsrcs.symm, hext.symm, h⟩

/-- A packet with the front of sections is accepted with this payload exactly if padding is all that
stands behind the payload. -/
theorem Sections.parse_front (s : Sections) (behind : UInt8) (x body : List UInt8) :
    (∃ q, parse behind (s.front ++ x) = .ok (some q) ∧ q.content.payload = body) ↔
      ∃ pad, x = body ++ pad ∧ PadOk (padding s.header) pad := by
  constructor
  · rintro ⟨q, hq, hbody⟩
    obtain ⟨s', hs'⟩ := (fits_of_parse behind (by rw [hq]; simp)).sections
    obtain ⟨hheader, -, -, hx⟩ := front_inj hs'.symm
    obtain ⟨q', hq', -, hshows⟩ := parse_sections behind s'
    rw [hs', hq] at hq'
    cases hq'
    rw [hshows.content] at hbody
    refine ⟨s'.pad, by rw [hx, ← hbody], ?_⟩
    rw [← hheader]
    exact s'.pad_length
  · rintro ⟨pad, rfl, hpad⟩
    obtain ⟨q, hq, -, hshows⟩ := parse_sections behind (s.withBody body pad hpad)
    rw [bytes_eq_front] at hq
    exact ⟨q, hq, by rw [hshows.content]; rfl⟩

/-! ## The fields of the header -/

/-- The fixed header: the first two bytes, the sequence number, the timestamp and the SSRC. -/
structure Fields where
  first : UInt8
  second : UInt8
  seq : List UInt8
  timestamp : List UInt8
  ssrc : List UInt8
  seq_length : seq.length = 2
  timestamp_length : timestamp.length = 4
  ssrc_length : ssrc.length = 4

def Fields.bytes (f : Fields) : List UInt8 :=
  [f.first] ++ ([f.second] ++ (f.seq ++ (f.timestamp ++ f.ssrc)))

/-- The fields make up a header. -/
theorem Fields.length_bytes (f : Fields) : f.bytes.length = headerSize := by
  have := f.seq_length
  have := f.timestamp_length
  have := f.ssrc_length
  simp only [bytes, List.length_append, List.length_singleton, headerSize]
  omega

/-- Every header has its fields. -/
theorem exists_fields {h : List UInt8} (hlen : h.length = headerSize) : ∃ f : Fields, h = f.bytes := by
  rw [headerSize] at hlen
  refine ⟨⟨h.getD 0 0, h.getD 1 0, (h.drop 2).take 2, (h.drop 4).take 4, h.drop 8, ?_, ?_, ?_⟩, ?_⟩
  · rw [List.length_take, List.length_drop]
    omega
  · rw [List.length_take, List.length_drop]
    omega
  · rw [List.length_drop]
    omega
  · obtain ⟨first, h, rfl⟩ := List.exists_of_length_succ h hlen
    obtain ⟨second, h, rfl⟩ := List.exists_of_length_succ h (Nat.succ.inj hlen)
    have hsplit : h = h.take 2 ++ ((h.drop 2).take 4 ++ h.drop 6) := by
      have hdrop : h.drop 6 = (h.drop 2).drop 4 := by rw [List.drop_drop]
      rw [hdrop, List.take_append_drop, List.take_append_drop]
    exact congrArg (fun t => first :: second :: t) hsplit

/-- The fields with another payload type. -/
def Fields.withPayloadType (f : Fields) (payloadType : UInt8) : Fields :=
  let b : UInt8 := f.second &&& 0x80
  { f with second := b ||| (payloadType &&& 0x7F) }

/-- The fields with another sequence number. -/
def Fields.withSeq (f : Fields) (seq : List UInt8) (h : seq.length = 2) : Fields :=
  { f with seq, seq_length := h }

/-- The fields with another SSRC. -/
def Fields.withSsrc (f : Fields) (ssrc : List UInt8) (h : ssrc.length = 4) : Fields :=
  { f with ssrc, ssrc_length := h }

section
variable {p : Packet} {f : Fields} {z : List UInt8}

/-- The payload type is written, and the marker stays. -/
theorem setPayloadType_ok (hp : p.buf = f.bytes ++ z) (payloadType : UInt8) :
    p.setPayloadType payloadType =
      .ok { p with buf := (f.withPayloadType payloadType).bytes ++ z } := by
  have hsecond : p.buf.getD 1 0 = f.second := by rw [hp]; rfl
  have hwrite : ∀ b, write p.buf 1 [b] = .ok ([f.first] ++ ([b] ++ (f.seq ++ (f.timestamp ++
      (f.ssrc ++ z))))) := by
    intro b
    rw [hp]
    simp only [Fields.bytes, List.append_assoc]
    exact write_append (a := [f.first]) rfl
  rw [Packet.setPayloadType, hsecond, hwrite, Checked.ok_bind]
  simp only [Fields.bytes, Fields.withPayloadType, List.append_assoc]
  rfl

/-- The sequence number is written into its field. -/
theorem setSequenceNumber_ok (hp : p.buf = f.bytes ++ z) (seq : UInt16) :
    p.setSequenceNumber seq =
      .ok { p with buf := (f.withSeq (beBytes 2 seq.toNat) (length_beBytes 2 _)).bytes ++ z } := by
  have hlen := f.seq_length
  have hwrite : write p.buf 2 (beBytes 2 seq.toNat) = .ok (([f.first] ++ [f.second]) ++
      (beBytes 2 seq.toNat ++ (f.timestamp ++ (f.ssrc ++ z)))) := by
    rw [hp]
    simp only [Fields.bytes, List.append_assoc]
    exact write_append (a := [f.first] ++ [f.second]) (by rw [hlen, length_beBytes])
  rw [Packet.setSequenceNumber, hwrite, Checked.ok_bind]
  simp only [Fields.bytes, Fields.withSeq, List.append_assoc]
  rfl

/-- The SSRC is written into its field. -/
theorem setSsrc_ok (hp : p.buf = f.bytes ++ z) (ssrc : UInt32) :
    p.setSsrc ssrc =
      .ok { p with buf := (f.withSsrc (beBytes 4 ssrc.toNat) (length_beBytes 4 _)).bytes ++ z } := by
  have hseq := f.seq_length
  have htime := f.timestamp_length
  have hlen := f.ssrc_length
  have hwrite : write p.buf 8 (beBytes 4 ssrc.toNat) = .ok (([f.first] ++ ([f.second] ++
      (f.seq ++ f.timestamp))) ++ (beBytes 4 ssrc.toNat ++ z)) := by
    have hfront : ([f.first] ++ ([f.second] ++ (f.seq ++ f.timestamp))).length = 8 := by
      simp only [List.length_append, List.length_singleton]
      omega
    have hbuf : p.buf = ([f.first] ++ ([f.second] ++ (f.seq ++ f.timestamp))) ++ (f.ssrc ++ z) := by
      rw [hp]
      simp only [Fields.bytes, List.append_assoc]
    rw [hbuf]
    conv => lhs; arg 2; rw [← hfront]
    exact write_append (by rw [hlen, length_beBytes])
  rw [Packet.setSsrc, hwrite, Checked.ok_bind]
  simp only [Fields.bytes, Fields.withSsrc, List.append_assoc]
  rfl

end

/-! ## RtxEncode and RtxDecode -/

/-- Two bytes are a number of 16 bits and back. -/
theorem beBytes_ofNat_be_two {bs : List UInt8} (h : bs.length = 2) :
    beBytes 2 (UInt16.ofNat (be bs)).toNat = bs := by
  have hlt := be_lt bs
  rw [h] at hlt
  rw [UInt16.toNat_ofNat', Nat.mod_eq_of_lt (by omega), ← h, beBytes_be]

/-- Four bytes are a number of 32 bits and back. -/
theorem beBytes_ofNat_be_four {bs : List UInt8} (h : bs.length = 4) :
    beBytes 4 (UInt32.ofNat (be bs)).toNat = bs := by
  have hlt := be_lt bs
  rw [h] at hlt
  rw [UInt32.toNat_ofNat', Nat.mod_eq_of_lt (by omega), ← h, beBytes_be]

/-- The sequence number is read from its field. -/
theorem getSequenceNumber_fields {p : Packet} {f : Fields} {z : List UInt8}
    (hp : p.buf = f.bytes ++ z) : beBytes 2 p.getSequenceNumber.toNat = f.seq := by
  have hslice : (p.buf.drop 2).take 2 = f.seq := by
    rw [hp]
    simp only [Fields.bytes, List.append_assoc]
    exact slice_mid (a := [f.first] ++ [f.second]) rfl f.seq_length.symm
  rw [Packet.getSequenceNumber, get16, hslice, beBytes_ofNat_be_two f.seq_length]

/-- The SSRC is read from its field. -/
theorem getSsrc_fields {p : Packet} {f : Fields} {z : List UInt8}
    (hp : p.buf = f.bytes ++ z) : beBytes 4 p.getSsrc.toNat = f.ssrc := by
  have hslice : (p.buf.drop 8).take 4 = f.ssrc := by
    have hseq := f.seq_length
    have htime := f.timestamp_length
    have hbuf : p.buf = ([f.first] ++ ([f.second] ++ (f.seq ++ f.timestamp))) ++ (f.ssrc ++ z) := by
      rw [hp]
      simp only [Fields.bytes, List.append_assoc]
    rw [hbuf]
    refine slice_mid ?_ f.ssrc_length.symm
    simp only [List.length_append, List.length_singleton]
    omega
  rw [Packet.getSsrc, hslice, beBytes_ofNat_be_four f.ssrc_length]

/-- The fields of an RTX packet. -/
def Fields.rtx (f : Fields) (payloadType : UInt8) (ssrc : UInt32) (seq : UInt16) : Fields :=
  ((f.withPayloadType payloadType).withSsrc (beBytes 4 ssrc.toNat) (length_beBytes 4 _)).withSeq
    (beBytes 2 seq.toNat) (length_beBytes 2 _)

/-- `memmove` of a part of a buffer by two places. -/
theorem write_two_behind {a body rest : List UInt8} (hrest : 2 ≤ rest.length) :
    write (a ++ (body ++ rest)) (a.length + 2) body =
      .ok (a ++ ((body ++ rest).take 2 ++ (body ++ rest.drop 2))) := by
  have hlen : a.length + 2 + body.length ≤ (a ++ (body ++ rest)).length := by
    simp only [List.length_append]
    omega
  have htake : (a ++ (body ++ rest)).take (a.length + 2) = a ++ (body ++ rest).take 2 :=
    List.take_length_add_append 2
  have hdrop : (a ++ (body ++ rest)).drop (a.length + 2 + body.length) = rest.drop 2 := by
    rw [Nat.add_assoc, List.drop_length_add_append, Nat.add_comm, List.drop_length_add_append]
  rw [write, if_pos hlen, htake, hdrop]
  simp only [List.append_assoc]

section
variable {p : Packet} {f : Fields} {m : List UInt8}

/-- `rtxEncode` puts the sequence number in front of the payload, over two bytes behind it. -/
theorem rtxEncode_ok {body rest : List UInt8} (hp : p.buf = f.bytes ++ (m ++ (body ++ rest)))
    (hpayload : p.payload = headerSize + m.length) (hlength : p.payloadLength = body.length)
    (hrest : 2 ≤ rest.length) (payloadType : UInt8) (ssrc : UInt32) (seq : UInt16) :
    p.rtxEncode payloadType ssrc seq = .ok { p with
      buf := (f.rtx payloadType ssrc seq).bytes ++ (m ++ (f.seq ++ (body ++ rest.drop 2)))
      payloadLength := p.payloadLength + 2, size := p.size + 2, payloadPadding := 0 } := by
  let g := (f.withPayloadType payloadType).withSsrc (beBytes 4 ssrc.toNat) (length_beBytes 4 _)
  have hfront : p.payload = (g.bytes ++ m).length := by
    rw [List.length_append, g.length_bytes, hpayload]
  have hread : read (g.bytes ++ (m ++ (body ++ rest))) p.payload p.payloadLength = .ok body := by
    rw [← List.append_assoc]
    exact read_mid hfront hlength
  have hmove : write (g.bytes ++ (m ++ (body ++ rest))) (p.payload + 2) body =
      .ok ((g.bytes ++ m) ++ ((body ++ rest).take 2 ++ (body ++ rest.drop 2))) := by
    rw [← List.append_assoc, hfront]
    exact write_two_behind hrest
  have hseq : write ((g.bytes ++ m) ++ ((body ++ rest).take 2 ++ (body ++ rest.drop 2))) p.payload
      f.seq = .ok ((g.bytes ++ m) ++ (f.seq ++ (body ++ rest.drop 2))) := by
    rw [hfront]
    refine write_append ?_
    rw [List.length_take, List.length_append, f.seq_length]
    omega
  have hseqBytes : ∀ z, beBytes 2 ({ p with buf := g.bytes ++ z }.getSequenceNumber).toNat = f.seq :=
    fun z => getSequenceNumber_fields (f := g) rfl
  rw [Packet.rtxEncode, setPayloadType_ok hp, Checked.ok_bind,
    setSsrc_ok (f := f.withPayloadType payloadType) rfl, Checked.ok_bind]
  simp only [g] at hread hmove hseq hseqBytes
  simp only [hread, Checked.ok_bind, hmove, Byte.set2Bytes, hseqBytes, hseq]
  rw [setSequenceNumber_ok (f := g) (z := m ++ (f.seq ++ (body ++ rest.drop 2)))
    (by simp only [g, List.append_assoc])]
  rfl

/-- `rtxDecode` leaves the bytes behind the header as they are. -/
theorem rtxDecode_ok {seq : UInt16} {z : List UInt8}
    (hp : p.buf = f.bytes ++ (m ++ (beBytes 2 seq.toNat ++ z)))
    (hpayload : p.payload = headerSize + m.length) (hlength : 2 ≤ p.payloadLength)
    (payloadType : UInt8) (ssrc : UInt32) :
    p.rtxDecode payloadType ssrc = .ok (true, { p with
      buf := (f.rtx payloadType ssrc seq).bytes ++ (m ++ (beBytes 2 seq.toNat ++ z))
      payload := p.payload + 2, payloadLength := p.payloadLength - 2, size := p.size - 2
      payloadPadding := 0 }) := by
  let g := (f.withPayloadType payloadType).withSsrc (beBytes 4 ssrc.toNat) (length_beBytes 4 _)
  have hget : Byte.get2Bytes (g.bytes ++ (m ++ (beBytes 2 seq.toNat ++ z))) p.payload = .ok seq := by
    rw [← List.append_assoc]
    exact Byte.get2Bytes_mid seq (by rw [List.length_append, g.length_bytes, hpayload])
  rw [Packet.rtxDecode, if_neg (by omega), setPayloadType_ok hp, Checked.ok_bind,
    setSsrc_ok (f := f.withPayloadType payloadType) rfl, Checked.ok_bind]
  simp only [g] at hget
  simp only [hget, Checked.ok_bind]
  rw [setSequenceNumber_ok (f := g) rfl]
  rfl

end

/-! ## The round trip -/

/-- The sections with another header whose first byte is the same. -/
def Sections.withHeader (s : Sections) (header : List UInt8) (hlen : header.length = headerSize)
    (hfirst : header.getD 0 0 = s.header.getD 0 0) : Sections :=
  { s with
    header
    header_length := hlen
    header_version := by rw [version, hfirst]; exact s.header_version
    csrcs_length := by rw [csrcCount, hfirst]; exact s.csrcs_length
    ext_length := by rw [extension, hfirst]; exact s.ext_length
    pad_length := by rw [padding, hfirst]; exact s.pad_length }

/-- The payload type comes back, with its marker. -/
theorem payloadType_restored (a b : UInt8) :
    ((a &&& 0x80 ||| (b &&& 0x7F)) &&& 0x80) ||| (a &&& 0x7F &&& 0x7F) = a := by
  apply UInt8.toBitVec_inj.1
  simp only [UInt8.toBitVec_or, UInt8.toBitVec_and, UInt8.toBitVec_ofNat]
  ext i hi
  have : i = 0 ∨ i = 1 ∨ i = 2 ∨ i = 3 ∨ i = 4 ∨ i = 5 ∨ i = 6 ∨ i = 7 := by omega
  rcases this with rfl | rfl | rfl | rfl | rfl | rfl | rfl | rfl <;> simp

/-- `rtxDecode` with the payload type and the SSRC of the packet gives its fields back. -/
theorem Fields.rtx_restored {p : Packet} {f : Fields} {z : List UInt8} (hp : p.buf = f.bytes ++ z)
    (payloadType : UInt8) (ssrc : UInt32) (seq : UInt16) :
    ((f.rtx payloadType ssrc seq).rtx p.getPayloadType p.getSsrc p.getSequenceNumber).bytes =
      f.bytes := by
  have hsecond : p.buf.getD 1 0 = f.second := by rw [hp]; rfl
  have htype := payloadType_restored f.second payloadType
  simp only [bytes, rtx, withSeq, withSsrc, withPayloadType, getSequenceNumber_fields hp,
    getSsrc_fields hp, Packet.getPayloadType, hsecond, htype]

/-- The two bytes of the sequence number. -/
def Packet.seqBytes (p : Packet) : List UInt8 := beBytes 2 p.getSequenceNumber.toNat

/-- The bytes that the padding of the encoded packet has: those two places behind the padding of the
clone. -/
def movedPad (pad behind : List UInt8) : List UInt8 := ((pad ++ behind).drop 2).take pad.length

section
variable {p : Packet} {s : Sections}

/-- The first byte of the header stays. -/
theorem rtx_getD_zero (f : Fields) (payloadType : UInt8) (ssrc : UInt32) (seq : UInt16) :
    (f.rtx payloadType ssrc seq).bytes.getD 0 0 = f.bytes.getD 0 0 := rfl

/-- The sections of the RTX packet, with the payload and padding of the packet still. -/
def Sections.rtx (s : Sections) (f : Fields) (hf : s.header = f.bytes) (payloadType : UInt8)
    (ssrc : UInt32) (seq : UInt16) : Sections :=
  s.withHeader (f.rtx payloadType ssrc seq).bytes (f.rtx payloadType ssrc seq).length_bytes
    (by rw [hf, rtx_getD_zero])

/-- **What is sent.** The clone, encoded, has the sequence number in front of the payload and the
padding moved. -/
theorem Packet.Shows.rtxEncode_wire (h : p.Shows s) {f : Fields} (hf : s.header = f.bytes)
    (behind : UInt8) {buffer : List UInt8} (hbuffer : p.size + 2 ≤ buffer.length)
    (payloadType : UInt8) (ssrc : UInt32) (seq : UInt16) :
    ∃ c e, p.clone behind buffer = .ok c ∧ c.rtxEncode payloadType ssrc seq = .ok e ∧
      e.wire = (s.rtx f hf payloadType ssrc seq).front ++
        (f.seq ++ (s.body ++ movedPad s.pad (buffer.drop p.size))) := by
  obtain ⟨c, hc, hbuf, hshows⟩ := h.clone behind (Nat.le_of_add_right_le hbuffer)
  have hlen := s.length_bytes
  have hbuf' : c.buf = f.bytes ++ ((s.csrcs ++ s.ext) ++
      (s.body ++ (s.pad ++ buffer.drop p.size))) := by
    rw [hbuf, ← hf]
    simp only [Sections.bytes, List.append_assoc]
  have hrest : 2 ≤ (s.pad ++ buffer.drop p.size).length := by
    rw [List.length_append, List.length_drop]
    omega
  have he := rtxEncode_ok hbuf' (by rw [hshows.payload, List.length_append]; omega)
    hshows.payloadLength hrest payloadType ssrc seq
  refine ⟨c, _, hc, he, ?_⟩
  have hfront : c.size + 2 = (f.rtx payloadType ssrc seq).bytes.length + ((s.csrcs ++ s.ext).length +
      (f.seq.length + (s.body.length + s.pad.length))) := by
    rw [hshows.size, hlen, Fields.length_bytes, f.seq_length, List.length_append]
    omega
  simp only [Packet.wire, hfront, List.take_length_add_append, movedPad]
  simp only [Sections.front, Sections.rtx, Sections.withHeader, List.append_assoc]

/-- **What is sent after decoding.** The front of the packet and, cut off, the same bytes. -/
theorem Packet.Shows.rtxDecode_wire (h : p.Shows s) {f : Fields} (hf : s.header = f.bytes)
    {q : Packet} {pad : List UInt8} (payloadType : UInt8) (ssrc : UInt32) (seq : UInt16)
    {hpad : PadOk (padding (s.rtx f hf payloadType ssrc seq).header) pad}
    (hbuf : q.buf = ((s.rtx f hf payloadType ssrc seq).withBody (f.seq ++ s.body) pad hpad).bytes)
    (hq : q.Shows ((s.rtx f hf payloadType ssrc seq).withBody (f.seq ++ s.body) pad hpad)) :
    ∃ d, q.rtxDecode p.getPayloadType p.getSsrc = .ok (true, d) ∧
      d.wire = s.front ++ (f.seq ++ (s.body ++ pad)).take (s.body.length + pad.length) := by
  obtain ⟨tail, htail⟩ := h.buf
  have hp : p.buf = f.bytes ++ (s.csrcs ++ (s.ext ++ (s.body ++ s.pad)) ++ tail) := by
    rw [htail, Sections.bytes, hf, List.append_assoc]
  have hseq := getSequenceNumber_fields hp
  have hbuf' : q.buf = (f.rtx payloadType ssrc seq).bytes ++ ((s.csrcs ++ s.ext) ++
      (beBytes 2 p.getSequenceNumber.toNat ++ (s.body ++ pad))) := by
    rw [hbuf, hseq]
    simp only [Sections.bytes, Sections.withBody, Sections.rtx, Sections.withHeader,
      List.append_assoc]
  have hlength : q.payloadLength = 2 + s.body.length := by
    rw [hq.payloadLength, ← f.seq_length, ← List.length_append]
    rfl
  have hpayload : q.payload = headerSize + (s.csrcs ++ s.ext).length := by
    rw [hq.payload, List.length_append, Nat.add_assoc]
    rfl
  refine ⟨_, rtxDecode_ok hbuf' hpayload (by omega) p.getPayloadType p.getSsrc, ?_⟩
  have hsize : q.size - 2 = f.bytes.length + ((s.csrcs ++ s.ext).length +
      (s.body.length + pad.length)) := by
    rw [hq.size, ← hbuf, hbuf']
    simp only [List.length_append, Fields.length_bytes, length_beBytes]
    omega
  simp only [Packet.wire, Fields.rtx_restored hp, hsize, List.take_length_add_append, hseq]
  simp only [Sections.front, hf, List.append_assoc]

end

/-! ### When the bytes come out right -/

section
variable {seq body pad behind : List UInt8} {n : Nat}

/-- Bytes that begin with two others and then with themselves repeat those two. -/
theorem take_append_eq_iff (hseq : seq.length = 2) :
    (seq ++ body).take body.length = body ↔
      ∀ i < body.length, body.getD i 0 = seq.getD (i % 2) 0 := by
  have hget : ∀ i, (seq ++ body).getD (i + 2) 0 = body.getD i 0 := by
    intro i
    rw [List.getD_eq_getElem?_getD, List.getElem?_append_right (by omega), hseq, Nat.add_sub_cancel,
      ← List.getD_eq_getElem?_getD]
  have hleft : ∀ i < 2, (seq ++ body).getD i 0 = seq.getD i 0 := by
    intro i hi
    rw [List.getD_eq_getElem?_getD, List.getElem?_append_left (by omega),
      ← List.getD_eq_getElem?_getD]
  constructor
  · intro h i
    induction i using Nat.strongRecOn with
    | ind i ih =>
        intro hi
        have hstep : body.getD i 0 = (seq ++ body).getD i 0 := by
          conv => lhs; rw [← h]
          rw [List.getD_eq_getElem?_getD, List.getElem?_take_of_lt hi, ← List.getD_eq_getElem?_getD]
        rcases Nat.lt_or_ge i 2 with hlt | hge
        · rw [hstep, hleft i hlt, Nat.mod_eq_of_lt hlt]
        · obtain ⟨j, rfl⟩ := Nat.exists_eq_add_of_le' hge
          rw [hstep, hget, ih j (by omega) (by omega), Nat.add_mod_right]
  · intro h
    apply List.ext_getElem?
    intro i
    rcases Nat.lt_or_ge i body.length with hi | hi
    · have hlen : i < (seq ++ body).length := by rw [List.length_append]; omega
      have hstep : (seq ++ body).getD i 0 = body.getD i 0 := by
        rcases Nat.lt_or_ge i 2 with hlt | hge
        · rw [hleft i hlt, h i hi, Nat.mod_eq_of_lt hlt]
        · obtain ⟨j, rfl⟩ := Nat.exists_eq_add_of_le' hge
          rw [hget, h (j + 2) hi, h j (by omega), Nat.add_mod_right]
      rw [List.getD_eq_getElem _ _ hlen, List.getD_eq_getElem _ _ hi] at hstep
      rw [List.getElem?_take_of_lt hi, List.getElem?_eq_getElem hlen, List.getElem?_eq_getElem hi,
        hstep]
    · rw [List.getElem?_eq_none hi, List.getElem?_eq_none]
      rw [List.length_take]
      omega

/-- Repeated bytes go on to be repeated two places behind. -/
theorem getD_repeats (hseq : seq.length = 2)
    (h : ∀ i < body.length, body.getD i 0 = seq.getD (i % 2) 0) {i : Nat} (hi : i < body.length + 2) :
    (seq ++ body).getD i 0 = seq.getD (i % 2) 0 := by
  rcases Nat.lt_or_ge i 2 with hlt | hge
  · rw [List.getD_eq_getElem?_getD, List.getElem?_append_left (by omega),
      ← List.getD_eq_getElem?_getD, Nat.mod_eq_of_lt hlt]
  · obtain ⟨j, rfl⟩ := Nat.exists_eq_add_of_le' hge
    rw [List.getD_eq_getElem?_getD, List.getElem?_append_right (by omega), hseq, Nat.add_sub_cancel,
      ← List.getD_eq_getElem?_getD, h j (by omega), Nat.add_mod_right]

/-- The padding that is two bytes further on is as long. -/
theorem length_movedPad (h : 2 ≤ behind.length) : (movedPad pad behind).length = pad.length := by
  rw [movedPad, List.length_take, List.length_drop, List.length_append]
  omega

/-- A byte of it is the one two places later. -/
theorem getD_movedPad {i : Nat} (hi : i < pad.length) :
    (movedPad pad behind).getD i 0 = (pad ++ behind).getD (i + 2) 0 := by
  rw [movedPad, List.getD_eq_getElem?_getD, List.getElem?_take_of_lt hi, List.getElem?_drop,
    ← List.getD_eq_getElem?_getD, Nat.add_comm]

/-- Padding is right if its last byte is its length. -/
theorem padOk_true_iff (hlen : pad.length = n) (hn : 0 < n) :
    PadOk true pad ↔ (pad.getD (n - 1) 0).toNat = n := by
  rw [PadOk, if_pos rfl, hlen]
  refine ⟨fun h => h.2.symm, fun h => ⟨?_, h.symm⟩⟩
  rintro rfl
  exact absurd hlen (by simp only [List.length_nil]; omega)

/-- The moved padding ends with the second byte behind the packet. -/
theorem padOk_movedPad_iff (hn : 0 < pad.length) (h : 2 ≤ behind.length) :
    PadOk true (movedPad pad behind) ↔ (behind.getD 1 0).toNat = pad.length := by
  have hlast : (movedPad pad behind).getD (pad.length - 1) 0 = behind.getD 1 0 := by
    rw [getD_movedPad (by omega), List.getD_eq_getElem?_getD,
      List.getElem?_append_right (by omega), ← List.getD_eq_getElem?_getD]
    congr 1
    omega
  rw [padOk_true_iff (length_movedPad h) hn, hlast]

/-- The bytes that are sent after decoding are a payload and padding. -/
theorem exists_body_pad_iff (P : Bool) (hseq : seq.length = 2) :
    (∃ x, (seq ++ (body ++ pad)).take (body.length + pad.length) = body ++ x ∧ PadOk P x) ↔
      (seq ++ body).take body.length = body ∧
        PadOk P (((seq ++ (body ++ pad)).drop body.length).take pad.length) := by
  have htake : (seq ++ (body ++ pad)).take body.length = (seq ++ body).take body.length := by
    rw [← List.append_assoc, List.take_append_of_le_length]
    rw [List.length_append]
    omega
  have hlen : ((seq ++ body).take body.length).length = body.length := by
    rw [List.length_take, List.length_append]
    omega
  rw [List.take_add, htake]
  constructor
  · rintro ⟨x, hx, hok⟩
    obtain ⟨hbody, rfl⟩ := List.append_inj hx hlen
    exact ⟨hbody, hok⟩
  · rintro ⟨hbody, hok⟩
    exact ⟨_, by rw [hbody], hok⟩

/-- The padding that is sent after decoding ends with the padding of the packet, or, if that has at
most two bytes, inside the sequence number and the payload. -/
theorem padOk_cut_iff (hseq : seq.length = 2) (hn : 0 < pad.length)
    (hpad : (pad.getD (pad.length - 1) 0).toNat = pad.length) (h : 2 ≤ behind.length)
    (hrep : ∀ i < body.length, body.getD i 0 = seq.getD (i % 2) 0) :
    PadOk true (((seq ++ (body ++ movedPad pad behind)).drop body.length).take pad.length) ↔
      (pad.length ≤ 2 → (seq.getD ((body.length + pad.length - 1) % 2) 0).toNat = pad.length) := by
  have hmoved : (movedPad pad behind).length = pad.length := length_movedPad h
  have hlen : (((seq ++ (body ++ movedPad pad behind)).drop body.length).take pad.length).length =
      pad.length := by
    rw [List.length_take, List.length_drop, List.length_append, List.length_append, hmoved]
    omega
  have hlast : (((seq ++ (body ++ movedPad pad behind)).drop body.length).take pad.length).getD
      (pad.length - 1) 0 = (seq ++ (body ++ movedPad pad behind)).getD (body.length + pad.length - 1)
        0 := by
    rw [List.getD_eq_getElem?_getD, List.getElem?_take_of_lt (by omega), List.getElem?_drop,
      ← List.getD_eq_getElem?_getD, Nat.add_sub_assoc hn]
  rw [padOk_true_iff hlen hn, hlast, ← List.append_assoc, List.getD_eq_getElem?_getD]
  rcases Nat.lt_or_ge 2 pad.length with hbig | hsmall
  · -- the last byte of the padding has moved by two places and is cut back to the end
    have hget : (movedPad pad behind).getD (pad.length - 3) 0 = pad.getD (pad.length - 1) 0 := by
      rw [getD_movedPad (by omega), List.getD_eq_getElem?_getD,
        List.getElem?_append_left (by omega), ← List.getD_eq_getElem?_getD]
      congr 1
      omega
    have hplace : body.length + pad.length - 1 - (seq ++ body).length = pad.length - 3 := by
      rw [List.length_append]
      omega
    rw [List.getElem?_append_right (by rw [List.length_append]; omega), hplace,
      ← List.getD_eq_getElem?_getD, hget, hpad]
    exact ⟨fun _ hle => absurd hbig (by omega), fun _ => rfl⟩
  · rw [List.getElem?_append_left (by rw [List.length_append]; omega), ← List.getD_eq_getElem?_getD,
      getD_repeats hseq hrep (by omega)]
    exact ⟨fun h _ => h, fun h => h hsmall⟩

end

/-- **The round trip.** The clone of the packet in this buffer, encoded, is sent as a packet that is
accepted and whose payload is the sequence number and the payload; and that packet, decoded, is sent as
one that is accepted with the header, the CSRC list, the header extension and the payload of the first.
The bytes behind the buffers are `a`, `b` and `c`. -/
def Packet.RtxRoundTrips (p : Packet) (a b c : UInt8) (buffer : List UInt8) (payloadType : UInt8)
    (ssrc : UInt32) (seq : UInt16) : Prop :=
  ∃ clone e q d r, p.clone a buffer = .ok clone ∧ clone.rtxEncode payloadType ssrc seq = .ok e ∧
    parse b e.wire = .ok (some q) ∧ q.content.payload = p.seqBytes ++ p.content.payload ∧
    q.rtxDecode p.getPayloadType p.getSsrc = .ok (true, d) ∧ parse c d.wire = .ok (some r) ∧
    r.content.header = p.content.header ∧ r.content.csrcs = p.content.csrcs ∧
    r.content.ext = p.content.ext ∧ r.content.payload = p.content.payload

/-- The payload repeats the two bytes of the sequence number; and if there is padding, the second byte
behind the place of the packet in the buffer is its size, and so is the byte of the sequence number
where padding of one or two bytes would end. -/
def Packet.RtxSafe (p : Packet) (buffer : List UInt8) : Prop :=
  (∀ i < p.payloadLength, p.content.payload.getD i 0 = p.seqBytes.getD (i % 2) 0) ∧
    (p.payloadPadding ≠ 0 → buffer.getD (p.size + 1) 0 = p.payloadPadding ∧
      (p.payloadPadding ≤ 2 →
        p.seqBytes.getD ((p.payloadLength + p.payloadPadding.toNat - 1) % 2) 0 = p.payloadPadding))

section
variable {p : Packet} {s : Sections}

/-- The RTX packet has the padding bit of the packet. -/
theorem padding_rtx {f : Fields} (hf : s.header = f.bytes) (payloadType : UInt8) (ssrc : UInt32)
    (seq : UInt16) : padding (s.rtx f hf payloadType ssrc seq).header = padding s.header := by
  rw [hf]
  rfl

/-- The sequence number of the packet, as bytes. -/
theorem Packet.Shows.seqBytes_eq (h : p.Shows s) {f : Fields} (hf : s.header = f.bytes) :
    p.seqBytes = f.seq := by
  obtain ⟨tail, htail⟩ := h.buf
  rw [Sections.bytes, hf, List.append_assoc] at htail
  exact getSequenceNumber_fields htail

/-- The packet that is sent first is received and decoded, if its padding is right. -/
theorem Packet.Shows.rtxDecode_received (h : p.Shows s) {f : Fields} (hf : s.header = f.bytes)
    (b : UInt8) {payloadType : UInt8} {ssrc : UInt32} {seq : UInt16} {pad : List UInt8} {e : Packet}
    (hpad : PadOk (padding (s.rtx f hf payloadType ssrc seq).header) pad)
    (hwire : e.wire = (s.rtx f hf payloadType ssrc seq).front ++ (f.seq ++ (s.body ++ pad))) :
    ∃ q d, parse b e.wire = .ok (some q) ∧ q.content.payload = f.seq ++ s.body ∧
      q.rtxDecode p.getPayloadType p.getSsrc = .ok (true, d) ∧
      d.wire = s.front ++ (f.seq ++ (s.body ++ pad)).take (s.body.length + pad.length) := by
  obtain ⟨q, hq, hbuf, hshows⟩ :=
    parse_sections b ((s.rtx f hf payloadType ssrc seq).withBody (f.seq ++ s.body) pad hpad)
  obtain ⟨d, hd, hdwire⟩ := h.rtxDecode_wire hf payloadType ssrc seq hbuf hshows
  refine ⟨q, d, ?_, by rw [hshows.content]; rfl, hd, hdwire⟩
  rw [← hq, hwire, Sections.bytes_eq_front]
  simp only [Sections.withBody, Sections.front, List.append_assoc]

/-- The round trip comes down to the padding that is sent the first time and what is sent the second
time. -/
theorem Packet.Shows.rtxRoundTrips_iff (h : p.Shows s) {f : Fields} (hf : s.header = f.bytes)
    (a b c : UInt8) {buffer : List UInt8} (hbuffer : p.size + 2 ≤ buffer.length)
    (payloadType : UInt8) (ssrc : UInt32) (seq : UInt16) :
    p.RtxRoundTrips a b c buffer payloadType ssrc seq ↔
      PadOk (padding s.header) (movedPad s.pad (buffer.drop p.size)) ∧
        ∃ x, (f.seq ++ (s.body ++ movedPad s.pad (buffer.drop p.size))).take
            (s.body.length + (movedPad s.pad (buffer.drop p.size)).length) = s.body ++ x ∧
          PadOk (padding s.header) x := by
  obtain ⟨clone, e, hclone, he, hwire⟩ := h.rtxEncode_wire hf a hbuffer payloadType ssrc seq
  have hseq := h.seqBytes_eq hf
  generalize movedPad s.pad (buffer.drop p.size) = pad at hwire ⊢
  have hcontent := h.content
  constructor
  · rintro ⟨clone', e', q', d', r, hclone', he', hq', hpayload', hd', hr, -, -, -, hpayload⟩
    obtain rfl : clone' = clone := by rw [hclone] at hclone'; cases hclone'; rfl
    obtain rfl : e' = e := by rw [he] at he'; cases he'; rfl
    rw [hcontent, hseq] at hpayload'
    have hpad : PadOk (padding (s.rtx f hf payloadType ssrc seq).header) pad := by
      have hfirst := (Sections.parse_front (s.rtx f hf payloadType ssrc seq) b
        (f.seq ++ (s.body ++ pad)) (f.seq ++ s.body)).1 ⟨q', by rw [← hwire]; exact hq', hpayload'⟩
      obtain ⟨x, hx, hok⟩ := hfirst
      rw [← List.append_assoc] at hx
      rwa [List.append_cancel_left hx]
    obtain ⟨q, d, hq, -, hd, hdwire⟩ := h.rtxDecode_received hf b hpad hwire
    obtain rfl : q' = q := by rw [hq] at hq'; cases hq'; rfl
    obtain rfl : d' = d := by rw [hd] at hd'; cases hd'; rfl
    rw [hcontent] at hpayload
    rw [padding_rtx] at hpad
    exact ⟨hpad, (s.parse_front c _ s.body).1 ⟨r, by rw [← hdwire]; exact hr, hpayload⟩⟩
  · rintro ⟨hpad, hx⟩
    rw [← padding_rtx hf payloadType ssrc seq] at hpad
    obtain ⟨q, d, hq, hpayload, hd, hdwire⟩ := h.rtxDecode_received hf b hpad hwire
    obtain ⟨x, hx, hok⟩ := hx
    obtain ⟨r, hr, -, hshows⟩ := parse_sections c (s.withBody s.body x hok)
    have hbytes : (s.withBody s.body x hok).bytes = d.wire := by
      rw [hdwire, hx, Sections.bytes_eq_front]
      rfl
    rw [hbytes] at hr
    refine ⟨clone, e, q, d, r, hclone, he, hq, ?_, hd, hr, ?_⟩
    · rw [hpayload, hcontent, hseq]
    · rw [hshows.content, hcontent]
      exact ⟨rfl, rfl, rfl, rfl⟩

/-- The padding that is sent is right exactly if the packet is safe in this buffer. -/
theorem Packet.Shows.rtxSafe_iff (h : p.Shows s) {f : Fields} (hf : s.header = f.bytes)
    {buffer : List UInt8} (hbuffer : p.size + 2 ≤ buffer.length) :
    p.RtxSafe buffer ↔ PadOk (padding s.header) (movedPad s.pad (buffer.drop p.size)) ∧
        ∃ x, (f.seq ++ (s.body ++ movedPad s.pad (buffer.drop p.size))).take
            (s.body.length + (movedPad s.pad (buffer.drop p.size)).length) = s.body ++ x ∧
          PadOk (padding s.header) x := by
  have hseq := h.seqBytes_eq hf
  have hbehind : 2 ≤ (buffer.drop p.size).length := by
    rw [List.length_drop]
    omega
  have hpadding := h.payloadPadding
  rw [exists_body_pad_iff _ f.seq_length, length_movedPad hbehind, take_append_eq_iff f.seq_length,
    Packet.RtxSafe, h.content, h.payloadLength, hseq]
  have hpad := s.pad_length
  cases hP : padding s.header with
  | false =>
      rw [hP, if_neg Bool.false_ne_true] at hpad
      have hzero : p.payloadPadding = 0 := by
        apply UInt8.toNat_inj.1
        rw [hpadding, hpad]
        rfl
      simp [hzero, hpad, movedPad, PadOk]
  | true =>
      rw [hP, if_pos rfl] at hpad
      have hpos : 0 < s.pad.length := List.length_pos_iff.2 hpad.1
      have hne : p.payloadPadding ≠ 0 := by
        intro h0
        rw [h0] at hpadding
        exact absurd hpadding (by simp only [UInt8.toNat_zero]; omega)
      have hbyte : ∀ v : UInt8, v.toNat = s.pad.length ↔ v = p.payloadPadding := by
        intro v
        rw [← hpadding, UInt8.toNat_inj]
      have hle : p.payloadPadding ≤ 2 ↔ s.pad.length ≤ 2 := by
        rw [UInt8.le_iff_toNat_le, hpadding]
        rfl
      have hsecond : (buffer.drop p.size).getD 1 0 = buffer.getD (p.size + 1) 0 := by
        rw [List.getD_eq_getElem?_getD, List.getElem?_drop, ← List.getD_eq_getElem?_getD]
      rw [padOk_movedPad_iff hpos hbehind, hbyte, hsecond, hle, hpadding]
      constructor
      · rintro ⟨hrep, hlast⟩
        obtain ⟨hbuf, hsmall⟩ := hlast hne
        refine ⟨hbuf, hrep, (padOk_cut_iff f.seq_length hpos hpad.2.symm hbehind hrep).2 ?_⟩
        intro hle
        rw [hbyte]
        exact hsmall hle
      · rintro ⟨hbuf, hrep, hcut⟩
        refine ⟨hrep, fun _ => ⟨hbuf, fun hle => ?_⟩⟩
        rw [← hbyte]
        exact (padOk_cut_iff f.seq_length hpos hpad.2.symm hbehind hrep).1 hcut hle

end

/-- **RTX.** For every packet that is accepted, every buffer with room for the clone and its two more
bytes, and every RTX payload type, SSRC and sequence number: the bytes that are sent come out right
exactly if the packet is safe in the buffer. -/
theorem rtx_round_trip_iff (behind : UInt8) (bytes : List UInt8) (p : Packet)
    (hp : parse behind bytes = .ok (some p)) (a b c : UInt8) (buffer : List UInt8)
    (hbuffer : p.size + 2 ≤ buffer.length) (payloadType : UInt8) (ssrc : UInt32) (seq : UInt16) :
    p.RtxRoundTrips a b c buffer payloadType ssrc seq ↔ p.RtxSafe buffer := by
  obtain ⟨s, rfl⟩ := (fits_of_parse behind (by rw [hp]; simp)).sections
  obtain ⟨p', hp', -, h⟩ := parse_sections behind s
  obtain rfl : p' = p := by
    rw [hp] at hp'
    cases hp'
    rfl
  obtain ⟨f, hf⟩ := exists_fields s.header_length
  rw [h.rtxRoundTrips_iff hf a b c hbuffer, h.rtxSafe_iff hf hbuffer]

/-- A packet without CSRCs, header extension and padding, with sequence number 5. -/
def plainSections (body : List UInt8) : Sections where
  header := [0x80, 96, 0, 5, 0, 0, 0, 9, 0, 0, 0, 1]
  csrcs := []
  ext := []
  body
  pad := []
  header_length := rfl
  header_version := rfl
  csrcs_length := rfl
  ext_length := rfl
  pad_length := rfl

/-- A payload of three bytes comes back, since it repeats the bytes of the sequence number. -/
theorem rtx_round_trip_iff_repeated_seq :
    ∃ p, parse 0 (plainSections [0, 5, 0]).bytes = .ok (some p) ∧ p.payloadLength = 3 ∧
      p.size + 2 ≤ 1500 ∧ p.RtxRoundTrips 0 0 0 (List.replicate 1500 0) 97 2 1 := by
  obtain ⟨p, hp, hbuf, h⟩ := parse_sections 0 (plainSections [0, 5, 0])
  have hroom : p.size + 2 ≤ 1500 := by
    rw [h.size]
    decide
  refine ⟨p, hp, h.payloadLength, hroom, ?_⟩
  refine (rtx_round_trip_iff 0 _ p hp 0 0 0 (List.replicate 1500 0)
    (by rw [List.length_replicate]; exact hroom) 97 2 1).2 ⟨?_, fun hpad => ?_⟩
  · rw [h.payloadLength, h.content, Packet.seqBytes, Packet.getSequenceNumber, hbuf]
    decide
  · exact absurd (UInt8.toNat_inj.1 h.payloadPadding) hpad

/-- A payload of one byte is lost: the first byte of the sequence number is sent in its place. -/
theorem rtx_loses_payload :
    ∃ p, parse 0 (plainSections [7]).bytes = .ok (some p) ∧ p.size + 2 ≤ 1500 ∧
      ¬ p.RtxRoundTrips 0 0 0 (List.replicate 1500 0) 97 2 1 := by
  obtain ⟨p, hp, hbuf, h⟩ := parse_sections 0 (plainSections [7])
  have hroom : p.size + 2 ≤ 1500 := by
    rw [h.size]
    decide
  have hbuffer : p.size + 2 ≤ (List.replicate 1500 (0 : UInt8)).length := by
    rw [List.length_replicate]
    exact hroom
  obtain ⟨f, hf⟩ := exists_fields (plainSections [7]).header_length
  refine ⟨p, hp, hroom, ?_⟩
  rw [h.rtxRoundTrips_iff hf 0 0 0 hbuffer, ← h.rtxSafe_iff hf hbuffer]
  rintro ⟨hrep, -⟩
  have hfirst := hrep 0 (by rw [h.payloadLength]; decide)
  rw [h.content, Packet.seqBytes, Packet.getSequenceNumber, hbuf] at hfirst
  exact absurd hfirst (by decide)

end KoreWebsocket.Rtp
