import KoreWebsocket.Rtcp.Serialize

/-!
# Compound packets round trip

`Packet::Parse` of a compound packet that `Peer::SendRtcp` sends gives its reports and chunks back, and
nothing else, exactly if (`sendRtcp_round_trips_iff`)
* a packet has no more than 31 receiver reports, as many as the count of its header can say;
* the items of a chunk do not leave one byte to the next multiple of four: `SdesChunk::Serialize` fills
  it with one zero, and `SdesItem::Parse` reads a length behind it, outside the packet.

Every such packet fits the buffer exactly if the receivers have no more than 2730 streams
(`sendRtcp_fits_buffer_iff`).
-/

namespace KoreWebsocket.Rtcp

open Bytes Byte Writer

/-- What the parser is to return for a compound packet. Receiver reports behind a sender report get its
SSRC. -/
def CompoundPacket.packets (p : CompoundPacket) : List Packet :=
  (match p.senderReports with
    | [] => [.rr p.ssrc p.receiverReports]
    | report :: _ => .sr p.senderReports :: if p.receiverReports.length ≠ 0 then
        [.rr (UInt32.ofNat (be (report.1.take 4))) p.receiverReports] else []) ++
    if p.chunks.length ≠ 0 then [.sdes p.chunks] else []

/-- `Serialize` writes exactly as many bytes as `GetSize` says, whatever the buffer held, and the parser
gives the content back. -/
def CompoundPacket.RoundTrips (p : CompoundPacket) : Prop :=
  ∃ bytes : List UInt8,
    (∀ buffer, buffer.length = bufferSize →
      p.serialize buffer = .ok ({ p with size := bytes.length }, bytes ++ buffer.drop bytes.length)) ∧
    parse bytes = .ok p.packets

/-! ## The bytes -/

def Header.bytes {n : Nat} (h : Header n) : List UInt8 := h.1

def headerBytes (size count : Nat) (type : UInt8) : List UInt8 :=
  [UInt8.ofNat (128 + count % 32), type] ++ beBytes 2 (size / 4 - 1)

def senderBytes (report : Header 24) : List UInt8 := headerBytes 28 0 200 ++ report.bytes

def receiverBytes (ssrc : UInt32) (reports : List (Header 24)) : List UInt8 :=
  (headerBytes (receiverReportSize reports) reports.length 201 ++ beBytes 4 ssrc.toNat) ++
    reports.flatMap Header.bytes

def SdesItem.bytes (item : SdesItem) : List UInt8 :=
  [item.type, UInt8.ofNat item.value.length] ++ item.value

def SdesChunk.bytes (chunk : SdesChunk) : List UInt8 :=
  (beBytes 4 chunk.ssrc.toNat ++ chunk.items.flatMap SdesItem.bytes) ++
    List.replicate chunk.padding 0

def sdesBytes (chunks : List SdesChunk) : List UInt8 :=
  headerBytes (sdesSize chunks) chunks.length 202 ++ chunks.flatMap SdesChunk.bytes

section
variable {reports : List (Header 24)} {report : Header 24} {chunk : SdesChunk} {ssrc : UInt32}

/-- The common header has four bytes. -/
theorem length_headerBytes (size count : Nat) (type : UInt8) :
    (headerBytes size count type).length = 4 := by
  rw [headerBytes, List.length_append, length_beBytes]
  rfl

/-- Blocks of one size take their number times this size. -/
theorem length_flatMap_headers {size : Nat} (headers : List (Header size)) :
    (headers.flatMap Header.bytes).length = size * headers.length := by
  induction headers with
  | nil => rfl
  | cons header headers ih =>
      rw [List.flatMap_cons, List.length_append, ih, Header.bytes, header.2, List.length_cons,
        Nat.mul_succ, Nat.add_comm]

/-- A sender report is a header and 24 bytes. -/
theorem length_senderBytes : (senderBytes report).length = 28 := by
  rw [senderBytes, List.length_append, length_headerBytes, Header.bytes, report.2]

/-- `GetSize` of the receiver reports is what they take. -/
theorem length_receiverBytes : (receiverBytes ssrc reports).length = receiverReportSize reports := by
  rw [receiverBytes, List.length_append, List.length_append, length_headerBytes, length_beBytes,
    length_flatMap_headers]
  rfl

/-- `GetSize` of an item is what it takes. -/
theorem SdesItem.length_bytes (item : SdesItem) : item.bytes.length = item.getSize := by
  rw [SdesItem.bytes, SdesItem.getSize, List.length_append]
  rfl

/-- `GetSize` of a chunk counts its padding. -/
theorem SdesChunk.length_bytes (chunk : SdesChunk) : chunk.bytes.length = chunk.getSize := by
  have hitems : (chunk.items.flatMap SdesItem.bytes).length =
      (chunk.items.map SdesItem.getSize).sum := by
    rw [List.length_flatMap]
    exact congrArg (fun f => (chunk.items.map f).sum) (funext SdesItem.length_bytes)
  simp only [SdesChunk.bytes, List.length_append, length_beBytes, hitems, List.length_replicate,
    SdesChunk.padding, SdesChunk.getSize, pad4]
  omega

/-- `GetSize` of the SDES packet is what it takes. -/
theorem length_sdesBytes (chunks : List SdesChunk) : (sdesBytes chunks).length = sdesSize chunks := by
  rw [sdesBytes, List.length_append, length_headerBytes, List.length_flatMap, sdesSize]
  exact congrArg (fun f => 4 + (chunks.map f).sum) (funext SdesChunk.length_bytes)

/-! ## What is written -/

/-- A report block is copied. -/
theorem writes_report (report : Header 24) : Writes (serializeReport report) report.bytes :=
  writes_put report.1

/-- The blocks are copied one after the other. -/
theorem writes_reports (reports : List (Header 24)) :
    Writes (each serializeReport reports) (reports.flatMap Header.bytes) :=
  writes_each writes_report reports

/-- The receiver reports are a header, an SSRC and the blocks. -/
theorem writes_receiverReports (ssrc : UInt32) (reports : List (Header 24)) :
    Writes (serializeReceiverReports ssrc reports) (receiverBytes ssrc reports) :=
  ((writes_put _).andThen (writes_put _)).andThen (writes_reports reports)

/-- An item is its type, its length and its value. -/
theorem SdesItem.writes (item : SdesItem) : Writes item.serialize item.bytes :=
  (writes_put _).andThen (writes_put _)

/-- A chunk is an SSRC, its items and zeros up to a word. -/
theorem SdesChunk.writes (chunk : SdesChunk) : Writes chunk.serialize chunk.bytes :=
  ((writes_put _).andThen (writes_each SdesItem.writes chunk.items)).andThen (writes_put _)

/-- The chunks are written behind their header. -/
theorem writes_sdes (chunks : List SdesChunk) : Writes (serializeSdes chunks) (sdesBytes chunks) :=
  (writes_put _).andThen (writes_each SdesChunk.writes chunks)

/-- The sender report, before its count is set to 0. -/
theorem writes_senderReport (report : Header 24) :
    Writes (serializeSenderReports [report]) (headerBytes 28 1 200 ++ report.bytes) := by
  intro a old z hlen
  have hwrites := (writes_put (headerBytes 28 1 200)).andThen (writes_reports [report])
  rw [serializeSenderReports, ensure_true List.length_singleton, Checked.ok_bind]
  rw [List.flatMap_singleton] at hwrites
  exact hwrites a old z hlen

/-- The count is the last five bits of the first byte. -/
theorem setCount_cons (b : UInt8) (z : List UInt8) (count : Nat) :
    setCount (b :: z) count = .ok (UInt8.ofNat (b.toNat / 32 * 32 + count % 32) :: z) := by
  have hget : get1Byte (b :: z) 0 = .ok b := get1Byte_ok (Nat.succ_pos _)
  rw [setCount, hget, Checked.ok_bind]
  exact write_append (a := []) (m := [b]) rfl

/-- `header->count = 0`. -/
theorem setCount_senderBytes (z : List UInt8) :
    setCount ((headerBytes 28 1 200 ++ report.bytes) ++ z) 0 = .ok (senderBytes report ++ z) :=
  setCount_cons _ _ 0

end

/-! ## The two compound packets -/

/-- The compound packet of a sender. -/
def SenderRtcp.compound (s : SenderRtcp) : CompoundPacket :=
  { senderReports := [setSsrc s.report s.ssrc], chunks := [s.chunk] }

/-- The compound packet of receiver reports. -/
def receiverCompound (reports : List (Header 24)) : CompoundPacket := { receiverReports := reports }

def SenderRtcp.bytes (s : SenderRtcp) : List UInt8 :=
  senderBytes (setSsrc s.report s.ssrc) ++ sdesBytes [s.chunk]

/-- A chunk of a sender fits the buffer. -/
theorem SenderRtcp.length_bytes_le (s : SenderRtcp) : s.bytes.length ≤ bufferSize := by
  have hvalue : (SdesItem.new 1 s.cname).value.length < 256 := by
    rw [SdesItem.new, List.length_take]
    exact (Nat.min_le_left _ _).trans_lt (Nat.mod_lt _ (by decide))
  rw [SenderRtcp.bytes, List.length_append, length_senderBytes, length_sdesBytes, sdesSize,
    SenderRtcp.chunk, bufferSize]
  simp only [List.map_cons, List.map_nil, List.sum_cons, List.sum_nil, SdesChunk.getSize, pad4,
    SdesItem.getSize]
  omega

/-- The compound packet of a sender is as long as its parts. -/
theorem SenderRtcp.totalSize_compound (s : SenderRtcp) : s.compound.totalSize = s.bytes.length := by
  rw [SenderRtcp.bytes, List.length_append, length_senderBytes, length_sdesBytes]
  rfl

/-- The packet of a sender is written into every buffer that has room, and nothing else changes. -/
theorem SenderRtcp.serialize_compound (s : SenderRtcp) {buffer : List UInt8}
    (h : s.bytes.length ≤ buffer.length) :
    s.compound.serialize buffer =
      .ok ({ s.compound with size := s.bytes.length }, s.bytes ++ buffer.drop s.bytes.length) := by
  have hlen : s.bytes.length = 28 + (sdesBytes [s.chunk]).length := by
    rw [SenderRtcp.bytes, List.length_append, length_senderBytes]
  have hreport : (headerBytes 28 1 200 ++ (setSsrc s.report s.ssrc).bytes).length = 28 := by
    rw [List.length_append, length_headerBytes, Header.bytes, (setSsrc s.report s.ssrc).2]
  have hreports : s.compound.serializeReports buffer =
      .ok (senderBytes (setSsrc s.report s.ssrc) ++ buffer.drop 28, 28) := by
    have hone : s.compound.senderReports.length ≠ 0 := Nat.one_ne_zero
    have hwrite := (writes_senderReport (setSsrc s.report s.ssrc)).start buffer (by omega)
    rw [hreport] at hwrite
    rw [CompoundPacket.serializeReports, if_pos hone]
    change (serializeSenderReports [setSsrc s.report s.ssrc] buffer 0 >>= _) = _
    rw [hwrite, Checked.ok_bind]
    dsimp only
    rw [setCount_senderBytes, Checked.ok_bind]
    rfl
  have hsdes := (writes_sdes [s.chunk]).behind (senderBytes (setSsrc s.report s.ssrc))
    (buffer.drop 28) (by rw [List.length_drop]; omega)
  have hone : s.compound.chunks.length ≠ 0 := Nat.one_ne_zero
  rw [length_senderBytes] at hsdes
  rw [CompoundPacket.serialize, hreports, Checked.ok_bind]
  dsimp only
  rw [if_pos hone, s.totalSize_compound]
  change (serializeSdes [s.chunk] _ 28 >>= _) = _
  rw [hsdes, Checked.ok_bind, hlen, ← List.drop_drop, SenderRtcp.bytes, List.append_assoc]

/-- The reports of the receivers are written into every buffer that has room. -/
theorem serialize_receiverCompound {reports : List (Header 24)} {buffer : List UInt8}
    (h : receiverReportSize reports ≤ buffer.length) :
    (receiverCompound reports).serialize buffer =
      .ok ({ receiverCompound reports with size := (receiverBytes 0 reports).length },
        receiverBytes 0 reports ++ buffer.drop (receiverBytes 0 reports).length) := by
  have hwrite := (writes_receiverReports 0 reports).start buffer (by rwa [length_receiverBytes])
  rw [length_receiverBytes] at hwrite ⊢
  have hreports : (receiverCompound reports).serializeReports buffer =
      .ok (receiverBytes 0 reports ++ buffer.drop (receiverReportSize reports),
        receiverReportSize reports) := by
    have hnone : ¬ (receiverCompound reports).senderReports.length ≠ 0 := not_not.2 rfl
    rw [CompoundPacket.serializeReports, if_neg hnone]
    change (serializeReceiverReports 0 reports buffer 0 >>= _) = _
    rw [hwrite, Checked.ok_bind]
    rfl
  rw [CompoundPacket.serialize, hreports, Checked.ok_bind]
  exact if_neg (not_not.2 rfl)

/-! ## What is parsed -/

section
variable {reports : List (Header 24)}

/-- No packet has more reports than its count can say. -/
theorem receiverReportPacket_le {d : List UInt8} {offset : Nat} {ssrc : UInt32}
    (h : receiverReportPacket d offset = .ok (.rr ssrc reports)) : reports.length ≤ 31 := by
  rw [receiverReportPacket] at h
  obtain ⟨ssrc', -, h⟩ := Checked.bind_eq_ok.1 h
  obtain ⟨reports', hreports, h⟩ := Checked.bind_eq_ok.1 h
  cases h
  obtain ⟨e, -, hcount⟩ := readUpTo_eq_ok.1 hreports
  have hlt : count d < 32 := Nat.mod_lt _ (by decide)
  rcases hcount with heq | ⟨hlt', -⟩
  · omega
  · omega

end

/-- Reports that are serialised fit the buffer. -/
theorem size_le_of_serialize {reports : List (Header 24)} (hne : reports ≠ [])
    {buffer : List UInt8} {result : CompoundPacket × List UInt8}
    (h : (receiverCompound reports).serialize buffer = .ok result) :
    receiverReportSize reports ≤ buffer.length := by
  obtain ⟨⟨buffer₁, offset⟩, hreports, -⟩ := Checked.bind_eq_ok.1 h
  have hnone : ¬ (receiverCompound reports).senderReports.length ≠ 0 := not_not.2 rfl
  rw [CompoundPacket.serializeReports, if_neg hnone] at hreports
  obtain ⟨⟨buffer₂, n⟩, hwrite, -⟩ := Checked.bind_eq_ok.1 hreports
  cases reports with
  | nil => exact absurd rfl hne
  | cons report reports =>
      have hreport : ∀ report : Header 24, Within (serializeReport report) 24 := by
        intro report
        have hput := within_put report.1
        rwa [report.2] at hput
      have hfit := (((within_put (headerBytes _ _ _)).andThen (within_put _)).andThen
        (within_each hreport) buffer 0 buffer₂ n hwrite).2.1
      rw [length_headerBytes, length_beBytes, Nat.zero_add] at hfit
      exact hfit

/-! ### The common header -/

section
variable {size c : Nat} {type : UInt8} {z d : List UInt8} {ps : List Packet}

/-- The parser reads the count modulo 32. -/
theorem count_headerBytes : count (headerBytes size c type ++ z) = c % 32 := by
  change (UInt8.ofNat (128 + c % 32)).toNat % 32 = c % 32
  rw [UInt8.toNat_ofNat']
  omega

/-- The length field has 16 bits for the words after the first. -/
theorem packetLen_headerBytes (hmod : size % 4 = 0) (hpos : 4 ≤ size) (hle : size ≤ 262144) :
    packetLen (headerBytes size c type ++ z) = size := by
  have htake : ((headerBytes size c type ++ z).drop 2).take 2 = beBytes 2 (size / 4 - 1) :=
    List.take_left' (length_beBytes 2 _)
  rw [packetLen, htake, be_beBytes]
  omega

/-- A packet type of RTCP is recognized. -/
theorem isRtcp_headerBytes (hlow : 192 ≤ type) (hhigh : type ≤ 223) :
    isRtcp (headerBytes size c type ++ z) = true := by
  have hlen : 4 ≤ (headerBytes size c type ++ z).length := by
    rw [List.length_append, length_headerBytes]
    exact Nat.le_add_right _ _
  have hfirst : ∀ n : Fin 32, (127 < UInt8.ofNat (128 + n.1) && UInt8.ofNat (128 + n.1) < 192 &&
      UInt8.ofNat (128 + n.1) >>> 6 == 2) = true := by
    decide
  have hfirst := hfirst ⟨c % 32, Nat.mod_lt _ (by decide)⟩
  simp only [Bool.and_eq_true] at hfirst
  simp only [isRtcp, Bool.and_eq_true, decide_eq_true_eq]
  exact ⟨⟨⟨⟨⟨hlen, of_decide_eq_true hfirst.1.1⟩, of_decide_eq_true hfirst.1.2⟩, hfirst.2⟩, hlow⟩,
    hhigh⟩

/-- A packet that is as long as its header says is framed. -/
theorem framed_headerBytes (hlen : (headerBytes size c type ++ z).length = size)
    (hmod : size % 4 = 0) (hle : size ≤ 262144) (hlow : 192 ≤ type) (hhigh : type ≤ 223) :
    Framed (headerBytes size c type ++ z) := by
  have hpos : 4 ≤ size := by
    rw [← hlen, List.length_append, length_headerBytes]
    exact Nat.le_add_right _ _
  refine ⟨?_, isRtcp_headerBytes hlow hhigh, ?_⟩
  · rw [hlen, intPositive, Bool.and_eq_true, decide_eq_true_eq, decide_eq_true_eq]
    omega
  · rw [packetLen_headerBytes hmod hpos hle, hlen]

/-- A buffer with one packet. -/
theorem parse_whole (hf : Framed d) (hlen : packetLen d = d.length)
    (h : parsePacket d = .ok (some ps)) : parse d = .ok ps := by
  refine (parse_framed hf).2 (.inr ⟨ps, [], h, ?_, (List.append_nil _).symm⟩)
  rw [hlen, List.drop_length]
  rfl

/-- A packet that is as long as its header says, alone in its buffer. -/
theorem parse_headerBytes (hlen : (headerBytes size c type ++ z).length = size) (hmod : size % 4 = 0)
    (hle : size ≤ 262144) (hlow : 192 ≤ type) (hhigh : type ≤ 223)
    (h : parsePacket (headerBytes size c type ++ z) = .ok (some ps)) :
    parse (headerBytes size c type ++ z) = .ok ps := by
  have hpos : 4 ≤ size := by
    rw [← hlen, List.length_append, length_headerBytes]
    exact Nat.le_add_right _ _
  refine parse_whole (framed_headerBytes hlen hmod hle hlow hhigh) ?_ h
  rw [hlen, packetLen_headerBytes hmod hpos hle]

end

/-! ### SSRCs -/

def ssrcsBytes (ssrcs : List UInt32) : List UInt8 := ssrcs.flatMap fun ssrc => beBytes 4 ssrc.toNat

/-- An SSRC has four bytes. -/
theorem length_ssrcsBytes (ssrcs : List UInt32) : (ssrcsBytes ssrcs).length = 4 * ssrcs.length := by
  induction ssrcs with
  | nil => rfl
  | cons ssrc ssrcs ih =>
      have hcons : ssrcsBytes (ssrc :: ssrcs) = beBytes 4 ssrc.toNat ++ ssrcsBytes ssrcs := rfl
      rw [hcons, List.length_append, length_beBytes, ih, List.length_cons]
      omega

/-- SSRCs in a row are read as they are. -/
theorem ssrcsAt_ssrcsBytes (a z : List UInt8) (ssrcs : List UInt32) :
    ssrcsAt (a ++ (ssrcsBytes ssrcs ++ z)) ssrcs.length a.length = ssrcs := by
  induction ssrcs generalizing a with
  | nil => rfl
  | cons ssrc ssrcs ih =>
      have hcons : ssrcsBytes (ssrc :: ssrcs) = beBytes 4 ssrc.toNat ++ ssrcsBytes ssrcs := rfl
      have hssrc : ((a ++ (beBytes 4 ssrc.toNat ++ (ssrcsBytes ssrcs ++ z))).drop a.length).take 4 =
          beBytes 4 ssrc.toNat := by
        rw [List.drop_left]
        exact List.take_left' (length_beBytes 4 _)
      have hrest := ih (a ++ beBytes 4 ssrc.toNat)
      rw [List.length_append, length_beBytes, List.append_assoc] at hrest
      rw [hcons, List.append_assoc, List.length_cons, ssrcsAt, hssrc, ofNat_be_beBytes_four, hrest]

/-! ### Receiver reports -/

section
variable {reports : List (Header 24)} {ssrc : UInt32}

/-- Headers in a row are read as they are. -/
theorem walk_headers {size : Nat} (hpos : 0 < size) (a : List UInt8) (headers : List (Header size)) :
    Walk (headerItem size some) (a ++ headers.flatMap Header.bytes) a.length headers
      (a.length + size * headers.length) := by
  induction headers generalizing a with
  | nil => exact .nil _
  | cons header headers ih =>
      have hlen : 0 + size ≤ (header.bytes ++ headers.flatMap Header.bytes).length := by
        rw [List.length_append, Header.bytes, header.2]
        omega
      have hheader : headerItem size some
          ((a ++ (header :: headers).flatMap Header.bytes).drop a.length) = .ok (some (header, size)) := by
        rw [List.drop_left, List.flatMap_cons]
        refine headerItem_eq_some.2 ⟨⟨hlen, congrArg some (Subtype.ext ?_)⟩, rfl⟩
        exact List.take_left' header.2
      have hrest := ih (a ++ header.bytes)
      rw [List.append_assoc, List.length_append, Header.bytes, header.2] at hrest
      refine .cons ?_ hheader ?_
      · rw [List.length_append, List.flatMap_cons]
        omega
      · rw [List.length_cons, Nat.mul_succ, Nat.add_comm (size * _), ← Nat.add_assoc]
        exact hrest

/-- Up to 31 reports are parsed as they are. -/
theorem parse_receiverBytes (h : reports.length ≤ 31) :
    parse (receiverBytes ssrc reports) = .ok [.rr ssrc reports] := by
  have hlen : (headerBytes (receiverReportSize reports) reports.length 201 ++
      (beBytes 4 ssrc.toNat ++ reports.flatMap Header.bytes)).length = receiverReportSize reports := by
    rw [← List.append_assoc]
    exact length_receiverBytes
  have hsize : receiverReportSize reports = 8 + 24 * reports.length := rfl
  have hassoc : receiverBytes ssrc reports =
      headerBytes (receiverReportSize reports) reports.length 201 ++
        (beBytes 4 ssrc.toNat ++ reports.flatMap Header.bytes) := List.append_assoc _ _ _
  have hcount : count (receiverBytes ssrc reports) = reports.length := by
    rw [hassoc, count_headerBytes]
    omega
  have hssrc : get4Bytes (receiverBytes ssrc reports) 4 = .ok ssrc := by
    rw [hassoc, get4Bytes, read_mid (length_headerBytes _ _ _).symm (length_beBytes 4 _).symm]
    exact congrArg Except.ok (ofNat_be_beBytes_four ssrc)
  have hreports : readUpTo receiverReport (receiverBytes ssrc reports) reports.length 8 =
      .ok reports := by
    have hwalk := walk_headers (by decide) (headerBytes (receiverReportSize reports) reports.length 201 ++
      beBytes 4 ssrc.toNat) reports
    rw [List.length_append, length_headerBytes, length_beBytes] at hwalk
    exact readUpTo_eq_ok.2 ⟨_, hwalk, .inl rfl⟩
  have hpacket : parsePacket (receiverBytes ssrc reports) = .ok (some [.rr ssrc reports]) := by
    change (receiverReportPacket (receiverBytes ssrc reports) 0 >>= _) = _
    rw [receiverReportPacket, hssrc, Checked.ok_bind, hcount, if_pos rfl, hreports]
    rfl
  rw [hassoc] at hpacket ⊢
  exact parse_headerBytes hlen (by omega) (by omega) (by decide) (by decide) hpacket

/-- More reports than the count can say are not all parsed. -/
theorem length_le_of_parse_receiverBytes (hfits : receiverReportSize reports ≤ bufferSize)
    (h : parse (receiverBytes ssrc reports) = .ok [.rr ssrc reports]) : reports.length ≤ 31 := by
  have hassoc : receiverBytes ssrc reports =
      headerBytes (receiverReportSize reports) reports.length 201 ++
        (beBytes 4 ssrc.toNat ++ reports.flatMap Header.bytes) := List.append_assoc _ _ _
  have hlen : (receiverBytes ssrc reports).length = receiverReportSize reports := length_receiverBytes
  have hmod : receiverReportSize reports % 4 = 0 := by
    rw [receiverReportSize]
    omega
  rw [bufferSize] at hfits
  have hframed : Framed (receiverBytes ssrc reports) := by
    rw [hassoc] at hlen ⊢
    exact framed_headerBytes hlen hmod (by omega) (by decide) (by decide)
  rcases (parse_framed hframed).1 h with ⟨-, hnil⟩ | ⟨ps, rs, hps, -, heq⟩
  · exact absurd hnil (List.cons_ne_nil _ _)
  · change (receiverReportPacket (receiverBytes ssrc reports) 0 >>= fun rr => .ok (some [rr])) = _ at hps
    obtain ⟨rr, hrr, hps⟩ := Checked.bind_eq_ok.1 hps
    cases hps
    cases heq
    exact receiverReportPacket_le hrr

end

/-! ### A sender report with a chunk -/

section
variable {report : Header 24} {chunk : SdesChunk} {item : SdesItem}

/-- A sender report is one packet. -/
theorem isPacket_senderBytes (report : Header 24) : IsPacket (senderBytes report) [.sr [report]] := by
  have hlen : (senderBytes report).length = 28 := length_senderBytes
  have hpl : packetLen (senderBytes report) = 28 :=
    packetLen_headerBytes (by decide) (by decide) (by decide)
  have hcount : count (senderBytes report) = 0 := count_headerBytes
  have hreport : headerAt (senderBytes report) 4 (Nat.le_of_eq hlen.symm) = report := by
    refine Subtype.ext ?_
    change ((headerBytes 28 0 200 ++ report.bytes).drop 4).take 24 = report.1
    rw [List.drop_left' (length_headerBytes 28 0 200)]
    exact List.take_of_length_le (Nat.le_of_eq report.2)
  have hpacket : parsePacket (senderBytes report) = .ok (some [.sr [report]]) := by
    change srPackets (senderBytes report) = _
    rw [srPackets, senderReportPacket_eq (by rw [hlen]; decide), dif_pos (Nat.le_of_eq hlen.symm),
      hreport, Checked.ok_bind, if_pos hcount]
    rfl
  have hframed : Framed (senderBytes report) :=
    framed_headerBytes hlen (by decide) (by decide) (by decide) (by decide)
  exact ⟨hpl.trans hlen.symm, parse_whole hframed (hpl.trans hlen.symm) hpacket, List.cons_ne_nil _ _⟩

/-- A sender report without receiver reports reads nothing behind itself. -/
theorem parse_senderBytes_append {r : List UInt8} {qs : List Packet}
    (h : (senderBytes report ++ r).length ≤ bufferSize) :
    parse (senderBytes report ++ r) = .ok (.sr [report] :: qs) ↔ parse r = .ok qs := by
  have hlen : (senderBytes report).length = 28 := length_senderBytes
  have hcontained : Contained (senderBytes report) r := by
    change if 28 ≤ (senderBytes report).length then
      ReportsContained (count (senderBytes report)) 28 (senderBytes report) r else _
    rw [if_pos (Nat.le_of_eq hlen.symm)]
    have hcount : count (senderBytes report) = 0 := count_headerBytes
    rw [hcount]
    exact .inl (Nat.zero_le _)
  have hpositive : intPositive (senderBytes report ++ r).length = true := by
    rw [bufferSize] at h
    rw [intPositive, Bool.and_eq_true, decide_eq_true_eq, decide_eq_true_eq]
    rw [List.length_append] at h ⊢
    omega
  have hiff := (isPacket_senderBytes report).parse_append r qs
  rw [and_iff_right hpositive, and_iff_right hcontained] at hiff
  exact hiff

/-- An item that ends before its chunk does is read whole. -/
theorem sdesItemFits_bytes (htype : item.type ≠ 0) (hvalue : item.value.length < 256)
    (z : List UInt8) : SdesItemFits (item.bytes ++ z) := by
  have hlen : ((item.bytes ++ z).getD 1 0).toNat = item.value.length := by
    change (UInt8.ofNat item.value.length).toNat = item.value.length
    rw [UInt8.toNat_ofNat', Nat.mod_eq_of_lt hvalue]
  have hbytes := item.length_bytes
  rw [SdesItem.getSize] at hbytes
  refine ⟨?_, htype, ?_⟩
  · rw [List.length_append]
    omega
  · rw [hlen, List.length_append]
    omega

/-- An item in front of other bytes is parsed as it is. -/
theorem sdesChunkItem_bytes (htype : item.type ≠ 0) (hvalue : item.value.length < 256)
    (z : List UInt8) : sdesChunkItem (item.bytes ++ z) = .ok (some (item, item.getSize)) := by
  have hlen : ((item.bytes ++ z).getD 1 0).toNat = item.value.length := by
    change (UInt8.ofNat item.value.length).toNat = item.value.length
    rw [UInt8.toNat_ofNat', Nat.mod_eq_of_lt hvalue]
  have htake : ((item.bytes ++ z).drop 2).take item.value.length = item.value := List.take_left
  rw [sdesChunkItem_of_fits (sdesItemFits_bytes htype hvalue z), hlen, htake]
  rfl

/-- The items of a chunk: none is `END`, and each has a length of eight bits. -/
def SdesChunk.Items (chunk : SdesChunk) : Prop :=
  ∀ item ∈ chunk.items, item.type ≠ 0 ∧ item.value.length ≤ 255

/-- Items in a row are read as they are, whatever is behind them. -/
theorem walk_sdesItems (a z : List UInt8) {items : List SdesItem}
    (hitems : ∀ item ∈ items, item.type ≠ 0 ∧ item.value.length ≤ 255) :
    Walk sdesChunkItem (a ++ (items.flatMap SdesItem.bytes ++ z)) a.length items
      (a.length + (items.map SdesItem.getSize).sum) := by
  induction items generalizing a with
  | nil => exact .nil _
  | cons item items ih =>
      obtain ⟨⟨htype, hvalue⟩, hitems⟩ := List.forall_mem_cons.1 hitems
      have hlen := item.length_bytes
      have hbytes : a ++ ((item :: items).flatMap SdesItem.bytes ++ z) =
          a ++ (item.bytes ++ (items.flatMap SdesItem.bytes ++ z)) := by
        rw [List.flatMap_cons, List.append_assoc]
      have hrest := ih (a ++ item.bytes) hitems
      rw [List.append_assoc, List.length_append, hlen] at hrest
      rw [hbytes, List.map_cons, List.sum_cons, ← Nat.add_assoc]
      refine .cons ?_ ?_ hrest
      · rw [SdesItem.getSize] at hlen
        rw [List.length_append, List.length_append]
        omega
      · rw [List.drop_left]
        exact sdesChunkItem_bytes htype (by omega) _

/-- A chunk in front of other bytes is parsed as it is exactly if its items end behind it. -/
theorem sdesChunk_bytes_append_iff (hitems : chunk.Items) (z : List UInt8) {size : Nat} :
    sdesChunk (chunk.bytes ++ z) = .ok (some (chunk, size)) ↔
      SdesEnds (List.replicate chunk.padding 0 ++ z) ∧ size = chunk.getSize := by
  have hbytes : chunk.bytes ++ z = beBytes 4 chunk.ssrc.toNat ++
      (chunk.items.flatMap SdesItem.bytes ++ (List.replicate chunk.padding 0 ++ z)) := by
    rw [SdesChunk.bytes, List.append_assoc, List.append_assoc]
  have hsum : (chunk.items.flatMap SdesItem.bytes).length =
      (chunk.items.map SdesItem.getSize).sum := by
    rw [List.length_flatMap]
    exact congrArg (fun f => (chunk.items.map f).sum) (funext SdesItem.length_bytes)
  have hlen : 4 + (chunk.items.map SdesItem.getSize).sum ≤ (chunk.bytes ++ z).length := by
    rw [hbytes, List.length_append, List.length_append, length_beBytes, hsum]
    omega
  have hssrc : get4Bytes (chunk.bytes ++ z) 0 = .ok chunk.ssrc := by
    have htake : ((chunk.bytes ++ z).drop 0).take 4 = beBytes 4 chunk.ssrc.toNat := by
      rw [List.drop_zero, hbytes, List.take_left' (length_beBytes 4 _)]
    rw [get4Bytes_ok (by omega), htake, ofNat_be_beBytes_four]
  have hwalk := walk_sdesItems (beBytes 4 chunk.ssrc.toNat) (List.replicate chunk.padding 0 ++ z) hitems
  rw [← hbytes, length_beBytes] at hwalk
  have hend : (chunk.bytes ++ z).drop (4 + (chunk.items.map SdesItem.getSize).sum) =
      List.replicate chunk.padding 0 ++ z := by
    rw [hbytes, ← List.drop_drop, List.drop_left' (length_beBytes 4 _), List.drop_left' hsum]
  have hread : readAll sdesChunkItem (chunk.bytes ++ z) 4 = .ok chunk.items ↔
      SdesEnds (List.replicate chunk.padding 0 ++ z) := by
    rw [← hend, ← sdes_stops_iff hlen, readAll_eq_ok]
    constructor
    · rintro ⟨e, hwalk', -, hstops⟩
      rwa [hwalk.end_unique hwalk']
    · intro hstops
      have hcount := (chunk.items.map SdesItem.getSize).length_le_sum_of_one_le
        (List.forall_mem_map.2 fun item _ => Nat.le_add_right_of_le (Nat.le_succ 1))
      rw [List.length_map] at hcount
      exact ⟨_, hwalk, by omega, hstops⟩
  rw [sdesChunk, if_neg (by omega), hssrc, Checked.ok_bind]
  constructor
  · intro h
    obtain ⟨items, hread', h⟩ := Checked.bind_eq_ok.1 h
    obtain ⟨hchunk, hsize⟩ := Prod.mk.inj (Option.some.inj (Except.ok.inj h))
    have hitems' : items = chunk.items := congrArg SdesChunk.items hchunk
    rw [hitems'] at hread'
    rw [hchunk] at hsize
    exact ⟨hread.1 hread', hsize.symm⟩
  · rintro ⟨hends, rfl⟩
    rw [hread.2 hends, Checked.ok_bind]
    rfl

/-- Zeros end a chunk, but not a single one at the end of the packet. -/
theorem sdesEnds_zeros (n : Nat) (z : List UInt8) (hz : n = 0 → z = []) :
    SdesEnds (List.replicate n 0 ++ z) ↔ n + z.length ≠ 1 := by
  have hnot : ¬ SdesItemFits (List.replicate n 0 ++ z) := by
    rintro ⟨hlen, hfirst, -⟩
    cases n with
    | zero =>
        rw [hz rfl] at hlen
        exact absurd hlen (by decide)
    | succ n => exact hfirst rfl
  rw [SdesEnds, and_iff_left hnot, List.length_append, List.length_replicate]

/-- At the end of a packet a chunk is parsed as it is, unless its items leave one byte for zeros. -/
theorem sdesChunk_bytes_iff (hitems : chunk.Items) :
    (∃ size, sdesChunk chunk.bytes = .ok (some (chunk, size))) ↔ chunk.padding ≠ 1 := by
  have hiff : ∀ size, sdesChunk chunk.bytes = .ok (some (chunk, size)) ↔
      chunk.padding ≠ 1 ∧ size = chunk.getSize := by
    intro size
    rw [← List.append_nil chunk.bytes, sdesChunk_bytes_append_iff hitems, sdesEnds_zeros _ _ fun _ => rfl]
    rfl
  simp only [hiff, exists_and_left, exists_eq, and_true]

/-- A packet with such a chunk. -/
theorem parse_sdesBytes_iff (hitems : chunk.Items) (hle : sdesSize [chunk] ≤ 262144) :
    parse (sdesBytes [chunk]) = .ok [.sdes [chunk]] ↔ chunk.padding ≠ 1 := by
  have hbytes : sdesBytes [chunk] = headerBytes (sdesSize [chunk]) 1 202 ++ chunk.bytes := by
    rw [sdesBytes, List.flatMap_singleton]
    rfl
  have hlen : (headerBytes (sdesSize [chunk]) 1 202 ++ chunk.bytes).length = sdesSize [chunk] := by
    rw [← hbytes, length_sdesBytes]
  have hsize : sdesSize [chunk] = 4 + chunk.getSize := rfl
  have hmod : sdesSize [chunk] % 4 = 0 := by
    rw [hsize, SdesChunk.getSize, pad4]
    omega
  have hframed : Framed (sdesBytes [chunk]) := by
    rw [hbytes]
    exact framed_headerBytes hlen hmod hle (by decide) (by decide)
  have hpl : packetLen (sdesBytes [chunk]) = (sdesBytes [chunk]).length := by
    rw [length_sdesBytes, hbytes, packetLen_headerBytes hmod (by omega) hle]
  have hcount : count (sdesBytes [chunk]) = 1 := by
    rw [hbytes]
    exact count_headerBytes
  have hdrop : (sdesBytes [chunk]).drop 4 = chunk.bytes := by
    rw [hbytes]
    exact List.drop_left' (length_headerBytes _ _ _)
  have hread : readUpTo sdesChunk (sdesBytes [chunk]) 1 4 = .ok [chunk] ↔ chunk.padding ≠ 1 := by
    rw [← sdesChunk_bytes_iff hitems, readUpTo_succ_eq_cons, hdrop]
    constructor
    · rintro ⟨size, -, h, -⟩
      exact ⟨size, h⟩
    · rintro ⟨size, h⟩
      refine ⟨size, ?_, h, rfl⟩
      rw [length_sdesBytes, hsize, SdesChunk.getSize, pad4]
      omega
  have hpacket : parsePacket (sdesBytes [chunk]) =
      (readUpTo sdesChunk (sdesBytes [chunk]) 1 4 >>= fun chunks => .ok (some [.sdes chunks])) := by
    change sdesPacket (sdesBytes [chunk]) = _
    rw [sdesPacket, hcount]
    rfl
  rw [← hread]
  constructor
  · intro h
    rcases (parse_framed hframed).1 h with ⟨-, hnil⟩ | ⟨ps, rs, hps, -, heq⟩
    · exact absurd hnil (List.cons_ne_nil _ _)
    · rw [hpacket] at hps
      obtain ⟨chunks, hchunks, hps⟩ := Checked.bind_eq_ok.1 hps
      cases hps
      cases heq
      exact hchunks
  · intro h
    refine parse_whole hframed hpl ?_
    rw [hpacket, h, Checked.ok_bind]

end

/-! ## Round trips -/

/-- The bytes that a packet is known to write are those that have to be parsed. -/
theorem CompoundPacket.roundTrips_iff {p : CompoundPacket} {bytes : List UInt8}
    (h : ∀ buffer, buffer.length = bufferSize →
      p.serialize buffer = .ok ({ p with size := bytes.length }, bytes ++ buffer.drop bytes.length)) :
    p.RoundTrips ↔ parse bytes = .ok p.packets := by
  refine ⟨?_, fun hparse => ⟨bytes, h, hparse⟩⟩
  rintro ⟨bytes', h', hparse⟩
  have hbuffer : (List.replicate bufferSize (0 : UInt8)).length = bufferSize := List.length_replicate
  have heq := Except.ok.inj ((h _ hbuffer).symm.trans (h' _ hbuffer))
  obtain ⟨hsize, hbytes⟩ := Prod.mk.inj heq
  have hlen : bytes.length = bytes'.length := congrArg CompoundPacket.size hsize
  rw [(List.append_inj hbytes hlen).1]
  exact hparse

/-- One byte of padding: the item then leaves room for one zero only. -/
theorem SenderRtcp.padding_eq_one_iff (s : SenderRtcp) :
    s.chunk.padding = 1 ↔ s.cname.length % 4 = 1 := by
  have hvalue : (SdesItem.new 1 s.cname).value.length = s.cname.length % 256 := by
    rw [SdesItem.new, List.length_take]
    exact Nat.min_eq_left (Nat.mod_le _ _)
  simp only [SdesChunk.padding, SenderRtcp.chunk, List.map_cons, List.map_nil, List.sum_cons,
    List.sum_nil, SdesItem.getSize, hvalue]
  omega

/-- What a sender sends is read back unless its CNAME is one byte longer than a multiple of four. -/
theorem SenderRtcp.roundTrips_iff (s : SenderRtcp) :
    s.compound.RoundTrips ↔ s.cname.length % 4 ≠ 1 := by
  have hvalue : (SdesItem.new 1 s.cname).value.length < 256 := by
    rw [SdesItem.new, List.length_take]
    exact (Nat.min_le_left _ _).trans_lt (Nat.mod_lt _ (by decide))
  have hwrites : ∀ buffer, buffer.length = bufferSize → s.compound.serialize buffer =
      .ok ({ s.compound with size := s.bytes.length }, s.bytes ++ buffer.drop s.bytes.length) := by
    intro buffer hbuffer
    exact s.serialize_compound (by rw [hbuffer]; exact s.length_bytes_le)
  have hitems : s.chunk.Items := by
    intro item hmem
    rw [List.mem_singleton.1 hmem]
    exact ⟨show (1 : UInt8) ≠ 0 by decide, Nat.le_of_lt_succ hvalue⟩
  have hle : sdesSize [s.chunk] ≤ 262144 := by
    have hbytes := s.length_bytes_le
    rw [SenderRtcp.bytes, List.length_append, length_sdesBytes, bufferSize] at hbytes
    omega
  rw [CompoundPacket.roundTrips_iff hwrites, ne_eq, ← s.padding_eq_one_iff]
  exact (parse_senderBytes_append s.length_bytes_le).trans (parse_sdesBytes_iff hitems hle)

/-- The reports of the receivers are read back if their number fits the count. -/
theorem receiverCompound_roundTrips_iff (reports : List (Header 24)) :
    (receiverCompound reports).RoundTrips ↔ reports.length ≤ 31 := by
  rcases Nat.lt_or_ge bufferSize (receiverReportSize reports) with hlarge | hfits
  · -- they do not fit the buffer, and are more than 31
    have hmany : ¬ reports.length ≤ 31 := by
      rw [receiverReportSize, bufferSize] at hlarge
      omega
    refine iff_of_false ?_ hmany
    rintro ⟨bytes, hwrites, -⟩
    have hne : reports ≠ [] := by
      rintro rfl
      exact hmany (Nat.zero_le _)
    have hle := size_le_of_serialize hne (hwrites (List.replicate bufferSize 0) List.length_replicate)
    rw [List.length_replicate] at hle
    exact Nat.not_le.2 hlarge hle
  · have hwrites : ∀ buffer, buffer.length = bufferSize → (receiverCompound reports).serialize buffer =
        .ok ({ receiverCompound reports with size := (receiverBytes 0 reports).length },
          receiverBytes 0 reports ++ buffer.drop (receiverBytes 0 reports).length) := by
      intro buffer hbuffer
      exact serialize_receiverCompound (by rwa [hbuffer])
    rw [CompoundPacket.roundTrips_iff hwrites]
    refine ⟨?_, parse_receiverBytes⟩
    intro hparse
    exact length_le_of_parse_receiverBytes hfits hparse

/-! ## Every compound packet of a peer -/

/-- The reports of the receivers of a transport. -/
def reportsOf (receivers : List ReceiverRtcp) : List (Header 24) :=
  receivers.flatten.map fun stream => setSsrc stream.1 stream.2

/-- One compound packet for each sender with a report, and one for the reports of all receivers. -/
def compounds (senders : List (Option SenderRtcp)) (receivers : List ReceiverRtcp) :
    List CompoundPacket :=
  senders.reduceOption.map SenderRtcp.compound ++
    if (reportsOf receivers).length ≠ 0 then [receiverCompound (reportsOf receivers)] else []

/-- Every sender that has something to say sends a packet of its own. -/
theorem sendSenders_eq (senders : List (Option SenderRtcp)) :
    sendSenders {} senders = .ok (senders.reduceOption.map SenderRtcp.compound, some {}) := by
  induction senders with
  | nil => rfl
  | cons s senders ih =>
      cases s with
      | none => exact ih
      | some s =>
          have hadd : senderRtcp {} (some s) = .ok s.compound := rfl
          have hone : s.compound.senderReports.length ≠ 0 := Nat.one_ne_zero
          have hsize : ¬ s.compound.size > bufferSize := Nat.not_lt_zero _
          rw [sendSenders, hadd, Checked.ok_bind, if_pos hone, if_neg hsize, ih]
          rfl

/-- A receiver adds the reports of its streams. -/
theorem receiverRtcp_eq (packet : CompoundPacket) (streams : ReceiverRtcp) :
    receiverRtcp packet streams = { packet with
      receiverReports := packet.receiverReports ++
        streams.map fun stream => setSsrc stream.1 stream.2 } := by
  induction streams generalizing packet with
  | nil => rw [List.map_nil, List.append_nil]; rfl
  | cons stream streams ih =>
      have hstep := ih (packet.addReceiverReport (setSsrc stream.1 stream.2))
      simp only [CompoundPacket.addReceiverReport, List.append_assoc, List.singleton_append] at hstep
      exact hstep

/-- The receivers add their reports one after the other. -/
theorem foldl_receiverRtcp_eq (packet : CompoundPacket) (receivers : List ReceiverRtcp) :
    receivers.foldl receiverRtcp packet = { packet with
      receiverReports := packet.receiverReports ++ reportsOf receivers } := by
  induction receivers generalizing packet with
  | nil => rw [reportsOf, List.flatten_nil, List.map_nil, List.append_nil]; rfl
  | cons streams receivers ih =>
      rw [List.foldl_cons, ih, receiverRtcp_eq, reportsOf, reportsOf, List.flatten_cons, List.map_append,
        List.append_assoc]

/-- `SendRtcp` sends the packets of the senders, and one for all receivers. -/
theorem sendRtcp_eq (senders : List (Option SenderRtcp)) (receivers : List ReceiverRtcp) :
    sendRtcp senders receivers = .ok (compounds senders receivers) := by
  have hreports : receivers.foldl receiverRtcp {} = receiverCompound (reportsOf receivers) :=
    foldl_receiverRtcp_eq {} receivers
  have hsize : ¬ (receiverCompound (reportsOf receivers)).size > bufferSize := Nat.not_lt_zero _
  rw [sendRtcp, sendSenders_eq, Checked.ok_bind]
  dsimp only
  rw [hreports, if_neg hsize, compounds]
  change (if (reportsOf receivers).length ≠ 0 then _ else _) = _
  split
  · rfl
  · rw [List.append_nil]

/-- Every compound packet that a peer sends round trips exactly if no CNAME leaves one byte for zeros and
the receivers of the transport have no more than 31 streams. -/
theorem sendRtcp_round_trips_iff (senders : List (Option SenderRtcp)) (receivers : List ReceiverRtcp) :
    sendRtcp senders receivers = .ok (compounds senders receivers) ∧
      ((∀ p ∈ compounds senders receivers, p.RoundTrips) ↔
        (∀ s, some s ∈ senders → s.cname.length % 4 ≠ 1) ∧ receivers.flatten.length ≤ 31) := by
  refine ⟨sendRtcp_eq senders receivers, ?_⟩
  have hlen : (reportsOf receivers).length = receivers.flatten.length := List.length_map _
  have hsenders : (∀ p ∈ senders.reduceOption.map SenderRtcp.compound, p.RoundTrips) ↔
      ∀ s, some s ∈ senders → s.cname.length % 4 ≠ 1 := by
    rw [List.forall_mem_map]
    refine forall_congr' fun s => ?_
    rw [List.reduceOption_mem_iff, s.roundTrips_iff]
  rw [compounds, List.forall_mem_append, hsenders, ← hlen]
  refine and_congr_right fun _ => ?_
  split
  case isTrue => rw [List.forall_mem_singleton, receiverCompound_roundTrips_iff]
  case isFalse hzero =>
    refine iff_of_true (List.forall_mem_nil _) ?_
    omega

/-- With 32 streams the count of the header is 0, and no report is parsed. -/
theorem reports_lost_by_count :
    ∃ sent, sendRtcp [] [List.replicate 32 (⟨List.replicate 24 0, rfl⟩, 1)] = .ok sent ∧
      ¬ ∀ p ∈ sent, p.RoundTrips := by
  refine ⟨_, sendRtcp_eq _ _, ?_⟩
  intro h
  have htrip := h (receiverCompound (reportsOf [List.replicate 32 (⟨List.replicate 24 0, rfl⟩, 1)]))
    (.head _)
  exact absurd ((receiverCompound_roundTrips_iff _).1 htrip) (by decide)

/-! ## The size of the buffer -/

/-- The packet is written into a buffer of `BufferSize` bytes without a write behind its end. -/
def CompoundPacket.FitsBuffer (p : CompoundPacket) : Prop :=
  ∀ buffer, buffer.length = bufferSize → ∃ result, p.serialize buffer = .ok result

/-- The packet of a sender always fits the buffer. -/
theorem SenderRtcp.fitsBuffer (s : SenderRtcp) : s.compound.FitsBuffer := by
  intro buffer hbuffer
  exact ⟨_, s.serialize_compound (by rw [hbuffer]; exact s.length_bytes_le)⟩

/-- The buffer has room for 2730 reports. -/
theorem receiverCompound_fitsBuffer_iff {reports : List (Header 24)} (hne : reports ≠ []) :
    (receiverCompound reports).FitsBuffer ↔ reports.length ≤ 2730 := by
  have hsize : receiverReportSize reports ≤ bufferSize ↔ reports.length ≤ 2730 := by
    rw [receiverReportSize, bufferSize]
    omega
  rw [← hsize]
  constructor
  · intro h
    obtain ⟨result, hresult⟩ := h (List.replicate bufferSize 0) List.length_replicate
    have hle := size_le_of_serialize hne hresult
    rwa [List.length_replicate] at hle
  · intro hle buffer hbuffer
    exact ⟨_, serialize_receiverCompound (by rwa [hbuffer])⟩

/-- The test of the size before `Serialize` refuses nothing, since the size is computed there. So
every compound packet that a peer serialises fits the buffer exactly if the receivers of the transport
have no more than 2730 streams. -/
theorem sendRtcp_fits_buffer_iff (senders : List (Option SenderRtcp)) (receivers : List ReceiverRtcp) :
    sendRtcp senders receivers = .ok (compounds senders receivers) ∧
      ((∀ p ∈ compounds senders receivers, p.FitsBuffer) ↔ receivers.flatten.length ≤ 2730) := by
  refine ⟨sendRtcp_eq senders receivers, ?_⟩
  have hlen : (reportsOf receivers).length = receivers.flatten.length := List.length_map _
  have hsenders : ∀ p ∈ senders.reduceOption.map SenderRtcp.compound, p.FitsBuffer := by
    rw [List.forall_mem_map]
    intro s _
    exact s.fitsBuffer
  rw [compounds, List.forall_mem_append, and_iff_right hsenders, ← hlen]
  split
  case isTrue hsome =>
    have hne : reportsOf receivers ≠ [] := fun hnil => hsome (congrArg List.length hnil)
    rw [List.forall_mem_singleton, receiverCompound_fitsBuffer_iff hne]
  case isFalse hzero =>
    refine iff_of_true (List.forall_mem_nil _) ?_
    omega

/-- A transport with 2731 streams writes behind the end of the buffer. -/
theorem reports_behind_the_buffer :
    ∃ sent, sendRtcp [] [List.replicate 2731 (⟨List.replicate 24 0, rfl⟩, 1)] = .ok sent ∧
      ¬ ∀ p ∈ sent, p.FitsBuffer := by
  refine ⟨_, sendRtcp_eq _ _, ?_⟩
  have hlen : (reportsOf [List.replicate 2731 (⟨List.replicate 24 0, rfl⟩, 1)]).length = 2731 := by
    rw [reportsOf, List.length_map, List.flatten_singleton, List.length_replicate]
  have hne : reportsOf [List.replicate 2731 (⟨List.replicate 24 0, rfl⟩, 1)] ≠ [] := by
    intro hnil
    rw [hnil] at hlen
    cases hlen
  have hsome : (reportsOf [List.replicate 2731 (⟨List.replicate 24 0, rfl⟩, 1)]).length ≠ 0 := by
    rw [hlen]
    decide
  intro h
  rw [compounds, if_pos hsome] at h
  have hle := (receiverCompound_fitsBuffer_iff hne).1 (h _ (List.mem_append_right _ (.head _)))
  rw [hlen] at hle
  exact absurd hle (by decide)

end KoreWebsocket.Rtcp
