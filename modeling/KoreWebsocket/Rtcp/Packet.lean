import KoreWebsocket.Lib.Items
import KoreWebsocket.Utils.Byte

/-!
# RTCP packets and their parser (`mediasoup_1/soup`, `RTC::RTCP`)

`Packet::Parse` goes through a compound packet and hands each packet to the parser of its type. A
parser gets a pointer and a length, here the list of the bytes from the pointer on; it is given the
rest of the whole compound packet and not only its own bytes. A parser that returns `nullptr`
returns `none`. The parsers are in `Except Fault`: a read behind the end, a `len - offset` below
zero and a loop without end are faults.

Objects of the source that point into the buffer hold the bytes of their header (`Header`); those
that decode it hold the numbers. The bit fields have the layout of a little-endian machine.
-/

namespace KoreWebsocket.Rtcp

open Bytes Byte

/-- The bytes of a header of `n` bytes. -/
def Header (n : Nat) := { bs : List UInt8 // bs.length = n }

instance (n : Nat) : DecidableEq (Header n) :=
  inferInstanceAs (DecidableEq { bs : List UInt8 // bs.length = n })

/-- The header at an offset. -/
def headerAt (d : List UInt8) (i : Nat) {n : Nat} (h : i + n ≤ d.length) : Header n :=
  ⟨(d.drop i).take n, by rw [List.length_take, List.length_drop]; omega⟩

/-! ## The common header -/

/-- `Type`. The values without a parser of their own are `other`. -/
inductive PacketType
  | sr | rr | sdes | bye | app | rtpfb | psfb | other
  deriving DecidableEq, Repr

def PacketType.ofByte (b : UInt8) : PacketType :=
  if b = 200 then .sr else if b = 201 then .rr else if b = 202 then .sdes
  else if b = 203 then .bye else if b = 204 then .app else if b = 205 then .rtpfb
  else if b = 206 then .psfb else .other

/-- `header->count`, the low 5 bits. -/
def count (d : List UInt8) : Nat := (d.getD 0 0).toNat % 32

/-- `header->packetType`. -/
def packetType (d : List UInt8) : PacketType := .ofByte (d.getD 1 0)

/-- `packetLlen`, the size that the header announces. -/
def packetLen (d : List UInt8) : Nat := (be ((d.drop 2).take 2) + 1) * 4

/-- `Packet::IsRtcp`. -/
def isRtcp (d : List UInt8) : Bool :=
  4 ≤ d.length && 127 < d.getD 0 0 && d.getD 0 0 < 192 && d.getD 0 0 >>> 6 == 2 &&
    192 ≤ d.getD 1 0 && d.getD 1 0 ≤ 223

/-- `int(len) > 0`. -/
def intPositive (len : Nat) : Bool := 0 < len % 2 ^ 32 && len % 2 ^ 32 < 2 ^ 31

/-! ## Items -/

/-- `FeedbackPsSliItem`. -/
structure SliItem where
  first : UInt16
  number : UInt16
  pictureId : UInt8
  deriving DecidableEq

/-- `FeedbackRtpTmmbItem`. -/
structure TmmbItem where
  ssrc : UInt32
  bitrate : UInt64
  overhead : UInt16
  deriving DecidableEq

/-- `FeedbackPsRpsiItem`: the header and the length of its bit string. -/
structure RpsiItem where
  header : Header 8
  length : Nat
  deriving DecidableEq

/-- `FeedbackPsVbcmItem`: the header, and the bytes behind it that `GetSize` counts. -/
structure VbcmItem where
  header : Header 8
  value : List UInt8
  deriving DecidableEq

/-- `SdesItem`. -/
structure SdesItem where
  type : UInt8
  value : List UInt8
  deriving DecidableEq

/-- `SdesChunk`. -/
structure SdesChunk where
  ssrc : UInt32
  items : List SdesItem
  deriving DecidableEq

/-- `SdesItem::GetSize`. -/
def SdesItem.getSize (item : SdesItem) : Nat := 2 + item.value.length

/-- `SdesChunk::GetSize`. -/
def SdesChunk.getSize (chunk : SdesChunk) : Nat := pad4 (4 + (chunk.items.map SdesItem.getSize).sum)

/-- An item with a header of `size` bytes, which may be refused when it is decoded. -/
def headerItem {α : Type} (size : Nat) (decode : Header size → Option α) : Item α :=
  fun d => .ok (if h : 0 + size ≤ d.length then (decode (headerAt d 0 h)).map (·, size) else none)

/-- `SenderReport::Parse`. -/
def senderReport : Item (Header 24) := headerItem 24 some

/-- `ReceiverReport::Parse`. -/
def receiverReport : Item (Header 24) := headerItem 24 some

/-- `FeedbackRtpNackItem::Parse`. -/
def nackItem : Item (Header 4) := headerItem 4 some

/-- `FeedbackRtpTlleiItem::Parse`. -/
def tlleiItem : Item (Header 4) := headerItem 4 some

/-- `FeedbackRtpEcnItem::Parse`. -/
def ecnItem : Item (Header 20) := headerItem 20 some

/-- `FeedbackPsFirItem::Parse`. -/
def firItem : Item (Header 8) := headerItem 8 some

/-- `FeedbackPsTstItem::Parse`. -/
def tstItem : Item (Header 8) := headerItem 8 some

/-- `FeedbackPsLeiItem::Parse`. -/
def leiItem : Item (Header 4) := headerItem 4 some

/-- The constructor of `FeedbackPsSliItem`. -/
def decodeSli (h : Header 4) : SliItem :=
  let compact := be h.1
  { first := UInt16.ofNat (compact / 2 ^ 19)
    number := UInt16.ofNat (compact / 2 ^ 6 % 2 ^ 13)
    pictureId := UInt8.ofNat (compact % 2 ^ 6) }

/-- `FeedbackPsSliItem::Parse`. -/
def sliItem : Item SliItem := headerItem 4 fun h => some (decodeSli h)

/-- The shift that the bitrates of TMMB and REMB go through must lose nothing. -/
def bitrateFits (mantissa : UInt64) (exponent : Nat) : Bool :=
  mantissa <<< UInt64.ofNat exponent >>> UInt64.ofNat exponent == mantissa

/-- `compact` of a TMMB item. -/
def tmmbCompact (h : Header 8) : Nat := be (h.1.drop 4)

/-- `FeedbackRtpTmmbItem::IsCorrect` after the constructor. -/
def tmmbCorrect (h : Header 8) : Bool :=
  bitrateFits (UInt64.ofNat (tmmbCompact h / 2 ^ 9 % 2 ^ 17)) (tmmbCompact h / 2 ^ 26)

/-- The constructor of `FeedbackRtpTmmbItem`. -/
def decodeTmmb (h : Header 8) : TmmbItem :=
  { ssrc := UInt32.ofNat (be (h.1.take 4))
    bitrate := UInt64.ofNat (tmmbCompact h / 2 ^ 9 % 2 ^ 17) <<<
      UInt64.ofNat (tmmbCompact h / 2 ^ 26)
    overhead := UInt16.ofNat (tmmbCompact h % 2 ^ 9) }

/-- `FeedbackRtpTmmbItem::Parse`. -/
def tmmbItem : Item TmmbItem :=
  headerItem 8 fun h => if tmmbCorrect h then some (decodeTmmb h) else none

/-- `FeedbackPsRpsiItem::IsCorrect` after the constructor: whole bytes of padding, and no more than
the bit string has. The length of the bit string of an item with more wraps, but the item is
dropped. -/
def rpsiCorrect (h : Header 8) : Bool :=
  (h.1.getD 0 0).toNat % 8 == 0 && (h.1.getD 0 0).toNat / 8 ≤ 6

/-- `FeedbackPsRpsiItem::Parse`. -/
def rpsiItem : Item RpsiItem :=
  headerItem 8 fun h =>
    if rpsiCorrect h then some { header := h, length := 6 - (h.1.getD 0 0).toNat / 8 } else none

/-- `FeedbackPsVbcmItem::GetSize`. The length field is read without `ntohs`. -/
def vbcmSize (d : List UInt8) : Nat :=
  pad4 (8 + ((d.getD 6 0).toNat + 256 * (d.getD 7 0).toNat))

/-- `FeedbackPsVbcmItem::Parse`. -/
def vbcmItem : Item VbcmItem := fun d =>
  .ok (if h : 0 + 8 ≤ d.length then
    some ({ header := headerAt d 0 h, value := (d.drop 8).take (vbcmSize d - 8) }, vbcmSize d)
  else none)

/-! ## Packets -/

/-- A parsed packet, by its class. The header of a feedback packet has the two SSRCs. -/
inductive Packet
  | sr (reports : List (Header 24))
  | rr (ssrc : UInt32) (reports : List (Header 24))
  | sdes (chunks : List SdesChunk)
  | bye (ssrcs : List UInt32) (reason : List UInt8)
  | pli (header : Header 8)
  | sli (header : Header 8) (items : List SliItem)
  | rpsi (header : Header 8) (items : List RpsiItem)
  | fir (header : Header 8) (items : List (Header 8))
  | tstr (header : Header 8) (items : List (Header 8))
  | tstn (header : Header 8) (items : List (Header 8))
  | vbcm (header : Header 8) (items : List VbcmItem)
  | lei (header : Header 8) (items : List (Header 4))
  | afb (header : Header 8) (data : List UInt8)
  | remb (header : Header 8) (data : List UInt8) (ssrcs : List UInt32) (bitrate : UInt64)
  | nack (header : Header 8) (items : List (Header 4))
  | tmmbr (header : Header 8) (items : List TmmbItem)
  | tmmbn (header : Header 8) (items : List TmmbItem)
  | srReq (header : Header 8)
  | tllei (header : Header 8) (items : List (Header 4))
  | ecn (header : Header 8) (items : List (Header 20))
  deriving DecidableEq

/-- `SdesItem::Parse`. The length is read before anything is checked. -/
def sdesItem (d : List UInt8) : Except Fault (Option SdesItem) := do
  let length ← get1Byte d 1
  if d.length < 2 + length.toNat then return none
  return some { type := d.getD 0 0, value := (d.drop 2).take length.toNat }

/-- One item of a chunk. The type `END` (0) ends the chunk. -/
def sdesChunkItem : Item SdesItem := fun d => do
  match ← sdesItem d with
  | none => return none
  | some item => return if item.type = 0 then none else some (item, item.getSize)

/-- `SdesChunk::Parse`. -/
def sdesChunk : Item SdesChunk := fun d => do
  if d.length < 4 then return none
  let ssrc ← get4Bytes d 0
  let items ← readAll sdesChunkItem d 4
  let chunk : SdesChunk := { ssrc, items }
  return some (chunk, chunk.getSize)

/-- `SdesPacket::Parse`. -/
def sdesPacket (d : List UInt8) : Except Fault (Option (List Packet)) := do
  let chunks ← readUpTo sdesChunk d (count d) 4
  return some [.sdes chunks]

/-- `SenderReportPacket::Parse`: the reports, of which there is one at most. -/
def senderReportPacket (d : List UInt8) : Except Fault (List (Header 24)) := do
  let _ ← remaining d 4
  match ← senderReport (d.drop 4) with
  | none => return []
  | some (report, _) => return [report]

/-- `ReceiverReportPacket::Parse`. -/
def receiverReportPacket (d : List UInt8) (offset : Nat) : Except Fault Packet := do
  let ssrc ← get4Bytes d 4
  let reports ← readUpTo receiverReport d (count d) (if offset = 0 then 8 else offset)
  return .rr ssrc reports

/-- The loop of `ByePacket::Parse` over the SSRCs, with the offset behind them. -/
def byeSsrcs (d : List UInt8) : Nat → Nat → Except Fault (Option (List UInt32 × Nat))
  | 0, offset => return some ([], offset)
  | n + 1, offset => do
      let left ← remaining d offset
      if left = 0 then return some ([], offset)
      if left < 4 then return none
      let ssrc ← get4Bytes d offset
      match ← byeSsrcs d n (offset + 4) with
      | none => return none
      | some (ssrcs, offset) => return some (ssrc :: ssrcs, offset)

/-- The end of `ByePacket::Parse`: the reason, if there is one and it fits. -/
def byeReason (d : List UInt8) (offset : Nat) : Except Fault (List UInt8) := do
  let left ← remaining d offset
  if left = 0 then return []
  let length ← get1Byte d offset
  let left ← remaining d (offset + 1)
  return if length.toNat ≤ left then (d.drop (offset + 1)).take length.toNat else []

/-- `ByePacket::Parse`. -/
def byePacket (d : List UInt8) : Except Fault (Option (List Packet)) := do
  match ← byeSsrcs d (count d) 4 with
  | none => return none
  | some (ssrcs, offset) =>
      let reason ← byeReason d offset
      return some [.bye ssrcs reason]

/-- A feedback packet, after the check that its header is there. -/
def feedback (d : List UInt8) (k : Header 8 → Except Fault (Option (List Packet))) :
    Except Fault (Option (List Packet)) :=
  if h : 4 + 8 ≤ d.length then k (headerAt d 4 h) else return none

/-- `FeedbackRtpItemsPacket::Parse` and `FeedbackPsItemsPacket::Parse`. -/
def itemsPacket {α : Type} (item : Item α) (mk : Header 8 → List α → Packet) (d : List UInt8) :
    Except Fault (Option (List Packet)) :=
  feedback d fun header => do
    let items ← readAll item d 12
    return some [mk header items]

/-- A feedback packet without items, `FeedbackPsPliPacket::Parse` and
`FeedbackRtpSrReqPacket::Parse`. -/
def headerPacket (mk : Header 8 → Packet) (d : List UInt8) : Except Fault (Option (List Packet)) :=
  feedback d fun header => return some [mk header]

/-- `size` of a `FeedbackPsAfbPacket`, the announced size less the headers. -/
def afbSize (d : List UInt8) : Except Fault Nat :=
  if 12 ≤ packetLen d then .ok (packetLen d - 12) else .error .wraps

/-- `FeedbackPsRembPacket::uniqueIdentifier`, `'R' 'E' 'M' 'B'`. -/
def uniqueIdentifier : UInt32 := 0x52454D42

/-- The loop over the SSRCs in the constructor of `FeedbackPsRembPacket`. -/
def rembSsrcs (d : List UInt8) : Nat → Nat → Except Fault (List UInt32)
  | 0, _ => return []
  | n + 1, index => do
      let ssrc ← get4Bytes d index
      let ssrcs ← rembSsrcs d n (index + 4)
      return ssrc :: ssrcs

/-- `FeedbackPsRembPacket::Parse` and its constructor. -/
def rembPacket (d : List UInt8) : Except Fault (Option (List Packet)) :=
  feedback d fun header => do
    let size ← afbSize d
    if (← get4Bytes d 12) ≠ uniqueIdentifier then return none
    let numSsrcs ← get1Byte d 16
    let byte ← get1Byte d 17
    let low ← get2Bytes d 18
    let exponent := byte.toNat / 4
    let mantissa := UInt64.ofNat (byte.toNat % 4 * 2 ^ 16 + low.toNat)
    if !bitrateFits mantissa exponent then return none
    if packetLen d ≠ 20 + numSsrcs.toNat * 4 then return none
    let ssrcs ← rembSsrcs d numSsrcs.toNat 20
    return some [.remb header ((d.drop 12).take size) ssrcs (mantissa <<< UInt64.ofNat exponent)]

/-- `FeedbackPsAfbPacket::Parse`. -/
def afbPacket (d : List UInt8) : Except Fault (Option (List Packet)) :=
  feedback d fun header => do
    if (← get4Bytes d 12) = uniqueIdentifier then rembPacket d
    else
      let size ← afbSize d
      return some [.afb header ((d.drop 12).take size)]

/-- `FeedbackPs::MessageType`. The values without a parser are `other`. -/
inductive PsType
  | pli | sli | rpsi | fir | tstr | tstn | vbcm | lei | afb | other
  deriving DecidableEq, Repr

def PsType.ofCount : Nat → PsType
  | 1 => .pli | 2 => .sli | 3 => .rpsi | 4 => .fir | 5 => .tstr | 6 => .tstn | 7 => .vbcm | 8 => .lei
  | 15 => .afb | _ => .other

/-- `FeedbackRtp::MessageType`. The values without a parser are `other`. -/
inductive RtpType
  | nack | tmmbr | tmmbn | srReq | tllei | ecn | other
  deriving DecidableEq, Repr

def RtpType.ofCount : Nat → RtpType
  | 1 => .nack | 3 => .tmmbr | 4 => .tmmbn | 5 => .srReq | 7 => .tllei | 8 => .ecn | _ => .other

/-- `FeedbackPacket<FeedbackPs>::Parse`. -/
def feedbackPsPacket (d : List UInt8) : Except Fault (Option (List Packet)) :=
  feedback d fun _ =>
    match PsType.ofCount (count d) with
    | .pli => headerPacket .pli d
    | .sli => itemsPacket sliItem .sli d
    | .rpsi => itemsPacket rpsiItem .rpsi d
    | .fir => itemsPacket firItem .fir d
    | .tstr => itemsPacket tstItem .tstr d
    | .tstn => itemsPacket tstItem .tstn d
    | .vbcm => itemsPacket vbcmItem .vbcm d
    | .lei => itemsPacket leiItem .lei d
    | .afb => afbPacket d
    | .other => return none

/-- `FeedbackPacket<FeedbackRtp>::Parse`. -/
def feedbackRtpPacket (d : List UInt8) : Except Fault (Option (List Packet)) :=
  feedback d fun _ =>
    match RtpType.ofCount (count d) with
    | .nack => itemsPacket nackItem .nack d
    | .tmmbr => itemsPacket tmmbItem .tmmbr d
    | .tmmbn => itemsPacket tmmbItem .tmmbn d
    | .srReq => headerPacket .srReq d
    | .tllei => itemsPacket tlleiItem .tllei d
    | .ecn => itemsPacket ecnItem .ecn d
    | .other => return none

/-- The case of a sender report in `Packet::Parse`: the reports of receivers behind it are a packet
of their own, parsed from `current->GetSize()` on. -/
def srPackets (d : List UInt8) : Except Fault (Option (List Packet)) := do
  let reports ← senderReportPacket d
  if count d = 0 then return some [.sr reports]
  let rr ← receiverReportPacket d (4 + 24 * reports.length)
  return some [.sr reports, rr]

/-- The `switch` of `Packet::Parse`: `current` and its successor. -/
def parsePacket (d : List UInt8) : Except Fault (Option (List Packet)) :=
  match packetType d with
  | .sr => srPackets d
  | .rr => do
      let rr ← receiverReportPacket d 0
      return some [rr]
  | .sdes => sdesPacket d
  | .bye => byePacket d
  | .psfb => feedbackPsPacket d
  | .rtpfb => feedbackRtpPacket d
  | .app | .other => return none

/-- The loop of `Packet::Parse`. -/
def parseLoop : Nat → List UInt8 → Except Fault (List Packet)
  | 0, _ => .error .loops
  | fuel + 1, d => do
      if !intPositive d.length then return []
      if !isRtcp d then return []
      if d.length < packetLen d then return []
      match ← parsePacket d with
      | none => return []
      | some ps =>
          let qs ← parseLoop fuel (d.drop (packetLen d))
          return ps ++ qs

/-- `Packet::Parse`. -/
def parse (d : List UInt8) : Except Fault (List Packet) := parseLoop (d.length + 1) d

/-- `n` SSRCs from an offset on. -/
def ssrcsAt (d : List UInt8) : Nat → Nat → List UInt32
  | 0, _ => []
  | n + 1, o => UInt32.ofNat (be ((d.drop o).take 4)) :: ssrcsAt d n (o + 4)

/-- As many SSRCs are read as there are said to be. -/
theorem length_ssrcsAt (d : List UInt8) (n o : Nat) : (ssrcsAt d n o).length = n := by
  induction n generalizing o with
  | zero => rfl
  | succ n ih => rw [ssrcsAt, List.length_cons, ih]

/-- The SSRCs of a REMB packet are read if they are there. -/
theorem rembSsrcs_ok {d : List UInt8} {n o : Nat} (h : o + 4 * n ≤ d.length) :
    rembSsrcs d n o = .ok (ssrcsAt d n o) := by
  induction n generalizing o with
  | zero => rfl
  | succ n ih =>
      rw [rembSsrcs, get4Bytes_ok (by omega), Checked.ok_bind, ih (by omega)]
      rfl

/-- The SSRCs of a BYE packet: as many as are announced, or as many as there are; it is refused when
an announced one is cut. -/
theorem byeSsrcs_eq {d : List UInt8} {n o : Nat} (ho : o ≤ d.length) : byeSsrcs d n o =
    .ok (if n ≤ (d.length - o) / 4 ∨ (d.length - o) % 4 = 0 then
      some (ssrcsAt d (min n ((d.length - o) / 4)) o, o + 4 * min n ((d.length - o) / 4))
    else none) := by
  induction n generalizing o with
  | zero => rw [byeSsrcs, if_pos (.inl (Nat.zero_le _)), Nat.zero_min]; rfl
  | succ n ih =>
      rw [byeSsrcs, remaining_ok ho, Checked.ok_bind]
      by_cases h0 : d.length - o = 0
      · simp [h0, ssrcsAt]; rfl
      by_cases h4 : d.length - o < 4
      · rw [if_neg h0, if_pos h4, if_neg (by omega)]; rfl
      · have hdiv : (d.length - o) / 4 = (d.length - (o + 4)) / 4 + 1 := by omega
        have hmod : (d.length - o) % 4 = (d.length - (o + 4)) % 4 := by omega
        rw [if_neg h0, if_neg h4, get4Bytes_ok (by omega), Checked.ok_bind, ih (by omega),
          Checked.ok_bind, hdiv, hmod, Nat.succ_min_succ]
        by_cases hc : n ≤ (d.length - (o + 4)) / 4 ∨ (d.length - (o + 4)) % 4 = 0
        · rw [if_pos hc, if_pos (by omega)]
          simp only [ssrcsAt, Nat.succ_eq_add_one, Nat.mul_add, Nat.mul_one]
          rw [show o + 4 + 4 * min n ((d.length - (o + 4)) / 4) =
            o + (4 * min n ((d.length - (o + 4)) / 4) + 4) by omega]
          rfl
        · rw [if_neg hc, if_neg (by omega)]; rfl

/-- The reason at an offset, empty if it does not fit. -/
def reasonAt (d : List UInt8) (o : Nat) : List UInt8 :=
  if o + 1 + (d.getD o 0).toNat ≤ d.length then (d.drop (o + 1)).take (d.getD o 0).toNat else []

/-- The reason of a BYE packet is read within the buffer. -/
theorem byeReason_eq {d : List UInt8} {o : Nat} (ho : o ≤ d.length) :
    byeReason d o = .ok (reasonAt d o) := by
  rw [reasonAt, byeReason, remaining_ok ho, Checked.ok_bind]
  by_cases h0 : d.length - o = 0
  · rw [if_pos h0, if_neg (by omega)]; rfl
  · rw [if_neg h0, get1Byte_ok (by omega), Checked.ok_bind, remaining_ok (by omega), Checked.ok_bind]
    congr 1
    by_cases h : o + 1 + (d.getD o 0).toNat ≤ d.length
    · rw [if_pos h, if_pos (by omega)]
    · rw [if_neg h, if_neg (by omega)]

/-- `ByePacket::Parse`. -/
theorem byePacket_eq {d : List UInt8} (h4 : 4 ≤ d.length) : byePacket d =
    .ok (if count d ≤ (d.length - 4) / 4 ∨ (d.length - 4) % 4 = 0 then
      some [.bye (ssrcsAt d (min (count d) ((d.length - 4) / 4)) 4)
        (reasonAt d (4 + 4 * min (count d) ((d.length - 4) / 4)))]
    else none) := by
  rw [byePacket, byeSsrcs_eq h4, Checked.ok_bind]
  by_cases h : count d ≤ (d.length - 4) / 4 ∨ (d.length - 4) % 4 = 0
  · rw [if_pos h, if_pos h]
    simp only [byeReason_eq (show 4 + 4 * min (count d) ((d.length - 4) / 4) ≤ d.length by omega),
      Checked.ok_bind]
    rfl
  · rw [if_neg h, if_neg h]; rfl

/-! ## Items with a header of a fixed size -/

section
variable {α : Type} {size : Nat} {decode : Header size → Option α} {u r : List UInt8}

/-- An item of one size is read if it is there and can be decoded. -/
theorem headerItem_eq_some {x : α} {n : Nat} :
    headerItem size decode u = .ok (some (x, n)) ↔
      (∃ h, decode (headerAt u 0 h) = some x) ∧ n = size := by
  rw [headerItem]
  constructor
  · intro he
    have he := Except.ok.inj he
    split at he
    · next h =>
        obtain ⟨y, hy, he⟩ := Option.map_eq_some_iff.1 he
        cases he
        exact ⟨⟨h, hy⟩, rfl⟩
    · cases he
  · rintro ⟨⟨h, hx⟩, rfl⟩
    rw [dif_pos h, hx]; rfl

/-- An item that is read fits the buffer. -/
theorem headerItem_fits (u : List UInt8) (x : α) (n : Nat)
    (h : headerItem size decode u = .ok (some (x, n))) : n ≤ u.length := by
  obtain ⟨⟨hle, -⟩, rfl⟩ := headerItem_eq_some.1 h
  omega

/-- Such an item never ends with a fault. -/
theorem headerItem_ok (u : List UInt8) : ∃ a, headerItem size decode u = .ok a := ⟨_, rfl⟩

/-- A header is the same when more follows. -/
theorem headerAt_append (r : List UInt8) {i : Nat} (h : i + size ≤ u.length)
    (h' : i + size ≤ (u ++ r).length) : headerAt (u ++ r) i h' = headerAt u i h := by
  apply Subtype.ext
  change ((u ++ r).drop i).take size = (u.drop i).take size
  rw [List.drop_append_of_le_length (by omega),
    List.take_append_of_le_length (by rw [List.length_drop]; omega)]

/-- What such an item is depends on its own bytes only. -/
theorem headerItem_local : Local (headerItem size decode) := by
  intro b r x n h _
  obtain ⟨⟨hle, hx⟩, rfl⟩ := headerItem_eq_some.1 h
  have hle' : 0 + n ≤ (b ++ r).length := by rw [List.length_append]; omega
  refine headerItem_eq_some.2 ⟨⟨hle', ?_⟩, rfl⟩
  rw [headerAt_append r hle]; exact hx

end

end KoreWebsocket.Rtcp
