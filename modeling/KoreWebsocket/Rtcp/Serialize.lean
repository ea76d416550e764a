import KoreWebsocket.Lib.Writer
import KoreWebsocket.Rtcp.Compound

/-!
# Compound packets that are sent (`RTC::RTCP::CompoundPacket`, `Peer::SendRtcp`)

A compound packet has a sender report with the receiver reports in the same packet, or the receiver
reports alone, and the source descriptions behind them. `Peer::SendRtcp` sends one compound packet for
each sender report and one for all the receiver reports of a transport. The count of a header has five
bits, and the size of a compound packet is computed when it is serialised, so it is 0 where `SendRtcp`
compares it with the size of the buffer.
-/

namespace KoreWebsocket.Rtcp

open Bytes Byte Writer

/-! ## Packets -/

/-- `Packet::Serialize`: the common header. -/
def serializeHeader (size count : Nat) (type : UInt8) : Writer :=
  put ([UInt8.ofNat (128 + count % 32), type] ++ beBytes 2 (size / 4 - 1))

/-- `SenderReport::Serialize` and `ReceiverReport::Serialize`. -/
def serializeReport (report : Header 24) : Writer := put report.1

/-- `SenderReportPacket::GetSize`. -/
def senderReportSize (reports : List (Header 24)) : Nat := 4 + 24 * reports.length

/-- `SenderReportPacket::Serialize`. -/
def serializeSenderReports (reports : List (Header 24)) : Writer := fun buffer offset => do
  ensure (reports.length = 1) "invalid number of sender reports"
  (serializeHeader (senderReportSize reports) reports.length 200).andThen
    (each serializeReport reports) buffer offset

/-- `ReceiverReportPacket::GetSize`. -/
def receiverReportSize (reports : List (Header 24)) : Nat := 4 + 4 + 24 * reports.length

/-- `ReceiverReportPacket::Serialize`. -/
def serializeReceiverReports (ssrc : UInt32) (reports : List (Header 24)) : Writer :=
  ((serializeHeader (receiverReportSize reports) reports.length 201).andThen
    (put (beBytes 4 ssrc.toNat))).andThen (each serializeReport reports)

/-- `SdesItem::SdesItem`: the length field has eight bits, and the value is as long as it says. -/
def SdesItem.new (type : UInt8) (value : List UInt8) : SdesItem :=
  { type, value := value.take (value.length % 256) }

/-- `SdesItem::Serialize`. -/
def SdesItem.serialize (item : SdesItem) : Writer :=
  (put [item.type, UInt8.ofNat item.value.length]).andThen (put item.value)

/-- The zeros behind the items of a chunk, `(-offset) & 3`. -/
def SdesChunk.padding (chunk : SdesChunk) : Nat :=
  let offset := 4 + (chunk.items.map SdesItem.getSize).sum
  (4 - offset % 4) % 4

/-- `SdesChunk::Serialize`. -/
def SdesChunk.serialize (chunk : SdesChunk) : Writer :=
  ((put (beBytes 4 chunk.ssrc.toNat)).andThen (each SdesItem.serialize chunk.items)).andThen
    (put (List.replicate chunk.padding 0))

/-- `SdesPacket::GetSize`. -/
def sdesSize (chunks : List SdesChunk) : Nat := 4 + (chunks.map SdesChunk.getSize).sum

/-- `SdesPacket::Serialize`. -/
def serializeSdes (chunks : List SdesChunk) : Writer :=
  (serializeHeader (sdesSize chunks) chunks.length 202).andThen (each SdesChunk.serialize chunks)

/-! ## The compound packet -/

/-- `class CompoundPacket`. The SSRC is that of the receiver report packet. -/
structure CompoundPacket where
  size : Nat := 0
  senderReports : List (Header 24) := []
  ssrc : UInt32 := 0
  receiverReports : List (Header 24) := []
  chunks : List SdesChunk := []
  deriving DecidableEq

/-- `header->count = count`: the low five bits of the first byte. -/
def setCount (buffer : List UInt8) (count : Nat) : Except Fault (List UInt8) := do
  let first ← get1Byte buffer 0
  write buffer 0 [UInt8.ofNat (first.toNat / 32 * 32 + count % 32)]

/-- `header->length = htons(length)`. -/
def setLength (buffer : List UInt8) (length : Nat) : Except Fault (List UInt8) :=
  write buffer 2 (beBytes 2 length)

namespace CompoundPacket

variable (p : CompoundPacket)

/-- The size that `Serialize` computes. -/
def totalSize : Nat :=
  (if p.senderReports.length ≠ 0 then
    senderReportSize p.senderReports +
      (if p.receiverReports.length ≠ 0 then 24 * p.receiverReports.length else 0)
  else receiverReportSize p.receiverReports) +
    (if p.chunks.length ≠ 0 then sdesSize p.chunks else 0)

/-- The reports, with the offset behind them. -/
def serializeReports (buffer : List UInt8) : Except Fault (List UInt8 × Nat) :=
  if p.senderReports.length ≠ 0 then do
    let (buffer, _) ← serializeSenderReports p.senderReports buffer 0
    let offset := senderReportSize p.senderReports
    let buffer ← setCount buffer 0
    if p.receiverReports.length ≠ 0 then do
      let buffer ← setLength buffer ((24 + 24 * p.receiverReports.length) / 4)
      let buffer ← setCount buffer p.receiverReports.length
      let (buffer, n) ← each serializeReport p.receiverReports buffer offset
      .ok (buffer, offset + n)
    else .ok (buffer, offset)
  else do
    let (buffer, _) ← serializeReceiverReports p.ssrc p.receiverReports buffer 0
    .ok (buffer, receiverReportSize p.receiverReports)

/-- `CompoundPacket::Serialize`. -/
def serialize (buffer : List UInt8) : Except Fault (CompoundPacket × List UInt8) := do
  let (buffer, offset) ← p.serializeReports buffer
  if p.chunks.length ≠ 0 then do
    let (buffer, _) ← serializeSdes p.chunks buffer offset
    .ok ({ p with size := p.totalSize }, buffer)
  else .ok ({ p with size := p.totalSize }, buffer)

/-- `CompoundPacket::AddSenderReport`. -/
def addSenderReport (report : Header 24) : Except Fault CompoundPacket := do
  ensure (p.senderReports.length = 0) "a sender report is already present"
  .ok { p with senderReports := p.senderReports ++ [report] }

/-- `CompoundPacket::AddReceiverReport`. -/
def addReceiverReport (report : Header 24) : CompoundPacket :=
  { p with receiverReports := p.receiverReports ++ [report] }

/-- `CompoundPacket::AddSdesChunk`. -/
def addSdesChunk (chunk : SdesChunk) : CompoundPacket := { p with chunks := p.chunks ++ [chunk] }

end CompoundPacket

/-! ## What a peer sends -/

/-- `BufferSize`, the size of the buffer that packets are serialised into. -/
def bufferSize : Nat := 65536

/-- `SetSsrc` of a report. -/
def setSsrc (report : Header 24) (ssrc : UInt32) : Header 24 :=
  ⟨beBytes 4 ssrc.toNat ++ report.1.drop 4, by
    rw [List.length_append, length_beBytes, List.length_drop, report.2]⟩

/-- What a sender has for a compound packet: its report, its SSRC and its CNAME. -/
structure SenderRtcp where
  report : Header 24
  ssrc : UInt32
  cname : List UInt8

/-- The chunk of a sender. -/
def SenderRtcp.chunk (s : SenderRtcp) : SdesChunk :=
  { ssrc := s.ssrc, items := [SdesItem.new 1 s.cname] }

/-- `RtpSender::GetRtcp`. A sender without a report, or whose last one is too recent, adds nothing. -/
def senderRtcp (packet : CompoundPacket) : Option SenderRtcp → Except Fault CompoundPacket
  | none => .ok packet
  | some s => do
      let packet ← packet.addSenderReport (setSsrc s.report s.ssrc)
      .ok (packet.addSdesChunk s.chunk)

/-- What a receiver has for a compound packet: a report and an SSRC for each of its streams. -/
abbrev ReceiverRtcp := List (Header 24 × UInt32)

/-- `RtpReceiver::GetRtcp`. -/
def receiverRtcp (packet : CompoundPacket) (streams : ReceiverRtcp) : CompoundPacket :=
  streams.foldl (fun packet stream => packet.addReceiverReport (setSsrc stream.1 stream.2)) packet

/-- The loop of `Peer::SendRtcp` over the senders of a transport: the packets that are sent, and the
packet that the receivers add to, `none` when the function has returned. -/
def sendSenders (packet : CompoundPacket) :
    List (Option SenderRtcp) → Except Fault (List CompoundPacket × Option CompoundPacket)
  | [] => .ok ([], some packet)
  | s :: senders => do
      let packet ← senderRtcp packet s
      if packet.senderReports.length ≠ 0 then
        if packet.size > bufferSize then .ok ([], none)
        else do
          let (sent, last) ← sendSenders {} senders
          .ok (packet :: sent, last)
      else sendSenders packet senders

/-- `Peer::SendRtcp` for one transport: the compound packets that are serialised and sent. -/
def sendRtcp (senders : List (Option SenderRtcp)) (receivers : List ReceiverRtcp) :
    Except Fault (List CompoundPacket) := do
  let (sent, last) ← sendSenders {} senders
  match last with
  | none => .ok sent
  | some packet =>
      let packet := receivers.foldl receiverRtcp packet
      if packet.receiverReports.length ≠ 0 then
        if packet.size > bufferSize then .ok sent else .ok (sent ++ [packet])
      else .ok sent

end KoreWebsocket.Rtcp
