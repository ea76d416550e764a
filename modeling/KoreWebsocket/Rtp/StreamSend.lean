import KoreWebsocket.Lib.Machine
import KoreWebsocket.Lib.Sorted
import KoreWebsocket.Rtp.Codec
import KoreWebsocket.Rtp.Stream

/-!
# The stream of a sender (`RTC::RtpStreamSend`, `mediasoup_1/soup`)

A stream keeps the packets that it has sent, for retransmission. A packet is cloned into a slot of the
storage, and its item is inserted into the buffer in the order of the extended sequence numbers. A slot is
the next free one, or that of the first packet of the buffer, which goes. `RequestRtpRetransmission` looks
up the packets of a NACK item and puts them into a container, up to a null entry; the iterator over the
buffer is shared by the 17 numbers of the item.

`Clone` objects are numbered in the order in which they are made, and keep what they are clones of. What
an object points to is read from its slot.
-/

namespace KoreWebsocket.Rtp

open Bytes

/-- `MtuSize`. -/
def mtuSize : Nat := 1500

/-- `MaxRetransmissionAge`, in milliseconds. -/
def maxRetransmissionAge : UInt32 := 500

/-- `MaxRequestedPackets`. -/
def maxRequestedPackets : Nat := 17

/-- `RtpPacket::GetTimestamp`. -/
def Packet.getTimestamp (p : Packet) : UInt32 := UInt32.ofNat (be ((p.buf.drop 4).take 4))

/-- An `RtpPacket` that `Clone` has made, into a slot of the storage. -/
structure Clone where
  number : Nat
  slot : Nat
  packet : Packet
  source : Packet

/-- `RtpStreamSend::BufferItem`. -/
structure BufferItem where
  seq32 : UInt32
  resentAtTime : UInt64 := 0
  clone : Clone

/-- What the buffer is sorted by. -/
def BufferItem.key (item : BufferItem) : Nat := item.seq32.toNat

/-- `class RtpStreamSend`, with the parameters that it reads. -/
structure RtpStreamSend where
  clockRate : UInt32
  useNack : Bool
  stream : RtpStream := {}
  storage : List (List UInt8)
  buffer : List BufferItem := []
  receivedBytes : UInt64 := 0
  lastPacketTimeMs : UInt64 := 0
  lastPacketRtpTimestamp : UInt32 := 0
  rtt : UInt32 := 0
  clones : Nat := 0

/-- Whether `RtpStream::ReceivePacket` calls `InitSeq`, and so `OnInitSeq`. -/
def RtpStream.initializes (s : RtpStream) (seq : UInt16) : Bool :=
  let udelta := (seq - s.maxSeq).toNat
  if !s.started then true
  else if s.probation ≠ 0 then s.probation = 1 && seq.toNat = s.maxSeq.toNat + 1
  else maxDropout ≤ udelta && udelta ≤ rtpSeqMod - maxMisorder && seq.toUInt32 = s.badSeq

namespace RtpStreamSend

/-- `DefaultRtt`, in milliseconds. -/
def defaultRtt : UInt32 := 100

/-- The constructor. -/
def new (clockRate : UInt32) (useNack : Bool) (bufferSize : Nat) : RtpStreamSend :=
  { clockRate, useNack, storage := List.replicate bufferSize (List.replicate mtuSize 0) }

variable (s : RtpStreamSend)

/-- The object as it is seen through its pointers. -/
def packetOf (c : Clone) : Packet := { c.packet with buf := s.storage.getD c.slot [] }

/-! ## Storing -/

/-- `ClearBuffer`. -/
def clearBuffer : RtpStreamSend := { s with buffer := [] }

/-- `OnInitSeq`. -/
def onInitSeq : RtpStreamSend := s.clearBuffer

/-- `packet->Clone(store)` for a new item, with the store of a slot. -/
def cloneInto (behind : UInt8) (packet : Packet) (packetSeq32 : UInt32) (slot : Nat) :
    Except Fault (RtpStreamSend × BufferItem) := do
  let clone ← packet.clone behind (s.storage.getD slot [])
  return ({ s with storage := s.storage.set slot clone.buf, clones := s.clones + 1 },
    { seq32 := packetSeq32, clone := { number := s.clones, slot, packet := clone, source := packet } })

/-- `StorePacket`. The loop in reverse order goes to the last item with a smaller number. -/
def storePacket (behind : UInt8) (packet : Packet) : Except Fault RtpStreamSend :=
  if packet.size > mtuSize then .ok s
  else
    let packetSeq32 := packet.getSequenceNumber.toUInt32 + s.stream.cycles
    match s.buffer with
    | [] => do
        let (s, item) ← s.cloneInto behind packet packetSeq32 0
        return { s with buffer := [item] }
    | first :: rest =>
        if Sorted.smaller BufferItem.key packetSeq32.toNat (first :: rest) = [] then .ok s
        else if (first :: rest).length < s.storage.length then do
          let (s, item) ← s.cloneInto behind packet packetSeq32 (first :: rest).length
          return { s with buffer := Sorted.insertAt BufferItem.key packetSeq32.toNat item (first :: rest) }
        else do
          let (s, item) ← s.cloneInto behind packet packetSeq32 first.clone.slot
          return { s with
            buffer := (Sorted.insertAt BufferItem.key packetSeq32.toNat item (first :: rest)).tail }

/-- `RtpStream::ReceivePacket`, with `OnInitSeq`: the extended sequence number of the packet, if it is
accepted. -/
def countPacket (packet : Packet) : RtpStreamSend × Option UInt32 :=
  let seq := packet.getSequenceNumber
  let (stream, number) := s.stream.receivePacket seq packet.getTimestamp
  ({ (if s.stream.initializes seq then s.onInitSeq else s) with stream }, number)

/-- `ReceivePacket`: whether the packet is accepted. -/
def receivePacket (behind : UInt8) (packet : Packet) (now : UInt64) :
    Except Fault (RtpStreamSend × Bool) :=
  match s.countPacket packet with
  | (s, none) => .ok (s, false)
  | (s, some _) => do
      let stored := if s.storage.isEmpty then .ok s else s.storePacket behind packet
      let s ← stored
      return ({ s with
        receivedBytes := s.receivedBytes + UInt64.ofNat packet.payloadLength
        lastPacketTimeMs := now, lastPacketRtpTimestamp := packet.getTimestamp }, true)

/-- What `ReceiveRtcpReceiverReport` does with the round trip time, which is computed in floating
point. -/
def receiveRtcpReceiverReport (rtt : UInt32) : RtpStreamSend := { s with rtt }

/-! ## Retransmission -/

/-- How `RequestRtpRetransmission` decides on a packet that it has found. -/
inductive Verdict
  | tooOld | alreadyResent | resend
  deriving DecidableEq, Repr

/-- `diff`, the age of a packet in milliseconds. A division by 0 ends the process as a failed assertion
does. -/
def age (c : Clone) : Except Fault UInt32 := do
  ensure (s.clockRate ≠ 0) "division by zero"
  return (s.stream.maxTimestamp - (s.packetOf c).getTimestamp) * 1000 / s.clockRate

/-- `rtt` of `RequestRtpRetransmission`. -/
def requestRtt : UInt32 := if s.rtt ≠ 0 then s.rtt else defaultRtt

/-- Whether a packet was resent in the last `rtt` milliseconds. `uint32_t resentAtTime` is narrower than
the field and the clock. -/
def isAlreadyResent (now : UInt64) (item : BufferItem) : Bool :=
  let resentAtTime := item.resentAtTime.toUInt32
  resentAtTime ≠ 0 && now - resentAtTime.toUInt64 < s.requestRtt.toUInt64

/-- What is decided on an item with a requested number. -/
def judge (now : UInt64) (item : BufferItem) : Except Fault Verdict := do
  let diff ← s.age item.clone
  return if diff > maxRetransmissionAge then .tooOld
    else if s.isAlreadyResent now item then .alreadyResent else .resend

/-- `std::vector<RTC::RtpPacket*>`, whose entries may be null. -/
abbrev Container := List (Option Clone)

/-- `container[i] = c`. -/
def Container.put (container : Container) (i : Nat) (c : Option Clone) : Except Fault Container :=
  if i < container.length then .ok (container.set i c) else .error .overwrite

/-- The variables of the loop over the requested numbers: the items in front of `bufferIt` and from there
on, the container and `containerIdx`. -/
structure Search where
  passed : List BufferItem
  rest : List BufferItem
  container : Container
  containerIdx : Nat := 0

/-- The loop over the buffer for a requested number, from `bufferIt` to the first item that does not have
a smaller one. -/
def lookFor (now : UInt64) (seq32 : UInt32) (search : Search) : Except Fault Search :=
  let passed := search.passed ++ search.rest.takeWhile (·.seq32 < seq32)
  match search.rest.dropWhile (·.seq32 < seq32) with
  | [] => .ok { search with passed, rest := [] }
  | item :: rest =>
      if item.seq32 = seq32 then do
        match ← s.judge now item with
        | .resend => do
            let container ← search.container.put search.containerIdx (some item.clone)
            return { passed, rest := { item with resentAtTime := now } :: rest, container
                     containerIdx := search.containerIdx + 1 }
        | .tooOld | .alreadyResent => return { search with passed, rest := item :: rest }
      else .ok { search with passed, rest := item :: rest }

/-- The loop over the requested numbers. It ends, for the bits are shifted out. -/
def lookForAll (now : UInt64) : Nat → Bool → UInt16 → UInt32 → Search → Except Fault Search
  | 0, requested, bitmask, _, search =>
      if requested || bitmask ≠ 0 then .error .loops else .ok search
  | fuel + 1, requested, bitmask, seq32, search =>
      if requested || bitmask ≠ 0 then do
        let found := if requested then s.lookFor now seq32 search else .ok search
        let search ← found
        lookForAll now fuel (bitmask &&& 1 ≠ 0) (bitmask >>> 1) (seq32 + 1) search
      else .ok search

/-- Whether the requested range is not in the buffer, whose first and last numbers are given. -/
def isOutside (firstSeq32 bufferFirstSeq32 bufferLastSeq32 : UInt32) : Bool :=
  bufferLastSeq32 < firstSeq32 ||
    firstSeq32 + UInt32.ofNat maxRequestedPackets - 1 < bufferFirstSeq32

/-- The first number that is looked for: in the cycle of the stream, or in the one before. -/
def firstRequested (seq : UInt16) (bufferFirstSeq32 bufferLastSeq32 : UInt32) : Option UInt32 :=
  let firstSeq32 := seq.toUInt32 + s.stream.cycles
  if isOutside firstSeq32 bufferFirstSeq32 bufferLastSeq32 then
    if s.stream.cycles > 0 then
      let firstSeq32 := firstSeq32 - UInt32.ofNat rtpSeqMod
      if isOutside firstSeq32 bufferFirstSeq32 bufferLastSeq32 then none else some firstSeq32
    else none
  else some firstSeq32

/-- `RequestRtpRetransmission`. -/
def requestRtpRetransmission (seq bitmask : UInt16) (container : Container) (now : UInt64) :
    Except Fault (RtpStreamSend × Container) := do
  let container ← container.put 0 none
  if !s.useNack then return (s, container)
  match s.buffer.head?, s.buffer.getLast? with
  | some first, some last => do
      ensure (maxRequestedPackets ≤ container.length - 1) "RtpPacket container is too small"
      match s.firstRequested seq first.seq32 last.seq32 with
      | none => return (s, container)
      | some firstSeq32 => do
          let search ← s.lookForAll now maxRequestedPackets true bitmask firstSeq32
            { passed := [], rest := s.buffer, container }
          let container ← search.container.put search.containerIdx none
          return ({ s with buffer := search.passed ++ search.rest }, container)
  | _, _ => return (s, container)

end RtpStreamSend

/-! ## Runs -/

/-- A packet whose padding ends with its length, as `RtpPacket::Parse` checks. -/
structure PaddedPacket extends Packet where
  padded : payloadPadding ≠ 0 → buf.getD (size - 1) 0 = payloadPadding

/-- A packet without a payload. -/
def mediaPacket (seq : UInt16) (timestamp : UInt32) : PaddedPacket where
  buf := [0x80, 100] ++ beBytes 2 seq.toNat ++ beBytes 4 timestamp.toNat ++ [0, 0, 0, 7]
  payload := headerSize
  payloadLength := 0
  payloadPadding := 0
  size := headerSize
  padded := fun h => absurd rfl h

/-- What happens to a stream. `behind` is the byte behind a slot. -/
inductive SendEvent
  | packet (behind : UInt8) (packet : PaddedPacket) (now : UInt64)
  | receiverReport (rtt : UInt32)
  | request (seq bitmask : UInt16) (container : RtpStreamSend.Container) (now : UInt64)

/-- One more event, unless it ends the process. -/
def RtpStreamSend.step (s : RtpStreamSend) : SendEvent → Option RtpStreamSend
  | .packet behind packet now => (s.receivePacket behind packet.toPacket now).toOption.map Prod.fst
  | .receiverReport rtt => some (s.receiveRtcpReceiverReport rtt)
  | .request seq bitmask container now =>
      (s.requestRtpRetransmission seq bitmask container now).toOption.map Prod.fst

end KoreWebsocket.Rtp
