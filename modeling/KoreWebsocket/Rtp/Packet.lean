import Mathlib
import KoreWebsocket.Utils.Byte

/-!
# RTP packets (`RTC::RtpPacket`, `mediasoup_1/soup`)

A `Packet` is the object: a buffer and the places in it that its pointers have. `header` is always
the front of the buffer. `parse`, `serialize` and `clone` are in `Except Fault`: a failed assertion
and an access outside a buffer are faults. The bit fields have the layout of a little-endian
machine.

`ParseExtensions` may read the byte behind the header extension. Where that is the end of the
buffer, the byte is `behind`.
-/

namespace KoreWebsocket.Rtp

open Bytes

/-- `RtpHeaderExtensionUri::Type`. -/
inductive Uri
  | unknown | ssrcAudioLevel | toOffset | absSendTime | videoOrientation | rtpStreamId
  deriving DecidableEq, Repr

/-- `class RtpPacket`. The elements of the header extension are kept as the places where they start,
by id. -/
structure Packet where
  buf : List UInt8
  csrcList : Option Nat := none
  extensionHeader : Option Nat := none
  oneByteExtensions : UInt8 → Option Nat := fun _ => none
  twoBytesExtensions : UInt8 → Option Nat := fun _ => none
  extensionMap : Uri → Option UInt8 := fun _ => none
  payload : Nat
  payloadLength : Nat
  payloadPadding : UInt8
  size : Nat
  seq32 : UInt32 := 0

/-! ## The fixed header -/

/-- `sizeof(Header)`. -/
def headerSize : Nat := 12

/-- `header->version`. -/
def version (d : List UInt8) : Nat := (d.getD 0 0).toNat / 64

/-- `header->padding`. -/
def padding (d : List UInt8) : Bool := (d.getD 0 0).toNat / 32 % 2 = 1

/-- `header->extension`. -/
def extension (d : List UInt8) : Bool := (d.getD 0 0).toNat / 16 % 2 = 1

/-- `header->csrcCount`. -/
def csrcCount (d : List UInt8) : Nat := (d.getD 0 0).toNat % 16

/-- `RtpPacket::IsRtp`. -/
def isRtp (d : List UInt8) : Bool :=
  headerSize ≤ d.length && 127 < d.getD 0 0 && d.getD 0 0 < 192 && version d == 2

/-! ## The header extension -/

/-- The 16-bit number at a place of the buffer. -/
def get16 (d : List UInt8) (i : Nat) : Nat := be ((d.drop i).take 2)

/-- `RtpPacket::GetExtensionHeaderId`. -/
def Packet.getExtensionHeaderId (p : Packet) : Nat :=
  match p.extensionHeader with
  | none => 0
  | some ext => get16 p.buf ext

/-- `RtpPacket::GetExtensionHeaderLength`. -/
def Packet.getExtensionHeaderLength (p : Packet) : Nat :=
  match p.extensionHeader with
  | none => 0
  | some ext => get16 p.buf (ext + 2) * 4

/-- `while ((ptr < extensionEnd) && (*ptr == 0)) ++ptr`, with `n` bytes to the end. -/
def skipPadding (read : Nat → UInt8) : Nat → Nat → Nat
  | 0, ptr => ptr
  | n + 1, ptr => if read ptr = 0 then skipPadding read n (ptr + 1) else ptr

/-- One element of the header extension: its id, the place that is kept for it and the place behind
it. -/
abbrev Element := Nat → UInt8 × Nat × Nat

/-- An element of the one-byte form. -/
def oneByteElement (read : Nat → UInt8) : Element := fun ptr =>
  (read ptr >>> 4, ptr, ptr + 1 + ((read ptr).toNat % 16 + 1))

/-- An element of the two-bytes form. `len = *(++ptr)` is not checked against the end, and the place
is that of the length. -/
def twoBytesElement (read : Nat → UInt8) : Element := fun ptr =>
  (read ptr, ptr + 1, ptr + 1 + (read (ptr + 1)).toNat)

/-- The loops of `RtpPacket::ParseExtensions` over the elements. -/
def elements (read : Nat → UInt8) (element : Element) (extensionEnd : Nat) :
    Nat → Nat → (UInt8 → Option Nat) → Except Fault (UInt8 → Option Nat)
  | 0, _, _ => .error .loops
  | fuel + 1, ptr, map =>
      if extensionEnd ≤ ptr then .ok map
      else
        let (id, place, next) := element ptr
        if extensionEnd < next then .ok map
        else elements read element extensionEnd fuel (skipPadding read (extensionEnd - next) next)
          (Function.update map id (some place))

/-- `RtpPacket::ParseExtensions`. -/
def Packet.parseExtensions (p : Packet) (behind : UInt8) : Except Fault Packet :=
  let read := fun i => p.buf.getD i behind
  let start := p.extensionHeader.getD 0 + 4
  let extensionEnd := start + p.getExtensionHeaderLength
  if p.getExtensionHeaderId = 0xBEDE then do
    let map ← elements read (oneByteElement read) extensionEnd (extensionEnd - start + 1) start
      fun _ => none
    return { p with oneByteExtensions := map }
  else if p.getExtensionHeaderId / 16 = 0x100 then do
    let map ← elements read (twoBytesElement read) extensionEnd (extensionEnd - start + 1) start
      fun _ => none
    return { p with twoBytesExtensions := map }
  else return p

/-! ## Parse -/

/-- The checks of the header extension: the place of its header, if there is one, its value's size
and the place behind it. -/
def checkExtension (d : List UInt8) (ptr : Nat) : Option (Option Nat × Nat × Nat) :=
  if extension d then
    if d.length < ptr + 4 then none
    else
      let extensionValueSize := get16 d (ptr + 2) * 4
      if d.length < ptr + 4 + extensionValueSize then none
      else some (some ptr, extensionValueSize, ptr + 4 + extensionValueSize)
  else some (none, 0, ptr)

/-- The checks of the padding: the length of the payload and of the padding. -/
def checkPadding (d : List UInt8) (payloadLength : Nat) : Option (Nat × UInt8) :=
  if padding d then
    if payloadLength = 0 then none
    else
      let payloadPadding := d.getD (d.length - 1) 0
      if payloadPadding = 0 then none
      else if payloadLength < payloadPadding.toNat then none
      else some (payloadLength - payloadPadding.toNat, payloadPadding)
  else some (payloadLength, 0)

/-- `RtpPacket::Parse`. -/
def parse (behind : UInt8) (d : List UInt8) : Except Fault (Option Packet) := do
  if !isRtp d then return none
  let csrcListSize := csrcCount d * 4
  if csrcCount d ≠ 0 ∧ d.length < headerSize + csrcListSize then return none
  match checkExtension d (headerSize + csrcListSize) with
  | none => return none
  | some (extensionHeader, extensionValueSize, ptr) =>
      ensure (ptr ≤ d.length) "payload has negative size"
      match checkPadding d (d.length - ptr) with
      | none => return none
      | some (payloadLength, payloadPadding) =>
          ensure (d.length = headerSize + csrcListSize +
              (if extensionHeader.isSome then 4 + extensionValueSize else 0) + payloadLength +
              payloadPadding.toNat)
            "packet's computed size does not match received size"
          let packet : Packet :=
            { buf := d, csrcList := if csrcCount d ≠ 0 then some headerSize else none
              extensionHeader, payload := ptr, payloadLength, payloadPadding, size := d.length }
          some <$> packet.parseExtensions behind

/-! ## Serialize and Clone -/

/-- `if (from != nullptr) std::memcpy(ptr, from, size)`, with `from` a place of the packet. -/
def copySection (p : Packet) (place : Option Nat) (size : Nat) (buf : List UInt8) (ptr : Nat) :
    Except Fault (List UInt8) :=
  match place with
  | none => .ok buf
  | some i => do write buf ptr (← read p.buf i size)

/-- The padding is written: only its last byte. -/
def writePadding (buf : List UInt8) (ptr : Nat) (payloadPadding : UInt8) :
    Except Fault (List UInt8) :=
  if payloadPadding ≠ 0 then write buf (ptr + payloadPadding.toNat - 1) [payloadPadding]
  else .ok buf

/-- `RtpPacket::Serialize` into a buffer. -/
def Packet.serialize (p : Packet) (behind : UInt8) (buffer : List UInt8) : Except Fault Packet := do
  let csrcSize := if p.csrcList.isSome then csrcCount p.buf * 4 else 0
  let extensionSize := if p.extensionHeader.isSome then 4 + p.getExtensionHeaderLength else 0
  let size := headerSize + csrcSize + extensionSize + p.payloadLength + p.payloadPadding.toNat
  let header ← read p.buf 0 headerSize
  let buf ← write buffer 0 header
  let ptr := headerSize
  let buf ← copySection p p.csrcList csrcSize buf ptr
  let csrcList := p.csrcList.map fun _ => ptr
  let ptr := ptr + csrcSize
  let buf ← copySection p p.extensionHeader extensionSize buf ptr
  let extensionHeader := p.extensionHeader.map fun _ => ptr
  let ptr := ptr + extensionSize
  let q ← { p with buf, csrcList, extensionHeader, size }.parseExtensions behind
  let payload ← read p.buf p.payload p.payloadLength
  let buf ← write q.buf ptr payload
  let payload := ptr
  let ptr := ptr + p.payloadLength
  let buf ← writePadding buf ptr p.payloadPadding
  ensure (ptr + p.payloadPadding.toNat = size) "ptr - buffer == this->size"
  return { q with buf, payload }

/-- `RtpPacket::Clone` into a buffer. -/
def Packet.clone (p : Packet) (behind : UInt8) (buffer : List UInt8) : Except Fault Packet := do
  let bytes ← read p.buf 0 p.size
  let buf ← write buffer 0 bytes
  let ptr := headerSize
  let ptr := if p.csrcList.isSome then ptr + csrcCount buf * 4 else ptr
  let extensionHeader := p.extensionHeader.map fun _ => ptr
  let ptr := if p.extensionHeader.isSome then ptr + 4 + p.getExtensionHeaderLength else ptr
  let payload := ptr
  let ptr := ptr + p.payloadLength
  let buf ← writePadding buf ptr p.payloadPadding
  ensure (ptr + p.payloadPadding.toNat = p.size) "ptr - buffer == this->size"
  let packet : Packet :=
    { buf, csrcList := if csrcCount buf ≠ 0 then some headerSize else none, extensionHeader, payload
      payloadLength := p.payloadLength, payloadPadding := p.payloadPadding, size := p.size }
  let packet ← packet.parseExtensions behind
  return { packet with extensionMap := p.extensionMap }

/-! ## RTX -/

/-- The `GetSize()` bytes at `GetData()`: what `Transport::SendRtpPacket` sends. -/
def Packet.wire (p : Packet) : List UInt8 := p.buf.take p.size

/-- `RtpPacket::GetPayloadType`. -/
def Packet.getPayloadType (p : Packet) : UInt8 := p.buf.getD 1 0 &&& 0x7F

/-- `RtpPacket::HasMarker`. -/
def Packet.hasMarker (p : Packet) : Bool := 128 ≤ p.buf.getD 1 0

/-- `RtpPacket::GetSequenceNumber`. -/
def Packet.getSequenceNumber (p : Packet) : UInt16 := UInt16.ofNat (get16 p.buf 2)

/-- `RtpPacket::GetSsrc`. -/
def Packet.getSsrc (p : Packet) : UInt32 := UInt32.ofNat (be ((p.buf.drop 8).take 4))

/-- `RtpPacket::SetPayloadType`: the low seven bits of the second byte. -/
def Packet.setPayloadType (p : Packet) (payloadType : UInt8) : Except Fault Packet := do
  let b : UInt8 := p.buf.getD 1 0 &&& 0x80
  let buf ← write p.buf 1 [b ||| (payloadType &&& 0x7F)]
  return { p with buf }

/-- `RtpPacket::SetSequenceNumber`. -/
def Packet.setSequenceNumber (p : Packet) (seq : UInt16) : Except Fault Packet := do
  let buf ← write p.buf 2 (beBytes 2 seq.toNat)
  return { p with buf }

/-- `RtpPacket::SetSsrc`. -/
def Packet.setSsrc (p : Packet) (ssrc : UInt32) : Except Fault Packet := do
  let buf ← write p.buf 8 (beBytes 4 ssrc.toNat)
  return { p with buf }

/-- `RtpPacket::RtxEncode`. The padding bit of the header stays, and so does the room of the padding
in the size. -/
def Packet.rtxEncode (p : Packet) (payloadType : UInt8) (ssrc : UInt32) (seq : UInt16) :
    Except Fault Packet := do
  let p ← p.setPayloadType payloadType
  let p ← p.setSsrc ssrc
  let buf ← write p.buf (p.payload + 2) (← read p.buf p.payload p.payloadLength)
  let buf ← Byte.set2Bytes buf p.payload p.getSequenceNumber
  let p ← { p with buf }.setSequenceNumber seq
  return { p with payloadLength := p.payloadLength + 2, size := p.size + 2, payloadPadding := 0 }

/-- `RtpPacket::RtxDecode`: whether the packet is well formed. Only the pointer to the payload
moves. -/
def Packet.rtxDecode (p : Packet) (payloadType : UInt8) (ssrc : UInt32) :
    Except Fault (Bool × Packet) :=
  if p.payloadLength < 2 then .ok (false, p)
  else do
    let p ← p.setPayloadType payloadType
    let p ← p.setSsrc ssrc
    let p ← p.setSequenceNumber (← Byte.get2Bytes p.buf p.payload)
    return (true, { p with
      payload := p.payload + 2, payloadLength := p.payloadLength - 2, size := p.size - 2
      payloadPadding := 0 })

end KoreWebsocket.Rtp
