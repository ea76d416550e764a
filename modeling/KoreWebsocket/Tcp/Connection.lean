import Mathlib
import KoreWebsocket.Lib.Machine
import KoreWebsocket.Utils.Byte

/-!
# TCP connections (`TcpConnection`, `RTC::TcpConnection`, `mediasoup_1/soup`)

A connection sends each packet behind its length in two bytes. The reader has one buffer with two
indexes, the start of the frame that is not complete and the end of the data, and moves that frame to
the start of the buffer only when the buffer is full. `Link` is a connection that sends, one that
receives and the bytes between them; its events are the calls of the user and of libuv.
-/

namespace KoreWebsocket.Tcp

open Bytes Byte

/-- What `uv_try_write` returns. -/
inductive TryWrite
  | written (n : Nat)
  /-- `UV_EAGAIN` or `UV_ENOSYS` -/
  | again
  | failed
  deriving DecidableEq

/-- The `nread` of a read callback. -/
inductive Nread
  | data (n : Nat)
  /-- `UV_EOF` or `UV_ECONNRESET` -/
  | closedByPeer
  | failed
  deriving DecidableEq

/-- `class TcpConnection` with the member of `class RTC::TcpConnection`. -/
structure TcpConnection where
  bufferSize : Nat
  /-- `[]` is `nullptr` -/
  buffer : List UInt8 := []
  bufferDataLen : Nat := 0
  frameStart : Nat := 0
  isClosing : Bool := false
  isClosedByPeer : Bool := false
  hasError : Bool := false
  deriving DecidableEq

namespace TcpConnection

variable (c : TcpConnection)

/-- `TcpConnection::Destroy`. -/
def destroy : TcpConnection := { c with isClosing := true }

/-! ## Reading -/

/-- `TcpConnection::OnUvReadAlloc`: where libuv may write, and how much. The bytes of a new buffer are
not initialised. -/
def onUvReadAlloc : TcpConnection × Nat × Nat :=
  let c := if c.buffer = [] then { c with buffer := List.replicate c.bufferSize 0 } else c
  (c, c.bufferDataLen, if c.bufferSize > c.bufferDataLen then c.bufferSize - c.bufferDataLen else 0)

/-- The length of a difference, which must not wrap. -/
def dataLen : Except Fault Nat :=
  if c.frameStart ≤ c.bufferDataLen then .ok (c.bufferDataLen - c.frameStart) else .error .wraps

/-- `RTC::TcpConnection::UserOnTcpConnectionRead`, with the packets that are given to the listener, one
that does not close the connection. -/
def userOnTcpConnectionRead :
    Nat → TcpConnection → Except Fault (TcpConnection × List (List UInt8))
  | 0, _ => .error .loops
  | rounds + 1, c =>
      if c.isClosing then .ok (c, [])
      else do
        let dataLen ← c.dataLen
        let packetLen ← if dataLen ≥ 2 then UInt16.toNat <$> get2Bytes c.buffer c.frameStart else .ok 0
        if dataLen ≥ 2 ∧ dataLen ≥ 2 + packetLen then do
          let packet ← read c.buffer (c.frameStart + 2) packetLen
          let delivered := if packetLen ≠ 0 then [packet] else []
          let c :=
            if c.frameStart + 2 + packetLen = c.bufferSize then
              { c with frameStart := 0, bufferDataLen := 0 }
            else { c with frameStart := c.frameStart + 2 + packetLen }
          if c.bufferDataLen > c.frameStart then do
            let (c, more) ← userOnTcpConnectionRead rounds c
            .ok (c, delivered ++ more)
          else .ok (c, delivered)
        else if c.bufferDataLen = c.bufferSize then
          if c.frameStart ≠ 0 then do
            let frame ← read c.buffer c.frameStart (c.bufferSize - c.frameStart)
            let buffer ← write c.buffer 0 frame
            .ok ({ c with buffer, bufferDataLen := c.bufferSize - c.frameStart, frameStart := 0 }, [])
          else .ok (c.destroy, [])
        else .ok (c, [])

/-- `TcpConnection::OnUvRead`. -/
def onUvRead : Nread → Except Fault (TcpConnection × List (List UInt8))
  | .data nread =>
      if c.isClosing ∨ nread = 0 then .ok (c, [])
      else
        let c := { c with bufferDataLen := c.bufferDataLen + nread }
        c.userOnTcpConnectionRead c.bufferDataLen
  | .closedByPeer => .ok (if c.isClosing then c else { c with isClosedByPeer := true }.destroy, [])
  | .failed => .ok (if c.isClosing then c else { c with hasError := true }.destroy, [])

/-- libuv has read these bytes. -/
def uvRead (bytes : List UInt8) : Except Fault (TcpConnection × List (List UInt8)) := do
  let (c, base, _) := c.onUvReadAlloc
  let buffer ← write c.buffer base bytes
  { c with buffer }.onUvRead (.data bytes.length)

/-- The space that `OnUvReadAlloc` offers. -/
def space : Nat := c.onUvReadAlloc.2.2

/-! ## Writing -/

/-- The bytes that are given to `uv_write` when `uv_try_write` has written a part of two buffers. -/
def pending (data1 data2 : List UInt8) (written : Nat) : Except Fault (List UInt8) := do
  let pendingLen := data1.length + data2.length - written
  let store ←
    if written < data1.length then do
      let first ← read data1 written (data1.length - written)
      .ok (first ++ data2)
    else read data2 (written - data1.length) (data2.length - (written - data1.length))
  read store 0 pendingLen

/-- `TcpConnection::Write` of two buffers: the connection, and the bytes that are given to `uv_write`. -/
def write (data1 data2 : List UInt8) (tried : TryWrite) :
    Except Fault (TcpConnection × List UInt8) :=
  if c.isClosing then .ok (c, [])
  else if data1.length = 0 ∧ data2.length = 0 then .ok (c, [])
  else if tried = .written (data1.length + data2.length) then .ok (c, [])
  else
    match tried with
    | .failed => .ok (c.destroy, [])
    | .again => do
        let store ← pending data1 data2 0
        .ok (c, store)
    | .written n => do
        let store ← pending data1 data2 n
        .ok (c, store)

/-- The two bytes of the length. -/
def frameLen (data : List UInt8) : Except Fault (List UInt8) :=
  set2Bytes [0, 0] 0 (UInt16.ofNat data.length)

/-- `RTC::TcpConnection::Send`. -/
def send (data : List UInt8) (tried : TryWrite) : Except Fault (TcpConnection × List UInt8) := do
  let header ← frameLen data
  c.write header data tried

end TcpConnection

/-! ## Two connections -/

/-- A connection that sends and one that receives, the bytes that are written and not read yet, those
that wait for their turn in `uv_write`, and the packets that were sent and that were delivered. -/
structure Link where
  sender : TcpConnection
  receiver : TcpConnection
  wire : List UInt8 := []
  queued : List UInt8 := []
  sent : List (List UInt8) := []
  delivered : List (List UInt8) := []
  deriving DecidableEq

/-- A packet is sent and `uv_try_write` answers; the loop writes some of the bytes that wait; some of the
bytes on the wire are read. -/
inductive Event
  | send (data : List UInt8) (tried : TryWrite)
  | flush (n : Nat)
  | read (n : Nat)

namespace Link

variable (l : Link)

/-- Both ends have buffers of this size. -/
def start (bufferSize : Nat) : Link where
  sender := { bufferSize }
  receiver := { bufferSize }

/-- The bytes that `uv_try_write` has put on the wire. -/
def tryWritten (data : List UInt8) : TryWrite → Except Fault (List UInt8)
  | .written n => do
      let header ← TcpConnection.frameLen data
      .ok ((header ++ data).take n)
  | .again => .ok []
  | .failed => .ok []

/-- One event. -/
def handle : Event → Except Fault Link
  | .send data tried => do
      let bytes ← tryWritten data tried
      let (sender, store) ← l.sender.send data tried
      .ok { l with
        sender, wire := l.wire ++ bytes, queued := l.queued ++ store, sent := l.sent ++ [data] }
  | .flush n => .ok { l with wire := l.wire ++ l.queued.take n, queued := l.queued.drop n }
  | .read n => do
      let (receiver, packets) ← l.receiver.uvRead (l.wire.take n)
      .ok { l with receiver, wire := l.wire.drop n, delivered := l.delivered ++ packets }

/-- The packet has a length that the receiver and the length field can hold, and `uv_try_write` writes
nothing while other bytes wait and does not fail; a read is of bytes that are there and that fit the
space. -/
def Allows : Event → Prop
  | .send data tried =>
      (1 ≤ data.length ∧ data.length + 2 ≤ l.receiver.bufferSize ∧ data.length ≤ 65535) ∧
        (tried = .again ∨ ∃ n, tried = .written n ∧ n ≤ data.length + 2 ∧ l.queued = [])
  | .flush n => n ≤ l.queued.length
  | .read n => n ≤ l.wire.length ∧ n ≤ l.receiver.space

/-- The link as a machine, which stops at a fault. -/
def step (l : Link) (e : Event) : Option Link := (l.handle e).toOption

end Link

end KoreWebsocket.Tcp
