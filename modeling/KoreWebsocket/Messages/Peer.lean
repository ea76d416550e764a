import Mathlib
import KoreWebsocket.Lib.Machine

/-!
# Messages over a stream (`mmap/seq`)

A server and its clients send messages of one size over a stream socket. A peer has the messages that
wait to be sent in an array, whose last is sent first, and the message that is being sent or received,
with the number of its bytes that are done. That number is a `size_t` which is -1 when no message is
being sent.

What `send` and `recv` return is not known: `Result` lists it. `Connection` is one place of the server's
list of connections, the client at its other end and the bytes between them. The server asks `select`
whether it can write only while messages wait, and so does the client.
-/

namespace KoreWebsocket.Messages

/-- `MAX_SEND_SIZE`. -/
def maxSendSize : Nat := 100

/-- `MAX_MESSAGES_BUFFER_SIZE`. -/
def maxMessagesBufferSize : Nat := 100

/-- `SENDER_MAXSIZE` and `DATA_MAXSIZE`, of which a message is made. -/
def messageSize : Nat := 128 + 512

/-- `message_t`, by its bytes. -/
structure Message where
  bytes : List UInt8
  size : bytes.length = messageSize
  deriving DecidableEq

/-- Memory that `calloc` has cleared. -/
def Message.zero : Message := ⟨List.replicate messageSize 0, List.length_replicate⟩

/-- Bytes are written into a message. -/
def Message.write (message : Message) (pos : Nat) (chunk : List UInt8)
    (h : pos + chunk.length ≤ messageSize) : Message where
  bytes := message.bytes.take pos ++ chunk ++ message.bytes.drop (pos + chunk.length)
  size := by
    have hsize := message.size
    simp only [List.length_append, List.length_take, List.length_drop]
    omega

/-! ## The queue -/

/-- `message_queue_t`: the part of the array that is used. -/
structure MessageQueue where
  size : Nat
  data : List Message := []
  fits : data.length ≤ size := by exact Nat.zero_le _

namespace MessageQueue

/-- `create_message_queue`. -/
def create (size : Nat) : MessageQueue := { size }

/-- `enqueue`, `none` for -1. -/
def enqueue (queue : MessageQueue) (message : Message) : Option MessageQueue :=
  if h : queue.data.length = queue.size then none
  else
    some {
      size := queue.size
      data := queue.data ++ [message]
      fits := by
        rw [List.length_append, List.length_singleton]
        exact Nat.lt_of_le_of_ne queue.fits h }

/-- `dequeue`, `none` for -1: the last message. -/
def dequeue (queue : MessageQueue) : Option (Message × MessageQueue) :=
  queue.data.getLast?.map fun message =>
    (message, {
      size := queue.size
      data := queue.data.dropLast
      fits := by
        rw [List.length_dropLast]
        exact (Nat.sub_le _ _).trans queue.fits })

/-- `dequeue_all`. -/
def dequeueAll (queue : MessageQueue) : MessageQueue := { size := queue.size }

end MessageQueue

/-! ## Peers -/

/-- What `send` or `recv` returns. -/
inductive Result
  | bytes (n : Nat)
  | zero
  /-- -1 with `EAGAIN` or `EWOULDBLOCK` -/
  | wouldBlock
  /-- -1 with another `errno` -/
  | error
  deriving DecidableEq

/-- `peer_t`, without its socket and address. -/
structure Peer where
  sendBuffer : MessageQueue
  sendingBuffer : Message := Message.zero
  currentSendingByte : UInt64 := -1
  receivingBuffer : Message := Message.zero
  currentReceivingByte : UInt64 := 0

namespace Peer

variable (peer : Peer)

/-- `create_peer`. -/
def create : Peer := { sendBuffer := MessageQueue.create maxMessagesBufferSize }

/-- `peer_add_to_send`. -/
def addToSend (message : Message) : Option Peer :=
  (peer.sendBuffer.enqueue message).map fun sendBuffer => { peer with sendBuffer }

/-- The beginning of a round of `send_to_peer`: `none` when there is nothing to send. A `size_t` is never
less than 0. -/
def nextMessage : Option Peer :=
  if messageSize ≤ peer.currentSendingByte.toNat then
    peer.sendBuffer.dequeue.map fun (sendingBuffer, sendBuffer) =>
      { peer with sendingBuffer, sendBuffer, currentSendingByte := 0 }
  else some peer

/-- `len_to_send`. -/
def lenToSend : Nat := min (messageSize - peer.currentSendingByte.toNat) maxSendSize

/-- What a call of `send_to_peer` leaves, the bytes it has sent and whether it returns 0. -/
structure Sent where
  peer : Peer
  bytes : List UInt8
  ok : Bool

/-- `send_to_peer`; there must be a result for each call of `send`. -/
def sendToPeer (peer : Peer) (results : List Result) : Option Sent :=
  match peer.nextMessage with
  | none => some { peer := { peer with currentSendingByte := -1 }, bytes := [], ok := true }
  | some peer =>
      match results with
      | [] => none
      | .bytes n :: results =>
          if 0 < n ∧ n ≤ peer.lenToSend then
            let chunk := (peer.sendingBuffer.bytes.drop peer.currentSendingByte.toNat).take n
            let peer := { peer with currentSendingByte := peer.currentSendingByte + UInt64.ofNat n }
            (sendToPeer peer results).map fun sent => { sent with bytes := chunk ++ sent.bytes }
          else none
      | .zero :: _ | .wouldBlock :: _ => some { peer, bytes := [], ok := true }
      | .error :: _ => some { peer, bytes := [], ok := false }

/-- The beginning of a round of `receive_from_peer`: a whole message is handled. -/
def handleReceived : Peer × List Message :=
  if messageSize ≤ peer.currentReceivingByte.toNat then
    ({ peer with currentReceivingByte := 0 }, [peer.receivingBuffer])
  else (peer, [])

/-- `len_to_receive`. -/
def lenToReceive : Nat := min (messageSize - peer.currentReceivingByte.toNat) maxSendSize

/-- What `recv` has received is in the buffer. -/
def receive (chunk : List UInt8) (h : 0 < chunk.length ∧ chunk.length ≤ peer.lenToReceive) : Peer :=
  { peer with
    receivingBuffer := peer.receivingBuffer.write peer.currentReceivingByte.toNat chunk (by
      have hle := h.2.trans (Nat.min_le_left _ _)
      omega)
    currentReceivingByte := peer.currentReceivingByte + UInt64.ofNat chunk.length }

/-- What a call of `receive_from_peer` leaves, what is left of the bytes, the messages it has handled and
whether it returns 0. -/
structure Received where
  peer : Peer
  wire : List UInt8
  handled : List Message
  ok : Bool

/-- `receive_from_peer`; there must be a result for each call of `recv`. -/
def receiveFromPeer (peer : Peer) (wire : List UInt8) : List Result → Option Received
  | [] => none
  | result :: results =>
      let (peer, handled) := peer.handleReceived
      match result with
      | .bytes n =>
          if h : 0 < n ∧ n ≤ peer.lenToReceive ∧ n ≤ wire.length then
            let peer := peer.receive (wire.take n) (by
              rw [List.length_take_of_le h.2.2]
              exact ⟨h.1, h.2.1⟩)
            (receiveFromPeer peer (wire.drop n) results).map fun received =>
              { received with handled := handled ++ received.handled }
          else none
      | .wouldBlock => some { peer, wire, handled, ok := true }
      | .zero | .error => some { peer, wire, handled, ok := false }

/-- What `close_client_connection` does with a peer, and again `handle_new_connection`. -/
def reset : Peer :=
  { peer with
    sendBuffer := peer.sendBuffer.dequeueAll
    currentSendingByte := -1
    currentReceivingByte := 0 }

/-- `handle_new_connection`. -/
def connect : Peer := { peer with currentSendingByte := -1, currentReceivingByte := 0 }

end Peer

/-! ## A connection -/

inductive Side
  | server | client
  deriving DecidableEq

def Side.other : Side → Side
  | .server => .client
  | .client => .server

/-- One place of the server's `connection_list` and the client that is connected there. A place without a
socket is not up, nor is a client that has exited. `wires side` has the bytes that the side has sent and
that are not received. Of the present connection there is the history: the messages that a side has queued
(`added`), those it has begun to send (`begun`), and those of it that the other side has handled. -/
structure Connection where
  peers : Side → Peer := fun _ => Peer.create
  up : Side → Bool := fun _ => false
  wires : Side → List UInt8 := fun _ => []
  added : Side → List Message := fun _ => []
  begun : Side → List Message := fun _ => []
  handled : Side → List Message := fun _ => []

namespace Connection

variable (c : Connection)

/-- A failed call: the server closes the connection, and the client exits. -/
def close (side : Side) : Connection :=
  { c with
    up := Function.update c.up side false
    peers :=
      match side with
      | .server => Function.update c.peers .server (c.peers .server).reset
      | .client => c.peers }

/-- `handle_new_connection` for this place, and a new client. -/
def connect : Option Connection :=
  if c.up .server ∨ c.up .client then none
  else
    some {
      peers := fun
        | .server => (c.peers .server).connect
        | .client => Peer.create
      up := fun _ => true }

/-- A side queues a message: one that finds no place is lost. -/
def add (side : Side) (message : Message) : Option Connection :=
  if c.up side then
    match (c.peers side).addToSend message with
    | none => some c
    | some peer => some { c with
        peers := Function.update c.peers side peer
        added := Function.update c.added side (c.added side ++ [message]) }
  else none

/-- `build_fd_sets`: whether `select` is asked when the side can write. -/
def watched (side : Side) : Bool := c.up side && !(c.peers side).sendBuffer.data.isEmpty

/-- `send_to_peer` when `select` has found that the side can write. -/
def send (side : Side) (results : List Result) : Option Connection :=
  if c.watched side then
    ((c.peers side).sendToPeer results).map fun sent =>
      let taken := (c.peers side).sendBuffer.data.drop sent.peer.sendBuffer.data.length
      let c := { c with
        peers := Function.update c.peers side sent.peer
        wires := Function.update c.wires side (c.wires side ++ sent.bytes)
        begun := Function.update c.begun side (c.begun side ++ taken.reverse) }
      if sent.ok then c else c.close side
  else none

/-- `receive_from_peer` of a side, with bytes of the other. -/
def receive (side : Side) (results : List Result) : Option Connection :=
  if c.up side then
    ((c.peers side).receiveFromPeer (c.wires side.other) results).map fun received =>
      let c := { c with
        peers := Function.update c.peers side received.peer
        wires := Function.update c.wires side.other received.wire
        handled := Function.update c.handled side.other (c.handled side.other ++ received.handled) }
      if received.ok then c else c.close side
  else none

end Connection

/-- What the two programs do. A side also closes for reasons of its own: an exception on its socket, or the
end of the client. -/
inductive Event
  | connect
  | close (side : Side)
  | add (side : Side) (message : Message)
  | send (side : Side) (results : List Result)
  | receive (side : Side) (results : List Result)

def step (c : Connection) : Event → Option Connection
  | .connect => c.connect
  | .close side => if c.up side then some (c.close side) else none
  | .add side message => c.add side message
  | .send side results => c.send side results
  | .receive side results => c.receive side results

end KoreWebsocket.Messages
