import KoreWebsocket.Lib.Frames
import KoreWebsocket.Messages.Peer

/-!
# What arrives of the messages (`mmap/seq`)

`sendToPeer_spec` and `receiveFromPeer_spec` say of one call which bytes it moves. `Flow` is the invariant
of one direction of a connection: the bytes of the messages that were begun are those of the handled
messages, then those in the buffer of the receiver, those on the wire and those that are not yet sent.
So messages arrive whole and in the order in which they were begun, each once (`messages_arrive`). That is
not the order in which they were queued, since the queue is a stack.

What is left of a message when a call of `send_to_peer` returns is sent by a later call, if there is one:
`select` is asked only while other messages wait. With an empty queue the message stays as it is until
another one is queued (`unfinished_message_stays`).
-/

namespace KoreWebsocket.Messages

open Machine

/-- The other side of the other side. -/
theorem Side.other_other (side : Side) : side.other.other = side := by cases side <;> rfl

/-- A side is not its other side. -/
theorem Side.other_ne (side : Side) : side.other ≠ side := by cases side <;> decide

/-- There are no other sides than these two. -/
theorem Side.eq_or_eq_other (side x : Side) : x = side ∨ x = side.other := by
  cases side <;> cases x <;> simp [Side.other]

/-- The bytes of messages. -/
abbrev stream (messages : List Message) : List UInt8 := messages.flatMap Message.bytes

/-- Messages with the same bytes are the same. -/
theorem Message.bytes_injective : Function.Injective Message.bytes := fun a b h => by
  cases a
  cases b
  cases h
  rfl

/-! ## One call -/

namespace Peer

variable (peer : Peer)

/-- What is not sent of the message that is being sent. -/
def unsent : List UInt8 := peer.sendingBuffer.bytes.drop peer.currentSendingByte.toNat

/-- What has been received of the message that is being received. -/
def received : List UInt8 := peer.receivingBuffer.bytes.take peer.currentReceivingByte.toNat

/-- The number of the bytes that are sent is -1 or one within the message. -/
def Cursor : Prop := peer.currentSendingByte = -1 ∨ peer.currentSendingByte.toNat ≤ messageSize

/-- The two peers are receiving the same. -/
structure SameReceiving (peer' : Peer) : Prop where
  buffer : peer'.receivingBuffer = peer.receivingBuffer
  current : peer'.currentReceivingByte = peer.currentReceivingByte

/-- The two peers are sending the same. -/
structure SameSending (peer' : Peer) : Prop where
  queue : peer'.sendBuffer = peer.sendBuffer
  buffer : peer'.sendingBuffer = peer.sendingBuffer
  current : peer'.currentSendingByte = peer.currentSendingByte

variable {peer}

/-- Behind the last byte nothing is left to send. -/
theorem unsent_eq_nil (h : messageSize ≤ peer.currentSendingByte.toNat) : peer.unsent = [] :=
  List.drop_eq_nil_of_le (peer.sendingBuffer.size.le.trans h)

/-- What is left to send is what the position leaves of the message. -/
theorem length_unsent : peer.unsent.length = messageSize - peer.currentSendingByte.toNat := by
  rw [unsent, List.length_drop, peer.sendingBuffer.size]

/-- The positions within a message do not wrap. -/
theorem toNat_add {a : UInt64} {n : Nat} (h : a.toNat + n ≤ messageSize) :
    (a + UInt64.ofNat n).toNat = a.toNat + n := by
  have hlt : a.toNat + n < 2 ^ 64 := h.trans_lt (by decide)
  rw [UInt64.toNat_add, UInt64.toNat_ofNat_of_lt' (by change n < 2 ^ 64; omega), Nat.mod_eq_of_lt hlt]

/-- `dequeue` takes the last message, if there is one. -/
theorem dequeue_cases (queue : MessageQueue) :
    (queue.dequeue = none ∧ queue.data = []) ∨
      ∃ message rest, queue.dequeue = some (message, rest) ∧ queue.data = rest.data ++ [message] := by
  unfold MessageQueue.dequeue
  cases hlast : queue.data.getLast? with
  | none => exact .inl ⟨rfl, List.getLast?_eq_none_iff.1 hlast⟩
  | some message =>
      refine .inr ⟨message, _, rfl, ?_⟩
      exact (List.dropLast_append_getLast? message hlast).symm

/-- The beginning of a round of `send_to_peer`. -/
theorem nextMessage_cases (peer : Peer) :
    (peer.nextMessage = none ∧ peer.sendBuffer.data = [] ∧
      messageSize ≤ peer.currentSendingByte.toNat) ∨
    (∃ next message, peer.nextMessage = some next ∧ messageSize ≤ peer.currentSendingByte.toNat ∧
      peer.sendBuffer.data = next.sendBuffer.data ++ [message] ∧ next.unsent = message.bytes ∧
      next.currentSendingByte.toNat < messageSize ∧ peer.SameReceiving next) ∨
    (peer.nextMessage = some peer ∧ peer.currentSendingByte.toNat < messageSize) := by
  unfold nextMessage
  split
  case isTrue hdone =>
    rcases dequeue_cases peer.sendBuffer with ⟨hnone, hempty⟩ | ⟨message, rest, hsome, hsplit⟩
    · rw [hnone]
      exact .inl ⟨rfl, hempty, hdone⟩
    · rw [hsome]
      have hzero : (0 : UInt64).toNat < messageSize := by decide
      exact .inr (.inl ⟨_, message, rfl, hdone, hsplit, List.drop_zero, hzero, rfl, rfl⟩)
  case isFalse hless => exact .inr (.inr ⟨rfl, Nat.lt_of_not_le hless⟩)

/-- What a call of `send_to_peer` has done: the messages it has begun, the bytes it has sent, and what is
left. If it returns 0 all is sent, or a message is left in the middle. -/
structure Sends (peer : Peer) (begun : List Message) (sent : Sent) : Prop where
  queue : peer.sendBuffer.data = sent.peer.sendBuffer.data ++ begun.reverse
  bytes : peer.unsent ++ stream begun = sent.bytes ++ sent.peer.unsent
  cursor : sent.peer.Cursor
  same : peer.SameReceiving sent.peer
  left : sent.ok = true →
    (sent.peer.sendBuffer.data = [] ∧ sent.peer.unsent = []) ∨
      sent.peer.currentSendingByte.toNat < messageSize

/-- The call ends without sending. -/
theorem Sends.nil {sent : Sent} (hpeer : sent.peer = peer) (hbytes : sent.bytes = [])
    (hless : peer.currentSendingByte.toNat < messageSize) : peer.Sends [] sent where
  queue := by rw [hpeer, List.reverse_nil, List.append_nil]
  bytes := by rw [hpeer, hbytes, stream, List.flatMap_nil, List.append_nil, List.nil_append]
  cursor := by rw [hpeer]; exact .inr hless.le
  same := by rw [hpeer]; exact ⟨rfl, rfl⟩
  left _ := by rw [hpeer]; exact .inr hless

/-- Some bytes have been sent before. -/
theorem Sends.cons {next : Peer} {begun : List Message} {sent : Sent} {chunk : List UInt8}
    (h : next.Sends begun sent) (hqueue : peer.sendBuffer = next.sendBuffer)
    (hsame : peer.SameReceiving next) (hunsent : peer.unsent = chunk ++ next.unsent) :
    peer.Sends begun { sent with bytes := chunk ++ sent.bytes } where
  queue := by rw [hqueue]; exact h.queue
  bytes := by rw [hunsent, List.append_assoc, h.bytes, List.append_assoc]
  cursor := h.cursor
  same := ⟨h.same.buffer.trans hsame.buffer, h.same.current.trans hsame.current⟩
  left := h.left

/-- A message has been taken from the queue before. -/
theorem Sends.take {next : Peer} {begun : List Message} {sent : Sent} {message : Message}
    (h : next.Sends begun sent) (hdone : peer.unsent = [])
    (hqueue : peer.sendBuffer.data = next.sendBuffer.data ++ [message]) (hsame : peer.SameReceiving next)
    (hunsent : next.unsent = message.bytes) : peer.Sends (message :: begun) sent where
  queue := by rw [hqueue, h.queue, List.reverse_cons, List.append_assoc]
  bytes := by
    rw [hdone, stream, List.flatMap_cons, ← hunsent]
    exact h.bytes
  cursor := h.cursor
  same := ⟨h.same.buffer.trans hsame.buffer, h.same.current.trans hsame.current⟩
  left := h.left

/-- What a call does after the beginning of its first round, it does from there. -/
theorem nextMessage_sends (peer : Peer) :
    (peer.nextMessage = none ∧ peer.sendBuffer.data = [] ∧
      messageSize ≤ peer.currentSendingByte.toNat) ∨
    ∃ next, peer.nextMessage = some next ∧ next.currentSendingByte.toNat < messageSize ∧
      ∀ begun sent, next.Sends begun sent → ∃ begun', peer.Sends begun' sent := by
  rcases peer.nextMessage_cases with hnone | ⟨next, message, hnext, hdone, hqueue, hunsent, hless, hsame⟩ |
    ⟨hnext, hless⟩
  · exact .inl hnone
  · refine .inr ⟨next, hnext, hless, fun begun sent h => ⟨message :: begun, ?_⟩⟩
    exact h.take (unsent_eq_nil hdone) hqueue hsame hunsent
  · exact .inr ⟨peer, hnext, hless, fun begun sent h => ⟨begun, h⟩⟩

/-- There is nothing to send. -/
theorem sends_nothing (hqueue : peer.sendBuffer.data = [])
    (hdone : messageSize ≤ peer.currentSendingByte.toNat) :
    peer.Sends [] { peer := { peer with currentSendingByte := -1 }, bytes := [], ok := true } := by
  have hunsent : unsent { peer with currentSendingByte := -1 } = [] :=
    unsent_eq_nil (show messageSize ≤ (-1 : UInt64).toNat by decide)
  exact {
    queue := (List.append_nil _).symm
    bytes := by rw [unsent_eq_nil hdone, hunsent, stream, List.flatMap_nil]
    cursor := .inl rfl
    same := ⟨rfl, rfl⟩
    left := fun _ => .inl ⟨hqueue, hunsent⟩ }

/-- **One call of `send_to_peer`.** -/
theorem sendToPeer_spec {peer : Peer} {results : List Result} {sent : Sent}
    (h : peer.sendToPeer results = some sent) : ∃ begun, peer.Sends begun sent := by
  induction results generalizing peer sent with
  | nil =>
      unfold sendToPeer at h
      rcases peer.nextMessage_sends with ⟨hnone, hqueue, hdone⟩ | ⟨next, hnext, -, -⟩
      · rw [hnone] at h
        cases h
        exact ⟨[], sends_nothing hqueue hdone⟩
      · rw [hnext] at h
        cases h
  | cons result results ih =>
      unfold sendToPeer at h
      rcases peer.nextMessage_sends with ⟨hnone, hqueue, hdone⟩ | ⟨next, hnext, hless, hfrom⟩
      · rw [hnone] at h
        cases h
        exact ⟨[], sends_nothing hqueue hdone⟩
      · rw [hnext] at h
        cases result with
        | bytes n =>
            obtain ⟨⟨hpos, hle⟩, h⟩ := Option.ite_none_right_eq_some.1 h
            obtain ⟨sent', hsent', rfl⟩ := Option.map_eq_some_iff.1 h
            obtain ⟨begun, hbegun⟩ := ih hsent'
            refine hfrom begun _ (hbegun.cons rfl ⟨rfl, rfl⟩ ?_)
            have hcursor : (next.currentSendingByte + UInt64.ofNat n).toNat =
                next.currentSendingByte.toNat + n := by
              refine toNat_add ?_
              have hn := hle.trans (Nat.min_le_left _ _)
              omega
            rw [unsent, unsent, hcursor, ← List.drop_drop]
            exact (List.take_append_drop n _).symm
        | zero =>
            cases h
            exact hfrom [] _ (.nil rfl rfl hless)
        | wouldBlock =>
            cases h
            exact hfrom [] _ (.nil rfl rfl hless)
        | error =>
            cases h
            exact hfrom [] _ (.nil rfl rfl hless)

/-- What a call of `receive_from_peer` has done: the bytes that it had and took are those of the messages
it has handled, those in its buffer and those that are left. -/
structure Receives (peer : Peer) (wire : List UInt8) (received : Received) : Prop where
  bytes : peer.received ++ wire = stream received.handled ++ (received.peer.received ++ received.wire)
  fits : received.peer.currentReceivingByte.toNat < messageSize
  same : peer.SameSending received.peer

/-- What has been received is no longer than the position says. -/
theorem length_received_le : peer.received.length ≤ peer.currentReceivingByte.toNat := by
  rw [Peer.received, List.length_take]
  exact Nat.min_le_left _ _

/-- The beginning of a round of `receive_from_peer`. -/
theorem handleReceived_spec (peer : Peer) :
    peer.received = stream peer.handleReceived.2 ++ peer.handleReceived.1.received ∧
      peer.handleReceived.1.currentReceivingByte.toNat < messageSize ∧
      peer.SameSending peer.handleReceived.1 := by
  unfold handleReceived
  split
  case isTrue hwhole =>
    refine ⟨?_, show (0 : UInt64).toNat < messageSize by decide, rfl, rfl, rfl⟩
    have hall : peer.received = peer.receivingBuffer.bytes :=
      List.take_of_length_le (peer.receivingBuffer.size.le.trans hwhole)
    change _ = stream [peer.receivingBuffer] ++ peer.receivingBuffer.bytes.take 0
    rw [hall, List.take_zero, List.append_nil, stream, List.flatMap_singleton]
  case isFalse hless => exact ⟨rfl, Nat.lt_of_not_le hless, rfl, rfl, rfl⟩

/-- Bytes are received behind those that have been received. -/
theorem received_receive {chunk : List UInt8} (hc : 0 < chunk.length ∧ chunk.length ≤ peer.lenToReceive) :
    (peer.receive chunk hc).received = peer.received ++ chunk ∧
      peer.SameSending (peer.receive chunk hc) := by
  have hle := hc.2.trans (Nat.min_le_left _ _)
  have hpos : peer.currentReceivingByte.toNat + chunk.length ≤ messageSize := by omega
  have hcursor : (peer.receive chunk hc).currentReceivingByte.toNat =
      peer.currentReceivingByte.toNat + chunk.length := toNat_add hpos
  refine ⟨?_, rfl, rfl, rfl⟩
  rw [Peer.received, hcursor]
  change List.take _ (peer.receivingBuffer.bytes.take _ ++ chunk ++ _) = _
  have hlen : (peer.receivingBuffer.bytes.take peer.currentReceivingByte.toNat ++ chunk).length =
      peer.currentReceivingByte.toNat + chunk.length := by
    rw [List.length_append, List.length_take, peer.receivingBuffer.size, Nat.min_eq_left (by omega)]
  rw [← hlen, List.take_left']
  · rfl
  · rfl

/-- **One call of `receive_from_peer`.** -/
theorem receiveFromPeer_spec {peer : Peer} {wire : List UInt8} {results : List Result}
    {received : Received} (h : peer.receiveFromPeer wire results = some received) :
    peer.Receives wire received := by
  induction results generalizing peer wire received with
  | nil => cases h
  | cons result results ih =>
      obtain ⟨hhandled, hless, hsame⟩ := handleReceived_spec peer
      have hend : ∀ ok, peer.Receives wire
          { peer := peer.handleReceived.1, wire, handled := peer.handleReceived.2, ok } := fun ok =>
        { bytes := by rw [hhandled, List.append_assoc], fits := hless, same := hsame }
      unfold receiveFromPeer at h
      cases result with
      | bytes n =>
          dsimp only at h
          split at h
          case isFalse => cases h
          case isTrue hn =>
            obtain ⟨received', hreceived', rfl⟩ := Option.map_eq_some_iff.1 h
            have hchunk : 0 < (wire.take n).length ∧
                (wire.take n).length ≤ peer.handleReceived.1.lenToReceive := by
              rw [List.length_take_of_le hn.2.2]
              exact ⟨hn.1, hn.2.1⟩
            obtain ⟨hbytes, hkept⟩ := received_receive hchunk
            have hrest := ih hreceived'
            exact {
              bytes := by
                have hstream := hrest.bytes
                rw [hbytes] at hstream
                rw [hhandled, stream, stream, List.flatMap_append, List.append_assoc, List.append_assoc,
                  ← hstream, List.append_assoc, List.take_append_drop]
              fits := hrest.fits
              same := {
                queue := hrest.same.queue.trans (hkept.queue.trans hsame.queue)
                buffer := hrest.same.buffer.trans (hkept.buffer.trans hsame.buffer)
                current := hrest.same.current.trans (hkept.current.trans hsame.current) } }
      | zero =>
          cases h
          exact hend false
      | wouldBlock =>
          cases h
          exact hend true
      | error =>
          cases h
          exact hend false

/-- Who receives the same has received the same. -/
theorem SameReceiving.received_eq {peer' : Peer} (h : peer.SameReceiving peer') :
    peer'.received = peer.received := by
  rw [Peer.received, Peer.received, h.buffer, h.current]

/-- Who sends the same has the same left to send. -/
theorem SameSending.unsent_eq {peer' : Peer} (h : peer.SameSending peer') :
    peer'.unsent = peer.unsent := by
  rw [unsent, unsent, h.buffer, h.current]

/-- The position is within the message, as before. -/
theorem SameSending.cursor {peer' : Peer} (h : peer.SameSending peer') (hc : peer.Cursor) :
    peer'.Cursor := by
  rw [Cursor, h.current]
  exact hc

/-- A peer that has not sent anything. -/
theorem unsent_of_current (h : peer.currentSendingByte = -1) : peer.unsent = [] := by
  refine unsent_eq_nil ?_
  rw [h]
  decide

/-- A peer that has not received anything. -/
theorem received_of_current (h : peer.currentReceivingByte = 0) : peer.received = [] := by
  rw [Peer.received, h]
  rfl

end Peer

/-! ## One direction -/

/-- What of a connection concerns the messages that one side sends: that side and the other, and what is
between them. -/
structure Direction where
  upS : Bool
  upR : Bool
  sender : Peer
  receiver : Peer
  wire : List UInt8
  added : List Message
  begun : List Message
  handled : List Message

/-- The direction in which a side sends. -/
def Connection.direction (c : Connection) (side : Side) : Direction where
  upS := c.up side
  upR := c.up side.other
  sender := c.peers side
  receiver := c.peers side.other
  wire := c.wires side
  added := c.added side
  begun := c.begun side
  handled := c.handled side

namespace Direction

/-- Nothing has been sent or queued. -/
structure Fresh (d : Direction) : Prop where
  sender : d.sender.currentSendingByte = -1
  queue : d.sender.sendBuffer.data = []
  receiver : d.receiver.currentReceivingByte = 0
  wire : d.wire = []
  added : d.added = []
  begun : d.begun = []
  handled : d.handled = []

/-- A message is queued. -/
structure Adds (message : Message) (d d' : Direction) : Prop where
  up : d.upS = true
  queue : d'.sender.sendBuffer.data = d.sender.sendBuffer.data ++ [message]
  current : d'.sender.currentSendingByte = d.sender.currentSendingByte
  buffer : d'.sender.sendingBuffer = d.sender.sendingBuffer
  eq : d' = { d with sender := d'.sender, added := d.added ++ [message] }

/-- What else happens to a direction. -/
inductive Move : Direction → Direction → Prop
  | send {d : Direction} {more : List Message} {sent : Peer.Sent} (up : d.upS = true)
      (queue : d.sender.sendBuffer.data ≠ []) (sends : d.sender.Sends more sent) :
      Move d { d with sender := sent.peer, wire := d.wire ++ sent.bytes, begun := d.begun ++ more }
  | receive {d : Direction} {received : Peer.Received} (up : d.upR = true)
      (receives : d.receiver.Receives d.wire received) :
      Move d { d with
        receiver := received.peer
        wire := received.wire
        handled := d.handled ++ received.handled }
  | sender {d : Direction} (sender : Peer) (same : d.sender.SameSending sender) :
      Move d { d with sender }
  | receiver {d : Direction} (receiver : Peer) (same : d.receiver.SameReceiving receiver) :
      Move d { d with receiver }
  | closeSender {d : Direction} (sender : Peer) (left : sender = d.sender ∨ sender = d.sender.reset) :
      Move d { d with upS := false, sender }
  | closeReceiver {d : Direction} (receiver : Peer)
      (left : receiver = d.receiver ∨ receiver = d.receiver.reset) :
      Move d { d with upR := false, receiver }

/-- While both sides are up no byte is lost: those of the messages that were begun are handled, in the
buffer of the receiver, on the wire or not yet sent. What a side that closes still had of them is missing
from then on. -/
structure Flow (d : Direction) : Prop where
  cursor : d.sender.Cursor
  fits : d.receiver.currentReceivingByte.toNat < messageSize
  arrives : stream d.handled <+: stream d.begun
  pending : d.upR = true → stream d.handled ++ (d.receiver.received ++ d.wire) <+: stream d.begun
  complete : d.upR = true → d.upS = true →
    stream d.begun = stream d.handled ++ (d.receiver.received ++ d.wire) ++ d.sender.unsent
  unsent : d.upS = true →
    (stream d.handled).length + d.sender.unsent.length ≤ (stream d.begun).length
  queue : d.upS = true → List.Perm d.added (d.begun ++ d.sender.sendBuffer.data)
  subperm : List.Subperm d.begun d.added

variable {d d' : Direction}

/-- Of a direction that begins nothing has been lost. -/
theorem Fresh.flow (h : d.Fresh) : d.Flow := by
  have hreceived := Peer.received_of_current h.receiver
  have hunsent := Peer.unsent_of_current h.sender
  exact {
    cursor := .inl h.sender
    fits := by rw [h.receiver]; decide
    arrives := by rw [h.handled, h.begun]
    pending := fun _ => by rw [hreceived, h.handled, h.wire, h.begun]; exact List.prefix_rfl
    complete := fun _ _ => by rw [hreceived, hunsent, h.handled, h.wire, h.begun]; rfl
    unsent := fun _ => by rw [hunsent, h.handled, h.begun]; exact Nat.le_refl _
    queue := fun _ => by rw [h.added, h.begun, h.queue]; exact .refl _
    subperm := by rw [h.begun]; exact List.nil_subperm }

/-- A message that is queued is not begun yet. -/
theorem Flow.adds {message : Message} (h : d.Flow) (hadds : Adds message d d') : d'.Flow := by
  have hunsent : d'.sender.unsent = d.sender.unsent := by
    rw [Peer.unsent, Peer.unsent, hadds.buffer, hadds.current]
  have hcursor : d'.sender.Cursor := by
    rw [Peer.Cursor, hadds.current]
    exact h.cursor
  rw [hadds.eq]
  exact {
    cursor := hcursor
    fits := h.fits
    arrives := h.arrives
    pending := h.pending
    complete := fun hR hS => by rw [hunsent]; exact h.complete hR hS
    unsent := fun hS => by rw [hunsent]; exact h.unsent hS
    queue := fun hS => by
      rw [hadds.queue, ← List.append_assoc]
      exact (h.queue hS).append_right _
    subperm := h.subperm.trans (List.sublist_append_left _ _).subperm }

/-- The bytes that are sent move from the sender to the wire. -/
theorem Flow.send {more : List Message} {sent : Peer.Sent} (h : d.Flow) (hup : d.upS = true)
    (hsends : d.sender.Sends more sent) :
    Flow { d with sender := sent.peer, wire := d.wire ++ sent.bytes, begun := d.begun ++ more } := by
  have hperm : List.Perm d.added (d.begun ++ more ++ sent.peer.sendBuffer.data) := by
    refine (h.queue hup).trans ?_
    rw [hsends.queue, List.append_assoc]
    refine List.Perm.append_left d.begun ?_
    exact List.perm_append_comm.trans ((List.reverse_perm more).append_right _)
  have hmore : stream (d.begun ++ more) = stream d.begun ++ stream more := List.flatMap_append
  have hcomplete : d.upR = true → stream (d.begun ++ more) =
      stream d.handled ++ (d.receiver.received ++ (d.wire ++ sent.bytes)) ++ sent.peer.unsent := by
    intro hR
    rw [hmore, h.complete hR hup]
    simp only [List.append_assoc, hsends.bytes]
  have hunsent : (stream d.handled).length + sent.peer.unsent.length ≤
      (stream (d.begun ++ more)).length := by
    have hbefore := h.unsent hup
    have hbytes := congrArg List.length hsends.bytes
    rw [List.length_append, List.length_append] at hbytes
    rw [hmore, List.length_append]
    omega
  exact {
    cursor := hsends.cursor
    fits := h.fits
    arrives := h.arrives.trans (by rw [hmore]; exact List.prefix_append _ _)
    pending := fun hR => ⟨_, (hcomplete hR).symm⟩
    complete := fun hR _ => hcomplete hR
    unsent := fun _ => hunsent
    queue := fun _ => hperm
    subperm := (List.sublist_append_left _ _).subperm.trans hperm.symm.subperm }

/-- A call of `receive_from_peer` moves bytes from the wire to the messages that are handled. -/
theorem received_bytes {received : Peer.Received} (h : d.receiver.Receives d.wire received) :
    stream (d.handled ++ received.handled) ++ (received.peer.received ++ received.wire) =
      stream d.handled ++ (d.receiver.received ++ d.wire) := by
  rw [stream, stream, List.flatMap_append, List.append_assoc, h.bytes]

/-- The bytes that are received move from the wire to the buffer and to the messages that are handled. -/
theorem Flow.receive {received : Peer.Received} (h : d.Flow) (hup : d.upR = true)
    (hreceives : d.receiver.Receives d.wire received) :
    Flow { d with
      receiver := received.peer
      wire := received.wire
      handled := d.handled ++ received.handled } := by
  have hbytes := received_bytes hreceives
  have hpending := h.pending hup
  rw [← hbytes] at hpending
  have hcomplete : d.upS = true → stream d.begun = stream (d.handled ++ received.handled) ++
      (received.peer.received ++ received.wire) ++ d.sender.unsent :=
    fun hS => hbytes ▸ h.complete hup hS
  exact {
    cursor := h.cursor
    fits := hreceives.fits
    arrives := (List.prefix_append _ _).trans hpending
    pending := fun _ => hpending
    complete := fun _ => hcomplete
    unsent := fun hS => by
      dsimp only
      rw [hcomplete hS, List.length_append, List.length_append]
      omega
    queue := h.queue
    subperm := h.subperm }

/-- **A move keeps the flow.** -/
theorem Flow.move (h : d.Flow) (hmove : Move d d') : d'.Flow := by
  cases hmove with
  | send up _ sends => exact h.send up sends
  | receive up receives => exact h.receive up receives
  | sender _ same =>
      exact { h with
        cursor := same.cursor h.cursor
        complete := fun hR hS => by rw [same.unsent_eq]; exact h.complete hR hS
        unsent := fun hS => by rw [same.unsent_eq]; exact h.unsent hS
        queue := fun hS => by rw [same.queue]; exact h.queue hS }
  | receiver _ same =>
      exact { h with
        fits := same.current ▸ h.fits
        pending := fun hR => by rw [same.received_eq]; exact h.pending hR
        complete := fun hR hS => by rw [same.received_eq]; exact h.complete hR hS }
  | closeSender _ left =>
      refine { h with cursor := ?_, complete := nofun, unsent := nofun, queue := nofun }
      rcases left with rfl | rfl
      · exact h.cursor
      · exact .inl rfl
  | closeReceiver _ left =>
      refine { h with fits := ?_, pending := nofun, complete := nofun }
      rcases left with rfl | rfl
      · exact h.fits
      · exact show (0 : UInt64).toNat < messageSize by decide

/-- What is handled is a first part of what was begun, because messages have one size. -/
theorem Flow.handled_prefix (h : d.Flow) : d.handled <+: d.begun :=
  Frames.prefix_of_flatMap Message.size (by decide) Message.bytes_injective h.arrives

/-- Both sides are up, and nothing waits or is on its way. -/
structure Drained (d : Direction) : Prop where
  sender : d.upS = true
  receiver : d.upR = true
  queue : d.sender.sendBuffer.data = []
  unsent : d.sender.unsent = []
  wire : d.wire = []

/-- What is handled is all that was begun when nothing is on its way. -/
theorem Flow.handled_eq (h : d.Flow) (hd : d.Drained) : d.handled = d.begun := by
  have hrest : d.receiver.received.length < messageSize := Peer.length_received_le.trans_lt h.fits
  refine Frames.eq_of_flatMap_append Message.size Message.bytes_injective ?_ hrest
  have hcomplete := h.complete hd.receiver hd.sender
  rwa [hd.wire, hd.unsent, List.append_nil, List.append_nil] at hcomplete

/-- The messages that were begun, and those that wait in the order in which they are begun. -/
def order (d : Direction) : List Message := d.begun ++ d.sender.sendBuffer.data.reverse

/-- A move does not change the order. A side that is down has no order. -/
theorem Move.order_eq (h : Move d d') : d'.upS = true → d.upS = true ∧ d'.order = d.order := by
  cases h with
  | send up _ sends =>
      refine fun _ => ⟨up, ?_⟩
      rw [order, order, sends.queue, List.reverse_append, List.reverse_reverse, List.append_assoc]
  | receive => exact fun hS => ⟨hS, rfl⟩
  | sender _ same => exact fun hS => ⟨hS, by rw [order, order, same.queue]⟩
  | receiver => exact fun hS => ⟨hS, rfl⟩
  | closeSender => exact nofun
  | closeReceiver => exact fun hS => ⟨hS, rfl⟩

/-- No other message waits behind one that is sent in part. `messages` were begun, and `rest` is what is
not sent of the last. -/
structure Stuck (messages : List Message) (rest : List UInt8) (d : Direction) : Prop where
  begun : d.begun = messages
  sender : d.upS = true → d.sender.sendBuffer.data = [] ∧ d.sender.unsent = rest
  receiver : d.upR = true →
    stream messages = stream d.handled ++ (d.receiver.received ++ d.wire) ++ rest
  less : d.handled.length < messages.length

/-- The messages have one size. -/
theorem length_stream (messages : List Message) :
    (stream messages).length = messageSize * messages.length :=
  Frames.length_flatMap Message.size messages

/-- Fewer messages are handled than were begun while bytes are left. -/
theorem length_lt_of_stream_le {handled messages : List Message} {rest : List UInt8} (hrest : rest ≠ [])
    (h : (stream handled).length + rest.length ≤ (stream messages).length) :
    handled.length < messages.length := by
  have hpos := List.length_pos_iff.2 hrest
  rw [length_stream, length_stream] at h
  exact Nat.lt_of_mul_lt_mul_left (a := messageSize) (by omega)

/-- **No move sends the rest of the message.** -/
theorem Stuck.move {messages : List Message} {rest : List UInt8} (hrest : rest ≠ [])
    (h : Stuck messages rest d) (hmove : Move d d') : Stuck messages rest d' := by
  cases hmove with
  | send up queue _ => exact absurd (h.sender up).1 queue
  | receive up receives =>
      have hbytes := (h.receiver up).trans (congrArg (· ++ rest) (received_bytes receives).symm)
      refine { h with receiver := fun _ => hbytes, less := length_lt_of_stream_le hrest ?_ }
      dsimp only
      rw [hbytes, List.length_append, List.length_append]
      omega
  | sender _ same =>
      exact { h with sender := fun hS => by rw [same.queue, same.unsent_eq]; exact h.sender hS }
  | receiver _ same =>
      exact { h with receiver := fun hR => by rw [same.received_eq]; exact h.receiver hR }
  | closeSender => exact { h with sender := nofun }
  | closeReceiver => exact { h with receiver := nofun }

end Direction

/-! ## What a step does with a direction -/

namespace Connection

variable {c c' : Connection} {side : Side}

/-- A change of one side is not seen on the other. -/
theorem update_other {α : Type} (f : Side → α) (a : α) : Function.update f side a side.other = f side.other :=
  Function.update_of_ne side.other_ne a f

/-- What is left of a side that closes. -/
theorem close_peers (c : Connection) (side : Side) :
    (c.close side).peers side.other = c.peers side.other ∧
      ((c.close side).peers side = c.peers side ∨ (c.close side).peers side = (c.peers side).reset) := by
  cases side with
  | server => simp [close, Side.other]
  | client => exact ⟨rfl, .inl rfl⟩

/-- A side that closes, seen as the sender. -/
theorem close_sender (c : Connection) (side : Side) :
    Direction.Move (c.direction side) ((c.close side).direction side) := by
  obtain ⟨hother, hself⟩ := c.close_peers side
  have hup : (c.close side).up side = false := Function.update_self _ _ _
  have hupOther : (c.close side).up side.other = c.up side.other := update_other _ _
  have hmove := Direction.Move.closeSender (d := c.direction side) _ hself
  rwa [show (c.close side).direction side =
    { c.direction side with upS := false, sender := (c.close side).peers side } by
      rw [direction, hother, hup, hupOther]
      rfl]

/-- A side that closes, seen as the receiver. -/
theorem close_receiver (c : Connection) (side : Side) :
    Direction.Move (c.direction side.other) ((c.close side).direction side.other) := by
  obtain ⟨hother, hself⟩ := c.close_peers side
  have hup : (c.close side).up side = false := Function.update_self _ _ _
  have hupOther : (c.close side).up side.other = c.up side.other := update_other _ _
  have hmove := Direction.Move.closeReceiver (d := c.direction side.other)
    ((c.close side).peers side) (by rw [direction, side.other_other]; exact hself)
  rwa [show (c.close side).direction side.other =
    { c.direction side.other with upR := false, receiver := (c.close side).peers side } by
      rw [direction, side.other_other, hother, hup, hupOther]
      rfl]

/-- A side that closes moves both directions. -/
theorem close_moves (c : Connection) (x side : Side) :
    Direction.Move (c.direction side) ((c.close x).direction side) := by
  rcases Side.eq_or_eq_other x side with rfl | rfl
  · exact c.close_sender side
  · exact c.close_receiver x

/-- A call of a side is a move, and so is what follows if the call fails. -/
theorem moves_of_ok {d : Direction} {ok : Bool} {x : Side} (h : Direction.Move d (c.direction side)) :
    Relation.ReflTransGen Direction.Move d ((if ok then c else c.close x).direction side) := by
  cases ok with
  | true => exact .single h
  | false => exact .tail (.single h) (c.close_moves x side)

/-- A side queues a message. -/
theorem add_direction {x : Side} {message : Message} (h : c.add x message = some c') (side : Side) :
    (side = x ∧ (c.direction side).Adds message (c'.direction side)) ∨
      Relation.ReflTransGen Direction.Move (c.direction side) (c'.direction side) := by
  obtain ⟨hup, h⟩ := Option.ite_none_right_eq_some.1 h
  cases hadd : (c.peers x).addToSend message with
  | none =>
      rw [hadd] at h
      cases h
      exact .inr .refl
  | some peer =>
      rw [hadd] at h
      cases h
      obtain ⟨queue, hqueue, rfl⟩ := Option.map_eq_some_iff.1 hadd
      have hdata : queue.data = (c.peers x).sendBuffer.data ++ [message] := by
        unfold MessageQueue.enqueue at hqueue
        split at hqueue
        · cases hqueue
        · cases hqueue
          rfl
      rcases Side.eq_or_eq_other x side with rfl | rfl
      · refine .inl ⟨rfl, hup, ?_, ?_, ?_, ?_⟩
        all_goals simp [direction, update_other, hdata]
      · refine .inr (.single ?_)
        have hmove := Direction.Move.receiver (d := c.direction x.other)
          { c.peers x with sendBuffer := queue }
          (by rw [direction, x.other_other]; exact ⟨rfl, rfl⟩)
        simpa [direction, update_other, x.other_other] using hmove

/-- A side sends. -/
theorem send_direction {x : Side} {results : List Result} (h : c.send x results = some c')
    (side : Side) : Relation.ReflTransGen Direction.Move (c.direction side) (c'.direction side) := by
  obtain ⟨hwatched, h⟩ := Option.ite_none_right_eq_some.1 h
  obtain ⟨hup, hqueue⟩ := Bool.and_eq_true_iff.1 hwatched
  obtain ⟨sent, hsent, rfl⟩ := Option.map_eq_some_iff.1 h
  obtain ⟨more, hsends⟩ := Peer.sendToPeer_spec hsent
  have htaken : ((c.peers x).sendBuffer.data.drop sent.peer.sendBuffer.data.length).reverse = more := by
    rw [hsends.queue, List.drop_left, List.reverse_reverse]
  refine moves_of_ok ?_
  rcases Side.eq_or_eq_other x side with rfl | rfl
  · have hmove := Direction.Move.send (d := c.direction side) hup
      (by simpa [direction] using hqueue) hsends
    simpa [direction, update_other, htaken] using hmove
  · have hmove := Direction.Move.receiver (d := c.direction x.other) sent.peer
      (by rw [direction, x.other_other]; exact hsends.same)
    simpa [direction, update_other, x.other_other] using hmove

/-- A side receives. -/
theorem receive_direction {x : Side} {results : List Result} (h : c.receive x results = some c')
    (side : Side) : Relation.ReflTransGen Direction.Move (c.direction side) (c'.direction side) := by
  obtain ⟨hup, h⟩ := Option.ite_none_right_eq_some.1 h
  obtain ⟨received, hreceived, rfl⟩ := Option.map_eq_some_iff.1 h
  have hreceives := Peer.receiveFromPeer_spec hreceived
  refine moves_of_ok ?_
  rcases Side.eq_or_eq_other x side with rfl | rfl
  · have hmove := Direction.Move.sender (d := c.direction side) _ hreceives.same
    have hne : side ≠ side.other := side.other_ne.symm
    simpa [direction, update_other, Function.update_of_ne hne] using hmove
  · have hmove := Direction.Move.receive (d := c.direction x.other)
      (by rw [direction, x.other_other]; exact hup) (by rw [direction, x.other_other]; exact hreceives)
    simpa [direction, update_other, x.other_other] using hmove

/-- The server's place is free. -/
def Closed (c : Connection) : Prop := c.up .server = false → (c.peers .server).sendBuffer.data = []

/-- A new connection starts afresh. -/
theorem connect_direction (hclosed : c.Closed) (h : c.connect = some c') (side : Side) :
    (c'.direction side).Fresh := by
  obtain ⟨hdown, h⟩ := Option.ite_none_left_eq_some.1 h
  cases h
  have hserver : c.up .server = false := by
    cases hup : c.up .server with
    | true => exact absurd (.inl hup) hdown
    | false => rfl
  cases side with
  | server => exact ⟨rfl, hclosed hserver, rfl, rfl, rfl, rfl, rfl⟩
  | client => exact ⟨rfl, rfl, rfl, rfl, rfl, rfl, rfl⟩

end Connection

/-- **What a step does with a direction.** -/
theorem step_direction {c c' : Connection} {e : Event} (hclosed : c.Closed) (h : step c e = some c')
    (side : Side) :
    (e = .connect ∧ (c'.direction side).Fresh) ∨
      (∃ message, e = .add side message ∧ (c.direction side).Adds message (c'.direction side)) ∨
      Relation.ReflTransGen Direction.Move (c.direction side) (c'.direction side) := by
  cases e with
  | connect => exact .inl ⟨rfl, Connection.connect_direction hclosed h side⟩
  | close x =>
      obtain ⟨-, h⟩ := Option.ite_none_right_eq_some.1 h
      cases h
      exact .inr (.inr (.single (c.close_moves x side)))
  | add x message =>
      rcases Connection.add_direction h side with ⟨rfl, hadds⟩ | hmoves
      · exact .inr (.inl ⟨message, rfl, hadds⟩)
      · exact .inr (.inr hmoves)
  | send x results => exact .inr (.inr (Connection.send_direction h side))
  | receive x results => exact .inr (.inr (Connection.receive_direction h side))

/-! ## Every run -/

/-- What every step keeps. -/
structure Inv (c : Connection) : Prop where
  closed : c.Closed
  flow : ∀ side, (c.direction side).Flow

namespace Connection

variable {c c' : Connection}

/-- The server's place is free when it is closed. -/
theorem closed_close (h : c.Closed) (side : Side) : (c.close side).Closed := by
  cases side with
  | server => exact fun _ => rfl
  | client => exact h

/-- A side that is up changes its peer. -/
theorem closed_of_peer {side : Side} {peer : Peer} (h : c.Closed) (hup : c.up side = true)
    (hups : c'.up = c.up) (hpeers : c'.peers = Function.update c.peers side peer) : c'.Closed := by
  intro hserver
  rw [hups] at hserver
  have hne : Side.server ≠ side := fun heq => by
    rw [heq, hup] at hserver
    cases hserver
  rw [hpeers, Function.update_of_ne hne]
  exact h hserver

/-- A side that is up changes its peer, and may then close. -/
theorem closed_of_ok {side : Side} {ok : Bool} {peer : Peer} (h : c.Closed) (hup : c.up side = true)
    (hups : c'.up = c.up) (hpeers : c'.peers = Function.update c.peers side peer) :
    (if ok then c' else c'.close side).Closed := by
  have hclosed := closed_of_peer h hup hups hpeers
  cases ok with
  | true => exact hclosed
  | false => exact closed_close hclosed side

/-- The server's place is free after every step in which it is down. -/
theorem closed_step {e : Event} (hc : c.Closed) (h : step c e = some c') : c'.Closed := by
  cases e with
  | connect =>
      obtain ⟨-, h⟩ := Option.ite_none_left_eq_some.1 h
      cases h
      exact nofun
  | close side =>
      obtain ⟨-, h⟩ := Option.ite_none_right_eq_some.1 h
      cases h
      exact closed_close hc side
  | add side message =>
      obtain ⟨hup, h⟩ := Option.ite_none_right_eq_some.1 h
      cases hadd : (c.peers side).addToSend message with
      | none =>
          rw [hadd] at h
          cases h
          exact hc
      | some peer =>
          rw [hadd] at h
          cases h
          exact Connection.closed_of_peer hc hup rfl rfl
  | send side results =>
      obtain ⟨hwatched, h⟩ := Option.ite_none_right_eq_some.1 h
      obtain ⟨sent, -, rfl⟩ := Option.map_eq_some_iff.1 h
      exact closed_of_ok hc (Bool.and_eq_true_iff.1 hwatched).1 rfl rfl
  | receive side results =>
      obtain ⟨hup, h⟩ := Option.ite_none_right_eq_some.1 h
      obtain ⟨received, -, rfl⟩ := Option.map_eq_some_iff.1 h
      exact closed_of_ok hc hup rfl rfl

end Connection

/-- A property of a direction that a move keeps, some moves keep. -/
theorem moves_keep {P : Direction → Prop} (hP : ∀ d d', P d → Direction.Move d d' → P d')
    {d d' : Direction} (h : Relation.ReflTransGen Direction.Move d d') (hd : P d) : P d' := by
  induction h with
  | refl => exact hd
  | tail _ hmove ih => exact hP _ _ ih hmove

/-- The order of the messages stays as long as the sender is up. -/
theorem order_of_moves {d d' : Direction} (h : Relation.ReflTransGen Direction.Move d d') :
    d'.upS = true → d.upS = true ∧ d'.order = d.order := by
  induction h with
  | refl => exact fun hS => ⟨hS, rfl⟩
  | tail _ hmove ih =>
      intro hS
      obtain ⟨hS', heq⟩ := hmove.order_eq hS
      obtain ⟨hS'', heq'⟩ := ih hS'
      exact ⟨hS'', heq'.symm ▸ heq⟩

/-- Every step keeps the invariant, direction by direction. -/
theorem inv_step {c c' : Connection} {e : Event} (hinv : Inv c) (h : step c e = some c') : Inv c' where
  closed := Connection.closed_step hinv.closed h
  flow side := by
    rcases step_direction hinv.closed h side with ⟨-, hfresh⟩ | ⟨message, -, hadds⟩ | hmoves
    · exact hfresh.flow
    · exact (hinv.flow side).adds hadds
    · exact moves_keep (fun _ _ => Direction.Flow.move) hmoves (hinv.flow side)

/-- Nobody is connected at first. -/
theorem inv_init : Inv {} where
  closed _ := rfl
  flow _ := Direction.Fresh.flow ⟨rfl, rfl, rfl, rfl, rfl, rfl, rfl⟩

/-- The invariant holds in every run. -/
theorem inv_exec {c : Connection} {events : List Event} (h : exec step {} events = some c) : Inv c :=
  exec_inv (fun _ _ _ => inv_step) h inv_init

/-- The event neither queues a message of the side nor begins a connection. -/
def Quiet (side : Side) (e : Event) : Prop := e ≠ .connect ∧ ∀ message, e ≠ .add side message

/-- In a run of such events a direction only moves. -/
theorem moves_of_quiet {c c' : Connection} {side : Side} {events : List Event} (hinv : Inv c)
    (h : exec step c events = some c') (hquiet : ∀ e ∈ events, Quiet side e) :
    Relation.ReflTransGen Direction.Move (c.direction side) (c'.direction side) := by
  induction events generalizing c with
  | nil =>
      cases h
      exact .refl
  | cons e events ih =>
      obtain ⟨c₁, h₁, h⟩ := exec_cons.1 h
      have hrest := ih (inv_step hinv h₁) h fun e' he => hquiet e' (List.mem_cons_of_mem e he)
      obtain ⟨hconnect, hadd⟩ := hquiet e List.mem_cons_self
      rcases step_direction hinv.closed h₁ side with ⟨rfl, -⟩ | ⟨message, rfl, -⟩ | hmoves
      · exact absurd rfl hconnect
      · exact absurd rfl (hadd message)
      · exact hmoves.trans hrest

/-- **Messages arrive whole, in the order in which they are begun, and each once.** When nothing waits or
is on its way, each message that was queued has been handled. -/
theorem messages_arrive {c : Connection} {events : List Event} (h : exec step {} events = some c)
    (side : Side) :
    c.handled side <+: c.begun side ∧ (c.begun side).Subperm (c.added side) ∧
      ((c.direction side).Drained →
        c.handled side = c.begun side ∧ (c.handled side).Perm (c.added side)) := by
  have hflow := (inv_exec h).flow side
  refine ⟨hflow.handled_prefix, hflow.subperm, fun hd => ?_⟩
  have hhandled : c.handled side = c.begun side := hflow.handled_eq hd
  have hqueue := hflow.queue hd.sender
  rw [hd.queue, List.append_nil] at hqueue
  rw [hhandled]
  exact ⟨rfl, hqueue.symm⟩

/-- What `send` and `recv` return for one message. -/
def wholeMessage : List Result := List.replicate 6 (.bytes 100) ++ [.bytes 40]

set_option maxRecDepth 20000 in
/-- A message of the client is sent whole and handled. -/
theorem message_arrives : ∃ c, exec step {} [.connect, .add .client Message.zero,
    .send .client wholeMessage, .receive .server (wholeMessage ++ [.wouldBlock])] = some c ∧
      c.handled .client = c.begun .client ∧ (c.handled .client).Perm (c.added .client) := by
  refine exists_imp.2 (fun c hc => ⟨c, hc, ?_⟩) ⟨_, rfl⟩
  have harrive := (messages_arrive hc .client).2.2
  cases hc
  exact harrive ⟨rfl, rfl, rfl, rfl, rfl⟩

/-- **The last message that is queued is the first that arrives.** When a run has queued nothing more and
all has arrived, the messages that waited before it have been handled in reverse. -/
theorem last_queued_first {c c' : Connection} {events more : List Event} {side : Side}
    (h : exec step {} events = some c) (hmore : exec step c more = some c')
    (hquiet : ∀ e ∈ more, Quiet side e) (hd : (c'.direction side).Drained) :
    c'.handled side = c.begun side ++ (c.peers side).sendBuffer.data.reverse := by
  have hinv := inv_exec h
  have hmoves := moves_of_quiet hinv hmore hquiet
  have heq := (order_of_moves hmoves hd.sender).2
  rw [Direction.order, hd.queue, List.reverse_nil, List.append_nil] at heq
  have hflow := moves_keep (fun _ _ => Direction.Flow.move) hmoves (hinv.flow side)
  exact (hflow.handled_eq hd).trans heq

set_option maxRecDepth 20000 in
/-- Of two messages that wait the second is sent first. -/
theorem second_message_first : ∃ c c' : Connection,
    exec step {} [.connect, .add .client Message.zero,
      .add .client ⟨List.replicate messageSize 1, List.length_replicate⟩] = some c ∧
    exec step c [.send .client (wholeMessage ++ wholeMessage),
      .receive .server (wholeMessage ++ wholeMessage ++ [.wouldBlock])] = some c' ∧
    c'.handled .client = c.begun .client ++ (c.peers .client).sendBuffer.data.reverse := by
  refine ⟨_, _, rfl, rfl, ?_⟩
  exact @last_queued_first _ _
    [.connect, .add .client Message.zero,
      .add .client ⟨List.replicate messageSize 1, List.length_replicate⟩]
    [.send .client (wholeMessage ++ wholeMessage),
      .receive .server (wholeMessage ++ wholeMessage ++ [.wouldBlock])] .client rfl rfl
    (List.forall_mem_cons.2 ⟨⟨nofun, nofun⟩, List.forall_mem_singleton.2 ⟨nofun, nofun⟩⟩)
    ⟨rfl, rfl, rfl, rfl, rfl⟩

/-- **What is not sent of the last message stays.** With no other message in the queue, its rest is not
sent before a message is queued, and it is not handled. -/
theorem unfinished_message_stays {c c' : Connection} {events more : List Event} {side : Side}
    (h : exec step {} events = some c) (hup : c.up side = true)
    (hqueue : (c.peers side).sendBuffer.data = []) (hunsent : (c.peers side).unsent ≠ [])
    (hmore : exec step c more = some c') (hquiet : ∀ e ∈ more, Quiet side e) :
    c'.begun side = c.begun side ∧ (c'.handled side).length < (c.begun side).length ∧
      (c'.up side = true → (c'.peers side).unsent = (c.peers side).unsent) := by
  have hinv := inv_exec h
  have hflow := hinv.flow side
  have hstuck : Direction.Stuck (c.begun side) (c.peers side).unsent (c.direction side) := {
    begun := rfl
    sender := fun _ => ⟨hqueue, rfl⟩
    receiver := fun hother => hflow.complete hother hup
    less := Direction.length_lt_of_stream_le hunsent (hflow.unsent hup) }
  have hstuck' := moves_keep (fun _ _ hs hmove => Direction.Stuck.move hunsent hs hmove)
    (moves_of_quiet hinv hmore hquiet) hstuck
  exact ⟨hstuck'.begun, hstuck'.less, fun hS => (hstuck'.sender hS).2⟩

/-- A message is sent in part, the call returns 0, and the rest of it stays. -/
theorem message_is_not_handled : ∃ c c' : Connection,
    exec step {} [.connect, .add .client Message.zero, .send .client [.bytes 100, .wouldBlock]] = some c ∧
    exec step c [.receive .server [.bytes 100, .wouldBlock]] = some c' ∧
    c'.begun .client = c.begun .client ∧ (c'.handled .client).length < (c.begun .client).length ∧
      (c'.up .client = true → (c'.peers .client).unsent = (c.peers .client).unsent) :=
  ⟨_, _, rfl, rfl, @unfinished_message_stays _ _
    [.connect, .add .client Message.zero, .send .client [.bytes 100, .wouldBlock]]
    [.receive .server [.bytes 100, .wouldBlock]] .client rfl rfl rfl
    (List.ne_nil_of_length_pos (by rw [Peer.length_unsent]; decide)) rfl
    (List.forall_mem_singleton.2 ⟨nofun, nofun⟩)⟩

end KoreWebsocket.Messages
