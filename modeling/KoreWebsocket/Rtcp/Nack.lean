import KoreWebsocket.Rtcp.ReceiverReport
import KoreWebsocket.Rtcp.RoundTrip

/-!
# What a receiver asks for (`RtpReceiver::OnNackRequired`, `RTC::RTCP::FeedbackRtpNackPacket`)

A receiver groups the sequence numbers that it misses: an item has the first number of a group, and a bit
for each of the 16 numbers behind it. The items ask for the numbers that are given and for no others, in
whatever order they are given, and they come back from the packet that is sent (`nack_encoding_exact`).
-/

namespace KoreWebsocket.Rtcp

open Bytes Writer

/-! ## Items -/

namespace FeedbackRtpNackItem

/-- The constructor of `FeedbackRtpNackItem`. -/
def new (packetId lostPacketBitmask : UInt16) : Header 4 :=
  ⟨beBytes 2 packetId.toNat ++ beBytes 2 lostPacketBitmask.toNat, by
    rw [List.length_append, length_beBytes, length_beBytes]⟩

/-- `GetPacketId`. -/
def getPacketId (item : Header 4) : UInt16 := UInt16.ofNat (be (item.slice 0 2))

/-- `GetLostPacketBitmask`. -/
def getLostPacketBitmask (item : Header 4) : UInt16 := UInt16.ofNat (be (item.slice 2 2))

@[simp]
theorem getPacketId_new (packetId lostPacketBitmask : UInt16) :
    getPacketId (new packetId lostPacketBitmask) = packetId := by
  have hslice : (new packetId lostPacketBitmask).slice 0 2 = beBytes 2 packetId.toNat :=
    List.take_left' (length_beBytes 2 _)
  rw [getPacketId, hslice, Byte.ofNat_be_beBytes_two]

@[simp]
theorem getLostPacketBitmask_new (packetId lostPacketBitmask : UInt16) :
    getLostPacketBitmask (new packetId lostPacketBitmask) = lostPacketBitmask := by
  have hslice : (new packetId lostPacketBitmask).slice 2 2 = beBytes 2 lostPacketBitmask.toNat := by
    change ((beBytes 2 packetId.toNat ++ beBytes 2 lostPacketBitmask.toNat).drop 2).take 2 = _
    rw [List.drop_left' (length_beBytes 2 _), List.take_of_length_le (by rw [length_beBytes])]
  rw [getLostPacketBitmask, hslice, Byte.ofNat_be_beBytes_two]

end FeedbackRtpNackItem

open FeedbackRtpNackItem

/-- The numbers that a packet id and a bitmask ask for: the id, and `id + 1 + i` for every set bit `i`. -/
def requestedSeqs (packetId bitmask : UInt16) : List UInt16 :=
  packetId ::
    ((List.range 16).filter bitmask.toNat.testBit).map fun i => packetId + 1 + UInt16.ofNat i

/-- The numbers that an item asks for. -/
def FeedbackRtpNackItem.requested (item : Header 4) : List UInt16 :=
  requestedSeqs (getPacketId item) (getLostPacketBitmask item)

/-! ## Groups -/

/-- The loops of `RtpReceiver::OnNackRequired`, in an item that has a packet id and a bitmask so far: the
next number is within 16 of the id, or starts an item of its own. -/
def nackLoop (seq bitmask : UInt16) : List UInt16 → List (Header 4)
  | [] => [new seq bitmask]
  | next :: seqNumbers =>
      let shift := next - seq - 1
      if shift ≤ 15 then nackLoop seq (bitmask ||| (1 <<< shift)) seqNumbers
      else new seq bitmask :: nackLoop next 0 seqNumbers

/-- The items of `RtpReceiver::OnNackRequired`. -/
def nackItems : List UInt16 → List (Header 4)
  | [] => []
  | seq :: seqNumbers => nackLoop seq 0 seqNumbers

section
variable {seq bitmask n : UInt16}

/-- The numbers that an item requests: its own, and one for each bit. -/
theorem mem_requestedSeqs : n ∈ requestedSeqs seq bitmask ↔
    n = seq ∨ ∃ i < 16, bitmask.toNat.testBit i = true ∧ n = seq + 1 + UInt16.ofNat i := by
  simp only [requestedSeqs, List.mem_cons, List.mem_map, List.mem_filter, List.mem_range, and_assoc,
    eq_comm]

theorem requestedSeqs_zero : requestedSeqs seq 0 = [seq] := by
  have hnone : (List.range 16).filter (UInt16.toNat 0).testBit = [] :=
    List.filter_eq_nil_iff.2 fun i _ => by rw [UInt16.toNat_zero, Nat.zero_testBit]; exact Bool.false_ne_true
  rw [requestedSeqs, hnone]
  rfl

/-- The bits of a bitmask with one more. -/
theorem testBit_or_shiftLeft {shift : UInt16} (h : shift ≤ 15) (i : Nat) :
    (bitmask ||| (1 <<< shift)).toNat.testBit i = true ↔
      bitmask.toNat.testBit i = true ∨ i = shift.toNat := by
  have hlt : shift.toNat < 16 := Nat.lt_succ_iff.2 (UInt16.le_iff_toNat_le.1 h)
  have hbit : ((1 : UInt16) <<< shift).toNat = 2 ^ shift.toNat := by
    rw [UInt16.toNat_shiftLeft, UInt16.toNat_one, Nat.mod_eq_of_lt hlt, Nat.one_shiftLeft,
      Nat.mod_eq_of_lt (Nat.pow_lt_pow_right (by decide) hlt)]
  rw [UInt16.toNat_or, Nat.testBit_or, Bool.or_eq_true, hbit, Nat.testBit_two_pow, decide_eq_true_eq,
    eq_comm (a := i)]

/-- A number within 16 of the id is a bit. -/
theorem mem_requestedSeqs_or {next : UInt16} (h : next - seq - 1 ≤ 15) :
    n ∈ requestedSeqs seq (bitmask ||| (1 <<< (next - seq - 1))) ↔
      n ∈ requestedSeqs seq bitmask ∨ n = next := by
  have hlt : (next - seq - 1).toNat < 16 := Nat.lt_succ_iff.2 (UInt16.le_iff_toNat_le.1 h)
  have hnext : seq + 1 + UInt16.ofNat (next - seq - 1).toNat = next := by
    rw [UInt16.ofNat_toNat]
    grind
  simp only [mem_requestedSeqs, testBit_or_shiftLeft h]
  constructor
  · rintro (rfl | ⟨i, hi, hbit | rfl, rfl⟩)
    · exact .inl (.inl rfl)
    · exact .inl (.inr ⟨i, hi, hbit, rfl⟩)
    · exact .inr hnext
  · rintro ((rfl | ⟨i, hi, hbit, rfl⟩) | rfl)
    · exact .inl rfl
    · exact .inr ⟨i, hi, .inl hbit, rfl⟩
    · exact .inr ⟨_, hlt, .inr rfl, hnext.symm⟩

/-- The items of the loop ask for what the item so far asks for, and for the numbers behind. -/
theorem mem_nackLoop (seqNumbers : List UInt16) :
    n ∈ (nackLoop seq bitmask seqNumbers).flatMap requested ↔
      n ∈ requestedSeqs seq bitmask ∨ n ∈ seqNumbers := by
  have hnew : ∀ seq bitmask, requested (new seq bitmask) = requestedSeqs seq bitmask := by
    intro seq bitmask
    rw [requested, getPacketId_new, getLostPacketBitmask_new]
  induction seqNumbers generalizing seq bitmask with
  | nil => rw [nackLoop, List.flatMap_singleton, hnew, or_iff_left List.not_mem_nil]
  | cons next seqNumbers ih =>
      rw [nackLoop]
      split
      case isTrue hshift =>
        refine ih.trans ?_
        rw [mem_requestedSeqs_or hshift, List.mem_cons, or_assoc]
      case isFalse =>
        have hrest := @ih next 0
        rw [requestedSeqs_zero, List.mem_singleton, ← List.mem_cons] at hrest
        rw [List.flatMap_cons, List.mem_append, hnew]
        exact or_congr_right hrest

/-- **The items ask for what is given**, and for nothing else. -/
theorem mem_nackItems (seqNumbers : List UInt16) :
    n ∈ (nackItems seqNumbers).flatMap requested ↔ n ∈ seqNumbers := by
  cases seqNumbers with
  | nil => exact Iff.rfl
  | cons seq seqNumbers =>
      rw [nackItems, mem_nackLoop, requestedSeqs_zero, List.mem_singleton, List.mem_cons]

end

/-! ## The packet -/

/-- `FeedbackRtpNackPacket::GetSize`. -/
def nackSize (items : List (Header 4)) : Nat := 4 + 8 + 4 * items.length

/-- The header of a feedback packet. -/
def feedbackHeader (senderSsrc mediaSsrc : UInt32) : Header 8 :=
  ⟨beBytes 4 senderSsrc.toNat ++ beBytes 4 mediaSsrc.toNat, by
    rw [List.length_append, length_beBytes, length_beBytes]⟩

/-- `FeedbackRtpNackPacket::Serialize`. -/
def serializeNack (senderSsrc mediaSsrc : UInt32) (items : List (Header 4)) : Writer :=
  ((serializeHeader (nackSize items) 1 205).andThen
    (put (feedbackHeader senderSsrc mediaSsrc).1)).andThen (each (fun item => put item.1) items)

/-- `RtpReceiver::OnNackRequired`: the packet that is given to the transport, if there is one. -/
def onNackRequired (hasTransport : Bool) (ssrc : UInt32) (seqNumbers : List UInt16)
    (buffer : List UInt8) : Except Fault (Option (List UInt8)) := do
  if !hasTransport then return none
  let items := nackItems seqNumbers
  if nackSize items > bufferSize then return none
  let (buffer, size) ← serializeNack 0 ssrc items buffer 0
  return some (buffer.take size)

def nackBytesOf (senderSsrc mediaSsrc : UInt32) (items : List (Header 4)) : List UInt8 :=
  (headerBytes (nackSize items) 1 205 ++ (feedbackHeader senderSsrc mediaSsrc).bytes) ++
    items.flatMap Header.bytes

section
variable {senderSsrc mediaSsrc : UInt32} {items : List (Header 4)}

theorem length_feedbackHeader {size count : Nat} {type : UInt8} :
    (headerBytes size count type ++ (feedbackHeader senderSsrc mediaSsrc).bytes).length = 12 := by
  rw [List.length_append, length_headerBytes, Header.bytes, (feedbackHeader senderSsrc mediaSsrc).2]

/-- `GetSize` of a NACK packet is what it takes. -/
theorem length_nackBytesOf : (nackBytesOf senderSsrc mediaSsrc items).length = nackSize items := by
  rw [nackBytesOf, List.length_append, length_feedbackHeader, length_flatMap_headers, nackSize]

/-- A NACK packet is written as its items. -/
theorem writes_nack (senderSsrc mediaSsrc : UInt32) (items : List (Header 4)) :
    Writes (serializeNack senderSsrc mediaSsrc items) (nackBytesOf senderSsrc mediaSsrc items) :=
  ((writes_put _).andThen (writes_put _)).andThen
    (writes_each (fun item : Header 4 => writes_put item.1) items)

/-- The header of a feedback packet is read as it is. -/
theorem headerAt_feedbackHeader {size count : Nat} {type : UInt8} {z : List UInt8}
    (h : 4 + 8 ≤ ((headerBytes size count type ++ (feedbackHeader senderSsrc mediaSsrc).bytes) ++ z).length) :
    headerAt _ 4 h = feedbackHeader senderSsrc mediaSsrc := by
  refine Subtype.ext ?_
  change (((headerBytes size count type ++ (feedbackHeader senderSsrc mediaSsrc).bytes) ++ z).drop 4).take 8 = _
  rw [List.append_assoc, List.drop_left' (length_headerBytes _ _ _)]
  exact List.take_left' (feedbackHeader senderSsrc mediaSsrc).2

/-- The packet is parsed as it is. -/
theorem feedbackRtpPacket_nackBytesOf :
    feedbackRtpPacket (nackBytesOf senderSsrc mediaSsrc items) =
      .ok (some [.nack (feedbackHeader senderSsrc mediaSsrc) items]) := by
  have hlen : (nackBytesOf senderSsrc mediaSsrc items).length = nackSize items := length_nackBytesOf
  have h12 : 4 + 8 ≤ (nackBytesOf senderSsrc mediaSsrc items).length := by
    rw [hlen, nackSize]
    exact Nat.le_add_right _ _
  have hcount : count (nackBytesOf senderSsrc mediaSsrc items) = 1 := by
    rw [nackBytesOf, List.append_assoc, count_headerBytes]
  have hfeedback : headerAt (nackBytesOf senderSsrc mediaSsrc items) 4 h12 =
      feedbackHeader senderSsrc mediaSsrc := headerAt_feedbackHeader h12
  have hwalk : Walk nackItem (nackBytesOf senderSsrc mediaSsrc items) 12 items (12 + 4 * items.length) := by
    have hheaders := walk_headers (by decide) (headerBytes (nackSize items) 1 205 ++
      (feedbackHeader senderSsrc mediaSsrc).bytes) items
    rwa [length_feedbackHeader] at hheaders
  have hitems : readAll nackItem (nackBytesOf senderSsrc mediaSsrc items) 12 = .ok items := by
    refine readAll_eq_ok.2 ⟨_, hwalk, ?_, .inl ?_⟩
    · rw [hlen, nackSize]
      omega
    · rw [hlen, nackSize]
  rw [feedbackRtpPacket, feedback_of_le h12, hcount]
  change itemsPacket nackItem .nack (nackBytesOf senderSsrc mediaSsrc items) = _
  rw [itemsPacket, feedback_of_le h12, hitems, hfeedback, Checked.ok_bind]
  rfl

/-- A packet that fits its length field is parsed as it is also in `Packet::Parse`. -/
theorem parse_nackBytesOf (h : nackSize items ≤ bufferSize) :
    parse (nackBytesOf senderSsrc mediaSsrc items) =
      .ok [.nack (feedbackHeader senderSsrc mediaSsrc) items] := by
  have hlen : (nackBytesOf senderSsrc mediaSsrc items).length = nackSize items := length_nackBytesOf
  have hassoc : nackBytesOf senderSsrc mediaSsrc items = headerBytes (nackSize items) 1 205 ++
      ((feedbackHeader senderSsrc mediaSsrc).bytes ++ items.flatMap Header.bytes) :=
    List.append_assoc _ _ _
  have hmod : nackSize items % 4 = 0 := by
    rw [nackSize]
    omega
  have hpacket : parsePacket (nackBytesOf senderSsrc mediaSsrc items) =
      .ok (some [.nack (feedbackHeader senderSsrc mediaSsrc) items]) := feedbackRtpPacket_nackBytesOf
  rw [hassoc] at hlen hpacket ⊢
  exact parse_headerBytes hlen hmod (h.trans (by decide)) (by decide) (by decide) hpacket

end

/-- **NACK encoding is exact.** For every list of sequence numbers, in any order: the items of
`OnNackRequired` are written and parsed back, and they ask for the numbers of the list and for no others.
What is given to the transport is this packet, and is parsed so by `Packet::Parse`, or it is larger than
the buffer and nothing is sent. -/
theorem nack_encoding_exact (ssrc : UInt32) (seqNumbers : List UInt16) :
    ∃ bytes header items,
      (∀ buffer, bytes.length ≤ buffer.length →
        serializeNack 0 ssrc (nackItems seqNumbers) buffer 0 =
          .ok (bytes ++ buffer.drop bytes.length, bytes.length)) ∧
      feedbackRtpPacket bytes = .ok (some [.nack header items]) ∧
      (∀ n, n ∈ items.flatMap requested ↔ n ∈ seqNumbers) ∧
      ∀ buffer, buffer.length = bufferSize →
        (onNackRequired true ssrc seqNumbers buffer = .ok (some bytes) ∧
          parse bytes = .ok [.nack header items]) ∨
        (onNackRequired true ssrc seqNumbers buffer = .ok none ∧ bufferSize < bytes.length) := by
  have hwrite := (writes_nack 0 ssrc (nackItems seqNumbers)).start
  refine ⟨nackBytesOf 0 ssrc (nackItems seqNumbers), feedbackHeader 0 ssrc, nackItems seqNumbers,
    hwrite, feedbackRtpPacket_nackBytesOf, fun n => mem_nackItems seqNumbers, fun buffer hbuffer => ?_⟩
  unfold onNackRequired
  dsimp only
  rw [length_nackBytesOf]
  by_cases hfits : nackSize (nackItems seqNumbers) ≤ bufferSize
  · refine .inl ⟨?_, parse_nackBytesOf hfits⟩
    have hwrite := hwrite buffer (by rw [length_nackBytesOf, hbuffer]; exact hfits)
    rw [if_neg (by decide), if_neg (Nat.not_lt.2 hfits), hwrite, Checked.ok_bind]
    exact congrArg (fun bytes => Except.ok (some bytes)) (List.take_left' rfl)
  · exact .inr ⟨by rw [if_neg (by decide), if_pos (Nat.not_le.1 hfits)]; rfl, Nat.not_le.1 hfits⟩

end KoreWebsocket.Rtcp
