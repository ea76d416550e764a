import KoreWebsocket.Rtcp.Nack
import KoreWebsocket.Rtp.StreamSend

/-!
# The send buffer

What holds of the buffer of a `RtpStreamSend` in every run of packets, receiver reports and requests: it
has no more items than the storage has slots, each item has a slot of its own, the items are in the order
of their numbers, and the slot of an item still has the bytes of the packet that it was stored for
(`send_buffer_storage`). A packet that comes a second time is stored a second time, unless it is the first
of the buffer: `StorePacket` goes over its number, and inserts it behind the last smaller one
(`distinct_numbers_without_repeats`).
-/

namespace KoreWebsocket.Rtp

open Bytes

/-! ## Clones -/

/-- What a clone shows of the packet it was made from. -/
structure Packet.IsCloneOf (q p : Packet) : Prop where
  size : q.size = p.size
  header : headerSize ≤ p.size
  fits : p.size ≤ p.buf.length
  wire : q.wire = p.wire

/-- What is read from the front of a buffer. -/
theorem read_eq_ok {d bytes : List UInt8} {n : Nat} (h : Bytes.read d 0 n = .ok bytes) :
    n ≤ d.length ∧ bytes = d.take n := by
  unfold Bytes.read at h
  split at h
  case isTrue hle =>
    cases h
    exact ⟨by omega, rfl⟩
  case isFalse => cases h

/-- What is written to the front of a buffer. -/
theorem write_eq_ok {d bytes d' : List UInt8} (h : Bytes.write d 0 bytes = .ok d') :
    bytes.length ≤ d.length ∧ d' = bytes ++ d.drop bytes.length := by
  unfold Bytes.write at h
  split at h
  case isTrue hle =>
    cases h
    exact ⟨by omega, by rw [List.take_zero, List.nil_append, Nat.zero_add]⟩
  case isFalse => cases h

/-- **What `Clone` writes.** -/
theorem Packet.clone_eq {p q : Packet} {behind : UInt8} {buffer : List UInt8}
    (h : p.clone behind buffer = .ok q)
    (hpadded : p.payloadPadding ≠ 0 → p.buf.getD (p.size - 1) 0 = p.payloadPadding) :
    q.IsCloneOf p ∧ p.size ≤ buffer.length ∧ q.buf = p.wire ++ buffer.drop p.size := by
  unfold clone at h
  obtain ⟨bytes, hread, h⟩ := Checked.bind_eq_ok.1 h
  obtain ⟨buf₁, hwrite, h⟩ := Checked.bind_eq_ok.1 h
  dsimp only at h
  generalize hptr : (if p.extensionHeader.isSome then
    (if p.csrcList.isSome then headerSize + csrcCount buf₁ * 4 else headerSize) + 4 +
      p.getExtensionHeaderLength
    else if p.csrcList.isSome then headerSize + csrcCount buf₁ * 4 else headerSize) = ptr at h
  have hheader : headerSize ≤ ptr := by
    rw [← hptr]
    split <;> split <;> omega
  obtain ⟨buf₂, hpadding, h⟩ := Checked.bind_eq_ok.1 h
  obtain ⟨⟨⟩, hensure, h⟩ := Checked.bind_eq_ok.1 h
  have hsize : ptr + p.payloadLength + p.payloadPadding.toNat = p.size := by
    unfold ensure at hensure
    split at hensure
    case isTrue heq => exact heq
    case isFalse => cases hensure
  obtain ⟨hfits, rfl⟩ := read_eq_ok hread
  have hlen : (p.buf.take p.size).length = p.size := by
    rw [List.length_take, Nat.min_eq_left hfits]
  obtain ⟨hspace, rfl⟩ := write_eq_ok hwrite
  rw [hlen] at hspace hpadding
  -- the last byte of the padding is there already
  have hlast : p.payloadPadding ≠ 0 → (p.buf.take p.size ++ buffer.drop p.size).getD
      (ptr + p.payloadLength + p.payloadPadding.toNat - 1) 0 = p.payloadPadding := by
    intro hne
    have hlt : p.size - 1 < p.size := by
      rw [headerSize] at hheader
      omega
    rw [hsize, List.getD_append _ _ _ _ (by rwa [hlen]), ← hpadded hne,
      List.getD_eq_getElem?_getD, List.getElem?_take_of_lt hlt, List.getD_eq_getElem?_getD]
  have hsame := writePadding_same p.payloadPadding (by
    rw [hsize, List.length_append, hlen]
    exact Nat.le_add_right _ _) hlast
  cases hsame.symm.trans hpadding
  obtain ⟨r, hr, h⟩ := Checked.bind_eq_ok.1 h
  obtain ⟨one, two, hmaps⟩ := Packet.parseExtensions_ok _ behind
  cases hmaps.symm.trans hr
  cases h
  refine ⟨⟨rfl, by omega, hfits, ?_⟩, hspace, rfl⟩
  exact List.take_left' hlen

/-- The last byte of an object that shows sections. -/
theorem Packet.Shows.padded {p : Packet} {s : Sections} (h : p.Shows s) (h0 : p.payloadPadding ≠ 0) :
    p.buf.getD (p.size - 1) 0 = p.payloadPadding := by
  obtain ⟨tail, htail⟩ := h.buf
  have hpos : s.bytes.length - 1 < s.bytes.length := by
    have hlen := s.length_bytes
    rw [headerSize] at hlen
    omega
  rw [htail, h.size, List.getD_append _ _ _ _ hpos, h.getD_last h0]

/-- What `Parse` returns is padded. -/
theorem padded_of_parse {behind : UInt8} {d : List UInt8} {p : Packet}
    (h : parse behind d = .ok (some p)) (h0 : p.payloadPadding ≠ 0) :
    p.buf.getD (p.size - 1) 0 = p.payloadPadding := by
  have hfits : Fits d := fits_of_parse behind (by rw [h]; nofun)
  obtain ⟨s, rfl⟩ := hfits.sections
  obtain ⟨q, hq, -, hshows⟩ := parse_sections behind s
  cases hq.symm.trans h
  exact hshows.padded h0

/-- What `RtxDecode` recovers has no padding. -/
theorem payloadPadding_of_rtxDecode {p q : Packet} {payloadType : UInt8} {ssrc : UInt32}
    (h : p.rtxDecode payloadType ssrc = .ok (true, q)) : q.payloadPadding = 0 := by
  unfold Packet.rtxDecode at h
  split at h
  case isTrue => cases h
  case isFalse =>
    obtain ⟨p₁, -, h⟩ := Checked.bind_eq_ok.1 h
    obtain ⟨p₂, -, h⟩ := Checked.bind_eq_ok.1 h
    obtain ⟨seq, -, h⟩ := Checked.bind_eq_ok.1 h
    obtain ⟨p₃, -, h⟩ := Checked.bind_eq_ok.1 h
    cases h
    rfl

section
variable {p q : Packet}

/-- A slice of a first part. -/
theorem slice_take {d : List UInt8} {i n m : Nat} (h : i + n ≤ m) :
    ((d.take m).drop i).take n = (d.drop i).take n := by
  rw [List.drop_take, List.take_take, Nat.min_eq_left (by omega)]

/-- A field of the fixed header. -/
theorem Packet.IsCloneOf.slice (h : q.IsCloneOf p) {i n : Nat} (hi : i + n ≤ headerSize) :
    (q.buf.drop i).take n = (p.buf.drop i).take n := by
  have hle : i + n ≤ p.size := hi.trans h.header
  have hwire := congrArg (fun d => (d.drop i).take n) h.wire
  dsimp only [Packet.wire] at hwire
  rwa [h.size, slice_take hle, slice_take hle] at hwire

/-- The bytes of a packet are as many as its size. -/
theorem Packet.IsCloneOf.length_wire (h : q.IsCloneOf p) : p.wire.length = p.size := by
  rw [Packet.wire, List.length_take, Nat.min_eq_left h.fits]

/-- A clone has the sequence number of its packet. -/
theorem Packet.IsCloneOf.getSequenceNumber (h : q.IsCloneOf p) :
    q.getSequenceNumber = p.getSequenceNumber := by
  rw [Packet.getSequenceNumber, get16, h.slice (by decide)]
  rfl

/-- A clone has the timestamp of its packet. -/
theorem Packet.IsCloneOf.getTimestamp (h : q.IsCloneOf p) : q.getTimestamp = p.getTimestamp := by
  rw [Packet.getTimestamp, h.slice (by decide)]
  rfl

end

/-! ## The counters -/

/-- What holds of the counters of a stream at all times. -/
structure RtpStream.Aligned (s : RtpStream) : Prop where
  probation : s.probation = 0
  cycles : s.cycles.toNat % rtpSeqMod = 0

section
variable {s : RtpStream}

/-- After probation a stream starts again when a packet far away is followed by the next one. -/
theorem RtpStream.initializes_eq (h : s.started = true) (hprobation : s.probation = 0) (seq : UInt16) :
    s.initializes seq = true ↔ (maxDropout ≤ (seq - s.maxSeq).toNat ∧
      (seq - s.maxSeq).toNat ≤ rtpSeqMod - maxMisorder) ∧ seq.toUInt32 = s.badSeq := by
  unfold RtpStream.initializes
  simp only [h, hprobation, Bool.not_true, Bool.false_eq_true, if_false, ne_eq, not_true_eq_false,
    Bool.and_eq_true, decide_eq_true_eq]

/-- **What a packet does to the counters.** It initializes them, and is the packet with the newest
timestamp; it is accepted; or it is ignored. -/
theorem RtpStream.receivePacket_cases (h : s.Aligned) (seq : UInt16) (timestamp : UInt32) :
    (s.initializes seq = true ∧ ∃ t, s.receivePacket seq timestamp = (t, some (t.cycles + seq.toUInt32)) ∧
      t.Aligned ∧ t.started = true ∧ t.maxTimestamp = timestamp) ∨
    (s.initializes seq = false ∧ s.started = true ∧ ∃ t,
      s.receivePacket seq timestamp = (t, some (t.cycles + seq.toUInt32)) ∧ t.Aligned ∧
      t.started = true ∧
      t.maxTimestamp = if timestamp > s.maxTimestamp then timestamp else s.maxTimestamp) ∨
    (s.initializes seq = false ∧ s.started = true ∧ ∃ t, s.receivePacket seq timestamp = (t, none) ∧
      t.Aligned ∧ t.started = true ∧ t.cycles = s.cycles ∧ t.maxTimestamp = s.maxTimestamp) := by
  have hzero : (if timestamp > 0 then timestamp else 0) = timestamp := by
    split
    case isTrue => rfl
    case isFalse hle => exact (UInt32.le_antisymm (UInt32.not_lt.1 hle) (UInt32.zero_le)).symm
  cases hstarted : s.started with
  | false =>
      refine .inl ⟨by rw [initializes, hstarted]; rfl, _,
        receivePacket_accepted timestamp (updateSeq_first hstarted seq), ⟨rfl, ?_⟩, rfl, hzero⟩
      dsimp only [extra]
      split <;> rfl
  | true =>
      have hstart : (s.start seq).updateSeq seq = s.updateSeq seq := by
        rw [start, if_pos hstarted]
      have hinit := initializes_eq hstarted h.probation seq
      rcases updateSeq_cases h.probation seq with
        ⟨hnext, hupdate⟩ | ⟨hjump, hbad, hupdate⟩ | ⟨hjump, hbad, hupdate⟩ | ⟨hlate, hupdate⟩
      · refine .inr (.inl ⟨Bool.eq_false_iff.2 fun hinits => ?_, rfl, _,
          receivePacket_accepted timestamp (hstart.trans hupdate), ⟨h.probation, ?_⟩, hstarted, rfl⟩)
        · exact absurd hnext (Nat.not_lt.2 (hinit.1 hinits).1.1)
        · have hcycles := h.cycles
          have hmod : (UInt32.ofNat rtpSeqMod).toNat = rtpSeqMod := rfl
          dsimp only
          split
          case isTrue =>
            rw [UInt32.toNat_add, hmod, rtpSeqMod] at *
            omega
          case isFalse => exact hcycles
      · exact .inl ⟨hinit.2 ⟨hjump, hbad⟩, _, receivePacket_accepted timestamp (hstart.trans hupdate),
          ⟨h.probation, rfl⟩, hstarted, hzero⟩
      · exact .inr (.inr ⟨Bool.eq_false_iff.2 fun hinits => hbad (hinit.1 hinits).2, rfl, _,
          receivePacket_ignored timestamp (hstart.trans hupdate), ⟨h.probation, h.cycles⟩, hstarted, rfl,
          rfl⟩)
      · refine .inr (.inl ⟨Bool.eq_false_iff.2 fun hinits => ?_, rfl, _,
          receivePacket_accepted timestamp (hstart.trans hupdate), ⟨h.probation, h.cycles⟩, hstarted, rfl⟩)
        exact absurd hlate (Nat.not_lt.2 (hinit.1 hinits).1.2)

end

/-! ## Storing a packet -/

namespace RtpStreamSend

section
variable {s s' : RtpStreamSend} {behind : UInt8} {packet q : Packet} {slot : Nat} {item : BufferItem}

/-- The item of a packet whose clone is in a slot. -/
def newItem (s : RtpStreamSend) (packet q : Packet) (slot : Nat) : BufferItem :=
  { seq32 := packet.getSequenceNumber.toUInt32 + s.stream.cycles
    clone := { number := s.clones, slot, packet := q, source := packet } }

/-- What is in front of a new item. -/
def before (s : RtpStreamSend) (item : BufferItem) : List BufferItem :=
  Sorted.smaller BufferItem.key item.key s.buffer

/-- The buffer with a new item. -/
def inserted (s : RtpStreamSend) (item : BufferItem) : List BufferItem :=
  Sorted.insertAt BufferItem.key item.key item s.buffer

/-- The slot of a new item, and the buffer with it: in the next free slot, or in that of the first item,
which goes. -/
inductive Places (s : RtpStreamSend) (item : BufferItem) : Nat → List BufferItem → Prop
  | free (hfree : s.buffer = [] ∨ s.before item ≠ [] ∧ s.buffer.length < s.storage.length) :
      Places s item s.buffer.length (s.inserted item)
  | full {first : BufferItem} {rest : List BufferItem} (hbuffer : s.buffer = first :: rest)
      (hbefore : s.before item ≠ []) (hfull : s.storage.length ≤ s.buffer.length) :
      Places s item first.clone.slot (s.inserted item).tail

/-- **What `StorePacket` does**: nothing, or it clones the packet into a slot and places its item. -/
theorem storePacket_cases (h : s.storePacket behind packet = .ok s') :
    s' = s ∨ (packet.size ≤ mtuSize ∧ ∃ q slot buffer,
      packet.clone behind (s.storage.getD slot []) = .ok q ∧
      Places s (s.newItem packet q slot) slot buffer ∧
      s' = { s with storage := s.storage.set slot q.buf, clones := s.clones + 1, buffer }) := by
  unfold storePacket at h
  split at h
  case isTrue =>
    cases h
    exact .inl rfl
  case isFalse hsize =>
    dsimp only at h
    split at h
    case h_1 hbuffer =>
      obtain ⟨⟨t, item⟩, hclone, h⟩ := Checked.bind_eq_ok.1 h
      obtain ⟨q, hq, hclone⟩ := Checked.bind_eq_ok.1 hclone
      cases hclone
      cases h
      have hinserted : s.inserted (s.newItem packet q 0) = [s.newItem packet q 0] := by
        rw [inserted, hbuffer]
        rfl
      have hplace : Places s (s.newItem packet q 0) _ _ := .free (.inl hbuffer)
      rw [hinserted, hbuffer] at hplace
      exact .inr ⟨Nat.le_of_not_lt hsize, q, 0, _, hq, hplace, rfl⟩
    case h_2 first rest hbuffer =>
      rw [← hbuffer] at h
      split at h
      case isTrue =>
        cases h
        exact .inl rfl
      case isFalse hbefore =>
        split at h
        case isTrue hfree =>
          obtain ⟨⟨t, item⟩, hclone, h⟩ := Checked.bind_eq_ok.1 h
          obtain ⟨q, hq, hclone⟩ := Checked.bind_eq_ok.1 hclone
          cases hclone
          cases h
          have hplace : Places s (s.newItem packet q s.buffer.length) _ _ := .free (.inr ⟨hbefore, hfree⟩)
          exact .inr ⟨Nat.le_of_not_lt hsize, q, _, _, hq, hplace, rfl⟩
        case isFalse hfull =>
          obtain ⟨⟨t, item⟩, hclone, h⟩ := Checked.bind_eq_ok.1 h
          obtain ⟨q, hq, hclone⟩ := Checked.bind_eq_ok.1 hclone
          cases hclone
          cases h
          have hplace : Places s (s.newItem packet q first.clone.slot) _ _ :=
            .full hbuffer hbefore (Nat.le_of_not_lt hfull)
          exact .inr ⟨Nat.le_of_not_lt hsize, q, _, _, hq, hplace, rfl⟩

end

end RtpStreamSend

/-! ## The invariant -/

/-- What an item says, but for the time at which it was resent. -/
def BufferItem.entry (item : BufferItem) : UInt32 × Clone := (item.seq32, item.clone)

namespace RtpStreamSend

/-- What holds of the send buffer at all times. -/
structure Kept (s : RtpStreamSend) : Prop where
  aligned : s.stream.Aligned
  stores : ∀ store ∈ s.storage, store.length = mtuSize
  length_le : s.buffer.length ≤ s.storage.length
  slot_lt : ∀ item ∈ s.buffer, item.clone.slot < s.buffer.length
  slots : (s.buffer.map (·.clone.slot)).Nodup
  number_lt : ∀ item ∈ s.buffer, item.clone.number < s.clones
  numbers : (s.buffer.map (·.clone.number)).Nodup
  sorted : s.buffer.Pairwise fun a b => a.key ≤ b.key
  held : ∀ item ∈ s.buffer, s.storage.getD item.clone.slot [] = item.clone.packet.buf
  cloned : ∀ item ∈ s.buffer, item.clone.packet.IsCloneOf item.clone.source
  seq : ∀ item ∈ s.buffer, item.seq32.toNat % rtpSeqMod = item.clone.source.getSequenceNumber.toNat

section
variable {s t : RtpStreamSend} {behind : UInt8} {packet q : Packet} {slot : Nat} {item : BufferItem}
  {buffer : List BufferItem}

/-- A new buffer is empty. -/
theorem kept_new (clockRate : UInt32) (useNack : Bool) (bufferSize : Nat) :
    Kept (new clockRate useNack bufferSize) :=
  { aligned := ⟨rfl, rfl⟩
    stores := fun store h => by rw [List.eq_of_mem_replicate h, List.length_replicate]
    length_le := Nat.zero_le _
    slot_lt := nofun
    slots := List.nodup_nil
    number_lt := nofun
    numbers := List.nodup_nil
    sorted := .nil
    held := nofun
    cloned := nofun
    seq := nofun }

/-- A buffer that is cleared is empty. -/
theorem Kept.clearBuffer (h : Kept s) : Kept s.clearBuffer :=
  { kept_new s.clockRate s.useNack 0 with
    aligned := h.aligned
    stores := h.stores
    length_le := Nat.zero_le _
    slot_lt := nofun
    number_lt := nofun
    held := nofun }

/-- The invariant is about the entries of the buffer, the storage, and the counters. -/
theorem Kept.congr (h : Kept s) (haligned : t.stream.Aligned) (hstorage : t.storage = s.storage)
    (hclones : t.clones = s.clones) (hbuffer : t.buffer.map BufferItem.entry = s.buffer.map BufferItem.entry) :
    Kept t := by
  have hmap : ∀ {α : Type} (f : UInt32 × Clone → α),
      t.buffer.map (fun item => f item.entry) = s.buffer.map fun item => f item.entry := by
    intro α f
    have hf := congrArg (List.map f) hbuffer
    rwa [List.map_map, List.map_map] at hf
  have hall : ∀ P : UInt32 × Clone → Prop, (∀ item ∈ s.buffer, P item.entry) →
      ∀ item ∈ t.buffer, P item.entry := by
    intro P hP
    rw [← List.forall_mem_map] at hP ⊢
    rwa [hbuffer]
  have hlen : t.buffer.length = s.buffer.length := by
    have hlen := congrArg List.length hbuffer
    rwa [List.length_map, List.length_map] at hlen
  refine {
    aligned := haligned
    stores := by rw [hstorage]; exact h.stores
    length_le := by rw [hlen, hstorage]; exact h.length_le
    slot_lt := by
      rw [hlen]
      exact hall (fun e => e.2.slot < s.buffer.length) h.slot_lt
    slots := by
      have hslots := hmap fun e => e.2.slot
      exact hslots ▸ h.slots
    number_lt := by
      rw [hclones]
      exact hall (fun e => e.2.number < s.clones) h.number_lt
    numbers := by
      have hnumbers := hmap fun e => e.2.number
      exact hnumbers ▸ h.numbers
    sorted := ?_
    held := by
      rw [hstorage]
      exact hall (fun e => s.storage.getD e.2.slot [] = e.2.packet.buf) h.held
    cloned := hall (fun e => e.2.packet.IsCloneOf e.2.source) h.cloned
    seq := hall (fun e => e.1.toNat % rtpSeqMod = e.2.source.getSequenceNumber.toNat) h.seq }
  have hkeys : t.buffer.map BufferItem.key = s.buffer.map BufferItem.key := hmap fun e => e.1.toNat
  have hsorted : (s.buffer.map BufferItem.key).Pairwise (· ≤ ·) := List.pairwise_map.2 h.sorted
  rw [← hkeys] at hsorted
  exact List.pairwise_map.1 hsorted

/-- The items that stay when one is placed: their slots are others, and there is room. -/
theorem Places.kept (h : Kept s) (hstorage : s.storage ≠ []) (hplaces : Places s item slot buffer) :
    ∃ kept, kept.Sublist s.buffer ∧ buffer.Perm (item :: kept) ∧ (∀ i ∈ kept, i.clone.slot ≠ slot) ∧
      s.buffer.length ≤ buffer.length ∧ slot < buffer.length ∧ buffer.length ≤ s.storage.length := by
  cases hplaces with
  | free hfree =>
      have hperm : (s.inserted item).Perm (item :: s.buffer) := Sorted.insertAt_perm item s.buffer
      have hlen : (s.inserted item).length = s.buffer.length + 1 := Sorted.length_insertAt item s.buffer
      refine ⟨s.buffer, List.Sublist.refl _, hperm, fun i hi heq => ?_, ?_, ?_, ?_⟩
      · exact absurd (h.slot_lt i hi) (Nat.not_lt.2 (Nat.le_of_eq heq.symm))
      · rw [hlen]
        exact Nat.le_succ _
      · rw [hlen]
        exact Nat.lt_succ_self _
      · rw [hlen]
        rcases hfree with hnil | ⟨-, hlt⟩
        · rw [hnil]
          exact List.length_pos_iff.2 hstorage
        · exact hlt
  | @full first rest hbuffer hbefore hfull =>
      rw [before, hbuffer] at hbefore
      obtain ⟨rest', hinserted, hperm⟩ := Sorted.insertAt_cons (x := item) hbefore
      have htail : (s.inserted item).tail = rest' := by
        rw [inserted, hbuffer, hinserted, List.tail_cons]
      have hlen : rest'.length = s.buffer.length := by
        rw [hperm.length_eq, hbuffer, List.length_cons, List.length_cons]
      have hslots := h.slots
      rw [hbuffer, List.map_cons, List.nodup_cons] at hslots
      rw [htail, hbuffer, hlen]
      refine ⟨rest, List.sublist_cons_self _ _, hperm, fun i hi heq => hslots.1 ?_, ?_, ?_, ?_⟩
      · rw [← heq]
        exact List.mem_map_of_mem hi
      · rw [hbuffer]
      · exact h.slot_lt first (by rw [hbuffer]; exact List.mem_cons_self)
      · exact h.length_le

/-- The items with a new one. -/
theorem Places.mem (hplaces : Places s item slot buffer) {i : BufferItem} (hi : i ∈ buffer) :
    i = item ∨ i ∈ s.buffer := by
  have hinserted : ∀ i ∈ s.inserted item, i = item ∨ i ∈ s.buffer := fun i hi =>
    List.mem_cons.1 ((Sorted.insertAt_perm item s.buffer).mem_iff.1 hi)
  cases hplaces with
  | free => exact hinserted i hi
  | full => exact hinserted i (List.mem_of_mem_tail hi)

/-- The buffer stays sorted. -/
theorem Places.sorted (h : Kept s) (hplaces : Places s item slot buffer) :
    buffer.Pairwise fun a b => a.key ≤ b.key := by
  have hinserted : (s.inserted item).Pairwise fun a b => a.key ≤ b.key :=
    Sorted.pairwise_insertAt h.sorted (fun a ha => (Sorted.lt_of_mem_smaller h.sorted ha).le)
      fun a ha => Sorted.le_of_mem_others ha
  cases hplaces with
  | free => exact hinserted
  | full => exact hinserted.sublist (List.tail_sublist _)

/-- The number of a new item, in its 16 bits. -/
theorem newItem_seq (haligned : s.stream.Aligned) :
    (s.newItem packet q slot).seq32.toNat % rtpSeqMod = packet.getSequenceNumber.toNat := by
  have hcycles := haligned.cycles
  have hlt := packet.getSequenceNumber.toNat_lt
  change (packet.getSequenceNumber.toUInt32 + s.stream.cycles).toNat % rtpSeqMod = _
  rw [UInt32.toNat_add, UInt16.toNat_toUInt32]
  rw [rtpSeqMod] at hcycles ⊢
  omega

/-- **Storing a packet keeps the invariant**: the slot that is written is that of no other item. -/
theorem Kept.storePacket (h : Kept s) (hstorage : s.storage ≠ [])
    (hpadded : packet.payloadPadding ≠ 0 → packet.buf.getD (packet.size - 1) 0 = packet.payloadPadding)
    (hstore : s.storePacket behind packet = .ok t) : Kept t := by
  rcases storePacket_cases hstore with rfl | ⟨-, q, slot, buffer, hclone, hplaces, rfl⟩
  · exact h
  obtain ⟨hcopy, hspace, hbuf⟩ := Packet.clone_eq hclone hpadded
  obtain ⟨kept, hsub, hperm, hother, hle, hslot, hfits⟩ := hplaces.kept h hstorage
  have hmem : ∀ i ∈ buffer, i = s.newItem packet q slot ∨ i ∈ kept := fun i hi =>
    List.mem_cons.1 (hperm.mem_iff.1 hi)
  exact {
    aligned := h.aligned
    stores := by
      intro store hstore
      rcases List.mem_or_eq_of_mem_set hstore with hstore | rfl
      · exact h.stores store hstore
      · have hlt := hslot.trans_le hfits
        rw [← h.stores _ (List.getElem_mem hlt), ← List.getD_eq_getElem s.storage [] hlt, hbuf,
          List.length_append, List.length_drop, hcopy.length_wire]
        omega
    length_le := by
      rw [List.length_set]
      exact hfits
    slot_lt := by
      intro i hi
      rcases hmem i hi with rfl | hi
      · exact hslot
      · exact (h.slot_lt i (hsub.subset hi)).trans_le hle
    slots := by
      refine (hperm.map _).nodup_iff.2 (List.nodup_cons.2 ⟨?_, h.slots.sublist (hsub.map _)⟩)
      intro hin
      obtain ⟨i, hi, heq⟩ := List.mem_map.1 hin
      exact hother i hi heq
    number_lt := by
      intro i hi
      rcases hmem i hi with rfl | hi
      · exact Nat.lt_succ_self _
      · exact (h.number_lt i (hsub.subset hi)).trans (Nat.lt_succ_self _)
    numbers := by
      refine (hperm.map _).nodup_iff.2 (List.nodup_cons.2 ⟨?_, h.numbers.sublist (hsub.map _)⟩)
      intro hin
      obtain ⟨i, hi, heq⟩ := List.mem_map.1 hin
      exact absurd (h.number_lt i (hsub.subset hi)) (Nat.not_lt.2 (Nat.le_of_eq heq.symm))
    sorted := hplaces.sorted h
    held := by
      intro i hi
      rcases hmem i hi with rfl | hi
      · change (s.storage.set slot q.buf).getD slot [] = q.buf
        rw [List.getD_eq_getElem?_getD, List.getElem?_set_self (hslot.trans_le hfits), Option.getD_some]
      · have hne := hother i hi
        dsimp only
        rw [List.getD_eq_getElem?_getD, List.getElem?_set_ne hne.symm, ← List.getD_eq_getElem?_getD]
        exact h.held i (hsub.subset hi)
    cloned := by
      intro i hi
      rcases hmem i hi with rfl | hi
      · exact hcopy
      · exact h.cloned i (hsub.subset hi)
    seq := by
      intro i hi
      rcases hmem i hi with rfl | hi
      · exact newItem_seq h.aligned
      · exact h.seq i (hsub.subset hi) }

end

/-! ## Requests -/

/-- What a request does to the buffer: from the first item to the last, it goes on, or hands out a packet
whose number it looks for and that is to be resent, and marks it. -/
inductive Hands (s : RtpStreamSend) (now : UInt64) (asked : UInt32 → Prop) :
    List BufferItem → List Clone → List BufferItem → Prop
  | nil : Hands s now asked [] [] []
  | pass {item : BufferItem} {l l' : List BufferItem} {handed : List Clone}
      (hrest : Hands s now asked l handed l') : Hands s now asked (item :: l) handed (item :: l')
  | hand {item : BufferItem} {l l' : List BufferItem} {handed : List Clone} (hasked : asked item.seq32)
      (hjudge : s.judge now item = .ok .resend) (hrest : Hands s now asked l handed l') :
      Hands s now asked (item :: l) (item.clone :: handed) ({ item with resentAtTime := now } :: l')

/-- The items of a search. -/
def Search.items (search : Search) : List BufferItem := search.passed ++ search.rest

/-- What the loop over the buffer comes to. -/
inductive Found (s : RtpStreamSend) (now : UInt64) (seq32 : UInt32) (search : Search) :
    Except Fault Search → Prop
  | absent {front back : List BufferItem} (hrest : search.rest = front ++ back)
      (hfront : ∀ a ∈ front, a.seq32 < seq32) (hback : ∀ a ∈ back.head?, seq32 < a.seq32) :
      Found s now seq32 search (.ok { search with passed := search.passed ++ front, rest := back })
  | refused {front back : List BufferItem} {item : BufferItem} {verdict : Verdict}
      (hrest : search.rest = front ++ item :: back) (hfront : ∀ a ∈ front, a.seq32 < seq32)
      (hseq : item.seq32 = seq32) (hjudge : s.judge now item = .ok verdict) (hne : verdict ≠ .resend) :
      Found s now seq32 search (.ok { search with passed := search.passed ++ front, rest := item :: back })
  | resent {front back : List BufferItem} {item : BufferItem} {container : Container}
      (hrest : search.rest = front ++ item :: back) (hfront : ∀ a ∈ front, a.seq32 < seq32)
      (hseq : item.seq32 = seq32) (hjudge : s.judge now item = .ok .resend)
      (hput : search.container.put search.containerIdx (some item.clone) = .ok container) :
      Found s now seq32 search (.ok {
        passed := search.passed ++ front, rest := { item with resentAtTime := now } :: back, container
        containerIdx := search.containerIdx + 1 })
  | overwrites {item : BufferItem} {f : Fault}
      (hput : search.container.put search.containerIdx (some item.clone) = .error f) :
      Found s now seq32 search (.error f)
  | divides {front back : List BufferItem} {item : BufferItem} {f : Fault}
      (hrest : search.rest = front ++ item :: back) (hseq : item.seq32 = seq32)
      (hjudge : s.judge now item = .error f) : Found s now seq32 search (.error f)

section
variable {s : RtpStreamSend} {now : UInt64} {asked : UInt32 → Prop} {search search' : Search}
  {container container' : Container}

theorem Hands.refl (l : List BufferItem) : Hands s now asked l [] l := by
  induction l with
  | nil => exact .nil
  | cons item l ih => exact ih.pass

/-- The entries stay what they are, whatever is handed out. -/
theorem Hands.entries {l l' : List BufferItem} {handed : List Clone} (h : Hands s now asked l handed l') :
    l'.map BufferItem.entry = l.map BufferItem.entry := by
  induction h with
  | nil => rfl
  | pass _ ih => rw [List.map_cons, List.map_cons, ih]
  | hand _ _ _ ih =>
      rw [List.map_cons, List.map_cons, ih]
      rfl

/-- Items in front stay as they are. -/
theorem Hands.behind (front : List BufferItem) {l l' : List BufferItem} {handed : List Clone}
    (h : Hands s now asked l handed l') : Hands s now asked (front ++ l) handed (front ++ l') := by
  induction front with
  | nil => exact h
  | cons item front ih => exact ih.pass

theorem Hands.mono {asked' : UInt32 → Prop} (hsub : ∀ n, asked n → asked' n) {l l' : List BufferItem}
    {handed : List Clone} (h : Hands s now asked l handed l') : Hands s now asked' l handed l' := by
  induction h with
  | nil => exact .nil
  | pass _ ih => exact ih.pass
  | hand hasked hjudge _ ih => exact ih.hand (hsub _ hasked) hjudge

/-- The items are the same, but for those that are handed out, which are marked. -/
theorem Hands.mem {l l' : List BufferItem} {handed : List Clone} (h : Hands s now asked l handed l')
    {item : BufferItem} (hitem : item ∈ l') :
    item ∈ l ∨ item.clone ∈ handed ∧ item.resentAtTime = now := by
  induction h with
  | nil => cases hitem
  | pass _ ih =>
      rcases List.mem_cons.1 hitem with rfl | hitem
      · exact .inl List.mem_cons_self
      · exact (ih hitem).imp_left (List.mem_cons_of_mem _)
  | hand _ _ _ ih =>
      rcases List.mem_cons.1 hitem with rfl | hitem
      · exact .inr ⟨List.mem_cons_self, rfl⟩
      · exact (ih hitem).imp (List.mem_cons_of_mem _) fun hhanded => ⟨List.mem_cons_of_mem _ hhanded.1, hhanded.2⟩

/-- What is handed out: a packet of an item that is asked for and is to be resent. -/
theorem Hands.handed_mem {l l' : List BufferItem} {handed : List Clone} (h : Hands s now asked l handed l')
    {c : Clone} (hc : c ∈ handed) : ∃ item ∈ l, item.clone = c ∧ asked item.seq32 ∧
      s.judge now item = .ok .resend ∧ { item with resentAtTime := now } ∈ l' := by
  induction h with
  | nil => cases hc
  | pass _ ih =>
      obtain ⟨item, hitem, hclone, hasked, hjudge, hmark⟩ := ih hc
      exact ⟨item, List.mem_cons_of_mem _ hitem, hclone, hasked, hjudge, List.mem_cons_of_mem _ hmark⟩
  | hand hasked hjudge _ ih =>
      rcases List.mem_cons.1 hc with rfl | hc
      · exact ⟨_, List.mem_cons_self, rfl, hasked, hjudge, List.mem_cons_self⟩
      · obtain ⟨item, hitem, hclone, hasked, hjudge, hmark⟩ := ih hc
        exact ⟨item, List.mem_cons_of_mem _ hitem, hclone, hasked, hjudge, List.mem_cons_of_mem _ hmark⟩

/-- Each packet is handed out once, and in the order of the buffer. -/
theorem Hands.sublist {l l' : List BufferItem} {handed : List Clone} (h : Hands s now asked l handed l') :
    handed.Sublist (l.map (·.clone)) := by
  induction h with
  | nil => exact .slnil
  | pass _ ih => exact ih.cons _
  | hand _ _ _ ih => exact ih.cons_cons _

/-- A place of the container is written within it. -/
theorem put_eq_ok {i : Nat} {c : Option Clone} (h : container.put i c = .ok container') :
    i < container.length ∧ container' = container.set i c := by
  unfold Container.put at h
  split at h
  case isTrue hlt =>
    cases h
    exact ⟨hlt, rfl⟩
  case isFalse => cases h

/-- The container has the packets that are handed out, up to its index. -/
structure Filled (search search' : Search) (handed : List Clone) : Prop where
  length : search'.container.length = search.container.length
  index : search'.containerIdx = search.containerIdx + handed.length
  take : search'.container.take search'.containerIdx =
    search.container.take search.containerIdx ++ handed.map some

/-- Nothing is put into the container. -/
theorem Filled.same (hcontainer : search'.container = search.container)
    (hindex : search'.containerIdx = search.containerIdx) : Filled search search' [] where
  length := congrArg List.length hcontainer
  index := hindex
  take := by rw [hcontainer, hindex, List.map_nil, List.append_nil]

/-- One packet is put into the container. -/
theorem Filled.put {c : Clone} (hput : search.container.put search.containerIdx (some c) = .ok container)
    (hcontainer : search'.container = container)
    (hindex : search'.containerIdx = search.containerIdx + 1) : Filled search search' [c] := by
  obtain ⟨hlt, rfl⟩ := put_eq_ok hput
  refine ⟨?_, hindex, ?_⟩
  · rw [hcontainer, List.length_set]
  · rw [hcontainer, hindex, List.take_add_one, List.take_set_of_le (Nat.le_refl _),
      List.getElem?_set_self hlt]
    rfl

theorem Filled.trans {search'' : Search} {handed more : List Clone} (h : Filled search search' handed)
    (h' : Filled search' search'' more) : Filled search search'' (handed ++ more) where
  length := h'.length.trans h.length
  index := by rw [h'.index, h.index, List.length_append, Nat.add_assoc]
  take := by rw [h'.take, h.take, List.map_append, List.append_assoc]

/-- **One requested number.** -/
theorem lookFor_found (s : RtpStreamSend) (now : UInt64) (seq32 : UInt32) (search : Search) :
    Found s now seq32 search (s.lookFor now seq32 search) := by
  have hsplit := List.takeWhile_append_dropWhile (p := (·.seq32 < seq32)) (l := search.rest)
  have hfront : ∀ a ∈ search.rest.takeWhile (·.seq32 < seq32), a.seq32 < seq32 := fun a ha =>
    of_decide_eq_true (List.mem_takeWhile_imp (p := fun a : BufferItem => decide (a.seq32 < seq32)) ha)
  have hhead : ∀ a ∈ (search.rest.dropWhile (·.seq32 < seq32)).head?, seq32 ≤ a.seq32 := by
    intro a ha
    have hnot := List.head?_dropWhile_not (p := fun a : BufferItem => decide (a.seq32 < seq32)) search.rest
    rw [Option.mem_def.1 ha] at hnot
    exact UInt32.not_lt.1 (of_decide_eq_false hnot)
  unfold lookFor
  dsimp only
  split
  case h_1 hrest =>
    rw [hrest] at hsplit
    exact .absent hsplit.symm hfront nofun
  case h_2 item rest hrest =>
    rw [hrest] at hsplit hhead
    split
    case isTrue hseq =>
      cases hjudge : s.judge now item with
      | error f => exact .divides hsplit.symm hseq hjudge
      | ok verdict =>
          cases verdict with
          | resend =>
              cases hput : search.container.put search.containerIdx (some item.clone) with
              | error f => exact .overwrites hput
              | ok container => exact .resent hsplit.symm hfront hseq hjudge hput
          | tooOld => exact .refused hsplit.symm hfront hseq hjudge nofun
          | alreadyResent => exact .refused hsplit.symm hfront hseq hjudge nofun
    case isFalse hne =>
      refine .absent hsplit.symm hfront fun a ha => ?_
      cases ha
      exact UInt32.lt_of_le_of_ne (hhead item rfl) (Ne.symm hne)

/-- The numbers that are looked for: the next one, if it is requested, and those of the set bits. -/
def Asked (requested : Bool) (bitmask : UInt16) (seq32 n : UInt32) : Prop :=
  requested = true ∧ n = seq32 ∨
    ∃ i < 16, bitmask.toNat.testBit i = true ∧ n = seq32 + 1 + UInt32.ofNat i

/-- The lowest bit of a mask. -/
theorem decide_and_one (bitmask : UInt16) : decide (bitmask &&& 1 ≠ 0) = bitmask.toNat.testBit 0 := by
  rw [Nat.testBit_zero, decide_eq_decide, ne_eq, ← UInt16.toNat_inj, UInt16.toNat_and]
  change ¬ bitmask.toNat &&& 1 = 0 ↔ _
  rw [Nat.and_one_is_mod]
  omega

theorem toNat_shiftRight_one (bitmask : UInt16) : (bitmask >>> 1).toNat = bitmask.toNat / 2 := by
  rw [UInt16.toNat_shiftRight]
  exact Nat.shiftRight_one _

/-- A mask has sixteen bits. -/
theorem lt_of_testBit {bitmask : UInt16} {i : Nat} (h : bitmask.toNat.testBit i = true) : i < 16 := by
  by_contra hge
  have hsmall : bitmask.toNat < 2 ^ i :=
    bitmask.toNat_lt.trans_le (Nat.pow_le_pow_right Nat.two_pos (Nat.le_of_not_lt hge))
  rw [Nat.testBit_lt_two_pow hsmall] at h
  cases h

/-- The loop shifts the bits. -/
theorem Asked.next {requested : Bool} {bitmask : UInt16} {seq32 n : UInt32}
    (h : Asked (bitmask &&& 1 ≠ 0) (bitmask >>> 1) (seq32 + 1) n) : Asked requested bitmask seq32 n := by
  rcases h with ⟨hbit, rfl⟩ | ⟨i, -, hbit, rfl⟩
  · rw [decide_and_one] at hbit
    exact .inr ⟨0, Nat.succ_pos _, hbit, (UInt32.add_zero _).symm⟩
  · rw [toNat_shiftRight_one, ← Nat.testBit_add_one] at hbit
    refine .inr ⟨i + 1, lt_of_testBit hbit, hbit, ?_⟩
    rw [UInt32.ofNat_add, UInt32.add_assoc (seq32 + 1), UInt32.add_comm 1]
    rfl

/-- No number comes twice. -/
theorem not_asked_next {requested : Bool} {bitmask : UInt16} {seq32 : UInt32} :
    ¬ Asked requested bitmask (seq32 + 1) seq32 := by
  have hone : (1 : UInt32).toNat = 1 := rfl
  have hlt := seq32.toNat_lt
  rintro (⟨-, heq⟩ | ⟨i, hi, -, heq⟩)
  · have hnat := congrArg UInt32.toNat heq
    rw [UInt32.toNat_add, hone] at hnat
    omega
  · have hnat := congrArg UInt32.toNat heq
    rw [UInt32.toNat_add, UInt32.toNat_add, UInt32.toNat_add, hone, UInt32.toNat_ofNat'] at hnat
    omega

/-- In 16 bits, these are the numbers that the item asks for. -/
theorem Asked.requested {bitmask : UInt16} {seq32 n : UInt32} (h : Asked true bitmask seq32 n) :
    n.toUInt16 ∈ Rtcp.requestedSeqs seq32.toUInt16 bitmask := by
  rw [Rtcp.mem_requestedSeqs]
  rcases h with ⟨-, rfl⟩ | ⟨i, hi, hbit, rfl⟩
  · exact .inl rfl
  · refine .inr ⟨i, hi, hbit, ?_⟩
    rw [UInt32.toUInt16_add, UInt32.toUInt16_add, UInt32.toUInt16_ofNat']
    rfl

/-- **The loop over the requested numbers** hands out each item once at most: when it looks for the next
number, an item that it has handed out is not found again. -/
theorem lookForAll_hands {fuel : Nat} {requested : Bool} {bitmask : UInt16} {seq32 : UInt32}
    (h : s.lookForAll now fuel requested bitmask seq32 search = .ok search') :
    ∃ handed rest, Hands s now (Asked requested bitmask seq32) search.rest handed rest ∧
      search'.items = search.passed ++ rest ∧ Filled search search' handed := by
  induction fuel generalizing requested bitmask seq32 search with
  | zero =>
      unfold lookForAll at h
      split at h
      case isTrue => cases h
      case isFalse =>
        cases h
        exact ⟨[], _, .refl _, rfl, .same rfl rfl⟩
  | succ fuel ih =>
      unfold lookForAll at h
      split at h
      case isTrue =>
        obtain ⟨search₁, hfirst, h⟩ := Checked.bind_eq_ok.1 h
        obtain ⟨more, rest, hhands, hitems, hfilled⟩ := ih h
        split at hfirst
        case isTrue hrequested =>
          have hfound := lookFor_found s now seq32 search
          rw [hfirst] at hfound
          cases hfound with
          | @absent front back hrest =>
              refine ⟨more, front ++ rest, ?_, ?_, ⟨hfilled.length, hfilled.index, hfilled.take⟩⟩
              · rw [hrest]
                exact (hhands.mono fun _ => Asked.next).behind front
              · rw [hitems, List.append_assoc]
          | @refused front back item _ hrest =>
              refine ⟨more, front ++ rest, ?_, ?_, ⟨hfilled.length, hfilled.index, hfilled.take⟩⟩
              · rw [hrest]
                exact (hhands.mono fun _ => Asked.next).behind front
              · rw [hitems, List.append_assoc]
          | @resent front back item _ hrest _ hseq hjudge hput =>
              cases hhands with
              | hand hasked => exact absurd (hseq ▸ hasked) not_asked_next
              | @pass _ _ rest _ hhands =>
                  refine ⟨item.clone :: more, front ++ { item with resentAtTime := now } :: rest, ?_, ?_,
                    (Filled.put hput rfl rfl).trans hfilled⟩
                  · rw [hrest]
                    refine ((hhands.mono fun _ => Asked.next).hand ?_ hjudge).behind front
                    exact .inl ⟨hrequested, hseq⟩
                  · rw [hitems, List.append_assoc]
        case isFalse =>
          cases hfirst
          exact ⟨more, rest, hhands.mono fun _ => Asked.next, hitems, hfilled⟩
      case isFalse =>
        cases h
        exact ⟨[], _, .refl _, rfl, .same rfl rfl⟩

/-- The first number that is looked for is the requested one in another cycle. -/
theorem firstRequested_toUInt16 {seq : UInt16} {firstSeq32 lastSeq32 base : UInt32}
    (haligned : s.stream.Aligned) (h : s.firstRequested seq firstSeq32 lastSeq32 = some base) :
    base.toUInt16 = seq := by
  have hcycles : s.stream.cycles.toUInt16 = 0 := by
    rw [← UInt16.toNat_inj, UInt32.toNat_toUInt16]
    exact haligned.cycles
  have hcycle : (seq.toUInt32 + s.stream.cycles).toUInt16 = seq := by
    rw [UInt32.toUInt16_add, hcycles, UInt16.add_zero, UInt16.toUInt16_toUInt32]
  unfold firstRequested at h
  dsimp only at h
  split at h
  case isFalse =>
    cases h
    exact hcycle
  case isTrue =>
    split at h
    case isFalse => cases h
    case isTrue =>
      split at h
      case isTrue => cases h
      case isFalse =>
        cases h
        rw [UInt32.toUInt16_sub, hcycle]
        exact UInt16.sub_zero _

/-- The container of a request: the packets, and a null entry behind them. -/
structure Container.Holds (container : Container) (handed : List Clone) : Prop where
  take : container.take handed.length = handed.map some
  null : container[handed.length]? = some none

/-- **What a request does**: it hands out packets that it decides to resend, and marks them. -/
theorem requestRtpRetransmission_hands {seq bitmask : UInt16} {s' : RtpStreamSend}
    (h : s.requestRtpRetransmission seq bitmask container now = .ok (s', container')) :
    ∃ handed, Hands s now (fun n => s.stream.Aligned → n.toUInt16 ∈ Rtcp.requestedSeqs seq bitmask)
        s.buffer handed s'.buffer ∧ container'.Holds handed ∧ s' = { s with buffer := s'.buffer } := by
  unfold requestRtpRetransmission at h
  obtain ⟨container₁, hput, h⟩ := Checked.bind_eq_ok.1 h
  obtain ⟨hlt, rfl⟩ := put_eq_ok hput
  have hempty : Container.Holds (container.set 0 none) [] := ⟨rfl, List.getElem?_set_self hlt⟩
  split at h
  case isTrue =>
    cases h
    exact ⟨[], .refl _, hempty, rfl⟩
  case isFalse =>
    split at h
    case h_1 first last hfirst hlast =>
      obtain ⟨-, -, h⟩ := Checked.bind_eq_ok.1 h
      split at h
      case h_1 =>
        cases h
        exact ⟨[], .refl _, hempty, rfl⟩
      case h_2 firstSeq32 hrange =>
        obtain ⟨search, hsearch, h⟩ := Checked.bind_eq_ok.1 h
        obtain ⟨container₂, hput₂, h⟩ := Checked.bind_eq_ok.1 h
        obtain ⟨hlt₂, rfl⟩ := put_eq_ok hput₂
        cases h
        obtain ⟨handed, rest, hhands, hitems, hfilled⟩ := lookForAll_hands hsearch
        have hindex : search.containerIdx = handed.length := hfilled.index.trans (Nat.zero_add _)
        have hitems : search.passed ++ search.rest = rest := hitems
        refine ⟨handed, hitems ▸ hhands.mono fun n hasked haligned => ?_, ⟨?_, ?_⟩, rfl⟩
        · rw [← firstRequested_toUInt16 haligned hrange]
          exact hasked.requested
        · rw [← hindex, List.take_set_of_le (Nat.le_refl _), hfilled.take]
          rfl
        · rw [← hindex]
          exact List.getElem?_set_self hlt₂
    case h_2 =>
      cases h
      exact ⟨[], .refl _, hempty, rfl⟩

end

/-! ## Runs -/

section
variable {s t : RtpStreamSend} {behind : UInt8} {packet : Packet} {now : UInt64} {accepted : Bool}

/-- The stream when the packet has been stored and its bytes are counted. -/
def recorded (s : RtpStreamSend) (packet : Packet) (now : UInt64) : RtpStreamSend :=
  { s with
    receivedBytes := s.receivedBytes + UInt64.ofNat packet.payloadLength
    lastPacketTimeMs := now, lastPacketRtpTimestamp := packet.getTimestamp }

/-- To count a packet does not touch the storage. -/
theorem storage_countPacket (s : RtpStreamSend) (packet : Packet) :
    (s.countPacket packet).1.storage = s.storage := by
  unfold countPacket
  dsimp only
  split <;> rfl

/-- **What `ReceivePacket` does**: it counts the packet, and stores it if it is accepted. -/
theorem receivePacket_cases (h : s.receivePacket behind packet now = .ok (t, accepted)) :
    ((s.countPacket packet).2 = none ∧ t = (s.countPacket packet).1) ∨
    ∃ number u, (s.countPacket packet).2 = some number ∧ t = u.recorded packet now ∧
      (s.storage = [] ∧ u = (s.countPacket packet).1 ∨
        s.storage ≠ [] ∧ (s.countPacket packet).1.storePacket behind packet = .ok u) := by
  have hstorage := s.storage_countPacket packet
  unfold receivePacket at h
  split at h
  case h_1 base hcount =>
    cases h
    exact .inl ⟨by rw [hcount], by rw [hcount]⟩
  case h_2 base number hcount =>
    obtain ⟨u, hstored, h⟩ := Checked.bind_eq_ok.1 h
    cases h
    rw [hcount] at hstorage
    refine .inr ⟨number, u, by rw [hcount], rfl, ?_⟩
    rw [hcount, ← hstorage]
    split at hstored
    case isTrue hnil =>
      cases hstored
      exact .inl ⟨List.isEmpty_iff.1 hnil, rfl⟩
    case isFalse hne => exact .inr ⟨mt List.isEmpty_iff.2 hne, hstored⟩

/-- To count a packet keeps what is kept, unless the stream starts again. -/
theorem Kept.countPacket (h : Kept s) (packet : Packet) : Kept (s.countPacket packet).1 := by
  have haligned : (s.stream.receivePacket packet.getSequenceNumber packet.getTimestamp).1.Aligned := by
    rcases RtpStream.receivePacket_cases h.aligned packet.getSequenceNumber packet.getTimestamp with
      ⟨-, u, hu, haligned, -⟩ | ⟨-, -, u, hu, haligned, -⟩ | ⟨-, -, u, hu, haligned, -⟩ <;>
      rw [hu] <;> exact haligned
  unfold RtpStreamSend.countPacket
  dsimp only
  split
  case isTrue => exact h.clearBuffer.congr haligned rfl rfl rfl
  case isFalse => exact h.congr haligned rfl rfl rfl

/-- A packet keeps the invariant. -/
theorem Kept.receivePacket (h : Kept s)
    (hpadded : packet.payloadPadding ≠ 0 → packet.buf.getD (packet.size - 1) 0 = packet.payloadPadding)
    (hreceive : s.receivePacket behind packet now = .ok (t, accepted)) : Kept t := by
  rcases receivePacket_cases hreceive with ⟨-, rfl⟩ | ⟨-, u, -, rfl, hu⟩
  · exact h.countPacket packet
  · have hkept : Kept u := by
      rcases hu with ⟨-, rfl⟩ | ⟨hne, hstore⟩
      · exact h.countPacket packet
      · refine (h.countPacket packet).storePacket ?_ hpadded hstore
        rw [storage_countPacket]
        exact hne
    exact hkept.congr hkept.aligned rfl rfl rfl

/-- The item is that of a packet which has just been stored. -/
structure IsNew (s : RtpStreamSend) (packet : Packet) (item : BufferItem) : Prop where
  number : item.clone.number = s.clones
  resent : item.resentAtTime = 0
  source : item.clone.source = packet
  cloned : ∃ behind buffer, packet.clone behind buffer = .ok item.clone.packet

/-- What `ReceivePacket` finds in the buffer stays there or goes. -/
theorem mem_receivePacket (h : s.receivePacket behind packet now = .ok (t, accepted)) :
    s.clones ≤ t.clones ∧ ∀ item ∈ t.buffer, item ∈ s.buffer ∨ s.IsNew packet item := by
  have hcount : (s.countPacket packet).1.clones = s.clones ∧
      ∀ item ∈ (s.countPacket packet).1.buffer, item ∈ s.buffer := by
    unfold countPacket
    dsimp only
    split
    case isTrue => exact ⟨rfl, nofun⟩
    case isFalse => exact ⟨rfl, fun _ hitem => hitem⟩
  have hcounted : s.clones ≤ (s.countPacket packet).1.clones ∧
      ∀ item ∈ (s.countPacket packet).1.buffer, item ∈ s.buffer ∨ s.IsNew packet item :=
    ⟨hcount.1.symm.le, fun item hitem => .inl (hcount.2 item hitem)⟩
  rcases receivePacket_cases h with ⟨-, rfl⟩ | ⟨-, u, -, rfl, hu⟩
  · exact hcounted
  · rcases hu with ⟨-, rfl⟩ | ⟨-, hstore⟩
    · exact hcounted
    · rcases storePacket_cases hstore with rfl | ⟨-, q, slot, buffer, hclone, hplaces, rfl⟩
      · exact hcounted
      · refine ⟨Nat.le_succ_of_le hcounted.1, fun item hitem => ?_⟩
        rcases hplaces.mem hitem with rfl | hitem
        · exact .inr ⟨hcount.1, rfl, rfl, _, _, hclone⟩
        · exact hcounted.2 item hitem

/-- **Every event keeps the invariant.** -/
theorem Kept.step (h : Kept s) {e : SendEvent} (hstep : s.step e = some t) : Kept t := by
  cases e with
  | packet behind packet now =>
      obtain ⟨⟨u, accepted⟩, hu, rfl⟩ := Option.map_eq_some_iff.1 hstep
      exact h.receivePacket packet.padded (Checked.toOption_eq_some.1 hu)
  | receiverReport rtt =>
      cases hstep
      exact h.congr h.aligned rfl rfl rfl
  | request seq bitmask container now =>
      obtain ⟨⟨u, container'⟩, hu, rfl⟩ := Option.map_eq_some_iff.1 hstep
      obtain ⟨handed, hhands, -, hbuffer⟩ := requestRtpRetransmission_hands (Checked.toOption_eq_some.1 hu)
      dsimp only
      rw [hbuffer]
      exact h.congr h.aligned rfl rfl hhands.entries

/-- A packet is cloned into a slot of the storage, without a fault. -/
theorem Kept.cloneInto_ok (h : Kept s) {sections : Sections} (hshows : packet.Shows sections)
    (hsize : packet.size ≤ mtuSize) {slot : Nat} (hslot : slot < s.storage.length) (behind : UInt8)
    (packetSeq32 : UInt32) : ∃ r, s.cloneInto behind packet packetSeq32 slot = .ok r := by
  have hstore : (s.storage.getD slot []).length = mtuSize := by
    rw [List.getD_eq_getElem s.storage [] hslot]
    exact h.stores _ (List.getElem_mem hslot)
  obtain ⟨q, hq, -⟩ := hshows.clone behind (hsize.trans (Nat.le_of_eq hstore.symm))
  rw [cloneInto, hq]
  exact ⟨_, rfl⟩

/-- A packet is stored without a fault, wherever its number belongs. -/
theorem Kept.storePacket_ok (h : Kept s) (hstorage : s.storage ≠ []) {sections : Sections}
    (hshows : packet.Shows sections) (behind : UInt8) : ∃ t, s.storePacket behind packet = .ok t := by
  unfold RtpStreamSend.storePacket
  split
  case isTrue => exact ⟨s, rfl⟩
  case isFalse hsize =>
    have hsize := Nat.le_of_not_lt hsize
    dsimp only
    split
    case h_1 =>
      obtain ⟨r, hr⟩ := h.cloneInto_ok hshows hsize (List.length_pos_iff.2 hstorage) behind
        (packet.getSequenceNumber.toUInt32 + s.stream.cycles)
      rw [hr]
      exact ⟨_, rfl⟩
    case h_2 first rest hbuffer =>
      split
      case isTrue => exact ⟨s, rfl⟩
      case isFalse =>
        split
        case isTrue hfree =>
          obtain ⟨r, hr⟩ := h.cloneInto_ok hshows hsize hfree behind
            (packet.getSequenceNumber.toUInt32 + s.stream.cycles)
          rw [hr]
          exact ⟨_, rfl⟩
        case isFalse =>
          have hslot := h.slot_lt first (by rw [hbuffer]; exact List.mem_cons_self)
          obtain ⟨r, hr⟩ := h.cloneInto_ok hshows hsize (hslot.trans_le h.length_le) behind
            (packet.getSequenceNumber.toUInt32 + s.stream.cycles)
          rw [hr]
          exact ⟨_, rfl⟩

/-- **No packet of the wire stops the process**: one that shows sections is stored, or ignored. -/
theorem Kept.receivePacket_ok (h : Kept s) {sections : Sections} (hshows : packet.Shows sections)
    (behind : UInt8) (now : UInt64) : ∃ r, s.receivePacket behind packet now = .ok r := by
  have hkept := h.countPacket packet
  unfold RtpStreamSend.receivePacket
  split
  case h_1 => exact ⟨_, rfl⟩
  case h_2 base number hcount =>
    rw [hcount] at hkept
    dsimp only
    split
    case isTrue => exact ⟨_, rfl⟩
    case isFalse hne =>
      obtain ⟨t, ht⟩ := hkept.storePacket_ok (mt List.isEmpty_iff.2 hne) hshows behind
      rw [ht]
      exact ⟨_, rfl⟩

/-- The invariant holds in every state of every run. -/
theorem kept_run {clockRate : UInt32} {useNack : Bool} {bufferSize : Nat} {events : List SendEvent}
    (hrun : Machine.exec RtpStreamSend.step (new clockRate useNack bufferSize) events = some s) : Kept s :=
  Machine.exec_inv (fun _ _ _ h hstep => Kept.step h hstep) hrun (kept_new clockRate useNack bufferSize)

/-- The storage keeps its size. -/
theorem length_storage_step {e : SendEvent} (hstep : s.step e = some t) :
    t.storage.length = s.storage.length := by
  cases e with
  | packet behind packet now =>
      obtain ⟨⟨u, accepted⟩, hu, rfl⟩ := Option.map_eq_some_iff.1 hstep
      rcases receivePacket_cases (Checked.toOption_eq_some.1 hu) with ⟨-, rfl⟩ | ⟨-, u', -, rfl, hu'⟩
      · exact congrArg List.length (storage_countPacket s packet.toPacket)
      · rcases hu' with ⟨-, rfl⟩ | ⟨-, hstore⟩
        · exact congrArg List.length (storage_countPacket s packet.toPacket)
        · rcases storePacket_cases hstore with rfl | ⟨-, q, slot, buffer, -, -, rfl⟩
          · exact congrArg List.length (storage_countPacket s packet.toPacket)
          · exact List.length_set.trans (congrArg List.length (storage_countPacket s packet.toPacket))
  | receiverReport rtt =>
      cases hstep
      rfl
  | request seq bitmask container now =>
      obtain ⟨⟨u, container'⟩, hu, rfl⟩ := Option.map_eq_some_iff.1 hstep
      obtain ⟨-, -, -, hbuffer⟩ := requestRtpRetransmission_hands (Checked.toOption_eq_some.1 hu)
      dsimp only
      rw [hbuffer]

/-- The bytes of an item are those of its packet. -/
theorem Kept.wire (h : Kept s) {item : BufferItem} (hitem : item ∈ s.buffer) :
    (s.packetOf item.clone).wire = item.clone.source.wire := by
  rw [packetOf, Packet.wire, h.held item hitem]
  exact (h.cloned item hitem).wire

/-- **The send buffer.** In every state of every run: there are no more items than slots, no two items have
one slot, the items are in the order of their numbers, and the bytes of each are those of the packet that
it was stored for; and a packet that initializes the stream finds the buffer empty. -/
theorem send_buffer_storage {clockRate : UInt32} {useNack : Bool} {bufferSize : Nat}
    {events : List SendEvent}
    (hrun : Machine.exec RtpStreamSend.step (new clockRate useNack bufferSize) events = some s) :
    s.buffer.length ≤ bufferSize ∧
    (s.buffer.map (·.clone.slot)).Nodup ∧
    (s.buffer.Pairwise fun a b => a.seq32 ≤ b.seq32) ∧
    (∀ item ∈ s.buffer, (s.packetOf item.clone).wire = item.clone.source.wire) ∧
    s.onInitSeq.buffer = [] ∧
    ∀ packet, s.stream.initializes packet.getSequenceNumber = true →
      (s.countPacket packet).1.buffer = [] := by
  have hkept := kept_run hrun
  have hsize : s.storage.length = bufferSize := Machine.exec_inv (I := fun s => s.storage.length = bufferSize)
    (fun _ _ _ h hstep => (length_storage_step hstep).trans h) hrun List.length_replicate
  refine ⟨hkept.length_le.trans (Nat.le_of_eq hsize), hkept.slots,
    hkept.sorted.imp UInt32.le_iff_toNat_le.2, fun item hitem => hkept.wire hitem, rfl, fun packet hinit => ?_⟩
  unfold countPacket
  dsimp only
  rw [if_pos hinit]
  rfl

/-- Four packets, the last of them in the slot of the first, and a request. -/
theorem send_buffer_storage_full : ∃ s, Machine.exec RtpStreamSend.step (new 90000 true 3)
    [.packet 0 (mediaPacket 65534 0) 1, .packet 0 (mediaPacket 0 1) 2, .packet 0 (mediaPacket 65535 1) 3,
      .request 65534 1 (List.replicate 18 none) 4, .packet 0 (mediaPacket 1 2) 5] = some s ∧
    s.buffer.map (·.seq32) = [65536, 65537, 131071] ∧ (s.buffer.map (·.clone.slot)).Nodup := by
  have hrun : (Machine.exec RtpStreamSend.step (new 90000 true 3)
      [.packet 0 (mediaPacket 65534 0) 1, .packet 0 (mediaPacket 0 1) 2, .packet 0 (mediaPacket 65535 1) 3,
        .request 65534 1 (List.replicate 18 none) 4, .packet 0 (mediaPacket 1 2) 5]).map
      (fun s => s.buffer.map (·.seq32)) = some [65536, 65537, 131071] := by decide +kernel
  obtain ⟨s, hs, hbuffer⟩ := Option.map_eq_some_iff.1 hrun
  exact ⟨s, hs, hbuffer, (send_buffer_storage hs).2.1⟩

end

/-! ## Packets that come more than once -/

/-- The packet is stored, and an item of the buffer behind the first has its number. -/
def Repeats (s : RtpStreamSend) (packet : Packet) : Prop :=
  packet.size ≤ mtuSize ∧ ∃ number ∈ (s.countPacket packet).2,
    number ∈ (s.countPacket packet).1.buffer.tail.map (·.seq32)

instance (s : RtpStreamSend) (packet : Packet) : Decidable (s.Repeats packet) :=
  inferInstanceAs (Decidable (_ ∧ ∃ number ∈ (s.countPacket packet).2, _))

/-- No packet is stored that repeats an item behind the first. -/
def NoRepeat (s : RtpStreamSend) : SendEvent → Prop
  | .packet _ packet _ => ¬ s.Repeats packet.toPacket
  | .receiverReport _ | .request .. => True

instance (s : RtpStreamSend) : (e : SendEvent) → Decidable (s.NoRepeat e)
  | .packet _ packet _ => inferInstanceAs (Decidable (¬ s.Repeats packet.toPacket))
  | .receiverReport _ | .request .. => isTrue trivial

section
variable {s t : RtpStreamSend} {behind : UInt8} {packet q : Packet} {slot : Nat} {item : BufferItem}
  {buffer : List BufferItem}

/-- The keys stay strictly increasing, if no item behind the first has that of the new one. -/
theorem Places.strict (h : s.buffer.Pairwise fun a b => a.key < b.key)
    (hplaces : Places s item slot buffer) (hnew : ∀ a ∈ s.buffer.tail, a.key ≠ item.key) :
    buffer.Pairwise fun a b => a.key < b.key := by
  have hsorted : s.buffer.Pairwise fun a b => a.key ≤ b.key := h.imp Nat.le_of_lt
  have hall : s.before item ≠ [] → ∀ a ∈ s.buffer, a.key ≠ item.key := by
    intro hbefore a ha
    cases hbuffer : s.buffer with
    | nil =>
        rw [hbuffer] at ha
        cases ha
    | cons first rest =>
        rw [hbuffer] at ha hnew
        rcases List.mem_cons.1 ha with rfl | ha
        · rw [before, hbuffer] at hbefore
          obtain ⟨others, hothers, -⟩ := Sorted.smaller_cons hbefore
          rw [hbuffer] at hsorted
          exact (Sorted.lt_of_mem_smaller hsorted (hothers ▸ List.mem_cons_self)).ne
        · exact hnew a ha
  have hinserted : (∀ a ∈ s.buffer, a.key ≠ item.key) →
      (s.inserted item).Pairwise fun a b => a.key < b.key := by
    intro hne
    refine Sorted.pairwise_insertAt h (fun a ha => Sorted.lt_of_mem_smaller hsorted ha) fun a ha => ?_
    refine lt_of_le_of_ne (Sorted.le_of_mem_others ha) (hne a ?_).symm
    rw [← Sorted.smaller_append_others BufferItem.key item.key s.buffer]
    exact List.mem_append_right _ ha
  cases hplaces with
  | free hfree =>
      refine hinserted ?_
      rcases hfree with hnil | ⟨hbefore, -⟩
      · rw [hnil]
        exact nofun
      · exact hall hbefore
  | full _ hbefore => exact (hinserted (hall hbefore)).sublist (List.tail_sublist _)

/-- The number that `ReceivePacket` gives is that of the item. -/
theorem seq32_newItem {number : UInt32} (h : Kept s) (hnumber : (s.countPacket packet).2 = some number)
    (q : Packet) (slot : Nat) : ((s.countPacket packet).1.newItem packet q slot).seq32 = number := by
  have hstream : (s.countPacket packet).1.stream =
      (s.stream.receivePacket packet.getSequenceNumber packet.getTimestamp).1 := by
    unfold countPacket
    dsimp only
  have hcount : (s.countPacket packet).2 =
      (s.stream.receivePacket packet.getSequenceNumber packet.getTimestamp).2 := rfl
  rw [newItem, hstream]
  rw [hcount] at hnumber
  rcases RtpStream.receivePacket_cases h.aligned packet.getSequenceNumber packet.getTimestamp with
    ⟨-, u, hu, -⟩ | ⟨-, -, u, hu, -⟩ | ⟨-, -, u, hu, -⟩ <;> rw [hu] at hnumber ⊢ <;> cases hnumber
  · exact UInt32.add_comm _ _
  · exact UInt32.add_comm _ _

/-- The numbers of the buffer stay in order when a packet is counted. -/
theorem strict_countPacket (h : s.buffer.Pairwise fun a b => a.key < b.key) (packet : Packet) :
    (s.countPacket packet).1.buffer.Pairwise fun a b => a.key < b.key := by
  unfold countPacket
  dsimp only
  split
  case isTrue => exact .nil
  case isFalse => exact h

/-- A step that repeats no item keeps the numbers different. -/
theorem strict_step (hkept : Kept s) (h : s.buffer.Pairwise fun a b => a.key < b.key) {e : SendEvent}
    (he : s.NoRepeat e) (hstep : s.step e = some t) : t.buffer.Pairwise fun a b => a.key < b.key := by
  cases e with
  | packet behind packet now =>
      obtain ⟨⟨u, accepted⟩, hu, rfl⟩ := Option.map_eq_some_iff.1 hstep
      have hbase := strict_countPacket h packet.toPacket
      rcases receivePacket_cases (Checked.toOption_eq_some.1 hu) with ⟨-, rfl⟩ | ⟨number, u', hnumber, rfl, hu'⟩
      · exact hbase
      · rcases hu' with ⟨-, rfl⟩ | ⟨-, hstore⟩
        · exact hbase
        · rcases storePacket_cases hstore with rfl | ⟨hsize, q, slot, buffer, -, hplaces, rfl⟩
          · exact hbase
          · refine hplaces.strict hbase fun a ha heq => he ⟨hsize, number, hnumber, ?_⟩
            have hseq : a.seq32 = number := by
              rw [← seq32_newItem hkept hnumber q slot]
              exact UInt32.toNat_inj.1 heq
            exact hseq ▸ List.mem_map_of_mem ha
  | receiverReport rtt =>
      cases hstep
      exact h
  | request seq bitmask container now =>
      obtain ⟨⟨u, container'⟩, hu, rfl⟩ := Option.map_eq_some_iff.1 hstep
      obtain ⟨handed, hhands, -, -⟩ := requestRtpRetransmission_hands (Checked.toOption_eq_some.1 hu)
      have hkeys : u.buffer.map BufferItem.key = s.buffer.map BufferItem.key := by
        have hentries := congrArg (List.map fun e : UInt32 × Clone => e.1.toNat) hhands.entries
        rwa [List.map_map, List.map_map] at hentries
      have hsorted : (s.buffer.map BufferItem.key).Pairwise (· < ·) := List.pairwise_map.2 h
      rw [← hkeys] at hsorted
      exact List.pairwise_map.1 hsorted

end

/-- **No duplicate in the send buffer.** In every run in which no packet is stored that repeats an item
behind the first of the buffer, no two items have one number. -/
theorem distinct_numbers_without_repeats (clockRate : UInt32) (useNack : Bool) (bufferSize : Nat)
    (events : List SendEvent)
    (h : Machine.Meets RtpStreamSend.step NoRepeat (new clockRate useNack bufferSize) events) :
    Machine.Always RtpStreamSend.step (fun s => (s.buffer.map (·.seq32)).Nodup)
      (new clockRate useNack bufferSize) events := by
  rintro pre s ⟨post, rfl⟩ hrun
  have hinv := Machine.exec_inv_of_meets
    (I := fun s => Kept s ∧ s.buffer.Pairwise fun a b => a.key < b.key)
    (fun s e t h he hstep => ⟨h.1.step hstep, strict_step h.1 h.2 he hstep⟩) h.of_append hrun
    ⟨kept_new clockRate useNack bufferSize, .nil⟩
  refine List.Pairwise.map _ ?_ hinv.2
  intro a b hlt heq
  exact absurd (congrArg UInt32.toNat heq) hlt.ne

/-- A packet that repeats the first of the buffer is not stored again. -/
theorem distinct_numbers_late_duplicate :
    Machine.Always RtpStreamSend.step (fun s => (s.buffer.map (·.seq32)).Nodup) (new 90000 true 2)
      [.packet 0 (mediaPacket 1 0) 1, .packet 0 (mediaPacket 2 0) 2, .packet 0 (mediaPacket 1 0) 3] := by
  refine distinct_numbers_without_repeats 90000 true 2 _ ?_
  decide +kernel

/-- The packet 2 comes twice: it takes the slot of the packet 1, and has two items. -/
theorem duplicate_takes_second_slot : ∃ s, Machine.exec RtpStreamSend.step (new 90000 true 2)
    [.packet 0 (mediaPacket 1 0) 1, .packet 0 (mediaPacket 2 0) 2, .packet 0 (mediaPacket 2 0) 3] = some s ∧
    s.buffer.map (·.seq32) = [2, 2] ∧ ¬ (s.buffer.map (·.seq32)).Nodup := by
  have hrun : (Machine.exec RtpStreamSend.step (new 90000 true 2)
      [.packet 0 (mediaPacket 1 0) 1, .packet 0 (mediaPacket 2 0) 2, .packet 0 (mediaPacket 2 0) 3]).map
      (fun s => s.buffer.map (·.seq32)) = some [2, 2] := by decide +kernel
  obtain ⟨s, hs, hbuffer⟩ := Option.map_eq_some_iff.1 hrun
  refine ⟨s, hs, hbuffer, ?_⟩
  rw [hbuffer]
  decide

end RtpStreamSend

end KoreWebsocket.Rtp
