import KoreWebsocket.Tcp.Connection

/-!
# TCP framing

The bytes that the receiver has not delivered yet, those on the wire and those that wait at the sender are
the frames of the packets that are not delivered, in order; and the receiver has less than the first of
them in its buffer (`Link.Inv`). So the packets are delivered in the order in which they are sent, and a
receiver whose buffer is as long as the longest frame always finds room for more
(`packets_delivered_in_order`).
-/

namespace KoreWebsocket.Tcp

open Bytes Byte

/-! ## Frames -/

/-- A packet behind its length. -/
def frame (packet : List UInt8) : List UInt8 := beBytes 2 packet.length ++ packet

def frames (packets : List (List UInt8)) : List UInt8 := packets.flatMap frame

/-- The packet is not empty, and its frame fits the buffer and its length the two bytes. -/
def Fits (bufferSize : Nat) (packet : List UInt8) : Prop :=
  1 ≤ packet.length ∧ packet.length + 2 ≤ bufferSize ∧ packet.length ≤ 65535

section
variable {p : List UInt8} {ps : List (List UInt8)} {bufferSize : Nat}

/-- A frame is a packet with two bytes in front. -/
theorem length_frame : (frame p).length = p.length + 2 := by
  rw [frame, List.length_append, length_beBytes, Nat.add_comm]

theorem frames_cons : frames (p :: ps) = frame p ++ frames ps := List.flatMap_cons

theorem frames_append {qs : List (List UInt8)} : frames (ps ++ qs) = frames ps ++ frames qs :=
  List.flatMap_append

/-- The length of a packet that fits has 16 bits. -/
theorem Fits.toNat_length (h : Fits bufferSize p) : (UInt16.ofNat p.length).toNat = p.length := by
  rw [UInt16.toNat_ofNat']
  exact Nat.mod_eq_of_lt (Nat.lt_succ_of_le h.2.2)

/-- The frame of a packet that fits begins with its length. -/
theorem Fits.frameLen_eq (h : Fits bufferSize p) :
    TcpConnection.frameLen p = .ok (beBytes 2 p.length) := by
  have hwrite := write_append (a := []) (m := [0, 0]) (z := [])
    (length_beBytes 2 p.length).symm
  rw [TcpConnection.frameLen, set2Bytes, h.toNat_length]
  simpa using hwrite

end

/-! ## The reader -/

/-- The bytes from the start of the frame to the end of the data. -/
structure Holds (c : TcpConnection) (pending : List UInt8) : Prop where
  buffer : ∃ before after, c.buffer = before ++ (pending ++ after) ∧ before.length = c.frameStart
  dataLen : c.bufferDataLen = c.frameStart + pending.length
  size : c.buffer.length = c.bufferSize
  isOpen : c.isClosing = false

/-- The receiver has a beginning of the frames of `rest` that ends in the first of them, the other bytes
are `coming`, and there is room in the buffer. -/
structure Waits (c : TcpConnection) (rest : List (List UInt8)) (coming : List UInt8) : Prop where
  pending : ∃ pending, Holds c pending ∧ pending ++ coming = frames rest ∧
    ∀ p ∈ rest.head?, pending.length < p.length + 2
  room : 0 < c.bufferSize → c.bufferDataLen < c.bufferSize

section
variable {c : TcpConnection} {p pending more coming : List UInt8} {ps rest : List (List UInt8)}

/-- The connection knows how many bytes wait in its buffer. -/
theorem Holds.dataLen_eq (h : Holds c pending) : c.dataLen = .ok pending.length := by
  rw [TcpConnection.dataLen, h.dataLen, if_pos (Nat.le_add_right _ _), Nat.add_sub_cancel_left]

/-- The bytes that wait are within the buffer. -/
theorem Holds.le_size (h : Holds c pending) : c.frameStart + pending.length ≤ c.bufferSize := by
  obtain ⟨before, after, hbuffer, hbefore⟩ := h.buffer
  rw [← h.size, hbuffer, ← hbefore]
  simp only [List.length_append]
  omega

/-- The length field of a frame whose first two bytes are there. -/
theorem Holds.packetLen_eq (h : Holds c (beBytes 2 p.length ++ more)) (hp : Fits c.bufferSize p) :
    UInt16.toNat <$> get2Bytes c.buffer c.frameStart = .ok p.length := by
  obtain ⟨before, after, hbuffer, hbefore⟩ := h.buffer
  have hget := get2Bytes_mid (a := before) (z := more ++ after) (UInt16.ofNat p.length) hbefore.symm
  rw [hp.toNat_length] at hget
  rw [hbuffer, List.append_assoc, hget]
  exact congrArg Except.ok hp.toNat_length

/-- A packet that is there whole is read. -/
theorem Holds.read_packet (h : Holds c (frame p ++ more)) :
    read c.buffer (c.frameStart + 2) p.length = .ok p := by
  obtain ⟨before, after, hbuffer, hbefore⟩ := h.buffer
  have hsplit : c.buffer = (before ++ beBytes 2 p.length) ++ (p ++ (more ++ after)) := by
    rw [hbuffer, frame]
    simp only [List.append_assoc]
  rw [hsplit]
  refine read_mid ?_ rfl
  rw [List.length_append, hbefore, length_beBytes]

/-- Behind a frame that does not end at the end of the buffer. -/
theorem Holds.skip (h : Holds c (frame p ++ more)) :
    Holds { c with frameStart := c.frameStart + 2 + p.length } more := by
  obtain ⟨before, after, hbuffer, hbefore⟩ := h.buffer
  refine ⟨⟨before ++ frame p, after, ?_, ?_⟩, ?_, h.size, h.isOpen⟩
  · simp only [hbuffer, List.append_assoc]
  · simp only [List.length_append, length_frame, hbefore]
    omega
  · change c.bufferDataLen = c.frameStart + 2 + p.length + more.length
    rw [h.dataLen, List.length_append, length_frame]
    omega

/-- A frame that ends at the end of the buffer is the last one in it. -/
theorem Holds.empty (h : Holds c (frame p ++ more))
    (hend : c.frameStart + 2 + p.length = c.bufferSize) :
    more = [] ∧ Holds { c with frameStart := 0, bufferDataLen := 0 } [] := by
  have hle := h.le_size
  rw [List.length_append, length_frame] at hle
  refine ⟨List.length_eq_zero_iff.1 (by omega), ⟨[], c.buffer, rfl, rfl⟩, rfl, h.size, h.isOpen⟩

/-- The frame that is not complete is moved to the start of the full buffer. -/
theorem Holds.move (h : Holds c pending) (hfull : c.bufferDataLen = c.bufferSize) :
    ∃ buffer, read c.buffer c.frameStart (c.bufferSize - c.frameStart) = .ok pending ∧
      write c.buffer 0 pending = .ok buffer ∧
      Holds { c with buffer, bufferDataLen := c.bufferSize - c.frameStart, frameStart := 0 }
        pending := by
  obtain ⟨before, after, hbuffer, hbefore⟩ := h.buffer
  have hlen : c.bufferSize - c.frameStart = pending.length := by
    rw [← hfull, h.dataLen, Nat.add_sub_cancel_left]
  obtain ⟨buffer, hwrite, htake, hsize⟩ := write_behind (d := c.buffer) (i := 0) pending (a := [])
    List.take_zero (by rw [h.size]; have := h.le_size; omega)
  rw [Nat.zero_add, List.nil_append] at htake
  refine ⟨buffer, ?_, hwrite, ⟨[], buffer.drop pending.length, ?_, rfl⟩, ?_, ?_, h.isOpen⟩
  · rw [hlen, hbuffer]
    exact read_mid hbefore.symm rfl
  · conv => rhs; rw [List.nil_append]; arg 1; rw [← htake]
    rw [List.take_append_drop]
  · rw [hlen, Nat.zero_add]
  · exact hsize.trans h.size

/-! ### The loop -/

/-- The bytes that are there are a part of the first frame, or go behind it. -/
theorem frame_split (h : pending ++ coming = frames (p :: ps)) :
    (pending.length < p.length + 2 ∧ pending <+: frame p) ∨
      ∃ more, pending = frame p ++ more ∧ more ++ coming = frames ps := by
  rw [frames_cons] at h
  have hframe : frame p <+: pending ++ coming := ⟨frames ps, h.symm⟩
  rcases Nat.lt_or_ge pending.length (p.length + 2) with hlt | hge
  · refine .inl ⟨hlt, List.prefix_of_prefix_length_le (List.prefix_append _ _) hframe ?_⟩
    rw [length_frame]
    exact Nat.le_of_lt hlt
  · have hle : (frame p).length ≤ pending.length := by rwa [length_frame]
    obtain ⟨more, rfl⟩ := List.prefix_of_prefix_length_le hframe (List.prefix_append _ _) hle
    rw [List.append_assoc] at h
    exact .inr ⟨more, rfl, List.append_cancel_left h⟩

/-- A round that finds no complete frame. -/
theorem read_incomplete {rounds : Nat} (h : Holds c pending) (hp : Fits c.bufferSize p)
    (hlt : pending.length < p.length + 2) (hframe : pending <+: frame p) :
    c.userOnTcpConnectionRead (rounds + 1) =
      if c.bufferDataLen = c.bufferSize then
        if c.frameStart ≠ 0 then do
          let frame ← read c.buffer c.frameStart (c.bufferSize - c.frameStart)
          let buffer ← write c.buffer 0 frame
          .ok ({ c with buffer, bufferDataLen := c.bufferSize - c.frameStart, frameStart := 0 }, [])
        else .ok (c.destroy, [])
      else .ok (c, []) := by
  rw [TcpConnection.userOnTcpConnectionRead, if_neg (Bool.eq_false_iff.1 h.isOpen), h.dataLen_eq]
  simp only [Checked.ok_bind]
  rcases Nat.lt_or_ge pending.length 2 with hshort | hlong
  · rw [if_neg (Nat.not_le.2 hshort), if_neg]
    exact fun hboth => Nat.not_le.2 hshort hboth.1
  · have hheader : beBytes 2 p.length <+: pending :=
      List.prefix_of_prefix_length_le (List.prefix_append _ _) hframe (by rwa [length_beBytes])
    obtain ⟨more, rfl⟩ := hheader
    rw [if_pos hlong, h.packetLen_eq hp, Checked.ok_bind, if_neg]
    exact fun hboth => by omega

/-- A round that finds a complete frame. -/
theorem read_complete {rounds : Nat} (h : Holds c (frame p ++ more)) (hp : Fits c.bufferSize p) :
    c.userOnTcpConnectionRead (rounds + 1) =
      let c := if c.frameStart + 2 + p.length = c.bufferSize then
        { c with frameStart := 0, bufferDataLen := 0 }
        else { c with frameStart := c.frameStart + 2 + p.length }
      if c.bufferDataLen > c.frameStart then do
        let (c, more) ← c.userOnTcpConnectionRead rounds
        .ok (c, [p] ++ more)
      else .ok (c, [p]) := by
  have hlong : (frame p ++ more).length ≥ 2 := by
    rw [List.length_append, length_frame]
    omega
  have hall : (frame p ++ more).length ≥ 2 + p.length := by
    rw [List.length_append, length_frame]
    omega
  have hlen : UInt16.toNat <$> get2Bytes c.buffer c.frameStart = .ok p.length := by
    have hheld : Holds c (beBytes 2 p.length ++ (p ++ more)) := by rwa [← List.append_assoc]
    exact hheld.packetLen_eq hp
  have hne : p.length ≠ 0 := Nat.one_le_iff_ne_zero.1 hp.1
  rw [TcpConnection.userOnTcpConnectionRead, if_neg (Bool.eq_false_iff.1 h.isOpen), h.dataLen_eq]
  simp only [Checked.ok_bind]
  rw [if_pos hlong, hlen, Checked.ok_bind, if_pos ⟨hlong, hall⟩, h.read_packet, Checked.ok_bind,
    if_pos hne]

/-- Nothing of the next frame is there yet. -/
theorem Holds.waits (h : Holds c []) (hrest : coming = frames rest)
    (hroom : 0 < c.bufferSize → c.bufferDataLen < c.bufferSize) : Waits c rest coming :=
  ⟨⟨[], h, hrest, fun p _ => Nat.succ_pos (p.length + 1)⟩, hroom⟩

/-- A part of the next frame is there, and after the round there is room for more. -/
theorem read_part (rounds : Nat) (h : Holds c pending) (hp : Fits c.bufferSize p)
    (hlt : pending.length < p.length + 2) (hframe : pending <+: frame p)
    (hrest : pending ++ coming = frames (p :: ps)) :
    ∃ c', c.userOnTcpConnectionRead (rounds + 1) = .ok (c', []) ∧ c'.bufferSize = c.bufferSize ∧
      Waits c' (p :: ps) coming := by
  have hshort : ∀ q ∈ (p :: ps).head?, pending.length < q.length + 2 := by
    intro q hq
    cases hq
    exact hlt
  have hfit := hp.2.1
  have hlen := h.dataLen
  rw [read_incomplete h hp hlt hframe]
  split
  case isTrue hfull =>
    -- the frame fits the buffer, so a buffer that it fills only in part has other frames before it
    have hstart : c.frameStart ≠ 0 := by omega
    obtain ⟨buffer, hread, hwrite, hmoved⟩ := h.move hfull
    refine ⟨{ c with buffer, bufferDataLen := c.bufferSize - c.frameStart, frameStart := 0 }, ?_, rfl,
      ⟨pending, hmoved, hrest, hshort⟩, ?_⟩
    · rw [if_pos hstart, hread, Checked.ok_bind, hwrite, Checked.ok_bind]
    · intro hsize
      exact Nat.sub_lt hsize (Nat.pos_of_ne_zero hstart)
  case isFalse hroom =>
    refine ⟨c, rfl, rfl, ⟨pending, h, hrest, hshort⟩, fun _ => ?_⟩
    have := h.le_size
    omega

/-- What the loop does with the bytes of a list of frames. -/
theorem read_frames (hfits : ∀ p ∈ rest, Fits c.bufferSize p) {rounds : Nat} (h : Holds c pending)
    (hne : pending ≠ []) (hrounds : pending.length ≤ rounds) (hrest : pending ++ coming = frames rest) :
    ∃ c' packets rest', c.userOnTcpConnectionRead rounds = .ok (c', packets) ∧
      c'.bufferSize = c.bufferSize ∧ rest = packets ++ rest' ∧ Waits c' rest' coming := by
  induction rest generalizing c pending rounds with
  | nil => exact absurd (List.append_eq_nil_iff.1 hrest).1 hne
  | cons p ps ih =>
      have hp : Fits c.bufferSize p := hfits p (.head _)
      have hps : ∀ q ∈ ps, Fits c.bufferSize q := fun q hq => hfits q (.tail _ hq)
      have hpos := List.length_pos_iff.2 hne
      obtain ⟨rounds, rfl⟩ : ∃ n, rounds = n + 1 := ⟨rounds - 1, by omega⟩
      rcases frame_split hrest with ⟨hlt, hframe⟩ | ⟨more, rfl, hmore⟩
      · obtain ⟨c', hread, hsize, hwaits⟩ := read_part rounds h hp hlt hframe hrest
        exact ⟨c', [], p :: ps, hread, hsize, rfl, hwaits⟩
      · rw [read_complete h hp]
        rcases eq_or_ne (c.frameStart + 2 + p.length) c.bufferSize with hend | hend
        · obtain ⟨rfl, hempty⟩ := h.empty hend
          simp only [if_pos hend]
          exact ⟨_, [p], ps, if_neg (Nat.lt_irrefl 0), rfl, rfl, hempty.waits hmore id⟩
        · have hle := h.le_size
          rw [List.length_append, length_frame] at hle hrounds
          have hlen := h.skip.dataLen
          simp only [if_neg hend]
          dsimp only at hlen
          split
          case isTrue hgt =>
            have hmore' : more ≠ [] := by
              rintro rfl
              rw [hlen] at hgt
              exact Nat.lt_irrefl _ hgt
            have hrounds' : more.length ≤ rounds := by omega
            obtain ⟨c', packets, rest', hread, hsize, hps', hwaits⟩ :=
              ih (c := { c with frameStart := c.frameStart + 2 + p.length }) hps h.skip hmore'
                hrounds' hmore
            refine ⟨c', p :: packets, rest', ?_, hsize, by rw [hps']; rfl, hwaits⟩
            rw [hread]
            rfl
          case isFalse hgt =>
            have hnil : more = [] := List.length_eq_zero_iff.1 (by omega)
            subst hnil
            refine ⟨_, [p], ps, rfl, rfl, rfl, h.skip.waits hmore fun _ => ?_⟩
            change c.bufferDataLen < c.bufferSize
            rw [hlen, List.length_nil]
            rw [List.length_nil] at hle
            omega

/-- One more packet is coming. -/
theorem Waits.snoc (h : Waits c rest coming) (p : List UInt8) :
    Waits c (rest ++ [p]) (coming ++ frame p) := by
  obtain ⟨pending, hholds, hrest, hshort⟩ := h.pending
  refine ⟨⟨pending, hholds, ?_, ?_⟩, h.room⟩
  · rw [← List.append_assoc, hrest, frames_append]
    exact congrArg _ (List.append_nil _).symm
  · cases rest with
    | nil =>
        intro q _
        rw [(List.append_eq_nil_iff.1 hrest).1]
        exact Nat.succ_pos _
    | cons q ps => exact hshort

/-! ### A read -/

/-- The connection after `OnUvReadAlloc`. -/
def TcpConnection.allocated (c : TcpConnection) : TcpConnection := c.onUvReadAlloc.1

/-- A buffer that is allocated stays. -/
theorem allocated_of_size (h : c.buffer.length = c.bufferSize) : c.allocated = c := by
  rw [TcpConnection.allocated, TcpConnection.onUvReadAlloc]
  split
  case isTrue hnil =>
    have hzero : c.bufferSize = 0 := by rw [← h, hnil, List.length_nil]
    dsimp only
    rw [hzero, List.replicate_zero, ← hnil, ← hzero]
  case isFalse => rfl

/-- The size of the buffer is fixed. -/
theorem bufferSize_allocated : c.allocated.bufferSize = c.bufferSize := by
  rw [TcpConnection.allocated, TcpConnection.onUvReadAlloc]
  split
  · rfl
  · rfl

/-- What waits in the buffer, when it is allocated. -/
theorem Waits.allocated (h : Waits c rest coming) : Waits c.allocated rest coming := by
  obtain ⟨pending, hholds, -⟩ := h.pending
  rwa [allocated_of_size hholds.size]

/-- The room behind the bytes in the buffer. -/
theorem space_eq : c.space = c.bufferSize - c.allocated.bufferDataLen := by
  rw [← bufferSize_allocated]
  change (if c.allocated.bufferSize > c.allocated.bufferDataLen then
    c.allocated.bufferSize - c.allocated.bufferDataLen else 0) = _
  split
  · rfl
  · omega

/-- A receiver that waits always has room. -/
theorem Waits.space_pos (h : Waits c.allocated rest coming) (hsize : 0 < c.bufferSize) :
    0 < c.space := by
  have hroom := h.room (by rwa [bufferSize_allocated])
  rw [bufferSize_allocated] at hroom
  rw [space_eq]
  exact Nat.sub_pos_of_lt hroom

/-- libuv appends bytes to the data. -/
theorem Holds.append {bytes : List UInt8} (h : Holds c pending)
    (hfit : bytes.length ≤ c.bufferSize - c.bufferDataLen) :
    ∃ buffer, write c.buffer c.bufferDataLen bytes = .ok buffer ∧
      Holds { c with buffer, bufferDataLen := c.bufferDataLen + bytes.length } (pending ++ bytes) := by
  obtain ⟨before, after, hbuffer, hbefore⟩ := h.buffer
  have hlen := h.dataLen
  have hle := h.le_size
  have hafter : after.length = c.bufferSize - c.bufferDataLen := by
    rw [← h.size, hbuffer]
    simp only [List.length_append]
    omega
  have htake : (after.take bytes.length).length = bytes.length := by
    rw [List.length_take]
    omega
  have hsplit : c.buffer = (before ++ pending) ++ (after.take bytes.length ++
      after.drop bytes.length) := by
    rw [hbuffer, List.take_append_drop, List.append_assoc]
  have hwrite := write_append (a := before ++ pending) (z := after.drop bytes.length) htake
  rw [← hsplit, List.length_append, hbefore, ← hlen] at hwrite
  refine ⟨_, hwrite, ⟨before, after.drop bytes.length, ?_, hbefore⟩, ?_, ?_, h.isOpen⟩
  · simp only [List.append_assoc]
  · change c.bufferDataLen + bytes.length = c.frameStart + (pending ++ bytes).length
    rw [List.length_append]
    omega
  · change _ = c.bufferSize
    rw [← h.size, hbuffer]
    simp only [List.length_append, List.length_drop]
    omega

/-- What a read does with bytes that fit the space. -/
theorem uvRead_ok {bytes : List UInt8} (hfits : ∀ p ∈ rest, Fits c.bufferSize p)
    (h : Waits c.allocated rest (bytes ++ coming)) (hfit : bytes.length ≤ c.space) :
    ∃ c' packets rest', c.uvRead bytes = .ok (c', packets) ∧ c'.bufferSize = c.bufferSize ∧
      rest = packets ++ rest' ∧ Waits c'.allocated rest' coming := by
  obtain ⟨pending, hholds, hrest, hshort⟩ := h.pending
  rw [space_eq, ← bufferSize_allocated] at hfit
  obtain ⟨buffer, hwrite, happend⟩ := hholds.append hfit
  have hread : c.uvRead bytes = { c.allocated with buffer }.onUvRead (.data bytes.length) := by
    rw [TcpConnection.uvRead]
    change (write c.allocated.buffer c.allocated.bufferDataLen bytes >>= fun buffer =>
      { c.allocated with buffer }.onUvRead (.data bytes.length)) = _
    rw [hwrite, Checked.ok_bind]
  rw [hread, TcpConnection.onUvRead]
  have hopen : ¬ c.allocated.isClosing = true := Bool.eq_false_iff.1 hholds.isOpen
  rcases eq_or_ne bytes [] with rfl | hne
  · rw [List.append_nil] at happend
    have hwaits : Waits { c.allocated with buffer } rest coming :=
      ⟨⟨pending, happend, hrest, hshort⟩, h.room⟩
    exact ⟨_, [], rest, if_pos (.inr rfl), bufferSize_allocated, rfl, hwaits.allocated⟩
  · have hlen : ¬ bytes.length = 0 := fun hnil => hne (List.length_eq_zero_iff.1 hnil)
    rw [if_neg (not_or.2 ⟨hopen, hlen⟩)]
    have hne' : pending ++ bytes ≠ [] := fun hnil => hne (List.append_eq_nil_iff.1 hnil).2
    have hrounds : (pending ++ bytes).length ≤ c.allocated.bufferDataLen + bytes.length := by
      rw [hholds.dataLen, List.length_append]
      omega
    rw [← List.append_assoc] at hrest
    rw [← bufferSize_allocated] at hfits
    obtain ⟨c', packets, rest', hloop, hsize, hpackets, hwaits⟩ :=
      read_frames (c := { c.allocated with
        buffer, bufferDataLen := c.allocated.bufferDataLen + bytes.length }) hfits happend hne' hrounds
        hrest
    exact ⟨c', packets, rest', hloop, hsize.trans bufferSize_allocated, hpackets, hwaits.allocated⟩

end

/-! ## The writer -/

section
variable {c : TcpConnection} {p : List UInt8} {bufferSize n : Nat}

/-- The bytes behind what is written, over the two buffers. -/
theorem pending_eq {data1 data2 : List UInt8} (h : n ≤ data1.length + data2.length) :
    TcpConnection.pending data1 data2 n = .ok ((data1 ++ data2).drop n) := by
  have hall : ∀ store : List UInt8, store.length = data1.length + data2.length - n →
      read store 0 (data1.length + data2.length - n) = .ok store := by
    intro store hstore
    rw [← hstore]
    simpa using read_mid (a := []) (m := store) (z := []) rfl rfl
  have hlen : ((data1 ++ data2).drop n).length = data1.length + data2.length - n := by
    rw [List.length_drop, List.length_append]
  unfold TcpConnection.pending
  split
  case isTrue hlt =>
    have hfirst : read data1 n (data1.length - n) = .ok (data1.drop n) := by
      rw [read_ok (by omega), ← List.length_drop, List.take_length]
    rw [hfirst, Checked.ok_bind]
    rw [List.drop_append_of_le_length (Nat.le_of_lt hlt)] at hlen ⊢
    exact hall _ hlen
  case isFalse hge =>
    have hsecond : read data2 (n - data1.length) (data2.length - (n - data1.length)) =
        .ok (data2.drop (n - data1.length)) := by
      rw [read_ok (by omega), ← List.length_drop, List.take_length]
    have hdrop : (data1 ++ data2).drop n = data2.drop (n - data1.length) := by
      rw [List.drop_append, List.drop_eq_nil_of_le (Nat.not_lt.1 hge), List.nil_append]
    rw [hsecond, Checked.ok_bind, hdrop]
    rw [hdrop] at hlen
    exact hall _ hlen

/-- What is written and what is given to `uv_write` are the frame. -/
theorem send_ok (hopen : c.isClosing = false) (hp : Fits bufferSize p) {tried : TryWrite}
    (htried : tried = .again ∨ ∃ n, tried = .written n ∧ n ≤ p.length + 2) :
    ∃ bytes store, Link.tryWritten p tried = .ok bytes ∧ c.send p tried = .ok (c, store) ∧
      bytes ++ store = frame p ∧ (tried = .again → bytes = []) := by
  have hpending : ∀ n, n ≤ p.length + 2 →
      TcpConnection.pending (beBytes 2 p.length) p n = .ok ((frame p).drop n) := by
    intro n hn
    refine pending_eq ?_
    rw [length_beBytes]
    omega
  have hempty : ¬ ((beBytes 2 p.length).length = 0 ∧ p.length = 0) := by
    rw [length_beBytes]
    exact fun hboth => absurd hboth.1 (by decide)
  have hopen' : ¬ c.isClosing = true := Bool.eq_false_iff.1 hopen
  unfold TcpConnection.send
  rw [hp.frameLen_eq, Checked.ok_bind, TcpConnection.write.eq_def, if_neg hopen', if_neg hempty]
  rcases htried with rfl | ⟨n, rfl, hn⟩
  · refine ⟨[], frame p, rfl, ?_, rfl, fun _ => rfl⟩
    rw [if_neg TryWrite.noConfusion]
    change (TcpConnection.pending (beBytes 2 p.length) p 0 >>= _) = _
    rw [hpending 0 (Nat.zero_le _), Checked.ok_bind]
    rfl
  · have hwritten : Link.tryWritten p (.written n) = .ok ((frame p).take n) := by
      rw [Link.tryWritten, hp.frameLen_eq, Checked.ok_bind]
      rfl
    refine ⟨(frame p).take n, (frame p).drop n, hwritten, ?_, List.take_append_drop _ _,
      TryWrite.noConfusion⟩
    split
    case isTrue hall =>
      cases hall
      rw [List.drop_eq_nil_of_le]
      rw [frame, List.length_append]
    case isFalse =>
      change (TcpConnection.pending (beBytes 2 p.length) p n >>= _) = _
      rw [hpending n hn, Checked.ok_bind]

end

/-! ## The link -/

namespace Link

/-- What is not delivered is in the buffer of the receiver, on the wire and at the sender. -/
structure Inv (bufferSize : Nat) (l : Link) : Prop where
  sender : l.sender.isClosing = false
  size : l.receiver.bufferSize = bufferSize
  fits : ∀ p ∈ l.sent, Fits bufferSize p
  rest : ∃ rest, l.sent = l.delivered ++ rest ∧
    Waits l.receiver.allocated rest (l.wire ++ l.queued)

section
variable {bufferSize : Nat} {l : Link}

/-- At first nothing is sent, and nothing lost. -/
theorem inv_start (bufferSize : Nat) : Inv bufferSize (start bufferSize) := by
  refine ⟨rfl, rfl, List.forall_mem_nil _, [], rfl, ?_⟩
  have hholds : Holds (start bufferSize).receiver.allocated [] :=
    ⟨⟨[], _, rfl, rfl⟩, rfl, List.length_replicate, rfl⟩
  exact hholds.waits rfl id

/-- A packet is sent: what the socket takes now goes to the wire, and the rest is queued. -/
theorem Inv.send (h : l.Inv bufferSize) {data : List UInt8} {tried : TryWrite}
    (ha : l.Allows (.send data tried)) :
    ∃ l', l.handle (.send data tried) = .ok l' ∧ l'.Inv bufferSize := by
  obtain ⟨rest, hsent, hwaits⟩ := h.rest
  obtain ⟨hlen, htried⟩ := ha
  rw [h.size] at hlen
  have hknown : tried = .again ∨ ∃ n, tried = .written n ∧ n ≤ data.length + 2 := by
    rcases htried with hagain | ⟨n, hn, hle, -⟩
    · exact .inl hagain
    · exact .inr ⟨n, hn, hle⟩
  obtain ⟨bytes, store, hbytes, hstore, hframe, hagain⟩ := send_ok h.sender hlen hknown
  have horder : (l.wire ++ bytes) ++ (l.queued ++ store) = (l.wire ++ l.queued) ++ frame data := by
    rcases htried with heq | ⟨n, -, -, hqueued⟩
    · rw [← hframe, hagain heq]
      simp only [List.append_nil, List.nil_append, List.append_assoc]
    · rw [← hframe, hqueued]
      simp only [List.append_nil, List.nil_append, List.append_assoc]
  have hhandle : l.handle (.send data tried) = .ok { l with
      wire := l.wire ++ bytes, queued := l.queued ++ store, sent := l.sent ++ [data] } := by
    rw [handle, hbytes, Checked.ok_bind, hstore, Checked.ok_bind]
  refine ⟨_, hhandle, h.sender, h.size, ?_, rest ++ [data], ?_, ?_⟩
  · intro p hp
    rcases List.mem_append.1 hp with hp | hp
    · exact h.fits p hp
    · rw [List.mem_singleton.1 hp]
      exact hlen
  · change l.sent ++ [data] = l.delivered ++ (rest ++ [data])
    rw [hsent, List.append_assoc]
  · change Waits _ _ ((l.wire ++ bytes) ++ (l.queued ++ store))
    rw [horder]
    exact hwaits.snoc data

/-- Queued bytes go to the wire in their order. -/
theorem Inv.flush (h : l.Inv bufferSize) (n : Nat) :
    ∃ l', l.handle (.flush n) = .ok l' ∧ l'.Inv bufferSize := by
  obtain ⟨rest, hsent, hwaits⟩ := h.rest
  refine ⟨_, rfl, h.sender, h.size, h.fits, rest, hsent, ?_⟩
  dsimp only
  rwa [List.append_assoc, List.take_append_drop]

/-- Bytes come from the wire, and every packet that is whole is handed on. -/
theorem Inv.read (h : l.Inv bufferSize) {n : Nat} (ha : l.Allows (.read n)) :
    ∃ l', l.handle (.read n) = .ok l' ∧ l'.Inv bufferSize := by
  obtain ⟨rest, hsent, hwaits⟩ := h.rest
  have hfits : ∀ p ∈ rest, Fits l.receiver.bufferSize p := by
    intro p hp
    rw [h.size]
    refine h.fits p ?_
    rw [hsent]
    exact List.mem_append_right _ hp
  have hspace : (l.wire.take n).length ≤ l.receiver.space := by
    rw [List.length_take]
    exact (Nat.min_le_left _ _).trans ha.2
  rw [← List.take_append_drop n l.wire, List.append_assoc] at hwaits
  obtain ⟨receiver, packets, rest', hread, hsize, hpackets, hwaits'⟩ := uvRead_ok hfits hwaits hspace
  have hhandle : l.handle (.read n) = .ok { l with
      receiver, wire := l.wire.drop n, delivered := l.delivered ++ packets } := by
    rw [handle, hread, Checked.ok_bind]
  refine ⟨_, hhandle, h.sender, hsize.trans h.size, h.fits, rest', ?_, hwaits'⟩
  rw [hsent, hpackets, List.append_assoc]

/-- Every event that is allowed happens without a fault and keeps the invariant. -/
theorem Inv.step (h : l.Inv bufferSize) {e : Event} (ha : l.Allows e) :
    ∃ l', l.step e = some l' ∧ l'.Inv bufferSize := by
  have hhandle : ∃ l', l.handle e = .ok l' ∧ l'.Inv bufferSize := by
    cases e with
    | send data tried => exact h.send ha
    | flush n => exact h.flush n
    | read n => exact h.read ha
  obtain ⟨l', hl, hinv⟩ := hhandle
  exact ⟨l', by rw [Link.step, hl]; rfl, hinv⟩

/-- Every run of allowed events. -/
theorem Inv.exec (h : l.Inv bufferSize) {events : List Event}
    (ha : Machine.Meets Link.step Allows l events) :
    ∃ l', Machine.exec Link.step l events = some l' ∧ l'.Inv bufferSize := by
  induction events generalizing l with
  | nil => exact ⟨l, rfl, h⟩
  | cons e events ih =>
      obtain ⟨l₁, hstep, h₁⟩ := h.step ha.1
      obtain ⟨l₂, hexec, h₂⟩ := ih h₁ (ha.2 l₁ hstep)
      exact ⟨l₂, Machine.exec_cons.2 ⟨l₁, hstep, hexec⟩, h₂⟩

/-- The receiver does not close, because every frame fits its buffer. -/
theorem Inv.isOpen (h : l.Inv bufferSize) : l.receiver.isClosing = false := by
  obtain ⟨rest, -, hwaits⟩ := h.rest
  obtain ⟨pending, hholds, -⟩ := hwaits.pending
  have hopen := hholds.isOpen
  rw [TcpConnection.allocated, TcpConnection.onUvReadAlloc] at hopen
  split at hopen
  · exact hopen
  · exact hopen

/-- The receiver has all the packets when it has all the bytes. -/
theorem Inv.delivered_eq (h : l.Inv bufferSize) (hwire : l.wire = []) (hqueued : l.queued = []) :
    l.delivered = l.sent := by
  obtain ⟨rest, hsent, hwaits⟩ := h.rest
  obtain ⟨pending, hholds, hrest, hshort⟩ := hwaits.pending
  cases rest with
  | nil => rw [hsent, List.append_nil]
  | cons p ps =>
      have hlt := hshort p rfl
      rw [hwire, hqueued, List.append_nil, List.append_nil, frames_cons] at hrest
      rw [hrest, List.length_append, length_frame] at hlt
      omega

/-- While bytes are missing there is room for one more. -/
theorem Inv.space_pos (h : l.Inv bufferSize) (hsize : 0 < bufferSize) : 0 < l.receiver.space := by
  obtain ⟨rest, -, hwaits⟩ := h.rest
  exact hwaits.space_pos (by rwa [h.size])

/-- Bytes that are on the way belong to a packet, and the packet fits the buffer. -/
theorem Inv.size_pos (h : l.Inv bufferSize) (hne : l.wire ++ l.queued ≠ []) : 0 < bufferSize := by
  obtain ⟨rest, hsent, hwaits⟩ := h.rest
  obtain ⟨pending, hholds, hrest, -⟩ := hwaits.pending
  cases rest with
  | nil => exact absurd (List.append_eq_nil_iff.1 hrest).2 hne
  | cons p ps =>
      have hp := h.fits p (by rw [hsent]; exact List.mem_append_right _ (.head _))
      have := hp.2.1
      omega

/-! ### The packets of a run -/

/-- The packets that are sent. -/
def packets (events : List Event) : List (List UInt8) :=
  events.filterMap fun
    | .send data _ => some data
    | .flush _ => none
    | .read _ => none

/-- To read takes bytes from the wire only. -/
theorem step_read {l' : Link} {n : Nat} (h : l.step (.read n) = some l') :
    l'.wire = l.wire.drop n ∧ l'.queued = l.queued ∧ l'.sent = l.sent := by
  unfold Link.step at h
  rw [handle] at h
  cases hread : l.receiver.uvRead (l.wire.take n) with
  | error f =>
      rw [hread] at h
      cases h
  | ok result =>
      rw [hread] at h
      cases h
      exact ⟨rfl, rfl, rfl⟩

/-- The packets that an event sends are noted. -/
theorem step_sent {l' : Link} {e : Event} (h : l.step e = some l') :
    l'.sent = l.sent ++ packets [e] := by
  cases e with
  | send data tried =>
      unfold Link.step at h
      rw [handle] at h
      cases hbytes : tryWritten data tried with
      | error f =>
          rw [hbytes] at h
          cases h
      | ok bytes =>
          cases hsend : l.sender.send data tried with
          | error f =>
              rw [hbytes, Checked.ok_bind, hsend] at h
              cases h
          | ok result =>
              rw [hbytes, Checked.ok_bind, hsend] at h
              cases h
              rfl
  | flush n =>
      cases h
      exact (List.append_nil _).symm
  | read n => exact (step_read h).2.2.trans (List.append_nil _).symm

/-- The packets of a run, in their order. -/
theorem exec_sent {l' : Link} {events : List Event}
    (h : Machine.exec Link.step l events = some l') : l'.sent = l.sent ++ packets events := by
  induction events generalizing l with
  | nil =>
      cases h
      exact (List.append_nil _).symm
  | cons e events ih =>
      obtain ⟨l₁, hstep, hexec⟩ := Machine.exec_cons.1 h
      have hcons : packets (e :: events) = packets [e] ++ packets events :=
        List.filterMap_append (l := [e])
      rw [ih hexec, step_sent hstep, hcons, List.append_assoc]

/-! ### The bytes on the way arrive -/

/-- Reads of one byte each empty the wire. -/
theorem Inv.read_wire (h : l.Inv bufferSize) (hqueued : l.queued = []) :
    ∃ n l', Machine.Meets Link.step Allows l (List.replicate n (.read 1)) ∧
      Machine.exec Link.step l (List.replicate n (.read 1)) = some l' ∧
      l'.wire = [] ∧ l'.queued = [] := by
  induction hwire : l.wire generalizing l with
  | nil => exact ⟨0, l, trivial, rfl, hwire, hqueued⟩
  | cons b bytes ih =>
      have hsize := h.size_pos (by rw [hwire]; exact List.cons_ne_nil _ _)
      have hallows : l.Allows (.read 1) := ⟨by rw [hwire]; exact Nat.succ_pos _, h.space_pos hsize⟩
      obtain ⟨l₁, hstep, h₁⟩ := h.step hallows
      obtain ⟨hwire₁, hqueued₁, -⟩ := step_read hstep
      rw [hwire] at hwire₁
      obtain ⟨n, l', hmeets, hexec, hend⟩ := ih h₁ (hqueued₁.trans hqueued) hwire₁
      exact ⟨n + 1, l', .cons hallows hstep hmeets, Machine.exec_cons.2 ⟨l₁, hstep, hexec⟩, hend⟩

/-- From every state, without another packet, all the packets can be delivered. -/
theorem Inv.drain (h : l.Inv bufferSize) :
    ∃ events l', packets events = [] ∧ Machine.Meets Link.step Allows l events ∧
      Machine.exec Link.step l events = some l' ∧ l'.delivered = l.sent := by
  have hallows : l.Allows (.flush l.queued.length) := Nat.le_refl _
  obtain ⟨l₁, hstep, h₁⟩ := h.step hallows
  have hqueued : l₁.queued = [] := by
    cases hstep
    exact List.drop_length
  obtain ⟨n, l', hmeets, hexec, hwire', hqueued'⟩ := h₁.read_wire hqueued
  obtain ⟨l'', hexec', h'⟩ := h₁.exec hmeets
  cases hexec.symm.trans hexec'
  have hpackets : packets (.flush l.queued.length :: List.replicate n (.read 1)) = [] := by
    refine List.filterMap_eq_nil_iff.2 ?_
    intro e he
    rcases List.mem_cons.1 he with rfl | he
    · rfl
    · rw [List.eq_of_mem_replicate he]
  have hall := Machine.exec_cons.2 ⟨l₁, hstep, hexec⟩
  refine ⟨_, l', hpackets, .cons hallows hstep hmeets, hall, ?_⟩
  rw [h'.delivered_eq hwire' hqueued', exec_sent hall, hpackets, List.append_nil]

end

/-- In every run, no connection is closed, the receiver always has room for another byte, it has delivered
the first of the packets that are sent, and all of them when no bytes are on the way; and these can
always arrive. -/
theorem packets_delivered_in_order (bufferSize : Nat) (events : List Event)
    (h : Machine.Meets Link.step Allows (start bufferSize) events) :
    ∃ l, Machine.exec Link.step (start bufferSize) events = some l ∧
      l.sender.isClosing = false ∧ l.receiver.isClosing = false ∧
      (0 < bufferSize → 0 < l.receiver.space) ∧
      l.delivered <+: packets events ∧
      (l.wire = [] → l.queued = [] → l.delivered = packets events) ∧
      ∃ arrivals l', packets arrivals = [] ∧ Machine.Meets Link.step Allows l arrivals ∧
        Machine.exec Link.step l arrivals = some l' ∧ l'.delivered = packets events := by
  obtain ⟨l, hexec, hinv⟩ := (inv_start bufferSize).exec h
  have hsent : l.sent = packets events := exec_sent hexec
  rw [← hsent]
  refine ⟨l, hexec, hinv.sender, hinv.isOpen, hinv.space_pos, ?_, hinv.delivered_eq, hinv.drain⟩
  obtain ⟨rest, hrest, -⟩ := hinv.rest
  exact ⟨rest, hrest.symm⟩

/-- Two packets in buffers of eight bytes: the first is written in part, the second waits behind it; the
bytes are read in pieces, and the second frame is moved to the start of the buffer. -/
theorem packets_delivered_in_order_small :
    ∃ l, Machine.exec Link.step (start 8) [.send [1, 2, 3] (.written 4), .send [4, 5, 6] .again,
      .flush 2, .read 3, .read 2, .flush 4, .read 3, .read 2] = some l ∧
      l.delivered = [[1, 2, 3], [4, 5, 6]] := by
  have hmeets : Machine.Meets Link.step Allows (start 8) [.send [1, 2, 3] (.written 4),
      .send [4, 5, 6] .again, .flush 2, .read 3, .read 2, .flush 4, .read 3, .read 2] := by
    refine .cons ⟨by decide, .inr ⟨4, rfl, by decide, rfl⟩⟩ rfl ?_
    refine .cons ⟨by decide, .inl rfl⟩ rfl ?_
    refine .cons (Nat.le_of_ble_eq_true rfl) rfl ?_
    refine .cons ⟨by decide, by decide⟩ rfl ?_
    refine .cons ⟨by decide, by decide⟩ rfl ?_
    refine .cons (Nat.le_of_ble_eq_true rfl) rfl ?_
    refine .cons ⟨by decide, by decide⟩ rfl ?_
    exact .cons ⟨by decide, by decide⟩ rfl trivial
  obtain ⟨l, hexec, -, -, -, -, hall, -⟩ := packets_delivered_in_order 8 _ hmeets
  have hway : (Machine.exec Link.step (start 8) [.send [1, 2, 3] (.written 4), .send [4, 5, 6] .again,
      .flush 2, .read 3, .read 2, .flush 4, .read 3, .read 2]).map (fun l => (l.wire, l.queued)) =
      some ([], []) := rfl
  rw [hexec] at hway
  obtain ⟨hwire, hqueued⟩ := Prod.mk.inj (Option.some.inj hway)
  exact ⟨l, hexec, hall hwire hqueued⟩

end Link

end KoreWebsocket.Tcp
