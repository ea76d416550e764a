import KoreWebsocket.Rtcp.RoundTrip

/-!
# Source descriptions round trip (`RTC::RTCP::SdesPacket`)

The zeros behind the items of a chunk fill it to a multiple of four and are the null octets that end its
items. Items that fill a multiple of four by themselves get none, so nothing ends them, and the parser
goes on with the SSRC of the next chunk. A single zero at the end of the packet is read as the type of
an item whose length is behind the packet.
-/

namespace KoreWebsocket.Rtcp

open Bytes Byte Writer

/-- What is written for a chunk, with `n` null octets behind the items. -/
def SdesChunk.bytesWith (chunk : SdesChunk) (n : Nat) : List UInt8 :=
  (beBytes 4 chunk.ssrc.toNat ++ chunk.items.flatMap SdesItem.bytes) ++ List.replicate n 0

/-- The items of the chunk are ended by a null octet, before the next multiple of four. -/
def SdesChunk.Ended (chunk : SdesChunk) : Prop :=
  ∃ n, 0 < n ∧ (chunk.bytesWith n).length = chunk.getSize ∧ Writes chunk.serialize (chunk.bytesWith n)

/-- `Serialize` writes exactly as many bytes as `GetSize` says, every chunk is ended, and the parser
gives the chunks back. -/
def SdesRoundTrips (chunks : List SdesChunk) : Prop :=
  ∃ bytes : List UInt8,
    (∀ buffer, bytes.length ≤ buffer.length → serializeSdes chunks buffer 0 =
      .ok (bytes ++ buffer.drop bytes.length, sdesSize chunks)) ∧
    bytes.length = sdesSize chunks ∧ (∀ chunk ∈ chunks, chunk.Ended) ∧
    sdesPacket bytes = .ok (some [.sdes chunks])

variable {chunk : SdesChunk} {chunks : List SdesChunk}

theorem SdesChunk.ended_iff : chunk.Ended ↔ chunk.padding ≠ 0 := by
  have hbytes : chunk.bytes = chunk.bytesWith chunk.padding := rfl
  have hlen : ∀ n, (chunk.bytesWith n).length = (chunk.bytesWith 0).length + n := by
    intro n
    simp only [SdesChunk.bytesWith, List.length_append, List.length_replicate, Nat.add_zero]
  constructor
  · rintro ⟨n, hpos, hsize, -⟩ hzero
    have hsize' := chunk.length_bytes
    rw [hbytes, hzero] at hsize'
    rw [hlen, hsize'] at hsize
    omega
  · intro hne
    exact ⟨chunk.padding, Nat.pos_of_ne_zero hne, chunk.length_bytes, chunk.writes⟩

/-- Ended chunks in a row are read as they are, unless the last one has a single zero. -/
theorem readUpTo_sdesChunk_iff (a : List UInt8) (hitems : ∀ chunk ∈ chunks, chunk.Items)
    (hpadding : ∀ chunk ∈ chunks, chunk.padding ≠ 0) :
    readUpTo sdesChunk (a ++ chunks.flatMap SdesChunk.bytes) chunks.length a.length = .ok chunks ↔
      ∀ chunk ∈ chunks.getLast?, chunk.padding ≠ 1 := by
  induction chunks generalizing a with
  | nil => exact iff_of_true rfl fun chunk hlast => by cases hlast
  | cons chunk chunks ih =>
      obtain ⟨hchunk, hitems⟩ := List.forall_mem_cons.1 hitems
      obtain ⟨hne, hpadding⟩ := List.forall_mem_cons.1 hpadding
      have hsize : 4 ≤ chunk.getSize := by
        rw [SdesChunk.getSize, pad4]
        omega
      have hlt : a.length < (a ++ (chunk :: chunks).flatMap SdesChunk.bytes).length := by
        rw [List.length_append, List.flatMap_cons, List.length_append, chunk.length_bytes]
        omega
      have hrest := ih (a ++ chunk.bytes) hitems hpadding
      rw [List.append_assoc, ← List.flatMap_cons, List.length_append, chunk.length_bytes] at hrest
      have hfirst : ∀ size, sdesChunk ((a ++ (chunk :: chunks).flatMap SdesChunk.bytes).drop a.length) =
          .ok (some (chunk, size)) ↔
            chunk.padding + (chunks.flatMap SdesChunk.bytes).length ≠ 1 ∧ size = chunk.getSize := by
        intro size
        rw [List.drop_left, List.flatMap_cons, sdesChunk_bytes_append_iff hchunk,
          sdesEnds_zeros _ _ fun hzero => absurd hzero hne]
      rw [List.length_cons, readUpTo_succ_eq_cons]
      simp only [hfirst, and_iff_right hlt]
      cases chunks with
      | nil =>
          have hlast : ∀ size, readUpTo sdesChunk (a ++ [chunk].flatMap SdesChunk.bytes) 0
              (a.length + size) = .ok [] := fun size => rfl
          simp only [hlast, List.flatMap_nil, List.length_nil, Nat.add_zero, and_true,
            exists_and_left, exists_eq, List.getLast?_singleton, Option.mem_some_iff, forall_eq']
      | cons chunk' chunks =>
          -- another chunk follows, so the length behind the zero is a byte of its SSRC
          have hmore : chunk.padding + ((chunk' :: chunks).flatMap SdesChunk.bytes).length ≠ 1 := by
            have hsize' := chunk'.length_bytes
            rw [SdesChunk.getSize, pad4] at hsize'
            rw [List.flatMap_cons, List.length_append]
            omega
          rw [List.getLast?_cons_cons, ← hrest]
          simp only [and_iff_right hmore, exists_eq_left]

/-- **When source descriptions round trip.** Exactly if the items of no chunk fill a multiple of four,
and those of the last chunk do not leave one byte to it. -/
theorem sdes_round_trips_iff (chunks : List SdesChunk) (hcount : chunks.length ≤ 31)
    (hitems : ∀ chunk ∈ chunks, chunk.Items) :
    SdesRoundTrips chunks ↔
      (∀ chunk ∈ chunks, (chunk.items.map SdesItem.getSize).sum % 4 ≠ 0) ∧
        ∀ chunk ∈ chunks.getLast?, (chunk.items.map SdesItem.getSize).sum % 4 ≠ 3 := by
  have hzero : ∀ chunk : SdesChunk, (chunk.items.map SdesItem.getSize).sum % 4 ≠ 0 ↔
      chunk.padding ≠ 0 := by
    intro chunk
    rw [SdesChunk.padding]
    omega
  have hone : ∀ chunk : SdesChunk, (chunk.items.map SdesItem.getSize).sum % 4 ≠ 3 ↔
      chunk.padding ≠ 1 := by
    intro chunk
    rw [SdesChunk.padding]
    omega
  have hparse : sdesPacket (sdesBytes chunks) = .ok (some [.sdes chunks]) ↔
      readUpTo sdesChunk (sdesBytes chunks) chunks.length 4 = .ok chunks := by
    have hcount' : count (sdesBytes chunks) = chunks.length := by
      rw [sdesBytes, count_headerBytes]
      omega
    rw [sdesPacket, hcount']
    constructor
    · intro h
      obtain ⟨chunks', hread, h⟩ := Checked.bind_eq_ok.1 h
      cases h
      exact hread
    · intro h
      rw [h, Checked.ok_bind]
      rfl
  simp only [hzero, hone]
  constructor
  · rintro ⟨bytes, hwrite, hlen, hended, hpacket⟩
    have hpadding := fun chunk hmem => SdesChunk.ended_iff.1 (hended chunk hmem)
    have hfit : bytes.length ≤ (List.replicate bytes.length (0 : UInt8)).length := by
      rw [List.length_replicate]
    have hbytes : bytes = sdesBytes chunks := by
      have hwrite' := (writes_sdes chunks).start (List.replicate bytes.length 0)
        (by rw [length_sdesBytes, ← hlen]; exact hfit)
      have heq := (hwrite _ hfit).symm.trans hwrite'
      have happend := (Prod.mk.inj (Except.ok.inj heq)).1
      exact (List.append_inj happend (by rw [hlen, length_sdesBytes])).1
    rw [hbytes, hparse, sdesBytes, ← length_headerBytes (sdesSize chunks) chunks.length 202] at hpacket
    exact ⟨hpadding, (readUpTo_sdesChunk_iff _ hitems hpadding).1 hpacket⟩
  · rintro ⟨hpadding, hlast⟩
    refine ⟨sdesBytes chunks, ?_, length_sdesBytes chunks,
      fun chunk hmem => SdesChunk.ended_iff.2 (hpadding chunk hmem), hparse.2 ?_⟩
    · intro buffer hfit
      have hwrite := (writes_sdes chunks).start buffer hfit
      rwa [length_sdesBytes] at hwrite ⊢
    · rw [sdesBytes, ← length_headerBytes (sdesSize chunks) chunks.length 202]
      exact (readUpTo_sdesChunk_iff _ hitems hpadding).2 hlast

/-- Two chunks whose items leave two bytes. -/
theorem sdes_round_trips_two : SdesRoundTrips
    [{ ssrc := 1, items := [{ type := 1, value := [] }] },
      { ssrc := 2, items := [{ type := 1, value := [97, 98, 99, 100] }] }] ↔
    (∀ chunk ∈ ([{ ssrc := 1, items := [{ type := 1, value := [] }] },
      { ssrc := 2, items := [{ type := 1, value := [97, 98, 99, 100] }] }] : List SdesChunk),
      (chunk.items.map SdesItem.getSize).sum % 4 ≠ 0) ∧
    ∀ chunk ∈ ([{ ssrc := 1, items := [{ type := 1, value := [] }] },
      { ssrc := 2, items := [{ type := 1, value := [97, 98, 99, 100] }] }] : List SdesChunk).getLast?,
      (chunk.items.map SdesItem.getSize).sum % 4 ≠ 3 :=
  sdes_round_trips_iff _ (by decide) (by simp [SdesChunk.Items])

/-- A chunk whose item takes four bytes has no null octet: the SSRC behind it is read as an item. -/
theorem chunk_without_null_octet : ¬ SdesRoundTrips
    [{ ssrc := 1, items := [{ type := 1, value := [97, 98] }] },
      { ssrc := 0x01000000, items := [{ type := 1, value := [] }] }] := by
  rintro ⟨bytes, -, -, hended, -⟩
  exact absurd rfl (SdesChunk.ended_iff.1 (hended _ (.head _)))

end KoreWebsocket.Rtcp
