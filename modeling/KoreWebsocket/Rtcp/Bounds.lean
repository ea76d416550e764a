import KoreWebsocket.Rtcp.Packet

/-!
# Where the RTCP parser stays in its buffer

`Packet::Parse` has no fault on a buffer exactly if every packet it reaches is `Bounded`
(`parse_in_bounds`). A packet is reached when the header of each packet before it passes the checks
of the loop (`Framed`) and the parser of each accepts it (`Accepted`). `Bounded` is a condition on
the bytes: a report has room for its SSRC, an SDES chunk does not end one byte before the end of the
buffer and its size does not round up behind it, no VBCM item announces more than there is, and an
AFB packet has its identifier.
-/

namespace KoreWebsocket.Rtcp

open Bytes Byte

/-! ## The conditions -/

/-- The first bytes are an item of a chunk: it has a type and a length, is not `END`, and fits. -/
def SdesItemFits (u : List UInt8) : Prop :=
  2 ≤ u.length ∧ u.getD 0 0 ≠ 0 ∧ 2 + (u.getD 1 0).toNat ≤ u.length

instance (u : List UInt8) : Decidable (SdesItemFits u) := inferInstanceAs (Decidable (_ ∧ _ ∧ _))

/-- What is left behind the items of a chunk. -/
def sdesRest (u : List UInt8) : List UInt8 :=
  if SdesItemFits u then sdesRest (u.drop (2 + (u.getD 1 0).toNat)) else u
termination_by u.length
decreasing_by
  have := ‹SdesItemFits u›.2.2
  rw [List.length_drop]
  omega

/-- What is left behind the VBCM items that fit. -/
def vbcmRest (u : List UInt8) : List UInt8 :=
  if 8 ≤ u.length ∧ vbcmSize u ≤ u.length then vbcmRest (u.drop (vbcmSize u)) else u
termination_by u.length
decreasing_by
  have : 8 ≤ vbcmSize u := by simp only [vbcmSize, pad4]; omega
  rw [List.length_drop]
  omega

/-- The size of the chunk at the front. -/
def chunkSize (u : List UInt8) : Nat := pad4 (u.length - (sdesRest (u.drop 4)).length)

/-- Up to `n` chunks: no chunk stops before a single byte, and one that is followed by another does
not round up behind the end. -/
def SdesBounded : Nat → List UInt8 → Prop
  | 0, _ => True
  | n + 1, u =>
      u.length < 4 ∨ (sdesRest (u.drop 4)).length ≠ 1 ∧ (n = 0 ∨ chunkSize u ≤ u.length) ∧
        SdesBounded n (u.drop (chunkSize u))

/-- The packet has the identifier of a REMB packet. -/
def HasRembId (u : List UInt8) : Prop := UInt32.ofNat (be ((u.drop 12).take 4)) = uniqueIdentifier

/-- A REMB packet with a bitrate of 64 bits and the size of its SSRCs. -/
def RembCorrect (u : List UInt8) : Prop :=
  bitrateFits (UInt64.ofNat ((u.getD 17 0).toNat % 4 * 2 ^ 16 + be ((u.drop 18).take 2)))
      ((u.getD 17 0).toNat / 4) = true ∧
    packetLen u = 20 + (u.getD 16 0).toNat * 4

instance (u : List UInt8) : Decidable (HasRembId u) := inferInstanceAs (Decidable (_ = _))

instance (u : List UInt8) : Decidable (RembCorrect u) := inferInstanceAs (Decidable (_ ∧ _))

/-- The packet at the front can be parsed without a fault. -/
def Bounded (u : List UInt8) : Prop :=
  match packetType u with
  | .sr => count u = 0 ∨ 8 ≤ u.length
  | .rr => 8 ≤ u.length
  | .sdes => SdesBounded (count u) (u.drop 4)
  | .psfb => u.length < 12 ∨
      match PsType.ofCount (count u) with
      | .vbcm => (vbcmRest (u.drop 12)).length < 8
      | .afb => 16 ≤ u.length ∧ 12 ≤ packetLen u ∧ (HasRembId u → 20 ≤ u.length)
      | _ => True
  | .bye | .rtpfb | .app | .other => True

/-- The parser of the packet at the front returns a packet. -/
def Accepted (u : List UInt8) : Prop :=
  match packetType u with
  | .sr | .rr | .sdes => True
  | .bye => count u ≤ (u.length - 4) / 4 ∨ (u.length - 4) % 4 = 0
  | .psfb => 12 ≤ u.length ∧
      match PsType.ofCount (count u) with
      | .afb => HasRembId u → RembCorrect u
      | .other => False
      | _ => True
  | .rtpfb => 12 ≤ u.length ∧ RtpType.ofCount (count u) ≠ .other
  | .app | .other => False

/-- The header of the packet at the front passes the checks of the loop. -/
def Framed (u : List UInt8) : Prop :=
  intPositive u.length = true ∧ isRtcp u = true ∧ packetLen u ≤ u.length

/-- The rests of the buffer at which the loop calls a parser. -/
inductive Reached (d : List UInt8) : List UInt8 → Prop
  | first (hf : Framed d) : Reached d d
  | next {u : List UInt8} (hr : Reached d u) (ha : Accepted u) (hf : Framed (u.drop (packetLen u))) :
      Reached d (u.drop (packetLen u))

/-- A packet that passes the checks has a header. -/
theorem Framed.four_le {u : List UInt8} (h : Framed u) : 4 ≤ u.length := by
  have := h.2.1
  simp only [isRtcp, Bool.and_eq_true, decide_eq_true_eq] at this
  omega

/-! ## Source description chunks -/

section
variable {d u : List UInt8} {n o : Nat}

/-- Behind an item that fits the rest is the same. -/
theorem sdesRest_of_fits (h : SdesItemFits u) :
    sdesRest u = sdesRest (u.drop (2 + (u.getD 1 0).toNat)) := by
  rw [sdesRest, if_pos h]

/-- Without one, the rest is everything. -/
theorem sdesRest_of_not_fits (h : ¬ SdesItemFits u) : sdesRest u = u := by
  rw [sdesRest, if_neg h]

/-- An item is read if its type and its length are there. -/
theorem sdesItem_ok (h : 2 ≤ u.length) : sdesItem u =
    .ok (if u.length < 2 + (u.getD 1 0).toNat then none
      else some { type := u.getD 0 0, value := (u.drop 2).take (u.getD 1 0).toNat }) := by
  rw [sdesItem, get1Byte_ok h, Checked.ok_bind]
  split <;> rfl

/-- An item that fits is read. -/
theorem sdesChunkItem_of_fits (h : SdesItemFits u) : sdesChunkItem u =
    .ok (some ({ type := u.getD 0 0, value := (u.drop 2).take (u.getD 1 0).toNat },
      2 + (u.getD 1 0).toNat)) := by
  obtain ⟨h1, h2, h3⟩ := h
  rw [sdesChunkItem, sdesItem_ok h1, if_neg (by omega), Checked.ok_bind]
  have hlen : ((u.drop 2).take (u.getD 1 0).toNat).length = (u.getD 1 0).toNat := by
    rw [List.length_take, List.length_drop]; omega
  simp only [h2, if_false, SdesItem.getSize, hlen]
  rfl

/-- No item is read if none fits, where two bytes are there. -/
theorem sdesChunkItem_of_not_fits (h : ¬ SdesItemFits u) (h2 : 2 ≤ u.length) :
    sdesChunkItem u = .ok none := by
  rw [sdesChunkItem, sdesItem_ok h2, Checked.ok_bind]
  by_cases hlen : u.length < 2 + (u.getD 1 0).toNat
  · rw [if_pos hlen]; rfl
  · have hend : u.getD 0 0 = 0 := by
      by_contra h0
      exact h ⟨h2, h0, by omega⟩
    rw [if_neg hlen]
    simp only [hend, if_true]
    rfl

/-- The items of a chunk are read one behind the other. -/
theorem exists_sdes_walk (ho : o ≤ d.length) : ∃ xs e, Walk sdesChunkItem d o xs e ∧
    e = o + (xs.map SdesItem.getSize).sum ∧ e ≤ d.length ∧ xs.length + o ≤ e ∧
    d.drop e = sdesRest (d.drop o) ∧ ¬ SdesItemFits (d.drop e) := by
  -- by the recursion of `sdesRest`
  generalize hu : d.drop o = u
  induction u using sdesRest.induct generalizing o with
  | case1 u hfit ih =>
      subst hu
      have hsize := hfit.2.2
      rw [List.length_drop] at hsize
      obtain ⟨xs, e, hw, he, hle, hlen, hrest, hno⟩ :=
        ih (o := o + (2 + ((d.drop o).getD 1 0).toNat)) (by omega) (by rw [List.drop_drop])
      refine ⟨_ :: xs, e, .cons (by omega) (sdesChunkItem_of_fits hfit) hw, ?_, hle, ?_, ?_, hno⟩
      · have hval : (((d.drop o).drop 2).take ((d.drop o).getD 1 0).toNat).length =
            ((d.drop o).getD 1 0).toNat := by
          rw [List.length_take, List.length_drop, List.length_drop]; omega
        rw [List.map_cons, List.sum_cons, SdesItem.getSize, hval, he]
        omega
      · rw [List.length_cons]; omega
      · rw [hrest, sdesRest_of_fits hfit]
  | case2 u hfit =>
      subst hu
      exact ⟨[], o, .nil o, by simp, ho, by simp, (sdesRest_of_not_fits hfit).symm, hfit⟩

/-- No item begins where none fits. -/
theorem noItem_of_not_fits {e : Nat} (h : ¬ SdesItemFits (d.drop e)) :
    NoItem sdesChunkItem d e := by
  intro hlt x size hx
  by_cases h2 : 2 ≤ (d.drop e).length
  · rw [sdesChunkItem_of_not_fits h h2] at hx; cases hx
  · rw [sdesChunkItem, sdesItem, get1Byte_error h2] at hx; cases hx

/-- The items of a chunk end here: nothing follows, or something that is no item. -/
def SdesEnds (v : List UInt8) : Prop := v.length ≠ 1 ∧ ¬ SdesItemFits v

/-- The items stop where the chunk ends. -/
theorem sdes_stops_iff {e : Nat} (he : e ≤ d.length) :
    Stops sdesChunkItem d e ↔ SdesEnds (d.drop e) := by
  rw [SdesEnds, List.length_drop]
  constructor
  · rintro (rfl | ⟨hlt, hs⟩)
    · exact ⟨by omega, fun h => by simp [SdesItemFits] at h⟩
    · refine ⟨fun h1 => ?_, fun h => ?_⟩
      · rw [sdesChunkItem, sdesItem, get1Byte_error (by rw [List.length_drop]; omega)] at hs
        cases hs
      · rw [sdesChunkItem_of_fits h] at hs; cases hs
  · rintro ⟨h1, h⟩
    by_cases hlt : e < d.length
    · exact .inr ⟨hlt, sdesChunkItem_of_not_fits h (by rw [List.length_drop]; omega)⟩
    · exact .inl (by omega)

/-- `SdesChunk::Parse` on four bytes or more. -/
theorem sdesChunk_eq_ok {a : Option (SdesChunk × Nat)} (h4 : 4 ≤ u.length) :
    sdesChunk u = .ok a ↔ (sdesRest (u.drop 4)).length ≠ 1 ∧
      ∃ xs e, Walk sdesChunkItem u 4 xs e ∧ u.drop e = sdesRest (u.drop 4) ∧
        a = some ({ ssrc := UInt32.ofNat (be ((u.drop 0).take 4)), items := xs }, chunkSize u) := by
  obtain ⟨xs, e, hw, he, hle, hlen, hrest, hno⟩ := exists_sdes_walk (d := u) (o := 4) h4
  have hsize : chunkSize u = pad4 (4 + (xs.map SdesItem.getSize).sum) := by
    rw [chunkSize, ← hrest, List.length_drop]
    congr 1
    omega
  have hiff := fun ys => hw.readAll_iff ys (noItem_of_not_fits hno) (by omega)
  rw [sdes_stops_iff hle, SdesEnds, and_iff_left hno, hrest] at hiff
  rw [sdesChunk, if_neg (by omega), get4Bytes_ok h4, Checked.ok_bind, Checked.bind_eq_ok]
  constructor
  · rintro ⟨ys, hys, h⟩
    obtain ⟨rfl, h1⟩ := (hiff ys).1 hys
    cases h
    exact ⟨h1, ys, e, hw, hrest, by rw [hsize]; rfl⟩
  · rintro ⟨h1, ys, e', hw', hrest', rfl⟩
    have hno' : NoItem sdesChunkItem u e' := by
      refine noItem_of_not_fits ?_
      rw [hrest', ← hrest]; exact hno
    obtain ⟨rfl, rfl⟩ := hw.unique (noItem_of_not_fits hno) hw' hno'
    exact ⟨xs, (hiff xs).2 ⟨rfl, h1⟩, by rw [hsize]; rfl⟩

/-- There is no chunk without an SSRC. -/
theorem sdesChunk_of_short (h4 : u.length < 4) : sdesChunk u = .ok none := by
  rw [sdesChunk, if_pos h4]; rfl

/-- The chunks of an SDES packet are read without a fault exactly if they are bounded. -/
theorem sdesChunks_ok_iff (ho : o ≤ d.length) :
    (∃ xs, readUpTo sdesChunk d n o = .ok xs) ↔ SdesBounded n (d.drop o) := by
  induction n generalizing o with
  | zero => exact ⟨fun _ => trivial, fun _ => ⟨[], rfl⟩⟩
  | succ n ih =>
      have hlen : (d.drop o).length = d.length - o := List.length_drop
      rw [SdesBounded]
      by_cases h4 : (d.drop o).length < 4
      · -- nothing is left, or no chunk
        refine ⟨fun _ => .inl h4, fun _ => ⟨[], readItems_stop ?_⟩⟩
        by_cases hlt : o < d.length
        · exact .inr ⟨hlt, sdesChunk_of_short h4⟩
        · exact .inl (by omega)
      have hlt : o < d.length := by omega
      by_cases h1 : (sdesRest ((d.drop o).drop 4)).length = 1
      · refine ⟨?_, fun h => ?_⟩
        · rintro ⟨xs, hxs⟩
          rw [readUpTo, readItems, if_neg (by omega), if_neg (by omega)] at hxs
          obtain ⟨a, ha, -⟩ := Checked.bind_eq_ok.1 hxs
          exact absurd h1 ((sdesChunk_eq_ok (by omega)).1 ha).1
        · exact absurd h1 (h.resolve_left h4).1
      obtain ⟨ys, e, hw, -, -, -, hrest, -⟩ :=
        exists_sdes_walk (d := d.drop o) (o := 4) (by omega)
      have hx := (sdesChunk_eq_ok (by omega)).2 ⟨h1, ys, e, hw, hrest, rfl⟩
      have hmap : (∃ xs, readUpTo sdesChunk d (n + 1) o = .ok xs) ↔
          ∃ xs, readUpTo sdesChunk d n (o + chunkSize (d.drop o)) = .ok xs := by
        rw [readUpTo, readItems_succ hlt hx, readUpTo]
        cases readItems (.ok []) sdesChunk d n (o + chunkSize (d.drop o)) <;> simp [Except.map]
      rw [hmap]
      by_cases hfit : chunkSize (d.drop o) ≤ (d.drop o).length
      · rw [ih (by omega), ← List.drop_drop]
        exact ⟨fun h => .inr ⟨h1, .inr hfit, h⟩, fun h => (h.resolve_left h4).2.2⟩
      · cases n with
        | zero => exact ⟨fun _ => .inr ⟨h1, .inl rfl, trivial⟩, fun _ => ⟨[], rfl⟩⟩
        | succ n =>
            refine ⟨?_, fun h => absurd (h.resolve_left h4).2.1 (by omega)⟩
            rintro ⟨xs, hxs⟩
            rw [readUpTo, readItems, if_pos (by omega)] at hxs
            cases hxs

/-! ## Reports, and VBCM and AFB packets -/

/-- A sender report is parsed, whatever the header says, and within the buffer. -/
theorem senderReportPacket_ok (h4 : 4 ≤ u.length) :
    ∃ reports, senderReportPacket u = .ok reports ∧ 4 + 24 * reports.length ≤ u.length := by
  rw [senderReportPacket, remaining_ok h4, Checked.ok_bind]
  obtain ⟨a, ha⟩ := @headerItem_ok _ 24 some (u.drop 4)
  rw [senderReport, ha, Checked.ok_bind]
  match a with
  | none => exact ⟨[], rfl, by simpa using h4⟩
  | some (report, n) =>
      obtain ⟨⟨hle, -⟩, -⟩ := headerItem_eq_some.1 ha
      rw [List.length_drop] at hle
      exact ⟨[report], rfl, by simp only [List.length_singleton]; omega⟩

/-- A receiver report is parsed just when it has its SSRC. -/
theorem receiverReportPacket_ok_iff {offset : Nat} (ho : offset ≤ u.length) :
    (∃ rr, receiverReportPacket u offset = .ok rr) ↔ 8 ≤ u.length := by
  rw [receiverReportPacket]
  constructor
  · rintro ⟨rr, h⟩
    obtain ⟨ssrc, hssrc, -⟩ := Checked.bind_eq_ok.1 h
    by_contra h8
    rw [get4Bytes_error (by omega)] at hssrc
    cases hssrc
  · intro h8
    have hoff : (if offset = 0 then 8 else offset) ≤ u.length := by split <;> omega
    obtain ⟨xs, hxs⟩ := readUpTo_total (n := count u) (@headerItem_fits _ 24 some)
      (fun u _ => headerItem_ok u) hoff
    rw [get4Bytes_ok (by omega), Checked.ok_bind, receiverReport, hxs, Checked.ok_bind]
    exact ⟨_, rfl⟩

/-- A VBCM item has at least its header. -/
theorem vbcmSize_pos (u : List UInt8) : 8 ≤ vbcmSize u := by
  simp only [vbcmSize, pad4]; omega

/-- A VBCM item is read just when its header is there. -/
theorem vbcmItem_eq_some {x : VbcmItem} {size : Nat} :
    vbcmItem u = .ok (some (x, size)) ↔ ∃ h : 0 + 8 ≤ u.length, size = vbcmSize u ∧
      x = { header := headerAt u 0 h, value := (u.drop 8).take (vbcmSize u - 8) } := by
  rw [vbcmItem]
  constructor
  · intro he
    have he := Except.ok.inj he
    split at he
    · next h => cases he; exact ⟨h, rfl, rfl⟩
    · cases he
  · rintro ⟨h, rfl, rfl⟩
    rw [dif_pos h]

/-- The VBCM items are read up to the first that does not fit. -/
theorem exists_vbcm_walk (ho : o ≤ d.length) : ∃ xs e, Walk vbcmItem d o xs e ∧ e ≤ d.length ∧
    xs.length + o ≤ e ∧ d.drop e = vbcmRest (d.drop o) ∧
    ¬ (8 ≤ (d.drop e).length ∧ vbcmSize (d.drop e) ≤ (d.drop e).length) := by
  generalize hu : d.drop o = u
  induction u using vbcmRest.induct generalizing o with
  | case1 u hfit ih =>
      subst hu
      have hpos := vbcmSize_pos (d.drop o)
      have hsize := hfit
      rw [List.length_drop] at hsize
      obtain ⟨xs, e, hw, hle, hlen, hrest, hno⟩ :=
        ih (o := o + vbcmSize (d.drop o)) (by omega) (by rw [List.drop_drop])
      refine ⟨_ :: xs, e, .cons (by omega) (vbcmItem_eq_some.2 ⟨by omega, rfl, rfl⟩) hw, hle, ?_, ?_,
        hno⟩
      · rw [List.length_cons]; omega
      · rw [hrest, vbcmRest.eq_1 (d.drop o), if_pos hfit]
  | case2 u hfit =>
      subst hu
      exact ⟨[], o, .nil o, ho, by simp, by rw [vbcmRest, if_neg hfit], hfit⟩

/-- The VBCM items are read without a fault exactly if less than an item is left behind those that
fit. -/
theorem vbcmItems_ok_iff (ho : o ≤ d.length) :
    (∃ xs, readAll vbcmItem d o = .ok xs) ↔ (vbcmRest (d.drop o)).length < 8 := by
  obtain ⟨xs, e, hw, hle, hlen, hrest, hno⟩ := exists_vbcm_walk ho
  rw [← hrest]
  constructor
  · rintro ⟨ys, hys⟩
    by_contra h8
    have hlt : e < d.length := by rw [List.length_drop] at h8; omega
    have hbig : d.length < e + vbcmSize (d.drop e) := by
      by_contra hfit
      exact hno ⟨by omega, by rw [List.length_drop]; omega⟩
    -- the item that does not fit takes the walk behind the end
    have hw₁ := hw.snoc hlt (vbcmItem_eq_some.2 ⟨by omega, rfl, rfl⟩)
    obtain ⟨e', hw', -, hs⟩ := readAll_eq_ok.1 hys
    obtain ⟨-, rfl⟩ := hw₁.unique (fun hlt' => by omega) hw' hs.noItem
    have := hs.le
    omega
  · intro h8
    have he : NoItem vbcmItem d e := by
      intro _ x size hx
      obtain ⟨h, -⟩ := vbcmItem_eq_some.1 hx
      omega
    exact ⟨xs, (hw.readAll_iff _ he (by omega)).2 ⟨rfl, he.stops hle fun u _ => ⟨_, rfl⟩⟩⟩

/-- A feedback packet with two SSRCs. -/
theorem feedback_of_le (h : 4 + 8 ≤ u.length) (k : Header 8 → Except Fault (Option (List Packet))) :
    feedback u k = k (headerAt u 4 h) := dif_pos h

/-- A feedback packet without. -/
theorem feedback_of_short (h : ¬ 4 + 8 ≤ u.length)
    (k : Header 8 → Except Fault (Option (List Packet))) : feedback u k = .ok none := dif_neg h

/-- `FeedbackPsAfbPacket::Parse`, where it has no fault. -/
theorem afbPacket_eq (h16 : 16 ≤ u.length) (h12 : 12 ≤ packetLen u) (hlen : packetLen u ≤ u.length)
    (h20 : HasRembId u → 20 ≤ u.length) : afbPacket u =
    .ok (if HasRembId u then
        if RembCorrect u then
          some [.remb (headerAt u 4 (by omega)) ((u.drop 12).take (packetLen u - 12))
            (ssrcsAt u (u.getD 16 0).toNat 20)
            (UInt64.ofNat ((u.getD 17 0).toNat % 4 * 2 ^ 16 + be ((u.drop 18).take 2)) <<<
              UInt64.ofNat ((u.getD 17 0).toNat / 4))]
        else none
      else some [.afb (headerAt u 4 (by omega)) ((u.drop 12).take (packetLen u - 12))]) := by
  have hsize : afbSize u = .ok (packetLen u - 12) := if_pos h12
  rw [afbPacket, feedback_of_le (by omega), get4Bytes_ok (by omega), Checked.ok_bind]
  by_cases hid : HasRembId u
  · have h20 := h20 hid
    have hlow : be ((u.drop 18).take 2) < 2 ^ 16 := by
      have := be_lt ((u.drop 18).take 2)
      rwa [List.length_take, List.length_drop, Nat.min_eq_left (by omega)] at this
    have hid' : UInt32.ofNat (be ((u.drop 12).take 4)) = uniqueIdentifier := hid
    rw [if_pos hid', if_pos hid, rembPacket, feedback_of_le (by omega), hsize, Checked.ok_bind,
      get4Bytes_ok (by omega), Checked.ok_bind, if_neg (not_not_intro hid'), get1Byte_ok (by omega),
      Checked.ok_bind, get1Byte_ok (by omega), Checked.ok_bind, get2Bytes_ok (by omega),
      Checked.ok_bind]
    simp only [UInt16.toNat_ofNat_of_lt' hlow]
    by_cases hbits : bitrateFits (UInt64.ofNat ((u.getD 17 0).toNat % 4 * 2 ^ 16 +
        be ((u.drop 18).take 2))) ((u.getD 17 0).toNat / 4) = true
    · by_cases hn : packetLen u = 20 + (u.getD 16 0).toNat * 4
      · rw [if_pos (show RembCorrect u from ⟨hbits, hn⟩), hbits, Bool.not_true, if_neg (by simp),
          if_neg (not_not_intro hn), rembSsrcs_ok (by omega)]
        rfl
      · rw [if_neg (fun hc : RembCorrect u => hn hc.2), hbits, Bool.not_true, if_neg (by simp),
          if_pos hn]
        rfl
    · rw [if_neg (fun hc : RembCorrect u => hbits hc.1), if_pos (by simpa using hbits)]
      rfl
  · have hid' : ¬ UInt32.ofNat (be ((u.drop 12).take 4)) = uniqueIdentifier := hid
    rw [if_neg hid', if_neg hid, hsize, Checked.ok_bind]
    rfl

/-- An AFB packet reads an identifier, and an REMB packet a bitrate behind it. -/
theorem afbPacket_ok_iff (h12 : 12 ≤ u.length) (hlen : packetLen u ≤ u.length) :
    (∃ a, afbPacket u = .ok a) ↔
      16 ≤ u.length ∧ 12 ≤ packetLen u ∧ (HasRembId u → 20 ≤ u.length) := by
  refine ⟨?_, fun ⟨h16, hp, h20⟩ => ⟨_, afbPacket_eq h16 hp hlen h20⟩⟩
  rintro ⟨a, ha⟩
  rw [afbPacket, feedback_of_le h12] at ha
  obtain ⟨id, hid, ha⟩ := Checked.bind_eq_ok.1 ha
  have h16 : 16 ≤ u.length := by
    by_contra h
    rw [get4Bytes_error (by omega)] at hid
    cases hid
  rw [get4Bytes_ok (by omega)] at hid
  cases hid
  by_cases hr : HasRembId u
  · have hr' : UInt32.ofNat (be ((u.drop 12).take 4)) = uniqueIdentifier := hr
    rw [if_pos hr', rembPacket, feedback_of_le h12] at ha
    obtain ⟨size, hs, ha⟩ := Checked.bind_eq_ok.1 ha
    have hp : 12 ≤ packetLen u := by
      by_contra h
      rw [afbSize, if_neg h] at hs
      cases hs
    refine ⟨h16, hp, fun _ => ?_⟩
    rw [get4Bytes_ok (by omega), Checked.ok_bind, if_neg (not_not_intro hr')] at ha
    obtain ⟨n, -, ha⟩ := Checked.bind_eq_ok.1 ha
    obtain ⟨byte, -, ha⟩ := Checked.bind_eq_ok.1 ha
    obtain ⟨low, hlow, -⟩ := Checked.bind_eq_ok.1 ha
    by_contra h
    rw [get2Bytes_error (by omega)] at hlow
    cases hlow
  · have hr' : ¬ UInt32.ofNat (be ((u.drop 12).take 4)) = uniqueIdentifier := hr
    rw [if_neg hr'] at ha
    obtain ⟨size, hs, -⟩ := Checked.bind_eq_ok.1 ha
    refine ⟨h16, ?_, fun h => absurd h hr⟩
    by_contra h
    rw [afbSize, if_neg h] at hs
    cases hs

/-! ## One packet -/

/-- Items of one size are parsed, whatever they are. -/
theorem itemsPacket_header_ok {α : Type} {size : Nat} {decode : Header size → Option α}
    {mk : Header 8 → List α → Packet} (hpos : 0 < size) (h12 : 4 + 8 ≤ u.length) :
    ∃ p, itemsPacket (headerItem size decode) mk u = .ok (some [p]) := by
  have hitem : ∀ u x n, headerItem size decode u = .ok (some (x, n)) → 0 < n := by
    intro u x n h
    rw [(headerItem_eq_some.1 h).2]; exact hpos
  obtain ⟨xs, hxs⟩ := readAll_total hitem headerItem_fits (fun u _ => headerItem_ok u)
    (show 12 ≤ u.length by omega)
  rw [itemsPacket, feedback_of_le h12, hxs, Checked.ok_bind]
  exact ⟨_, rfl⟩

/-- A packet with nothing but its header is parsed. -/
theorem headerPacket_ok {mk : Header 8 → Packet} (h12 : 4 + 8 ≤ u.length) :
    ∃ p, headerPacket mk u = .ok (some [p]) :=
  ⟨_, by rw [headerPacket, feedback_of_le h12]; rfl⟩

/-- The known kinds of transport layer feedback are parsed. -/
theorem feedbackRtpPacket_ok (h12 : 4 + 8 ≤ u.length) (ht : RtpType.ofCount (count u) ≠ .other) :
    ∃ p, feedbackRtpPacket u = .ok (some [p]) := by
  rw [feedbackRtpPacket, feedback_of_le h12]
  cases hc : RtpType.ofCount (count u) with
  | other => exact absurd hc ht
  | srReq => exact headerPacket_ok h12
  | nack | tllei | ecn | tmmbr | tmmbn => exact itemsPacket_header_ok (by decide) h12

/-- The known kinds of payload specific feedback are parsed, apart from two. -/
theorem feedbackPsPacket_ok (h12 : 4 + 8 ≤ u.length) (ht : PsType.ofCount (count u) ≠ .other)
    (hv : PsType.ofCount (count u) ≠ .vbcm) (ha : PsType.ofCount (count u) ≠ .afb) :
    ∃ p, feedbackPsPacket u = .ok (some [p]) := by
  rw [feedbackPsPacket, feedback_of_le h12]
  cases hc : PsType.ofCount (count u) with
  | other => exact absurd hc ht
  | vbcm => exact absurd hc hv
  | afb => exact absurd hc ha
  | pli => exact headerPacket_ok h12
  | sli | rpsi | fir | tstr | tstn | lei => exact itemsPacket_header_ok (by decide) h12

/-- VBCM packets have items of different sizes. -/
theorem feedbackPsPacket_vbcm (h12 : 4 + 8 ≤ u.length) (hc : PsType.ofCount (count u) = .vbcm) :
    feedbackPsPacket u = do
      let items ← readAll vbcmItem u 12
      return some [.vbcm (headerAt u 4 h12) items] := by
  rw [feedbackPsPacket, feedback_of_le h12, hc]
  exact feedback_of_le h12 _

/-- AFB packets have an identifier. -/
theorem feedbackPsPacket_afb (h12 : 4 + 8 ≤ u.length) (hc : PsType.ofCount (count u) = .afb) :
    feedbackPsPacket u = afbPacket u := by
  rw [feedbackPsPacket, feedback_of_le h12, hc]

/-- The payload specific feedback is parsed just when these two end well. -/
theorem feedbackPsPacket_ok_iff (h12 : 4 + 8 ≤ u.length) (hlen : packetLen u ≤ u.length) :
    (∃ a, feedbackPsPacket u = .ok a) ↔
      match PsType.ofCount (count u) with
      | .vbcm => (vbcmRest (u.drop 12)).length < 8
      | .afb => 16 ≤ u.length ∧ 12 ≤ packetLen u ∧ (HasRembId u → 20 ≤ u.length)
      | _ => True := by
  cases hc : PsType.ofCount (count u) with
  | vbcm =>
      rw [feedbackPsPacket_vbcm h12 hc, ← vbcmItems_ok_iff (show 12 ≤ u.length by omega)]
      constructor
      · rintro ⟨a, ha⟩
        obtain ⟨xs, hxs, -⟩ := Checked.bind_eq_ok.1 ha
        exact ⟨xs, hxs⟩
      · rintro ⟨xs, hxs⟩
        rw [hxs, Checked.ok_bind]
        exact ⟨_, rfl⟩
  | afb =>
      rw [feedbackPsPacket_afb h12 hc]
      exact afbPacket_ok_iff (by omega) hlen
  | other =>
      refine iff_of_true ⟨none, ?_⟩ trivial
      rw [feedbackPsPacket, feedback_of_le h12, hc]; rfl
  | _ =>
      obtain ⟨p, hp⟩ := feedbackPsPacket_ok (u := u) h12 (by simp [hc]) (by simp [hc]) (by simp [hc])
      exact iff_of_true ⟨_, hp⟩ trivial

/-- A payload specific feedback packet is returned unless its kind is unknown or it is an incorrect REMB
packet. -/
theorem feedbackPsPacket_isSome {a : Option (List Packet)} (h12 : 4 + 8 ≤ u.length)
    (hlen : packetLen u ≤ u.length) (ha : feedbackPsPacket u = .ok a) : a.isSome = true ↔
      match PsType.ofCount (count u) with
      | .afb => HasRembId u → RembCorrect u
      | .other => False
      | _ => True := by
  cases hc : PsType.ofCount (count u) with
  | vbcm =>
      rw [feedbackPsPacket_vbcm h12 hc] at ha
      obtain ⟨xs, -, ha⟩ := Checked.bind_eq_ok.1 ha
      cases ha
      exact iff_of_true rfl trivial
  | afb =>
      rw [feedbackPsPacket_afb h12 hc] at ha
      obtain ⟨h16, hp, h20⟩ := (afbPacket_ok_iff (by omega) hlen).1 ⟨a, ha⟩
      cases (afbPacket_eq h16 hp hlen h20).symm.trans ha
      by_cases hid : HasRembId u
      · by_cases hr : RembCorrect u <;> simp [hid, hr]
      · simp [hid]
  | other =>
      rw [feedbackPsPacket, feedback_of_le h12, hc] at ha
      cases ha
      exact iff_of_false (by simp) id
  | _ =>
      obtain ⟨p, hp⟩ := feedbackPsPacket_ok (u := u) h12 (by simp [hc]) (by simp [hc]) (by simp [hc])
      cases hp.symm.trans ha
      exact iff_of_true rfl trivial

/-- **One packet.** The parser of the packet at the front has no fault exactly if it is bounded, and
returns a packet exactly if it is accepted. -/
theorem parsePacket_ok_iff (hf : Framed u) : (∃ a, parsePacket u = .ok a) ↔ Bounded u := by
  have h4 := hf.four_le
  rw [parsePacket, Bounded]
  cases packetType u with
  | sr =>
      obtain ⟨reports, hrep, hle⟩ := senderReportPacket_ok h4
      change (∃ a, srPackets u = .ok a) ↔ _
      rw [srPackets, hrep, Checked.ok_bind]
      by_cases h0 : count u = 0
      · rw [if_pos h0]
        exact iff_of_true ⟨_, rfl⟩ (.inl h0)
      · rw [if_neg h0, ← receiverReportPacket_ok_iff hle]
        constructor
        · rintro ⟨a, ha⟩
          obtain ⟨rr, hrr, -⟩ := Checked.bind_eq_ok.1 ha
          exact .inr ⟨rr, hrr⟩
        · rintro (h | ⟨rr, hrr⟩)
          · exact absurd h h0
          · rw [hrr, Checked.ok_bind]; exact ⟨_, rfl⟩
  | rr =>
      change (∃ a, (do let rr ← receiverReportPacket u 0; return some [rr]) = Except.ok a) ↔ _
      rw [← receiverReportPacket_ok_iff (u := u) (Nat.zero_le _)]
      constructor
      · rintro ⟨a, ha⟩
        obtain ⟨rr, hrr, -⟩ := Checked.bind_eq_ok.1 ha
        exact ⟨rr, hrr⟩
      · rintro ⟨rr, hrr⟩
        rw [hrr, Checked.ok_bind]; exact ⟨_, rfl⟩
  | sdes =>
      change (∃ a, sdesPacket u = .ok a) ↔ _
      rw [← sdesChunks_ok_iff h4, sdesPacket]
      constructor
      · rintro ⟨a, ha⟩
        obtain ⟨xs, hxs, -⟩ := Checked.bind_eq_ok.1 ha
        exact ⟨xs, hxs⟩
      · rintro ⟨xs, hxs⟩
        rw [hxs, Checked.ok_bind]; exact ⟨_, rfl⟩
  | bye =>
      refine iff_of_true ?_ trivial
      change ∃ a, byePacket u = .ok a
      exact ⟨_, byePacket_eq h4⟩
  | app | other => exact iff_of_true ⟨_, rfl⟩ trivial
  | rtpfb =>
      refine iff_of_true ?_ trivial
      by_cases h12 : 4 + 8 ≤ u.length
      · by_cases ht : RtpType.ofCount (count u) = .other
        · exact ⟨none, by rw [feedbackRtpPacket, feedback_of_le h12, ht]; rfl⟩
        · obtain ⟨p, hp⟩ := feedbackRtpPacket_ok h12 ht
          exact ⟨_, hp⟩
      · exact ⟨none, feedback_of_short h12 _⟩
  | psfb =>
      change (∃ a, feedbackPsPacket u = .ok a) ↔ _
      by_cases h12 : 4 + 8 ≤ u.length
      · rw [feedbackPsPacket_ok_iff h12 hf.2.2]
        exact ⟨.inr, fun h => h.resolve_left (by omega)⟩
      · exact iff_of_true ⟨none, feedback_of_short h12 _⟩ (.inl (by omega))

/-- A parser that ends returns a packet just when it is accepted. -/
theorem parsePacket_isSome {a : Option (List Packet)} (hf : Framed u)
    (ha : parsePacket u = .ok a) : a.isSome = true ↔ Accepted u := by
  have h4 := hf.four_le
  rw [parsePacket] at ha
  rw [Accepted]
  cases hp : packetType u with
  | sr =>
      simp only [hp, srPackets] at ha ⊢
      obtain ⟨reports, -, ha⟩ := Checked.bind_eq_ok.1 ha
      split at ha
      · cases ha; simp
      · obtain ⟨rr, -, ha⟩ := Checked.bind_eq_ok.1 ha
        cases ha; simp
  | rr =>
      simp only [hp] at ha ⊢
      obtain ⟨rr, -, ha⟩ := Checked.bind_eq_ok.1 ha
      cases ha; simp
  | sdes =>
      simp only [hp, sdesPacket] at ha ⊢
      obtain ⟨xs, -, ha⟩ := Checked.bind_eq_ok.1 ha
      cases ha; simp
  | bye =>
      simp only [hp, byePacket_eq h4] at ha ⊢
      cases ha
      by_cases hc : count u ≤ (u.length - 4) / 4 ∨ (u.length - 4) % 4 = 0 <;> simp [hc]
  | app | other => simp only [hp] at ha ⊢; cases ha; simp
  | rtpfb =>
      simp only [hp] at ha ⊢
      by_cases h12 : 4 + 8 ≤ u.length
      · by_cases ht : RtpType.ofCount (count u) = .other
        · rw [feedbackRtpPacket, feedback_of_le h12, ht] at ha
          cases ha
          exact iff_of_false (by simp) fun h => h.2 ht
        · obtain ⟨p, hp⟩ := feedbackRtpPacket_ok h12 ht
          cases hp.symm.trans ha
          exact iff_of_true rfl ⟨by omega, ht⟩
      · cases (feedback_of_short h12 _).symm.trans ha
        exact iff_of_false (by simp) fun h => h12 (by omega)
  | psfb =>
      simp only [hp] at ha ⊢
      by_cases h12 : 4 + 8 ≤ u.length
      · rw [feedbackPsPacket_isSome h12 hf.2.2 ha]
        exact ⟨fun h => ⟨by omega, h⟩, And.right⟩
      · cases (feedback_of_short h12 _).symm.trans ha
        exact iff_of_false (by simp) fun h => h12 (by omega)

/-! ## The compound packet -/

/-- What is reached is the first packet, or is reached from the rest behind it. -/
theorem reached_iff : Reached d u ↔
    Framed d ∧ (u = d ∨ Accepted d ∧ Reached (d.drop (packetLen d)) u) := by
  constructor
  · intro h
    induction h with
    | first hf => exact ⟨hf, .inl rfl⟩
    | next _ ha hf ih =>
        refine ⟨ih.1, .inr ?_⟩
        rcases ih.2 with rfl | ⟨ha', hr⟩
        · exact ⟨ha, .first hf⟩
        · exact ⟨ha', hr.next ha hf⟩
  · rintro ⟨hf, rfl | ⟨ha, hr⟩⟩
    · exact .first hf
    · induction hr with
      | first hf' => exact (Reached.first hf).next ha hf'
      | next _ ha' hf' ih => exact ih.next ha' hf'

/-- The announced length counts the header. -/
theorem four_le_packetLen (d : List UInt8) : 4 ≤ packetLen d := by
  rw [packetLen]; omega

/-- The loop on a packet whose header passes the checks. -/
theorem parseLoop_framed {fuel : Nat} (hf : Framed d) : parseLoop (fuel + 1) d = do
    match ← parsePacket d with
    | none => return []
    | some ps =>
        let qs ← parseLoop fuel (d.drop (packetLen d))
        return ps ++ qs := by
  obtain ⟨h1, h2, h3⟩ := hf
  rw [parseLoop, h1, h2, Bool.not_true, if_neg (by simp), if_neg (by simp)]
  exact if_neg (by omega)

/-- The loop ends at what is no packet. -/
theorem parseLoop_not_framed {fuel : Nat} (hf : ¬ Framed d) : parseLoop (fuel + 1) d = .ok [] := by
  rw [parseLoop]
  split
  · rfl
  split
  · rfl
  split
  · rfl
  · next h1 h2 h3 => exact absurd ⟨by simpa using h1, by simpa using h2, by omega⟩ hf

/-- The loop ends well just when every packet that it reaches does. -/
theorem parseLoop_ok_iff {fuel : Nat} (hfuel : d.length < fuel) :
    (∃ ps, parseLoop fuel d = .ok ps) ↔ ∀ u, Reached d u → Bounded u := by
  -- each packet has four bytes at least, so the fuel lasts
  induction fuel generalizing d with
  | zero => omega
  | succ fuel ih =>
      by_cases hf : Framed d
      · have hlen := four_le_packetLen d
        have h4 := hf.four_le
        have ih := ih (d := d.drop (packetLen d)) (by rw [List.length_drop]; omega)
        rw [parseLoop_framed hf]
        constructor
        · rintro ⟨ps, h⟩ u hu
          obtain ⟨a, ha, h⟩ := Checked.bind_eq_ok.1 h
          rcases (reached_iff.1 hu).2 with rfl | ⟨hacc, hr⟩
          · exact (parsePacket_ok_iff hf).1 ⟨a, ha⟩
          · have hsome := (parsePacket_isSome hf ha).2 hacc
            match a with
            | none => cases hsome
            | some qs =>
                obtain ⟨qs', hqs', -⟩ := Checked.bind_eq_ok.1 h
                exact ih.1 ⟨qs', hqs'⟩ u hr
        · intro h
          obtain ⟨a, ha⟩ := (parsePacket_ok_iff hf).2 (h d (.first hf))
          rw [ha, Checked.ok_bind]
          match a with
          | none => exact ⟨[], rfl⟩
          | some ps =>
              have hacc := (parsePacket_isSome hf ha).1 rfl
              obtain ⟨qs, hqs⟩ := ih.2 fun u hu => h u (reached_iff.2 ⟨hf, .inr ⟨hacc, hu⟩⟩)
              refine ⟨ps ++ qs, ?_⟩
              simp only [hqs, Checked.ok_bind]
              rfl
      · rw [parseLoop_not_framed hf]
        refine iff_of_true ⟨[], rfl⟩ fun u hu => absurd (reached_iff.1 hu).1 hf

end

/-- **Parser bounds.** `Packet::Parse` ends on a buffer, reads only inside it and computes no length
below zero exactly if every packet that it reaches is bounded. -/
theorem parse_in_bounds (d : List UInt8) :
    (∃ ps, parse d = .ok ps) ↔ ∀ u, Reached d u → Bounded u :=
  parseLoop_ok_iff (Nat.lt_succ_self _)

/-- A receiver report of four bytes: its SSRC is read behind the end. -/
theorem short_report_overreads : ¬ ∀ d : List UInt8, ∃ ps, parse d = .ok ps := by
  intro h
  obtain ⟨ps, hps⟩ := h [0x80, 201, 0, 0]
  exact absurd (hps.symm.trans (by decide : parse [0x80, 201, 0, 0] = .error .overread)) (by simp)

end KoreWebsocket.Rtcp
