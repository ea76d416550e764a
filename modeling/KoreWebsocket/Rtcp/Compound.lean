import KoreWebsocket.Rtcp.Bounds

/-!
# Which compound packets are parsed as the list of their packets

`Packet::Parse` gives the parser of a packet the whole rest of the compound packet. So a packet may
read bytes of the packets behind it as its own items. `Contained b r` is the condition on the bytes
of a packet and of the rest behind it under which it does not: behind its own items there is no room
for another one, or what is there is not an item. `compound_parses_as_packets`: a compound packet is
parsed as the list of its packets exactly if each packet is contained.
-/

namespace KoreWebsocket.Rtcp

open Bytes Byte

/-! ## The conditions -/

/-- The reports from an offset on: all the announced ones are there, or the rest has no room for
another one. -/
def ReportsContained (n o : Nat) (b r : List UInt8) : Prop :=
  n ≤ (b.length - o) / 24 ∨ (b.length - o) % 24 + r.length < 24

/-- Up to `n` chunks: the items of each end where they end in the packet alone, and no chunk follows
that is announced and missing in the packet. -/
def SdesContained : Nat → List UInt8 → List UInt8 → Prop
  | 0, _, _ => True
  | n + 1, u, r =>
      if u.length < 4 then u.length + r.length < 4
      else SdesEnds (sdesRest (u.drop 4) ++ r) ∧ SdesContained n (u.drop (chunkSize u)) r

/-- The reason at an offset: it is empty, or fits the packet, or does not even fit the rest. -/
def ReasonContained (o : Nat) (b r : List UInt8) : Prop :=
  ((b ++ r).getD o 0).toNat = 0 ∨ o + 1 + ((b ++ r).getD o 0).toNat ≤ b.length ∨
    b.length + r.length < o + 1 + ((b ++ r).getD o 0).toNat

/-- Items of one size: the bytes behind the last one do not make another one with the rest. -/
def ItemsContained (size : Nat) (b r : List UInt8) : Prop :=
  (b.length - 12) % size + r.length < size

/-- Items of one size that may be incorrect: one in the packet is, or the bytes behind the last one
do not make another one with the rest, or an incorrect one. -/
def CheckedItemsContained (size : Nat) (ok : Header size → Bool) (b r : List UInt8) : Prop :=
  (∃ k, ∃ h : 12 + size * k + size ≤ b.length, ok (headerAt b (12 + size * k) h) = false) ∨
    ItemsContained size b r ∨
    ∃ h : 12 + size * ((b.length - 12) / size) + size ≤ (b ++ r).length,
      ok (headerAt (b ++ r) (12 + size * ((b.length - 12) / size)) h) = false

/-- The packet `b` is parsed in the same way when `r` follows. -/
def Contained (b r : List UInt8) : Prop :=
  match packetType b with
  | .sr => if 28 ≤ b.length then ReportsContained (count b) 28 b r else b.length + r.length < 28
  | .rr => ReportsContained (count b) 8 b r
  | .sdes => SdesContained (count b) (b.drop 4) r
  | .bye => if count b ≤ (b.length - 4) / 4 then ReasonContained (4 + 4 * count b) b r else r = []
  | .psfb =>
      match PsType.ofCount (count b) with
      | .sli | .lei => ItemsContained 4 b r
      | .fir | .tstr | .tstn => ItemsContained 8 b r
      | .rpsi => CheckedItemsContained 8 rpsiCorrect b r
      | .vbcm => (vbcmRest (b.drop 12)).length + r.length < 8
      | .pli | .afb | .other => True
  | .rtpfb =>
      match RtpType.ofCount (count b) with
      | .nack | .tllei => ItemsContained 4 b r
      | .tmmbr | .tmmbn => CheckedItemsContained 8 tmmbCorrect b r
      | .ecn => ItemsContained 20 b r
      | .srReq | .other => True
  | .app | .other => True

/-- Each packet of the list is contained, and the length of what is left at each of them is positive
as an `int`. -/
def AllContained : List (List UInt8) → Prop
  | [] => True
  | b :: bs => intPositive (b ++ bs.flatten).length = true ∧ Contained b bs.flatten ∧
      AllContained bs

/-- One packet with the size it announces, which the parser alone accepts. -/
structure IsPacket (b : List UInt8) (ps : List Packet) : Prop where
  size : packetLen b = b.length
  parses : parse b = .ok ps
  accepted : ps ≠ []

section
variable {b r : List UInt8}

/-! ## The common header of a longer buffer -/

theorem getD_append {i : Nat} (h : i < b.length) : (b ++ r).getD i 0 = b.getD i 0 := by
  rw [List.getD_eq_getElem?_getD, List.getD_eq_getElem?_getD, List.getElem?_append_left h]

theorem count_append (h : 4 ≤ b.length) : count (b ++ r) = count b := by
  rw [count, count, getD_append (by omega)]

theorem packetType_append (h : 4 ≤ b.length) : packetType (b ++ r) = packetType b := by
  rw [packetType, packetType, getD_append (by omega)]

theorem take_drop_append {i n : Nat} (h : i + n ≤ b.length) :
    ((b ++ r).drop i).take n = (b.drop i).take n := by
  rw [List.drop_append_of_le_length (by omega),
    List.take_append_of_le_length (by rw [List.length_drop]; omega)]

theorem packetLen_append (h : 4 ≤ b.length) : packetLen (b ++ r) = packetLen b := by
  rw [packetLen, packetLen, take_drop_append (by omega)]

/-- What is recognized alone is recognized when more follows. -/
theorem isRtcp_append (h : isRtcp b = true) : isRtcp (b ++ r) = true := by
  have h4 : 4 ≤ b.length := by
    simp only [isRtcp, Bool.and_eq_true, decide_eq_true_eq] at h
    omega
  have h4' : 4 ≤ (b ++ r).length := by rw [List.length_append]; omega
  rw [isRtcp] at h ⊢
  rw [getD_append (by omega), getD_append (by omega), decide_eq_true h4']
  rwa [decide_eq_true h4] at h

/-! ## Items with a header of a fixed size -/

section
variable {α : Type} {size n o e : Nat} {decode : Header size → Option α} {xs : List α}

/-- Items of one size end where their number says. -/
theorem header_walk_end (hw : Walk (headerItem size decode) b o xs e) :
    e = o + size * xs.length := by
  induction hw with
  | nil => simp
  | cons _ hx _ ih =>
      obtain ⟨-, rfl⟩ := headerItem_eq_some.1 hx
      rw [ih, List.length_cons, Nat.mul_succ]
      omega

/-- Items of one size stop at an offset where no other has room, or an incorrect one is. -/
theorem header_stops_iff (hpos : 0 < size) (he : e ≤ b.length) :
    Stops (headerItem size decode) b e ↔
      b.length < e + size ∨ ∃ h : e + size ≤ b.length, decode (headerAt b e h) = none := by
  have hhead : ∀ h h', headerAt (n := size) (b.drop e) 0 h = headerAt b e h' :=
    fun _ _ => Subtype.ext (by simp [headerAt])
  constructor
  · rintro (rfl | ⟨hlt, hs⟩)
    · exact .inl (by omega)
    · by_cases h : e + size ≤ b.length
      · refine .inr ⟨h, ?_⟩
        have hle : 0 + size ≤ (b.drop e).length := by rw [List.length_drop]; omega
        rw [headerItem, dif_pos hle] at hs
        rw [← hhead hle h]
        simpa using hs
      · exact .inl (by omega)
  · intro h
    by_cases hlt : e < b.length
    · refine .inr ⟨hlt, ?_⟩
      rw [headerItem]
      by_cases hle : 0 + size ≤ (b.drop e).length
      · have hle' : e + size ≤ b.length := by rw [List.length_drop] at hle; omega
        obtain ⟨_, hn⟩ := h.resolve_left (by omega)
        rw [dif_pos hle, hhead hle hle', hn]
        rfl
      · rw [dif_neg hle]
    · exact .inl (by omega)

/-- Items of one size stop where there is no room for another one. -/
theorem plain_stops_iff (hpos : 0 < size) (he : e ≤ b.length) :
    Stops (headerItem size some) b e ↔ b.length < e + size := by
  rw [header_stops_iff hpos he]
  simp

/-- Reports that are read of a packet are read of a longer buffer exactly if they are contained. -/
theorem reports_append {ys : List (Header 24)} (ho : o ≤ b.length)
    (h : readUpTo receiverReport b n o = .ok ys) :
    readUpTo receiverReport (b ++ r) n o = .ok ys ↔ ReportsContained n o b r := by
  obtain ⟨e, hw, hend⟩ := readUpTo_eq_ok.1 h
  have he : e = o + 24 * ys.length := header_walk_end hw
  have hle : e ≤ b.length := hw.le_length headerItem_fits ho
  rw [@readUpTo_append _ receiverReport _ _ _ _ _ _ headerItem_local hw hle, receiverReport,
    plain_stops_iff (by decide) (by rw [List.length_append]; omega), ReportsContained,
    List.length_append]
  rcases hend with hn | ⟨hn, hs⟩
  · exact iff_of_true (.inl hn) (.inl (by omega))
  · rw [receiverReport, plain_stops_iff (by decide) hle] at hs
    omega

end

/-- A sender report has at most one block. -/
theorem senderReportPacket_eq {u : List UInt8} (h4 : 4 ≤ u.length) : senderReportPacket u =
    .ok (if h : 4 + 24 ≤ u.length then [headerAt u 4 h] else []) := by
  rw [senderReportPacket, remaining_ok h4, Checked.ok_bind, senderReport, headerItem, Checked.ok_bind]
  by_cases h : 4 + 24 ≤ u.length
  · rw [dif_pos h, dif_pos (by rw [List.length_drop]; omega)]
    exact congrArg (fun x => Except.ok [x]) (Subtype.ext (by simp [headerAt]))
  · rw [dif_neg h, dif_neg (by rw [List.length_drop]; omega)]
    rfl

/-- The blocks that are announced are there, or nothing that follows is taken for one. -/
theorem receiverReportPacket_append (offset : Nat) {o : Nat} {p : Packet}
    (heq : (if offset = 0 then 8 else offset) = o) (ho : o ≤ b.length)
    (h : receiverReportPacket b offset = .ok p) :
    receiverReportPacket (b ++ r) offset = .ok p ↔ ReportsContained (count b) o b r := by
  rw [receiverReportPacket, heq] at h ⊢
  obtain ⟨ssrc, hssrc, h⟩ := Checked.bind_eq_ok.1 h
  obtain ⟨ys, hys, h⟩ := Checked.bind_eq_ok.1 h
  cases h
  have h8 : 4 + 4 ≤ b.length := by
    by_contra h8
    rw [get4Bytes_error h8] at hssrc
    cases hssrc
  rw [get4Bytes_append r h8, hssrc, Checked.ok_bind, count_append (by omega), ← reports_append ho hys]
  constructor
  · intro h
    obtain ⟨zs, hzs, h⟩ := Checked.bind_eq_ok.1 h
    cases h
    exact hzs
  · intro h
    rw [h, Checked.ok_bind]
    rfl

/-- Sender reports. -/
theorem srPackets_append {ps : List Packet} (h4 : 4 ≤ b.length)
    (h : srPackets b = .ok (some ps)) : srPackets (b ++ r) = .ok (some ps) ↔
      if 28 ≤ b.length then ReportsContained (count b) 28 b r else b.length + r.length < 28 := by
  have hlen : (b ++ r).length = b.length + r.length := List.length_append
  rw [srPackets, senderReportPacket_eq h4, Checked.ok_bind] at h
  rw [srPackets, senderReportPacket_eq (by omega), Checked.ok_bind, count_append h4]
  by_cases h28 : 28 ≤ b.length
  · rw [dif_pos (by omega)] at h
    rw [dif_pos (by omega), if_pos h28, headerAt_append r (by omega)]
    by_cases h0 : count b = 0
    · rw [if_pos h0] at h ⊢
      cases h
      exact iff_of_true rfl (.inl (by omega))
    · rw [if_neg h0] at h ⊢
      obtain ⟨rr, hrr, h⟩ := Checked.bind_eq_ok.1 h
      cases h
      rw [← receiverReportPacket_append 28 (o := 28) rfl h28 hrr]
      constructor
      · intro h
        obtain ⟨rr', hrr', h⟩ := Checked.bind_eq_ok.1 h
        cases h
        exact hrr'
      · intro h
        change (receiverReportPacket (b ++ r) 28 >>= _) = _
        rw [h, Checked.ok_bind]
        rfl
  · rw [dif_neg (by omega)] at h
    rw [if_neg h28]
    by_cases hr : b.length + r.length < 28
    · rw [dif_neg (by omega)]
      by_cases h0 : count b = 0
      · rw [if_pos h0] at h ⊢
        exact iff_of_true h hr
      · rw [if_neg h0] at h ⊢
        obtain ⟨rr, hrr, h⟩ := Checked.bind_eq_ok.1 h
        cases h
        have := (receiverReportPacket_append (r := r) 4 (o := 4) rfl h4 hrr).2
          (.inr (by omega))
        refine iff_of_true ?_ hr
        change (receiverReportPacket (b ++ r) 4 >>= _) = _
        rw [this, Checked.ok_bind]
        rfl
    · -- the report is read from the bytes behind
      rw [dif_pos (by omega)]
      refine iff_of_false (fun h' => ?_) hr
      have hp : ps = [.sr []] ∨ ∃ rr, ps = [.sr [], rr] := by
        split at h
        · cases h; exact .inl rfl
        · obtain ⟨rr, -, h⟩ := Checked.bind_eq_ok.1 h
          cases h; exact .inr ⟨rr, rfl⟩
      split at h'
      · cases h'
        rcases hp with hp | ⟨_, hp⟩ <;> cases hp
      · obtain ⟨rr, -, h'⟩ := Checked.bind_eq_ok.1 h'
        cases h'
        rcases hp with hp | ⟨_, hp⟩ <;> cases hp

/-! ## Source descriptions -/

/-- An item that is read fits. -/
theorem sdesItemFits_of_some {u : List UInt8} {x : SdesItem} {size : Nat}
    (h : sdesChunkItem u = .ok (some (x, size))) : SdesItemFits u := by
  by_contra hno
  by_cases h2 : 2 ≤ u.length
  · rw [sdesChunkItem_of_not_fits hno h2] at h; cases h
  · rw [sdesChunkItem, sdesItem, get1Byte_error h2] at h; cases h

/-- What an item is depends on its own bytes only. -/
theorem sdesChunkItem_local : Local sdesChunkItem := by
  intro b r x size h _
  have hfit := sdesItemFits_of_some h
  have ⟨h2, h0, hlen⟩ := hfit
  have hfit' : SdesItemFits (b ++ r) := by
    refine ⟨?_, ?_, ?_⟩
    · rw [List.length_append]; omega
    · rw [getD_append (by omega)]; exact h0
    · rw [getD_append (by omega), List.length_append]; omega
  rw [sdesChunkItem_of_fits hfit', ← h, sdesChunkItem_of_fits hfit, getD_append (by omega),
    getD_append (by omega), take_drop_append (by omega)]

/-- A chunk is as long as its `GetSize` says. -/
theorem sdesChunk_size {u : List UInt8} {x : SdesChunk} {size : Nat}
    (h : sdesChunk u = .ok (some (x, size))) : size = x.getSize := by
  rw [sdesChunk] at h
  split at h
  · cases h
  obtain ⟨ssrc, -, h⟩ := Checked.bind_eq_ok.1 h
  obtain ⟨items, -, h⟩ := Checked.bind_eq_ok.1 h
  cases h
  rfl

/-- A chunk is the same in a longer buffer exactly if its items end at the same place. -/
theorem sdesChunk_append {u : List UInt8} {x : SdesChunk} {size : Nat} (h4 : 4 ≤ u.length)
    (h : sdesChunk u = .ok (some (x, size))) :
    sdesChunk (u ++ r) = .ok (some (x, size)) ↔ SdesEnds (sdesRest (u.drop 4) ++ r) := by
  obtain ⟨xs, e, hw, -, hle, hlen, hrest, hno⟩ := exists_sdes_walk (d := u) (o := 4) h4
  have hle' : e ≤ (u ++ r).length := by rw [List.length_append]; omega
  rw [← hrest, ← List.drop_append_of_le_length hle, ← sdes_stops_iff hle',
    ← readAll_append sdesChunkItem_local hw hle (by omega)]
  rw [sdesChunk, if_neg (by omega)] at h
  obtain ⟨ssrc, hssrc, h⟩ := Checked.bind_eq_ok.1 h
  obtain ⟨items, hitems, h⟩ := Checked.bind_eq_ok.1 h
  cases h
  obtain ⟨rfl, -⟩ := (hw.readAll_iff _ (noItem_of_not_fits hno) (by omega)).1 hitems
  rw [sdesChunk, if_neg (by rw [List.length_append]; omega), get4Bytes_append r (by omega), hssrc,
    Checked.ok_bind]
  constructor
  · intro h
    obtain ⟨items', hitems', h⟩ := Checked.bind_eq_ok.1 h
    cases h
    exact hitems'
  · intro h
    rw [h, Checked.ok_bind]
    rfl

/-- The chunks stop where there is no room for an SSRC. -/
theorem sdesChunk_stops_iff {d : List UInt8} {o : Nat} (ho : o ≤ d.length) :
    Stops sdesChunk d o ↔ d.length < o + 4 := by
  constructor
  · rintro (rfl | ⟨hlt, hs⟩)
    · omega
    · by_contra h4
      obtain ⟨-, xs, e, -, -, hs⟩ := (sdesChunk_eq_ok (by rw [List.length_drop]; omega)).1 hs
      cases hs
  · intro h4
    by_cases hlt : o < d.length
    · exact .inr ⟨hlt, sdesChunk_of_short (by rw [List.length_drop]; omega)⟩
    · exact .inl (by omega)

/-- Chunks that are read of a packet are read of a longer buffer exactly if they are contained. -/
theorem sdesChunks_append {n o : Nat} {xs : List SdesChunk} (ho : o ≤ b.length)
    (h : readUpTo sdesChunk b n o = .ok xs) :
    readUpTo sdesChunk (b ++ r) n o = .ok xs ↔ SdesContained n (b.drop o) r := by
  induction n generalizing o xs with
  | zero => exact iff_of_true h trivial
  | succ n ih =>
      have hlen : (b.drop o).length = b.length - o := List.length_drop
      have hlen' : (b ++ r).length = b.length + r.length := List.length_append
      rw [SdesContained]
      by_cases h4 : (b.drop o).length < 4
      · cases (readUpTo_succ_eq_nil.2 ((sdesChunk_stops_iff ho).2 (by omega))).symm.trans h
        rw [if_pos h4, readUpTo_succ_eq_nil, sdesChunk_stops_iff (by omega)]
        omega
      rw [if_neg h4]
      match xs with
      | [] =>
          rw [readUpTo_succ_eq_nil, sdesChunk_stops_iff ho] at h
          omega
      | x :: xs =>
          obtain ⟨size, hlt, hx, h⟩ := readUpTo_succ_eq_cons.1 h
          have hsize : size = chunkSize (b.drop o) := by
            obtain ⟨-, _, _, -, -, he⟩ := (sdesChunk_eq_ok (by omega)).1 hx
            exact congrArg Prod.snd (Option.some.inj he)
          have hcons : readUpTo sdesChunk (b ++ r) (n + 1) o = .ok (x :: xs) ↔
              sdesChunk (b.drop o ++ r) = .ok (some (x, size)) ∧
                readUpTo sdesChunk (b ++ r) n (o + size) = .ok xs := by
            rw [readUpTo_succ_eq_cons, List.drop_append_of_le_length ho]
            constructor
            · rintro ⟨size', -, hx', h'⟩
              obtain rfl : size' = size := (sdesChunk_size hx').trans (sdesChunk_size hx).symm
              exact ⟨hx', h'⟩
            · rintro ⟨hx', h'⟩
              exact ⟨size, by omega, hx', h'⟩
          rw [hcons, sdesChunk_append (by omega) hx]
          refine and_congr_right fun _ => ?_
          by_cases hfit : o + size ≤ b.length
          · rw [ih hfit h, ← List.drop_drop, hsize]
          · -- only the last chunk may round up behind the end
            cases n with
            | zero => exact iff_of_true h trivial
            | succ n =>
                rw [readUpTo, readItems, if_pos (by omega)] at h
                cases h

/-! ## BYE packets -/

theorem ssrcsAt_append {n o : Nat} (h : o + 4 * n ≤ b.length) :
    ssrcsAt (b ++ r) n o = ssrcsAt b n o := by
  induction n generalizing o with
  | zero => rfl
  | succ n ih => rw [ssrcsAt, ssrcsAt, take_drop_append (by omega), ih (by omega)]

/-- The reason is the same when more follows, just when it is contained. -/
theorem reasonAt_append {o : Nat} (ho : o ≤ b.length) :
    reasonAt (b ++ r) o = reasonAt b o ↔ ReasonContained o b r := by
  rw [reasonAt, reasonAt, ReasonContained, List.length_append]
  by_cases hlt : o < b.length
  · rw [getD_append hlt]
    by_cases hfit : o + 1 + (b.getD o 0).toNat ≤ b.length
    · rw [if_pos (by omega), if_pos hfit, take_drop_append hfit]
      exact iff_of_true rfl (.inr (.inl hfit))
    · rw [if_neg hfit]
      by_cases hr : o + 1 + (b.getD o 0).toNat ≤ b.length + r.length
      · rw [if_pos hr]
        refine iff_of_false (fun h => ?_) (by omega)
        have := congrArg List.length h
        rw [List.length_take, List.length_drop, List.length_append, List.length_nil] at this
        omega
      · rw [if_neg hr]
        exact iff_of_true rfl (.inr (.inr (by omega)))
  · rw [if_neg (show ¬ o + 1 + (b.getD o 0).toNat ≤ b.length by omega)]
    by_cases hr : o + 1 + ((b ++ r).getD o 0).toNat ≤ b.length + r.length
    · rw [if_pos hr, List.eq_nil_iff_length_eq_zero, List.length_take, List.length_drop,
        List.length_append]
      omega
    · rw [if_neg hr]
      exact iff_of_true rfl (.inr (.inr (by omega)))

/-- A BYE packet: its SSRCs fit and its reason is contained, or nothing follows. -/
theorem byePacket_append {ps : List Packet} (h4 : 4 ≤ b.length)
    (h : byePacket b = .ok (some ps)) : byePacket (b ++ r) = .ok (some ps) ↔
      if count b ≤ (b.length - 4) / 4 then ReasonContained (4 + 4 * count b) b r else r = [] := by
  have hlen : (b ++ r).length = b.length + r.length := List.length_append
  rw [byePacket_eq h4] at h
  by_cases hn : count b ≤ (b.length - 4) / 4
  · rw [if_pos (.inl hn), Nat.min_eq_left hn] at h
    cases h
    rw [if_pos hn, byePacket_eq (by omega), count_append h4, if_pos (.inl (by omega)),
      Nat.min_eq_left (by omega), ssrcsAt_append (by omega), ← reasonAt_append (by omega)]
    simp
  · rw [if_neg hn]
    by_cases hmod : (b.length - 4) % 4 = 0
    · rw [if_pos (.inr hmod)] at h
      cases h
      constructor
      · intro h
        rw [byePacket_eq (by omega), count_append h4] at h
        split at h
        · next hc =>
            -- more SSRCs are read than the packet has
            simp only [Except.ok.injEq, Option.some.injEq, List.cons.injEq, Packet.bye.injEq] at h
            have := congrArg List.length h.1.1
            rw [length_ssrcsAt, length_ssrcsAt] at this
            exact List.eq_nil_of_length_eq_zero (by omega)
        · cases h
      · rintro rfl
        rw [List.append_nil, byePacket_eq h4, if_pos (.inr hmod)]
    · rw [if_neg (by omega)] at h
      cases h

/-! ## Feedback packets -/

section
variable {α : Type} {size : Nat} {decode : Header size → Option α} {mk : Header 8 → List α → Packet}
  {ps : List Packet}

/-- A feedback packet with items is the same just when its items stop at the same place. -/
theorem itemsPacket_append {item : Item α} (hl : Local item)
    (hinj : ∀ h h' xs ys, mk h xs = mk h' ys → xs = ys) (h12 : 4 + 8 ≤ b.length)
    (h : itemsPacket item mk b = .ok (some ps)) :
    ∃ xs e, Walk item b 12 xs e ∧ Stops item b e ∧
      ∀ r, itemsPacket item mk (b ++ r) = .ok (some ps) ↔ Stops item (b ++ r) e := by
  rw [itemsPacket, feedback_of_le h12] at h
  obtain ⟨xs, hxs, h⟩ := Checked.bind_eq_ok.1 h
  cases h
  obtain ⟨e, hw, hlen, hs⟩ := readAll_eq_ok.1 hxs
  refine ⟨xs, e, hw, hs, fun r => ?_⟩
  have h12' : 4 + 8 ≤ (b ++ r).length := by rw [List.length_append]; omega
  rw [← readAll_append hl hw hs.le hlen, itemsPacket, feedback_of_le h12', headerAt_append r h12]
  constructor
  · intro h
    obtain ⟨ys, hys, h⟩ := Checked.bind_eq_ok.1 h
    have := hinj _ _ _ _ (List.cons.inj (Option.some.inj (Except.ok.inj h))).1
    rw [hys, this]
  · intro h
    rw [h, Checked.ok_bind]
    rfl

/-- A walk over items of one size that stops for want of room has passed all the items. -/
theorem div_mod_of_walk (size : Nat) {m k : Nat} (h1 : size * k ≤ m) (h2 : m < size * k + size) :
    m / size = k ∧ m % size = m - size * k := by
  have hdiv : m / size = k := by
    refine Nat.div_eq_of_lt_le ?_ ?_
    · rw [Nat.mul_comm]; exact h1
    · rw [Nat.mul_comm, Nat.mul_succ]; exact h2
  have := Nat.div_add_mod m size
  rw [hdiv] at this
  exact ⟨hdiv, by omega⟩

/-- Packets with items of one size that are all correct. -/
theorem plainItems_append (hpos : 0 < size) (hdec : ∀ h, decode h ≠ none)
    (hinj : ∀ h h' xs ys, mk h xs = mk h' ys → xs = ys) (h12 : 4 + 8 ≤ b.length)
    (h : itemsPacket (headerItem size decode) mk b = .ok (some ps)) :
    itemsPacket (headerItem size decode) mk (b ++ r) = .ok (some ps) ↔ ItemsContained size b r := by
  obtain ⟨xs, e, hw, hs, hiff⟩ := itemsPacket_append headerItem_local hinj h12 h
  have he := header_walk_end hw
  have hle := hs.le
  rw [header_stops_iff hpos hle] at hs
  have hroom := hs.resolve_right fun ⟨h, hn⟩ => hdec _ hn
  obtain ⟨-, hmod⟩ := div_mod_of_walk size (m := b.length - 12) (k := xs.length) (by omega)
    (by omega)
  rw [hiff r, header_stops_iff hpos (by rw [List.length_append]; omega), ItemsContained, hmod]
  constructor
  · rintro (hr | ⟨h, hn⟩)
    · rw [List.length_append] at hr; omega
    · exact absurd hn (hdec _)
  · intro hr
    exact .inl (by rw [List.length_append]; omega)

/-- Every item on the way was decoded. -/
theorem header_walk_correct {o e k : Nat} {xs : List α}
    (hw : Walk (headerItem size decode) b o xs e) (hk : k < xs.length)
    (h : o + size * k + size ≤ b.length) : decode (headerAt b (o + size * k) h) ≠ none := by
  induction hw generalizing k with
  | nil => simp at hk
  | @cons o e n x xs hlt hx _ ih =>
      obtain ⟨⟨hle, hdec⟩, rfl⟩ := headerItem_eq_some.1 hx
      cases k with
      | zero =>
          have : headerAt b (o + n * 0) h = headerAt (b.drop o) 0 hle :=
            Subtype.ext (by simp [headerAt])
          rw [this, hdec]
          exact Option.some_ne_none x
      | succ k =>
          have hmul : o + n + n * k = o + n * (k + 1) := by rw [Nat.mul_succ]; omega
          have := ih (Nat.lt_of_succ_lt_succ (by simpa using hk)) (hmul ▸ h)
          convert this using 3
          omega

/-- Packets with items of one size that may be incorrect. -/
theorem checkedItems_append {ok : Header size → Bool} (hpos : 0 < size)
    (hdec : ∀ h, decode h = none ↔ ok h = false)
    (hinj : ∀ h h' xs ys, mk h xs = mk h' ys → xs = ys) (h12 : 4 + 8 ≤ b.length)
    (h : itemsPacket (headerItem size decode) mk b = .ok (some ps)) :
    itemsPacket (headerItem size decode) mk (b ++ r) = .ok (some ps) ↔
      CheckedItemsContained size ok b r := by
  obtain ⟨xs, e, hw, hs, hiff⟩ := itemsPacket_append headerItem_local hinj h12 h
  obtain rfl := header_walk_end hw
  have hle := hs.le
  have hlen : (b ++ r).length = b.length + r.length := List.length_append
  rw [header_stops_iff hpos hle] at hs
  rw [hiff r, header_stops_iff hpos (by omega)]
  rcases hs with hroom | ⟨hfit, hn⟩
  · -- the packet has no room for another item, so all its items are correct
    obtain ⟨hdiv, hmod⟩ := div_mod_of_walk size (m := b.length - 12) (k := xs.length)
      (by omega) (by omega)
    rw [CheckedItemsContained, ItemsContained, hmod]
    constructor
    · rintro (hr | ⟨h, hn⟩)
      · exact .inr (.inl (by omega))
      · refine .inr (.inr ⟨by rw [hdiv]; exact h, ?_⟩)
        simp only [hdiv]
        exact (hdec _).1 hn
    · rintro (⟨k, hk, hn⟩ | hr | ⟨h, hn⟩)
      · refine absurd ((hdec _).2 hn) (header_walk_correct hw ?_ hk)
        have hlt : size * k < size * xs.length := by omega
        exact Nat.lt_of_mul_lt_mul_left hlt
      · exact .inl (by omega)
      · simp only [hdiv] at h hn
        exact .inr ⟨h, (hdec _).2 hn⟩
  · refine iff_of_true (.inr ⟨by omega, ?_⟩) (.inl ⟨xs.length, hfit, (hdec _).1 hn⟩)
    rw [headerAt_append r hfit]
    exact hn

end

theorem vbcmSize_append {u : List UInt8} (h : 8 ≤ u.length) : vbcmSize (u ++ r) = vbcmSize u := by
  rw [vbcmSize, vbcmSize, getD_append (by omega), getD_append (by omega)]

/-- What a VBCM item is depends on its own bytes only. -/
theorem vbcmItem_local : Local vbcmItem := by
  intro b r x size h hsize
  obtain ⟨h8, rfl, rfl⟩ := vbcmItem_eq_some.1 h
  have hs := vbcmSize_pos b
  refine vbcmItem_eq_some.2 ⟨by rw [List.length_append]; omega, ?_, ?_⟩
  · rw [vbcmSize_append (by omega)]
  · rw [headerAt_append r h8, vbcmSize_append (by omega), take_drop_append (by omega)]

/-- VBCM items stop where there is no room for another header. -/
theorem vbcm_stops_iff {d : List UInt8} {e : Nat} (he : e ≤ d.length) :
    Stops vbcmItem d e ↔ d.length < e + 8 := by
  constructor
  · rintro (rfl | ⟨hlt, hs⟩)
    · omega
    · by_contra h8
      rw [vbcmItem, dif_pos (by rw [List.length_drop]; omega)] at hs
      cases hs
  · intro h8
    by_cases hlt : e < d.length
    · exact .inr ⟨hlt, by rw [vbcmItem, dif_neg (by rw [List.length_drop]; omega)]⟩
    · exact .inl (by omega)

/-- A VBCM packet: what is left behind its items and what follows do not make a header. -/
theorem vbcmPacket_append {ps : List Packet} (h12 : 4 + 8 ≤ b.length)
    (h : itemsPacket vbcmItem .vbcm b = .ok (some ps)) :
    itemsPacket vbcmItem .vbcm (b ++ r) = .ok (some ps) ↔
      (vbcmRest (b.drop 12)).length + r.length < 8 := by
  obtain ⟨xs, e, hw, hs, hiff⟩ := itemsPacket_append vbcmItem_local
    (fun _ _ _ _ h => (Packet.vbcm.inj h).2) h12 h
  have hle := hs.le
  have hok : ∃ xs, readAll vbcmItem b 12 = .ok xs := by
    rw [itemsPacket, feedback_of_le h12] at h
    obtain ⟨xs, hxs, -⟩ := Checked.bind_eq_ok.1 h
    exact ⟨xs, hxs⟩
  have h8 := (vbcmItems_ok_iff (by omega)).1 hok
  obtain ⟨ys, e', hw', hle', -, hrest, -⟩ := exists_vbcm_walk (d := b) (o := 12) (by omega)
  -- the walk over the items that fit is the walk of the loop
  have hs' : Stops vbcmItem b e' := by
    refine (vbcm_stops_iff hle').2 ?_
    rw [← hrest, List.length_drop] at h8
    omega
  obtain ⟨-, rfl⟩ := hw.unique hs.noItem hw' hs'.noItem
  rw [hiff r, vbcm_stops_iff (by rw [List.length_append]; omega), ← hrest, List.length_append,
    List.length_drop]
  omega

/-- AFB and REMB packets stay in their announced size. -/
theorem afbPacket_append {a : Option (List Packet)} (hsize : packetLen b = b.length)
    (h12 : 12 ≤ b.length) (h : afbPacket b = .ok a) : afbPacket (b ++ r) = .ok a := by
  obtain ⟨h16, hp, h20⟩ := (afbPacket_ok_iff h12 (by omega)).1 ⟨a, h⟩
  have hlen : (b ++ r).length = b.length + r.length := List.length_append
  have hpl : packetLen (b ++ r) = packetLen b := packetLen_append (by omega)
  have hid : HasRembId (b ++ r) ↔ HasRembId b := by
    rw [HasRembId, HasRembId, take_drop_append (by omega)]
  rw [← h, afbPacket_eq h16 hp (by omega) h20,
    afbPacket_eq (u := b ++ r) (by omega) (by omega) (by omega) fun h => by
      have := h20 (hid.1 h)
      omega]
  simp only [hid, hpl, headerAt_append (u := b) r (show 4 + 8 ≤ b.length by omega),
    take_drop_append (b := b) (r := r) (show 12 + (packetLen b - 12) ≤ b.length by omega)]
  by_cases hr : HasRembId b
  · have h20 := h20 hr
    have hc : RembCorrect (b ++ r) ↔ RembCorrect b := by
      rw [RembCorrect, RembCorrect, getD_append (by omega), getD_append (by omega), hpl,
        take_drop_append (by omega)]
    rw [if_pos hr, if_pos hr]
    by_cases hcb : RembCorrect b
    · rw [if_pos (hc.2 hcb), if_pos hcb, getD_append (by omega), getD_append (by omega),
        take_drop_append (by omega), ssrcsAt_append (by have := hcb.2; omega)]
    · rw [if_neg (fun h => hcb (hc.1 h)), if_neg hcb]
  · rw [if_neg hr, if_neg hr]

/-- A feedback packet without items. -/
theorem headerPacket_append {mk : Header 8 → Packet} (h12 : 4 + 8 ≤ b.length) :
    headerPacket mk (b ++ r) = headerPacket mk b := by
  rw [headerPacket, headerPacket, feedback_of_le h12,
    feedback_of_le (by rw [List.length_append]; omega), headerAt_append r h12]

/-- A feedback packet has its two SSRCs. -/
theorem four_add_eight_le_of_feedback {k : Header 8 → Except Fault (Option (List Packet))}
    {ps : List Packet} (h : feedback b k = .ok (some ps)) : 4 + 8 ≤ b.length := by
  by_contra h12
  rw [feedback_of_short h12] at h
  cases h

/-- The transport layer feedback, kind by kind. -/
theorem feedbackRtpPacket_append {ps : List Packet} (h : feedbackRtpPacket b = .ok (some ps)) :
    feedbackRtpPacket (b ++ r) = .ok (some ps) ↔
      match RtpType.ofCount (count b) with
      | .nack | .tllei => ItemsContained 4 b r
      | .tmmbr | .tmmbn => CheckedItemsContained 8 tmmbCorrect b r
      | .ecn => ItemsContained 20 b r
      | .srReq | .other => True := by
  have h12 := four_add_eight_le_of_feedback h
  rw [feedbackRtpPacket, feedback_of_le h12] at h
  rw [feedbackRtpPacket, feedback_of_le (by rw [List.length_append]; omega),
    count_append (by omega)]
  have htmmb : ∀ h, (if tmmbCorrect h then some (decodeTmmb h) else none) = none ↔
      tmmbCorrect h = false := by intro h; split <;> simp_all
  cases hc : RtpType.ofCount (count b) with
  | other => rw [hc] at h; cases h
  | srReq =>
      rw [hc] at h
      exact iff_of_true (headerPacket_append h12 ▸ h) trivial
  | nack =>
      rw [hc] at h
      exact plainItems_append (by decide) (fun _ => by simp)
        (fun _ _ _ _ h => (Packet.nack.inj h).2) h12 h
  | tllei =>
      rw [hc] at h
      exact plainItems_append (by decide) (fun _ => by simp)
        (fun _ _ _ _ h => (Packet.tllei.inj h).2) h12 h
  | ecn =>
      rw [hc] at h
      exact plainItems_append (by decide) (fun _ => by simp)
        (fun _ _ _ _ h => (Packet.ecn.inj h).2) h12 h
  | tmmbr =>
      rw [hc] at h
      exact checkedItems_append (by decide) htmmb (fun _ _ _ _ h => (Packet.tmmbr.inj h).2) h12 h
  | tmmbn =>
      rw [hc] at h
      exact checkedItems_append (by decide) htmmb (fun _ _ _ _ h => (Packet.tmmbn.inj h).2) h12 h

/-- The payload specific feedback, kind by kind. -/
theorem feedbackPsPacket_append {ps : List Packet} (hsize : packetLen b = b.length)
    (h : feedbackPsPacket b = .ok (some ps)) : feedbackPsPacket (b ++ r) = .ok (some ps) ↔
      match PsType.ofCount (count b) with
      | .sli | .lei => ItemsContained 4 b r
      | .fir | .tstr | .tstn => ItemsContained 8 b r
      | .rpsi => CheckedItemsContained 8 rpsiCorrect b r
      | .vbcm => (vbcmRest (b.drop 12)).length + r.length < 8
      | .pli | .afb | .other => True := by
  have h12 := four_add_eight_le_of_feedback h
  rw [feedbackPsPacket, feedback_of_le h12] at h
  rw [feedbackPsPacket, feedback_of_le (by rw [List.length_append]; omega), count_append (by omega)]
  cases hc : PsType.ofCount (count b) with
  | other => rw [hc] at h; cases h
  | pli =>
      rw [hc] at h
      exact iff_of_true (headerPacket_append h12 ▸ h) trivial
  | afb =>
      rw [hc] at h
      exact iff_of_true (afbPacket_append hsize (by omega) h) trivial
  | vbcm =>
      rw [hc] at h
      exact vbcmPacket_append h12 h
  | rpsi =>
      rw [hc] at h
      refine checkedItems_append (by decide) (fun h => ?_)
        (fun _ _ _ _ h => (Packet.rpsi.inj h).2) h12 h
      split <;> simp_all
  | sli =>
      rw [hc] at h
      exact plainItems_append (by decide) (fun _ => by simp)
        (fun _ _ _ _ h => (Packet.sli.inj h).2) h12 h
  | lei =>
      rw [hc] at h
      exact plainItems_append (by decide) (fun _ => by simp)
        (fun _ _ _ _ h => (Packet.lei.inj h).2) h12 h
  | fir =>
      rw [hc] at h
      exact plainItems_append (by decide) (fun _ => by simp)
        (fun _ _ _ _ h => (Packet.fir.inj h).2) h12 h
  | tstr =>
      rw [hc] at h
      exact plainItems_append (by decide) (fun _ => by simp)
        (fun _ _ _ _ h => (Packet.tstr.inj h).2) h12 h
  | tstn =>
      rw [hc] at h
      exact plainItems_append (by decide) (fun _ => by simp)
        (fun _ _ _ _ h => (Packet.tstn.inj h).2) h12 h

/-! ## One packet -/

/-- **One packet.** A packet that is parsed alone is parsed in the same way when more bytes follow
exactly if it is contained. -/
theorem parsePacket_append {ps : List Packet} (h4 : 4 ≤ b.length) (hsize : packetLen b = b.length)
    (h : parsePacket b = .ok (some ps)) :
    parsePacket (b ++ r) = .ok (some ps) ↔ Contained b r := by
  rw [parsePacket] at h
  rw [parsePacket, packetType_append h4, Contained]
  cases hp : packetType b with
  | sr => rw [hp] at h; exact srPackets_append h4 h
  | rr =>
      simp only [hp] at h ⊢
      obtain ⟨rr, hrr, h⟩ := Checked.bind_eq_ok.1 h
      cases h
      have h8 := (receiverReportPacket_ok_iff (Nat.zero_le _)).1 ⟨rr, hrr⟩
      rw [← receiverReportPacket_append 0 (o := 8) rfl h8 hrr]
      constructor
      · intro h
        obtain ⟨rr', hrr', h⟩ := Checked.bind_eq_ok.1 h
        cases h
        exact hrr'
      · intro h
        rw [h, Checked.ok_bind]
        rfl
  | sdes =>
      simp only [hp, sdesPacket] at h ⊢
      obtain ⟨xs, hxs, h⟩ := Checked.bind_eq_ok.1 h
      cases h
      rw [← sdesChunks_append h4 hxs, count_append h4]
      constructor
      · intro h
        obtain ⟨ys, hys, h⟩ := Checked.bind_eq_ok.1 h
        cases h
        exact hys
      · intro h
        rw [h, Checked.ok_bind]
        rfl
  | bye => rw [hp] at h; exact byePacket_append h4 h
  | psfb => rw [hp] at h; exact feedbackPsPacket_append hsize h
  | rtpfb => rw [hp] at h; exact feedbackRtpPacket_append h
  | app | other => rw [hp] at h; cases h

/-- Every packet is one object, except a sender report with reports of receivers. -/
theorem length_parsePacket {u : List UInt8} {ps : List Packet} (hlen : packetLen u ≤ u.length)
    (h : parsePacket u = .ok (some ps)) :
    ps.length = if packetType u = .sr ∧ count u ≠ 0 then 2 else 1 := by
  rw [parsePacket] at h
  cases hp : packetType u with
  | sr =>
      simp only [hp, srPackets] at h
      obtain ⟨reports, -, h⟩ := Checked.bind_eq_ok.1 h
      split at h
      · next h0 => cases h; simp [h0]
      · next h0 =>
          obtain ⟨rr, -, h⟩ := Checked.bind_eq_ok.1 h
          cases h; simp [h0]
  | rr =>
      simp only [hp] at h
      obtain ⟨rr, -, h⟩ := Checked.bind_eq_ok.1 h
      cases h; rfl
  | sdes =>
      simp only [hp, sdesPacket] at h
      obtain ⟨xs, -, h⟩ := Checked.bind_eq_ok.1 h
      cases h; rfl
  | bye =>
      simp only [hp, byePacket] at h
      obtain ⟨a, -, h⟩ := Checked.bind_eq_ok.1 h
      rcases a with _ | ⟨ssrcs, offset⟩
      · cases h
      · obtain ⟨reason, -, h⟩ := Checked.bind_eq_ok.1 h
        cases h; rfl
  | app | other => simp only [hp] at h; cases h
  | rtpfb =>
      simp only [hp] at h
      have h12 := four_add_eight_le_of_feedback h
      by_cases hc : RtpType.ofCount (count u) = .other
      · rw [feedbackRtpPacket, feedback_of_le h12, hc] at h; cases h
      · obtain ⟨p, hp⟩ := feedbackRtpPacket_ok h12 hc
        cases hp.symm.trans h; rfl
  | psfb =>
      simp only [hp] at h
      have h12 := four_add_eight_le_of_feedback h
      cases hc : PsType.ofCount (count u) with
      | other => rw [feedbackPsPacket, feedback_of_le h12, hc] at h; cases h
      | vbcm =>
          rw [feedbackPsPacket_vbcm h12 hc] at h
          obtain ⟨xs, -, h⟩ := Checked.bind_eq_ok.1 h
          cases h; rfl
      | afb =>
          rw [feedbackPsPacket_afb h12 hc] at h
          obtain ⟨h16, hp, h20⟩ := (afbPacket_ok_iff (by omega) hlen).1 ⟨_, h⟩
          rw [afbPacket_eq h16 hp hlen h20] at h
          split at h
          · split at h <;> cases h
            rfl
          · cases h; rfl
      | _ =>
          obtain ⟨p, hp⟩ := feedbackPsPacket_ok (u := u) h12 (by simp [hc]) (by simp [hc])
            (by simp [hc])
          cases hp.symm.trans h; rfl

end

/-! ## The compound packet -/

section
variable {b d : List UInt8} {ps : List Packet}

/-- Enough fuel is enough. -/
theorem parseLoop_fuel {f g : Nat} (hf : d.length < f) (hg : d.length < g) :
    parseLoop f d = parseLoop g d := by
  induction f generalizing d g with
  | zero => omega
  | succ f ih =>
      obtain ⟨g, rfl⟩ : ∃ m, g = m + 1 := ⟨g - 1, by omega⟩
      by_cases hd : Framed d
      · have hlen := four_le_packetLen d
        have h4 := hd.four_le
        have hdrop : (d.drop (packetLen d)).length < d.length := by rw [List.length_drop]; omega
        rw [parseLoop_framed hd, parseLoop_framed hd, ih (g := g) (by omega) (by omega)]
      · rw [parseLoop_not_framed hd, parseLoop_not_framed hd]

/-- The first packet and the rest. -/
theorem parse_framed (hf : Framed d) {qs : List Packet} : parse d = .ok qs ↔
    parsePacket d = .ok none ∧ qs = [] ∨
    ∃ ps rs, parsePacket d = .ok (some ps) ∧ parse (d.drop (packetLen d)) = .ok rs ∧
      qs = ps ++ rs := by
  have hlen := four_le_packetLen d
  have h4 := hf.four_le
  have hrest : parseLoop d.length (d.drop (packetLen d)) = parse (d.drop (packetLen d)) :=
    parseLoop_fuel (by rw [List.length_drop]; omega) (Nat.lt_succ_self _)
  rw [parse, parseLoop_framed hf, hrest, Checked.bind_eq_ok]
  constructor
  · rintro ⟨a, ha, h⟩
    match a with
    | none => cases h; exact .inl ⟨ha, rfl⟩
    | some ps =>
        obtain ⟨rs, hrs, h⟩ := Checked.bind_eq_ok.1 h
        cases h
        exact .inr ⟨ps, rs, ha, hrs, rfl⟩
  · rintro (⟨ha, rfl⟩ | ⟨ps, rs, ha, hrs, rfl⟩)
    · exact ⟨none, ha, rfl⟩
    · refine ⟨some ps, ha, ?_⟩
      simp only [hrs, Checked.ok_bind]
      rfl

/-- A packet passes the checks of the loop. -/
theorem IsPacket.framed (h : IsPacket b ps) : Framed b := by
  by_contra hf
  have := h.parses
  rw [parse, parseLoop_not_framed hf] at this
  cases this
  exact h.accepted rfl

/-- The parser accepts a packet that stands alone. -/
theorem IsPacket.parsePacket (h : IsPacket b ps) : parsePacket b = .ok (some ps) := by
  rcases (parse_framed h.framed).1 h.parses with ⟨-, rfl⟩ | ⟨qs, rs, hq, hr, rfl⟩
  · exact absurd rfl h.accepted
  · rw [h.size, List.drop_length] at hr
    cases hr
    rw [hq, List.append_nil]

/-- A packet at the front of a buffer: the buffer is parsed as the packet and the rest exactly if
the rest of the bytes is counted as positive, the packet is contained and the rest is parsed. -/
theorem IsPacket.parse_append (h : IsPacket b ps) (r : List UInt8) (qs : List Packet) :
    parse (b ++ r) = .ok (ps ++ qs) ↔
      intPositive (b ++ r).length = true ∧ Contained b r ∧ parse r = .ok qs := by
  have hb := h.framed
  have h4 := hb.four_le
  have hlen : packetLen (b ++ r) = b.length := by rw [packetLen_append h4, h.size]
  by_cases hint : intPositive (b ++ r).length = true
  · have hf : Framed (b ++ r) :=
      ⟨hint, isRtcp_append hb.2.1, by rw [hlen, List.length_append]; omega⟩
    rw [← parsePacket_append h4 h.size h.parsePacket, parse_framed hf, hlen, List.drop_left]
    constructor
    · rintro (⟨-, hnil⟩ | ⟨ps', rs, hp, hr, heq⟩)
      · exact absurd (List.append_eq_nil_iff.1 hnil).1 h.accepted
      · -- both are one packet, or both are two
        have hps : ps.length = ps'.length := by
          rw [length_parsePacket (Nat.le_of_eq h.size) h.parsePacket, length_parsePacket hf.2.2 hp,
            packetType_append h4, count_append h4]
        obtain ⟨rfl, rfl⟩ := List.append_inj heq hps
        exact ⟨hint, hp, hr⟩
    · rintro ⟨-, hp, hr⟩
      exact .inr ⟨ps, qs, hp, hr, rfl⟩
  · refine iff_of_false (fun hp => ?_) fun hc => hint hc.1
    rw [parse, parseLoop_not_framed fun hf => hint hf.1] at hp
    exact h.accepted (List.append_eq_nil_iff.1 (Except.ok.inj hp).symm).1

end

/-- **Compound packets.** Take a list of packets, each with the size it announces and accepted by
`Packet::Parse` alone. `Packet::Parse` of all of them in a row returns what it returns of each of
them, in order, exactly if each packet is contained in front of those behind it. -/
theorem compound_parses_as_packets {bs : List (List UInt8)} {pss : List (List Packet)}
    (h : List.Forall₂ IsPacket bs pss) :
    parse bs.flatten = .ok pss.flatten ↔ AllContained bs := by
  induction h with
  | nil => exact iff_of_true rfl trivial
  | cons hb _ ih =>
      rw [List.flatten_cons, List.flatten_cons, AllContained, hb.parse_append, ih]

/-- A picture loss indication. -/
def pliBytes : List UInt8 := [0x81, 206, 0, 2, 0, 0, 0, 1, 0, 0, 0, 2]

/-- A receiver report without reports. -/
def emptyReportBytes : List UInt8 := [0x80, 201, 0, 1, 0, 0, 0, 3]

/-- Three packets, two of them without blocks. -/
theorem compound_parses_as_packets_pli_report :
    ∃ pli rr, IsPacket pliBytes [pli] ∧ IsPacket emptyReportBytes [rr] ∧
      parse (pliBytes ++ (emptyReportBytes ++ pliBytes)) = .ok [pli, rr, pli] := by
  refine ⟨_, _, ⟨rfl, rfl, by simp⟩, ⟨rfl, rfl, by simp⟩, ?_⟩
  exact (@compound_parses_as_packets [pliBytes, emptyReportBytes, pliBytes] _
    (.cons ⟨rfl, rfl, by simp⟩ (.cons ⟨rfl, rfl, by simp⟩ (.cons ⟨rfl, rfl, by simp⟩ .nil)))).2
    ⟨rfl, trivial, rfl, .inl (Nat.zero_le _), rfl, trivial, trivial⟩

/-- A NACK with one item. -/
def nackBytes : List UInt8 := [0x81, 205, 0, 3, 0, 0, 0, 1, 0, 0, 0, 2, 0, 7, 0, 0]

/-- In front of a picture loss indication the NACK takes its bytes for three more items. -/
theorem nack_reads_its_neighbour :
    ¬ ∀ (bs : List (List UInt8)) (pss : List (List Packet)), List.Forall₂ IsPacket bs pss →
      parse bs.flatten = .ok pss.flatten := by
  intro h
  have := h [nackBytes, pliBytes] _
    (.cons ⟨rfl, rfl, by simp⟩ (.cons ⟨rfl, rfl, by simp⟩ .nil))
  exact absurd this (by decide)

end KoreWebsocket.Rtcp
