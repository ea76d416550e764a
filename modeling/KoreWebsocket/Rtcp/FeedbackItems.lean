import KoreWebsocket.Rtcp.Nack

/-!
# Feedback items round trip (`RTC::RTCP::FeedbackPsItemsPacket`, `FeedbackRtpItemsPacket`)

A feedback packet with items is a template over the class of its items. `ItemKind` has what the template
takes from the class: the constructor from values, `GetSize`, `Serialize`, `Parse` and the getters. A
packet of items that each come back from their bytes comes back as a whole (`roundTrips_of_items`); this
is so for NACK, FIR, TST and SLI. The constructors of RPSI and VBCM items write over the end of their
memory or lose the length or the payload, so that no packet with such an item comes back
(`feedback_items_round_trip_iff`).
-/

namespace KoreWebsocket.Rtcp

open Bytes Byte Writer

/-- What `new uint8_t[n]` gives, bytes of any value. -/
def fresh (memory : Nat → UInt8) (n : Nat) : List UInt8 := (List.range n).map memory

/-- Memory of that many bytes. -/
theorem length_fresh (memory : Nat → UInt8) (n : Nat) : (fresh memory n).length = n := by
  rw [fresh, List.length_map, List.length_range]

/-- A class of items: values `V`, items `O` that are constructed from them, and parsed items `I`. -/
structure ItemKind (V O I : Type) where
  packetType : UInt8
  messageType : Nat
  new : (Nat → UInt8) → V → Except Fault O
  getSize : O → Nat
  serialize : O → Writer
  item : Item I
  packet : Header 8 → List I → Packet
  packet_inj : ∀ h xs h' xs', packet h xs = packet h' xs' → xs = xs'
  fields : I → V

namespace ItemKind

variable {V O I : Type} (kind : ItemKind V O I)

/-- `FeedbackPsItemsPacket::GetSize` and `FeedbackRtpItemsPacket::GetSize`. -/
def packetSize (objects : List O) : Nat := 4 + 8 + (objects.map kind.getSize).sum

/-- `FeedbackPsItemsPacket::Serialize` and `FeedbackRtpItemsPacket::Serialize`. -/
def serializePacket (senderSsrc mediaSsrc : UInt32) (objects : List O) : Writer :=
  ((serializeHeader (kind.packetSize objects) kind.messageType kind.packetType).andThen
    (put (feedbackHeader senderSsrc mediaSsrc).1)).andThen (each kind.serialize objects)

/-- A packet of items that are constructed from these values is written with exactly the size that
`GetSize` says, and the parser gives the SSRCs and the values back. -/
def RoundTrips (senderSsrc mediaSsrc : UInt32) (values : List V) : Prop :=
  ∀ memory, ∃ objects bytes items,
    values.mapM (kind.new memory) = .ok objects ∧
    Writes (kind.serializePacket senderSsrc mediaSsrc objects) bytes ∧
    bytes.length = kind.packetSize objects ∧
    itemsPacket kind.item kind.packet bytes =
      .ok (some [kind.packet (feedbackHeader senderSsrc mediaSsrc) items]) ∧
    items.map kind.fields = values

/-- An item comes back from its bytes, whatever is behind them. -/
def ItemRoundTrips (value : V) : Prop :=
  ∀ memory, ∃ object bytes x,
    kind.new memory value = .ok object ∧ Writes (kind.serialize object) bytes ∧
    bytes.length = kind.getSize object ∧ 0 < bytes.length ∧
    (∀ z, kind.item (bytes ++ z) = .ok (some (x, bytes.length))) ∧ kind.fields x = value

section
variable {kind} {senderSsrc mediaSsrc : UInt32} {values : List V} {memory : Nat → UInt8}

/-- The items one behind the other. -/
theorem exists_items (h : ∀ value ∈ values, kind.ItemRoundTrips value) (memory : Nat → UInt8) :
    ∃ objects bytes items,
      values.mapM (kind.new memory) = .ok objects ∧ Writes (each kind.serialize objects) bytes ∧
      bytes.length = (objects.map kind.getSize).sum ∧
      (∀ a : List UInt8, Walk kind.item (a ++ bytes) a.length items (a.length + bytes.length)) ∧
      items.length ≤ bytes.length ∧ items.map kind.fields = values := by
  induction values with
  | nil => exact ⟨[], [], [], rfl, writes_each_nil _, rfl, fun a => .nil _, Nat.le_refl _, rfl⟩
  | cons value values ih =>
      obtain ⟨hvalue, hvalues⟩ := List.forall_mem_cons.1 h
      obtain ⟨object, bytes, x, hnew, hwrites, hlen, hpos, hitem, hfields⟩ := hvalue memory
      obtain ⟨objects, more, items, hnews, hwrites', hlen', hwalk, hle, hfields'⟩ := ih hvalues
      refine ⟨object :: objects, bytes ++ more, x :: items, ?_, hwrites.andThen hwrites', ?_, ?_, ?_, ?_⟩
      · rw [List.mapM_cons, hnew, Checked.ok_bind, hnews]
        rfl
      · rw [List.length_append, hlen, hlen', List.map_cons, List.sum_cons]
      · intro a
        have hrest := hwalk (a ++ bytes)
        rw [List.append_assoc, List.length_append] at hrest
        rw [List.length_append, ← Nat.add_assoc]
        refine .cons ?_ ?_ hrest
        · rw [List.length_append, List.length_append]
          omega
        · rw [List.drop_left]
          exact hitem more
      · rw [List.length_cons, List.length_append]
        omega
      · rw [List.map_cons, hfields, hfields']

/-- **Items that come back make a packet that does.** -/
theorem roundTrips_of_items (h : ∀ value ∈ values, kind.ItemRoundTrips value) :
    kind.RoundTrips senderSsrc mediaSsrc values := by
  intro memory
  obtain ⟨objects, bytes, items, hnew, hwrites, hlen, hwalk, hle, hfields⟩ := exists_items h memory
  obtain ⟨d, hd⟩ : ∃ d, (headerBytes (kind.packetSize objects) kind.messageType kind.packetType ++
      (feedbackHeader senderSsrc mediaSsrc).bytes) ++ bytes = d := ⟨_, rfl⟩
  have hdlen : d.length = 12 + bytes.length := by
    rw [← hd, List.length_append, length_feedbackHeader]
  have h12 : 4 + 8 ≤ d.length := by omega
  have hheader : headerAt d 4 h12 = feedbackHeader senderSsrc mediaSsrc := by
    subst hd
    exact headerAt_feedbackHeader h12
  have hwalk := hwalk (headerBytes (kind.packetSize objects) kind.messageType kind.packetType ++
    (feedbackHeader senderSsrc mediaSsrc).bytes)
  rw [length_feedbackHeader, hd] at hwalk
  have hread : readAll kind.item d 12 = .ok items :=
    readAll_eq_ok.2 ⟨_, hwalk, by omega, .inl hdlen.symm⟩
  refine ⟨objects, d, items, hnew, ?_, ?_, ?_, hfields⟩
  · rw [← hd]
    exact ((writes_put _).andThen (writes_put _)).andThen hwrites
  · rw [hdlen, hlen, packetSize]
  · rw [itemsPacket, feedback_of_le h12, hread, hheader, Checked.ok_bind]
    rfl

end

end ItemKind

/-! ## Items of a fixed size -/

/-- `FeedbackRtpNackItem`, from a packet id and a bitmask. -/
def nackKind : ItemKind (UInt16 × UInt16) (Header 4) (Header 4) where
  packetType := 205
  messageType := 1
  new _ value := .ok (FeedbackRtpNackItem.new value.1 value.2)
  getSize _ := 4
  serialize item := put item.1
  item := nackItem
  packet := .nack
  packet_inj _ _ _ _ h := (Packet.nack.inj h).2
  fields item := (FeedbackRtpNackItem.getPacketId item, FeedbackRtpNackItem.getLostPacketBitmask item)

/-- The values of a `FeedbackPsFirItem`. -/
structure FirValues where
  ssrc : UInt32
  sequenceNumber : UInt8
  deriving DecidableEq

/-- The constructor of `FeedbackPsFirItem`. -/
def FirValues.new (value : FirValues) : Header 8 :=
  ⟨beBytes 4 value.ssrc.toNat ++ [value.sequenceNumber, 0, 0, 0], by
    rw [List.length_append, length_beBytes]; rfl⟩

/-- `FeedbackPsFirItem`. -/
def firKind : ItemKind FirValues (Header 8) (Header 8) where
  packetType := 206
  messageType := 4
  new _ value := .ok value.new
  getSize _ := 8
  serialize item := put item.1
  item := firItem
  packet := .fir
  packet_inj _ _ _ _ h := (Packet.fir.inj h).2
  fields item := { ssrc := UInt32.ofNat (be (item.slice 0 4)), sequenceNumber := item.1.getD 4 0 }

/-- The values of a `FeedbackPsTstItem`. -/
structure TstValues where
  ssrc : UInt32
  sequenceNumber : UInt8
  index : UInt8
  deriving DecidableEq

/-- The constructor of `FeedbackPsTstItem`. The index is the five high bits of its word. -/
def TstValues.new (value : TstValues) : Header 8 :=
  ⟨beBytes 4 value.ssrc.toNat ++ [value.sequenceNumber, 0, 0, value.index <<< 3], by
    rw [List.length_append, length_beBytes]; rfl⟩

/-- The getters of `FeedbackPsTstItem`. -/
def TstValues.ofHeader (item : Header 8) : TstValues :=
  { ssrc := UInt32.ofNat (be (item.slice 0 4)), sequenceNumber := item.1.getD 4 0
    index := item.1.getD 7 0 >>> 3 }

/-- `FeedbackPsTstItem<Tstr>`. -/
def tstrKind : ItemKind TstValues (Header 8) (Header 8) where
  packetType := 206
  messageType := 5
  new _ value := .ok value.new
  getSize _ := 8
  serialize item := put item.1
  item := tstItem
  packet := .tstr
  packet_inj _ _ _ _ h := (Packet.tstr.inj h).2
  fields := TstValues.ofHeader

/-- `FeedbackPsTstItem<Tstn>`. -/
def tstnKind : ItemKind TstValues (Header 8) (Header 8) :=
  { tstrKind with
    messageType := 6
    packet := .tstn
    packet_inj := fun _ _ _ _ h => (Packet.tstn.inj h).2 }

/-- `FeedbackPsSliItem::Serialize`. -/
def SliItem.serialize (item : SliItem) : Writer :=
  put (beBytes 4 (item.first.toNat <<< 19 ||| item.number.toNat <<< 6 ||| item.pictureId.toNat))

/-- `FeedbackPsSliItem`, whose fields are kept as numbers. -/
def sliKind : ItemKind SliItem SliItem SliItem where
  packetType := 206
  messageType := 2
  new _ value := .ok value
  getSize _ := 4
  serialize := SliItem.serialize
  item := sliItem
  packet := .sli
  packet_inj _ _ _ _ h := (Packet.sli.inj h).2
  fields := id

section
variable {V : Type} {size : Nat}

/-- An item that is its header comes back if the getters give its values. -/
theorem ItemKind.itemRoundTrips_of_header {kind : ItemKind V (Header size) (Header size)} {value : V}
    (header : Header size) (hpos : 0 < size) (hnew : ∀ memory, kind.new memory value = .ok header)
    (hsize : kind.getSize header = size) (hserialize : kind.serialize header = put header.1)
    (hitem : kind.item = headerItem size some) (hfields : kind.fields header = value) :
    kind.ItemRoundTrips value := by
  intro memory
  refine ⟨header, header.1, header, hnew memory, ?_, ?_, ?_, ?_, hfields⟩
  · rw [hserialize]
    exact writes_put header.1
  · rw [hsize, header.2]
  · rw [header.2]
    exact hpos
  · intro z
    rw [hitem, header.2]
    refine headerItem_eq_some.2 ⟨⟨?_, congrArg some (Subtype.ext (List.take_left' header.2))⟩, rfl⟩
    rw [List.length_append, header.2]
    omega

end

/-- An item of a NACK packet. -/
theorem nack_item_round_trips (value : UInt16 × UInt16) : nackKind.ItemRoundTrips value := by
  refine ItemKind.itemRoundTrips_of_header (FeedbackRtpNackItem.new value.1 value.2) (by decide)
    (fun _ => rfl) rfl rfl rfl ?_
  change (_, _) = value
  rw [FeedbackRtpNackItem.getPacketId_new, FeedbackRtpNackItem.getLostPacketBitmask_new]

/-- An item of a FIR packet. -/
theorem fir_item_round_trips (value : FirValues) : firKind.ItemRoundTrips value := by
  refine ItemKind.itemRoundTrips_of_header value.new (by decide) (fun _ => rfl) rfl rfl rfl ?_
  have hssrc : value.new.slice 0 4 = beBytes 4 value.ssrc.toNat := List.take_left' (length_beBytes 4 _)
  change FirValues.mk (UInt32.ofNat (be (value.new.slice 0 4))) _ = value
  rw [hssrc, ofNat_be_beBytes_four]
  rfl

/-- The values come back, with an index of five bits. -/
theorem TstValues.ofHeader_new (value : TstValues) (hindex : value.index.toNat < 32) :
    TstValues.ofHeader value.new = value := by
  have hssrc : value.new.slice 0 4 = beBytes 4 value.ssrc.toNat := List.take_left' (length_beBytes 4 _)
  have hback : value.index <<< 3 >>> 3 = value.index := by
    rw [← UInt8.toNat_inj, UInt8.toNat_shiftRight, UInt8.toNat_shiftLeft]
    change (value.index.toNat <<< 3 % 256) >>> 3 = value.index.toNat
    rw [Nat.shiftLeft_eq, Nat.shiftRight_eq_div_pow]
    omega
  have hlast : value.new.1.getD 7 0 = value.index <<< 3 := rfl
  rw [TstValues.ofHeader, hssrc, ofNat_be_beBytes_four, hlast, hback]
  rfl

/-- An item of a TSTR packet. -/
theorem tstr_item_round_trips (value : TstValues) (hindex : value.index.toNat < 32) :
    tstrKind.ItemRoundTrips value :=
  ItemKind.itemRoundTrips_of_header value.new (by decide) (fun _ => rfl) rfl rfl rfl
    (value.ofHeader_new hindex)

/-- An item of a TSTN packet. -/
theorem tstn_item_round_trips (value : TstValues) (hindex : value.index.toNat < 32) :
    tstnKind.ItemRoundTrips value :=
  ItemKind.itemRoundTrips_of_header value.new (by decide) (fun _ => rfl) rfl rfl rfl
    (value.ofHeader_new hindex)

/-- The fields of an SLI item have 13, 13 and 6 bits. -/
def SliItem.InRange (item : SliItem) : Prop :=
  item.first.toNat < 2 ^ 13 ∧ item.number.toNat < 2 ^ 13 ∧ item.pictureId.toNat < 2 ^ 6

/-- The three numbers of an SLI item share one word. -/
theorem decodeSli_compact {header : Header 4} {item : SliItem} (hitem : item.InRange)
    (h : be header.1 = item.first.toNat * 2 ^ 19 + item.number.toNat * 2 ^ 6 + item.pictureId.toNat) :
    decodeSli header = item := by
  obtain ⟨hfirst, hnumber, hpicture⟩ := hitem
  have h1 : (item.first.toNat * 2 ^ 19 + item.number.toNat * 2 ^ 6 + item.pictureId.toNat) / 2 ^ 19 =
      item.first.toNat := by omega
  have h2 : (item.first.toNat * 2 ^ 19 + item.number.toNat * 2 ^ 6 + item.pictureId.toNat) / 2 ^ 6 % 2 ^ 13 =
      item.number.toNat := by omega
  have h3 : (item.first.toNat * 2 ^ 19 + item.number.toNat * 2 ^ 6 + item.pictureId.toNat) % 2 ^ 6 =
      item.pictureId.toNat := by omega
  simp only [decodeSli, h, h1, h2, h3, UInt16.ofNat_toNat, UInt8.ofNat_toNat]

/-- An SLI item whose numbers fit. -/
theorem sli_item_round_trips (value : SliItem) (hvalue : value.InRange) :
    sliKind.ItemRoundTrips value := by
  obtain ⟨hfirst, hnumber, hpicture⟩ := hvalue
  intro memory
  have hcompact : value.first.toNat <<< 19 ||| value.number.toNat <<< 6 ||| value.pictureId.toNat =
      value.first.toNat * 2 ^ 19 + value.number.toNat * 2 ^ 6 + value.pictureId.toNat := by
    have hnumber' : value.number.toNat <<< 6 < 2 ^ 19 := by
      rw [Nat.shiftLeft_eq]
      omega
    have hshift : value.first.toNat <<< 19 + value.number.toNat <<< 6 =
        (value.first.toNat * 2 ^ 13 + value.number.toNat) <<< 6 := by
      simp only [Nat.shiftLeft_eq]
      ring
    rw [← Nat.shiftLeft_add_eq_or_of_lt hnumber', hshift, ← Nat.shiftLeft_add_eq_or_of_lt hpicture,
      Nat.shiftLeft_eq]
    ring
  refine ⟨value, _, value, rfl, writes_put _, ?_, ?_, ?_, rfl⟩
  · rw [length_beBytes]
    rfl
  · rw [length_beBytes]
    decide
  · intro z
    rw [length_beBytes, hcompact]
    have hfit : 0 + 4 ≤ (beBytes 4 (value.first.toNat * 2 ^ 19 + value.number.toNat * 2 ^ 6 +
        value.pictureId.toNat) ++ z).length := by
      rw [List.length_append, length_beBytes]
      omega
    have hbytes : (headerAt _ 0 hfit).1 = beBytes 4 _ := List.take_left' (length_beBytes 4 _)
    have hdecode : decodeSli (headerAt _ 0 hfit) = value := by
      refine decodeSli_compact ⟨hfirst, hnumber, hpicture⟩ ?_
      rw [hbytes, be_beBytes]
      omega
    change headerItem 4 (fun h => some (decodeSli h)) _ = _
    exact headerItem_eq_some.2 ⟨⟨hfit, congrArg some hdecode⟩, rfl⟩

/-! ## RPSI and VBCM items -/

/-- The values of a `FeedbackPsRpsiItem`. -/
structure RpsiValues where
  payloadType : UInt8
  bitString : List UInt8
  deriving DecidableEq

/-- The loop that fills the padding of an RPSI item. -/
def fillPadding (raw : List UInt8) (padding : Nat) : Except Fault (List UInt8) :=
  (List.range padding).foldlM (fun raw i => write raw (8 + i - 1) [0]) raw

/-- The constructor of `FeedbackPsRpsiItem`. It does not set the payload type. -/
def RpsiValues.new (memory : Nat → UInt8) (value : RpsiValues) : Except Fault (List UInt8) := do
  ensure (value.payloadType ≤ 0x7f) "rpsi payload type exceeds the maximum value"
  ensure (value.bitString.length ≤ 6) "rpsi bit string length exceeds the maximum value"
  let raw := fresh memory 8
  let padding := (4 - value.bitString.length % 4) % 4
  let raw ← write raw 0 [UInt8.ofNat (padding * 8)]
  let raw ← write raw 1 [raw.getD 1 0 &&& 0xfe]
  let raw ← write raw 2 value.bitString
  fillPadding raw padding

/-- `FeedbackPsRpsiItem::Serialize`. -/
def serializeRpsi (raw : List UInt8) : Writer := fun buffer offset => do
  let header ← read raw 0 8
  put header buffer offset

/-- `FeedbackPsRpsiItem`. -/
def rpsiKind : ItemKind RpsiValues (List UInt8) RpsiItem where
  packetType := 206
  messageType := 3
  new := RpsiValues.new
  getSize _ := 8
  serialize := serializeRpsi
  item := rpsiItem
  packet := .rpsi
  packet_inj _ _ _ _ h := (Packet.rpsi.inj h).2
  fields item :=
    { payloadType := item.header.1.getD 1 0 >>> 1, bitString := item.header.slice 2 item.length }

/-- The values of a `FeedbackPsVbcmItem`. -/
structure VbcmValues where
  ssrc : UInt32
  sequenceNumber : UInt8
  payloadType : UInt8
  value : List UInt8
  deriving DecidableEq

/-- The header of a `FeedbackPsVbcmItem`. -/
def VbcmValues.header (value : VbcmValues) : List UInt8 :=
  beBytes 4 value.ssrc.toNat ++
    ([value.sequenceNumber, value.payloadType <<< 1] ++ beBytes 2 value.value.length)

/-- The constructor of `FeedbackPsVbcmItem`. It copies `sizeof(length)` bytes of the value. -/
def VbcmValues.new (memory : Nat → UInt8) (value : VbcmValues) : Except Fault (List UInt8) := do
  let raw ← write (fresh memory (8 + value.value.length)) 0 value.header
  let copied ← read value.value 0 2
  write raw 8 copied

/-- The length field of a `FeedbackPsVbcmItem`, without `ntohs`. -/
def vbcmLength (raw : List UInt8) : Nat := (raw.getD 6 0).toNat + 256 * (raw.getD 7 0).toNat

/-- `FeedbackPsVbcmItem::Serialize`. -/
def serializeVbcm (raw : List UInt8) : Writer := fun buffer offset => do
  let header ← read raw 0 8
  let value ← read raw 8 (vbcmLength raw)
  let padding := (4 - (8 + vbcmLength raw) % 4) % 4
  (((put header).andThen (put value)).andThen (put (List.replicate padding 0))) buffer offset

/-- `FeedbackPsVbcmItem`, whose message type is that of a FIR packet. The payload of a parsed item is as
much of its length as the item has. -/
def vbcmKind : ItemKind VbcmValues (List UInt8) VbcmItem where
  packetType := 206
  messageType := 4
  new := VbcmValues.new
  getSize := vbcmSize
  serialize := serializeVbcm
  item := vbcmItem
  packet := .vbcm
  packet_inj _ _ _ _ h := (Packet.vbcm.inj h).2
  fields item :=
    { ssrc := UInt32.ofNat (be (item.header.slice 0 4)), sequenceNumber := item.header.1.getD 4 0
      payloadType := item.header.1.getD 5 0 >>> 1
      value := item.value.take (be (item.header.slice 6 2)) }

namespace ItemKind

variable {V O I : Type} {kind : ItemKind V O I} {senderSsrc mediaSsrc : UInt32}

/-- **The first item of a packet that comes back.** It is constructed, written and parsed, and has its
values. -/
theorem RoundTrips.first {bytesOf : O → List UInt8} {value : V} {values : List V}
    (h : kind.RoundTrips senderSsrc mediaSsrc (value :: values))
    (hwrites : ∀ object, (∃ buffer offset result, kind.serialize object buffer offset = .ok result) →
      Writes (kind.serialize object) (bytesOf object)) (memory : Nat → UInt8) :
    ∃ object z x size, kind.new memory value = .ok object ∧
      Writes (kind.serialize object) (bytesOf object) ∧
      kind.item (bytesOf object ++ z) = .ok (some (x, size)) ∧ kind.fields x = value := by
  obtain ⟨objects, bytes, items, hnew, hpacket, -, hparse, hfields⟩ := h memory
  rw [List.mapM_cons] at hnew
  obtain ⟨object, hobject, hnew⟩ := Checked.bind_eq_ok.1 hnew
  obtain ⟨others, -, hnew⟩ := Checked.bind_eq_ok.1 hnew
  cases hnew
  have heach : ∀ o ∈ object :: others, Writes (kind.serialize o) (bytesOf o) := by
    intro o ho
    refine hwrites o ?_
    obtain ⟨⟨buffer, n⟩, -, hrun⟩ :=
      Checked.bind_eq_ok.1 (hpacket.start (List.replicate bytes.length 0) (by rw [List.length_replicate]))
    obtain ⟨result, hrun, -⟩ := Checked.bind_eq_ok.1 hrun
    exact exists_ok_of_each hrun ho
  have hbytes := hpacket.unique (((writes_put _).andThen (writes_put _)).andThen (writes_each_mem heach))
  have hlen12 : ((headerBytes (kind.packetSize (object :: others)) kind.messageType kind.packetType ++
      (feedbackHeader senderSsrc mediaSsrc).1)).length = 12 := length_feedbackHeader
  have hdrop : bytes.drop 12 = bytesOf object ++ others.flatMap bytesOf := by
    rw [hbytes, List.flatMap_cons]
    exact List.drop_left' hlen12
  have h12 : 4 + 8 ≤ bytes.length := by
    rw [hbytes, List.length_append]
    change _ ≤ (headerBytes _ _ _ ++ _).length + _
    rw [hlen12]
    omega
  rw [itemsPacket, feedback_of_le h12] at hparse
  obtain ⟨items', hread, hparse⟩ := Checked.bind_eq_ok.1 hparse
  have hpackets := Option.some.inj (Except.ok.inj hparse)
  have hitems : items' = items := kind.packet_inj _ _ _ _ (List.cons.inj hpackets).1
  subst hitems
  cases items' with
  | nil => cases hfields
  | cons x items' =>
      obtain ⟨e, hwalk, -⟩ := readAll_eq_ok.1 hread
      cases hwalk with
      | @cons _ _ size _ _ hlt hx hwalk =>
          rw [hdrop] at hx
          exact ⟨object, _, x, size, hobject, heach object (.head _), hx, (List.cons.inj hfields).1⟩

end ItemKind

/-! ### RPSI items -/

section
variable {memory : Nat → UInt8} {raw raw' : List UInt8} {padding : Nat} {senderSsrc mediaSsrc : UInt32}

/-- The padding of an RPSI item ends at its last byte if it is one byte at most. -/
theorem fillPadding_ok (hraw : raw.length = 8) (h : fillPadding raw padding = .ok raw') :
    raw'.length = 8 ∧ raw'.getD 0 0 = raw.getD 0 0 ∧ padding ≤ 1 := by
  have hloop : ∀ (places : List Nat) (raw : List UInt8), raw.length = 8 →
      places.foldlM (fun raw i => write raw (8 + i - 1) [0]) raw = .ok raw' →
      raw'.length = 8 ∧ raw'.getD 0 0 = raw.getD 0 0 ∧ ∀ i ∈ places, i < 1 := by
    intro places
    induction places with
    | nil =>
        intro raw hraw h
        cases h
        exact ⟨hraw, rfl, List.forall_mem_nil _⟩
    | cons i places ih =>
        intro raw hraw h
        rw [List.foldlM_cons] at h
        obtain ⟨next, hwrite, h⟩ := Checked.bind_eq_ok.1 h
        obtain ⟨hlen, hfirst, hplaces⟩ := ih next ((length_write hwrite).trans hraw) h
        have hfit := (write_eq_ok.1 hwrite).1
        rw [hraw, List.length_singleton] at hfit
        refine ⟨hlen, ?_, List.forall_mem_cons.2 ⟨by omega, hplaces⟩⟩
        rw [hfirst, getD_write hwrite, if_neg (by omega)]
  obtain ⟨hlen, hfirst, hplaces⟩ := hloop _ raw hraw h
  refine ⟨hlen, hfirst, ?_⟩
  by_contra hlt
  exact absurd (hplaces 1 (List.mem_range.2 (by omega))) (by decide)

/-- The constructor of an RPSI item ends for up to six bytes with at most one byte of padding, and makes
eight. -/
theorem RpsiValues.new_ok {value : RpsiValues} (h : value.new memory = .ok raw) :
    value.bitString.length ≤ 6 ∧ raw.length = 8 ∧ (4 - value.bitString.length % 4) % 4 ≤ 1 ∧
      raw.getD 0 0 = UInt8.ofNat ((4 - value.bitString.length % 4) % 4 * 8) := by
  rw [RpsiValues.new] at h
  obtain ⟨_, -, h⟩ := Checked.bind_eq_ok.1 h
  obtain ⟨_, hlength, h⟩ := Checked.bind_eq_ok.1 h
  obtain ⟨raw₁, hbits, h⟩ := Checked.bind_eq_ok.1 h
  obtain ⟨raw₂, hzero, h⟩ := Checked.bind_eq_ok.1 h
  obtain ⟨raw₃, hstring, h⟩ := Checked.bind_eq_ok.1 h
  have hraw : raw₃.length = 8 := by
    rw [length_write hstring, length_write hzero, length_write hbits, length_fresh]
  obtain ⟨hlen, hfirst, hpadding⟩ := fillPadding_ok hraw h
  refine ⟨of_ensure hlength, hlen, hpadding, ?_⟩
  rw [hfirst, getD_write hstring, if_neg (by omega), getD_write hzero, if_neg (by omega),
    getD_write hbits, if_pos (by rw [List.length_singleton]; omega)]
  rfl

/-- An RPSI item is written as its eight bytes. -/
theorem writes_rpsi (h : ∃ buffer offset result, serializeRpsi raw buffer offset = .ok result) :
    Writes (serializeRpsi raw) (raw.take 8) := by
  obtain ⟨buffer, offset, result, h⟩ := h
  obtain ⟨header, hread, -⟩ := Checked.bind_eq_ok.1 h
  obtain ⟨-, rfl⟩ := read_eq_ok.1 hread
  intro a old z hlen
  rw [serializeRpsi, hread, Checked.ok_bind]
  exact writes_put _ a old z hlen

/-- An RPSI item does not come back: its padding says a length that is not that of its bit string. -/
theorem not_rpsi_round_trips (value : RpsiValues) (values : List RpsiValues) :
    ¬ rpsiKind.RoundTrips senderSsrc mediaSsrc (value :: values) := by
  intro h
  obtain ⟨raw, z, x, size, hnew, -, hitem, hfields⟩ := h.first (fun _ => writes_rpsi) fun _ => 0
  obtain ⟨hle, hraw, hpadding, hfirst⟩ := RpsiValues.new_ok hnew
  have htake : raw.take 8 = raw := List.take_of_length_le (Nat.le_of_eq hraw)
  rw [htake] at hitem
  change rpsiItem (raw ++ z) = _ at hitem
  rw [rpsiItem] at hitem
  obtain ⟨⟨hfit, hdecode⟩, -⟩ := headerItem_eq_some.1 hitem
  have hheader : (headerAt (raw ++ z) 0 hfit).1 = raw := List.take_left' hraw
  have hfirst' : ((headerAt (raw ++ z) 0 hfit).1.getD 0 0).toNat =
      (4 - value.bitString.length % 4) % 4 * 8 := by
    rw [hheader, hfirst, UInt8.toNat_ofNat']
    omega
  have hlength : x.length = 6 - (4 - value.bitString.length % 4) % 4 := by
    split at hdecode
    case isTrue =>
      cases hdecode
      dsimp only
      rw [hfirst']
      omega
    case isFalse => cases hdecode
  have hstring : (x.header.slice 2 x.length).length = value.bitString.length := by
    rw [← hfields]
    rfl
  have hslice : (x.header.slice 2 x.length).length = x.length := by
    have hlen := x.header.2
    rw [Header.slice, List.length_take, List.length_drop]
    omega
  omega

/-! ### VBCM items -/

/-- A VBCM item has a header of eight bytes. -/
theorem VbcmValues.length_header (value : VbcmValues) : value.header.length = 8 := by
  simp only [VbcmValues.header, List.length_append, length_beBytes, List.length_cons, List.length_nil]

/-- The constructor of a VBCM item copies two bytes of the value, and leaves the others as the memory was.
-/
theorem VbcmValues.new_ok {value : VbcmValues} (h : value.new memory = .ok raw) :
    2 ≤ value.value.length ∧ raw.length = 8 + value.value.length ∧ raw.take 8 = value.header ∧
      ∀ j, 10 ≤ j → j < raw.length → raw.getD j 0 = memory j := by
  rw [VbcmValues.new] at h
  obtain ⟨raw₁, hheader, h⟩ := Checked.bind_eq_ok.1 h
  obtain ⟨copied, hread, h⟩ := Checked.bind_eq_ok.1 h
  obtain ⟨hvalue, hcopied⟩ := read_eq_ok.1 hread
  have hlen : copied.length = 2 := by
    rw [hcopied, List.length_take, List.length_drop]
    omega
  have hraw : raw.length = 8 + value.value.length := by
    rw [length_write h, length_write hheader, length_fresh]
  refine ⟨by omega, hraw, ?_, fun j hj hlt => ?_⟩
  · obtain ⟨-, hraw₁⟩ := write_eq_ok.1 hheader
    obtain ⟨hfit, hraw'⟩ := write_eq_ok.1 h
    have htake : raw₁.take 8 = value.header := by
      rw [hraw₁, List.take_zero, List.nil_append, List.take_left' value.length_header]
    have hlen8 : (raw₁.take 8).length = 8 := by rw [htake, value.length_header]
    rw [hraw', List.append_assoc, List.take_left' hlen8, htake]
  · have hmemory : (fresh memory (8 + value.value.length)).getD j 0 = memory j := by
      rw [fresh, List.getD_eq_getElem _ _ (by rw [List.length_map, List.length_range]; omega),
        List.getElem_map, List.getElem_range]
    have hheader8 := value.length_header
    rw [getD_write h, if_neg (by omega), getD_write hheader, if_neg (by omega), hmemory]

/-- What is written of a VBCM item. -/
def vbcmBytes (raw : List UInt8) : List UInt8 :=
  (raw.take 8 ++ (raw.drop 8).take (vbcmLength raw)) ++
    List.replicate ((4 - (8 + vbcmLength raw) % 4) % 4) 0

/-- A VBCM item is written with its padding. -/
theorem writes_vbcm (h : ∃ buffer offset result, serializeVbcm raw buffer offset = .ok result) :
    8 + vbcmLength raw ≤ raw.length ∧ Writes (serializeVbcm raw) (vbcmBytes raw) := by
  obtain ⟨buffer, offset, result, h⟩ := h
  obtain ⟨header, hheader, h⟩ := Checked.bind_eq_ok.1 h
  obtain ⟨value, hvalue, h⟩ := Checked.bind_eq_ok.1 h
  obtain ⟨-, rfl⟩ := read_eq_ok.1 hheader
  obtain ⟨hfit, rfl⟩ := read_eq_ok.1 hvalue
  refine ⟨hfit, ?_⟩
  intro a old z hlen
  rw [serializeVbcm, hheader, Checked.ok_bind, hvalue, Checked.ok_bind]
  exact (((writes_put _).andThen (writes_put _)).andThen (writes_put _)) a old z hlen

/-- A byte of a first part. -/
theorem getD_of_take {l a : List UInt8} {n i : Nat} (h : l.take n = a) (hi : i < n) :
    l.getD i 0 = a.getD i 0 := by
  rw [← h, List.getD_eq_getElem?_getD, List.getD_eq_getElem?_getD, List.getElem?_take_of_lt hi]

/-- The length of a VBCM item, with its bytes swapped. -/
theorem vbcmLength_eq {value : VbcmValues} (h : raw.take 8 = value.header)
    (hvalue : value.value.length < 2 ^ 16) :
    vbcmLength raw = value.value.length / 256 + 256 * (value.value.length % 256) := by
  have hhigh : value.header.getD 6 0 = UInt8.ofNat (value.value.length / 256) := rfl
  have hlow : value.header.getD 7 0 = UInt8.ofNat value.value.length := rfl
  rw [vbcmLength, getD_of_take h (by decide), getD_of_take h (by decide), hhigh, hlow,
    UInt8.toNat_ofNat', UInt8.toNat_ofNat']
  omega

/-- A VBCM item does not come back. Its length is written without a swap of its bytes, so only a length
of two equal bytes is as long as it says, and of its value only two bytes are copied. -/
theorem not_vbcm_round_trips (value : VbcmValues) (values : List VbcmValues)
    (hvalue : value.value.length < 2 ^ 16) :
    ¬ vbcmKind.RoundTrips senderSsrc mediaSsrc (value :: values) := by
  intro h
  -- memory that differs from the third byte of the value
  obtain ⟨raw, z, x, size, hnew, hwrites, hitem, hfields⟩ :=
    h.first (fun _ hrun => (writes_vbcm hrun).2) fun _ => value.value.getD 2 0 + 1
  obtain ⟨htwo, hraw, hheader, hmemory⟩ := VbcmValues.new_ok hnew
  have hlength := vbcmLength_eq hheader hvalue
  have hrun := hwrites.start (List.replicate (vbcmBytes raw).length 0) (by rw [List.length_replicate])
  have hfit := (writes_vbcm ⟨_, _, _, hrun⟩).1
  have hlen8 : (raw.take 8).length = 8 := by rw [hheader, value.length_header]
  have htake : (vbcmBytes raw ++ z).take 8 = raw.take 8 := by
    rw [vbcmBytes, List.append_assoc, List.append_assoc, List.take_left' hlen8]
  have hsize : vbcmSize (vbcmBytes raw ++ z) = pad4 (8 + vbcmLength raw) := by
    rw [vbcmSize, vbcmLength, getD_of_take htake (by decide), getD_of_take htake (by decide),
      ← getD_of_take rfl (by decide), ← getD_of_take rfl (by decide)]
  obtain ⟨h8, -, hx⟩ := vbcmItem_eq_some.1 hitem
  have hpayload : value.value = x.value.take (be (x.header.slice 6 2)) := by
    rw [← hfields]
    rfl
  have hle : value.value.length ≤ vbcmLength raw + 3 := by
    have hxlen : x.value.length ≤ pad4 (8 + vbcmLength raw) - 8 := by
      rw [hx, ← hsize]
      exact List.length_take_le _ _
    rw [pad4] at hxlen
    rw [hpayload, List.length_take]
    omega
  have hequal : vbcmLength raw = value.value.length := by omega
  have hmany : 2 < value.value.length := by omega
  have hthird : value.value.getD 2 0 = raw.getD 10 0 := by
    have hlonger : 2 < be (x.header.slice 6 2) := by
      have hlen := congrArg List.length hpayload
      rw [List.length_take] at hlen
      omega
    have hbehind : (vbcmBytes raw ++ z).drop 8 = (raw.drop 8).take (vbcmLength raw) ++
        (List.replicate ((4 - (8 + vbcmLength raw) % 4) % 4) 0 ++ z) := by
      rw [vbcmBytes, List.append_assoc, List.append_assoc, List.drop_left' hlen8]
    have hinside : 2 < ((raw.drop 8).take (vbcmLength raw)).length := by
      rw [List.length_take, List.length_drop]
      omega
    calc value.value.getD 2 0 = x.value.getD 2 0 := (getD_of_take hpayload.symm hlonger).symm
      _ = ((vbcmBytes raw ++ z).drop 8).getD 2 0 := by
          rw [hx]
          refine (getD_of_take rfl ?_).symm
          rw [hsize, pad4]
          omega
      _ = ((raw.drop 8).take (vbcmLength raw)).getD 2 0 := by
          rw [hbehind, List.getD_append _ _ _ _ hinside]
      _ = (raw.drop 8).getD 2 0 := (getD_of_take rfl (by omega)).symm
      _ = raw.getD 10 0 := by
          rw [List.getD_eq_getElem?_getD, List.getD_eq_getElem?_getD, List.getElem?_drop]
  rw [hmemory 10 (Nat.le_refl _) (by omega)] at hthird
  have hnat := congrArg UInt8.toNat hthird
  rw [UInt8.toNat_add, show (1 : UInt8).toNat = 1 from rfl] at hnat
  omega

end

/-! ## Every packet with items -/

/-- The packets with items that are constructed from values. -/
inductive LocalPacket
  | nack (values : List (UInt16 × UInt16))
  | fir (values : List FirValues)
  | tstr (values : List TstValues)
  | tstn (values : List TstValues)
  | sli (values : List SliItem)
  | rpsi (values : List RpsiValues)
  | vbcm (values : List VbcmValues)

namespace LocalPacket

/-- The values fit the fields that they are for. -/
def InRange : LocalPacket → Prop
  | .nack _ | .fir _ => True
  | .tstr values | .tstn values => ∀ value ∈ values, value.index.toNat < 32
  | .sli values => ∀ value ∈ values, value.InRange
  | .rpsi values => ∀ value ∈ values, value.payloadType ≤ 0x7f ∧ value.bitString.length ≤ 6
  | .vbcm values => ∀ value ∈ values, value.payloadType ≤ 0x7f ∧ value.value.length < 2 ^ 16

/-- The packet is written with the size that `GetSize` says, and its parser gives everything back. -/
def RoundTrips (senderSsrc mediaSsrc : UInt32) : LocalPacket → Prop
  | .nack values => nackKind.RoundTrips senderSsrc mediaSsrc values
  | .fir values => firKind.RoundTrips senderSsrc mediaSsrc values
  | .tstr values => tstrKind.RoundTrips senderSsrc mediaSsrc values
  | .tstn values => tstnKind.RoundTrips senderSsrc mediaSsrc values
  | .sli values => sliKind.RoundTrips senderSsrc mediaSsrc values
  | .rpsi values => rpsiKind.RoundTrips senderSsrc mediaSsrc values
  | .vbcm values => vbcmKind.RoundTrips senderSsrc mediaSsrc values

/-- The packet has no RPSI and no VBCM items. -/
def Plain : LocalPacket → Prop
  | .rpsi values => values = []
  | .vbcm values => values = []
  | _ => True

end LocalPacket

/-- **When feedback packets with items round trip.** Exactly if they have no RPSI and no VBCM items. -/
theorem feedback_items_round_trip_iff (senderSsrc mediaSsrc : UInt32) (p : LocalPacket)
    (hrange : p.InRange) : p.RoundTrips senderSsrc mediaSsrc ↔ p.Plain := by
  cases p with
  | nack values =>
      exact iff_of_true (ItemKind.roundTrips_of_items fun value _ => nack_item_round_trips value) trivial
  | fir values =>
      exact iff_of_true (ItemKind.roundTrips_of_items fun value _ => fir_item_round_trips value) trivial
  | tstr values =>
      refine iff_of_true (ItemKind.roundTrips_of_items fun value hmem => ?_) trivial
      exact tstr_item_round_trips value (hrange value hmem)
  | tstn values =>
      refine iff_of_true (ItemKind.roundTrips_of_items fun value hmem => ?_) trivial
      exact tstn_item_round_trips value (hrange value hmem)
  | sli values =>
      refine iff_of_true (ItemKind.roundTrips_of_items fun value hmem => ?_) trivial
      exact sli_item_round_trips value (hrange value hmem)
  | rpsi values =>
      cases values with
      | nil => exact iff_of_true (ItemKind.roundTrips_of_items (List.forall_mem_nil _)) rfl
      | cons value values =>
          exact iff_of_false (not_rpsi_round_trips value values) (List.cons_ne_nil _ _)
  | vbcm values =>
      cases values with
      | nil => exact iff_of_true (ItemKind.roundTrips_of_items (List.forall_mem_nil _)) rfl
      | cons value values =>
          have hvalue := (hrange value (.head _)).2
          exact iff_of_false (not_vbcm_round_trips value values hvalue) (List.cons_ne_nil _ _)

/-- Two FIR items. -/
theorem feedback_items_round_trip_fir :
    (LocalPacket.fir [{ ssrc := 1, sequenceNumber := 2 }, { ssrc := 3, sequenceNumber := 4 }]).RoundTrips
        5 6 ↔
      (LocalPacket.fir [{ ssrc := 1, sequenceNumber := 2 }, { ssrc := 3, sequenceNumber := 4 }]).Plain :=
  feedback_items_round_trip_iff 5 6 _ trivial

/-- An RPSI item with a bit string of three bytes is parsed with five. -/
theorem rpsi_with_three_bytes :
    (LocalPacket.rpsi [{ payloadType := 96, bitString := [1, 2, 3] }]).InRange ∧
      ¬ (LocalPacket.rpsi [{ payloadType := 96, bitString := [1, 2, 3] }]).RoundTrips 5 6 :=
  ⟨List.forall_mem_singleton.2 (by decide), not_rpsi_round_trips _ _⟩

end KoreWebsocket.Rtcp
