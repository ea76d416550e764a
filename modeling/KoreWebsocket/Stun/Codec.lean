import KoreWebsocket.Stun.Message

/-!
# The STUN codec

`Tlv` is the format of an attribute: a type, a length, a value and the padding to 32 bits. What
`serialize` writes is a header and attributes in this format (`serialize_ok`), and the loop of
`parse` passes over them one by one (`attributes_tlvs`).
-/

namespace KoreWebsocket.Stun

open Bytes Byte

/-! ## The format -/

/-- An attribute in a message. -/
structure Tlv where
  type : UInt16
  value : List UInt8
  pad : List UInt8
  value_length : value.length ≤ 65532
  pad_length : value.length + pad.length = pad4 value.length

/-- The type and the value. -/
def Tlv.pair (t : Tlv) : UInt16 × List UInt8 := (t.type, t.value)

def Tlv.bytes (t : Tlv) : List UInt8 :=
  beBytes 2 t.type.toNat ++ (beBytes 2 t.value.length ++ (t.value ++ t.pad))

/-- An attribute is a type, a length, a value and its padding. -/
theorem Tlv.length_bytes (t : Tlv) : t.bytes.length = 4 + pad4 t.value.length := by
  have := t.pad_length
  simp only [bytes, List.length_append, length_beBytes]
  omega

/-- The padding goes up to a multiple of four. -/
theorem pad4_mod (n : Nat) : pad4 n % 4 = 0 := by
  rw [pad4]
  omega

/-- Attributes, one behind the other. -/
def tlvBytes (ts : List Tlv) : List UInt8 := ts.flatMap Tlv.bytes

theorem tlvBytes_cons (t : Tlv) (ts : List Tlv) : tlvBytes (t :: ts) = t.bytes ++ tlvBytes ts :=
  List.flatMap_cons

/-- Every attribute ends at a multiple of four. -/
theorem length_tlvBytes_mod (ts : List Tlv) : (tlvBytes ts).length % 4 = 0 := by
  induction ts with
  | nil => rfl
  | cons t ts ih =>
      have := pad4_mod t.value.length
      rw [tlvBytes_cons, List.length_append, t.length_bytes]
      omega

/-- The header of a message. -/
def header (typeField length : UInt16) (transactionId : TransactionId) : List UInt8 :=
  beBytes 2 typeField.toNat ++ (beBytes 2 length.toNat ++ (magicCookie ++ transactionId.1))

/-- The header has 20 bytes. -/
theorem length_header (typeField length : UInt16) (transactionId : TransactionId) :
    (header typeField length transactionId).length = 20 := by
  have := transactionId.2
  simp only [header, List.length_append, length_beBytes, magicCookie, List.length_cons,
    List.length_nil]
  omega

/-! ## The loop over the attributes -/

/-- What a message gets from an attribute other than MESSAGE-INTEGRITY and FINGERPRINT. -/
def Message.receive (m : Message) : UInt16 × List UInt8 → Message
  | (type, value) =>
      match Attribute.ofCode type with
      | some .username => m.setUsername value
      | some .priority => m.setPriority (UInt32.ofNat (be value))
      | some .iceControlling => m.setIceControlling (UInt64.ofNat (be value))
      | some .iceControlled => m.setIceControlled (UInt64.ofNat (be value))
      | some .useCandidate => m.setUseCandidate
      | some .errorCode => m.setErrorCode
          (UInt16.ofNat ((value.getD 2 0).toNat * 100 + (value.getD 3 0).toNat))
      | _ => m

/-- Such an attribute, whose value has the size that `parse` reads. -/
def Plain : UInt16 × List UInt8 → Prop
  | (type, value) =>
      match Attribute.ofCode type with
      | some .priority => value.length = 4
      | some .iceControlling => value.length = 8
      | some .iceControlled => value.length = 8
      | some .errorCode => 4 ≤ value.length
      | some .messageIntegrity => False
      | some .fingerprint => False
      | _ => True

section
variable {d a z : List UInt8} {t : Tlv} {s s' : Scan}

/-- The bytes around the value of an attribute. -/
theorem value_split (hd : d = a ++ (t.bytes ++ z)) :
    d = (a ++ (beBytes 2 t.type.toNat ++ beBytes 2 t.value.length)) ++ (t.value ++ (t.pad ++ z)) := by
  rw [hd]
  simp only [Tlv.bytes, List.append_assoc]

/-- The value is read behind the type and the length. -/
theorem read_value (hd : d = a ++ (t.bytes ++ z)) :
    read d (a.length + 4) t.value.length = .ok t.value := by
  rw [value_split hd]
  exact read_mid (by simp only [List.length_append, length_beBytes]) rfl

/-- A byte of the value is read behind the type and the length. -/
theorem get1Byte_value (hd : d = a ++ (t.bytes ++ z)) {i : Nat} (hi : i < t.value.length) :
    get1Byte d (a.length + 4 + i) = .ok (t.value.getD i 0) := by
  have hfront : (a ++ (beBytes 2 t.type.toNat ++ beBytes 2 t.value.length)).length = a.length + 4 := by
    simp only [List.length_append, length_beBytes]
  have hsplit := value_split hd
  rw [get1Byte_eq_ok.2 ⟨?_, rfl⟩]
  · rw [hsplit, List.getD_eq_getElem?_getD, List.getElem?_append_right (by omega), hfront,
      Nat.add_sub_cancel_left, List.getElem?_append_left hi, ← List.getD_eq_getElem?_getD]
  · rw [hsplit, List.length_append, hfront, List.length_append]
    omega

/-- **Step.** One round of the loop passes over one attribute. -/
theorem attributes_step (hd : d = a ++ (t.bytes ++ z)) (ha : a.length % 4 = 0)
    (hlen : d.length ≤ 65532) (hfp : s.hasFingerprint = false)
    (hmi : s.hasMessageIntegrity = true → t.type = Attribute.fingerprint.code)
    (hs : s.attribute d a.length t.value.length t.type = .ok s') (fuel : Nat) :
    attributes d (fuel + 1) a.length s = attributes d fuel (a ++ t.bytes).length s' := by
  have htotal : d.length = a.length + (4 + pad4 t.value.length) + z.length := by
    rw [hd, List.length_append, List.length_append, t.length_bytes]
    omega
  have hpad := t.pad_length
  have htype : get2Bytes d a.length = .ok t.type := by
    rw [hd, Tlv.bytes, List.append_assoc]
    exact get2Bytes_mid t.type rfl
  have hvalue : (UInt16.ofNat t.value.length).toNat = t.value.length := by
    rw [UInt16.toNat_ofNat']
    exact Nat.mod_eq_of_lt (Nat.lt_of_le_of_lt t.value_length (by decide))
  have hlength : get2Bytes d (a.length + 2) = .ok (UInt16.ofNat t.value.length) := by
    have hsplit : d = (a ++ beBytes 2 t.type.toNat) ++
        (beBytes 2 (UInt16.ofNat t.value.length).toNat ++ (t.value ++ (t.pad ++ z))) := by
      rw [hd, hvalue]
      simp only [Tlv.bytes, List.append_assoc]
    rw [hsplit]
    exact get2Bytes_mid _ (by rw [List.length_append, length_beBytes])
  have hnext : padTo4Bytes (a.length + 4 + t.value.length) = (a ++ t.bytes).length := by
    rw [padTo4Bytes_eq (by omega), List.length_append, t.length_bytes, pad4, pad4]
    omega
  rw [attributes_succ, if_pos (by omega), htype, Checked.ok_bind, hlength, Checked.ok_bind, hvalue,
    if_neg (by omega), if_neg (by rw [hfp]; decide), if_neg (fun h => h.2 (hmi h.1)), hs,
    Checked.ok_bind, hnext]

/-- An attribute of a plain kind is read into the message. -/
theorem attribute_plain (hd : d = a ++ (t.bytes ++ z)) (ht : Plain t.pair) :
    s.attribute d a.length t.value.length t.type = .ok { s with msg := s.msg.receive t.pair } := by
  have hread := read_value hd
  rw [Tlv.pair, Plain] at ht
  rw [Scan.attribute, Tlv.pair, Message.receive]
  cases hcode : Attribute.ofCode t.type with
  | none => rfl
  | some attr =>
      rw [hcode] at ht
      cases attr with
      | username => simp only [hread]; rfl
      | priority =>
          simp only at ht
          rw [ht] at hread
          simp only [get4Bytes, hread]
          rfl
      | iceControlling =>
          simp only at ht
          rw [ht] at hread
          simp only [get8Bytes, hread]
          rfl
      | iceControlled =>
          simp only at ht
          rw [ht] at hread
          simp only [get8Bytes, hread]
          rfl
      | errorCode =>
          simp only at ht
          simp only [get1Byte_value hd (show 2 < t.value.length by omega),
            get1Byte_value hd (show 3 < t.value.length by omega)]
          rfl
      | messageIntegrity => exact absurd ht id
      | fingerprint => exact absurd ht id
      | _ => rfl

end

/-- The loop gets from one position to another. -/
def Reaches (d : List UInt8) (pos : Nat) (s : Scan) (pos' : Nat) (s' : Scan) : Prop :=
  ∃ n, pos + n ≤ pos' ∧ ∀ fuel, attributes d (fuel + n) pos s = attributes d fuel pos' s'

theorem Reaches.refl (d : List UInt8) (pos : Nat) (s : Scan) : Reaches d pos s pos s :=
  ⟨0, Nat.le_refl _, fun _ => rfl⟩

theorem Reaches.trans {d : List UInt8} {pos pos' pos'' : Nat} {s s' s'' : Scan}
    (h : Reaches d pos s pos' s') (h' : Reaches d pos' s' pos'' s'') : Reaches d pos s pos'' s'' := by
  obtain ⟨n, hn, hrun⟩ := h
  obtain ⟨n', hn', hrun'⟩ := h'
  refine ⟨n' + n, by omega, fun fuel => ?_⟩
  rw [← Nat.add_assoc, hrun, hrun']

/-- **Run.** The loop passes over plain attributes, and the message receives them in order. -/
theorem attributes_tlvs {d a z : List UInt8} (ts : List Tlv) {s : Scan}
    (hd : d = a ++ (tlvBytes ts ++ z)) (ha : a.length % 4 = 0) (hlen : d.length ≤ 65532)
    (hfp : s.hasFingerprint = false) (hmi : s.hasMessageIntegrity = false)
    (ht : ∀ t ∈ ts.map Tlv.pair, Plain t) :
    Reaches d a.length s (a ++ tlvBytes ts).length
      { s with msg := (ts.map Tlv.pair).foldl Message.receive s.msg } := by
  induction ts generalizing a s with
  | nil =>
      rw [tlvBytes, List.flatMap_nil, List.append_nil]
      exact Reaches.refl d a.length s
  | cons t ts ih =>
      rw [tlvBytes_cons, List.append_assoc] at hd
      have hstep := attributes_step hd ha hlen hfp (fun h => by rw [hmi] at h; cases h)
        (attribute_plain hd (ht _ List.mem_cons_self))
      have hmod := pad4_mod t.value.length
      have hlen' := t.length_bytes
      have hrun := ih (a := a ++ t.bytes) (s := { s with msg := s.msg.receive t.pair })
        (by rw [hd, List.append_assoc]) (by rw [List.length_append]; omega) hfp hmi
        (fun t' h => ht t' (List.mem_cons_of_mem _ h))
      rw [tlvBytes_cons, ← List.append_assoc]
      refine Reaches.trans ⟨1, ?_, hstep⟩ hrun
      rw [List.length_append]
      omega

/-! ## What is written -/

def Field.size (f : Field) : Nat := if f.present then 4 + f.padded else 0

/-- What is said by a field. -/
def Field.pairs (f : Field) : List (UInt16 × List UInt8) :=
  if f.present then [(f.attr.code, f.value)] else []

/-- The length field and the padded length are those of the value. -/
structure Field.Fits (f : Field) : Prop where
  value : f.value.length ≤ 65532
  length : f.length.toNat = f.value.length
  padded : f.padded = pad4 f.value.length

/-- A field that fits is written at the position, as an attribute or not at all. -/
theorem Field.add_ok {f : Field} (hf : f.present = true → f.Fits) {buf a : List UInt8} {pos : Nat}
    (ha : buf.take pos = a) (hroom : pos + f.size ≤ buf.length) :
    ∃ buf' ts, f.add (buf, pos) = .ok (buf', pos + f.size) ∧
      buf'.take (pos + f.size) = a ++ tlvBytes ts ∧ buf'.length = buf.length ∧
      ts.map Tlv.pair = f.pairs := by
  cases hp : f.present with
  | false =>
      have hsize : f.size = 0 := by simp [Field.size, hp]
      refine ⟨buf, [], by rw [hsize]; simp [Field.add, hp]; rfl, ?_, rfl, by simp [Field.pairs, hp]⟩
      rw [hsize, Nat.add_zero, ha]
      exact (List.append_nil _).symm
  | true =>
      have hsize : f.size = 4 + f.padded := by simp [Field.size, hp]
      have h := hf hp
      have hle : f.value.length ≤ f.padded := by rw [h.padded, pad4]; omega
      obtain ⟨b₁, hw₁, ht₁, hl₁⟩ := write_behind (beBytes 2 f.attr.code.toNat) ha
        (by rw [length_beBytes]; omega)
      rw [length_beBytes] at ht₁
      obtain ⟨b₂, hw₂, ht₂, hl₂⟩ := write_behind (beBytes 2 f.length.toNat) ht₁
        (by rw [length_beBytes]; omega)
      rw [length_beBytes] at ht₂
      obtain ⟨b₃, hw₃, ht₃, hl₃⟩ := write_behind f.value ht₂ (by omega)
      -- the padding is what the buffer has there
      let t : Tlv :=
        { type := f.attr.code, value := f.value
          pad := (b₃.drop (pos + 2 + 2 + f.value.length)).take (f.padded - f.value.length)
          value_length := h.value
          pad_length := by
            have := h.padded
            rw [List.length_take, List.length_drop]
            omega }
      refine ⟨b₃, [t], ?_, ?_, by omega, by simp [Field.pairs, hp, t, Tlv.pair]⟩
      · simp only [Field.add, hp, set2Bytes, hw₁, hw₂, hw₃, if_true, Checked.ok_bind, hsize]
        rw [← Nat.add_assoc]
        rfl
      · have hsum : pos + f.size =
            pos + 2 + 2 + f.value.length + (f.padded - f.value.length) := by omega
        rw [hsum, List.take_add, ht₃, h.length]
        simp only [tlvBytes, List.flatMap_cons, List.flatMap_nil, List.append_nil, Tlv.bytes, t,
          List.append_assoc]

/-- **Run.** Fields are written one behind the other. -/
theorem fields_ok {fs : List Field} (hf : ∀ f ∈ fs, f.present = true → f.Fits) {buf a : List UInt8}
    {pos : Nat} (ha : buf.take pos = a) (hroom : pos + (fs.map Field.size).sum ≤ buf.length) :
    ∃ buf' ts, fs.foldlM (fun out f => f.add out) (buf, pos) =
        .ok (buf', pos + (fs.map Field.size).sum) ∧
      buf'.take (pos + (fs.map Field.size).sum) = a ++ tlvBytes ts ∧ buf'.length = buf.length ∧
      ts.map Tlv.pair = fs.flatMap Field.pairs := by
  induction fs generalizing buf a pos with
  | nil => exact ⟨buf, [], rfl, ha.trans (List.append_nil _).symm, rfl, rfl⟩
  | cons f fs ih =>
      rw [List.map_cons, List.sum_cons] at hroom ⊢
      obtain ⟨b₁, ts₁, hadd, ht₁, hl₁, hs₁⟩ := Field.add_ok (hf f List.mem_cons_self) ha (by omega)
      obtain ⟨b₂, ts₂, hrest, ht₂, hl₂, hs₂⟩ := ih (fun f' h => hf f' (List.mem_cons_of_mem _ h)) ht₁
        (by omega)
      refine ⟨b₂, ts₁ ++ ts₂, ?_, ?_, by omega, ?_⟩
      · rw [List.foldlM_cons, hadd, Checked.ok_bind, hrest, Nat.add_assoc]
      · rw [← Nat.add_assoc, ht₂, tlvBytes, tlvBytes, tlvBytes, List.flatMap_append,
          List.append_assoc]
      · rw [List.map_append, hs₁, hs₂, List.flatMap_cons]

section
variable (c : Crypto) (m : Message) {typeField : UInt16} {transactionId : TransactionId}
variable {buf z : List UInt8} {pos size : Nat}

/-- The header is written in front of what the buffer has. -/
theorem writeHeader_ok (size : Nat) {buf : List UInt8} (hroom : 20 ≤ buf.length) :
    ∃ buf', m.writeHeader size buf = .ok buf' ∧
      buf'.take 20 = header m.typeField (UInt16.ofNat size - 20) m.transactionId ∧
      buf'.length = buf.length := by
  have hid := m.transactionId.2
  have hcookie : magicCookie.length = 4 := rfl
  obtain ⟨b₁, hw₁, ht₁, hl₁⟩ := write_behind (beBytes 2 m.typeField.toNat) (i := 0) (a := [])
    (d := buf) rfl (by rw [length_beBytes]; omega)
  rw [length_beBytes] at ht₁
  obtain ⟨b₂, hw₂, ht₂, hl₂⟩ := write_behind (beBytes 2 (UInt16.ofNat size - 20).toNat) ht₁
    (by rw [length_beBytes]; omega)
  rw [length_beBytes] at ht₂
  obtain ⟨b₃, hw₃, ht₃, hl₃⟩ := write_behind magicCookie ht₂ (by omega)
  obtain ⟨b₄, hw₄, ht₄, hl₄⟩ := write_behind m.transactionId.1 ht₃ (by omega)
  refine ⟨b₄, ?_, ?_, by omega⟩
  · exact Checked.bind_eq_ok.2 ⟨_, hw₁, Checked.bind_eq_ok.2 ⟨_, hw₂, Checked.bind_eq_ok.2 ⟨_, hw₃,
      hw₄⟩⟩⟩
  · rw [hid] at ht₄
    refine ht₄.trans ?_
    simp only [header, List.nil_append, List.append_assoc]

/-- The length field of the header is changed. -/
theorem set2Bytes_length {length : UInt16} (length' : UInt16)
    (h : buf.take pos = header typeField length transactionId ++ z) (hpos : pos ≤ buf.length) :
    ∃ buf', set2Bytes buf 2 length' = .ok buf' ∧
      buf'.take pos = header typeField length' transactionId ++ z ∧ buf'.length = buf.length := by
  simp only [header, List.append_assoc] at h ⊢
  exact write_inside h hpos (length_beBytes 2 _).symm (by simp only [length_beBytes])

/-- MESSAGE-INTEGRITY is the HMAC of the message before it, with a length that leaves FINGERPRINT
out. -/
theorem writeMessageIntegrity_ok
    (h : buf.take pos = header typeField (UInt16.ofNat size - 20) transactionId ++ z)
    (hroom : pos + (if m.addMessageIntegrity then 4 + 20 else 0) ≤ buf.length) :
    ∃ buf' ts, m.writeMessageIntegrity c size (buf, pos) =
        .ok ((buf', pos + (if m.addMessageIntegrity then 4 + 20 else 0)),
          if m.addMessageIntegrity then some (pos + 4) else none) ∧
      buf'.take (pos + (if m.addMessageIntegrity then 4 + 20 else 0)) =
        header typeField (UInt16.ofNat size - 20) transactionId ++ (z ++ tlvBytes ts) ∧
      buf'.length = buf.length ∧
      ts.map Tlv.pair = if m.addMessageIntegrity then [(Attribute.messageIntegrity.code,
        c.getHmacSha1 m.password
          (header typeField (UInt16.ofNat size - 20 - 8) transactionId ++ z))] else [] := by
  cases hadd : m.addMessageIntegrity with
  | false =>
      refine ⟨buf, [], by simp [Message.writeMessageIntegrity, hadd]; rfl, ?_, rfl, rfl⟩
      simpa [tlvBytes] using h
  | true =>
      rw [hadd] at hroom
      simp only [if_true] at hroom ⊢
      obtain ⟨b₁, hw₁, ht₁, hl₁⟩ := set2Bytes_length (UInt16.ofNat size - 20 - 8) h (by omega)
      have hread : read b₁ 0 pos = .ok _ := (read_ok (by omega)).trans (congrArg _ ht₁)
      have hlen := c.length_getHmacSha1 m.password
        (header typeField (UInt16.ofNat size - 20 - 8) transactionId ++ z)
      obtain ⟨b₂, ts, hw₂, ht₂, hl₂, hs⟩ := Field.add_ok (f := ⟨true, .messageIntegrity, 20,
        c.getHmacSha1 m.password
          (header typeField (UInt16.ofNat size - 20 - 8) transactionId ++ z), 20⟩)
        (fun _ => ⟨by simp only [hlen]; decide, hlen.symm, by simp only [hlen]; rfl⟩) ht₁
        (by simp only [Field.size, if_true]; omega)
      rw [List.append_assoc] at ht₂
      obtain ⟨b₃, hw₃, ht₃, hl₃⟩ := set2Bytes_length (UInt16.ofNat size - 20) ht₂
        (by simp only [Field.size, if_true]; omega)
      refine ⟨b₃, ts, ?_, ht₃, by omega, hs⟩
      rw [Message.writeMessageIntegrity, if_pos hadd]
      exact Checked.bind_eq_ok.2 ⟨_, hw₁, Checked.bind_eq_ok.2 ⟨_, hread,
        Checked.bind_eq_ok.2 ⟨_, hw₂, Checked.bind_eq_ok.2 ⟨_, hw₃, rfl⟩⟩⟩⟩

/-- FINGERPRINT is made from the CRC32 of the message before it. -/
theorem writeFingerprint_ok (h : buf.take pos = z) (hroom : pos + 8 ≤ buf.length) :
    ∃ buf' ts, Message.writeFingerprint c (buf, pos) = .ok (buf', pos + 8) ∧
      buf'.take (pos + 8) = z ++ tlvBytes ts ∧ buf'.length = buf.length ∧
      ts.map Tlv.pair =
        [(Attribute.fingerprint.code, beBytes 4 (c.getCrc32 z ^^^ 0x5354554e).toNat)] := by
  have hread : read buf 0 pos = .ok z := (read_ok (by omega)).trans (congrArg _ h)
  obtain ⟨b₁, ts, hw₁, ht₁, hl₁, hs⟩ := Field.add_ok (f := ⟨true, .fingerprint, 4,
    beBytes 4 (c.getCrc32 z ^^^ 0x5354554e).toNat, 4⟩)
    (fun _ => ⟨by simp only [length_beBytes]; decide, by simp only [length_beBytes]; rfl,
      by simp only [length_beBytes]; rfl⟩) h (by simp only [Field.size, if_true]; omega)
  exact ⟨b₁, ts, Checked.bind_eq_ok.2 ⟨_, hread, hw₁⟩, ht₁, hl₁, hs⟩

end

/-- The size of the message that `serialize` is to write. -/
def Message.serialisedSize (m : Message) : Nat := m.sizeWith (pad4 m.username.length)

section
variable (c : Crypto) (m : Message) {buffer : List UInt8}

/-- The username's 16-bit padded length is right for messages that have room for it. -/
theorem sizeWith_usernamePaddedLen (h : m.serialisedSize ≤ 65532) :
    m.sizeWith m.usernamePaddedLen = m.serialisedSize ∧ m.username.length ≤ 65532 := by
  by_cases hu : m.username = []
  · refine ⟨?_, by rw [hu]; exact Nat.zero_le _⟩
    simp only [Message.serialisedSize, Message.sizeWith, hu, ne_eq, not_true_eq_false, if_false]
  · have hle : pad4 m.username.length ≤ 65532 := by
      simp only [Message.serialisedSize, Message.sizeWith, ne_eq, hu, not_false_eq_true, if_true] at h
      omega
    have hlen : m.username.length ≤ 65532 := by rw [pad4] at hle; omega
    refine ⟨?_, hlen⟩
    rw [Message.serialisedSize, Message.usernamePaddedLen, if_pos hu, padTo4Bytes_eq hlen]

/-- An address has four bytes or sixteen. -/
theorem length_xorMapped {addr : SockAddr} {id : TransactionId} {value : List UInt8}
    (h : addr.xorMapped id = some value) : value.length = 8 ∨ value.length = 20 := by
  cases addr with
  | inet port addr =>
      cases h
      exact .inl (by simp [magicCookie])
  | inet6 port addr =>
      cases h
      have := id.2
      exact .inr (by simp [magicCookie, this])
  | other => cases h

/-- The value of XOR-MAPPED-ADDRESS has one of two lengths. -/
theorem length_xorMappedAddressValue {value : List UInt8} (h : m.xorMappedAddressValue = some value) :
    value.length = 8 ∨ value.length = 20 := by
  rw [Message.xorMappedAddressValue] at h
  split at h
  · obtain ⟨addr, -, haddr⟩ := Option.bind_eq_some_iff.1 h
    exact length_xorMapped haddr
  · cases h

/-- In a message that is not too long every attribute has a length of 16 bits. -/
theorem fields_fit (h : m.serialisedSize ≤ 65532) : ∀ f ∈ m.fields, f.present = true → f.Fits := by
  intro f hf hp
  simp only [Message.fields, List.mem_cons, List.not_mem_nil, or_false] at hf
  rcases hf with rfl | rfl | rfl | rfl | rfl | rfl | rfl
  · have hlen := (sizeWith_usernamePaddedLen m h).2
    have hne : m.username ≠ [] := by
      intro hnil
      simp [Message.usernamePaddedLen, hnil] at hp
    refine ⟨hlen, ?_, ?_⟩
    · rw [UInt16.toNat_ofNat']
      exact Nat.mod_eq_of_lt (Nat.lt_of_le_of_lt hlen (by decide))
    · simp only [Message.usernamePaddedLen, if_pos hne, padTo4Bytes_eq hlen]
  · exact ⟨by simp, by simp, by simp [pad4]⟩
  · exact ⟨by simp, by simp, by simp [pad4]⟩
  · exact ⟨by simp, by simp, by simp [pad4]⟩
  · exact ⟨by simp, by simp, by simp [pad4]⟩
  · obtain ⟨value, hvalue⟩ := Option.isSome_iff_exists.1 hp
    simp only [hvalue, Option.getD_some]
    rcases length_xorMappedAddressValue m hvalue with hv | hv
    · exact ⟨by simp [hv], by simp [hv], by simp [hv, pad4]⟩
    · exact ⟨by simp [hv], by simp [hv], by simp [hv, pad4]⟩
  · exact ⟨by simp [Message.errorCodeValue], by simp [Message.errorCodeValue],
      by simp [Message.errorCodeValue, pad4]⟩

/-- The padded length of the user name does not wrap to zero. -/
theorem usernamePaddedLen_ne_zero {m : Message} (h : m.serialisedSize ≤ 65532) (hu : m.username ≠ []) :
    m.usernamePaddedLen ≠ 0 := by
  have hlen := (sizeWith_usernamePaddedLen m h).2
  have hpos : 0 < m.username.length := List.length_pos_iff.2 hu
  rw [Message.usernamePaddedLen, if_pos hu, padTo4Bytes_eq hlen, pad4]
  omega

/-- The sizes of the fields, of the integrity and of the fingerprint make up the size of the message. -/
theorem fields_size (h : m.serialisedSize ≤ 65532) :
    20 + (m.fields.map Field.size).sum + (if m.addMessageIntegrity then 4 + 20 else 0) + 8 =
      m.serialisedSize := by
  rw [← (sizeWith_usernamePaddedLen m h).1]
  have huser : (if m.usernamePaddedLen ≠ 0 then 4 + m.usernamePaddedLen else 0) =
      (if m.username ≠ [] then 4 + m.usernamePaddedLen else 0) := by
    by_cases hu : m.username = []
    · simp [Message.usernamePaddedLen, hu]
    · rw [if_pos (usernamePaddedLen_ne_zero h hu), if_pos hu]
  have haddr : (if m.xorMappedAddressValue.isSome then
      4 + (m.xorMappedAddressValue.getD []).length else 0) =
      m.xorMappedAddressValue.elim 0 fun value => 4 + value.length := by
    cases m.xorMappedAddressValue <;> rfl
  simp only [Message.sizeWith, Message.fields, List.map_cons, List.map_nil, List.sum_cons,
    List.sum_nil, Field.size, decide_eq_true_eq, huser, haddr, Nat.add_zero]
  omega

end

/-- What `serialize` writes for a message. -/
structure Layout (c : Crypto) (m : Message) where
  attrs : List Tlv
  integrity : List Tlv
  fingerprint : List Tlv
  attrs_pairs : attrs.map Tlv.pair = m.fields.flatMap Field.pairs
  integrity_pairs : integrity.map Tlv.pair = if m.addMessageIntegrity then
    [(Attribute.messageIntegrity.code, c.getHmacSha1 m.password
      (header m.typeField (UInt16.ofNat m.serialisedSize - 20 - 8) m.transactionId ++
        tlvBytes attrs))] else []
  fingerprint_pairs : fingerprint.map Tlv.pair = [(Attribute.fingerprint.code, beBytes 4
    (c.getCrc32 (header m.typeField (UInt16.ofNat m.serialisedSize - 20) m.transactionId ++
      (tlvBytes attrs ++ tlvBytes integrity)) ^^^ 0x5354554e).toNat)]

/-- The message before FINGERPRINT: the header, the attributes and MESSAGE-INTEGRITY. -/
def Layout.front {c : Crypto} {m : Message} (l : Layout c m) : List UInt8 :=
  header m.typeField (UInt16.ofNat m.serialisedSize - 20) m.transactionId ++
    (tlvBytes l.attrs ++ tlvBytes l.integrity)

/-- The message. -/
def Layout.bytes {c : Crypto} {m : Message} (l : Layout c m) : List UInt8 :=
  l.front ++ tlvBytes l.fingerprint

/-- The place of the value of MESSAGE-INTEGRITY. -/
def Layout.messageIntegrity {c : Crypto} {m : Message} (l : Layout c m) : Option Nat :=
  if m.addMessageIntegrity then some (20 + (tlvBytes l.attrs).length + 4) else none

/-- **Serialize.** What `serialize` writes, if the message is not too large and the buffer has room
for it. -/
theorem serialize_ok (c : Crypto) (m : Message) (buffer : List UInt8)
    (h : m.serialisedSize ≤ 65532) (hroom : m.serialisedSize ≤ buffer.length) :
    ∃ (l : Layout c m) (data : List UInt8), m.serialize c buffer = .ok { m with
        data, size := m.serialisedSize, messageIntegrity := l.messageIntegrity
        hasFingerprint := true } ∧ data.take m.serialisedSize = l.bytes ∧
      l.bytes.length = m.serialisedSize := by
  have hsize := fields_size m h
  obtain ⟨b₁, hw₁, ht₁, hl₁⟩ := @writeHeader_ok m m.serialisedSize buffer (by omega)
  obtain ⟨b₂, ts, hw₂, ht₂, hl₂, hs₂⟩ := fields_ok (fields_fit m h) ht₁ (by omega)
  obtain ⟨b₃, is, hw₃, ht₃, hl₃, hs₃⟩ := writeMessageIntegrity_ok c m ht₂ (by omega)
  obtain ⟨b₄, fs, hw₄, ht₄, hl₄, hs₄⟩ := writeFingerprint_ok c ht₃ (by omega)
  rw [hsize] at ht₄
  let l : Layout c m := ⟨ts, is, fs, hs₂, hs₃, hs₄⟩
  have hlen : l.bytes.length = m.serialisedSize := by
    have := congrArg List.length ht₄
    rw [List.length_take] at this
    exact this.symm.trans (Nat.min_eq_left (by omega))
  refine ⟨l, b₄, ?_, ht₄, hlen⟩
  have hattrs : (tlvBytes ts).length = (m.fields.map Field.size).sum := by
    have := congrArg List.length ht₂
    rw [List.length_take, List.length_append, length_header] at this
    omega
  have hplace : l.messageIntegrity = if m.addMessageIntegrity then
      some (20 + (m.fields.map Field.size).sum + 4) else none := by
    rw [Layout.messageIntegrity, ← hattrs]
  rw [Message.serialize, (sizeWith_usernamePaddedLen m h).1, hplace]
  exact Checked.bind_eq_ok.2 ⟨_, hw₁, Checked.bind_eq_ok.2 ⟨_, hw₂, Checked.bind_eq_ok.2 ⟨_, hw₃,
    Checked.bind_eq_ok.2 ⟨_, hw₄, Checked.bind_eq_ok.2 ⟨(), ensure_true hsize _, rfl⟩⟩⟩⟩⟩

/-! ## Parse -/

section
variable {c : Crypto} {m : Message} (l : Layout c m)

/-- The attributes that are written are plain. -/
theorem Layout.plain : ∀ t ∈ l.attrs.map Tlv.pair, Plain t := by
  intro t ht
  rw [l.attrs_pairs] at ht
  obtain ⟨f, hf, hpairs⟩ := List.mem_flatMap.1 ht
  rw [Field.pairs] at hpairs
  split at hpairs
  case isFalse => cases hpairs
  cases List.mem_singleton.1 hpairs
  simp only [Message.fields, List.mem_cons, List.not_mem_nil, or_false] at hf
  rcases hf with rfl | rfl | rfl | rfl | rfl | rfl | rfl
  · trivial
  · exact length_beBytes 4 _
  · exact length_beBytes 8 _
  · exact length_beBytes 8 _
  · trivial
  · trivial
  · exact Nat.le_refl 4

/-- What `parse` makes of the message. -/
def Layout.message : Message :=
  { klass := m.klass, method := m.method, transactionId := m.transactionId, data := l.bytes
    size := l.bytes.length, username := m.username, priority := m.priority
    iceControlling := m.iceControlling, iceControlled := m.iceControlled
    hasUseCandidate := m.hasUseCandidate, messageIntegrity := l.messageIntegrity
    hasFingerprint := true
    errorCode := if m.klass = .errorResponse then m.errorCode else 0 }

/-- The bytes of ERROR-CODE give the code back. -/
theorem errorCode_value (hcode : m.errorCode.toNat < 25600) :
    UInt16.ofNat ((m.errorCodeValue.getD 2 0).toNat * 100 + (m.errorCodeValue.getD 3 0).toNat) =
      m.errorCode := by
  have hclass : (UInt8.ofNat (m.errorCode.toNat / 100)).toNat = m.errorCode.toNat / 100 := by
    rw [UInt8.toNat_ofNat']
    omega
  have hnumber : (m.errorCode.toUInt8 - UInt8.ofNat (m.errorCode.toNat / 100) * 100).toNat =
      m.errorCode.toNat % 100 := by
    rw [UInt8.toNat_sub, UInt8.toNat_mul, hclass, UInt16.toNat_toUInt8]
    change (256 - m.errorCode.toNat / 100 * 100 % 256 + m.errorCode.toNat % 256) % 256 = _
    omega
  simp only [Message.errorCodeValue, List.getD_cons_succ, List.getD_cons_zero]
  rw [hclass, hnumber, Nat.div_add_mod', UInt16.ofNat_toNat]

section
variable {msg : Message}

/-- What the parser receives of a field is its attribute, if the field is there. -/
theorem receive_pairs (f : Field) : f.pairs.foldl Message.receive msg =
    if f.present then msg.receive (f.attr.code, f.value) else msg := by
  rw [Field.pairs]
  split <;> rfl

/-- The user name that is received is the one that was sent. -/
theorem receive_username (h : m.serialisedSize ≤ 65532) (hmsg : msg.username = []) :
    (if decide (m.usernamePaddedLen ≠ 0) then msg.receive (Attribute.username.code, m.username)
      else msg) = { msg with username := m.username } := by
  by_cases hu : m.username = []
  · have h0 : m.usernamePaddedLen = 0 := by rw [Message.usernamePaddedLen, if_neg (not_not.2 hu)]
    rw [hu, ← hmsg]
    simp [h0]
  · rw [if_pos (decide_eq_true (usernamePaddedLen_ne_zero h hu))]
    change msg.setUsername m.username = _
    rw [Message.setUsername, if_pos hmsg]

/-- A priority that is not sent is zero. -/
theorem receive_priority (hmsg : msg.priority = 0) :
    (if decide (m.priority ≠ 0) then
      msg.receive (Attribute.priority.code, beBytes 4 m.priority.toNat) else msg) =
      { msg with priority := m.priority } := by
  by_cases h0 : m.priority = 0
  · rw [h0, ← hmsg]
    simp
  · simp only [ne_eq, h0, not_false_eq_true, decide_true, if_true]
    change msg.setPriority (UInt32.ofNat (be (beBytes 4 m.priority.toNat))) = _
    rw [ofNat_be_beBytes_four, Message.setPriority, if_pos hmsg]

/-- A tie-breaker that is not sent is zero. -/
theorem receive_iceControlling (hmsg : msg.iceControlling = 0) :
    (if decide (m.iceControlling ≠ 0) then
      msg.receive (Attribute.iceControlling.code, beBytes 8 m.iceControlling.toNat) else msg) =
      { msg with iceControlling := m.iceControlling } := by
  by_cases h0 : m.iceControlling = 0
  · rw [h0, ← hmsg]
    simp
  · simp only [ne_eq, h0, not_false_eq_true, decide_true, if_true]
    change msg.setIceControlling (UInt64.ofNat (be (beBytes 8 m.iceControlling.toNat))) = _
    rw [ofNat_be_beBytes_eight, Message.setIceControlling, if_pos hmsg]

/-- The tie-breaker of the other role that is not sent is zero. -/
theorem receive_iceControlled (hmsg : msg.iceControlled = 0) :
    (if decide (m.iceControlled ≠ 0) then
      msg.receive (Attribute.iceControlled.code, beBytes 8 m.iceControlled.toNat) else msg) =
      { msg with iceControlled := m.iceControlled } := by
  by_cases h0 : m.iceControlled = 0
  · rw [h0, ← hmsg]
    simp
  · simp only [ne_eq, h0, not_false_eq_true, decide_true, if_true]
    change msg.setIceControlled (UInt64.ofNat (be (beBytes 8 m.iceControlled.toNat))) = _
    rw [ofNat_be_beBytes_eight, Message.setIceControlled, if_pos hmsg]

/-- USE-CANDIDATE has no value. -/
theorem receive_useCandidate (hmsg : msg.hasUseCandidate = false) :
    (if m.hasUseCandidate then msg.receive (Attribute.useCandidate.code, []) else msg) =
      { msg with hasUseCandidate := m.hasUseCandidate } := by
  cases m.hasUseCandidate with
  | false => rw [if_neg Bool.false_ne_true, ← hmsg]
  | true => rfl

/-- The class and the number of the error make up its code. -/
theorem receive_errorCode (hcode : m.errorCode.toNat < 25600) (hmsg : msg.errorCode = 0) :
    (if m.addErrorCode then msg.receive (Attribute.errorCode.code, m.errorCodeValue) else msg) =
      { msg with errorCode := if m.klass = .errorResponse then m.errorCode else 0 } := by
  have hset : msg.receive (Attribute.errorCode.code, m.errorCodeValue) =
      { msg with errorCode := m.errorCode } := by
    change msg.setErrorCode _ = _
    rw [errorCode_value hcode, Message.setErrorCode]
  rw [hset, Message.addErrorCode]
  by_cases hk : m.klass = .errorResponse
  · by_cases h0 : m.errorCode = 0
    · simp only [hk, h0, ← hmsg]
      simp
    · simp [hk, h0]
  · simp only [hk, and_false, decide_false, if_false, ← hmsg]
    rfl

end

/-- All fields are received as they were sent. -/
theorem receive_fields (hcode : m.errorCode.toNat < 25600) (h : m.serialisedSize ≤ 65532)
    (klass : Class) (method : UInt16) (transactionId : TransactionId) (data : List UInt8) (size : Nat) :
    (m.fields.flatMap Field.pairs).foldl Message.receive { klass, method, transactionId, data, size } =
      { klass, method, transactionId, data, size
        username := m.username, priority := m.priority, iceControlling := m.iceControlling
        iceControlled := m.iceControlled, hasUseCandidate := m.hasUseCandidate
        errorCode := if m.klass = .errorResponse then m.errorCode else 0 } := by
  simp only [Message.fields, List.flatMap_cons, List.flatMap_nil, List.foldl_append, List.foldl_nil,
    receive_pairs]
  rw [receive_username h rfl, receive_priority rfl, receive_iceControlling rfl,
    receive_iceControlled rfl, receive_useCandidate rfl, receive_errorCode hcode]
  · split <;> rfl
  · split <;> rfl

/-- The first byte, the method and the class of a header. -/
theorem typeField_binding (hm : m.method = binding) :
    (UInt8.ofNat (m.typeField.toNat / 256) < 3) ∧ methodOf m.typeField = m.method ∧
      classOf (UInt8.ofNat (m.typeField.toNat / 256)) (UInt8.ofNat m.typeField.toNat) = m.klass := by
  rw [Message.typeField, hm]
  cases m.klass with
  | request => decide
  | indication => decide
  | successResponse => decide
  | errorResponse => decide

end

section
variable {typeField length : UInt16} {id : TransactionId} {d z : List UInt8}

/-- The bytes of a header, field by field. -/
theorem header_split (hd : d = header typeField length id ++ z) : d =
    UInt8.ofNat (typeField.toNat / 256) :: UInt8.ofNat typeField.toNat ::
      (beBytes 2 length.toNat ++ (magicCookie ++ (id.1 ++ z))) := by
  rw [hd]
  simp [header, beBytes]

/-- A header with a small type is recognized. -/
theorem isStun_header (hd : d = header typeField length id ++ z)
    (hfirst : UInt8.ofNat (typeField.toNat / 256) < 3) : isStun d = true := by
  have hlen : 20 ≤ d.length := by
    rw [hd, List.length_append, length_header]
    omega
  have hcookie : (d.drop 4).take 4 = magicCookie := by
    rw [header_split hd]
    simp [beBytes, magicCookie]
  have hzero : d.getD 0 0 = UInt8.ofNat (typeField.toNat / 256) := by
    rw [header_split hd]
    rfl
  simp only [isStun, hlen, hzero, hfirst, hcookie, decide_true, BEq.rfl, Bool.and_self]

/-- The type is read from the header. -/
theorem get2Bytes_typeField (hd : d = header typeField length id ++ z) :
    get2Bytes d 0 = .ok typeField := by
  rw [hd, header, List.append_assoc]
  exact get2Bytes_mid (a := []) typeField rfl

/-- The length is read from the header. -/
theorem get2Bytes_length (hd : d = header typeField length id ++ z) :
    get2Bytes d 2 = .ok length := by
  rw [hd, header, List.append_assoc, List.append_assoc]
  exact get2Bytes_mid length (length_beBytes 2 _).symm

/-- The transaction id is read. -/
theorem transactionIdAt_header (hd : d = header typeField length id ++ z) :
    transactionIdAt d 8 = id := by
  have hid := id.2
  have hsplit : d = (beBytes 2 typeField.toNat ++ (beBytes 2 length.toNat ++ magicCookie)) ++
      (id.1 ++ z) := by
    rw [hd]
    simp only [header, List.append_assoc]
  have hfront : (beBytes 2 typeField.toNat ++ (beBytes 2 length.toNat ++ magicCookie)).length = 8 := by
    simp [magicCookie]
  refine Subtype.ext (List.ext_getElem (by simp [transactionIdAt, hid]) fun k hk hk' => ?_)
  simp only [transactionIdAt, List.getElem_map, List.getElem_range]
  rw [hsplit, List.getD_eq_getElem?_getD, List.getElem?_append_right (by omega), hfront,
    Nat.add_sub_cancel_left, List.getElem?_append_left hk', List.getElem?_eq_getElem hk',
    Option.getD_some]

end

section
variable {c : Crypto} {m : Message} (l : Layout c m)

/-- The loop passes over MESSAGE-INTEGRITY, if it is there. -/
theorem Layout.reaches_integrity {d a z : List UInt8} {s : Scan}
    (hd : d = a ++ (tlvBytes l.integrity ++ z)) (ha : a.length % 4 = 0) (hlen : d.length ≤ 65532)
    (hfp : s.hasFingerprint = false) (hmi : s.hasMessageIntegrity = false)
    (hmsg : s.msg.messageIntegrity = none) :
    Reaches d a.length s (a ++ tlvBytes l.integrity).length { s with
      hasMessageIntegrity := m.addMessageIntegrity
      msg := { s.msg with
        messageIntegrity := if m.addMessageIntegrity then some (a.length + 4) else none } } := by
  have hpairs := l.integrity_pairs
  cases hadd : m.addMessageIntegrity with
  | false =>
      rw [hadd, if_neg Bool.false_ne_true, List.map_eq_nil_iff] at hpairs
      rw [hpairs, tlvBytes, List.flatMap_nil, List.append_nil, if_neg Bool.false_ne_true, ← hmi, ← hmsg]
      exact Reaches.refl d a.length s
  | true =>
      rw [hadd, if_pos rfl] at hpairs
      obtain ⟨t, hts, htype⟩ := List.map_eq_singleton_iff.1 hpairs
      rw [hts] at hd ⊢
      simp only [tlvBytes, List.flatMap_cons, List.flatMap_nil, List.append_nil] at hd ⊢
      have hattr : s.attribute d a.length t.value.length t.type = .ok { s with
          hasMessageIntegrity := true
          msg := { s.msg with messageIntegrity := some (a.length + 4) } } := by
        rw [(Prod.mk.inj htype).1, Scan.attribute, Message.setMessageIntegrity, if_pos hmsg]
        rfl
      refine ⟨1, ?_, attributes_step hd ha hlen hfp (fun h => by rw [hmi] at h; cases h) hattr⟩
      rw [List.length_append, t.length_bytes]
      omega

/-- The loop passes over FINGERPRINT, the last attribute. -/
theorem Layout.reaches_fingerprint {s : Scan} (ha : l.front.length % 4 = 0)
    (hlen : l.bytes.length ≤ 65532) (hfp : s.hasFingerprint = false) :
    Reaches l.bytes l.front.length s l.bytes.length { s with
      hasFingerprint := true, fingerprintAttrPos := l.front.length
      fingerprint := c.getCrc32 l.front ^^^ 0x5354554e
      msg := { s.msg with hasFingerprint := true } } := by
  obtain ⟨t, hts, hpairs⟩ := List.map_eq_singleton_iff.1 l.fingerprint_pairs
  obtain ⟨htype, hvalue⟩ := Prod.mk.inj hpairs
  have hd : l.bytes = l.front ++ (t.bytes ++ []) := by
    rw [Layout.bytes, hts]
    simp only [tlvBytes, List.flatMap_cons, List.flatMap_nil]
  have hread := read_value hd
  rw [hvalue, length_beBytes] at hread
  have hget : get4Bytes l.bytes (l.front.length + 4) = .ok (c.getCrc32 l.front ^^^ 0x5354554e) := by
    rw [get4Bytes, hread]
    exact congrArg _ (ofNat_be_beBytes_four _)
  have hattr : s.attribute l.bytes l.front.length t.value.length t.type = .ok { s with
      hasFingerprint := true, fingerprintAttrPos := l.front.length
      fingerprint := c.getCrc32 l.front ^^^ 0x5354554e
      msg := { s.msg with hasFingerprint := true } } := by
    rw [htype, Scan.attribute]
    exact Checked.bind_eq_ok.2 ⟨_, hget, rfl⟩
  have hend : l.bytes.length = (l.front ++ t.bytes).length := by rw [hd, List.append_nil]
  rw [hend]
  refine ⟨1, ?_, attributes_step hd ha hlen hfp (fun _ => htype) hattr⟩
  rw [List.length_append, t.length_bytes]
  omega

/-- **The loop.** It passes over the whole message. -/
theorem Layout.reaches (hcode : m.errorCode.toNat < 25600) (h : m.serialisedSize ≤ 65532)
    (hlen : l.bytes.length ≤ 65532) :
    Reaches l.bytes 20
      { msg := { klass := m.klass, method := m.method, transactionId := m.transactionId
                 data := l.bytes, size := l.bytes.length } } l.bytes.length
      { msg := l.message, hasMessageIntegrity := m.addMessageIntegrity, hasFingerprint := true
        fingerprintAttrPos := l.front.length, fingerprint := c.getCrc32 l.front ^^^ 0x5354554e } := by
  have hheader := length_header m.typeField (UInt16.ofNat m.serialisedSize - 20) m.transactionId
  have hattrs := length_tlvBytes_mod l.attrs
  have hintegrity := length_tlvBytes_mod l.integrity
  have hd : l.bytes = header m.typeField (UInt16.ofNat m.serialisedSize - 20) m.transactionId ++
      (tlvBytes l.attrs ++ (tlvBytes l.integrity ++ tlvBytes l.fingerprint)) := by
    simp only [Layout.bytes, Layout.front, List.append_assoc]
  have hfront : l.front = header m.typeField (UInt16.ofNat m.serialisedSize - 20) m.transactionId ++
      tlvBytes l.attrs ++ tlvBytes l.integrity := by
    rw [Layout.front, List.append_assoc]
  have hrun₁ := attributes_tlvs l.attrs
    (s := { msg := { klass := m.klass, method := m.method, transactionId := m.transactionId
                     data := l.bytes, size := l.bytes.length } }) hd
    (by rw [hheader]) hlen rfl rfl l.plain
  simp only [l.attrs_pairs, receive_fields hcode h] at hrun₁
  rw [hheader] at hrun₁
  rw [← List.append_assoc] at hd
  have hrun₂ := l.reaches_integrity hd (by rw [List.length_append, hheader]; omega) hlen
    (s := { msg := { klass := m.klass, method := m.method, transactionId := m.transactionId
                     data := l.bytes, size := l.bytes.length
                     username := m.username, priority := m.priority
                     iceControlling := m.iceControlling, iceControlled := m.iceControlled
                     hasUseCandidate := m.hasUseCandidate
                     errorCode := if m.klass = .errorResponse then m.errorCode else 0 } }) rfl rfl rfl
  rw [← hfront] at hrun₂
  have hrun₃ := l.reaches_fingerprint
    (s := { msg := { l.message with hasFingerprint := false }
            hasMessageIntegrity := m.addMessageIntegrity })
    (by rw [hfront]; simp only [List.length_append, hheader]; omega) hlen rfl
  have hpos : (header m.typeField (UInt16.ofNat m.serialisedSize - 20) m.transactionId ++
      tlvBytes l.attrs).length = 20 + (tlvBytes l.attrs).length := by
    rw [List.length_append, hheader]
  rw [hpos] at hrun₁ hrun₂
  exact (hrun₁.trans hrun₂).trans hrun₃

/-- **Parse.** What `serialize` writes is accepted, with the attributes of the message. -/
theorem Layout.parse_bytes (hm : m.method = binding) (hcode : m.errorCode.toNat < 25600)
    (h : m.serialisedSize ≤ 65532) (hlen : l.bytes.length = m.serialisedSize) :
    parse c l.bytes = .ok (some l.message) := by
  obtain ⟨hfirst, hmethod, hclass⟩ := typeField_binding hm
  have hd : l.bytes = header m.typeField (UInt16.ofNat m.serialisedSize - 20) m.transactionId ++
      (tlvBytes l.attrs ++ (tlvBytes l.integrity ++ tlvBytes l.fingerprint)) := by
    simp only [Layout.bytes, Layout.front, List.append_assoc]
  have hattrs := length_tlvBytes_mod l.attrs
  have hintegrity := length_tlvBytes_mod l.integrity
  have hfingerprint := length_tlvBytes_mod l.fingerprint
  have hsum := congrArg List.length hd
  simp only [List.length_append, length_header] at hsum
  have hlength : (UInt16.ofNat m.serialisedSize - 20).toNat = l.bytes.length - 20 := by
    rw [UInt16.toNat_sub, UInt16.toNat_ofNat']
    change (65536 - 20 + m.serialisedSize % 65536) % 65536 = _
    omega
  obtain ⟨n, hn, hrun⟩ := l.reaches hcode h (by omega)
  have hloop : attributes l.bytes rounds 20
      { msg := { klass := m.klass, method := m.method, transactionId := m.transactionId
                 data := l.bytes, size := l.bytes.length } } =
      .ok (some (l.bytes.length, { msg := l.message, hasMessageIntegrity := m.addMessageIntegrity
                                   hasFingerprint := true, fingerprintAttrPos := l.front.length
                                   fingerprint := c.getCrc32 l.front ^^^ 0x5354554e })) := by
    have hrounds : rounds = (rounds - n - 1 + 1) + n := by
      rw [rounds]
      omega
    rw [hrounds, hrun, attributes_succ, if_neg (by omega)]
    rfl
  have hcrc : read l.bytes 0 l.front.length = .ok l.front := by
    rw [read_ok (by rw [Layout.bytes, List.length_append]; omega), Layout.bytes, List.drop_zero,
      List.take_left]
  have hcheck : Scan.checkFingerprint c
      { msg := l.message, hasMessageIntegrity := m.addMessageIntegrity, hasFingerprint := true
        fingerprintAttrPos := l.front.length, fingerprint := c.getCrc32 l.front ^^^ 0x5354554e }
      l.bytes = .ok true := by
    simp only [Scan.checkFingerprint, if_true, hcrc, Checked.ok_bind, decide_true]
    rfl
  have hzero : l.bytes.getD 0 0 = UInt8.ofNat (m.typeField.toNat / 256) := by
    rw [header_split hd]
    rfl
  have hone : l.bytes.getD 1 0 = UInt8.ofNat m.typeField.toNat := by
    rw [header_split hd]
    rfl
  rw [parse]
  simp only [isStun_header hd hfirst, get2Bytes_typeField hd, get2Bytes_length hd, hlength,
    transactionIdAt_header hd, hzero, hone, hclass, hmethod, hloop, Checked.ok_bind]
  rw [if_neg (by decide), if_neg (by omega), if_neg (by omega), hcheck]
  rfl

end

end KoreWebsocket.Stun
