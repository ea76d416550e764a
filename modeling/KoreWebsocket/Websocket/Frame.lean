import Mathlib
import KoreWebsocket.Lib.Bytes

/-!
# WebSocket frames (`websocket_frame_build`)

The server builds its frames with `websocket_frame_build`, of which `websocket_4/src/websocket_4.c`,
`websocket_10/src/helper.c` and others have the same copy. `decode` reads a frame as RFC 6455 has it.
What is built is decoded to what was sent (`decode_websocketFrameBuild`); the form of the length is the
shortest, but for one length (`frame_round_trips_iff`).

`net_write16` and `net_write64` are functions of kore, which is not under the source: they are parameters
(`NetWrite`), and the results hold of all that write big-endian.
-/

namespace KoreWebsocket.Websocket

open Bytes

/-! ## The builder -/

/-- `USHRT_MAX`. -/
def ushrtMax : UInt64 := 65535

/-- `WEBSOCKET_PAYLOAD_SINGLE`, the longest payload whose length is in the second byte. -/
def payloadSingle : UInt64 := 125

/-- `WEBSOCKET_PAYLOAD_EXTEND_1`: the length is in two bytes. -/
def payloadExtend1 : UInt8 := 126

/-- `WEBSOCKET_PAYLOAD_EXTEND_2`: the length is in eight bytes. -/
def payloadExtend2 : UInt8 := 127

/-- Functions of kore that write a number into a buffer: the bytes that are written. -/
structure NetWrite where
  netWrite16 : UInt16 → List UInt8
  netWrite64 : UInt64 → List UInt8

/-- The most significant byte is the first. -/
structure NetWrite.BigEndian (net : NetWrite) : Prop where
  netWrite16 : ∀ n : UInt16, net.netWrite16 n = beBytes 2 n.toNat
  netWrite64 : ∀ n : UInt64, net.netWrite64 n = beBytes 8 n.toNat

section
variable (net : NetWrite)

/-- `len_1`, as the comparisons leave it. -/
def len1 (len : UInt64) : UInt8 :=
  if payloadSingle < len then
    if len < ushrtMax then payloadExtend1 else payloadExtend2
  else len.toUInt8

/-- The `switch` over `len_1`. -/
def extendedLength (len1 : UInt8) (len : UInt64) : List UInt8 :=
  if payloadSingle.toUInt8 < len1 then
    if len1 = payloadExtend1 then net.netWrite16 len.toUInt16
    else if len1 = payloadExtend2 then net.netWrite64 len
    else []
  else []

/-- `websocket_frame_build`: what is in the buffer afterwards. `len` is the number of bytes behind
`data`, in 64 bits. -/
def websocketFrameBuild (frame : List UInt8) (op : UInt8) (data : List UInt8) : List UInt8 :=
  let len := UInt64.ofNat data.length
  let op := op ||| 0x80
  let len1 := len1 len &&& ~~~0x80
  frame ++ [op] ++ [len1] ++ extendedLength net len1 len ++ data.take len.toNat

end

/-! ## The receiver -/

/-- The form of a length: in the second byte, or in the two or eight bytes behind it. -/
inductive LengthForm
  | single | extend1 | extend2
  deriving DecidableEq, Repr

/-- The form with the fewest bytes. -/
def LengthForm.shortest (length : Nat) : LengthForm :=
  if length ≤ 125 then .single else if length < 2 ^ 16 then .extend1 else .extend2

/-- A frame, as a receiver reads it. -/
structure Frame where
  fin : Bool
  rsv : Nat
  opcode : Nat
  maskingKey : Option (List UInt8)
  lengthForm : LengthForm
  payload : List UInt8
  deriving DecidableEq, Repr

/-- The length and the bytes behind it. The first bit of a length of eight bytes is not set. -/
def decodeLength (payloadLen : Nat) (rest : List UInt8) : Option (LengthForm × Nat × List UInt8) :=
  if payloadLen = 126 then
    if 2 ≤ rest.length then some (.extend1, be (rest.take 2), rest.drop 2) else none
  else if payloadLen = 127 then
    if 8 ≤ rest.length ∧ be (rest.take 8) < 2 ^ 63 then
      some (.extend2, be (rest.take 8), rest.drop 8)
    else none
  else some (.single, payloadLen, rest)

/-- The masking key, if there is one, and the bytes behind it. -/
def decodeMaskingKey (mask : Bool) (rest : List UInt8) : Option (Option (List UInt8) × List UInt8) :=
  if !mask then some (none, rest)
  else if 4 ≤ rest.length then some (some (rest.take 4), rest.drop 4)
  else none

/-- The payload without the mask. -/
def unmask (maskingKey : Option (List UInt8)) (bytes : List UInt8) : List UInt8 :=
  match maskingKey with
  | none => bytes
  | some key => bytes.mapIdx fun i b => b ^^^ key.getD (i % 4) 0

/-- The first frame of a stream, and the bytes behind it. -/
def decode : List UInt8 → Option (Frame × List UInt8)
  | b₀ :: b₁ :: rest => do
      let (lengthForm, length, rest) ← decodeLength (b₁.toNat % 128) rest
      let (maskingKey, rest) ← decodeMaskingKey (128 ≤ b₁.toNat) rest
      if rest.length < length then none
      else
        some ({
          fin := 128 ≤ b₀.toNat
          rsv := b₀.toNat / 16 % 8
          opcode := b₀.toNat % 16
          maskingKey, lengthForm
          payload := unmask maskingKey (rest.take length) }, rest.drop length)
  | _ => none

/-! ## What is built is decoded -/

/-- The form that `websocket_frame_build` takes. -/
def LengthForm.built (length : Nat) : LengthForm :=
  if length ≤ 125 then .single else if length < 65535 then .extend1 else .extend2

section
variable {net : NetWrite} {op : UInt8} {data : List UInt8}

/-- The highest bit is set. -/
theorem toNat_or_high {b : UInt8} (h : b.toNat < 128) : (b ||| 0x80).toNat = 128 + b.toNat := by
  have hor : 2 ^ 7 * 1 + b.toNat = 2 ^ 7 * 1 ||| b.toNat := Nat.two_pow_add_eq_or_of_lt h 1
  rw [UInt8.toNat_or, Nat.or_comm]
  exact hor.symm

/-- The highest bit is taken away, and was not set. -/
theorem and_not_high {b : UInt8} (h : b.toNat < 128) : b &&& ~~~0x80 = b := by
  apply UInt8.toNat_inj.1
  rw [UInt8.toNat_and]
  change b.toNat &&& (2 ^ 7 - 1) = b.toNat
  rw [Nat.and_two_pow_sub_one_eq_mod]
  exact Nat.mod_eq_of_lt h

/-- The length of a payload below 2 ^ 63 and its extended part, for each form. -/
theorem decodeLength_built (hnet : net.BigEndian) (h : data.length < 2 ^ 63) :
    (len1 (UInt64.ofNat data.length)).toNat < 128 ∧
      ∀ rest, decodeLength ((len1 (UInt64.ofNat data.length)).toNat)
        (extendedLength net (len1 (UInt64.ofNat data.length)) (UInt64.ofNat data.length) ++ rest) =
          some (.built data.length, data.length, rest) := by
  have hlen : (UInt64.ofNat data.length).toNat = data.length := by
    rw [UInt64.toNat_ofNat']
    omega
  rw [LengthForm.built]
  by_cases hsingle : data.length ≤ 125
  · have hle : ¬ payloadSingle < UInt64.ofNat data.length := by
      rw [UInt64.lt_iff_toNat_lt, hlen]
      exact Nat.not_lt.2 hsingle
    have hbyte : (UInt64.ofNat data.length).toUInt8.toNat = data.length := by
      rw [UInt64.toNat_toUInt8, hlen]
      omega
    have hno : ¬ payloadSingle.toUInt8 < (UInt64.ofNat data.length).toUInt8 := by
      rw [UInt8.lt_iff_toNat_lt, hbyte]
      exact Nat.not_lt.2 hsingle
    rw [len1, if_neg hle, hbyte, if_pos hsingle]
    refine ⟨by omega, fun rest => ?_⟩
    rw [extendedLength, if_neg hno, decodeLength, if_neg (by omega), if_neg (by omega),
      List.nil_append]
  · have hlt : payloadSingle < UInt64.ofNat data.length := by
      rw [UInt64.lt_iff_toNat_lt, hlen]
      exact Nat.not_le.1 hsingle
    rw [len1, if_pos hlt, if_neg hsingle]
    by_cases hshort : data.length < 65535
    · have hushrt : UInt64.ofNat data.length < ushrtMax := by
        rw [UInt64.lt_iff_toNat_lt, hlen]
        exact hshort
      rw [if_pos hushrt, if_pos hshort]
      refine ⟨by decide, fun rest => ?_⟩
      have hwritten : be (net.netWrite16 (UInt64.ofNat data.length).toUInt16) = data.length := by
        rw [hnet.netWrite16, be_beBytes, UInt64.toNat_toUInt16, hlen]
        omega
      have htwo : (net.netWrite16 (UInt64.ofNat data.length).toUInt16).length = 2 := by
        rw [hnet.netWrite16, length_beBytes]
      change decodeLength 126 (net.netWrite16 (UInt64.ofNat data.length).toUInt16 ++ rest) = _
      rw [decodeLength, if_pos rfl, if_pos (by rw [List.length_append, htwo]; omega),
        List.take_left' htwo, List.drop_left' htwo, hwritten]
    · have hushrt : ¬ UInt64.ofNat data.length < ushrtMax := by
        rw [UInt64.lt_iff_toNat_lt, hlen]
        exact hshort
      rw [if_neg hushrt, if_neg hshort]
      refine ⟨by decide, fun rest => ?_⟩
      have hwritten : be (net.netWrite64 (UInt64.ofNat data.length)) = data.length := by
        rw [hnet.netWrite64, be_beBytes, hlen]
        omega
      have height : (net.netWrite64 (UInt64.ofNat data.length)).length = 8 := by
        rw [hnet.netWrite64, length_beBytes]
      change decodeLength 127 (net.netWrite64 (UInt64.ofNat data.length) ++ rest) = _
      rw [decodeLength, if_neg (by decide), if_pos rfl, List.take_left' height,
        List.drop_left' height, hwritten,
        if_pos ⟨by rw [List.length_append, height]; omega, h⟩]

/-- **Any payload that fits a length of 63 bits is decoded to what it was.** -/
theorem decode_websocketFrameBuild (hnet : net.BigEndian) (hop : op.toNat < 16)
    (h : data.length < 2 ^ 63) :
    decode (websocketFrameBuild net [] op data) = some
      ({ fin := true, rsv := 0, opcode := op.toNat, maskingKey := none,
         lengthForm := .built data.length, payload := data }, []) := by
  obtain ⟨hlt, hdecoded⟩ := decodeLength_built hnet h
  have hlen : (UInt64.ofNat data.length).toNat = data.length := by
    rw [UInt64.toNat_ofNat']
    omega
  have hb₀ := toNat_or_high (Nat.lt_trans hop (by decide))
  have hnoMask : decide (128 ≤ (len1 (UInt64.ofNat data.length)).toNat) = false :=
    decide_eq_false (Nat.not_le.2 hlt)
  rw [websocketFrameBuild]
  rw [and_not_high hlt, hlen, List.take_length]
  simp only [List.nil_append, List.cons_append]
  rw [decode, Nat.mod_eq_of_lt hlt, hdecoded]
  simp only [Option.bind_eq_bind, Option.bind_some, hnoMask, decodeMaskingKey, Bool.not_false, if_true,
    lt_irrefl, if_false, unmask, List.take_length, List.drop_length, hb₀]
  have hfin : decide (128 ≤ 128 + op.toNat) = true := decide_eq_true (Nat.le_add_right _ _)
  have hrsv : (128 + op.toNat) / 16 % 8 = 0 := by omega
  have hopcode : (128 + op.toNat) % 16 = op.toNat := by omega
  rw [hfin, hrsv, hopcode]

/-- A length that is decoded has 63 bits. -/
theorem lt_of_decodeLength {payloadLen length : Nat} {rest rest' : List UInt8} {lengthForm : LengthForm}
    (hlt : payloadLen < 128) (h : decodeLength payloadLen rest = some (lengthForm, length, rest')) :
    length < 2 ^ 63 := by
  unfold decodeLength at h
  split at h
  case isTrue =>
    split at h
    case isTrue hle =>
      cases h
      have hbe := be_lt (rest.take 2)
      rw [List.length_take, Nat.min_eq_left hle] at hbe
      omega
    case isFalse => cases h
  case isFalse =>
    split at h
    case isTrue =>
      split at h
      case isTrue hfits =>
        cases h
        exact hfits.2
      case isFalse => cases h
    case isFalse =>
      cases h
      omega

/-- The mask leaves the length. -/
theorem length_unmask (maskingKey : Option (List UInt8)) (bytes : List UInt8) :
    (unmask maskingKey bytes).length = bytes.length := by
  cases maskingKey with
  | none => rfl
  | some key => exact List.length_mapIdx

/-- A frame has a payload below 2 ^ 63 bytes. -/
theorem length_lt_of_decode {bytes rest : List UInt8} {frame : Frame}
    (h : decode bytes = some (frame, rest)) : frame.payload.length < 2 ^ 63 := by
  unfold decode at h
  split at h
  case h_2 => cases h
  case h_1 b₀ b₁ behind =>
    obtain ⟨⟨lengthForm, length, behind'⟩, hlength, h⟩ := Option.bind_eq_some_iff.1 h
    obtain ⟨⟨maskingKey, behind''⟩, -, h⟩ := Option.bind_eq_some_iff.1 h
    dsimp only at h
    split at h
    case isTrue => cases h
    case isFalse hle =>
      cases h
      rw [length_unmask, List.length_take]
      have hlt := lt_of_decodeLength (Nat.mod_lt _ (by decide)) hlength
      omega

/-- **The property.** A frame is decoded to the opcode and the payload that it was built from, without a
mask and with nothing behind it, and its length has the shortest form. -/
def RoundTrips (net : NetWrite) (op : UInt8) (data : List UInt8) : Prop :=
  decode (websocketFrameBuild net [] op data) = some
    ({ fin := true, rsv := 0, opcode := op.toNat, maskingKey := none,
       lengthForm := .shortest data.length, payload := data }, [])

/-- The form is the shortest, but for one length. -/
theorem built_eq_shortest_iff (length : Nat) :
    LengthForm.built length = .shortest length ↔ length ≠ 65535 := by
  unfold LengthForm.built LengthForm.shortest
  split
  case isTrue h => exact iff_of_true rfl (by omega)
  case isFalse h =>
    split
    case isTrue hlt => rw [if_pos (by omega)]; exact iff_of_true rfl (by omega)
    case isFalse hle =>
      split
      case isTrue hlt => exact iff_of_false (by decide) (by omega)
      case isFalse hlt => exact iff_of_true rfl (by omega)

/-- **A frame of any opcode round trips just if its payload does not have 65535 bytes**, and has fewer
than 2 ^ 63. -/
theorem frame_round_trips_iff (hnet : net.BigEndian) (op : UInt8) (data : List UInt8)
    (hop : op.toNat < 16) :
    RoundTrips net op data ↔ data.length ≠ 65535 ∧ data.length < 2 ^ 63 := by
  by_cases h : data.length < 2 ^ 63
  · rw [RoundTrips, decode_websocketFrameBuild hnet hop h, and_iff_left h, ← built_eq_shortest_iff]
    simp
  · refine iff_of_false (fun hdecoded => h ?_) (fun hlt => h hlt.2)
    exact length_lt_of_decode hdecoded

end

/-- Functions that write big-endian. -/
def bigEndian : NetWrite where
  netWrite16 n := beBytes 2 n.toNat
  netWrite64 n := beBytes 8 n.toNat

/-- The bytes from the highest to the lowest are what the header asks for. -/
theorem bigEndian_bigEndian : bigEndian.BigEndian := ⟨fun _ => rfl, fun _ => rfl⟩

/-- A text frame with a payload of 126 bytes. -/
theorem frame_round_trips_126 : RoundTrips bigEndian 1 (List.replicate 126 0x61) :=
  (frame_round_trips_iff bigEndian_bigEndian 1 (List.replicate 126 0x61) (by decide)).2
    (by rw [List.length_replicate]; decide)

/-- The length of 65535 bytes fits two bytes and is sent in eight. -/
theorem frame_of_65535_bytes :
    (decode (websocketFrameBuild bigEndian [] 1 (List.replicate 65535 0x61))).map (·.1.lengthForm) =
      some .extend2 ∧ LengthForm.shortest 65535 = .extend1 ∧
    ¬ ∀ net : NetWrite, net.BigEndian → ∀ (op : UInt8) (data : List UInt8), op.toNat < 16 →
      RoundTrips net op data := by
  have hlength : (List.replicate 65535 (0x61 : UInt8)).length = 65535 := List.length_replicate
  have hdecoded : decode (websocketFrameBuild bigEndian [] 1 (List.replicate 65535 0x61)) = _ :=
    decode_websocketFrameBuild bigEndian_bigEndian (by decide) (by rw [hlength]; decide)
  refine ⟨by rw [hdecoded, hlength]; rfl, rfl, fun h => ?_⟩
  have hbuilt := h bigEndian bigEndian_bigEndian 1 (List.replicate 65535 0x61) (by decide)
  rw [RoundTrips, hdecoded, hlength] at hbuilt
  have hform := congrArg (Option.map fun decoded => decoded.1.lengthForm) hbuilt
  exact (built_eq_shortest_iff 65535).1 (Option.some.inj hform) rfl

end KoreWebsocket.Websocket
