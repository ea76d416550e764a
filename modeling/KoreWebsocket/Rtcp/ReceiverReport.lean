import KoreWebsocket.Rtcp.Packet

/-!
# Receiver reports (`RTC::RTCP::ReceiverReport`, `mediasoup_1/soup`)

The fields of a report, which are kept as the bytes of its header. The cumulative number of lost packets
has three bytes. `SetTotalLost` writes a negative number as a sign bit and a magnitude, and `GetTotalLost`
reads it so: between the two the number is kept (`getTotalLost_setTotalLost`), but on the wire it is not
the two's complement of the number (`total_lost_on_the_wire_iff`).
-/

namespace KoreWebsocket.Rtcp

open Bytes

/-- The bytes of a header, from a place. -/
def Header.slice {n : Nat} (h : Header n) (i size : Nat) : List UInt8 := (h.1.drop i).take size

/-- A header with other bytes at a place. -/
def Header.put {n : Nat} (h : Header n) (i : Nat) (bs : List UInt8) (hfit : i + bs.length ≤ n) :
    Header n :=
  ⟨h.1.take i ++ (bs ++ h.1.drop (i + bs.length)), by
    have hlen := h.2
    simp only [List.length_append, List.length_take, List.length_drop]
    omega⟩

/-- What was written is read. -/
theorem Header.slice_put {n : Nat} (h : Header n) {i size : Nat} {bs : List UInt8}
    (hfit : i + bs.length ≤ n) (hsize : bs.length = size) : (h.put i bs hfit).slice i size = bs := by
  have hlen : (h.1.take i).length = i := by
    rw [List.length_take, h.2]
    omega
  change ((h.1.take i ++ (bs ++ h.1.drop (i + bs.length))).drop i).take size = bs
  rw [List.drop_left' hlen, List.take_left' hsize]

/-- The bytes before those that are put. -/
theorem Header.slice_put_before {n : Nat} (h : Header n) {i size j : Nat} {bs : List UInt8}
    (hfit : j + bs.length ≤ n) (hbefore : i + size ≤ j) :
    (h.put j bs hfit).slice i size = h.slice i size := by
  have hlen : (h.1.take j).length = j := by
    rw [List.length_take, h.2]
    omega
  change ((h.1.take j ++ (bs ++ h.1.drop (j + bs.length))).drop i).take size = (h.1.drop i).take size
  rw [List.drop_append_of_le_length (by omega), List.take_append_of_le_length (by
    rw [List.length_drop]; omega), List.drop_take, List.take_take, Nat.min_eq_left (by omega)]

/-- The bytes behind those that are put. -/
theorem Header.slice_put_behind {n : Nat} (h : Header n) {i size j : Nat} {bs : List UInt8}
    (hfit : j + bs.length ≤ n) (hbehind : j + bs.length ≤ i) :
    (h.put j bs hfit).slice i size = h.slice i size := by
  have hlen : (h.1.take j ++ bs).length = j + bs.length := by
    rw [List.length_append, List.length_take, h.2]
    omega
  have hdrop : ((h.1.take j ++ bs) ++ h.1.drop (j + bs.length)).drop i = h.1.drop i := by
    rw [List.drop_append, List.drop_of_length_le (by omega), List.nil_append, List.drop_drop, hlen]
    congr 1
    omega
  change ((h.1.take j ++ (bs ++ h.1.drop (j + bs.length))).drop i).take size = _
  rw [← List.append_assoc, hdrop]
  rfl

namespace ReceiverReport

/-! ## The fields -/

/-- A locally generated report. -/
def new : Header 24 := ⟨List.replicate 24 0, rfl⟩

/-- `GetFractionLost`. -/
def getFractionLost (report : Header 24) : UInt8 := UInt8.ofNat (be (report.slice 4 1))

/-- `SetFractionLost`. -/
def setFractionLost (report : Header 24) (fractionLost : UInt8) : Header 24 :=
  report.put 4 [fractionLost] (show 4 + 1 ≤ 24 by decide)

/-- The setters of the 32-bit fields behind. -/
def put4Bytes (report : Header 24) (i : Nat) (value : UInt32) (hfit : i + 4 ≤ 24) : Header 24 :=
  report.put i (beBytes 4 value.toNat) (by rw [length_beBytes]; exact hfit)

/-- `SetLastSeq`. -/
def setLastSeq (report : Header 24) (lastSeq : UInt32) : Header 24 :=
  put4Bytes report 8 lastSeq (by decide)

/-- `SetJitter`. -/
def setJitter (report : Header 24) (jitter : UInt32) : Header 24 :=
  put4Bytes report 12 jitter (by decide)

/-- `SetLastSenderReport`. -/
def setLastSenderReport (report : Header 24) (lsr : UInt32) : Header 24 :=
  put4Bytes report 16 lsr (by decide)

/-- `SetDelaySinceLastSenderReport`. -/
def setDelaySinceLastSenderReport (report : Header 24) (dlsr : UInt32) : Header 24 :=
  put4Bytes report 20 dlsr (by decide)

/-- `GetTotalLost`. -/
def getTotalLost (report : Header 24) : Int32 :=
  let value := UInt32.ofNat (be (report.slice 5 3))
  if (value >>> 23) &&& 1 = 0 then value.toInt32
  else
    let value := if value ≠ 0x0800000 then value &&& ~~~((1 : UInt32) <<< 23) else value
    (-value).toInt32

/-- `-totalLost`, which is not defined for the least number. -/
def negate (totalLost : Int32) : Option Int32 :=
  if totalLost = Int32.minValue then none else some (-totalLost)

/-- The limit value of `SetTotalLost`. -/
def clampTotalLost (totalLost : Int32) : Option Int32 :=
  if 0 ≤ totalLost then some (if totalLost > 0x07FFFFF then 0x07FFFFF else totalLost)
  else (negate totalLost).map fun lost => if lost > 0x0800000 then 0x0800000 else lost

/-- What `SetTotalLost` puts into the three bytes. -/
def totalLostValue (totalLost : Int32) : Option UInt32 :=
  (clampTotalLost totalLost).map fun clamp =>
    if 0 ≤ totalLost then (clamp &&& 0x07FFFFF).toUInt32 else (clamp ||| 0x0800000).toUInt32

/-- `SetTotalLost`. -/
def setTotalLost (report : Header 24) (totalLost : Int32) : Option (Header 24) :=
  (totalLostValue totalLost).map fun value =>
    report.put 5 (beBytes 3 value.toNat) (by rw [length_beBytes]; decide)

/-! ## The cumulative number of lost packets -/

/-- The number that three bytes can say, by saturation. -/
def clamped (totalLost : Int32) : Int := max (-2 ^ 23) (min totalLost.toInt (2 ^ 23 - 1))

/-- The two's complement of a number, in 24 bits. -/
def twosComplement (i : Int) : Nat := (i % 2 ^ 24).toNat

/-- The sign bit and the magnitude of a number, in 24 bits. -/
def signMagnitude (i : Int) : Nat := if 0 ≤ i then i.toNat else 2 ^ 23 + (-i).toNat % 2 ^ 23

section
variable {totalLost : Int32}

theorem toNat_toUInt32 {i : Int32} (h : 0 ≤ i.toInt) : (i.toUInt32.toNat : Int) = i.toInt := by
  have hle : 0 ≤ i := by
    rw [Int32.le_iff_toInt_le]
    exact h
  rw [Int32.toNat_toUInt32_of_le hle, ← Int32.toNat_toInt]
  omega

/-- The field has 24 bits. -/
theorem signMagnitude_lt (i : Int) (h : i < 2 ^ 23) : signMagnitude i < 2 ^ 24 := by
  rw [signMagnitude]
  split <;> omega

/-- A loss is clamped at the largest number of 23 bits. -/
theorem clamped_of_nonneg (h : 0 ≤ totalLost.toInt) :
    signMagnitude (clamped totalLost) = min totalLost.toInt.toNat (2 ^ 23 - 1) := by
  rw [signMagnitude, clamped]
  split <;> omega

/-- A gain has the sign bit and a magnitude of 23 bits, which is zero from 2^23 on. -/
theorem clamped_of_neg (h : totalLost.toInt < 0) :
    signMagnitude (clamped totalLost) =
      if 2 ^ 23 < -totalLost.toInt then 2 ^ 23 else 2 ^ 23 + (-totalLost.toInt).toNat % 2 ^ 23 := by
  rw [signMagnitude, clamped]
  split <;> split <;> omega

/-- A number that is not negative is kept as it is. -/
theorem totalLostValue_of_nonneg (h : 0 ≤ totalLost.toInt) :
    totalLostValue totalLost = some (UInt32.ofNat (signMagnitude (clamped totalLost))) := by
  have hle : 0 ≤ totalLost := Int32.le_iff_toInt_le.2 h
  have hgt : totalLost > 0x07FFFFF ↔ 2 ^ 23 - 1 < totalLost.toInt := Int32.lt_iff_toInt_lt
  rw [totalLostValue, clampTotalLost, if_pos hle, Option.map_some, if_pos hle, clamped_of_nonneg h]
  congr 1
  apply UInt32.toNat_inj.1
  rw [Int32.toUInt32_and, UInt32.toNat_and]
  change _ &&& (2 ^ 23 - 1) = _
  rw [Nat.and_two_pow_sub_one_eq_mod, UInt32.toNat_ofNat']
  split
  case isTrue hlarge =>
    have hlarge := hgt.1 hlarge
    change 8388607 % 2 ^ 23 = _
    omega
  case isFalse hsmall =>
    have hsmall := mt hgt.2 hsmall
    have hnat := toNat_toUInt32 h
    omega

/-- The sign bit is added to the magnitude of a negative number. -/
theorem totalLostValue_of_neg (h : totalLost.toInt < 0) (hmin : totalLost ≠ Int32.minValue) :
    totalLostValue totalLost = some (UInt32.ofNat (signMagnitude (clamped totalLost))) := by
  have hlt : ¬ 0 ≤ totalLost := by
    rw [Int32.le_iff_toInt_le]
    exact not_le.2 h
  have hbound : -2 ^ 31 < totalLost.toInt :=
    lt_of_le_of_ne totalLost.le_toInt fun heq => hmin (Int32.toInt_inj.1 heq.symm)
  have hneg : (-totalLost).toInt = -totalLost.toInt := by
    rw [Int32.toInt_neg, Int.bmod_eq_of_le] <;> omega
  have hgt : -totalLost > 0x0800000 ↔ 2 ^ 23 < -totalLost.toInt := by
    rw [← hneg]
    exact Int32.lt_iff_toInt_lt
  rw [totalLostValue, clampTotalLost, if_neg hlt, negate, if_neg hmin, Option.map_some,
    Option.map_some, if_neg hlt, clamped_of_neg h]
  congr 1
  apply UInt32.toNat_inj.1
  rw [Int32.toUInt32_or, UInt32.toNat_or, UInt32.toNat_ofNat']
  change _ ||| 2 ^ 23 = _
  split
  case isTrue hlarge =>
    rw [if_pos (hgt.1 hlarge)]
    decide
  case isFalse hsmall =>
    have hnat := toNat_toUInt32 (i := -totalLost) (by omega)
    have hsmall := mt hgt.2 hsmall
    rw [hneg] at hnat
    rw [if_neg hsmall]
    rcases lt_or_eq_of_le (not_lt.1 hsmall) with hlt | heq
    · have hmagnitude : (-totalLost).toUInt32.toNat < 2 ^ 23 := by omega
      have hor := Nat.two_pow_add_eq_or_of_lt hmagnitude 1
      rw [Nat.or_comm, ← Nat.mul_one (2 ^ 23), ← hor]
      omega
    · have hmagnitude : (-totalLost).toUInt32.toNat = 2 ^ 23 := by omega
      rw [hmagnitude, Nat.or_self]
      omega

/-- The value that is written, for every number but the least. -/
theorem totalLostValue_eq (hmin : totalLost ≠ Int32.minValue) :
    totalLostValue totalLost = some (UInt32.ofNat (signMagnitude (clamped totalLost))) := by
  rcases le_or_gt 0 totalLost.toInt with h | h
  · exact totalLostValue_of_nonneg h
  · exact totalLostValue_of_neg h hmin

/-- **What `SetTotalLost` writes.** -/
theorem setTotalLost_eq (report : Header 24) (hmin : totalLost ≠ Int32.minValue) :
    ∃ report', setTotalLost report totalLost = some report' ∧
      report'.slice 5 3 = beBytes 3 (signMagnitude (clamped totalLost)) := by
  have hlt := signMagnitude_lt (clamped totalLost) (by rw [clamped]; omega)
  rw [setTotalLost, totalLostValue_eq hmin]
  refine ⟨_, rfl, ?_⟩
  rw [Header.slice_put _ _ (length_beBytes 3 _), UInt32.toNat_ofNat', Nat.mod_eq_of_lt (by omega)]

/-- A small number is the same with a sign. -/
theorem toInt_toInt32 {value : UInt32} (h : value.toNat < 2 ^ 31) : value.toInt32.toInt = value.toNat := by
  change value.toBitVec.toInt = value.toBitVec.toNat
  rw [BitVec.toInt_eq_toNat_bmod, Int.bmod_eq_of_le]
  · exact le_trans (by decide) (Int.natCast_nonneg _)
  · exact Int.ofNat_lt.2 h

/-- The negative of a small number is the same with a sign. -/
theorem toInt_neg_toInt32 {value : UInt32} (h : value.toNat < 2 ^ 31) :
    (-value).toInt32.toInt = -value.toNat := by
  rw [UInt32.toInt32_neg, Int32.toInt_neg, toInt_toInt32 h, Int.bmod_eq_of_le] <;> omega

/-- The sign bit is taken off. -/
theorem toNat_and_not_signBit {value : UInt32} (h : value.toNat < 2 ^ 24) :
    (value &&& ~~~((1 : UInt32) <<< 23)).toNat = value.toNat % 2 ^ 23 := by
  have hmask : (~~~((1 : UInt32) <<< 23)).toNat % 2 ^ 24 = 2 ^ 23 - 1 := by decide
  have hle : value.toNat &&& (~~~((1 : UInt32) <<< 23)).toNat < 2 ^ 24 := Nat.and_le_left.trans_lt h
  rw [UInt32.toNat_and, ← Nat.mod_eq_of_lt hle, Nat.and_mod_two_pow, hmask,
    Nat.and_two_pow_sub_one_eq_mod, Nat.mod_eq_of_lt h]

/-- The sign of a number of 24 bits is its highest bit. -/
theorem signBit_eq_zero_iff {value : UInt32} (h : value.toNat < 2 ^ 24) :
    (value >>> 23) &&& 1 = 0 ↔ value.toNat < 2 ^ 23 := by
  have hbit : ((value >>> 23) &&& 1).toNat = value.toNat / 2 ^ 23 % 2 := by
    rw [UInt32.toNat_and, UInt32.toNat_shiftRight]
    change value.toNat >>> 23 &&& (2 ^ 1 - 1) = _
    rw [Nat.and_two_pow_sub_one_eq_mod, Nat.shiftRight_eq_div_pow]
  rw [← UInt32.toNat_inj, hbit]
  change value.toNat / 2 ^ 23 % 2 = 0 ↔ _
  omega

/-- **What `GetTotalLost` reads.** -/
theorem getTotalLost_eq {report : Header 24} {i : Int} (hlow : -2 ^ 23 ≤ i) (hhigh : i < 2 ^ 23)
    (h : report.slice 5 3 = beBytes 3 (signMagnitude i)) : (getTotalLost report).toInt = i := by
  have hlt := signMagnitude_lt i hhigh
  have hvalue : (UInt32.ofNat (be (report.slice 5 3))).toNat = signMagnitude i := by
    rw [h, be_beBytes, UInt32.toNat_ofNat']
    omega
  unfold getTotalLost
  generalize UInt32.ofNat (be (report.slice 5 3)) = value at hvalue
  rw [← hvalue] at hlt
  rw [signMagnitude] at hvalue
  dsimp only
  split
  case isTrue hbit =>
    rw [signBit_eq_zero_iff hlt] at hbit
    rw [toInt_toInt32 (by omega)]
    split at hvalue <;> omega
  case isFalse hbit =>
    rw [signBit_eq_zero_iff hlt] at hbit
    split
    case isTrue hne =>
      have hrest := toNat_and_not_signBit hlt
      have hne : value.toNat ≠ 2 ^ 23 := fun heq => hne (UInt32.toNat_inj.1 heq)
      rw [toInt_neg_toInt32 (by omega), hrest]
      split at hvalue <;> omega
    case isFalse heq =>
      rw [toInt_neg_toInt32 (by omega)]
      have heq : value.toNat = 2 ^ 23 := congrArg UInt32.toNat (not_not.1 heq)
      split at hvalue <;> omega

/-- Between `SetTotalLost` and `GetTotalLost` the number is kept, by saturation. -/
theorem getTotalLost_setTotalLost (report : Header 24) (hmin : totalLost ≠ Int32.minValue) :
    ∃ report', setTotalLost report totalLost = some report' ∧
      (getTotalLost report').toInt = clamped totalLost := by
  obtain ⟨report', hset, hslice⟩ := setTotalLost_eq report hmin
  refine ⟨report', hset, getTotalLost_eq ?_ ?_ hslice⟩ <;> rw [clamped] <;> omega

/-- Two small numbers with the same bytes are equal. -/
theorem beBytes_inj {n v v' : Nat} (h : v < 256 ^ n) (h' : v' < 256 ^ n) :
    beBytes n v = beBytes n v' ↔ v = v' := by
  constructor
  · intro heq
    rw [← Nat.mod_eq_of_lt h, ← Nat.mod_eq_of_lt h', ← be_beBytes, ← be_beBytes, heq]
  · rintro rfl
    rfl

/-- The sign bit and the magnitude are the two's complement of the numbers that are not negative, and of
two that are. -/
theorem signMagnitude_eq_twosComplement_iff :
    signMagnitude (clamped totalLost) = twosComplement (clamped totalLost) ↔
      0 ≤ totalLost.toInt ∨ totalLost.toInt = -2 ^ 22 ∨ totalLost.toInt ≤ -2 ^ 23 := by
  rw [twosComplement]
  rcases le_or_gt 0 totalLost.toInt with h | h
  · rw [clamped_of_nonneg h, clamped]
    omega
  · rw [clamped_of_neg h, clamped]
    split <;> omega

/-- **The field for the cumulative loss.** For every report and every number, `SetTotalLost` is defined,
`GetTotalLost` reads the number back by saturation, and the three bytes are its two's complement, exactly
if the number is not negative, or is -2^22, or is at most -2^23 and not the least number. -/
theorem total_lost_on_the_wire_iff (report : Header 24) (totalLost : Int32) :
    (∃ report', setTotalLost report totalLost = some report' ∧
        (getTotalLost report').toInt = clamped totalLost ∧
        report'.slice 5 3 = beBytes 3 (twosComplement (clamped totalLost))) ↔
      0 ≤ totalLost.toInt ∨ totalLost.toInt = -2 ^ 22 ∨
        (totalLost.toInt ≤ -2 ^ 23 ∧ -2 ^ 31 < totalLost.toInt) := by
  by_cases hmin : totalLost = Int32.minValue
  · subst hmin
    constructor
    · rintro ⟨report', hset, -⟩
      cases hset
    · rw [Int32.toInt_minValue]
      omega
  · obtain ⟨report', hset, hslice⟩ := setTotalLost_eq report hmin
    have hsign := signMagnitude_lt (clamped totalLost) (by rw [clamped]; omega)
    have htwos : twosComplement (clamped totalLost) < 256 ^ 3 := by
      rw [twosComplement]
      omega
    have hgreat : -2 ^ 31 < totalLost.toInt :=
      lt_of_le_of_ne totalLost.le_toInt fun heq => hmin (Int32.toInt_inj.1 heq.symm)
    constructor
    · rintro ⟨report₁, hset₁, -, hbytes⟩
      cases hset.symm.trans hset₁
      rw [hslice, beBytes_inj hsign htwos, signMagnitude_eq_twosComplement_iff] at hbytes
      omega
    · intro h
      have heq := signMagnitude_eq_twosComplement_iff.2
        (h.imp_right fun h => h.imp_right And.left)
      refine ⟨report', hset, getTotalLost_eq ?_ ?_ hslice, ?_⟩
      · rw [clamped]
        omega
      · rw [clamped]
        omega
      · rw [hslice, heq]

/-- One packet too many is written as 80 00 01, and not as FF FF FF. -/
theorem one_too_many_on_the_wire : ∃ report,
    setTotalLost new (-1) = some report ∧
      report.slice 5 3 = [0x80, 0x00, 0x01] ∧
      report.slice 5 3 ≠ beBytes 3 (twosComplement (clamped (-1))) :=
  ⟨_, rfl, by decide, by decide⟩

end

/-! ## The other fields -/

section
variable {report : Header 24}

/-- The fraction is read as it was written. -/
theorem getFractionLost_setFractionLost (fractionLost : UInt8) :
    getFractionLost (setFractionLost report fractionLost) = fractionLost := by
  rw [getFractionLost, setFractionLost, Header.slice_put _ _ List.length_singleton]
  apply UInt8.toNat_inj.1
  rw [UInt8.toNat_ofNat', be, List.foldl_cons, List.foldl_nil]
  have hlt := fractionLost.toNat_lt
  omega

/-- To write the fraction does not touch the total. -/
theorem getTotalLost_setFractionLost (fractionLost : UInt8) :
    getTotalLost (setFractionLost report fractionLost) = getTotalLost report := by
  rw [getTotalLost, getTotalLost, setFractionLost, Header.slice_put_behind _ _ (Nat.le_refl 5)]

/-- The 32-bit fields are behind the loss. -/
theorem loss_put4Bytes {i : Nat} (value : UInt32) (hfit : i + 4 ≤ 24) (hi : 8 ≤ i) :
    getTotalLost (put4Bytes report i value hfit) = getTotalLost report ∧
      getFractionLost (put4Bytes report i value hfit) = getFractionLost report := by
  rw [getTotalLost, getTotalLost, getFractionLost, getFractionLost, put4Bytes,
    Header.slice_put_before _ _ (by omega), Header.slice_put_before _ _ (by omega)]
  exact ⟨rfl, rfl⟩

end

end ReceiverReport

end KoreWebsocket.Rtcp
