import KoreWebsocket.Lib.Bytes
import KoreWebsocket.Lib.Checked

/-!
# Numbers in a buffer (`Utils::Byte`, `mediasoup_1/soup/include/Utils.hpp`)

The accessors of the RTP, RTCP and STUN parsers: big-endian numbers at an offset.
-/

namespace KoreWebsocket.Byte

open Bytes

def get1Byte (d : List UInt8) (i : Nat) : Except Fault UInt8 :=
  (fun bs => UInt8.ofNat (be bs)) <$> read d i 1

def get2Bytes (d : List UInt8) (i : Nat) : Except Fault UInt16 :=
  (fun bs => UInt16.ofNat (be bs)) <$> read d i 2

def get3Bytes (d : List UInt8) (i : Nat) : Except Fault UInt32 :=
  (fun bs => UInt32.ofNat (be bs)) <$> read d i 3

def get4Bytes (d : List UInt8) (i : Nat) : Except Fault UInt32 :=
  (fun bs => UInt32.ofNat (be bs)) <$> read d i 4

def get8Bytes (d : List UInt8) (i : Nat) : Except Fault UInt64 :=
  (fun bs => UInt64.ofNat (be bs)) <$> read d i 8

def set2Bytes (d : List UInt8) (i : Nat) (value : UInt16) : Except Fault (List UInt8) :=
  write d i (beBytes 2 value.toNat)

/-- A size rounded up to 32 bits, `(size + 3) & ~3`. -/
def pad4 (size : Nat) : Nat := (size + 3) / 4 * 4

/-- `PadTo4Bytes(uint16_t)`: the argument and the result have 16 bits. -/
def padTo4Bytes (size : Nat) : Nat :=
  let size := size % 65536
  if size % 4 ≠ 0 then (size / 4 * 4 + 4) % 65536 else size

/-- The padded length does not wrap. -/
theorem padTo4Bytes_eq {size : Nat} (h : size ≤ 65532) : padTo4Bytes size = pad4 size := by
  rw [padTo4Bytes, pad4]
  split <;> omega

/-! ## The bytes of a number give it back -/

/-- A number of 16 bits is its two bytes. -/
theorem ofNat_be_beBytes_two (v : UInt16) : UInt16.ofNat (be (beBytes 2 v.toNat)) = v := by
  have := v.toNat_lt
  apply UInt16.toNat_inj.1
  rw [UInt16.toNat_ofNat', be_beBytes]
  omega

/-- A number of 32 bits is its four bytes. -/
theorem ofNat_be_beBytes_four (v : UInt32) : UInt32.ofNat (be (beBytes 4 v.toNat)) = v := by
  have := v.toNat_lt
  apply UInt32.toNat_inj.1
  rw [UInt32.toNat_ofNat', be_beBytes]
  omega

/-- A number of 64 bits is its eight bytes. -/
theorem ofNat_be_beBytes_eight (v : UInt64) : UInt64.ofNat (be (beBytes 8 v.toNat)) = v := by
  have := v.toNat_lt
  apply UInt64.toNat_inj.1
  rw [UInt64.toNat_ofNat', be_beBytes]
  omega

section
variable {d : List UInt8} {i : Nat}

/-- A byte that is there is read. -/
theorem get1Byte_ok (h : i + 1 ≤ d.length) : get1Byte d i = .ok (d.getD i 0) := by
  have hi : i < d.length := h
  have : (d.drop i).take 1 = [d[i]] := by
    rw [List.drop_eq_getElem_cons hi, List.take_succ_cons, List.take_zero]
  rw [get1Byte, read_ok h, this]
  simp [be, hi, Functor.map, Except.map]

/-- The byte that is read is the one in the buffer. -/
theorem get1Byte_eq_ok {v : UInt8} : get1Byte d i = .ok v ↔ i < d.length ∧ v = d.getD i 0 := by
  by_cases h : i + 1 ≤ d.length
  · rw [get1Byte_ok h]
    exact ⟨fun he => ⟨h, by cases he; rfl⟩, fun he => by rw [he.2]⟩
  · rw [get1Byte, read_error h]
    exact ⟨fun he => (by cases he), fun he => absurd he.1 h⟩

/-- Two bytes that are there are read. -/
theorem get2Bytes_ok (h : i + 2 ≤ d.length) :
    get2Bytes d i = .ok (UInt16.ofNat (be ((d.drop i).take 2))) := by
  rw [get2Bytes, read_ok h]; rfl

/-- Four bytes that are there are read. -/
theorem get4Bytes_ok (h : i + 4 ≤ d.length) :
    get4Bytes d i = .ok (UInt32.ofNat (be ((d.drop i).take 4))) := by
  rw [get4Bytes, read_ok h]; rfl

/-- Two bytes that are not there are not read. -/
theorem get2Bytes_error (h : ¬ i + 2 ≤ d.length) : get2Bytes d i = .error .overread := by
  rw [get2Bytes, read_error h]; rfl

/-- Four bytes that are not there are not read. -/
theorem get4Bytes_error (h : ¬ i + 4 ≤ d.length) : get4Bytes d i = .error .overread := by
  rw [get4Bytes, read_error h]; rfl

/-- A byte that is not there is not read. -/
theorem get1Byte_error (h : ¬ i + 1 ≤ d.length) : get1Byte d i = .error .overread := by
  rw [get1Byte, read_error h]; rfl

/-- What was read are the bytes of the number. -/
theorem get2Bytes_eq_ok {v : UInt16} (h : get2Bytes d i = .ok v) :
    read d i 2 = .ok (beBytes 2 v.toNat) := by
  by_cases hle : i + 2 ≤ d.length
  · have hlen : ((d.drop i).take 2).length = 2 := by
      rw [List.length_take, List.length_drop]
      omega
    have hlt : be ((d.drop i).take 2) < 2 ^ 16 := by
      have := be_lt ((d.drop i).take 2)
      rwa [hlen] at this
    rw [get2Bytes_ok hle] at h
    cases h
    rw [read_ok hle, UInt16.toNat_ofNat', Nat.mod_eq_of_lt hlt]
    nth_rewrite 1 [← beBytes_be ((d.drop i).take 2)]
    rw [hlen]
  · rw [get2Bytes_error hle] at h
    cases h

/-- Three bytes are a number of 24 bits. -/
theorem get3Bytes_lt {v : UInt32} (h : get3Bytes d i = .ok v) : v.toNat < 2 ^ 24 := by
  by_cases hle : i + 3 ≤ d.length
  · have hlen : ((d.drop i).take 3).length = 3 := by
      rw [List.length_take, List.length_drop]
      omega
    have hlt : be ((d.drop i).take 3) < 2 ^ 24 := by
      have := be_lt ((d.drop i).take 3)
      rwa [hlen] at this
    rw [get3Bytes, read_ok hle] at h
    cases h
    rw [UInt32.toNat_ofNat', Nat.mod_eq_of_lt (by omega)]
    exact hlt
  · rw [get3Bytes, read_error hle] at h
    cases h

/-- A byte in the middle is read. -/
theorem get1Byte_mid {a z : List UInt8} (b : UInt8) (hi : i = a.length) :
    get1Byte (a ++ ([b] ++ z)) i = .ok b := by
  have hbyte : UInt8.ofNat (be [b]) = b := by
    rw [be, List.foldl_cons, List.foldl_nil, Nat.mul_zero, Nat.zero_add, UInt8.ofNat_toNat]
  rw [get1Byte, read_mid hi (List.length_singleton).symm]
  exact congrArg _ hbyte

/-- A number of 16 bits in the middle is read. -/
theorem get2Bytes_mid {a z : List UInt8} (v : UInt16) (hi : i = a.length) :
    get2Bytes (a ++ (beBytes 2 v.toNat ++ z)) i = .ok v := by
  rw [get2Bytes, read_mid hi (length_beBytes 2 _).symm]
  exact congrArg _ (ofNat_be_beBytes_two v)

/-- A number of 32 bits in the middle is read. -/
theorem get4Bytes_mid {a z : List UInt8} (v : UInt32) (hi : i = a.length) :
    get4Bytes (a ++ (beBytes 4 v.toNat ++ z)) i = .ok v := by
  rw [get4Bytes, read_mid hi (length_beBytes 4 _).symm]
  exact congrArg _ (ofNat_be_beBytes_four v)

theorem get4Bytes_append (e : List UInt8) (h : i + 4 ≤ d.length) :
    get4Bytes (d ++ e) i = get4Bytes d i := by
  rw [get4Bytes, get4Bytes, read_append e h]

end

end KoreWebsocket.Byte
