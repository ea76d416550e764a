import Mathlib

/-!
# Buffers of bytes

A buffer is a list of bytes; its length is the length a parser is given. `read` and `write` are
checked: they fail where the code would go behind the end. `Fault` has the ways in which code over a
buffer can go wrong, so a function in `Except Fault` that returns has stayed inside its buffers, has
computed no length below zero, has used no pointer to what is gone, has ended and has passed its
assertions. `be` and `beBytes` are the big-endian numbers of the network formats.
-/

namespace Bytes

/-- What can go wrong. -/
inductive Fault
  /-- a read behind the end of the buffer -/
  | overread
  /-- a write behind the end of the buffer -/
  | overwrite
  /-- a difference of lengths below zero, which wraps -/
  | wraps
  /-- a loop that does not end -/
  | loops
  /-- a pointer to what is not stored any more -/
  | dangling
  /-- a failed assertion -/
  | assertion (desc : String)
  deriving DecidableEq, Repr

/-- No byte is read or written outside of a buffer. -/
def InBuffer {α : Type} (x : Except Fault α) : Prop := x ≠ .error .overread ∧ x ≠ .error .overwrite

/-- `n` bytes at an offset. -/
def read (d : List UInt8) (i n : Nat) : Except Fault (List UInt8) :=
  if i + n ≤ d.length then .ok ((d.drop i).take n) else .error .overread

/-- Bytes written over those at an offset. -/
def write (d : List UInt8) (i : Nat) (bs : List UInt8) : Except Fault (List UInt8) :=
  if i + bs.length ≤ d.length then .ok (d.take i ++ bs ++ d.drop (i + bs.length))
  else .error .overwrite

/-- The code stops unless the condition holds. -/
def ensure (c : Prop) [Decidable c] (desc : String) : Except Fault Unit :=
  if c then .ok () else .error (.assertion desc)

/-- The length behind an offset, `len - offset`. -/
def remaining (d : List UInt8) (offset : Nat) : Except Fault Nat :=
  if offset ≤ d.length then .ok (d.length - offset) else .error .wraps

/-- The number with these bytes, the most significant first. -/
def be (bs : List UInt8) : Nat := bs.foldl (fun v b => 256 * v + b.toNat) 0

/-- The `n` low bytes of a number, the most significant first. -/
def beBytes : Nat → Nat → List UInt8
  | 0, _ => []
  | n + 1, v => beBytes n (v / 256) ++ [UInt8.ofNat v]

/-- What returns has stayed in its buffers. -/
theorem inBuffer_ok {α : Type} {x : Except Fault α} {r : α} (h : x = .ok r) : InBuffer x := by
  rw [h]
  exact ⟨fun h => (by cases h), fun h => (by cases h)⟩

section
variable {d e : List UInt8} {i n : Nat}

/-- A slice that is there is read. -/
theorem read_ok (h : i + n ≤ d.length) : read d i n = .ok ((d.drop i).take n) := if_pos h

/-- A slice that is not there is not read. -/
theorem read_error (h : ¬ i + n ≤ d.length) : read d i n = .error .overread := if_neg h

/-- The middle of three parts is read. -/
theorem read_mid {a m z : List UInt8} (hi : i = a.length) (hn : n = m.length) :
    read (a ++ (m ++ z)) i n = .ok m := by
  rw [read_ok (by simp only [List.length_append]; omega), hi, hn, List.drop_left, List.take_left]

/-- A write over a part of a buffer that is given by its parts. -/
theorem write_append {a m z bs : List UInt8} (h : m.length = bs.length) :
    write (a ++ (m ++ z)) a.length bs = .ok (a ++ (bs ++ z)) := by
  rw [write, if_pos (by simp only [List.length_append]; omega), List.take_left, ← h,
    ← List.drop_drop, List.drop_left, List.drop_left, List.append_assoc]

/-- A write inside the part that is written already. -/
theorem write_inside {a m z bs : List UInt8} (hd : d.take n = a ++ (m ++ z)) (hn : n ≤ d.length)
    (hi : i = a.length) (h : m.length = bs.length) :
    ∃ d', write d i bs = .ok d' ∧ d'.take n = a ++ (bs ++ z) ∧ d'.length = d.length := by
  have hsplit : d = a ++ (m ++ (z ++ d.drop n)) := by
    rw [← List.append_assoc m, ← List.append_assoc a, ← hd, List.take_append_drop]
  have hlen : (a ++ (bs ++ z)).length = n := by
    rw [← Nat.min_eq_left hn, ← List.length_take, hd]
    simp only [List.length_append, h]
  refine ⟨a ++ (bs ++ (z ++ d.drop n)), ?_, ?_, ?_⟩
  · rw [hi]
    conv => lhs; rw [hsplit]
    exact write_append h
  · rw [← List.append_assoc bs, ← List.append_assoc a, List.take_left' hlen]
  · conv => rhs; rw [hsplit]
    simp only [List.length_append, h]

/-- A write behind a part that is written already makes that part longer. -/
theorem write_behind (bs : List UInt8) {a : List UInt8} (ha : d.take i = a) (h : i + bs.length ≤ d.length) :
    ∃ d', write d i bs = .ok d' ∧ d'.take (i + bs.length) = a ++ bs ∧ d'.length = d.length := by
  refine ⟨d.take i ++ bs ++ d.drop (i + bs.length), if_pos h, ?_, ?_⟩
  · rw [ha]
    refine List.take_left' ?_
    rw [← ha, List.length_append, List.length_take]
    omega
  · simp only [List.length_append, List.length_take, List.length_drop]
    omega

/-- Bytes are written where they fit. -/
theorem write_eq_ok {bs d' : List UInt8} : write d i bs = .ok d' ↔
    i + bs.length ≤ d.length ∧ d' = d.take i ++ bs ++ d.drop (i + bs.length) := by
  unfold write
  split
  case isTrue hle => rw [and_iff_right hle, Except.ok.injEq, eq_comm]
  case isFalse hle => exact iff_of_false (fun h => by cases h) (fun h => hle h.1)

/-- A buffer that is written keeps its size. -/
theorem length_write {bs d' : List UInt8} (h : write d i bs = .ok d') : d'.length = d.length := by
  obtain ⟨hle, rfl⟩ := write_eq_ok.1 h
  simp only [List.length_append, List.length_take, List.length_drop]
  omega

/-- A write leaves what is behind it. -/
theorem drop_write {bs d' : List UInt8} (h : write d i bs = .ok d') {k : Nat} (hk : i + bs.length ≤ k) :
    d'.drop k = d.drop k := by
  obtain ⟨hle, rfl⟩ := write_eq_ok.1 h
  have hfront : (d.take i ++ bs).length = i + bs.length := by
    rw [List.length_append, List.length_take]
    omega
  rw [List.drop_append, List.drop_of_length_le (hfront ▸ hk), List.nil_append, List.drop_drop, hfront,
    Nat.add_sub_cancel' hk]

/-- The bytes behind a write are those that it puts and those that were there. -/
theorem getD_write {bs d' : List UInt8} (h : write d i bs = .ok d') (j : Nat) (x : UInt8) :
    d'.getD j x = if i ≤ j ∧ j < i + bs.length then bs.getD (j - i) x else d.getD j x := by
  obtain ⟨hle, rfl⟩ := write_eq_ok.1 h
  grind

/-- What is read is the slice. -/
theorem read_eq_ok {bs : List UInt8} :
    read d i n = .ok bs ↔ i + n ≤ d.length ∧ bs = (d.drop i).take n := by
  unfold read
  split
  case isTrue hle => rw [and_iff_right hle, Except.ok.injEq, eq_comm]
  case isFalse hle => exact iff_of_false (fun h => by cases h) (fun h => hle h.1)

/-- What a read gives splits the buffer. -/
theorem read_split {bs : List UInt8} (h : read d i n = .ok bs) :
    d = d.take i ++ (bs ++ d.drop (i + n)) ∧ (d.take i).length = i ∧ bs.length = n := by
  by_cases hle : i + n ≤ d.length
  · rw [read_ok hle] at h
    cases h
    refine ⟨?_, ?_, ?_⟩
    · rw [← List.drop_drop, List.take_append_drop, List.take_append_drop]
    · rw [List.length_take]
      omega
    · rw [List.length_take, List.length_drop]
      omega
  · rw [read_error hle] at h
    cases h

/-- Bytes that are written over and then restored leave the buffer as it was. -/
theorem write_restore {old bs d' : List UInt8} (h : read d i n = .ok old) (hlen : bs.length = n)
    (hw : write d i bs = .ok d') : write d' i old = .ok d := by
  obtain ⟨hd, hi, hn⟩ := read_split h
  have hfirst : write d i bs = .ok (d.take i ++ (bs ++ d.drop (i + n))) := by
    conv => lhs; rw [hd]; arg 2; rw [← hi]
    exact write_append (by omega)
  rw [hfirst] at hw
  cases hw
  conv => rhs; rw [hd]
  conv => lhs; arg 2; rw [← hi]
  exact write_append (by omega)

/-- The check of a condition that holds. -/
theorem ensure_true {c : Prop} [Decidable c] (h : c) (desc : String) : ensure c desc = .ok () :=
  if_pos h

/-- A condition that was checked. -/
theorem of_ensure {c : Prop} [Decidable c] {desc : String} {u : Unit} (h : ensure c desc = .ok u) : c := by
  unfold ensure at h
  split at h
  case isTrue hc => exact hc
  case isFalse => cases h

/-- What remains behind a position in the buffer. -/
theorem remaining_ok (h : i ≤ d.length) : remaining d i = .ok (d.length - i) := if_pos h

/-- A read that succeeds in a buffer gives the same bytes in any longer one. -/
theorem read_append (e : List UInt8) (h : i + n ≤ d.length) : read (d ++ e) i n = read d i n := by
  rw [read_ok h, read_ok (by rw [List.length_append]; omega),
    List.drop_append_of_le_length (by omega),
    List.take_append_of_le_length (by rw [List.length_drop]; omega)]

end

/-! ## Big-endian numbers -/

/-- `beBytes n` has `n` bytes. -/
@[simp] theorem length_beBytes (n v : Nat) : (beBytes n v).length = n := by
  induction n generalizing v with
  | zero => rfl
  | succ n ih => simp [beBytes, ih]

/-- The last byte is the lowest. -/
theorem be_append_singleton (bs : List UInt8) (b : UInt8) :
    be (bs ++ [b]) = 256 * be bs + b.toNat := by
  simp [be]

/-- A number is its bytes, if they are enough. -/
theorem be_beBytes (n v : Nat) : be (beBytes n v) = v % 256 ^ n := by
  induction n generalizing v with
  | zero => simp [beBytes, be, Nat.mod_one]
  | succ n ih =>
      rw [beBytes, be_append_singleton, ih, Nat.pow_succ', Nat.mod_mul, UInt8.toNat_ofNat']
      omega

/-- Bytes make a number below the power of 256. -/
theorem be_lt (bs : List UInt8) : be bs < 256 ^ bs.length := by
  induction bs using List.reverseRecOn with
  | nil => simp [be]
  | append_singleton bs b ih =>
      rw [be_append_singleton, List.length_append, List.length_singleton, Nat.pow_succ']
      have := b.toNat_lt
      omega

/-- Bytes are those of their number. -/
theorem beBytes_be (bs : List UInt8) : beBytes bs.length (be bs) = bs := by
  induction bs using List.reverseRecOn with
  | nil => rfl
  | append_singleton bs b ih =>
      have hb := b.toNat_lt
      have hdiv : (256 * be bs + b.toNat) / 256 = be bs := by omega
      have hlast : UInt8.ofNat (256 * be bs + b.toNat) = b := by
        apply UInt8.toNat_inj.1
        rw [UInt8.toNat_ofNat']
        omega
      rw [be_append_singleton, List.length_append, List.length_singleton, beBytes, hdiv, ih, hlast]

end Bytes
