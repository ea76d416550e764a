import Mathlib

/-!
# Numbers with a mantissa and an exponent

A number is written as `m * 2 ^ e` with a mantissa of `bits` bits by halving it until it fits
(`normalise`). The exponent is the least one for which the number fits (`isLeast_exponent`), the
mantissa is the number without its low bits, and what the two stand for is the largest number of this
form that is not above the given one (`isGreatest_truncate`). It has the same mantissa and exponent
again (`mantissa_truncate`, `exponent_truncate`).
-/

namespace Mantissa

/-- The loop `while (mantissa > max) { mantissa >>= 1; ++exponent; }`. -/
def normalise (max mantissa exponent : Nat) : Nat × Nat :=
  if max < mantissa then normalise max (mantissa / 2) (exponent + 1) else (mantissa, exponent)
termination_by mantissa
decreasing_by omega

/-- What the loop leaves: it has halved as often as the mantissa was too large. -/
theorem normalise_spec (max m e : Nat) : ∃ k, normalise max m e = (m / 2 ^ k, e + k) ∧
    m / 2 ^ k ≤ max ∧ ∀ j < k, max < m / 2 ^ j := by
  induction m, e using normalise.induct max with
  | case1 m e hlt ih =>
      obtain ⟨k, hk, hle, hbelow⟩ := ih
      have hhalf : ∀ j, m / 2 / 2 ^ j = m / 2 ^ (j + 1) := by
        intro j
        rw [Nat.div_div_eq_div_mul, Nat.pow_succ']
      rw [hhalf] at hk hle
      refine ⟨k + 1, ?_, hle, ?_⟩
      · rw [normalise, if_pos hlt, hk, Nat.add_right_comm, Nat.add_assoc]
      · intro j hj
        cases j with
        | zero => rwa [Nat.pow_zero, Nat.div_one]
        | succ j =>
            rw [← hhalf]
            exact hbelow j (Nat.lt_of_succ_lt_succ hj)
  | case2 m e hle =>
      refine ⟨0, ?_, ?_, ?_⟩
      · rw [normalise, if_neg hle, Nat.pow_zero, Nat.div_one, Nat.add_zero]
      · rw [Nat.pow_zero, Nat.div_one]
        omega
      · intro j hj
        exact absurd hj (Nat.not_lt_zero j)

/-- The exponent of a number with a mantissa of `bits` bits. -/
def exponent (bits v : Nat) : Nat := (normalise (2 ^ bits - 1) v 0).2

/-- What a number becomes when it is written with a mantissa of `bits` bits. -/
def truncate (bits v : Nat) : Nat := v / 2 ^ exponent bits v * 2 ^ exponent bits v

section
variable {bits v m e : Nat}

/-- The loop finds the least exponent for which the mantissa fits. -/
theorem normalise_eq (bits v : Nat) :
    normalise (2 ^ bits - 1) v 0 = (v / 2 ^ exponent bits v, exponent bits v) := by
  obtain ⟨k, hk, -, -⟩ := normalise_spec (2 ^ bits - 1) v 0
  rw [Nat.zero_add] at hk
  rw [exponent, hk]

/-- The exponent is the least for which the mantissa fits its bits. -/
theorem isLeast_exponent (bits v : Nat) : IsLeast {e | v / 2 ^ e < 2 ^ bits} (exponent bits v) := by
  have hpos : 0 < 2 ^ bits := Nat.two_pow_pos bits
  obtain ⟨k, hk, hle, hbelow⟩ := normalise_spec (2 ^ bits - 1) v 0
  have hexp : exponent bits v = k := by
    rw [exponent, hk, Nat.zero_add]
  rw [hexp]
  refine ⟨?_, fun e he => ?_⟩
  · change v / 2 ^ k < 2 ^ bits
    omega
  · by_contra hlt
    have hlarge := hbelow e (Nat.not_le.1 hlt)
    have hsmall : v / 2 ^ e < 2 ^ bits := he
    omega

theorem exponent_eq_of_isLeast (h : IsLeast {e | v / 2 ^ e < 2 ^ bits} e) : exponent bits v = e :=
  (isLeast_exponent bits v).unique h

theorem mantissa_lt (bits v : Nat) : v / 2 ^ exponent bits v < 2 ^ bits := (isLeast_exponent bits v).1

/-- A number of so many bits needs no larger exponent. -/
theorem exponent_le (h : v < 2 ^ (bits + e)) : exponent bits v ≤ e := by
  refine (isLeast_exponent bits v).2 ?_
  change v / 2 ^ e < 2 ^ bits
  rwa [Nat.div_lt_iff_lt_mul (Nat.two_pow_pos e), ← Nat.pow_add]

/-- What is cut off is not negative. -/
theorem truncate_le (bits v : Nat) : truncate bits v ≤ v := Nat.div_mul_le_self _ _

/-- A mantissa with a positive exponent has all its bits. -/
theorem le_mantissa (h : exponent bits v = e + 1) : 2 ^ bits ≤ 2 * (v / 2 ^ (e + 1)) + 1 := by
  have hnot : ¬ v / 2 ^ e < 2 ^ bits := by
    intro hlt
    have hle := (isLeast_exponent bits v).2 hlt
    omega
  have hhalf : v / 2 ^ (e + 1) = v / 2 ^ e / 2 := by
    rw [Nat.div_div_eq_div_mul, Nat.pow_succ]
  omega

/-- **What is left is the largest number of its form that is not above.** -/
theorem isGreatest_truncate (hbits : 0 < bits) (v : Nat) :
    IsGreatest {u | u ≤ v ∧ ∃ m e, m < 2 ^ bits ∧ u = m * 2 ^ e} (truncate bits v) := by
  refine ⟨⟨truncate_le bits v, _, _, mantissa_lt bits v, rfl⟩, ?_⟩
  rintro u ⟨hle, m, e, hm, rfl⟩
  rw [truncate]
  rcases Nat.lt_or_ge e (exponent bits v) with hlt | hge
  · -- a smaller exponent stays below the smallest mantissa with all bits
    obtain ⟨k, hk⟩ : ∃ k, exponent bits v = k + 1 := ⟨exponent bits v - 1, by omega⟩
    obtain ⟨n, rfl⟩ : ∃ n, bits = n + 1 := ⟨bits - 1, by omega⟩
    have hfull := le_mantissa hk
    have hpow : 2 ^ (n + 1) = 2 * 2 ^ n := Nat.pow_succ'
    have hmant : 2 ^ n ≤ v / 2 ^ (k + 1) := by omega
    rw [hk]
    calc m * 2 ^ e ≤ 2 ^ (n + 1) * 2 ^ k :=
          Nat.mul_le_mul hm.le (Nat.pow_le_pow_right (by decide) (by omega))
      _ = 2 ^ n * 2 ^ (k + 1) := by ring
      _ ≤ v / 2 ^ (k + 1) * 2 ^ (k + 1) := Nat.mul_le_mul_right _ hmant
  · -- a larger exponent gives a multiple of the power
    obtain ⟨n, rfl⟩ : ∃ n, e = exponent bits v + n := ⟨e - exponent bits v, by omega⟩
    rw [Nat.pow_add, ← Nat.mul_assoc, Nat.mul_right_comm] at hle ⊢
    exact Nat.mul_le_mul_right _ ((Nat.le_div_iff_mul_le (Nat.two_pow_pos _)).2 hle)

/-- What is left is written as the number itself. -/
theorem exponent_truncate (hbits : 0 < bits) (v : Nat) :
    exponent bits (truncate bits v) = exponent bits v := by
  refine exponent_eq_of_isLeast ⟨?_, fun e he => ?_⟩
  · change truncate bits v / _ < _
    rw [truncate, Nat.mul_div_cancel _ (Nat.two_pow_pos _)]
    exact mantissa_lt bits v
  · by_contra hlt
    obtain ⟨k, hk⟩ : ∃ k, exponent bits v = k + 1 := ⟨exponent bits v - 1, by omega⟩
    have hfull := le_mantissa hk
    have hsmall : truncate bits v / 2 ^ k < 2 ^ bits := by
      refine lt_of_le_of_lt (Nat.div_le_div_left ?_ (Nat.two_pow_pos e)) he
      exact Nat.pow_le_pow_right (by decide) (by omega)
    obtain ⟨n, rfl⟩ : ∃ n, bits = n + 1 := ⟨bits - 1, by omega⟩
    have heven : truncate (n + 1) v / 2 ^ k = 2 * (v / 2 ^ (k + 1)) := by
      rw [truncate, hk, Nat.pow_succ' (n := k), ← Nat.mul_assoc, Nat.mul_div_cancel _ (Nat.two_pow_pos k),
        Nat.mul_comm]
    rw [heven] at hsmall
    have hpow : 2 ^ (n + 1) = 2 * 2 ^ n := Nat.pow_succ'
    omega

/-- A truncated number has the same mantissa. -/
theorem mantissa_truncate (hbits : 0 < bits) (v : Nat) :
    truncate bits v / 2 ^ exponent bits (truncate bits v) = v / 2 ^ exponent bits v := by
  rw [exponent_truncate hbits, truncate, Nat.mul_div_cancel _ (Nat.two_pow_pos _)]

end

end Mantissa
