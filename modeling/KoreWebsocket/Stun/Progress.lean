import KoreWebsocket.Stun.Bounds

/-!
# The loop over the attributes makes progress

The position of the next attribute is rounded up to a multiple of four in 16 bits, so a position behind
65532 becomes 0. `parse` gets to the loop only if the size of the message is a multiple of four: a
buffer of at most 65535 bytes then has at most 65532, and no position behind an attribute is rounded to
less than it is (`next_of_goes`). So every round moves on (`positions_increase`).
-/

namespace KoreWebsocket.Stun

open Bytes Byte

/-- The loop goes from a position, with the variables that it has there, to another. -/
def Goes (d : List UInt8) (a b : Nat × Scan) : Prop :=
  a.1 + 4 ≤ d.length ∧ a.2.round d a.1 = .ok (some b)

section
variable {d : List UInt8} {s : Scan} {a b : Nat × Scan} {fuel : Nat}

/-- **Step.** The next position is the rounded end of an attribute inside the message. -/
theorem next_of_goes (hgoes : Goes d a b) :
    ∃ attrLength, a.1 + 4 + attrLength ≤ d.length ∧ b.1 = padTo4Bytes (a.1 + 4 + attrLength) := by
  obtain ⟨-, hround⟩ := hgoes
  unfold Scan.round at hround
  obtain ⟨attrType, -, hround⟩ := Checked.bind_eq_ok.1 hround
  obtain ⟨attrLength, -, hround⟩ := Checked.bind_eq_ok.1 hround
  split at hround
  case isTrue => cases hround
  case isFalse hfits =>
    split at hround
    case isTrue => cases hround
    case isFalse =>
      split at hround
      case isTrue => cases hround
      case isFalse =>
        obtain ⟨s', -, hround⟩ := Checked.bind_eq_ok.1 hround
        cases hround
        exact ⟨attrLength.toNat, by omega, rfl⟩

/-- A message that gets to the loop is short enough for its positions to have 16 bits. -/
theorem HeaderFits.length_le (h : HeaderFits d) (hlen : d.length ≤ 65535) : d.length ≤ 65532 := by
  have hmultiple := h.multiple
  have hle := h.le_length
  omega

/-- **Step.** The position moves on, and stays in the message. -/
theorem lt_of_goes (h : HeaderFits d) (hlen : d.length ≤ 65535) (hgoes : Goes d a b) :
    a.1 < b.1 ∧ b.1 ≤ d.length := by
  obtain ⟨attrLength, hfits, hnext⟩ := next_of_goes hgoes
  have hmultiple := h.multiple
  have hle := h.length_le hlen
  have hheader := h.le_length
  rw [hnext, padTo4Bytes_eq (by omega), pad4]
  omega

/-- The loop ends, after fewer rounds than the message has bytes. -/
theorem attributes_ends (h : HeaderFits d) (hlen : d.length ≤ 65535) (hfuel : d.length < 20 + fuel) :
    attributes d fuel 20 s ≠ .error .loops := by
  have hmultiple := h.multiple
  have hheader := h.le_length
  rw [attributes_eq (h.length_le hlen) (by omega) hfuel rfl hheader, Scan.loop]
  split <;> simp

end

/-- **In every message of at most 65535 bytes that gets to the loop over the attributes, the loop moves on
in every round, and it ends.** Other messages do not get to the loop. -/
theorem positions_increase (c : Crypto) (d : List UInt8) (hlen : d.length ≤ 65535) :
    (¬ HeaderFits d → parse c d = .ok none) ∧
      (HeaderFits d →
        (∀ a b, Relation.ReflTransGen (Goes d) (20, Scan.start d) a → Goes d a b → a.1 < b.1) ∧
        ∀ fuel, d.length < 20 + fuel → attributes d fuel 20 (Scan.start d) ≠ .error .loops) ∧
      parse c d ≠ .error .loops := by
  refine ⟨parse_no_header, fun h => ⟨fun a b _ hgoes => (lt_of_goes h hlen hgoes).1,
    fun fuel hfuel => attributes_ends h hlen hfuel⟩, ?_⟩
  by_cases h : HeaderFits d
  · rw [parse_eq hlen h]
    split
    · split <;> simp
    · simp
  · rw [parse_no_header h]
    simp

theorem positions_increase_usernameAndIntegrity :
    ∃ b, Goes (usernameAndIntegrity (List.replicate 20 9))
      (20, Scan.start (usernameAndIntegrity (List.replicate 20 9))) b ∧ 20 < b.1 ∧
      parse sampleCrypto (usernameAndIntegrity (List.replicate 20 9)) ≠ .error .loops := by
  obtain ⟨-, hprogress, hends⟩ := positions_increase sampleCrypto
    (usernameAndIntegrity (List.replicate 20 9)) (by decide)
  have hgoes : Goes (usernameAndIntegrity (List.replicate 20 9))
      (20, Scan.start (usernameAndIntegrity (List.replicate 20 9))) (28, _) := ⟨by decide, rfl⟩
  exact ⟨_, hgoes, (hprogress ⟨rfl, by decide, by decide⟩).1 _ _ .refl hgoes, hends⟩

end KoreWebsocket.Stun
