import Mathlib
import KoreWebsocket.Lib.Machine

/-!
# Extended sequence numbers (`RTC::RtpStream`, `RTC::RtpStreamRecv`, `mediasoup_1/soup`)

A stream counts the cycles of its 16-bit sequence numbers in `cycles`, and gives every packet that it
accepts the number `cycles + seq`. The counter is that of the highest packet so far, so a packet from
before a wrap that arrives or is retransmitted after it gets a number that is one cycle too high
(`late_packet_gets_next_cycle`); and two packets in a row behind a large jump reset the counter. In
every run in which neither happens, the numbers are the true ones up to one multiple of 2^16
(`extended_numbers_without_late_wraps`).
-/

namespace KoreWebsocket.Rtp

/-! ## The stream -/

def minSequential : UInt32 := 0
def maxDropout : Nat := 3000
def maxMisorder : Nat := 100
def rtpSeqMod : Nat := 65536

/-- `class RtpStream`. -/
structure RtpStream where
  started : Bool := false
  maxSeq : UInt16 := 0
  cycles : UInt32 := 0
  baseSeq : UInt32 := 0
  badSeq : UInt32 := 0
  probation : UInt32 := 0
  received : UInt32 := 0
  expectedPrior : UInt32 := 0
  receivedPrior : UInt32 := 0
  maxTimestamp : UInt32 := 0

namespace RtpStream

variable (s : RtpStream)

/-- `RtpStream::InitSeq`. -/
def initSeq (seq : UInt16) : RtpStream :=
  { s with
    baseSeq := seq.toUInt32, maxSeq := seq, badSeq := UInt32.ofNat (rtpSeqMod + 1), cycles := 0
    received := 0, receivedPrior := 0, expectedPrior := 0, maxTimestamp := 0 }

/-- The packet is counted and accepted. -/
def accept : RtpStream × Bool := ({ s with received := s.received + 1 }, true)

/-- `RtpStream::UpdateSeq`. -/
def updateSeq (seq : UInt16) : RtpStream × Bool :=
  let udelta := (seq - s.maxSeq).toNat
  if s.probation ≠ 0 then
    if seq.toNat = s.maxSeq.toNat + 1 then
      let s := { s with probation := s.probation - 1, maxSeq := seq }
      if s.probation = 0 then (s.initSeq seq).accept else (s, false)
    else ({ s with probation := minSequential - 1, maxSeq := seq }, false)
  else if udelta < maxDropout then
    let cycles := if seq < s.maxSeq then s.cycles + UInt32.ofNat rtpSeqMod else s.cycles
    { s with cycles, maxSeq := seq }.accept
  else if udelta ≤ rtpSeqMod - maxMisorder then
    if seq.toUInt32 = s.badSeq then (s.initSeq seq).accept
    else ({ s with badSeq := (seq + 1).toUInt32 }, false)
  else s.accept

/-- What `ReceivePacket` does before `UpdateSeq` when this is the first packet. -/
def start (seq : UInt16) : RtpStream :=
  if s.started then s
  else { s.initSeq seq with started := true, maxSeq := seq - 1, probation := minSequential }

/-- `RtpStream::ReceivePacket`: the extended sequence number that is set into the packet, if it is
accepted. -/
def receivePacket (seq : UInt16) (timestamp : UInt32) : RtpStream × Option UInt32 :=
  let (s, valid) := (s.start seq).updateSeq seq
  if valid then
    ({ s with maxTimestamp := if timestamp > s.maxTimestamp then timestamp else s.maxTimestamp },
      some (s.cycles + seq.toUInt32))
  else (s, none)

/-- `RtpStreamRecv::ReceiveRtxPacket`: the number that is set into the recovered packet. -/
def receiveRtxPacket (seq : UInt16) : UInt32 := s.cycles + seq.toUInt32

end RtpStream

/-! ## Runs -/

/-- Packets are numbered without end, and the sequence number is the low half of that. -/
def seqOf (index : Nat) : UInt16 := UInt16.ofNat index

/-- What a stream receives. -/
inductive Arrival
  | packet (index : Nat) (timestamp : UInt32)
  | rtx (index : Nat)
  deriving DecidableEq

/-- A stream, the highest packet that it has accepted, and the numbers that it has given. -/
structure Receipt where
  stream : RtpStream := {}
  highest : Nat := 0
  numbers : List (Nat × UInt32) := []

namespace Receipt

/-- A packet or a retransmission arrives. -/
def arrive (r : Receipt) : Arrival → Receipt
  | .packet index timestamp =>
      match r.stream.receivePacket (seqOf index) timestamp with
      | (stream, none) => { r with stream }
      | (stream, some number) =>
          { stream, highest := if r.stream.started then max r.highest index else index
            numbers := (index, number) :: r.numbers }
  | .rtx index =>
      { r with numbers := (index, r.stream.receiveRtxPacket (seqOf index)) :: r.numbers }

/-- All the numbers are those of the packets, plus one multiple of 2^16. -/
def Exact (r : Receipt) : Prop :=
  ∃ c : UInt32, ∀ n ∈ r.numbers, n.2 = UInt32.ofNat n.1 + 65536 * c

end Receipt

/-- The numbers of the packets in the order in which they arrive are those of consecutive packets, of
which runs shorter than `maxDropout` are dropped, some are there more than once, and each comes fewer
than `maxMisorder` places late. -/
structure Reordered (stream : List Nat) : Prop where
  drops : ∀ a ∈ stream, (∃ b ∈ stream, a < b) → ∃ b ∈ stream, a < b ∧ b < a + 1 + maxDropout
  delays : ∃ places : List Nat, places.length = stream.length ∧ places.Pairwise (· ≤ ·) ∧
    ∀ p ∈ stream.zip places, p.1 ≤ p.2 ∧ p.2 < p.1 + maxMisorder

/-- The cycle of a packet. -/
def cycleOf (index : Nat) : Nat := index / rtpSeqMod

/-- A packet is in order with a permissible gap; or it is late, but fewer than `maxMisorder` behind the
highest and of its cycle; or it is ignored and does not reset the stream. A retransmission is of the
cycle of the highest packet. -/
def Timely (r : Receipt) : Arrival → Prop
  | .packet index _ =>
      r.stream.started = false ∨ (r.highest ≤ index ∧ index < r.highest + maxDropout) ∨
        (index < r.highest ∧ r.highest < index + maxMisorder ∧ cycleOf index = cycleOf r.highest) ∨
        (maxDropout ≤ (seqOf index - r.stream.maxSeq).toNat ∧
          (seqOf index - r.stream.maxSeq).toNat ≤ rtpSeqMod - maxMisorder ∧
          (seqOf index).toUInt32 ≠ r.stream.badSeq)
  | .rtx index => r.stream.started = true ∧ cycleOf index = cycleOf r.highest

/-! ## Sequence numbers of indexes -/

/-- The extended number behind one that is not the last has not wrapped. -/
theorem toNat_add_one {seq32 : UInt32} (h : seq32.toNat + 1 < 2 ^ 32) :
    (seq32 + 1).toNat = seq32.toNat + 1 := by
  rw [UInt32.toNat_add, UInt32.toNat_one, Nat.mod_eq_of_lt h]

/-- A number is its cycle and its sequence number. -/
theorem cycle_add_seq (i : Nat) :
    UInt32.ofNat (rtpSeqMod * cycleOf i) + (seqOf i).toUInt32 = UInt32.ofNat i := by
  apply UInt32.toNat_inj.1
  rw [UInt32.toNat_add, UInt32.toNat_ofNat', UInt32.toNat_ofNat', UInt16.toNat_toUInt32, seqOf,
    UInt16.toNat_ofNat']
  simp only [rtpSeqMod, cycleOf]
  omega

/-- The distance to a later packet. -/
theorem toNat_seqOf_sub {m i : Nat} (h : m ≤ i) : (seqOf i - seqOf m).toNat = (i - m) % 65536 := by
  rw [UInt16.toNat_sub, seqOf, seqOf, UInt16.toNat_ofNat', UInt16.toNat_ofNat']
  omega

/-- The distance to a packet that is late. -/
theorem toNat_seqOf_sub_late {m i : Nat} (h : i < m) (h' : m < i + maxMisorder) :
    (seqOf i - seqOf m).toNat = rtpSeqMod - (m - i) := by
  rw [maxMisorder] at h'
  rw [UInt16.toNat_sub, seqOf, seqOf, UInt16.toNat_ofNat', UInt16.toNat_ofNat', rtpSeqMod]
  omega

/-- The sequence numbers are compared within a cycle. -/
theorem seqOf_lt_seqOf {m i : Nat} : seqOf i < seqOf m ↔ i % 65536 < m % 65536 := by
  rw [UInt16.lt_iff_toNat_lt, seqOf, seqOf, UInt16.toNat_ofNat', UInt16.toNat_ofNat']

/-- The counter follows the highest packet over a wrap. -/
theorem cycles_next {m i : Nat} (h : m ≤ i) (h' : i < m + maxDropout) (c : UInt32) :
    (if seqOf i < seqOf m then UInt32.ofNat (rtpSeqMod * cycleOf m) + c + UInt32.ofNat rtpSeqMod
      else UInt32.ofNat (rtpSeqMod * cycleOf m) + c) = UInt32.ofNat (rtpSeqMod * cycleOf i) + c := by
  rw [maxDropout] at h'
  simp only [seqOf_lt_seqOf, rtpSeqMod, cycleOf]
  split
  case isTrue hlt =>
    have hcycle : i / 65536 = m / 65536 + 1 := by omega
    have hadd : UInt32.ofNat (65536 * (m / 65536 + 1)) =
        UInt32.ofNat (65536 * (m / 65536)) + UInt32.ofNat 65536 := by
      rw [← UInt32.ofNat_add, Nat.mul_succ]
    rw [hcycle, hadd]
    grind
  case isFalse hlt =>
    have hcycle : i / 65536 = m / 65536 := by omega
    rw [hcycle]

/-! ## One packet -/

/-- What `cycles` is too high by: a wrap that is counted for the first packet. -/
def extra (first : UInt16) : UInt32 := if first = 0 then 65536 else 0

namespace RtpStream

variable {s : RtpStream} {m i : Nat}

/-- In order, with a permissible gap. -/
theorem updateSeq_next (hprobation : s.probation = 0) (hmax : s.maxSeq = seqOf m) (h : m ≤ i)
    (h' : i < m + maxDropout) :
    s.updateSeq (seqOf i) = { s with
      cycles := if seqOf i < seqOf m then s.cycles + UInt32.ofNat rtpSeqMod else s.cycles
      maxSeq := seqOf i }.accept := by
  have hdelta : (seqOf i - seqOf m).toNat < maxDropout := by
    rw [toNat_seqOf_sub h]
    rw [maxDropout] at h' ⊢
    omega
  unfold updateSeq
  simp only [hprobation, ne_eq, not_true_eq_false, if_false, hmax, hdelta, if_true]

/-- Late, but not too late. -/
theorem updateSeq_late (hprobation : s.probation = 0) (hmax : s.maxSeq = seqOf m) (h : i < m)
    (h' : m < i + maxMisorder) : s.updateSeq (seqOf i) = s.accept := by
  have hdelta := toNat_seqOf_sub_late h h'
  rw [← hmax] at hdelta
  rw [maxMisorder] at h'
  have hnext : ¬ rtpSeqMod - (m - i) < maxDropout := by
    rw [rtpSeqMod, maxDropout]
    omega
  have hjump : ¬ rtpSeqMod - (m - i) ≤ rtpSeqMod - maxMisorder := by
    rw [rtpSeqMod, maxMisorder]
    omega
  unfold updateSeq
  simp only [hprobation, ne_eq, not_true_eq_false, if_false, hdelta, hnext, hjump]

/-- A large jump that does not reset the stream. -/
theorem updateSeq_ignored {seq : UInt16} (hprobation : s.probation = 0)
    (h : maxDropout ≤ (seq - s.maxSeq).toNat) (h' : (seq - s.maxSeq).toNat ≤ rtpSeqMod - maxMisorder)
    (hbad : seq.toUInt32 ≠ s.badSeq) :
    s.updateSeq seq = ({ s with badSeq := (seq + 1).toUInt32 }, false) := by
  unfold updateSeq
  simp only [hprobation, ne_eq, not_true_eq_false, if_false, Nat.not_lt.2 h, h', if_true, hbad]

/-- What a packet does to a stream whose source is valid: it is in order with a permissible gap, it resets
the stream, it is ignored, or it is late. -/
theorem updateSeq_cases (hprobation : s.probation = 0) (seq : UInt16) :
    ((seq - s.maxSeq).toNat < maxDropout ∧ s.updateSeq seq = { s with
      cycles := if seq < s.maxSeq then s.cycles + UInt32.ofNat rtpSeqMod else s.cycles
      maxSeq := seq }.accept) ∨
    ((maxDropout ≤ (seq - s.maxSeq).toNat ∧ (seq - s.maxSeq).toNat ≤ rtpSeqMod - maxMisorder) ∧
      seq.toUInt32 = s.badSeq ∧ s.updateSeq seq = (s.initSeq seq).accept) ∨
    ((maxDropout ≤ (seq - s.maxSeq).toNat ∧ (seq - s.maxSeq).toNat ≤ rtpSeqMod - maxMisorder) ∧
      seq.toUInt32 ≠ s.badSeq ∧ s.updateSeq seq = ({ s with badSeq := (seq + 1).toUInt32 }, false)) ∨
    (rtpSeqMod - maxMisorder < (seq - s.maxSeq).toNat ∧ s.updateSeq seq = s.accept) := by
  have hdropout : maxDropout ≤ rtpSeqMod - maxMisorder := by decide
  rcases Nat.lt_or_ge (seq - s.maxSeq).toNat maxDropout with hnext | hfar
  · refine .inl ⟨hnext, ?_⟩
    unfold updateSeq
    simp only [hprobation, ne_eq, not_true_eq_false, if_false, hnext, if_true]
  rcases Nat.lt_or_ge (rtpSeqMod - maxMisorder) (seq - s.maxSeq).toNat with hlate | hjump
  · refine .inr (.inr (.inr ⟨hlate, ?_⟩))
    unfold updateSeq
    simp only [hprobation, ne_eq, not_true_eq_false, if_false, Nat.not_lt.2 hfar, Nat.not_le.2 hlate]
  by_cases hbad : seq.toUInt32 = s.badSeq
  · refine .inr (.inl ⟨⟨hfar, hjump⟩, hbad, ?_⟩)
    unfold updateSeq
    simp only [hprobation, ne_eq, not_true_eq_false, if_false, Nat.not_lt.2 hfar, hjump, if_true, hbad]
  · exact .inr (.inr (.inl ⟨⟨hfar, hjump⟩, hbad, updateSeq_ignored hprobation hfar hjump hbad⟩))

/-- The first packet is in order, and a wrap is counted if it has the number 0. -/
theorem updateSeq_first (hstarted : s.started = false) (seq : UInt16) :
    (s.start seq).updateSeq seq =
      ({ s.initSeq seq with started := true, probation := 0, cycles := extra seq, received := 1 },
        true) := by
  have hone : (seq - (seq - 1)).toNat = 1 := by
    have heq : seq - (seq - 1) = 1 := by grind
    rw [heq]
    rfl
  have hnext : (1 : Nat) < maxDropout := by decide
  have hwrap : seq < seq - 1 ↔ seq = 0 := by
    have hlt := seq.toNat_lt
    rw [UInt16.lt_iff_toNat_lt, UInt16.toNat_sub, ← UInt16.toNat_inj, UInt16.toNat_one,
      UInt16.toNat_zero]
    omega
  have hcycles : (if seq = 0 then UInt32.ofNat rtpSeqMod else 0) = extra seq := rfl
  rw [start, hstarted]
  unfold updateSeq accept initSeq
  simp only [Bool.false_eq_true, if_false, minSequential, ne_eq, not_true_eq_false, hone, hnext, if_true,
    hwrap, hcycles, UInt32.zero_add]

/-- What an accepted packet does to the stream, and the number that it gets. -/
theorem receivePacket_accepted {seq : UInt16} {t : RtpStream} (timestamp : UInt32)
    (h : (s.start seq).updateSeq seq = (t, true)) :
    s.receivePacket seq timestamp = ({ t with
      maxTimestamp := if timestamp > t.maxTimestamp then timestamp else t.maxTimestamp },
      some (t.cycles + seq.toUInt32)) := by
  unfold receivePacket
  rw [h]
  rfl

/-- A packet that is not taken gets no number. -/
theorem receivePacket_ignored {seq : UInt16} {t : RtpStream} (timestamp : UInt32)
    (h : (s.start seq).updateSeq seq = (t, false)) :
    s.receivePacket seq timestamp = (t, none) := by
  unfold receivePacket
  rw [h]
  rfl

end RtpStream

/-! ## Every run -/

/-- The counter is the cycle of the highest packet, up to the constant that all the numbers have. -/
structure Counting (r : Receipt) (c : UInt32) : Prop where
  started : r.stream.started = true
  probation : r.stream.probation = 0
  maxSeq : r.stream.maxSeq = seqOf r.highest
  cycles : r.stream.cycles = UInt32.ofNat (rtpSeqMod * cycleOf r.highest) + 65536 * c
  numbers : ∀ n ∈ r.numbers, n.2 = UInt32.ofNat n.1 + 65536 * c

/-- Nothing has arrived yet, or the stream counts. -/
def Receipt.Inv (r : Receipt) : Prop :=
  (r.stream.started = false ∧ r.numbers = []) ∨ ∃ c, Counting r c

section
variable {r : Receipt} {c : UInt32} {i : Nat}

/-- A packet of the cycle of the counter gets the right number. -/
theorem number_of_cycle {cycles : UInt32} {m : Nat}
    (h : cycles = UInt32.ofNat (rtpSeqMod * cycleOf m) + 65536 * c) (hcycle : cycleOf i = cycleOf m) :
    cycles + (seqOf i).toUInt32 = UInt32.ofNat i + 65536 * c := by
  rw [h, ← hcycle, ← cycle_add_seq i]
  grind

/-- A stream that has started does not start again. -/
theorem start_of_started (h : r.stream.started = true) (seq : UInt16) :
    r.stream.start seq = r.stream := by
  rw [RtpStream.start, if_pos h]

/-- What an accepted packet does. -/
theorem arrive_accepted {s : RtpStream} (timestamp : UInt32)
    (h : (r.stream.start (seqOf i)).updateSeq (seqOf i) = (s, true)) :
    r.arrive (.packet i timestamp) =
      { stream := { s with
          maxTimestamp := if timestamp > s.maxTimestamp then timestamp else s.maxTimestamp }
        highest := if r.stream.started then max r.highest i else i
        numbers := (i, s.cycles + (seqOf i).toUInt32) :: r.numbers } := by
  rw [Receipt.arrive, RtpStream.receivePacket_accepted timestamp h]

/-- A packet that is not taken leaves what was received. -/
theorem arrive_ignored {s : RtpStream} (timestamp : UInt32)
    (h : (r.stream.start (seqOf i)).updateSeq (seqOf i) = (s, false)) :
    r.arrive (.packet i timestamp) = { r with stream := s } := by
  rw [Receipt.arrive, RtpStream.receivePacket_ignored timestamp h]

/-- The first packet fixes the constant: its cycle is counted as 0, or as 1 if it has the sequence
number 0. -/
theorem exists_counting_first (hstarted : r.stream.started = false) (hnumbers : r.numbers = [])
    (timestamp : UInt32) : ∃ c, Counting (r.arrive (.packet i timestamp)) c := by
  have hstart : r.stream.start (seqOf i) = { r.stream.initSeq (seqOf i) with
      started := true, maxSeq := seqOf i - 1, probation := minSequential } := by
    rw [RtpStream.start, hstarted]
    rfl
  have hone : (seqOf i - (seqOf i - 1)).toNat < maxDropout := by
    have heq : seqOf i - (seqOf i - 1) = 1 := by grind
    rw [heq]
    decide
  obtain ⟨b, hb⟩ : ∃ b : UInt32, (if seqOf i < seqOf i - 1 then
      (0 : UInt32) + UInt32.ofNat rtpSeqMod else 0) = 65536 * b := by
    split
    · exact ⟨1, by decide⟩
    · exact ⟨0, by decide⟩
  have hupdate := arrive_accepted (r := r) (i := i) timestamp (s := { r.stream.initSeq (seqOf i) with
      started := true, probation := minSequential, cycles := 65536 * b, received := 0 + 1 }) (by
    rw [hstart, ← hb]
    unfold RtpStream.updateSeq
    simp only [minSequential, ne_eq, not_true_eq_false, if_false, hone, if_true]
    rfl)
  have hcycles : 65536 * b = UInt32.ofNat (rtpSeqMod * cycleOf i) +
      65536 * (b - UInt32.ofNat (cycleOf i)) := by
    have hmul : UInt32.ofNat (rtpSeqMod * cycleOf i) = 65536 * UInt32.ofNat (cycleOf i) := by
      rw [UInt32.ofNat_mul]
      rfl
    rw [hmul]
    grind
  rw [hupdate]
  refine ⟨b - UInt32.ofNat (cycleOf i), ?_⟩
  exact {
    started := rfl
    probation := rfl
    maxSeq := by simp only [hstarted, Bool.false_eq_true, if_false, RtpStream.initSeq]
    cycles := by simpa only [hstarted, Bool.false_eq_true, if_false] using hcycles
    numbers := by
      intro n hn
      rw [hnumbers] at hn
      rw [List.mem_singleton.1 hn]
      exact number_of_cycle hcycles rfl }

/-- A packet that is in order. -/
theorem Counting.next (h : Counting r c) (hle : r.highest ≤ i) (hlt : i < r.highest + maxDropout)
    (timestamp : UInt32) : Counting (r.arrive (.packet i timestamp)) c := by
  have hstarted := h.started
  have hupdate := RtpStream.updateSeq_next h.probation h.maxSeq hle hlt
  rw [← start_of_started hstarted (seqOf i)] at hupdate
  rw [arrive_accepted timestamp hupdate]
  have hcycles : (if seqOf i < seqOf r.highest then r.stream.cycles + UInt32.ofNat rtpSeqMod
      else r.stream.cycles) = UInt32.ofNat (rtpSeqMod * cycleOf i) + 65536 * c := by
    rw [h.cycles]
    exact cycles_next hle hlt _
  rw [start_of_started hstarted]
  exact {
    started := hstarted
    probation := h.probation
    maxSeq := by simp only [hstarted, if_true, Nat.max_eq_right hle]
    cycles := by simpa only [hstarted, if_true, Nat.max_eq_right hle] using hcycles
    numbers := by
      intro n hn
      rcases List.mem_cons.1 hn with rfl | hn
      · exact number_of_cycle hcycles rfl
      · exact h.numbers n hn }

/-- A late packet of the cycle of the highest. -/
theorem Counting.late (h : Counting r c) (hlt : i < r.highest) (hnear : r.highest < i + maxMisorder)
    (hcycle : cycleOf i = cycleOf r.highest) (timestamp : UInt32) :
    Counting (r.arrive (.packet i timestamp)) c := by
  have hstarted := h.started
  have hupdate := RtpStream.updateSeq_late h.probation h.maxSeq hlt hnear
  rw [← start_of_started hstarted (seqOf i)] at hupdate
  rw [arrive_accepted timestamp hupdate, start_of_started hstarted]
  have hmax : max r.highest i = r.highest := Nat.max_eq_left (Nat.le_of_lt hlt)
  exact {
    started := hstarted
    probation := h.probation
    maxSeq := by simp only [hstarted, if_true, hmax]; exact h.maxSeq
    cycles := by simp only [hstarted, if_true, hmax]; exact h.cycles
    numbers := by
      intro n hn
      rcases List.mem_cons.1 hn with rfl | hn
      · exact number_of_cycle h.cycles hcycle
      · exact h.numbers n hn }

/-- A jump that is ignored changes `badSeq` only. -/
theorem Counting.ignored (h : Counting r c) (hjump : maxDropout ≤ (seqOf i - r.stream.maxSeq).toNat)
    (hjump' : (seqOf i - r.stream.maxSeq).toNat ≤ rtpSeqMod - maxMisorder)
    (hbad : (seqOf i).toUInt32 ≠ r.stream.badSeq) (timestamp : UInt32) :
    Counting (r.arrive (.packet i timestamp)) c := by
  have hupdate := RtpStream.updateSeq_ignored h.probation hjump hjump' hbad
  rw [← start_of_started h.started (seqOf i)] at hupdate
  rw [arrive_ignored timestamp hupdate, start_of_started h.started]
  exact ⟨h.started, h.probation, h.maxSeq, h.cycles, h.numbers⟩

/-- A retransmission of a packet of the cycle of the highest. -/
theorem Counting.rtx (h : Counting r c) (hcycle : cycleOf i = cycleOf r.highest) :
    Counting (r.arrive (.rtx i)) c := by
  refine ⟨h.started, h.probation, h.maxSeq, h.cycles, ?_⟩
  intro n hn
  rcases List.mem_cons.1 hn with rfl | hn
  · exact number_of_cycle h.cycles hcycle
  · exact h.numbers n hn

end

/-- Every timely arrival keeps the count. -/
theorem Receipt.Inv.arrive {r : Receipt} (h : r.Inv) {a : Arrival} (ha : Timely r a) :
    (r.arrive a).Inv := by
  rcases h with ⟨hstarted, hnumbers⟩ | ⟨c, hc⟩
  · cases a with
    | packet i timestamp => exact .inr (exists_counting_first hstarted hnumbers timestamp)
    | rtx i => exact absurd (ha.1.symm.trans hstarted) Bool.noConfusion
  · refine .inr ⟨c, ?_⟩
    cases a with
    | packet i timestamp =>
        rcases ha with hfirst | ⟨hle, hlt⟩ | ⟨hlt, hnear, hcycle⟩ | ⟨hjump, hjump', hbad⟩
        · exact absurd (hc.started.symm.trans hfirst) Bool.noConfusion
        · exact hc.next hle hlt timestamp
        · exact hc.late hlt hnear hcycle timestamp
        · exact hc.ignored hjump hjump' hbad timestamp
    | rtx i => exact hc.rtx ha.2

/-- The numbers that were given are those of the packets. -/
theorem Receipt.Inv.exact {r : Receipt} (h : r.Inv) : r.Exact := by
  rcases h with ⟨-, hnumbers⟩ | ⟨c, hc⟩
  · refine ⟨0, ?_⟩
    rw [hnumbers]
    exact List.forall_mem_nil _
  · exact ⟨c, hc.numbers⟩

/-- The stream as a machine: nothing that arrives is refused. -/
def receive (r : Receipt) (a : Arrival) : Option Receipt := some (r.arrive a)

/-- In every run in which every arrival is timely, the extended numbers are at all times the true ones up
to one multiple of 2^16. -/
theorem extended_numbers_without_late_wraps (arrivals : List Arrival)
    (h : Machine.Meets receive Timely {} arrivals) :
    Machine.Always receive Receipt.Exact {} arrivals := by
  rintro before r ⟨after, rfl⟩ hr
  have hinv : Receipt.Inv {} := .inl ⟨rfl, rfl⟩
  refine (Machine.exec_inv_of_meets ?_ h.of_append hr hinv).exact
  intro r a r' hr ha hstep
  cases hstep
  exact hr.arrive ha

/-- A run over a wrap, with a gap, a late packet, a duplicate and a retransmission. -/
theorem extended_numbers_over_wrap :
    Machine.Always receive Receipt.Exact {}
      [.packet 65530 0, .packet 65535 1, .packet 65533 1, .packet 65537 2, .packet 65537 2,
        .packet 65536 2, .rtx 65536] := by
  apply extended_numbers_without_late_wraps
  have hfirst : Timely {} (.packet 65530 0) := .inl rfl
  refine .cons hfirst rfl ?_
  refine .cons (.inr (.inl (by decide))) rfl ?_
  refine .cons (.inr (.inr (.inl (by decide)))) rfl ?_
  refine .cons (.inr (.inl (by decide))) rfl ?_
  refine .cons (.inr (.inl (by decide))) rfl ?_
  refine .cons (.inr (.inr (.inl (by decide)))) rfl ?_
  exact .cons ⟨rfl, by decide⟩ rfl trivial

/-- The packet 65535 comes one place late, after 65536, and gets the number of a packet that is a cycle
higher. -/
theorem late_packet_gets_next_cycle : Reordered [65534, 65536, 65535] ∧
    ∃ r, Machine.exec receive {} [.packet 65534 0, .packet 65536 0, .packet 65535 0] = some r ∧
      ¬ r.Exact := by
  have hplaces : [65534, 65536, 65536].Pairwise (· ≤ ·) := by decide
  refine ⟨⟨by decide, [65534, 65536, 65536], rfl, hplaces, by decide⟩, _, rfl, ?_⟩
  rintro ⟨c, hc⟩
  have hlate : (131071 : UInt32) = UInt32.ofNat 65535 + 65536 * c := hc (65535, _) (.head _)
  have hwrap : (65536 : UInt32) = UInt32.ofNat 65536 + 65536 * c := hc (65536, _) (.tail _ (.head _))
  have hzero : 65536 * c = 0 := by
    simpa using hwrap
  rw [hzero] at hlate
  exact absurd hlate (by decide)

end KoreWebsocket.Rtp
