import KoreWebsocket.Rtcp.ReceiverReport
import KoreWebsocket.Rtp.Stream

/-!
# Receiver reports of a stream (`RTC::RtpStreamRecv`, `mediasoup_1/soup`)

`GetRtcpReceiverReport` computes what was lost from four counters. A stream that has not received
anything expects one packet, so a report from before the first packet says that it is lost; and the first
packet of a stream is counted as a wrap if its sequence number is 0, since `maxSeq` is the number before
it. Otherwise a stream without loss has reports without loss (`loss_accounting_iff`), and the fraction
that is lost fits its byte (`fraction_fits_iff`).
-/

namespace KoreWebsocket.Rtp

open Rtcp (Header)
open Rtcp.ReceiverReport

/-! ## The counters -/

namespace RtpStream

variable (s : RtpStream)

/-- The packets that are expected, from the first to the highest. -/
def expected : UInt32 := (s.cycles + s.maxSeq.toUInt32) - s.baseSeq + 1

def totalLost : Int32 := (s.expected - s.received).toInt32
def expectedInterval : UInt32 := s.expected - s.expectedPrior
def receivedInterval : UInt32 := s.received - s.receivedPrior
def lostInterval : Int32 := (s.expectedInterval - s.receivedInterval).toInt32

/-- A division, which is not defined for 0. -/
def divide (a b : UInt32) : Option UInt32 := if b = 0 then none else some (a / b)

/-- `(lostInterval << 8) / expectedInterval`, in a byte. -/
def fractionLost : Option UInt8 :=
  if s.expectedInterval = 0 ∨ s.lostInterval ≤ 0 then some 0
  else (divide (s.lostInterval <<< 8).toUInt32 s.expectedInterval).map UInt32.toUInt8

/-- The counters after a report. -/
def reported : RtpStream := { s with expectedPrior := s.expected, receivedPrior := s.received }

end RtpStream

/-- `RtpStreamRecv`. The jitter is computed in floating point, and is given with each packet. -/
structure RtpStreamRecv where
  stream : RtpStream := {}
  jitter : UInt32 := 0
  lastSrTimestamp : UInt32 := 0
  lastSrReceived : UInt64 := 0

namespace RtpStreamRecv

variable (recv : RtpStreamRecv)

/-- `RtpStreamRecv::ReceivePacket`. -/
def receivePacket (seq : UInt16) (timestamp jitter : UInt32) : RtpStreamRecv × Bool :=
  match recv.stream.receivePacket seq timestamp with
  | (stream, some _) => ({ recv with stream, jitter }, true)
  | (stream, none) => ({ recv with stream }, false)

/-- `RtpStreamRecv::ReceiveRtcpSenderReport`. -/
def receiveRtcpSenderReport (ntpSec ntpFrac : UInt32) (now : UInt64) : RtpStreamRecv :=
  { recv with lastSrReceived := now, lastSrTimestamp := (ntpSec <<< 16) + (ntpFrac >>> 16) }

/-- The delay since the last sender report, in units of 1/65536 seconds. -/
def dlsr (now : UInt64) : UInt32 :=
  let delayMs := (now - recv.lastSrReceived).toUInt32
  ((delayMs / 1000) <<< 16) ||| (delayMs % 1000 * 65536 / 1000)

/-- The fields of a report behind the loss. -/
def fillReport (now : UInt64) (report : Header 24) : Header 24 :=
  let report := setLastSeq report (recv.stream.maxSeq.toUInt32 + recv.stream.cycles)
  let report := setJitter report recv.jitter
  if recv.lastSrReceived ≠ 0 then
    setLastSenderReport (setDelaySinceLastSenderReport report (recv.dlsr now)) recv.lastSrTimestamp
  else setLastSenderReport (setDelaySinceLastSenderReport report 0) 0

/-- `RtpStreamRecv::GetRtcpReceiverReport`, unless it does something that is not defined. -/
def getRtcpReceiverReport (now : UInt64) : RtpStreamRecv × Option (Header 24) :=
  let report := do
    let report ← setTotalLost new recv.stream.totalLost
    let fractionLost ← recv.stream.fractionLost
    return recv.fillReport now (setFractionLost report fractionLost)
  ({ recv with stream := recv.stream.reported }, report)

/-- The loss that a report says. -/
theorem getRtcpReceiverReport_loss (now : UInt64) {fractionLost : UInt8}
    (hmin : recv.stream.totalLost ≠ Int32.minValue) (hfraction : recv.stream.fractionLost = some fractionLost) :
    ∃ report, (recv.getRtcpReceiverReport now).2 = some report ∧
      (getTotalLost report).toInt = clamped recv.stream.totalLost ∧
      getFractionLost report = fractionLost := by
  obtain ⟨report, hset, htotal⟩ := getTotalLost_setTotalLost new hmin
  have hfill : ∀ report, getTotalLost (recv.fillReport now report) = getTotalLost report ∧
      getFractionLost (recv.fillReport now report) = getFractionLost report := by
    intro report
    unfold fillReport setLastSenderReport setDelaySinceLastSenderReport setJitter setLastSeq
    dsimp only
    split <;> exact ⟨by simp only [loss_put4Bytes, Nat.reduceLeDiff], by
      simp only [loss_put4Bytes, Nat.reduceLeDiff]⟩
  refine ⟨recv.fillReport now (setFractionLost report fractionLost), ?_, ?_, ?_⟩
  · simp only [getRtcpReceiverReport, hset, hfraction]
    rfl
  · rw [(hfill _).1, getTotalLost_setFractionLost, htotal]
  · rw [(hfill _).2, getFractionLost_setFractionLost]

end RtpStreamRecv

/-! ## A stream without loss -/

/-- What happens to a stream that gets every packet once and in order. -/
inductive Delivered
  | packet (timestamp jitter : UInt32)
  | senderReport (ntpSec ntpFrac : UInt32) (now : UInt64)
  | report (now : UInt64)

/-- A report, the number of packets that have been received before it and the number that it expects. -/
structure TakenReport where
  packets : Nat
  expected : UInt32
  report : Option (Header 24)

/-- The report says that nothing is lost, and expects what has been received. -/
def TakenReport.Right (t : TakenReport) : Prop :=
  t.expected.toNat = t.packets ∧
    ∃ report, t.report = some report ∧ getTotalLost report = 0 ∧ getFractionLost report = 0

/-- A stream, the packets that it has received, and the reports that it has given. -/
structure Delivery where
  recv : RtpStreamRecv := {}
  packets : Nat := 0
  reports : List TakenReport := []

namespace Delivery

/-- One more event. The packets are numbered from the first sequence number on. -/
def next (first : UInt16) (d : Delivery) : Delivered → Delivery
  | .packet timestamp jitter =>
      { d with
        recv := (d.recv.receivePacket (seqOf (first.toNat + d.packets)) timestamp jitter).1
        packets := d.packets + 1 }
  | .senderReport ntpSec ntpFrac now =>
      { d with recv := d.recv.receiveRtcpSenderReport ntpSec ntpFrac now }
  | .report now =>
      let (recv, report) := d.recv.getRtcpReceiverReport now
      { d with
        recv
        reports := { packets := d.packets, expected := d.recv.stream.expected, report } :: d.reports }

/-- The stream after events. -/
def run (first : UInt16) (events : List Delivered) : Delivery := events.foldl (next first) {}

/-- Nothing has been received: the counters are those of a new stream, but for the reports. -/
structure Fresh (s : RtpStream) : Prop where
  started : s.started = false
  counters : s.maxSeq = 0 ∧ s.cycles = 0 ∧ s.baseSeq = 0 ∧ s.received = 0 ∧ s.receivedPrior = 0

/-- The packets before `n` have been received, and the last report was taken behind `m` of them. -/
structure Counted (first : UInt16) (n m : Nat) (s : RtpStream) : Prop where
  started : s.started = true
  probation : s.probation = 0
  pos : 0 < n
  le : m ≤ n
  maxSeq : s.maxSeq = seqOf (first.toNat + (n - 1))
  cycles : s.cycles = UInt32.ofNat (rtpSeqMod * cycleOf (first.toNat + (n - 1))) + extra first
  baseSeq : s.baseSeq = first.toUInt32
  received : s.received = UInt32.ofNat n
  receivedPrior : s.receivedPrior = UInt32.ofNat m
  expectedPrior : s.expectedPrior = if m = 0 then 0 else UInt32.ofNat m + extra first

/-- The number of expected packets, with the cycles that started early. -/
theorem Counted.expected {first : UInt16} {n m : Nat} {s : RtpStream} (h : Counted first n m s) :
    s.expected = UInt32.ofNat n + extra first := by
  have hnumber := cycle_add_seq (first.toNat + (n - 1))
  have hpos := h.pos
  have hindex : UInt32.ofNat (first.toNat + (n - 1)) + 1 = first.toUInt32 + UInt32.ofNat n := by
    apply UInt32.toNat_inj.1
    simp only [UInt32.toNat_add, UInt32.toNat_ofNat', UInt16.toNat_toUInt32]
    change ((first.toNat + (n - 1)) % 2 ^ 32 + 1) % 2 ^ 32 = _
    omega
  rw [RtpStream.expected, h.cycles, h.maxSeq, h.baseSeq]
  grind

/-- What an accepted packet does to the stream. -/
theorem receivePacket_accepted {recv : RtpStreamRecv} {s : RtpStream} {seq : UInt16}
    (timestamp jitter : UInt32) (h : (recv.stream.start seq).updateSeq seq = (s, true)) :
    (recv.receivePacket seq timestamp jitter).1.stream =
      { s with maxTimestamp := if timestamp > s.maxTimestamp then timestamp else s.maxTimestamp } := by
  rw [RtpStreamRecv.receivePacket, RtpStream.receivePacket_accepted timestamp h]

section
variable {first : UInt16} {n m : Nat} {s : RtpStream} {recv : RtpStreamRecv}

/-- The first packet is counted. -/
theorem Fresh.packet (h : Fresh recv.stream) (timestamp jitter : UInt32) :
    Counted first 1 0 (recv.receivePacket (seqOf first.toNat) timestamp jitter).1.stream := by
  have hseq : seqOf first.toNat = first := UInt16.ofNat_toNat
  have hcycle : cycleOf (first.toNat + (1 - 1)) = 0 := Nat.div_eq_of_lt first.toNat_lt
  rw [receivePacket_accepted timestamp jitter (RtpStream.updateSeq_first h.started (seqOf first.toNat)), hseq]
  exact {
    started := rfl
    probation := rfl
    pos := Nat.one_pos
    le := Nat.zero_le _
    maxSeq := hseq.symm
    cycles := by
      rw [hcycle]
      exact (UInt32.zero_add _).symm
    baseSeq := rfl
    received := rfl
    receivedPrior := rfl
    expectedPrior := rfl }

/-- The next packet is counted. -/
theorem Counted.packet (h : Counted first n m recv.stream) (timestamp jitter : UInt32) :
    Counted first (n + 1) m
      (recv.receivePacket (seqOf (first.toNat + n)) timestamp jitter).1.stream := by
  have hpos := h.pos
  have hle : first.toNat + (n - 1) ≤ first.toNat + n := by omega
  have hlt : first.toNat + n < first.toNat + (n - 1) + maxDropout := by
    rw [maxDropout]
    omega
  have hstart : recv.stream.start (seqOf (first.toNat + n)) = recv.stream := if_pos h.started
  have hupdate := RtpStream.updateSeq_next h.probation h.maxSeq hle hlt
  have hcycles := cycles_next hle hlt (extra first)
  rw [← hstart] at hupdate
  rw [← h.cycles] at hcycles
  rw [receivePacket_accepted timestamp jitter hupdate, hstart]
  exact {
    started := h.started
    probation := h.probation
    pos := Nat.succ_pos n
    le := h.le.trans (Nat.le_succ n)
    maxSeq := rfl
    cycles := hcycles
    baseSeq := h.baseSeq
    received := by
      change recv.stream.received + 1 = _
      rw [h.received, UInt32.ofNat_add]
      rfl
    receivedPrior := h.receivedPrior
    expectedPrior := h.expectedPrior }

/-- A report before the first packet leaves the stream fresh. -/
theorem Fresh.report (h : Fresh s) : Fresh s.reported :=
  ⟨h.started, h.counters.1, h.counters.2.1, h.counters.2.2.1, h.counters.2.2.2.1, h.counters.2.2.2.1⟩

/-- A report notes what was counted. -/
theorem Counted.report (h : Counted first n m s) : Counted first n n s.reported :=
  { h with
    le := Nat.le_refl n
    receivedPrior := h.received
    expectedPrior := by
      rw [if_neg h.pos.ne']
      exact h.expected }

/-! ### The reports -/

/-- Without a packet one is expected. -/
theorem Fresh.expected (h : Fresh s) : s.expected = 1 := by
  obtain ⟨hmaxSeq, hcycles, hbaseSeq, -⟩ := h.counters
  rw [RtpStream.expected, hmaxSeq, hcycles, hbaseSeq]
  rfl

/-- A report is right if a packet has been received and the first one did not look like a wrap. -/
theorem Counted.right (h : Counted first n m recv.stream) (hn : n < 2 ^ 32) (now : UInt64) :
    TakenReport.Right ⟨n, recv.stream.expected, (recv.getRtcpReceiverReport now).2⟩ ↔ first ≠ 0 := by
  have hexpected := h.expected
  constructor
  · rintro ⟨hcount, -⟩ rfl
    rw [hexpected, UInt32.toNat_add, UInt32.toNat_ofNat'] at hcount
    change (n % 2 ^ 32 + 65536) % 2 ^ 32 = n at hcount
    omega
  · intro hfirst
    have hextra : extra first = 0 := if_neg hfirst
    rw [hextra, UInt32.add_zero] at hexpected
    have htotal : recv.stream.totalLost = 0 := by
      rw [RtpStream.totalLost, hexpected, h.received, UInt32.sub_self]
      rfl
    have hprior : recv.stream.expectedPrior = recv.stream.receivedPrior := by
      rw [h.expectedPrior, h.receivedPrior, hextra, UInt32.add_zero]
      split
      case isTrue hm => rw [hm]; rfl
      case isFalse => rfl
    have hlost : recv.stream.lostInterval = 0 := by
      rw [RtpStream.lostInterval, RtpStream.expectedInterval, RtpStream.receivedInterval, hexpected,
        h.received, hprior, UInt32.sub_self]
      rfl
    have hfraction : recv.stream.fractionLost = some 0 := by
      rw [RtpStream.fractionLost, hlost]
      exact if_pos (.inr (by decide))
    obtain ⟨report, hreport, hloss, hzero⟩ :=
      recv.getRtcpReceiverReport_loss now (by rw [htotal]; decide) hfraction
    refine ⟨?_, report, hreport, ?_, hzero⟩
    · dsimp only
      rw [hexpected, UInt32.toNat_ofNat', Nat.mod_eq_of_lt hn]
    · rw [htotal] at hloss
      exact Int32.toInt_inj.1 hloss

end

/-- The stream of a delivery counts, and its reports are right exactly if they are taken behind a packet
and the first packet did not look like a wrap. -/
structure Sound (first : UInt16) (d : Delivery) : Prop where
  counted : (d.packets = 0 ∧ Fresh d.recv.stream) ∨ ∃ m, Counted first d.packets m d.recv.stream
  right : ∀ t ∈ d.reports, t.packets < 2 ^ 32 → (t.Right ↔ t.packets ≠ 0 ∧ first ≠ 0)
  bounded : ∀ t ∈ d.reports, t.packets ≤ d.packets

/-- Every event keeps the counts. -/
theorem Sound.next {first : UInt16} {d : Delivery} (h : Sound first d) (e : Delivered) :
    Sound first (d.next first e) := by
  cases e with
  | packet timestamp jitter =>
      refine ⟨.inr ?_, h.right, fun t ht => (h.bounded t ht).trans (Nat.le_succ _)⟩
      rcases h.counted with ⟨hzero, hfresh⟩ | ⟨m, hm⟩
      · refine ⟨0, ?_⟩
        have hcounted : Counted first 1 0 _ := hfresh.packet timestamp jitter
        rw [Delivery.next, hzero]
        exact hcounted
      · exact ⟨m, hm.packet timestamp jitter⟩
  | senderReport ntpSec ntpFrac now => exact ⟨h.counted, h.right, h.bounded⟩
  | report now =>
      refine ⟨?_, fun t ht => ?_, fun t ht => ?_⟩
      · rcases h.counted with ⟨hzero, hfresh⟩ | ⟨m, hm⟩
        · exact .inl ⟨hzero, hfresh.report⟩
        · exact .inr ⟨d.packets, hm.report⟩
      · rcases List.mem_cons.1 ht with rfl | ht
        · intro hlt
          rcases h.counted with ⟨hzero, hfresh⟩ | ⟨m, hm⟩
          · refine iff_of_false (fun hright => ?_) fun hne => hne.1 hzero
            have hone := hright.1
            dsimp only at hone
            rw [hfresh.expected, hzero] at hone
            cases hone
          · exact (hm.right hlt now).trans (and_iff_right hm.pos.ne').symm
        · exact h.right t ht
      · rcases List.mem_cons.1 ht with rfl | ht
        · exact Nat.le_refl _
        · exact h.bounded t ht

/-- The counts are right in every run. -/
theorem sound_run (first : UInt16) (events : List Delivered) : Sound first (run first events) := by
  have hstart : ∀ d, Sound first d → Sound first (events.foldl (Delivery.next first) d) := by
    induction events with
    | nil => exact fun d h => h
    | cons e events ih => exact fun d h => ih _ (h.next e)
  exact hstart {} ⟨.inl ⟨rfl, rfl, rfl, rfl, rfl, rfl, rfl⟩, nofun, nofun⟩

/-- All the reports are right. -/
def Right (d : Delivery) : Prop := ∀ t ∈ d.reports, t.Right

/-- **Loss accounting.** A stream starts at any sequence number and gets every packet once and in order,
fewer than 2^32 of them; its reports all say that nothing is lost and expect what has been received,
exactly if they are taken behind the first packet and this has another number than 0. -/
theorem loss_accounting_iff (first : UInt16) (events : List Delivered)
    (h : (run first events).packets < 2 ^ 32) :
    (run first events).Right ↔
      ∀ t ∈ (run first events).reports, t.packets ≠ 0 ∧ first ≠ 0 := by
  have hsound := sound_run first events
  refine forall₂_congr fun t ht => ?_
  exact hsound.right t ht ((hsound.bounded t ht).trans_lt h)

/-- Three packets over a wrap, with reports. -/
theorem loss_accounting_over_wrap :
    (run 65535 [.packet 0 0, .report 0, .packet 1 0, .packet 2 0, .report 0]).Right :=
  (loss_accounting_iff 65535 _ (by decide)).2 (by decide)

/-- A stream that starts at 0 has lost 65536 packets in its first report. -/
theorem stream_from_zero_loses : ∃ t, (run 0 [.packet 0 0, .report 0]).reports = [t] ∧ t.packets = 1 ∧
    t.expected = 65537 ∧ t.report.map getTotalLost = some 65536 ∧ ¬ t.Right := by
  refine ⟨_, rfl, rfl, by decide, by decide, ?_⟩
  rintro ⟨hcount, -⟩
  exact absurd hcount (by decide)

end Delivery

/-! ## The fraction that is lost -/

/-- What happens to a stream. -/
inductive Received
  | packet (seq : UInt16) (timestamp jitter : UInt32)
  | senderReport (ntpSec ntpFrac : UInt32) (now : UInt64)
  | report (now : UInt64)

/-- A stream, and the packets that it has accepted since the last report. -/
structure Interval where
  recv : RtpStreamRecv := {}
  accepted : Nat := 0

namespace Interval

/-- One more event. -/
def next (i : Interval) : Received → Interval
  | .packet seq timestamp jitter =>
      let (recv, accepted) := i.recv.receivePacket seq timestamp jitter
      { recv, accepted := if accepted then i.accepted + 1 else i.accepted }
  | .senderReport ntpSec ntpFrac now =>
      { i with recv := i.recv.receiveRtcpSenderReport ntpSec ntpFrac now }
  | .report now => { recv := (i.recv.getRtcpReceiverReport now).1, accepted := 0 }

/-- The interval after events. -/
def run (events : List Received) : Interval := events.foldl next {}

/-- A report at this point: if packets are expected, one has been accepted since the last report, and the
fraction is at most 255 and is stored as it is. -/
def Fits (i : Interval) : Prop :=
  let s := i.recv.stream
  s.expectedInterval ≠ 0 → 1 ≤ i.accepted ∧ 1 ≤ s.receivedInterval.toNat ∧
    s.lostInterval.toInt * 2 ^ 8 / s.expectedInterval.toNat ≤ 255 ∧
    s.fractionLost.map (fun fraction => (fraction.toNat : Int)) =
      some (max 0 (s.lostInterval.toInt * 2 ^ 8 / s.expectedInterval.toNat))

/-- The counters of the interval: as many packets are counted as received as are accepted, or fewer if the
counters have been reset, and nothing is expected if there is none, unless the stream is new. -/
structure Counts (s : RtpStream) (accepted : Nat) : Prop where
  received : ∃ n ≤ accepted, s.receivedInterval = UInt32.ofNat n ∧
    (n = 0 → s.started = true → s.expectedInterval = 0)
  fresh : s.started = false → s.received = 0 ∧ s.receivedPrior = 0
  probation : s.probation = 0

section
variable {s t : RtpStream} {n accepted : Nat} {seq : UInt16}

/-- A packet that is accepted is counted. -/
theorem Counts.accept (hstarted : t.started = true) (hprobation : t.probation = 0) (hle : n ≤ accepted)
    (hreceived : t.receivedInterval = UInt32.ofNat n) : Counts t.accept.1 (accepted + 1) := by
  refine ⟨⟨n + 1, Nat.succ_le_succ hle, ?_, nofun⟩, fun hfresh => ?_, hprobation⟩
  · have hadd : (t.received + 1) - t.receivedPrior = t.received - t.receivedPrior + 1 := by grind
    rw [UInt32.ofNat_add, ← hreceived]
    exact hadd
  · exact absurd (hstarted.symm.trans hfresh) Bool.noConfusion

/-- The counts after a packet, whichever branch it takes. -/
theorem Counts.updateSeq (h : Counts s accepted) (seq : UInt16) :
    Counts ((s.start seq).updateSeq seq).1
      (if ((s.start seq).updateSeq seq).2 then accepted + 1 else accepted) := by
  cases hstarted : s.started with
  | false =>
      rw [RtpStream.updateSeq_first hstarted]
      exact Counts.accept (t := { s.initSeq seq with
        started := true, probation := 0, cycles := extra seq }) rfl rfl (Nat.zero_le _)
        (UInt32.sub_self 0)
  | true =>
      obtain ⟨n, hle, hreceived, hnone⟩ := h.received
      rw [RtpStream.start, if_pos hstarted]
      rcases RtpStream.updateSeq_cases h.probation seq with
        ⟨-, hnext⟩ | ⟨-, -, hreset⟩ | ⟨-, -, hignored⟩ | ⟨-, hlate⟩
      · rw [hnext]
        exact Counts.accept hstarted h.probation hle hreceived
      · rw [hreset]
        exact Counts.accept (t := s.initSeq seq) hstarted h.probation (Nat.zero_le _) (UInt32.sub_self 0)
      · rw [hignored]
        exact ⟨⟨n, hle, hreceived, hnone⟩, h.fresh, h.probation⟩
      · rw [hlate]
        exact Counts.accept hstarted h.probation hle hreceived

/-- A report begins a new interval. -/
theorem Counts.reported (h : Counts s accepted) : Counts s.reported 0 := by
  refine ⟨⟨0, Nat.le_refl 0, UInt32.sub_self _, fun _ _ => UInt32.sub_self _⟩, fun hfresh => ?_, h.probation⟩
  exact ⟨(h.fresh hfresh).1, (h.fresh hfresh).1⟩

end

/-- Every event keeps the counts of the interval. -/
theorem Counts.next {i : Interval} (h : Counts i.recv.stream i.accepted) (e : Received) :
    Counts (i.next e).recv.stream (i.next e).accepted := by
  cases e with
  | packet seq timestamp jitter =>
      have hupdate := h.updateSeq seq
      unfold Interval.next RtpStreamRecv.receivePacket RtpStream.receivePacket
      rcases hresult : (i.recv.stream.start seq).updateSeq seq with ⟨s, valid⟩
      rw [hresult] at hupdate
      dsimp only
      rw [hresult]
      cases valid with
      | true => exact ⟨hupdate.received, hupdate.fresh, hupdate.probation⟩
      | false => exact hupdate
  | senderReport ntpSec ntpFrac now => exact h
  | report now => exact h.reported

/-- The counts of the interval are right in every run. -/
theorem counts_run (events : List Received) :
    Counts (run events).recv.stream (run events).accepted := by
  have hstart : ∀ i : Interval, Counts i.recv.stream i.accepted →
      Counts (events.foldl Interval.next i).recv.stream (events.foldl Interval.next i).accepted := by
    induction events with
    | nil => exact fun i h => h
    | cons e events ih => exact fun i h => ih _ (h.next e)
  exact hstart {} ⟨⟨0, Nat.le_refl 0, rfl, nofun⟩, fun _ => ⟨rfl, rfl⟩, rfl⟩

/-! ### The division -/

section
variable {s : RtpStream}

/-- A difference of unsigned numbers, read as a signed one. -/
theorem toInt_toInt32_sub (a b : UInt32) :
    (a - b).toInt32.toInt = ((a.toNat : Int) - b.toNat).bmod (2 ^ 32) := by
  change (a - b).toBitVec.toInt = _
  rw [BitVec.toInt_eq_toNat_bmod, UInt32.toNat_toBitVec, UInt32.toNat_sub, Int.bmod_def, Int.bmod_def]
  have ha := a.toNat_lt
  have hb := b.toNat_lt
  omega

/-- The loss of an interval, if it is not as far below 0 as to look positive. -/
theorem toInt_lostInterval (h : s.receivedInterval.toNat ≤ s.expectedInterval.toNat + 2 ^ 31)
    (h' : s.expectedInterval.toNat < s.receivedInterval.toNat + 2 ^ 23) :
    s.lostInterval.toInt = (s.expectedInterval.toNat : Int) - s.receivedInterval.toNat := by
  have hreceived := s.receivedInterval.toNat_lt
  rw [RtpStream.lostInterval, toInt_toInt32_sub, Int.bmod_def]
  omega

/-- If more than 2^31 packets more are received than are expected, the loss looks positive. -/
theorem toInt_lostInterval_of_lt (h : s.expectedInterval.toNat + 2 ^ 31 < s.receivedInterval.toNat) :
    s.lostInterval.toInt = (s.expectedInterval.toNat : Int) - s.receivedInterval.toNat + 2 ^ 32 := by
  have hreceived := s.receivedInterval.toNat_lt
  rw [RtpStream.lostInterval, toInt_toInt32_sub, Int.bmod_def]
  omega

/-- The loss is shifted by a byte, and nothing is lost of it. -/
theorem toNat_shiftLeft_eight {lost : Int32} (h : 0 ≤ lost.toInt) (h' : lost.toInt < 2 ^ 23) :
    (lost <<< 8).toUInt32.toNat = lost.toInt.toNat * 2 ^ 8 := by
  have hnat := toNat_toUInt32 h
  have hamount : (8 : BitVec 32).smod 32 = 8 := by decide
  change (lost <<< 8).toBitVec.toNat = _
  rw [Int32.toBitVec_shiftLeft]
  change (lost.toBitVec <<< ((8 : BitVec 32).smod 32)).toNat = _
  rw [hamount]
  change (lost.toBitVec <<< 8).toNat = _
  rw [BitVec.toNat_shiftLeft, Nat.shiftLeft_eq]
  change lost.toUInt32.toNat * _ % _ = _
  omega

/-- The fraction of an interval in which fewer packets are lost than expected. -/
theorem fractionLost_eq (hexpected : s.expectedInterval ≠ 0)
    (hlost : s.lostInterval.toInt < s.expectedInterval.toNat) (hsmall : s.lostInterval.toInt < 2 ^ 23) :
    s.lostInterval.toInt * 2 ^ 8 / s.expectedInterval.toNat ≤ 255 ∧
      s.fractionLost.map (fun fraction => (fraction.toNat : Int)) =
        some (max 0 (s.lostInterval.toInt * 2 ^ 8 / s.expectedInterval.toNat)) := by
  have hpos : 0 < (s.expectedInterval.toNat : Int) := by
    have hne : s.expectedInterval.toNat ≠ 0 := fun heq => hexpected (UInt32.toNat_inj.1 heq)
    omega
  have hle : s.lostInterval.toInt * 2 ^ 8 / s.expectedInterval.toNat ≤ 255 := by
    rw [Int.ediv_le_iff_le_mul hpos]
    omega
  refine ⟨hle, ?_⟩
  rw [RtpStream.fractionLost]
  split
  case isTrue hnone =>
    have hnone := Int32.le_iff_toInt_le.1 (hnone.resolve_left hexpected)
    have hneg : s.lostInterval.toInt * 2 ^ 8 / s.expectedInterval.toNat ≤ 0 :=
      Int.ediv_nonpos_of_nonpos_of_neg (by
        change s.lostInterval.toInt ≤ 0 at hnone
        omega) hpos
    rw [Option.map_some, max_eq_left hneg]
    rfl
  case isFalse hsome =>
    have hlt : 0 < s.lostInterval.toInt := by
      rw [not_or, Int32.le_iff_toInt_le] at hsome
      exact not_le.1 hsome.2
    have hshift := toNat_shiftLeft_eight hlt.le hsmall
    have hnonneg : 0 ≤ s.lostInterval.toInt * 2 ^ 8 / s.expectedInterval.toNat :=
      Int.ediv_nonneg (by omega) hpos.le
    have hquotient : (((s.lostInterval <<< 8).toUInt32 / s.expectedInterval).toNat : Int) =
        s.lostInterval.toInt * 2 ^ 8 / s.expectedInterval.toNat := by
      rw [UInt32.toNat_div, hshift, Int.natCast_ediv, Int.natCast_mul, Int.toNat_of_nonneg hlt.le]
      rfl
    rw [RtpStream.divide, if_neg hexpected, Option.map_some, Option.map_some, UInt32.toNat_toUInt8,
      max_eq_right hnonneg, ← hquotient]
    congr 1
    omega

end

/-- **The fraction that is lost.** At every point of every run at which fewer than 2^23 packets are lost
since the last report and fewer than 2^32 are accepted, a packet has been received if any is expected, the
fraction is at most 255 and is stored without truncation, exactly if nothing is expected, or the stream has
received its first packet and at most 2^31 packets more than are expected. -/
theorem fraction_fits_iff (events : List Received) (hwrap : (run events).accepted < 2 ^ 32)
    (hlost : (run events).recv.stream.expectedInterval.toNat <
      (run events).recv.stream.receivedInterval.toNat + 2 ^ 23) :
    (run events).Fits ↔ ((run events).recv.stream.expectedInterval ≠ 0 →
      (run events).recv.stream.started = true ∧ (run events).recv.stream.receivedInterval.toNat ≤
        (run events).recv.stream.expectedInterval.toNat + 2 ^ 31) := by
  have hcounts := counts_run events
  generalize run events = i at *
  obtain ⟨n, hle, hreceived, hnone⟩ := hcounts.received
  have hn : i.recv.stream.receivedInterval.toNat = n := by
    rw [hreceived, UInt32.toNat_ofNat', Nat.mod_eq_of_lt (hle.trans_lt hwrap)]
  refine forall_congr' fun hexpected => ⟨?_, ?_⟩
  · rintro ⟨-, hone, hfits, -⟩
    constructor
    · by_contra hstarted
      obtain ⟨hzero, hprior⟩ := hcounts.fresh (Bool.eq_false_iff.2 hstarted)
      rw [RtpStream.receivedInterval, hzero, hprior] at hone
      exact absurd hone (by decide)
    · by_contra hmany
      have hmany := toInt_lostInterval_of_lt (not_le.1 hmany)
      have hlt := i.recv.stream.receivedInterval.toNat_lt
      have hne : i.recv.stream.expectedInterval.toNat ≠ 0 :=
        fun heq => hexpected (UInt32.toNat_inj.1 heq)
      rw [hmany, Int.ediv_le_iff_le_mul (by omega)] at hfits
      omega
  · rintro ⟨hstarted, hmany⟩
    have hpos : n ≠ 0 := fun hzero => hexpected (hnone hzero hstarted)
    have hlostInterval := toInt_lostInterval hmany hlost
    exact ⟨by omega, by omega, fractionLost_eq hexpected (by omega) (by omega)⟩

/-- A gap of two packets, a late packet and a duplicate, between two reports. -/
theorem fraction_fits_gap : (run [.packet 7 0 0, .report 0, .packet 10 1 0, .packet 8 0 0,
    .packet 8 0 0]).Fits :=
  (fraction_fits_iff _ (by decide) (by decide)).2 (by decide)

/-- The report of a stream that has received nothing: one packet is expected, none is received, and the
fraction 256 is stored as 0. -/
theorem fraction_of_new_stream : (run []).recv.stream.expectedInterval = 1 ∧ (run []).accepted = 0 ∧
    (run []).recv.stream.lostInterval = 1 ∧ (run []).recv.stream.fractionLost = some 0 ∧
    ¬ (run []).Fits := by
  refine ⟨by decide, rfl, by decide, by decide, fun hfits => ?_⟩
  exact absurd (hfits (by decide)).1 (by decide)

end Interval

end KoreWebsocket.Rtp
