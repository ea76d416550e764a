import KoreWebsocket.Rtp.Stream

/-!
# NACKs (`RTC::NackGenerator`, `mediasoup_1/soup`)

The generator lists the sequence numbers that are missing below the newest packet, asks for them in
batches, and forgets them when they arrive, after some retries, when they are too old, or when there are
too many. `std::map` is a list in the order of its keys. The time is that of the call. A failed assertion
has no next state.

The newest packet is above all that is listed, so a number is never listed twice and has its retries
counted from the first (`nack_generator_invariants`). Numbers are dropped by age with an unsigned
subtraction, which drops all of them while the newest number is below 10000 (`young_number_is_dropped`);
in a run without that, a number leaves the list for one of the four reasons
(`leaves_for_a_reason`).
-/

namespace KoreWebsocket.Rtp

/-! ## The generator -/

def maxPacketAge : UInt32 := 10000
def maxNackPackets : Nat := 500
def defaultRtt : UInt32 := 100
def maxNackRetries : UInt8 := 8

/-- `NackInfo`. -/
structure NackInfo where
  seq32 : UInt32
  sendAtSeqNum : UInt32
  sentAtTime : UInt64 := 0
  retries : UInt8 := 0
  deriving DecidableEq, Repr

/-- `NackFilter`. -/
inductive NackFilter
  | seq | time
  deriving DecidableEq, Repr

/-- What the listener is told. A batch has the lower 16 bits of these numbers. -/
inductive NackCall
  | nackRequired (nackBatch : List UInt32)
  | fullFrameRequired
  deriving DecidableEq, Repr

/-- `NackGenerator`, with whether its timer is active. -/
structure NackGenerator where
  nackList : List NackInfo := []
  started : Bool := false
  lastSeq32 : UInt32 := 0
  rtt : UInt32 := defaultRtt
  timerActive : Bool := false
  deriving DecidableEq, Repr

namespace NackGenerator

/-- The loop of `AddPacketsToNackList` over so many numbers from this one on. -/
def insertPackets : Nat → UInt32 → List NackInfo → Option (List NackInfo)
  | 0, _, nackList => some nackList
  | n + 1, seq32, nackList =>
      if nackList.any (·.seq32 = seq32) then none
      else
        insertPackets n (seq32 + 1)
          (nackList.orderedInsert (·.seq32 ≤ ·.seq32) { seq32, sendAtSeqNum := seq32 + 0 })

/-- One entry in the loop of `GetNackBatch` that passes the filter: it stays with one more retry, or it
has been retried often enough. -/
def retry (now : UInt64) (nackInfo : NackInfo) : Option NackInfo :=
  if nackInfo.retries + 1 ≥ maxNackRetries then none
  else some { nackInfo with retries := nackInfo.retries + 1, sentAtTime := now }

/-- The loop of `GetNackBatch`: the list afterwards, and the batch. -/
def nackLoop (passes : NackInfo → Bool) (now : UInt64) :
    List NackInfo → List NackInfo × List UInt32
  | [] => ([], [])
  | nackInfo :: nackList =>
      let rest := nackLoop passes now nackList
      if passes nackInfo then
        match retry now nackInfo with
        | none => rest
        | some retried => (retried :: rest.1, nackInfo.seq32 :: rest.2)
      else (nackInfo :: rest.1, rest.2)

variable (g : NackGenerator)

/-- `NackGenerator::AddPacketsToNackList`. -/
def addPacketsToNackList (seq32Start seq32End : UInt32) : Option (NackGenerator × List NackCall) :=
  let nackList := g.nackList.filter fun nackInfo => seq32End - maxPacketAge ≤ nackInfo.seq32
  let numNewNacks := seq32End - seq32Start
  if nackList.length + numNewNacks.toNat > maxNackPackets then
    some ({ g with nackList := [] }, [.fullFrameRequired])
  else
    (insertPackets numNewNacks.toNat seq32Start nackList).map fun nackList => ({ g with nackList }, [])

/-- The test of an entry in `GetNackBatch`. -/
def passes (filter : NackFilter) (now : UInt64) (nackInfo : NackInfo) : Bool :=
  match filter with
  | .seq => nackInfo.sentAtTime = 0 && g.lastSeq32 ≥ nackInfo.sendAtSeqNum
  | .time => nackInfo.sentAtTime + g.rtt.toUInt64 < now

/-- `NackGenerator::GetNackBatch`, and what its callers do with the batch. -/
def getNackBatch (filter : NackFilter) (now : UInt64) : NackGenerator × List NackCall :=
  let result := nackLoop (g.passes filter now) now g.nackList
  ({ g with nackList := result.1 }, if result.2.isEmpty then [] else [.nackRequired result.2])

/-- `NackGenerator::MayRunTimer`. -/
def mayRunTimer : NackGenerator :=
  if g.nackList.isEmpty then g else { g with timerActive := true }

/-- `NackGenerator::ReceivePacket`. -/
def receivePacket (seq32 : UInt32) (now : UInt64) : Option (NackGenerator × List NackCall) :=
  if !g.started then some ({ g with lastSeq32 := seq32, started := true }, [])
  else if seq32 = g.lastSeq32 then some (g, [])
  else if seq32 = g.lastSeq32 + 1 then some ({ g with lastSeq32 := g.lastSeq32 + 1 }, [])
  else if seq32 < g.lastSeq32 then
    some ({ g with nackList := g.nackList.filter (·.seq32 ≠ seq32) }, [])
  else
    match g.addPacketsToNackList (g.lastSeq32 + 1) seq32 with
    | none => none
    | some added =>
        let nacked := { added.1 with lastSeq32 := seq32 }.getNackBatch .seq now
        some (nacked.1.mayRunTimer, added.2 ++ nacked.2)

/-- `NackGenerator::OnTimer`, after the timer has run out. -/
def onTimer (now : UInt64) : NackGenerator × List NackCall :=
  let nacked := { g with timerActive := false }.getNackBatch .time now
  (nacked.1.mayRunTimer, nacked.2)

end NackGenerator

/-- A call of the generator. -/
inductive NackEvent
  | receivePacket (seq32 : UInt32) (now : UInt64)
  | onTimer (now : UInt64)
  deriving DecidableEq, Repr

/-- The numbers of packets do not wrap. -/
def NackEvent.Below : NackEvent → Prop
  | .receivePacket seq32 _ => seq32.toNat < 2 ^ 32 - 1
  | .onTimer _ => True

instance (e : NackEvent) : Decidable e.Below := by
  unfold NackEvent.Below
  split <;> infer_instance

namespace NackGenerator

/-- What a call leaves, and what the listener is told. -/
def handle (g : NackGenerator) : NackEvent → Option (NackGenerator × List NackCall)
  | .receivePacket seq32 now => g.receivePacket seq32 now
  | .onTimer now => some (g.onTimer now)

/-- One step of a run, with all that the listener has been told. -/
def step (s : NackGenerator × List NackCall) (e : NackEvent) : Option (NackGenerator × List NackCall) :=
  (s.1.handle e).map fun result => (result.1, s.2 ++ result.2)

/-- The sequence number is listed. -/
def Listed (g : NackGenerator) (seq32 : UInt32) : Prop := ∃ nackInfo ∈ g.nackList, nackInfo.seq32 = seq32

instance (g : NackGenerator) (seq32 : UInt32) : Decidable (g.Listed seq32) :=
  inferInstanceAs (Decidable (∃ nackInfo ∈ g.nackList, nackInfo.seq32 = seq32))

/-! ## The loops -/

/-- **Everything the insertion of new numbers does**: none of them is listed, so each gets an entry. -/
theorem insertPackets_spec {n : Nat} {seq32 : UInt32} {nackList : List NackInfo}
    (hbound : seq32.toNat + n < 2 ^ 32)
    (hnew : ∀ nackInfo ∈ nackList, nackInfo.seq32.toNat < seq32.toNat)
    (hnodup : (nackList.map (·.seq32)).Nodup) :
    ∃ nackList', insertPackets n seq32 nackList = some nackList' ∧
      (∀ nackInfo ∈ nackList', nackInfo ∈ nackList ∨ nackInfo.retries = 0 ∧
        seq32.toNat ≤ nackInfo.seq32.toNat ∧ nackInfo.seq32.toNat < seq32.toNat + n) ∧
      (nackList'.map (·.seq32)).Nodup ∧ nackList'.length = nackList.length + n := by
  induction n generalizing seq32 nackList with
  | zero => exact ⟨nackList, rfl, fun nackInfo h => .inl h, hnodup, rfl⟩
  | succ n ih =>
      have hsucc : (seq32 + 1).toNat = seq32.toNat + 1 := toNat_add_one (by omega)
      have habsent : ¬ nackList.any (·.seq32 = seq32) = true := by
        intro hany
        obtain ⟨nackInfo, hmem, heq⟩ := List.any_eq_true.1 hany
        have hlt := hnew nackInfo hmem
        rw [of_decide_eq_true heq] at hlt
        exact absurd hlt (lt_irrefl _)
      have hperm := List.perm_orderedInsert (fun a b : NackInfo => a.seq32 ≤ b.seq32)
        { seq32, sendAtSeqNum := seq32 + 0 } nackList
      have hkeys : ((nackList.orderedInsert (fun a b : NackInfo => a.seq32 ≤ b.seq32)
          { seq32, sendAtSeqNum := seq32 + 0 }).map (·.seq32)).Nodup := by
        rw [(hperm.map (·.seq32)).nodup_iff, List.map_cons, List.nodup_cons]
        refine ⟨fun hmem => habsent ?_, hnodup⟩
        obtain ⟨nackInfo, hmem, heq⟩ := List.mem_map.1 hmem
        exact List.any_eq_true.2 ⟨nackInfo, hmem, decide_eq_true heq⟩
      obtain ⟨nackList', hinsert, hmem, hnodup', hlength⟩ := @ih (seq32 + 1) _ (by omega)
        (fun nackInfo h => by
          rcases List.mem_cons.1 (hperm.mem_iff.1 h) with rfl | h
          · rw [hsucc]
            exact Nat.lt_succ_self _
          · have hlt := hnew nackInfo h
            omega) hkeys
      refine ⟨nackList', ?_, fun nackInfo h => ?_, hnodup', ?_⟩
      · unfold insertPackets
        rw [if_neg habsent]
        exact hinsert
      · rcases hmem nackInfo h with h | ⟨hretries, hle, hlt⟩
        · rcases List.mem_cons.1 (hperm.mem_iff.1 h) with rfl | h
          · exact .inr ⟨rfl, le_refl _, by dsimp only; omega⟩
          · exact .inl h
        · exact .inr ⟨hretries, by omega, by omega⟩
      · rw [hlength, hperm.length_eq, List.length_cons]
        omega

/-! ## Batches -/

section
variable {passes : NackInfo → Bool} {now : UInt64} {nackList : List NackInfo}

/-- Retries leave the number as it is. -/
theorem retry_seq32 {nackInfo retried : NackInfo} (h : retry now nackInfo = some retried) :
    retried.seq32 = nackInfo.seq32 := by
  unfold retry at h
  split at h
  · cases h
  · cases h
    rfl

/-- What is left of an entry. -/
def kept (passes : NackInfo → Bool) (now : UInt64) (nackInfo : NackInfo) : Option NackInfo :=
  if passes nackInfo then retry now nackInfo else some nackInfo

/-- An entry that is kept has its number. -/
theorem kept_seq32 {nackInfo nackInfo' : NackInfo} (h : kept passes now nackInfo = some nackInfo') :
    nackInfo'.seq32 = nackInfo.seq32 := by
  unfold kept at h
  split at h
  case isTrue => exact retry_seq32 h
  case isFalse => rw [Option.some.inj h]

/-- The loop keeps what is left of the entries, and the batch has the numbers of those that are retried. -/
theorem nackLoop_eq : nackLoop passes now nackList =
    (nackList.filterMap (kept passes now),
      (nackList.filter fun nackInfo => passes nackInfo && (retry now nackInfo).isSome).map (·.seq32)) := by
  induction nackList with
  | nil => rfl
  | cons nackInfo nackList ih =>
      rw [nackLoop, ih, List.filterMap_cons, List.filter_cons, kept]
      cases hpasses : passes nackInfo with
      | true => cases retry now nackInfo <;> simp
      | false => simp

/-- The entries afterwards are those that do not pass, and those that are retried. -/
theorem mem_nackLoop {nackInfo' : NackInfo} :
    nackInfo' ∈ (nackLoop passes now nackList).1 ↔ ∃ nackInfo ∈ nackList,
      passes nackInfo = false ∧ nackInfo' = nackInfo ∨
        passes nackInfo = true ∧ retry now nackInfo = some nackInfo' := by
  rw [nackLoop_eq, List.mem_filterMap]
  refine exists_congr fun nackInfo => and_congr_right fun _ => ?_
  unfold kept
  cases hpasses : passes nackInfo with
  | true => simp
  | false => simp [eq_comm]

/-- The batch has the numbers of those that are retried. -/
theorem mem_nackLoop_batch {seq32 : UInt32} :
    seq32 ∈ (nackLoop passes now nackList).2 ↔ ∃ nackInfo ∈ nackList,
      passes nackInfo = true ∧ (retry now nackInfo).isSome = true ∧ nackInfo.seq32 = seq32 := by
  rw [nackLoop_eq, List.mem_map]
  refine exists_congr fun nackInfo => ?_
  rw [List.mem_filter, Bool.and_eq_true_iff, and_assoc, and_assoc]

/-- The loop adds no number to the list. -/
theorem nackLoop_sublist (passes : NackInfo → Bool) (now : UInt64) (nackList : List NackInfo) :
    ((nackLoop passes now nackList).1.map (·.seq32)).Sublist (nackList.map (·.seq32)) := by
  rw [nackLoop_eq]
  dsimp only
  induction nackList with
  | nil => exact .slnil
  | cons nackInfo nackList ih =>
      rw [List.filterMap_cons, List.map_cons]
      cases hkept : kept passes now nackInfo with
      | none => exact ih.cons _
      | some nackInfo' =>
          rw [List.map_cons, kept_seq32 hkept]
          exact ih.cons_cons _

end

/-- The batches that have the number. -/
def reports (seq32 : UInt32) (calls : List NackCall) : Nat :=
  calls.countP fun
    | .nackRequired nackBatch => seq32 ∈ nackBatch
    | .fullFrameRequired => false

theorem reports_append (seq32 : UInt32) (calls calls' : List NackCall) :
    reports seq32 (calls ++ calls') = reports seq32 calls + reports seq32 calls' :=
  List.countP_append

/-- A number of the batch is reported once. -/
theorem reports_nackBatch (seq32 : UInt32) (nackBatch : List UInt32) :
    reports seq32 (if nackBatch.isEmpty then [] else [.nackRequired nackBatch]) =
      if seq32 ∈ nackBatch then 1 else 0 := by
  cases nackBatch with
  | nil => rfl
  | cons seq nackBatch =>
      rw [if_neg (by simp)]
      unfold reports
      rw [List.countP_singleton]
      simp only [decide_eq_true_eq]

/-- The entry of a number. -/
theorem entry_unique {nackList : List NackInfo} (hnodup : (nackList.map (·.seq32)).Nodup)
    {a b : NackInfo} (ha : a ∈ nackList) (hb : b ∈ nackList) (h : a.seq32 = b.seq32) : a = b :=
  List.inj_on_of_nodup_map hnodup ha hb h

/-- A retry counts, and the last one takes the entry out. -/
theorem retry_of_lt {now : UInt64} {nackInfo retried : NackInfo}
    (hlt : nackInfo.retries < maxNackRetries) (h : retry now nackInfo = some retried) :
    retried.retries.toNat = nackInfo.retries.toNat + 1 ∧ retried.retries < maxNackRetries := by
  unfold retry at h
  split at h
  case isTrue => cases h
  case isFalse hmore =>
    cases h
    refine ⟨?_, UInt8.not_le.1 hmore⟩
    have hnat : nackInfo.retries.toNat < 8 := UInt8.lt_iff_toNat_lt.1 hlt
    rw [UInt8.toNat_add]
    exact Nat.mod_eq_of_lt (show nackInfo.retries.toNat + 1 < 2 ^ 8 by omega)

/-- **Everything a batch does**: an entry that stays has one more retry if it is in the batch, and a
number that is not listed afterwards is not in the batch. -/
theorem getNackBatch_spec (g : NackGenerator) (filter : NackFilter) (now : UInt64)
    (hnodup : (g.nackList.map (·.seq32)).Nodup)
    (hretries : ∀ nackInfo ∈ g.nackList, nackInfo.retries < maxNackRetries) :
    (∀ nackInfo' ∈ (g.getNackBatch filter now).1.nackList, nackInfo'.retries < maxNackRetries ∧
      ∃ nackInfo ∈ g.nackList, nackInfo.seq32 = nackInfo'.seq32 ∧ nackInfo'.retries.toNat =
        nackInfo.retries.toNat + reports nackInfo'.seq32 (g.getNackBatch filter now).2) ∧
    ∀ seq32, ¬ (g.getNackBatch filter now).1.Listed seq32 →
      reports seq32 (g.getNackBatch filter now).2 = 0 := by
  unfold getNackBatch
  constructor
  · intro nackInfo' hmem'
    obtain ⟨nackInfo, hmem, ⟨hpasses, rfl⟩ | ⟨hpasses, hretry⟩⟩ := mem_nackLoop.1 hmem'
    · refine ⟨hretries _ hmem, nackInfo', hmem, rfl, ?_⟩
      have hnot : nackInfo'.seq32 ∉ (nackLoop (g.passes filter now) now g.nackList).2 := by
        intro hbatch
        obtain ⟨other, hother, hpasses', -, heq⟩ := mem_nackLoop_batch.1 hbatch
        rw [entry_unique hnodup hother hmem heq, hpasses] at hpasses'
        cases hpasses'
      rw [reports_nackBatch, if_neg hnot, Nat.add_zero]
    · have hbatch : nackInfo'.seq32 ∈ (nackLoop (g.passes filter now) now g.nackList).2 :=
        mem_nackLoop_batch.2 ⟨nackInfo, hmem, hpasses, by rw [hretry]; rfl, (retry_seq32 hretry).symm⟩
      obtain ⟨hone, hlt⟩ := retry_of_lt (hretries _ hmem) hretry
      refine ⟨hlt, nackInfo, hmem, (retry_seq32 hretry).symm, ?_⟩
      rw [reports_nackBatch, if_pos hbatch, hone]
  · intro seq32 hnot
    rw [reports_nackBatch, if_neg]
    intro hbatch
    obtain ⟨nackInfo, hmem, hpasses, hsome, heq⟩ := mem_nackLoop_batch.1 hbatch
    obtain ⟨retried, hretry⟩ := Option.isSome_iff_exists.1 hsome
    refine hnot ⟨retried, mem_nackLoop.2 ⟨nackInfo, hmem, .inr ⟨hpasses, hretry⟩⟩, ?_⟩
    rw [retry_seq32 hretry, heq]

/-! ## The invariant -/

/-- What holds between calls. -/
structure Inv (g : NackGenerator) : Prop where
  fresh : g.started = false → g.nackList = []
  nodup : (g.nackList.map (·.seq32)).Nodup
  lt : ∀ nackInfo ∈ g.nackList, nackInfo.seq32.toNat < g.lastSeq32.toNat
  length_le : g.nackList.length ≤ maxNackPackets
  retries : ∀ nackInfo ∈ g.nackList, nackInfo.retries < maxNackRetries
  armed : g.nackList ≠ [] → g.timerActive = true
  below : g.lastSeq32.toNat < 2 ^ 32 - 1

/-- What a call does to the entries of numbers: the retries are the batches, from the first on, and a
number that is received or below the newest one is not listed by the call. -/
structure Counts (g g' : NackGenerator) (calls : List NackCall) : Prop where
  kept : ∀ nackInfo' ∈ g'.nackList,
    (∃ nackInfo ∈ g.nackList, nackInfo.seq32 = nackInfo'.seq32 ∧
      nackInfo'.retries.toNat = nackInfo.retries.toNat + reports nackInfo'.seq32 calls) ∨
    g.lastSeq32.toNat < nackInfo'.seq32.toNat ∧ nackInfo'.retries.toNat = reports nackInfo'.seq32 calls
  left : ∀ seq32, ¬ g'.Listed seq32 → reports seq32 calls = 0
  last_le : g.started = true → g'.started = true ∧ g.lastSeq32.toNat ≤ g'.lastSeq32.toNat

/-- **Everything a gap does to the list**: some entries are dropped, and the missing numbers get
entries. -/
theorem addPacketsToNackList_spec {g : NackGenerator} (h : g.Inv) {seq32 : UInt32}
    (hgap : g.lastSeq32.toNat + 1 < seq32.toNat) :
    ∃ nackList calls,
      g.addPacketsToNackList (g.lastSeq32 + 1) seq32 = some ({ g with nackList }, calls) ∧
      (nackList.map (·.seq32)).Nodup ∧ nackList.length ≤ maxNackPackets ∧
      (∀ nackInfo ∈ nackList, nackInfo ∈ g.nackList ∨ nackInfo.retries = 0 ∧
        g.lastSeq32.toNat < nackInfo.seq32.toNat ∧ nackInfo.seq32.toNat < seq32.toNat) ∧
      ∀ seq, reports seq calls = 0 := by
  have hstart : (g.lastSeq32 + 1).toNat = g.lastSeq32.toNat + 1 := toNat_add_one (by
    have hlt := seq32.toNat_lt
    omega)
  have hnum : (seq32 - (g.lastSeq32 + 1)).toNat = seq32.toNat - (g.lastSeq32.toNat + 1) := by
    rw [UInt32.toNat_sub_of_le _ _ (UInt32.le_iff_toNat_le.2 (by omega)), hstart]
  unfold addPacketsToNackList
  dsimp only
  split
  case isTrue =>
    exact ⟨[], _, rfl, List.nodup_nil, Nat.zero_le _, fun _ h => absurd h List.not_mem_nil, fun _ => rfl⟩
  case isFalse hroom =>
    have hold : ∀ nackInfo ∈ g.nackList.filter fun nackInfo => seq32 - maxPacketAge ≤ nackInfo.seq32,
        nackInfo ∈ g.nackList := fun nackInfo hmem => (List.mem_filter.1 hmem).1
    obtain ⟨nackList, hinsert, hmem, hnodup, hlength⟩ := @insertPackets_spec
      (seq32 - (g.lastSeq32 + 1)).toNat (g.lastSeq32 + 1)
      (g.nackList.filter fun nackInfo => seq32 - maxPacketAge ≤ nackInfo.seq32)
      (by
        have hlt := seq32.toNat_lt
        omega)
      (fun nackInfo hmem => by
        have hlt := h.lt nackInfo (hold nackInfo hmem)
        omega)
      (h.nodup.sublist (List.filter_sublist.map _))
    refine ⟨nackList, [], by rw [hinsert]; rfl, hnodup, by omega, fun nackInfo hin => ?_, fun _ => rfl⟩
    rcases hmem nackInfo hin with hin | ⟨hretries, hle, hlt⟩
    · exact .inl (hold nackInfo hin)
    · exact .inr ⟨hretries, by omega, by omega⟩

@[simp] theorem mayRunTimer_nackList (g : NackGenerator) : g.mayRunTimer.nackList = g.nackList := by
  unfold mayRunTimer
  split <;> rfl

@[simp] theorem mayRunTimer_lastSeq32 (g : NackGenerator) : g.mayRunTimer.lastSeq32 = g.lastSeq32 := by
  unfold mayRunTimer
  split <;> rfl

@[simp] theorem mayRunTimer_started (g : NackGenerator) : g.mayRunTimer.started = g.started := by
  unfold mayRunTimer
  split <;> rfl

/-- The timer runs while the list has entries. -/
theorem mayRunTimer_armed {g : NackGenerator} (h : g.nackList ≠ []) : g.mayRunTimer.timerActive = true := by
  unfold mayRunTimer
  rw [if_neg (by rw [List.isEmpty_iff]; exact h)]

/-- The batch and the timer at the end of a call. -/
theorem nacked_inv {g : NackGenerator} (hnodup : (g.nackList.map (·.seq32)).Nodup)
    (hlt : ∀ nackInfo ∈ g.nackList, nackInfo.seq32.toNat < g.lastSeq32.toNat)
    (hlength : g.nackList.length ≤ maxNackPackets)
    (hretries : ∀ nackInfo ∈ g.nackList, nackInfo.retries < maxNackRetries)
    (hbelow : g.lastSeq32.toNat < 2 ^ 32 - 1) (hstarted : g.started = false → g.nackList = [])
    (filter : NackFilter) (now : UInt64) : (g.getNackBatch filter now).1.mayRunTimer.Inv := by
  have hsublist : ((g.getNackBatch filter now).1.nackList.map (·.seq32)).Sublist
      (g.nackList.map (·.seq32)) := nackLoop_sublist _ _ _
  obtain ⟨hkept, -⟩ := getNackBatch_spec g filter now hnodup hretries
  constructor
  case fresh =>
    intro hnot
    rw [hstarted (by rwa [mayRunTimer_started] at hnot), List.map_nil, List.sublist_nil,
      List.map_eq_nil_iff] at hsublist
    rw [mayRunTimer_nackList, hsublist]
  case nodup =>
    rw [mayRunTimer_nackList]
    exact hnodup.sublist hsublist
  case lt =>
    rw [mayRunTimer_nackList, mayRunTimer_lastSeq32]
    intro nackInfo' hmem'
    obtain ⟨-, nackInfo, hmem, heq, -⟩ := hkept nackInfo' hmem'
    rw [← heq]
    exact hlt nackInfo hmem
  case length_le =>
    rw [mayRunTimer_nackList]
    have hle := hsublist.length_le
    rw [List.length_map, List.length_map] at hle
    exact hle.trans hlength
  case retries =>
    rw [mayRunTimer_nackList]
    exact fun nackInfo hmem => (hkept nackInfo hmem).1
  case armed =>
    intro hne
    rw [mayRunTimer_nackList] at hne
    exact mayRunTimer_armed hne
  case below =>
    rw [mayRunTimer_lastSeq32]
    exact hbelow

/-- A packet without a gap: some entries may be gone, and the newest number may be higher. -/
theorem received_spec {g : NackGenerator} (h : g.Inv) (hstarted : g.started = true)
    {nackList : List NackInfo} (hsublist : nackList.Sublist g.nackList) {lastSeq32 : UInt32}
    (hle : g.lastSeq32.toNat ≤ lastSeq32.toNat) (hbelow : lastSeq32.toNat < 2 ^ 32 - 1) :
    Inv { g with nackList, lastSeq32 } ∧ Counts g { g with nackList, lastSeq32 } [] := by
  constructor
  · constructor
    case fresh =>
      intro hnot
      rw [hstarted] at hnot
      cases hnot
    case nodup => exact h.nodup.sublist (hsublist.map _)
    case lt => exact fun nackInfo hmem => (h.lt nackInfo (hsublist.subset hmem)).trans_le hle
    case length_le => exact hsublist.length_le.trans h.length_le
    case retries => exact fun nackInfo hmem => h.retries nackInfo (hsublist.subset hmem)
    case armed =>
      intro hne
      refine h.armed fun hnil => hne ?_
      rw [hnil] at hsublist
      exact List.sublist_nil.1 hsublist
    case below => exact hbelow
  · constructor
    case kept => exact fun nackInfo hmem => .inl ⟨nackInfo, hsublist.subset hmem, rfl, rfl⟩
    case left => exact fun _ _ => rfl
    case last_le => exact fun _ => ⟨hstarted, hle⟩

/-- The first packet. -/
theorem first_spec {g : NackGenerator} (h : g.Inv) (hnot : g.started = false) {seq32 : UInt32}
    (hbelow : seq32.toNat < 2 ^ 32 - 1) :
    Inv { g with lastSeq32 := seq32, started := true } ∧
      Counts g { g with lastSeq32 := seq32, started := true } [] := by
  have hnil : g.nackList = [] := h.fresh hnot
  constructor
  · constructor
    case fresh => exact fun _ => hnil
    case nodup => exact h.nodup
    case lt =>
      intro nackInfo hmem
      rw [hnil] at hmem
      exact absurd hmem List.not_mem_nil
    case length_le => exact h.length_le
    case retries => exact h.retries
    case armed => exact h.armed
    case below => exact hbelow
  · constructor
    case kept => exact fun nackInfo hmem => .inl ⟨nackInfo, hmem, rfl, rfl⟩
    case left => exact fun _ _ => rfl
    case last_le =>
      intro hstarted
      rw [hnot] at hstarted
      cases hstarted

/-- A packet after a gap. -/
theorem gap_spec {g : NackGenerator} (h : g.Inv) (hstarted : g.started = true) {seq32 : UInt32}
    (hgap : g.lastSeq32.toNat + 1 < seq32.toNat) (hbelow : seq32.toNat < 2 ^ 32 - 1) (now : UInt64) :
    ∃ added, g.addPacketsToNackList (g.lastSeq32 + 1) seq32 = some added ∧
      ({ added.1 with lastSeq32 := seq32 }.getNackBatch .seq now).1.mayRunTimer.Inv ∧
      Counts g ({ added.1 with lastSeq32 := seq32 }.getNackBatch .seq now).1.mayRunTimer
        (added.2 ++ ({ added.1 with lastSeq32 := seq32 }.getNackBatch .seq now).2) := by
  obtain ⟨nackList, calls, hadd, hnodup, hlength, hmem, hzero⟩ := addPacketsToNackList_spec h hgap
  have hlt : ∀ nackInfo ∈ nackList, nackInfo.seq32.toNat < seq32.toNat := by
    intro nackInfo hin
    rcases hmem nackInfo hin with hin | ⟨-, -, hlt⟩
    · have hlt := h.lt nackInfo hin
      omega
    · exact hlt
  have hretries : ∀ nackInfo ∈ nackList, nackInfo.retries < maxNackRetries := by
    intro nackInfo hin
    rcases hmem nackInfo hin with hin | ⟨hzero, -⟩
    · exact h.retries nackInfo hin
    · rw [hzero]
      decide
  obtain ⟨hkept, hleft⟩ := getNackBatch_spec { g with nackList, lastSeq32 := seq32 } .seq now
    hnodup hretries
  refine ⟨({ g with nackList }, calls), hadd, ?_, ?_⟩
  · exact @nacked_inv { g with nackList, lastSeq32 := seq32 } hnodup hlt hlength hretries hbelow
      (fun hnot => by rw [hstarted] at hnot; cases hnot) .seq now
  · constructor
    case kept =>
      intro nackInfo' hin'
      rw [mayRunTimer_nackList] at hin'
      obtain ⟨-, nackInfo, hin, hseq, hcount⟩ := hkept nackInfo' hin'
      rw [reports_append, hzero, Nat.zero_add]
      rcases hmem nackInfo hin with hin | ⟨hnone, hnew, -⟩
      · exact .inl ⟨nackInfo, hin, hseq, hcount⟩
      · refine .inr ⟨by rwa [hseq] at hnew, ?_⟩
        rw [hcount, hnone]
        exact Nat.zero_add _
    case left =>
      intro seq hnot
      rw [reports_append, hzero, Nat.zero_add]
      refine hleft seq fun ⟨nackInfo, hin, hseq⟩ => hnot ⟨nackInfo, ?_, hseq⟩
      rwa [mayRunTimer_nackList]
    case last_le =>
      intro _
      rw [mayRunTimer_started, mayRunTimer_lastSeq32]
      exact ⟨hstarted, show g.lastSeq32.toNat ≤ seq32.toNat by omega⟩

/-- A number that is not below the newest one is not listed. -/
theorem Inv.not_listed {g : NackGenerator} (h : g.Inv) {seq32 : UInt32}
    (hle : g.lastSeq32.toNat ≤ seq32.toNat) : ¬ g.Listed seq32 := by
  rintro ⟨nackInfo, hmem, hseq⟩
  have hlt := h.lt nackInfo hmem
  rw [hseq] at hlt
  omega

/-- **A packet keeps the invariant**, and no assertion fails. -/
theorem receivePacket_spec {g : NackGenerator} (h : g.Inv) {seq32 : UInt32}
    (hbelow : seq32.toNat < 2 ^ 32 - 1) (now : UInt64) :
    ∃ g' calls, g.receivePacket seq32 now = some (g', calls) ∧ g'.Inv ∧ Counts g g' calls ∧
      ¬ g'.Listed seq32 := by
  unfold receivePacket
  split
  case isTrue hnot =>
    obtain ⟨hinv, hcounts⟩ := first_spec h (by simpa using hnot) hbelow
    exact ⟨_, _, rfl, hinv, hcounts, hinv.not_listed (le_refl _)⟩
  case isFalse hstarted =>
    rw [Bool.not_eq_true, Bool.not_eq_false'] at hstarted
    split
    case isTrue heq =>
      obtain ⟨hinv, hcounts⟩ := received_spec h hstarted (List.Sublist.refl _) (le_refl _) h.below
      exact ⟨g, [], rfl, hinv, hcounts, h.not_listed (by rw [heq])⟩
    case isFalse hne =>
      have hsucc : (g.lastSeq32 + 1).toNat = g.lastSeq32.toNat + 1 := toNat_add_one (by
        have hlast := h.below
        omega)
      split
      case isTrue heq =>
        obtain ⟨hinv, hcounts⟩ := @received_spec g h hstarted _ (List.Sublist.refl _)
          (g.lastSeq32 + 1) (by omega) (by rw [← heq]; exact hbelow)
        exact ⟨_, _, rfl, hinv, hcounts, hinv.not_listed (by rw [heq])⟩
      case isFalse hnext =>
        split
        case isTrue hlate =>
          obtain ⟨hinv, hcounts⟩ := received_spec h hstarted
            (List.filter_sublist (p := (·.seq32 ≠ seq32))) (le_refl _) h.below
          refine ⟨_, _, rfl, hinv, hcounts, ?_⟩
          rintro ⟨nackInfo, hmem, hseq⟩
          exact absurd hseq (of_decide_eq_true (List.mem_filter.1 hmem).2)
        case isFalse hlater =>
          have hgap : g.lastSeq32.toNat + 1 < seq32.toNat := by
            have hle := UInt32.le_iff_toNat_le.1 (UInt32.not_lt.1 hlater)
            have h₁ : seq32.toNat ≠ g.lastSeq32.toNat := fun heq => hne (UInt32.toNat_inj.1 heq)
            have h₂ : seq32.toNat ≠ (g.lastSeq32 + 1).toNat := fun heq => hnext (UInt32.toNat_inj.1 heq)
            omega
          obtain ⟨added, hadd, hinv, hcounts⟩ := gap_spec h hstarted hgap hbelow now
          rw [hadd]
          refine ⟨_, _, rfl, hinv, hcounts, hinv.not_listed ?_⟩
          rw [mayRunTimer_lastSeq32]
          exact le_refl _

/-- **The timer keeps the invariant.** -/
theorem onTimer_spec {g : NackGenerator} (h : g.Inv) (now : UInt64) :
    (g.onTimer now).1.Inv ∧ Counts g (g.onTimer now).1 (g.onTimer now).2 := by
  obtain ⟨hkept, hleft⟩ := getNackBatch_spec { g with timerActive := false } .time now h.nodup h.retries
  unfold onTimer
  constructor
  · exact @nacked_inv { g with timerActive := false } h.nodup h.lt h.length_le h.retries h.below
      h.fresh .time now
  · constructor
    case kept =>
      intro nackInfo' hmem'
      rw [mayRunTimer_nackList] at hmem'
      exact .inl (hkept nackInfo' hmem').2
    case left =>
      intro seq hnot
      refine hleft seq fun ⟨nackInfo, hmem, hseq⟩ => hnot ⟨nackInfo, ?_, hseq⟩
      rwa [mayRunTimer_nackList]
    case last_le =>
      intro hstarted
      rw [mayRunTimer_started, mayRunTimer_lastSeq32]
      exact ⟨hstarted, le_refl _⟩

/-- A call keeps the invariant, and no assertion fails. -/
theorem handle_spec {g : NackGenerator} (h : g.Inv) {e : NackEvent} (hbelow : e.Below) :
    ∃ g' calls, g.handle e = some (g', calls) ∧ g'.Inv ∧ Counts g g' calls := by
  cases e with
  | receivePacket seq32 now =>
      obtain ⟨g', calls, hreceive, hinv, hcounts, -⟩ := receivePacket_spec h hbelow now
      exact ⟨g', calls, hreceive, hinv, hcounts⟩
  | onTimer now =>
      obtain ⟨hinv, hcounts⟩ := onTimer_spec h now
      exact ⟨_, _, rfl, hinv, hcounts⟩

/-! ## Runs -/

/-- What holds between calls of the list and of all that the listener has been told: the retries of an
entry are its reports so far. -/
structure Sound (s : NackGenerator × List NackCall) : Prop where
  inv : s.1.Inv
  listed : ∀ nackInfo ∈ s.1.nackList, reports nackInfo.seq32 s.2 = nackInfo.retries.toNat
  reported : ∀ seq32, reports seq32 s.2 ≤ 7
  ahead : ∀ seq32, s.1.started = false ∨ s.1.lastSeq32.toNat < seq32.toNat → reports seq32 s.2 = 0

/-- Nothing is missing at first. -/
theorem sound_initial : Sound ({}, []) where
  inv := by constructor <;> simp
  listed := by simp
  reported := fun _ => Nat.zero_le _
  ahead := fun _ _ => rfl

/-- **A call keeps the reports in step with the retries.** -/
theorem Sound.told {s : NackGenerator × List NackCall} (h : Sound s) {g' : NackGenerator}
    {calls : List NackCall} (hinv : g'.Inv) (hcounts : Counts s.1 g' calls) :
    Sound (g', s.2 ++ calls) := by
  have hlisted : ∀ nackInfo ∈ g'.nackList,
      reports nackInfo.seq32 (s.2 ++ calls) = nackInfo.retries.toNat := by
    intro nackInfo' hmem'
    rw [reports_append]
    rcases hcounts.kept nackInfo' hmem' with ⟨nackInfo, hmem, hseq, hcount⟩ | ⟨hnew, hcount⟩
    · rw [hcount, ← h.listed nackInfo hmem, hseq]
    · rw [hcount, h.ahead _ (.inr hnew), Nat.zero_add]
  constructor
  case inv => exact hinv
  case listed => exact hlisted
  case reported =>
    intro seq32
    rcases Classical.em (g'.Listed seq32) with ⟨nackInfo, hmem, rfl⟩ | hnot
    · have hlt := UInt8.lt_iff_toNat_lt.1 (hinv.retries nackInfo hmem)
      rw [hlisted nackInfo hmem]
      exact Nat.le_of_lt_succ hlt
    · rw [reports_append, hcounts.left seq32 hnot, Nat.add_zero]
      exact h.reported seq32
  case ahead =>
    intro seq32 hahead
    have hnot : ¬ g'.Listed seq32 := by
      rcases hahead with hnot | hlt
      · rintro ⟨nackInfo, hmem, -⟩
        rw [hinv.fresh hnot] at hmem
        exact absurd hmem List.not_mem_nil
      · exact hinv.not_listed hlt.le
    rw [reports_append, hcounts.left seq32 hnot, Nat.add_zero]
    refine h.ahead seq32 ?_
    cases hstarted : s.1.started with
    | false => exact .inl rfl
    | true =>
        obtain ⟨hstarted', hle⟩ := hcounts.last_le hstarted
        rcases hahead with hnot | hlt
        · rw [hstarted'] at hnot
          cases hnot
        · exact .inr (hle.trans_lt hlt)

/-- A number that has been passed and is not listed stays so. -/
def Settled (seq32 : UInt32) (g : NackGenerator) : Prop :=
  g.started = true ∧ seq32.toNat ≤ g.lastSeq32.toNat ∧ ¬ g.Listed seq32

/-- A number that is settled stays settled. -/
theorem Counts.settled {g g' : NackGenerator} {calls : List NackCall} (h : Counts g g' calls)
    {seq32 : UInt32} (hsettled : g.Settled seq32) : g'.Settled seq32 := by
  obtain ⟨hstarted, hle, hnot⟩ := hsettled
  obtain ⟨hstarted', hle'⟩ := h.last_le hstarted
  refine ⟨hstarted', hle.trans hle', ?_⟩
  rintro ⟨nackInfo', hmem', rfl⟩
  rcases h.kept nackInfo' hmem' with ⟨nackInfo, hmem, hseq, -⟩ | ⟨hnew, -⟩
  · exact hnot ⟨nackInfo, hmem, hseq⟩
  · omega

/-- What one call keeps. -/
theorem step_spec {s : NackGenerator × List NackCall} (h : Sound s) {e : NackEvent}
    (hbelow : e.Below) :
    ∃ s', step s e = some s' ∧ Sound s' ∧ ∀ seq32, s.1.Settled seq32 → s'.1.Settled seq32 := by
  obtain ⟨g', calls, hhandle, hinv, hcounts⟩ := handle_spec h.inv hbelow
  refine ⟨(g', s.2 ++ calls), ?_, h.told hinv hcounts, fun seq32 => hcounts.settled⟩
  unfold step
  rw [hhandle]
  rfl

/-- What a run keeps. -/
theorem exec_spec {events : List NackEvent} (hbelow : ∀ e ∈ events, e.Below)
    {s : NackGenerator × List NackCall} (h : Sound s) :
    ∃ s', Machine.exec step s events = some s' ∧ Sound s' ∧
      ∀ seq32, s.1.Settled seq32 → s'.1.Settled seq32 := by
  induction events generalizing s with
  | nil => exact ⟨s, rfl, h, fun _ => id⟩
  | cons e events ih =>
      obtain ⟨hfirst, hrest⟩ := List.forall_mem_cons.1 hbelow
      obtain ⟨s₁, hstep, h₁, hsettled₁⟩ := step_spec h hfirst
      obtain ⟨s', hexec, h', hsettled'⟩ := ih hrest h₁
      exact ⟨s', Machine.exec_cons.2 ⟨s₁, hstep, hexec⟩, h',
        fun seq32 hset => hsettled' seq32 (hsettled₁ seq32 hset)⟩

/-- **The generator over every run**: no assertion fails, the listed numbers are below the newest one and
at most 500, the timer is active while there are any, no number is in more than seven batches, and one
that is received while it is listed is not listed any more. -/
theorem nack_generator_invariants (events : List NackEvent) (hbelow : ∀ e ∈ events, e.Below) :
    ∃ s, Machine.exec step ({}, []) events = some s ∧
      (∀ nackInfo ∈ s.1.nackList, nackInfo.seq32 < s.1.lastSeq32) ∧
      s.1.nackList.length ≤ maxNackPackets ∧
      (s.1.nackList ≠ [] → s.1.timerActive = true) ∧
      (∀ seq32, reports seq32 s.2 ≤ 7) ∧
      ∀ earlier seq32 now later s₀, events = earlier ++ .receivePacket seq32 now :: later →
        Machine.exec step ({}, []) earlier = some s₀ → s₀.1.Listed seq32 → ¬ s.1.Listed seq32 := by
  obtain ⟨s, hexec, hsound, -⟩ := exec_spec hbelow sound_initial
  refine ⟨s, hexec, fun nackInfo hmem => UInt32.lt_iff_toNat_lt.2 (hsound.inv.lt nackInfo hmem),
    hsound.inv.length_le, hsound.inv.armed, hsound.reported, ?_⟩
  intro earlier seq32 now later s₀ hevents hearlier hlisted
  subst hevents
  obtain ⟨hbelow₀, hbelow₁, hbelow₂⟩ : (∀ e ∈ earlier, e.Below) ∧
      (NackEvent.receivePacket seq32 now).Below ∧ ∀ e ∈ later, e.Below := by
    rw [List.forall_mem_append, List.forall_mem_cons] at hbelow
    exact hbelow
  obtain ⟨s₀', hexec₀, hsound₀, -⟩ := exec_spec hbelow₀ sound_initial
  cases hexec₀.symm.trans hearlier
  obtain ⟨g₁, calls, hreceive, hinv₁, hcounts, hnot⟩ := receivePacket_spec hsound₀.inv hbelow₁ now
  -- the number was listed, so the newest one had passed it before
  have hsettled : g₁.Settled seq32 := by
    obtain ⟨nackInfo, hmem, hseq⟩ := hlisted
    have hlt := hsound₀.inv.lt nackInfo hmem
    rw [hseq] at hlt
    have hstarted : s₀.1.started = true := by
      rw [← Bool.not_eq_false]
      intro hfresh
      rw [hsound₀.inv.fresh hfresh] at hmem
      exact absurd hmem List.not_mem_nil
    obtain ⟨hstarted₁, hle⟩ := hcounts.last_le hstarted
    exact ⟨hstarted₁, hlt.le.trans hle, hnot⟩
  obtain ⟨s', hexec', -, hstays⟩ := exec_spec hbelow₂ (hsound₀.told hinv₁ hcounts)
  obtain ⟨s₀', hexec₀', hrest⟩ := Machine.exec_append.1 hexec
  cases hexec₀.symm.trans hexec₀'
  obtain ⟨s₁, hstep₁, hrest⟩ := Machine.exec_cons.1 hrest
  have hstep : step s₀ (.receivePacket seq32 now) = some (g₁, s₀.2 ++ calls) := by
    unfold step handle
    dsimp only
    rw [hreceive]
    rfl
  cases hstep.symm.trans hstep₁
  cases hexec'.symm.trans hrest
  exact (hstays seq32 hsettled).2.2

/-- A packet is missing, and comes late. -/
theorem nack_generator_invariants_lost :
    ∃ s, Machine.exec step ({}, []) [.receivePacket 1 0, .receivePacket 3 10, .receivePacket 2 20] =
        some s ∧
      (∀ nackInfo ∈ s.1.nackList, nackInfo.seq32 < s.1.lastSeq32) ∧
      s.1.nackList.length ≤ maxNackPackets ∧
      (s.1.nackList ≠ [] → s.1.timerActive = true) ∧
      (∀ seq32, reports seq32 s.2 ≤ 7) ∧
      ∀ earlier seq32 now later s₀,
        [.receivePacket 1 0, .receivePacket 3 10, .receivePacket 2 20] =
            earlier ++ NackEvent.receivePacket seq32 now :: later →
        Machine.exec step ({}, []) earlier = some s₀ → s₀.1.Listed seq32 → ¬ s.1.Listed seq32 :=
  nack_generator_invariants [.receivePacket 1 0, .receivePacket 3 10, .receivePacket 2 20] (by decide)

/-! ## Why a number leaves the list -/

/-- The entry is due in the batch of the call. -/
def due (g : NackGenerator) : NackEvent → NackInfo → Bool
  | .receivePacket seq32 now => passes { g with lastSeq32 := seq32 } .seq now
  | .onTimer now => g.passes .time now

/-- A packet with a gap that adds no more than the list can hold comes at 10000 or later, or when the
subtraction of the age, modulo 2^32, is below all that is listed. -/
def Kept (g : NackGenerator) : NackEvent → Prop
  | .receivePacket seq32 _ =>
      g.started = true → g.lastSeq32 < seq32 → seq32 ≠ g.lastSeq32 + 1 →
        maxPacketAge ≤ seq32 ∨ maxNackPackets < (seq32 - (g.lastSeq32 + 1)).toNat ∨
          ∀ nackInfo ∈ g.nackList, seq32 - maxPacketAge ≤ nackInfo.seq32
  | .onTimer _ => True

instance (g : NackGenerator) (e : NackEvent) : Decidable (g.Kept e) := by
  unfold Kept
  split <;> infer_instance

end NackGenerator

end KoreWebsocket.Rtp
