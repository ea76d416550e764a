import KoreWebsocket.Lib.Machine

/-!
# Groups of packets (`mediasoup_1/soup/src/RTC/RemoteBitrateEstimator/InterArrival.cpp`)

The estimator of the bitrate compares how far apart packets are sent with how far apart they arrive.
`InterArrival::ComputeDeltas` puts the packets that are sent about together into a group, and gives the
deltas between a group and the one before it once the group is complete. Packets out of order are left out,
and all starts again when the clocks seem to have jumped. The code keeps four numbers of two groups.
`Grouping` has the groups themselves, with their packets, and in every run the deltas are those between
neighbours in its rows.
-/

namespace KoreWebsocket.Rtc

/-- `Utils::Time::IsNewerTimestamp`. -/
def isNewerTimestamp (timestamp prevTimestamp : UInt32) : Bool :=
  if timestamp - prevTimestamp = 0x80000000 then timestamp > prevTimestamp
  else timestamp ≠ prevTimestamp && timestamp - prevTimestamp < 0x80000000

/-- `Utils::Time::LatestTimestamp`. -/
def latestTimestamp (timestamp1 timestamp2 : UInt32) : UInt32 :=
  if isNewerTimestamp timestamp1 timestamp2 then timestamp1 else timestamp2

/-- The arguments of `ComputeDeltas`. The times are in milliseconds and far from the bounds of `int64_t`. -/
structure Arrival where
  timestamp : UInt32
  arrivalTimeMs : Int
  systemTimeMs : Int
  packetSize : UInt64
  deriving DecidableEq

/-- What `ComputeDeltas` gives if it returns true. -/
structure Deltas where
  timestampDelta : UInt32
  arrivalTimeDeltaMs : Int
  packetSizeDelta : Int
  deriving DecidableEq

/-- `InterArrival::TimestampGroup`. -/
structure TimestampGroup where
  size : UInt64 := 0
  firstTimestamp : UInt32 := 0
  timestamp : UInt32 := 0
  completeTimeMs : Int := -1
  lastSystemTimeMs : Int := 0
  deriving DecidableEq

namespace TimestampGroup

variable (g : TimestampGroup)

/-- `TimestampGroup::IsFirstPacket`. -/
def isFirstPacket : Bool := g.completeTimeMs = -1

/-- "Accumulate the frame size." -/
def accumulate (p : Arrival) : TimestampGroup :=
  { g with
    size := g.size + p.packetSize
    completeTimeMs := p.arrivalTimeMs
    lastSystemTimeMs := p.systemTimeMs }

end TimestampGroup

/-- `static_cast<int>` of a size. -/
def intOfSize (size : UInt64) : Int := (size.toNat : Int).bmod (2 ^ 32)

/-- `BurstDeltaThresholdMs`. -/
def burstDeltaThresholdMs : Int := 5

/-- `InterArrival`, with what its constructor is given. Of `timestampToMsCoeff` there is what is computed
with it: `std::lround(timestampToMsCoeff * timestampDiff + 0.5)`. -/
structure InterArrival where
  timestampGroupLengthTicks : UInt32
  tsDeltaMs : UInt32 → Int
  burstGrouping : Bool
  currentTimestampGroup : TimestampGroup := {}
  prevTimestampGroup : TimestampGroup := {}
  numConsecutiveReorderedPackets : Nat := 0

namespace InterArrival

/-- `ReorderedResetThreshold`. -/
def reorderedResetThreshold : Nat := 3

/-- `ArrivalTimeOffsetThresholdMs`. -/
def arrivalTimeOffsetThresholdMs : Int := 3000

variable (s : InterArrival)

/-- `InterArrival::Reset`. -/
def reset : InterArrival :=
  { s with numConsecutiveReorderedPackets := 0, currentTimestampGroup := {}, prevTimestampGroup := {} }

/-- `InterArrival::PacketInOrder`. -/
def packetInOrder (timestamp : UInt32) : Bool :=
  if s.currentTimestampGroup.isFirstPacket then true
  else timestamp - s.currentTimestampGroup.firstTimestamp < 0x80000000

/-- `InterArrival::BelongsToBurst`, which asserts that the time of the current group is valid. -/
def belongsToBurst (arrivalTimeMs : Int) (timestamp : UInt32) : Option Bool :=
  if !s.burstGrouping then some false
  else if s.currentTimestampGroup.completeTimeMs < 0 then none
  else
    let arrivalTimeDeltaMs := arrivalTimeMs - s.currentTimestampGroup.completeTimeMs
    let tsDeltaMs := s.tsDeltaMs (timestamp - s.currentTimestampGroup.timestamp)
    if tsDeltaMs = 0 then some true
    else
      -- An `int` is made of the difference.
      let propagationDeltaMs := (arrivalTimeDeltaMs - tsDeltaMs).bmod (2 ^ 32)
      some (propagationDeltaMs < 0 && arrivalTimeDeltaMs ≤ burstDeltaThresholdMs)

/-- `InterArrival::NewTimestampGroup`. -/
def newTimestampGroup (arrivalTimeMs : Int) (timestamp : UInt32) : Option Bool :=
  if s.currentTimestampGroup.isFirstPacket then some false
  else do
    if ← s.belongsToBurst arrivalTimeMs timestamp then return false
    return timestamp - s.currentTimestampGroup.firstTimestamp > s.timestampGroupLengthTicks

/-- The current group becomes the previous one, and the packet is the first of the next. -/
def nextGroup (p : Arrival) : InterArrival :=
  { s with
    prevTimestampGroup := s.currentTimestampGroup
    currentTimestampGroup :=
      { s.currentTimestampGroup with
        firstTimestamp := p.timestamp, timestamp := p.timestamp, size := 0 }.accumulate p }

/-- The first packet of a later frame. -/
def completeGroup (p : Arrival) : Option Deltas × InterArrival :=
  let current := s.currentTimestampGroup
  let prev := s.prevTimestampGroup
  if prev.completeTimeMs ≥ 0 then
    let arrivalTimeDeltaMs := current.completeTimeMs - prev.completeTimeMs
    let systemTimeDeltaMs := current.lastSystemTimeMs - prev.lastSystemTimeMs
    if arrivalTimeDeltaMs - systemTimeDeltaMs ≥ arrivalTimeOffsetThresholdMs then (none, s.reset)
    else if arrivalTimeDeltaMs < 0 then
      let s := { s with numConsecutiveReorderedPackets := s.numConsecutiveReorderedPackets + 1 }
      (none, if s.numConsecutiveReorderedPackets ≥ reorderedResetThreshold then s.reset else s)
    else
      let deltas :=
        { timestampDelta := current.timestamp - prev.timestamp
          arrivalTimeDeltaMs
          packetSizeDelta := intOfSize current.size - intOfSize prev.size }
      (some deltas, { s with numConsecutiveReorderedPackets := 0 }.nextGroup p)
  else (none, s.nextGroup p)

/-- `InterArrival::ComputeDeltas`. It gives nothing if it returns false, and fails with the assertion of
`BelongsToBurst`. -/
def computeDeltas (p : Arrival) : Option (Option Deltas × InterArrival) :=
  let current := s.currentTimestampGroup
  if current.isFirstPacket then
    let started := { current with timestamp := p.timestamp, firstTimestamp := p.timestamp }
    some (none, { s with currentTimestampGroup := started.accumulate p })
  else if !s.packetInOrder p.timestamp then some (none, s)
  else do
    if ← s.newTimestampGroup p.arrivalTimeMs p.timestamp then return s.completeGroup p
    let latest := { current with timestamp := latestTimestamp current.timestamp p.timestamp }
    return (none, { s with currentTimestampGroup := latest.accumulate p })

end InterArrival

/-- A run: the state, and the deltas that were given. -/
structure Recorded where
  interArrival : InterArrival
  deltas : List Deltas := []

/-- A packet arrives. -/
def Recorded.arrive (r : Recorded) (p : Arrival) : Option Recorded := do
  let (deltas, interArrival) ← r.interArrival.computeDeltas p
  return { interArrival, deltas := r.deltas ++ deltas.toList }

/-! ## Groups -/

/-- Packets that are sent about together: none is older than the first. -/
structure PacketGroup where
  first : Arrival
  rest : List Arrival := []
  inOrder : ∀ p ∈ rest, p.timestamp - first.timestamp < 0x80000000 := by simp

namespace PacketGroup

variable (g : PacketGroup)

def packets : List Arrival := g.first :: g.rest

def last : Arrival := g.rest.getLastD g.first

/-- The size of all packets. -/
def size : UInt64 := g.rest.foldl (fun size p => size + p.packetSize) g.first.packetSize

/-- The latest timestamp. -/
def timestamp : UInt32 := g.rest.foldl (fun t p => latestTimestamp t p.timestamp) g.first.timestamp

/-- What `InterArrival` knows of the group. -/
def summary : TimestampGroup where
  size := g.size
  firstTimestamp := g.first.timestamp
  timestamp := g.timestamp
  completeTimeMs := g.last.arrivalTimeMs
  lastSystemTimeMs := g.last.systemTimeMs

/-- A packet is added at the end. -/
def add (p : Arrival) (hp : p.timestamp - g.first.timestamp < 0x80000000) : PacketGroup where
  first := g.first
  rest := g.rest ++ [p]
  inOrder := fun q hq => (List.mem_append.1 hq).elim (g.inOrder q) fun hq => List.mem_singleton.1 hq ▸ hp

/-- The clocks seem to have jumped between two groups: the arrival times are further apart than the system
times by `ArrivalTimeOffsetThresholdMs`. -/
def jumps (older newer : PacketGroup) : Prop :=
  3000 ≤ (newer.last.arrivalTimeMs - older.last.arrivalTimeMs) -
    (newer.last.systemTimeMs - older.last.systemTimeMs)

instance (older newer : PacketGroup) : Decidable (older.jumps newer) :=
  inferInstanceAs (Decidable (3000 ≤ _))

section
variable (timestampGroupLengthTicks : UInt32) (tsDeltaMs : UInt32 → Int) (burstGrouping : Bool)

/-- A packet arrives in a burst with the group: it is sent at the time of the latest packet, or it arrives
just after the last one, and sooner after it than it is sent after the latest. -/
def burst (p : Arrival) : Prop :=
  let sent := tsDeltaMs (p.timestamp - g.timestamp)
  let arrived := p.arrivalTimeMs - g.last.arrivalTimeMs
  sent = 0 ∨ (arrived - sent).bmod (2 ^ 32) < 0 ∧ arrived ≤ 5

/-- A packet that is not older than the first one belongs to the group: it arrives in a burst with it, or it
is sent soon after the first. -/
def takes (p : Arrival) : Prop :=
  burstGrouping = true ∧ g.burst tsDeltaMs p ∨
    p.timestamp - g.first.timestamp ≤ timestampGroupLengthTicks

instance (p : Arrival) : Decidable (g.burst tsDeltaMs p) :=
  inferInstanceAs (Decidable (_ = _ ∨ _ < _ ∧ _ ≤ _))

instance (p : Arrival) : Decidable (g.takes timestampGroupLengthTicks tsDeltaMs burstGrouping p) :=
  inferInstanceAs (Decidable (_ = _ ∧ _ ∨ _ ≤ _))

end

variable {g}

theorem packets_add {p : Arrival} {hp : p.timestamp - g.first.timestamp < 0x80000000} :
    (g.add p hp).packets = g.packets ++ [p] := rfl

theorem summary_add {p : Arrival} {hp : p.timestamp - g.first.timestamp < 0x80000000} :
    (g.add p hp).summary =
      { g.summary with timestamp := latestTimestamp g.summary.timestamp p.timestamp }.accumulate p := by
  simp [summary, add, size, timestamp, last, TimestampGroup.accumulate]

theorem last_mem : g.last ∈ g.packets := by
  rw [last, packets]
  cases hlast : g.rest.getLast? with
  | none => simp [List.getLastD_eq_getLast?, hlast]
  | some p => simp [List.getLastD_eq_getLast?, hlast, List.mem_of_getLast? hlast]

/-- The deltas between two groups. -/
def deltas (older newer : PacketGroup) : Deltas where
  timestampDelta := newer.timestamp - older.timestamp
  arrivalTimeDeltaMs := newer.last.arrivalTimeMs - older.last.arrivalTimeMs
  packetSizeDelta := intOfSize newer.size - intOfSize older.size

/-- The deltas between neighbours in a row of groups. -/
def rowDeltas : List PacketGroup → List Deltas
  | older :: newer :: row => older.deltas newer :: rowDeltas (newer :: row)
  | _ => []

/-- A group is put at the end of a row. -/
theorem rowDeltas_append {row : List PacketGroup} {older newer : PacketGroup} :
    rowDeltas (row ++ [older, newer]) = rowDeltas (row ++ [older]) ++ [older.deltas newer] := by
  induction row with
  | nil => rfl
  | cons first row ih =>
      cases row with
      | nil => rfl
      | cons second row =>
          change first.deltas second :: rowDeltas ((second :: row) ++ [older, newer]) = _
          rw [ih]
          rfl

end PacketGroup

open PacketGroup

/-- The packets that have arrived, in groups: the rows from before all started again, the row of the groups
that are complete, and the current group. The current group has been compared in vain with the last of the
row `reordered` times. -/
structure Grouping where
  rows : List (List PacketGroup) := []
  row : List PacketGroup := []
  current : Option PacketGroup := none
  reordered : Nat := 0

namespace Grouping

variable (G : Grouping)

/-- All groups, in order. -/
def groups : List PacketGroup := G.rows.flatten ++ G.row ++ G.current.toList

/-- The deltas between neighbours in the rows. -/
def deltas : List Deltas := G.rows.flatMap rowDeltas ++ rowDeltas G.row

/-- All starts again. The current group and the packet are left out. -/
def restart : Grouping := { rows := G.rows ++ [G.row] }

/-- The current group is complete, and the packet is the first of the next. -/
def complete (g : PacketGroup) (p : Arrival) : Grouping :=
  { G with row := G.row ++ [g], current := some { first := p } }

section
variable (timestampGroupLengthTicks : UInt32) (tsDeltaMs : UInt32 → Int) (burstGrouping : Bool)

/-- What becomes of a packet. One that is older than the first of the current group is left out, and one
that belongs to the group is added to it. With any other the group is complete, unless it has arrived
before the one that it is compared with: then the packet is left out, and the third time all starts again,
as when the clocks have jumped. -/
def arrive (p : Arrival) : Grouping :=
  match G.current with
  | none => { G with current := some { first := p } }
  | some g =>
      if h : p.timestamp - g.first.timestamp < 0x80000000 then
        if g.takes timestampGroupLengthTicks tsDeltaMs burstGrouping p then
          { G with current := some (g.add p h) }
        else
          match G.row.getLast? with
          | none => G.complete g p
          | some older =>
              if older.jumps g then G.restart
              else if g.last.arrivalTimeMs < older.last.arrivalTimeMs then
                if 3 ≤ G.reordered + 1 then G.restart else { G with reordered := G.reordered + 1 }
              else { G with reordered := 0 }.complete g p
      else G

/-- The groups of packets that arrive one after the other. -/
def ofArrivals (ps : List Arrival) : Grouping :=
  ps.foldl (fun G p => G.arrive timestampGroupLengthTicks tsDeltaMs burstGrouping p) {}

variable {timestampGroupLengthTicks tsDeltaMs burstGrouping} {G}

/-- One more packet. -/
theorem ofArrivals_append (ps : List Arrival) (p : Arrival) :
    ofArrivals timestampGroupLengthTicks tsDeltaMs burstGrouping (ps ++ [p]) =
      (ofArrivals timestampGroupLengthTicks tsDeltaMs burstGrouping ps).arrive timestampGroupLengthTicks
        tsDeltaMs burstGrouping p := by
  rw [ofArrivals, List.foldl_append]
  rfl

/-- The current group of a grouping is its last. -/
theorem packets_groups {g : PacketGroup} (hcurrent : G.current = some g) :
    G.groups.flatMap packets = (G.rows.flatten ++ G.row).flatMap packets ++ g.packets := by
  simp [groups, hcurrent]

/-- A packet is in no group before it arrives, and in one at most then. -/
theorem sublist_arrive (p : Arrival) :
    ((G.arrive timestampGroupLengthTicks tsDeltaMs burstGrouping p).groups.flatMap packets).Sublist
      (G.groups.flatMap packets ++ [p]) := by
  have hcomplete : ∀ g n, G.current = some g →
      (({ G with reordered := n }.complete g p).groups.flatMap packets).Sublist
        (G.groups.flatMap packets ++ [p]) := by
    intro g n hcurrent
    rw [packets_groups hcurrent]
    simp [complete, groups, packets]
  have hrestart : (G.restart.groups.flatMap packets).Sublist (G.groups.flatMap packets ++ [p]) := by
    simp [restart, groups]
  unfold arrive
  split
  case h_1 hcurrent =>
    rw [groups, groups, hcurrent]
    simp [packets]
  case h_2 g hcurrent =>
    split
    case isTrue horder =>
      split
      case isTrue =>
        rw [packets_groups hcurrent, packets_groups rfl, packets_add, List.append_assoc]
      case isFalse =>
        split
        case h_1 => exact hcomplete g G.reordered hcurrent
        case h_2 older _ =>
          split
          case isTrue => exact hrestart
          case isFalse =>
            split
            case isTrue =>
              split
              case isTrue => exact hrestart
              case isFalse => exact List.sublist_append_left _ _
            case isFalse => exact hcomplete g 0 hcurrent
    case isFalse => exact List.sublist_append_left _ _

/-- **No packet is twice in a group or in two**, and all are in the order in which they arrive. -/
theorem sublist_ofArrivals (ps : List Arrival) :
    ((ofArrivals timestampGroupLengthTicks tsDeltaMs burstGrouping ps).groups.flatMap packets).Sublist ps := by
  induction ps using List.reverseRecOn with
  | nil => exact .slnil
  | append_singleton ps p ih =>
      rw [ofArrivals_append]
      exact (sublist_arrive p).trans (ih.append (List.Sublist.refl [p]))

end

end Grouping

/-! ## What the code keeps of the groups -/

namespace Recorded

section
variable (timestampGroupLengthTicks : UInt32) (tsDeltaMs : UInt32 → Int) (burstGrouping : Bool)

/-- The state has the numbers of the current group and of the last one in the row, and what was given are
the deltas in the rows. -/
structure Follows (r : Recorded) (G : Grouping) : Prop where
  lengthTicks : r.interArrival.timestampGroupLengthTicks = timestampGroupLengthTicks
  tsDeltaMs : r.interArrival.tsDeltaMs = tsDeltaMs
  burstGrouping : r.interArrival.burstGrouping = burstGrouping
  current : r.interArrival.currentTimestampGroup = (G.current.map summary).getD {}
  prev : r.interArrival.prevTimestampGroup = (G.row.getLast?.map summary).getD {}
  reordered : r.interArrival.numConsecutiveReorderedPackets = G.reordered
  started : G.current = none → G.row = []
  given : r.deltas = G.deltas
  forward : ∀ d ∈ r.deltas, 0 ≤ d.arrivalTimeDeltaMs

end

variable {timestampGroupLengthTicks : UInt32} {tsDeltaMs : UInt32 → Int} {burstGrouping : Bool}
  {r : Recorded} {G : Grouping} {g : PacketGroup} {p : Arrival}

/-- All starts again. -/
theorem Follows.reset (h : r.Follows timestampGroupLengthTicks tsDeltaMs burstGrouping G) :
    Follows timestampGroupLengthTicks tsDeltaMs burstGrouping
      { r with interArrival := r.interArrival.reset } G.restart where
  lengthTicks := h.lengthTicks
  tsDeltaMs := h.tsDeltaMs
  burstGrouping := h.burstGrouping
  current := rfl
  prev := rfl
  reordered := rfl
  started := fun _ => rfl
  given := by
    dsimp only
    rw [h.given]
    simp [Grouping.deltas, Grouping.restart, rowDeltas]
  forward := h.forward

/-- The current group is complete. -/
theorem Follows.nextGroup (h : r.Follows timestampGroupLengthTicks tsDeltaMs burstGrouping G)
    (hcurrent : G.current = some g) (p : Arrival) (n : Nat) (deltas : List Deltas)
    (hdeltas : rowDeltas (G.row ++ [g]) = rowDeltas G.row ++ deltas)
    (hforward : ∀ d ∈ deltas, 0 ≤ d.arrivalTimeDeltaMs) :
    Follows timestampGroupLengthTicks tsDeltaMs burstGrouping
      { interArrival := { r.interArrival with numConsecutiveReorderedPackets := n }.nextGroup p
        deltas := r.deltas ++ deltas }
      ({ G with reordered := n }.complete g p) where
  lengthTicks := h.lengthTicks
  tsDeltaMs := h.tsDeltaMs
  burstGrouping := h.burstGrouping
  current := by
    simp [InterArrival.nextGroup, TimestampGroup.accumulate, Grouping.complete, summary, size, timestamp, last]
  prev := by
    have hsummary := h.current
    rw [hcurrent] at hsummary
    simpa [InterArrival.nextGroup, Grouping.complete] using hsummary
  reordered := rfl
  started := nofun
  given := by
    dsimp only
    rw [h.given, Grouping.deltas, Grouping.deltas, Grouping.complete, hdeltas, List.append_assoc]
  forward := fun d hd => (List.mem_append.1 hd).elim (h.forward d) (hforward d)

/-- The code's test of a packet is whether it belongs to the group, and its assertion holds. -/
theorem Follows.newTimestampGroup (h : r.Follows timestampGroupLengthTicks tsDeltaMs burstGrouping G)
    (hcurrent : G.current = some g) (htime : 0 ≤ g.last.arrivalTimeMs) (p : Arrival) :
    r.interArrival.newTimestampGroup p.arrivalTimeMs p.timestamp =
      some (decide (¬ g.takes timestampGroupLengthTicks tsDeltaMs burstGrouping p)) := by
  have hsummary := h.current
  rw [hcurrent, Option.map_some, Option.getD_some] at hsummary
  have hfirst : g.summary.isFirstPacket = false := by
    rw [TimestampGroup.isFirstPacket, decide_eq_false_iff_not]
    change ¬ g.last.arrivalTimeMs = -1
    omega
  have hburst : r.interArrival.belongsToBurst p.arrivalTimeMs p.timestamp =
      some (decide (burstGrouping = true ∧ g.burst tsDeltaMs p)) := by
    unfold InterArrival.belongsToBurst
    rw [h.burstGrouping, hsummary, h.tsDeltaMs]
    cases burstGrouping with
    | false => simp
    | true =>
        have hvalid : ¬ g.summary.completeTimeMs < 0 := not_lt.2 htime
        rw [if_neg (by decide), if_neg hvalid]
        dsimp only [PacketGroup.burst, summary]
        split
        case isTrue hsent => simp [hsent]
        case isFalse hsent => simp [hsent, burstDeltaThresholdMs]
  unfold InterArrival.newTimestampGroup
  rw [hsummary, if_neg (by simp [hfirst]), hburst, h.lengthTicks]
  unfold PacketGroup.takes
  by_cases hmem : burstGrouping = true ∧ g.burst tsDeltaMs p
  · simp [hmem]
  · simp [hmem, summary]

/-- **The first packet of a later frame.** -/
theorem Follows.completeGroup (h : r.Follows timestampGroupLengthTicks tsDeltaMs burstGrouping G)
    (hcurrent : G.current = some g) (hrow : ∀ older ∈ G.row, 0 ≤ older.last.arrivalTimeMs)
    (horder : p.timestamp - g.first.timestamp < 0x80000000)
    (htakes : ¬ g.takes timestampGroupLengthTicks tsDeltaMs burstGrouping p) :
    Follows timestampGroupLengthTicks tsDeltaMs burstGrouping
      { interArrival := (r.interArrival.completeGroup p).2
        deltas := r.deltas ++ (r.interArrival.completeGroup p).1.toList }
      (G.arrive timestampGroupLengthTicks tsDeltaMs burstGrouping p) := by
  have hsummary := h.current
  rw [hcurrent, Option.map_some, Option.getD_some] at hsummary
  unfold Grouping.arrive
  rw [hcurrent]
  dsimp only
  rw [dif_pos horder, if_neg htakes]
  have hprev := h.prev
  cases hlast : G.row.getLast? with
  | none =>
      -- There is no group to compare with.
      rw [hlast, Option.map_none, Option.getD_none] at hprev
      have hresult : r.interArrival.completeGroup p = (none, r.interArrival.nextGroup p) := by
        unfold InterArrival.completeGroup
        rw [hprev]
        rfl
      have hnil : G.row = [] := List.getLast?_eq_none_iff.1 hlast
      have hnext := h.nextGroup hcurrent p r.interArrival.numConsecutiveReorderedPackets []
        (by rw [hnil]; rfl) nofun
      have hsame : { G with reordered := r.interArrival.numConsecutiveReorderedPackets } = G := by
        rw [h.reordered]
      rw [hsame] at hnext
      rw [hresult]
      exact hnext
  | some older =>
      rw [hlast, Option.map_some, Option.getD_some] at hprev
      have hprevTime : r.interArrival.prevTimestampGroup.completeTimeMs ≥ 0 :=
        hprev ▸ hrow older (List.mem_of_getLast? hlast)
      have hjumps : InterArrival.arrivalTimeOffsetThresholdMs ≤
          r.interArrival.currentTimestampGroup.completeTimeMs -
              r.interArrival.prevTimestampGroup.completeTimeMs -
            (r.interArrival.currentTimestampGroup.lastSystemTimeMs -
              r.interArrival.prevTimestampGroup.lastSystemTimeMs) ↔ older.jumps g := by
        rw [hprev, hsummary]
        rfl
      have hearlier : r.interArrival.currentTimestampGroup.completeTimeMs -
          r.interArrival.prevTimestampGroup.completeTimeMs < 0 ↔
            g.last.arrivalTimeMs < older.last.arrivalTimeMs := by
        rw [hprev, hsummary]
        exact sub_neg
      unfold InterArrival.completeGroup
      dsimp only
      rw [if_pos hprevTime]
      by_cases hjump : older.jumps g
      · rw [if_pos (hjumps.2 hjump), if_pos hjump]
        simpa using h.reset
      · rw [if_neg (mt hjumps.1 hjump), if_neg hjump]
        by_cases hless : g.last.arrivalTimeMs < older.last.arrivalTimeMs
        · rw [if_pos (hearlier.2 hless), if_pos hless]
          have hthird : InterArrival.reorderedResetThreshold ≤
              r.interArrival.numConsecutiveReorderedPackets + 1 ↔ 3 ≤ G.reordered + 1 := by
            rw [h.reordered]
            rfl
          by_cases hagain : 3 ≤ G.reordered + 1
          · rw [if_pos (hthird.2 hagain), if_pos hagain]
            simpa [InterArrival.reset] using h.reset
          · rw [if_neg (mt hthird.1 hagain), if_neg hagain, Option.toList_none, List.append_nil]
            exact ⟨h.lengthTicks, h.tsDeltaMs, h.burstGrouping, hsummary, h.prev,
              congrArg (· + 1) h.reordered, nofun, h.given, h.forward⟩
        · rw [if_neg (mt hearlier.1 hless), if_neg hless]
          have hdeltas : rowDeltas (G.row ++ [g]) = rowDeltas G.row ++ [older.deltas g] := by
            obtain ⟨row, hrow⟩ := List.getLast?_eq_some_iff.1 hlast
            rw [hrow, List.append_assoc]
            exact rowDeltas_append
          have hgiven : older.deltas g = Deltas.mk
              (r.interArrival.currentTimestampGroup.timestamp - r.interArrival.prevTimestampGroup.timestamp)
              (r.interArrival.currentTimestampGroup.completeTimeMs -
                r.interArrival.prevTimestampGroup.completeTimeMs)
              (intOfSize r.interArrival.currentTimestampGroup.size -
                intOfSize r.interArrival.prevTimestampGroup.size) := by
            rw [hprev, hsummary]
            rfl
          rw [← hgiven]
          refine h.nextGroup hcurrent p 0 [older.deltas g] hdeltas fun d hd => ?_
          obtain rfl := List.mem_singleton.1 hd
          exact sub_nonneg.2 (not_lt.1 hless)

/-- What the code gives is recorded. -/
theorem arrive_eq {given : Option Deltas} {s : InterArrival}
    (h : r.interArrival.computeDeltas p = some (given, s)) :
    r.arrive p = some { interArrival := s, deltas := r.deltas ++ given.toList } := by
  rw [arrive, h]
  rfl

/-- **The step lemma.** A packet does to the state what it does to the groups. -/
theorem Follows.arrive (h : r.Follows timestampGroupLengthTicks tsDeltaMs burstGrouping G)
    (htimes : ∀ q ∈ G.groups.flatMap packets, 0 ≤ q.arrivalTimeMs) (p : Arrival) :
    ∃ r', r.arrive p = some r' ∧ r'.Follows timestampGroupLengthTicks tsDeltaMs burstGrouping
      (G.arrive timestampGroupLengthTicks tsDeltaMs burstGrouping p) := by
  have htime : ∀ g ∈ G.groups, 0 ≤ g.last.arrivalTimeMs := fun g hg =>
    htimes g.last (List.mem_flatMap.2 ⟨g, hg, last_mem⟩)
  have hsummary := h.current
  cases hcurrent : G.current with
  | none =>
      rw [hcurrent, Option.map_none, Option.getD_none] at hsummary
      have hresult : r.interArrival.computeDeltas p = some (none,
          { r.interArrival with currentTimestampGroup := summary { first := p } }) := by
        unfold InterArrival.computeDeltas
        rw [hsummary]
        simp [TimestampGroup.isFirstPacket, TimestampGroup.accumulate, summary, size, timestamp, last]
      refine ⟨_, arrive_eq hresult, ?_⟩
      unfold Grouping.arrive
      rw [hcurrent]
      dsimp only
      rw [Option.toList_none, List.append_nil]
      exact ⟨h.lengthTicks, h.tsDeltaMs, h.burstGrouping, rfl, h.prev, h.reordered, nofun, h.given, h.forward⟩
  | some g =>
      rw [hcurrent, Option.map_some, Option.getD_some] at hsummary
      have hlast : 0 ≤ g.last.arrivalTimeMs := htime g (by simp [Grouping.groups, hcurrent])
      have hfirst : g.summary.isFirstPacket = false := by
        rw [TimestampGroup.isFirstPacket, decide_eq_false_iff_not]
        change ¬ g.last.arrivalTimeMs = -1
        omega
      have hfirstTimestamp : g.summary.firstTimestamp = g.first.timestamp := rfl
      have hnew := h.newTimestampGroup hcurrent hlast p
      by_cases horder : p.timestamp - g.first.timestamp < 0x80000000
      case neg =>
        have hresult : r.interArrival.computeDeltas p = some (none, r.interArrival) := by
          unfold InterArrival.computeDeltas InterArrival.packetInOrder
          rw [hsummary, hfirst]
          simp [hfirst, hfirstTimestamp, horder]
        refine ⟨_, arrive_eq hresult, ?_⟩
        unfold Grouping.arrive
        rw [hcurrent]
        dsimp only
        rw [dif_neg horder, Option.toList_none, List.append_nil]
        exact h
      case pos =>
        by_cases htakes : g.takes timestampGroupLengthTicks tsDeltaMs burstGrouping p
        · have hresult : r.interArrival.computeDeltas p = some (none,
              { r.interArrival with currentTimestampGroup := (g.add p horder).summary }) := by
            unfold InterArrival.computeDeltas InterArrival.packetInOrder
            rw [hnew, hsummary, hfirst, summary_add]
            simp [hfirst, hfirstTimestamp, horder, htakes]
          refine ⟨_, arrive_eq hresult, ?_⟩
          unfold Grouping.arrive
          rw [hcurrent]
          dsimp only
          rw [dif_pos horder, if_pos htakes, Option.toList_none, List.append_nil]
          exact ⟨h.lengthTicks, h.tsDeltaMs, h.burstGrouping, rfl, h.prev, h.reordered, nofun, h.given,
            h.forward⟩
        · have hresult : r.interArrival.computeDeltas p = some (r.interArrival.completeGroup p) := by
            unfold InterArrival.computeDeltas InterArrival.packetInOrder
            rw [hnew, hsummary, hfirst]
            simp [hfirst, hfirstTimestamp, horder, htakes]
          refine ⟨_, arrive_eq hresult, h.completeGroup hcurrent (fun older holder => ?_) horder htakes⟩
          exact htime older (by simp [Grouping.groups, holder])

end Recorded

/-- **Deltas are between neighbours.** In every run from an estimator's start, at times that are not
negative, no assertion fails. The deltas that are given are those between neighbours in the rows of the
groups that the packets make up, and no group arrives before the one it is compared with. No packet is twice
in a group or in two, and all are in the order in which they arrive. -/
theorem deltas_between_groups (timestampGroupLengthTicks : UInt32) (tsDeltaMs : UInt32 → Int)
    (burstGrouping : Bool) (ps : List Arrival) (htimes : ∀ p ∈ ps, 0 ≤ p.arrivalTimeMs) :
    ∃ (r : Recorded) (G : Grouping), Machine.exec Recorded.arrive
        { interArrival := { timestampGroupLengthTicks, tsDeltaMs, burstGrouping } } ps = some r ∧
      G = .ofArrivals timestampGroupLengthTicks tsDeltaMs burstGrouping ps ∧ r.deltas = G.deltas ∧
      (G.groups.flatMap packets).Sublist ps ∧ ∀ d ∈ r.deltas, 0 ≤ d.arrivalTimeDeltaMs := by
  have hrun : ∃ r, Machine.exec Recorded.arrive
      { interArrival := { timestampGroupLengthTicks, tsDeltaMs, burstGrouping } } ps = some r ∧
      r.Follows timestampGroupLengthTicks tsDeltaMs burstGrouping
        (.ofArrivals timestampGroupLengthTicks tsDeltaMs burstGrouping ps) := by
    induction ps using List.reverseRecOn with
    | nil => exact ⟨_, rfl, rfl, rfl, rfl, rfl, rfl, rfl, fun _ => rfl, rfl, nofun⟩
    | append_singleton ps p ih =>
        obtain ⟨r, hexec, hfollows⟩ := ih fun q hq => htimes q (List.mem_append_left _ hq)
        obtain ⟨r', harrive, hfollows'⟩ := hfollows.arrive (fun q hq =>
          htimes q (List.mem_append_left _ ((Grouping.sublist_ofArrivals ps).subset hq))) p
        refine ⟨r', Machine.exec_append.2 ⟨r, hexec, Machine.exec_cons.2 ⟨r', harrive, rfl⟩⟩, ?_⟩
        rw [Grouping.ofArrivals_append]
        exact hfollows'
  obtain ⟨r, hexec, hfollows⟩ := hrun
  exact ⟨r, _, hexec, rfl, hfollows.given, Grouping.sublist_ofArrivals ps, hfollows.forward⟩

/-- `std::lround(timestampToMsCoeff * timestampDiff + 0.5)` for the 26 fractional bits of the estimator. -/
def absSendTimeDeltaMs (timestampDiff : UInt32) : Int := timestampDiff.toNat * 1000 / 2 ^ 26 + 1

/-- The `InterArrival` that the estimator creates. -/
def absSendTimeInterArrival : InterArrival where
  timestampGroupLengthTicks := 335544
  tsDeltaMs := absSendTimeDeltaMs
  burstGrouping := true

/-- Four packets, each the start of a group. -/
def sampleArrivals : List Arrival :=
  [⟨0, 100, 100, 1200⟩, ⟨2000000, 130, 130, 600⟩, ⟨4000000, 165, 165, 1000⟩, ⟨6000000, 190, 190, 1200⟩]

/-- Three groups of packets. -/
theorem deltas_between_groups_sampleArrivals : ∃ (r : Recorded) (G : Grouping),
    Machine.exec Recorded.arrive { interArrival := absSendTimeInterArrival } sampleArrivals = some r ∧
      r.deltas = [⟨2000000, 30, -600⟩, ⟨2000000, 35, 400⟩] ∧
      G = .ofArrivals 335544 absSendTimeDeltaMs true sampleArrivals ∧ r.deltas = G.deltas ∧
      (G.groups.flatMap packets).Sublist sampleArrivals ∧ ∀ d ∈ r.deltas, 0 ≤ d.arrivalTimeDeltaMs := by
  obtain ⟨r, G, hexec, hgroups⟩ := deltas_between_groups 335544 absSendTimeDeltaMs true sampleArrivals
    (by decide)
  have hdeltas : (Machine.exec Recorded.arrive { interArrival := absSendTimeInterArrival }
      sampleArrivals).map (·.deltas) = some [⟨2000000, 30, -600⟩, ⟨2000000, 35, 400⟩] := by
    decide +kernel
  refine ⟨r, G, hexec, ?_, hgroups⟩
  rw [absSendTimeInterArrival, hexec] at hdeltas
  exact Option.some.inj hdeltas

end KoreWebsocket.Rtc
