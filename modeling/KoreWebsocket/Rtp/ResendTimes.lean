import KoreWebsocket.Rtp.Retransmission

/-!
# When packets are resent

`RequestRtpRetransmission` measures in two clocks. A packet is too old by its RTP timestamp, against the
largest one of the stream; and it was resent too recently by the time of the host, which the field of the
item keeps in 64 bits and the check reads in 32. A run is watched here: what the newest timestamp is, and
what was handed out when. As long as no timestamp wraps, the largest one is the newest
(`refused_for_age_iff`); as long as the packets were handed out in the first 2 ^ 32 milliseconds of the
clock, none is handed out twice in a round trip (`spaced_in_first_cycle`).
-/

namespace KoreWebsocket.Rtp

open RtpStreamSend (Container)

/-- A packet that a request hands out, the time, and the round trip time then. -/
structure HandOut where
  number : Nat
  time : UInt64
  rtt : UInt32

/-- A stream, the time of its last packet or request, the newest timestamp since the last
resynchronisation, and what was handed out so far. -/
structure Watched where
  stream : RtpStreamSend
  clock : UInt64 := 0
  newest : UInt32 := 0
  log : List HandOut := []

/-- A timestamp is not behind another one, modulo 2 ^ 32. -/
def isNewer (timestamp newest : UInt32) : Bool := (timestamp - newest).toNat < 2 ^ 31

/-- The packets that `ReceiveNack` finds in the container, up to the null entry. -/
def handedOut (container : Container) : List Clone :=
  (container.takeWhile Option.isSome).reduceOption

/-- When an event comes. -/
def SendEvent.time : SendEvent → Option UInt64
  | .packet _ _ now => some now
  | .receiverReport _ => none
  | .request _ _ _ now => some now

namespace Watched

/-- A new stream. -/
def new (clockRate : UInt32) (useNack : Bool) (bufferSize : Nat) : Watched :=
  { stream := .new clockRate useNack bufferSize }

variable (x : Watched)

/-- The newest timestamp after an event. -/
def newestAfter : SendEvent → UInt32
  | .packet _ packet _ =>
      if (x.stream.countPacket packet.toPacket).2.isSome &&
          (x.stream.stream.initializes packet.getSequenceNumber || isNewer packet.getTimestamp x.newest)
      then packet.getTimestamp else x.newest
  | .receiverReport _ | .request .. => x.newest

/-- What an event hands out. -/
def handOuts : SendEvent → List HandOut
  | .request seq bitmask container now =>
      match x.stream.requestRtpRetransmission seq bitmask container now with
      | .ok (_, container) =>
          (handedOut container).map fun c => { number := c.number, time := now, rtt := x.stream.requestRtt }
      | .error _ => []
  | .packet .. | .receiverReport _ => []

/-- One more event. -/
def step (x : Watched) (e : SendEvent) : Option Watched :=
  (x.stream.step e).map fun stream =>
    { stream, clock := e.time.getD x.clock, newest := x.newestAfter e, log := x.log ++ x.handOuts e }

end Watched

open RtpStreamSend

/-- The container has what is handed out. -/
theorem RtpStreamSend.Container.Holds.handedOut_eq {container : Container} {handed : List Clone}
    (h : container.Holds handed) : handedOut container = handed := by
  obtain ⟨hlt, hnull⟩ := List.getElem?_eq_some_iff.1 h.null
  have hsplit : container = handed.map some ++ none :: container.drop (handed.length + 1) := by
    rw [← h.take, ← hnull, ← List.drop_eq_getElem_cons hlt, List.take_append_drop]
  have hsome : ∀ c ∈ handed.map some, Option.isSome c = true :=
    List.forall_mem_map.2 fun _ _ => rfl
  rw [handedOut, hsplit, List.takeWhile_append_of_pos hsome, List.takeWhile_cons_of_neg (by decide),
    List.append_nil, List.reduceOption, List.filterMap_map]
  exact List.filterMap_some

/-! ## The age of a packet -/

namespace Watched

/-- How far the timestamp of a packet is behind the newest one, in ticks. -/
def distance (x : Watched) (item : BufferItem) : Nat :=
  (x.newest - (x.stream.packetOf item.clone).getTimestamp).toNat

/-- A packet is more than `MaxRetransmissionAge` behind. -/
def Behind (x : Watched) (item : BufferItem) : Prop :=
  maxRetransmissionAge.toNat * x.stream.clockRate.toNat < x.distance item * 1000

/-- The distance is measured right: it is no more than 500 ms, or the product with 1000 is at least 501 ms
in 32 bits. -/
def Measured (x : Watched) (item : BufferItem) : Prop :=
  x.distance item * 1000 ≤ maxRetransmissionAge.toNat * x.stream.clockRate.toNat ∨
    (maxRetransmissionAge.toNat + 1) * x.stream.clockRate.toNat ≤ x.distance item * 1000 % 2 ^ 32

instance (x : Watched) (item : BufferItem) : Decidable (x.Behind item) := inferInstanceAs (Decidable (_ < _))

/-- The timestamp of a packet does not wrap: it is newer than the newest one just if it is larger. -/
def InOrder (x : Watched) : SendEvent → Prop
  | .packet _ packet _ =>
      (x.stream.countPacket packet.toPacket).2.isSome → x.stream.stream.initializes packet.getSequenceNumber = false →
        isNewer packet.getTimestamp x.newest = decide (x.newest ≤ packet.getTimestamp)
  | .receiverReport _ | .request .. => True

instance (x : Watched) : (e : SendEvent) → Decidable (x.InOrder e)
  | .packet .. => inferInstanceAs (Decidable (_ → _ → _))
  | .receiverReport _ | .request .. => isTrue trivial

end Watched

section
variable {s t : RtpStreamSend} {behind : UInt8} {packet : Packet} {now : UInt64} {accepted : Bool}
  {item : BufferItem}

/-- What `ReceivePacket` does to the counters. -/
theorem RtpStreamSend.stream_receivePacket (h : s.receivePacket behind packet now = .ok (t, accepted)) :
    t.stream = (s.stream.receivePacket packet.getSequenceNumber packet.getTimestamp).1 := by
  have hcount : (s.countPacket packet).1.stream =
      (s.stream.receivePacket packet.getSequenceNumber packet.getTimestamp).1 := by
    unfold countPacket
    dsimp only
  rcases receivePacket_cases h with ⟨-, rfl⟩ | ⟨-, u, -, rfl, hu⟩
  · exact hcount
  · rcases hu with ⟨-, rfl⟩ | ⟨-, hstore⟩
    · exact hcount
    · rcases storePacket_cases hstore with rfl | ⟨-, q, slot, buffer, -, -, rfl⟩
      · exact hcount
      · exact hcount

/-- A packet is refused for its age by a product in 32 bits, and a quotient in whole milliseconds. -/
theorem RtpStreamSend.judge_tooOld_iff (hclockRate : s.clockRate ≠ 0) :
    s.judge now item = .ok .tooOld ↔ (maxRetransmissionAge.toNat + 1) * s.clockRate.toNat ≤
      (s.stream.maxTimestamp - (s.packetOf item.clone).getTimestamp).toNat * 1000 % 2 ^ 32 := by
  have hage : s.age item.clone =
      .ok ((s.stream.maxTimestamp - (s.packetOf item.clone).getTimestamp) * 1000 / s.clockRate) := by
    rw [age, Bytes.ensure, if_pos hclockRate]
    rfl
  have hpos : 0 < s.clockRate.toNat :=
    Nat.pos_of_ne_zero fun hzero => hclockRate (UInt32.toNat_inj.1 hzero)
  have hthousand : (1000 : UInt32).toNat = 1000 := rfl
  have hold : s.judge now item = .ok .tooOld ↔ maxRetransmissionAge <
      (s.stream.maxTimestamp - (s.packetOf item.clone).getTimestamp) * 1000 / s.clockRate := by
    rw [judge_of_age hage]
    split
    case isTrue hold => exact ⟨fun _ => hold, fun _ => rfl⟩
    case isFalse hnot =>
      refine ⟨fun h => ?_, fun h => absurd h hnot⟩
      split at h <;> cases h
  rw [hold, UInt32.lt_iff_toNat_lt, UInt32.toNat_div, UInt32.toNat_mul, hthousand, ← Nat.succ_le_iff,
    Nat.le_div_iff_mul_le hpos]

end

namespace Watched

section
variable {x y : Watched} {e : SendEvent} {item : BufferItem} {now : UInt64}

/-- **The largest timestamp is the newest**, unless one wraps. -/
theorem newest_step (hkept : Kept x.stream) (h : x.stream.stream.maxTimestamp = x.newest)
    (he : x.InOrder e) (hstep : x.step e = some y) : y.stream.stream.maxTimestamp = y.newest := by
  obtain ⟨stream, hstream, rfl⟩ := Option.map_eq_some_iff.1 hstep
  cases e with
  | packet behind packet now =>
      obtain ⟨⟨u, accepted⟩, hu, rfl⟩ := Option.map_eq_some_iff.1 hstream
      have hcounters := stream_receivePacket (Checked.toOption_eq_some.1 hu)
      have hnumber : (x.stream.countPacket packet.toPacket).2 =
          (x.stream.stream.receivePacket packet.getSequenceNumber packet.getTimestamp).2 := rfl
      dsimp only
      unfold newestAfter
      dsimp only
      dsimp only [InOrder] at he
      rw [hnumber] at he ⊢
      rw [hcounters]
      rcases RtpStream.receivePacket_cases hkept.aligned packet.getSequenceNumber packet.getTimestamp with
        ⟨hinit, u, hu, -, -, hmax⟩ | ⟨hinit, -, u, hu, -, -, hmax⟩ | ⟨hinit, -, u, hu, -, -, -, hmax⟩ <;>
        rw [hu, hinit]
      · exact hmax
      · rw [hu] at he
        rw [he rfl hinit, hmax, h, Option.isSome_some, Bool.true_and, Bool.false_or]
        split
        case isTrue hlt => exact (if_pos (decide_eq_true (UInt32.le_of_lt hlt))).symm
        case isFalse hnot =>
          split
          case isTrue hle => exact UInt32.le_antisymm (of_decide_eq_true hle) (UInt32.not_lt.1 hnot)
          case isFalse => rfl
      · exact hmax.trans h
  | receiverReport rtt =>
      cases hstream
      exact h
  | request seq bitmask container now =>
      obtain ⟨⟨u, container'⟩, hu, rfl⟩ := Option.map_eq_some_iff.1 hstream
      obtain ⟨-, -, -, hbuffer⟩ := requestRtpRetransmission_hands (Checked.toOption_eq_some.1 hu)
      dsimp only at hbuffer ⊢
      rw [hbuffer]
      exact h

/-- The verdict, when the largest timestamp is the newest. -/
theorem refused_iff_measured (h : x.stream.stream.maxTimestamp = x.newest)
    (hclockRate : x.stream.clockRate ≠ 0) :
    (x.stream.judge now item = .ok .tooOld ↔ x.Behind item) ↔ x.Measured item := by
  have hpos : 0 < x.stream.clockRate.toNat :=
    Nat.pos_of_ne_zero fun hzero => hclockRate (UInt32.toNat_inj.1 hzero)
  have hmod : x.distance item * 1000 % 2 ^ 32 ≤ x.distance item * 1000 := Nat.mod_le _ _
  rw [judge_tooOld_iff hclockRate, h, Behind, Measured, Nat.succ_mul]
  change (_ ≤ x.distance item * 1000 % 2 ^ 32 ↔ _) ↔ _
  omega

/-- Without a wrap of the product, the distances between 500 and 501 ms are left out. -/
theorem measured_iff_of_lt (h : x.distance item * 1000 < 2 ^ 32) : x.Measured item ↔
    x.distance item * 1000 ≤ maxRetransmissionAge.toNat * x.stream.clockRate.toNat ∨
      (maxRetransmissionAge.toNat + 1) * x.stream.clockRate.toNat ≤ x.distance item * 1000 := by
  rw [Measured, Nat.mod_eq_of_lt h]

/-- A packet of the buffer is refused for its age just if its timestamp is more than 500 ms behind the newest
one, exactly as far as the distance is measured right; and a request hands out no packet that is refused. -/
def RefusesByAge (x : Watched) : Prop :=
  x.stream.clockRate ≠ 0 → ∀ now,
    (∀ item ∈ x.stream.buffer,
      (x.stream.judge now item = .ok .tooOld ↔ x.Behind item) ↔ x.Measured item) ∧
    ∀ seq bitmask container s' container',
      x.stream.requestRtpRetransmission seq bitmask container now = .ok (s', container') →
      ∀ c ∈ handedOut container', ∃ item ∈ x.stream.buffer, item.clone = c ∧
        x.stream.judge now item ≠ .ok .tooOld

/-- **The age of a packet.** In every run in which no timestamp wraps, packets are refused by their age. -/
theorem refused_for_age_iff (clockRate : UInt32) (useNack : Bool) (bufferSize : Nat)
    (events : List SendEvent) (h : Machine.Meets step InOrder (new clockRate useNack bufferSize) events) :
    Machine.Always step RefusesByAge (new clockRate useNack bufferSize) events := by
  rintro pre x ⟨post, rfl⟩ hrun
  have hinv := Machine.exec_inv_of_meets
    (I := fun x => Kept x.stream ∧ x.stream.stream.maxTimestamp = x.newest)
    (fun x e y hx he hstep => by
      obtain ⟨stream, hstream, rfl⟩ := Option.map_eq_some_iff.1 hstep
      exact ⟨hx.1.step hstream, newest_step hx.1 hx.2 he hstep⟩)
    h.of_append hrun ⟨kept_new clockRate useNack bufferSize, rfl⟩
  refine fun hclockRate now => ⟨fun item _ => refused_iff_measured hinv.2 hclockRate, ?_⟩
  intro seq bitmask container s' container' hrequest c hc
  obtain ⟨handed, hhands, hholds, -⟩ := requestRtpRetransmission_hands hrequest
  rw [hholds.handedOut_eq] at hc
  obtain ⟨item, hitem, hclone, -, hjudge, -⟩ := hhands.handed_mem hc
  refine ⟨item, hitem, hclone, ?_⟩
  rw [hjudge]
  exact nofun

end

/-- A packet that is 501 ms behind is refused, one that is 500 ms behind is not. -/
theorem refused_for_age_501 : ∃ x, Machine.exec step (new 1000 true 3)
    [.packet 0 (mediaPacket 1 0) 1, .packet 0 (mediaPacket 2 1) 2, .packet 0 (mediaPacket 3 501) 3] = some x ∧
    x.RefusesByAge ∧
    x.stream.buffer.map (x.stream.judge 4 ·) = [.ok .tooOld, .ok .resend, .ok .resend] := by
  have hrun : (Machine.exec step (new 1000 true 3) [.packet 0 (mediaPacket 1 0) 1,
      .packet 0 (mediaPacket 2 1) 2, .packet 0 (mediaPacket 3 501) 3]).map
      (fun x => x.stream.buffer.map (x.stream.judge 4 ·)) =
      some [.ok .tooOld, .ok .resend, .ok .resend] := by decide +kernel
  obtain ⟨x, hx, hjudge⟩ := Option.map_eq_some_iff.1 hrun
  have hright := refused_for_age_iff 1000 true 3 [.packet 0 (mediaPacket 1 0) 1,
    .packet 0 (mediaPacket 2 1) 2, .packet 0 (mediaPacket 3 501) 3] (by decide +kernel)
  exact ⟨x, hx, hright _ x (List.prefix_refl _) hx, hjudge⟩

/-- The timestamp wraps: the newest packet is refused. -/
theorem wrapped_timestamp_refused : ∃ x item, Machine.exec step (new 90000 true 2)
    [.packet 0 (mediaPacket 1 4294967280) 1, .packet 0 (mediaPacket 2 100) 2] = some x ∧
    item ∈ x.stream.buffer ∧ x.stream.judge 3 item = .ok .tooOld ∧ ¬ x.Behind item := by
  have hrun : (Machine.exec step (new 90000 true 2)
      [.packet 0 (mediaPacket 1 4294967280) 1, .packet 0 (mediaPacket 2 100) 2]).map
      (fun x => decide (∃ item ∈ x.stream.buffer, x.stream.judge 3 item = .ok .tooOld ∧ ¬ x.Behind item)) =
      some true := by decide +kernel
  obtain ⟨x, hx, hfacts⟩ := Option.map_eq_some_iff.1 hrun
  obtain ⟨item, hitem, hjudge, hbehind⟩ := of_decide_eq_true hfacts
  exact ⟨x, item, hx, hitem, hjudge, hbehind⟩

/-! ## The time of a packet's last retransmission -/

/-- The clock does not go back. -/
def Steady (x : Watched) (e : SendEvent) : Prop := x.clock ≤ e.time.getD x.clock

/-- What is requested and was handed out in the last round trip was handed out at a time that is not 0 and
fits into 32 bits. -/
def Timely (x : Watched) : SendEvent → Prop
  | .request seq bitmask _ now =>
      ∀ item ∈ x.stream.buffer, x.stream.Requested seq bitmask item →
        ∀ out ∈ x.log, out.number = item.clone.number →
          now.toNat < out.time.toNat + x.stream.requestRtt.toNat → out.time ≠ 0 ∧ out.time.toNat < 2 ^ 32
  | .packet .. | .receiverReport _ => True

/-- No packet is handed out again before a round trip is over. -/
def Spaced (x : Watched) : Prop :=
  x.log.Pairwise fun first again => again.number = first.number →
    first.time.toNat + again.rtt.toNat ≤ again.time.toNat

instance (x : Watched) (e : SendEvent) : Decidable (x.Steady e) :=
  inferInstanceAs (Decidable (_ ≤ _))

instance (s : RtpStreamSend) (seq bitmask : UInt16) (item : BufferItem) :
    Decidable (s.Requested seq bitmask item) :=
  inferInstanceAs (Decidable (_ ∈ _))

instance (x : Watched) : (e : SendEvent) → Decidable (x.Timely e)
  | .request .. => inferInstanceAs (Decidable (∀ item ∈ _, _ → ∀ out ∈ _, _))
  | .packet .. | .receiverReport _ => isTrue trivial

instance (x : Watched) : Decidable x.Spaced := inferInstanceAs (Decidable (List.Pairwise _ _))

/-- What the log says of the buffer: an item has the time at which it was handed out last. -/
structure Logged (x : Watched) : Prop where
  kept : Kept x.stream
  number_lt : ∀ out ∈ x.log, out.number < x.stream.clones
  le_clock : ∀ out ∈ x.log, out.time ≤ x.clock
  le_resent : ∀ item ∈ x.stream.buffer, ∀ out ∈ x.log, out.number = item.clone.number →
    out.time ≤ item.resentAtTime
  resent : ∀ item ∈ x.stream.buffer, item.resentAtTime ≠ 0 →
    ∃ out ∈ x.log, out.number = item.clone.number ∧ out.time = item.resentAtTime
  spaced : x.Spaced

section
variable {x y : Watched} {e : SendEvent} {item : BufferItem} {now : UInt64}

theorem logged_new (clockRate : UInt32) (useNack : Bool) (bufferSize : Nat) :
    Logged (new clockRate useNack bufferSize) :=
  { kept := kept_new clockRate useNack bufferSize
    number_lt := nofun
    le_clock := nofun
    le_resent := nofun
    resent := nofun
    spaced := .nil }

/-- **A packet that is resent was not handed out in the last round trip.** -/
theorem Logged.spaced_of_resend {seq bitmask : UInt16} {container : Container} (h : Logged x)
    (hsteady : x.clock ≤ now) (htimely : x.Timely (.request seq bitmask container now))
    (hitem : item ∈ x.stream.buffer) (hrequested : x.stream.Requested seq bitmask item)
    (hjudge : x.stream.judge now item = .ok .resend) {out : HandOut} (hout : out ∈ x.log)
    (hnumber : out.number = item.clone.number) :
    out.time.toNat + x.stream.requestRtt.toNat ≤ now.toNat := by
  by_contra hearly
  have hin := htimely item hitem hrequested
  have hlt : now.toNat < out.time.toNat + x.stream.requestRtt.toNat := Nat.lt_of_not_le hearly
  obtain ⟨hne, -⟩ := hin out hout hnumber hlt
  have hle : out.time ≤ item.resentAtTime := h.le_resent item hitem out hout hnumber
  -- the time of the item is that of its last retransmission, which is in the first cycle of the clock too
  have hresent : item.resentAtTime ≠ 0 := by
    intro hzero
    rw [hzero] at hle
    exact hne (UInt64.le_zero_iff.1 hle)
  obtain ⟨last, hlast, hlastnumber, htime⟩ := h.resent item hitem hresent
  have hle : out.time.toNat ≤ item.resentAtTime.toNat := UInt64.le_iff_toNat_le.1 hle
  obtain ⟨-, hfits⟩ := hin last hlast hlastnumber (by rw [htime]; omega)
  rw [htime] at hfits
  have hclock : item.resentAtTime.toNat ≤ now.toNat := by
    rw [← htime]
    exact UInt64.le_iff_toNat_le.1 (UInt64.le_trans (h.le_clock last hlast) hsteady)
  refine (judge_eq_resend_iff.1 hjudge).2 ((isAlreadyResent_iff hfits).2 ⟨hresent, hclock, ?_⟩)
  omega

/-- Events that hand out nothing. -/
theorem Logged.quiet (h : Logged x) (hkept : Kept y.stream) (hclones : x.stream.clones ≤ y.stream.clones)
    (hclock : x.clock ≤ y.clock) (hlog : y.log = x.log)
    (hitems : ∀ item ∈ y.stream.buffer, item ∈ x.stream.buffer ∨
      item.clone.number = x.stream.clones ∧ item.resentAtTime = 0) : Logged y where
  kept := hkept
  number_lt := by
    rw [hlog]
    exact fun out hout => (h.number_lt out hout).trans_le hclones
  le_clock := by
    rw [hlog]
    exact fun out hout => UInt64.le_trans (h.le_clock out hout) hclock
  le_resent := by
    rw [hlog]
    intro item hitem out hout hnumber
    rcases hitems item hitem with hitem | ⟨hnew, -⟩
    · exact h.le_resent item hitem out hout hnumber
    · exact absurd (hnumber.trans hnew) (h.number_lt out hout).ne
  resent := by
    rw [hlog]
    intro item hitem hne
    rcases hitems item hitem with hitem | ⟨-, hzero⟩
    · exact h.resent item hitem hne
    · exact absurd hzero hne
  spaced := by
    rw [Spaced, hlog]
    exact h.spaced

/-- A request hands out packets that were not handed out in the last round trip. -/
theorem Logged.hand {asked : UInt32 → Prop} {handed : List Clone} (h : Logged x) (hkept : Kept y.stream)
    (hclones : y.stream.clones = x.stream.clones) (hclock : x.clock ≤ now) (hnow : y.clock = now)
    (hlog : y.log = x.log ++
      handed.map fun c => { number := c.number, time := now, rtt := x.stream.requestRtt })
    (hhands : Hands x.stream now asked x.stream.buffer handed y.stream.buffer)
    (hspaced : ∀ item ∈ x.stream.buffer, asked item.seq32 → x.stream.judge now item = .ok .resend →
      ∀ out ∈ x.log, out.number = item.clone.number →
        out.time.toNat + x.stream.requestRtt.toNat ≤ now.toNat) : Logged y where
  kept := hkept
  number_lt := by
    rw [hlog, hclones]
    intro out hout
    rcases List.mem_append.1 hout with hout | hout
    · exact h.number_lt out hout
    · obtain ⟨c, hc, rfl⟩ := List.mem_map.1 hout
      obtain ⟨item, hitem, rfl, -⟩ := hhands.handed_mem hc
      exact h.kept.number_lt item hitem
  le_clock := by
    rw [hlog, hnow]
    intro out hout
    rcases List.mem_append.1 hout with hout | hout
    · exact UInt64.le_trans (h.le_clock out hout) hclock
    · obtain ⟨c, -, rfl⟩ := List.mem_map.1 hout
      exact UInt64.le_refl _
  le_resent := by
    rw [hlog]
    intro item hitem out hout hnumber
    rcases List.mem_append.1 hout with hout | hout
    · rcases hhands.mem hitem with hitem | ⟨-, hmarked⟩
      · exact h.le_resent item hitem out hout hnumber
      · rw [hmarked]
        exact UInt64.le_trans (h.le_clock out hout) hclock
    · obtain ⟨c, hc, rfl⟩ := List.mem_map.1 hout
      obtain ⟨item₀, -, rfl, -, -, hmark⟩ := hhands.handed_mem hc
      rw [List.inj_on_of_nodup_map hkept.numbers hitem hmark hnumber.symm]
      exact UInt64.le_refl _
  resent := by
    rw [hlog]
    intro item hitem hne
    rcases hhands.mem hitem with hitem | ⟨hhanded, hmarked⟩
    · obtain ⟨out, hout, hlast⟩ := h.resent item hitem hne
      exact ⟨out, List.mem_append_left _ hout, hlast⟩
    · exact ⟨_, List.mem_append_right _ (List.mem_map_of_mem hhanded), rfl, hmarked.symm⟩
  spaced := by
    rw [Spaced, hlog]
    refine List.pairwise_append.2 ⟨h.spaced, ?_, ?_⟩
    · have hnodup : (handed.map (·.number)).Nodup := by
        refine List.Nodup.sublist (hhands.sublist.map (·.number)) ?_
        rw [List.map_map]
        exact h.kept.numbers
      exact List.pairwise_map.2 ((List.pairwise_map.1 hnodup).imp fun hne heq => absurd heq.symm hne)
    · intro first hfirst again hagain hnumber
      obtain ⟨c, hc, rfl⟩ := List.mem_map.1 hagain
      obtain ⟨item, hitem, rfl, hasked, hjudge, -⟩ := hhands.handed_mem hc
      exact hspaced item hitem hasked hjudge first hfirst hnumber.symm

/-- **Every event keeps what the log says**, and hands out no packet too early. -/
theorem Logged.step (h : Logged x) (hsteady : x.Steady e) (htimely : x.Timely e)
    (hstep : x.step e = some y) : Logged y := by
  obtain ⟨stream, hstream, rfl⟩ := Option.map_eq_some_iff.1 hstep
  have hkept : Kept stream := h.kept.step hstream
  cases e with
  | packet behind packet now =>
      obtain ⟨⟨u, accepted⟩, hu, rfl⟩ := Option.map_eq_some_iff.1 hstream
      obtain ⟨hclones, hitems⟩ := mem_receivePacket (Checked.toOption_eq_some.1 hu)
      exact h.quiet hkept hclones hsteady (List.append_nil _) fun item hitem =>
        (hitems item hitem).imp_right fun hnew => ⟨hnew.number, hnew.resent⟩
  | receiverReport rtt =>
      cases hstream
      exact h.quiet hkept (Nat.le_refl _) (UInt64.le_refl _) (List.append_nil _) fun _ hitem => .inl hitem
  | request seq bitmask container now =>
      obtain ⟨⟨u, container'⟩, hu, rfl⟩ := Option.map_eq_some_iff.1 hstream
      have hrequest := Checked.toOption_eq_some.1 hu
      obtain ⟨handed, hhands, hholds, hbuffer⟩ := requestRtpRetransmission_hands hrequest
      have hlog : x.log ++ x.handOuts (.request seq bitmask container now) = x.log ++
          handed.map fun c => { number := c.number, time := now, rtt := x.stream.requestRtt } := by
        rw [handOuts, hrequest]
        dsimp only
        rw [hholds.handedOut_eq]
      refine h.hand hkept (by rw [hbuffer]) hsteady rfl hlog hhands fun item hitem hasked hjudge => ?_
      have hseq : (x.stream.packetOf item.clone).getSequenceNumber = item.seq32.toUInt16 := by
        rw [← UInt16.toNat_inj, h.kept.getSequenceNumber hitem, UInt32.toNat_toUInt16]
        rfl
      have hrequested : x.stream.Requested seq bitmask item := by
        rw [RtpStreamSend.Requested, hseq]
        exact hasked h.kept.aligned
      exact fun out => h.spaced_of_resend hsteady htimely hitem hrequested hjudge

end

/-- **No packet is handed out twice in a round trip**, in every run in which the clock does not go back and
what is requested again was handed out in the first 2 ^ 32 milliseconds of the clock, or is over a round trip
ago. -/
theorem spaced_in_first_cycle (clockRate : UInt32) (useNack : Bool) (bufferSize : Nat)
    (events : List SendEvent)
    (h : Machine.Meets step (fun x e => x.Steady e ∧ x.Timely e) (new clockRate useNack bufferSize) events) :
    Machine.Always step Spaced (new clockRate useNack bufferSize) events := by
  rintro pre x ⟨post, rfl⟩ hrun
  exact (Machine.exec_inv_of_meets (fun _ _ _ hx he hstep => Logged.step hx he.1 he.2 hstep) h.of_append hrun
    (logged_new clockRate useNack bufferSize)).spaced

/-- Three requests for a packet: the second comes too early, the third after a round trip. -/
theorem spaced_in_first_cycle_three : ∃ x, Machine.exec step (new 90000 true 2)
    [.packet 0 (mediaPacket 7 0) 1, .request 7 0 (List.replicate 18 none) 5,
      .request 7 0 (List.replicate 18 none) 104, .request 7 0 (List.replicate 18 none) 105] = some x ∧
    x.Spaced ∧ x.log.map (·.time) = [5, 105] := by
  have hrun : (Machine.exec step (new 90000 true 2)
      [.packet 0 (mediaPacket 7 0) 1, .request 7 0 (List.replicate 18 none) 5,
        .request 7 0 (List.replicate 18 none) 104, .request 7 0 (List.replicate 18 none) 105]).map
      (fun x => x.log.map (·.time)) = some [5, 105] := by decide +kernel
  obtain ⟨x, hx, hlog⟩ := Option.map_eq_some_iff.1 hrun
  have hspaced := spaced_in_first_cycle 90000 true 2 [.packet 0 (mediaPacket 7 0) 1,
    .request 7 0 (List.replicate 18 none) 5, .request 7 0 (List.replicate 18 none) 104,
    .request 7 0 (List.replicate 18 none) 105] (by decide +kernel)
  exact ⟨x, hx, hspaced _ x (List.prefix_refl _) hx, hlog⟩

/-- After 2 ^ 32 milliseconds, a packet is handed out in every request. -/
theorem handed_out_twice : ∃ x, Machine.exec step (new 90000 true 2)
    [.packet 0 (mediaPacket 7 0) 4294967296, .request 7 0 (List.replicate 18 none) 4294967297,
      .request 7 0 (List.replicate 18 none) 4294967298] = some x ∧
    Machine.Meets step Steady (new 90000 true 2) [.packet 0 (mediaPacket 7 0) 4294967296,
      .request 7 0 (List.replicate 18 none) 4294967297,
      .request 7 0 (List.replicate 18 none) 4294967298] ∧
    ¬ x.Spaced := by
  have hrun : (Machine.exec step (new 90000 true 2)
      [.packet 0 (mediaPacket 7 0) 4294967296, .request 7 0 (List.replicate 18 none) 4294967297,
        .request 7 0 (List.replicate 18 none) 4294967298]).map (fun x => decide x.Spaced) =
      some false := by decide +kernel
  obtain ⟨x, hx, hspaced⟩ := Option.map_eq_some_iff.1 hrun
  exact ⟨x, hx, by decide +kernel, of_decide_eq_false hspaced⟩

end Watched

end KoreWebsocket.Rtp
