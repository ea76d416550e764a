import Mathlib
import KoreWebsocket.Rtc.Receivers

/-!
# Audio levels of a room (`Room::OnPeerRtpPacket`, `Room::OnTimer`, `mediasoup_1/soup`)

While the event is enabled, a room notes the level of each packet that has one, by receiver, and a timer
reports the average of each receiver and empties the table. The average is computed in 16 bits, and so
is it right only for so many levels (`averages_iff`). A receiver that is closed stays in the table, and
so are its keys receivers that are there only if none is closed while its levels are noted
(`liveKeys_iff`).
-/

namespace KoreWebsocket.Rtc

/-! ## The level of a packet -/

/-- The level of a packet, from the byte of its header extension (`RtpPacket::ReadAudioLevel` and
`volume * -1`). -/
def dBov (byte : UInt8) : Int8 := Int8.ofInt (-(byte &&& 0x7f).toNat)

/-- The levels that a packet can have. -/
def IsLevel (dBov : Int8) : Prop := -127 ≤ dBov.toInt ∧ dBov.toInt ≤ 0

instance (dBov : Int8) : Decidable (IsLevel dBov) := inferInstanceAs (Decidable (_ ∧ _))

/-- A byte of the extension is a level. -/
theorem isLevel_dBov (byte : UInt8) : IsLevel (dBov byte) := by
  have hlt : (byte &&& 0x7f).toNat < 128 := by
    rw [UInt8.toNat_and]
    exact Nat.and_lt_two_pow byte.toNat (by decide : (0x7f : UInt8).toNat < 2 ^ 7)
  rw [IsLevel, dBov, Int8.toInt_ofInt_of_le (by omega) (by omega)]
  omega

/-! ## The average -/

/-- `sumdBovs += dBov`: the sum has 32 bits and is stored in 16. -/
def addLevel (sumdBovs : Int16) (dBov : Int8) : Int16 := Int16.ofInt (sumdBovs.toInt + dBov.toInt)

/-- `avgdBov` in `Room::OnTimer`, unless it is divided by zero. The quotient is truncated towards zero
and has 32 bits. -/
def avgdBov (dBovs : List Int8) : Option Int8 :=
  if dBovs.isEmpty then some (-127)
  else
    let sumdBovs := dBovs.foldl addLevel 0
    let size := Int16.ofNat dBovs.length
    if size = 0 then none else some (Int8.ofInt (sumdBovs.toInt.tdiv size.toInt))

/-- The sum of some levels. -/
def total (dBovs : List Int8) : Int := (dBovs.map Int8.toInt).sum

/-- **The property.** The average is the mean, truncated towards zero, and it is a level. No sum on the
way and no size is too large for its 16 bits. -/
structure Averages (dBovs : List Int8) : Prop where
  mean : ∃ level, avgdBov dBovs = some level ∧ level.toInt = (total dBovs).tdiv dBovs.length ∧
    IsLevel level
  sums : ∀ n, -2 ^ 15 ≤ total (dBovs.take n) ∧ total (dBovs.take n) < 2 ^ 15
  size : dBovs.length < 2 ^ 15

section
variable {dBovs : List Int8}

theorem total_cons (d : Int8) (dBovs : List Int8) : total (d :: dBovs) = d.toInt + total dBovs := by
  rw [total, total, List.map_cons, List.sum_cons]

theorem total_append (dBovs dBovs' : List Int8) : total (dBovs ++ dBovs') = total dBovs + total dBovs' := by
  rw [total, total, total, List.map_append, List.sum_append]

/-- The sum of the levels is as large as their number allows. -/
theorem total_bounds (hlevels : ∀ d ∈ dBovs, IsLevel d) :
    -127 * (dBovs.length : Int) ≤ total dBovs ∧ total dBovs ≤ 0 := by
  induction dBovs with
  | nil => exact ⟨le_rfl, le_rfl⟩
  | cons d dBovs ih =>
      obtain ⟨⟨hge, hle⟩, hlevels⟩ := List.forall_mem_cons.1 hlevels
      obtain ⟨hge', hle'⟩ := ih hlevels
      rw [total_cons, List.length_cons]
      push_cast
      omega

/-- **Run.** The sum is exact as long as it fits. -/
theorem toInt_foldl_addLevel (hlevels : ∀ d ∈ dBovs, IsLevel d) (sumdBovs : Int16)
    (hneg : sumdBovs.toInt ≤ 0) (hfits : -2 ^ 15 ≤ sumdBovs.toInt + total dBovs) :
    (dBovs.foldl addLevel sumdBovs).toInt = sumdBovs.toInt + total dBovs := by
  induction dBovs generalizing sumdBovs with
  | nil => exact (Int.add_zero _).symm
  | cons d dBovs ih =>
      obtain ⟨⟨hge, hle⟩, hlevels⟩ := List.forall_mem_cons.1 hlevels
      obtain ⟨-, hrest⟩ := total_bounds hlevels
      rw [total_cons] at hfits ⊢
      have hsum : (addLevel sumdBovs d).toInt = sumdBovs.toInt + d.toInt :=
        Int16.toInt_ofInt_of_le (by omega) (by omega)
      rw [List.foldl_cons, ih hlevels _ (by omega) (by omega), hsum, Int.add_assoc]

/-- The mean of levels is a level. -/
theorem mean_bounds (hlevels : ∀ d ∈ dBovs, IsLevel d) :
    -127 ≤ (total dBovs).tdiv dBovs.length ∧ (total dBovs).tdiv dBovs.length ≤ 0 := by
  obtain ⟨hge, hle⟩ := total_bounds hlevels
  obtain ⟨m, hm⟩ := Int.eq_ofNat_of_zero_le (Int.neg_nonneg_of_nonpos hle)
  have htotal : total dBovs = -(m : Int) := by omega
  have hdiv : m / dBovs.length ≤ 127 := Nat.div_le_of_le_mul (by rw [htotal] at hge; lia)
  rw [htotal, Int.neg_tdiv, ← Int.ofNat_tdiv]
  generalize m / dBovs.length = quotient at hdiv
  omega

/-- **The average of levels is their mean just if their sum is at least -32768 and there are at most
32767.** -/
theorem averages_iff (dBovs : List Int8) (hne : dBovs ≠ []) (hlevels : ∀ d ∈ dBovs, IsLevel d) :
    Averages dBovs ↔ -32768 ≤ total dBovs ∧ dBovs.length ≤ 32767 := by
  constructor
  · intro h
    have hsum := (h.sums dBovs.length).1
    rw [List.take_length] at hsum
    have hsize := h.size
    exact ⟨by omega, by omega⟩
  · rintro ⟨hsum, hsize⟩
    have hpos : 0 < dBovs.length := List.length_pos_iff.2 hne
    have hsize16 : (Int16.ofNat dBovs.length).toInt = dBovs.length := by
      rw [Int16.toInt_ofNat']
      exact Int.bmod_eq_of_le (by norm_num) (by norm_num; omega)
    have hzero : Int16.ofNat dBovs.length ≠ 0 := by
      intro h
      rw [h] at hsize16
      change (0 : Int) = dBovs.length at hsize16
      omega
    have hexact := toInt_foldl_addLevel hlevels 0 le_rfl (by change _ ≤ 0 + total dBovs; omega)
    obtain ⟨hge, hle⟩ := mean_bounds hlevels
    have hlevel : (Int8.ofInt ((total dBovs).tdiv dBovs.length)).toInt = (total dBovs).tdiv dBovs.length :=
      Int8.toInt_ofInt_of_le (by omega) (by omega)
    refine ⟨⟨Int8.ofInt ((total dBovs).tdiv dBovs.length), ?_, hlevel, ?_⟩, fun n => ?_, by omega⟩
    · rw [avgdBov, if_neg (by simpa using hne)]
      dsimp only
      rw [if_neg hzero, hexact, hsize16]
      change some (Int8.ofInt ((0 + total dBovs).tdiv _)) = _
      rw [Int.zero_add]
    · rw [IsLevel, hlevel]
      exact ⟨hge, hle⟩
    · -- a sum on the way is not below the last
      have hsplit := total_append (dBovs.take n) (dBovs.drop n)
      rw [List.take_append_drop] at hsplit
      have hbefore : total (dBovs.take n) ≤ 0 :=
        (total_bounds fun d hd => hlevels d (List.mem_of_mem_take hd)).2
      have hbehind : total (dBovs.drop n) ≤ 0 :=
        (total_bounds fun d hd => hlevels d (List.mem_of_mem_drop hd)).2
      omega

end

/-- The average of three levels. -/
theorem averages_iff_threePackets : Averages [-127, -30, -2] :=
  (averages_iff [-127, -30, -2] (by simp) (by decide +kernel)).2 (by decide +kernel)

/-- The sum of 259 silent packets wraps, and the average is 126. The size of 65536 packets is 0. -/
theorem averages_of_many_packets :
    avgdBov (List.replicate 259 (-127)) = some 126 ∧ avgdBov (List.replicate 65536 0) = none ∧
    ¬ ∀ dBovs : List Int8, dBovs ≠ [] → (∀ d ∈ dBovs, IsLevel d) → Averages dBovs := by
  have hwraps : avgdBov (List.replicate 259 (-127)) = some 126 := by decide +kernel
  have hne : ∀ {n : Nat} (d : Int8), 0 < n → List.replicate n d ≠ [] := fun d hn h =>
    hn.ne' ((List.replicate_eq_nil_iff d).1 h)
  refine ⟨hwraps, ?_, fun h => ?_⟩
  · rw [avgdBov, if_neg fun h => hne 0 (Nat.succ_pos 65535) (List.isEmpty_iff.1 h),
      List.length_replicate]
    exact if_pos (by decide)
  · have hlevels : ∀ d ∈ List.replicate 259 (-127 : Int8), IsLevel d := fun d hd => by
      rw [List.eq_of_mem_replicate hd]
      decide
    obtain ⟨level, hlevel, -, hle⟩ := (h _ (hne _ (Nat.succ_pos 258)) hlevels).mean
    rw [hwraps] at hlevel
    cases hlevel
    exact absurd hle (by decide)

/-! ## The table of levels -/

/-- A pointer to a receiver: its ids, and how many receivers with these ids were closed before it. -/
abbrev RtpReceiverPtr := Ref × Nat

/-- A room with its audio levels. The room is deleted at its end, and the timer with it. -/
structure AudioRoom where
  room : Room
  mapRtpReceiverAudioLevels : Table RtpReceiverPtr (List Int8) := ∅
  audioLevelsTimer : Bool := false
  deleted : Bool := false
  /-- The receivers that are closed, counted by their ids. -/
  closed : Ref → Nat := fun _ => 0

/-- The streams of a receiver have a `ssrcAudioLevelId` (`RtpReceiver::CreateRtpStream`). -/
def RtpReceiver.hasAudioLevelId (r : RtpReceiver) : Bool :=
  r.kind = .audio && r.rtpParameters.any fun p =>
    p.headerExtensions.any fun exten => exten.type = .ssrcAudioLevel && exten.id ≠ 0

/-- The receiver that a packet is for, which has a stream with its SSRC (`RtpListener::GetRtpReceiver`,
`RtpReceiver::ReceiveRtpPacket`). -/
def Room.receiverOf (room : Room) (peerId transportId ssrc : UInt32) (payloadType : UInt8) :
    Option (Ref × RtpReceiver) := do
  let peer ← room.peers.find? peerId
  let t ← peer.transports.find? transportId
  let id ← (t.rtpListener.getRtpReceiver peer.payloadTypesOf ssrc payloadType).1
  let r ← peer.rtpReceivers.find? (UInt32.ofNat id)
  if ssrc ∈ r.rtpStreams ∨ ssrc ∈ r.rtxStreamMap then some ((peerId, UInt32.ofNat id), r) else none

/-- What happens to a room with audio levels: a request, the end of a transport or a packet that no
stream accepts; a packet that a stream accepts, with the byte of its header extension for the audio
level, if it has one; and the timer. -/
inductive AudioEvent
  | room (e : RoomEvent)
  | rtpPacket (peerId transportId ssrc : UInt32) (payloadType : UInt8) (extenValue : Option UInt8)
  | timer

namespace AudioRoom

variable (s : AudioRoom)

/-- The room changes, and the receivers that it loses are closed. -/
def become (room : Room) : AudioRoom :=
  { s with
    room
    closed := fun ref =>
      if s.room.view.alive ref && !room.view.alive ref then s.closed ref + 1 else s.closed ref }

/-- The receiver that a pointer is to has not been closed. -/
def IsLive (rtpReceiver : RtpReceiverPtr) : Prop :=
  s.room.view.alive rtpReceiver.1 = true ∧ rtpReceiver.2 = s.closed rtpReceiver.1

instance (rtpReceiver : RtpReceiverPtr) : Decidable (s.IsLive rtpReceiver) :=
  inferInstanceAs (Decidable (_ ∧ _))

/-- What a request leaves of the table and the timer, with the room that it leaves
(`Room::HandleRequest`). -/
def handleRequest (method : Worker.MethodId) (room : Room) : AudioRoom :=
  match method with
  | .roomClose =>
      { s.become room with
        mapRtpReceiverAudioLevels := ∅, audioLevelsTimer := false, deleted := true }
  | .roomSetAudioLevelsEvent =>
      if room.audioLevelsEventEnabled = s.room.audioLevelsEventEnabled then s.become room
      else
        { s.become room with
          mapRtpReceiverAudioLevels := ∅, audioLevelsTimer := room.audioLevelsEventEnabled }
  | _ => s.become room

/-- What an event of the room leaves, with the room that it leaves. -/
def onRoomEvent (e : RoomEvent) (room : Room) : AudioRoom :=
  match e with
  | .request _ request => s.handleRequest request.method room
  | .transportClosed .. | .rtpPacket .. => s.become room

/-- `mapRtpReceiverAudioLevels[rtpReceiver].push_back(dBov)`. -/
def note (ref : Ref) (dBov : Int8) : AudioRoom :=
  { s with
    mapRtpReceiverAudioLevels := s.mapRtpReceiverAudioLevels.insert (ref, s.closed ref)
      ((s.mapRtpReceiverAudioLevels.find? (ref, s.closed ref)).getD [] ++ [dBov]) }

/-- `Room::OnPeerRtpPacket`, unless its assertion fails. -/
def onPeerRtpPacket (ref : Ref) (r : RtpReceiver) (extenValue : Option UInt8) : Option AudioRoom :=
  if (s.room.mapRtpReceiverRtpSenders.find? ref).isNone then none
  else
    match extenValue with
    | some byte =>
        some (if s.room.audioLevelsEventEnabled && r.hasAudioLevelId then s.note ref (dBov byte) else s)
    | none => some s

/-- The entries that `Room::OnTimer` emits. A receiver that is deleted has no id. -/
def entries : Option (List (UInt32 × Int8)) :=
  s.mapRtpReceiverAudioLevels.entries.mapM fun (rtpReceiver, dBovs) => do
    let audioLevel ← avgdBov dBovs
    if s.IsLive rtpReceiver then some (rtpReceiver.1.2, audioLevel) else none

/-- `Room::OnTimer`, which is called while the timer runs. -/
def onTimer : Option AudioRoom :=
  if s.audioLevelsTimer then s.entries.map fun _ => { s with mapRtpReceiverAudioLevels := ∅ } else none

/-- The room after an event, unless it is deleted before or the event ends the process. -/
def step (e : AudioEvent) : Option AudioRoom :=
  if s.deleted then none
  else
    match e with
    | .room e => (s.room.step e).map (s.onRoomEvent e)
    | .rtpPacket peerId transportId ssrc payloadType extenValue => do
        let (ref, r) ← s.room.receiverOf peerId transportId ssrc payloadType
        let room ← s.room.step (.rtpPacket peerId transportId ssrc payloadType)
        (s.become room).onPeerRtpPacket ref r extenValue
    | .timer => s.onTimer

/-- The lists in the table are not empty and are made of levels. -/
def NotesLevels : Prop := ∀ rtpReceiver dBovs,
  s.mapRtpReceiverAudioLevels.find? rtpReceiver = some dBovs → dBovs ≠ [] ∧ ∀ d ∈ dBovs, IsLevel d

/-- **The property.** The keys of the table are receivers that have not been closed. -/
def LiveKeys : Prop := ∀ rtpReceiver ∈ s.mapRtpReceiverAudioLevels.keys, s.IsLive rtpReceiver

/-- The event closes no receiver whose levels are noted. -/
def ClosesUnnoted : AudioEvent → Prop
  | .room (.request _ request) =>
      ∀ rtpReceiver ∈ s.mapRtpReceiverAudioLevels.keys, ¬ request.Closes rtpReceiver.1
  | _ => True

section
variable {s : AudioRoom} {rtpReceiver : RtpReceiverPtr} {room : Room}

/-- A receiver is live afterwards if it was and the room still has it. -/
theorem isLive_become (h : s.IsLive rtpReceiver) :
    (s.become room).IsLive rtpReceiver ↔ room.view.alive rtpReceiver.1 = true := by
  refine and_iff_left_of_imp fun halive => h.2.trans ?_
  change room.view.alive rtpReceiver.1 = true at halive
  change _ = if s.room.view.alive rtpReceiver.1 && !room.view.alive rtpReceiver.1 then _ else _
  rw [halive, Bool.not_true, Bool.and_false]
  rfl

/-- The keys are live if they were and the room has as many receivers as before. -/
theorem liveKeys_become (h : s.LiveKeys) (hview : room.view = s.room.view) : (s.become room).LiveKeys :=
  fun rtpReceiver hmem => (isLive_become (h rtpReceiver hmem)).2 (by
    rw [hview]
    exact (h rtpReceiver hmem).1)

/-- Without notes nobody dead is noted. -/
theorem liveKeys_of_empty (h : s.mapRtpReceiverAudioLevels = ∅) : s.LiveKeys := by
  intro rtpReceiver hmem
  rw [h] at hmem
  exact absurd hmem List.not_mem_nil

/-- The timer reads no receiver that is deleted. -/
theorem entries_isSome (h : s.LiveKeys)
    (haverages : ∀ e ∈ s.mapRtpReceiverAudioLevels.entries, (avgdBov e.2).isSome = true) :
    s.entries.isSome = true := by
  have hmapM : ∀ es : List (RtpReceiverPtr × List Int8),
      (∀ e ∈ es, s.IsLive e.1 ∧ (avgdBov e.2).isSome = true) →
      (es.mapM fun (rtpReceiver, dBovs) => do
        let audioLevel ← avgdBov dBovs
        if s.IsLive rtpReceiver then some (rtpReceiver.1.2, audioLevel) else none).isSome = true := by
    intro es hes
    induction es with
    | nil => rfl
    | cons e es ih =>
        obtain ⟨⟨hlive, haverage⟩, hes⟩ := List.forall_mem_cons.1 hes
        obtain ⟨audioLevel, haudioLevel⟩ := Option.isSome_iff_exists.1 haverage
        obtain ⟨rest, hrest⟩ := Option.isSome_iff_exists.1 (ih hes)
        rw [List.mapM_cons, hrest]
        simp [haudioLevel, hlive]
  exact hmapM _ fun e he => ⟨h e.1 (List.mem_map_of_mem he), haverages e he⟩

/-- A live receiver is noted. -/
theorem liveKeys_note (h : s.LiveKeys) {ref : Ref} (halive : s.room.view.alive ref = true) (level : Int8) :
    (s.note ref level).LiveKeys := by
  intro rtpReceiver hmem
  obtain ⟨dBovs, hfind⟩ := (Table.mem_keys _).1 hmem
  rw [note, Table.find?_insert] at hfind
  split at hfind
  case isTrue heq =>
    rw [heq]
    exact ⟨halive, rfl⟩
  case isFalse => exact h rtpReceiver ((Table.mem_keys _).2 ⟨dBovs, hfind⟩)

/-- Who receives a packet is alive. -/
theorem alive_of_receiverOf {peerId transportId ssrc : UInt32} {payloadType : UInt8} {ref : Ref}
    {r : RtpReceiver} (h : room.receiverOf peerId transportId ssrc payloadType = some (ref, r)) :
    room.view.alive ref = true := by
  obtain ⟨peer, hpeer, h⟩ := Option.bind_eq_some_iff.1 h
  obtain ⟨t, -, h⟩ := Option.bind_eq_some_iff.1 h
  obtain ⟨id, -, h⟩ := Option.bind_eq_some_iff.1 h
  obtain ⟨r', hr, h⟩ := Option.bind_eq_some_iff.1 h
  split at h
  case isTrue =>
    cases h
    rw [Room.view_alive, hpeer, Option.any_some, hr]
    rfl
  case isFalse => cases h

/-- A packet changes no receiver. -/
theorem view_rtpPacket {peerId transportId ssrc : UInt32} {payloadType : UInt8} {room' : Room}
    (h : room.step (.rtpPacket peerId transportId ssrc payloadType) = some room') :
    room'.view = room.view := by
  cases h
  exact Room.view_modifyPeer fun _ _ => Peer.sameMembers_transports _

/-- **Step, for a packet.** Its receiver is there, and so it is a key. -/
theorem liveKeys_rtpPacket (h : s.LiveKeys) {peerId transportId ssrc : UInt32} {payloadType : UInt8}
    {extenValue : Option UInt8} {s' : AudioRoom} (hdeleted : s.deleted = false)
    (hstep : s.step (.rtpPacket peerId transportId ssrc payloadType extenValue) = some s') :
    s'.LiveKeys := by
  rw [step, hdeleted, if_neg Bool.false_ne_true] at hstep
  obtain ⟨⟨ref, r⟩, href, hstep⟩ := Option.bind_eq_some_iff.1 hstep
  obtain ⟨room, hroom, hstep⟩ := Option.bind_eq_some_iff.1 hstep
  have hview := view_rtpPacket hroom
  have hlive := liveKeys_become h hview
  have halive : (s.become room).room.view.alive ref = true :=
    (congrFun (congrArg View.alive hview) ref).trans (alive_of_receiverOf href)
  unfold onPeerRtpPacket at hstep
  split at hstep
  case isTrue => cases hstep
  case isFalse =>
    split at hstep
    case h_2 => cases hstep; exact hlive
    case h_1 =>
      cases hstep
      split
      · exact liveKeys_note hlive halive _
      · exact hlive

/-- **Step, for a request.** It keeps the property just if it closes no receiver that is a key. -/
theorem liveKeys_request_iff (h : s.LiveKeys) {env : Environment} {request : Request} {room : Room}
    (hroom : s.room.step (.request env request) = some room) :
    (s.handleRequest request.method room).LiveKeys ↔ s.ClosesUnnoted (.room (.request env request)) := by
  have hok : (s.room.handleRequest env request).2 = .ok room := Checked.toOption_eq_some.1 hroom
  have hothers : request.method ≠ .roomClose →
      ((s.become room).LiveKeys ↔ s.ClosesUnnoted (.room (.request env request))) := by
    intro hmethod
    constructor
    · intro hlive rtpReceiver hmem hcloses
      have halive := (isLive_become (h rtpReceiver hmem)).1 (hlive rtpReceiver hmem)
      rw [Room.leaves_handleRequest_of_closes (h rtpReceiver hmem).1 hcloses room hok] at halive
      cases halive
    · intro hunnoted rtpReceiver hmem
      refine (isLive_become (h rtpReceiver hmem)).2 ?_
      exact Room.leavesAlive_handleRequest (h rtpReceiver hmem).1 hmethod (hunnoted rtpReceiver hmem)
        room hok
  have hneither : request.method ≠ .peerClose → request.method ≠ .rtpReceiverClose →
      s.ClosesUnnoted (.room (.request env request)) := by
    rintro hpeer hreceiver rtpReceiver - ⟨-, hmethod | ⟨hmethod, -⟩⟩
    · exact hpeer hmethod
    · exact hreceiver hmethod
  unfold handleRequest
  split
  case h_1 hmethod =>
    exact iff_of_true (liveKeys_of_empty rfl) (hneither (by rw [hmethod]; nofun) (by rw [hmethod]; nofun))
  case h_2 hmethod =>
    split
    case isTrue => exact hothers (by rw [hmethod]; nofun)
    case isFalse =>
      exact iff_of_true (liveKeys_of_empty rfl)
        (hneither (by rw [hmethod]; nofun) (by rw [hmethod]; nofun))
  case h_3 hmethod _ => exact hothers hmethod

/-- **Step.** -/
theorem liveKeys_step_iff (h : s.LiveKeys) {e : AudioEvent} {s' : AudioRoom} (hstep : s.step e = some s') :
    s'.LiveKeys ↔ s.ClosesUnnoted e := by
  have hdeleted : s.deleted = false := by
    unfold step at hstep
    split at hstep
    case isTrue => cases hstep
    case isFalse hdeleted => exact Bool.eq_false_iff.2 hdeleted
  cases e with
  | rtpPacket => exact iff_of_true (liveKeys_rtpPacket h hdeleted hstep) trivial
  | timer =>
      rw [step, hdeleted, if_neg Bool.false_ne_true] at hstep
      change s.onTimer = some s' at hstep
      unfold onTimer at hstep
      split at hstep
      case isTrue =>
        obtain ⟨entries, -, rfl⟩ := Option.map_eq_some_iff.1 hstep
        exact iff_of_true (liveKeys_of_empty rfl) trivial
      case isFalse => cases hstep
  | room e =>
      rw [step, hdeleted, if_neg Bool.false_ne_true] at hstep
      obtain ⟨room, hroom, rfl⟩ := Option.map_eq_some_iff.1 hstep
      cases e with
      | request env request => exact liveKeys_request_iff h hroom
      | transportClosed peerId transportId =>
          cases hroom
          refine iff_of_true (liveKeys_become h ?_) trivial
          exact Room.view_modifyPeer fun _ _ => Peer.sameMembers_onTransportClosed transportId
      | rtpPacket peerId transportId ssrc payloadType =>
          exact iff_of_true (liveKeys_become h (view_rtpPacket hroom)) trivial

/-- A level is added to those of its receiver. -/
theorem notesLevels_note (h : s.NotesLevels) (ref : Ref) (byte : UInt8) :
    (s.note ref (dBov byte)).NotesLevels := by
  intro rtpReceiver dBovs hfind
  rw [note, Table.find?_insert] at hfind
  split at hfind
  case isFalse => exact h rtpReceiver dBovs hfind
  case isTrue =>
    cases hfind
    refine ⟨List.append_ne_nil_of_right_ne_nil _ (List.cons_ne_nil _ _), fun d hd => ?_⟩
    rcases List.mem_append.1 hd with hd | hd
    · cases hlevels : s.mapRtpReceiverAudioLevels.find? (ref, s.closed ref) with
      | none =>
          rw [hlevels] at hd
          exact absurd hd List.not_mem_nil
      | some dBovs =>
          rw [hlevels] at hd
          exact (h _ dBovs hlevels).2 d hd
    · rw [List.mem_singleton.1 hd]
      exact isLevel_dBov byte

/-- Without notes there is nothing but levels. -/
theorem notesLevels_of_empty (h : s.mapRtpReceiverAudioLevels = ∅) : s.NotesLevels := by
  intro rtpReceiver dBovs hfind
  rw [h] at hfind
  cases hfind

/-- What else happens in the room notes nothing. -/
theorem notesLevels_onRoomEvent (h : s.NotesLevels) (e : RoomEvent) (room : Room) :
    (s.onRoomEvent e room).NotesLevels := by
  unfold onRoomEvent
  split
  case h_1 request =>
    unfold handleRequest
    split
    case h_1 => exact notesLevels_of_empty rfl
    case h_2 =>
      split
      · exact h
      · exact notesLevels_of_empty rfl
    case h_3 => exact h
  case h_2 => exact h
  case h_3 => exact h

/-- Every event notes levels only. -/
theorem notesLevels_step (h : s.NotesLevels) {e : AudioEvent} {s' : AudioRoom}
    (hstep : s.step e = some s') : s'.NotesLevels := by
  unfold step at hstep
  split at hstep
  case isTrue => cases hstep
  case isFalse =>
    cases e with
    | room e =>
        obtain ⟨room, -, rfl⟩ := Option.map_eq_some_iff.1 hstep
        exact notesLevels_onRoomEvent h e room
    | rtpPacket peerId transportId ssrc payloadType extenValue =>
        obtain ⟨⟨ref, r⟩, -, hstep⟩ := Option.bind_eq_some_iff.1 hstep
        obtain ⟨room, -, hstep⟩ := Option.bind_eq_some_iff.1 hstep
        have hroom : (s.become room).NotesLevels := h
        unfold onPeerRtpPacket at hstep
        split at hstep
        case isTrue => cases hstep
        case isFalse =>
          split at hstep
          case h_2 => cases hstep; exact hroom
          case h_1 =>
            cases hstep
            split
            · exact notesLevels_note hroom ref _
            · exact hroom
    | timer =>
        change s.onTimer = some s' at hstep
        unfold onTimer at hstep
        split at hstep
        case isTrue =>
          obtain ⟨entries, -, rfl⟩ := Option.map_eq_some_iff.1 hstep
          exact notesLevels_of_empty rfl
        case isFalse => cases hstep

/-- **The lists that the timer averages**, after every run. -/
theorem notesLevels_of_exec {room : Room} {events : List AudioEvent} {s' : AudioRoom}
    (h : Machine.exec step { room } events = some s') : s'.NotesLevels :=
  Machine.exec_inv (fun _ _ _ hI hstep => notesLevels_step hI hstep) h (notesLevels_of_empty rfl)

/-- **The keys of the table are live receivers throughout a run just if no receiver is closed while its
levels are noted.** -/
theorem liveKeys_iff {room : Room} {events : List AudioEvent} {s' : AudioRoom}
    (h : Machine.exec step { room } events = some s') :
    Machine.Always step LiveKeys { room } events ↔ Machine.Meets step ClosesUnnoted { room } events :=
  Machine.always_iff_meets (I := fun _ => True) (fun _ _ _ _ _ => trivial)
    (fun _ _ _ _ hlive hstep => liveKeys_step_iff hlive hstep) h trivial (liveKeys_of_empty rfl)

end

instance : DecidablePred LiveKeys := fun s =>
  inferInstanceAs (Decidable (∀ rtpReceiver ∈ s.mapRtpReceiverAudioLevels.keys, s.IsLive rtpReceiver))

instance : ∀ (s : AudioRoom) (e : AudioEvent), Decidable (s.ClosesUnnoted e)
  | s, .room (.request _ request) =>
      inferInstanceAs (Decidable
        (∀ rtpReceiver ∈ s.mapRtpReceiverAudioLevels.keys, ¬ request.Closes rtpReceiver.1))
  | _, .room (.transportClosed ..) | _, .room (.rtpPacket ..) | _, .rtpPacket .. | _, .timer =>
      isTrue trivial

/-- An Opus codec, in JSON. -/
def opus : JsonCpp.Value :=
  .object [("kind", .string "audio"), ("name", .string "audio/opus"), ("clockRate", .int 48000),
    ("payloadType", .int 100), ("numChannels", .int 2)]

/-- The header extension for audio levels, in JSON. -/
def ssrcAudioLevel (id : String) : JsonCpp.Value :=
  .object [("kind", .string "audio"), ("uri", .string "urn:ietf:params:rtp-hdrext:ssrc-audio-level"),
    (id, .int 1)]

/-- The event is enabled, and a packet of an audio receiver has a level. -/
def noted : List AudioEvent :=
  [.room (Room.numberedRequest .roomCreatePeer [("peerId", .int 1), ("peerName", .string "alice")] []),
    .room (Room.numberedRequest .peerSetCapabilities [("peerId", .int 1)]
      [("codecs", .array [opus]), ("headerExtensions", .array [ssrcAudioLevel "preferredId"])]),
    .room (Room.numberedRequest .peerCreateTransport [("peerId", .int 1), ("transportId", .int 7)] []),
    .room (Room.numberedRequest .peerCreateRtpReceiver
      [("peerId", .int 1), ("transportId", .int 7), ("rtpReceiverId", .int 5)]
      [("kind", .string "audio")]),
    .room (Room.numberedRequest .rtpReceiverReceive [("peerId", .int 1), ("rtpReceiverId", .int 5)]
      [("codecs", .array [opus]), ("encodings", .array [.object [("ssrc", .int 1111)]]),
        ("headerExtensions", .array [ssrcAudioLevel "id"])]),
    .room (Room.numberedRequest .roomSetAudioLevelsEvent [] [("enabled", .bool true)]),
    .rtpPacket 1 7 1111 100 (some 30)]

/-- The receiver is closed. -/
def closing : AudioEvent :=
  .room (Room.numberedRequest .rtpReceiverClose [("peerId", .int 1), ("rtpReceiverId", .int 5)] [])

/-- The levels are sent before the receiver closes. -/
theorem liveKeys_iff_timer : ∃ room s,
    Room.create 1 (.object [("mediaCodecs", .array [opus])]) = .ok room ∧
      Machine.exec step { room } (noted ++ [.timer, closing]) = some s ∧
      Machine.Always step LiveKeys { room } (noted ++ [.timer, closing]) := by
  have hrun : ∃ room, Room.create 1 (.object [("mediaCodecs", .array [opus])]) = .ok room ∧
      (Machine.exec step { room } (noted ++ [.timer, closing])).isSome = true ∧
      Machine.Meets step ClosesUnnoted { room } (noted ++ [.timer, closing]) :=
    Room.exists_create (fun _ h => of_decide_eq_true h) (by decide +kernel)
  obtain ⟨room, hcreate, hexec, hmeets⟩ := hrun
  obtain ⟨s, hs⟩ := Option.isSome_iff_exists.1 hexec
  exact ⟨room, s, hcreate, hs, (liveKeys_iff hs).2 hmeets⟩

/-- A receiver is closed between its packet and the timer, which then reads it. -/
theorem closed_receiver_is_key :
    (∃ room s, Room.create 1 (.object [("mediaCodecs", .array [opus])]) = .ok room ∧
      Machine.exec step { room } (noted ++ [closing]) = some s ∧ ¬ s.LiveKeys ∧
      s.audioLevelsTimer = true ∧ s.entries = none) ∧
    ¬ ∀ (room : Room) (events : List AudioEvent) (s : AudioRoom),
      Machine.exec step { room } events = some s → Machine.Always step LiveKeys { room } events := by
  have hrun : ∃ room, Room.create 1 (.object [("mediaCodecs", .array [opus])]) = .ok room ∧
      (Machine.exec step { room } (noted ++ [closing])).any (fun s =>
        !decide s.LiveKeys && s.audioLevelsTimer && s.entries.isNone) = true :=
    Room.exists_create (fun _ h => h) (by decide +kernel)
  obtain ⟨room, hcreate, hany⟩ := hrun
  obtain ⟨s, hs, hcheck⟩ := (Option.any_eq_true _ _).1 hany
  simp only [Bool.and_eq_true, Bool.not_eq_true', decide_eq_false_iff_not, Option.isNone_iff_eq_none]
    at hcheck
  obtain ⟨⟨hlive, htimer⟩, hentries⟩ := hcheck
  refine ⟨⟨room, s, hcreate, hs, hlive, htimer, hentries⟩, fun h => hlive ?_⟩
  exact h room _ s hs _ s List.prefix_rfl hs

end AudioRoom

end KoreWebsocket.Rtc
