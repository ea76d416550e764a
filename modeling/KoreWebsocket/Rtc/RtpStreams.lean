import KoreWebsocket.Lib.Machine
import KoreWebsocket.Rtc.Codecs

/-!
# The streams of a receiver (`RtpReceiver::CreateRtpStream` and `ClearRtpStreams`, `mediasoup_1/soup`)

A receiver has its streams by their SSRC, and those with an RTX SSRC by that too. New parameters delete
the streams and clear the first table only, so the second has streams that are there just if it is empty
whenever new parameters are accepted (`liveRtx_iff`).
-/

namespace KoreWebsocket.Rtc

/-- `RtpStreamRecv`, of which the tables have pointers. -/
structure StreamRecv where
  ssrc : UInt32
  rtxPayloadType : UInt8 := 0
  rtxSsrc : UInt32 := 0
  deriving DecidableEq, Repr

/-- `RtpStreamRecv::SetRtx`. -/
def StreamRecv.setRtx (payloadType : UInt8) (ssrc : UInt32) (stream : StreamRecv) : StreamRecv :=
  { stream with rtxPayloadType := payloadType, rtxSsrc := ssrc }

/-- A receiver with its streams: the tables have pointers, and `streams` has what is not deleted.
Pointers are numbered as they are allocated. -/
structure ReceiverStreams where
  hasTransport : Bool := false
  rtpStreams : Table UInt32 Nat := ∅
  rtxStreamMap : Table UInt32 Nat := ∅
  streams : Table Nat StreamRecv := ∅
  allocated : Nat := 0

namespace ReceiverStreams

variable (s : ReceiverStreams)

/-- `this->rtpStreams[ssrc] = new RTC::RtpStreamRecv(this, params)`. -/
def newStream (ssrc : UInt32) : ReceiverStreams :=
  { s with
    rtpStreams := s.rtpStreams.insert ssrc s.allocated
    streams := s.streams.insert s.allocated { ssrc }
    allocated := s.allocated + 1 }

/-- The RTX SSRC of the stream at a pointer is set, and it is noted. -/
def setRtx (rtpStream : Nat) (payloadType : UInt8) (rtxSsrc : UInt32) : ReceiverStreams :=
  { s with
    rtxStreamMap := s.rtxStreamMap.insert rtxSsrc rtpStream
    streams := s.streams.modify rtpStream (StreamRecv.setRtx payloadType rtxSsrc) }

/-- The RTX part of `RtpReceiver::CreateRtpStream`, for the stream at a pointer. -/
def createRtxStream (p : RtpParameters) (rtpStream : Nat) (encoding : RtpEncodingParameters) :
    Except Fault ReceiverStreams :=
  if encoding.hasRtx && encoding.rtx.ssrc ≠ 0 && (s.rtxStreamMap.find? encoding.rtx.ssrc).isNone then do
    let codec ← p.getRtxCodecForEncoding encoding
    if codec.hasPayloadType then return s.setRtx rtpStream codec.payloadType encoding.rtx.ssrc
    return s
  else .ok s

/-- `RtpReceiver::CreateRtpStream`. -/
def createRtpStream (p : RtpParameters) (s : ReceiverStreams) (encoding : RtpEncodingParameters) :
    Except Fault ReceiverStreams :=
  if encoding.ssrc = 0 ∨ (s.rtpStreams.find? encoding.ssrc).isSome then .ok s
  else do
    let codec ← p.getCodecForEncoding encoding
    if codec.useRemb && !s.hasTransport then .error .nullTransport
    else (s.newStream encoding.ssrc).createRtxStream p s.allocated encoding

/-- `RtpReceiver::ClearRtpStreams`. -/
def clearRtpStreams : ReceiverStreams :=
  { s with
    rtpStreams := ∅
    streams := s.streams.filter fun rtpStream _ => rtpStream ∉ s.rtpStreams.entries.map Prod.snd }

/-- `RTP_RECEIVER_RECEIVE` with parameters that are accepted. -/
def receive (p : RtpParameters) : Except Fault ReceiverStreams :=
  p.encodings.foldlM (createRtpStream p) s.clearRtpStreams

/-- The stream that `RtpReceiver::ReceiveRtpPacket` passes a packet to, if there is one. There is no
result if the stream is deleted or the assertion of `RtpStreamRecv::ReceiveRtxPacket` fails. -/
def receiveRtpPacket (ssrc : UInt32) : Option (Option Nat) :=
  match s.rtpStreams.find? ssrc with
  | some rtpStream => (s.streams.find? rtpStream).map fun _ => some rtpStream
  | none =>
      match s.rtxStreamMap.find? ssrc with
      | some rtpStream => do
          let stream ← s.streams.find? rtpStream
          if ssrc = stream.rtxSsrc then some (some rtpStream) else none
      | none => some none

end ReceiverStreams

/-- What happens to a receiver: a request with parameters that are accepted (one that is rejected changes
nothing), a packet, and that it gets or loses its transport. -/
inductive ReceiverEvent
  | receive (p : RtpParameters)
  | packet (ssrc : UInt32)
  | transport (given : Bool)

namespace ReceiverStreams

/-- The receiver after an event, unless the process ends in it. -/
def step (s : ReceiverStreams) : ReceiverEvent → Option ReceiverStreams
  | .receive p => (s.receive p).toOption
  | .packet ssrc => (s.receiveRtpPacket ssrc).map fun _ => s
  | .transport given => some { s with hasTransport := given }

/-- A value of `rtxStreamMap` is a stream in `rtpStreams` that has the key as its RTX SSRC. -/
def LiveValues (s : ReceiverStreams) : Prop :=
  ∀ rtxSsrc rtpStream, s.rtxStreamMap.find? rtxSsrc = some rtpStream →
    ∃ ssrc stream, s.rtpStreams.find? ssrc = some rtpStream ∧
      s.streams.find? rtpStream = some stream ∧ stream.rtxSsrc = rtxSsrc

/-- **The property.** The values of `rtxStreamMap` are live, and every packet finds its stream. -/
structure LiveRtx (s : ReceiverStreams) : Prop where
  values : s.LiveValues
  packets : ∀ ssrc, (s.receiveRtpPacket ssrc).isSome = true

/-- New parameters are accepted only while no stream has an RTX SSRC. -/
def NoRtxBefore (s : ReceiverStreams) : ReceiverEvent → Prop
  | .receive _ => s.rtxStreamMap.keys = []
  | _ => True

/-- What holds in every run: a stream in `rtpStreams` is there, and all pointers are allocated. -/
structure Owned (s : ReceiverStreams) : Prop where
  rtpStreams : ∀ ssrc rtpStream, s.rtpStreams.find? ssrc = some rtpStream →
    (s.streams.find? rtpStream).isSome = true ∧ rtpStream < s.allocated
  rtxStreamMap : ∀ rtxSsrc rtpStream, s.rtxStreamMap.find? rtxSsrc = some rtpStream →
    rtpStream < s.allocated

/-- The stream under an RTX SSRC is deleted. -/
structure Stale (rtxSsrc : UInt32) (rtpStream : Nat) (s : ReceiverStreams) : Prop where
  found : s.rtxStreamMap.find? rtxSsrc = some rtpStream
  deleted : s.streams.find? rtpStream = none
  allocated : rtpStream < s.allocated

section
variable {s s' : ReceiverStreams} {p : RtpParameters} {encoding : RtpEncodingParameters}

/-- **Everything `CreateRtpStream` can do.** It makes a stream for an SSRC that has none, which may get an
RTX SSRC that no stream has. -/
theorem createRtpStream_cases (h : createRtpStream p s encoding = .ok s') :
    s' = s ∨ s' = s.newStream encoding.ssrc ∧ s.rtpStreams.find? encoding.ssrc = none ∨
      ∃ payloadType, s' = (s.newStream encoding.ssrc).setRtx s.allocated payloadType encoding.rtx.ssrc ∧
        s.rtpStreams.find? encoding.ssrc = none ∧ s.rtxStreamMap.find? encoding.rtx.ssrc = none := by
  unfold createRtpStream at h
  split at h
  case isTrue =>
    cases h
    exact .inl rfl
  case isFalse hnew =>
    have hnone := Option.not_isSome_iff_eq_none.1 (not_or.1 hnew).2
    obtain ⟨codec, -, h⟩ := Checked.bind_eq_ok.1 h
    split at h
    case isTrue => cases h
    case isFalse =>
      unfold createRtxStream at h
      split at h
      case isTrue hrtx =>
        have hfree : s.rtxStreamMap.find? encoding.rtx.ssrc = none :=
          Option.isNone_iff_eq_none.1 (Bool.and_eq_true_iff.1 hrtx).2
        obtain ⟨rtxCodec, -, h⟩ := Checked.bind_eq_ok.1 h
        split at h
        case isTrue =>
          cases h
          exact .inr (.inr ⟨_, rfl, hnone, hfree⟩)
        case isFalse =>
          cases h
          exact .inr (.inl ⟨rfl, hnone⟩)
      case isFalse =>
        cases h
        exact .inr (.inl ⟨rfl, hnone⟩)

/-! ## What is there stays there -/

/-- A new stream is owned by its SSRC. -/
theorem owned_newStream (h : s.Owned) (ssrc : UInt32) : (s.newStream ssrc).Owned where
  rtpStreams := fun ssrc' rtpStream hfind => by
    rw [newStream, Table.find?_insert] at hfind
    rw [newStream, Table.find?_insert]
    split at hfind
    case isTrue =>
      cases hfind
      rw [if_pos rfl]
      exact ⟨rfl, Nat.lt_succ_self _⟩
    case isFalse =>
      obtain ⟨hsome, hlt⟩ := h.rtpStreams ssrc' rtpStream hfind
      rw [if_neg hlt.ne]
      exact ⟨hsome, Nat.lt_succ_of_lt hlt⟩
  rtxStreamMap := fun rtxSsrc rtpStream hfind =>
    Nat.lt_succ_of_lt (h.rtxStreamMap rtxSsrc rtpStream hfind)

/-- An RTX stream is one of those that are allocated. -/
theorem owned_setRtx (h : s.Owned) {rtpStream : Nat} (hlt : rtpStream < s.allocated)
    (payloadType : UInt8) (rtxSsrc : UInt32) : (s.setRtx rtpStream payloadType rtxSsrc).Owned where
  rtpStreams := fun ssrc rtpStream' hfind => by
    obtain ⟨hsome, hlt'⟩ := h.rtpStreams ssrc rtpStream' hfind
    refine ⟨?_, hlt'⟩
    rw [setRtx, Table.find?_modify]
    split
    · rw [Option.isSome_map]
      exact hsome
    · exact hsome
  rtxStreamMap := fun rtxSsrc' rtpStream' hfind => by
    rw [setRtx, Table.find?_insert] at hfind
    split at hfind
    case isTrue =>
      cases hfind
      exact hlt
    case isFalse => exact h.rtxStreamMap rtxSsrc' rtpStream' hfind

/-- The streams of an encoding are owned. -/
theorem owned_createRtpStream (h : s.Owned) (hs' : createRtpStream p s encoding = .ok s') : s'.Owned := by
  have hnew := owned_newStream h encoding.ssrc
  rcases createRtpStream_cases hs' with rfl | ⟨rfl, -⟩ | ⟨payloadType, rfl, -, -⟩
  · exact h
  · exact hnew
  · exact owned_setRtx hnew (Nat.lt_succ_self _) payloadType _

/-- Without streams there is nothing to own. -/
theorem owned_clearRtpStreams (h : s.Owned) : s.clearRtpStreams.Owned where
  rtpStreams := nofun
  rtxStreamMap := h.rtxStreamMap

/-! ## The values of the RTX table -/

/-- The stream under an RTX SSRC is in `rtpStreams`, and the RTX SSRC is its own. -/
def LiveAt (s : ReceiverStreams) (rtxSsrc : UInt32) (rtpStream : Nat) : Prop :=
  ∃ ssrc stream, s.rtpStreams.find? ssrc = some rtpStream ∧
    s.streams.find? rtpStream = some stream ∧ stream.rtxSsrc = rtxSsrc

/-- A new stream takes the place of no other. -/
theorem liveAt_newStream {rtxSsrc : UInt32} {rtpStream : Nat} (h : s.LiveAt rtxSsrc rtpStream)
    (hlt : rtpStream < s.allocated) {ssrc : UInt32} (hnone : s.rtpStreams.find? ssrc = none) :
    (s.newStream ssrc).LiveAt rtxSsrc rtpStream := by
  obtain ⟨ssrc', stream, hssrc', hstream, hrtx⟩ := h
  refine ⟨ssrc', stream, ?_, ?_, hrtx⟩
  · rw [newStream, Table.find?_insert, if_neg ?_]
    · exact hssrc'
    · rintro rfl
      rw [hnone] at hssrc'
      cases hssrc'
  · rw [newStream, Table.find?_insert, if_neg hlt.ne]
    exact hstream

/-- The stream that gets an RTX SSRC is live under it. -/
theorem liveAt_setRtx_self {ssrc : UInt32} {rtpStream : Nat}
    (hssrc : s.rtpStreams.find? ssrc = some rtpStream)
    (hstream : (s.streams.find? rtpStream).isSome = true) (payloadType : UInt8) (rtxSsrc : UInt32) :
    (s.setRtx rtpStream payloadType rtxSsrc).LiveAt rtxSsrc rtpStream := by
  obtain ⟨stream, hstream⟩ := Option.isSome_iff_exists.1 hstream
  refine ⟨ssrc, stream.setRtx payloadType rtxSsrc, hssrc, ?_, rfl⟩
  rw [setRtx, Table.find?_modify, if_pos rfl, hstream]
  rfl

/-- The other streams are live under what they had. -/
theorem liveAt_setRtx_of_ne {rtxSsrc : UInt32} {rtpStream rtpStream' : Nat}
    (h : s.LiveAt rtxSsrc rtpStream) (hne : rtpStream ≠ rtpStream') (payloadType : UInt8)
    (rtxSsrc' : UInt32) : (s.setRtx rtpStream' payloadType rtxSsrc').LiveAt rtxSsrc rtpStream := by
  obtain ⟨ssrc, stream, hssrc, hstream, hrtx⟩ := h
  refine ⟨ssrc, stream, hssrc, ?_, hrtx⟩
  rw [setRtx, Table.find?_modify, if_neg hne]
  exact hstream

/-- A new stream takes no live one's place. -/
theorem liveValues_newStream (howned : s.Owned) (h : s.LiveValues) {ssrc : UInt32}
    (hnone : s.rtpStreams.find? ssrc = none) : (s.newStream ssrc).LiveValues :=
  fun rtxSsrc rtpStream hfind =>
    liveAt_newStream (h rtxSsrc rtpStream hfind) (howned.rtxStreamMap rtxSsrc rtpStream hfind) hnone

/-- The stream at a pointer that no RTX SSRC has gets one. -/
theorem liveValues_setRtx (h : s.LiveValues) {ssrc : UInt32} {rtpStream : Nat}
    (hssrc : s.rtpStreams.find? ssrc = some rtpStream)
    (hstream : (s.streams.find? rtpStream).isSome = true)
    (hunused : ∀ rtxSsrc, s.rtxStreamMap.find? rtxSsrc ≠ some rtpStream)
    (payloadType : UInt8) (rtxSsrc : UInt32) :
    (s.setRtx rtpStream payloadType rtxSsrc).LiveValues := by
  intro rtxSsrc' rtpStream' hfind
  rw [setRtx, Table.find?_insert] at hfind
  split at hfind
  case isTrue heq =>
    cases hfind
    rw [heq]
    exact liveAt_setRtx_self hssrc hstream payloadType rtxSsrc
  case isFalse =>
    refine liveAt_setRtx_of_ne (h rtxSsrc' rtpStream' hfind) ?_ payloadType rtxSsrc
    rintro rfl
    exact hunused rtxSsrc' hfind

/-- The streams of an encoding leave the live ones live. -/
theorem liveValues_createRtpStream (howned : s.Owned) (h : s.LiveValues)
    (hs' : createRtpStream p s encoding = .ok s') : s'.LiveValues := by
  rcases createRtpStream_cases hs' with rfl | ⟨rfl, hnone⟩ | ⟨payloadType, rfl, hnone, -⟩
  · exact h
  · exact liveValues_newStream howned h hnone
  · have hfound : (s.newStream encoding.ssrc).rtpStreams.find? encoding.ssrc = some s.allocated := by
      rw [newStream, Table.find?_insert, if_pos rfl]
    have hstream := ((owned_newStream howned encoding.ssrc).rtpStreams _ _ hfound).1
    refine liveValues_setRtx (liveValues_newStream howned h hnone) hfound hstream (fun rtxSsrc hfind => ?_)
      payloadType _
    exact (howned.rtxStreamMap rtxSsrc _ hfind).ne rfl

/-- A deleted stream is not the new one. -/
theorem stale_newStream {rtxSsrc : UInt32} {rtpStream : Nat} (h : Stale rtxSsrc rtpStream s)
    (ssrc : UInt32) : Stale rtxSsrc rtpStream (s.newStream ssrc) := by
  refine ⟨h.found, ?_, Nat.lt_succ_of_lt h.allocated⟩
  rw [newStream, Table.find?_insert, if_neg h.allocated.ne]
  exact h.deleted

/-- An RTX SSRC that no stream has takes no deleted stream out of the table. -/
theorem stale_setRtx {rtxSsrc rtxSsrc' : UInt32} {rtpStream rtpStream' : Nat}
    (h : Stale rtxSsrc rtpStream s) (hfree : s.rtxStreamMap.find? rtxSsrc' = none) (payloadType : UInt8) :
    Stale rtxSsrc rtpStream (s.setRtx rtpStream' payloadType rtxSsrc') := by
  refine ⟨?_, ?_, h.allocated⟩
  · rw [setRtx, Table.find?_insert, if_neg ?_]
    · exact h.found
    · rintro rfl
      rw [h.found] at hfree
      cases hfree
  · rw [setRtx, Table.find?_modify, h.deleted]
    split <;> rfl

/-- The streams of an encoding bring no deleted one back. -/
theorem stale_createRtpStream {rtxSsrc : UInt32} {rtpStream : Nat} (h : Stale rtxSsrc rtpStream s)
    (hs' : createRtpStream p s encoding = .ok s') : Stale rtxSsrc rtpStream s' := by
  have hnew := stale_newStream h encoding.ssrc
  rcases createRtpStream_cases hs' with rfl | ⟨rfl, -⟩ | ⟨payloadType, rfl, -, hfree⟩
  · exact h
  · exact hnew
  · exact stale_setRtx hnew hfree payloadType

/-! ## Runs -/

/-- A packet finds its stream. -/
theorem isSome_receiveRtpPacket (howned : s.Owned) (h : s.LiveValues) (ssrc : UInt32) :
    (s.receiveRtpPacket ssrc).isSome = true := by
  unfold receiveRtpPacket
  split
  case h_1 rtpStream hfind =>
    rw [Option.isSome_map]
    exact (howned.rtpStreams ssrc rtpStream hfind).1
  case h_2 =>
    split
    case h_1 rtpStream hfind =>
      obtain ⟨-, stream, -, hstream, rfl⟩ := h ssrc rtpStream hfind
      rw [hstream]
      simp
    case h_2 => rfl

/-- The RTX map leads to live streams just when its values are live. -/
theorem liveRtx_iff_liveValues (howned : s.Owned) : s.LiveRtx ↔ s.LiveValues :=
  ⟨LiveRtx.values, fun h => ⟨h, isSome_receiveRtpPacket howned h⟩⟩

/-- Clearing the streams makes what is in the RTX table stale. -/
theorem stale_clearRtpStreams (howned : s.Owned) {rtxSsrc : UInt32} {rtpStream : Nat}
    (hfind : s.rtxStreamMap.find? rtxSsrc = some rtpStream) (h : s.LiveAt rtxSsrc rtpStream) :
    Stale rtxSsrc rtpStream s.clearRtpStreams := by
  obtain ⟨ssrc, stream, hssrc, -, -⟩ := h
  have hmem : rtpStream ∈ s.rtpStreams.entries.map Prod.snd :=
    List.mem_map.2 ⟨(ssrc, rtpStream), (Table.find?_eq_some _).1 hssrc, rfl⟩
  refine ⟨hfind, ?_, howned.rtxStreamMap rtxSsrc rtpStream hfind⟩
  rw [clearRtpStreams, Table.find?_filter]
  simp [hmem]

/-- New parameters: the old streams go and the new ones are owned. -/
theorem owned_receive (h : s.Owned) (hs' : s.receive p = .ok s') : s'.Owned :=
  Checked.foldlM_inv (fun _ _ _ howned hcreate => owned_createRtpStream howned hcreate) hs'
    (owned_clearRtpStreams h)

/-- **Step, for new parameters.** What they leave is live just if no stream had an RTX SSRC. -/
theorem liveValues_receive_iff (howned : s.Owned) (h : s.LiveValues) (hs' : s.receive p = .ok s') :
    s'.LiveValues ↔ s.rtxStreamMap.keys = [] := by
  constructor
  · intro hlive
    rw [List.eq_nil_iff_forall_not_mem]
    intro rtxSsrc hmem
    obtain ⟨rtpStream, hfind⟩ := (Table.mem_keys _).1 hmem
    have hstale : Stale rtxSsrc rtpStream s' :=
      Checked.foldlM_inv (fun _ _ _ hstale hcreate => stale_createRtpStream hstale hcreate) hs'
        (stale_clearRtpStreams howned hfind (h rtxSsrc rtpStream hfind))
    obtain ⟨-, stream, -, hstream, -⟩ := hlive rtxSsrc rtpStream hstale.found
    rw [hstale.deleted] at hstream
    cases hstream
  · intro hempty
    have hcleared : s.clearRtpStreams.LiveValues := by
      intro rtxSsrc rtpStream hfind
      have hmem : rtxSsrc ∈ s.rtxStreamMap.keys := (Table.mem_keys _).2 ⟨rtpStream, hfind⟩
      rw [hempty] at hmem
      exact absurd hmem List.not_mem_nil
    have hboth : s'.Owned ∧ s'.LiveValues :=
      Checked.foldlM_inv (I := fun s => s.Owned ∧ s.LiveValues)
        (fun _ _ _ hboth hcreate => ⟨owned_createRtpStream hboth.1 hcreate,
          liveValues_createRtpStream hboth.1 hboth.2 hcreate⟩) hs'
        ⟨owned_clearRtpStreams howned, hcleared⟩
    exact hboth.2

/-- Every event keeps the streams owned. -/
theorem owned_step (h : s.Owned) {e : ReceiverEvent} (hstep : s.step e = some s') : s'.Owned := by
  cases e with
  | receive p => exact owned_receive h (Checked.toOption_eq_some.1 hstep)
  | packet ssrc =>
      obtain ⟨-, -, rfl⟩ := Option.map_eq_some_iff.1 hstep
      exact h
  | transport given =>
      cases hstep
      exact ⟨h.rtpStreams, h.rtxStreamMap⟩

/-- **Step.** -/
theorem liveRtx_step_iff (howned : s.Owned) (h : s.LiveRtx) {e : ReceiverEvent}
    (hstep : s.step e = some s') : s'.LiveRtx ↔ s.NoRtxBefore e := by
  rw [liveRtx_iff_liveValues (owned_step howned hstep)]
  cases e with
  | receive p => exact liveValues_receive_iff howned h.values (Checked.toOption_eq_some.1 hstep)
  | packet ssrc =>
      obtain ⟨-, -, rfl⟩ := Option.map_eq_some_iff.1 hstep
      exact iff_of_true h.values trivial
  | transport given =>
      cases hstep
      exact iff_of_true h.values trivial

/-- **The RTX table has live streams throughout a run just if no new parameters are accepted once a stream
has an RTX SSRC.** -/
theorem liveRtx_iff (hasTransport : Bool) {events : List ReceiverEvent}
    (h : Machine.exec step { hasTransport } events = some s) :
    Machine.Always step LiveRtx { hasTransport } events ↔
      Machine.Meets step NoRtxBefore { hasTransport } events := by
  have howned : Owned { hasTransport } := ⟨nofun, nofun⟩
  refine Machine.always_iff_meets (fun _ _ _ hI hstep => owned_step hI hstep)
    (fun _ _ _ hI hlive hstep => liveRtx_step_iff hI hlive hstep) h howned ?_
  exact (liveRtx_iff_liveValues howned).2 nofun

/-! ## The receiver of a room -/

/-- A receiver of a room has these streams. What is deleted in its RTX table is what it has noted. -/
structure Shows (s : ReceiverStreams) (r : RtpReceiver) : Prop where
  owned : s.Owned
  transport : r.transport.isSome = s.hasTransport
  rtpStreams : ∀ ssrc, ssrc ∈ r.rtpStreams ↔ (s.rtpStreams.find? ssrc).isSome = true
  rtxStreamMap : ∀ rtxSsrc, rtxSsrc ∈ r.rtxStreamMap ↔ (s.rtxStreamMap.find? rtxSsrc).isSome = true
  live : ∀ rtxSsrc rtpStream, s.rtxStreamMap.find? rtxSsrc = some rtpStream → rtxSsrc ∉ r.deletedRtx →
    s.LiveAt rtxSsrc rtpStream
  deleted : ∀ rtxSsrc ∈ r.deletedRtx, ∃ rtpStream, Stale rtxSsrc rtpStream s

variable {r : RtpReceiver}

/-- A key is added to a table and to the list of its keys. -/
theorem mem_cons_iff_find?_insert {t : Table UInt32 Nat} {keys : List UInt32}
    (h : ∀ key, key ∈ keys ↔ (t.find? key).isSome = true) (key : UInt32) (value : Nat) (key' : UInt32) :
    key' ∈ key :: keys ↔ ((t.insert key value).find? key').isSome = true := by
  rw [List.mem_cons, Table.find?_insert, h]
  split
  case isTrue heq => exact iff_of_true (.inl heq) rfl
  case isFalse hne => exact or_iff_right hne

/-- The streams of a new receiver. -/
theorem shows_new (kind : MediaKind) (transportId : UInt32) :
    Shows { hasTransport := true } { kind, transport := some transportId } where
  owned := ⟨nofun, nofun⟩
  transport := rfl
  rtpStreams := fun _ => iff_of_false List.not_mem_nil Bool.false_ne_true
  rtxStreamMap := fun _ => iff_of_false List.not_mem_nil Bool.false_ne_true
  live := nofun
  deleted := nofun

/-- **A packet meets a deleted stream** just if its SSRC is noted as one. -/
theorem Shows.receiveRtpPacket_eq_none_iff (h : s.Shows r) (ssrc : UInt32) :
    s.receiveRtpPacket ssrc = none ↔ ssrc ∉ r.rtpStreams ∧ ssrc ∈ r.rtxStreamMap ∧ ssrc ∈ r.deletedRtx := by
  rw [h.rtpStreams, h.rtxStreamMap]
  unfold receiveRtpPacket
  cases hfind : s.rtpStreams.find? ssrc with
  | some rtpStream =>
      obtain ⟨stream, hstream⟩ := Option.isSome_iff_exists.1 (h.owned.rtpStreams ssrc rtpStream hfind).1
      simp [hstream]
  | none =>
      cases hrtx : s.rtxStreamMap.find? ssrc with
      | none => simp
      | some rtpStream =>
          by_cases hdeleted : ssrc ∈ r.deletedRtx
          · obtain ⟨rtpStream', hstale⟩ := h.deleted ssrc hdeleted
            obtain rfl := Option.some.inj (hrtx.symm.trans hstale.found)
            simp [hstale.deleted, hdeleted]
          · obtain ⟨-, stream, -, hstream, rfl⟩ := h.live ssrc rtpStream hrtx hdeleted
            simp [hstream, hdeleted]

/-- The streams are cleared. What the RTX table has is deleted, whether it was before or not. -/
theorem Shows.clearRtpStreams (h : s.Shows r) : s.clearRtpStreams.Shows r.clearRtpStreams where
  owned := owned_clearRtpStreams h.owned
  transport := h.transport
  rtpStreams := fun _ => iff_of_false List.not_mem_nil Bool.false_ne_true
  rtxStreamMap := h.rtxStreamMap
  live := fun rtxSsrc rtpStream hfind hmem =>
    absurd ((h.rtxStreamMap rtxSsrc).2 (Option.isSome_iff_exists.2 ⟨rtpStream, hfind⟩)) hmem
  deleted := fun rtxSsrc hmem => by
    obtain ⟨rtpStream, hfind⟩ := Option.isSome_iff_exists.1 ((h.rtxStreamMap rtxSsrc).1 hmem)
    refine ⟨rtpStream, ?_⟩
    by_cases hdeleted : rtxSsrc ∈ r.deletedRtx
    · obtain ⟨rtpStream', hstale⟩ := h.deleted rtxSsrc hdeleted
      obtain rfl := Option.some.inj (hfind.symm.trans hstale.found)
      refine ⟨hfind, ?_, hstale.allocated⟩
      rw [ReceiverStreams.clearRtpStreams, Table.find?_filter, hstale.deleted]
      rfl
    · exact stale_clearRtpStreams h.owned hfind (h.live rtxSsrc rtpStream hfind hdeleted)

/-- A new stream is listed with its SSRC. -/
theorem Shows.newStream (h : s.Shows r) {ssrc : UInt32} (hnone : s.rtpStreams.find? ssrc = none) :
    (s.newStream ssrc).Shows { r with rtpStreams := ssrc :: r.rtpStreams } where
  owned := owned_newStream h.owned ssrc
  transport := h.transport
  rtpStreams := mem_cons_iff_find?_insert h.rtpStreams ssrc s.allocated
  rtxStreamMap := h.rtxStreamMap
  live := fun rtxSsrc rtpStream hfind hmem =>
    liveAt_newStream (h.live rtxSsrc rtpStream hfind hmem)
      (h.owned.rtxStreamMap rtxSsrc rtpStream hfind) hnone
  deleted := fun rtxSsrc hmem => (h.deleted rtxSsrc hmem).imp fun _ hstale => stale_newStream hstale ssrc

/-- A stream that has no RTX SSRC gets one that no stream has. -/
theorem Shows.setRtx (h : s.Shows r) {ssrc rtxSsrc : UInt32} {rtpStream : Nat}
    (hssrc : s.rtpStreams.find? ssrc = some rtpStream)
    (hunused : ∀ rtxSsrc, s.rtxStreamMap.find? rtxSsrc ≠ some rtpStream)
    (hfree : s.rtxStreamMap.find? rtxSsrc = none) (payloadType : UInt8) :
    (s.setRtx rtpStream payloadType rtxSsrc).Shows
      { r with rtxStreamMap := rtxSsrc :: r.rtxStreamMap } where
  owned := owned_setRtx h.owned (h.owned.rtpStreams ssrc rtpStream hssrc).2 payloadType rtxSsrc
  transport := h.transport
  rtpStreams := h.rtpStreams
  rtxStreamMap := mem_cons_iff_find?_insert h.rtxStreamMap rtxSsrc rtpStream
  live := fun rtxSsrc' rtpStream' hfind hmem => by
    rw [ReceiverStreams.setRtx, Table.find?_insert] at hfind
    split at hfind
    case isTrue heq =>
      cases hfind
      rw [heq]
      exact liveAt_setRtx_self hssrc (h.owned.rtpStreams ssrc rtpStream hssrc).1 payloadType rtxSsrc
    case isFalse =>
      refine liveAt_setRtx_of_ne (h.live rtxSsrc' rtpStream' hfind hmem) ?_ payloadType rtxSsrc
      rintro rfl
      exact hunused rtxSsrc' hfind
  deleted := fun rtxSsrc' hmem =>
    (h.deleted rtxSsrc' hmem).imp fun _ hstale => stale_setRtx hstale hfree payloadType

/-- An RTX stream is listed if the parameters have a codec for it. -/
theorem Shows.createRtxStream (h : s.Shows r) {ssrc : UInt32} {rtpStream : Nat}
    (hssrc : s.rtpStreams.find? ssrc = some rtpStream)
    (hunused : ∀ rtxSsrc, s.rtxStreamMap.find? rtxSsrc ≠ some rtpStream)
    (hs' : s.createRtxStream p rtpStream encoding = .ok s') :
    ∃ r', r.createRtxStream p encoding = .ok r' ∧ s'.Shows r' := by
  have hcond : (encoding.hasRtx && encoding.rtx.ssrc ≠ 0 && encoding.rtx.ssrc ∉ r.rtxStreamMap) =
      (encoding.hasRtx && encoding.rtx.ssrc ≠ 0 && (s.rtxStreamMap.find? encoding.rtx.ssrc).isNone) := by
    congr 1
    rw [Bool.eq_iff_iff, decide_eq_true_iff, h.rtxStreamMap, Option.not_isSome_iff_eq_none,
      Option.isNone_iff_eq_none]
  unfold ReceiverStreams.createRtxStream at hs'
  unfold RtpReceiver.createRtxStream
  rw [hcond]
  split at hs'
  case isFalse hno =>
    cases hs'
    rw [if_neg hno]
    exact ⟨r, rfl, h⟩
  case isTrue hyes =>
    have hfree : s.rtxStreamMap.find? encoding.rtx.ssrc = none :=
      Option.isNone_iff_eq_none.1 (Bool.and_eq_true_iff.1 hyes).2
    obtain ⟨codec, hcodec, hs'⟩ := Checked.bind_eq_ok.1 hs'
    rw [if_pos hyes, hcodec, Checked.ok_bind]
    split at hs'
    case isTrue hpt =>
      cases hs'
      rw [if_pos hpt]
      exact ⟨_, rfl, h.setRtx hssrc hunused hfree codec.payloadType⟩
    case isFalse hpt =>
      cases hs'
      rw [if_neg hpt]
      exact ⟨r, rfl, h⟩

/-- **The step of the simulation.** -/
theorem Shows.createRtpStream (h : s.Shows r) (transports : Table UInt32 Transport)
    (hs' : ReceiverStreams.createRtpStream p s encoding = .ok s') :
    ∃ transports' r', RtpReceiver.createRtpStream p (transports, r) encoding = .ok (transports', r') ∧
      s'.Shows r' := by
  have hcond : encoding.ssrc = 0 ∨ encoding.ssrc ∈ r.rtpStreams ↔
      encoding.ssrc = 0 ∨ (s.rtpStreams.find? encoding.ssrc).isSome = true :=
    or_congr_right (h.rtpStreams encoding.ssrc)
  unfold ReceiverStreams.createRtpStream at hs'
  unfold RtpReceiver.createRtpStream
  split at hs'
  case isTrue hold =>
    cases hs'
    rw [if_pos (hcond.2 hold)]
    exact ⟨transports, r, rfl, h⟩
  case isFalse hnew =>
    obtain ⟨codec, hcodec, hs'⟩ := Checked.bind_eq_ok.1 hs'
    rw [if_neg (mt hcond.1 hnew), hcodec, Checked.ok_bind]
    split at hs'
    case isTrue => cases hs'
    case isFalse hremb =>
      have hnone := Option.not_isSome_iff_eq_none.1 (not_or.1 hnew).2
      have hfound : (s.newStream encoding.ssrc).rtpStreams.find? encoding.ssrc = some s.allocated := by
        rw [ReceiverStreams.newStream, Table.find?_insert, if_pos rfl]
      have hunused : ∀ rtxSsrc, (s.newStream encoding.ssrc).rtxStreamMap.find? rtxSsrc ≠ some s.allocated :=
        fun rtxSsrc hfind => (h.owned.rtxStreamMap rtxSsrc _ hfind).ne rfl
      obtain ⟨r', hr', hshows⟩ := (h.newStream hnone).createRtxStream hfound hunused hs'
      have henable : ∃ transports', RtpReceiver.enableRemb
          { r with rtpStreams := encoding.ssrc :: r.rtpStreams } codec transports = .ok transports' := by
        unfold RtpReceiver.enableRemb
        split
        case isFalse => exact ⟨transports, rfl⟩
        case isTrue huse =>
          have htransport : r.transport.isSome = true := by
            rw [h.transport]
            simpa [huse] using hremb
          obtain ⟨transportId, htransportId⟩ := Option.isSome_iff_exists.1 htransport
          dsimp only
          rw [htransportId]
          exact ⟨_, rfl⟩
      obtain ⟨transports', htransports'⟩ := henable
      refine ⟨transports', r', ?_, hshows⟩
      dsimp only
      rw [htransports', Checked.ok_bind, hr', Checked.ok_bind]
      rfl

/-- **The run of the simulation.** -/
theorem Shows.createRtpStreams {encodings : List RtpEncodingParameters} (h : s.Shows r)
    (transports : Table UInt32 Transport)
    (hs' : encodings.foldlM (ReceiverStreams.createRtpStream p) s = .ok s') :
    ∃ transports' r', encodings.foldlM (RtpReceiver.createRtpStream p) (transports, r) =
      .ok (transports', r') ∧ s'.Shows r' := by
  induction encodings generalizing s r transports with
  | nil =>
      cases hs'
      exact ⟨transports, r, rfl, h⟩
  | cons encoding encodings ih =>
      rw [List.foldlM_cons] at hs' ⊢
      obtain ⟨s₁, hfirst, hrest⟩ := Checked.bind_eq_ok.1 hs'
      obtain ⟨transports₁, r₁, hr₁, hshows⟩ := h.createRtpStream transports hfirst
      rw [hr₁, Checked.ok_bind]
      exact ih hshows transports₁ hrest

/-- **New parameters do to the receiver of a room what they do to its streams.** -/
theorem Shows.receive (h : s.Shows r) (transports : Table UInt32 Transport)
    (hs' : s.receive p = .ok s') :
    ∃ transports' r', p.encodings.foldlM (RtpReceiver.createRtpStream p)
        (transports, { r.clearRtpStreams with rtpParameters := some p }) = .ok (transports', r') ∧
      s'.Shows r' := by
  have hcleared := h.clearRtpStreams
  have hset : s.clearRtpStreams.Shows { r.clearRtpStreams with rtpParameters := some p } :=
    ⟨hcleared.owned, hcleared.transport, hcleared.rtpStreams, hcleared.rtxStreamMap, hcleared.live,
      hcleared.deleted⟩
  exact hset.createRtpStreams transports hs'

end

instance : ∀ (s : ReceiverStreams) (e : ReceiverEvent), Decidable (s.NoRtxBefore e)
  | s, .receive _ => inferInstanceAs (Decidable (s.rtxStreamMap.keys = []))
  | _, .packet _ | _, .transport _ => isTrue trivial

/-- A codec with RTX, and an encoding whose RTX SSRC may be given. -/
def rtxParameters (rtxSsrc : UInt32) : RtpParameters where
  codecs :=
    [{ kind := .video, mime := { type := .video, subtype := .vp8 }, payloadType := 100,
        hasPayloadType := true, clockRate := 90000 },
      { kind := .video, mime := { type := .video, subtype := .rtx }, payloadType := 101,
        hasPayloadType := true, clockRate := 90000,
        parameters := Parameters.setValue {} "apt" (.integer 100) }]
  encodings :=
    [{ ssrc := 1111, codecPayloadType := 100, hasCodecPayloadType := true, hasRtx := true,
        rtx := { ssrc := rtxSsrc } }]

/-- A stream with RTX, created by its encoding. -/
theorem liveRtx_iff_rtx : ∃ s, Machine.exec step { hasTransport := true }
      [.receive (rtxParameters 0), .receive (rtxParameters 2222), .packet 2222] = some s ∧
    Machine.Always step LiveRtx { hasTransport := true }
      [.receive (rtxParameters 0), .receive (rtxParameters 2222), .packet 2222] := by
  have hrun : (Machine.exec step { hasTransport := true }
      [.receive (rtxParameters 0), .receive (rtxParameters 2222), .packet 2222]).isSome = true := by
    decide +kernel
  obtain ⟨s, hs⟩ := Option.isSome_iff_exists.1 hrun
  exact ⟨s, hs, (liveRtx_iff true hs).2 (by decide +kernel)⟩

/-- The same parameters are accepted twice: a packet with the RTX SSRC goes to a deleted stream. -/
theorem second_receive_leaves_stale :
    (∃ s, Machine.exec step { hasTransport := true }
        [.receive (rtxParameters 2222), .receive (rtxParameters 2222)] = some s ∧
      s.receiveRtpPacket 2222 = none ∧ ¬ s.LiveRtx) ∧
    ¬ ∀ (hasTransport : Bool) (events : List ReceiverEvent) (s : ReceiverStreams),
      Machine.exec step { hasTransport } events = some s →
        Machine.Always step LiveRtx { hasTransport } events := by
  have hrun : (Machine.exec step { hasTransport := true }
      [.receive (rtxParameters 2222), .receive (rtxParameters 2222)]).any
        (fun s => s.receiveRtpPacket 2222 = none) = true := by
    decide +kernel
  obtain ⟨s, hs, hpacket⟩ := (Option.any_eq_true _ _).1 hrun
  have hpacket : s.receiveRtpPacket 2222 = none := of_decide_eq_true hpacket
  have hnot : ¬ s.LiveRtx := fun h => by
    have hsome := h.packets 2222
    rw [hpacket] at hsome
    cases hsome
  exact ⟨⟨s, hs, hpacket, hnot⟩, fun h => hnot (h true _ s hs _ s List.prefix_rfl hs)⟩

end ReceiverStreams

end KoreWebsocket.Rtc
