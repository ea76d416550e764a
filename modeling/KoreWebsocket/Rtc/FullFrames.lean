import KoreWebsocket.Rtc.Feedback

/-!
# Key frames (`mediasoup_1/soup`)

When a peer can get media anew it needs a whole picture. Once a transport has connected
(`Peer::OnTransportConnected`), the receivers that feed the video senders over it are asked for full frames,
and once little of what a transport may send is left (`Peer::OnTransportFullFrameRequired`) the video
receivers over it are. Each of a receiver's streams that knows PLI sends two over the receiver's transport.
In every run this goes with no fault, and to just those streams.
-/

namespace KoreWebsocket.Rtc

/-- A PLI about a stream of a receiver, sent by a transport of its peer. -/
structure Pli where
  rtpReceiver : Ref
  ssrc : UInt32
  transportId : UInt32
  deriving DecidableEq

/-- The kinds that have frames. -/
def MediaKind.hasFrames (kind : MediaKind) : Bool := kind = .video || kind = .depth

/-! `usePli` tells which streams of receivers have the parameter of this name. -/

namespace Room

variable (room : Room) (usePli : Ref → (ssrc : UInt32) → Bool)

/-- `RtpReceiver::OnPliRequired`. "Send two, because it's free." -/
def onPliRequired (ref : Ref) (r : RtpReceiver) (ssrc : UInt32) : Except MediaFault (List Pli) :=
  match r.transport with
  | none => .ok []
  | some transportId => do
      let transportId ← room.useTransport ref.1 transportId
      return List.replicate 2 { rtpReceiver := ref, ssrc, transportId }

/-- `RtpReceiver::RequestFullFrame`, with `RtpStreamRecv::RequestFullFrame`. -/
def requestFullFrame (ref : Ref) (r : RtpReceiver) : Except MediaFault (List Pli) := do
  let plis ← r.rtpStreams.mapM fun ssrc =>
    if usePli ref ssrc then room.onPliRequired ref r ssrc else .ok []
  return plis.flatten

/-- `Room::OnFullFrameRequired`. -/
def onFullFrameRequired (s : Ref) : Except MediaFault (List Pli) :=
  match room.mapRtpSenderRtpReceiver.find? s with
  | none => .error .rtpSenderNotInMap
  | some ref =>
      match (room.peers.find? ref.1).bind (·.rtpReceivers.find? ref.2) with
      | none => .error .rtpReceiver
      | some r => room.requestFullFrame usePli ref r

/-- `Peer::OnTransportConnected`. -/
def onTransportConnected (peerId : UInt32) (peer : Peer) (transportId : UInt32) :
    Except MediaFault (List Pli) := do
  let plis ← peer.rtpSenders.entries.mapM fun entry =>
    if !entry.2.kind.hasFrames then .ok []
    else if entry.2.transport ≠ some transportId then .ok []
    else room.onFullFrameRequired usePli (peerId, entry.1)
  return plis.flatten

/-- `Peer::OnTransportFullFrameRequired`. -/
def onTransportFullFrameRequired (peerId : UInt32) (peer : Peer) (transportId : UInt32) :
    Except MediaFault (List Pli) := do
  let plis ← peer.rtpReceivers.entries.mapM fun entry =>
    if !entry.2.kind.hasFrames then .ok []
    else if entry.2.transport ≠ some transportId then .ok []
    else room.requestFullFrame usePli (peerId, entry.1) entry.2
  return plis.flatten

/-- A PLI is about a stream of this receiver that knows PLI, and is sent by the receiver's transport. -/
def Asks (ref : Ref) (pli : Pli) : Prop :=
  pli.rtpReceiver = ref ∧ usePli ref pli.ssrc = true ∧ ∃ owner r, room.peers.find? ref.1 = some owner ∧
    owner.rtpReceivers.find? ref.2 = some r ∧ pli.ssrc ∈ r.rtpStreams ∧
    r.transport = some pli.transportId

/-- The receiver feeds a sender of the peer that has frames and uses the transport. -/
def FeedsFrames (peerId : UInt32) (peer : Peer) (transportId : UInt32) (ref : Ref) : Prop :=
  ∃ id sender, peer.rtpSenders.find? id = some sender ∧ sender.kind.hasFrames = true ∧
    sender.transport = some transportId ∧ room.mapRtpSenderRtpReceiver.find? (peerId, id) = some ref

end Room

/-- **A loop.** If each part gives just what it should, so does the whole. -/
theorem mapM_flatten_ok {α β : Type} {f : α → Except MediaFault (List β)} {P : α → β → Prop} {as : List α}
    (h : ∀ a ∈ as, ∃ bs, f a = .ok bs ∧ ∀ x, x ∈ bs ↔ P a x) :
    ∃ bs, (do let parts ← as.mapM f; return parts.flatten : Except MediaFault (List β)) = .ok bs ∧
      ∀ x, x ∈ bs ↔ ∃ a ∈ as, P a x := by
  have hparts : ∃ parts, as.mapM f = .ok parts ∧ ∀ x, x ∈ parts.flatten ↔ ∃ a ∈ as, P a x := by
    induction as with
    | nil => exact ⟨[], rfl, fun x => by simp⟩
    | cons a as ih =>
        obtain ⟨bs, hok, hmem⟩ := h a List.mem_cons_self
        obtain ⟨rest, hrest, hmemRest⟩ := ih fun a' ha' => h a' (List.mem_cons_of_mem a ha')
        refine ⟨bs :: rest, ?_, fun x => ?_⟩
        · rw [List.mapM_cons, hok, Checked.ok_bind, hrest]
          rfl
        · rw [List.flatten_cons, List.mem_append, hmem, hmemRest, List.exists_mem_cons_iff]
  obtain ⟨parts, hok, hmem⟩ := hparts
  exact ⟨parts.flatten, by rw [hok]; rfl, hmem⟩

namespace Room

variable {room room' : Room} (usePli : Ref → UInt32 → Bool) {peerId : UInt32} {peer : Peer}

/-- **A receiver.** -/
theorem Forwards.requestFullFrame (h : room.Forwards) {ref : Ref} {owner : Peer} {r : RtpReceiver}
    (howner : room.peers.find? ref.1 = some owner) (hr : owner.rtpReceivers.find? ref.2 = some r) :
    ∃ plis, room.requestFullFrame usePli ref r = .ok plis ∧ ∀ pli, pli ∈ plis ↔ room.Asks usePli ref pli := by
  have hstream : ∀ ssrc ∈ r.rtpStreams, ∃ plis,
      (if usePli ref ssrc then room.onPliRequired ref r ssrc else .ok []) = .ok plis ∧
        ∀ pli, pli ∈ plis ↔ pli.rtpReceiver = ref ∧ pli.ssrc = ssrc ∧ usePli ref ssrc = true ∧
          r.transport = some pli.transportId := by
    intro ssrc _
    cases huse : usePli ref ssrc with
    | false => exact ⟨[], rfl, fun pli => by simp⟩
    | true =>
        rw [if_pos rfl, onPliRequired]
        cases ht : r.transport with
        | none => exact ⟨[], rfl, fun pli => by simp⟩
        | some transportId =>
            refine ⟨List.replicate 2 ⟨ref, ssrc, transportId⟩, ?_, fun pli => ?_⟩
            · dsimp only
              rw [useTransport_eq (h.attached.rtpReceiver_transport howner hr ht)]
              rfl
            · obtain ⟨ref', ssrc', transportId'⟩ := pli
              simp [eq_comm]
  obtain ⟨plis, hok, hmem⟩ := mapM_flatten_ok hstream
  refine ⟨plis, hok, fun pli => (hmem pli).trans ?_⟩
  constructor
  · rintro ⟨ssrc, hssrc, href, rfl, huse, ht⟩
    exact ⟨href, huse, owner, r, howner, hr, hssrc, ht⟩
  · rintro ⟨href, huse, owner', r', howner', hr', hssrc, ht⟩
    obtain rfl := Option.some.inj (howner.symm.trans howner')
    obtain rfl := Option.some.inj (hr.symm.trans hr')
    exact ⟨pli.ssrc, hssrc, href, rfl, huse, ht⟩

/-- **A sender.** The receiver that feeds it is asked. -/
theorem Forwards.onFullFrameRequired (h : room.Forwards) {s ref : Ref}
    (href : room.mapRtpSenderRtpReceiver.find? s = some ref) :
    ∃ plis, room.onFullFrameRequired usePli s = .ok plis ∧ ∀ pli, pli ∈ plis ↔ room.Asks usePli ref pli := by
  obtain ⟨owner, r, howner, hr⟩ := h.receiver href
  obtain ⟨plis, hok, hmem⟩ := h.requestFullFrame usePli howner hr
  refine ⟨plis, ?_, hmem⟩
  rw [Room.onFullFrameRequired, href]
  dsimp only
  rw [howner, Option.bind_some, hr]
  exact hok

/-- **The senders over a transport.** -/
theorem Forwards.onTransportConnected (h : room.Forwards) (hpeer : room.peers.find? peerId = some peer)
    (transportId : UInt32) :
    ∃ plis, room.onTransportConnected usePli peerId peer transportId = .ok plis ∧ ∀ pli, pli ∈ plis ↔
      ∃ ref, room.FeedsFrames peerId peer transportId ref ∧ room.Asks usePli ref pli := by
  have hentry : ∀ entry ∈ peer.rtpSenders.entries, ∃ plis,
      (if !entry.2.kind.hasFrames then .ok []
        else if entry.2.transport ≠ some transportId then .ok []
        else room.onFullFrameRequired usePli (peerId, entry.1)) = .ok plis ∧
        ∀ pli, pli ∈ plis ↔ entry.2.kind.hasFrames = true ∧ entry.2.transport = some transportId ∧
          ∃ ref, room.mapRtpSenderRtpReceiver.find? (peerId, entry.1) = some ref ∧ room.Asks usePli ref pli := by
    rintro ⟨id, sender⟩ hmem
    have hsender : room.rtpSender? (peerId, id) = some sender :=
      (rtpSender?_of_peer hpeer).trans ((Table.find?_eq_some _).2 hmem)
    obtain ⟨ref, href, -⟩ := fed_of_mesh h.mesh hsender
    obtain ⟨plis, hok, hplis⟩ := h.onFullFrameRequired usePli href
    by_cases hkind : sender.kind.hasFrames = true
    case neg => exact ⟨[], by simp [hkind], fun pli => by simp [hkind]⟩
    case pos =>
      by_cases ht : sender.transport = some transportId
      case neg => exact ⟨[], by simp [ht], fun pli => by simp [ht]⟩
      case pos =>
        refine ⟨plis, by simp [hkind, ht, hok], fun pli => ?_⟩
        rw [hplis]
        constructor
        · exact fun hasks => ⟨hkind, ht, ref, href, hasks⟩
        · rintro ⟨-, -, ref', href', hasks⟩
          exact Option.some.inj (href.symm.trans href') ▸ hasks
  obtain ⟨plis, hok, hmem⟩ := mapM_flatten_ok hentry
  refine ⟨plis, hok, fun pli => (hmem pli).trans ?_⟩
  constructor
  · rintro ⟨⟨id, sender⟩, hentry, hkind, ht, ref, href, hasks⟩
    exact ⟨ref, ⟨id, sender, (Table.find?_eq_some _).2 hentry, hkind, ht, href⟩, hasks⟩
  · rintro ⟨ref, ⟨id, sender, hsender, hkind, ht, href⟩, hasks⟩
    exact ⟨(id, sender), (Table.find?_eq_some _).1 hsender, hkind, ht, ref, href, hasks⟩

/-- **The receivers over a transport.** -/
theorem Forwards.onTransportFullFrameRequired (h : room.Forwards)
    (hpeer : room.peers.find? peerId = some peer) (transportId : UInt32) :
    ∃ plis, room.onTransportFullFrameRequired usePli peerId peer transportId = .ok plis ∧
      ∀ pli, pli ∈ plis ↔ ∃ id r, peer.rtpReceivers.find? id = some r ∧ r.kind.hasFrames = true ∧
        r.transport = some transportId ∧ room.Asks usePli (peerId, id) pli := by
  have hentry : ∀ entry ∈ peer.rtpReceivers.entries, ∃ plis,
      (if !entry.2.kind.hasFrames then .ok []
        else if entry.2.transport ≠ some transportId then .ok []
        else room.requestFullFrame usePli (peerId, entry.1) entry.2) = .ok plis ∧
        ∀ pli, pli ∈ plis ↔ entry.2.kind.hasFrames = true ∧ entry.2.transport = some transportId ∧
          room.Asks usePli (peerId, entry.1) pli := by
    rintro ⟨id, r⟩ hmem
    have hr : peer.rtpReceivers.find? id = some r := (Table.find?_eq_some _).2 hmem
    obtain ⟨plis, hok, hplis⟩ : ∃ plis, room.requestFullFrame usePli (peerId, id) r = .ok plis ∧
        ∀ pli, pli ∈ plis ↔ room.Asks usePli (peerId, id) pli := h.requestFullFrame usePli hpeer hr
    by_cases hkind : r.kind.hasFrames = true
    case neg => exact ⟨[], by simp [hkind], fun pli => by simp [hkind]⟩
    case pos =>
      by_cases ht : r.transport = some transportId
      case neg => exact ⟨[], by simp [ht], fun pli => by simp [ht]⟩
      case pos => exact ⟨plis, by simp [hkind, ht, hok], fun pli => by simp [hkind, ht, hplis]⟩
  obtain ⟨plis, hok, hmem⟩ := mapM_flatten_ok hentry
  refine ⟨plis, hok, fun pli => (hmem pli).trans ?_⟩
  constructor
  · rintro ⟨⟨id, r⟩, hentry, hkind, ht, hasks⟩
    exact ⟨id, r, (Table.find?_eq_some _).2 hentry, hkind, ht, hasks⟩
  · rintro ⟨id, r, hr, hkind, ht, hasks⟩
    exact ⟨(id, r), (Table.find?_eq_some _).1 hr, hkind, ht, hasks⟩

/-- **Who is asked for a full frame.** In every run, whatever streams know PLI, when a transport of a peer
has connected no fault ends the loop, and the PLIs that are sent are just those about the streams of the
receivers that feed the peer's video senders over the transport. Each is sent by a live transport of another
peer. -/
theorem full_frames_asked {roomId : UInt32} {data : JsonCpp.Value} {events : List RoomEvent}
    (hcreate : Room.create roomId data = .ok room) (h : Machine.exec step room events = some room')
    (hpeer : room'.peers.find? peerId = some peer) (transportId : UInt32) :
    ∃ plis, room'.onTransportConnected usePli peerId peer transportId = .ok plis ∧
      (∀ pli, pli ∈ plis ↔
        ∃ ref, room'.FeedsFrames peerId peer transportId ref ∧ room'.Asks usePli ref pli) ∧
      ∀ pli ∈ plis, pli.rtpReceiver.1 ≠ peerId ∧
        ((room'.peers.find? pli.rtpReceiver.1).bind (·.transports.find? pli.transportId)).isSome = true := by
  have hforwards := forwards_of_exec hcreate h
  obtain ⟨plis, hok, hmem⟩ := hforwards.onTransportConnected usePli hpeer transportId
  refine ⟨plis, hok, hmem, fun pli hpli => ?_⟩
  obtain ⟨ref, ⟨id, sender, -, -, -, hfed⟩, href, -, owner, r, howner, hr, -, ht⟩ := (hmem pli).1 hpli
  rw [href]
  exact ⟨hforwards.mesh.foreign (peerId, id) ref hfed,
    hforwards.attached.rtpReceiver_transport howner hr ht⟩

/-- The first peer is asked for a full frame of what the second gets. -/
theorem full_frames_asked_attachedSender : ∃ room room' peer plis,
    Room.create 1 (.object [("mediaCodecs", .array [vp8])]) = .ok room ∧
      Machine.exec step room attachedSender = some room' ∧ room'.peers.find? 2 = some peer ∧
      room'.onTransportConnected (fun _ _ => true) 2 peer 8 = .ok plis ∧
      plis = [⟨(1, 5), 1111, 7⟩, ⟨(1, 5), 1111, 7⟩] ∧
      ∀ pli ∈ plis, pli.rtpReceiver.1 ≠ 2 := by
  have hrun : ∃ room room', Room.create 1 (.object [("mediaCodecs", .array [vp8])]) = .ok room ∧
      Machine.exec step room attachedSender = some room' ∧
      ((room'.peers.find? 2).bind fun peer =>
        (room'.onTransportConnected (fun _ _ => true) 2 peer 8).toOption) =
          some [⟨(1, 5), 1111, 7⟩, ⟨(1, 5), 1111, 7⟩] :=
    exists_run (fun _ _ h => of_decide_eq_true h) (by decide +kernel)
  obtain ⟨room, room', hcreate, hexec, hasked⟩ := hrun
  obtain ⟨peer, hpeer, hasked⟩ := Option.bind_eq_some_iff.1 hasked
  obtain ⟨plis, hok, -, hforeign⟩ := full_frames_asked (fun _ _ => true) hcreate hexec hpeer 8
  rw [hok] at hasked
  exact ⟨room, room', peer, plis, hcreate, hexec, hpeer, hok, Option.some.inj hasked,
    fun pli hpli => (hforeign pli hpli).1⟩

/-- **Who is asked when a transport may send little.** In every run no fault ends the loop, and the PLIs are
just those about the streams of the video receivers that use the transport. They are sent by it. -/
theorem full_frames_received {roomId : UInt32} {data : JsonCpp.Value} {events : List RoomEvent}
    (hcreate : Room.create roomId data = .ok room) (h : Machine.exec step room events = some room')
    (hpeer : room'.peers.find? peerId = some peer) (transportId : UInt32) :
    ∃ plis, room'.onTransportFullFrameRequired usePli peerId peer transportId = .ok plis ∧
      (∀ pli, pli ∈ plis ↔ ∃ id r, peer.rtpReceivers.find? id = some r ∧ r.kind.hasFrames = true ∧
        r.transport = some transportId ∧ room'.Asks usePli (peerId, id) pli) ∧
      ∀ pli ∈ plis, pli.rtpReceiver.1 = peerId ∧ pli.transportId = transportId := by
  obtain ⟨plis, hok, hmem⟩ :=
    (forwards_of_exec hcreate h).onTransportFullFrameRequired usePli hpeer transportId
  refine ⟨plis, hok, hmem, fun pli hpli => ?_⟩
  obtain ⟨id, r, hr, -, ht, href, -, owner, r', howner, hr', -, ht'⟩ := (hmem pli).1 hpli
  obtain rfl := Option.some.inj (hpeer.symm.trans howner)
  obtain rfl := Option.some.inj (hr.symm.trans hr')
  rw [href]
  exact ⟨rfl, Option.some.inj (ht'.symm.trans ht)⟩

theorem full_frames_received_attachedSender : ∃ room room' peer plis,
    Room.create 1 (.object [("mediaCodecs", .array [vp8])]) = .ok room ∧
      Machine.exec step room attachedSender = some room' ∧ room'.peers.find? 1 = some peer ∧
      room'.onTransportFullFrameRequired (fun _ _ => true) 1 peer 7 = .ok plis ∧
      plis = [⟨(1, 5), 1111, 7⟩, ⟨(1, 5), 1111, 7⟩] ∧
      ∀ pli ∈ plis, pli.rtpReceiver.1 = 1 ∧ pli.transportId = 7 := by
  have hrun : ∃ room room', Room.create 1 (.object [("mediaCodecs", .array [vp8])]) = .ok room ∧
      Machine.exec step room attachedSender = some room' ∧
      ((room'.peers.find? 1).bind fun peer =>
        (room'.onTransportFullFrameRequired (fun _ _ => true) 1 peer 7).toOption) =
          some [⟨(1, 5), 1111, 7⟩, ⟨(1, 5), 1111, 7⟩] :=
    exists_run (fun _ _ h => of_decide_eq_true h) (by decide +kernel)
  obtain ⟨room, room', hcreate, hexec, hasked⟩ := hrun
  obtain ⟨peer, hpeer, hasked⟩ := Option.bind_eq_some_iff.1 hasked
  obtain ⟨plis, hok, -, hown⟩ := full_frames_received (fun _ _ => true) hcreate hexec hpeer 7
  rw [hok] at hasked
  exact ⟨room, room', peer, plis, hcreate, hexec, hpeer, hok, Option.some.inj hasked, hown⟩

end Room

end KoreWebsocket.Rtc
