import KoreWebsocket.Rtc.Attached
import KoreWebsocket.Rtc.SenderParameters

/-!
# What the senders carry (`RTC::Room`, `mediasoup_1/soup`)

A sender has parameters of its own, which `RtpSender::Send` makes of those of its receiver. When the
receiver gets new parameters the room goes over its senders, one after the other, so that some are stale
in between (`CarriesBut`). After every step all of them carry what their receiver has now: the codecs, and
of the encodings the first (`senders_carry`).
-/

namespace KoreWebsocket.Rtc

namespace RtpSender

/-- What `RtpSender::Send` makes of parameters whose encodings have codecs. -/
def Carries (s : RtpSender) (p : RtpParameters) : Prop :=
  ∃ q, s.rtpParameters = some q ∧ q.codecs = p.codecs ∧ q.encodings = p.encodings.take 1 ∧
    (∀ codec ∈ p.codecs, codec.payloadType ∈ s.supportedPayloadTypes) ∧
    s.hasRtpStream = !p.encodings.isEmpty ∧ s.available = !p.encodings.isEmpty

/-- The two senders differ in the transport, and in what the peer asked for. -/
structure SameMedia (s s' : RtpSender) : Prop where
  rtpParameters : s'.rtpParameters = s.rtpParameters
  hasRtpStream : s'.hasRtpStream = s.hasRtpStream
  supportedPayloadTypes : s'.supportedPayloadTypes = s.supportedPayloadTypes
  available : s'.available = s.available

variable {s s' : RtpSender} {p : RtpParameters}

theorem SameMedia.refl (s : RtpSender) : s.SameMedia s := ⟨rfl, rfl, rfl, rfl⟩

theorem SameMedia.trans {s'' : RtpSender} (h : s.SameMedia s') (h' : s'.SameMedia s'') :
    s.SameMedia s'' where
  rtpParameters := h'.rtpParameters.trans h.rtpParameters
  hasRtpStream := h'.hasRtpStream.trans h.hasRtpStream
  supportedPayloadTypes := h'.supportedPayloadTypes.trans h.supportedPayloadTypes
  available := h'.available.trans h.available

/-- What a sender carries are its parameters. -/
theorem Carries.sameMedia (h : s.Carries p) (hsame : s.SameMedia s') : s'.Carries p := by
  unfold Carries
  rw [hsame.rtpParameters, hsame.hasRtpStream, hsame.supportedPayloadTypes, hsame.available]
  exact h

/-- **Sending.** Every encoding has a codec, whose payload type is supported, so the first encoding is
kept. -/
theorem carries_send {muxId : String} {capabilities : RtpCapabilities} (hp : p.Usable)
    (h : s.send muxId capabilities p = .ok s') : s'.Carries p := by
  unfold send at h
  obtain ⟨codecs, hcodecs, h⟩ := Checked.bind_eq_ok.1 h
  obtain rfl : codecs = p.codecs := supportedCodecs_eq hcodecs
  obtain ⟨_, -, h⟩ := Checked.bind_eq_ok.1 h
  cases h
  have hsupported : ∀ codec ∈ p.codecs,
      codec.payloadType ∈ p.codecs.map (·.payloadType) ∪ s.supportedPayloadTypes := by
    intro codec hcodec
    exact List.mem_union_iff.2 (.inl (List.mem_map_of_mem hcodec))
  have hencodings : p.encodings.filter (fun encoding => decide (encoding.codecPayloadType ∈
      p.codecs.map (·.payloadType) ∪ s.supportedPayloadTypes)) = p.encodings := by
    refine List.filter_eq_self.2 fun encoding hencoding => decide_eq_true ?_
    obtain ⟨codec, hcodec, hpayloadType⟩ := hp.encodings encoding hencoding
    exact hpayloadType ▸ hsupported codec hcodec
  have hempty : (p.encodings.take 1).isEmpty = p.encodings.isEmpty := by
    cases p.encodings <;> rfl
  rw [hencodings]
  refine ⟨_, rfl, rfl, rfl, hsupported, ?_, ?_⟩
  · exact congrArg not hempty
  · exact congrArg not hempty

end RtpSender

namespace Peer

variable {peer peer' : Peer}

/-- The senders of a peer are those that it had, but for transports and what the peer asked for. -/
def KeepsSenders (peer peer' : Peer) : Prop :=
  ∀ id s', peer'.rtpSenders.find? id = some s' →
    ∃ s, peer.rtpSenders.find? id = some s ∧ s.SameMedia s'

theorem KeepsSenders.of_eq (h : peer'.rtpSenders = peer.rtpSenders) : peer.KeepsSenders peer' :=
  fun _ s' hs' => ⟨s', h ▸ hs', .refl s'⟩

theorem KeepsSenders.trans {peer'' : Peer} (h : peer.KeepsSenders peer') (h' : peer'.KeepsSenders peer'') :
    peer.KeepsSenders peer'' := by
  intro id s'' hs''
  obtain ⟨s', hs', hsame'⟩ := h' id s'' hs''
  obtain ⟨s, hs, hsame⟩ := h id s' hs'
  exact ⟨s, hs, hsame.trans hsame'⟩

/-- A sender changes its transport or a flag. -/
theorem keepsSenders_insert {id : UInt32} {s s' : RtpSender} (hs : peer.rtpSenders.find? id = some s)
    (hsame : s.SameMedia s') :
    peer.KeepsSenders { peer with rtpSenders := peer.rtpSenders.insert id s' } := by
  intro id' s'' hs''
  rw [Table.find?_insert] at hs''
  split at hs''
  case isTrue heq =>
    cases hs''
    exact ⟨s, heq ▸ hs, hsame⟩
  case isFalse => exact ⟨s'', hs'', .refl s''⟩

/-- No edit of a peer changes what its senders carry. -/
theorem Edit.keepsSenders (h : peer.Edit peer') : peer.KeepsSenders peer' := by
  cases h with
  | createTransport | setTransport | attachRtpReceiver | setRtpEvent | rtpPacket =>
      exact .of_eq rfl
  | closeTransport transportId =>
      intro id s' hs'
      rw [onTransportClosed, Table.find?_mapValues] at hs'
      obtain ⟨s, hs, rfl⟩ := Option.map_eq_some_iff.1 hs'
      refine ⟨s, hs, ?_⟩
      unfold RtpSender.removeTransport
      split <;> exact ⟨rfl, rfl, rfl, rfl⟩
  | addRtpReceiver p =>
      refine .of_eq ?_
      unfold Peer.addRtpReceiver
      split <;> rfl
  | createRtpStreams hok =>
      unfold Peer.createRtpStreams at hok
      split at hok
      case h_1 => cases hok; exact .of_eq rfl
      case h_2 =>
        split at hok
        case h_1 => cases hok; exact .of_eq rfl
        case h_2 =>
          obtain ⟨_, -, heq⟩ := Checked.bind_eq_ok.1 hok
          cases heq
          exact .of_eq rfl
  | attachRtpSender hs ht => exact keepsSenders_insert hs ⟨rfl, rfl, rfl, rfl⟩
  | disableRtpSender disabled hs => exact keepsSenders_insert hs ⟨rfl, rfl, rfl, rfl⟩

end Peer

namespace Room

variable {room room' : Room} {env : Environment} {stale : Ref → Prop} {receives : RtpReceiver → Prop}

/-- **The senders carry what their receivers have**, but for the stale ones. -/
def CarriesBut (stale : Ref → Prop) (room : Room) : Prop :=
  ∀ s ref sender, room.mapRtpSenderRtpReceiver.find? s = some ref → room.rtpSender? s = some sender →
    stale s ∨ ∃ p, room.media.rtpParameters ref = some p ∧ sender.Carries p

/-- A full mesh has parameters for each receiver that feeds a sender. -/
theorem parameters_of_mesh (h : Mesh room.view) {s ref : Ref}
    (hs : room.mapRtpSenderRtpReceiver.find? s = some ref) :
    ∃ p, room.media.rtpParameters ref = some p := by
  have hready := h.ready_of_rtpReceiver hs
  rw [view_ready] at hready
  obtain ⟨peer, hpeer, hr⟩ := (Option.any_eq_true _ _).1 hready
  obtain ⟨r, hr, hp⟩ := (Option.any_eq_true _ _).1 hr
  obtain ⟨p, hp⟩ := Option.isSome_iff_exists.1 hp
  refine ⟨p, ?_⟩
  rw [media_rtpParameters, hpeer, Option.bind_some, hr]
  exact hp

/-- In a full mesh a sender of a peer is fed by a receiver of another. -/
theorem fed_of_mesh (h : Mesh room.view) {s : Ref} {sender : RtpSender}
    (hsender : room.rtpSender? s = some sender) :
    ∃ ref, room.mapRtpSenderRtpReceiver.find? s = some ref ∧ ref.1 ≠ s.1 := by
  have howned := h.owned s
  rw [view_owned_eq_isSome, hsender] at howned
  obtain ⟨ref, href⟩ := Option.isSome_iff_exists.1 howned.symm
  exact ⟨ref, href, h.foreign s ref href⟩

/-- A mesh with less of everything. -/
theorem CarriesBut.within (h : room.CarriesBut stale) (hmesh : Mesh room'.view)
    (hmedia : room.media.Within room'.media)
    (hmap : ∀ s ref, room'.mapRtpSenderRtpReceiver.find? s = some ref →
      room.mapRtpSenderRtpReceiver.find? s = some ref)
    (hsender : ∀ s sender', room'.rtpSender? s = some sender' →
      ∃ sender, room.rtpSender? s = some sender ∧ sender.SameMedia sender') :
    room'.CarriesBut stale := by
  intro s ref sender' hs hsender'
  obtain ⟨sender, hold, hsame⟩ := hsender s sender' hsender'
  refine (h s ref sender (hmap s ref hs) hold).imp_right fun ⟨p, hp, hcarries⟩ => ?_
  obtain ⟨p', hp'⟩ := parameters_of_mesh hmesh hs
  obtain rfl := Option.some.inj ((hmedia.rtpParameters ref p' hp').symm.trans hp)
  exact ⟨p', hp', hcarries.sameMedia hsame⟩

/-- The senders of a room in which a peer is changed. -/
theorem rtpSender?_modifyPeer {peerId : UInt32} {f : Peer → Peer}
    (hf : ∀ peer, room.peers.find? peerId = some peer → peer.KeepsSenders (f peer)) (s : Ref)
    (sender' : RtpSender) (h : (room.modifyPeer peerId f).rtpSender? s = some sender') :
    ∃ sender, room.rtpSender? s = some sender ∧ sender.SameMedia sender' := by
  rw [rtpSender?, bind_modifyPeer] at h
  split at h
  case isTrue heq =>
    obtain ⟨peer, hpeer, h⟩ := Option.bind_eq_some_iff.1 h
    obtain ⟨sender, hsender, hsame⟩ := hf peer (heq ▸ hpeer) s.2 sender' h
    exact ⟨sender, (rtpSender?_of_peer hpeer).trans hsender, hsame⟩
  case isFalse => exact ⟨sender', h, .refl sender'⟩

/-- The senders are left alone. -/
theorem rtpSender?_same {peerId : UInt32} {f : Peer → Peer}
    (hf : ∀ peer, (f peer).rtpSenders = peer.rtpSenders) (s : Ref) :
    (room.modifyPeer peerId f).rtpSender? s = room.rtpSender? s := by
  rw [rtpSender?, bind_modifyPeer, rtpSender?]
  simp only [hf, ite_self]

/-- A sender is put into a peer. -/
theorem rtpSender?_insert {peerId id : UInt32} {peer : Peer} (s' : RtpSender)
    (hpeer : room.peers.find? peerId = some peer) (s : Ref) :
    (room.modifyPeer peerId fun peer =>
      { peer with rtpSenders := peer.rtpSenders.insert id s' }).rtpSender? s =
      if s = (peerId, id) then some s' else room.rtpSender? s := by
  rw [rtpSender?, bind_modifyPeer]
  by_cases heq : s.1 = peerId
  · rw [if_pos heq, rtpSender?, heq, hpeer, Option.bind_some, Option.bind_some, Table.find?_insert]
    by_cases hid : s.2 = id
    · rw [if_pos hid, if_pos (Prod.ext heq hid)]
    · rw [if_neg hid, if_neg fun hs => hid (congrArg Prod.snd hs)]
  · rw [if_neg heq, if_neg fun hs => heq (congrArg Prod.fst hs), rtpSender?]

/-! ## Sending -/

/-- A sender is added that carries what its receiver has. -/
theorem CarriesBut.add (h : room.CarriesBut stale) {peerId : UInt32} {ref : Ref} {r : RtpReceiver}
    {p : RtpParameters} (hp : r.rtpParameters = some p) (hmedia : room.media.rtpParameters ref = some p)
    (husable : p.Usable) (hok : room.addRtpSenderForRtpReceiver env peerId ref r = .ok room') :
    room'.CarriesBut stale := by
  have hsame := (onlySenders_addRtpSenderForRtpReceiver hok).media_eq
  unfold addRtpSenderForRtpReceiver at hok
  split at hok
  case h_1 => cases hok; exact h
  case h_2 peer hpeer =>
    rw [hp] at hok
    split at hok
    case h_2 => cases hok
    case h_1 capabilities q hcapabilities hq =>
      cases hq
      dsimp only at hok
      split at hok
      case isTrue => cases hok
      case isFalse =>
        obtain ⟨sent, hsent, heq⟩ := Checked.bind_eq_ok.1 hok
        have hcarries := RtpSender.carries_send husable hsent
        intro s ref' sender hs hsender
        rw [hsame]
        cases heq
        dsimp only at hs hsender
        change (room.modifyPeer peerId _).rtpSender? s = some sender at hsender
        rw [rtpSender?_insert sent hpeer] at hsender
        rw [Table.find?_insert] at hs
        split at hs
        case isTrue hnew =>
          rw [if_pos hnew] at hsender
          cases hs
          cases hsender
          exact .inr ⟨p, hmedia, hcarries⟩
        case isFalse hother =>
          rw [if_neg hother] at hsender
          exact h s ref' sender hs hsender

/-- The loop that adds senders. -/
theorem CarriesBut.addAll (h : room.CarriesBut stale) {α : Type} (peerOf : α → UInt32) (refOf : α → Ref)
    (rOf : α → RtpReceiver) {tasks : List α}
    (htasks : ∀ a ∈ tasks, ∃ p, (rOf a).rtpParameters = some p ∧
      room.media.rtpParameters (refOf a) = some p ∧ p.Usable)
    (hok : tasks.foldlM (fun room a => room.addRtpSenderForRtpReceiver env (peerOf a) (refOf a) (rOf a))
      room = .ok room') : room'.CarriesBut stale := by
  let add (room : Room) (a : α) := room.addRtpSenderForRtpReceiver env (peerOf a) (refOf a) (rOf a)
  have hloop : Checked.Ends (tasks.foldlM add room)
      (fun room' => room.OnlySenders room' ∧ room'.CarriesBut stale) fun _ => True := by
    refine Checked.ends_foldlM (fun room₁ a ha hroom₁ => ?_) ⟨.refl room, h⟩
    obtain ⟨p, hp, hmedia, husable⟩ := htasks a ha
    refine (Checked.Ends.self _).mono (fun room₂ hadd => ?_) fun _ _ => trivial
    rw [← hroom₁.1.media_eq] at hmedia
    exact ⟨hroom₁.1.trans (onlySenders_addRtpSenderForRtpReceiver hadd),
      hroom₁.2.add hp hmedia husable hadd⟩
  exact (hloop.of_ok hok).2

/-- **One round.** A stale sender is given the parameters that its receiver has. -/
theorem CarriesBut.send {s₀ ref : Ref} {rest : List Ref} {p : RtpParameters}
    (h : room.CarriesBut (· ∈ s₀ :: rest)) (hfed : room.mapRtpSenderRtpReceiver.find? s₀ = some ref)
    (hmedia : room.media.rtpParameters ref = some p) (husable : p.Usable)
    (hok : room.send env p s₀ = .ok room') :
    room'.CarriesBut (· ∈ rest) ∧ room'.mapRtpSenderRtpReceiver = room.mapRtpSenderRtpReceiver := by
  have hold : ∀ s ref' sender, s ≠ s₀ → room.mapRtpSenderRtpReceiver.find? s = some ref' →
      room.rtpSender? s = some sender → s ∈ rest ∨
        ∃ p, room.media.rtpParameters ref' = some p ∧ sender.Carries p := by
    intro s ref' sender hne hs hsender
    refine (h s ref' sender hs hsender).imp_left fun hmem => ?_
    exact (List.mem_cons.1 hmem).resolve_left hne
  have hmissing : room.rtpSender? s₀ = none → room.CarriesBut (· ∈ rest) := by
    intro hnone s ref' sender hs hsender
    refine hold s ref' sender (fun heq => ?_) hs hsender
    rw [heq, hnone] at hsender
    cases hsender
  have hsame := (onlySenders_send hok).media_eq
  unfold Room.send at hok
  split at hok
  case h_1 hpeer =>
    cases hok
    refine ⟨hmissing ?_, rfl⟩
    rw [rtpSender?, hpeer]
    rfl
  case h_2 peer hpeer =>
    split at hok
    case h_1 hnone =>
      cases hok
      exact ⟨hmissing ((rtpSender?_of_peer hpeer).trans hnone), rfl⟩
    case h_2 sender₀ hsender₀ =>
      obtain ⟨sent, hsent, heq⟩ := Checked.bind_eq_ok.1 hok
      have hcarries := RtpSender.carries_send husable hsent
      refine ⟨fun s ref' sender hs hsender => ?_, by cases heq; rfl⟩
      rw [hsame]
      cases heq
      change (room.modifyPeer s₀.1 _).rtpSender? s = some sender at hsender
      rw [rtpSender?_insert sent hpeer] at hsender
      split at hsender
      case isTrue hs₀ =>
        rw [hs₀, hfed] at hs
        cases hs
        cases hsender
        exact .inr ⟨p, hmedia, hcarries⟩
      case isFalse hs₀ => exact hold s ref' sender hs₀ hs hsender

/-- **The loop.** All the senders of a receiver are given its parameters. -/
theorem CarriesBut.sendAll {ref : Ref} {p : RtpParameters} (husable : p.Usable) {rtpSenders : List Ref}
    (h : room.CarriesBut (· ∈ rtpSenders))
    (hfed : ∀ s ∈ rtpSenders, room.mapRtpSenderRtpReceiver.find? s = some ref)
    (hmedia : room.media.rtpParameters ref = some p)
    (hok : rtpSenders.foldlM (fun room s => room.send env p s) room = .ok room') :
    room'.CarriesBut fun _ => False := by
  induction rtpSenders generalizing room with
  | nil =>
      cases hok
      exact fun s ref' sender hs hsender =>
        (h s ref' sender hs hsender).imp_left fun hmem => absurd hmem List.not_mem_nil
  | cons s rtpSenders ih =>
      rw [List.foldlM_cons] at hok
      obtain ⟨room₁, hroom₁, hrest⟩ := Checked.bind_eq_ok.1 hok
      obtain ⟨hcarries, hmap⟩ := h.send (hfed s List.mem_cons_self) hmedia husable hroom₁
      refine ih hcarries (fun s' hs' => ?_) ?_ hrest
      · rw [hmap]
        exact hfed s' (List.mem_cons_of_mem _ hs')
      · rw [(onlySenders_send hroom₁).media_eq]
        exact hmedia

/-! ## The steps -/

/-- A receiver has new parameters, and its senders are stale. -/
theorem CarriesBut.setParameters (h : room.CarriesBut fun _ => False) (ref : Ref) (r : RtpReceiver)
    (p : RtpParameters) :
    (room.setParameters ref r p).CarriesBut fun s => room.mapRtpSenderRtpReceiver.find? s = some ref := by
  intro s ref' sender hs hsender
  by_cases heq : ref' = ref
  · exact .inl (heq ▸ hs)
  · rw [Room.setParameters, rtpSender?_same] at hsender
    case hf => exact fun _ => rfl
    obtain ⟨p', hp', hcarries⟩ := (h s ref' sender hs hsender).resolve_left not_false
    refine .inr ⟨p', ?_, hcarries⟩
    rw [Room.setParameters, media_rtpParameters, bind_modifyPeer]
    split
    case isTrue hpeerId =>
      rw [media_rtpParameters] at hp'
      obtain ⟨peer', hpeer', hp'⟩ := Option.bind_eq_some_iff.1 hp'
      rw [hpeer', Option.bind_some, Table.find?_insert, if_neg fun hid => heq (Prod.ext hpeerId hid)]
      exact hp'
    case isFalse => exact hp'

/-- **Receiving.** The senders of the receiver are given its new parameters, or a sender is made for each
peer that has none. -/
theorem carries_receive (h : room.CarriesBut fun _ => False) (hmesh : Mesh room.view) {ref : Ref}
    {peer : Peer} {r : RtpReceiver} {p : RtpParameters} (hpeer : room.peers.find? ref.1 = some peer)
    (husable : p.Usable)
    (hok : (room.setParameters ref r p).onPeerRtpReceiverParameters env ref
      { r.clearRtpStreams with rtpParameters := some p } = .ok room') :
    room'.CarriesBut fun _ => False := by
  have hstale := h.setParameters ref r p
  have hmedia : (room.setParameters ref r p).media.rtpParameters ref = some p := by
    rw [Room.setParameters, media_rtpParameters, bind_modifyPeer, if_pos rfl, hpeer, Option.bind_some,
      Table.find?_insert, if_pos rfl]
    rfl
  have hinverse := hmesh.inverse
  unfold onPeerRtpReceiverParameters at hok
  dsimp only at hok
  split at hok
  case h_1 hnone =>
    -- No sender is stale yet, since the receiver has fed none.
    have hcarries : Room.CarriesBut (fun _ => False) { room.setParameters ref r p with
        mapRtpReceiverRtpSenders :=
          (room.setParameters ref r p).mapRtpReceiverRtpSenders.insert ref [] } := by
      intro s ref' sender hs hsender
      refine (hstale s ref' sender hs hsender).imp_left fun hfed => ?_
      obtain ⟨rtpSenders, hsome, -⟩ := (hinverse s ref).2 hfed
      change room.mapRtpReceiverRtpSenders.find? ref = none at hnone
      change room.mapRtpReceiverRtpSenders.find? ref = some rtpSenders at hsome
      rw [hnone] at hsome
      cases hsome
    exact hcarries.addAll id (fun _ => ref) (fun _ => { r.clearRtpStreams with rtpParameters := some p })
      (fun _ _ => ⟨p, rfl, hmedia, husable⟩) hok
  case h_2 rtpSenders hsome =>
    have hfed : ∀ s, s ∈ rtpSenders ↔ room.mapRtpSenderRtpReceiver.find? s = some ref := fun s =>
      ⟨fun hs => (hinverse s ref).1 ⟨rtpSenders, hsome, hs⟩, fun hs => by
        obtain ⟨rtpSenders', hsome', hmem⟩ := (hinverse s ref).2 hs
        obtain rfl := Option.some.inj (hsome.symm.trans hsome')
        exact hmem⟩
    have hlisted : (room.setParameters ref r p).CarriesBut (· ∈ rtpSenders) :=
      fun s ref' sender hs hsender => (hstale s ref' sender hs hsender).imp_left (hfed s).2
    exact hlisted.sendAll husable (fun s hs => (hfed s).1 hs) hmedia hok

/-- **New capabilities.** A sender is made for each receiver with parameters. -/
theorem carries_onPeerCapabilities (h : room.CarriesBut fun _ => False) (hsound : room.media.Sound)
    {peerId : UInt32} {capabilities : RtpCapabilities}
    (hok : room.onPeerCapabilities env peerId capabilities = .ok room') :
    room'.CarriesBut fun _ => False := by
  unfold onPeerCapabilities at hok
  obtain ⟨reduced, -, hok⟩ := Checked.bind_eq_ok.1 hok
  have hmedia : ∀ ref, (room.modifyPeer peerId fun peer =>
      { peer with capabilities := some reduced }).media.rtpParameters ref =
        room.media.rtpParameters ref := by
    intro ref
    rw [media_rtpParameters, bind_modifyPeer, media_rtpParameters]
    split <;> rfl
  have hcarries : (room.modifyPeer peerId fun peer =>
      { peer with capabilities := some reduced }).CarriesBut fun _ => False := by
    intro s ref sender hs hsender
    rw [rtpSender?_same] at hsender
    case hf => exact fun _ => rfl
    obtain ⟨p, hp, hcarries⟩ := (h s ref sender hs hsender).resolve_left not_false
    exact .inr ⟨p, (hmedia ref).trans hp, hcarries⟩
  refine hcarries.addAll (fun _ => peerId) Prod.fst Prod.snd
    (fun ready hready => ?_) hok
  obtain ⟨peer, hpeer, hr, hp⟩ := mem_readyRtpReceivers.1 hready
  obtain ⟨p, hp⟩ := Option.isSome_iff_exists.1 hp
  have hparameters : (room.modifyPeer peerId fun peer =>
      { peer with capabilities := some reduced }).media.rtpParameters ready.1 = some p := by
    change (room.modifyPeer peerId _).peers.find? ready.1.1 = some peer at hpeer
    rw [media_rtpParameters, hpeer, Option.bind_some, hr]
    exact hp
  exact ⟨p, hp, hparameters, hsound.rtpParameters ready.1 p ((hmedia _).symm.trans hparameters)⟩

/-- The room has fewer senders, and they are as they were. -/
structure Shrinks (room room' : Room) : Prop where
  mapped : ∀ s ref, room'.mapRtpSenderRtpReceiver.find? s = some ref →
    room.mapRtpSenderRtpReceiver.find? s = some ref
  rtpSender : ∀ s sender', room'.rtpSender? s = some sender' →
    ∃ sender, room.rtpSender? s = some sender ∧ sender.SameMedia sender'

theorem Shrinks.refl (room : Room) : room.Shrinks room :=
  ⟨fun _ _ hs => hs, fun _ sender hs => ⟨sender, hs, .refl sender⟩⟩

theorem Shrinks.trans {room'' : Room} (h : room.Shrinks room') (h' : room'.Shrinks room'') :
    room.Shrinks room'' where
  mapped := fun s ref hs => h.mapped s ref (h'.mapped s ref hs)
  rtpSender := fun s sender'' hs => by
    obtain ⟨sender', hs', hsame'⟩ := h'.rtpSender s sender'' hs
    obtain ⟨sender, hs, hsame⟩ := h.rtpSender s sender' hs'
    exact ⟨sender, hs, hsame.trans hsame'⟩

/-- A peer is changed, and keeps its senders. -/
theorem shrinks_modifyPeer {peerId : UInt32} {f : Peer → Peer}
    (hf : ∀ peer, room.peers.find? peerId = some peer → peer.KeepsSenders (f peer)) :
    room.Shrinks (room.modifyPeer peerId f) :=
  ⟨fun _ _ hs => hs, rtpSender?_modifyPeer hf⟩

/-- A loop in which only things go. -/
theorem Shrinks.foldl {α : Type} {f : Room → α → Room} (hf : ∀ (room : Room) a, room.Shrinks (f room a))
    (as : List α) (room : Room) : room.Shrinks (as.foldl f room) := by
  induction as generalizing room with
  | nil => exact .refl room
  | cons a as ih => exact (hf room a).trans (ih _)

/-- A sender that closes takes its entries in the maps with it. -/
theorem shrinks_closeRtpSender (room : Room) (s : Ref) : room.Shrinks (room.closeRtpSender s) := by
  have hpeers : room.Shrinks (room.modifyPeer s.1 fun peer =>
      { peer with rtpSenders := peer.rtpSenders.erase s.2 }) := by
    refine shrinks_modifyPeer fun peer _ id sender hsender => ?_
    rw [Table.find?_erase] at hsender
    split at hsender
    · cases hsender
    · exact ⟨sender, hsender, .refl sender⟩
  refine ⟨fun s' ref hs => ?_, hpeers.rtpSender⟩
  unfold closeRtpSender at hs
  rw [Table.find?_erase] at hs
  split at hs
  · cases hs
  · exact hs

/-- A receiver goes with its senders. -/
theorem shrinks_closeRtpReceiver (room : Room) (ref : Ref) : room.Shrinks (room.closeRtpReceiver ref) := by
  have hclosed : room.Shrinks (room.modifyPeer ref.1 fun peer => peer.onRtpReceiverClosed ref.2) :=
    shrinks_modifyPeer fun _ _ => .of_eq rfl
  unfold closeRtpReceiver onPeerRtpReceiverClosed
  split
  case h_1 => exact hclosed
  case h_2 rtpSenders _ =>
    have hall := hclosed.trans (Shrinks.foldl shrinks_closeRtpSender rtpSenders _)
    exact ⟨hall.mapped, hall.rtpSender⟩

/-- A peer goes with all that it has. -/
theorem shrinks_closePeer (room : Room) (peerId : UInt32) : room.Shrinks (room.closePeer peerId) := by
  unfold closePeer
  dsimp only
  have hreceivers := Shrinks.foldl shrinks_closeRtpReceiver (room.rtpReceiversOf peerId) room
  generalize (room.rtpReceiversOf peerId).foldl closeRtpReceiver room = room₁ at hreceivers
  have hsenders := hreceivers.trans (Shrinks.foldl shrinks_closeRtpSender (room₁.rtpSendersOf peerId) room₁)
  generalize (room₁.rtpSendersOf peerId).foldl closeRtpSender room₁ = room₂ at hsenders
  have htransports := hsenders.trans (Shrinks.foldl (f := fun room id => room.closeTransport peerId id)
    (fun room id => shrinks_modifyPeer fun peer _ => (Peer.Edit.closeTransport id).keepsSenders)
    (room₂.transportsOf peerId) room₂)
  generalize (room₂.transportsOf peerId).foldl (fun room id => room.closeTransport peerId id) room₂ =
    room₃ at htransports
  refine htransports.trans ⟨fun _ _ hs => hs, fun s sender hs => ⟨sender, ?_, .refl sender⟩⟩
  obtain ⟨peer, hpeer, hs⟩ := Option.bind_eq_some_iff.1 hs
  rw [Table.find?_erase] at hpeer
  split at hpeer
  · cases hpeer
  · exact (rtpSender?_of_peer hpeer).trans hs

/-- **The step lemma.** After every edit the senders carry what their receivers have. -/
theorem carries_edit (hmesh : Mesh room.view) (hsound : room.media.Sound)
    (h : room.CarriesBut fun _ => False) (hedit : room.Edit receives room') :
    room'.CarriesBut fun _ => False := by
  have hmesh' : Mesh room'.view := hedit.chain.inv (fun _ _ => mesh_change) hmesh
  cases hedit with
  | peer peerId f hf =>
      have hkeeps : ∀ peer, room.peers.find? peerId = some peer → peer.KeepsSenders (f peer) :=
        fun peer hpeer => (hf peer hpeer).inv (I := fun peer' => peer.KeepsSenders peer')
          (fun _ _ hkept hedit => hkept.trans hedit.keepsSenders) (.of_eq rfl)
      have hmedia := media_modifyPeer fun peer hpeer => (hf peer hpeer).sameMembers
      exact h.within hmesh' (hmedia ▸ .refl _) (fun _ _ hs => hs) (rtpSender?_modifyPeer hkeeps)
  | audioLevels enabled =>
      exact h.within hmesh' (.refl _) (fun _ _ hs => hs) (Shrinks.refl room).rtpSender
  | createPeer peerId peerName hnew =>
      have hfound : ∀ peerId' peer, (room.peers.insert peerId { peerName }).find? peerId' = some peer →
          peer = { peerName } ∨ room.peers.find? peerId' = some peer := by
        intro peerId' peer hpeer
        rw [Table.find?_insert] at hpeer
        split at hpeer
        · exact .inl (Option.some.inj hpeer).symm
        · exact .inr hpeer
      intro s ref sender hs hsender
      obtain ⟨peer, hpeer, hsender⟩ := Option.bind_eq_some_iff.1 hsender
      rcases hfound s.1 peer hpeer with rfl | hpeer
      · cases hsender
      have hold : room.rtpSender? s = some sender := (rtpSender?_of_peer hpeer).trans hsender
      obtain ⟨p, hp, hcarries⟩ := (h s ref sender hs hold).resolve_left not_false
      refine .inr ⟨p, ?_, hcarries⟩
      obtain ⟨p', hp'⟩ := parameters_of_mesh hmesh' hs
      obtain ⟨owner, howner, hr⟩ := Option.bind_eq_some_iff.1 hp'
      rcases hfound ref.1 owner howner with rfl | howner
      · cases hr
      · rw [media_rtpParameters, howner] at hp
        obtain rfl := Option.some.inj (hr.symm.trans hp)
        exact hp'
  | closePeer peerId =>
      exact h.within hmesh' (within_closePeer room peerId) (shrinks_closePeer room peerId).mapped
        (shrinks_closePeer room peerId).rtpSender
  | setCapabilities env hpeer hnone hdata hok => exact carries_onPeerCapabilities h hsound hok
  | createRtpReceiver kind hpeer hcapabilities hnew ht =>
      refine h.within hmesh' (within_modifyPeer (fun _ _ _ hc => hc) fun peer _ id p hp => ?_)
        (fun _ _ hs => hs) (rtpSender?_modifyPeer fun _ _ => .of_eq rfl)
      rw [Table.find?_insert] at hp
      split at hp
      · cases hp
      · exact hp
  | closeRtpReceiver ref =>
      exact h.within hmesh' (within_closeRtpReceiver room ref) (shrinks_closeRtpReceiver room ref).mapped
        (shrinks_closeRtpReceiver room ref).rtpSender
  | @receive env ref peer r data given p _ hpeer hr _ hdata hp hok =>
      obtain ⟨reduced, hreduced, rfl⟩ := Peer.onRtpReceiverParameters_ok hp
      have husable := (RtpParameters.ends_reduceCodecsAndEncodings (usable_capabilities hsound hpeer)
        ((RtpParameters.ends_ofJson data).of_ok hdata)).of_ok hreduced
      have hsame : ∀ peer', room.peers.find? ref.1 = some peer' →
          peer'.SameMembers (peer.onRtpReceiverParameters ref.2 r given).1 := by
        intro peer' hpeer'
        obtain rfl := Option.some.inj (hpeer.symm.trans hpeer')
        exact Peer.sameMembers_onRtpReceiverParameters ref.2 r given
      have hlisted : (room.modifyPeer ref.1 fun _ =>
          (peer.onRtpReceiverParameters ref.2 r given).1).CarriesBut fun _ => False := by
        refine h.within (mesh_change hmesh (.members ref.1 _ hsame)) (media_modifyPeer hsame ▸ .refl _)
          (fun _ _ hs => hs) (rtpSender?_modifyPeer fun peer' hpeer' => .of_eq ?_)
        obtain rfl := Option.some.inj (hpeer.symm.trans hpeer')
        unfold Peer.onRtpReceiverParameters
        dsimp only
        split
        · rfl
        · split
          · rfl
          · unfold Peer.addRtpReceiver
            split <;> rfl
      exact carries_receive hlisted (mesh_change hmesh (.members ref.1 _ hsame)) (find?_modifyPeer hpeer)
        (husable.reduceHeaderExtensions _) hok

/-- What a run keeps of the three together: the mesh, the pointers, and what the senders carry. -/
theorem kept_of_exec {roomId : UInt32} {data : JsonCpp.Value} {events : List RoomEvent}
    (hcreate : Room.create roomId data = .ok room) (h : Machine.exec step room events = some room') :
    Mesh room'.view ∧ room'.Attached ∧ room'.CarriesBut fun _ => False := by
  have hcarries : room.CarriesBut fun _ => False := fun s ref sender hs _ => by
    rw [(create_ok hcreate).2.2] at hs
    cases hs
  have hattached : room.Attached := fun peerId peer hpeer => by
    rw [(create_ok hcreate).1] at hpeer
    cases hpeer
  have hkept := exec_inv_of_edit (I := fun room => room.Attached ∧ room.CarriesBut fun _ => False)
    (fun _ _ _ hmesh hsound hI hedit =>
      ⟨attached_edit hI.1 hedit, carries_edit hmesh hsound hI.2 hedit⟩) hcreate h ⟨hattached, hcarries⟩
  exact ⟨hkept.1.1, hkept.2⟩

/-- **The senders carry what their receivers have now.** In every run each sender of a peer is fed by a
receiver of another peer that has parameters; it supports the payload types of their codecs, and its one
encoding is their first. It has a stream just if there is one. -/
theorem senders_carry {roomId : UInt32} {data : JsonCpp.Value} {events : List RoomEvent}
    (hcreate : Room.create roomId data = .ok room) (h : Machine.exec step room events = some room')
    {s : Ref} {sender : RtpSender} (hsender : room'.rtpSender? s = some sender) :
    ∃ ref p, room'.mapRtpSenderRtpReceiver.find? s = some ref ∧ ref.1 ≠ s.1 ∧
      room'.media.rtpParameters ref = some p ∧ sender.Carries p := by
  obtain ⟨hmesh, -, hcarries⟩ := kept_of_exec hcreate h
  obtain ⟨ref, href, hne⟩ := fed_of_mesh hmesh hsender
  obtain ⟨p, hp, hs⟩ := (hcarries s ref sender href hsender).resolve_left not_false
  exact ⟨ref, p, href, hne, hp, hs⟩

/-- A sender with the parameters of its receiver. -/
theorem senders_carry_attachedSender : ∃ room room' sender,
    Room.create 1 (.object [("mediaCodecs", .array [vp8])]) = .ok room ∧
      Machine.exec step room attachedSender = some room' ∧
      room'.rtpSender? (2, 10000000) = some sender ∧
      ∃ ref p, room'.mapRtpSenderRtpReceiver.find? (2, 10000000) = some ref ∧ ref.1 ≠ 2 ∧
        room'.media.rtpParameters ref = some p ∧ sender.Carries p := by
  have hrun : ∃ room room', Room.create 1 (.object [("mediaCodecs", .array [vp8])]) = .ok room ∧
      Machine.exec step room attachedSender = some room' ∧
      (room'.rtpSender? (2, 10000000)).isSome = true :=
    exists_run (fun _ _ h => h) (by decide +kernel)
  obtain ⟨room, room', hcreate, hexec, hsome⟩ := hrun
  obtain ⟨sender, hsender⟩ := Option.isSome_iff_exists.1 hsome
  exact ⟨room, room', sender, hcreate, hexec, hsender, senders_carry hcreate hexec hsender⟩

end Room

end KoreWebsocket.Rtc
