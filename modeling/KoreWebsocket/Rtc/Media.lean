import KoreWebsocket.Rtc.Codecs

/-!
# The codecs of a room

What a room knows about codecs is a `Media`: its own codecs, the RTX codecs, the capabilities of the
peers and the parameters of the receivers. They are usable at any time (`Media.Sound`): a change leaves
them as they are, takes some away (`Media.Within`), or adds what has been reduced to usable codecs.
-/

namespace KoreWebsocket.Rtc

open JsonCpp
open Checked (Ends)

/-- What a room knows about codecs. -/
@[ext] structure Media where
  codecs : List RtpCodecParameters
  rtxCodecs : UInt8 → Option RtpCodecParameters
  capabilities : UInt32 → Option RtpCapabilities
  rtpParameters : Ref → Option RtpParameters

namespace Media

/-- All the codecs are usable. -/
structure Sound (m : Media) : Prop where
  codecs : ∀ codec ∈ m.codecs, codec.Usable
  rtxCodecs : ∀ payloadType codec, m.rtxCodecs payloadType = some codec → codec.Usable
  capabilities : ∀ peerId c, m.capabilities peerId = some c → ∀ codec ∈ c.codecs, codec.Usable
  rtpParameters : ∀ ref p, m.rtpParameters ref = some p → p.Usable

/-- The second has nothing that the first has not. -/
structure Within (m m' : Media) : Prop where
  codecs : m'.codecs = m.codecs
  rtxCodecs : m'.rtxCodecs = m.rtxCodecs
  capabilities : ∀ peerId c, m'.capabilities peerId = some c → m.capabilities peerId = some c
  rtpParameters : ∀ ref p, m'.rtpParameters ref = some p → m.rtpParameters ref = some p

variable {m m' m'' : Media}

theorem Within.refl (m : Media) : m.Within m := ⟨rfl, rfl, fun _ _ h => h, fun _ _ h => h⟩

theorem Within.trans (h : m.Within m') (h' : m'.Within m'') : m.Within m'' where
  codecs := h'.codecs.trans h.codecs
  rtxCodecs := h'.rtxCodecs.trans h.rtxCodecs
  capabilities := fun peerId c hc => h.capabilities peerId c (h'.capabilities peerId c hc)
  rtpParameters := fun ref p hp => h.rtpParameters ref p (h'.rtpParameters ref p hp)

/-- What is left of something sound is sound. -/
theorem Sound.within (h : m.Sound) (hw : m.Within m') : m'.Sound where
  codecs := fun codec hcodec => h.codecs codec (hw.codecs ▸ hcodec)
  rtxCodecs := fun payloadType codec hcodec => h.rtxCodecs payloadType codec (hw.rtxCodecs ▸ hcodec)
  capabilities := fun peerId c hc => h.capabilities peerId c (hw.capabilities peerId c hc)
  rtpParameters := fun ref p hp => h.rtpParameters ref p (hw.rtpParameters ref p hp)

end Media

/-- What this room knows about codecs. -/
def Room.media (room : Room) : Media where
  codecs := room.capabilities.codecs
  rtxCodecs := room.mapPayloadRtxCodecParameters.find?
  capabilities := fun peerId => (room.peers.find? peerId).bind (·.capabilities)
  rtpParameters := fun ref => (room.peers.find? ref.1).bind fun peer =>
    (peer.rtpReceivers.find? ref.2).bind (·.rtpParameters)

namespace Room

variable {room room' : Room} {env : Environment}

/-- The capabilities of a peer of the room. -/
theorem media_capabilities (room : Room) (peerId : UInt32) : room.media.capabilities peerId =
    (room.peers.find? peerId).bind (·.capabilities) := rfl

/-- The parameters of a receiver of the room. -/
theorem media_rtpParameters (room : Room) (ref : Ref) : room.media.rtpParameters ref =
    (room.peers.find? ref.1).bind fun peer =>
      (peer.rtpReceivers.find? ref.2).bind (·.rtpParameters) := rfl

/-- What a peer has after a peer is changed. -/
theorem bind_modifyPeer {β : Type} {peerId peerId' : UInt32} {f : Peer → Peer}
    {q : Peer → Option β} :
    ((room.modifyPeer peerId f).peers.find? peerId').bind q =
      if peerId' = peerId then (room.peers.find? peerId').bind fun peer => q (f peer)
      else (room.peers.find? peerId').bind q := by
  rw [modifyPeer, Table.find?_modify]
  split
  case isTrue => rw [Option.bind_map]; rfl
  case isFalse => rfl

section
variable {peerId : UInt32} {f : Peer → Peer}

/-- A peer that has no more than before. -/
theorem within_modifyPeer
    (hc : ∀ peer, room.peers.find? peerId = some peer →
      ∀ c, (f peer).capabilities = some c → peer.capabilities = some c)
    (hp : ∀ peer, room.peers.find? peerId = some peer → ∀ id p,
      ((f peer).rtpReceivers.find? id).bind (·.rtpParameters) = some p →
        (peer.rtpReceivers.find? id).bind (·.rtpParameters) = some p) :
    room.media.Within (room.modifyPeer peerId f).media where
  codecs := rfl
  rtxCodecs := rfl
  capabilities := fun peerId' c h => by
    rw [media_capabilities, bind_modifyPeer] at h
    rw [media_capabilities]
    split at h
    case isTrue heq =>
      obtain ⟨peer, hpeer, h⟩ := Option.bind_eq_some_iff.1 h
      rw [hpeer]
      exact hc peer (heq ▸ hpeer) c h
    case isFalse => exact h
  rtpParameters := fun ref p h => by
    rw [media_rtpParameters, bind_modifyPeer] at h
    rw [media_rtpParameters]
    split at h
    case isTrue heq =>
      obtain ⟨peer, hpeer, h⟩ := Option.bind_eq_some_iff.1 h
      rw [hpeer]
      exact hp peer (heq ▸ hpeer) ref.2 p h
    case isFalse => exact h

/-- A peer that has what it had before. -/
theorem media_modifyPeer
    (h : ∀ peer, room.peers.find? peerId = some peer → peer.SameMembers (f peer)) :
    (room.modifyPeer peerId f).media = room.media := by
  apply Media.ext
  · rfl
  · rfl
  · funext peerId'
    rw [media_capabilities, bind_modifyPeer, media_capabilities]
    split
    case isTrue heq =>
      cases hpeer : room.peers.find? peerId' with
      | none => rfl
      | some peer => exact (h peer (heq ▸ hpeer)).capabilities
    case isFalse => rfl
  · funext ref
    rw [media_rtpParameters, bind_modifyPeer, media_rtpParameters]
    split
    case isTrue heq =>
      cases hpeer : room.peers.find? ref.1 with
      | none => rfl
      | some peer =>
          have hmap := congrArg (Option.bind · id) ((h peer (heq ▸ hpeer)).rtpParameters ref.2)
          rw [Option.bind_map, Option.bind_map] at hmap
          exact hmap
    case isFalse => rfl

end

/-! ## Senders -/

/-- The rooms differ in the senders of the peers, and in what they know about senders. -/
structure OnlySenders (room room' : Room) : Prop where
  capabilities : room'.capabilities = room.capabilities
  rtxCodecs : room'.mapPayloadRtxCodecParameters = room.mapPayloadRtxCodecParameters
  peers : ∀ peerId, (room'.peers.find? peerId).map (fun peer => { peer with rtpSenders := ∅ }) =
    (room.peers.find? peerId).map fun peer => { peer with rtpSenders := ∅ }

theorem OnlySenders.refl (room : Room) : room.OnlySenders room := ⟨rfl, rfl, fun _ => rfl⟩

theorem OnlySenders.trans {room'' : Room} (h : room.OnlySenders room') (h' : room'.OnlySenders room'') :
    room.OnlySenders room'' where
  capabilities := h'.capabilities.trans h.capabilities
  rtxCodecs := h'.rtxCodecs.trans h.rtxCodecs
  peers := fun peerId => (h'.peers peerId).trans (h.peers peerId)

/-- What a peer has besides senders is as it was. -/
theorem OnlySenders.bind_eq (h : room.OnlySenders room') {β : Type} (peerId : UInt32)
    {q : Peer → Option β} (hq : ∀ peer : Peer, q { peer with rtpSenders := ∅ } = q peer) :
    (room'.peers.find? peerId).bind q = (room.peers.find? peerId).bind q := by
  have hbind := congrArg (Option.bind · q) (h.peers peerId)
  simp only [Option.bind_map, Function.comp_def, hq] at hbind
  exact hbind

/-- The senders are not part of what is negotiated. -/
theorem OnlySenders.media_eq (h : room.OnlySenders room') : room'.media = room.media := by
  apply Media.ext
  · exact congrArg RtpCapabilities.codecs h.capabilities
  · exact congrArg Table.find? h.rtxCodecs
  · funext peerId
    exact h.bind_eq peerId fun _ => rfl
  · funext ref
    exact h.bind_eq ref.1 fun _ => rfl

/-- A peer gets other senders. -/
theorem onlySenders_modifyPeer (room : Room) (peerId : UInt32) (g : Peer → Table UInt32 RtpSender) :
    room.OnlySenders
      (room.modifyPeer peerId fun peer => { peer with rtpSenders := g peer }) where
  capabilities := rfl
  rtxCodecs := rfl
  peers := fun peerId' => by
    rw [modifyPeer, Table.find?_modify]
    split
    case isTrue => rw [Option.map_map]; rfl
    case isFalse => rfl

/-- **Adding a sender** to a peer with capabilities, for usable parameters: the ids may clash. -/
theorem ends_addRtpSenderForRtpReceiver {senderPeerId : UInt32} {ref : Ref} {r : RtpReceiver}
    {p : RtpParameters} (hc : (room.media.capabilities senderPeerId).isSome = true)
    (hp : r.rtpParameters = some p) (h : p.Usable) :
    Ends (room.addRtpSenderForRtpReceiver env senderPeerId ref r)
      (fun room' => room.OnlySenders room') fun fault => fault = .abort .peerAddRtpSender := by
  unfold addRtpSenderForRtpReceiver
  rw [media_capabilities] at hc
  cases hpeer : room.peers.find? senderPeerId with
  | none => exact .refl room
  | some peer =>
      rw [hpeer, Option.bind_some] at hc
      obtain ⟨capabilities, hcapabilities⟩ := Option.isSome_iff_exists.1 hc
      dsimp only
      rw [hcapabilities, hp]
      dsimp only
      split
      · rfl
      · refine ((RtpSender.ends_send _ _ capabilities h).mono (fun _ h => h) fun _ h => h.elim).bind
          fun sent _ => ?_
        obtain ⟨hcap, hrtx, hpeers⟩ := onlySenders_modifyPeer room senderPeerId fun peer =>
          peer.rtpSenders.insert (env.rtpSenderIds room.numRtpSenders) sent
        exact ⟨hcap, hrtx, hpeers⟩

/-- **The loops that add senders**, for peers with capabilities and receivers with usable parameters. -/
theorem ends_addRtpSenders {α : Type} (peerOf : α → UInt32) (refOf : α → Ref)
    (rOf : α → RtpReceiver) (room : Room) {tasks : List α}
    (htasks : ∀ a ∈ tasks, (room.media.capabilities (peerOf a)).isSome = true ∧
      ∃ p, (rOf a).rtpParameters = some p ∧ p.Usable) :
    Ends (tasks.foldlM (fun room a => room.addRtpSenderForRtpReceiver env (peerOf a) (refOf a) (rOf a))
      room) (fun room' => room.OnlySenders room') fun fault => fault = .abort .peerAddRtpSender := by
  refine Checked.ends_foldlM (fun room₁ a ha hsame => ?_) (.refl room)
  obtain ⟨hc, p, hp, husable⟩ := htasks a ha
  rw [← hsame.media_eq] at hc
  exact (ends_addRtpSenderForRtpReceiver hc hp husable).mono (fun _ h => hsame.trans h) fun _ h => h

/-- A sender is given usable parameters, and fails no assertion. -/
theorem ends_send {p : RtpParameters} (h : p.Usable) (s : Ref) :
    Ends (room.send env p s) (fun room' => room.OnlySenders room') fun _ => False := by
  unfold send
  split
  · exact .refl room
  · split
    · exact .refl room
    · refine (RtpSender.ends_send _ _ _ h).bind fun sent _ => ?_
      exact onlySenders_modifyPeer room s.1 fun peer => peer.rtpSenders.insert s.2 sent

/-! ## Capabilities and parameters -/

/-- The RTX codecs of the video codecs that the room has for these are there. -/
def HasRtxCodecs (room : Room) (codecs : List RtpCodecParameters) : Prop :=
  ∀ codec ∈ codecs, codec.kind = .video → ∀ roomCodec,
    RtpCodecParameters.findMatch codec false room.capabilities.codecs = .ok (some roomCodec) →
      (room.mapPayloadRtxCodecParameters.find? roomCodec.payloadType).isSome = true

/-- The codecs of a peer are reduced to those of the room, and an assertion fails only where the room has no
RTX codec for one. -/
theorem ends_reducePeerCodecs (h : room.media.Sound) {codecs : List RtpCodecParameters}
    (hcodecs : ∀ codec ∈ codecs, codec.Complete) :
    Ends (room.reducePeerCodecs codecs)
      (fun out => (∀ codec ∈ out.1, codec.Usable) ∧ ∀ codec ∈ out.2, codec.Usable)
      fun fault => fault = .abort .onPeerCapabilities ∧ ¬ room.HasRtxCodecs codecs := by
  induction codecs with
  | nil =>
      exact ⟨fun codec h => absurd h List.not_mem_nil, fun codec h => absurd h List.not_mem_nil⟩
  | cons codec codecs ih =>
      obtain ⟨hcodec, hcodecs⟩ := List.forall_mem_cons.1 hcodecs
      have hrest : Ends (room.reducePeerCodecs codecs)
          (fun out => (∀ codec ∈ out.1, codec.Usable) ∧ ∀ codec ∈ out.2, codec.Usable)
          fun fault => fault = .abort .onPeerCapabilities ∧ ¬ room.HasRtxCodecs (codec :: codecs) :=
        (ih hcodecs).mono (fun _ h => h) fun fault hfault =>
          ⟨hfault.1, fun hrtx => hfault.2 fun c hc => hrtx c (List.mem_cons_of_mem codec hc)⟩
      have hmatch := RtpCodecParameters.ends_findMatch hcodec false
        fun codec hmem => (h.codecs codec hmem).toComplete
      unfold reducePeerCodecs
      cases hfound : RtpCodecParameters.findMatch codec false room.capabilities.codecs with
      | error fault => exact (hmatch.of_error hfound).elim
      | ok found =>
          have hfound' := hmatch.of_ok hfound
          rw [Checked.ok_bind]
          split
          case h_1 => exact hrest
          case h_2 roomCodec =>
            obtain ⟨hmem, hmime⟩ := hfound' roomCodec rfl
            obtain ⟨hcomplete, hrtx⟩ := hcodec.usable (h.codecs roomCodec hmem) hmime
            have hreduced : (RtpCodecParameters.reduceRtcpFeedback
                { codec with payloadType := roomCodec.payloadType, hasPayloadType := true }
                roomCodec.rtcpFeedback).Usable :=
              ⟨⟨hcomplete.packetizationMode, hcomplete.apt⟩, hrtx⟩
            dsimp only
            split
            case isTrue hvideo =>
              split
              case h_1 hnone =>
                refine ⟨rfl, fun hall => ?_⟩
                have hsome := hall codec List.mem_cons_self hvideo roomCodec hfound
                rw [hnone] at hsome
                cases hsome
              case h_2 rtxCodec hrtxCodec =>
                refine hrest.bind fun out hout => ?_
                exact ⟨List.forall_mem_cons.2 ⟨hreduced, hout.1⟩,
                  List.forall_mem_cons.2 ⟨h.rtxCodecs _ _ hrtxCodec, hout.2⟩⟩
            case isFalse =>
              refine hrest.bind fun out hout => ?_
              exact ⟨List.forall_mem_cons.2 ⟨hreduced, hout.1⟩, hout.2⟩

/-- The capabilities of a peer are reduced to those of the room, with the same assertion. -/
theorem ends_reduceCapabilities (h : room.media.Sound) {capabilities : RtpCapabilities}
    (hcodecs : ∀ codec ∈ capabilities.codecs, codec.Complete) :
    Ends (room.reduceCapabilities capabilities) (fun c => ∀ codec ∈ c.codecs, codec.Usable)
      fun fault => fault = .abort .onPeerCapabilities ∧ ¬ room.HasRtxCodecs capabilities.codecs := by
  unfold reduceCapabilities
  refine (ends_reducePeerCodecs h hcodecs).bind fun out hout => ?_
  intro codec hcodec
  rcases List.mem_append.1 hcodec with hcodec | hcodec
  · exact hout.1 codec hcodec
  · exact hout.2 codec hcodec

/-- **Everything that new capabilities can end with.** -/
theorem ends_onPeerCapabilities (h : room.media.Sound) {peerId : UInt32} {peer : Peer}
    {capabilities : RtpCapabilities} (hpeer : room.peers.find? peerId = some peer)
    (hcodecs : ∀ codec ∈ capabilities.codecs, codec.Complete) :
    Ends (room.onPeerCapabilities env peerId capabilities) (fun room' => room'.media.Sound)
      fun fault => fault = .abort .onPeerCapabilities ∧ ¬ room.HasRtxCodecs capabilities.codecs ∨
        fault = .abort .peerAddRtpSender := by
  unfold onPeerCapabilities
  refine ((ends_reduceCapabilities h hcodecs).mono (fun _ h => h) fun _ h => .inl h).bind
    fun reduced hreduced => ?_
  change Ends ((room.modifyPeer peerId fun peer =>
      { peer with capabilities := some reduced }).readyRtpReceivers.foldlM
    (fun room ready => room.addRtpSenderForRtpReceiver env peerId ready.1 ready.2)
    (room.modifyPeer peerId fun peer => { peer with capabilities := some reduced })) _ _
  have hsound : (room.modifyPeer peerId fun peer =>
      { peer with capabilities := some reduced }).media.Sound := {
    codecs := h.codecs
    rtxCodecs := h.rtxCodecs
    capabilities := fun peerId' c hc => by
      rw [media_capabilities, bind_modifyPeer] at hc
      split at hc
      case isTrue =>
        obtain ⟨peer', -, hc⟩ := Option.bind_eq_some_iff.1 hc
        obtain rfl := Option.some.inj hc
        exact hreduced
      case isFalse => exact h.capabilities peerId' c hc
    rtpParameters := fun ref p hp => by
      rw [media_rtpParameters, bind_modifyPeer] at hp
      refine h.rtpParameters ref p ?_
      rw [media_rtpParameters]
      split at hp <;> exact hp }
  have hcapable : ((room.modifyPeer peerId fun peer =>
      { peer with capabilities := some reduced }).media.capabilities peerId).isSome = true := by
    rw [media_capabilities, bind_modifyPeer, if_pos rfl, hpeer]
    rfl
  generalize room.modifyPeer peerId (fun peer =>
    { peer with capabilities := some reduced }) = room₁ at hsound hcapable
  have hadd := @ends_addRtpSenders env _ (fun _ => peerId) Prod.fst Prod.snd room₁
    room₁.readyRtpReceivers fun e he => by
      obtain ⟨peer', hpeer', hr, hready⟩ := mem_readyRtpReceivers.1 he
      obtain ⟨p, hp⟩ := Option.isSome_iff_exists.1 hready
      refine ⟨hcapable, p, hp, hsound.rtpParameters e.1 p ?_⟩
      rw [media_rtpParameters, hpeer', Option.bind_some, hr]
      exact hp
  exact hadd.mono (fun room' hsame => by rw [hsame.media_eq]; exact hsound) fun _ h => .inr h

/-- What a peer may use. -/
theorem usable_capabilities (h : room.media.Sound) {peerId : UInt32} {peer : Peer}
    (hpeer : room.peers.find? peerId = some peer) :
    ∀ codec ∈ (peer.capabilities.getD {}).codecs, codec.Usable := by
  cases hc : peer.capabilities with
  | none => exact fun codec h => absurd h List.not_mem_nil
  | some c =>
      refine h.capabilities peerId c ?_
      rw [media_capabilities, hpeer]
      exact hc

/-- A receiver with usable parameters. -/
theorem sound_setParameters (h : room.media.Sound) (ref : Ref) (r : RtpReceiver) {p : RtpParameters}
    (hp : p.Usable) : (room.setParameters ref r p).media.Sound where
  codecs := h.codecs
  rtxCodecs := h.rtxCodecs
  capabilities := fun peerId c hc => by
    rw [media_capabilities, setParameters, bind_modifyPeer] at hc
    refine h.capabilities peerId c ?_
    rw [media_capabilities]
    split at hc <;> exact hc
  rtpParameters := fun ref' p' hp' => by
    rw [media_rtpParameters, setParameters, bind_modifyPeer] at hp'
    have hold : room.media.rtpParameters ref' = some p' → p'.Usable := h.rtpParameters ref' p'
    rw [media_rtpParameters] at hold
    split at hp'
    case isTrue heq =>
      obtain ⟨peer, hpeer, hp'⟩ := Option.bind_eq_some_iff.1 hp'
      rw [hpeer, Option.bind_some] at hold
      rw [Table.find?_insert] at hp'
      split at hp'
      case isTrue =>
        obtain rfl := Option.some.inj hp'
        exact hp
      case isFalse => exact hold hp'
    case isFalse => exact hold hp'

/-- **Everything that new parameters can end with**, in the room: the ids of the senders may clash. -/
theorem ends_onPeerRtpReceiverParameters {ref : Ref} {r : RtpReceiver} {p : RtpParameters}
    (hp : r.rtpParameters = some p) (husable : p.Usable) :
    Ends (room.onPeerRtpReceiverParameters env ref r) (fun room' => room.OnlySenders room')
      fun fault => fault = .abort .peerAddRtpSender := by
  unfold onPeerRtpReceiverParameters
  rw [hp]
  dsimp only
  split
  case h_1 =>
    refine (ends_addRtpSenders id (fun _ => ref) (fun _ => r)
      { room with mapRtpReceiverRtpSenders := room.mapRtpReceiverRtpSenders.insert ref [] }
      fun senderPeerId hmem =>
        ⟨?_, p, hp, husable⟩).mono (fun room' h => ⟨h.capabilities, h.rtxCodecs, h.peers⟩)
        fun _ h => h
    obtain ⟨peer, hpeer, hcapabilities⟩ :=
      (Table.mem_keysWhere room.peers).1 (List.mem_filter.1 hmem).1
    change ((room.peers.find? senderPeerId).bind (·.capabilities)).isSome = true
    rw [hpeer]
    exact hcapabilities
  case h_2 rtpSenders _ =>
    refine Checked.ends_foldlM (fun room₁ s _ hsame => ?_) (.refl room)
    exact (ends_send husable s).mono (fun _ h => hsame.trans h) fun _ h => h.elim

/-- The streams of a receiver are created, unless it has no transport and one of them asks for REMB. -/
theorem ends_createRtpStreams {ref : Ref} {peer : Peer} {r : RtpReceiver} {p : RtpParameters}
    (hpeer : room.peers.find? ref.1 = some peer) (hr : peer.rtpReceivers.find? ref.2 = some r)
    (hp : r.rtpParameters = some p) (husable : p.Usable) :
    Ends (room.createRtpStreams ref) (fun _ => True) fun fault =>
      fault = .nullTransport ∧ r.transport = none ∧ p.asksForRemb r.rtpStreams p.encodings = true := by
  unfold createRtpStreams Peer.createRtpStreams
  rw [hpeer]
  dsimp only
  rw [hr]
  dsimp only
  rw [hp]
  refine Ends.bind (P := fun _ => True) ?_ fun _ _ => trivial
  exact (RtpReceiver.ends_createRtpStreams husable (fun _ h => h) (peer.transports, r)).bind
    fun _ _ => trivial

/-- What follows the acceptance of new parameters. -/
theorem ends_onRtpReceiverParametersDone {ref : Ref} {peer : Peer} {r : RtpReceiver}
    {p : RtpParameters} (hpeer : room.peers.find? ref.1 = some peer)
    (hr : peer.rtpReceivers.find? ref.2 = some r) (hp : r.rtpParameters = some p)
    (husable : p.Usable) :
    Ends (room.onRtpReceiverParametersDone env ref r) (fun _ => True) fun fault =>
      fault = .abort .peerAddRtpSender ∨ fault = .nullTransport ∧ r.transport = none ∧
        p.asksForRemb r.rtpStreams p.encodings = true := by
  unfold onRtpReceiverParametersDone
  refine ((ends_onPeerRtpReceiverParameters hp husable).mono (fun _ h => h) fun _ h => .inl h).bind
    fun room' hsame => ?_
  have hfound := hsame.bind_eq ref.1 (q := fun peer => peer.rtpReceivers.find? ref.2) fun _ => rfl
  rw [hpeer, Option.bind_some, hr] at hfound
  obtain ⟨peer', hpeer', hr'⟩ := Option.bind_eq_some_iff.1 hfound
  exact (ends_createRtpStreams hpeer' hr' hp husable).mono (fun _ h => h) fun _ h => .inr h

/-! ## Every change keeps the codecs usable -/

/-- Senders that close are not seen. -/
theorem media_closeRtpSenders (rtpSenders : List Ref) (room : Room) :
    (rtpSenders.foldl closeRtpSender room).media = room.media := by
  induction rtpSenders generalizing room with
  | nil => rfl
  | cons s rtpSenders ih =>
      rw [List.foldl_cons, ih]
      obtain ⟨hcap, hrtx, hpeers⟩ := onlySenders_modifyPeer room s.1 fun peer =>
        peer.rtpSenders.erase s.2
      exact OnlySenders.media_eq ⟨hcap, hrtx, hpeers⟩

/-- A receiver that closes takes its parameters with it. -/
theorem within_closeRtpReceiver (room : Room) (ref : Ref) :
    room.media.Within (room.closeRtpReceiver ref).media := by
  have hclosed : room.media.Within
      (room.modifyPeer ref.1 fun peer => peer.onRtpReceiverClosed ref.2).media := by
    refine within_modifyPeer (fun _ _ _ h => h) fun peer _ id p hp => ?_
    change ((peer.rtpReceivers.erase ref.2).find? id).bind _ = some p at hp
    rw [Table.find?_erase] at hp
    split at hp
    · cases hp
    · exact hp
  unfold closeRtpReceiver onPeerRtpReceiverClosed
  split
  case h_1 => exact hclosed
  case h_2 rtpSenders _ =>
    have hmedia := media_closeRtpSenders rtpSenders
      (room.modifyPeer ref.1 fun peer => peer.onRtpReceiverClosed ref.2)
    rw [← hmedia] at hclosed
    exact hclosed

/-- A peer that closes takes everything with it. -/
theorem within_closePeer (room : Room) (peerId : UInt32) :
    room.media.Within (room.closePeer peerId).media := by
  have hreceivers : ∀ (refs : List Ref) (room : Room),
      room.media.Within (refs.foldl closeRtpReceiver room).media := by
    intro refs
    induction refs with
    | nil => exact fun room => .refl _
    | cons ref refs ih => exact fun room => (within_closeRtpReceiver room ref).trans (ih _)
  have htransports : ∀ (transportIds : List UInt32) (room : Room),
      (transportIds.foldl (fun room id => room.closeTransport peerId id) room).media = room.media := by
    intro transportIds
    induction transportIds with
    | nil => exact fun _ => rfl
    | cons id transportIds ih =>
        intro room
        rw [List.foldl_cons, ih]
        exact media_modifyPeer fun _ _ => Peer.sameMembers_onTransportClosed id
  have herased : ∀ room : Room,
      room.media.Within { room with peers := room.peers.erase peerId }.media := by
    intro room
    refine ⟨rfl, rfl, fun peerId' c hc => ?_, fun ref p hp => ?_⟩
    · change ((room.peers.erase peerId).find? peerId').bind _ = some c at hc
      rw [Table.find?_erase] at hc
      split at hc
      · cases hc
      · exact hc
    · change ((room.peers.erase peerId).find? ref.1).bind _ = some p at hp
      rw [Table.find?_erase] at hp
      split at hp
      · cases hp
      · exact hp
  unfold closePeer
  dsimp only
  refine .trans ?_ (herased _)
  rw [htransports, media_closeRtpSenders]
  exact hreceivers _ _

/-- **The step lemma for the codecs.** -/
theorem sound_change (h : room.media.Sound) (hchange : room.Change room') : room'.media.Sound := by
  cases hchange with
  | members peerId f hf =>
      rw [media_modifyPeer hf]
      exact h
  | audioLevels enabled => exact h
  | createPeer peerId peerName hnew =>
      refine h.within ⟨rfl, rfl, fun peerId' c hc => ?_, fun ref p hp => ?_⟩
      · change ((room.peers.insert peerId { peerName }).find? peerId').bind _ = some c at hc
        rw [Table.find?_insert] at hc
        split at hc
        · cases hc
        · exact hc
      · change ((room.peers.insert peerId { peerName }).find? ref.1).bind _ = some p at hp
        rw [Table.find?_insert] at hp
        split at hp
        · cases hp
        · exact hp
  | closePeer peerId => exact h.within (within_closePeer room peerId)
  | setCapabilities env hpeer hnone hdata hok =>
      have hcodecs := (ends_capabilities _ _).of_ok hdata
      exact (ends_onPeerCapabilities h hpeer hcodecs).of_ok hok
  | createRtpReceiver kind hpeer hcapabilities hnew =>
      refine h.within (within_modifyPeer (fun _ _ _ h => h) fun peer _ id p hp => ?_)
      rw [Table.find?_insert] at hp
      split at hp
      · cases hp
      · exact hp
  | closeRtpReceiver ref => exact h.within (within_closeRtpReceiver room ref)
  | @receive env ref peer r p _ hpeer hr hp hok =>
      obtain ⟨data, given, reduced, hdata, hreduced, rfl⟩ := hp
      have husable := (RtpParameters.ends_reduceCodecsAndEncodings (usable_capabilities h hpeer)
        ((RtpParameters.ends_ofJson data).of_ok hdata)).of_ok hreduced
      have husable := husable.reduceHeaderExtensions (peer.capabilities.getD {}).headerExtensions
      rw [((ends_onPeerRtpReceiverParameters rfl husable).of_ok hok).media_eq]
      exact sound_setParameters h _ _ husable

/-! ## New rooms -/

/-- The supported codecs are complete. -/
theorem complete_supportedRtpCapabilities :
    ∀ codec ∈ supportedRtpCapabilities.codecs, codec.Complete := by
  have hall : ∀ codec ∈ supportedRtpCapabilities.codecs,
      (codec.mime.subtype = .h264 →
        (codec.parameters.mapKeyValues.find? "packetizationMode").isSome = true) ∧
      (codec.mime.subtype = .rtx → (codec.parameters.mapKeyValues.find? "apt").isSome = true) := by
    decide +kernel
  exact fun codec hcodec => ⟨(hall codec hcodec).1, (hall codec hcodec).2⟩

/-- The codecs of a new room are usable, since a feature codec is not taken. -/
theorem ends_supportedMediaCodecs (values : List Value) :
    Ends (supportedMediaCodecs values) (fun codecs => ∀ codec ∈ codecs, codec.Usable) Fault.Thrown := by
  induction values with
  | nil => exact fun codec h => absurd h List.not_mem_nil
  | cons value values ih =>
      unfold supportedMediaCodecs
      refine (RtpCodecParameters.ends_ofJson value .roomCapability).bind fun codec hcodec => ?_
      refine Ends.ite_bind
        (P := fun found : Option RtpCodecParameters =>
          found.isSome = true → codec.mime.isFeatureCodec = false)
        (fun _ h => absurd h Bool.false_ne_true) (fun hfeature => ?_)
        fun found hfound => ih.bind fun codecs hcodecs => ?_
      · exact (RtpCodecParameters.ends_findMatch hcodec false complete_supportedRtpCapabilities).mono
          (fun _ _ _ => Bool.eq_false_iff.2 hfeature) fun _ h => h.elim
      · split
        case h_1 supported =>
          have hmedia := hfound rfl
          refine List.forall_mem_cons.2 ⟨⟨⟨hcodec.packetizationMode, hcodec.apt⟩, fun h => ?_⟩, hcodecs⟩
          exact absurd (hmedia.symm.trans h) Bool.false_ne_true
        case h_2 => exact hcodecs

/-- The RTX codec that the room makes for a codec. -/
theorem usable_rtxCodec (codec : RtpCodecParameters) (payloadType : UInt8) :
    (rtxCodec codec payloadType).Usable where
  packetizationMode := fun h => nomatch h
  apt := fun _ => by
    change ((Table.insert _ _ _).find? "apt").isSome = true
    rw [Table.find?_insert, if_pos rfl]
    rfl
  rtx := fun _ => rfl

/-- The codecs of the room are set, or an exception is thrown. -/
theorem ends_setCodecs {mediaCodecs : List RtpCodecParameters}
    (hcodecs : ∀ codec ∈ mediaCodecs, codec.Usable) (h : room.media.Sound)
    (roomPayloadTypes dynamic : List UInt8) :
    Ends (room.setCodecs roomPayloadTypes dynamic mediaCodecs) (fun room' => room'.media.Sound)
      Fault.Thrown := by
  induction mediaCodecs generalizing room roomPayloadTypes dynamic with
  | nil => exact h
  | cons codec mediaCodecs ih =>
      obtain ⟨hcodec, hcodecs⟩ := List.forall_mem_cons.1 hcodecs
      have hassigned : Ends (assignPayloadType roomPayloadTypes dynamic codec)
          (fun assigned => assigned.1.Usable) Fault.Thrown := by
        unfold assignPayloadType
        split
        · exact hcodec
        · split
          · exact ⟨⟨hcodec.packetizationMode, hcodec.apt⟩, hcodec.rtx⟩
          · split
            · exact hcodec
            · exact ends_msThrow_thrown
      unfold setCodecs
      refine hassigned.bind fun assigned husable => ?_
      have hstored : ∀ codec ∈ room.capabilities.codecs ++ [assigned.1], codec.Usable := by
        intro codec' hcodec'
        rcases List.mem_append.1 hcodec' with hcodec' | hcodec'
        · exact h.codecs codec' hcodec'
        · obtain rfl := List.mem_singleton.1 hcodec'
          exact husable
      dsimp only
      split
      · split
        case h_1 payloadType _ _ =>
          have hrtx : ∀ payloadType' codec', (room.mapPayloadRtxCodecParameters.insert
              assigned.1.payloadType (rtxCodec assigned.1 payloadType)).find? payloadType' =
                some codec' → codec'.Usable := by
            intro payloadType' codec' hcodec'
            rw [Table.find?_insert] at hcodec'
            split at hcodec'
            · obtain rfl := Option.some.inj hcodec'
              exact usable_rtxCodec assigned.1 payloadType
            · exact h.rtxCodecs _ _ hcodec'
          refine ih hcodecs ?_ _ _
          exact ⟨hstored, hrtx, h.capabilities, h.rtpParameters⟩
        case h_2 => exact ends_msThrow_thrown
      · refine ih hcodecs ?_ _ _
        exact ⟨hstored, h.rtxCodecs, h.capabilities, h.rtpParameters⟩

/-- **A new room**: its codecs are usable, or an exception is thrown. -/
theorem ends_create (roomId : UInt32) (data : Value) :
    Ends (Room.create roomId data) (fun room => room.media.Sound) Fault.Thrown := by
  have hempty : ({ roomId } : Room).media.Sound :=
    ⟨fun codec h => absurd h List.not_mem_nil, fun _ _ h => (nomatch h), fun _ _ h => (nomatch h),
      fun _ _ h => (nomatch h)⟩
  unfold Room.create
  split
  case isTrue =>
    refine (ends_supportedMediaCodecs _).bind fun mediaCodecs hcodecs => ?_
    refine (ends_setCodecs hcodecs hempty _ _).bind fun room hroom => ?_
    exact ⟨hroom.codecs, hroom.rtxCodecs, hroom.capabilities, hroom.rtpParameters⟩
  case isFalse => exact hempty

end Room

end KoreWebsocket.Rtc
