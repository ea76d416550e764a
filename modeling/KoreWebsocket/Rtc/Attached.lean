import KoreWebsocket.Rtc.Edits

/-!
# The pointers of a peer (`RTC::Peer`, `mediasoup_1/soup`)

Receivers and senders point to transports, the listeners of transports point to receivers, and none of
them is told when it is the pointer that is wrong. What keeps the pointers good is that
`Peer::OnTransportClosed` and `Peer::OnRtpReceiverClosed` go over everything that may point to what is
closed (`Peer.Attached`). A receiver that a listener knows also has parameters, so the room has an entry
for it, and its streams are those of its parameters.
-/

namespace KoreWebsocket.Rtc

/-- A receiver of the peer that has been given parameters. -/
def Peer.Ready (peer : Peer) (rtpReceiver : Nat) : Prop :=
  ∃ id r, rtpReceiver = UInt32.toNat id ∧ peer.rtpReceivers.find? id = some r ∧
    r.rtpParameters.isSome = true

/-- The streams of a receiver are those of encodings with an SSRC. -/
def RtpReceiver.StreamsDeclared (r : RtpReceiver) : Prop :=
  ∀ ssrc ∈ r.rtpStreams, ssrc ≠ 0 ∧
    ∃ p, r.rtpParameters = some p ∧ ∃ encoding ∈ p.encodings, encoding.ssrc = ssrc

/-- **The pointers of a peer are good.** -/
structure Peer.Attached (peer : Peer) : Prop where
  rtpReceivers : ∀ id r transportId, peer.rtpReceivers.find? id = some r →
    r.transport = some transportId → (peer.transports.find? transportId).isSome = true
  rtpSenders : ∀ id s transportId, peer.rtpSenders.find? id = some s →
    s.transport = some transportId → (peer.transports.find? transportId).isSome = true
  muxIdOnce : ∀ id t, peer.transports.find? id = some t → t.rtpListener.MuxIdOnce
  listed : ∀ id t key rtpReceiver, peer.transports.find? id = some t →
    t.rtpListener.lookup key = some rtpReceiver → peer.Ready rtpReceiver
  rtpStreams : ∀ id r, peer.rtpReceivers.find? id = some r → r.StreamsDeclared

/-- The transports stay, and their listeners know no more receivers, but for new ones. -/
structure Relists (new : Nat → Prop) (transports transports' : Table UInt32 Transport) : Prop where
  kept : ∀ id, (transports.find? id).isSome = true → (transports'.find? id).isSome = true
  muxIdOnce : ∀ id t', transports'.find? id = some t' → t'.rtpListener.MuxIdOnce
  listed : ∀ id t' key rtpReceiver, transports'.find? id = some t' →
    t'.rtpListener.lookup key = some rtpReceiver → new rtpReceiver ∨
      ∃ t, transports.find? id = some t ∧ t.rtpListener.lookup key = some rtpReceiver

section
variable {new : Nat → Prop} {transports transports' : Table UInt32 Transport}

theorem Relists.refl (h : ∀ id t, transports.find? id = some t → t.rtpListener.MuxIdOnce) :
    Relists new transports transports :=
  ⟨fun _ ht => ht, h, fun _ t _ _ ht hfind => .inr ⟨t, ht, hfind⟩⟩

theorem Relists.trans {transports'' : Table UInt32 Transport} (h : Relists new transports transports')
    (h' : Relists new transports' transports'') : Relists new transports transports'' where
  kept := fun id ht => h'.kept id (h.kept id ht)
  muxIdOnce := h'.muxIdOnce
  listed := fun id t'' key rtpReceiver ht'' hfind => by
    rcases h'.listed id t'' key rtpReceiver ht'' hfind with hnew | ⟨t', ht', hfind'⟩
    · exact .inl hnew
    · exact h.listed id t' key rtpReceiver ht' hfind'

/-- A transport is put in, and its listener knows what it knew. -/
theorem Relists.insert (h : ∀ id t, transports.find? id = some t → t.rtpListener.MuxIdOnce)
    {transportId : UInt32} {t' : Transport} (honce : t'.rtpListener.MuxIdOnce)
    (hlisted : ∀ key rtpReceiver, t'.rtpListener.lookup key = some rtpReceiver → new rtpReceiver ∨
      ∃ t, transports.find? transportId = some t ∧ t.rtpListener.lookup key = some rtpReceiver) :
    Relists new transports (transports.insert transportId t') where
  kept := fun id ht => by
    rw [Table.find?_insert]
    split
    · rfl
    · exact ht
  muxIdOnce := fun id t ht => by
    rw [Table.find?_insert] at ht
    split at ht
    · cases ht
      exact honce
    · exact h id t ht
  listed := fun id t key rtpReceiver ht hfind => by
    rw [Table.find?_insert] at ht
    split at ht
    case isTrue heq =>
      cases ht
      rw [heq]
      exact hlisted key rtpReceiver hfind
    case isFalse => exact .inr ⟨t, ht, hfind⟩

/-- A transport is changed, and its listener knows what it knew. -/
theorem Relists.modify (h : ∀ id t, transports.find? id = some t → t.rtpListener.MuxIdOnce)
    {transportId : UInt32} {f : Transport → Transport}
    (hf : ∀ t, transports.find? transportId = some t → (f t).rtpListener.MuxIdOnce ∧
      ∀ key rtpReceiver, (f t).rtpListener.lookup key = some rtpReceiver →
        new rtpReceiver ∨ t.rtpListener.lookup key = some rtpReceiver) :
    Relists new transports (transports.modify transportId f) where
  kept := fun id ht => by
    rw [Table.find?_modify]
    split
    · rw [Option.isSome_map]
      exact ht
    · exact ht
  muxIdOnce := fun id t' ht' => by
    rw [Table.find?_modify] at ht'
    split at ht'
    case isTrue heq =>
      obtain ⟨t, ht, rfl⟩ := Option.map_eq_some_iff.1 ht'
      exact (hf t (heq ▸ ht)).1
    case isFalse => exact h id t' ht'
  listed := fun id t' key rtpReceiver ht' hfind => by
    rw [Table.find?_modify] at ht'
    split at ht'
    case isTrue heq =>
      obtain ⟨t, ht, rfl⟩ := Option.map_eq_some_iff.1 ht'
      exact ((hf t (heq ▸ ht)).2 key rtpReceiver hfind).imp_right fun hold => ⟨t, ht, hold⟩
    case isFalse => exact .inr ⟨t', ht', hfind⟩

/-- REMB does not concern the listeners. -/
theorem relists_enableRemb (h : ∀ id t, transports.find? id = some t → t.rtpListener.MuxIdOnce)
    (transportId : UInt32) :
    Relists new transports (transports.modify transportId Transport.enableRemb) :=
  .modify h fun t ht => ⟨h transportId t ht, fun _ _ hfind => .inr hfind⟩

end

namespace Peer

variable {peer peer' : Peer}

/-! ## What keeps the pointers good -/

/-- New transports whose listeners know ready receivers only. -/
theorem Attached.relist (h : peer.Attached) {N : Nat → Prop} {transports : Table UInt32 Transport}
    (hrelists : Relists N peer.transports transports) (hnew : ∀ n, N n → peer.Ready n) :
    Attached { peer with transports } where
  rtpReceivers := fun id r transportId hr ht =>
    hrelists.kept transportId (h.rtpReceivers id r transportId hr ht)
  rtpSenders := fun id s transportId hs ht =>
    hrelists.kept transportId (h.rtpSenders id s transportId hs ht)
  muxIdOnce := hrelists.muxIdOnce
  listed := fun id t' key rtpReceiver ht' hfind => by
    rcases hrelists.listed id t' key rtpReceiver ht' hfind with hready | ⟨t, ht, hold⟩
    · exact hnew _ hready
    · exact h.listed id t key rtpReceiver ht hold
  rtpStreams := h.rtpStreams

/-- A receiver is put in, with parameters if the one before had some. -/
theorem Attached.insertRtpReceiver (h : peer.Attached) {id : UInt32} {r' : RtpReceiver}
    (ht : ∀ transportId, r'.transport = some transportId →
      (peer.transports.find? transportId).isSome = true)
    (hready : ∀ r, peer.rtpReceivers.find? id = some r → r.rtpParameters.isSome = true →
      r'.rtpParameters.isSome = true)
    (hstreams : r'.StreamsDeclared) :
    Attached { peer with rtpReceivers := peer.rtpReceivers.insert id r' } where
  rtpReceivers := fun id' r transportId hr => by
    rw [Table.find?_insert] at hr
    split at hr
    · cases hr
      exact ht transportId
    · exact h.rtpReceivers id' r transportId hr
  rtpSenders := h.rtpSenders
  muxIdOnce := h.muxIdOnce
  listed := fun transportId t key rtpReceiver htransport hfind => by
    obtain ⟨id', r, rfl, hr, hp⟩ := h.listed transportId t key rtpReceiver htransport hfind
    by_cases heq : id' = id
    · refine ⟨id', r', rfl, ?_, hready r (heq ▸ hr) hp⟩
      rw [Table.find?_insert, if_pos heq]
    · refine ⟨id', r, rfl, ?_, hp⟩
      rw [Table.find?_insert, if_neg heq]
      exact hr
  rtpStreams := fun id' r hr => by
    rw [Table.find?_insert] at hr
    split at hr
    · cases hr
      exact hstreams
    · exact h.rtpStreams id' r hr

/-- The senders are others. -/
theorem Attached.setRtpSenders (h : peer.Attached) {rtpSenders : Table UInt32 RtpSender}
    (ht : ∀ id s transportId, rtpSenders.find? id = some s → s.transport = some transportId →
      (peer.transports.find? transportId).isSome = true) : Attached { peer with rtpSenders } where
  rtpReceivers := h.rtpReceivers
  rtpSenders := ht
  muxIdOnce := h.muxIdOnce
  listed := h.listed
  rtpStreams := h.rtpStreams

/-- A sender is put in. -/
theorem Attached.insertRtpSender (h : peer.Attached) {id : UInt32} {s' : RtpSender}
    (ht : ∀ transportId, s'.transport = some transportId →
      (peer.transports.find? transportId).isSome = true) :
    Attached { peer with rtpSenders := peer.rtpSenders.insert id s' } := by
  refine h.setRtpSenders fun id' s transportId hs => ?_
  rw [Table.find?_insert] at hs
  split at hs
  · cases hs
    exact ht transportId
  · exact h.rtpSenders id' s transportId hs

/-- A peer begins with nothing. -/
theorem attached_empty (peerName : String) : Attached { peerName } where
  rtpReceivers := fun _ _ _ hr => (by cases hr)
  rtpSenders := fun _ _ _ hs => (by cases hs)
  muxIdOnce := fun _ _ ht => (by cases ht)
  listed := fun _ _ _ _ ht => (by cases ht)
  rtpStreams := fun _ _ hr => (by cases hr)

/-- Capabilities are no pointers. -/
theorem Attached.setCapabilities (h : peer.Attached) (capabilities : Option RtpCapabilities) :
    Attached { peer with capabilities } :=
  ⟨h.rtpReceivers, h.rtpSenders, h.muxIdOnce, h.listed, h.rtpStreams⟩

/-! ## What the operations do -/

/-- `AddRtpReceiver` adds no receiver but this one, and it adds none if it throws. -/
theorem Attached.addRtpReceiver_relists (h : peer.Attached) (transportId id : UInt32)
    (p : RtpParameters) :
    ∃ transports, (peer.addRtpReceiver transportId id (some p)).1 = { peer with transports } ∧
      Relists (fun n => n = id.toNat ∧ (peer.addRtpReceiver transportId id (some p)).2 = .ok ())
        peer.transports transports := by
  unfold addRtpReceiver
  split
  case h_2 => exact ⟨peer.transports, rfl, .refl h.muxIdOnce⟩
  case h_1 t ht =>
    refine ⟨_, rfl, ?_⟩
    have honce := h.muxIdOnce transportId t ht
    have honce' : (t.rtpListener.addRtpReceiver id.toNat p).1.MuxIdOnce :=
      honce.call (.addRtpReceiver id.toNat p)
    obtain ⟨hresult, hothers⟩ := honce.addRtpReceiver id.toNat p
    dsimp only [Transport.addRtpReceiver]
    generalize t.rtpListener.addRtpReceiver id.toNat p = added at honce' hresult hothers
    obtain ⟨rtpListener, what⟩ := added
    cases what with
    | some what =>
        have hsame : RtpListener.Same t.rtpListener rtpListener :=
          hresult.elim (fun hfailed => hfailed.2) fun hadded => nomatch hadded.1
        refine .insert h.muxIdOnce honce' fun key n hfind => .inr ⟨t, ht, ?_⟩
        rw [← hsame.lookup]
        exact hfind
    | none =>
        refine .insert h.muxIdOnce honce' fun key n hfind => ?_
        by_cases hn : n = id.toNat
        · exact .inl ⟨hn, rfl⟩
        · exact .inr ⟨t, ht, (hothers.lookup hn key).1 hfind⟩

/-- `OnTransportClosed`: what pointed to the transport points to none. -/
theorem Attached.onTransportClosed (h : peer.Attached) (transportId : UInt32) :
    (peer.onTransportClosed transportId).Attached := by
  have hkept : ∀ id, id ≠ transportId → (peer.transports.find? id).isSome = true →
      ((peer.transports.erase transportId).find? id).isSome = true := by
    intro id hne ht
    rw [Table.find?_erase, if_neg hne]
    exact ht
  have hfound : ∀ id t, (peer.transports.erase transportId).find? id = some t →
      peer.transports.find? id = some t := by
    intro id t ht
    rw [Table.find?_erase] at ht
    split at ht
    · cases ht
    · exact ht
  have hready : ∀ n, peer.Ready n → (peer.onTransportClosed transportId).Ready n := by
    rintro n ⟨id, r, rfl, hr, hp⟩
    refine ⟨id, r.removeTransport transportId, rfl, ?_, ?_⟩
    · rw [Peer.onTransportClosed, Table.find?_mapValues, hr]
      rfl
    · unfold RtpReceiver.removeTransport
      split <;> exact hp
  refine ⟨fun id r' id' hr' ht => ?_, fun id s' id' hs' ht => ?_, fun id t ht => ?_,
    fun id t key n ht hfind => ?_, fun id r' hr' => ?_⟩
  · rw [Peer.onTransportClosed, Table.find?_mapValues] at hr'
    obtain ⟨r, hr, rfl⟩ := Option.map_eq_some_iff.1 hr'
    unfold RtpReceiver.removeTransport at ht
    split at ht
    case isTrue => cases ht
    case isFalse hne =>
      exact hkept id' (fun heq => hne (heq ▸ ht)) (h.rtpReceivers id r id' hr ht)
  · rw [Peer.onTransportClosed, Table.find?_mapValues] at hs'
    obtain ⟨s, hs, rfl⟩ := Option.map_eq_some_iff.1 hs'
    unfold RtpSender.removeTransport at ht
    split at ht
    case isTrue => cases ht
    case isFalse hne => exact hkept id' (fun heq => hne (heq ▸ ht)) (h.rtpSenders id s id' hs ht)
  · exact h.muxIdOnce id t (hfound id t ht)
  · exact hready n (h.listed id t key n (hfound id t ht) hfind)
  · rw [Peer.onTransportClosed, Table.find?_mapValues] at hr'
    obtain ⟨r, hr, rfl⟩ := Option.map_eq_some_iff.1 hr'
    have hstreams := h.rtpStreams id r hr
    unfold RtpReceiver.removeTransport
    split <;> exact hstreams

/-- `OnRtpReceiverClosed`: the listeners forget the receiver. -/
theorem Attached.onRtpReceiverClosed (h : peer.Attached) (rtpReceiverId : UInt32) :
    (peer.onRtpReceiverClosed rtpReceiverId).Attached := by
  have hkept : ∀ id, (peer.transports.find? id).isSome = true →
      ((peer.onRtpReceiverClosed rtpReceiverId).transports.find? id).isSome = true := by
    intro id ht
    rw [Peer.onRtpReceiverClosed, Table.find?_mapValues, Option.isSome_map]
    exact ht
  have hfound : ∀ id r, (peer.rtpReceivers.erase rtpReceiverId).find? id = some r →
      peer.rtpReceivers.find? id = some r := by
    intro id r hr
    rw [Table.find?_erase] at hr
    split at hr
    · cases hr
    · exact hr
  refine ⟨fun id r id' hr ht => hkept id' (h.rtpReceivers id r id' (hfound id r hr) ht),
    fun id s id' hs ht => hkept id' (h.rtpSenders id s id' hs ht), fun id t' ht' => ?_,
    fun id t' key n ht' hfind => ?_, fun id r hr => h.rtpStreams id r (hfound id r hr)⟩
  · rw [Peer.onRtpReceiverClosed, Table.find?_mapValues] at ht'
    obtain ⟨t, ht, rfl⟩ := Option.map_eq_some_iff.1 ht'
    exact (h.muxIdOnce id t ht).call (.removeRtpReceiver rtpReceiverId.toNat)
  · rw [Peer.onRtpReceiverClosed, Table.find?_mapValues] at ht'
    obtain ⟨t, ht, rfl⟩ := Option.map_eq_some_iff.1 ht'
    change (t.rtpListener.removeRtpReceiver rtpReceiverId.toNat).lookup key = some n at hfind
    rw [RtpListener.lookup_removeRtpReceiver, Option.filter_eq_some_iff] at hfind
    obtain ⟨hold, hne⟩ := hfind
    obtain ⟨id', r, rfl, hr, hp⟩ := h.listed id t key n ht hold
    refine ⟨id', r, rfl, ?_, hp⟩
    have hother : id' ≠ rtpReceiverId := fun heq => of_decide_eq_true hne (congrArg UInt32.toNat heq)
    rw [Peer.onRtpReceiverClosed, Table.find?_erase, if_neg hother]
    exact hr

/-- A packet teaches the listener an SSRC of a receiver that it knows by payload type. -/
theorem Attached.onRtpPacket (h : peer.Attached) (transportId ssrc : UInt32) (payloadType : UInt8) :
    (peer.onRtpPacket transportId ssrc payloadType).Attached := by
  refine h.relist (N := peer.Ready) (.modify h.muxIdOnce fun t ht => ?_) fun _ hready => hready
  have honce := h.muxIdOnce transportId t ht
  refine ⟨honce.call (.getRtpReceiver peer.payloadTypesOf ssrc payloadType), fun key n hfind => ?_⟩
  dsimp only at hfind
  unfold RtpListener.getRtpReceiver at hfind
  split at hfind
  case h_1 => exact .inr hfind
  case h_2 =>
    split at hfind
    case h_2 => exact .inr hfind
    case h_1 found hpt =>
      cases key with
      | muxId muxId => exact .inr hfind
      | payloadType payloadType' => exact .inr hfind
      | ssrc ssrc' =>
          change (t.rtpListener.ssrcTable.insert ssrc found).find? ssrc' = some n at hfind
          rw [Table.find?_insert] at hfind
          split at hfind
          case isTrue =>
            cases hfind
            exact .inl (h.listed transportId t (.payloadType payloadType) _ ht hpt)
          case isFalse => exact .inr hfind

/-- A stream is created for an encoding with an SSRC, and the transport may be asked for REMB. -/
theorem createRtpStream_streams {p : RtpParameters} {s s' : Table UInt32 Transport × RtpReceiver}
    {encoding : RtpEncodingParameters}
    (honce : ∀ id t, s.1.find? id = some t → t.rtpListener.MuxIdOnce)
    (h : RtpReceiver.createRtpStream p s encoding = .ok s') :
    Relists (fun _ => False) s.1 s'.1 ∧ ∀ ssrc ∈ s'.2.rtpStreams,
      ssrc ∈ s.2.rtpStreams ∨ ssrc = encoding.ssrc ∧ ssrc ≠ 0 := by
  have hrtx : ∀ r r' : RtpReceiver, r.createRtxStream p encoding = .ok r' →
      r'.rtpStreams = r.rtpStreams := by
    intro r r' h
    unfold RtpReceiver.createRtxStream at h
    split at h
    case isTrue =>
      obtain ⟨codec, -, h⟩ := Checked.bind_eq_ok.1 h
      split at h <;> cases h <;> rfl
    case isFalse => cases h; rfl
  have hremb : ∀ (r : RtpReceiver) (codec : RtpCodecParameters) (transports' : Table UInt32 Transport),
      r.enableRemb codec s.1 = .ok transports' → Relists (fun _ => False) s.1 transports' := by
    intro r codec transports' h
    unfold RtpReceiver.enableRemb at h
    split at h
    case isTrue =>
      split at h
      case h_1 transportId _ => cases h; exact relists_enableRemb honce transportId
      case h_2 => cases h
    case isFalse => cases h; exact .refl honce
  unfold RtpReceiver.createRtpStream at h
  split at h
  case isTrue =>
    cases h
    exact ⟨.refl honce, fun ssrc hssrc => .inl hssrc⟩
  case isFalse hnew =>
    obtain ⟨codec, -, h⟩ := Checked.bind_eq_ok.1 h
    obtain ⟨transports', htransports, h⟩ := Checked.bind_eq_ok.1 h
    obtain ⟨r', hr', h⟩ := Checked.bind_eq_ok.1 h
    have hstreams := hrtx _ _ hr'
    cases h
    refine ⟨hremb _ _ _ htransports, fun ssrc hssrc => ?_⟩
    rw [hstreams] at hssrc
    rcases List.mem_cons.1 hssrc with rfl | hold
    · exact .inr ⟨rfl, fun hzero => hnew (.inl hzero)⟩
    · exact .inl hold

/-- The streams of a receiver are created. -/
theorem Attached.createRtpStreams (h : peer.Attached) {id : UInt32}
    (hok : peer.createRtpStreams id = .ok peer') : peer'.Attached := by
  unfold Peer.createRtpStreams at hok
  split at hok
  case h_1 => cases hok; exact h
  case h_2 r hr =>
    split at hok
    case h_1 => cases hok; exact h
    case h_2 p hp =>
      obtain ⟨⟨transports, r'⟩, hs, heq⟩ := Checked.bind_eq_ok.1 hok
      cases heq
      let I : Table UInt32 Transport × RtpReceiver → Prop := fun s =>
        Relists (fun _ => False) peer.transports s.1 ∧ s.2.transport = r.transport ∧
          s.2.rtpParameters = some p ∧ s.2.StreamsDeclared
      have hI : I (transports, r') := by
        refine (Checked.ends_foldlM (Q := fun _ => True) (I := I) (fun s encoding hmem hs => ?_)
          (s := (peer.transports, r)) ⟨.refl h.muxIdOnce, rfl, hp, h.rtpStreams id r hr⟩).of_ok hs
        refine (Checked.Ends.self _).mono (fun s' hcreate => ?_) fun _ _ => trivial
        obtain ⟨hrelists, htransport, hparameters, hdeclared⟩ := hs
        obtain ⟨-, htransport', hparameters'⟩ := createRtpStream_keeps hcreate
        obtain ⟨hrelists', hstreams⟩ := createRtpStream_streams hrelists.muxIdOnce hcreate
        refine ⟨hrelists.trans hrelists', htransport'.trans htransport, hparameters'.trans hparameters,
          fun ssrc hssrc => ?_⟩
        rcases hstreams ssrc hssrc with hold | ⟨rfl, hne⟩
        · rw [hparameters', hparameters, ← hparameters]
          exact hdeclared ssrc hold
        · exact ⟨hne, p, hparameters'.trans hparameters, encoding, hmem, rfl⟩
      obtain ⟨hrelists, htransport, hparameters, hdeclared⟩ := hI
      have hrelisted := h.relist hrelists fun _ hnew => hnew.elim
      refine hrelisted.insertRtpReceiver (fun transportId ht => ?_) (fun _ _ _ => ?_) hdeclared
      · exact hrelisted.rtpReceivers id r transportId hr (htransport.symm.trans ht)
      · rw [hparameters]
        rfl

/-- **The step lemma for a change inside a peer.** -/
theorem Attached.edit (h : peer.Attached) (hedit : peer.Edit peer') : peer'.Attached := by
  cases hedit with
  | createTransport hnew =>
      refine h.relist (N := fun _ => False)
        (.insert h.muxIdOnce RtpListener.muxIdOnce_empty fun key n hfind => ?_) fun _ hnew => hnew.elim
      rw [RtpListener.lookup_empty] at hfind
      cases hfind
  | @setTransport transportId t t' ht hsame =>
      refine h.relist (N := fun _ => False) (.insert h.muxIdOnce ?_ fun key n hfind => .inr ⟨t, ht, ?_⟩)
        fun _ hnew => hnew.elim
      · rw [hsame]
        exact h.muxIdOnce transportId t ht
      · rw [← hsame]
        exact hfind
  | closeTransport transportId => exact h.onTransportClosed transportId
  | @addRtpReceiver transportId id r p hr hready =>
      obtain ⟨transports, heq, hrelists⟩ := h.addRtpReceiver_relists transportId id p
      rw [heq]
      refine h.relist hrelists fun n hn => ?_
      rcases hready with hp | ⟨fault, hfault⟩
      · exact ⟨id, r, hn.1, hr, hp⟩
      · rw [hfault] at hn
        exact nomatch hn.2
  | @attachRtpReceiver transportId id r hasRemb hr ht =>
      have hrelisted : Attached { peer with
          transports := if hasRemb then peer.transports.modify transportId Transport.enableRemb
            else peer.transports } := by
        refine h.relist (N := fun _ => False) ?_ fun _ hnew => hnew.elim
        split
        · exact relists_enableRemb h.muxIdOnce transportId
        · exact .refl h.muxIdOnce
      refine hrelisted.insertRtpReceiver (fun transportId' ht' => ?_) (fun r' hr' hp => ?_)
        (h.rtpStreams id r hr)
      · cases ht'
        dsimp only
        split
        · rw [Table.find?_modify, if_pos rfl, Option.isSome_map]
          exact ht
        · exact ht
      · cases hr.symm.trans hr'
        exact hp
  | @setRtpEvent id r r' hr htransport hp hstreams _ =>
      refine h.insertRtpReceiver (fun transportId ht => ?_) (fun r₁ hr₁ hready => ?_) fun ssrc hssrc => ?_
      · exact h.rtpReceivers id r transportId hr (htransport ▸ ht)
      · cases hr.symm.trans hr₁
        rw [hp]
        exact hready
      · rw [hstreams] at hssrc
        rw [hp]
        exact h.rtpStreams id r hr ssrc hssrc
  | createRtpStreams hok => exact h.createRtpStreams hok
  | attachRtpSender hs ht =>
      refine h.insertRtpSender fun transportId ht' => ?_
      cases ht'
      exact ht
  | @disableRtpSender id s disabled hs =>
      exact h.insertRtpSender fun transportId ht => h.rtpSenders id s transportId hs ht
  | rtpPacket transportId ssrc payloadType => exact h.onRtpPacket transportId ssrc payloadType

end Peer

/-- `RtpSender::Send` changes neither the transport nor what the peer asked for. -/
theorem RtpSender.send_transport {s s' : RtpSender} {muxId : String} {capabilities : RtpCapabilities}
    {p : RtpParameters} (h : s.send muxId capabilities p = .ok s') :
    s'.transport = s.transport ∧ s'.disabled = s.disabled := by
  unfold RtpSender.send at h
  obtain ⟨codecs, -, h⟩ := Checked.bind_eq_ok.1 h
  obtain ⟨_, -, h⟩ := Checked.bind_eq_ok.1 h
  cases h
  exact ⟨rfl, rfl⟩

namespace Room

variable {room room' : Room} {env : Environment} {receives : RtpReceiver → Prop}

/-! ## Senders -/

/-- A sender of the room. -/
def rtpSender? (room : Room) (s : Ref) : Option RtpSender :=
  (room.peers.find? s.1).bind (·.rtpSenders.find? s.2)

/-- A sender of the room is one of its peer. -/
theorem rtpSender?_of_peer {s : Ref} {peer : Peer} (hpeer : room.peers.find? s.1 = some peer) :
    room.rtpSender? s = peer.rtpSenders.find? s.2 := by
  rw [rtpSender?, hpeer, Option.bind_some]

/-- A peer owns the senders that it has. -/
theorem view_owned_eq_isSome (s : Ref) : room.view.owned s = (room.rtpSender? s).isSome := by
  rw [view_owned, rtpSender?]
  cases room.peers.find? s.1 <;> rfl

/-- The rooms differ in the senders of the peers, and no sender has a transport that it had not. -/
structure OnlyFeeds (room room' : Room) : Prop extends room.OnlySenders room' where
  transport : ∀ s sender' transportId, room'.rtpSender? s = some sender' →
    sender'.transport = some transportId →
      ∃ sender, room.rtpSender? s = some sender ∧ sender.transport = some transportId

theorem OnlyFeeds.refl (room : Room) : room.OnlyFeeds room :=
  ⟨.refl room, fun _ sender _ hs ht => ⟨sender, hs, ht⟩⟩

theorem OnlyFeeds.trans {room'' : Room} (h : room.OnlyFeeds room') (h' : room'.OnlyFeeds room'') :
    room.OnlyFeeds room'' := by
  refine ⟨h.toOnlySenders.trans h'.toOnlySenders, fun s sender'' transportId hs ht => ?_⟩
  obtain ⟨sender', hs', ht'⟩ := h'.transport s sender'' transportId hs ht
  exact h.transport s sender' transportId hs' ht'

/-- The senders of a peer are changed, and the maps of the room. -/
theorem onlyFeeds_modifyPeer (peerId : UInt32) (g : Peer → Table UInt32 RtpSender)
    (hpeers : room'.peers = (room.modifyPeer peerId fun peer => { peer with rtpSenders := g peer }).peers)
    (hsame : room.OnlySenders room')
    (hg : ∀ peer id sender' transportId, room.peers.find? peerId = some peer →
      (g peer).find? id = some sender' → sender'.transport = some transportId →
        ∃ sender, peer.rtpSenders.find? id = some sender ∧ sender.transport = some transportId) :
    room.OnlyFeeds room' := by
  refine ⟨hsame, fun s sender' transportId hs ht => ?_⟩
  rw [rtpSender?, hpeers, bind_modifyPeer] at hs
  split at hs
  case isTrue heq =>
    obtain ⟨peer, hpeer, hs⟩ := Option.bind_eq_some_iff.1 hs
    obtain ⟨sender, hsender, htransport⟩ := hg peer s.2 sender' transportId (heq ▸ hpeer) hs ht
    exact ⟨sender, (rtpSender?_of_peer hpeer).trans hsender, htransport⟩
  case isFalse => exact ⟨sender', hs, ht⟩

/-- A new sender begins without a transport. -/
theorem onlyFeeds_addRtpSenderForRtpReceiver {peerId : UInt32} {ref : Ref} {r : RtpReceiver}
    (h : room.addRtpSenderForRtpReceiver env peerId ref r = .ok room') : room.OnlyFeeds room' := by
  have hsame := onlySenders_addRtpSenderForRtpReceiver h
  unfold addRtpSenderForRtpReceiver at h
  split at h
  case h_1 => cases h; exact .refl room
  case h_2 peer hpeer =>
    split at h
    case h_2 => cases h
    case h_1 =>
      dsimp only at h
      split at h
      case isTrue => cases h
      case isFalse =>
        obtain ⟨sent, hsent, heq⟩ := Checked.bind_eq_ok.1 h
        cases heq
        refine onlyFeeds_modifyPeer peerId
          (fun peer => peer.rtpSenders.insert (env.rtpSenderIds room.numRtpSenders) sent)
          rfl hsame fun peer' id sender' transportId _ hs ht => ?_
        rw [Table.find?_insert] at hs
        split at hs
        case isTrue =>
          cases hs
          rw [(RtpSender.send_transport hsent).1] at ht
          cases ht
        case isFalse => exact ⟨sender', hs, ht⟩

/-- The parameters of a sender change. -/
theorem onlyFeeds_send {p : RtpParameters} {s : Ref} (h : room.send env p s = .ok room') :
    room.OnlyFeeds room' := by
  have hsame := onlySenders_send h
  unfold send at h
  split at h
  case h_1 => cases h; exact .refl room
  case h_2 peer hpeer =>
    split at h
    case h_1 => cases h; exact .refl room
    case h_2 sender hsender =>
      obtain ⟨sent, hsent, heq⟩ := Checked.bind_eq_ok.1 h
      cases heq
      refine onlyFeeds_modifyPeer s.1 (fun peer => peer.rtpSenders.insert s.2 sent)
        rfl hsame fun peer' id sender' transportId hpeer' hs ht => ?_
      obtain rfl := Option.some.inj (hpeer.symm.trans hpeer')
      rw [Table.find?_insert] at hs
      split at hs
      case isTrue hid =>
        cases hs
        rw [(RtpSender.send_transport hsent).1] at ht
        exact ⟨sender, hid ▸ hsender, ht⟩
      case isFalse => exact ⟨sender', hs, ht⟩

/-- The parameters of a receiver reach its senders. -/
theorem onlyFeeds_onPeerRtpReceiverParameters {ref : Ref} {r : RtpReceiver}
    (h : room.onPeerRtpReceiverParameters env ref r = .ok room') : room.OnlyFeeds room' := by
  unfold onPeerRtpReceiverParameters at h
  split at h
  case h_1 => cases h
  case h_2 p hp =>
    split at h
    case h_1 =>
      have hentry : room.OnlyFeeds
          { room with mapRtpReceiverRtpSenders := room.mapRtpReceiverRtpSenders.insert ref [] } :=
        ⟨⟨rfl, rfl, fun _ => rfl⟩, fun _ sender _ hs ht => ⟨sender, hs, ht⟩⟩
      exact Checked.foldlM_inv (I := fun room' => room.OnlyFeeds room')
        (fun _ _ _ hsame hadd => hsame.trans (onlyFeeds_addRtpSenderForRtpReceiver hadd)) h hentry
    case h_2 =>
      exact Checked.foldlM_inv (I := fun room' => room.OnlyFeeds room')
        (fun _ _ _ hsame hsend => hsame.trans (onlyFeeds_send hsend)) h (.refl room)

/-- A sender that closes leaves the others with their transports. -/
theorem onlyFeeds_closeRtpSender (room : Room) (s : Ref) : room.OnlyFeeds (room.closeRtpSender s) := by
  refine onlyFeeds_modifyPeer s.1 (fun peer => peer.rtpSenders.erase s.2) rfl
    (onlySenders_closeRtpSender room s) fun peer id sender' transportId _ hs ht => ?_
  rw [Table.find?_erase] at hs
  split at hs
  case isTrue => cases hs
  case isFalse => exact ⟨sender', hs, ht⟩

/-- Senders close one after the other. -/
theorem onlyFeeds_closeRtpSenders (senders : List Ref) (room : Room) :
    room.OnlyFeeds (senders.foldl closeRtpSender room) := by
  induction senders generalizing room with
  | nil => exact .refl room
  | cons s senders ih => exact (onlyFeeds_closeRtpSender room s).trans (ih _)

/-! ## Rooms -/

/-- The pointers of every peer are good. -/
def Attached (room : Room) : Prop :=
  ∀ peerId peer, room.peers.find? peerId = some peer → peer.Attached

/-- The transport of a sender is one of its peer. -/
theorem Attached.rtpSender_transport (h : room.Attached) {s : Ref} {sender : RtpSender} {transportId : UInt32}
    (hsender : room.rtpSender? s = some sender) (ht : sender.transport = some transportId) :
    ((room.peers.find? s.1).bind (·.transports.find? transportId)).isSome = true := by
  obtain ⟨peer, hpeer, hfind⟩ := Option.bind_eq_some_iff.1 hsender
  rw [hpeer]
  exact (h s.1 peer hpeer).rtpSenders s.2 sender transportId hfind ht

/-- The transport of a receiver is one of its peer. -/
theorem Attached.rtpReceiver_transport (h : room.Attached) {ref : Ref} {owner : Peer} {r : RtpReceiver}
    {transportId : UInt32} (howner : room.peers.find? ref.1 = some owner)
    (hr : owner.rtpReceivers.find? ref.2 = some r) (ht : r.transport = some transportId) :
    ((room.peers.find? ref.1).bind (·.transports.find? transportId)).isSome = true := by
  rw [howner]
  exact (h ref.1 owner howner).rtpReceivers ref.2 r transportId hr ht

/-- One peer is changed: it is enough that this one is attached. -/
theorem Attached.modifyPeer (h : room.Attached) {peerId : UInt32} {f : Peer → Peer}
    (hf : ∀ peer, room.peers.find? peerId = some peer → (f peer).Attached) :
    (room.modifyPeer peerId f).Attached := by
  intro peerId' peer' hpeer'
  rw [Room.modifyPeer, Table.find?_modify] at hpeer'
  split at hpeer'
  case isTrue heq =>
    obtain ⟨peer, hpeer, rfl⟩ := Option.map_eq_some_iff.1 hpeer'
    exact hf peer (heq ▸ hpeer)
  case isFalse => exact h peerId' peer' hpeer'

theorem Attached.of_peers (h : room.Attached) (hpeers : room'.peers = room.peers) : room'.Attached := by
  unfold Attached
  rw [hpeers]
  exact h

/-- Senders that come, change or go leave no pointer behind. -/
theorem Attached.onlyFeeds (h : room.Attached) (hfeeds : room.OnlyFeeds room') : room'.Attached := by
  intro peerId peer' hpeer'
  have heq := hfeeds.peers peerId
  rw [hpeer', Option.map_some] at heq
  obtain ⟨peer, hpeer, hmembers⟩ := Option.map_eq_some_iff.1 heq.symm
  have hset : peer' = { peer with rtpSenders := peer'.rtpSenders } := by
    rw [Peer.mk.injEq] at hmembers
    obtain ⟨hname, hcapabilities, htransports, hreceivers, -⟩ := hmembers
    rw [hname, hcapabilities, htransports, hreceivers]
  rw [hset]
  refine (h peerId peer hpeer).setRtpSenders fun id sender' transportId hs ht => ?_
  have hsender' : room'.rtpSender? (peerId, id) = some sender' := (rtpSender?_of_peer hpeer').trans hs
  obtain ⟨sender, hsender, htransport⟩ := hfeeds.transport _ sender' transportId hsender' ht
  rw [rtpSender?_of_peer hpeer] at hsender
  exact (h peerId peer hpeer).rtpSenders id sender transportId hsender htransport

/-- A receiver leaves the listeners and its senders before it goes. -/
theorem Attached.closeRtpReceiver (h : room.Attached) (ref : Ref) :
    (room.closeRtpReceiver ref).Attached := by
  have hclosed : (room.modifyPeer ref.1 fun peer => peer.onRtpReceiverClosed ref.2).Attached :=
    h.modifyPeer fun peer hpeer => (h ref.1 peer hpeer).onRtpReceiverClosed ref.2
  unfold Room.closeRtpReceiver onPeerRtpReceiverClosed
  split
  case h_1 => exact hclosed
  case h_2 senders _ => exact (hclosed.onlyFeeds (onlyFeeds_closeRtpSenders senders _)).of_peers rfl

/-- A peer goes with all that it has. -/
theorem Attached.closePeer (h : room.Attached) (peerId : UInt32) : (room.closePeer peerId).Attached := by
  unfold Room.closePeer
  dsimp only
  have hreceivers := List.foldlRecOn (room.rtpReceiversOf peerId) Room.closeRtpReceiver h
    fun _ h ref _ => h.closeRtpReceiver ref
  generalize (room.rtpReceiversOf peerId).foldl Room.closeRtpReceiver room = room₁ at hreceivers
  have hsenders := hreceivers.onlyFeeds (onlyFeeds_closeRtpSenders (room₁.rtpSendersOf peerId) room₁)
  generalize (room₁.rtpSendersOf peerId).foldl closeRtpSender room₁ = room₂ at hsenders
  have htransports := List.foldlRecOn (room₂.transportsOf peerId)
    (fun room id => room.closeTransport peerId id) hsenders fun _ h id _ =>
      h.modifyPeer fun peer hpeer => (h peerId peer hpeer).onTransportClosed id
  intro peerId' peer hpeer
  rw [Table.find?_erase] at hpeer
  split at hpeer
  case isTrue => cases hpeer
  case isFalse => exact htransports peerId' peer hpeer

/-- The senders that the capabilities of a peer bring. -/
theorem Attached.onPeerCapabilities (h : room.Attached) {peerId : UInt32}
    {capabilities : RtpCapabilities}
    (hok : room.onPeerCapabilities env peerId capabilities = .ok room') : room'.Attached := by
  unfold Room.onPeerCapabilities at hok
  obtain ⟨reduced, -, hok⟩ := Checked.bind_eq_ok.1 hok
  refine Checked.foldlM_inv (I := fun room' => room'.Attached)
    (fun _ _ _ hattached hadd => hattached.onlyFeeds (onlyFeeds_addRtpSenderForRtpReceiver hadd)) hok ?_
  exact h.modifyPeer fun peer hpeer => (h peerId peer hpeer).setCapabilities _

/-- **Receiving.** The receiver that the listener gets has parameters from then on. -/
theorem Attached.receive (h : room.Attached) {ref : Ref} {peer : Peer} {r : RtpReceiver}
    (hpeer : room.peers.find? ref.1 = some peer) (hr : peer.rtpReceivers.find? ref.2 = some r)
    (given p : RtpParameters) :
    ((room.modifyPeer ref.1 fun _ =>
      (peer.onRtpReceiverParameters ref.2 r given).1).setParameters ref r p).Attached := by
  have hpeerAttached := h ref.1 peer hpeer
  have hparameters : Peer.Attached { peer with
      rtpReceivers := peer.rtpReceivers.insert ref.2 { r.clearRtpStreams with rtpParameters := some p } } :=
    hpeerAttached.insertRtpReceiver (fun transportId ht => hpeerAttached.rtpReceivers ref.2 r transportId hr ht)
      (fun _ _ _ => rfl) fun ssrc hssrc => absurd hssrc List.not_mem_nil
  have hadded : ∃ transports, (peer.onRtpReceiverParameters ref.2 r given).1 = { peer with transports } ∧
      Relists (fun n => n = ref.2.toNat) peer.transports transports := by
    unfold Peer.onRtpReceiverParameters
    dsimp only
    split
    case h_1 => exact ⟨peer.transports, rfl, .refl hpeerAttached.muxIdOnce⟩
    case h_2 reduced _ =>
      split
      case h_1 => exact ⟨peer.transports, rfl, .refl hpeerAttached.muxIdOnce⟩
      case h_2 transportId _ =>
        obtain ⟨transports, heq, hrelists⟩ := hpeerAttached.addRtpReceiver_relists transportId ref.2
          (reduced.reduceHeaderExtensions (peer.capabilities.getD {}).headerExtensions)
        refine ⟨transports, heq, hrelists.kept, hrelists.muxIdOnce, fun id t' key n ht' hfind => ?_⟩
        exact (hrelists.listed id t' key n ht' hfind).imp_left And.left
  obtain ⟨transports, heq, hrelists⟩ := hadded
  rw [heq]
  intro peerId' peer' hpeer'
  rw [setParameters, Room.modifyPeer, Room.modifyPeer, Table.find?_modify, Table.find?_modify] at hpeer'
  split at hpeer'
  case isTrue hsame =>
    rw [hsame, hpeer] at hpeer'
    cases hpeer'
    refine hparameters.relist hrelists fun n hn => ?_
    refine ⟨ref.2, { r.clearRtpStreams with rtpParameters := some p }, hn, ?_, rfl⟩
    rw [Table.find?_insert, if_pos rfl]
  case isFalse => exact h peerId' peer' hpeer'

/-- **The step lemma.** Every edit of a room keeps the pointers good. -/
theorem attached_edit (h : room.Attached) (hedit : room.Edit receives room') : room'.Attached := by
  cases hedit with
  | peer peerId f hf =>
      exact h.modifyPeer fun peer hpeer =>
        (hf peer hpeer).inv (fun _ _ hattached hedit => hattached.edit hedit) (h peerId peer hpeer)
  | audioLevels enabled => exact h.of_peers rfl
  | createPeer peerId peerName hnew =>
      intro peerId' peer hpeer
      rw [Table.find?_insert] at hpeer
      split at hpeer
      case isTrue =>
        cases hpeer
        exact Peer.attached_empty peerName
      case isFalse => exact h peerId' peer hpeer
  | closePeer peerId => exact h.closePeer peerId
  | setCapabilities env hpeer hnone hdata hok => exact h.onPeerCapabilities hok
  | @createRtpReceiver peerId rtpReceiverId transportId peer kind hpeer hcapabilities hnew ht =>
      refine h.modifyPeer fun peer' hpeer' => ?_
      obtain rfl := Option.some.inj (hpeer.symm.trans hpeer')
      refine (h peerId peer hpeer).insertRtpReceiver (fun transportId' ht' => ?_) (fun r hr _ => ?_)
        fun ssrc hssrc => absurd hssrc List.not_mem_nil
      · cases ht'
        exact ht
      · rw [hnew] at hr
        cases hr
  | closeRtpReceiver ref => exact h.closeRtpReceiver ref
  | receive env hpeer hr _ hdata hp hok =>
      exact (h.receive hpeer hr _ _).onlyFeeds (onlyFeeds_onPeerRtpReceiverParameters hok)

/-- **Transports, listener entries and `rtpStreams` are good.** In every run of a room, whatever requests,
packets and ends of transports it is made of, every transport that a receiver or a sender points to is one
of its peer, and every listener entry leads to a receiver of the peer that has parameters; what a receiver
has in `rtpStreams` is for encodings of the parameters that it has now. Nothing is said of `rtxStreamMap`,
which may point to deleted streams. -/
theorem attached_of_exec {roomId : UInt32} {data : JsonCpp.Value} {events : List RoomEvent}
    (hcreate : Room.create roomId data = .ok room) (h : Machine.exec step room events = some room') :
    room'.Attached := by
  refine (exec_inv_of_edit (fun _ _ _ _ _ => attached_edit) hcreate h fun peerId peer hpeer => ?_).2
  rw [(create_ok hcreate).1] at hpeer
  cases hpeer

/-- The sender that the second of two peers has for the receiver of the first gets a transport. -/
def attachedSender : List RoomEvent :=
  twoPeers ++
    [numberedRequest .peerCreateTransport [("peerId", .int 2), ("transportId", .int 8)] [],
      numberedRequest .rtpSenderSetTransport
        [("peerId", .int 2), ("rtpSenderId", .int 10000000), ("transportId", .int 8)] []]

/-- A sender with a transport. -/
theorem attached_of_exec_attachedSender : ∃ room room',
    Room.create 1 (.object [("mediaCodecs", .array [vp8])]) = .ok room ∧
      Machine.exec step room attachedSender = some room' ∧
      (room'.rtpSender? (2, 10000000)).bind (·.transport) = some 8 ∧ room'.Attached := by
  have hrun : ∃ room room', Room.create 1 (.object [("mediaCodecs", .array [vp8])]) = .ok room ∧
      Machine.exec step room attachedSender = some room' ∧
      (room'.rtpSender? (2, 10000000)).bind (·.transport) = some 8 :=
    exists_run (fun _ _ h => of_decide_eq_true h) (by decide +kernel)
  obtain ⟨room, room', hcreate, hexec, ht⟩ := hrun
  exact ⟨room, room', hcreate, hexec, ht, attached_of_exec hcreate hexec⟩

end Room

end KoreWebsocket.Rtc
