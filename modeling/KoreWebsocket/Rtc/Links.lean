import KoreWebsocket.Rtc.Atomicity
import KoreWebsocket.Rtc.Mesh

/-!
# The listeners follow the receivers (`RTC::Peer`, `mediasoup_1/soup`)

`Transport::AddRtpReceiver` puts the keys of a receiver into the listener of a transport, and a packet
may teach the listener an SSRC besides. An entry should lead to a receiver of the peer whose transport
this is and whose parameters declare the key (`Peer.Linked`). `OnRtpReceiverClosed` and
`OnTransportClosed` clean up, and so does `AddRtpReceiver` in the listener it adds to; but when
`rtpReceiver.setTransport` moves a receiver from one transport to another, the entries in the listener of
the first stay (`Moves`).
-/

namespace KoreWebsocket.Rtc

/-! ## The entries of a listener -/

/-- A key of one of the three tables. -/
inductive Key
  | ssrc (ssrc : UInt32)
  | muxId (muxId : String)
  | payloadType (payloadType : UInt8)
  deriving DecidableEq, Repr

/-- The parameters declare the key. -/
def RtpParameters.Declares (p : RtpParameters) : Key → Prop
  | .ssrc ssrc => ssrc ∈ p.ssrcs
  | .muxId muxId => muxId ∈ p.muxIds
  | .payloadType payloadType => payloadType ∈ p.payloadTypes

namespace RtpListener

/-- The receiver of a key. -/
def lookup (l : RtpListener) : Key → Option Nat
  | .ssrc ssrc => l.ssrcTable.find? ssrc
  | .muxId muxId => l.muxIdTable.find? muxId
  | .payloadType payloadType => l.ptTable.find? payloadType

variable {l l' : RtpListener} {r : Nat} {p : RtpParameters}

/-- Equal tables give equal answers. -/
theorem Same.lookup (h : Same l l') (key : Key) : l'.lookup key = l.lookup key := by
  cases key with
  | ssrc ssrc => exact congrFun h.ssrcTable ssrc
  | muxId muxId => exact congrFun h.muxIdTable muxId
  | payloadType payloadType => exact congrFun h.ptTable payloadType

/-- The keys of the other receivers stay. -/
theorem OthersKept.lookup (h : OthersKept r l l') {r' : Nat} (hne : r' ≠ r) (key : Key) :
    l'.lookup key = some r' ↔ l.lookup key = some r' := by
  cases key with
  | ssrc ssrc => exact h.ssrcTable r' hne ssrc
  | muxId muxId => exact h.muxIdTable r' hne muxId
  | payloadType payloadType => exact h.ptTable r' hne payloadType

/-- A receiver has the keys that its parameters declare. -/
theorem Declared.lookup (h : Declared r p l) (key : Key) : l.lookup key = some r ↔ p.Declares key := by
  cases key with
  | ssrc ssrc => exact h.ssrcTable ssrc
  | muxId muxId => exact h.muxIdTable muxId
  | payloadType payloadType => exact h.ptTable payloadType

/-- A receiver that is removed has no keys, and the others have theirs. -/
theorem lookup_removeRtpReceiver (l : RtpListener) (r : Nat) (key : Key) :
    (l.removeRtpReceiver r).lookup key = (l.lookup key).filter (· ≠ r) := by
  cases key <;> exact Table.find?_filter _ _ _

/-- Keys that no other receiver has are all added. -/
theorem addKeys_none {κ : Type} [DecidableEq κ] {keys : List κ} {table : Table κ Nat}
    (h : ∀ key ∈ keys, ∀ n, table.find? key = some n → n = r) : (addKeys r keys table).2 = none := by
  induction keys generalizing table with
  | nil => rfl
  | cons key keys ih =>
      unfold addKeys
      split
      case isTrue hother =>
        unfold hasOther at hother
        split at hother
        case h_1 => cases hother
        case h_2 n hfind => exact absurd (h key List.mem_cons_self n hfind) (of_decide_eq_true hother)
      case isFalse =>
        refine ih fun key' hmem n hfind => ?_
        rw [Table.find?_insert] at hfind
        split at hfind
        case isTrue => exact (Option.some.inj hfind).symm
        case isFalse => exact h key' (List.mem_cons_of_mem _ hmem) n hfind

/-- A receiver is added if no other receiver has one of its keys. -/
theorem addRtpReceiver_none (h : ∀ key n, p.Declares key → l.lookup key = some n → n = r) :
    (l.addRtpReceiver r p).2 = none := by
  have hfree : ∀ key n, p.Declares key → (l.removeRtpReceiver r).lookup key = some n → n = r := by
    intro key n hdeclares hfind
    rw [lookup_removeRtpReceiver, Option.filter_eq_some_iff] at hfind
    exact h key n hdeclares hfind.1
  have hssrc := addKeys_none fun ssrc hmem n => hfree (.ssrc ssrc) n hmem
  have hmuxId := addKeys_none fun muxId hmem n => hfree (.muxId muxId) n hmem
  have hpt := addKeys_none fun payloadType hmem n => hfree (.payloadType payloadType) n hmem
  unfold addRtpReceiver
  dsimp only
  split
  case h_1 heq => rw [heq] at hssrc; cases hssrc
  case h_2 =>
    split
    case h_1 heq => rw [heq] at hmuxId; cases hmuxId
    case h_2 =>
      split
      case h_1 heq => rw [heq] at hpt; cases hpt
      case h_2 => rfl

theorem Same.refl (l : RtpListener) : Same l l := ⟨rfl, rfl, rfl⟩

/-- A new listener knows nobody. -/
theorem lookup_empty (key : Key) : ({} : RtpListener).lookup key = none := by
  cases key <;> rfl

/-- A new listener has no MUX id twice. -/
theorem muxIdOnce_empty : ({} : RtpListener).MuxIdOnce := ⟨rfl, nofun⟩

end RtpListener

open RtpListener (Same OthersKept Declared)

/-! ## Linked peers -/

/-- A receiver of the peer whose transport this is and whose parameters are as said. -/
def Peer.LeadsTo (peer : Peer) (transportId : UInt32) (rtpReceiver : Nat)
    (declares : RtpParameters → Prop) : Prop :=
  ∃ id r p, rtpReceiver = UInt32.toNat id ∧ peer.rtpReceivers.find? id = some r ∧
    r.transport = some transportId ∧ r.rtpParameters = some p ∧ declares p

/-- Every entry of every listener leads to a receiver whose parameters declare the key, unless the key
was learned. -/
structure Peer.Linked (learned : UInt32 → Key → Nat → Prop) (peer : Peer) : Prop where
  muxIdOnce : ∀ id t, peer.transports.find? id = some t → t.rtpListener.MuxIdOnce
  leadsTo : ∀ id t, peer.transports.find? id = some t → ∀ key rtpReceiver,
    t.rtpListener.lookup key = some rtpReceiver →
      peer.LeadsTo id rtpReceiver fun p => p.Declares key ∨ learned id key rtpReceiver

namespace Peer

variable {learned learned' : UInt32 → Key → Nat → Prop} {peer peer' : Peer}

theorem LeadsTo.mono {transportId : UInt32} {rtpReceiver : Nat} {q q' : RtpParameters → Prop}
    (h : peer.LeadsTo transportId rtpReceiver q) (hq : ∀ p, q p → q' p) :
    peer.LeadsTo transportId rtpReceiver q' := by
  obtain ⟨id, r, p, hid, hr, ht, hp, hdeclares⟩ := h
  exact ⟨id, r, p, hid, hr, ht, hp, hq p hdeclares⟩

/-- What is learned only matters for the entries there are. -/
theorem Linked.mono (h : peer.Linked learned)
    (hlearned : ∀ id t key rtpReceiver, peer.transports.find? id = some t →
      t.rtpListener.lookup key = some rtpReceiver → learned id key rtpReceiver →
        learned' id key rtpReceiver) : peer.Linked learned' where
  muxIdOnce := h.muxIdOnce
  leadsTo := fun id t ht key rtpReceiver hfind =>
    (h.leadsTo id t ht key rtpReceiver hfind).mono fun _ hp =>
      hp.imp_right (hlearned id t key rtpReceiver ht hfind)

/-- A receiver that a listener knows has the listener's transport. -/
theorem Linked.transport_eq (h : peer.Linked learned) {id rtpReceiverId : UInt32} {t : Transport}
    {r : RtpReceiver} {key : Key} (ht : peer.transports.find? id = some t)
    (hr : peer.rtpReceivers.find? rtpReceiverId = some r)
    (hfind : t.rtpListener.lookup key = some rtpReceiverId.toNat) : r.transport = some id := by
  obtain ⟨id', r', p, hid, hr', htransport, -⟩ := h.leadsTo id t ht key _ hfind
  obtain rfl := UInt32.toNat_inj.1 hid
  cases hr.symm.trans hr'
  exact htransport

/-- The listeners and the receivers that there were are the same, and a new listener is empty. -/
structure Keeps (peer peer' : Peer) : Prop where
  listeners : ∀ id t', peer'.transports.find? id = some t' → Same {} t'.rtpListener ∨
    ∃ t, peer.transports.find? id = some t ∧ Same t.rtpListener t'.rtpListener
  rtpReceivers : ∀ id r, peer.rtpReceivers.find? id = some r → ∃ r',
    peer'.rtpReceivers.find? id = some r' ∧ r'.transport = r.transport ∧
      r'.rtpParameters = r.rtpParameters

/-- Who led to a receiver still does. -/
theorem Keeps.leadsTo (h : peer.Keeps peer') {transportId : UInt32} {rtpReceiver : Nat}
    {q : RtpParameters → Prop} (hleads : peer.LeadsTo transportId rtpReceiver q) :
    peer'.LeadsTo transportId rtpReceiver q := by
  obtain ⟨id, r, p, hid, hr, ht, hp, hdeclares⟩ := hleads
  obtain ⟨r', hr', ht', hp'⟩ := h.rtpReceivers id r hr
  exact ⟨id, r', p, hid, hr', ht'.trans ht, hp'.trans hp, hdeclares⟩

theorem Keeps.trans {peer'' : Peer} (h : peer.Keeps peer') (h' : peer'.Keeps peer'') :
    peer.Keeps peer'' where
  listeners := by
    intro id t'' ht''
    rcases h'.listeners id t'' ht'' with hsame | ⟨t', ht', hsame'⟩
    · exact .inl hsame
    · have hchain : ∀ {l}, Same l t'.rtpListener → Same l t''.rtpListener := fun hsame =>
        ⟨hsame'.ssrcTable.trans hsame.ssrcTable, hsame'.muxIdTable.trans hsame.muxIdTable,
          hsame'.ptTable.trans hsame.ptTable⟩
      rcases h.listeners id t' ht' with hsame | ⟨t, ht, hsame⟩
      · exact .inl (hchain hsame)
      · exact .inr ⟨t, ht, hchain hsame⟩
  rtpReceivers := by
    intro id r hr
    obtain ⟨r', hr', ht', hp'⟩ := h.rtpReceivers id r hr
    obtain ⟨r'', hr'', ht'', hp''⟩ := h'.rtpReceivers id r' hr'
    exact ⟨r'', hr'', ht''.trans ht', hp''.trans hp'⟩

/-- A change that keeps the receivers where they were keeps the links. -/
theorem Linked.keeps (h : peer.Linked learned) (hkeeps : peer.Keeps peer') : peer'.Linked learned where
  muxIdOnce := by
    intro id t' ht'
    rcases hkeeps.listeners id t' ht' with hsame | ⟨t, ht, hsame⟩
    · exact RtpListener.muxIdOnce_empty.of_same hsame
    · exact (h.muxIdOnce id t ht).of_same hsame
  leadsTo := by
    intro id t' ht' key rtpReceiver hfind
    rcases hkeeps.listeners id t' ht' with hsame | ⟨t, ht, hsame⟩
    · rw [hsame.lookup, RtpListener.lookup_empty] at hfind
      cases hfind
    · rw [hsame.lookup] at hfind
      exact hkeeps.leadsTo (h.leadsTo id t ht key rtpReceiver hfind)

/-- A new peer has no listeners. -/
theorem linked_empty (peerName : String) : Linked learned { peerName } where
  muxIdOnce := fun _ _ ht => (by cases ht)
  leadsTo := fun _ _ ht => (by cases ht)

/-- The transports of a peer are changed, but not what their listeners say. -/
theorem keeps_transports {transports : Table UInt32 Transport}
    (h : ∀ id t', transports.find? id = some t' → Same {} t'.rtpListener ∨
      ∃ t, peer.transports.find? id = some t ∧ Same t.rtpListener t'.rtpListener) :
    peer.Keeps { peer with transports } :=
  ⟨h, fun _ r hr => ⟨r, hr, rfl, rfl⟩⟩

/-- A transport is replaced by one whose listener says the same. -/
theorem keeps_insertTransport {id : UInt32} {t t' : Transport}
    (ht : peer.transports.find? id = some t) (hsame : Same t.rtpListener t'.rtpListener) :
    peer.Keeps { peer with transports := peer.transports.insert id t' } := by
  refine keeps_transports fun _ t'' ht'' => .inr ?_
  rw [Table.find?_insert] at ht''
  split at ht''
  case isTrue heq =>
    cases ht''
    exact ⟨t, heq ▸ ht, hsame⟩
  case isFalse => exact ⟨t'', ht'', .refl _⟩

/-- A new transport has an empty listener. -/
theorem keeps_createTransport (id : UInt32) :
    peer.Keeps { peer with transports := peer.transports.insert id {} } := by
  refine keeps_transports fun _ t' ht' => ?_
  rw [Table.find?_insert] at ht'
  split at ht'
  case isTrue =>
    cases ht'
    exact .inl (.refl _)
  case isFalse => exact .inr ⟨t', ht', .refl _⟩

/-- A receiver is new, or replaced by one with the same transport and parameters. -/
theorem keeps_insertRtpReceiver {id : UInt32} {r' : RtpReceiver}
    (h : ∀ r, peer.rtpReceivers.find? id = some r →
      r'.transport = r.transport ∧ r'.rtpParameters = r.rtpParameters) :
    peer.Keeps { peer with rtpReceivers := peer.rtpReceivers.insert id r' } where
  listeners := fun _ t ht => .inr ⟨t, ht, .refl _⟩
  rtpReceivers := by
    intro id' r hr
    rw [Table.find?_insert]
    split
    case isTrue heq => exact ⟨r', rfl, h r (heq ▸ hr)⟩
    case isFalse => exact ⟨r, hr, rfl, rfl⟩

/-- The transports have the listeners that they had. -/
def SameListeners (transports transports' : Table UInt32 Transport) : Prop :=
  ∀ id t', transports'.find? id = some t' →
    ∃ t, transports.find? id = some t ∧ t'.rtpListener = t.rtpListener

theorem SameListeners.refl (transports : Table UInt32 Transport) : SameListeners transports transports :=
  fun _ t ht => ⟨t, ht, rfl⟩

theorem SameListeners.trans {transports transports' transports'' : Table UInt32 Transport}
    (h : SameListeners transports transports') (h' : SameListeners transports' transports'') :
    SameListeners transports transports'' := by
  intro id t'' ht''
  obtain ⟨t', ht', heq'⟩ := h' id t'' ht''
  obtain ⟨t, ht, heq⟩ := h id t' ht'
  exact ⟨t, ht, heq'.trans heq⟩

/-- REMB does not concern the listeners. -/
theorem sameListeners_enableRemb (transports : Table UInt32 Transport) (transportId : UInt32) :
    SameListeners transports (transports.modify transportId Transport.enableRemb) := by
  intro id t' ht'
  rw [Table.find?_modify] at ht'
  split at ht'
  case isTrue =>
    obtain ⟨t, ht, rfl⟩ := Option.map_eq_some_iff.1 ht'
    exact ⟨t, ht, rfl⟩
  case isFalse => exact ⟨t', ht', rfl⟩

/-- Creating a stream leaves the listeners, and the receiver's transport and parameters. -/
theorem createRtpStream_keeps {p : RtpParameters} {s s' : Table UInt32 Transport × RtpReceiver}
    {encoding : RtpEncodingParameters} (h : RtpReceiver.createRtpStream p s encoding = .ok s') :
    SameListeners s.1 s'.1 ∧ s'.2.transport = s.2.transport ∧
      s'.2.rtpParameters = s.2.rtpParameters := by
  have hrtx : ∀ r r' : RtpReceiver, r.createRtxStream p encoding = .ok r' →
      r'.transport = r.transport ∧ r'.rtpParameters = r.rtpParameters := by
    intro r r' h
    unfold RtpReceiver.createRtxStream at h
    split at h
    case isTrue =>
      obtain ⟨codec, -, h⟩ := Checked.bind_eq_ok.1 h
      split at h <;> cases h <;> exact ⟨rfl, rfl⟩
    case isFalse => cases h; exact ⟨rfl, rfl⟩
  have hremb : ∀ (r : RtpReceiver) (codec : RtpCodecParameters) (transports' : Table UInt32 Transport),
      r.enableRemb codec s.1 = .ok transports' → SameListeners s.1 transports' := by
    intro r codec transports' h
    unfold RtpReceiver.enableRemb at h
    split at h
    case isTrue =>
      split at h
      case h_1 transportId _ =>
        cases h
        exact sameListeners_enableRemb s.1 transportId
      case h_2 => cases h
    case isFalse => cases h; exact .refl _
  unfold RtpReceiver.createRtpStream at h
  split at h
  case isTrue => cases h; exact ⟨.refl _, rfl, rfl⟩
  case isFalse =>
    obtain ⟨codec, -, h⟩ := Checked.bind_eq_ok.1 h
    obtain ⟨transports', htransports, h⟩ := Checked.bind_eq_ok.1 h
    obtain ⟨r', hr', h⟩ := Checked.bind_eq_ok.1 h
    have hmembers := hrtx _ _ hr'
    cases h
    exact ⟨hremb _ _ _ htransports, hmembers⟩

/-- The streams of a receiver are created: its transport may be asked for REMB. -/
theorem keeps_createRtpStreams {id : UInt32} (h : peer.createRtpStreams id = .ok peer') :
    peer.Keeps peer' := by
  have hrefl : peer.Keeps peer := ⟨fun _ t ht => .inr ⟨t, ht, .refl _⟩, fun _ r hr => ⟨r, hr, rfl, rfl⟩⟩
  unfold createRtpStreams at h
  split at h
  case h_1 => cases h; exact hrefl
  case h_2 r hr =>
    split at h
    case h_1 => cases h; exact hrefl
    case h_2 p hp =>
      obtain ⟨⟨transports, r'⟩, hs, heq⟩ := Checked.bind_eq_ok.1 h
      cases heq
      let I : Table UInt32 Transport × RtpReceiver → Prop := fun s =>
        SameListeners peer.transports s.1 ∧ s.2.transport = r.transport ∧
          s.2.rtpParameters = r.rtpParameters
      have hI : I (transports, r') := by
        refine Checked.foldlM_inv (fun s encoding s' hs hcreate => ?_) hs ⟨.refl _, rfl, rfl⟩
        obtain ⟨hlisteners, htransport, hp⟩ := createRtpStream_keeps hcreate
        exact ⟨hs.1.trans hlisteners, htransport.trans hs.2.1, hp.trans hs.2.2⟩
      obtain ⟨hlisteners, hmembers⟩ := hI
      have htransports : peer.Keeps { peer with transports } := by
        refine keeps_transports fun id t' ht' => .inr ?_
        obtain ⟨t, ht, heq⟩ := hlisteners id t' ht'
        exact ⟨t, ht, heq ▸ .refl _⟩
      refine htransports.trans (keeps_insertRtpReceiver fun r₁ hr₁ => ?_)
      cases hr.symm.trans hr₁
      exact hmembers

/-- The capabilities of a peer do not concern its receivers. -/
theorem keeps_capabilities (capabilities : Option RtpCapabilities) :
    peer.Keeps { peer with capabilities } :=
  ⟨fun _ t ht => .inr ⟨t, ht, .refl _⟩, fun _ r hr => ⟨r, hr, rfl, rfl⟩⟩

/-- The senders of a peer do not concern its receivers. -/
theorem keeps_rtpSenders (rtpSenders : Table UInt32 RtpSender) : peer.Keeps { peer with rtpSenders } :=
  ⟨fun _ t ht => .inr ⟨t, ht, .refl _⟩, fun _ r hr => ⟨r, hr, rfl, rfl⟩⟩

/-! ## What the operations do -/

/-- `OnTransportClosed`: the entries of the other listeners lead to receivers of other transports. -/
theorem Linked.onTransportClosed (h : peer.Linked learned) (transportId : UInt32) :
    (peer.onTransportClosed transportId).Linked learned where
  muxIdOnce := by
    intro id t ht
    change (peer.transports.erase transportId).find? id = some t at ht
    rw [Table.find?_erase] at ht
    split at ht
    case isTrue => cases ht
    case isFalse => exact h.muxIdOnce id t ht
  leadsTo := by
    intro id t ht key rtpReceiver hfind
    change (peer.transports.erase transportId).find? id = some t at ht
    rw [Table.find?_erase] at ht
    split at ht
    case isTrue => cases ht
    case isFalse hne =>
      obtain ⟨id', r, p, hid, hr, htransport, hp, hdeclares⟩ := h.leadsTo id t ht key rtpReceiver hfind
      have hstays : r.removeTransport transportId = r := by
        rw [RtpReceiver.removeTransport, if_neg]
        rw [htransport]
        exact fun heq => hne (Option.some.inj heq)
      refine ⟨id', r, p, hid, ?_, htransport, hp, hdeclares⟩
      rw [Peer.onTransportClosed, Table.find?_mapValues, hr, Option.map_some, hstays]

/-- `OnRtpReceiverClosed`: no listener knows the receiver any more. -/
theorem Linked.onRtpReceiverClosed (h : peer.Linked learned) (rtpReceiverId : UInt32) :
    (peer.onRtpReceiverClosed rtpReceiverId).Linked learned where
  muxIdOnce := by
    intro id t' ht'
    change (peer.transports.mapValues _).find? id = some t' at ht'
    rw [Table.find?_mapValues, Option.map_eq_some_iff] at ht'
    obtain ⟨t, ht, rfl⟩ := ht'
    exact (h.muxIdOnce id t ht).call (.removeRtpReceiver rtpReceiverId.toNat)
  leadsTo := by
    intro id t' ht' key rtpReceiver hfind
    change (peer.transports.mapValues _).find? id = some t' at ht'
    rw [Table.find?_mapValues, Option.map_eq_some_iff] at ht'
    obtain ⟨t, ht, rfl⟩ := ht'
    change (t.rtpListener.removeRtpReceiver rtpReceiverId.toNat).lookup key = some rtpReceiver at hfind
    rw [RtpListener.lookup_removeRtpReceiver, Option.filter_eq_some_iff] at hfind
    obtain ⟨id', r, p, hid, hr, htransport, hp, hdeclares⟩ :=
      h.leadsTo id t ht key rtpReceiver hfind.1
    have hne : id' ≠ rtpReceiverId := by
      rintro rfl
      exact of_decide_eq_true hfind.2 hid
    refine ⟨id', r, p, hid, ?_, htransport, hp, hdeclares⟩
    change (peer.rtpReceivers.erase rtpReceiverId).find? id' = some r
    rw [Table.find?_erase, if_neg hne]
    exact hr

/-- A receiver is replaced, and its entries with it; the entries of the others stay or go. -/
theorem Linked.replace (h : peer.Linked learned) {id : UInt32} {r' : RtpReceiver}
    {transports : Table UInt32 Transport}
    (honce : ∀ id' t', transports.find? id' = some t' → t'.rtpListener.MuxIdOnce)
    (hothers : ∀ id' t', transports.find? id' = some t' → ∃ t, peer.transports.find? id' = some t ∧
      ∀ key n, n ≠ id.toNat → t'.rtpListener.lookup key = some n → t.rtpListener.lookup key = some n)
    (hown : ∀ id' t', transports.find? id' = some t' → ∀ key,
      t'.rtpListener.lookup key = some id.toNat →
        r'.transport = some id' ∧ ∃ p, r'.rtpParameters = some p ∧ p.Declares key) :
    Linked (fun id' key n => learned id' key n ∧ n ≠ id.toNat)
      { peer with transports, rtpReceivers := peer.rtpReceivers.insert id r' } where
  muxIdOnce := honce
  leadsTo := by
    intro id' t' ht' key n hfind
    by_cases hn : n = id.toNat
    · rw [hn] at hfind ⊢
      obtain ⟨htransport, p, hp, hdeclares⟩ := hown id' t' ht' key hfind
      refine ⟨id, r', p, rfl, ?_, htransport, hp, .inl hdeclares⟩
      rw [Table.find?_insert, if_pos rfl]
    · obtain ⟨t, ht, hkept⟩ := hothers id' t' ht'
      obtain ⟨id'', r, p, hid, hr, htransport, hp, hdeclares⟩ :=
        h.leadsTo id' t ht key n (hkept key n hn hfind)
      have hne : id'' ≠ id := by
        rintro rfl
        exact hn hid
      refine ⟨id'', r, p, hid, ?_, htransport, hp, hdeclares.imp_right fun hl => ⟨hl, hn⟩⟩
      rw [Table.find?_insert, if_neg hne]
      exact hr

/-- A receiver that no listener knows is replaced. -/
theorem Linked.replace_unknown (h : peer.Linked learned) {id : UInt32} (r' : RtpReceiver)
    (hunknown : ∀ id' t, peer.transports.find? id' = some t → ∀ key,
      t.rtpListener.lookup key ≠ some id.toNat) :
    Linked (fun id' key n => learned id' key n ∧ n ≠ id.toNat)
      { peer with rtpReceivers := peer.rtpReceivers.insert id r' } := by
  have hothers : ∀ id' t', peer.transports.find? id' = some t' →
      ∃ t, peer.transports.find? id' = some t ∧ ∀ key n, n ≠ id.toNat →
        t'.rtpListener.lookup key = some n → t.rtpListener.lookup key = some n :=
    fun _ t ht => ⟨t, ht, fun _ _ _ hfind => hfind⟩
  exact h.replace h.muxIdOnce hothers fun id' t ht key hfind => absurd hfind (hunknown id' t ht key)

/-- A receiver is added to the listener of a transport, and no other listener knows it. -/
theorem Linked.add (h : peer.Linked learned) {transportId id : UInt32} {t t' : Transport}
    {r' : RtpReceiver} {p : RtpParameters} (ht : peer.transports.find? transportId = some t)
    (honce : t'.rtpListener.MuxIdOnce) (hothers : OthersKept id.toNat t.rtpListener t'.rtpListener)
    (hdeclared : Declared id.toNat p t'.rtpListener) (htransport : r'.transport = some transportId)
    (hp : r'.rtpParameters = some p)
    (hunknown : ∀ id' t, id' ≠ transportId → peer.transports.find? id' = some t → ∀ key,
      t.rtpListener.lookup key ≠ some id.toNat) :
    Linked (fun id' key n => learned id' key n ∧ n ≠ id.toNat)
      { peer with
        transports := peer.transports.insert transportId t'
        rtpReceivers := peer.rtpReceivers.insert id r' } := by
  refine h.replace (fun id' t'' ht'' => ?_) (fun id' t'' ht'' => ?_) fun id' t'' ht'' key hfind => ?_
  · rw [Table.find?_insert] at ht''
    split at ht''
    case isTrue => cases ht''; exact honce
    case isFalse => exact h.muxIdOnce id' t'' ht''
  · rw [Table.find?_insert] at ht''
    split at ht''
    case isTrue heq =>
      cases ht''
      exact ⟨t, heq ▸ ht, fun key n hn => (hothers.lookup hn key).1⟩
    case isFalse => exact ⟨t'', ht'', fun _ _ _ hfind => hfind⟩
  · rw [Table.find?_insert] at ht''
    split at ht''
    case isTrue heq =>
      cases ht''
      exact ⟨heq ▸ htransport, p, hp, (hdeclared.lookup key).1 hfind⟩
    case isFalse hne => exact absurd hfind (hunknown id' t'' hne ht'' key)

/-- **Everything `AddRtpReceiver` can do** to a linked peer: it throws, and the listener says what it
said, or the receiver's entries are those of the parameters. -/
theorem Linked.addRtpReceiver (h : peer.Linked learned) {transportId : UInt32} {t : Transport}
    (ht : peer.transports.find? transportId = some t) (id : UInt32) (p : RtpParameters) :
    ∃ t', (peer.addRtpReceiver transportId id (some p)).1 =
        { peer with transports := peer.transports.insert transportId t' } ∧
      t'.rtpListener.MuxIdOnce ∧ OthersKept id.toNat t.rtpListener t'.rtpListener ∧
      ((∃ what, (peer.addRtpReceiver transportId id (some p)).2 = msThrow what ∧
          Same t.rtpListener t'.rtpListener) ∨
        (peer.addRtpReceiver transportId id (some p)).2 = .ok () ∧
          Declared id.toNat p t'.rtpListener) := by
  have honce := h.muxIdOnce transportId t ht
  obtain ⟨hresult, hothers⟩ := honce.addRtpReceiver id.toNat p
  have hcall := honce.call (.addRtpReceiver id.toNat p)
  change (t.rtpListener.addRtpReceiver id.toNat p).1.MuxIdOnce at hcall
  rw [Peer.addRtpReceiver, ht]
  dsimp only [Transport.addRtpReceiver]
  cases hadd : t.rtpListener.addRtpReceiver id.toNat p with
  | mk l what =>
      rw [hadd] at hresult hothers hcall
      cases what with
      | some what =>
          rcases hresult with ⟨-, hsame⟩ | ⟨hnone, -⟩
          · exact ⟨{ t with rtpListener := l }, rfl, hcall, hothers, .inl ⟨what, rfl, hsame⟩⟩
          · cases hnone
      | none =>
          rcases hresult with ⟨hsome, -⟩ | ⟨-, hdeclared⟩
          · exact absurd rfl hsome
          · exact ⟨{ t with rtpListener := l }, rfl, hcall, hothers, .inr ⟨rfl, hdeclared⟩⟩

/-- The receiver is known to no listener but that of its own transport. -/
theorem Linked.unknown (h : peer.Linked learned) {rtpReceiverId id : UInt32} {t : Transport}
    {r : RtpReceiver} (hr : peer.rtpReceivers.find? rtpReceiverId = some r) (hne : r.transport ≠ some id)
    (ht : peer.transports.find? id = some t) (key : Key) :
    t.rtpListener.lookup key ≠ some rtpReceiverId.toNat :=
  fun hfind => hne (h.transport_eq ht hr hfind)

/-- New parameters: they are in the listener of the receiver's transport, or something is thrown and
the listeners say what they said. -/
theorem Linked.onRtpReceiverParameters (h : peer.Linked learned) {id : UInt32} {r : RtpReceiver}
    (hr : peer.rtpReceivers.find? id = some r) (given : RtpParameters) :
    Checked.Ends (peer.onRtpReceiverParameters id r given).2
      (fun p => ∀ r', r'.transport = r.transport → r'.rtpParameters = some p →
        Linked (fun id' key n => learned id' key n ∧ n ≠ id.toNat)
          { (peer.onRtpReceiverParameters id r given).1 with
            rtpReceivers := peer.rtpReceivers.insert id r' })
      fun _ => (peer.onRtpReceiverParameters id r given).1.Linked learned := by
  unfold Peer.onRtpReceiverParameters
  dsimp only
  cases given.reduceCodecsAndEncodings (peer.capabilities.getD {}) with
  | error fault => exact h
  | ok p =>
      dsimp only
      cases htransport : r.transport with
      | none =>
          intro r' _ _
          refine h.replace_unknown r' fun id' t ht => h.unknown hr ?_ ht
          rw [htransport]
          exact nofun
      | some transportId =>
          have hunknown : ∀ id' t, id' ≠ transportId → peer.transports.find? id' = some t → ∀ key,
              t.rtpListener.lookup key ≠ some id.toNat := by
            intro id' t hne ht
            refine h.unknown hr ?_ ht
            rw [htransport]
            exact fun heq => hne (Option.some.inj heq).symm
          dsimp only
          cases ht : peer.transports.find? transportId with
          | none =>
              rw [Peer.addRtpReceiver, ht]
              intro r' _ _
              refine h.replace_unknown r' fun id' t ht' => hunknown id' t ?_ ht'
              rintro rfl
              cases ht.symm.trans ht'
          | some t =>
              obtain ⟨t', heq, honce, hothers, ⟨what, hthrown, hsame⟩ | ⟨hok, hdeclared⟩⟩ :=
                h.addRtpReceiver ht id (p.reduceHeaderExtensions (peer.capabilities.getD {}).headerExtensions)
              · rw [hthrown, heq]
                exact h.keeps (keeps_insertTransport ht hsame)
              · rw [hok, heq]
                intro r' htransport' hp'
                exact h.add ht honce hothers hdeclared htransport' hp' hunknown

/-- A receiver with parameters gets a transport: its parameters are in the listener of the transport, or
something is thrown and the listeners say what they said. No other listener may know the receiver. -/
theorem Linked.setTransport (h : peer.Linked learned) {transportId id : UInt32} {t : Transport}
    {r : RtpReceiver} {p : RtpParameters} (hp : r.rtpParameters = some p)
    (ht : peer.transports.find? transportId = some t)
    (hunknown : (peer.addRtpReceiver transportId id (some p)).2 = .ok () → ∀ id' t, id' ≠ transportId →
      peer.transports.find? id' = some t → ∀ key, t.rtpListener.lookup key ≠ some id.toNat) :
    Checked.Ends (peer.addRtpReceiver transportId id (some p)).2
      (fun _ => Linked (fun id' key n => learned id' key n ∧ n ≠ id.toNat)
        { (peer.addRtpReceiver transportId id (some p)).1 with
          rtpReceivers := peer.rtpReceivers.insert id { r with transport := some transportId } })
      fun _ => (peer.addRtpReceiver transportId id (some p)).1.Linked learned := by
  obtain ⟨t', heq, honce, hothers, ⟨what, hthrown, hsame⟩ | ⟨hok, hdeclared⟩⟩ :=
    h.addRtpReceiver ht id p
  · rw [hthrown, heq]
    exact h.keeps (keeps_insertTransport ht hsame)
  · have hmoved : { r with transport := some transportId }.transport = some transportId := rfl
    rw [hok, heq]
    exact h.add ht honce hothers hdeclared hmoved hp (hunknown hok)

/-- A receiver is given another transport than its own, whose listener knows it, and it has parameters
that the listener of the other transport can take: no other receiver has one of their keys there. -/
def Moves (peer : Peer) (rtpReceiverId transportId : UInt32) : Prop :=
  ∃ r previous known t p, peer.rtpReceivers.find? rtpReceiverId = some r ∧
    r.transport = some previous ∧ previous ≠ transportId ∧
    peer.transports.find? previous = some known ∧
    (∃ key, known.rtpListener.lookup key = some rtpReceiverId.toNat) ∧
    peer.transports.find? transportId = some t ∧ r.rtpParameters = some p ∧
    ∀ key n, p.Declares key → t.rtpListener.lookup key = some n → n = rtpReceiverId.toNat

/-- A receiver that does not move is known to no other listener when it is given a transport. -/
theorem Linked.unknown_of_not_moves (h : peer.Linked learned) {transportId id : UInt32} {t : Transport}
    {r : RtpReceiver} {p : RtpParameters} (hr : peer.rtpReceivers.find? id = some r)
    (hp : r.rtpParameters = some p) (ht : peer.transports.find? transportId = some t)
    (hmoves : ¬ peer.Moves id transportId)
    (hok : (peer.addRtpReceiver transportId id (some p)).2 = .ok ()) (id' : UInt32) (t' : Transport)
    (hne : id' ≠ transportId) (ht' : peer.transports.find? id' = some t') (key : Key) :
    t'.rtpListener.lookup key ≠ some id.toNat := by
  intro hfind
  refine hmoves ⟨r, id', t', t, p, hr, h.transport_eq ht' hr hfind, hne, ht', ⟨key, hfind⟩, ht, hp, ?_⟩
  obtain ⟨t₁, -, -, hothers, ⟨what, hthrown, -⟩ | ⟨-, hdeclared⟩⟩ := h.addRtpReceiver ht id p
  · rw [hok] at hthrown
    cases hthrown
  · -- an entry of another receiver would still be there
    intro key' n hdeclares hother
    by_contra hn
    have hkept := (hothers.lookup hn key').2 hother
    rw [(hdeclared.lookup key').2 hdeclares] at hkept
    exact hn (Option.some.inj hkept).symm

/-- The listener that a receiver moves away from still knows it, and it has another transport then. -/
theorem Moves.addRtpReceiver {id transportId : UInt32} (h : peer.Moves id transportId) :
    ∃ r previous known, peer.rtpReceivers.find? id = some r ∧ previous ≠ transportId ∧
      (peer.addRtpReceiver transportId id r.rtpParameters).2 = .ok () ∧
      (peer.addRtpReceiver transportId id r.rtpParameters).1.transports.find? previous = some known ∧
      ∃ key, known.rtpListener.lookup key = some id.toNat := by
  obtain ⟨r, previous, known, t, p, hr, -, hne, hknown, hfind, ht, hp, hfree⟩ := h
  refine ⟨r, previous, known, hr, hne, ?_, ?_, hfind⟩
  · have hnone := RtpListener.addRtpReceiver_none hfree
    rw [hp, Peer.addRtpReceiver, ht]
    dsimp only [Transport.addRtpReceiver]
    split
    case h_1 heq => rw [heq] at hnone; cases hnone
    case h_2 => rfl
  · rw [Peer.addRtpReceiver, ht]
    dsimp only
    rw [Table.find?_insert, if_neg hne]
    exact hknown

/-- What a packet teaches the listener of a transport. -/
def Learns (peer : Peer) (transportId ssrc : UInt32) (payloadType : UInt8) (id : UInt32) (key : Key)
    (n : Nat) : Prop :=
  id = transportId ∧ key = .ssrc ssrc ∧ ∃ t, peer.transports.find? id = some t ∧
    t.rtpListener.ssrcTable.find? ssrc = none ∧ t.rtpListener.ptTable.find? payloadType = some n

/-- A packet is for a receiver that has the payload type, whose SSRC the listener learns. -/
theorem Linked.onRtpPacket (h : peer.Linked learned) (transportId ssrc : UInt32) (payloadType : UInt8) :
    (peer.onRtpPacket transportId ssrc payloadType).Linked
      fun id key n => learned id key n ∨ peer.Learns transportId ssrc payloadType id key n where
  muxIdOnce := by
    intro id t' ht'
    change (peer.transports.modify _ _).find? id = some t' at ht'
    rw [Table.find?_modify] at ht'
    split at ht'
    case isTrue =>
      obtain ⟨t, ht, rfl⟩ := Option.map_eq_some_iff.1 ht'
      exact (h.muxIdOnce id t ht).call (.getRtpReceiver peer.payloadTypesOf ssrc payloadType)
    case isFalse => exact h.muxIdOnce id t' ht'
  leadsTo := by
    intro id t' ht' key n hfind
    have hold : ∀ t, peer.transports.find? id = some t → t.rtpListener.lookup key = some n →
        peer.LeadsTo id n fun p => p.Declares key ∨
          (learned id key n ∨ peer.Learns transportId ssrc payloadType id key n) :=
      fun t ht hfind => (h.leadsTo id t ht key n hfind).mono fun _ hp => hp.imp_right .inl
    change (peer.transports.modify _ _).find? id = some t' at ht'
    rw [Table.find?_modify] at ht'
    split at ht'
    case isFalse => exact hold t' ht' hfind
    case isTrue heq =>
      subst heq
      obtain ⟨t, ht, rfl⟩ := Option.map_eq_some_iff.1 ht'
      change (t.rtpListener.getRtpReceiver peer.payloadTypesOf ssrc payloadType).2.lookup key =
        some n at hfind
      unfold RtpListener.getRtpReceiver at hfind
      split at hfind
      case h_1 => exact hold t ht hfind
      case h_2 hssrc =>
        split at hfind
        case h_2 => exact hold t ht hfind
        case h_1 r hpt =>
          by_cases hkey : key = .ssrc ssrc
          · -- the SSRC is new; the receiver is the one of the payload type
            subst hkey
            change (t.rtpListener.ssrcTable.insert ssrc r).find? ssrc = some n at hfind
            rw [Table.find?_insert, if_pos rfl] at hfind
            cases hfind
            have hleads := h.leadsTo id t ht (.payloadType payloadType) n hpt
            exact hleads.mono fun _ _ => .inr (.inr ⟨rfl, rfl, t, ht, hssrc, hpt⟩)
          · refine hold t ht ?_
            cases key with
            | ssrc ssrc' =>
                change (t.rtpListener.ssrcTable.insert ssrc r).find? ssrc' = some n at hfind
                have hne : ssrc' ≠ ssrc := by
                  rintro rfl
                  exact hkey rfl
                rw [Table.find?_insert, if_neg hne] at hfind
                exact hfind
            | muxId muxId => exact hfind
            | payloadType payloadType' => exact hfind

end Peer

end KoreWebsocket.Rtc
