import KoreWebsocket.Rtc.Links
import KoreWebsocket.Rtc.Media

/-!
# Runs of a room and its listeners

What each handler of a room does to the listeners of the peers. `learn` follows what packets have taught
the listeners: those entries are not put there by `AddRtpReceiver`. `listeners_follow_receivers`: they
are right after every run in which no receiver moves away from a listener that knows it, and a move
breaks them.
-/

namespace KoreWebsocket.Rtc

open Checked (Ends)
open RtpListener (Same OthersKept Declared)

/-- Every peer of the room is linked. -/
def Room.Linked (learned : UInt32 → UInt32 → Key → Nat → Prop) (room : Room) : Prop :=
  ∀ peerId peer, room.peers.find? peerId = some peer → peer.Linked (learned peerId)

/-- The receiver that a request gives new keys, if it is accepted. -/
def Request.rekeys (request : Request) : Option Ref :=
  if request.method = .rtpReceiverReceive ∨ request.method = .rtpReceiverSetTransport then
    (request.id? "peerId").bind fun peerId => (request.id? "rtpReceiverId").map fun id => (peerId, id)
  else none

/-- Only two methods give a receiver new keys. -/
theorem Request.rekeys_eq_none {request : Request} {method : Worker.MethodId}
    (hmethod : request.method = method)
    (hne : ¬ (method = .rtpReceiverReceive ∨ method = .rtpReceiverSetTransport) := by decide) :
    request.rekeys = none := by
  rw [Request.rekeys, hmethod, if_neg hne]

namespace Room

variable {learned learned' : UInt32 → UInt32 → Key → Nat → Prop} {room room' : Room}
  {env : Environment} {request : Request}

/-! ## Changes of a peer -/

/-- One peer is changed: it is enough that this one is linked. -/
theorem Linked.modifyPeer (h : room.Linked learned) {peerId : UInt32} {f : Peer → Peer}
    (hf : ∀ peer, room.peers.find? peerId = some peer → (f peer).Linked (learned peerId)) :
    (room.modifyPeer peerId f).Linked learned := by
  intro peerId' peer' hpeer'
  rw [Room.modifyPeer, Table.find?_modify] at hpeer'
  split at hpeer'
  case isTrue heq =>
    subst heq
    obtain ⟨peer, hpeer, rfl⟩ := Option.map_eq_some_iff.1 hpeer'
    exact hf peer hpeer
  case isFalse => exact h peerId' peer' hpeer'

/-- A change that keeps the receivers where they were keeps the links. -/
theorem Linked.modifyPeer_keeps (h : room.Linked learned) {peerId : UInt32} {f : Peer → Peer}
    (hf : ∀ peer, room.peers.find? peerId = some peer → peer.Keeps (f peer)) :
    (room.modifyPeer peerId f).Linked learned :=
  h.modifyPeer fun peer hpeer => (h peerId peer hpeer).keeps (hf peer hpeer)

/-- A peer is replaced, once it is found. -/
theorem Linked.modifyPeer_const (h : room.Linked learned) {peerId : UInt32} {peer : Peer}
    (hpeer : peer.Linked (learned peerId)) : (room.modifyPeer peerId fun _ => peer).Linked learned :=
  h.modifyPeer fun _ _ => hpeer

/-- The rooms have the same peers. -/
theorem Linked.of_peers (h : room.Linked learned) (hpeers : room'.peers = room.peers) :
    room'.Linked learned := by
  unfold Linked
  rw [hpeers]
  exact h

/-- The links do not depend on the senders. -/
theorem Linked.onlySenders (h : room.Linked learned) (hsame : room.OnlySenders room') :
    room'.Linked learned := by
  intro peerId peer' hpeer'
  have heq := hsame.peers peerId
  rw [hpeer', Option.map_some] at heq
  obtain ⟨peer, hpeer, hmembers⟩ := Option.map_eq_some_iff.1 heq.symm
  have hkeeps : peer.Keeps peer' := by
    rw [Peer.mk.injEq] at hmembers
    obtain ⟨-, -, htransports, hreceivers, -⟩ := hmembers
    refine ⟨fun id t ht => .inr ⟨t, htransports ▸ ht, .refl _⟩, fun id r hr => ⟨r, ?_, rfl, rfl⟩⟩
    rw [← hreceivers]
    exact hr
  exact (h peerId peer hpeer).keeps hkeeps

/-- More is learned in the peers. -/
theorem Linked.mono (h : room.Linked learned)
    (hlearned : ∀ peerId id key n, learned peerId id key n → learned' peerId id key n) :
    room.Linked learned' :=
  fun peerId peer hpeer => (h peerId peer hpeer).mono fun id _ key n _ _ => hlearned peerId id key n

/-! ## Senders -/

/-- A new sender for a receiver is all that is added. -/
theorem onlySenders_addRtpSenderForRtpReceiver {peerId : UInt32} {ref : Ref} {r : RtpReceiver}
    (h : room.addRtpSenderForRtpReceiver env peerId ref r = .ok room') : room.OnlySenders room' := by
  unfold addRtpSenderForRtpReceiver at h
  split at h
  case h_1 =>
    cases h
    exact .refl room
  case h_2 peer hpeer =>
    split at h
    case h_2 => cases h
    case h_1 =>
      dsimp only at h
      split at h
      case isTrue => cases h
      case isFalse =>
        obtain ⟨sent, -, heq⟩ := Checked.bind_eq_ok.1 h
        cases heq
        obtain ⟨hcap, hrtx, hpeers⟩ := onlySenders_modifyPeer room peerId fun peer =>
          peer.rtpSenders.insert (env.rtpSenderIds room.numRtpSenders) sent
        exact ⟨hcap, hrtx, hpeers⟩

/-- The parameters of a sender are its own affair. -/
theorem onlySenders_send {p : RtpParameters} {s : Ref} (h : room.send env p s = .ok room') :
    room.OnlySenders room' := by
  unfold send at h
  split at h
  case h_1 => cases h; exact .refl room
  case h_2 peer hpeer =>
    split at h
    case h_1 => cases h; exact .refl room
    case h_2 sender hsender =>
      obtain ⟨sent, -, heq⟩ := Checked.bind_eq_ok.1 h
      cases heq
      exact onlySenders_modifyPeer room s.1 fun peer => peer.rtpSenders.insert s.2 sent

/-- New parameters of a receiver reach the senders, and nothing else of the peers. -/
theorem onlySenders_onPeerRtpReceiverParameters {ref : Ref} {r : RtpReceiver}
    (h : room.onPeerRtpReceiverParameters env ref r = .ok room') : room.OnlySenders room' := by
  unfold onPeerRtpReceiverParameters at h
  split at h
  case h_1 => cases h
  case h_2 p hp =>
    split at h
    case h_1 =>
      exact Checked.foldlM_inv (I := fun room' => room.OnlySenders room')
        (fun _ _ _ hsame hadd => hsame.trans (onlySenders_addRtpSenderForRtpReceiver hadd))
        h ⟨rfl, rfl, fun _ => rfl⟩
    case h_2 =>
      exact Checked.foldlM_inv (I := fun room' => room.OnlySenders room')
        (fun _ _ _ hsame hsend => hsame.trans (onlySenders_send hsend)) h (.refl room)

/-- The senders that the capabilities of a peer bring leave the links alone. -/
theorem Linked.onPeerCapabilities (h : room.Linked learned) {peerId : UInt32}
    {capabilities : RtpCapabilities}
    (hok : room.onPeerCapabilities env peerId capabilities = .ok room') : room'.Linked learned := by
  unfold Room.onPeerCapabilities at hok
  obtain ⟨reduced, -, hok⟩ := Checked.bind_eq_ok.1 hok
  refine Checked.foldlM_inv (I := fun room' => room'.Linked learned)
    (fun _ _ _ hlinked hadd => hlinked.onlySenders (onlySenders_addRtpSenderForRtpReceiver hadd))
    hok ?_
  exact h.modifyPeer_keeps fun peer _ => Peer.keeps_capabilities _

/-! ## Closing -/

/-- A sender that closes changes the senders of its peer only. -/
theorem onlySenders_closeRtpSender (room : Room) (s : Ref) : room.OnlySenders (room.closeRtpSender s) := by
  obtain ⟨hcap, hrtx, hpeers⟩ := onlySenders_modifyPeer room s.1 fun peer => peer.rtpSenders.erase s.2
  exact ⟨hcap, hrtx, hpeers⟩

/-- Any number of senders close, by induction on their list. -/
theorem onlySenders_closeRtpSenders (senders : List Ref) (room : Room) :
    room.OnlySenders (senders.foldl closeRtpSender room) := by
  induction senders generalizing room with
  | nil => exact .refl room
  | cons s senders ih => exact (onlySenders_closeRtpSender room s).trans (ih _)

/-- A receiver that closes has left the listeners before it leaves the peer. -/
theorem Linked.closeRtpReceiver (h : room.Linked learned) (ref : Ref) :
    (room.closeRtpReceiver ref).Linked learned := by
  have hclosed : (room.modifyPeer ref.1 fun peer => peer.onRtpReceiverClosed ref.2).Linked learned :=
    h.modifyPeer fun peer hpeer => (h ref.1 peer hpeer).onRtpReceiverClosed ref.2
  unfold Room.closeRtpReceiver onPeerRtpReceiverClosed
  split
  case h_1 => exact hclosed
  case h_2 senders _ => exact (hclosed.onlySenders (onlySenders_closeRtpSenders senders _)).of_peers rfl

/-- A transport closes together with its listener. -/
theorem Linked.closeTransport (h : room.Linked learned) (peerId transportId : UInt32) :
    (room.closeTransport peerId transportId).Linked learned :=
  h.modifyPeer fun peer hpeer => (h peerId peer hpeer).onTransportClosed transportId

/-- A loop keeps the links if its body does. -/
theorem Linked.foldl {α : Type} {f : Room → α → Room}
    (hf : ∀ room a, room.Linked learned → (f room a).Linked learned) (as : List α)
    (h : room.Linked learned) : (as.foldl f room).Linked learned := by
  induction as generalizing room with
  | nil => exact h
  | cons a as ih => exact ih (hf room a h)

/-- A peer that closes takes its listeners with it, and its receivers' senders elsewhere. -/
theorem Linked.closePeer (h : room.Linked learned) (peerId : UInt32) :
    (room.closePeer peerId).Linked learned := by
  unfold Room.closePeer
  dsimp only
  have hreceivers := h.foldl (fun room ref h => h.closeRtpReceiver ref) (room.rtpReceiversOf peerId)
  generalize (room.rtpReceiversOf peerId).foldl Room.closeRtpReceiver room = room₁ at hreceivers
  have hsenders := hreceivers.onlySenders (onlySenders_closeRtpSenders (room₁.rtpSendersOf peerId) room₁)
  generalize (room₁.rtpSendersOf peerId).foldl closeRtpSender room₁ = room₂ at hsenders
  have htransports := hsenders.foldl (fun room id h => h.closeTransport peerId id)
    (room₂.transportsOf peerId)
  intro peerId' peer hpeer
  rw [Table.find?_erase] at hpeer
  split at hpeer
  case isTrue => cases hpeer
  case isFalse => exact htransports peerId' peer hpeer

/-- The room closes peer by peer. -/
theorem Linked.destroy (h : room.Linked learned) : room.destroy.Linked learned :=
  h.foldl (fun _ peerId h => h.closePeer peerId) room.peers.keys

/-! ## The handlers -/

/-- What a handler answers and leaves, if it does not end with a fault. -/
def Leaves (P : List Response → Room → Prop) (out : Handled) : Prop :=
  ∀ room', out.2 = .ok room' → P out.1 room'

section
variable {P Q : List Response → Room → Prop}

theorem Leaves.mono {out : Handled} (h : Leaves P out)
    (hPQ : ∀ responses room', P responses room' → Q responses room') : Leaves Q out :=
  fun room' heq => hPQ out.1 room' (h room' heq)

/-- The handler accepts and leaves the room as it is now. -/
theorem leaves_accept {data : Payload} (h : P [.accept data] room) : Leaves P (room.accept data) := by
  intro room' heq
  cases heq
  exact h

/-- The handler rejects and leaves the room as it is now. -/
theorem leaves_reject {reason : String} (h : P [.reject reason] room) :
    Leaves P (room.reject reason) := by
  intro room' heq
  cases heq
  exact h

/-- A handler that ends with a fault leaves no room. -/
theorem leaves_error (responses : List Response) (fault : Fault) :
    Leaves P (responses, .error fault) := by
  intro room' heq
  cases heq

/-- A check that may reject, and the handler behind it. -/
theorem leaves_tryReject {α : Type} {x : Except Fault α} {handler : α → Handled}
    (herror : ∀ fault reason, x = .error fault → P [.reject reason] room)
    (hok : ∀ a, x = .ok a → Leaves P (handler a)) : Leaves P (room.tryReject x handler) := by
  unfold tryReject
  split
  case h_1 a => exact hok a rfl
  case h_2 what => exact leaves_reject (herror _ what rfl)
  case h_3 fault hne => exact leaves_error _ _

end

section
variable {peerId : UInt32} {peer : Peer}

/-- A new peer has no transports and no receivers. -/
theorem linked_createPeer (h : room.Linked learned) :
    Leaves (fun _ => Linked learned) (room.createPeer request) := by
  unfold createPeer
  refine leaves_tryReject (fun _ _ _ => h) fun peerId _ => ?_
  split
  case isTrue => exact leaves_reject h
  case isFalse =>
    split
    case isTrue => exact leaves_reject h
    case isFalse =>
      refine leaves_accept (fun peerId' peer hpeer => ?_)
      rw [Table.find?_insert] at hpeer
      split at hpeer
      case isTrue =>
        cases hpeer
        exact Peer.linked_empty _
      case isFalse => exact h peerId' peer hpeer

/-- The event of the audio levels is a flag of the room. -/
theorem linked_setAudioLevelsEvent (h : room.Linked learned) (data : JsonCpp.Value) :
    Leaves (fun _ => Linked learned) (room.setAudioLevelsEvent data) := by
  unfold setAudioLevelsEvent
  split
  case isTrue => exact leaves_reject h
  case isFalse =>
    split
    case isTrue =>
      intro room' heq
      cases heq
      exact h
    case isFalse =>
      refine leaves_accept ?_
      exact h.of_peers rfl

/-- A new transport has an empty listener. -/
theorem linked_createTransport (h : room.Linked learned) :
    Leaves (fun _ => Linked learned) (room.createTransport env peerId peer request) := by
  unfold createTransport
  refine leaves_tryReject (fun _ _ _ => h) fun transportId _ => ?_
  split
  case isTrue => exact leaves_reject h
  case isFalse =>
    refine leaves_tryReject (fun _ _ _ => h) fun t ht => ?_
    have hempty : t = {} := by
      unfold Transport.create at ht
      split at ht
      case isTrue => cases ht
      case isFalse => exact (Except.ok.inj ht).symm
    subst hempty
    exact leaves_accept (h.modifyPeer_keeps fun peer _ => Peer.keeps_createTransport transportId)

/-- A new receiver has no parameters, so no listener has to know it. -/
theorem linked_createRtpReceiver (h : room.Linked learned)
    (hpeer : room.peers.find? peerId = some peer) :
    Leaves (fun _ => Linked learned) (room.createRtpReceiver peerId peer request) := by
  unfold createRtpReceiver
  split
  case isTrue => exact leaves_reject h
  case isFalse =>
    refine leaves_tryReject (fun _ _ _ => h) fun rtpReceiverId _ => ?_
    split
    case isTrue => exact leaves_reject h
    case isFalse hnew =>
      refine leaves_tryReject (fun _ _ _ => h) fun transportId _ => ?_
      split
      case isTrue => exact leaves_reject h
      case isFalse =>
        split
        case isTrue => exact leaves_error _ _
        case isFalse =>
          refine leaves_tryReject (fun _ _ _ => h) fun kind _ => ?_
          refine leaves_accept (h.modifyPeer_keeps fun peer' hpeer' => ?_)
          obtain rfl := Option.some.inj (hpeer.symm.trans hpeer')
          refine Peer.keeps_insertRtpReceiver fun r hr => ?_
          rw [Option.not_isSome_iff_eq_none.1 hnew] at hr
          cases hr

/-- The capabilities of a peer say nothing about its listeners. -/
theorem linked_setPeerCapabilities (h : room.Linked learned) :
    Leaves (fun _ => Linked learned) (room.setPeerCapabilities env peerId peer request) := by
  unfold setPeerCapabilities
  split
  case isTrue => exact leaves_reject h
  case isFalse =>
    refine leaves_tryReject (fun _ _ _ => h) fun capabilities _ => ?_
    split
    case h_1 => exact leaves_error _ _
    case h_2 room' hok => exact leaves_accept (h.onPeerCapabilities hok)

section
variable {P : List Response → Room → Prop} (h : ∀ reason, P [.reject reason] room)
include h

/-- What a handler of a transport leaves, it has to leave for the transport that the request names. -/
theorem leaves_withTransport {handler : UInt32 → Transport → Handled}
    (hhandler : ∀ transportId t, NamesTransport request peer transportId t →
      Leaves P (handler transportId t)) :
    Leaves P (room.withTransport peer request handler) := by
  unfold withTransport
  refine leaves_tryReject (fun _ reason _ => h reason) fun transportId hid => ?_
  split
  case h_1 => exact leaves_reject (h _)
  case h_2 t ht => exact hhandler transportId t ⟨Request.idFrom_ok hid, ht⟩

/-- What a handler of a receiver leaves, it has to leave for the receiver that the request names. -/
theorem leaves_withRtpReceiver {handler : UInt32 → RtpReceiver → Handled} (hpeer : NamesPeer room request peerId peer)
    (hhandler : ∀ id r, NamesRtpReceiver room request (peerId, id) peer r →
      Leaves P (handler id r)) :
    Leaves P (room.withRtpReceiver peer request handler) := by
  unfold withRtpReceiver
  refine leaves_tryReject (fun _ reason _ => h reason) fun id hid => ?_
  split
  case h_1 => exact leaves_reject (h _)
  case h_2 r hr => exact hhandler id r ⟨hpeer, Request.idFrom_ok hid, hr⟩

/-- What a handler of a sender leaves, it has to leave for each sender. -/
theorem leaves_withRtpSender {handler : UInt32 → RtpSender → Handled}
    (hhandler : ∀ id s, Leaves P (handler id s)) :
    Leaves P (room.withRtpSender peer request handler) := by
  unfold withRtpSender
  refine leaves_tryReject (fun _ reason _ => h reason) fun id _ => ?_
  split
  case h_1 => exact leaves_reject (h _)
  case h_2 s _ => exact hhandler id s

end

/-- The senders of a peer are changed. -/
theorem Linked.modifyPeer_rtpSenders (h : room.Linked learned) (peerId : UInt32)
    (g : Peer → Table UInt32 RtpSender) :
    (room.modifyPeer peerId fun peer => { peer with rtpSenders := g peer }).Linked learned :=
  h.modifyPeer_keeps fun _ _ => Peer.keeps_rtpSenders _

/-- DTLS does not touch the listeners. -/
theorem linked_setRemoteDtlsParameters (h : room.Linked learned) (data : JsonCpp.Value) :
    Leaves (fun _ => Linked learned) (room.setRemoteDtlsParameters data) := by
  unfold setRemoteDtlsParameters
  dsimp only
  split
  · exact leaves_reject h
  · split
    · exact leaves_reject h
    · split
      · exact leaves_reject h
      · have hrole : ∀ role : String, Leaves (fun _ => Linked learned)
            (if role = "client" then room.accept (.object [("role", .string "server")])
            else if role = "server" ∨ role = "auto" then
              room.accept (.object [("role", .string "client")])
            else room.reject "invalid data.role") := by
          intro role
          split
          · exact leaves_accept h
          · split
            · exact leaves_accept h
            · exact leaves_reject h
        exact hrole _

/-- Of the requests to a transport only the one that closes it touches its listener. -/
theorem linked_handleTransportRequest (h : room.Linked learned) {transportId : UInt32} {t : Transport}
    (hpeer : NamesPeer room request peerId peer) (ht : peer.transports.find? transportId = some t) :
    Leaves (fun _ => Linked learned) (room.handleTransportRequest env peerId transportId t request) := by
  have hset : ∀ t' : Transport, t'.rtpListener = t.rtpListener →
      (room.modifyPeer peerId fun peer =>
        { peer with transports := peer.transports.insert transportId t' }).Linked learned := by
    intro t' hsame
    refine h.modifyPeer_keeps fun peer' hpeer' => ?_
    obtain rfl := Option.some.inj (hpeer.peerFound.symm.trans hpeer')
    exact Peer.keeps_insertTransport ht (hsame ▸ .refl _)
  unfold handleTransportRequest
  dsimp only
  split
  case h_1 => exact leaves_accept (h.closeTransport _ _)
  case h_2 => exact leaves_accept h
  case h_3 =>
    split
    · exact leaves_reject h
    · exact linked_setRemoteDtlsParameters (hset { t with remoteDtlsParametersGiven := true } rfl) _
  case h_4 =>
    split
    · exact leaves_reject h
    · refine leaves_accept (hset _ ?_)
      rfl
  case h_5 => exact leaves_accept h
  case h_6 => exact leaves_reject h

/-- A disabled sender is still a sender. -/
theorem linked_disable (h : room.Linked learned) (ref : Ref) (s : RtpSender) (data : JsonCpp.Value) :
    Leaves (fun _ => Linked learned) (room.disable ref s data) := by
  unfold disable
  split
  · exact leaves_reject h
  · dsimp only
    split
    · exact leaves_accept h
    · split
      · exact leaves_error _ _
      · exact leaves_accept (h.modifyPeer_rtpSenders _ _)

/-- The flags of a receiver keep its transport and its parameters. -/
theorem linked_setRtpEvent (h : room.Linked learned) {ref : Ref} {r : RtpReceiver}
    (hr : NamesRtpReceiver room request ref peer r) {set : Bool → RtpReceiver}
    (hset : ∀ enabled, (set enabled).transport = r.transport ∧
      (set enabled).rtpParameters = r.rtpParameters) (data : JsonCpp.Value) :
    Leaves (fun _ => Linked learned) (room.setRtpEvent ref data set) := by
  unfold setRtpEvent
  split
  · exact leaves_reject h
  · refine leaves_accept (h.modifyPeer_keeps fun peer' hpeer' => ?_)
    obtain rfl := Option.some.inj (hr.peerFound.symm.trans hpeer')
    refine Peer.keeps_insertRtpReceiver fun r' hr' => ?_
    obtain rfl := Option.some.inj (hr.receiverFound.symm.trans hr')
    exact hset _

/-! ## New keys -/

/-- What is learned, but of other receivers than this. -/
def Without (ref : Ref) (learned : UInt32 → UInt32 → Key → Nat → Prop) (peerId transportId : UInt32)
    (key : Key) (n : Nat) : Prop :=
  learned peerId transportId key n ∧ ¬ (peerId = ref.1 ∧ n = ref.2.toNat)

/-- The peer of a receiver is replaced and changed, and nothing is learned of the receiver any more. -/
theorem Linked.without (h : room.Linked learned) {ref : Ref} {peer peer' : Peer} {f : Peer → Peer}
    (hpeer : room.peers.find? ref.1 = some peer)
    (hf : (f peer').Linked fun id key n => learned ref.1 id key n ∧ n ≠ ref.2.toNat) :
    ((room.modifyPeer ref.1 fun _ => peer').modifyPeer ref.1 f).Linked (Without ref learned) := by
  intro peerId₁ peer₁ hpeer₁
  change ((room.peers.modify ref.1 _).modify ref.1 f).find? peerId₁ = some peer₁ at hpeer₁
  rw [Table.find?_modify, Table.find?_modify] at hpeer₁
  split at hpeer₁
  case isTrue heq =>
    subst heq
    rw [hpeer] at hpeer₁
    cases hpeer₁
    exact hf.mono fun id _ key n _ _ hlearned => ⟨hlearned.1, fun hn => hlearned.2 hn.2⟩
  case isFalse hne =>
    exact (h peerId₁ peer₁ hpeer₁).mono fun id _ key n _ _ hlearned =>
      ⟨hlearned, fun hn => hne hn.1⟩

/-- The room is linked, and nothing is learned of a receiver that has been given new keys. -/
def Keyed (request : Request) (learned : UInt32 → UInt32 → Key → Nat → Prop) (responses : List Response)
    (room : Room) : Prop :=
  room.Linked learned ∧ ∀ ref data rest, request.rekeys = some ref → responses = .accept data :: rest →
    room.Linked (Without ref learned)

/-- The room is linked, also without what was learned of the receiver that the request names. -/
theorem keyed_accept {ref : Ref} {r : RtpReceiver} (h : room'.Linked (Without ref learned))
    (hr : NamesRtpReceiver room request ref peer r) (responses : List Response) :
    Keyed request learned responses room' := by
  refine ⟨h.mono fun _ _ _ _ hlearned => hlearned.1, fun ref' _ _ hrekeys _ => ?_⟩
  rw [Request.rekeys, hr.peerNamed, hr.receiverNamed] at hrekeys
  split at hrekeys <;> cases hrekeys
  exact h

/-- A rejected request gives no new keys. -/
theorem keyed_reject (h : room.Linked learned) (reason : String) :
    Keyed request learned [.reject reason] room :=
  ⟨h, fun _ _ _ _ heq => nomatch heq⟩

/-- The streams of a receiver are not in the listeners. -/
theorem Linked.createRtpStreams (h : room.Linked learned) {ref : Ref}
    (hok : room.createRtpStreams ref = .ok room') : room'.Linked learned := by
  unfold Room.createRtpStreams at hok
  split at hok
  case h_1 => cases hok; exact h
  case h_2 peer hpeer =>
    obtain ⟨peer', hpeer', heq⟩ := Checked.bind_eq_ok.1 hok
    cases heq
    exact h.modifyPeer_const ((h ref.1 peer hpeer).keeps (Peer.keeps_createRtpStreams hpeer'))

/-- The room tells the senders of the receiver its new parameters. -/
theorem Linked.onRtpReceiverParametersDone (h : room.Linked learned) {ref : Ref} {r : RtpReceiver}
    (hok : room.onRtpReceiverParametersDone env ref r = .ok room') : room'.Linked learned := by
  obtain ⟨room₁, hroom₁, hstreams⟩ := Checked.bind_eq_ok.1 hok
  exact (h.onlySenders (onlySenders_onPeerRtpReceiverParameters hroom₁)).createRtpStreams hstreams

/-- `rtpReceiver.receive`: the receiver's keys are those of its new parameters, once they are accepted. -/
theorem keyed_receive (h : room.Linked learned) {ref : Ref} {r : RtpReceiver}
    (hr : NamesRtpReceiver room request ref peer r) (data : JsonCpp.Value) :
    Leaves (Keyed request learned) (room.receive env ref peer r data) := by
  unfold receive
  refine leaves_tryReject (fun _ reason _ => keyed_reject h reason) fun given _ => ?_
  have hgiven := (h ref.1 peer hr.peerFound).onRtpReceiverParameters hr.receiverFound given
  have hreceivers := peer.onRtpReceiverParameters_rtpReceivers ref.2 r given
  generalize peer.onRtpReceiverParameters ref.2 r given = updated at hgiven hreceivers
  obtain ⟨peer', result⟩ := updated
  dsimp only at hgiven hreceivers ⊢
  refine leaves_tryReject (fun fault reason hfault => ?_) fun p hp room' hdone => ?_
  · exact keyed_reject (h.modifyPeer_const (hgiven.of_error hfault)) reason
  · have hset := hgiven.of_ok hp { r.clearRtpStreams with rtpParameters := some p } rfl rfl
    rw [← hreceivers] at hset
    exact keyed_accept ((h.without hr.peerFound hset).onRtpReceiverParametersDone hdone) hr _

/-- `rtpReceiver.setTransport`, of a receiver that does not move away from a listener that knows it. -/
theorem keyed_setRtpReceiverTransport (h : room.Linked learned) {ref : Ref} {r : RtpReceiver}
    {transportId : UInt32} {t : Transport} (hr : NamesRtpReceiver room request ref peer r)
    (ht : peer.transports.find? transportId = some t) (hmoves : ¬ peer.Moves ref.2 transportId) :
    Leaves (Keyed request learned) (room.setRtpReceiverTransport ref peer r transportId) := by
  have hlinked := h ref.1 peer hr.peerFound
  unfold setRtpReceiverTransport
  cases hp : r.rtpParameters with
  | none =>
      intro room' hok
      rw [Peer.addRtpReceiver, ht] at hok
      cases hok
  | some p =>
      have hset := hlinked.setTransport hp ht (hlinked.unknown_of_not_moves hr.receiverFound hp ht hmoves)
      have hreceivers := peer.addRtpReceiver_rtpReceivers transportId ref.2 (some p)
      generalize peer.addRtpReceiver transportId ref.2 (some p) = updated at hset hreceivers
      obtain ⟨peer', result⟩ := updated
      dsimp only at hset hreceivers ⊢
      refine leaves_tryReject (fun fault reason hfault => ?_) fun _ hok => leaves_accept ?_
      · exact keyed_reject (h.modifyPeer_const (hset.of_error hfault)) reason
      · have hadded := hset.of_ok hok
        rw [← hreceivers] at hadded
        rw [← hp]
        refine keyed_accept (h.without hr.peerFound (hadded.keeps ?_)) hr _
        refine Peer.keeps_transports fun id t' ht' => .inr ?_
        split at ht'
        case isTrue =>
          obtain ⟨t, ht, heq⟩ := Peer.sameListeners_enableRemb _ _ id t' ht'
          exact ⟨t, ht, heq ▸ .refl _⟩
        case isFalse => exact ⟨t', ht', .refl _⟩

/-- A request that gives no keys has only to keep the links. -/
theorem Leaves.keyed {out : Handled} (h : Leaves (fun _ => Linked learned) out)
    (hrekeys : request.rekeys = none) : Leaves (Keyed request learned) out := by
  refine h.mono fun _ _ hlinked => ⟨hlinked, fun ref _ _ hsome _ => ?_⟩
  rw [hrekeys] at hsome
  cases hsome

/-- The requests to a receiver, method by method. -/
theorem keyed_handleRtpReceiverRequest (h : room.Linked learned) {ref : Ref} {r : RtpReceiver}
    (hr : NamesRtpReceiver room request ref peer r) :
    Leaves (Keyed request learned) (room.handleRtpReceiverRequest env ref peer r request) := by
  have hevent : ∀ {set : Bool → RtpReceiver}, (∀ enabled, (set enabled).transport = r.transport ∧
      (set enabled).rtpParameters = r.rtpParameters) → request.rekeys = none →
      Leaves (Keyed request learned) (room.setRtpEvent ref request.data set) :=
    fun hset hrekeys => (linked_setRtpEvent h hr hset request.data).keyed hrekeys
  unfold handleRtpReceiverRequest
  split
  case h_1 hmethod =>
    exact (leaves_accept (h.closeRtpReceiver ref)).keyed (Request.rekeys_eq_none hmethod)
  case h_2 hmethod => exact (leaves_accept h).keyed (Request.rekeys_eq_none hmethod)
  case h_3 => exact keyed_receive h hr request.data
  case h_4 hmethod => exact hevent (fun _ => ⟨rfl, rfl⟩) (Request.rekeys_eq_none hmethod)
  case h_5 hmethod => exact hevent (fun _ => ⟨rfl, rfl⟩) (Request.rekeys_eq_none hmethod)
  case h_6 => exact leaves_reject (keyed_reject h _)

end

/-- A request moves a receiver of a peer. -/
def MovedBy (room : Room) (request : Request) : Prop :=
  request.method = .rtpReceiverSetTransport ∧ ∃ peerId peer rtpReceiverId transportId,
    NamesPeer room request peerId peer ∧ request.id? "rtpReceiverId" = some rtpReceiverId ∧
    request.id? "transportId" = some transportId ∧ peer.Moves rtpReceiverId transportId

/-- The requests to a peer and to what it has. -/
theorem keyed_handlePeerRequest (h : room.Linked learned) {peerId : UInt32} {peer : Peer}
    (hpeer : NamesPeer room request peerId peer) (hmoves : ¬ room.MovedBy request) :
    Leaves (Keyed request learned) (room.handlePeerRequest env peerId peer request) := by
  unfold handlePeerRequest
  split
  case h_1 hmethod =>
    exact (leaves_accept (h.closePeer peerId)).keyed (Request.rekeys_eq_none hmethod)
  case h_2 hmethod => exact (leaves_accept h).keyed (Request.rekeys_eq_none hmethod)
  case h_3 hmethod => exact (linked_setPeerCapabilities h).keyed (Request.rekeys_eq_none hmethod)
  case h_4 hmethod => exact (linked_createTransport h).keyed (Request.rekeys_eq_none hmethod)
  case h_5 hmethod =>
    exact (linked_createRtpReceiver h hpeer.peerFound).keyed (Request.rekeys_eq_none hmethod)
  case h_6 hmethod | h_7 hmethod | h_8 hmethod | h_9 hmethod | h_10 hmethod =>
    exact leaves_withTransport (keyed_reject h) fun transportId t ht =>
      (linked_handleTransportRequest h hpeer ht.found).keyed (Request.rekeys_eq_none hmethod)
  case h_11 | h_12 | h_13 | h_14 | h_15 =>
    exact leaves_withRtpReceiver (keyed_reject h) hpeer fun id r hr =>
      keyed_handleRtpReceiverRequest h hr
  case h_16 hmethod =>
    refine leaves_withRtpReceiver (keyed_reject h) hpeer fun id r hr => ?_
    refine leaves_withTransport (keyed_reject h) fun transportId t ht => ?_
    refine keyed_setRtpReceiverTransport h hr ht.found fun hmoved => hmoves ?_
    exact ⟨hmethod, peerId, peer, id, transportId, hpeer, hr.receiverNamed, ht.named, hmoved⟩
  case h_17 hmethod =>
    exact leaves_withRtpSender (keyed_reject h) fun id s =>
      (leaves_accept h).keyed (Request.rekeys_eq_none hmethod)
  case h_18 hmethod =>
    refine leaves_withRtpSender (keyed_reject h) fun id s => ?_
    refine leaves_withTransport (keyed_reject h) fun transportId t _ => ?_
    exact (leaves_accept (h.modifyPeer_rtpSenders _ _)).keyed (Request.rekeys_eq_none hmethod)
  case h_19 hmethod =>
    exact leaves_withRtpSender (keyed_reject h) fun id s =>
      (linked_disable h _ s request.data).keyed (Request.rekeys_eq_none hmethod)
  case h_20 => exact leaves_reject (keyed_reject h _)

/-- **Every request keeps the listeners right** unless it moves a receiver. -/
theorem keyed_handleRequest (h : room.Linked learned) (hmoves : ¬ room.MovedBy request) :
    Leaves (Keyed request learned) (room.handleRequest env request) := by
  unfold handleRequest
  split
  case h_1 hmethod => exact (leaves_accept h.destroy).keyed (Request.rekeys_eq_none hmethod)
  case h_2 hmethod => exact (leaves_accept h).keyed (Request.rekeys_eq_none hmethod)
  case h_3 hmethod => exact (linked_createPeer h).keyed (Request.rekeys_eq_none hmethod)
  case h_4 hmethod =>
    exact (linked_setAudioLevelsEvent h request.data).keyed (Request.rekeys_eq_none hmethod)
  case h_5 | h_6 | h_7 => exact leaves_reject (keyed_reject h _)
  case h_8 =>
    refine leaves_tryReject (fun _ reason _ => keyed_reject h reason) fun peerId hid => ?_
    split
    case h_1 => exact leaves_reject (keyed_reject h _)
    case h_2 peer hpeer => exact keyed_handlePeerRequest h ⟨Request.idFrom_ok hid, hpeer⟩ hmoves

end Room

/-! ## Runs -/

/-- An entry of the SSRC table that a packet has put there. -/
structure Learned where
  peerId : UInt32
  transportId : UInt32
  ssrc : UInt32
  rtpReceiver : Nat
  deriving DecidableEq

namespace Room

/-- What is learned after an event: a packet with a new SSRC is found by its payload type, or all the
keys of a receiver are put into a listener anew. -/
def learn (room : Room) (learned : List Learned) : RoomEvent → List Learned
  | .request env request =>
      match request.rekeys, (room.handleRequest env request).1 with
      | some ref, .accept _ :: _ =>
          learned.filter fun l => ¬ (l.peerId = ref.1 ∧ l.rtpReceiver = ref.2.toNat)
      | _, _ => learned
  | .transportClosed _ _ => learned
  | .rtpPacket peerId transportId ssrc payloadType =>
      match (room.peers.find? peerId).bind (·.transports.find? transportId) with
      | none => learned
      | some t =>
          match t.rtpListener.ssrcTable.find? ssrc, t.rtpListener.ptTable.find? payloadType with
          | none, some rtpReceiver => { peerId, transportId, ssrc, rtpReceiver } :: learned
          | _, _ => learned

/-- A step of a room, and what has been learned. -/
def learningStep (s : Room × List Learned) (e : RoomEvent) : Option (Room × List Learned) :=
  (s.1.step e).map fun room => (room, s.1.learn s.2 e)

/-- An event moves a receiver from a listener that knows it to another. -/
def Moves (room : Room) : RoomEvent → Prop
  | .request _ request => room.MovedBy request
  | _ => False

/-- The key is an SSRC that has been learned. -/
def learnedBy (learned : List Learned) (peerId transportId : UInt32) (key : Key) (n : Nat) : Prop :=
  ∃ ssrc, key = .ssrc ssrc ∧ { peerId, transportId, ssrc, rtpReceiver := n } ∈ learned

/-- What has been learned stays learned when more is. -/
theorem learnedBy_mono {learned learned' : List Learned} (h : ∀ l ∈ learned, l ∈ learned')
    {peerId transportId : UInt32} {key : Key} {n : Nat}
    (hlearned : learnedBy learned peerId transportId key n) : learnedBy learned' peerId transportId key n := by
  obtain ⟨ssrc, hkey, hmem⟩ := hlearned
  exact ⟨ssrc, hkey, h _ hmem⟩

/-- A packet adds to what was learned and takes nothing away. -/
theorem mem_learn_rtpPacket {room : Room} {learned : List Learned} {peerId transportId ssrc : UInt32}
    {payloadType : UInt8} {l : Learned} (h : l ∈ learned) :
    l ∈ room.learn learned (.rtpPacket peerId transportId ssrc payloadType) := by
  unfold learn
  dsimp only
  split
  · exact h
  · split
    · exact List.mem_cons_of_mem _ h
    · exact h

/-- A packet teaches the listener an SSRC, which is noted as learned. -/
theorem Linked.rtpPacket {room : Room} {learned : List Learned} (h : room.Linked (learnedBy learned))
    {peerId : UInt32} (transportId ssrc : UInt32) (payloadType : UInt8) :
    (room.modifyPeer peerId fun peer => peer.onRtpPacket transportId ssrc payloadType).Linked
      (learnedBy (room.learn learned (.rtpPacket peerId transportId ssrc payloadType))) := by
  have hgrows : room.Linked
      (learnedBy (room.learn learned (.rtpPacket peerId transportId ssrc payloadType))) :=
    h.mono fun _ _ _ _ => learnedBy_mono fun _ => mem_learn_rtpPacket
  refine hgrows.modifyPeer fun peer hpeer => ?_
  have hpacket := (h peerId peer hpeer).onRtpPacket transportId ssrc payloadType
  refine hpacket.mono fun id _ key n _ _ hlearned => ?_
  rcases hlearned with hold | ⟨rfl, rfl, t, ht, hssrc, hpt⟩
  · exact learnedBy_mono (fun _ => mem_learn_rtpPacket) hold
  · refine ⟨ssrc, rfl, ?_⟩
    rw [learn, hpeer, Option.bind_some, ht]
    dsimp only
    rw [hssrc, hpt]
    exact List.mem_cons_self

/-- **One step.** -/
theorem linked_learningStep {s s' : Room × List Learned} {e : RoomEvent}
    (h : s.1.Linked (learnedBy s.2)) (hmoves : ¬ s.1.Moves e) (hstep : learningStep s e = some s') :
    s'.1.Linked (learnedBy s'.2) := by
  obtain ⟨room, learned⟩ := s
  obtain ⟨room', hroom', rfl⟩ := Option.map_eq_some_iff.1 hstep
  dsimp only at h hmoves hroom' ⊢
  cases e with
  | transportClosed peerId transportId =>
      cases hroom'
      exact h.closeTransport peerId transportId
  | rtpPacket peerId transportId ssrc payloadType =>
      cases hroom'
      exact h.rtpPacket transportId ssrc payloadType
  | request env request =>
      have hok : (room.handleRequest env request).2 = .ok room' := by
        change (room.handleRequest env request).2.toOption = some room' at hroom'
        cases hresult : (room.handleRequest env request).2 with
        | error fault => rw [hresult] at hroom'; cases hroom'
        | ok room₁ => rw [hresult] at hroom'; cases hroom'; rfl
      obtain ⟨hlinked, hwithout⟩ := keyed_handleRequest h hmoves room' hok
      unfold learn
      dsimp only
      split
      case h_1 ref data rest hrekeys hresponses =>
        refine (hwithout ref data rest hrekeys hresponses).mono fun peerId id key n hlearned => ?_
        obtain ⟨⟨ssrc, hkey, hmem⟩, hother⟩ := hlearned
        exact ⟨ssrc, hkey, List.mem_filter.2 ⟨hmem, decide_eq_true hother⟩⟩
      case h_2 => exact hlinked

/-- **A move is never right**: the listener that the receiver leaves still has its entries. -/
theorem not_linked_of_moves {room : Room} {e : RoomEvent} (h : room.Moves e) :
    ∃ room', room.step e = some room' ∧ ∀ learned, ¬ room'.Linked learned := by
  cases e with
  | transportClosed => cases h
  | rtpPacket => cases h
  | request env request =>
      obtain ⟨hmethod, peerId, peer, id, transportId, hpeer, hid, htransportId, hmoves⟩ := h
      obtain ⟨r, previous, known, hr, hne, hok, hknown, key, hfind⟩ := hmoves.addRtpReceiver
      obtain ⟨-, -, -, t, -, -, -, -, -, -, ht, -⟩ := hmoves
      have hnames : NamesRtpReceiver room request (peerId, id) peer r := ⟨hpeer, hid, hr⟩
      have hhandle : room.handleRequest env request =
          room.setRtpReceiverTransport (peerId, id) peer r transportId := by
        rw [handleRequest_peer hpeer (.inr (.inr (.inr hmethod))), handlePeerRequest, hmethod]
        dsimp only
        rw [withRtpReceiver_eq hnames, withTransport_eq ⟨htransportId, ht⟩]
      change ∃ room', (room.handleRequest env request).2.toOption = some room' ∧ _
      rw [hhandle, setRtpReceiverTransport]
      generalize peer.addRtpReceiver transportId id r.rtpParameters = updated at hok hknown ⊢
      obtain ⟨peer', result⟩ := updated
      dsimp only at hok hknown ⊢
      rw [hok, tryReject_ok]
      refine ⟨_, rfl, fun learned hlinked => ?_⟩
      have hfound := find?_modifyPeer (f := fun _ => peer') hpeer.peerFound
      have hleads := (hlinked peerId _ (find?_modifyPeer hfound)).leadsTo previous known ?_ key _ hfind
      · obtain ⟨id', r', p, hid', hr', htransport, -⟩ := hleads
        obtain rfl := UInt32.toNat_inj.1 hid'
        dsimp only at hr'
        rw [Table.find?_insert, if_pos rfl] at hr'
        cases hr'
        exact hne (Option.some.inj htransport).symm
      · split
        case isTrue =>
          rw [Table.find?_modify, if_neg hne]
          exact hknown
        case isFalse => exact hknown

/-- A new room has no peers. -/
theorem linked_create {roomId : UInt32} {data : JsonCpp.Value} {room : Room}
    (h : Room.create roomId data = .ok room) (learned : UInt32 → UInt32 → Key → Nat → Prop) :
    room.Linked learned := by
  intro peerId peer hpeer
  rw [(create_ok h).1] at hpeer
  cases hpeer

/-- **The listeners follow the receivers** in every run in which no receiver moves: every entry, unless
it is an SSRC that a packet has put there, leads to a receiver of the peer whose transport this is and
whose parameters declare the key. -/
theorem listeners_follow_receivers {roomId : UInt32} {data : JsonCpp.Value} {room room' : Room}
    {learned : List Learned} {events : List RoomEvent} (hcreate : Room.create roomId data = .ok room)
    (hmoves : Machine.Meets learningStep (fun s e => ¬ s.1.Moves e) (room, []) events)
    (h : Machine.exec learningStep (room, []) events = some (room', learned))
    {peerId transportId : UInt32} {peer : Peer} {t : Transport} {key : Key} {rtpReceiver : Nat}
    (hpeer : room'.peers.find? peerId = some peer) (ht : peer.transports.find? transportId = some t)
    (hfind : t.rtpListener.lookup key = some rtpReceiver)
    (hput : ¬ learnedBy learned peerId transportId key rtpReceiver) :
    peer.LeadsTo transportId rtpReceiver fun p => p.Declares key := by
  have hlinked : room'.Linked (learnedBy learned) :=
    Machine.exec_inv_of_meets (fun _ _ _ hI hC hs => linked_learningStep hI hC hs)
      hmoves h (linked_create hcreate _)
  exact ((hlinked peerId peer hpeer).leadsTo transportId t ht key rtpReceiver hfind).mono
    fun p hp => hp.resolve_right hput

/-- The first peer receives VP8 with an SSRC. -/
def received : List RoomEvent :=
  onePeer ++
    [numberedRequest .rtpReceiverReceive [("peerId", .int 1), ("rtpReceiverId", .int 5)]
      [("codecs", .array [vp8]), ("encodings", .array [.object [("ssrc", .int 1111)]])]]

/-- Then its receiver gets a second transport. -/
def moved : List RoomEvent :=
  received ++
    [numberedRequest .peerCreateTransport [("peerId", .int 1), ("transportId", .int 8)] [],
      numberedRequest .rtpReceiverSetTransport
        [("peerId", .int 1), ("rtpReceiverId", .int 5), ("transportId", .int 8)] []]

/-- The listener of transport 7 knows the SSRC, which was not learned, and the receiver of the peer has
this transport. -/
def ssrcKnown (transport : UInt32) (s : Room × List Learned) : Bool :=
  (s.1.peers.find? 1).any fun peer =>
    (peer.transports.find? 7).any fun t =>
      t.rtpListener.lookup (.ssrc 1111) = some 5 && s.2 = [] &&
        (peer.rtpReceivers.find? 5).any fun r => r.transport = some transport

/-- A run in a new room with VP8 that ends so. -/
theorem exists_learning_run (transport : UInt32) (events : List RoomEvent)
    (h : ((Room.create 1 (.object [("mediaCodecs", .array [vp8])])).toOption.any fun room =>
      (Machine.exec learningStep (room, []) events).any (ssrcKnown transport)) = true) :
    ∃ room room' peer t r, Room.create 1 (.object [("mediaCodecs", .array [vp8])]) = .ok room ∧
      Machine.exec learningStep (room, []) events = some (room', []) ∧
      room'.peers.find? 1 = some peer ∧ peer.transports.find? 7 = some t ∧
      t.rtpListener.lookup (.ssrc 1111) = some 5 ∧ peer.rtpReceivers.find? 5 = some r ∧
      r.transport = some transport := by
  obtain ⟨room, hroom, hrun⟩ := (Option.any_eq_true _ _).1 h
  obtain ⟨⟨room', learned⟩, hexec, hknown⟩ := (Option.any_eq_true _ _).1 hrun
  obtain ⟨peer, hpeer, hknown⟩ := (Option.any_eq_true _ _).1 hknown
  obtain ⟨t, ht, hknown⟩ := (Option.any_eq_true _ _).1 hknown
  simp only [Bool.and_eq_true, decide_eq_true_eq] at hknown
  obtain ⟨⟨hfind, hlearned⟩, hr⟩ := hknown
  obtain ⟨r, hr, htransport⟩ := (Option.any_eq_true _ _).1 hr
  subst hlearned
  refine ⟨room, room', peer, t, r, ?_, hexec, hpeer, ht, hfind, hr, of_decide_eq_true htransport⟩
  cases hcreate : Room.create 1 (.object [("mediaCodecs", .array [vp8])]) with
  | error fault => rw [hcreate] at hroom; cases hroom
  | ok room₁ => rw [hcreate] at hroom; cases hroom; rfl

/-- A transport, a receiver on it and its parameters: the listener leads to the receiver that declares the
SSRC. -/
theorem listeners_follow_receivers_received : ∃ room room' peer t,
    Room.create 1 (.object [("mediaCodecs", .array [vp8])]) = .ok room ∧
      Machine.exec learningStep (room, []) received = some (room', []) ∧
      room'.peers.find? 1 = some peer ∧ peer.transports.find? 7 = some t ∧
      t.rtpListener.lookup (.ssrc 1111) = some 5 ∧
      peer.LeadsTo 7 5 fun p => p.Declares (.ssrc 1111) := by
  obtain ⟨room, room', peer, t, r, hcreate, hexec, hpeer, ht, hfind, -⟩ :=
    exists_learning_run 7 received (by decide +kernel)
  have hmoves : Machine.Meets learningStep (fun s e => ¬ s.1.Moves e) (room, []) received := by
    refine Machine.meets_of_forall (fun e he s hmoves => ?_) _
    rw [received, onePeer] at he
    simp only [List.cons_append, List.nil_append, List.mem_cons, List.not_mem_nil, or_false] at he
    rcases he with rfl | rfl | rfl | rfl | rfl <;> cases hmoves.1
  refine ⟨room, room', peer, t, hcreate, hexec, hpeer, ht, hfind, ?_⟩
  exact listeners_follow_receivers hcreate hmoves hexec hpeer ht hfind
    fun ⟨_, _, hmem⟩ => List.not_mem_nil hmem

/-- **A receiver that moves is not removed from the listener that it leaves**: `setTransport` adds it to
the listener of the new transport only. -/
theorem setTransport_keeps_entry : ∃ room room' peer t,
    Room.create 1 (.object [("mediaCodecs", .array [vp8])]) = .ok room ∧
      Machine.exec learningStep (room, []) moved = some (room', []) ∧
      room'.peers.find? 1 = some peer ∧ peer.transports.find? 7 = some t ∧
      t.rtpListener.lookup (.ssrc 1111) = some 5 ∧
      ¬ peer.LeadsTo 7 5 fun p => p.Declares (.ssrc 1111) := by
  obtain ⟨room, room', peer, t, r, hcreate, hexec, hpeer, ht, hfind, hr, htransport⟩ :=
    exists_learning_run 8 moved (by decide +kernel)
  refine ⟨room, room', peer, t, hcreate, hexec, hpeer, ht, hfind, ?_⟩
  rintro ⟨id, r', p, hid, hr', htransport', -⟩
  obtain rfl : (5 : UInt32) = id := UInt32.toNat_inj.1 hid
  cases hr.symm.trans hr'
  rw [htransport] at htransport'
  exact absurd htransport' (by decide)

end Room

end KoreWebsocket.Rtc
