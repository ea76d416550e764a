import KoreWebsocket.Dtls.Invariant
import KoreWebsocket.Lib.Machine
import KoreWebsocket.Stun.Authentication

/-!
# What a transport sends and accepts (`RTC::Transport`, `mediasoup_1/soup`)

`Handles` says of one event which outputs it adds (`Allowed`) and where the tuples, the fingerprint and the
handshakes that it leaves behind come from; `handle_spec` proves it for every event. Over a whole run these
become histories (`Traced`): each has an event of the run as its origin.
-/

namespace KoreWebsocket.Dtls

open Ice (IceServer IceState Tuple)
open Stun (Crypto)

variable {σ : Type} {lib : LibSrtp σ}

namespace Transport

/-- Media is sent to the selected tuple, which is stored, and protected with the local key of a handshake
that was verified. -/
structure Sends (t : Transport lib) (tuple : Tuple) (s : SrtpSession lib) : Prop where
  selected : ∃ node, t.ice.selectedTuple = some node ∧ (node, tuple) ∈ t.ice.tuples
  session : t.srtpSendSession = some s
  verified : s.Verified .outbound t.dtls.remoteFingerprint

/-- Media is accepted from a stored tuple while DTLS is connected, and was protected with the remote key of a
handshake that was verified. -/
structure Accepts (t : Transport lib) (tuple : Tuple) (s : SrtpSession lib) : Prop where
  stored : ∃ storedTuple ∈ t.ice.tuples, storedTuple.2.compare tuple = true
  connected : t.dtls.state = .connected
  session : t.srtpRecvSession = some s
  verified : s.Verified .inbound t.dtls.remoteFingerprint

/-- A packet from the tuple is a request that is authenticated with the credentials of the transport. -/
def Admits (c : Crypto) (t : Transport lib) (e : Event) (env : Env) (tuple : Tuple) : Prop :=
  ∃ data msg, e = .onPacketRecv tuple data ∧ Stun.parse c data = .ok (some msg) ∧
    t.ice.Authenticated c msg env.overread

end Transport

/-- The request has the fingerprint. -/
def Event.Announces (e : Event) (fingerprint : Fingerprint) : Prop :=
  ∃ data role, e = .handleRequest (.setRemoteDtlsParameters data) ∧
    Transport.remoteDtlsParameters data = .ok (fingerprint, role)

/-- What an event may add to the outputs of a transport, with the ICE server after it. -/
def Output.Allowed (t : Transport lib) (e : Event) (env : Env) (ice : IceServer) :
    Output lib → Prop
  | .stun _ tuple => ∃ data, e = .onPacketRecv tuple data ∧ Rtc.onPacketRecv data = .stun
  | .dtls tuple data =>
      data = env.outgoing ∧ ∃ node, ice.selectedTuple = some node ∧ (node, tuple) ∈ ice.tuples
  | .srtp tuple s plain data =>
      e = .sendRtpPacket plain ∧ t.Sends tuple s ∧ (lib.protect s.session plain).1 = some data
  | .srtcp tuple s plain data =>
      e = .sendRtcpPacket plain ∧ t.Sends tuple s ∧ (lib.protectRtcp s.session plain).1 = some data
  | .receiveRtpPacket tuple s data plain _ =>
      e = .onPacketRecv tuple data ∧ t.Accepts tuple s ∧ (lib.unprotect s.session data).1 = some plain
  | .onTransportRtcpPacket tuple s data plain =>
      e = .onPacketRecv tuple data ∧ t.Accepts tuple s ∧ (lib.unprotectRtcp s.session data).1 = some plain
  | _ => True

namespace Transport

variable {c : Crypto} {env : Env} {t t' t'' : Transport lib} {e : Event}

/-- What an event does with an open transport. -/
structure Handles (c : Crypto) (t : Transport lib) (e : Event) (env : Env)
    (t' : Transport lib) : Prop where
  state : t'.Open ∨ t'.Ended
  log : ∃ outs, t'.log = outs ++ t.log ∧ ∀ o ∈ outs, o.Allowed t e env t'.ice
  tuples : ∀ storedTuple ∈ t'.ice.tuples, storedTuple ∈ t.ice.tuples ∨ t.Admits c e env storedTuple.2
  fingerprint : ∀ fingerprint, t'.dtls.remoteFingerprint = some fingerprint →
    t.dtls.remoteFingerprint = some fingerprint ∨ e.Announces fingerprint
  handshakes : ∀ h ∈ t'.handshakes, h ∈ t.handshakes ∨ h.From env
  connections : ∀ connection ∈ t.connections, connection ∈ t'.connections ∨ ∃ peerAddress isClosedByPeer,
    e = .onRtcTcpConnectionClosed connection peerAddress isClosedByPeer ∧ (isClosedByPeer = true →
      ∀ storedTuple ∈ t'.ice.tuples, storedTuple.2.compare (.tcp connection peerAddress) = false)

/-- Signals are always allowed. -/
theorem allowed_of_signal {o : Output lib} {ice : IceServer} (h : o.Signal env ice) :
    o.Allowed t e env ice := by
  cases o with
  | dtls => exact h
  | stun | srtp | srtcp | receiveRtpPacket | onTransportRtcpPacket => exact h.elim
  | _ => trivial

/-- Signals are added, and nothing comes in. -/
theorem Signals.handles (h : t.Signals env t') (hstate : t'.Open ∨ t'.Ended) :
    t.Handles c e env t' where
  state := hstate
  log := by
    obtain ⟨outs, hlog, houts⟩ := h.log
    refine ⟨outs, hlog, fun o ho => allowed_of_signal ?_⟩
    rw [h.ice]
    exact houts o ho
  tuples storedTuple hmem := .inl (h.ice ▸ hmem)
  fingerprint fingerprint heq := .inl (h.remoteFingerprint ▸ heq)
  handshakes := h.handshakes
  connections connection hmem := .inl (h.connections ▸ hmem)

/-- To go on is one way to handle an event. -/
theorem Goes.handles (h : t.Goes env t') : t.Handles c e env t' :=
  h.signals.handles (h.state.imp_left And.left)

/-- One more output is added. -/
theorem Handles.output (h : t.Handles c e env t') {o : Output lib} (ho : (t'.output o).Open)
    (hallowed : o.Allowed t e env t'.ice) : t.Handles c e env (t'.output o) where
  state := .inl ho
  log := by
    obtain ⟨outs, hlog, houts⟩ := h.log
    exact ⟨o :: outs, congrArg (o :: ·) hlog, List.forall_mem_cons.2 ⟨hallowed, houts⟩⟩
  tuples := h.tuples
  fingerprint := h.fingerprint
  handshakes := h.handshakes
  connections := h.connections

variable {ice : IceServer} {tuple : Tuple} {msgs : List Stun.Message} {data : List UInt8}

/-- The ICE server is heard. -/
theorem Hears.handles (h : t.Hears tuple msgs env ice t')
    (hmsgs : msgs = [] ∨ ∃ data, e = .onPacketRecv tuple data ∧ Rtc.onPacketRecv data = .stun)
    (htuples : ∀ storedTuple ∈ ice.tuples,
      storedTuple ∈ t.ice.tuples ∨ t.Admits c e env storedTuple.2) :
    t.Handles c e env t' where
  state := h.state
  log := by
    obtain ⟨outs, hlog, houts⟩ := h.log
    refine ⟨outs, hlog, fun o ho => ?_⟩
    rw [h.iceServer]
    rcases houts o ho with ⟨msg, hmsg, rfl⟩ | hsignal
    · exact hmsgs.resolve_left (List.ne_nil_of_mem hmsg)
    · exact allowed_of_signal hsignal
  tuples := by
    rw [h.iceServer]
    exact htuples
  fingerprint fingerprint heq := .inl (h.remoteFingerprint ▸ heq)
  handshakes := h.handshakes
  connections connection hmem := .inl (h.connections ▸ hmem)

/-- The ICE server is heard, and then the DTLS transport goes on. -/
theorem Hears.goes (h : t.Hears tuple msgs env ice t') (hgoes : t'.Goes env t'') :
    t.Hears tuple msgs env ice t'' where
  log := by
    obtain ⟨outs, hlog, houts⟩ := h.log
    obtain ⟨outs', hlog', houts'⟩ := hgoes.signals.log
    refine ⟨outs' ++ outs, by rw [hlog', hlog, List.append_assoc], fun o ho => ?_⟩
    rcases List.mem_append.1 ho with ho | ho
    · have hsignal := houts' o ho
      rw [h.iceServer] at hsignal
      exact .inr hsignal
    · exact houts o ho
  iceServer := hgoes.signals.ice.trans h.iceServer
  connections := hgoes.signals.connections.trans h.connections
  remoteFingerprint := hgoes.signals.remoteFingerprint.trans h.remoteFingerprint
  remoteBitrateEstimator := hgoes.signals.remoteBitrateEstimator.trans h.remoteBitrateEstimator
  handshakes handshake hmem := (hgoes.signals.handshakes handshake hmem).elim (h.handshakes handshake) .inr
  state := hgoes.state.imp_left And.left

/-- What is done with the ICE server is done once it has not failed. -/
theorem withIce_eq {x : Except Bytes.Fault IceServer} (h : t.withIce env x = .ok t') :
    ∃ ice, x = .ok ice := by
  cases x with
  | error fault => cases h
  | ok ice => exact ⟨ice, rfl⟩

/-! ## Packets -/

/-- The selected tuple is forced. -/
theorem Open.force (ho : t.Open) (h : t.withIce env (t.ice.forceSelectedTuple tuple) = .ok t') :
    ∃ ice, t.Hears tuple [] env ice t' ∧ ice.tuples = t.ice.tuples ∧ t'.Open ∧ t'.dtls = t.dtls := by
  obtain ⟨ice, hice⟩ := withIce_eq h
  rw [hice] at h
  have htuples := IceServer.forceSelectedTuple_tuples hice
  obtain ⟨hhears, hopen⟩ := ho.withIce (ho.ice.of_forceSelectedTuple hice)
    (IceServer.forceSelectedTuple_tells hice) (fun _ hmem => .inl (htuples ▸ hmem)) h
  exact ⟨ice, hhears, htuples, hopen (IceServer.forceSelectedTuple_state hice)⟩

/-- A STUN packet is handled by the ICE server. -/
theorem Open.onStunDataRecv (ho : t.Open) (hstun : Rtc.onPacketRecv data = .stun)
    (h : t.onStunDataRecv env c tuple data = .ok t') :
    t.Handles c (.onPacketRecv tuple data) env t' := by
  unfold Transport.onStunDataRecv at h
  obtain ⟨parsed, hparsed, h⟩ := Checked.bind_eq_ok.1 h
  cases parsed with
  | none =>
      cases h
      exact ho.goes.handles
  | some msg =>
      obtain ⟨ice, hice⟩ := withIce_eq h
      dsimp only at h
      rw [hice] at h
      obtain ⟨msgs, -, htells⟩ := IceServer.processStunMessage_tells hice
      have htuples := IceServer.processStunMessage_tuples hice
      have hhears := (ho.withIce (ho.ice.of_processStunMessage hice) htells
        (fun storedTuple hmem => (htuples storedTuple hmem).imp_right
          fun hnew => congrArg Prod.fst hnew.1) h).1
      refine hhears.handles (.inr ⟨data, rfl, hstun⟩) fun storedTuple hmem => ?_
      rcases htuples storedTuple hmem with hmem | ⟨rfl, hauth⟩
      · exact .inl hmem
      · refine .inr ⟨data, msg, rfl, ?_, hauth⟩
        cases hparse : Stun.parse c data with
        | error fault =>
            rw [hparse] at hparsed
            cases hparsed
        | ok found =>
            rw [hparse] at hparsed
            cases hparsed
            rfl

/-- A DTLS packet from a valid tuple goes to OpenSSL, another is ignored. -/
theorem Open.onDtlsDataRecv (ho : t.Open) (h : t.onDtlsDataRecv env tuple = .ok t') :
    t.Handles c (.onPacketRecv tuple data) env t' := by
  unfold Transport.onDtlsDataRecv at h
  obtain ⟨valid, -, h⟩ := Checked.bind_eq_ok.1 h
  cases valid with
  | false =>
      cases h
      exact ho.goes.handles
  | true =>
      rw [if_pos rfl] at h
      obtain ⟨t₁, h₁, h⟩ := Checked.bind_eq_ok.1 h
      obtain ⟨ice, hhears, htuples, ho₁, -⟩ := ho.force h₁
      have hstored : ∀ storedTuple ∈ ice.tuples, storedTuple ∈ t.ice.tuples ∨
          t.Admits c (.onPacketRecv tuple data) env storedTuple.2 := fun _ hmem => .inl (htuples ▸ hmem)
      split at h
      · exact (hhears.goes (ho₁.processDtlsData h)).handles (.inl rfl) hstored
      · cases h
        exact hhears.handles (.inl rfl) hstored

/-- What is decrypted comes from a stored tuple. -/
theorem Open.recvSession (ho : t.Open) {s : SrtpSession lib} (h : t.recvSession tuple = .ok (some s)) :
    t.Accepts tuple s := by
  unfold Transport.recvSession at h
  split at h
  case isFalse => cases h
  case isTrue hconnected =>
    split at h
    · cases h
    case h_2 s' hs =>
      obtain ⟨valid, hvalid, h⟩ := Checked.bind_eq_ok.1 h
      cases valid with
      | false => cases h
      | true =>
          cases h
          refine ⟨IceServer.exists_of_isValidTuple ?_, hconnected, hs, ho.recv s hs⟩
          unfold isValidTuple at hvalid
          cases hice : t.ice.isValidTuple tuple with
          | error fault =>
              rw [hice] at hvalid
              cases hvalid
          | ok valid =>
              rw [hice] at hvalid
              cases hvalid
              rfl

/-- The session has changed with a packet. -/
theorem Open.recv_session (ho : t.Open) {s s' : SrtpSession lib} (hs : t.srtpRecvSession = some s)
    (hsame : s.SameKey s') (rtpListener : Rtc.RtpListener) :
    Open { t with srtpRecvSession := some s', rtpListener } ∧
      handshakes { t with srtpRecvSession := some s', rtpListener } = t.handshakes := by
  refine ⟨{ ho with
    told := ho.told
    recv := ?_ }, ?_⟩
  · intro s₁ hs₁
    cases hs₁
    exact (ho.recv s hs).of_sameKey hsame
  · rw [handshakes, handshakes, hs, List.map_append, List.map_append]
    change _ ++ [s'.handshake] = _ ++ [s.handshake]
    rw [hsame.handshake]

/-- The session has changed with a packet. -/
theorem Open.send_session (ho : t.Open) {s s' : SrtpSession lib} (hs : t.srtpSendSession = some s)
    (hsame : s.SameKey s') :
    Open { t with srtpSendSession := some s' } ∧
      handshakes { t with srtpSendSession := some s' } = t.handshakes := by
  refine ⟨{ ho with
    told := ho.told
    send := ?_ }, ?_⟩
  · intro s₁ hs₁
    cases hs₁
    exact (ho.send s hs).of_sameKey hsame
  · rw [handshakes, handshakes, hs, List.map_append, List.map_append]
    change [s'.handshake] ++ _ = [s.handshake] ++ _
    rw [hsame.handshake]

/-- An RTCP packet from a valid tuple is decrypted and handed on. -/
theorem Open.onRtcpDataRecv (ho : t.Open) (h : t.onRtcpDataRecv tuple data = .ok t') :
    t.Handles c (.onPacketRecv tuple data) env t' := by
  unfold Transport.onRtcpDataRecv at h
  obtain ⟨session, hsession, h⟩ := Checked.bind_eq_ok.1 h
  cases session with
  | none =>
      cases h
      exact ho.goes.handles
  | some s =>
      have haccepts := ho.recvSession hsession
      obtain ⟨ho', hsame⟩ :=
        ho.recv_session haccepts.session (s.decrypt_sameKey lib.keeps_unprotectRtcp data) t.rtpListener
      have hchanged : t.Signals env
          { t with srtpRecvSession := some (s.decrypt lib.keeps_unprotectRtcp data).2 } :=
        { Signals.refl t env with handshakes := fun _ hmem => .inl (hsame ▸ hmem) }
      dsimp only [SrtpSession.decrypt] at h
      split at h
      · cases h
        exact hchanged.handles (.inl ho')
      case h_2 plain hplain =>
        obtain ⟨packets, -, h⟩ := Checked.bind_eq_ok.1 h
        cases packets with
        | nil =>
            cases h
            exact hchanged.handles (.inl ho')
        | cons =>
            cases h
            refine (hchanged.handles (.inl ho')).output { ho' with told := ?_ } ⟨rfl, haccepts, hplain⟩
            exact ho'.told.of_outs [.onTransportRtcpPacket tuple s data plain] rfl rfl

/-- An RTP packet from a valid tuple is decrypted and handed on. -/
theorem Open.onRtpDataRecv (ho : t.Open) (h : t.onRtpDataRecv env tuple data = .ok t') :
    t.Handles c (.onPacketRecv tuple data) env t' := by
  unfold Transport.onRtpDataRecv at h
  obtain ⟨session, hsession, h⟩ := Checked.bind_eq_ok.1 h
  cases session with
  | none =>
      cases h
      exact ho.goes.handles
  | some s =>
      have haccepts := ho.recvSession hsession
      have hchanged : ∀ rtpListener : Rtc.RtpListener, t.Signals env { t with
          srtpRecvSession := some (s.decrypt lib.keeps_unprotect data).2, rtpListener } :=
        fun rtpListener =>
          { Signals.refl t env with
            handshakes := fun _ hmem =>
              .inl ((ho.recv_session haccepts.session (s.decrypt_sameKey _ data) rtpListener).2 ▸ hmem) }
      have ho' := fun rtpListener =>
        (ho.recv_session haccepts.session (s.decrypt_sameKey lib.keeps_unprotect data) rtpListener).1
      dsimp only [SrtpSession.decrypt] at h
      split at h
      · obtain ⟨-, -, h⟩ := Checked.bind_eq_ok.1 h
        cases h
        exact (hchanged t.rtpListener).handles (.inl (ho' t.rtpListener))
      case h_2 plain hplain =>
        obtain ⟨parsed, -, h⟩ := Checked.bind_eq_ok.1 h
        cases parsed with
        | none =>
            cases h
            exact (hchanged t.rtpListener).handles (.inl (ho' t.rtpListener))
        | some packet =>
            dsimp only at h
            revert h
            generalize t.rtpListener.getRtpReceiver env.codecs packet.getSsrc packet.getPayloadType =
              found
            intro h
            obtain ⟨rtpReceiver, rtpListener⟩ := found
            cases rtpReceiver with
            | none =>
                cases h
                exact (hchanged rtpListener).handles (.inl (ho' rtpListener))
            | some rtpReceiver =>
                obtain ⟨t₁, h₁, h⟩ := Checked.bind_eq_ok.1 h
                obtain ⟨-, -, h⟩ := Checked.bind_eq_ok.1 h
                cases h
                obtain ⟨ice, hhears, htuples, ho₁, -⟩ := (ho' rtpListener).force h₁
                have hhears' : t.Hears tuple [] env ice t₁ :=
                  { hhears with
                    handshakes := fun handshake hmem =>
                      (hhears.handshakes handshake hmem).elim ((hchanged rtpListener).handshakes handshake)
                        .inr }
                refine (hhears'.handles (.inl rfl) fun _ hmem => .inl (htuples ▸ hmem)).output
                  { ho₁ with told := ?_ } ⟨rfl, haccepts, hplain⟩
                exact ho₁.told.of_outs [.receiveRtpPacket tuple s data plain rtpReceiver] rfl rfl

/-- `Transport::OnPacketRecv`. -/
theorem Open.onPacketRecv (ho : t.Open) (h : t.onPacketRecv env c tuple data = .ok t') :
    t.Handles c (.onPacketRecv tuple data) env t' := by
  unfold Transport.onPacketRecv at h
  cases hkind : Rtc.onPacketRecv data with
  | stun => rw [hkind] at h; exact ho.onStunDataRecv hkind h
  | rtcp => rw [hkind] at h; exact ho.onRtcpDataRecv h
  | rtp => rw [hkind] at h; exact ho.onRtpDataRecv h
  | dtls => rw [hkind] at h; exact ho.onDtlsDataRecv h
  | ignored =>
      rw [hkind] at h
      cases h
      exact ho.goes.handles

/-- `OnRtcTcpConnectionClosed`. -/
theorem Open.onRtcTcpConnectionClosed (ho : t.Open) {connection : Nat} {peerAddress : Ice.RemoteAddr}
    {isClosedByPeer : Bool}
    (h : t.onRtcTcpConnectionClosed env connection peerAddress isClosedByPeer = .ok t') :
    t.Handles c (.onRtcTcpConnectionClosed connection peerAddress isClosedByPeer) env t' := by
  -- the connection is deleted after the rest
  have hdeleted : ∀ {t₁ : Transport lib},
      t.Handles c (.onRtcTcpConnectionClosed connection peerAddress isClosedByPeer) env t₁ →
      (isClosedByPeer = true →
        ∀ storedTuple ∈ t₁.ice.tuples, storedTuple.2.compare (.tcp connection peerAddress) = false) →
      t.Handles c (.onRtcTcpConnectionClosed connection peerAddress isClosedByPeer) env
        { t₁ with connections := t₁.connections.erase connection } := by
    intro t₁ h hremoved
    refine { h with
      state := h.state.imp (fun ho => { ho with told := ho.told }) fun hended =>
        { hended with told := hended.told }
      connections := fun connection' hmem => ?_ }
    rcases h.connections connection' hmem with hmem | hclosed
    · by_cases heq : connection' = connection
      · cases heq
        exact .inr ⟨peerAddress, isClosedByPeer, rfl, hremoved⟩
      · exact .inl ((List.mem_erase_of_ne heq).2 hmem)
    · exact .inr hclosed
  unfold Transport.onRtcTcpConnectionClosed at h
  cases isClosedByPeer with
  | false =>
      cases h
      exact hdeleted ho.goes.handles nofun
  | true =>
      obtain ⟨t₁, h₁, h⟩ := Checked.bind_eq_ok.1 ((map_eq_pure_bind _ _).symm.trans h)
      cases h
      have htuples := t.ice.removeTuple_tuples (.tcp connection peerAddress)
      have hhears := (ho.withIce (ho.ice.removeTuple _) (IceServer.removeTuple_tells ho.ice _)
        (fun storedTuple hmem => .inl (htuples storedTuple hmem)) h₁).1
      refine hdeleted (hhears.handles (.inl rfl) fun storedTuple hmem => .inl (htuples storedTuple hmem)) ?_
      intro _ storedTuple hmem
      rw [hhears.iceServer] at hmem
      exact IceServer.removeTuple_compare ho.ice _ storedTuple hmem

/-! ## What is sent -/

/-- Data is protected and sent to the selected tuple: `SendRtpPacket` and `SendRtcpPacket`. -/
theorem Open.sends (ho : t.Open) {node : Nat} (hselected : t.selectedTuple = some node)
    {s s' : SrtpSession lib} (hs : t.srtpSendSession = some s) (hsame : s.SameKey s')
    {o : Tuple → Output lib}
    (hallowed : ∀ tuple, t.Sends tuple s → (o tuple).Allowed t e env t.ice)
    (htold : ∀ tuple (v : View), v.see (o tuple) = v)
    (h : sendSelected { t with srtpSendSession := some s' } node o = .ok t') :
    t.Handles c e env t' := by
  obtain ⟨ho', hhandshakes⟩ := ho.send_session hs hsame
  obtain ⟨tuple, hmem, rfl⟩ := sendSelected_eq h
  have hchanged : t.Signals env { t with srtpSendSession := some s' } :=
    { Signals.refl t env with handshakes := fun _ hmem => .inl (hhandshakes ▸ hmem) }
  refine (hchanged.handles (.inl ho')).output { ho' with told := ?_ } (hallowed tuple ?_)
  · exact ho'.told.of_outs [o tuple] rfl (htold tuple _)
  · exact ⟨⟨node, ho.selectedTuple.symm.trans hselected, hmem⟩, hs, ho.send s hs⟩

/-- What is protected by the library is small enough. -/
theorem encrypt_eq {f : σ → List UInt8 → Option (List UInt8) × σ} {protect : lib.Keeps f}
    {s : SrtpSession lib} {plain data : List UInt8} (h : (s.encrypt protect plain).1 = some data) :
    (f s.session plain).1 = some data := by
  unfold SrtpSession.encrypt at h
  split at h
  · cases h
  · exact h

/-- `SendRtpPacket` and `SendRtcpPacket`. -/
theorem Open.encrypts (ho : t.Open) {node : Nat} (hselected : t.selectedTuple = some node)
    {s : SrtpSession lib} (hs : t.srtpSendSession = some s) {plain : List UInt8}
    {f : σ → List UInt8 → Option (List UInt8) × σ} (protect : lib.Keeps f)
    (o : Tuple → List UInt8 → Output lib)
    (hallowed : ∀ tuple data, t.Sends tuple s → (f s.session plain).1 = some data →
      (o tuple data).Allowed t e env t.ice)
    (htold : ∀ tuple data (v : View), v.see (o tuple data) = v)
    (h : (match (s.encrypt protect plain).1 with
      | none => Except.ok { t with srtpSendSession := some (s.encrypt protect plain).2 }
      | some data =>
          sendSelected { t with srtpSendSession := some (s.encrypt protect plain).2 } node
            fun tuple => o tuple data) = .ok t') : t.Handles c e env t' := by
  have hsame := s.encrypt_sameKey protect plain
  split at h
  · cases h
    obtain ⟨ho', hhandshakes⟩ := ho.send_session hs hsame
    exact Signals.handles
      { Signals.refl t env with handshakes := fun _ hmem => .inl (hhandshakes ▸ hmem) } (.inl ho')
  case h_2 data hdata =>
    exact ho.sends hselected hs hsame
      (fun tuple hsends => hallowed tuple data hsends (encrypt_eq hdata)) (fun tuple => htold tuple data) h

/-- An RTP packet is encrypted and sent to the selected tuple. -/
theorem Open.sendRtpPacket (ho : t.Open) {plain : List UInt8} (h : t.sendRtpPacket plain = .ok t') :
    t.Handles c (.sendRtpPacket plain) env t' := by
  unfold Transport.sendRtpPacket at h
  split at h
  case h_1 node s hselected hs =>
    exact ho.encrypts hselected hs lib.keeps_protect (fun tuple data => .srtp tuple s plain data)
      (fun tuple data hsends hdata => ⟨rfl, hsends, hdata⟩) (fun _ _ _ => rfl) h
  · cases h
    exact ho.goes.handles

/-- An RTCP packet is encrypted and sent to the selected tuple. -/
theorem Open.sendRtcpPacket (ho : t.Open) {plain : List UInt8} (h : t.sendRtcpPacket plain = .ok t') :
    t.Handles c (.sendRtcpPacket plain) env t' := by
  unfold Transport.sendRtcpPacket at h
  split at h
  case h_1 node s hselected hs =>
    exact ho.encrypts hselected hs lib.keeps_protectRtcp (fun tuple data => .srtcp tuple s plain data)
      (fun tuple data hsends hdata => ⟨rfl, hsends, hdata⟩) (fun _ _ _ => rfl) h
  · cases h
    exact ho.goes.handles

/-! ## Requests -/

/-- The local role is never `auto`. -/
theorem localRoleFor_cases (role : Role) : localRoleFor role = .server ∨ localRoleFor role = .client := by
  cases role with
  | client => exact .inl rfl
  | none | auto | server => exact .inr rfl

/-- Before the fingerprint is announced there is no session. -/
theorem Open.announce (ho : t.Open) (hnone : t.dtls.remoteFingerprint = none) (fingerprint : Fingerprint) :
    Open { t with dtls := { t.dtls with remoteFingerprint := some fingerprint }
                  remoteDtlsParametersGiven := true } :=
  { ho with
    told := ho.told
    dtls := { ho.dtls with
      connected := fun hconnected => absurd hnone (ho.dtls.connected hconnected).2 }
    given := fun _ => rfl
    send := fun s hs => by
      have hfingerprint := (ho.send s hs).fingerprint
      rw [hnone] at hfingerprint
      cases hfingerprint
    recv := fun s hs => by
      have hfingerprint := (ho.recv s hs).fingerprint
      rw [hnone] at hfingerprint
      cases hfingerprint }

/-- `DtlsTransport::SetRemoteFingerprint`, in an open transport without a fingerprint. -/
theorem Open.setRemoteFingerprint (ho : t.Open) (hnone : t.dtls.remoteFingerprint = none)
    (hgiven : t.remoteDtlsParametersGiven = true) {fingerprint : Fingerprint}
    (h : t.setRemoteFingerprint env fingerprint = .ok t') :
    Goes { t with dtls := { t.dtls with remoteFingerprint := some fingerprint } } env t' := by
  have ho' : Open { t with dtls := { t.dtls with remoteFingerprint := some fingerprint } } := by
    have ho' := ho.announce hnone fingerprint
    rw [← hgiven] at ho'
    exact ho'
  unfold Transport.setRemoteFingerprint at h
  dsimp only at h
  split at h
  case isTrue hdone => exact ho'.processHandshake hdone.1 h
  case isFalse =>
    cases h
    exact ho'.goes

/-- `TRANSPORT_SET_REMOTE_DTLS_PARAMETERS`. -/
theorem Open.setRemoteDtlsParameters (ho : t.Open) {data : JsonCpp.Value}
    (h : t.setRemoteDtlsParameters env data = .ok t') :
    t.Handles c (.handleRequest (.setRemoteDtlsParameters data)) env t' := by
  have hrejects : ∀ reason, ({ t with remoteDtlsParametersGiven := true }.output (.reject reason)).Open :=
    fun reason =>
      { ho with
        told := ho.told.of_outs [.reject reason] rfl rfl
        given := fun _ => rfl }
  unfold Transport.setRemoteDtlsParameters at h
  split at h
  case isTrue hgiven =>
    cases h
    refine ho.goes.handles.output { ho with told := ?_ } trivial
    exact ho.told.of_outs [.reject "method already called"] rfl rfl
  case isFalse hgiven =>
    have hnone : t.dtls.remoteFingerprint = none := not_not.1 (mt ho.given hgiven)
    dsimp only at h
    split at h
    case h_1 reason hreason =>
      cases h
      exact {
        state := .inl (hrejects reason)
        log := ⟨[.reject reason], rfl, List.forall_mem_singleton.2 trivial⟩
        tuples := fun _ hmem => .inl hmem
        fingerprint := fun _ heq => .inl heq
        handshakes := fun _ hmem => .inl hmem
        connections := fun _ hmem => .inl hmem }
    case h_2 fingerprint remoteRole hparameters =>
      obtain ⟨t₁, h₁, h⟩ := Checked.bind_eq_ok.1 h
      have hrole := localRoleFor_cases remoteRole
      revert h₁
      generalize localRoleFor remoteRole = dtlsLocalRole at hrole ⊢
      generalize JsonCpp.Value.object [("role", .string (if dtlsLocalRole = .client then "client" else
        "server"))] = answer
      intro h₁
      have ho₀ : ({ t with remoteDtlsParametersGiven := true, dtlsLocalRole }.output (.accept answer)).Open :=
        { ho with
          told := ho.told.of_outs [.accept answer] rfl rfl
          dtlsLocalRole := by rcases hrole with rfl | rfl <;> exact nofun
          auto := by rcases hrole with rfl | rfl <;> exact nofun
          given := fun _ => rfl }
      have hgoes₁ := ho₀.setRemoteFingerprint hnone rfl h₁
      have hgoes : Goes { t with
          dtls := { t.dtls with remoteFingerprint := some fingerprint }
          remoteDtlsParametersGiven := true
          dtlsLocalRole
          log := .accept answer :: t.log } env t' := by
        rcases hgoes₁.state with ⟨ho₁, -⟩ | hended
        · exact hgoes₁.trans ho₁ (ho₁.mayRunDtlsTransport h)
        · -- the check of the handshake has failed, and the deleted transport is read
          unfold Transport.mayRunDtlsTransport at h
          rw [if_pos hended.closed] at h
          cases h
      have hsignals := hgoes.signals
      exact {
        state := hgoes.state.imp_left And.left
        log := by
          obtain ⟨outs, hlog, houts⟩ := hsignals.log
          refine ⟨outs ++ [.accept answer], by rw [hlog, List.append_assoc]; rfl, fun o ho => ?_⟩
          rcases List.mem_append.1 ho with ho | ho
          · refine allowed_of_signal ?_
            rw [hsignals.ice]
            exact houts o ho
          · cases List.mem_singleton.1 ho
            trivial
        tuples := fun storedTuple hmem => .inl (hsignals.ice ▸ hmem)
        fingerprint := fun fingerprint' heq => by
          cases hsignals.remoteFingerprint.symm.trans heq
          exact .inr ⟨data, remoteRole, rfl, hparameters⟩
        handshakes := hsignals.handshakes
        connections := fun connection hmem => .inl (hsignals.connections ▸ hmem) }

/-- The requests to a transport, method by method. -/
theorem Open.handleRequest (ho : t.Open) {request : Request}
    (h : t.handleRequest env request = .ok t') :
    t.Handles c (.handleRequest request) env t' := by
  cases request with
  | setRemoteDtlsParameters data => exact ho.setRemoteDtlsParameters h
  | changeUfragPwd usernameFragment password =>
      cases h
      refine {
        state := .inl { ho with
          ice := ho.ice
          told := ho.told.of_outs [_] rfl rfl }
        log := ⟨[_], rfl, List.forall_mem_singleton.2 trivial⟩
        tuples := fun _ hmem => .inl hmem
        fingerprint := fun _ heq => .inl heq
        handshakes := fun _ hmem => .inl hmem
        connections := fun _ hmem => .inl hmem }
  | close =>
      obtain ⟨t₁, h₁, h⟩ := Checked.bind_eq_ok.1 h
      cases h
      obtain ⟨hended, hsignals⟩ := ho.destroyable.destroy h₁
      obtain ⟨after, before, hlog, hbefore⟩ := hended.log
      refine (hsignals.output (o := .accept .null) trivial).handles (.inr ⟨hended.closed, ?_, ?_⟩)
      · exact hended.told.of_outs [.accept .null] rfl rfl
      · refine ⟨.null :: after, before, ?_, hbefore⟩
        exact congrArg (.accept .null :: ·) hlog

/-! ## The run -/

/-- **One event.** -/
theorem Open.handle_spec (ho : t.Open) (htimer : e = .onTimer → t.dtls.timer = true)
    (h : t.handle c env e = .ok t') : t.Handles c e env t' := by
  cases e with
  | onPacketRecv tuple data => exact ho.onPacketRecv h
  | newTcpConnection connection =>
      cases h
      exact { ho.goes.handles with
        state := .inl { ho with told := ho.told }
        connections := fun _ hmem => .inl (List.mem_cons_of_mem _ hmem) }
  | onRtcTcpConnectionClosed connection peerAddress isClosedByPeer => exact ho.onRtcTcpConnectionClosed h
  | handleRequest request => exact ho.handleRequest h
  | onTimer => exact (ho.onTimer (htimer rfl) h).handles
  | sendRtpPacket plain => exact ho.sendRtpPacket h
  | sendRtcpPacket plain => exact ho.sendRtcpPacket h
  | addRtpReceiver rtpReceiver rtpParameters =>
      cases h
      exact Signals.handles { Signals.refl t env with } (.inl { ho with told := ho.told })
  | removeRtpReceiver rtpReceiver =>
      cases h
      exact Signals.handles { Signals.refl t env with } (.inl { ho with told := ho.told })
  | enableRemb =>
      cases h
      exact { ho.goes.handles with state := .inl { ho with told := ho.told } }
  | destroy =>
      obtain ⟨hended, hsignals⟩ := ho.destroyable.destroy h
      exact hsignals.handles (.inr hended)

/-- A step is an event that is enabled and handled. -/
theorem step_eq {x : Event × Env} (h : step c t x = some t') :
    t.enabled x.1 = true ∧ t.handle c x.2 x.1 = .ok t' := by
  obtain ⟨henabled, h⟩ := Option.ite_none_right_eq_some.1 h
  refine ⟨henabled, ?_⟩
  cases hresult : t.handle c x.2 x.1 with
  | error fault =>
      rw [hresult] at h
      cases h
  | ok t₁ =>
      rw [hresult] at h
      cases h
      rfl

/-- Events come to a transport that is not closed. -/
theorem enabled_open (h : t.enabled e = true) : t.closed = false := by
  unfold enabled at h
  split at h
  all_goals
    simp only [Bool.and_eq_true, Bool.not_eq_true'] at h
    first
    | exact h
    | exact h.1

/-- The timer is running when it fires. -/
theorem enabled_timer (h : t.enabled e = true) (he : e = .onTimer) : t.dtls.timer = true := by
  cases he
  exact (Bool.and_eq_true_iff.1 h).2

/-- A new transport is open. -/
theorem new_open (usernameFragment password : List UInt8) :
    (new lib usernameFragment password).Open where
  closed := rfl
  ice := Ice.inv_new usernameFragment password
  calls := rfl
  selectedTuple := rfl
  told := rfl
  dtls := ⟨iff_of_false nofun (fun h => h rfl), nofun, ⟨nofun, nofun⟩, nofun, nofun⟩
  dtlsLocalRole := nofun
  auto _ := rfl
  given h := absurd rfl h
  send := nofun
  recv := nofun

/-- A transport that takes a step is open. -/
theorem step_handles {x : Event × Env} (hstate : t.Open ∨ t.Ended) (h : step c t x = some t') :
    t.Open ∧ t.Handles c x.1 x.2 t' := by
  obtain ⟨henabled, h⟩ := step_eq h
  have ho : t.Open := hstate.resolve_right fun hended =>
    absurd ((enabled_open henabled).symm.trans hended.closed) nofun
  exact ⟨ho, ho.handle_spec (enabled_timer henabled) h⟩

variable {usernameFragment password : List UInt8} {es : List (Event × Env)}

/-- **Every run** leaves the transport open or ended. -/
theorem run_state (h : Machine.exec (step c) (new lib usernameFragment password) es = some t) :
    t.Open ∨ t.Ended :=
  Machine.exec_inv (fun _ _ _ hstate hstep => (step_handles hstate hstep).2.state) h (.inl (new_open _ _))

/-! ## Where it comes from -/

/-- The tuple has sent a request that was authenticated, with the credentials that the transport had then. -/
def Admitted (c : Crypto) (t₀ : Transport lib) (es : List (Event × Env)) (tuple : Tuple) :
    Prop :=
  ∃ before x after t, es = before ++ x :: after ∧ Machine.exec (step c) t₀ before = some t ∧
    t.Admits c x.1 x.2 tuple

/-- What a transport has comes from an event of the run. -/
structure Traced (c : Crypto) (t₀ : Transport lib) (es : List (Event × Env))
    (t : Transport lib) : Prop where
  run : Machine.exec (step c) t₀ es = some t
  tuples : ∀ storedTuple ∈ t.ice.tuples, Admitted c t₀ es storedTuple.2
  fingerprint : ∀ fingerprint, t.dtls.remoteFingerprint = some fingerprint →
    ∃ x ∈ es, Event.Announces x.1 fingerprint
  handshakes : ∀ h ∈ t.handshakes, ∃ x ∈ es, h.From x.2

/-- A tuple that was admitted stays admitted. -/
theorem Admitted.append {t₀ : Transport lib} {x : Event × Env} (h : Admitted c t₀ es tuple) :
    Admitted c t₀ (es ++ [x]) tuple := by
  obtain ⟨before, y, after, t, rfl, hrun, hadmits⟩ := h
  exact ⟨before, y, after ++ [x], t, by rw [List.append_assoc]; rfl, hrun, hadmits⟩

/-- What a step stores and notifies is traced to its event or to an earlier one. -/
theorem Traced.step {t₀ : Transport lib} {x : Event × Env} (h : Traced c t₀ es t)
    (hhandles : t.Handles c x.1 x.2 t') (hstep : Transport.step c t x = some t') :
    Traced c t₀ (es ++ [x]) t' where
  run := Machine.exec_append.2 ⟨t, h.run, Machine.exec_cons.2 ⟨t', hstep, rfl⟩⟩
  tuples storedTuple hmem := by
    rcases hhandles.tuples storedTuple hmem with hmem | hadmits
    · exact (h.tuples storedTuple hmem).append
    · exact ⟨es, x, [], t, rfl, h.run, hadmits⟩
  fingerprint fingerprint heq := by
    rcases hhandles.fingerprint fingerprint heq with heq | hannounces
    · obtain ⟨y, hmem, hannounces⟩ := h.fingerprint fingerprint heq
      exact ⟨y, List.mem_append_left _ hmem, hannounces⟩
    · exact ⟨x, List.mem_append_right _ (List.mem_singleton.2 rfl), hannounces⟩
  handshakes handshake hmem := by
    rcases hhandles.handshakes handshake hmem with hmem | hfrom
    · obtain ⟨y, hmem, hfrom⟩ := h.handshakes handshake hmem
      exact ⟨y, List.mem_append_left _ hmem, hfrom⟩
    · exact ⟨x, List.mem_append_right _ (List.mem_singleton.2 rfl), hfrom⟩

/-- Everything that a run has stored and notified is traced to its events. -/
theorem run_traced (h : Machine.exec (step c) (new lib usernameFragment password) es = some t) :
    Traced c (new lib usernameFragment password) es t := by
  have hstep : ∀ (s : Transport lib) pre x s',
      (s.Open ∨ s.Ended) ∧ Traced c (new lib usernameFragment password) pre s → step c s x = some s' →
      (s'.Open ∨ s'.Ended) ∧ Traced c (new lib usernameFragment password) (pre ++ [x]) s' := by
    rintro s pre x s' ⟨hstate, htraced⟩ hstep
    obtain ⟨-, hhandles⟩ := step_handles hstate hstep
    exact ⟨hhandles.state, htraced.step hhandles hstep⟩
  have hnew : Traced c (new lib usernameFragment password) [] (new lib usernameFragment password) :=
    ⟨rfl, fun _ hmem => absurd hmem List.not_mem_nil, nofun, fun _ hmem => absurd hmem List.not_mem_nil⟩
  exact (Machine.exec_inv_history (I := fun s pre => _ ∧ Traced c _ pre s) hstep h
    ⟨.inl (new_open _ _), hnew⟩).2

/-- libsrtp has made the session with a key of a handshake of the run: the certificate that the peer showed
there has a fingerprint that a request announced. -/
structure Authentic (s : SrtpSession lib) (type : SrtpType) (es : List (Event × Env)) : Prop where
  made : lib.Made type s.handshake.profile s.key s.session
  verified : s.Verified type (some s.handshake.fingerprint)
  announced : ∃ x ∈ es, Event.Announces x.1 s.handshake.fingerprint
  handshake : ∃ x ∈ es, s.handshake.From x.2

/-- A verified session is made from the key of the handshake in which the announced certificate was seen. -/
theorem Traced.authentic {t₀ : Transport lib} (htraced : Traced c t₀ es t) {s : SrtpSession lib}
    {type : SrtpType} (hverified : s.Verified type t.dtls.remoteFingerprint)
    (hs : t.srtpSendSession = some s ∨ t.srtpRecvSession = some s) : Authentic s type es where
  made := hverified.sessionType ▸ s.made
  verified := { hverified with fingerprint := rfl }
  announced := htraced.fingerprint _ hverified.fingerprint
  handshake := htraced.handshakes _ (mem_handshakes.2 ⟨s, hs, rfl⟩)

/-- **Media that is accepted is authentic.** Whatever the events were, a packet is passed on only while DTLS is
connected and if it comes from where a request came from that was authenticated before; and libsrtp has
unprotected it with a session whose remote key comes from a handshake in which the peer had a certificate with
an announced fingerprint. -/
theorem accepted_media_is_authentic {x : Event × Env}
    (h : Machine.exec (step c) (new lib usernameFragment password) es = some t)
    (hstep : step c t x = some t') :
    ∃ outs, t'.log = outs ++ t.log ∧ ∀ tuple s data plain,
      ((∃ rtpReceiver, Output.receiveRtpPacket tuple s data plain rtpReceiver ∈ outs) ∨
        Output.onTransportRtcpPacket tuple s data plain ∈ outs) →
      x.1 = .onPacketRecv tuple data ∧ t.dtls.state = .connected ∧
        ((lib.unprotect s.session data).1 = some plain ∨
          (lib.unprotectRtcp s.session data).1 = some plain) ∧
        Authentic s .inbound es ∧
        ∃ admitted : Tuple, admitted.compare tuple = true ∧
          Admitted c (new lib usernameFragment password) es admitted := by
  have htraced := run_traced h
  obtain ⟨-, hhandles⟩ := step_handles (run_state h) hstep
  obtain ⟨outs, hlog, houts⟩ := hhandles.log
  refine ⟨outs, hlog, fun tuple s data plain hmem => ?_⟩
  have hallowed : x.1 = .onPacketRecv tuple data ∧ t.Accepts tuple s ∧
      ((lib.unprotect s.session data).1 = some plain ∨ (lib.unprotectRtcp s.session data).1 = some plain) := by
    rcases hmem with ⟨rtpReceiver, hmem⟩ | hmem
    · obtain ⟨hevent, haccepts, hplain⟩ := houts _ hmem
      exact ⟨hevent, haccepts, .inl hplain⟩
    · obtain ⟨hevent, haccepts, hplain⟩ := houts _ hmem
      exact ⟨hevent, haccepts, .inr hplain⟩
  obtain ⟨hevent, haccepts, hplain⟩ := hallowed
  obtain ⟨storedTuple, hstored, hcompare⟩ := haccepts.stored
  exact ⟨hevent, haccepts.connected, hplain, htraced.authentic haccepts.verified (.inr haccepts.session),
    storedTuple.2, hcompare, htraced.tuples storedTuple hstored⟩

/-- A libsrtp that leaves the packets as they are. -/
def sampleLib : LibSrtp Unit where
  create _ _ _ := some ()
  protect _ data := (some data, ())
  unprotect _ data := (some data, ())
  protectRtcp _ data := (some data, ())
  unprotectRtcp _ data := (some data, ())
  maxTrailerLen := 144

def samplePeer : Tuple := .udp 0 (.inet 5000 0x7f000001)

/-- A BINDING request with the username `a:b`, a priority and USE-CANDIDATE. -/
def sampleRequest : List UInt8 :=
  [0, 1, 0, 52, 33, 18, 164, 66] ++ List.replicate 12 7 ++ [0, 6, 0, 3, 97, 58, 98, 0] ++
    [0, 36, 0, 4, 0, 0, 0, 5] ++ [0, 37, 0, 0] ++ [0, 8, 0, 20] ++ List.replicate 20 41 ++
    [0x80, 0x28, 0, 4, 0x53, 0x54, 0x55, 0x0e]

def sampleParameters : JsonCpp.Value :=
  .object [("fingerprint", .object [("algorithm", .string "sha-1"), ("value", .string "ab")]),
    ("role", .string "client")]

/-- The handshake is done, with a certificate that has this fingerprint. -/
def sampleHandshake : Env :=
  { handshakeDone := true
    certificate := some ⟨fun _ => some [0xab], some "pem"⟩
    srtpProfile := some "SRTP_AES128_CM_SHA1_80"
    srtpMaterial := some (List.replicate 60 0) }

/-- ICE is completed, the fingerprint is announced, and DTLS is connected. -/
def sampleRun : List (Event × Env) :=
  [(.onPacketRecv samplePeer sampleRequest, {}),
    (.handleRequest (.setRemoteDtlsParameters sampleParameters), {}),
    (.onPacketRecv samplePeer (22 :: List.replicate 12 0), sampleHandshake)]

def sampleConnected : Transport sampleLib :=
  (Machine.exec (step Stun.sampleCrypto) (new sampleLib [97] [1]) sampleRun).getD (new sampleLib [97] [1])

set_option maxRecDepth 20000 in
/-- The run leads to the sample. -/
theorem exec_sampleRun :
    Machine.exec (step Stun.sampleCrypto) (new sampleLib [97] [1]) sampleRun = some sampleConnected := rfl

/-- A receiver report. -/
def sampleReport : List UInt8 := [0x80, 0xc9, 0, 1, 0, 0, 0, 0]

set_option maxRecDepth 20000 in
/-- A receiver report is decrypted and handed on. -/
theorem step_sampleReport : ∃ s t',
    step Stun.sampleCrypto sampleConnected (.onPacketRecv samplePeer sampleReport, {}) = some t' ∧
      t'.log = .onTransportRtcpPacket samplePeer s sampleReport sampleReport :: sampleConnected.log :=
  ⟨_, _, rfl, rfl⟩

/-- A receiver report is accepted. -/
theorem accepted_report_is_authentic : ∃ s t',
    step Stun.sampleCrypto sampleConnected (.onPacketRecv samplePeer sampleReport, {}) = some t' ∧
      Output.onTransportRtcpPacket samplePeer s sampleReport sampleReport ∈ t'.log ∧
      Authentic s .inbound sampleRun := by
  obtain ⟨s, t', hstep, hlog⟩ := step_sampleReport
  obtain ⟨outs, hlog', houts⟩ := accepted_media_is_authentic exec_sampleRun hstep
  have heq : outs = [.onTransportRtcpPacket samplePeer s sampleReport sampleReport] :=
    List.append_cancel_right (hlog'.symm.trans hlog)
  obtain ⟨-, -, -, hauthentic, -⟩ := houts samplePeer s sampleReport sampleReport
    (.inr (heq ▸ List.mem_singleton.2 rfl))
  refine ⟨s, t', hstep, ?_, hauthentic⟩
  rw [hlog]
  exact List.mem_cons_self

/-- **Where a transport sends to.** A STUN response goes to where the message came from. Everything else goes
to where a request came from that was authenticated: the data of OpenSSL, as it is, and media, protected by
libsrtp with a session whose local key comes from a handshake in which the peer had a certificate with an
announced fingerprint. -/
theorem sent_data_goes_to_admitted {x : Event × Env}
    (h : Machine.exec (step c) (new lib usernameFragment password) es = some t)
    (hstep : step c t x = some t') :
    ∃ outs, t'.log = outs ++ t.log ∧
      (∀ msg tuple, Output.stun msg tuple ∈ outs →
        ∃ data, x.1 = .onPacketRecv tuple data ∧ Rtc.onPacketRecv data = .stun) ∧
      (∀ tuple data, Output.dtls tuple data ∈ outs →
        data = x.2.outgoing ∧ Admitted c (new lib usernameFragment password) (es ++ [x]) tuple) ∧
      ∀ tuple s plain data,
        Output.srtp tuple s plain data ∈ outs ∨ Output.srtcp tuple s plain data ∈ outs →
        ((x.1 = .sendRtpPacket plain ∧ (lib.protect s.session plain).1 = some data) ∨
          (x.1 = .sendRtcpPacket plain ∧ (lib.protectRtcp s.session plain).1 = some data)) ∧
          Authentic s .outbound es ∧ Admitted c (new lib usernameFragment password) es tuple := by
  have htraced := run_traced h
  obtain ⟨-, hhandles⟩ := step_handles (run_state h) hstep
  obtain ⟨outs, hlog, houts⟩ := hhandles.log
  refine ⟨outs, hlog, fun msg tuple hmem => houts _ hmem, fun tuple data hmem => ?_,
    fun tuple s plain data hmem => ?_⟩
  · obtain ⟨hdata, node, -, hstored⟩ := houts _ hmem
    exact ⟨hdata, (htraced.step hhandles hstep).tuples _ hstored⟩
  · have hsent : t.Sends tuple s ∧
        ((x.1 = .sendRtpPacket plain ∧ (lib.protect s.session plain).1 = some data) ∨
          (x.1 = .sendRtcpPacket plain ∧ (lib.protectRtcp s.session plain).1 = some data)) := by
      rcases hmem with hmem | hmem
      · obtain ⟨hevent, hsends, hdata⟩ := houts _ hmem
        exact ⟨hsends, .inl ⟨hevent, hdata⟩⟩
      · obtain ⟨hevent, hsends, hdata⟩ := houts _ hmem
        exact ⟨hsends, .inr ⟨hevent, hdata⟩⟩
    obtain ⟨hsends, hdata⟩ := hsent
    obtain ⟨node, -, hstored⟩ := hsends.selected
    exact ⟨hdata, htraced.authentic hsends.verified (.inl hsends.session), htraced.tuples _ hstored⟩

set_option maxRecDepth 20000 in
/-- An RTP packet is encrypted and sent. -/
theorem step_sendRtpPacket : ∃ s t',
    step Stun.sampleCrypto sampleConnected (.sendRtpPacket [0x80, 96], {}) = some t' ∧
      t'.log = .srtp samplePeer s [0x80, 96] [0x80, 96] :: sampleConnected.log :=
  ⟨_, _, rfl, rfl⟩

/-- A packet is sent. -/
theorem sent_packet_goes_to_admitted : ∃ s t',
    step Stun.sampleCrypto sampleConnected (.sendRtpPacket [0x80, 96], {}) = some t' ∧
      Output.srtp samplePeer s [0x80, 96] [0x80, 96] ∈ t'.log ∧ Authentic s .outbound sampleRun ∧
      Admitted Stun.sampleCrypto (new sampleLib [97] [1]) sampleRun samplePeer := by
  obtain ⟨s, t', hstep, hlog⟩ := step_sendRtpPacket
  obtain ⟨outs, hlog', -, -, houts⟩ := sent_data_goes_to_admitted exec_sampleRun hstep
  have heq : outs = [.srtp samplePeer s [0x80, 96] [0x80, 96]] :=
    List.append_cancel_right (hlog'.symm.trans hlog)
  have hmem : Output.srtp samplePeer s [0x80, 96] [0x80, 96] ∈ outs := by
    rw [heq]
    exact List.mem_cons_self
  obtain ⟨-, hsent⟩ := houts samplePeer s [0x80, 96] [0x80, 96] (.inl hmem)
  refine ⟨s, t', hstep, ?_, hsent⟩
  rw [hlog]
  exact List.mem_cons_self

/-- **The notifications tell the state.** In every run, who reads them knows the states of ICE and of DTLS,
the selected tuple and whether the transport is closed; the end is notified exactly once, and then only a
request is answered. -/
theorem notifications_tell_the_state
    (h : Machine.exec (step c) (new lib usernameFragment password) es = some t) :
    Dtls.view t.log = t.view ∧ (t.closed = true →
      ∃ (after : List JsonCpp.Value) (before : List (Output lib)),
        t.log = after.map Output.accept ++ .onTransportClosed :: .notify .close :: before ∧
          ∀ o ∈ before, o ≠ .notify .close ∧ o ≠ .onTransportClosed) := by
  rcases run_state h with ho | hended
  · exact ⟨ho.told, fun hclosed => absurd (ho.closed.symm.trans hclosed) nofun⟩
  · obtain ⟨after, before, hlog, hbefore⟩ := hended.log
    exact ⟨hended.told, fun _ => ⟨after, before, hlog, view_closed hbefore⟩⟩

/-- DTLS is connected, and then the transport is closed by a request. -/
def sampleClosing : List (Event × Env) := sampleRun.concat (.handleRequest .close, {})

set_option maxRecDepth 20000 in
/-- The run ends with a transport that is closed. -/
theorem exec_sampleClosing : ∃ t : Transport sampleLib,
    Machine.exec (step Stun.sampleCrypto) (new sampleLib [97] [1]) sampleClosing = some t ∧ t.closed = true :=
  ⟨_, rfl, rfl⟩

/-- The request is answered after the end. -/
theorem closing_is_notified_once : ∃ t : Transport sampleLib,
    Machine.exec (step Stun.sampleCrypto) (new sampleLib [97] [1]) sampleClosing = some t ∧
      Dtls.view t.log = t.view ∧ t.closed = true ∧
      ∃ (after : List JsonCpp.Value) (before : List (Output sampleLib)),
        t.log = after.map Output.accept ++ .onTransportClosed :: .notify .close :: before ∧
          ∀ o ∈ before, o ≠ .notify .close ∧ o ≠ .onTransportClosed := by
  obtain ⟨t, hexec, hclosed⟩ := exec_sampleClosing
  obtain ⟨hview, hend⟩ := notifications_tell_the_state hexec
  exact ⟨t, hexec, hview, hclosed, hend hclosed⟩

end Transport

end KoreWebsocket.Dtls
