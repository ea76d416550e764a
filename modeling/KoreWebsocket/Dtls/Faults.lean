import KoreWebsocket.Dtls.Media

/-!
# The faults of a transport (`RTC::Transport`, `mediasoup_1/soup`)

Each function of an open transport either returns or ends with a fault that its state and the answers of
OpenSSL show before (`handle_fault`). The ICE server never fails an assertion. A deleted connection is used
only if it was closed on this side, since its tuple then stays stored. The remote bitrate estimator is fed
only if it is enabled, and stops where the extension is not found or one of its own assertions fails. The
transport is used after it was deleted just when a handshake that is done is rejected: the check of the
handshake deletes the transport, and its callers go on with it (`useAfterFree_iff`).
-/

namespace KoreWebsocket.Dtls

open Ice (IceServer IceState Tuple)
open Stun (Crypto)

variable {σ : Type} {lib : LibSrtp σ}

/-- The certificate is missing or does not have the fingerprint, or no SRTP profile was negotiated. -/
def Rejected (env : Env) (fingerprint : Fingerprint) : Prop :=
  checkRemoteFingerprint fingerprint env = none ∨ env.srtpProfile = none

/-- What stops a handshake that is not rejected. -/
inductive HandshakeAbort (lib : LibSrtp σ) (env : Env) : Fault → Prop
  | profile {name : String} (hname : env.srtpProfile = some name) (h : srtpProfiles.lookup name = none) :
      HandshakeAbort lib env (.assertion "chosen SRTP profile is not an available one")
  | material (h : env.srtpMaterial = none) :
      HandshakeAbort lib env (.assertion "SSL_export_keying_material() failed")
  | sessions {profile : Profile} {srtpLocalKey srtpRemoteKey : List UInt8}
      (hrecv : lib.create .inbound profile srtpRemoteKey = none)
      (hsend : lib.create .outbound profile srtpLocalKey = none) : HandshakeAbort lib env .nullSession

/-- What stops the remote bitrate estimator: a packet with an extension of the two-byte form, or an assertion
of its own. -/
inductive FeedAbort (env : Env) : Fault → Prop
  | outOfRange {packet : Rtp.Packet} (h : (env.received packet).getExtension .absSendTime = .error .at) :
      FeedAbort env .outOfRange
  | estimator {desc : String} (h : env.incomingPacketInfo = some desc) : FeedAbort env (.assertion desc)

namespace Transport

/-- A stored tuple has a connection that is deleted. -/
def Dangling (t : Transport lib) (fault : Fault) : Prop :=
  ∃ node connection peerAddress, (node, Tuple.tcp connection peerAddress) ∈ t.ice.tuples ∧
    connection ∉ t.connections ∧ fault = .deletedConnection connection

variable {c : Crypto} {env : Env} {t t' : Transport lib} {e : Event} {fault : Fault}

/-- A node that is stored has its tuple. -/
theorem tupleAt_ok {node : Nat} {tuple : Tuple} (h : t.ice.tuples.lookup node = some tuple) :
    t.tupleAt node = .ok tuple := by
  unfold tupleAt IceServer.tupleAt
  rw [h]
  rfl

/-- Only a TCP tuple whose connection is deleted fails. -/
theorem checkConnection_error {tuple : Tuple} (h : t.checkConnection tuple = .error fault) :
    ∃ connection peerAddress, tuple = .tcp connection peerAddress ∧ connection ∉ t.connections ∧
      fault = .deletedConnection connection := by
  unfold checkConnection at h
  split at h
  · cases h
  · split at h
    · cases h
    case isFalse connection peerAddress hdeleted =>
      cases h
      exact ⟨connection, peerAddress, rfl, hdeleted, rfl⟩

/-- The connections decide it. -/
theorem checkConnection_congr (h : t'.connections = t.connections) (tuple : Tuple) :
    t'.checkConnection tuple = t.checkConnection tuple := by
  unfold checkConnection
  rw [h]

/-- The selected tuple of the ICE server is stored. -/
theorem lookup_of_inv {ice : IceServer} (h : ice.Inv) {node : Nat} (hnode : ice.selectedTuple = some node) :
    ∃ tuple, ice.tuples.lookup node = some tuple ∧ (node, tuple) ∈ ice.tuples := by
  obtain ⟨tuple, hmem⟩ := h.selected_mem node hnode
  exact ⟨tuple, (Table.lookup_eq_some_iff h.nodup).2 hmem, hmem⟩

/-- What is sent to the selected tuple fails only because its connection is deleted. -/
theorem sendSelected_error (hinv : t.ice.Inv) {node : Nat} (hnode : t.ice.selectedTuple = some node)
    {o : Tuple → Output lib} (h : t.sendSelected node o = .error fault) : t.Dangling fault := by
  obtain ⟨tuple, hlookup, hmem⟩ := lookup_of_inv hinv hnode
  unfold sendSelected at h
  rw [tupleAt_ok hlookup, Checked.ok_bind] at h
  rcases Checked.bind_eq_error.1 h with h | ⟨-, -, h⟩
  · obtain ⟨connection, peerAddress, rfl, hdeleted, rfl⟩ := checkConnection_error h
    exact ⟨node, connection, peerAddress, hmem, hdeleted, rfl⟩
  · cases h

/-- Sending DTLS data needs the connection of the selected tuple. -/
theorem sendPending_error (hinv : t.ice.Inv)
    (hselected : t.selectedTuple = none ∨ t.selectedTuple = t.ice.selectedTuple)
    (h : t.sendPendingOutgoingDtlsData env = .error fault) : t.Dangling fault := by
  unfold sendPendingOutgoingDtlsData onOutgoingDtlsData at h
  split at h
  · cases h
  · split at h
    · cases h
    case h_2 node hnode =>
      rw [hnode] at hselected
      exact sendSelected_error hinv (hselected.resolve_left nofun).symm h

/-- `Destroy` sends the last DTLS data and notifies the selected tuple, and fails only because of its
connection. -/
theorem destroy_error (hinv : t.ice.Inv)
    (hselected : t.selectedTuple = none ∨ t.selectedTuple = t.ice.selectedTuple)
    (h : t.destroy env = .error fault) : t.Dangling fault := by
  unfold Transport.destroy at h
  rcases Checked.bind_eq_error.1 h with h | ⟨t₁, -, h⟩
  · unfold destroyDtls at h
    split at h
    · exact sendPending_error (t := { t with srtpRecvSession := none, srtpSendSession := none }) hinv
        hselected h
    · cases h
  · cases h

/-- Without DTLS there is nothing to send, and nothing fails. -/
theorem destroy_ok (h : t.dtls.isRunning = false) (env : Env) :
    ∃ t', t.destroy env = .ok t' ∧ t'.closed = true := by
  have hnot : ¬ ({ t with srtpRecvSession := none, srtpSendSession := none } :
      Transport lib).dtls.isRunning = true := by
    rw [h]
    exact Bool.false_ne_true
  unfold Transport.destroy destroyDtls
  rw [if_neg hnot]
  exact ⟨_, rfl, rfl⟩

/-- After the reset there is nothing to send. -/
theorem onDtlsEnded_ok (t : Transport lib) (env : Env) {state : DtlsState}
    (hstate : state = .failed ∨ state = .closed) :
    ∃ t', t.onDtlsEnded env state = .ok t' ∧ t'.closed = true :=
  destroy_ok (by rcases hstate with rfl | rfl <;> rfl) env

/-- The timer of a transport that is not deleted can be set. -/
theorem setTimeout_ok (ht : t.closed = false) (env : Env) : ∃ t', t.setTimeout env = .ok t' := by
  unfold Transport.setTimeout
  rw [ht, if_neg Bool.false_ne_true]
  split
  · exact ⟨_, rfl⟩
  · split
    · exact ⟨_, rfl⟩
    · split
      · exact ⟨_, rfl⟩
      · obtain ⟨t', h, -⟩ := onDtlsEnded_ok t env (.inl rfl)
        exact ⟨t', h⟩

/-! ## The handshake -/

/-- The keys are not exported, or no session is created from them. -/
theorem Open.extractSrtpKeys_error (ho : t.Open) (hdone : t.dtls.handshakeDone = true)
    {fingerprint : Fingerprint} {certificate : Certificate} {profile : Profile}
    (h : t.extractSrtpKeys env fingerprint certificate profile = .error fault) :
    HandshakeAbort lib env fault := by
  have hrole := ho.dtls.running.1 (ho.dtls.done (.inl hdone))
  have hauto := ho.dtls.localRole
  unfold Transport.extractSrtpKeys at h
  split at h
  case h_1 hmaterial =>
    cases h
    exact .material hmaterial
  case h_2 material hmaterial =>
    split at h
    case h_1 hkeys =>
      cases hlocal : t.dtls.localRole with
      | none => exact absurd hlocal hrole
      | auto => exact absurd hlocal hauto
      | client => rw [hlocal] at hkeys; cases hkeys
      | server => rw [hlocal] at hkeys; cases hkeys
    case h_2 srtpLocalKey srtpRemoteKey hkeys =>
      unfold Transport.onDtlsConnected at h
      dsimp only at h
      split at h
      case isTrue hnone =>
        cases h
        rw [Bool.and_eq_true, Option.isNone_iff_eq_none, Option.isNone_iff_eq_none, Option.pmap_eq_none_iff,
          Option.pmap_eq_none_iff] at hnone
        exact .sessions hnone.1 hnone.2
      case isFalse => cases h

/-- The keys do not close the transport. -/
theorem extractSrtpKeys_closed {fingerprint : Fingerprint} {certificate : Certificate} {profile : Profile}
    (h : t.extractSrtpKeys env fingerprint certificate profile = .ok t') : t'.closed = t.closed := by
  unfold Transport.extractSrtpKeys at h
  split at h
  · cases h
  · split at h
    · cases h
    case h_2 srtpLocalKey srtpRemoteKey hkeys =>
      unfold Transport.onDtlsConnected at h
      dsimp only at h
      split at h
      · cases h
      · cases h
        rfl

/-- A handshake that is done fails with an abort, or not at all. -/
theorem Open.processHandshake_error (ho : t.Open) (hdone : t.dtls.handshakeDone = true)
    (h : t.processHandshake env = .error fault) : HandshakeAbort lib env fault := by
  have hended : ∀ {t₁ : Transport lib}, t₁.onDtlsEnded env .failed ≠ .error fault := fun {t₁} h => by
    obtain ⟨t', hok, -⟩ := onDtlsEnded_ok t₁ env (.inl rfl)
    cases hok.symm.trans h
  unfold Transport.processHandshake at h
  split at h
  · cases h
  · split at h
    · exact absurd h hended
    case h_2 certificate remoteCert hcheck =>
      have ho' : Open { t with dtls := { t.dtls with remoteCert } } :=
        { ho with told := ho.told, dtls := { ho.dtls with } }
      split at h
      · exact absurd h hended
      case h_2 name hname =>
        split at h
        case h_1 hlookup =>
          cases h
          exact .profile hname hlookup
        case h_2 => exact ho'.extractSrtpKeys_error hdone h

/-- **The check of a handshake deletes the transport just when it is rejected.** -/
theorem Open.processHandshake_closed (ho : t.Open) (env : Env) :
    (∃ t', t.processHandshake env = .ok t' ∧ t'.closed = true) ↔
      ∃ fingerprint, t.dtls.remoteFingerprint = some fingerprint ∧ Rejected env fingerprint := by
  constructor
  · rintro ⟨t', h, hclosed⟩
    unfold Transport.processHandshake at h
    split at h
    · cases h
      exact absurd (ho.closed.symm.trans hclosed) Bool.false_ne_true
    case h_2 fingerprint hfingerprint =>
      refine ⟨fingerprint, hfingerprint, ?_⟩
      split at h
      case h_1 hcheck => exact .inl hcheck
      case h_2 certificate remoteCert hcheck =>
        split at h
        case h_1 hname => exact .inr hname
        case h_2 name hname =>
          split at h
          · cases h
          case h_2 profile hprofile =>
            -- the keys are extracted, and the transport stays open
            have hopen : t'.closed = false := (extractSrtpKeys_closed h).trans ho.closed
            exact absurd (hopen.symm.trans hclosed) Bool.false_ne_true
  · rintro ⟨fingerprint, hfingerprint, hrejected⟩
    unfold Transport.processHandshake
    rw [hfingerprint]
    dsimp only
    split
    · exact onDtlsEnded_ok t env (.inl rfl)
    case h_2 certificate remoteCert hcheck =>
      rw [hrejected.resolve_left (by rw [hcheck]; exact nofun)]
      exact onDtlsEnded_ok _ env (.inl rfl)

/-- A handshake that is done in this packet fails with an abort, or not at all. -/
theorem Open.handshakeDone_error (ho : t.Open) (hnow : t.dtls.handshakeDoneNow = true)
    (h : t.handshakeDone env = .error fault) : HandshakeAbort lib env fault := by
  obtain ⟨ho', -⟩ := ho.handshakeDoneNow hnow env
  unfold Transport.handshakeDone at h
  dsimp only at h
  split at h
  · cases h
  · exact ho'.processHandshake_error rfl h

/-- The first handshake closes the transport just when it is rejected. -/
theorem Open.handshakeDone_closed (ho : t.Open) (hnow : t.dtls.handshakeDoneNow = true) :
    (∃ t', t.handshakeDone env = .ok t' ∧ t'.closed = true) ↔
      t.dtls.handshakeDone = false ∧
        ∃ fingerprint, t.dtls.remoteFingerprint = some fingerprint ∧ Rejected env fingerprint := by
  obtain ⟨ho', -⟩ := ho.handshakeDoneNow hnow env
  unfold Transport.handshakeDone
  dsimp only
  cases hdone : t.dtls.handshakeDone with
  | true =>
      rw [if_pos rfl]
      refine iff_of_false ?_ fun h => Bool.noConfusion h.1
      rintro ⟨t', h, hclosed⟩
      cases h
      exact absurd (ho.closed.symm.trans hclosed) Bool.false_ne_true
  | false =>
      rw [if_neg Bool.false_ne_true]
      exact (ho'.processHandshake_closed env).trans (and_iff_right rfl).symm

/-- A handshake that is done right now is checked. -/
structure Checks (t : Transport lib) (env : Env) (fingerprint : Fingerprint) : Prop where
  running : t.dtls.isRunning = true
  now : t.dtls.handshakeDoneNow = true ∨ env.handshakeDone = true
  first : t.dtls.handshakeDone = false
  fingerprint : t.dtls.remoteFingerprint = some fingerprint

/-- Whatever OpenSSL says of the status, only the end of a handshake fails. -/
theorem Open.checkStatus_error (ho : t.Open) (h : t.checkStatus env = .error fault) :
    HandshakeAbort lib env fault := by
  unfold Transport.checkStatus at h
  split at h
  case isTrue hnow =>
    rcases Checked.bind_eq_error.1 ((map_eq_pure_bind _ _).symm.trans h) with h | ⟨t₁, -, h⟩
    · exact ho.handshakeDone_error hnow h
    · cases h
  case isFalse =>
    split at h
    · rcases Checked.bind_eq_error.1 ((map_eq_pure_bind _ _).symm.trans h) with h | ⟨t₁, -, h⟩
      · have hstate : (if t.dtls.state = .connected then DtlsState.closed else .failed) = .failed ∨
            (if t.dtls.state = .connected then DtlsState.closed else .failed) = .closed := by
          split
          · exact .inr rfl
          · exact .inl rfl
        obtain ⟨t', hok, -⟩ := onDtlsEnded_ok t env hstate
        cases hok.symm.trans h
      · cases h
    · cases h

/-- `CheckStatus` returns `true` although the transport is deleted. -/
theorem Open.checkStatus_closed (ho : t.Open) (env : Env) :
    (∃ t', t.checkStatus env = .ok (t', true) ∧ t'.closed = true) ↔
      t.dtls.handshakeDoneNow = true ∧ t.dtls.handshakeDone = false ∧
        ∃ fingerprint, t.dtls.remoteFingerprint = some fingerprint ∧ Rejected env fingerprint := by
  unfold Transport.checkStatus
  cases hnow : t.dtls.handshakeDoneNow with
  | true =>
      rw [if_pos rfl, and_iff_right rfl, ← Open.handshakeDone_closed ho hnow]
      constructor
      · rintro ⟨t', h, hclosed⟩
        obtain ⟨t₁, h₁, h⟩ := Checked.bind_eq_ok.1 ((map_eq_pure_bind _ _).symm.trans h)
        cases h
        exact ⟨t', h₁, hclosed⟩
      · rintro ⟨t', h, hclosed⟩
        rw [h]
        exact ⟨t', rfl, hclosed⟩
  | false =>
      rw [if_neg Bool.false_ne_true]
      refine iff_of_false ?_ fun h => Bool.noConfusion h.1
      rintro ⟨t', h, hclosed⟩
      split at h
      · obtain ⟨t₁, -, h⟩ := Checked.bind_eq_ok.1 ((map_eq_pure_bind _ _).symm.trans h)
        cases h
      · cases h
        exact absurd (ho.closed.symm.trans hclosed) Bool.false_ne_true

/-- The timer of a deleted transport is used after it was freed. -/
theorem setTimeout_closed (ht : t.closed = true) : t.setTimeout env = .error .useAfterFree := if_pos ht

/-- A connection that is missing later was missing before. -/
theorem Dangling.of_eq (h : t'.Dangling fault) (hice : t'.ice = t.ice) (hconnections : t'.connections = t.connections) :
    t.Dangling fault := by
  unfold Dangling at h ⊢
  rwa [hice, hconnections] at h

/-- The data that `ProcessDtlsData` sends before it checks. -/
theorem Open.processDtlsData_sent (ho : t.Open) (hrunning : t.dtls.isRunning = true)
    (h : { t with dtls := t.dtls.onSslInfo env }.sendPendingOutgoingDtlsData env = .ok t') :
    t'.Open ∧ t'.dtls.remoteFingerprint = t.dtls.remoteFingerprint ∧
      t'.dtls.handshakeDone = t.dtls.handshakeDone ∧
      (t'.dtls.handshakeDoneNow = true ↔ t.dtls.handshakeDoneNow = true ∨ env.handshakeDone = true) := by
  obtain ⟨ho₁, -⟩ := ho.sslInfo hrunning env
  obtain ⟨ho', -, hdtls⟩ := ho₁.sendPending h
  rw [hdtls]
  refine ⟨ho', DtlsTransport.onSslInfo_remoteFingerprint _ env, ?_, ?_⟩
  · change (t.dtls.onSslInfo env).handshakeDone = _
    unfold DtlsTransport.onSslInfo
    split <;> rfl
  · change (t.dtls.onSslInfo env).handshakeDoneNow = true ↔ _
    unfold DtlsTransport.onSslInfo
    split
    case isTrue hdone => exact iff_of_true rfl (.inr hdone)
    case isFalse hdone => exact (or_iff_left hdone).symm

/-- Incoming DTLS data: a deleted connection, an abort, or a rejected handshake after which the deleted
transport is used. -/
theorem Open.processDtlsData_error (ho : t.Open) (h : t.processDtlsData env = .error fault) :
    t.Dangling fault ∨ HandshakeAbort lib env fault ∨
      (fault = .useAfterFree ∧ ∃ fingerprint, t.Checks env fingerprint ∧ Rejected env fingerprint) := by
  unfold Transport.processDtlsData at h
  split at h
  case isFalse => cases h
  case isTrue hrunning =>
    rcases Checked.bind_eq_error.1 h with h | ⟨t₁, h₁, h⟩
    · exact .inl (sendPending_error (t := { t with dtls := t.dtls.onSslInfo env }) ho.ice
        (.inr ho.selectedTuple) h)
    · obtain ⟨ho₁, hfingerprint, hdone, hnow⟩ := ho.processDtlsData_sent hrunning h₁
      rcases Checked.bind_eq_error.1 h with h | ⟨⟨t₂, ok⟩, h₂, h⟩
      · exact .inr (.inl (ho₁.checkStatus_error h))
      · cases ok with
        | false => cases h
        | true =>
            cases hclosed : t₂.closed with
            | false =>
                obtain ⟨t', hok⟩ := setTimeout_ok hclosed env
                cases hok.symm.trans h
            | true =>
                cases (setTimeout_closed hclosed).symm.trans h
                obtain ⟨hnow₁, hdone₁, fingerprint, hsome, hrejected⟩ :=
                  (ho₁.checkStatus_closed env).1 ⟨t₂, h₂, hclosed⟩
                refine .inr (.inr ⟨rfl, fingerprint, ⟨hrunning, hnow.1 hnow₁, ?_, ?_⟩, hrejected⟩)
                · rw [← hdone]
                  exact hdone₁
                · rw [← hfingerprint]
                  exact hsome

/-- **A handshake that is rejected deletes the transport, which is then used.** -/
theorem Open.processDtlsData_useAfterFree (ho : t.Open) (hconnections : ∀ fault, ¬ t.Dangling fault)
    {fingerprint : Fingerprint} (hchecks : t.Checks env fingerprint) (hrejected : Rejected env fingerprint) :
    t.processDtlsData env = .error .useAfterFree := by
  unfold Transport.processDtlsData
  rw [if_pos hchecks.running]
  cases h₁ : { t with dtls := t.dtls.onSslInfo env }.sendPendingOutgoingDtlsData env with
  | error fault =>
      exact absurd (sendPending_error (t := { t with dtls := t.dtls.onSslInfo env }) ho.ice
        (.inr ho.selectedTuple) h₁) (hconnections fault)
  | ok t₁ =>
      obtain ⟨ho₁, hfingerprint, hdone, hnow⟩ := ho.processDtlsData_sent hchecks.running h₁
      obtain ⟨t₂, h₂, hclosed⟩ := (ho₁.checkStatus_closed env).2
        ⟨hnow.2 hchecks.now, hdone.trans hchecks.first, fingerprint, hfingerprint.trans hchecks.fingerprint,
          hrejected⟩
      rw [Checked.ok_bind, h₂, Checked.ok_bind]
      exact setTimeout_closed hclosed

/-- The retransmission timer sends, and does nothing else that fails. -/
theorem Open.onTimer_error (ho : t.Open) (h : t.onTimer env = .error fault) : t.Dangling fault := by
  unfold Transport.onTimer at h
  rcases Checked.bind_eq_error.1 h with h | ⟨t₁, h₁, h⟩
  · exact sendPending_error (t := { t with dtls := { t.dtls.onSslInfo env with timer := false } }) ho.ice
      (.inr ho.selectedTuple) h
  · have hopen : t₁.closed = false := by
      rcases sendPending_eq (by exact .inr ho.selectedTuple) h₁ with rfl | ⟨tuple, rfl, -⟩
      · exact ho.closed
      · exact ho.closed
    obtain ⟨t', hok⟩ := setTimeout_ok hopen env
    cases hok.symm.trans h

/-- `Run` sends the first flight of a client. -/
theorem Open.run_error (ho : t.Open) {localRole : Role} (h : t.run env localRole = .error fault) :
    t.Dangling fault := by
  unfold Transport.run at h
  split at h
  · cases h
  · dsimp only at h
    revert h
    generalize (DtlsTransport.onSslInfo _ env : DtlsTransport) = dtls
    intro h
    split at h
    · rcases Checked.bind_eq_error.1 h with h | ⟨t₁, h₁, h⟩
      · exact sendPending_error (t := { t with dtls }.notify (.dtlsStateChange .connecting none)) ho.ice
          (.inr ho.selectedTuple) h
      · have hopen : t₁.closed = false := by
          rcases sendPending_eq (by exact .inr ho.selectedTuple) h₁ with rfl | ⟨tuple, rfl, -⟩
          · exact ho.closed
          · exact ho.closed
        obtain ⟨t', hok⟩ := setTimeout_ok hopen env
        cases hok.symm.trans h
    · cases h

/-- `MayRunDtlsTransport` fails as `Run` does, whatever the roles are. -/
theorem Open.mayRunDtlsTransport_error (ho : t.Open) (h : t.mayRunDtlsTransport env = .error fault) :
    t.Dangling fault := by
  unfold Transport.mayRunDtlsTransport at h
  rw [if_neg (by rw [ho.closed]; exact Bool.false_ne_true)] at h
  split at h
  · cases h
  · cases hrole : t.dtlsLocalRole with
    | none => exact absurd hrole ho.dtlsLocalRole
    | auto =>
        rw [hrole] at h
        dsimp only at h
        split at h
        · have ho' : Open { t with dtlsLocalRole := .server } :=
            { ho with told := ho.told, dtlsLocalRole := nofun, auto := nofun }
          exact ho'.run_error h
        · cases h
    | client =>
        rw [hrole] at h
        dsimp only at h
        split at h
        · exact ho.run_error h
        · cases h
    | server =>
        rw [hrole] at h
        dsimp only at h
        split at h
        · exact ho.run_error h
        · cases h

/-! ## The ICE server -/

variable {ice : IceServer} {tuple : Tuple} {msgs : List Stun.Message}

/-- Responses need the connection of the tuple. -/
theorem stun_calls_ok (h : msgs = [] ∨ t.hasConnection tuple = true) (env : Env) :
    ∃ t', (msgs.map (Ice.Call.onOutgoingStunMessage · tuple)).reverse.foldlM
      (fun t call => t.onIce env call) t = .ok t' := by
  rcases h with rfl | hconnection
  · exact ⟨t, rfl⟩
  have hconnected : ∀ (t₁ : Transport lib) msg, t₁.connections = t.connections →
      t₁.onIce env (.onOutgoingStunMessage msg tuple) = .ok (t₁.output (.stun msg tuple)) := by
    intro t₁ msg hsame
    have hcheck : t₁.checkConnection tuple = .ok () := by
      cases tuple with
      | udp => rfl
      | tcp connection peerAddress =>
          refine if_pos ?_
          rw [hsame]
          exact decide_eq_true_iff.1 hconnection
    change (t₁.checkConnection tuple >>= fun _ => pure (t₁.output (.stun msg tuple))) = _
    rw [hcheck]
    rfl
  have hcalls : ∀ (calls : List Ice.Call), (∀ call ∈ calls, ∃ msg, call = .onOutgoingStunMessage msg tuple) →
      ∀ t₁ : Transport lib, t₁.connections = t.connections →
        ∃ t', calls.foldlM (fun t call => t.onIce env call) t₁ = .ok t' := by
    intro calls
    induction calls with
    | nil => exact fun _ t₁ _ => ⟨t₁, rfl⟩
    | cons call calls ih =>
        intro hcall t₁ hsame
        obtain ⟨msg, rfl⟩ := hcall call List.mem_cons_self
        rw [List.foldlM_cons, hconnected t₁ msg hsame, Checked.ok_bind]
        exact ih (fun call hmem => hcall call (List.mem_cons_of_mem _ hmem)) _ hsame
  refine hcalls _ (fun call hmem => ?_) t rfl
  obtain ⟨msg, -, rfl⟩ := List.mem_map.1 (List.mem_reverse.1 hmem)
  exact ⟨msg, rfl⟩

/-- A tuple that is selected needs its connection, which is notified. -/
theorem selected_calls_error (hinv : ice.Inv) (htuples : t.ice.tuples = ice.tuples) {before : IceServer}
    (h : (IceServer.selectedCalls before ice).reverse.foldlM (fun t call => t.onIce env call) t =
      .error fault) :
    ∃ node tuple, ice.selectedTuple = some node ∧ (node, tuple) ∈ ice.tuples ∧
      t.checkConnection tuple = .error fault := by
  unfold IceServer.selectedCalls at h
  split at h
  · cases h
  · cases hnode : ice.selectedTuple with
    | none =>
        rw [hnode] at h
        cases h
    | some node =>
        obtain ⟨tuple, hlookup, hmem⟩ := lookup_of_inv hinv hnode
        rw [← htuples] at hlookup
        rw [hnode] at h
        change (t.onIce env (.onIceSelectedTuple node) >>= fun t => pure t) = _ at h
        rw [bind_pure] at h
        unfold onIce at h
        dsimp only at h
        rw [tupleAt_ok hlookup, Checked.ok_bind] at h
        rcases Checked.bind_eq_error.1 h with h | ⟨-, -, h⟩
        · exact ⟨node, tuple, rfl, hmem, h⟩
        · cases h

/-- While the ICE server is heard, a tuple may be selected whose connection is deleted, and DTLS data may be
sent to one. -/
theorem Open.withIce_error (ho : t.Open) (hinv : ice.Inv) (htells : t.ice.Tells tuple msgs ice)
    (htuples : ∀ storedTuple ∈ ice.tuples, storedTuple ∈ t.ice.tuples ∨ storedTuple.1 = t.ice.nodes)
    (hconnection : msgs = [] ∨ t.hasConnection tuple = true)
    (h : t.withIce env (.ok ice) = .error fault) :
    (∃ node stored, ice.selectedTuple = some node ∧ (node, stored) ∈ ice.tuples ∧
        t.checkConnection stored = .error fault) ∨
      (ice.state ≠ t.ice.state ∧ ({ t with ice } : Transport lib).Dangling fault) := by
  unfold Transport.withIce at h
  rw [show (Except.ok ice : Except Bytes.Fault IceServer).mapError Fault.ice = .ok ice from rfl,
    Checked.ok_bind, htells.calls, ho.calls, List.append_nil, List.reverse_append, List.reverse_append,
    List.append_assoc, List.foldlM_append] at h
  obtain ⟨t₁, h₁⟩ := stun_calls_ok (t := { t with ice := { ice with calls := [] } }) hconnection env
  rw [h₁, Checked.ok_bind, List.foldlM_append] at h
  rcases Checked.bind_eq_error.1 h with h | ⟨t₂, h₂, h⟩
  · obtain ⟨outs, heq, -⟩ := stun_calls h₁
    have htuples₁ : t₁.ice.tuples = ice.tuples := by rw [heq]
    have hconnections₁ : t₁.connections = t.connections := by rw [heq]
    obtain ⟨node, stored, hnode, hmem, hfails⟩ := selected_calls_error hinv htuples₁ h
    exact .inl ⟨node, stored, hnode, hmem, (checkConnection_congr hconnections₁ stored).symm.trans hfails⟩
  obtain ⟨selectedTuple, outs, rfl, htelling⟩ := ho.telling hinv htuples h₁ h₂
  unfold IceServer.stateCalls at h
  split at h
  · cases h
  case isFalse hstate =>
    refine .inr ⟨hstate, ?_⟩
    cases hnew : ice.state with
    | new => exact absurd (hnew.trans (htells.new hnew).symm) hstate
    | connected =>
        rw [hnew] at h
        change (onIce env _ .onIceConnected >>= pure) = _ at h
        rw [bind_pure] at h
        exact (htelling.of_connected ho hinv hnew (.inl rfl)).mayRunDtlsTransport_error h
    | completed =>
        rw [hnew] at h
        change (onIce env _ .onIceCompleted >>= pure) = _ at h
        rw [bind_pure] at h
        exact (htelling.of_connected ho hinv hnew (.inr rfl)).mayRunDtlsTransport_error h
    | disconnected =>
        rw [hnew] at h
        change (onIce env _ .onIceDisconnected >>= pure) = _ at h
        rw [bind_pure] at h
        have h : ({ t.tell ice selectedTuple outs with selectedTuple := none }.notify
          (.iceStateChange .disconnected)).destroy env = .error fault := h
        exact (destroy_error (by exact hinv) (.inl rfl) h :)

/-- A connection that is used while the ICE server is heard, and is deleted. -/
theorem Open.withIce_dangling (ho : t.Open) (hinv : ice.Inv) (htells : t.ice.Tells tuple msgs ice)
    (htuples : ∀ storedTuple ∈ ice.tuples, storedTuple ∈ t.ice.tuples ∨ storedTuple.1 = t.ice.nodes)
    (hconnection : msgs = [] ∨ t.hasConnection tuple = true)
    (h : t.withIce env (.ok ice) = .error fault) : ({ t with ice } : Transport lib).Dangling fault := by
  rcases ho.withIce_error hinv htells htuples hconnection h with ⟨node, stored, -, hmem, h⟩ | ⟨-, h⟩
  · obtain ⟨connection, peerAddress, rfl, hdeleted, rfl⟩ := checkConnection_error h
    exact ⟨node, connection, peerAddress, hmem, hdeleted, rfl⟩
  · exact h

/-! ## The events -/

/-- The event checks a handshake: a DTLS packet from a valid tuple with which the handshake is done, or the
request that announces the fingerprint after it. -/
inductive ChecksIn (t : Transport lib) (env : Env) (fingerprint : Fingerprint) : Event → Prop
  | dtls {tuple : Tuple} {data : List UInt8} (hdtls : Rtc.onPacketRecv data = .dtls)
      (hvalid : t.ice.isValidTuple tuple = .ok true) (hchecks : t.Checks env fingerprint) :
      ChecksIn t env fingerprint (.onPacketRecv tuple data)
  | announced {data : JsonCpp.Value} {role : Role} (hgiven : t.remoteDtlsParametersGiven = false)
      (hparameters : remoteDtlsParameters data = .ok (fingerprint, role))
      (hdone : t.dtls.handshakeDone = true) :
      ChecksIn t env fingerprint (.handleRequest (.setRemoteDtlsParameters data))

/-- The faults that an event may end with. -/
def MayFail (t : Transport lib) (e : Event) (env : Env) (fault : Fault) : Prop :=
  t.Dangling fault ∨ (∃ f, fault = .parser f) ∨ HandshakeAbort lib env fault ∨
    (t.remoteBitrateEstimator = true ∧ FeedAbort env fault) ∨
    (fault = .useAfterFree ∧ ∃ fingerprint, t.ChecksIn env fingerprint e ∧ Rejected env fingerprint)

/-- A packet is read too far. -/
theorem mapError_fails {α : Type} {x : Except Bytes.Fault α} (h : x.mapError Fault.parser = .error fault) :
    MayFail t e env fault := by
  cases x with
  | ok a => cases h
  | error f =>
      cases h
      exact .inr (.inl ⟨f, rfl⟩)

/-- A tuple is valid or not. -/
theorem Open.isValidTuple_ok (ho : t.Open) (tuple : Tuple) :
    ∃ valid, t.ice.isValidTuple tuple = .ok valid ∧ t.isValidTuple tuple = .ok valid := by
  obtain ⟨found, hfound, -⟩ := ho.ice.hasTuple_spec tuple
  have hvalid : t.ice.isValidTuple tuple = .ok found.isSome := by
    unfold IceServer.isValidTuple
    rw [hfound]
    rfl
  refine ⟨_, hvalid, ?_⟩
  unfold isValidTuple
  rw [hvalid]
  rfl

/-- A connection that is open can be used for every stored tuple that compares equal. -/
theorem checkConnection_of_compare {stored : Tuple} (hcompare : stored.compare tuple = true)
    (hconnection : t.hasConnection tuple = true) : t.checkConnection stored = .ok () := by
  cases stored with
  | udp => rfl
  | tcp connection peerAddress =>
      cases tuple with
      | udp => cases hcompare
      | tcp connection' peerAddress' =>
          rw [Tuple.compare, beq_iff_eq] at hcompare
          subst hcompare
          exact if_pos (decide_eq_true_iff.1 hconnection)

/-- Forcing a valid tuple needs the connection of a stored tuple that compares equal. -/
theorem Open.force_error (ho : t.Open) (hvalid : t.ice.isValidTuple tuple = .ok true)
    (h : t.withIce env (t.ice.forceSelectedTuple tuple) = .error fault) :
    ∃ node stored, (node, stored) ∈ t.ice.tuples ∧ stored.compare tuple = true ∧
      t.checkConnection stored = .error fault := by
  obtain ⟨found, hfound, -⟩ := ho.ice.hasTuple_spec tuple
  have hforce : ∃ ice, t.ice.forceSelectedTuple tuple = .ok ice := by
    unfold IceServer.isValidTuple at hvalid
    rw [hfound] at hvalid
    cases found with
    | none => cases hvalid
    | some node =>
        have hselected : t.ice.selectedTuple ≠ none := by
          intro hnone
          unfold IceServer.hasTuple at hfound
          rw [hnone] at hfound
          cases hfound
        unfold IceServer.forceSelectedTuple
        rw [Bytes.ensure_true hselected, Checked.ok_bind, hfound]
        exact ⟨_, rfl⟩
  obtain ⟨ice, hice⟩ := hforce
  rw [hice] at h
  have htuples := IceServer.forceSelectedTuple_tuples hice
  rcases ho.withIce_error (ho.ice.of_forceSelectedTuple hice)
    (IceServer.forceSelectedTuple_tells hice) (fun _ hmem => .inl (htuples ▸ hmem)) (.inl rfl) h with
    ⟨node, stored, hnode, hmem, h⟩ | ⟨hstate, -⟩
  · obtain ⟨node', stored', hnode', hmem', hcompare⟩ := IceServer.forceSelectedTuple_compare hice
    cases hnode.symm.trans hnode'
    -- the nodes are different, so it is the tuple that was found
    have hinv := ho.ice.of_forceSelectedTuple hice
    have hstored : stored = stored' := Option.some.inj
      (((Table.lookup_eq_some_iff hinv.nodup).2 hmem).symm.trans
        ((Table.lookup_eq_some_iff hinv.nodup).2 hmem'))
    exact ⟨node, stored, htuples ▸ hmem, hstored ▸ hcompare, h⟩
  · exact absurd (IceServer.forceSelectedTuple_state hice) hstate

/-- A valid tuple can be forced over its connection. -/
theorem Open.force_ok (ho : t.Open) (hvalid : t.ice.isValidTuple tuple = .ok true)
    (hconnection : t.hasConnection tuple = true) (env : Env) :
    ∃ t', t.withIce env (t.ice.forceSelectedTuple tuple) = .ok t' := by
  cases h : t.withIce env (t.ice.forceSelectedTuple tuple) with
  | ok t' => exact ⟨t', rfl⟩
  | error fault =>
      obtain ⟨node, stored, -, hcompare, herror⟩ := ho.force_error hvalid h
      cases (checkConnection_of_compare hcompare hconnection).symm.trans herror

/-- A STUN packet is parsed, and the ICE server handles it without a failing assertion. -/
theorem Open.onStunDataRecv_error (ho : t.Open) {data : List UInt8} (hconnection : t.hasConnection tuple = true)
    (h : t.onStunDataRecv env c tuple data = .error fault) : MayFail t e env fault := by
  unfold Transport.onStunDataRecv at h
  rcases Checked.bind_eq_error.1 h with h | ⟨parsed, -, h⟩
  · exact mapError_fails h
  · cases parsed with
    | none => cases h
    | some msg =>
        obtain ⟨ice, hice, hinv⟩ := ho.ice.processStunMessage c msg tuple env.overread
        dsimp only at h
        rw [hice] at h
        obtain ⟨msgs, -, htells⟩ := IceServer.processStunMessage_tells hice
        have htuples := IceServer.processStunMessage_tuples hice
        obtain ⟨node, connection, peerAddress, hmem, hdeleted, rfl⟩ := ho.withIce_dangling hinv htells
          (fun storedTuple hmem => (htuples storedTuple hmem).imp_right
            fun hnew => congrArg Prod.fst hnew.1) (.inr hconnection) h
        rcases htuples _ hmem with hstored | ⟨hnew, -⟩
        · exact .inl ⟨node, connection, peerAddress, hstored, hdeleted, rfl⟩
        · -- the connection of the packet is not deleted
          cases hnew
          exact absurd (decide_eq_true_iff.1 hconnection) hdeleted

/-- A DTLS packet from a valid tuple. -/
theorem Open.onDtlsDataRecv_error (ho : t.Open) {data : List UInt8} (hdtls : Rtc.onPacketRecv data = .dtls)
    (hconnection : t.hasConnection tuple = true)
    (h : t.onDtlsDataRecv env tuple = .error fault) :
    MayFail t (.onPacketRecv tuple data) env fault := by
  obtain ⟨valid, hice, hvalid⟩ := ho.isValidTuple_ok tuple
  unfold Transport.onDtlsDataRecv at h
  rw [hvalid, Checked.ok_bind] at h
  cases valid with
  | false => cases h
  | true =>
      rw [if_pos rfl] at h
      obtain ⟨t₁, h₁⟩ := ho.force_ok hice hconnection env
      rw [h₁, Checked.ok_bind] at h
      obtain ⟨ice, hhears, htuples, ho₁, hdtls₁⟩ := ho.force h₁
      split at h
      case isFalse => cases h
      case isTrue =>
        rcases ho₁.processDtlsData_error h with hdangling | habort | ⟨rfl, fingerprint, hchecks, hrejected⟩
        · obtain ⟨node, connection, peerAddress, hmem, hdeleted, rfl⟩ := hdangling
          rw [hhears.iceServer] at hmem
          rw [hhears.connections] at hdeleted
          exact .inl ⟨node, connection, peerAddress, htuples ▸ hmem, hdeleted, rfl⟩
        · exact .inr (.inr (.inl habort))
        · refine .inr (.inr (.inr (.inr ⟨rfl, fingerprint, .dtls hdtls hice ?_, hrejected⟩)))
          exact ⟨hdtls₁ ▸ hchecks.running, hdtls₁ ▸ hchecks.now, hdtls₁ ▸ hchecks.first,
            hdtls₁ ▸ hchecks.fingerprint⟩

/-- The session is there if the tuple is valid and the handshake is over. -/
theorem Open.recvSession_ok (ho : t.Open) (tuple : Tuple) :
    ∃ session, t.recvSession tuple = .ok session ∧
      ∀ s, session = some s → t.ice.isValidTuple tuple = .ok true := by
  obtain ⟨valid, hice, hvalid⟩ := ho.isValidTuple_ok tuple
  unfold Transport.recvSession
  split
  · split
    · exact ⟨none, rfl, fun s hs => by cases hs⟩
    case h_2 s hs =>
      rw [hvalid, Checked.ok_bind]
      cases valid with
      | false => exact ⟨none, rfl, fun s hs => by cases hs⟩
      | true => exact ⟨some s, rfl, fun _ _ => hice⟩
  · exact ⟨none, rfl, fun s hs => by cases hs⟩

/-- An RTCP packet is only parsed. -/
theorem Open.onRtcpDataRecv_error (ho : t.Open) {data : List UInt8}
    (h : t.onRtcpDataRecv tuple data = .error fault) : MayFail t e env fault := by
  obtain ⟨session, hsession, -⟩ := ho.recvSession_ok tuple
  unfold Transport.onRtcpDataRecv at h
  rw [hsession, Checked.ok_bind] at h
  cases session with
  | none => cases h
  | some s =>
      dsimp only at h
      split at h
      · cases h
      · rcases Checked.bind_eq_error.1 h with h | ⟨packets, -, h⟩
        · exact mapError_fails h
        · cases packets <;> cases h

/-- The time of an extension has 24 bits, so the first assertion of the estimator never fails. -/
theorem feed_error {packet : Rtp.Packet} (hsame : t'.remoteBitrateEstimator = t.remoteBitrateEstimator)
    (h : t'.feed env (env.received packet) = .error fault) : MayFail t e env fault := by
  unfold Transport.feed at h
  split at h
  case isFalse => cases h
  case isTrue henabled =>
    have hfeed : FeedAbort env fault → MayFail t e env fault := fun habort =>
      .inr (.inr (.inr (.inl ⟨hsame.symm.trans henabled, habort⟩)))
    unfold readAbsSendTime at h
    cases hexten : (env.received packet).getExtension .absSendTime with
    | error f =>
        rw [hexten] at h
        cases h
        exact hfeed (.outOfRange hexten)
    | ok exten =>
        rw [hexten] at h
        cases exten with
        | none => cases h
        | some exten =>
            obtain ⟨extenValue, extenLen⟩ := exten
            dsimp only at h
            split at h
            · cases h
            · cases hbytes : Byte.get3Bytes (env.received packet).buf extenValue with
              | error f =>
                  rw [hbytes] at h
                  cases h
                  exact .inr (.inl ⟨f, rfl⟩)
              | ok absSendTime =>
                  rw [hbytes] at h
                  change incomingPacket env absSendTime = _ at h
                  unfold incomingPacket at h
                  rw [if_pos (UInt32.lt_iff_toNat_lt.2 (Byte.get3Bytes_lt hbytes))] at h
                  split at h
                  · cases h
                  case h_2 desc hdesc =>
                    cases h
                    exact hfeed (.estimator hdesc)

/-- An RTP packet is parsed, found a receiver for, and fed to the estimator. -/
theorem Open.onRtpDataRecv_error (ho : t.Open) {data : List UInt8} (hconnection : t.hasConnection tuple = true)
    (h : t.onRtpDataRecv env tuple data = .error fault) : MayFail t e env fault := by
  obtain ⟨session, hsession, hvalid⟩ := ho.recvSession_ok tuple
  unfold Transport.onRtpDataRecv at h
  rw [hsession, Checked.ok_bind] at h
  cases session with
  | none => cases h
  | some s =>
      have hs := (ho.recvSession hsession).session
      dsimp only [SrtpSession.decrypt] at h
      split at h
      · rcases Checked.bind_eq_error.1 h with h | ⟨parsed, -, h⟩
        · exact mapError_fails h
        · cases h
      · rcases Checked.bind_eq_error.1 h with h | ⟨parsed, -, h⟩
        · exact mapError_fails h
        · cases parsed with
          | none => cases h
          | some packet =>
              dsimp only at h
              revert h
              generalize t.rtpListener.getRtpReceiver env.codecs packet.getSsrc packet.getPayloadType =
                found
              intro h
              obtain ⟨rtpReceiver, rtpListener⟩ := found
              cases rtpReceiver with
              | none => cases h
              | some rtpReceiver =>
                  have ho' := (ho.recv_session hs (s.decrypt_sameKey lib.keeps_unprotect data) rtpListener).1
                  obtain ⟨t₁, h₁⟩ := ho'.force_ok (hvalid s rfl) hconnection env
                  obtain ⟨ice, hhears, -⟩ := ho'.force h₁
                  have hremb : t₁.remoteBitrateEstimator = t.remoteBitrateEstimator :=
                    hhears.remoteBitrateEstimator
                  dsimp only [SrtpSession.decrypt] at h h₁
                  rw [h₁, Checked.ok_bind] at h
                  rcases Checked.bind_eq_error.1 h with h | ⟨-, -, h⟩
                  · exact feed_error (by exact hremb) h
                  · cases h

/-- The peer closes a connection, and another tuple is selected. -/
theorem Open.onRtcTcpConnectionClosed_error (ho : t.Open) {connection : Nat} {peerAddress : Ice.RemoteAddr}
    {isClosedByPeer : Bool}
    (h : t.onRtcTcpConnectionClosed env connection peerAddress isClosedByPeer = .error fault) :
    t.Dangling fault := by
  unfold Transport.onRtcTcpConnectionClosed at h
  cases isClosedByPeer with
  | false => cases h
  | true =>
      rcases Checked.bind_eq_error.1 ((map_eq_pure_bind _ _).symm.trans h) with h | ⟨t₁, -, h⟩
      · have htuples := t.ice.removeTuple_tuples (.tcp connection peerAddress)
        obtain ⟨node, connection', peerAddress', hmem, hdeleted, rfl⟩ :=
          ho.withIce_dangling (ho.ice.removeTuple _) (IceServer.removeTuple_tells ho.ice _)
            (fun storedTuple hmem => .inl (htuples storedTuple hmem)) (.inl rfl) h
        exact ⟨node, connection', peerAddress', htuples _ hmem, hdeleted, rfl⟩
      · cases h

/-- `SendRtpPacket` and `SendRtcpPacket`. -/
theorem Open.encrypts_error (ho : t.Open) {node : Nat} (hselected : t.selectedTuple = some node)
    {s : SrtpSession lib} {plain : List UInt8} {f : σ → List UInt8 → Option (List UInt8) × σ}
    (protect : lib.Keeps f) (o : Tuple → List UInt8 → Output lib)
    (h : (match (s.encrypt protect plain).1 with
      | none => Except.ok { t with srtpSendSession := some (s.encrypt protect plain).2 }
      | some data =>
          sendSelected { t with srtpSendSession := some (s.encrypt protect plain).2 } node
            fun tuple => o tuple data) = .error fault) : t.Dangling fault := by
  split at h
  · cases h
  · have hdangling := sendSelected_error (by exact ho.ice)
      (by exact ho.selectedTuple.symm.trans hselected) h
    exact hdangling

/-- An RTP packet is sent to the selected tuple. -/
theorem Open.sendRtpPacket_error (ho : t.Open) {plain : List UInt8}
    (h : t.sendRtpPacket plain = .error fault) : t.Dangling fault := by
  unfold Transport.sendRtpPacket at h
  split at h
  case h_1 node s hselected hs =>
    exact ho.encrypts_error hselected lib.keeps_protect (fun tuple data => .srtp tuple s plain data) h
  · cases h

/-- An RTCP packet is sent to the selected tuple. -/
theorem Open.sendRtcpPacket_error (ho : t.Open) {plain : List UInt8}
    (h : t.sendRtcpPacket plain = .error fault) : t.Dangling fault := by
  unfold Transport.sendRtcpPacket at h
  split at h
  case h_1 node s hselected hs =>
    exact ho.encrypts_error hselected lib.keeps_protectRtcp (fun tuple data => .srtcp tuple s plain data) h
  · cases h

/-- The request with the fingerprint, after what it answers. -/
theorem Open.setRemoteDtlsParameters_eq (ho : t.Open) (env : Env)
    (hgiven : t.remoteDtlsParametersGiven = false) {data : JsonCpp.Value} {fingerprint : Fingerprint}
    {role : Role}
    (hparameters : remoteDtlsParameters data = .ok (fingerprint, role)) :
    ∃ t₀ : Transport lib, t₀.Open ∧ t₀.ice = t.ice ∧ t₀.connections = t.connections ∧
      t₀.dtls.handshakeDone = t.dtls.handshakeDone ∧ t₀.dtls.state ≠ .connected ∧
      t₀.dtls.remoteFingerprint = some fingerprint ∧
      t.setRemoteDtlsParameters env data =
        (if t₀.dtls.handshakeDone ∧ t₀.dtls.state ≠ .connected then t₀.processHandshake env else .ok t₀) >>=
          fun t => t.mayRunDtlsTransport env := by
  have hnone : t.dtls.remoteFingerprint = none :=
    not_not.1 (mt ho.given (by rw [hgiven]; exact Bool.false_ne_true))
  have hstate : t.dtls.state ≠ .connected := fun hconnected => (ho.dtls.connected hconnected).2 hnone
  have hrole := localRoleFor_cases role
  unfold Transport.setRemoteDtlsParameters
  rw [hgiven, if_neg Bool.false_ne_true]
  dsimp only
  rw [hparameters]
  dsimp only
  generalize localRoleFor role = dtlsLocalRole at hrole ⊢
  generalize JsonCpp.Value.object [("role", .string (if dtlsLocalRole = .client then "client" else
    "server"))] = answer
  have ho₀ : ({ t with remoteDtlsParametersGiven := true, dtlsLocalRole }.output (.accept answer)).Open :=
    { ho with
      told := ho.told.of_outs [.accept answer] rfl rfl
      dtlsLocalRole := by rcases hrole with rfl | rfl <;> exact nofun
      auto := by rcases hrole with rfl | rfl <;> exact nofun
      given := fun _ => rfl }
  exact ⟨_, ho₀.announce hnone fingerprint, rfl, rfl, rfl, hstate, rfl, rfl⟩

/-- The announced fingerprint may check a handshake that was done before, and DTLS is run. -/
theorem Open.setRemoteDtlsParameters_error (ho : t.Open) {data : JsonCpp.Value}
    (h : t.setRemoteDtlsParameters env data = .error fault) :
    MayFail t (.handleRequest (.setRemoteDtlsParameters data)) env fault := by
  cases hgiven : t.remoteDtlsParametersGiven with
  | true =>
      unfold Transport.setRemoteDtlsParameters at h
      rw [if_pos hgiven] at h
      cases h
  | false =>
      cases hparameters : remoteDtlsParameters data with
      | error reason =>
          unfold Transport.setRemoteDtlsParameters at h
          rw [if_neg (by rw [hgiven]; exact Bool.false_ne_true)] at h
          dsimp only at h
          rw [hparameters] at h
          cases h
      | ok found =>
          obtain ⟨fingerprint, role⟩ := found
          obtain ⟨t₀, ho₀, hice, hconnections, hdone, hstate, hfingerprint, heq⟩ :=
            ho.setRemoteDtlsParameters_eq env hgiven hparameters
          rw [heq] at h
          have hdangling : t₀.Dangling fault → MayFail t
              (.handleRequest (.setRemoteDtlsParameters data)) env fault := fun hd =>
            .inl (hd.of_eq hice hconnections)
          split at h
          case isFalse =>
            exact hdangling (ho₀.mayRunDtlsTransport_error h)
          case isTrue hchecked =>
            rcases Checked.bind_eq_error.1 h with h | ⟨t₁, h₁, h⟩
            · exact .inr (.inr (.inl (ho₀.processHandshake_error hchecked.1 h)))
            · have hgoes := ho₀.processHandshake hchecked.1 h₁
              rcases hgoes.state with ⟨ho₁, -⟩ | hended
              · exact hdangling ((ho₁.mayRunDtlsTransport_error h).of_eq hgoes.signals.ice
                  hgoes.signals.connections)
              · obtain ⟨fingerprint', hsome, hrejected⟩ :=
                  (ho₀.processHandshake_closed env).1 ⟨t₁, h₁, hended.closed⟩
                cases hfingerprint.symm.trans hsome
                unfold Transport.mayRunDtlsTransport at h
                rw [if_pos hended.closed] at h
                cases h
                exact .inr (.inr (.inr (.inr ⟨rfl, fingerprint,
                  .announced hgiven hparameters (hdone ▸ hchecked.1), hrejected⟩)))

/-- **The faults of one event.** -/
theorem Open.handle_fault (ho : t.Open) (henabled : t.enabled e = true)
    (h : t.handle c env e = .error fault) : MayFail t e env fault := by
  cases e with
  | onPacketRecv tuple data =>
      have hconnection : t.hasConnection tuple = true := (Bool.and_eq_true_iff.1 henabled).2
      change t.onPacketRecv env c tuple data = _ at h
      unfold Transport.onPacketRecv at h
      cases hkind : Rtc.onPacketRecv data with
      | stun => rw [hkind] at h; exact ho.onStunDataRecv_error hconnection h
      | rtcp => rw [hkind] at h; exact ho.onRtcpDataRecv_error h
      | rtp => rw [hkind] at h; exact ho.onRtpDataRecv_error hconnection h
      | dtls => rw [hkind] at h; exact ho.onDtlsDataRecv_error hkind hconnection h
      | ignored => rw [hkind] at h; cases h
  | newTcpConnection connection => cases h
  | onRtcTcpConnectionClosed connection peerAddress isClosedByPeer =>
      exact .inl (ho.onRtcTcpConnectionClosed_error h)
  | handleRequest request =>
      cases request with
      | close =>
          rcases Checked.bind_eq_error.1 h with h | ⟨t₁, -, h⟩
          · exact .inl (destroy_error ho.ice (.inr ho.selectedTuple) h)
          · cases h
      | setRemoteDtlsParameters data => exact ho.setRemoteDtlsParameters_error h
      | changeUfragPwd usernameFragment password => cases h
  | onTimer => exact .inl (ho.onTimer_error h)
  | sendRtpPacket plain => exact .inl (ho.sendRtpPacket_error h)
  | sendRtcpPacket plain => exact .inl (ho.sendRtcpPacket_error h)
  | addRtpReceiver rtpReceiver rtpParameters => cases h
  | removeRtpReceiver rtpReceiver => cases h
  | enableRemb => cases h
  | destroy => exact .inl (destroy_error ho.ice (.inr ho.selectedTuple) h)

/-- **A handshake that is rejected is a use after free.** -/
theorem Open.handle_useAfterFree (ho : t.Open) (hconnections : ∀ fault, ¬ t.Dangling fault)
    {fingerprint : Fingerprint} (hchecks : t.ChecksIn env fingerprint e) (hrejected : Rejected env fingerprint) :
    t.handle c env e = .error .useAfterFree := by
  cases hchecks with
  | @dtls tuple data hdtls hvalid hchecks =>
      obtain ⟨valid, hice, hvalid'⟩ := ho.isValidTuple_ok tuple
      cases hice.symm.trans hvalid
      obtain ⟨t₁, h₁⟩ : ∃ t₁, t.withIce env (t.ice.forceSelectedTuple tuple) = .ok t₁ := by
        cases h₁ : t.withIce env (t.ice.forceSelectedTuple tuple) with
        | ok t₁ => exact ⟨t₁, rfl⟩
        | error fault =>
            obtain ⟨node, stored, hmem, -, herror⟩ := ho.force_error hvalid h₁
            obtain ⟨connection, peerAddress, rfl, hdeleted, rfl⟩ := checkConnection_error herror
            exact absurd ⟨node, connection, peerAddress, hmem, hdeleted, rfl⟩ (hconnections _)
      obtain ⟨ice, hhears, htuples, ho₁, hdtls₁⟩ := ho.force h₁
      have hdangling : ∀ fault, ¬ t₁.Dangling fault := by
        rintro fault ⟨node, connection, peerAddress, hmem, hdeleted, rfl⟩
        rw [hhears.iceServer] at hmem
        rw [hhears.connections] at hdeleted
        exact hconnections _ ⟨node, connection, peerAddress, htuples ▸ hmem, hdeleted, rfl⟩
      have hchecks₁ : t₁.Checks env fingerprint :=
        ⟨hdtls₁ ▸ hchecks.running, hdtls₁ ▸ hchecks.now, hdtls₁ ▸ hchecks.first,
          hdtls₁ ▸ hchecks.fingerprint⟩
      change t.onPacketRecv env c tuple data = _
      unfold Transport.onPacketRecv
      rw [hdtls]
      change t.onDtlsDataRecv env tuple = _
      unfold Transport.onDtlsDataRecv
      rw [hvalid', Checked.ok_bind, if_pos rfl, h₁, Checked.ok_bind, if_pos hchecks₁.running]
      exact ho₁.processDtlsData_useAfterFree hdangling hchecks₁ hrejected
  | @announced data role hgiven hparameters hdone =>
      obtain ⟨t₀, ho₀, -, -, hdone₀, hstate, hfingerprint, heq⟩ :=
        ho.setRemoteDtlsParameters_eq env hgiven hparameters
      change t.setRemoteDtlsParameters env data = _
      rw [heq, if_pos ⟨hdone₀.trans hdone, hstate⟩]
      obtain ⟨t₁, h₁, hclosed⟩ := (ho₀.processHandshake_closed env).2
        ⟨fingerprint, hfingerprint, hrejected⟩
      rw [h₁, Checked.ok_bind]
      exact if_pos hclosed

/-! ## The run -/

variable {usernameFragment password : List UInt8} {es : List (Event × Env)}

/-- This side has closed the connection, and its tuple is not removed. -/
def ClosedHere (es : List (Event × Env)) (connection : Nat) : Prop :=
  ∃ peerAddress env, (Event.onRtcTcpConnectionClosed connection peerAddress false, env) ∈ es

/-- A stored tuple has its connection, unless this side has closed it. -/
def Connected (es : List (Event × Env)) (t : Transport lib) : Prop :=
  ∀ node connection peerAddress, (node, Tuple.tcp connection peerAddress) ∈ t.ice.tuples →
    connection ∈ t.connections ∨ ClosedHere es connection

/-- A tuple that is stored now came over a connection that there was, and only this side takes a connection
away and leaves its tuple. -/
theorem Connected.step {x : Event × Env} (h : t.Connected es) (henabled : t.enabled x.1 = true)
    (hhandles : t.Handles c x.1 x.2 t') : t'.Connected (es ++ [x]) := by
  intro node connection peerAddress hmem
  have hconnection : connection ∈ t.connections ∨ ClosedHere es connection := by
    rcases hhandles.tuples _ hmem with hmem | ⟨data, msg, hevent, -⟩
    · exact h node connection peerAddress hmem
    · -- the tuple is new, and the packet has come over its connection
      rw [hevent] at henabled
      exact .inl (decide_eq_true_iff.1 (Bool.and_eq_true_iff.1 henabled).2)
  rcases hconnection with hconnection | ⟨peerAddress', env', hclosed⟩
  · rcases hhandles.connections connection hconnection with hkept | ⟨peerAddress', isClosedByPeer, hevent, hremoved⟩
    · exact .inl hkept
    · cases isClosedByPeer with
      | true =>
          have hcompare := hremoved rfl _ hmem
          rw [Tuple.compare, beq_self_eq_true] at hcompare
          cases hcompare
      | false =>
          refine .inr ⟨peerAddress', x.2, List.mem_append_right _ (List.mem_singleton.2 ?_)⟩
          rw [← hevent]
  · exact .inr ⟨peerAddress', env', List.mem_append_left _ hclosed⟩

/-- A stored tuple has its connection in every run, or this side has closed it. -/
theorem run_connected (h : Machine.exec (step c) (new lib usernameFragment password) es = some t) :
    t.Connected es := by
  have hstep : ∀ (s : Transport lib) pre x s', (s.Open ∨ s.Ended) ∧ s.Connected pre →
      step c s x = some s' → (s'.Open ∨ s'.Ended) ∧ s'.Connected (pre ++ [x]) := by
    rintro s pre x s' ⟨hstate, hconnected⟩ hstep
    obtain ⟨-, hhandles⟩ := step_handles hstate hstep
    exact ⟨hhandles.state, hconnected.step (step_eq hstep).1 hhandles⟩
  have hnew : (new lib usernameFragment password).Connected [] :=
    fun _ _ _ hmem => absurd hmem List.not_mem_nil
  exact (Machine.exec_inv_history (I := fun s pre => _ ∧ Connected pre s) hstep h
    ⟨.inl (new_open _ _), hnew⟩).2

/-- **The use after free.** In every run in which this side closes no connection, an event uses the transport
after it was deleted if and only if it checks a handshake that is rejected. -/
theorem useAfterFree_iff {x : Event × Env}
    (h : Machine.exec (step c) (new lib usernameFragment password) es = some t)
    (henabled : t.enabled x.1 = true) (hclosed : ∀ connection, ¬ ClosedHere es connection) :
    t.handle c x.2 x.1 = .error .useAfterFree ↔
      ∃ fingerprint, t.ChecksIn x.2 fingerprint x.1 ∧ Rejected x.2 fingerprint := by
  constructor
  · intro hfault
    have ho : t.Open := (run_state h).resolve_right fun hended =>
      absurd ((enabled_open henabled).symm.trans hended.closed) nofun
    rcases ho.handle_fault henabled hfault with
      ⟨_, _, _, _, _, heq⟩ | ⟨_, heq⟩ | habort | ⟨-, habort⟩ | ⟨-, hrejected⟩
    · cases heq
    · cases heq
    · cases habort
    · cases habort
    · exact hrejected
  · rintro ⟨fingerprint, hchecks, hrejected⟩
    have ho : t.Open := (run_state h).resolve_right fun hended =>
      absurd ((enabled_open henabled).symm.trans hended.closed) nofun
    refine ho.handle_useAfterFree ?_ hchecks hrejected
    rintro fault ⟨node, connection, peerAddress, hmem, hdeleted, -⟩
    exact hclosed connection ((run_connected h node connection peerAddress hmem).resolve_left hdeleted)

/-- ICE is completed, and the fingerprint is announced. -/
def sampleAnnounced : Transport sampleLib :=
  (Machine.exec (step Stun.sampleCrypto) (new sampleLib [97] [1]) (sampleRun.take 2)).getD
    (new sampleLib [97] [1])

set_option maxRecDepth 20000 in
/-- The first two events of the run announce the fingerprint. -/
theorem exec_sampleAnnounced :
    Machine.exec (step Stun.sampleCrypto) (new sampleLib [97] [1]) (sampleRun.take 2) = some sampleAnnounced :=
  rfl

/-- The handshake is done, with another certificate. -/
def sampleWrong : Env := { sampleHandshake with certificate := some ⟨fun _ => some [0xcd], some "pem"⟩ }

set_option maxRecDepth 20000 in
/-- The DTLS packet of the valid tuple checks the handshake. -/
theorem checks_sampleWrong : sampleAnnounced.ChecksIn sampleWrong ⟨.sha1, "ab"⟩
    (.onPacketRecv samplePeer (22 :: List.replicate 12 0)) :=
  .dtls rfl rfl ⟨rfl, .inr rfl, rfl, rfl⟩

set_option maxRecDepth 20000 in
/-- A peer with another certificate than it announced. -/
theorem wrong_certificate_useAfterFree : sampleAnnounced.handle Stun.sampleCrypto sampleWrong
    (.onPacketRecv samplePeer (22 :: List.replicate 12 0)) = .error .useAfterFree := by
  refine (useAfterFree_iff (x := (.onPacketRecv samplePeer (22 :: List.replicate 12 0), sampleWrong))
    exec_sampleAnnounced rfl ?_).2 ⟨_, checks_sampleWrong, .inl rfl⟩
  rintro connection ⟨peerAddress, env, hmem⟩
  rcases List.mem_cons.1 hmem with hmem | hmem
  · cases hmem
  · cases List.mem_singleton.1 hmem

end Transport

end KoreWebsocket.Dtls
