import KoreWebsocket.Dtls.Transport
import KoreWebsocket.Ice.Calls

/-!
# The states of a transport (`RTC::Transport`, `mediasoup_1/soup`)

`Open` is the invariant of a transport that is not closed. The pointer to the selected tuple is that of the
ICE server, so that it points to a stored tuple; the DTLS transport has a role just while it runs; and the
keys of a session come from a handshake whose certificate has the announced fingerprint (`Verified`). The
notifications tell all of the state that `view` has. `Ended` has what is left of a closed transport.

A function that returns has told its listeners what it did: `Signals` says which outputs it added.
-/

namespace KoreWebsocket.Dtls

open Ice (IceServer IceState Tuple)

variable {σ : Type} {lib : LibSrtp σ}

/-! ## What is notified -/

/-- What an observer knows of a transport. -/
structure View where
  iceState : IceState := .new
  dtlsState : DtlsState := .new
  selectedTuple : Option Tuple := none
  closed : Bool := false

/-- The observer is notified. -/
def View.see (v : View) : Output lib → View
  | .notify (.iceSelectedTupleChange tuple) => { v with selectedTuple := some tuple }
  | .notify (.iceStateChange iceState) =>
      { v with
        iceState
        selectedTuple := if iceState = .disconnected then none else v.selectedTuple }
  | .notify (.dtlsStateChange dtlsState _) => { v with dtlsState }
  | .notify .close => { v with selectedTuple := none, closed := true }
  | .onTransportClosed => { v with closed := true }
  | _ => v

/-- What is known after everything that is logged. -/
def view (log : List (Output lib)) : View := log.foldr (fun o v => v.see o) {}

@[simp] theorem view_cons (o : Output lib) (log : List (Output lib)) : view (o :: log) = (view log).see o := rfl

/-- The end is seen only when it is notified. -/
theorem View.see_closed {v : View} {o : Output lib} (h : (v.see o).closed = false) :
    v.closed = false ∧ o ≠ .notify .close ∧ o ≠ .onTransportClosed := by
  cases o with
  | notify n =>
      cases n with
      | close => cases h
      | iceSelectedTupleChange | iceStateChange | dtlsStateChange => exact ⟨h, nofun, nofun⟩
  | onTransportClosed => cases h
  | _ => exact ⟨h, nofun, nofun⟩

/-- Before that, it was not notified. -/
theorem view_closed {log : List (Output lib)} (h : (view log).closed = false) :
    ∀ o ∈ log, o ≠ .notify .close ∧ o ≠ .onTransportClosed := by
  induction log with
  | nil => exact fun _ hmem => absurd hmem List.not_mem_nil
  | cons o log ih =>
      obtain ⟨hlog, hne⟩ := View.see_closed h
      exact List.forall_mem_cons.2 ⟨hne, ih hlog⟩

namespace Transport

/-- What there is to know. -/
def view (t : Transport lib) : View where
  iceState := t.ice.state
  dtlsState := t.dtls.state
  selectedTuple := t.selectedTuple.bind fun node => t.ice.tuples.lookup node
  closed := t.closed

/-- The notifications have told it. -/
def Told (t : Transport lib) : Prop := Dtls.view t.log = t.view

end Transport

/-! ## The invariant -/

namespace DtlsTransport

/-- The members of a DTLS transport fit together. -/
structure Coherent (d : DtlsTransport) : Prop where
  running : d.isRunning = true ↔ d.localRole ≠ .none
  localRole : d.localRole ≠ .auto
  state : d.state ≠ .failed ∧ d.state ≠ .closed
  done : d.handshakeDone = true ∨ d.handshakeDoneNow = true ∨ d.timer = true → d.isRunning = true
  connected : d.state = .connected → d.handshakeDone = true ∧ d.remoteFingerprint ≠ none

/-- It is as it was in the beginning, but for the fingerprint. -/
structure Idle (d : DtlsTransport) : Prop where
  localRole : d.localRole = .none
  state : d.state = .new
  handshakeDone : d.handshakeDone = false
  handshakeDoneNow : d.handshakeDoneNow = false
  timer : d.timer = false

variable {d : DtlsTransport}

/-- DTLS runs while it connects and while it is connected. -/
theorem isRunning_iff : d.isRunning = true ↔ d.state = .connecting ∨ d.state = .connected := by
  rw [isRunning, Bool.or_eq_true, decide_eq_true_iff, decide_eq_true_iff]

/-- When DTLS does not run, nothing of a handshake is left. -/
theorem Coherent.idle (h : d.Coherent) (hrunning : d.isRunning = false) : d.Idle := by
  have hnot : ¬ d.isRunning = true := by rw [hrunning]; exact Bool.false_ne_true
  have hdone := mt h.done hnot
  simp only [not_or, Bool.not_eq_true] at hdone
  refine ⟨not_not.1 (mt h.running.2 hnot), ?_, hdone.1, hdone.2.1, hdone.2.2⟩
  rw [isRunning_iff, not_or] at hnot
  cases hstate : d.state with
  | new => rfl
  | connecting => exact absurd hstate hnot.1
  | connected => exact absurd hstate hnot.2
  | failed => exact absurd hstate h.state.1
  | closed => exact absurd hstate h.state.2

/-- After a reset nothing of a handshake is left. -/
theorem Coherent.reset_idle (h : d.Coherent) : d.reset.Idle := by
  unfold reset
  split
  · exact ⟨rfl, rfl, rfl, rfl, rfl⟩
  case isFalse hrunning => exact h.idle (Bool.eq_false_iff.2 hrunning)

/-- A reset keeps the announced fingerprint. -/
@[simp] theorem reset_remoteFingerprint (d : DtlsTransport) :
    d.reset.remoteFingerprint = d.remoteFingerprint := by
  unfold reset
  split <;> rfl

/-- What OpenSSL reports does not change the state. -/
@[simp] theorem onSslInfo_state (d : DtlsTransport) (env : Env) : (d.onSslInfo env).state = d.state := by
  unfold onSslInfo
  split <;> rfl

@[simp] theorem onSslInfo_remoteFingerprint (d : DtlsTransport) (env : Env) :
    (d.onSslInfo env).remoteFingerprint = d.remoteFingerprint := by
  unfold onSslInfo
  split <;> rfl

@[simp] theorem onSslInfo_localRole (d : DtlsTransport) (env : Env) :
    (d.onSslInfo env).localRole = d.localRole := by
  unfold onSslInfo
  split <;> rfl

@[simp] theorem onSslInfo_isRunning (d : DtlsTransport) (env : Env) :
    (d.onSslInfo env).isRunning = d.isRunning := by
  rw [isRunning, isRunning, onSslInfo_state]

/-- OpenSSL may report that a handshake is done while DTLS runs. -/
theorem Coherent.onSslInfo (h : d.Coherent) (hrunning : d.isRunning = true) (env : Env) :
    (d.onSslInfo env).Coherent where
  running := by rw [onSslInfo_isRunning, onSslInfo_localRole]; exact h.running
  localRole := by rw [onSslInfo_localRole]; exact h.localRole
  state := by rw [onSslInfo_state]; exact h.state
  done _ := by rw [onSslInfo_isRunning]; exact hrunning
  connected hconnected := by
    rw [onSslInfo_state] at hconnected
    rw [onSslInfo_remoteFingerprint]
    refine ⟨?_, (h.connected hconnected).2⟩
    have hdone := (h.connected hconnected).1
    unfold DtlsTransport.onSslInfo
    split
    · exact hdone
    · exact hdone

end DtlsTransport

/-- A session of the same handshake, with the same key. -/
structure SrtpSession.SameKey (s s' : SrtpSession lib) : Prop where
  type : s'.type = s.type
  key : s'.key = s.key
  handshake : s'.handshake = s.handshake

/-- The key of a direction, of the local and the remote one. -/
def SrtpType.keyOf : SrtpType → List UInt8 × List UInt8 → List UInt8
  | .outbound, (srtpLocalKey, _) => srtpLocalKey
  | .inbound, (_, srtpRemoteKey) => srtpRemoteKey

/-- The certificate of the handshake has the announced fingerprint, and the session has the key of its
direction. -/
structure SrtpSession.Verified (s : SrtpSession lib) (type : SrtpType) (fingerprint : Option Fingerprint) :
    Prop where
  sessionType : s.type = type
  fingerprint : fingerprint = some s.handshake.fingerprint
  digest : ∃ digest, s.handshake.certificate.digest s.handshake.fingerprint.algorithm = some digest ∧
    s.handshake.fingerprint.value = hexFingerprint digest
  keys : ∃ keys, srtpKeys s.handshake.material s.handshake.localRole = some keys ∧ s.key = type.keyOf keys

/-- A packet leaves the key of a session. -/
theorem SrtpSession.Verified.of_sameKey {s s' : SrtpSession lib} {type : SrtpType}
    {fingerprint : Option Fingerprint} (h : s.Verified type fingerprint) (hsame : s.SameKey s') :
    s'.Verified type fingerprint where
  sessionType := hsame.type.trans h.sessionType
  fingerprint := by rw [hsame.handshake]; exact h.fingerprint
  digest := by rw [hsame.handshake]; exact h.digest
  keys := by rw [hsame.handshake, hsame.key]; exact h.keys

/-- To encrypt keeps the key of the session. -/
theorem SrtpSession.encrypt_sameKey {f : σ → List UInt8 → Option (List UInt8) × σ} (protect : lib.Keeps f)
    (s : SrtpSession lib) (data : List UInt8) : s.SameKey (s.encrypt protect data).2 := by
  unfold encrypt
  split
  · exact ⟨rfl, rfl, rfl⟩
  · exact ⟨rfl, rfl, rfl⟩

/-- To decrypt keeps it too. -/
theorem SrtpSession.decrypt_sameKey {f : σ → List UInt8 → Option (List UInt8) × σ} (unprotect : lib.Keeps f)
    (s : SrtpSession lib) (data : List UInt8) : s.SameKey (s.decrypt unprotect data).2 := ⟨rfl, rfl, rfl⟩

namespace Transport

/-- The invariant of a transport that is not closed. -/
structure Open (t : Transport lib) : Prop where
  closed : t.closed = false
  ice : t.ice.Inv
  calls : t.ice.calls = []
  selectedTuple : t.selectedTuple = t.ice.selectedTuple
  told : t.Told
  dtls : t.dtls.Coherent
  dtlsLocalRole : t.dtlsLocalRole ≠ .none
  auto : t.dtlsLocalRole = .auto → t.dtls.localRole = .none
  given : t.dtls.remoteFingerprint ≠ none → t.remoteDtlsParametersGiven = true
  send : ∀ s ∈ t.srtpSendSession, s.Verified .outbound t.dtls.remoteFingerprint
  recv : ∀ s ∈ t.srtpRecvSession, s.Verified .inbound t.dtls.remoteFingerprint

/-- What is left of a closed transport: it has told its end, and then at most answered a request. -/
structure Ended (t : Transport lib) : Prop where
  closed : t.closed = true
  told : t.Told
  log : ∃ (after : List JsonCpp.Value) (before : List (Output lib)),
    t.log = after.map Output.accept ++ .onTransportClosed :: .notify .close :: before ∧
      (Dtls.view before).closed = false

/-- What `Destroy` needs. -/
structure Destroyable (t : Transport lib) : Prop where
  closed : t.closed = false
  selectedTuple : t.selectedTuple = none ∨ t.selectedTuple = t.ice.selectedTuple
  told : t.Told

end Transport

/-- The handshake was done in an event. -/
structure Handshake.From (h : Handshake) (env : Env) : Prop where
  certificate : env.certificate = some h.certificate
  profile : ∃ name, env.srtpProfile = some name ∧ srtpProfiles.lookup name = some h.profile
  material : env.srtpMaterial = some h.material

/-- The handshakes that the sessions come from. -/
def Transport.handshakes (t : Transport lib) : List Handshake :=
  (t.srtpSendSession.toList ++ t.srtpRecvSession.toList).map (·.handshake)

/-- What is not media: the data of OpenSSL goes to the selected tuple. -/
def Output.Signal (env : Env) (ice : IceServer) : Output lib → Prop
  | .dtls tuple data =>
      data = env.outgoing ∧ ∃ node, ice.selectedTuple = some node ∧ (node, tuple) ∈ ice.tuples
  | .stun _ _ | .srtp _ _ _ _ | .srtcp _ _ _ _ | .receiveRtpPacket _ _ _ _ _
  | .onTransportRtcpPacket _ _ _ _ => False
  | _ => True

namespace Transport

/-- A function has added outputs of this kind, and left the rest. -/
structure Signals (t : Transport lib) (env : Env) (t' : Transport lib) : Prop where
  ice : t'.ice = t.ice
  connections : t'.connections = t.connections
  remoteFingerprint : t'.dtls.remoteFingerprint = t.dtls.remoteFingerprint
  given : t'.remoteDtlsParametersGiven = t.remoteDtlsParametersGiven
  remoteBitrateEstimator : t'.remoteBitrateEstimator = t.remoteBitrateEstimator
  handshakes : ∀ h ∈ t'.handshakes, h ∈ t.handshakes ∨ h.From env
  log : ∃ outs, t'.log = outs ++ t.log ∧ ∀ o ∈ outs, o.Signal env t.ice

variable {t t' t'' : Transport lib} {env : Env}

/-- The handshakes of a transport are those of its sessions. -/
theorem mem_handshakes {handshake : Handshake} : handshake ∈ t.handshakes ↔
    ∃ s, (t.srtpSendSession = some s ∨ t.srtpRecvSession = some s) ∧ s.handshake = handshake := by
  simp [handshakes, or_and_right, exists_or]

/-- Outputs that tell of the change. -/
theorem Told.of_outs (h : t.Told) (outs : List (Output lib)) (hlog : t'.log = outs ++ t.log)
    (hview : outs.foldr (fun o v => v.see o) t.view = t'.view) : t'.Told := by
  unfold Told
  rw [hlog, Dtls.view, List.foldr_append, ← hview, ← h]
  rfl

/-- An open transport can be destroyed. -/
theorem Open.destroyable (h : t.Open) : t.Destroyable := ⟨h.closed, .inr h.selectedTuple, h.told⟩

theorem Signals.refl (t : Transport lib) (env : Env) : t.Signals env t :=
  ⟨rfl, rfl, rfl, rfl, rfl, fun _ h => .inl h, [], rfl, fun _ h => absurd h List.not_mem_nil⟩

theorem Signals.trans (h : t.Signals env t') (h' : t'.Signals env t'') : t.Signals env t'' where
  ice := h'.ice.trans h.ice
  connections := h'.connections.trans h.connections
  remoteFingerprint := h'.remoteFingerprint.trans h.remoteFingerprint
  given := h'.given.trans h.given
  remoteBitrateEstimator := h'.remoteBitrateEstimator.trans h.remoteBitrateEstimator
  handshakes handshake hmem := (h'.handshakes handshake hmem).elim (h.handshakes handshake) .inr
  log := by
    obtain ⟨outs, hlog, houts⟩ := h.log
    obtain ⟨outs', hlog', houts'⟩ := h'.log
    refine ⟨outs' ++ outs, by rw [hlog', hlog, List.append_assoc], fun o ho => ?_⟩
    rcases List.mem_append.1 ho with ho | ho
    · exact h.ice ▸ houts' o ho
    · exact houts o ho

/-- One output is added. -/
theorem Signals.output (h : t.Signals env t') {o : Output lib} (ho : o.Signal env t.ice) :
    t.Signals env (t'.output o) where
  ice := h.ice
  connections := h.connections
  remoteFingerprint := h.remoteFingerprint
  given := h.given
  remoteBitrateEstimator := h.remoteBitrateEstimator
  handshakes := h.handshakes
  log := by
    obtain ⟨outs, hlog, houts⟩ := h.log
    exact ⟨o :: outs, congrArg (o :: ·) hlog, List.forall_mem_cons.2 ⟨ho, houts⟩⟩

/-- The selected tuple is stored, and its connection is not deleted. -/
theorem sendSelected_eq {node : Nat} {o : Tuple → Output lib} (h : t.sendSelected node o = .ok t') :
    ∃ tuple, (node, tuple) ∈ t.ice.tuples ∧ t' = t.output (o tuple) := by
  unfold sendSelected at h
  obtain ⟨tuple, htuple, h⟩ := Checked.bind_eq_ok.1 h
  obtain ⟨-, -, h⟩ := Checked.bind_eq_ok.1 h
  cases h
  refine ⟨tuple, ?_, rfl⟩
  unfold tupleAt IceServer.tupleAt at htuple
  split at htuple
  · cases htuple
  case h_2 hlookup =>
    cases htuple
    obtain ⟨l₁, l₂, hsplit, -⟩ := List.lookup_eq_some_iff.1 hlookup
    rw [hsplit]
    exact List.mem_append_right _ List.mem_cons_self

/-- The pending DTLS data is sent to the selected tuple, if there are both. -/
theorem sendPending_eq (hselected : t.selectedTuple = none ∨ t.selectedTuple = t.ice.selectedTuple)
    (h : t.sendPendingOutgoingDtlsData env = .ok t') :
    t' = t ∨ ∃ tuple, t' = t.output (.dtls tuple env.outgoing) ∧
      Output.Signal env t.ice (.dtls tuple env.outgoing : Output lib) := by
  unfold sendPendingOutgoingDtlsData onOutgoingDtlsData at h
  split at h
  · cases h
    exact .inl rfl
  · split at h
    · cases h
      exact .inl rfl
    case h_2 node hnode =>
      obtain ⟨tuple, hmem, rfl⟩ := sendSelected_eq h
      rw [hnode] at hselected
      exact .inr ⟨tuple, rfl, rfl, node, (hselected.resolve_left nofun).symm, hmem⟩

/-- DTLS data is sent, and nothing else changes. -/
theorem Open.sendPending (ho : t.Open) (h : t.sendPendingOutgoingDtlsData env = .ok t') :
    t'.Open ∧ t.Signals env t' ∧ t'.dtls = t.dtls := by
  rcases sendPending_eq (.inr ho.selectedTuple) h with rfl | ⟨tuple, rfl, hsignal⟩
  · exact ⟨ho, .refl _ _, rfl⟩
  · exact ⟨{ ho with told := ho.told }, (Signals.refl t env).output hsignal, rfl⟩

/-- **The end.** -/
theorem Destroyable.destroy (hd : t.Destroyable) (h : t.destroy env = .ok t') :
    t'.Ended ∧ t.Signals env t' := by
  unfold Transport.destroy at h
  obtain ⟨t₁, h₁, h⟩ := Checked.bind_eq_ok.1 h
  cases h
  have hsent : (t₁.dtls = t.dtls ∧ t₁.ice = t.ice ∧ Dtls.view t₁.log = Dtls.view t.log) ∧
      t.Signals env t₁ := by
    have hsessions : t.Signals env { t with srtpRecvSession := none, srtpSendSession := none } :=
      { Signals.refl t env with handshakes := fun _ hmem => absurd hmem List.not_mem_nil }
    unfold destroyDtls at h₁
    split at h₁
    · rcases sendPending_eq (by exact hd.selectedTuple) h₁ with rfl | ⟨tuple, rfl, hsignal⟩
      · exact ⟨⟨rfl, rfl, rfl⟩, hsessions⟩
      · exact ⟨⟨rfl, rfl, rfl⟩, hsessions.output hsignal⟩
    · cases h₁
      exact ⟨⟨rfl, rfl, rfl⟩, hsessions⟩
  obtain ⟨⟨hdtls, hice, hview⟩, hsignals⟩ := hsent
  have htold : Dtls.view t₁.log = t.view := hview.trans hd.told
  refine ⟨⟨rfl, ?_, [], t₁.log, rfl, by rw [htold]; exact hd.closed⟩, ?_⟩
  · unfold Told
    change ((Dtls.view t₁.log).see (.notify .close : Output lib)).see (.onTransportClosed : Output lib) = _
    rw [htold, Transport.view, Transport.view, ← hice, ← hdtls]
    rfl
  · have hclosed : t.Signals env { t₁ with selectedTuple := none, closed := true } := { hsignals with }
    exact (hclosed.output (o := .notify .close) trivial).output (o := .onTransportClosed) trivial

/-- The handshake has failed, or the peer has closed the connection. -/
theorem Open.onDtlsEnded (ho : t.Open) {state : DtlsState} (h : t.onDtlsEnded env state = .ok t') :
    t'.Ended ∧ t.Signals env t' := by
  have hd : Destroyable ({ t with dtls := { t.dtls.reset with state } }.notify
      (.dtlsStateChange state none)) := by
    exact ⟨ho.closed, .inr ho.selectedTuple,
      ho.told.of_outs [.notify (.dtlsStateChange state none)] rfl rfl⟩
  obtain ⟨hended, hsignals⟩ := hd.destroy h
  refine ⟨hended, Signals.trans ?_ hsignals⟩
  have hreset : t.Signals env { t with dtls := { t.dtls.reset with state } } :=
    { Signals.refl t env with remoteFingerprint := t.dtls.reset_remoteFingerprint }
  exact hreset.output (o := .notify (.dtlsStateChange state none)) trivial

/-- What a function of the DTLS transport does with an open transport: it stays open, and runs if it ran, or
it is closed. -/
structure Goes (t : Transport lib) (env : Env) (t' : Transport lib) : Prop where
  signals : t.Signals env t'
  state : (t'.Open ∧ (t.dtls.isRunning = true → t'.dtls.isRunning = true)) ∨ t'.Ended

/-- An open transport that does nothing goes on. -/
theorem Open.goes (ho : t.Open) : t.Goes env t := ⟨.refl t env, .inl ⟨ho, fun h => h⟩⟩

/-- One step after another, as long as the transport is open between them. -/
theorem Goes.trans (h : t.Goes env t') (ho : t'.Open) (h' : t'.Goes env t'') : t.Goes env t'' where
  signals := h.signals.trans h'.signals
  state := by
    rcases h.state with ⟨-, hrunning⟩ | hended
    · exact h'.state.imp_left fun hopen => ⟨hopen.1, fun hr => hopen.2 (hrunning hr)⟩
    · exact absurd (ho.closed.symm.trans hended.closed) nofun

/-- The timer is started while the DTLS transport runs. -/
theorem Open.setTimeout (ho : t.Open) (hrunning : t.dtls.isRunning = true)
    (h : t.setTimeout env = .ok t') : t.Goes env t' := by
  unfold Transport.setTimeout at h
  split at h
  · cases h
  · split at h
    · cases h
      exact ho.goes
    · split at h
      · cases h
        exact ho.goes
      · split at h
        · cases h
          refine ⟨{ Signals.refl t env with }, .inl ⟨{ ho with told := ho.told, dtls := ?_ }, fun h => h⟩⟩
          exact { ho.dtls with done := fun _ => hrunning }
        · obtain ⟨hended, hsignals⟩ := ho.onDtlsEnded h
          exact ⟨hsignals, .inr hended⟩

/-! ## The handshake -/

/-- A certificate that is accepted has the announced fingerprint. -/
theorem checkRemoteFingerprint_eq {fingerprint : Fingerprint} {certificate : Certificate} {pem : String}
    (h : checkRemoteFingerprint fingerprint env = some (certificate, pem)) :
    env.certificate = some certificate ∧ ∃ digest,
      certificate.digest fingerprint.algorithm = some digest ∧
        fingerprint.value = hexFingerprint digest := by
  unfold checkRemoteFingerprint at h
  obtain ⟨certificate', hcertificate, h⟩ := Option.bind_eq_some_iff.1 h
  obtain ⟨digest, hdigest, h⟩ := Option.bind_eq_some_iff.1 h
  obtain ⟨hvalue, h⟩ := Option.ite_none_left_eq_some.1 h
  obtain ⟨pem', -, h⟩ := Option.bind_eq_some_iff.1 h
  obtain ⟨-, h⟩ := Option.ite_none_left_eq_some.1 h
  cases h
  exact ⟨hcertificate, digest, hdigest, not_not.1 hvalue⟩

/-- The sessions that are created have the keys of the handshake. -/
theorem Open.extractSrtpKeys (ho : t.Open) (hdone : t.dtls.handshakeDone = true)
    {fingerprint : Fingerprint} {certificate : Certificate} {profile : Profile}
    (hfingerprint : t.dtls.remoteFingerprint = some fingerprint)
    (hcertificate : env.certificate = some certificate)
    (hdigest : ∃ digest, certificate.digest fingerprint.algorithm = some digest ∧
      fingerprint.value = hexFingerprint digest)
    (hprofile : ∃ name, env.srtpProfile = some name ∧ srtpProfiles.lookup name = some profile)
    (h : t.extractSrtpKeys env fingerprint certificate profile = .ok t') : t.Goes env t' := by
  unfold Transport.extractSrtpKeys at h
  split at h
  · cases h
  case h_2 material hmaterial =>
    split at h
    · cases h
    case h_2 srtpLocalKey srtpRemoteKey hkeys =>
      unfold Transport.onDtlsConnected at h
      dsimp only at h
      split at h
      · cases h
      · cases h
        have hrunning : t.dtls.isRunning = true := ho.dtls.done (.inl hdone)
        refine ⟨{ Signals.refl t env with
          handshakes := fun handshake hmem => .inr ?_
          log := ⟨[.onTransportConnected,
            .notify (.dtlsStateChange .connected (some t.dtls.remoteCert))], rfl, ?_⟩ }, .inl ⟨?_, ?_⟩⟩
        · obtain ⟨s, hs | hs, rfl⟩ := mem_handshakes.1 hmem
          · obtain ⟨-, hs⟩ := Option.ite_none_left_eq_some.1 hs
            obtain ⟨session, -, -, rfl⟩ := Option.pmap_eq_some_iff.1 hs
            exact ⟨hcertificate, hprofile, hmaterial⟩
          · obtain ⟨session, -, -, rfl⟩ := Option.pmap_eq_some_iff.1 hs
            exact ⟨hcertificate, hprofile, hmaterial⟩
        · exact List.forall_mem_cons.2 ⟨trivial, List.forall_mem_singleton.2 trivial⟩
        · exact {
            closed := ho.closed
            ice := ho.ice
            calls := ho.calls
            selectedTuple := ho.selectedTuple
            told := ho.told.of_outs [.onTransportConnected,
              .notify (.dtlsStateChange .connected (some t.dtls.remoteCert))] rfl rfl
            dtls := {
              running := by
                refine iff_of_true rfl ?_
                exact ho.dtls.running.1 hrunning
              localRole := ho.dtls.localRole
              state := ⟨nofun, nofun⟩
              done := fun _ => rfl
              connected := fun _ => ⟨hdone, by
                change t.dtls.remoteFingerprint ≠ none
                rw [hfingerprint]
                exact Option.some_ne_none _⟩ }
            dtlsLocalRole := ho.dtlsLocalRole
            auto := ho.auto
            given := ho.given
            send := by
              intro s hs
              obtain ⟨-, hs⟩ := Option.ite_none_left_eq_some.1 hs
              obtain ⟨session, -, -, rfl⟩ := Option.pmap_eq_some_iff.1 hs
              exact ⟨rfl, hfingerprint, hdigest, _, hkeys, rfl⟩
            recv := by
              intro s hs
              obtain ⟨session, -, -, rfl⟩ := Option.pmap_eq_some_iff.1 hs
              exact ⟨rfl, hfingerprint, hdigest, _, hkeys, rfl⟩ }
        · exact fun _ => rfl

/-- `DtlsTransport::ProcessHandshake`. -/
theorem Open.processHandshake (ho : t.Open) (hdone : t.dtls.handshakeDone = true)
    (h : t.processHandshake env = .ok t') : t.Goes env t' := by
  have hended : ∀ {t₁ : Transport lib}, t₁.Open → t.Signals env t₁ → ∀ {state : DtlsState},
      t₁.onDtlsEnded env state = .ok t' → t.Goes env t' := fun ho₁ hsignals _ h => by
    obtain ⟨hended, hsignals'⟩ := ho₁.onDtlsEnded h
    exact ⟨hsignals.trans hsignals', .inr hended⟩
  unfold Transport.processHandshake at h
  split at h
  · cases h
    exact ho.goes
  case h_2 fingerprint hfingerprint =>
    split at h
    · exact hended ho (.refl t env) h
    case h_2 certificate remoteCert hcheck =>
      obtain ⟨hcertificate, hdigest⟩ := checkRemoteFingerprint_eq hcheck
      have ho' : Open { t with dtls := { t.dtls with remoteCert } } :=
        { ho with told := ho.told, dtls := { ho.dtls with } }
      have hsignals : t.Signals env { t with dtls := { t.dtls with remoteCert } } := { Signals.refl t env with }
      split at h
      · exact hended ho' hsignals h
      case h_2 name hname =>
        split at h
        · cases h
        case h_2 profile hprofile =>
          have hgoes := ho'.extractSrtpKeys hdone hfingerprint hcertificate hdigest
            ⟨name, hname, hprofile⟩ h
          exact ⟨hsignals.trans hgoes.signals, hgoes.state⟩

/-- The handshake has been done right now. -/
theorem Open.handshakeDoneNow (ho : t.Open) (hnow : t.dtls.handshakeDoneNow = true) (env : Env) :
    Open { t with dtls :=
      { t.dtls with handshakeDoneNow := false, handshakeDone := true, timer := false } } ∧
    t.Goes env { t with dtls :=
      { t.dtls with handshakeDoneNow := false, handshakeDone := true, timer := false } } := by
  have hrunning : t.dtls.isRunning = true := ho.dtls.done (.inr (.inl hnow))
  have ho' : Open { t with dtls :=
      { t.dtls with handshakeDoneNow := false, handshakeDone := true, timer := false } } :=
    { ho with
      told := ho.told
      dtls := { ho.dtls with
        done := fun _ => hrunning
        connected := fun hconnected => ⟨rfl, (ho.dtls.connected hconnected).2⟩ } }
  exact ⟨ho', { Signals.refl t env with }, .inl ⟨ho', fun h => h⟩⟩

/-- The end of a handshake: the sessions are made, or the transport closes. -/
theorem Open.handshakeDone (ho : t.Open) (hnow : t.dtls.handshakeDoneNow = true)
    (h : t.handshakeDone env = .ok t') : t.Goes env t' := by
  obtain ⟨ho', hgoes⟩ := ho.handshakeDoneNow hnow env
  unfold Transport.handshakeDone at h
  dsimp only at h
  split at h
  · cases h
    exact hgoes
  · exact hgoes.trans ho' (ho'.processHandshake rfl h)

/-- `DtlsTransport::CheckStatus`. -/
theorem Open.checkStatus (ho : t.Open) {ok : Bool} (h : t.checkStatus env = .ok (t', ok)) :
    t.Goes env t' := by
  unfold Transport.checkStatus at h
  split at h
  case isTrue hnow =>
    obtain ⟨t₁, h₁, h⟩ := Checked.bind_eq_ok.1 ((map_eq_pure_bind _ _).symm.trans h)
    cases h
    exact ho.handshakeDone hnow h₁
  case isFalse =>
    split at h
    · obtain ⟨t₁, h₁, h⟩ := Checked.bind_eq_ok.1 ((map_eq_pure_bind _ _).symm.trans h)
      cases h
      obtain ⟨hended, hsignals⟩ := ho.onDtlsEnded h₁
      exact ⟨hsignals, .inr hended⟩
    · cases h
      exact ho.goes

/-- OpenSSL calls back, and DTLS data is sent. -/
theorem Open.sslInfo (ho : t.Open) (hrunning : t.dtls.isRunning = true) (env : Env) :
    Open { t with dtls := t.dtls.onSslInfo env } ∧ t.Goes env { t with dtls := t.dtls.onSslInfo env } := by
  have ho' : Open { t with dtls := t.dtls.onSslInfo env } :=
    { ho with
      told := by
        refine ho.told.of_outs [] rfl ?_
        rw [Transport.view, Transport.view, DtlsTransport.onSslInfo_state]
        rfl
      dtls := ho.dtls.onSslInfo hrunning env
      auto := by
        rw [DtlsTransport.onSslInfo_localRole]
        exact ho.auto
      given := by
        rw [DtlsTransport.onSslInfo_remoteFingerprint]
        exact ho.given
      send := by
        rw [DtlsTransport.onSslInfo_remoteFingerprint]
        exact ho.send
      recv := by
        rw [DtlsTransport.onSslInfo_remoteFingerprint]
        exact ho.recv }
  refine ⟨ho', ⟨?_, .inl ⟨ho', fun _ => ?_⟩⟩⟩
  · exact { Signals.refl t env with
      remoteFingerprint := t.dtls.onSslInfo_remoteFingerprint env }
  · exact (t.dtls.onSslInfo_isRunning env).trans hrunning

/-- `DtlsTransport::ProcessDtlsData`. -/
theorem Open.processDtlsData (ho : t.Open) (h : t.processDtlsData env = .ok t') : t.Goes env t' := by
  unfold Transport.processDtlsData at h
  split at h
  case isFalse =>
    cases h
    exact ho.goes
  case isTrue hrunning =>
    obtain ⟨ho₁, hgoes₁⟩ := ho.sslInfo hrunning env
    obtain ⟨t₂, h₂, h⟩ := Checked.bind_eq_ok.1 h
    obtain ⟨ho₂, hsignals₂, hdtls⟩ := ho₁.sendPending h₂
    have hrunning₂ : t₂.dtls.isRunning = true := by
      rw [hdtls, DtlsTransport.onSslInfo_isRunning]
      exact hrunning
    have hgoes₂ := hgoes₁.trans ho₁ ⟨hsignals₂, .inl ⟨ho₂, fun _ => hrunning₂⟩⟩
    obtain ⟨⟨t₃, ok⟩, h₃, h⟩ := Checked.bind_eq_ok.1 h
    have hgoes₃ := hgoes₂.trans ho₂ (ho₂.checkStatus h₃)
    cases ok with
    | false =>
        cases h
        exact hgoes₃
    | true =>
        rcases (ho₂.checkStatus h₃).state with ⟨ho₃, hrunning₃⟩ | hended
        · exact hgoes₃.trans ho₃ (ho₃.setTimeout (hrunning₃ hrunning₂) h)
        · -- the handshake has failed, and the deleted transport is read
          dsimp only at h
          unfold Transport.setTimeout at h
          rw [if_pos rfl, if_pos hended.closed] at h
          cases h

/-- `DtlsTransport::OnTimer`. -/
theorem Open.onTimer (ho : t.Open) (htimer : t.dtls.timer = true) (h : t.onTimer env = .ok t') :
    t.Goes env t' := by
  have hrunning : t.dtls.isRunning = true := ho.dtls.done (.inr (.inr htimer))
  unfold Transport.onTimer at h
  obtain ⟨ho₁, hgoes₁⟩ := ho.sslInfo hrunning env
  have hrunning₁ : (t.dtls.onSslInfo env).isRunning = true := by
    rw [DtlsTransport.onSslInfo_isRunning]
    exact hrunning
  have ho₂ : Open { t with dtls := { t.dtls.onSslInfo env with timer := false } } :=
    { ho₁ with told := ho₁.told, dtls := { ho₁.dtls with done := fun _ => hrunning₁ } }
  have hgoes₂ : t.Goes env { t with dtls := { t.dtls.onSslInfo env with timer := false } } :=
    ⟨{ hgoes₁.signals with }, .inl ⟨ho₂, fun _ => hrunning₁⟩⟩
  obtain ⟨t₃, h₃, h⟩ := Checked.bind_eq_ok.1 h
  obtain ⟨ho₃, hsignals₃, hdtls⟩ := ho₂.sendPending h₃
  have hrunning₃ : t₃.dtls.isRunning = true := by
    rw [hdtls]
    exact hrunning₁
  have hgoes₃ := hgoes₂.trans ho₂ ⟨hsignals₃, .inl ⟨ho₃, fun _ => hrunning₃⟩⟩
  exact hgoes₃.trans ho₃ (ho₃.setTimeout hrunning₃ h)

/-- The DTLS transport before it runs. -/
theorem Open.idle (ho : t.Open) :
    (if t.dtls.localRole = .client ∨ t.dtls.localRole = .server then t.dtls.reset else t.dtls).Idle ∧
      (if t.dtls.localRole = .client ∨ t.dtls.localRole = .server then t.dtls.reset
        else t.dtls).remoteFingerprint = t.dtls.remoteFingerprint := by
  split
  · exact ⟨ho.dtls.reset_idle, t.dtls.reset_remoteFingerprint⟩
  case isFalse hrole =>
    refine ⟨ho.dtls.idle (Bool.eq_false_iff.2 fun hrunning => hrole ?_), rfl⟩
    have hne := ho.dtls.running.1 hrunning
    cases hlocal : t.dtls.localRole with
    | none => exact absurd hlocal hne
    | auto => exact absurd hlocal ho.dtls.localRole
    | client => exact .inl rfl
    | server => exact .inr rfl

/-- `DtlsTransport::Run`. -/
theorem Open.run (ho : t.Open) {localRole : Role} (hrole : localRole = .client ∨ localRole = .server)
    (hauto : t.dtlsLocalRole ≠ .auto) (h : t.run env localRole = .ok t') : t.Goes env t' := by
  unfold Transport.run at h
  split at h
  · cases h
    exact ho.goes
  · obtain ⟨hidle, hfingerprint⟩ := ho.idle
    revert h
    generalize (if t.dtls.localRole = .client ∨ t.dtls.localRole = .server then t.dtls.reset
      else t.dtls) = dtls at hidle hfingerprint ⊢
    intro h
    have hcoherent : ({ dtls with localRole, state := .connecting } : DtlsTransport).Coherent := {
      running := iff_of_true rfl (by rcases hrole with rfl | rfl <;> exact nofun)
      localRole := by rcases hrole with rfl | rfl <;> exact nofun
      state := ⟨nofun, nofun⟩
      done := fun _ => rfl
      connected := nofun }
    have hsame : ((({ dtls with localRole, state := .connecting } : DtlsTransport).onSslInfo
        env).remoteFingerprint) = t.dtls.remoteFingerprint :=
      (DtlsTransport.onSslInfo_remoteFingerprint _ env).trans hfingerprint
    have hrunning : (({ dtls with localRole, state := .connecting } : DtlsTransport).onSslInfo
        env).isRunning = true := DtlsTransport.onSslInfo_isRunning _ env
    have hstate : (({ dtls with localRole, state := .connecting } : DtlsTransport).onSslInfo
        env).state = .connecting := DtlsTransport.onSslInfo_state _ env
    have hcoherent' := hcoherent.onSslInfo rfl env
    dsimp only at h
    revert h
    generalize ({ dtls with localRole, state := .connecting } : DtlsTransport).onSslInfo env = dtls'
      at hsame hrunning hstate hcoherent' ⊢
    intro h
    have ho₁ : Open ({ t with dtls := dtls' }.notify (.dtlsStateChange .connecting none)) := {
      closed := ho.closed
      ice := ho.ice
      calls := ho.calls
      selectedTuple := ho.selectedTuple
      told := ho.told.of_outs [.notify (.dtlsStateChange .connecting none)] rfl
        (congrArg (fun state => View.mk t.ice.state state _ t.closed) hstate.symm)
      dtls := hcoherent'
      dtlsLocalRole := ho.dtlsLocalRole
      auto := fun heq => absurd heq hauto
      given := fun hne => ho.given (hsame ▸ hne)
      send := fun s hs => hsame.symm ▸ ho.send s hs
      recv := fun s hs => hsame.symm ▸ ho.recv s hs }
    have hgoes₁ : t.Goes env ({ t with dtls := dtls' }.notify (.dtlsStateChange .connecting none)) := by
      refine ⟨{ Signals.refl t env with
        remoteFingerprint := hsame
        log := ⟨[.notify (.dtlsStateChange .connecting none)], rfl, ?_⟩ }, .inl ⟨ho₁, fun _ => hrunning⟩⟩
      exact List.forall_mem_singleton.2 trivial
    split at h
    · obtain ⟨t₂, h₂, h⟩ := Checked.bind_eq_ok.1 h
      obtain ⟨ho₂, hsignals₂, hdtls⟩ := ho₁.sendPending h₂
      have hrunning₂ : t₂.dtls.isRunning = true := by
        rw [hdtls]
        exact hrunning
      have hgoes₂ := hgoes₁.trans ho₁ ⟨hsignals₂, .inl ⟨ho₂, fun _ => hrunning₂⟩⟩
      exact hgoes₂.trans ho₂ (ho₂.setTimeout hrunning₂ h)
    · cases h
      exact hgoes₁

/-- `Transport::MayRunDtlsTransport`. -/
theorem Open.mayRunDtlsTransport (ho : t.Open) (h : t.mayRunDtlsTransport env = .ok t') : t.Goes env t' := by
  unfold Transport.mayRunDtlsTransport at h
  split at h
  · cases h
  · split at h
    · cases h
      exact ho.goes
    · cases hrole : t.dtlsLocalRole with
      | none => exact absurd hrole ho.dtlsLocalRole
      | auto =>
          rw [hrole] at h
          dsimp only at h
          split at h
          · have ho' : Open { t with dtlsLocalRole := .server } :=
              { ho with told := ho.told, dtlsLocalRole := nofun, auto := nofun }
            have hgoes := ho'.run (.inr rfl) nofun h
            exact ⟨{ hgoes.signals with }, hgoes.state⟩
          · cases h
            exact ho.goes
      | client =>
          rw [hrole] at h
          dsimp only at h
          split at h
          · exact ho.run (.inl rfl) (by rw [hrole]; exact nofun) h
          · cases h
            exact ho.goes
      | server =>
          rw [hrole] at h
          dsimp only at h
          split at h
          · exact ho.run (.inr rfl) (by rw [hrole]; exact nofun) h
          · cases h
            exact ho.goes

/-! ## The calls of the ICE server -/

/-- What is added while the ICE server is heard: responses to the tuple, and signals. -/
def Heard (tuple : Tuple) (msgs : List Stun.Message) (env : Env) (ice : IceServer) (o : Output lib) :
    Prop :=
  (∃ msg ∈ msgs, o = .stun msg tuple) ∨ o.Signal env ice

/-- Responses are sent. -/
theorem stun_calls {tuple : Tuple} {msgs : List Stun.Message}
    (h : (msgs.map (Ice.Call.onOutgoingStunMessage · tuple)).reverse.foldlM
      (fun t call => t.onIce env call) t = .ok t') :
    ∃ outs, t' = { t with log := outs ++ t.log } ∧ (∀ o ∈ outs, ∃ msg ∈ msgs, o = .stun msg tuple) ∧
      ∀ v : View, outs.foldr (fun o v => v.see o) v = v := by
  induction msgs generalizing t' with
  | nil =>
      cases h
      exact ⟨[], rfl, fun o ho => absurd ho List.not_mem_nil, fun _ => rfl⟩
  | cons msg msgs ih =>
      rw [List.map_cons, List.reverse_cons, List.foldlM_append] at h
      obtain ⟨t₁, h₁, h⟩ := Checked.bind_eq_ok.1 h
      obtain ⟨outs, rfl, houts, hview⟩ := ih h₁
      rw [List.foldlM_cons] at h
      obtain ⟨t₂, h₂, h⟩ := Checked.bind_eq_ok.1 h
      cases h
      unfold onIce at h₂
      obtain ⟨-, -, h₂⟩ := Checked.bind_eq_ok.1 h₂
      cases h₂
      refine ⟨.stun msg tuple :: outs, rfl, List.forall_mem_cons.2 ⟨⟨msg, List.mem_cons_self, rfl⟩, ?_⟩,
        fun v => ?_⟩
      · intro o ho
        obtain ⟨msg', hmem, heq⟩ := houts o ho
        exact ⟨msg', List.mem_cons_of_mem _ hmem, heq⟩
      rw [List.foldr_cons, hview]
      rfl

/-- A stored tuple is selected. -/
theorem selected_calls {before ice : IceServer}
    (h : (IceServer.selectedCalls before ice).reverse.foldlM (fun t call => t.onIce env call) t = .ok t') :
    (t' = t ∧ (ice.selectedTuple = before.selectedTuple ∨ ice.selectedTuple = none)) ∨
      ∃ node tuple, ice.selectedTuple = some node ∧ t.ice.tuples.lookup node = some tuple ∧
        t' = { t with selectedTuple := some node }.notify (.iceSelectedTupleChange tuple) := by
  unfold IceServer.selectedCalls at h
  split at h
  case isTrue hsame =>
    cases h
    exact .inl ⟨rfl, .inl hsame⟩
  case isFalse =>
    cases hnode : ice.selectedTuple with
    | none =>
        rw [hnode] at h
        cases h
        exact .inl ⟨rfl, .inr rfl⟩
    | some node =>
        rw [hnode] at h
        change (t.onIce env (.onIceSelectedTuple node) >>= fun t => pure t) = _ at h
        rw [bind_pure] at h
        unfold onIce tupleAt IceServer.tupleAt at h
        obtain ⟨tuple, htuple, h⟩ := Checked.bind_eq_ok.1 h
        obtain ⟨-, -, h⟩ := Checked.bind_eq_ok.1 h
        cases h
        cases hlookup : t.ice.tuples.lookup node with
        | none =>
            rw [hlookup] at htuple
            cases htuple
        | some stored =>
            rw [hlookup] at htuple
            cases htuple
            exact .inr ⟨node, tuple, rfl, hlookup, rfl⟩

/-- The transport with the ICE server that has returned, and what it was told so far. -/
def tell (t : Transport lib) (ice : IceServer) (selectedTuple : Option Nat) (outs : List (Output lib)) :
    Transport lib :=
  { t with ice := { ice with calls := [] }, selectedTuple, log := outs ++ t.log }

/-- The transport has been told of the selected tuple, but not of the state. -/
structure Telling (t : Transport lib) (tuple : Tuple) (msgs : List Stun.Message) (env : Env) (ice : IceServer)
    (selectedTuple : Option Nat) (outs : List (Output lib)) : Prop where
  heard : ∀ o ∈ outs, Heard tuple msgs env ice o
  view : ∃ x, Dtls.view (outs ++ t.log) = { t.view with selectedTuple := x } ∧
    (ice.selectedTuple ≠ none ∨ t.ice.selectedTuple = none → selectedTuple = ice.selectedTuple ∧
      x = ice.selectedTuple.bind fun node => ice.tuples.lookup node)

variable {ice : IceServer} {tuple : Tuple} {msgs : List Stun.Message}

/-- The calls of the ICE server are taken over by the transport one after the other, and the state they tell
is the last one. -/
theorem Open.telling (ho : t.Open) (hinv : ice.Inv)
    (htuples : ∀ storedTuple ∈ ice.tuples, storedTuple ∈ t.ice.tuples ∨ storedTuple.1 = t.ice.nodes)
    {t₁ : Transport lib}
    (h₁ : (msgs.map (Ice.Call.onOutgoingStunMessage · tuple)).reverse.foldlM
      (fun t call => t.onIce env call) { t with ice := { ice with calls := [] } } = .ok t₁)
    (h : (IceServer.selectedCalls t.ice ice).reverse.foldlM (fun t call => t.onIce env call) t₁ =
      .ok t') :
    ∃ selectedTuple outs, t' = t.tell ice selectedTuple outs ∧
      t.Telling tuple msgs env ice selectedTuple outs := by
  obtain ⟨outs, rfl, houts, hview⟩ := stun_calls h₁
  have hstun : ∀ o ∈ outs, Heard tuple msgs env ice o := fun o ho => .inl (houts o ho)
  have htold : Dtls.view (outs ++ t.log) = t.view := by
    rw [Dtls.view, List.foldr_append]
    exact (hview _).trans ho.told
  rcases selected_calls h with ⟨rfl, hsame⟩ | ⟨node, stored, hnode, hlookup, rfl⟩
  · refine ⟨t.selectedTuple, outs, rfl, hstun, t.view.selectedTuple, htold, fun hsome => ?_⟩
    have hselected : ice.selectedTuple = t.ice.selectedTuple := by
      rcases hsame with hsame | hnone
      · exact hsame
      · exact hnone.trans (hsome.resolve_left (not_not.2 hnone)).symm
    refine ⟨ho.selectedTuple.trans hselected.symm, ?_⟩
    rw [IceServer.lookup_selectedTuple ho.ice hinv htuples hselected, ← ho.selectedTuple]
    rfl
  · refine ⟨some node, .notify (.iceSelectedTupleChange stored) :: outs, rfl,
      List.forall_mem_cons.2 ⟨.inr trivial, hstun⟩, some stored, ?_, fun _ => ⟨hnode.symm, ?_⟩⟩
    · change (Dtls.view (outs ++ t.log)).see (.notify (.iceSelectedTupleChange stored) : Output lib) = _
      rw [htold]
      rfl
    · rw [hnode]
      exact hlookup.symm

/-- What hearing the ICE server does with a transport. -/
structure Hears (t : Transport lib) (tuple : Tuple) (msgs : List Stun.Message) (env : Env) (ice : IceServer)
    (t' : Transport lib) : Prop where
  log : ∃ outs, t'.log = outs ++ t.log ∧ ∀ o ∈ outs, Heard tuple msgs env ice o
  iceServer : t'.ice = { ice with calls := [] }
  connections : t'.connections = t.connections
  remoteFingerprint : t'.dtls.remoteFingerprint = t.dtls.remoteFingerprint
  remoteBitrateEstimator : t'.remoteBitrateEstimator = t.remoteBitrateEstimator
  handshakes : ∀ h ∈ t'.handshakes, h ∈ t.handshakes ∨ h.From env
  state : t'.Open ∨ t'.Ended

variable {selectedTuple : Option Nat} {outs : List (Output lib)}

/-- The notification of the state is added, and then other signals. -/
theorem Telling.hears (htelling : t.Telling tuple msgs env ice selectedTuple outs) (n : Notification)
    (hsignals : ((t.tell ice selectedTuple outs).notify n).Signals env t') (hstate : t'.Open ∨ t'.Ended) :
    t.Hears tuple msgs env ice t' where
  log := by
    obtain ⟨outs', hlog, houts'⟩ := hsignals.log
    refine ⟨outs' ++ .notify n :: outs, ?_, fun o ho => ?_⟩
    · rw [hlog, List.append_assoc]
      rfl
    · rcases List.mem_append.1 ho with ho | ho
      · exact .inr (houts' o ho)
      · rcases List.mem_cons.1 ho with rfl | ho
        · exact .inr trivial
        · exact htelling.heard o ho
  iceServer := hsignals.ice
  connections := hsignals.connections
  remoteFingerprint := hsignals.remoteFingerprint
  remoteBitrateEstimator := hsignals.remoteBitrateEstimator
  handshakes := hsignals.handshakes
  state := hstate

/-- The transport is told that ICE is connected or completed. -/
theorem Telling.of_connected (htelling : t.Telling tuple msgs env ice selectedTuple outs) (ho : t.Open)
    (hinv : ice.Inv) {state : IceState} (hstate : ice.state = state)
    (hconnected : state = .connected ∨ state = .completed) :
    ((t.tell ice selectedTuple outs).notify (.iceStateChange state)).Open := by
  subst hstate
  obtain ⟨x, hview, hsome⟩ := htelling.view
  obtain ⟨hselected, hx⟩ := hsome (.inl ((hinv.connected_iff.trans hinv.selected_iff).1 hconnected))
  have htold : ((t.tell ice selectedTuple outs).notify (.iceStateChange ice.state)).Told := by
    unfold Told
    change (Dtls.view (outs ++ t.log)).see (.notify (.iceStateChange ice.state) : Output lib) = _
    rw [hview, hx, ← hselected]
    have hne : ice.state ≠ .disconnected := by
      rcases hconnected with h | h <;> rw [h] <;> exact nofun
    change View.mk _ _ (if ice.state = .disconnected then none else _) _ = _
    rw [if_neg hne]
    rfl
  exact { ho with
    ice := hinv
    calls := rfl
    selectedTuple := hselected
    told := htold }

/-- `OnIceConnected` and `OnIceCompleted`. -/
theorem Telling.of_state (htelling : t.Telling tuple msgs env ice selectedTuple outs) (ho : t.Open)
    (hinv : ice.Inv) {state : IceState} (hstate : ice.state = state)
    (hconnected : state = .connected ∨ state = .completed)
    (h : ((t.tell ice selectedTuple outs).notify (.iceStateChange state)).mayRunDtlsTransport env =
      .ok t') : t.Hears tuple msgs env ice t' := by
  have hgoes := (htelling.of_connected ho hinv hstate hconnected).mayRunDtlsTransport h
  exact htelling.hears _ hgoes.signals (hgoes.state.imp_left And.left)

/-- `OnIceDisconnected`. -/
theorem Telling.of_disconnected (htelling : t.Telling tuple msgs env ice selectedTuple outs) (ho : t.Open)
    (hstate : ice.state = .disconnected)
    (h : ({ t.tell ice selectedTuple outs with selectedTuple := none }.notify
      (.iceStateChange .disconnected)).destroy env = .ok t') : t.Hears tuple msgs env ice t' := by
  obtain ⟨x, hview, -⟩ := htelling.view
  have hd : Destroyable ({ t.tell ice selectedTuple outs with selectedTuple := none }.notify
      (.iceStateChange .disconnected)) := by
    refine ⟨ho.closed, .inl rfl, ?_⟩
    unfold Told
    change (Dtls.view (outs ++ t.log)).see (.notify (.iceStateChange .disconnected) : Output lib) =
      View.mk ice.state t.dtls.state none t.closed
    rw [hview, hstate]
    rfl
  obtain ⟨hended, hsignals⟩ := hd.destroy h
  exact htelling.hears (.iceStateChange .disconnected) { hsignals with } (.inr hended)

/-- **The ICE server is heard.** -/
theorem Open.withIce (ho : t.Open) (hinv : ice.Inv) (htells : t.ice.Tells tuple msgs ice)
    (htuples : ∀ storedTuple ∈ ice.tuples, storedTuple ∈ t.ice.tuples ∨ storedTuple.1 = t.ice.nodes)
    (h : t.withIce env (.ok ice) = .ok t') :
    t.Hears tuple msgs env ice t' ∧ (ice.state = t.ice.state → t'.Open ∧ t'.dtls = t.dtls) := by
  unfold Transport.withIce at h
  rw [show (Except.ok ice : Except Bytes.Fault IceServer).mapError Fault.ice = .ok ice from rfl,
    Checked.ok_bind, htells.calls, ho.calls, List.append_nil, List.reverse_append, List.reverse_append,
    List.append_assoc, List.foldlM_append] at h
  obtain ⟨t₁, h₁, h⟩ := Checked.bind_eq_ok.1 h
  rw [List.foldlM_append] at h
  obtain ⟨t₂, h₂, h⟩ := Checked.bind_eq_ok.1 h
  obtain ⟨selectedTuple, outs, rfl, htelling⟩ := ho.telling hinv htuples h₁ h₂
  unfold IceServer.stateCalls at h
  split at h
  case isTrue hstate =>
    -- nothing but the selected tuple has changed
    cases h
    obtain ⟨x, hview, hsome⟩ := htelling.view
    have hnone : ice.selectedTuple ≠ none ∨ t.ice.selectedTuple = none := by
      by_cases hselected : ice.selectedTuple = none
      · refine .inr (ho.ice.none_selected fun hconnected => ?_).2
        rw [← hstate, hinv.connected_iff, hinv.selected_iff] at hconnected
        exact hconnected hselected
      · exact .inl hselected
    obtain ⟨hselected, hx⟩ := hsome hnone
    have htold : (t.tell ice selectedTuple outs).Told := by
      unfold Told
      change Dtls.view (outs ++ t.log) = View.mk ice.state t.dtls.state _ t.closed
      rw [hview, hx, hstate, hselected]
      rfl
    have ho' : (t.tell ice selectedTuple outs).Open :=
      { ho with
        ice := hinv
        calls := rfl
        selectedTuple := hselected
        told := htold }
    exact ⟨⟨⟨outs, rfl, htelling.heard⟩, rfl, rfl, rfl, rfl, fun _ hmem => .inl hmem, .inl ho'⟩,
      fun _ => ⟨ho', rfl⟩⟩
  case isFalse hstate =>
    refine ⟨?_, fun heq => absurd heq hstate⟩
    cases hnew : ice.state with
    | new => exact absurd (hnew.trans (htells.new hnew).symm) hstate
    | connected =>
        rw [hnew] at h
        change (onIce env _ .onIceConnected >>= pure) = _ at h
        rw [bind_pure] at h
        exact htelling.of_state ho hinv hnew (.inl rfl) h
    | completed =>
        rw [hnew] at h
        change (onIce env _ .onIceCompleted >>= pure) = _ at h
        rw [bind_pure] at h
        exact htelling.of_state ho hinv hnew (.inr rfl) h
    | disconnected =>
        rw [hnew] at h
        change (onIce env _ .onIceDisconnected >>= pure) = _ at h
        rw [bind_pure] at h
        exact htelling.of_disconnected ho hnew h

end Transport

end KoreWebsocket.Dtls
