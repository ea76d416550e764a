import KoreWebsocket.Ice.IceServer
import KoreWebsocket.Lib.JsonCpp
import KoreWebsocket.Rtc.Demultiplex
import KoreWebsocket.Rtc.RtpListener
import KoreWebsocket.Rtp.Extensions

/-!
# A transport (`RTC::Transport`, `RTC::DtlsTransport` and `RTC::SrtpSession`, `mediasoup_1/soup`)

A transport has an ICE server, a DTLS transport and, once that is connected, two SRTP sessions. They call
each other back, and a call may end with `Destroy`, which deletes all of them: what then still reads a
member is a fault. What a transport sends, notifies and passes on is kept in `log`, newest first.

The ICE server calls its listener when it has nothing more to do, so its calls are made after it
returned (`withIce`). OpenSSL is not under the source: `Env` has what it answers during an event. libsrtp
is a parameter, and `srtp_dealloc` does not fail. A pointer to a TCP connection is its number;
`connections` has those that are not deleted.

What a receiver does with a packet is not part of a transport, nor is what the remote bitrate estimator
computes, in floating point: `Env` has the packet that the receiver leaves, and the assertion of the
estimator that fails, if one does. The estimator is fed at the end of `OnRtpDataRecv`, so what it sends is
an event of its own (`sendRtcpPacket`). The sockets and `ToJson` of the transport are left out.
-/

namespace KoreWebsocket.Dtls

open Ice (IceServer IceState Tuple RemoteAddr)
open Stun (Crypto Authentication)
open JsonCpp (Value)

/-- What can go wrong. -/
inductive Fault
  /-- a member of a transport that is deleted -/
  | useAfterFree
  /-- a TCP connection that is deleted -/
  | deletedConnection (connection : Nat)
  /-- `Destroy` of a session that is null -/
  | nullSession
  /-- a failed assertion -/
  | assertion (desc : String)
  /-- what `std::map::at` throws -/
  | outOfRange
  /-- a fault of the ICE server -/
  | ice (fault : Bytes.Fault)
  /-- a fault of a parser -/
  | parser (fault : Bytes.Fault)
  deriving DecidableEq, Repr

/-! ## OpenSSL and libsrtp -/

/-- `DtlsTransport::FingerprintAlgorithm`, without `NONE`. -/
inductive FingerprintAlgorithm
  | sha1 | sha224 | sha256 | sha384 | sha512
  deriving DecidableEq, Repr

/-- `string2FingerprintAlgorithm`. -/
def string2FingerprintAlgorithm : List (String × FingerprintAlgorithm) :=
  [("sha-1", .sha1), ("sha-224", .sha224), ("sha-256", .sha256), ("sha-384", .sha384),
    ("sha-512", .sha512)]

/-- `DtlsTransport::GetFingerprintAlgorithm`. -/
def getFingerprintAlgorithm (fingerprint : String) : Option FingerprintAlgorithm :=
  string2FingerprintAlgorithm.lookup fingerprint

/-- `DtlsTransport::Fingerprint`. -/
structure Fingerprint where
  algorithm : FingerprintAlgorithm
  value : String
  deriving DecidableEq

/-- The certificate of the peer: what `X509_digest` returns, and its PEM format if it can be written. -/
structure Certificate where
  digest : FingerprintAlgorithm → Option (List UInt8)
  pem : Option String

/-- `DtlsTransport::Role`. -/
inductive Role
  | none | auto | client | server
  deriving DecidableEq, Repr

/-- `DtlsTransport::StringToRole`. -/
def stringToRole (role : String) : Role :=
  ([("auto", .auto), ("client", .client), ("server", .server)].lookup role).getD .none

/-- `SrtpSession::Profile`, without `NONE`. -/
inductive Profile
  | aesCm128HmacSha1_80 | aesCm128HmacSha1_32
  deriving DecidableEq, Repr

/-- `DtlsTransport::srtpProfiles`. -/
def srtpProfiles : List (String × Profile) :=
  [("SRTP_AES128_CM_SHA1_80", .aesCm128HmacSha1_80), ("SRTP_AES128_CM_SHA1_32", .aesCm128HmacSha1_32)]

def srtpMasterKeyLength : Nat := 16

def srtpMasterSaltLength : Nat := 14

/-- What is answered during an event: by OpenSSL, by `CheckAuthentication` where it reads behind the
buffer of a message, by the receivers, which know the payload types of their codecs, by the byte behind a
packet, and by the remote bitrate estimator. -/
structure Env where
  /-- `SSL_CB_HANDSHAKE_DONE` is reported. -/
  handshakeDone : Bool := false
  /-- `SSL_get_error` returns `SSL_ERROR_SSL` or `SSL_ERROR_SYSCALL`. -/
  error : Bool := false
  /-- `SSL_get_shutdown` has `SSL_RECEIVED_SHUTDOWN`. -/
  receivedShutdown : Bool := false
  /-- The data in `sslBioToNetwork`. -/
  outgoing : List UInt8 := []
  /-- `DTLSv1_get_timeout`, in milliseconds. -/
  timeoutMs : Option Nat := none
  /-- `SSL_get_peer_certificate`. -/
  certificate : Option Certificate := none
  /-- The name of `SSL_get_selected_srtp_profile`. -/
  srtpProfile : Option String := none
  /-- `SSL_export_keying_material`. -/
  srtpMaterial : Option (List UInt8) := none
  overread : Authentication := .badRequest
  codecs : Nat → List UInt8 := fun _ => []
  behind : UInt8 := 0
  /-- The packet that `RtpReceiver::ReceiveRtpPacket` leaves: the stream adds its extension mappings. -/
  received : Rtp.Packet → Rtp.Packet := id
  /-- The assertion that fails in `RemoteBitrateEstimatorAbsSendTime::IncomingPacketInfo`. -/
  incomingPacketInfo : Option String := none

/-- `SrtpSession::Type`. -/
inductive SrtpType
  | inbound | outbound
  deriving DecidableEq, Repr

/-- libsrtp: `srtp_create`, and what protects and unprotects packets. A session changes with every
packet. -/
structure LibSrtp (σ : Type) where
  create : SrtpType → Profile → List UInt8 → Option σ
  protect : σ → List UInt8 → Option (List UInt8) × σ
  unprotect : σ → List UInt8 → Option (List UInt8) × σ
  protectRtcp : σ → List UInt8 → Option (List UInt8) × σ
  unprotectRtcp : σ → List UInt8 → Option (List UInt8) × σ
  /-- `SRTP_MAX_TRAILER_LEN` -/
  maxTrailerLen : Nat

namespace LibSrtp

variable {σ : Type}

/-- A session that was created with a key, and what packets have made of it. -/
inductive Made (lib : LibSrtp σ) (type : SrtpType) (profile : Profile) (key : List UInt8) : σ → Prop
  | create {session : σ} (h : lib.create type profile key = some session) : Made lib type profile key session
  | protect {session : σ} (h : Made lib type profile key session) (data : List UInt8) :
      Made lib type profile key (lib.protect session data).2
  | unprotect {session : σ} (h : Made lib type profile key session) (data : List UInt8) :
      Made lib type profile key (lib.unprotect session data).2
  | protectRtcp {session : σ} (h : Made lib type profile key session) (data : List UInt8) :
      Made lib type profile key (lib.protectRtcp session data).2
  | unprotectRtcp {session : σ} (h : Made lib type profile key session) (data : List UInt8) :
      Made lib type profile key (lib.unprotectRtcp session data).2

/-- A function of the library leaves a session that was made with the same key. -/
def Keeps (lib : LibSrtp σ) (f : σ → List UInt8 → Option (List UInt8) × σ) : Prop :=
  ∀ {type profile key session}, lib.Made type profile key session →
    ∀ data, lib.Made type profile key (f session data).2

/-- To encrypt RTP keeps the key. -/
theorem keeps_protect (lib : LibSrtp σ) : lib.Keeps lib.protect := fun h => h.protect

/-- To decrypt RTP keeps the key. -/
theorem keeps_unprotect (lib : LibSrtp σ) : lib.Keeps lib.unprotect := fun h => h.unprotect

/-- To encrypt RTCP keeps the key. -/
theorem keeps_protectRtcp (lib : LibSrtp σ) : lib.Keeps lib.protectRtcp := fun h => h.protectRtcp

/-- To decrypt RTCP keeps the key. -/
theorem keeps_unprotectRtcp (lib : LibSrtp σ) : lib.Keeps lib.unprotectRtcp := fun h => h.unprotectRtcp

end LibSrtp

/-- What a session comes from: the fingerprint that was announced, the certificate that was checked, the
local role and the keying material. -/
structure Handshake where
  fingerprint : Fingerprint
  certificate : Certificate
  localRole : Role
  profile : Profile
  material : List UInt8

/-- `class SrtpSession`, with the handshake it comes from. The library has made its session with its key. -/
structure SrtpSession {σ : Type} (lib : LibSrtp σ) where
  type : SrtpType
  key : List UInt8
  session : σ
  handshake : Handshake
  made : lib.Made type handshake.profile key session

/-- `EncryptBufferSize`. -/
def encryptBufferSize : Nat := 65536

namespace SrtpSession

variable {σ : Type} {lib : LibSrtp σ} {f : σ → List UInt8 → Option (List UInt8) × σ}

/-- `SrtpSession::EncryptRtp` and `EncryptRtcp`, which protect with a function of the library. -/
def encrypt (protect : lib.Keeps f) (s : SrtpSession lib) (data : List UInt8) :
    Option (List UInt8) × SrtpSession lib :=
  if encryptBufferSize < data.length + lib.maxTrailerLen then (none, s)
  else ((f s.session data).1, { s with session := (f s.session data).2, made := protect s.made data })

/-- `SrtpSession::DecryptSrtp` and `DecryptSrtcp`. -/
def decrypt (unprotect : lib.Keeps f) (s : SrtpSession lib) (data : List UInt8) :
    Option (List UInt8) × SrtpSession lib :=
  ((f s.session data).1, { s with session := (f s.session data).2, made := unprotect s.made data })

end SrtpSession

/-- The digest in hexadecimal format, in lower case and without colons. -/
def hexFingerprint (digest : List UInt8) : String :=
  .ofList (digest.flatMap fun b => [Nat.digitChar (b.toNat / 16), Nat.digitChar (b.toNat % 16)])

/-- `DtlsTransport::CheckRemoteFingerprint`: the certificate and its PEM format, if it is valid. -/
def checkRemoteFingerprint (fingerprint : Fingerprint) (env : Env) : Option (Certificate × String) := do
  let certificate ← env.certificate
  let digest ← certificate.digest fingerprint.algorithm
  if fingerprint.value ≠ hexFingerprint digest then none
  else
    let pem ← certificate.pem
    if pem = "" then none else some (certificate, pem)

/-- `DtlsTransport::ExtractSrtpKeys`: the local and the remote master key, each with its salt. -/
def srtpKeys (material : List UInt8) : Role → Option (List UInt8 × List UInt8)
  | .server => some (second, first)
  | .client => some (first, second)
  | .none | .auto => none
where
  slice (i n : Nat) : List UInt8 := (material.drop i).take n
  first : List UInt8 := slice 0 srtpMasterKeyLength ++ slice (2 * srtpMasterKeyLength) srtpMasterSaltLength
  second : List UInt8 :=
    slice srtpMasterKeyLength srtpMasterKeyLength ++
      slice (2 * srtpMasterKeyLength + srtpMasterSaltLength) srtpMasterSaltLength

/-! ## The state -/

/-- `DtlsTransport::DtlsState`. -/
inductive DtlsState
  | new | connecting | connected | failed | closed
  deriving DecidableEq, Repr

/-- `class DtlsTransport`. -/
structure DtlsTransport where
  state : DtlsState := .new
  localRole : Role := .none
  remoteFingerprint : Option Fingerprint := none
  handshakeDone : Bool := false
  handshakeDoneNow : Bool := false
  remoteCert : String := ""
  /-- The timer has been started. -/
  timer : Bool := false

namespace DtlsTransport

variable (d : DtlsTransport)

/-- `DtlsTransport::IsRunning`. -/
def isRunning : Bool := d.state = .connecting || d.state = .connected

/-- `DtlsTransport::Reset`. -/
def reset : DtlsTransport :=
  if d.isRunning then
    { d with
      timer := false
      localRole := .none
      state := .new
      handshakeDone := false
      handshakeDoneNow := false }
  else d

/-- OpenSSL calls `OnSslInfo`. -/
def onSslInfo (env : Env) : DtlsTransport :=
  if env.handshakeDone then { d with handshakeDoneNow := true } else d

end DtlsTransport

/-- The events of a transport that are notified. -/
inductive Notification
  | iceSelectedTupleChange (tuple : Tuple)
  | iceStateChange (iceState : IceState)
  | dtlsStateChange (dtlsState : DtlsState) (dtlsRemoteCert : Option String)
  | close

/-- What a transport does. Data that is protected or was protected is there with the session. -/
inductive Output {σ : Type} (lib : LibSrtp σ)
  | stun (msg : Stun.Message) (tuple : Tuple)
  | dtls (tuple : Tuple) (data : List UInt8)
  | srtp (tuple : Tuple) (session : SrtpSession lib) (plain data : List UInt8)
  | srtcp (tuple : Tuple) (session : SrtpSession lib) (plain data : List UInt8)
  /-- `RtpReceiver::ReceiveRtpPacket` -/
  | receiveRtpPacket (tuple : Tuple) (session : SrtpSession lib) (data plain : List UInt8)
      (rtpReceiver : Nat)
  /-- `Listener::OnTransportRtcpPacket` -/
  | onTransportRtcpPacket (tuple : Tuple) (session : SrtpSession lib) (data plain : List UInt8)
  | onTransportConnected
  | onTransportClosed
  | notify (notification : Notification)
  | accept (data : Value)
  | reject (reason : String)

/-- `class Transport`. -/
structure Transport {σ : Type} (lib : LibSrtp σ) where
  ice : IceServer
  dtls : DtlsTransport := {}
  srtpRecvSession : Option (SrtpSession lib) := none
  srtpSendSession : Option (SrtpSession lib) := none
  selectedTuple : Option Nat := none
  remoteDtlsParametersGiven : Bool := false
  dtlsLocalRole : Role := .auto
  rtpListener : Rtc.RtpListener := {}
  connections : List Nat := []
  /-- There is a `remoteBitrateEstimator`. -/
  remoteBitrateEstimator : Bool := false
  /-- It has been destroyed. -/
  closed : Bool := false
  log : List (Output lib) := []

namespace Transport

variable {σ : Type} {lib : LibSrtp σ} (env : Env) (t : Transport lib)

def output (o : Output lib) : Transport lib := { t with log := o :: t.log }

def notify (n : Notification) : Transport lib := t.output (.notify n)

/-- The tuple that a pointer points to. -/
def tupleAt (node : Nat) : Except Fault Tuple := (t.ice.tupleAt node).mapError .ice

/-- `TransportTuple::Send` and `TransportTuple::ToJson` need the connection. -/
def checkConnection : Tuple → Except Fault Unit
  | .udp _ _ => .ok ()
  | .tcp tcpConnection _ =>
      if tcpConnection ∈ t.connections then .ok () else .error (.deletedConnection tcpConnection)

/-- `TransportTuple::Send`, to the selected tuple. -/
def sendSelected (node : Nat) (o : Tuple → Output lib) : Except Fault (Transport lib) := do
  let tuple ← t.tupleAt node
  t.checkConnection tuple
  return t.output (o tuple)

/-! ## DTLS -/

/-- `OnOutgoingDtlsData`. -/
def onOutgoingDtlsData (data : List UInt8) : Except Fault (Transport lib) :=
  match t.selectedTuple with
  | none => .ok t
  | some node => t.sendSelected node fun tuple => .dtls tuple data

/-- `DtlsTransport::SendPendingOutgoingDtlsData`. -/
def sendPendingOutgoingDtlsData : Except Fault (Transport lib) :=
  if env.outgoing = [] then .ok t else t.onOutgoingDtlsData env.outgoing

/-- `DtlsTransport::Destroy`. -/
def destroyDtls : Except Fault (Transport lib) :=
  if t.dtls.isRunning then t.sendPendingOutgoingDtlsData env else .ok t

/-- `Transport::Destroy`. -/
def destroy : Except Fault (Transport lib) := do
  let t ← { t with srtpRecvSession := none, srtpSendSession := none }.destroyDtls env
  let t := { t with selectedTuple := none, closed := true }
  return (t.notify .close).output .onTransportClosed

/-- `OnDtlsFailed` and `OnDtlsClosed`, after the reset. -/
def onDtlsEnded (state : DtlsState) : Except Fault (Transport lib) :=
  ({ t with dtls := { t.dtls.reset with state } }.notify (.dtlsStateChange state none)).destroy env

/-- `DtlsTransport::SetTimeout`. -/
def setTimeout : Except Fault (Transport lib) :=
  if t.closed then .error .useAfterFree
  else
    match env.timeoutMs with
    | none => .ok t
    | some timeoutMs =>
        if timeoutMs = 0 then .ok t
        else if timeoutMs < 30000 then .ok { t with dtls := { t.dtls with timer := true } }
        else t.onDtlsEnded env .failed

/-- `OnDtlsConnected`. -/
def onDtlsConnected (handshake : Handshake) (srtpLocalKey srtpRemoteKey : List UInt8) :
    Except Fault (Transport lib) :=
  let session := fun (type : SrtpType) (key : List UInt8) =>
    (lib.create type handshake.profile key).pmap
      (fun session made => ({ type, key, session, handshake, made } : SrtpSession lib)) fun _ h => .create h
  let srtpSendSession := session .outbound srtpLocalKey
  let srtpRecvSession := session .inbound srtpRemoteKey
  if srtpRecvSession.isNone && srtpSendSession.isNone then .error .nullSession
  else
    let t := { t with
      srtpRecvSession
      srtpSendSession := if srtpRecvSession.isNone then none else srtpSendSession }
    .ok ((t.notify (.dtlsStateChange .connected (some t.dtls.remoteCert))).output .onTransportConnected)

/-- `DtlsTransport::ExtractSrtpKeys`. -/
def extractSrtpKeys (fingerprint : Fingerprint) (certificate : Certificate) (profile : Profile) :
    Except Fault (Transport lib) :=
  match env.srtpMaterial with
  | none => .error (.assertion "SSL_export_keying_material() failed")
  | some material =>
      match srtpKeys material t.dtls.localRole with
      | none => .error (.assertion "no DTLS role set")
      | some (srtpLocalKey, srtpRemoteKey) =>
          { t with dtls := { t.dtls with state := .connected } }.onDtlsConnected
            { fingerprint, certificate, localRole := t.dtls.localRole, profile, material }
            srtpLocalKey srtpRemoteKey

/-- `DtlsTransport::ProcessHandshake`, with `GetNegotiatedSrtpProfile`. -/
def processHandshake : Except Fault (Transport lib) :=
  match t.dtls.remoteFingerprint with
  | none => .ok t
  | some fingerprint =>
      match checkRemoteFingerprint fingerprint env with
      | none => t.onDtlsEnded env .failed
      | some (certificate, remoteCert) =>
          let t := { t with dtls := { t.dtls with remoteCert } }
          match env.srtpProfile with
          | none => t.onDtlsEnded env .failed
          | some name =>
              match srtpProfiles.lookup name with
              | none => .error (.assertion "chosen SRTP profile is not an available one")
              | some profile => t.extractSrtpKeys env fingerprint certificate profile

/-- The handshake, or another one, has been done right now: the first part of
`DtlsTransport::CheckStatus`. -/
def handshakeDone : Except Fault (Transport lib) :=
  let wasHandshakeDone := t.dtls.handshakeDone
  let dtls := { t.dtls with handshakeDoneNow := false, handshakeDone := true, timer := false }
  if wasHandshakeDone then .ok { t with dtls } else { t with dtls }.processHandshake env

/-- `DtlsTransport::CheckStatus`: the transport, and what is returned. -/
def checkStatus : Except Fault (Transport lib × Bool) :=
  if t.dtls.handshakeDoneNow then (·, true) <$> t.handshakeDone env
  else if env.receivedShutdown || env.error then
    let state := if t.dtls.state = .connected then .closed else .failed
    (·, false) <$> t.onDtlsEnded env state
  else .ok (t, true)

/-- `DtlsTransport::ProcessDtlsData`. The transport only logs application data. -/
def processDtlsData : Except Fault (Transport lib) :=
  if t.dtls.isRunning then do
    let t ← { t with dtls := t.dtls.onSslInfo env }.sendPendingOutgoingDtlsData env
    let (t, ok) ← t.checkStatus env
    if ok then t.setTimeout env else return t
  else .ok t

/-- `DtlsTransport::OnTimer`. -/
def onTimer : Except Fault (Transport lib) := do
  let dtls := { t.dtls.onSslInfo env with timer := false }
  let t ← { t with dtls }.sendPendingOutgoingDtlsData env
  t.setTimeout env

/-- `DtlsTransport::Run`, with the role of a client or a server. -/
def run (localRole : Role) : Except Fault (Transport lib) :=
  if localRole = t.dtls.localRole then .ok t
  else
    let dtls :=
      if t.dtls.localRole = .client ∨ t.dtls.localRole = .server then t.dtls.reset else t.dtls
    let dtls := { dtls with localRole, state := .connecting }
    let t := { t with dtls := dtls.onSslInfo env }.notify (.dtlsStateChange .connecting none)
    if localRole = .client then do
      let t ← t.sendPendingOutgoingDtlsData env
      t.setTimeout env
    else .ok t

/-- `Transport::MayRunDtlsTransport`. -/
def mayRunDtlsTransport : Except Fault (Transport lib) :=
  if t.closed then .error .useAfterFree
  else if t.dtls.localRole = t.dtlsLocalRole then .ok t
  else
    match t.dtlsLocalRole with
    | .auto =>
        if t.ice.state = .connected ∨ t.ice.state = .completed then
          { t with dtlsLocalRole := .server }.run env .server
        else .ok t
    | .client => if t.ice.state = .completed then t.run env .client else .ok t
    | .server =>
        if t.ice.state = .connected ∨ t.ice.state = .completed then t.run env .server else .ok t
    | .none => .error (.assertion "local DTLS role not set")

/-- `DtlsTransport::SetRemoteFingerprint`. -/
def setRemoteFingerprint (fingerprint : Fingerprint) : Except Fault (Transport lib) :=
  let t := { t with dtls := { t.dtls with remoteFingerprint := some fingerprint } }
  if t.dtls.handshakeDone ∧ t.dtls.state ≠ .connected then t.processHandshake env else .ok t

/-! ## ICE -/

/-- The calls of the ICE server. -/
def onIce : Ice.Call → Except Fault (Transport lib)
  | .onOutgoingStunMessage msg tuple => do
      t.checkConnection tuple
      return t.output (.stun msg tuple)
  | .onIceSelectedTuple node => do
      let tuple ← t.tupleAt node
      t.checkConnection tuple
      return { t with selectedTuple := some node }.notify (.iceSelectedTupleChange tuple)
  | .onIceConnected => (t.notify (.iceStateChange .connected)).mayRunDtlsTransport env
  | .onIceCompleted => (t.notify (.iceStateChange .completed)).mayRunDtlsTransport env
  | .onIceDisconnected =>
      ({ t with selectedTuple := none }.notify (.iceStateChange .disconnected)).destroy env

/-- The ICE server has returned, and its calls are made. -/
def withIce (ice : Except Bytes.Fault IceServer) : Except Fault (Transport lib) := do
  let ice ← ice.mapError .ice
  ice.calls.reverse.foldlM (fun t call => t.onIce env call) { t with ice := { ice with calls := [] } }

/-! ## Requests -/

/-- The requests of a transport. -/
inductive Request
  | close
  | setRemoteDtlsParameters (data : Value)
  /-- with the random strings -/
  | changeUfragPwd (usernameFragment password : List UInt8)

/-- What `TRANSPORT_SET_REMOTE_DTLS_PARAMETERS` reads from the data: the fingerprint and the remote role,
or the error. -/
def remoteDtlsParameters (data : Value) : Except String (Fingerprint × Role) :=
  let fingerprint := data.member "fingerprint"
  if ¬ fingerprint.isObject then .error "missing data.fingerprint"
  else if ¬ (fingerprint.member "algorithm").isString ∨ ¬ (fingerprint.member "value").isString then
    .error "missing data.fingerprint.algorithm and/or data.fingerprint.value"
  else
    match getFingerprintAlgorithm (fingerprint.member "algorithm").asString with
    | none => .error "unsupported data.fingerprint.algorithm"
    | some algorithm =>
        let remoteRole :=
          if (data.member "role").isString then stringToRole (data.member "role").asString else .auto
        if remoteRole = .none then .error "invalid data.role"
        else .ok ({ algorithm, value := (fingerprint.member "value").asString }, remoteRole)

/-- Our role for that of the peer. -/
def localRoleFor : Role → Role
  | .client => .server
  | _ => .client

/-- The case `TRANSPORT_SET_REMOTE_DTLS_PARAMETERS` of `Transport::HandleRequest`. -/
def setRemoteDtlsParameters (data : Value) : Except Fault (Transport lib) :=
  if t.remoteDtlsParametersGiven then .ok (t.output (.reject "method already called"))
  else
    let t := { t with remoteDtlsParametersGiven := true }
    match remoteDtlsParameters data with
    | .error reason => .ok (t.output (.reject reason))
    | .ok (fingerprint, remoteRole) => do
        let dtlsLocalRole := localRoleFor remoteRole
        let role := if dtlsLocalRole = .client then "client" else "server"
        let t := { t with dtlsLocalRole }.output (.accept (.object [("role", .string role)]))
        let t ← t.setRemoteFingerprint env fingerprint
        t.mayRunDtlsTransport env

/-- `Transport::HandleRequest`. -/
def handleRequest : Request → Except Fault (Transport lib)
  | .close => do
      let t ← t.destroy env
      return t.output (.accept .null)
  | .setRemoteDtlsParameters data => t.setRemoteDtlsParameters env data
  | .changeUfragPwd usernameFragment password =>
      let text := fun bytes : List UInt8 => Value.string (.ofList (bytes.map fun b => .ofNat b.toNat))
      let data := .object [("usernameFragment", text usernameFragment), ("password", text password)]
      .ok ({ t with ice := { t.ice with usernameFragment, password } }.output (.accept data))

/-! ## Packets -/

/-- `Transport::SendRtpPacket`. -/
def sendRtpPacket (plain : List UInt8) : Except Fault (Transport lib) :=
  match t.selectedTuple, t.srtpSendSession with
  | some node, some s =>
      let (data, s') := s.encrypt lib.keeps_protect plain
      let t := { t with srtpSendSession := some s' }
      match data with
      | none => .ok t
      | some data => t.sendSelected node fun tuple => .srtp tuple s plain data
  | _, _ => .ok t

/-- `Transport::SendRtcpPacket` and `SendRtcpCompoundPacket`. -/
def sendRtcpPacket (plain : List UInt8) : Except Fault (Transport lib) :=
  match t.selectedTuple, t.srtpSendSession with
  | some node, some s =>
      let (data, s') := s.encrypt lib.keeps_protectRtcp plain
      let t := { t with srtpSendSession := some s' }
      match data with
      | none => .ok t
      | some data => t.sendSelected node fun tuple => .srtcp tuple s plain data
  | _, _ => .ok t

/-- `IceServer::IsValidTuple`. -/
def isValidTuple (tuple : Tuple) : Except Fault Bool := (t.ice.isValidTuple tuple).mapError .ice

/-- The session with which `OnRtpDataRecv` and `OnRtcpDataRecv` decrypt data from the tuple, if they do. -/
def recvSession (tuple : Tuple) : Except Fault (Option (SrtpSession lib)) :=
  if t.dtls.state = .connected then
    match t.srtpRecvSession with
    | none => .ok none
    | some s => do if ← t.isValidTuple tuple then return some s else return none
  else .ok none

/-- `RtpPacket::ReadAbsSendTime`. -/
def readAbsSendTime (packet : Rtp.Packet) : Except Fault (Option UInt32) :=
  match packet.getExtension .absSendTime with
  | .error .at => .error .outOfRange
  | .ok none => .ok none
  | .ok (some (extenValue, extenLen)) =>
      if extenLen ≠ 3 then .ok none
      else some <$> (Byte.get3Bytes packet.buf extenValue).mapError .parser

/-- `RemoteBitrateEstimatorAbsSendTime::IncomingPacket`, whose assertions are all that is seen of it. -/
def incomingPacket (absSendTime : UInt32) : Except Fault Unit :=
  if absSendTime < (1 : UInt32) <<< 24 then
    match env.incomingPacketInfo with
    | none => .ok ()
    | some desc => .error (.assertion desc)
  else .error (.assertion "invalid sendTime24bits value")

/-- The remote bitrate estimator is fed with the packet that the receiver has left: the end of
`OnRtpDataRecv`. -/
def feed (packet : Rtp.Packet) : Except Fault Unit :=
  if t.remoteBitrateEstimator then do
    match ← readAbsSendTime packet with
    | none => return ()
    | some absSendTime => incomingPacket env absSendTime
  else return ()

/-- `OnRtpDataRecv`. -/
def onRtpDataRecv (tuple : Tuple) (data : List UInt8) : Except Fault (Transport lib) := do
  match ← t.recvSession tuple with
  | none => .ok t
  | some s =>
      let (decrypted, s') := s.decrypt lib.keeps_unprotect data
      let t := { t with srtpRecvSession := some s' }
      match decrypted with
      | none => do
          -- it is parsed for what is logged
          let _ ← (Rtp.parse env.behind data).mapError .parser
          return t
      | some plain =>
          match ← (Rtp.parse env.behind plain).mapError .parser with
          | none => .ok t
          | some packet =>
              let (rtpReceiver, rtpListener) :=
                t.rtpListener.getRtpReceiver env.codecs packet.getSsrc packet.getPayloadType
              let t := { t with rtpListener }
              match rtpReceiver with
              | none => .ok t
              | some rtpReceiver => do
                  let t ← t.withIce env (t.ice.forceSelectedTuple tuple)
                  let t := t.output (.receiveRtpPacket tuple s data plain rtpReceiver)
                  t.feed env (env.received packet)
                  return t

/-- `OnRtcpDataRecv`. -/
def onRtcpDataRecv (tuple : Tuple) (data : List UInt8) : Except Fault (Transport lib) := do
  match ← t.recvSession tuple with
  | none => .ok t
  | some s =>
      let (decrypted, s') := s.decrypt lib.keeps_unprotectRtcp data
      let t := { t with srtpRecvSession := some s' }
      match decrypted with
      | none => .ok t
      | some plain =>
          match ← (Rtcp.parse plain).mapError .parser with
          | [] => .ok t
          | _ :: _ => .ok (t.output (.onTransportRtcpPacket tuple s data plain))

/-- `OnDtlsDataRecv`. -/
def onDtlsDataRecv (tuple : Tuple) : Except Fault (Transport lib) := do
  if ← t.isValidTuple tuple then
    let t ← t.withIce env (t.ice.forceSelectedTuple tuple)
    if t.dtls.isRunning then t.processDtlsData env else return t
  else return t

/-- `OnStunDataRecv`. -/
def onStunDataRecv (c : Crypto) (tuple : Tuple) (data : List UInt8) : Except Fault (Transport lib) := do
  match ← (Stun.parse c data).mapError .parser with
  | none => return t
  | some msg => t.withIce env (t.ice.processStunMessage c msg tuple env.overread)

/-- `Transport::OnPacketRecv`. -/
def onPacketRecv (c : Crypto) (tuple : Tuple) (data : List UInt8) : Except Fault (Transport lib) :=
  match Rtc.onPacketRecv data with
  | .stun => t.onStunDataRecv env c tuple data
  | .rtcp => t.onRtcpDataRecv tuple data
  | .rtp => t.onRtpDataRecv env tuple data
  | .dtls => t.onDtlsDataRecv env tuple
  | .ignored => .ok t

/-- `OnRtcTcpConnectionClosed`, after which the connection is deleted. -/
def onRtcTcpConnectionClosed (connection : Nat) (peerAddress : RemoteAddr) (isClosedByPeer : Bool) :
    Except Fault (Transport lib) :=
  let deleted := fun t : Transport lib => { t with connections := t.connections.erase connection }
  if isClosedByPeer then deleted <$> t.withIce env (.ok (t.ice.removeTuple (.tcp connection peerAddress)))
  else .ok (deleted t)

end Transport

/-! ## Events -/

/-- What happens to a transport. -/
inductive Event
  | onPacketRecv (tuple : Tuple) (data : List UInt8)
  | newTcpConnection (connection : Nat)
  | onRtcTcpConnectionClosed (connection : Nat) (peerAddress : RemoteAddr) (isClosedByPeer : Bool)
  | handleRequest (request : Transport.Request)
  | onTimer
  | sendRtpPacket (plain : List UInt8)
  | sendRtcpPacket (plain : List UInt8)
  | addRtpReceiver (rtpReceiver : Nat) (rtpParameters : Rtc.RtpParameters)
  | removeRtpReceiver (rtpReceiver : Nat)
  | enableRemb
  | destroy

namespace Transport

variable {σ : Type} {lib : LibSrtp σ} (c : Crypto) (t : Transport lib)

/-- A packet comes over a socket, or over a connection that is open. -/
def hasConnection : Tuple → Bool
  | .udp _ _ => true
  | .tcp tcpConnection _ => tcpConnection ∈ t.connections

/-- Nothing happens to a transport that is closed. -/
def enabled : Event → Bool
  | .onPacketRecv tuple _ => !t.closed && t.hasConnection tuple
  | .newTcpConnection connection => !t.closed && connection ∉ t.connections
  | .onRtcTcpConnectionClosed connection _ _ => !t.closed && connection ∈ t.connections
  | .onTimer => !t.closed && t.dtls.timer
  | _ => !t.closed

def handle (env : Env) : Event → Except Fault (Transport lib)
  | .onPacketRecv tuple data => t.onPacketRecv env c tuple data
  | .newTcpConnection connection => .ok { t with connections := connection :: t.connections }
  | .onRtcTcpConnectionClosed connection peerAddress isClosedByPeer =>
      t.onRtcTcpConnectionClosed env connection peerAddress isClosedByPeer
  | .handleRequest request => t.handleRequest env request
  | .onTimer => t.onTimer env
  | .sendRtpPacket plain => t.sendRtpPacket plain
  | .sendRtcpPacket plain => t.sendRtcpPacket plain
  | .addRtpReceiver rtpReceiver rtpParameters =>
      .ok { t with rtpListener := (t.rtpListener.addRtpReceiver rtpReceiver rtpParameters).1 }
  | .removeRtpReceiver rtpReceiver =>
      .ok { t with rtpListener := t.rtpListener.removeRtpReceiver rtpReceiver }
  | .enableRemb => .ok { t with remoteBitrateEstimator := true }
  | .destroy => t.destroy env

/-- A step without a fault. -/
def step (t : Transport lib) (e : Event × Env) : Option (Transport lib) :=
  if t.enabled e.1 then (t.handle c e.2 e.1).toOption else none

/-- A new transport. -/
def new (lib : LibSrtp σ) (usernameFragment password : List UInt8) : Transport lib :=
  { ice := { usernameFragment, password } }

end Transport

end KoreWebsocket.Dtls
