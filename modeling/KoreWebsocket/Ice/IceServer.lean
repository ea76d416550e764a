import KoreWebsocket.Stun.Message

/-!
# The ICE server (`RTC::IceServer`, `mediasoup_1/soup`)

The list `tuples` has nodes, and a pointer to a stored tuple is the number of its node; numbers are
not used twice. Reading through a pointer whose node has been erased is a fault, and so is a failed
assertion. The calls of the listener are kept in `calls`, newest first; the listener does not call the
server back.

`CheckAuthentication` may read behind the buffer of a message. `overread` is what it returns then.
-/

namespace KoreWebsocket.Ice

open Bytes (Fault ensure)
open Stun (Message Authentication Crypto SockAddr)

/-! ## Tuples -/

/-- The remote address of a socket: of the IPv4 or of the IPv6 family. -/
inductive RemoteAddr
  | inet (port : UInt16) (addr : UInt32)
  | inet6 (port : UInt16) (addr : BitVec 128)
  deriving DecidableEq

def RemoteAddr.sockAddr : RemoteAddr → SockAddr
  | .inet port addr => .inet port addr
  | .inet6 port addr => .inet6 port addr

/-- `Utils::IP::CompareAddresses`. -/
def compareAddresses : RemoteAddr → RemoteAddr → Bool
  | .inet port₁ addr₁, .inet port₂ addr₂ => port₁ == port₂ && addr₁ == addr₂
  | .inet6 port₁ addr₁, .inet6 port₂ addr₂ => port₁ == port₂ && addr₁ == addr₂
  | _, _ => false

/-- `class TransportTuple`, by its protocol. Sockets and connections are numbered. -/
inductive Tuple
  | udp (udpSocket : Nat) (udpRemoteAddr : RemoteAddr)
  | tcp (tcpConnection : Nat) (peerAddress : RemoteAddr)
  deriving DecidableEq

/-- `TransportTuple::Compare`. -/
def Tuple.compare : Tuple → Tuple → Bool
  | .udp udpSocket₁ addr₁, .udp udpSocket₂ addr₂ =>
      udpSocket₁ == udpSocket₂ && compareAddresses addr₁ addr₂
  | .tcp tcpConnection₁ _, .tcp tcpConnection₂ _ => tcpConnection₁ == tcpConnection₂
  | _, _ => false

/-- `TransportTuple::GetRemoteAddress`. -/
def Tuple.getRemoteAddress : Tuple → RemoteAddr
  | .udp _ udpRemoteAddr => udpRemoteAddr
  | .tcp _ peerAddress => peerAddress

/-! ## The server -/

/-- `IceServer::IceState`. -/
inductive IceState
  | new | connected | completed | disconnected
  deriving DecidableEq, Repr

/-- The calls of `IceServer::Listener`. -/
inductive Call
  | onOutgoingStunMessage (msg : Message) (tuple : Tuple)
  | onIceSelectedTuple (tuple : Nat)
  | onIceConnected
  | onIceCompleted
  | onIceDisconnected

/-- `class IceServer`, with the number of nodes that have been allocated. -/
structure IceServer where
  usernameFragment : List UInt8
  password : List UInt8
  state : IceState := .new
  tuples : List (Nat × Tuple) := []
  selectedTuple : Option Nat := none
  nodes : Nat := 0
  calls : List Call := []

namespace IceServer

variable (s : IceServer)

/-- The tuple that a pointer points to. -/
def tupleAt (node : Nat) : Except Fault Tuple :=
  match s.tuples.lookup node with
  | none => .error .dangling
  | some tuple => .ok tuple

/-- `IceServer::HasTuple`. -/
def hasTuple (tuple : Tuple) : Except Fault (Option Nat) :=
  match s.selectedTuple with
  | none => return none
  | some selectedTuple => do
      if (← s.tupleAt selectedTuple).compare tuple then return some selectedTuple
      return (s.tuples.find? fun storedTuple => storedTuple.2.compare tuple).map (·.1)

/-- `IceServer::IsValidTuple`. -/
def isValidTuple (tuple : Tuple) : Except Fault Bool := Option.isSome <$> s.hasTuple tuple

def notify (call : Call) : IceServer := { s with calls := call :: s.calls }

/-- `IceServer::SetSelectedTuple`. -/
def setSelectedTuple (storedTuple : Nat) : IceServer :=
  if some storedTuple = s.selectedTuple then s
  else { s with selectedTuple := some storedTuple }.notify (.onIceSelectedTuple storedTuple)

/-- `IceServer::AddTuple`: the new node is the first of the list. -/
def addTuple (tuple : Tuple) : IceServer × Nat :=
  ({ s with tuples := (s.nodes, tuple) :: s.tuples, nodes := s.nodes + 1 }, s.nodes)

/-- The stored tuple, which is added if it is new. -/
def storeTuple (tuple : Tuple) : Except Fault (IceServer × Nat) := do
  match ← s.hasTuple tuple with
  | none => return s.addTuple tuple
  | some storedTuple => return (s, storedTuple)

/-- The cases `NEW` and `DISCONNECTED` of `HandleTuple`. -/
def handleFirstTuple (name : String) (tuple : Tuple) (hasUseCandidate : Bool) :
    Except Fault IceServer := do
  ensure (s.tuples = []) ("state is '" ++ name ++ "' but there are tuples")
  ensure (s.selectedTuple = none) ("state is '" ++ name ++ "' but there is selected tuple")
  let (s, storedTuple) := s.addTuple tuple
  let s := s.setSelectedTuple storedTuple
  if hasUseCandidate then return { s with state := .completed }.notify .onIceCompleted
  else return { s with state := .connected }.notify .onIceConnected

/-- The assertions of the cases `CONNECTED` and `COMPLETED` of `HandleTuple`. -/
def ensureConnected (name : String) : Except Fault Unit := do
  ensure (s.tuples ≠ []) ("state is '" ++ name ++ "' but there are no tuples")
  ensure (s.selectedTuple ≠ none) ("state is '" ++ name ++ "' but there is not selected tuple")

/-- `IceServer::HandleTuple`. -/
def handleTuple (tuple : Tuple) (hasUseCandidate : Bool) : Except Fault IceServer :=
  match s.state with
  | .new => s.handleFirstTuple "new" tuple hasUseCandidate
  | .disconnected => s.handleFirstTuple "disconnected" tuple hasUseCandidate
  | .connected => do
      s.ensureConnected "connected"
      let (s, storedTuple) ← s.storeTuple tuple
      if hasUseCandidate then
        return { s.setSelectedTuple storedTuple with state := .completed }.notify .onIceCompleted
      else return s
  | .completed => do
      s.ensureConnected "completed"
      let (s, storedTuple) ← s.storeTuple tuple
      if hasUseCandidate then return s.setSelectedTuple storedTuple else return s

/-- `StunMessage::CreateErrorResponse`, sent to the tuple. -/
def replyError (msg : Message) (errorCode : UInt16) (tuple : Tuple) : Except Fault IceServer := do
  ensure (msg.klass = .request) "attempt to create an error response for a non Request STUN message"
  let response : Message :=
    { klass := .errorResponse, method := msg.method, transactionId := msg.transactionId, errorCode }
  return s.notify (.onOutgoingStunMessage response tuple)

/-- `StunMessage::CreateSuccessResponse`, with the address of the tuple, sent to it. -/
def replySuccess (msg : Message) (tuple : Tuple) : Except Fault IceServer := do
  ensure (msg.klass = .request) "attempt to create a success response for a non Request STUN message"
  let response : Message :=
    { klass := .successResponse, method := msg.method, transactionId := msg.transactionId
      xorMappedAddress := some tuple.getRemoteAddress.sockAddr, password := s.password }
  return s.notify (.onOutgoingStunMessage response tuple)

/-- What `CheckAuthentication` returns for this server. -/
def authentication (c : Crypto) (msg : Message) (overread : Authentication) : Authentication :=
  match msg.checkAuthentication c s.usernameFragment s.password with
  | .ok (result, _) => result
  | .error _ => overread

/-- `IceServer::ProcessStunMessage`. -/
def processStunMessage (c : Crypto) (msg : Message) (tuple : Tuple) (overread : Authentication) :
    Except Fault IceServer :=
  if msg.method ≠ Stun.binding then
    if msg.klass = .request then s.replyError msg 400 tuple else return s
  else if msg.hasFingerprint = false ∧ msg.klass ≠ .indication then
    if msg.klass = .request then s.replyError msg 400 tuple else return s
  else
    match msg.klass with
    | .request =>
        if msg.messageIntegrity = none ∨ msg.priority = 0 ∨ msg.username = [] then
          s.replyError msg 400 tuple
        else
          match s.authentication c msg overread with
          | .ok => do
              let s ← s.replySuccess msg tuple
              s.handleTuple tuple msg.hasUseCandidate
          | .unauthorized => s.replyError msg 401 tuple
          | .badRequest => s.replyError msg 400 tuple
    | .indication | .successResponse | .errorResponse => return s

/-- `IceServer::RemoveTuple`. -/
def removeTuple (tuple : Tuple) : IceServer :=
  match s.tuples.find? fun storedTuple => storedTuple.2.compare tuple with
  | none => s
  | some (removedTuple, _) =>
      let tuples := s.tuples.eraseP fun storedTuple => storedTuple.2.compare tuple
      if some removedTuple ≠ s.selectedTuple then { s with tuples }
      else
        let s := { s with tuples, selectedTuple := none }
        match tuples with
        | (first, _) :: _ => s.setSelectedTuple first
        | [] => { s with state := .disconnected }.notify .onIceDisconnected

/-- `IceServer::ForceSelectedTuple`. -/
def forceSelectedTuple (tuple : Tuple) : Except Fault IceServer := do
  ensure (s.selectedTuple ≠ none) "cannot force the selected tuple if there was not a selected tuple"
  match ← s.hasTuple tuple with
  | none =>
      .error (.assertion
        "cannot force the selected tuple if the given tuple was not already a valid tuple")
  | some storedTuple => return s.setSelectedTuple storedTuple

/-- What `Transport` does with media from a tuple: it is dropped unless the tuple is valid. -/
def forceValidTuple (tuple : Tuple) : Except Fault IceServer := do
  if ← s.isValidTuple tuple then s.forceSelectedTuple tuple else return s

end IceServer

/-- The calls of an ICE server. -/
inductive Event
  | processStunMessage (msg : Message) (tuple : Tuple) (overread : Authentication)
  | removeTuple (tuple : Tuple)
  | forceSelectedTuple (tuple : Tuple)
  | setUsernameFragment (usernameFragment : List UInt8)
  | setPassword (password : List UInt8)

def step (c : Crypto) (s : IceServer) : Event → Except Fault IceServer
  | .processStunMessage msg tuple overread => s.processStunMessage c msg tuple overread
  | .removeTuple tuple => return s.removeTuple tuple
  | .forceSelectedTuple tuple => s.forceValidTuple tuple
  | .setUsernameFragment usernameFragment => return { s with usernameFragment }
  | .setPassword password => return { s with password }

/-- A sequence of calls. -/
def run (c : Crypto) (s : IceServer) (es : List Event) : Except Fault IceServer := es.foldlM (step c) s

end KoreWebsocket.Ice
