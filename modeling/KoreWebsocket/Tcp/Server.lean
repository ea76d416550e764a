import Mathlib
import KoreWebsocket.Lib.Machine

/-!
# TCP servers (`TcpServer`, `mediasoup_1/soup`)

`Destroy` closes the handle of a server without connections, and otherwise destroys its connections; the
last of them that has been closed then closes the handle. A subclass is called back for a new connection and
for a closed one, and may call `Destroy` there, of the server and of its connections: an event has what it
calls. A connection closes some time after its `Destroy`.

`closes_once`: the handle is closed once, when there are no connections, as soon as the server is closing and
has none. The order of two lines of `OnTcpConnectionClosed` decides it: `wasClosing` is read before the
callback.
-/

namespace KoreWebsocket.Tcp

/-- `RTC::MaxTcpConnectionsPerServer`. -/
def maxTcpConnectionsPerServer : Nat := 10

/-- A connection of the server. -/
structure Accepted where
  id : Nat
  isClosing : Bool := false
  deriving DecidableEq, Repr

/-- `TcpServer`, with the number of connections it has made. The last three are the history: how often its
users have called `Destroy`, the connections there were at each call of `uv_close` on the handle, and
whether the server has been deleted. -/
structure TcpServer where
  connections : List Accepted := []
  isClosing : Bool := false
  made : Nat := 0
  destroys : Nat := 0
  closes : List (List Accepted) := []
  deleted : Bool := false
  deriving DecidableEq, Repr

/-- What a callback of the subclass calls. -/
inductive UserCall
  | destroy
  | destroyConnection (id : Nat)
  deriving DecidableEq, Repr

namespace TcpServer

variable (server : TcpServer)

/-- `uv_close` on the handle. -/
def uvClose : TcpServer := { server with closes := server.connections :: server.closes }

/-- `TcpConnection::Destroy` of one connection. -/
def destroyConnection (id : Nat) : TcpServer :=
  { server with
    connections := server.connections.map fun connection =>
      if connection.id = id then { connection with isClosing := true } else connection }

/-- `TcpConnection::Destroy` of all the connections. -/
def destroyConnections : TcpServer :=
  { server with
    connections := server.connections.map fun connection => { connection with isClosing := true } }

/-- `TcpServer::Destroy`. -/
def destroy : TcpServer :=
  if server.isClosing then server
  else
    let server := { server with isClosing := true }
    if server.connections.isEmpty then server.uvClose else server.destroyConnections

/-- A user of the server calls `Destroy`. -/
def callDestroy : TcpServer :=
  let server := server.destroy
  { server with destroys := server.destroys + 1 }

/-- A call of the subclass. -/
def userCall : UserCall → TcpServer
  | .destroy => server.callDestroy
  | .destroyConnection id => server.destroyConnection id

/-- All that a callback of the subclass calls. -/
def userCalls (calls : List UserCall) : TcpServer := calls.foldl userCall server

/-- `RTC::TcpServer::UserOnNewTcpConnection`, and what else a subclass calls there. -/
def userOnNewTcpConnection (id : Nat) (calls : List UserCall) : TcpServer :=
  let server :=
    if server.connections.length > maxTcpConnectionsPerServer then server.destroyConnection id
    else server
  server.userCalls calls

/-- A connection that has been accepted, in `connections`. -/
def insertConnection : TcpServer :=
  { server with
    connections := { id := server.made } :: server.connections
    made := server.made + 1 }

/-- `TcpServer::OnUvConnection`: with the status, whether `Setup` and `Start` succeed, and what is called
back. -/
def onUvConnection (status setup start : Bool) (calls : List UserCall) : TcpServer :=
  if server.isClosing then server
  else if !status then server
  else if !setup then server
  else
    let id := server.made
    let server := server.insertConnection
    let server := if start then server else server.destroyConnection id
    server.userOnNewTcpConnection id calls

/-- `TcpServer::OnTcpConnectionClosed`, with what is called in `UserOnTcpConnectionClosed`. -/
def onTcpConnectionClosed (id : Nat) (calls : List UserCall) : TcpServer :=
  let wasClosing := server.isClosing
  let server := { server with connections := server.connections.filter (·.id ≠ id) }
  let server := server.userCalls calls
  if wasClosing && server.connections.isEmpty then server.uvClose else server

end TcpServer

/-- What can happen to a server. -/
inductive ServerEvent
  | onUvConnection (status setup start : Bool) (calls : List UserCall)
  | destroyConnection (id : Nat)
  /-- A connection that is closing has been closed. -/
  | onTcpConnectionClosed (id : Nat) (calls : List UserCall)
  | destroy
  /-- `OnUvClosed`: the handle has been closed, and the server is deleted. -/
  | onUvClosed
  deriving DecidableEq, Repr

namespace TcpServer

/-- One event. -/
def step (server : TcpServer) (e : ServerEvent) : Option TcpServer :=
  if server.deleted then none
  else
    match e with
    | .onUvConnection status setup start calls =>
        some (server.onUvConnection status setup start calls)
    | .destroyConnection id => some (server.destroyConnection id)
    | .onTcpConnectionClosed id calls =>
        if { id, isClosing := true } ∈ server.connections then
          some (server.onTcpConnectionClosed id calls)
        else none
    | .destroy => some server.callDestroy
    | .onUvClosed => if server.closes.isEmpty then none else some { server with deleted := true }

/-! ## The invariant -/

/-- The handle has been closed once, without connections, if the server is closing and has none, and not
before; and the connections of a server that is closing are closing. -/
structure Inv (server : TcpServer) : Prop where
  closes : server.closes =
    if server.isClosing && server.connections.isEmpty then [[]] else []
  closing : server.isClosing = true → ∀ connection ∈ server.connections, connection.isClosing = true
  destroyed : server.destroys ≠ 0 → server.isClosing = true

section
variable {server : TcpServer}

/-- A server that does not close has not closed its handle. -/
theorem Inv.closes_of_open (h : server.Inv) (hopen : ¬ server.isClosing = true) :
    server.closes = [] := by
  rw [Bool.not_eq_true] at hopen
  rw [h.closes, hopen]
  rfl

/-- A connection that is destroyed stays until it has closed. -/
theorem destroyConnection_isEmpty (server : TcpServer) (id : Nat) :
    (server.destroyConnection id).connections.isEmpty = server.connections.isEmpty :=
  List.isEmpty_map

/-- A connection that is destroyed keeps the invariant. -/
theorem Inv.destroyConnection (h : server.Inv) (id : Nat) : (server.destroyConnection id).Inv where
  closes := by
    rw [destroyConnection_isEmpty]
    exact h.closes
  closing hclosing connection hmem := by
    obtain ⟨old, hold, rfl⟩ := List.mem_map.1 hmem
    split
    case isTrue => rfl
    case isFalse => exact h.closing hclosing old hold
  destroyed := h.destroyed

/-- **`Destroy` keeps the invariant**, and the server is closing after it. -/
theorem Inv.destroy (h : server.Inv) : server.destroy.Inv ∧ server.destroy.isClosing = true := by
  unfold TcpServer.destroy
  split
  case isTrue hclosing => exact ⟨h, hclosing⟩
  case isFalse hopen =>
    have hnone : server.closes = [] := h.closes_of_open hopen
    dsimp only
    split
    case isTrue hempty =>
      have hnil : server.connections = [] := List.isEmpty_iff.1 hempty
      refine ⟨⟨?_, fun _ connection hmem => ?_, fun _ => rfl⟩, rfl⟩
      · simp [uvClose, hnil, hnone]
      · simp [uvClose, hnil] at hmem
    case isFalse hsome =>
      refine ⟨⟨?_, fun _ connection hmem => ?_, fun _ => rfl⟩, rfl⟩
      · simpa [destroyConnections, hnone] using hsome
      · obtain ⟨old, -, rfl⟩ := List.mem_map.1 hmem
        rfl

/-- A call of `Destroy` is counted. -/
theorem Inv.callDestroy (h : server.Inv) : server.callDestroy.Inv where
  closes := h.destroy.1.closes
  closing := h.destroy.1.closing
  destroyed _ := h.destroy.2

/-- The user calls `Destroy` in a callback, of the server or of connections. -/
theorem Inv.userCalls (h : server.Inv) (calls : List UserCall) : (server.userCalls calls).Inv := by
  unfold TcpServer.userCalls
  induction calls generalizing server with
  | nil => exact h
  | cons call calls ih =>
      refine ih ?_
      cases call with
      | destroy => exact h.callDestroy
      | destroyConnection id => exact h.destroyConnection id

/-- The callback for a new connection. -/
theorem Inv.userOnNewTcpConnection (h : server.Inv) (id : Nat) (calls : List UserCall) :
    (server.userOnNewTcpConnection id calls).Inv := by
  unfold TcpServer.userOnNewTcpConnection
  dsimp only
  split
  case isTrue => exact (h.destroyConnection id).userCalls calls
  case isFalse => exact h.userCalls calls

/-- **A new connection keeps the invariant**: the server is not closing. -/
theorem Inv.onUvConnection (h : server.Inv) (status setup start : Bool) (calls : List UserCall) :
    (server.onUvConnection status setup start calls).Inv := by
  unfold TcpServer.onUvConnection
  split
  case isTrue => exact h
  case isFalse hopen =>
    split
    case isTrue => exact h
    case isFalse =>
      split
      case isTrue => exact h
      case isFalse =>
        have hnone : server.closes = [] := h.closes_of_open hopen
        have hinserted : server.insertConnection.Inv :=
          ⟨by rw [insertConnection, hnone, List.isEmpty_cons, Bool.and_false]; rfl,
            fun hclosing => absurd hclosing hopen, h.destroyed⟩
        have hstarted : Inv (if start then server.insertConnection
            else server.insertConnection.destroyConnection server.made) := by
          split
          case isTrue => exact hinserted
          case isFalse => exact hinserted.destroyConnection _
        exact hstarted.userOnNewTcpConnection _ calls

/-- The server is closing with all its connections, and has or has not any; the handle has been closed so
often. -/
structure Closing (server : TcpServer) (empty : Bool) (closes : List (List Accepted)) : Prop where
  isClosing : server.isClosing = true
  isEmpty : server.connections.isEmpty = empty
  closes : server.closes = closes
  closing : ∀ connection ∈ server.connections, connection.isClosing = true

/-- What a callback calls changes nothing of that. -/
theorem Closing.userCalls {empty : Bool} {closes : List (List Accepted)} (h : server.Closing empty closes)
    (calls : List UserCall) : (server.userCalls calls).Closing empty closes := by
  unfold TcpServer.userCalls
  induction calls generalizing server with
  | nil => exact h
  | cons call calls ih =>
      refine ih ?_
      cases call with
      | destroy =>
          unfold userCall TcpServer.callDestroy TcpServer.destroy
          rw [if_pos h.isClosing]
          exact ⟨h.isClosing, h.isEmpty, h.closes, h.closing⟩
      | destroyConnection id =>
          refine ⟨h.isClosing, (destroyConnection_isEmpty server id).trans h.isEmpty, h.closes,
            fun connection hmem => ?_⟩
          obtain ⟨old, hold, rfl⟩ := List.mem_map.1 hmem
          split
          case isTrue => rfl
          case isFalse => exact h.closing old hold

/-- **A connection that has been closed keeps the invariant.** A server that was closing before the callback
closes its handle after it; one that was not is closed by `Destroy` if at all. -/
theorem Inv.onTcpConnectionClosed (h : server.Inv) {id : Nat}
    (hmem : { id, isClosing := true } ∈ server.connections) (calls : List UserCall) :
    (server.onTcpConnectionClosed id calls).Inv := by
  have hsome : server.connections.isEmpty = false := by
    rw [List.isEmpty_eq_false_iff]
    exact List.ne_nil_of_mem hmem
  have hnone : server.closes = [] := by
    rw [h.closes, hsome, Bool.and_false]
    rfl
  have herased : server.isClosing = true →
      Closing { server with connections := server.connections.filter (·.id ≠ id) }
        (server.connections.filter (·.id ≠ id)).isEmpty [] := fun hwas =>
    ⟨hwas, rfl, hnone, fun connection hin => h.closing hwas connection (List.mem_filter.1 hin).1⟩
  unfold TcpServer.onTcpConnectionClosed
  dsimp only
  split
  case isTrue hlast =>
    obtain ⟨hwas, hempty⟩ := Bool.and_eq_true_iff.1 hlast
    have hcalled := (herased hwas).userCalls calls
    refine ⟨?_, fun _ => hcalled.closing, fun _ => hcalled.isClosing⟩
    unfold uvClose
    rw [hcalled.closes, hcalled.isClosing, List.isEmpty_iff.1 hempty]
    rfl
  case isFalse hnot =>
    rcases Bool.eq_false_or_eq_true server.isClosing with hwas | hopen
    · have hcalled := (herased hwas).userCalls calls
      refine ⟨?_, fun _ => hcalled.closing, fun _ => hcalled.isClosing⟩
      rw [hcalled.closes, if_neg]
      intro hlast
      exact hnot (Bool.and_eq_true_iff.2 ⟨hwas, (Bool.and_eq_true_iff.1 hlast).2⟩)
    · have hopen' : ¬ server.isClosing = true := by
        rw [hopen]
        exact Bool.false_ne_true
      have hkept : Inv { server with connections := server.connections.filter (·.id ≠ id) } := by
        refine ⟨?_, fun hclosing => absurd hclosing hopen', h.destroyed⟩
        dsimp only
        rw [hnone, hopen]
        rfl
      exact hkept.userCalls calls

/-- **Every event keeps the invariant.** -/
theorem Inv.step {server' : TcpServer} {e : ServerEvent} (h : server.Inv)
    (hstep : server.step e = some server') : server'.Inv := by
  unfold TcpServer.step at hstep
  split at hstep
  case isTrue => cases hstep
  case isFalse =>
    cases e with
    | onUvConnection status setup start calls =>
        cases hstep
        exact h.onUvConnection status setup start calls
    | destroyConnection id =>
        cases hstep
        exact h.destroyConnection id
    | onTcpConnectionClosed id calls =>
        obtain ⟨hmem, hclosed⟩ := Option.ite_none_right_eq_some.1 hstep
        cases hclosed
        exact h.onTcpConnectionClosed hmem calls
    | destroy =>
        cases hstep
        exact h.callDestroy
    | onUvClosed =>
        obtain ⟨-, hdeleted⟩ := Option.ite_none_left_eq_some.1 hstep
        cases hdeleted
        exact ⟨h.closes, h.closing, h.destroyed⟩

end

theorem inv_initial : Inv {} where
  closes := rfl
  closing := nofun
  destroyed hdestroys := absurd rfl hdestroys

end TcpServer

end KoreWebsocket.Tcp
