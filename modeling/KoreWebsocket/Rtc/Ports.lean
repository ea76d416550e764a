import Mathlib
import KoreWebsocket.Lib.Machine

/-!
# RTC ports (`RTC::UdpSocket` and `RTC::TcpServer`, `mediasoup_1/soup`)

The two classes have a pool of ports for each family and the same search in it: from a random port on, once
around the range, until one is available and libuv binds it. The port is marked as used by the search and
given back when the socket has been closed; a constructor that fails behind the search closes the handle
with `onErrorClose`, which gives nothing back (`failed_construction_keeps_its_port`). Where no constructor
does so, the used ports are those of the sockets (`ports_follow_sockets`).

What libuv answers is part of an event. `uv_*_getsockname` gives the address that was bound.
-/

namespace KoreWebsocket.Rtc

/-! ## Pools -/

/-- `AF_INET` and `AF_INET6`: no caller passes another family. -/
inductive AddressFamily
  | inet | inet6
  deriving DecidableEq, Repr

/-- What `GetRandomPort` throws. -/
inductive PortError
  /-- "IPv4 family not available for RTC", or IPv6. -/
  | familyNotAvailable
  /-- "uv_udp_init() failed", or tcp. -/
  | initFailed
  /-- "uv_udp_bind() fails due to many open files", or tcp. -/
  | manyOpenFiles
  /-- "uv_udp_bind() fails more than 20 times for IP", or tcp. -/
  | bindFails
  /-- "no more available ports for IP". -/
  | noMorePorts
  deriving DecidableEq, Repr

/-- What libuv answers when a handle is made and bound to a port. -/
inductive Bound
  | initFailed
  | bindFailed (manyOpenFiles : Bool)
  | success
  deriving DecidableEq, Repr

def maxBindAttempts : UInt16 := 20

/-- A socket that has been constructed and not been closed. -/
structure Socket where
  family : AddressFamily
  localPort : UInt16
  isClosing : Bool := false
  deriving DecidableEq, Repr

/-- The class variables of `RTC::UdpSocket` or `RTC::TcpServer` with the settings they depend on, and the
sockets of the class. -/
structure PortPool where
  hasIPv4 : Bool
  hasIPv6 : Bool
  minPort : UInt16
  maxPort : UInt16
  range : minPort ≤ maxPort
  availableIPv4Ports : UInt16 → Bool
  availableIPv6Ports : UInt16 → Bool
  sockets : List Socket := []

/-- The loop of `ClassInit`: `do ports[i] = true; while (i++ != maxPort)`. -/
def markAvailable (maxPort : UInt16) : Nat → UInt16 → (UInt16 → Bool) → UInt16 → Bool
  | 0, _, ports => ports
  | fuel + 1, i, ports =>
      if i = maxPort then Function.update ports i true
      else markAvailable maxPort fuel (i + 1) (Function.update ports i true)

namespace PortPool

/-- `ClassInit`. -/
def classInit (hasIPv4 hasIPv6 : Bool) {minPort maxPort : UInt16} (range : minPort ≤ maxPort) :
    PortPool where
  hasIPv4
  hasIPv6
  minPort
  maxPort
  range
  availableIPv4Ports := markAvailable maxPort (2 ^ 16) minPort fun _ => false
  availableIPv6Ports := markAvailable maxPort (2 ^ 16) minPort fun _ => false

variable (pool : PortPool)

def hasFamily : AddressFamily → Bool
  | .inet => pool.hasIPv4
  | .inet6 => pool.hasIPv6

def availablePorts : AddressFamily → UInt16 → Bool
  | .inet => pool.availableIPv4Ports
  | .inet6 => pool.availableIPv6Ports

/-- `(*availablePorts)[port] = available`. -/
def setAvailable (family : AddressFamily) (port : UInt16) (available : Bool) : PortPool :=
  match family with
  | .inet =>
      { pool with availableIPv4Ports := Function.update pool.availableIPv4Ports port available }
  | .inet6 =>
      { pool with availableIPv6Ports := Function.update pool.availableIPv6Ports port available }

def InRange (port : UInt16) : Prop := pool.minPort ≤ port ∧ port ≤ pool.maxPort

instance (port : UInt16) : Decidable (pool.InRange port) := inferInstanceAs (Decidable (_ ∧ _))

/-- The number of ports in the range. -/
def numPorts : Nat := pool.maxPort.toNat - pool.minPort.toNat + 1

/-- The port after this one in the range. -/
def nextPort (iteratingPort : UInt16) : UInt16 :=
  if iteratingPort < pool.maxPort then iteratingPort + 1 else pool.minPort

/-- The loop of `GetRandomPort`, in so many iterations at most. -/
def searchPort (family : AddressFamily) (initialPort : UInt16) (bind : UInt16 → Bound) :
    Nat → UInt16 → UInt16 → Option (Except PortError UInt16)
  | 0, _, _ => none
  | iterations + 1, iteratingPort, bindAttempt =>
      let iteratingPort := pool.nextPort iteratingPort
      if !pool.availablePorts family iteratingPort then
        if iteratingPort = initialPort then some (.error .noMorePorts)
        else searchPort family initialPort bind iterations iteratingPort bindAttempt
      else
        match bind iteratingPort with
        | .initFailed => some (.error .initFailed)
        | .bindFailed true => some (.error .manyOpenFiles)
        | .bindFailed false =>
            if bindAttempt + 1 > maxBindAttempts then some (.error .bindFails)
            else if iteratingPort = initialPort then some (.error .noMorePorts)
            else searchPort family initialPort bind iterations iteratingPort (bindAttempt + 1)
        | .success => some (.ok iteratingPort)

/-- `GetRandomPort`, with the port that `GetRandomUInt` returns and what libuv answers for each port. -/
def getRandomPort (family : AddressFamily) (initialPort : UInt16) (bind : UInt16 → Bound)
    (iterations : Nat) : Option (Except PortError UInt16) :=
  if !pool.hasFamily family then some (.error .familyNotAvailable)
  else pool.searchPort family initialPort bind iterations initialPort 0

end PortPool

/-- What happens to the sockets of a class. -/
inductive PortEvent
  /-- The constructor. `started` is the outcome of `uv_udp_recv_start` or `uv_listen`, `named` that of
  `uv_*_getsockname`. -/
  | create (family : AddressFamily) (initialPort : UInt16) (bind : UInt16 → Bound)
      (started named : Bool)
  /-- `Destroy`. -/
  | destroy (i : Nat)
  /-- `OnUvClosed`. -/
  | closed (i : Nat)

namespace PortPool

variable (pool : PortPool)

/-- The constructors of `RTC::UdpSocket` and of `UdpSocket`, or those of the TCP servers. -/
def create (family : AddressFamily) (initialPort : UInt16) (bind : UInt16 → Bound)
    (started named : Bool) : Option PortPool :=
  (pool.getRandomPort family initialPort bind pool.numPorts).map fun
    | .error _ => pool
    | .ok localPort =>
        let pool := pool.setAvailable family localPort false
        if started && named then { pool with sockets := { family, localPort } :: pool.sockets }
        else pool

/-- `Destroy`: the handle begins to close. -/
def destroy (i : Nat) : PortPool :=
  { pool with sockets := pool.sockets.modify i fun socket => { socket with isClosing := true } }

/-- `UserOnUdpSocketClosed` or `UserOnTcpServerClosed`, and `delete this`. -/
def closed (i : Nat) (socket : Socket) : PortPool :=
  { pool.setAvailable socket.family socket.localPort true with sockets := pool.sockets.eraseIdx i }

/-- One event. A handle has been closed only if it was closing. -/
def step : PortEvent → Option PortPool
  | .create family initialPort bind started named =>
      if pool.InRange initialPort then pool.create family initialPort bind started named else none
  | .destroy i => some (pool.destroy i)
  | .closed i =>
      match pool.sockets[i]? with
      | none => none
      | some socket => if socket.isClosing then some (pool.closed i socket) else none

/-! ## The search -/

section
variable {pool : PortPool} {initialPort iteratingPort : UInt16}

/-- The next port is one up, or the first. -/
theorem toNat_nextPort (h : iteratingPort ≤ pool.maxPort) :
    (pool.nextPort iteratingPort).toNat =
      if iteratingPort.toNat < pool.maxPort.toNat then iteratingPort.toNat + 1
      else pool.minPort.toNat := by
  unfold nextPort
  have hle := UInt16.le_iff_toNat_le.1 h
  have hmax := pool.maxPort.toNat_lt
  split
  case isTrue hlt =>
    rw [if_pos (UInt16.lt_iff_toNat_lt.1 hlt), UInt16.toNat_add]
    exact Nat.mod_eq_of_lt (show iteratingPort.toNat + 1 < 2 ^ 16 by
      have := UInt16.lt_iff_toNat_lt.1 hlt
      omega)
  case isFalse hge =>
    rw [if_neg fun hlt => hge (UInt16.lt_iff_toNat_lt.2 hlt)]

/-- The next port is in the range. -/
theorem inRange_nextPort (h : pool.InRange iteratingPort) :
    pool.InRange (pool.nextPort iteratingPort) := by
  have hnext := toNat_nextPort h.2
  have hrange := UInt16.le_iff_toNat_le.1 pool.range
  have hlow := UInt16.le_iff_toNat_le.1 h.1
  unfold InRange
  rw [UInt16.le_iff_toNat_le, UInt16.le_iff_toNat_le, hnext]
  split
  case isTrue hlt => omega
  case isFalse => omega

/-- The iterations from a port until the initial port has been tried. -/
def left (pool : PortPool) (initialPort iteratingPort : UInt16) : Nat :=
  if iteratingPort.toNat < initialPort.toNat then initialPort.toNat - iteratingPort.toNat
  else pool.maxPort.toNat - iteratingPort.toNat + (initialPort.toNat - pool.minPort.toNat) + 1

/-- All ports are left at first. -/
theorem left_initialPort (h : pool.InRange initialPort) :
    pool.left initialPort initialPort = pool.numPorts := by
  have hlow := UInt16.le_iff_toNat_le.1 h.1
  have hhigh := UInt16.le_iff_toNat_le.1 h.2
  unfold left numPorts
  rw [if_neg (lt_irrefl _)]
  omega

/-- One fewer is left at the next port. -/
theorem left_nextPort (hinitial : pool.InRange initialPort) (h : pool.InRange iteratingPort)
    (hne : pool.nextPort iteratingPort ≠ initialPort) :
    pool.left initialPort iteratingPort = pool.left initialPort (pool.nextPort iteratingPort) + 1 := by
  have hnext := toNat_nextPort h.2
  have hlow := UInt16.le_iff_toNat_le.1 hinitial.1
  have hhigh := UInt16.le_iff_toNat_le.1 hinitial.2
  have hle := UInt16.le_iff_toNat_le.1 h.2
  have hne' : (pool.nextPort iteratingPort).toNat ≠ initialPort.toNat := fun heq =>
    hne (UInt16.toNat_inj.1 heq)
  unfold left
  split at hnext
  case isTrue => split <;> split <;> omega
  case isFalse => split <;> split <;> omega

/-- The port is still to be tried. -/
def Ahead (initialPort iteratingPort port : UInt16) : Prop :=
  if iteratingPort.toNat < initialPort.toNat then
    iteratingPort.toNat < port.toNat ∧ port.toNat ≤ initialPort.toNat
  else iteratingPort.toNat < port.toNat ∨ port.toNat ≤ initialPort.toNat

/-- All ports are ahead at first. -/
theorem ahead_initialPort (port : UInt16) : Ahead initialPort initialPort port := by
  unfold Ahead
  rw [if_neg (lt_irrefl _)]
  exact lt_or_ge _ _

/-- A port that is still to be tried is the next one or is tried after it. -/
theorem Ahead.next {port : UInt16} (hport : pool.InRange port) (h : pool.InRange iteratingPort)
    (hahead : Ahead initialPort iteratingPort port) :
    port = pool.nextPort iteratingPort ∨ pool.nextPort iteratingPort ≠ initialPort ∧
      Ahead initialPort (pool.nextPort iteratingPort) port := by
  have hnext := toNat_nextPort h.2
  have hlow := UInt16.le_iff_toNat_le.1 hport.1
  have hhigh := UInt16.le_iff_toNat_le.1 hport.2
  rcases eq_or_ne port (pool.nextPort iteratingPort) with heq | hne
  · exact .inl heq
  · have hne' : port.toNat ≠ (pool.nextPort iteratingPort).toNat := fun heq =>
      hne (UInt16.toNat_inj.1 heq)
    refine .inr ⟨?_, ?_⟩
    · rintro rfl
      unfold Ahead at hahead
      split at hnext <;> split at hahead <;> omega
    · unfold Ahead at hahead ⊢
      split at hnext <;> split at hahead <;> split <;> omega

section
variable {family : AddressFamily} {bind : UInt16 → Bound} {bindAttempt : UInt16} {iterations : Nat}

/-- **The search ends** in as many iterations as there are ports ahead. -/
theorem searchPort_isSome (hinitial : pool.InRange initialPort) (h : pool.InRange iteratingPort)
    (hleft : pool.left initialPort iteratingPort ≤ iterations) :
    (pool.searchPort family initialPort bind iterations iteratingPort bindAttempt).isSome = true := by
  induction iterations generalizing iteratingPort bindAttempt with
  | zero =>
      unfold left at hleft
      split at hleft <;> omega
  | succ iterations ih =>
      have hagain : pool.nextPort iteratingPort ≠ initialPort → ∀ bindAttempt,
          (pool.searchPort family initialPort bind iterations (pool.nextPort iteratingPort)
            bindAttempt).isSome = true := by
        intro hne bindAttempt
        rw [left_nextPort hinitial h hne] at hleft
        exact ih (inRange_nextPort h) (Nat.le_of_succ_le_succ hleft)
      unfold searchPort
      dsimp only
      split
      case isTrue =>
        split
        case isTrue => rfl
        case isFalse hne => exact hagain hne _
      case isFalse =>
        split
        case h_1 => rfl
        case h_2 => rfl
        case h_3 =>
          split
          case isTrue => rfl
          case isFalse =>
            split
            case isTrue => rfl
            case isFalse hne => exact hagain hne _
        case h_4 => rfl

/-- The port is used, or it could not be bound. -/
def Unusable (pool : PortPool) (family : AddressFamily) (bind : UInt16 → Bound) (port : UInt16) : Prop :=
  pool.availablePorts family port = false ∨ bind port = .bindFailed false

/-- What the search finds: a port of the range that was available; or no more ports, and then each one
ahead is unusable. -/
structure Found (pool : PortPool) (family : AddressFamily) (bind : UInt16 → Bound)
    (initialPort iteratingPort : UInt16) (result : Except PortError UInt16) : Prop where
  available : ∀ port, result = .ok port →
    pool.InRange port ∧ pool.availablePorts family port = true
  noMorePorts : result = .error .noMorePorts → ∀ port, pool.InRange port →
    Ahead initialPort iteratingPort port → pool.Unusable family bind port

/-- The search goes on behind an unusable port. -/
theorem Found.of_next (h : pool.InRange iteratingPort) {result : Except PortError UInt16}
    (htried : pool.Unusable family bind (pool.nextPort iteratingPort))
    (hfound : pool.Found family bind initialPort (pool.nextPort iteratingPort) result) :
    pool.Found family bind initialPort iteratingPort result where
  available := hfound.available
  noMorePorts herror port hport hahead := by
    rcases hahead.next hport h with rfl | ⟨-, hahead⟩
    · exact htried
    · exact hfound.noMorePorts herror port hport hahead

/-- The search ends at the initial port. -/
theorem Found.of_last (h : pool.InRange iteratingPort)
    (htried : pool.Unusable family bind (pool.nextPort iteratingPort))
    (hlast : pool.nextPort iteratingPort = initialPort) :
    pool.Found family bind initialPort iteratingPort (.error .noMorePorts) where
  available := nofun
  noMorePorts _ port hport hahead := by
    rcases hahead.next hport h with rfl | ⟨hne, -⟩
    · exact htried
    · exact absurd hlast hne

/-- **Everything the search finds.** -/
theorem searchPort_spec (h : pool.InRange iteratingPort) {result : Except PortError UInt16}
    (hresult : pool.searchPort family initialPort bind iterations iteratingPort bindAttempt =
      some result) : pool.Found family bind initialPort iteratingPort result := by
  induction iterations generalizing iteratingPort bindAttempt with
  | zero => cases hresult
  | succ iterations ih =>
      unfold searchPort at hresult
      dsimp only at hresult
      split at hresult
      case isTrue hused =>
        rw [Bool.not_eq_true'] at hused
        split at hresult
        case isTrue hlast =>
          cases hresult
          exact .of_last h (.inl hused) hlast
        case isFalse => exact .of_next h (.inl hused) (ih (inRange_nextPort h) hresult)
      case isFalse hfree =>
        split at hresult
        case h_1 =>
          cases hresult
          exact ⟨nofun, nofun⟩
        case h_2 =>
          cases hresult
          exact ⟨nofun, nofun⟩
        case h_3 hfailed =>
          split at hresult
          case isTrue =>
            cases hresult
            exact ⟨nofun, nofun⟩
          case isFalse =>
            split at hresult
            case isTrue hlast =>
              cases hresult
              exact .of_last h (.inr hfailed) hlast
            case isFalse => exact .of_next h (.inr hfailed) (ih (inRange_nextPort h) hresult)
        case h_4 =>
          cases hresult
          refine ⟨fun port hport => ?_, nofun⟩
          cases hport
          exact ⟨inRange_nextPort h, by simpa using hfree⟩

end

/-- **`GetRandomPort` ends** after at most as many iterations as the range has ports, and only says that
there are no more ports when each one of the range is unusable. -/
theorem getRandomPort_spec (family : AddressFamily) {initialPort : UInt16} (bind : UInt16 → Bound)
    (h : pool.InRange initialPort) :
    ∃ result, pool.getRandomPort family initialPort bind pool.numPorts = some result ∧
      (∀ port, result = .ok port → pool.InRange port ∧ pool.availablePorts family port = true) ∧
      (result = .error .noMorePorts → ∀ port, pool.InRange port →
        pool.Unusable family bind port) := by
  unfold getRandomPort
  split
  case isTrue => exact ⟨_, rfl, nofun, nofun⟩
  case isFalse =>
    obtain ⟨result, hresult⟩ := Option.isSome_iff_exists.1
      (@searchPort_isSome pool initialPort initialPort family bind 0 pool.numPorts h h
        (left_initialPort h).le)
    have hfound := searchPort_spec h hresult
    exact ⟨result, hresult, hfound.available, fun herror port hport =>
      hfound.noMorePorts herror port hport (ahead_initialPort port)⟩

end

/-! ## The ports in use -/

/-- The addresses of the sockets. -/
def addresses (pool : PortPool) : List (AddressFamily × UInt16) :=
  pool.sockets.map fun socket => (socket.family, socket.localPort)

/-- The ports of the range that are marked as used are those of the sockets, and no two sockets have the
same. -/
structure Exact (pool : PortPool) : Prop where
  used_iff : ∀ family port, pool.InRange port →
    (pool.availablePorts family port = false ↔ (family, port) ∈ pool.addresses)
  nodup : pool.addresses.Nodup

/-- A constructor that has got a port does not fail. -/
def Constructed (pool : PortPool) : PortEvent → Prop
  | .create family initialPort bind started named =>
      ∀ port, pool.getRandomPort family initialPort bind pool.numPorts = some (.ok port) →
        started = true ∧ named = true
  | _ => True

section
variable {pool pool' : PortPool}

/-- A port that is marked does not change the range. -/
@[simp] theorem setAvailable_inRange (family : AddressFamily) (port : UInt16) (available : Bool)
    (p : UInt16) : (pool.setAvailable family port available).InRange p ↔ pool.InRange p := by
  cases family <;> rfl

/-- A port that is marked does not change the addresses. -/
@[simp] theorem setAvailable_addresses (family : AddressFamily) (port : UInt16) (available : Bool) :
    (pool.setAvailable family port available).addresses = pool.addresses := by
  cases family <;> rfl

/-- One port of one family is marked. -/
theorem setAvailable_availablePorts (family family' : AddressFamily) (port p : UInt16)
    (available : Bool) : (pool.setAvailable family port available).availablePorts family' p =
      if family = family' ∧ port = p then available else pool.availablePorts family' p := by
  cases family <;> cases family' <;>
    simp [setAvailable, availablePorts, Function.update_apply, @eq_comm _ port p]

/-- The loop marks the ports up to the last one, by induction on its rounds. -/
theorem markAvailable_eq_true {maxPort : UInt16} {fuel : Nat} {i : UInt16} (hle : i ≤ maxPort)
    (hfuel : maxPort.toNat - i.toNat < fuel) (ports : UInt16 → Bool) (port : UInt16) :
    markAvailable maxPort fuel i ports port = true ↔
      ports port = true ∨ i ≤ port ∧ port ≤ maxPort := by
  induction fuel generalizing i ports with
  | zero => exact absurd hfuel (Nat.not_lt_zero _)
  | succ fuel ih =>
      have hle' := UInt16.le_iff_toNat_le.1 hle
      unfold markAvailable
      split
      case isTrue heq =>
        subst heq
        rw [Function.update_apply]
        split
        case isTrue hport =>
          subst hport
          simp
        case isFalse hport =>
          refine ⟨.inl, fun h => h.resolve_right ?_⟩
          rintro ⟨hlow, hhigh⟩
          exact hport (UInt16.le_antisymm hhigh hlow)
      case isFalse hne =>
        have hlt : i.toNat < maxPort.toNat :=
          lt_of_le_of_ne hle' fun heq => hne (UInt16.toNat_inj.1 heq)
        have hsucc : (i + 1).toNat = i.toNat + 1 := by
          rw [UInt16.toNat_add]
          exact Nat.mod_eq_of_lt (show i.toNat + 1 < 2 ^ 16 by
            have := maxPort.toNat_lt
            omega)
        rw [ih (UInt16.le_iff_toNat_le.2 (by omega)) (by omega), Function.update_apply,
          UInt16.le_iff_toNat_le, UInt16.le_iff_toNat_le, UInt16.le_iff_toNat_le, hsucc]
        split
        case isTrue hport =>
          subst hport
          simp [hle']
        case isFalse hport =>
          have hport' : port.toNat ≠ i.toNat := fun heq => hport (UInt16.toNat_inj.1 heq)
          refine or_congr Iff.rfl ⟨?_, ?_⟩ <;> rintro ⟨hlow, hhigh⟩
          · exact ⟨by omega, hhigh⟩
          · exact ⟨by omega, hhigh⟩

/-- All ports are available, and there are no sockets. -/
theorem exact_classInit (hasIPv4 hasIPv6 : Bool) {minPort maxPort : UInt16}
    (range : minPort ≤ maxPort) : (classInit hasIPv4 hasIPv6 range).Exact where
  used_iff family port hport := by
    have hmarked : (classInit hasIPv4 hasIPv6 range).availablePorts family port = true := by
      have hle := UInt16.le_iff_toNat_le.1 range
      have hfuel : maxPort.toNat - minPort.toNat < 2 ^ 16 := by
        have hlt := maxPort.toNat_lt
        omega
      have hmark := (markAvailable_eq_true range hfuel (fun _ => false) port).2 (.inr hport)
      cases family <;> exact hmark
    rw [hmarked]
    exact ⟨nofun, nofun⟩
  nodup := List.nodup_nil

/-- A new socket. -/
theorem Exact.create (h : pool.Exact) {family : AddressFamily} {initialPort : UInt16}
    {bind : UInt16 → Bound} {started named : Bool} (hinitial : pool.InRange initialPort)
    (hconstructed : pool.Constructed (.create family initialPort bind started named))
    (hcreate : pool.create family initialPort bind started named = some pool') : pool'.Exact := by
  obtain ⟨result, hresult, hok, -⟩ := getRandomPort_spec family bind hinitial
  unfold PortPool.create at hcreate
  rw [hresult] at hcreate
  cases result with
  | error e =>
      cases hcreate
      exact h
  | ok localPort =>
      obtain ⟨rfl, rfl⟩ := hconstructed localPort hresult
      obtain ⟨hrange, hfree⟩ := hok localPort rfl
      cases hcreate
      have hnone : (family, localPort) ∉ pool.addresses := by
        rw [← h.used_iff family localPort hrange, hfree]
        nofun
      constructor
      case used_iff =>
        intro family' port hport
        change (pool.setAvailable family localPort false).InRange port at hport
        rw [setAvailable_inRange] at hport
        change (pool.setAvailable family localPort false).availablePorts family' port = false ↔
          (family', port) ∈ (family, localPort) ::
            (pool.setAvailable family localPort false).addresses
        rw [setAvailable_availablePorts, setAvailable_addresses, List.mem_cons]
        split
        case isTrue hsame =>
          obtain ⟨rfl, rfl⟩ := hsame
          exact ⟨fun _ => .inl rfl, fun _ => rfl⟩
        case isFalse hother =>
          rw [h.used_iff family' port hport]
          refine ⟨.inr, fun h => h.resolve_left fun heq => hother ?_⟩
          cases heq
          exact ⟨rfl, rfl⟩
      case nodup =>
        change ((family, localPort) ::
          (pool.setAvailable family localPort false).addresses).Nodup
        rw [setAvailable_addresses]
        exact List.nodup_cons.2 ⟨hnone, h.nodup⟩

/-- A socket that is destroyed leaves the addresses. -/
theorem destroy_addresses (pool : PortPool) (i : Nat) : (pool.destroy i).addresses = pool.addresses := by
  refine List.ext_getElem? fun j => ?_
  unfold addresses PortPool.destroy
  rw [List.getElem?_map, List.getElem?_map, List.getElem?_modify]
  split
  case isTrue => cases pool.sockets[j]? <;> rfl
  case isFalse => simp

/-- A socket begins to close. -/
theorem Exact.destroy (h : pool.Exact) (i : Nat) : (pool.destroy i).Exact where
  used_iff family port hport := by
    rw [destroy_addresses]
    exact h.used_iff family port hport
  nodup := by
    rw [destroy_addresses]
    exact h.nodup

/-- A socket has been closed. -/
theorem Exact.closed (h : pool.Exact) {i : Nat} {socket : Socket} (hsocket : pool.sockets[i]? = some socket) :
    (pool.closed i socket).Exact := by
  have hperm : pool.addresses.Perm
      ((socket.family, socket.localPort) :: (pool.closed i socket).addresses) := by
    obtain ⟨hi, rfl⟩ := List.getElem?_eq_some_iff.1 hsocket
    exact ((List.getElem_cons_eraseIdx_perm hi).symm.map _)
  have hnodup := hperm.nodup_iff.1 h.nodup
  constructor
  case used_iff =>
    intro family port hport
    change (pool.setAvailable socket.family socket.localPort true).InRange port at hport
    rw [setAvailable_inRange] at hport
    change (pool.setAvailable socket.family socket.localPort true).availablePorts family port = false ↔ _
    rw [setAvailable_availablePorts]
    split
    case isTrue hsame =>
      obtain ⟨rfl, rfl⟩ := hsame
      exact ⟨nofun, fun hmem => absurd hmem (List.nodup_cons.1 hnodup).1⟩
    case isFalse hother =>
      rw [h.used_iff family port hport, hperm.mem_iff, List.mem_cons]
      refine ⟨fun h => h.resolve_left fun heq => hother ?_, .inr⟩
      cases heq
      exact ⟨rfl, rfl⟩
  case nodup => exact (List.nodup_cons.1 hnodup).2

/-- **Every event keeps the ports exact**, when no constructor fails behind its search. -/
theorem Exact.step {e : PortEvent} (h : pool.Exact) (hconstructed : pool.Constructed e)
    (hstep : pool.step e = some pool') : pool'.Exact := by
  cases e with
  | create family initialPort bind started named =>
      obtain ⟨hinitial, hcreate⟩ := Option.ite_none_right_eq_some.1 hstep
      exact h.create hinitial hconstructed hcreate
  | destroy i =>
      cases hstep
      exact h.destroy i
  | closed i =>
      unfold PortPool.step at hstep
      dsimp only at hstep
      split at hstep
      case h_1 => cases hstep
      case h_2 socket hsocket =>
        obtain ⟨-, hclosed⟩ := Option.ite_none_right_eq_some.1 hstep
        cases hclosed
        exact h.closed hsocket

end

end PortPool

/-! ## The two classes -/

/-- The pools of `RTC::UdpSocket` and `RTC::TcpServer`. -/
structure Ports where
  udpSocket : PortPool
  tcpServer : PortPool

/-- An event of one of the classes. -/
inductive Ports.Event
  | udpSocket (e : PortEvent)
  | tcpServer (e : PortEvent)

namespace Ports

/-- `RTC::UdpSocket::ClassInit` and `RTC::TcpServer::ClassInit`. -/
def classInit (hasIPv4 hasIPv6 : Bool) {minPort maxPort : UInt16} (range : minPort ≤ maxPort) :
    Ports where
  udpSocket := .classInit hasIPv4 hasIPv6 range
  tcpServer := .classInit hasIPv4 hasIPv6 range

/-- One event. -/
def step (ports : Ports) : Event → Option Ports
  | .udpSocket e => (ports.udpSocket.step e).map fun udpSocket => { ports with udpSocket }
  | .tcpServer e => (ports.tcpServer.step e).map fun tcpServer => { ports with tcpServer }

/-- No constructor fails behind its search. -/
def Constructed (ports : Ports) : Event → Prop
  | .udpSocket e => ports.udpSocket.Constructed e
  | .tcpServer e => ports.tcpServer.Constructed e

/-- Both pools are exact. -/
structure Exact (ports : Ports) : Prop where
  udpSocket : ports.udpSocket.Exact
  tcpServer : ports.tcpServer.Exact

/-- Every event keeps the pools exact, if the constructors end. -/
theorem Exact.step {ports ports' : Ports} {e : Event} (h : ports.Exact)
    (hconstructed : ports.Constructed e) (hstep : ports.step e = some ports') : ports'.Exact := by
  cases e with
  | udpSocket e =>
      obtain ⟨pool, hpool, rfl⟩ := Option.map_eq_some_iff.1 hstep
      exact ⟨h.udpSocket.step hconstructed hpool, h.tcpServer⟩
  | tcpServer e =>
      obtain ⟨pool, hpool, rfl⟩ := Option.map_eq_some_iff.1 hstep
      exact ⟨h.udpSocket, h.tcpServer.step hconstructed hpool⟩

/-- **The used ports are those of the sockets**, in every run in which no constructor fails behind its
search; and in every run `GetRandomPort` ends within the size of the range, with no more ports only when
each one is unusable. -/
theorem ports_follow_sockets (hasIPv4 hasIPv6 : Bool) {minPort maxPort : UInt16}
    (range : minPort ≤ maxPort) {events : List Event} {ports : Ports}
    (hrun : Machine.exec step (classInit hasIPv4 hasIPv6 range) events = some ports) :
    ∀ pool ∈ [ports.udpSocket, ports.tcpServer],
      (∀ family initialPort bind, pool.InRange initialPort →
        ∃ result, pool.getRandomPort family initialPort bind pool.numPorts = some result ∧
          (result = .error .noMorePorts → ∀ port, pool.InRange port →
            pool.availablePorts family port = false ∨ bind port = .bindFailed false)) ∧
      (Machine.Meets step Constructed (classInit hasIPv4 hasIPv6 range) events →
        ∀ family port, pool.InRange port →
          (pool.availablePorts family port = false ↔
            ∃ socket ∈ pool.sockets, socket.family = family ∧ socket.localPort = port)) := by
  intro pool hpool
  constructor
  · intro family initialPort bind hinitial
    obtain ⟨result, hresult, -, hnone⟩ := PortPool.getRandomPort_spec family bind hinitial
    exact ⟨result, hresult, hnone⟩
  · intro hconstructed family port hport
    have hexact : ports.Exact := Machine.exec_inv_of_meets (fun _ _ _ h hC hs => Exact.step h hC hs)
      hconstructed hrun ⟨PortPool.exact_classInit _ _ range, PortPool.exact_classInit _ _ range⟩
    have hpool' : pool.Exact := by
      rcases List.mem_cons.1 hpool with rfl | hpool
      · exact hexact.udpSocket
      · rw [List.mem_singleton.1 hpool]
        exact hexact.tcpServer
    rw [hpool'.used_iff family port hport]
    unfold PortPool.addresses
    simp only [List.mem_map, Prod.mk.injEq]

/-- A range of two ports. -/
theorem twoPorts : (40000 : UInt16) ≤ 40001 := by decide

/-- Two servers and a socket are opened, and the first server is closed. -/
def oneOfTwoServers : List Event :=
  [.tcpServer (.create .inet 40000 (fun _ => .success) true true),
    .udpSocket (.create .inet 40000 (fun _ => .success) true true),
    .tcpServer (.create .inet 40000 (fun _ => .success) true true),
    .tcpServer (.destroy 1), .tcpServer (.closed 1)]

/-- Two servers are bound, and one is closed. -/
theorem ports_follow_sockets_oneOfTwoServers :
    ∃ ports, Machine.exec step (classInit true false twoPorts) oneOfTwoServers = some ports ∧
      ports.tcpServer.availablePorts .inet 40000 = false ∧
      ports.tcpServer.availablePorts .inet 40001 = true ∧
      ∀ pool ∈ [ports.udpSocket, ports.tcpServer], ∀ port, pool.InRange port →
        (pool.availablePorts .inet port = false ↔
          ∃ socket ∈ pool.sockets, socket.family = .inet ∧ socket.localPort = port) := by
  refine ⟨_, rfl, rfl, rfl, fun pool hpool port hport => ?_⟩
  have hall := @ports_follow_sockets true false _ _ twoPorts oneOfTwoServers _ rfl
  refine (hall pool hpool).2 (Machine.meets_of_forall (fun e he ports => ?_) _) .inet port hport
  fin_cases he
  · exact fun _ _ => ⟨rfl, rfl⟩
  · exact fun _ _ => ⟨rfl, rfl⟩
  · exact fun _ _ => ⟨rfl, rfl⟩
  · trivial
  · trivial

/-- A range of one port. -/
theorem onePort : (40000 : UInt16) ≤ 40000 := by decide

/-- **A constructor that fails keeps its port**: `uv_listen` fails on the only port of the range. -/
theorem failed_construction_keeps_its_port :
    ¬ ∀ (minPort maxPort : UInt16) (range : minPort ≤ maxPort) events ports,
      Machine.exec step (classInit true false range) events = some ports →
        ∀ port, ports.tcpServer.InRange port →
          (ports.tcpServer.availablePorts .inet port = false ↔
            ∃ socket ∈ ports.tcpServer.sockets, socket.family = .inet ∧ socket.localPort = port) := by
  intro h
  have hused := (h 40000 40000 onePort
    [.tcpServer (.create .inet 40000 (fun _ => .success) false true)] _ rfl 40000
    ⟨onePort, onePort⟩).1 rfl
  obtain ⟨socket, hsocket, -⟩ := hused
  exact absurd hsocket List.not_mem_nil

end Ports

end KoreWebsocket.Rtc
