import KoreWebsocket.Lib.Machine
import KoreWebsocket.Lib.Table
import KoreWebsocket.Worker.Requests

/-!
# The rooms of the worker (`mediasoup/soup/Loop.cpp`, `Room.cpp`)

`Worker.Loop` keeps the keys of `Loop::rooms` only. Here the map holds the rooms themselves, so that
a key and the id of the room under it are two things, and `Loop::Close` walks the map with an
iterator while each `Room::Destroy` calls back into `Loop::OnRoomClosed`, which erases by the id of
the room. The same id can be created again after a close; a room is told from a later one of its id
by its place among the rooms created. `rooms_registered` is the state of the registry after every run.
-/

namespace KoreWebsocket.Worker

open Channel (WorkerMsg)
open Json

/-- A created `RTC::Room`. `serial` is its place among all that were created. -/
structure Room where
  roomId : UInt32
  serial : Nat
  deriving DecidableEq, Repr

/-- `Room::Destroy` tells kore that the room is gone. -/
def Room.closeNotification (room : Room) : WorkerMsg :=
  .notification room.roomId "close"

/-- The members of `Loop`. `created` and `destroyed` record the constructor calls and the calls of
`Room::Destroy`, `sent` what went to kore. -/
structure Registry where
  rooms : Table UInt32 Room := ∅
  closed : Bool := false
  created : List Room := []
  destroyed : List Room := []
  sent : List WorkerMsg := []
  deriving DecidableEq, Repr

namespace Registry

/-- `UnixStreamSocket::Send`. -/
def send (reg : Registry) (msg : WorkerMsg) : Registry :=
  { reg with sent := reg.sent ++ [msg] }

/-- `Loop::OnRoomClosed`. -/
def onRoomClosed (reg : Registry) (room : Room) : Registry :=
  { reg with rooms := reg.rooms.erase room.roomId }

/-- `Room::Destroy`: notify kore, then tell the listener. -/
def destroy (reg : Registry) (room : Room) : Registry :=
  onRoomClosed { reg.send room.closeNotification with destroyed := reg.destroyed ++ [room] } room

/-- `new RTC::Room`, and its entry. -/
def create (reg : Registry) (roomId : UInt32) : Registry :=
  let room : Room := { roomId := roomId, serial := reg.created.length }
  { reg with rooms := reg.rooms.insert roomId room, created := reg.created ++ [room] }

/-- The rooms in the order of the map. -/
def list (reg : Registry) : List Room := reg.rooms.entries.map Prod.snd

/-- `Room::HandleRequest`. -/
def handleRequest (reg : Registry) (room : Room) (request : Request) : MethodId → Registry
  | .roomClose => (reg.destroy room).send request.accept
  | .roomDump => reg.send (request.accept (roomToJson room.roomId))
  | .roomCreatePeer => reg.send request.accept
  | .roomSetAudioLevelsEvent => reg.send request.accept
  | _ => reg.send (request.reject "unknown method")

/-- The answer to `worker.dump` when these rooms are in the map. -/
def dumpJson (rooms : List Room) : String :=
  "\x7b\"rooms\": [" ++ ", ".intercalate (rooms.map fun room => roomToJson room.roomId) ++
    "], \"workerId\": \"3\"\x7d"

/-- `Loop::OnChannelRequest`. `WORKER_UPDATE_SETTINGS` sends no reply. -/
def onChannelRequest (reg : Registry) (request : Request) : MethodId → Registry
  | .workerDump => reg.send (request.accept (dumpJson reg.list))
  | .workerUpdateSettings => reg
  | .workerCreateRoom =>
      match request.roomId with
      | none => reg.send (request.reject "Request has not numeric internal.roomId")
      | some roomId =>
          match reg.rooms.find? roomId with
          | some _ => reg.send (request.reject "Room already exists")
          | none => (reg.create roomId).send request.accept
  | methodId =>
      match request.roomId with
      | none => reg.send (request.reject "Request has not numeric internal.roomId")
      | some roomId =>
          match reg.rooms.find? roomId with
          | some room => reg.handleRequest room request methodId
          | none => reg.send (request.reject "Room does not exist")

/-- `UnixStreamSocket::UserOnUnixStreamRead` on a request: the constructor rejects a method that is
not in the table. -/
def userOnUnixStreamRead (reg : Registry) (request : Request) : Registry :=
  match string2MethodId.lookup request.method with
  | none => reg.send (request.reject "method not allowed")
  | some methodId => reg.onChannelRequest request methodId

/-- The same on a parsed message, discarded if it is not a request. -/
def onMessage (reg : Registry) (json : Value) : Registry :=
  match Request.ofJson json with
  | none => reg
  | some request => reg.userOnUnixStreamRead request

/-- The loop of `Loop::Close` over the entries that are left. The iterator has to stand at an entry
of the map at each turn: `Room::Destroy` must not have erased it. -/
def closeRooms : List (UInt32 × Room) → Registry → Option Registry
  | [], reg => some reg
  | entry :: entries, reg =>
      if entry ∈ reg.rooms.entries then
        closeRooms entries (destroy { reg with rooms := reg.rooms.erase entry.1 } entry.2)
      else none

/-- `Loop::Close`. The second call finds the loop closed. -/
def close (reg : Registry) : Option Registry :=
  if reg.closed then some reg
  else closeRooms reg.rooms.entries { reg with closed := true }

/-- What happens to the worker. -/
inductive Event
  | message (json : Value)
  | close

/-- The reader of the channel is deleted by `Loop::Close`, so no message follows it. A message that
is not an object is no request: `json["id"]` throws at it, and nothing catches what it throws. -/
def step (reg : Registry) : Event → Option Registry
  | .message json => if json.isObject && !reg.closed then some (reg.onMessage json) else none
  | .close => reg.close

/-- The notifications among what is sent. -/
def notifications (sent : List WorkerMsg) : List WorkerMsg :=
  sent.filter fun
    | .notification _ _ => true
    | _ => false

/-! ## What one step does -/

/-- The reply of a request. -/
def IsReply (request : Request) (msg : WorkerMsg) : Prop :=
  ∃ verdict, msg = .reply request.id (some verdict)

/-- An acceptance replies to its request. -/
theorem isReply_accept (request : Request) (data : String) : IsReply request (request.accept data) :=
  ⟨_, rfl⟩

/-- A rejection replies to its request. -/
theorem isReply_reject (request : Request) (reason : String) :
    IsReply request (request.reject reason) :=
  ⟨_, rfl⟩

/-- What a request does to the registry. -/
inductive Serves (reg : Registry) (request : Request) : Registry → Prop
  | silent : Serves reg request reg
  | reply (msg : WorkerMsg) (hmsg : IsReply request msg) : Serves reg request (reg.send msg)
  | create (roomId : UInt32) (hfree : reg.rooms.find? roomId = none) (msg : WorkerMsg)
      (hmsg : IsReply request msg) : Serves reg request ((reg.create roomId).send msg)
  | destroy (roomId : UInt32) (room : Room) (hroom : reg.rooms.find? roomId = some room)
      (msg : WorkerMsg) (hmsg : IsReply request msg) :
      Serves reg request ((reg.destroy room).send msg)

section
variable (reg : Registry) (request : Request)

/-- The methods that a room handles. -/
theorem handleRequest_serves {roomId : UInt32} {room : Room}
    (hroom : reg.rooms.find? roomId = some room) (m : MethodId) :
    Serves reg request (reg.handleRequest room request m) := by
  cases m
  case roomClose => exact .destroy roomId room hroom _ (isReply_accept _ _)
  case roomDump | roomCreatePeer | roomSetAudioLevelsEvent => exact .reply _ (isReply_accept _ _)
  all_goals exact .reply _ (isReply_reject _ _)

/-- The methods that are passed to a room. -/
theorem room_serves (m : MethodId) :
    Serves reg request (match request.roomId with
      | none => reg.send (request.reject "Request has not numeric internal.roomId")
      | some roomId =>
          match reg.rooms.find? roomId with
          | some room => reg.handleRequest room request m
          | none => reg.send (request.reject "Room does not exist")) := by
  cases request.roomId with
  | none => exact .reply _ (isReply_reject _ _)
  | some roomId =>
      dsimp only
      cases hroom : reg.rooms.find? roomId with
      | none => exact .reply _ (isReply_reject _ _)
      | some room => exact reg.handleRequest_serves request hroom m

/-- The method decides who handles the request. -/
theorem onChannelRequest_serves (m : MethodId) :
    Serves reg request (reg.onChannelRequest request m) := by
  cases m
  case workerDump => exact .reply _ (isReply_accept _ _)
  case workerUpdateSettings => exact .silent
  case workerCreateRoom =>
    rw [onChannelRequest]
    cases request.roomId with
    | none => exact .reply _ (isReply_reject _ _)
    | some roomId =>
        dsimp only
        cases hroom : reg.rooms.find? roomId with
        | none => exact .create roomId hroom _ (isReply_accept _ _)
        | some room => exact .reply _ (isReply_reject _ _)
  all_goals exact reg.room_serves request _

/-- A request whose method is unknown is rejected. -/
theorem userOnUnixStreamRead_serves : Serves reg request (reg.userOnUnixStreamRead request) := by
  unfold userOnUnixStreamRead
  cases string2MethodId.lookup request.method with
  | none => exact .reply _ (isReply_reject _ _)
  | some m => exact reg.onChannelRequest_serves request m

end

/-! ## The invariant -/

/-- The map is what the history says it is: a room is in it under its id, from its constructor to its
`Destroy`, which is called once and sends its notification. -/
structure Registered (reg : Registry) : Prop where
  find?_iff : ∀ key room, reg.rooms.find? key = some room ↔
    room.roomId = key ∧ room ∈ reg.created ∧ room ∉ reg.destroyed
  created_nodup : reg.created.Nodup
  serial_lt : ∀ room ∈ reg.created, room.serial < reg.created.length
  destroyed_nodup : reg.destroyed.Nodup
  destroyed_created : ∀ room ∈ reg.destroyed, room ∈ reg.created
  notifications_eq : notifications reg.sent = reg.destroyed.map Room.closeNotification

/-- There are no rooms at first. -/
theorem registered_initial : Registered {} where
  find?_iff := by simp
  created_nodup := List.nodup_nil
  serial_lt := by simp
  destroyed_nodup := List.nodup_nil
  destroyed_created := by simp
  notifications_eq := rfl

section
variable {reg : Registry}

/-- A reply is no notification. -/
theorem Registered.send (h : Registered reg) {request : Request} {msg : WorkerMsg}
    (hmsg : IsReply request msg) : Registered (reg.send msg) where
  find?_iff := h.find?_iff
  created_nodup := h.created_nodup
  serial_lt := h.serial_lt
  destroyed_nodup := h.destroyed_nodup
  destroyed_created := h.destroyed_created
  notifications_eq := by
    obtain ⟨verdict, rfl⟩ := hmsg
    have hold := h.notifications_eq
    simp only [Registry.send, notifications, List.filter_append] at hold ⊢
    rw [hold]
    exact List.append_nil _

/-- The room that is created is none of those there were. -/
theorem Registered.new_room (h : Registered reg) (roomId : UInt32) :
    (⟨roomId, reg.created.length⟩ : Room) ∉ reg.created := by
  intro hmem
  exact Nat.lt_irrefl _ (h.serial_lt _ hmem)

/-- A room with a new id is registered. -/
theorem Registered.create (h : Registered reg) {roomId : UInt32}
    (hfree : reg.rooms.find? roomId = none) : Registered (reg.create roomId) where
  find?_iff := by
    intro key room
    have hold := h.find?_iff key room
    have hnew := h.new_room roomId
    have hnot : (⟨roomId, reg.created.length⟩ : Room) ∉ reg.destroyed :=
      fun hmem => hnew (h.destroyed_created _ hmem)
    simp only [Registry.create, Table.find?_insert, List.mem_append, List.mem_singleton]
    split
    case isTrue hkey =>
      -- the id was free, so no other room of it is alive
      subst hkey
      rw [hfree] at hold
      constructor
      · intro heq
        cases heq
        exact ⟨rfl, .inr rfl, hnot⟩
      · rintro ⟨hid, hmem | rfl, hdes⟩
        · exact absurd (hold.2 ⟨hid, hmem, hdes⟩) (by simp)
        · rfl
    case isFalse hkey =>
      rw [hold]
      constructor
      · rintro ⟨hid, hmem, hdes⟩
        exact ⟨hid, .inl hmem, hdes⟩
      · rintro ⟨hid, hmem | rfl, hdes⟩
        · exact ⟨hid, hmem, hdes⟩
        · exact absurd hid.symm hkey
  created_nodup := by
    refine h.created_nodup.append (List.nodup_singleton _) ?_
    intro room hmem hnew
    rw [List.mem_singleton] at hnew
    rw [hnew] at hmem
    exact h.new_room roomId hmem
  serial_lt := by
    intro room hmem
    simp only [Registry.create, List.mem_append, List.mem_singleton, List.length_append,
      List.length_singleton] at hmem ⊢
    rcases hmem with hmem | rfl
    · exact Nat.lt_succ_of_lt (h.serial_lt room hmem)
    · exact Nat.lt_succ_self _
  destroyed_nodup := h.destroyed_nodup
  destroyed_created := fun room hmem => List.mem_append_left _ (h.destroyed_created room hmem)
  notifications_eq := h.notifications_eq

/-- A room that is destroyed is registered no more, and its close is notified. -/
theorem Registered.destroy (h : Registered reg) {key : UInt32} {room : Room}
    (hroom : reg.rooms.find? key = some room) : Registered (reg.destroy room) := by
  obtain ⟨hid, hcreated, hdestroyed⟩ := (h.find?_iff key room).1 hroom
  subst hid
  refine ⟨?_, h.created_nodup, h.serial_lt, ?_, ?_, ?_⟩
  · intro key other
    have hold := h.find?_iff key other
    simp only [Registry.destroy, Registry.onRoomClosed, Registry.send, Table.find?_erase,
      List.mem_append, List.mem_singleton, not_or]
    split
    case isTrue hkey =>
      -- the room was the only one alive under its id
      subst hkey
      constructor
      · intro heq
        cases heq
      · rintro ⟨hid, hmem, hdes, hne⟩
        have hsame := hold.2 ⟨hid, hmem, hdes⟩
        rw [hroom] at hsame
        cases hsame
        exact absurd rfl hne
    case isFalse hkey =>
      rw [hold]
      constructor
      · rintro ⟨hid, hmem, hdes⟩
        refine ⟨hid, hmem, hdes, ?_⟩
        rintro rfl
        exact hkey hid.symm
      · rintro ⟨hid, hmem, hdes, -⟩
        exact ⟨hid, hmem, hdes⟩
  · refine h.destroyed_nodup.append (List.nodup_singleton _) ?_
    intro other hmem hnew
    rw [List.mem_singleton] at hnew
    rw [hnew] at hmem
    exact hdestroyed hmem
  · intro other hmem
    simp only [Registry.destroy, Registry.onRoomClosed, Registry.send, List.mem_append,
      List.mem_singleton] at hmem ⊢
    rcases hmem with hmem | rfl
    · exact h.destroyed_created other hmem
    · exact hcreated
  · have hold := h.notifications_eq
    simp only [Registry.destroy, Registry.onRoomClosed, Registry.send, notifications,
      List.filter_append, List.map_append] at hold ⊢
    rw [hold]
    rfl

/-- To serve a request keeps the rooms registered. -/
theorem Serves.registered {request : Request} {reg' : Registry} (h : Serves reg request reg')
    (hreg : Registered reg) : Registered reg' := by
  cases h with
  | silent => exact hreg
  | reply msg hmsg => exact hreg.send hmsg
  | create roomId hfree msg hmsg => exact (hreg.create hfree).send hmsg
  | destroy roomId room hroom msg hmsg => exact (hreg.destroy hroom).send hmsg

/-- To serve a request does not close the loop. -/
theorem Serves.closed_eq {request : Request} {reg' : Registry} (h : Serves reg request reg') :
    reg'.closed = reg.closed := by
  cases h <;> rfl

end

/-! ## Closing the loop -/

section
variable {reg : Registry}

/-- The iterator has erased the entry already; `OnRoomClosed` finds nothing more to erase. -/
theorem destroy_erased (room : Room) :
    destroy { reg with rooms := reg.rooms.erase room.roomId } room = reg.destroy room := by
  simp only [Registry.destroy, Registry.onRoomClosed, Registry.send, Table.erase_erase]

/-- Only the rooms whose entries are in the map are destroyed, each in its turn, and no turn finds
its entry erased by an earlier one. -/
theorem closeRooms_registered {entries : List (UInt32 × Room)} (hreg : Registered reg)
    (hentries : reg.rooms.entries = entries) :
    ∃ reg', closeRooms entries reg = some reg' ∧ Registered reg' ∧ reg'.rooms.entries = [] ∧
      reg'.closed = reg.closed := by
  induction entries generalizing reg with
  | nil => exact ⟨reg, rfl, hreg, hentries, rfl⟩
  | cons entry entries ih =>
      have hmem : entry ∈ reg.rooms.entries := hentries ▸ List.mem_cons_self
      have hfind : reg.rooms.find? entry.1 = some entry.2 := reg.rooms.find?_eq_some.2 hmem
      have hid : entry.2.roomId = entry.1 := ((hreg.find?_iff _ _).1 hfind).1
      have hdestroy : destroy { reg with rooms := reg.rooms.erase entry.1 } entry.2 =
          reg.destroy entry.2 := by
        rw [← hid]
        exact destroy_erased entry.2
      have hrest : (reg.destroy entry.2).rooms.entries = entries := by
        change (reg.rooms.erase entry.2.roomId).entries = entries
        rw [hid]
        exact reg.rooms.entries_erase_of_cons hentries
      obtain ⟨reg', hclose, hreg', hempty, hclosed⟩ := ih (hreg.destroy hfind) hrest
      refine ⟨reg', ?_, hreg', hempty, hclosed⟩
      rw [closeRooms, if_pos hmem, hdestroy]
      exact hclose

/-- The flag does not concern the rooms. -/
theorem Registered.set_closed (h : Registered reg) : Registered { reg with closed := true } :=
  ⟨h.find?_iff, h.created_nodup, h.serial_lt, h.destroyed_nodup, h.destroyed_created,
    h.notifications_eq⟩

/-- The invariant of the runs: the map is what the history says, and empty after `Loop::Close`. -/
structure Valid (reg : Registry) : Prop where
  registered : Registered reg
  empty_of_closed : reg.closed = true → reg.rooms.entries = []

/-- The loop begins without rooms. -/
theorem valid_initial : Valid {} :=
  ⟨registered_initial, fun _ => rfl⟩

/-- `Loop::Close` destroys all rooms, and fails nowhere. -/
theorem Valid.close (h : Valid reg) :
    ∃ reg', reg.close = some reg' ∧ Valid reg' ∧ reg'.closed = true := by
  unfold Registry.close
  split
  case isTrue hclosed => exact ⟨reg, rfl, h, hclosed⟩
  case isFalse =>
    obtain ⟨reg', hclose, hreg', hempty, hclosed⟩ :=
      closeRooms_registered h.registered.set_closed rfl
    exact ⟨reg', hclose, ⟨hreg', fun _ => hempty⟩, hclosed⟩

/-- Every event keeps the registry valid. -/
theorem Valid.step {e : Event} {reg' : Registry} (h : Valid reg) (hstep : reg.step e = some reg') :
    Valid reg' := by
  cases e with
  | message json =>
      rw [Registry.step] at hstep
      split at hstep
      case isTrue hopen =>
        cases hstep
        rw [Bool.and_eq_true, Bool.not_eq_true'] at hopen
        unfold onMessage
        split
        case h_1 => exact h
        case h_2 request hrequest =>
          have hserves := reg.userOnUnixStreamRead_serves request
          refine ⟨hserves.registered h.registered, fun hclosed => ?_⟩
          rw [hserves.closed_eq, hopen.2] at hclosed
          cases hclosed
      case isFalse => cases hstep
  | close =>
      obtain ⟨reg'', hclose, hvalid, -⟩ := h.close
      cases hclose.symm.trans hstep
      exact hvalid

/-- Every run of the worker keeps the invariant. -/
theorem exec_valid {es : List Event} (h : Machine.exec Registry.step {} es = some reg) : Valid reg :=
  Machine.exec_inv (fun _ _ _ hvalid hstep => hvalid.step hstep) h valid_initial

/-! ## What the requests find -/

/-- A request is an object. -/
theorem isObject_of_ofJson {json : Value} {request : Request}
    (h : Request.ofJson json = some request) : json.isObject = true := by
  cases json with
  | object => rfl
  | _ => cases h

/-- A request to an open registry. -/
theorem step_request {json : Value} {request : Request} (hopen : reg.closed = false)
    (h : Request.ofJson json = some request) :
    reg.step (.message json) = some (reg.userOnUnixStreamRead request) := by
  rw [Registry.step, isObject_of_ofJson h, hopen, onMessage, h]
  rfl

/-- The dump is the list of the rooms. -/
theorem userOnUnixStreamRead_dump {request : Request} (h : request.method = "worker.dump") :
    reg.userOnUnixStreamRead request = reg.send (request.accept (dumpJson reg.list)) := by
  unfold userOnUnixStreamRead
  rw [h]
  rfl

/-- A room with an id that is taken is rejected. -/
theorem userOnUnixStreamRead_create {request : Request} {room : Room}
    (h : request.method = "worker.createRoom") (hid : request.roomId = some room.roomId)
    (hroom : reg.rooms.find? room.roomId = some room) :
    reg.userOnUnixStreamRead request = reg.send (request.reject "Room already exists") := by
  have hlookup : string2MethodId.lookup request.method = some .workerCreateRoom := by
    rw [h]
    rfl
  unfold userOnUnixStreamRead
  rw [hlookup]
  dsimp only
  rw [onChannelRequest, hid]
  dsimp only
  rw [hroom]

/-- The rooms of the map are those created and not destroyed. -/
theorem Registered.mem_list (h : Registered reg) (room : Room) :
    room ∈ reg.list ↔ room ∈ reg.created ∧ room ∉ reg.destroyed := by
  rw [Registry.list, List.mem_map]
  constructor
  · rintro ⟨entry, hmem, rfl⟩
    exact ((h.find?_iff _ _).1 (reg.rooms.find?_eq_some.2 hmem)).2
  · intro halive
    have hfind := (h.find?_iff room.roomId room).2 ⟨rfl, halive⟩
    exact ⟨_, reg.rooms.find?_eq_some.1 hfind, rfl⟩

/-- The entries differ in their keys, which are the ids of the rooms. -/
theorem Registered.nodup_list (h : Registered reg) : reg.list.Nodup := by
  have hkeys : reg.list.map Room.roomId = reg.rooms.entries.map Prod.fst := by
    rw [Registry.list, List.map_map]
    refine List.map_congr_left fun entry hmem => ?_
    exact ((h.find?_iff _ _).1 (reg.rooms.find?_eq_some.2 hmem)).1
  have hnodup := reg.rooms.nodup
  rw [← hkeys] at hnodup
  exact hnodup.of_map

/-- Once the map is empty, the destroyed rooms are all that were created. -/
theorem Registered.destroyed_perm (h : Registered reg) (hempty : reg.rooms.entries = []) :
    reg.destroyed.Perm reg.created := by
  rw [List.perm_ext_iff_of_nodup h.destroyed_nodup h.created_nodup]
  intro room
  refine ⟨h.destroyed_created room, fun hmem => ?_⟩
  by_contra hnot
  have hlist := (h.mem_list room).2 ⟨hmem, hnot⟩
  rw [Registry.list, hempty] at hlist
  cases hlist

/-- **The registry of rooms.** After every run of channel requests and `Loop::Close`: every key of the
map is the id of the room under it; while the loop is open, `worker.createRoom` with the id of a room
that is alive is rejected, which is all it does, and `worker.dump` lists the rooms created and not
closed, each once; the notifications that were sent are one for each room destroyed, with its id;
`Loop::Close` never loses its iterator; and after it the map is empty and the notifications are one for
each room created. -/
theorem rooms_registered {es : List Event} (h : Machine.exec Registry.step {} es = some reg) :
    (∀ key room, reg.rooms.find? key = some room → room.roomId = key) ∧
    (∀ json request room, reg.closed = false → Request.ofJson json = some request →
      request.method = "worker.createRoom" → request.roomId = some room.roomId →
      room ∈ reg.created → room ∉ reg.destroyed →
      reg.step (.message json) = some (reg.send (request.reject "Room already exists"))) ∧
    (∀ json request, reg.closed = false → Request.ofJson json = some request →
      request.method = "worker.dump" → ∃ rooms : List Room, rooms.Nodup ∧
        (∀ room, room ∈ rooms ↔ room ∈ reg.created ∧ room ∉ reg.destroyed) ∧
        reg.step (.message json) = some (reg.send (request.accept (dumpJson rooms)))) ∧
    (reg.created.Nodup ∧ reg.destroyed.Nodup ∧ (∀ room ∈ reg.destroyed, room ∈ reg.created) ∧
      notifications reg.sent = reg.destroyed.map Room.closeNotification) ∧
    (∃ reg', reg.step .close = some reg' ∧ reg'.closed = true) ∧
    (reg.closed = true → reg.rooms.entries = [] ∧ reg.destroyed.Perm reg.created ∧
      (notifications reg.sent).Perm (reg.created.map Room.closeNotification)) := by
  have hvalid := exec_valid h
  have hreg := hvalid.registered
  refine ⟨?keys, ?create, ?dump, ?history, ?close, ?closed⟩
  case keys =>
    intro key room hroom
    exact ((hreg.find?_iff key room).1 hroom).1
  case create =>
    intro json request room hopen hrequest hmethod hid hcreated hdestroyed
    have hroom := (hreg.find?_iff room.roomId room).2 ⟨rfl, hcreated, hdestroyed⟩
    rw [step_request hopen hrequest, userOnUnixStreamRead_create hmethod hid hroom]
  case dump =>
    intro json request hopen hrequest hmethod
    refine ⟨reg.list, hreg.nodup_list, hreg.mem_list, ?_⟩
    rw [step_request hopen hrequest, userOnUnixStreamRead_dump hmethod]
  case history =>
    exact ⟨hreg.created_nodup, hreg.destroyed_nodup, hreg.destroyed_created, hreg.notifications_eq⟩
  case close =>
    obtain ⟨reg', hclose, -, hclosed⟩ := hvalid.close
    exact ⟨reg', hclose, hclosed⟩
  case closed =>
    intro hclosed
    have hempty := hvalid.empty_of_closed hclosed
    have hperm := hreg.destroyed_perm hempty
    refine ⟨hempty, hperm, ?_⟩
    rw [hreg.notifications_eq]
    exact hperm.map _

/-- A request about a room. -/
def roomRequest (id : ℚ) (method : String) (roomId : ℚ) : Value :=
  .object [("id", .number id), ("method", .string method),
    ("internal", .object [("roomId", .number roomId)])]

/-- A room is closed and created again, its second creation is tried twice, and one more room is
there when the loop closes. -/
def closedTwice : List Event :=
  [.message (roomRequest 1 "worker.createRoom" 7), .message (roomRequest 2 "room.close" 7),
    .message (roomRequest 3 "worker.createRoom" 7), .message (roomRequest 4 "worker.createRoom" 8),
    .message (roomRequest 5 "worker.createRoom" 7), .close]

/-- A room is closed, its id is used again, and the loop closes. -/
theorem rooms_registered_closedTwice :
    ∃ reg, Machine.exec Registry.step {} closedTwice = some reg ∧
      reg.created = [⟨7, 0⟩, ⟨7, 1⟩, ⟨8, 2⟩] ∧ reg.rooms.entries = [] ∧
      (notifications reg.sent).Perm (reg.created.map Room.closeNotification) := by
  obtain ⟨reg, hrun, hcreated, hclosed⟩ : ∃ reg,
      Machine.exec Registry.step {} closedTwice = some reg ∧
        reg.created = [⟨7, 0⟩, ⟨7, 1⟩, ⟨8, 2⟩] ∧ reg.closed = true := ⟨_, rfl, rfl, rfl⟩
  obtain ⟨hempty, -, hperm⟩ := (rooms_registered hrun).2.2.2.2.2 hclosed
  exact ⟨reg, hrun, hcreated, hempty, hperm⟩

end

/-! ## The list of keys is an abstraction -/

/-- The keys of the map, which is what `Worker.Loop` keeps of it. -/
def toLoop (reg : Registry) : Loop := ⟨reg.rooms.keys⟩

/-- `reg'` comes from `reg` as the loop of the keys says. -/
def Follows (reg : Registry) (out : Loop × List WorkerMsg) (reg' : Registry) : Prop :=
  reg'.toLoop = out.1 ∧ reg'.sent = reg.sent ++ out.2

section
variable {reg : Registry}

/-- The loop sends what the registry sends. -/
theorem follows_send (msg : WorkerMsg) : reg.Follows (reg.toLoop, [msg]) (reg.send msg) :=
  ⟨rfl, rfl⟩

/-- The loop knows the ids of the rooms. -/
theorem mem_toLoop {roomId : UInt32} :
    roomId ∈ reg.toLoop.rooms ↔ ∃ room, reg.rooms.find? roomId = some room :=
  reg.rooms.mem_keys

/-- The loop knows no other ids. -/
theorem not_mem_toLoop {roomId : UInt32} (h : reg.rooms.find? roomId = none) :
    roomId ∉ reg.toLoop.rooms := by
  rw [mem_toLoop, h]
  simp

/-- The methods of a room do to the registry what they do to the loop. -/
theorem handleRequest_follows (hreg : Registered reg) {roomId : UInt32} {room : Room}
    (hroom : reg.rooms.find? roomId = some room) (request : Request) (m : MethodId) :
    reg.Follows (reg.toLoop.handleRequest roomId request m) (reg.handleRequest room request m) := by
  have hid : room.roomId = roomId := ((hreg.find?_iff _ _).1 hroom).1
  subst hid
  cases m
  case roomClose =>
    refine ⟨?_, ?_⟩
    · have hkeys : (reg.rooms.erase room.roomId).keys =
          reg.rooms.keys.filter (· != room.roomId) := by
        rw [Table.keys_erase]
        refine List.filter_congr fun key _ => ?_
        simp [bne, Bool.beq_eq_decide_eq]
      exact congrArg Loop.mk hkeys
    · simp [Registry.handleRequest, Loop.handleRequest, Registry.destroy, Registry.onRoomClosed,
        Registry.send, Loop.destroy, Room.closeNotification]
  all_goals exact follows_send _

/-- The methods that are passed to a room, in both loops. -/
theorem room_follows (hreg : Registered reg) (request : Request) (m : MethodId) :
    reg.Follows (match request.roomId with
      | none => (reg.toLoop, [request.reject "Request has not numeric internal.roomId"])
      | some roomId =>
          if roomId ∈ reg.toLoop.rooms then reg.toLoop.handleRequest roomId request m
          else (reg.toLoop, [request.reject "Room does not exist"]))
      (match request.roomId with
      | none => reg.send (request.reject "Request has not numeric internal.roomId")
      | some roomId =>
          match reg.rooms.find? roomId with
          | some room => reg.handleRequest room request m
          | none => reg.send (request.reject "Room does not exist")) := by
  cases request.roomId with
  | none => exact follows_send _
  | some roomId =>
      dsimp only
      cases hroom : reg.rooms.find? roomId with
      | none =>
          rw [if_neg (not_mem_toLoop hroom)]
          exact follows_send _
      | some room =>
          rw [if_pos (mem_toLoop.2 ⟨room, hroom⟩)]
          exact handleRequest_follows hreg hroom request m

/-- All methods do to the registry what they do to the loop. -/
theorem onChannelRequest_follows (hreg : Registered reg) (request : Request) (m : MethodId) :
    reg.Follows (reg.toLoop.onChannelRequest request m) (reg.onChannelRequest request m) := by
  cases m
  case workerDump =>
    have hids : reg.list.map (fun room => roomToJson room.roomId) =
        reg.toLoop.rooms.map roomToJson := by
      rw [Registry.list, toLoop, Table.keys, List.map_map, List.map_map]
      refine List.map_congr_left fun entry hmem => ?_
      have hid := ((hreg.find?_iff _ _).1 (reg.rooms.find?_eq_some.2 hmem)).1
      rw [Function.comp_apply, Function.comp_apply, hid]
    rw [Registry.onChannelRequest, Loop.onChannelRequest, dumpJson, hids]
    exact follows_send _
  case workerUpdateSettings => exact ⟨rfl, (List.append_nil _).symm⟩
  case workerCreateRoom =>
    rw [Registry.onChannelRequest, Loop.onChannelRequest]
    cases request.roomId with
    | none => exact follows_send _
    | some roomId =>
        dsimp only
        cases hroom : reg.rooms.find? roomId with
        | none =>
            rw [if_neg (not_mem_toLoop hroom)]
            refine ⟨congrArg Loop.mk ?_, rfl⟩
            change roomId :: (reg.rooms.erase roomId).keys = roomId :: reg.rooms.keys
            rw [reg.rooms.erase_of_find?_none hroom]
        | some room =>
            rw [if_pos (mem_toLoop.2 ⟨room, hroom⟩)]
            exact follows_send _
  all_goals exact room_follows hreg request _

/-- **Refinement.** What a message does to the map and what is sent for it is what the loop over the
keys says. -/
theorem onMessage_follows (hreg : Registered reg) (json : Value) :
    reg.Follows (reg.toLoop.onMessage json) (reg.onMessage json) := by
  unfold Registry.onMessage Loop.onMessage
  cases Request.ofJson json with
  | none => exact ⟨rfl, (List.append_nil _).symm⟩
  | some request =>
      dsimp only
      unfold Registry.userOnUnixStreamRead Loop.userOnUnixStreamRead
      cases string2MethodId.lookup request.method with
      | none => exact follows_send _
      | some m => exact onChannelRequest_follows hreg request m

end

end Registry

end KoreWebsocket.Worker
