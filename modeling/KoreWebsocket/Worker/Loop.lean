import KoreWebsocket.Channel.Letters

/-!
# The worker's request loop (`mediasoup/soup/Loop.cpp`, `Room.cpp`, `Request.cpp`)

A request read from kore becomes a `Channel::Request`, which rejects an unknown method in its
constructor; `Loop::OnChannelRequest` serves the rest. The map `Loop::rooms` is kept as the list
of its keys, since a `Room` here has no state but its id. Each function returns the new loop and
the messages it sends to kore, in order. `userOnUnixStreamRead_cases` says everything a request can
do to the rooms and what it sends back.
-/

namespace KoreWebsocket.Worker

open Channel (WorkerMsg)

/-- `Request::MethodId`. -/
inductive MethodId
  | workerDump | workerUpdateSettings | workerCreateRoom
  | roomClose | roomDump | roomCreatePeer | roomSetAudioLevelsEvent
  | peerClose | peerDump | peerSetCapabilities | peerCreateTransport | peerCreateRtpReceiver
  | transportClose | transportDump | transportSetRemoteDtlsParameters | transportSetMaxBitrate
  | transportChangeUfragPwd
  | rtpReceiverClose | rtpReceiverDump | rtpReceiverReceive | rtpReceiverSetTransport
  | rtpReceiverSetRtpRawEvent | rtpReceiverSetRtpObjectEvent
  | rtpSenderDump | rtpSenderSetTransport | rtpSenderDisable
  deriving DecidableEq, Repr

/-- `Request::string2MethodId`. -/
def string2MethodId : List (String × MethodId) :=
  [("worker.dump", .workerDump),
    ("worker.updateSettings", .workerUpdateSettings),
    ("worker.createRoom", .workerCreateRoom),
    ("room.close", .roomClose),
    ("room.dump", .roomDump),
    ("room.createPeer", .roomCreatePeer),
    ("room.setAudioLevelsEvent", .roomSetAudioLevelsEvent),
    ("peer.close", .peerClose),
    ("peer.dump", .peerDump),
    ("peer.setCapabilities", .peerSetCapabilities),
    ("peer.createTransport", .peerCreateTransport),
    ("peer.createRtpReceiver", .peerCreateRtpReceiver),
    ("transport.close", .transportClose),
    ("transport.dump", .transportDump),
    ("transport.setRemoteDtlsParameters", .transportSetRemoteDtlsParameters),
    ("transport.setMaxBitrate", .transportSetMaxBitrate),
    ("transport.changeUfragPwd", .transportChangeUfragPwd),
    ("rtpReceiver.close", .rtpReceiverClose),
    ("rtpReceiver.dump", .rtpReceiverDump),
    ("rtpReceiver.receive", .rtpReceiverReceive),
    ("rtpReceiver.setTransport", .rtpReceiverSetTransport),
    ("rtpReceiver.setRtpRawEvent", .rtpReceiverSetRtpRawEvent),
    ("rtpReceiver.setRtpObjectEvent", .rtpReceiverSetRtpObjectEvent),
    ("rtpSender.dump", .rtpSenderDump),
    ("rtpSender.setTransport", .rtpSenderSetTransport),
    ("rtpSender.disable", .rtpSenderDisable)]

/-- A request as it crosses the channel. `roomId` is `internal.roomId`, `none` when it is not an
unsigned integer. -/
structure Request where
  id : UInt32
  method : String
  roomId : Option UInt32 := none
  deriving DecidableEq, Repr

/-- `Request::Accept`, with the `data` member as kore dumps it. -/
def Request.accept (r : Request) (data : String := "\x7b\x7d") : WorkerMsg :=
  .reply r.id (some (.accepted data))

/-- `Request::Reject`. -/
def Request.reject (r : Request) (reason : String) : WorkerMsg :=
  .reply r.id (some (.rejected reason))

/-- The keys of `Loop::rooms`. -/
structure Loop where
  rooms : List UInt32 := []
  deriving DecidableEq, Repr

/-- `Room::ToJson`. -/
def roomToJson (roomId : UInt32) : String :=
  "\x7b\"roomId\": " ++ toString roomId ++ "\x7d"

/-- `Loop::OnRoomClosed`. -/
def Loop.onRoomClosed (loop : Loop) (roomId : UInt32) : Loop :=
  { loop with rooms := loop.rooms.filter (· != roomId) }

/-- `Room::Destroy`: notify kore, then tell the listener. -/
def Loop.destroy (loop : Loop) (roomId : UInt32) : Loop × List WorkerMsg :=
  (loop.onRoomClosed roomId, [.notification roomId "close"])

/-- `Room::HandleRequest`. -/
def Loop.handleRequest (loop : Loop) (roomId : UInt32) (request : Request) :
    MethodId → Loop × List WorkerMsg
  | .roomClose =>
      let (loop, sent) := loop.destroy roomId
      (loop, sent ++ [request.accept])
  | .roomDump => (loop, [request.accept (roomToJson roomId)])
  | .roomCreatePeer => (loop, [request.accept])
  | .roomSetAudioLevelsEvent => (loop, [request.accept])
  | _ => (loop, [request.reject "unknown method"])

/-- `Loop::OnChannelRequest`. `WORKER_UPDATE_SETTINGS` sends no reply. -/
def Loop.onChannelRequest (loop : Loop) (request : Request) : MethodId → Loop × List WorkerMsg
  | .workerDump =>
      (loop, [request.accept ("\x7b\"rooms\": [" ++
        ", ".intercalate (loop.rooms.map roomToJson) ++ "], \"workerId\": \"3\"\x7d")])
  | .workerUpdateSettings => (loop, [])
  | .workerCreateRoom =>
      match request.roomId with
      | none => (loop, [request.reject "Request has not numeric internal.roomId"])
      | some roomId =>
          if roomId ∈ loop.rooms then (loop, [request.reject "Room already exists"])
          else ({ loop with rooms := roomId :: loop.rooms }, [request.accept])
  | methodId =>
      match request.roomId with
      | none => (loop, [request.reject "Request has not numeric internal.roomId"])
      | some roomId =>
          if roomId ∈ loop.rooms then loop.handleRequest roomId request methodId
          else (loop, [request.reject "Room does not exist"])

/-- `UnixStreamSocket::UserOnUnixStreamRead` on a parsed request: the constructor of `Request`
rejects a method that is not in the table, and the request is discarded. -/
def Loop.userOnUnixStreamRead (loop : Loop) (request : Request) : Loop × List WorkerMsg :=
  match string2MethodId.lookup request.method with
  | none => (loop, [request.reject "method not allowed"])
  | some methodId => loop.onChannelRequest request methodId

/-! ## What a request can do -/

/-- A request that leaves the rooms alone and sends at most one reply, to its own id. -/
def Served (loop : Loop) (request : Request) (out : Loop × List WorkerMsg) : Prop :=
  out.1 = loop ∧ (out.2 = [] ∨ ∃ v, out.2 = [.reply request.id (some v)])

theorem served_reply (loop : Loop) (request : Request) (v : Channel.Verdict) :
    Served loop request (loop, [.reply request.id (some v)]) :=
  ⟨rfl, .inr ⟨v, rfl⟩⟩

/-- A room's request closes it, or leaves the rooms alone. -/
theorem Loop.handleRequest_cases (loop : Loop) (roomId : UInt32) (request : Request)
    (m : MethodId) :
    (m = .roomClose ∧ loop.handleRequest roomId request m =
      (loop.onRoomClosed roomId, [.notification roomId "close", request.accept])) ∨
    (m ≠ .roomClose ∧ Served loop request (loop.handleRequest roomId request m)) := by
  by_cases hm : m = .roomClose
  · subst hm; exact .inl ⟨rfl, rfl⟩
  · refine .inr ⟨hm, ?_⟩
    cases m <;> first | exact absurd rfl hm | exact served_reply _ _ _

/-- The methods other than `worker.createRoom`: a room is closed, or the rooms are left alone. -/
theorem Loop.onChannelRequest_cases (loop : Loop) (request : Request) {m : MethodId}
    (hm : m ≠ .workerCreateRoom) :
    (∃ R, m = .roomClose ∧ request.roomId = some R ∧ R ∈ loop.rooms ∧
      loop.onChannelRequest request m =
        (loop.onRoomClosed R, [.notification R "close", request.accept])) ∨
    ((∀ R, m = .roomClose → request.roomId = some R → R ∉ loop.rooms) ∧
      Served loop request (loop.onChannelRequest request m)) := by
  by_cases hw : m = .workerDump ∨ m = .workerUpdateSettings
  · rcases hw with rfl | rfl
    · exact .inr ⟨fun _ h => (by cases h), served_reply _ _ _⟩
    · exact .inr ⟨fun _ h => (by cases h), rfl, .inl rfl⟩
  · have heq : loop.onChannelRequest request m = match request.roomId with
        | none => (loop, [request.reject "Request has not numeric internal.roomId"])
        | some roomId =>
            if roomId ∈ loop.rooms then loop.handleRequest roomId request m
            else (loop, [request.reject "Room does not exist"]) := by
      cases m <;> first | rfl | exact absurd rfl hm | exact absurd (by simp) hw
    rw [heq]
    cases hR : request.roomId with
    | none => exact .inr ⟨fun _ _ h => (by cases h), served_reply _ _ _⟩
    | some R =>
        by_cases hmem : R ∈ loop.rooms
        · simp only [hmem, if_true]
          rcases loop.handleRequest_cases R request m with ⟨rfl, h⟩ | ⟨hne, h⟩
          · exact .inl ⟨R, rfl, rfl, hmem, h⟩
          · exact .inr ⟨fun _ he => absurd he hne, h⟩
        · simp only [hmem, if_false]
          refine .inr ⟨fun R' _ h => ?_, served_reply _ _ _⟩
          cases h; exact hmem

/-- A method that the table maps to `m` is the only one it maps there. -/
theorem lookup_mem {x : String} {m : MethodId} (h : string2MethodId.lookup x = some m) :
    (x, m) ∈ string2MethodId := by
  obtain ⟨l₁, l₂, he, -⟩ := List.lookup_eq_some_iff.1 h
  rw [he]
  exact List.mem_append_right _ (.head _)

theorem lookup_createRoom {x : String} (h : string2MethodId.lookup x = some .workerCreateRoom) :
    x = "worker.createRoom" := by
  have hall : ∀ p ∈ string2MethodId, p.2 = .workerCreateRoom → p.1 = "worker.createRoom" := by
    decide
  exact hall _ (lookup_mem h) rfl

theorem lookup_close {x : String} (h : string2MethodId.lookup x = some .roomClose) :
    x = "room.close" := by
  have hall : ∀ p ∈ string2MethodId, p.2 = .roomClose → p.1 = "room.close" := by decide
  exact hall _ (lookup_mem h) rfl

/-- **Everything a request can do.** It creates its room, is refused because the room exists,
closes its room, or leaves the rooms alone; a `room.close` does the last only when there is no
such room. -/
theorem Loop.userOnUnixStreamRead_cases (loop : Loop) (request : Request) :
    (∃ R, request.method = "worker.createRoom" ∧ request.roomId = some R ∧ R ∉ loop.rooms ∧
      loop.userOnUnixStreamRead request = ({ loop with rooms := R :: loop.rooms },
        [request.accept])) ∨
    (∃ R, request.method = "worker.createRoom" ∧ request.roomId = some R ∧ R ∈ loop.rooms ∧
      loop.userOnUnixStreamRead request = (loop, [request.reject "Room already exists"])) ∨
    (∃ R, request.method = "room.close" ∧ request.roomId = some R ∧ R ∈ loop.rooms ∧
      loop.userOnUnixStreamRead request =
        (loop.onRoomClosed R, [.notification R "close", request.accept])) ∨
    ((∀ R, request.method = "worker.createRoom" → request.roomId ≠ some R) ∧
      (∀ R, request.method = "room.close" → request.roomId = some R → R ∉ loop.rooms) ∧
      Served loop request (loop.userOnUnixStreamRead request)) := by
  unfold Loop.userOnUnixStreamRead
  by_cases hc : request.method = "worker.createRoom"
  · have hl : string2MethodId.lookup request.method = some .workerCreateRoom := by rw [hc]; rfl
    have hne : request.method ≠ "room.close" := by rw [hc]; decide
    simp only [hl, Loop.onChannelRequest]
    cases hR : request.roomId with
    | none =>
        exact .inr (.inr (.inr ⟨fun _ _ h => (by cases h), fun _ _ h => (by cases h),
          served_reply _ _ _⟩))
    | some R =>
        by_cases hmem : R ∈ loop.rooms
        · exact .inr (.inl ⟨R, hc, rfl, hmem, by simp [hmem]⟩)
        · exact .inl ⟨R, hc, rfl, hmem, by simp [hmem]⟩
  · cases hl : string2MethodId.lookup request.method with
    | none =>
        refine .inr (.inr (.inr ⟨fun _ h => absurd h hc, fun R h => ?_, served_reply _ _ _⟩))
        rw [h] at hl; exact absurd hl (by decide)
    | some m =>
        have hm : m ≠ .workerCreateRoom := by
          rintro rfl
          exact hc (lookup_createRoom hl)
        rcases loop.onChannelRequest_cases request hm with ⟨R, rfl, h1, h2, h3⟩ | ⟨h1, h2⟩
        · exact .inr (.inr (.inl ⟨R, lookup_close hl, h1, h2, h3⟩))
        · refine .inr (.inr (.inr ⟨fun _ h => absurd h hc, fun R h => ?_, h2⟩))
          rw [h] at hl
          exact h1 R (Option.some.inj hl).symm

end KoreWebsocket.Worker
