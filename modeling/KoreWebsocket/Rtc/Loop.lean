import KoreWebsocket.Rtc.Room

/-!
# The loop of the worker (`Loop`, `Channel::Request`, `Settings`, `mediasoup_1/soup`)

A message of the channel becomes a request, unless the constructor refuses it. The loop answers the
requests for the worker itself and passes the others to their rooms. A room is in the table from its
creation until it is closed. Nothing outside of the constructor catches what a room does not catch.
-/

namespace KoreWebsocket.Rtc

open JsonCpp
open Worker (MethodId string2MethodId)

/-! ## Settings -/

/-- `LogLevel`. -/
inductive LogLevel
  | error | warn | debug
  deriving DecidableEq, Repr

/-- `Settings::string2LogLevel`. -/
def string2LogLevel : List (String × LogLevel) := [("debug", .debug), ("warn", .warn), ("error", .error)]

/-- `Settings::LogTags`. -/
structure LogTags where
  info : Bool := false
  ice : Bool := false
  dtls : Bool := false
  rtp : Bool := false
  srtp : Bool := false
  rtcp : Bool := false
  rtx : Bool := false
  rbe : Bool := false
  deriving DecidableEq, Repr

/-- One tag in `Settings::SetLogTags`. -/
def LogTags.set (logTags : LogTags) : String → LogTags
  | "info" => { logTags with info := true }
  | "ice" => { logTags with ice := true }
  | "dtls" => { logTags with dtls := true }
  | "rtp" => { logTags with rtp := true }
  | "srtp" => { logTags with srtp := true }
  | "rtcp" => { logTags with rtcp := true }
  | "rbe" => { logTags with rbe := true }
  | "rtx" => { logTags with rtx := true }
  | _ => logTags

/-- The members of `Settings::Configuration` that a request can change. -/
structure Configuration where
  logLevel : LogLevel := .debug
  logTags : LogTags := {}
  deriving DecidableEq, Repr

namespace Configuration

variable (configuration : Configuration)

/-- `Settings::SetLogLevel`. -/
def setLogLevel (level : String) : Except Fault Configuration :=
  match string2LogLevel.lookup (toLowerCase level) with
  | none => msThrow ("invalid value '" ++ toLowerCase level ++ "' for logLevel")
  | some logLevel => .ok { configuration with logLevel }

/-- `Settings::SetLogTags`. -/
def setLogTags (entries : List Value) : Configuration :=
  { configuration with
    logTags := ((entries.filter Value.isString).map Value.asString).foldl LogTags.set {} }

/-- The `try` block of `Settings::HandleRequest`. -/
def update (data : Value) : Except Fault Configuration := do
  let configuration ←
    if (data.member "logLevel").isString then
      configuration.setLogLevel (data.member "logLevel").asString
    else pure configuration
  if (data.member "logTags").isArray then
    return configuration.setLogTags (data.member "logTags").elements
  else return configuration

end Configuration

/-! ## Requests -/

/-- What a request is answered with, by a room or by the loop: a dump of the rooms, or the capabilities of
a new room. -/
inductive Answer
  | handled (response : Response)
  | rooms (rooms : List Room)
  | created (capabilities : RtpCapabilities)

/-- A response on the channel. -/
structure Reply where
  id : UInt32
  answer : Answer

/-- `request->internal` and `request->data`: an empty object if the member is not one. -/
def objectMember (json : Value) (key : String) : Value :=
  if (json.member key).isObject then json.member key else .empty

/-- `Channel::Request::Request`: what it sends, and the id with the request unless it throws. -/
def Request.ofJson (json : Value) : List Reply × Except Fault (UInt32 × Request) :=
  if !(json.member "id").isUInt then ([], msThrow "json has no numeric .id field")
  else if !(json.member "method").isString then ([], msThrow "json has no string .method field")
  else
    match string2MethodId.lookup (json.member "method").asString with
    | none =>
        ([⟨(json.member "id").asUInt, .handled (.reject "method not allowed")⟩],
          msThrow ("unknown .method '" ++ (json.member "method").asString ++ "'"))
    | some method =>
        ([], .ok ((json.member "id").asUInt,
          { method, internal := objectMember json "internal", data := objectMember json "data" }))

/-! ## The loop -/

/-- `Loop`, with the settings. -/
structure Loop where
  rooms : Table UInt32 Room := ∅
  configuration : Configuration := {}

namespace Loop

variable (loop : Loop)

/-- `request->Reject(reason)`. -/
def reject (reason : String) : List Answer × Except Fault Loop := ([.handled (.reject reason)], .ok loop)

/-- A `try` block that rejects the request if a `MediaSoupError` is thrown. -/
def tryReject {α : Type} (x : Except Fault α) (handler : α → List Answer × Except Fault Loop) :
    List Answer × Except Fault Loop :=
  match x with
  | .ok a => handler a
  | .error (.mediaSoupError what) => loop.reject what
  | .error fault => ([], .error fault)

/-- `WORKER_UPDATE_SETTINGS`. -/
def updateSettings (data : Value) : List Answer × Except Fault Loop :=
  loop.tryReject (loop.configuration.update data) fun configuration =>
    ([.handled (.accept .empty)], .ok { loop with configuration })

/-- `WORKER_CREATE_ROOM`. -/
def createRoom (request : Request) : List Answer × Except Fault Loop :=
  loop.tryReject (request.idFrom "roomId" "Request has not numeric internal.roomId") fun roomId =>
  if (loop.rooms.find? roomId).isSome then loop.reject "Room already exists"
  else
    loop.tryReject (Room.create roomId request.data) fun room =>
      ([.created room.capabilities], .ok { loop with rooms := loop.rooms.insert roomId room })

/-- What a room's handler sends and leaves. A room that is closed takes itself out of the table
(`OnRoomClosed`). -/
def passToRoom (env : Environment) (roomId : UInt32) (room : Room) (request : Request) :
    List Answer × Except Fault Loop :=
  let handled := room.handleRequest env request
  (handled.1.map .handled, handled.2.map fun room =>
    if request.method = .roomClose then { loop with rooms := loop.rooms.erase roomId }
    else { loop with rooms := loop.rooms.insert roomId room })

/-- `Loop::OnChannelRequest`. -/
def onChannelRequest (env : Environment) (request : Request) : List Answer × Except Fault Loop :=
  match request.method with
  | .workerDump => ([.rooms (loop.rooms.entries.map Prod.snd)], .ok loop)
  | .workerUpdateSettings => loop.updateSettings request.data
  | .workerCreateRoom => loop.createRoom request
  | _ =>
      loop.tryReject (request.idFrom "roomId" "Request has not numeric internal.roomId") fun roomId =>
      match loop.rooms.find? roomId with
      | none => loop.reject "Room does not exist"
      | some room => loop.passToRoom env roomId room request

/-- `UnixStreamSocket::UserOnUnixStreamRead`, once the JSON is parsed. Only what the constructor throws is
caught. -/
def userOnUnixStreamRead (env : Environment) (json : Value) : List Reply × Except Fault Loop :=
  match Request.ofJson json with
  | (sent, .error (.mediaSoupError _)) => (sent, .ok loop)
  | (sent, .error fault) => (sent, .error fault)
  | (sent, .ok (id, request)) =>
      let handled := loop.onChannelRequest env request
      (sent ++ handled.1.map fun answer => ⟨id, answer⟩, handled.2)

end Loop

/-! ## Runs of the worker -/

/-- What happens to a worker: a message, the end of a transport by itself, or a packet. -/
inductive LoopEvent
  | message (env : Environment) (json : Value)
  | transportClosed (roomId peerId transportId : UInt32)
  | rtpPacket (roomId peerId transportId ssrc : UInt32) (payloadType : UInt8)

namespace Loop

/-- An event of one of the rooms. -/
def modifyRoom (loop : Loop) (roomId : UInt32) (f : Room → Room) : Loop :=
  { loop with rooms := loop.rooms.modify roomId f }

/-- What an event leaves. -/
def handle (loop : Loop) : LoopEvent → List Reply × Except Fault Loop
  | .message env json => loop.userOnUnixStreamRead env json
  | .transportClosed roomId peerId transportId =>
      ([], .ok (loop.modifyRoom roomId fun room => room.closeTransport peerId transportId))
  | .rtpPacket roomId peerId transportId ssrc payloadType =>
      ([], .ok (loop.modifyRoom roomId fun room =>
        room.modifyPeer peerId fun peer => peer.onRtpPacket transportId ssrc payloadType))

/-- One step of a run: the loop after an event. After a fault there is none. -/
def step (loop : Loop) (e : LoopEvent) : Option Loop := (loop.handle e).2.toOption

end Loop

end KoreWebsocket.Rtc
