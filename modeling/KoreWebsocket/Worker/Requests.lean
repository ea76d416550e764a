import KoreWebsocket.Lib.Json
import KoreWebsocket.Worker.Loop

/-!
# Requests and their replies (`mediasoup/soup`)

The reader of the channel and the constructor of `Request`, from the parsed message on. A message
without an unsigned integer `id` or a string `method` is discarded. `answered_iff` says which of the
others get their one reply: `worker.updateSettings` gets none, since its handler is commented out.
-/

namespace KoreWebsocket.Worker

open Channel (WorkerMsg Verdict)
open Json

/-- `request->internal`: an empty object if the member is not one. -/
def internal (json : Value) : Value :=
  if (json.member "internal").isObject then json.member "internal" else .object []

/-- `Request::Request` up to the table of methods: the fields, if it does not throw. -/
def Request.ofJson (json : Value) : Option Request :=
  if (json.member "id").isUInt then
    if (json.member "method").isString then
      let roomId := (internal json).member "roomId"
      some { id := (json.member "id").asUInt, method := (json.member "method").asString
             roomId := if roomId.isUInt then some roomId.asUInt else none }
    else none
  else none

/-- `UnixStreamSocket::UserOnUnixStreamRead` on a parsed message. -/
def Loop.onMessage (loop : Loop) (json : Value) : Loop × List WorkerMsg :=
  match Request.ofJson json with
  | none => (loop, [])
  | some request => loop.userOnUnixStreamRead request

/-- The replies among what is sent. -/
def replies : List WorkerMsg → List (UInt32 × Option Verdict)
  | [] => []
  | .reply id verdict :: sent => (id, verdict) :: replies sent
  | _ :: sent => replies sent

/-- Exactly one reply is sent; it bears this id, and it accepts or rejects. -/
def Answered (id : ℚ) (sent : List WorkerMsg) : Prop :=
  ∃ (n : UInt32) (verdict : Verdict), replies sent = [(n, some verdict)] ∧ ((n.toNat : ℕ) : ℚ) = id

/-! ## Every handler but one replies once -/

section
variable (loop : Loop) (request : Request)

/-- A room replies once to what it handles. -/
theorem Loop.replies_handleRequest (roomId : UInt32) (m : MethodId) :
    ∃ v, replies (loop.handleRequest roomId request m).2 = [(request.id, some v)] := by
  cases m <;> exact ⟨_, rfl⟩

/-- The methods that are passed to a room get one reply, also if there is no such room. -/
theorem Loop.replies_room (m : MethodId) :
    ∃ v, replies (match request.roomId with
      | none => (loop, [request.reject "Request has not numeric internal.roomId"])
      | some roomId =>
          if roomId ∈ loop.rooms then loop.handleRequest roomId request m
          else (loop, [request.reject "Room does not exist"])).2 = [(request.id, some v)] := by
  cases request.roomId with
  | none => exact ⟨_, rfl⟩
  | some roomId =>
      dsimp only
      split
      · exact loop.replies_handleRequest request roomId m
      · exact ⟨_, rfl⟩

/-- `onChannelRequest` replies once, unless the settings are to be updated. -/
theorem Loop.replies_onChannelRequest {m : MethodId} (hm : m ≠ .workerUpdateSettings) :
    ∃ v, replies (loop.onChannelRequest request m).2 = [(request.id, some v)] := by
  cases m
  case workerDump => exact ⟨_, rfl⟩
  case workerUpdateSettings => exact absurd rfl hm
  case workerCreateRoom =>
    rw [onChannelRequest]
    cases request.roomId with
    | none => exact ⟨_, rfl⟩
    | some roomId =>
        dsimp only
        split <;> exact ⟨_, rfl⟩
  all_goals exact loop.replies_room request _

end

/-- The table has one name for the update of the settings. -/
theorem lookup_updateSettings {x : String} :
    string2MethodId.lookup x = some .workerUpdateSettings ↔ x = "worker.updateSettings" := by
  have hall : ∀ p ∈ string2MethodId, p.2 = .workerUpdateSettings → p.1 = "worker.updateSettings" := by
    decide
  constructor
  · intro h
    exact hall _ (lookup_mem h) rfl
  · rintro rfl
    rfl

theorem Loop.replies_updateSettings (loop : Loop) (request : Request)
    (h : request.method = "worker.updateSettings") :
    replies (loop.userOnUnixStreamRead request).2 = [] := by
  unfold Loop.userOnUnixStreamRead
  rw [lookup_updateSettings.2 h]
  rfl

/-- Every other request is replied to once. -/
theorem Loop.replies_userOnUnixStreamRead (loop : Loop) (request : Request)
    (h : request.method ≠ "worker.updateSettings") :
    ∃ v, replies (loop.userOnUnixStreamRead request).2 = [(request.id, some v)] := by
  unfold Loop.userOnUnixStreamRead
  cases hm : string2MethodId.lookup request.method with
  | none => exact ⟨_, rfl⟩
  | some m =>
      refine loop.replies_onChannelRequest request ?_
      rintro rfl
      exact h (lookup_updateSettings.1 hm)

/-- What the constructor makes of a message with a string method. -/
theorem Request.ofJson_eq {json : Value} {id : ℚ} {method : String}
    (hid : json.member "id" = .number id) (hmethod : json.member "method" = .string method) :
    ((Value.number id).isUInt = false ∧ ofJson json = none) ∨
      ((Value.number id).isUInt = true ∧ ∃ request, ofJson json = some request ∧
        request.id = (Value.number id).asUInt ∧ request.method = method) := by
  unfold ofJson
  rw [hid, hmethod]
  cases huint : (Value.number id).isUInt with
  | false => exact .inl ⟨rfl, rfl⟩
  | true => exact .inr ⟨rfl, _, rfl, rfl, rfl⟩

/-- **Replies.** In every state of the rooms, a message with a numeric `id` and a string `method`, with
any other members, gets exactly one reply that bears the id exactly if the id is an unsigned 32-bit
integer and the method is not the update of the settings. -/
theorem answered_iff (loop : Loop) (json : Value) (id : ℚ) (method : String)
    (hid : json.member "id" = .number id) (hmethod : json.member "method" = .string method) :
    Answered id (loop.onMessage json).2 ↔
      (Value.number id).isUInt = true ∧ method ≠ "worker.updateSettings" := by
  unfold Loop.onMessage
  rcases Request.ofJson_eq hid hmethod with ⟨huint, hnone⟩ | ⟨huint, request, hsome, hid', hmethod'⟩
  · -- the message is discarded
    rw [hnone, huint]
    constructor
    · rintro ⟨n, v, hreplies, -⟩
      cases hreplies
    · rintro ⟨h, -⟩
      cases h
  · rw [hsome]
    constructor
    · rintro ⟨n, v, hreplies, -⟩
      refine ⟨huint, fun hupdate => ?_⟩
      have hnil := loop.replies_updateSettings request (hmethod'.trans hupdate)
      exact absurd (hnil.symm.trans hreplies) (by simp)
    · rintro ⟨-, hne⟩
      obtain ⟨v, hone⟩ := loop.replies_userOnUnixStreamRead request (by rw [hmethod']; exact hne)
      exact ⟨_, v, hone, by rw [hid']; exact Value.asUInt_number huint⟩

/-- A request with an id, a method and nothing else. -/
def bareRequest (method : String) : Value := .object [("id", .number 1), ("method", .string method)]

theorem answered_iff_dump :
    (bareRequest "worker.dump").member "id" = .number 1 ∧
      (bareRequest "worker.dump").member "method" = .string "worker.dump" ∧
      Answered 1 ((⟨[7]⟩ : Loop).onMessage (bareRequest "worker.dump")).2 :=
  ⟨rfl, rfl, (answered_iff ⟨[7]⟩ (bareRequest "worker.dump") 1 "worker.dump" rfl rfl).2
    ⟨by decide, by decide⟩⟩

/-- The update of the settings gets no reply. -/
theorem updateSettings_unanswered :
    (bareRequest "worker.updateSettings").member "id" = .number 1 ∧
      (bareRequest "worker.updateSettings").member "method" = .string "worker.updateSettings" ∧
      ¬ Answered 1 ((⟨[]⟩ : Loop).onMessage (bareRequest "worker.updateSettings")).2 := by
  refine ⟨rfl, rfl, ?_⟩
  rintro ⟨n, v, hreplies, -⟩
  cases hreplies

end KoreWebsocket.Worker
