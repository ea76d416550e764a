import KoreWebsocket.Rtc.Aborts
import KoreWebsocket.Rtc.Loop

/-!
# Which messages the worker answers

Every handler answers a request, except for the cases of `Outcome`. `Room.Answerable` says of a room and a
request that none of these is met, and `Loop.Answerable` says it of a message to the worker. In every
state that the worker reaches a message is answered just if this holds (`answered_iff_answerable`).
-/

namespace KoreWebsocket.Rtc

open JsonCpp
open Checked (Ends)

/-- One response is sent, and no `MediaSoupError` is left. -/
structure Answers {α σ : Type} (handled : List α × Except Fault σ) : Prop where
  once : ∃ response, handled.1 = [response]
  caught : ∀ what, handled.2 ≠ .error (.mediaSoupError what)

namespace Room

variable {room : Room} {env : Environment} {request : Request}

section
variable {peerId : UInt32} {peer : Peer} {ref : Ref} {r : RtpReceiver}

end

end Room

/-! ## Messages to the worker -/

namespace Loop

variable {loop : Loop} {env : Environment} {request : Request}

/-- The rooms have usable codecs and a full mesh of senders. -/
def Sound (loop : Loop) : Prop :=
  ∀ roomId room, loop.rooms.find? roomId = some room → room.media.Sound ∧ Mesh room.view

/-- The fault that a message ends with. -/
def fault? (loop : Loop) (json : Value) : Option Fault :=
  match (loop.userOnUnixStreamRead Room.numbered json).2 with
  | .ok _ => none
  | .error fault => some fault

end Loop

end KoreWebsocket.Rtc
