import Mathlib
import KoreWebsocket.Lib.Machine

/-!
# The kore side of the mediasoup channel (`mediasoup/src/channel.c`)

`channel_send` draws a request id, puts a `postman` on the list `letters`, arms a one-shot timer
and fires the request at the worker; the request is completed by `invoke_for_dummy` on a reply, by
`on_timeout`, or by `channel_send` itself when the fire fails. Each of the three runs the soup's
callback in the middle of its cleanup, and the callback may call `channel_send` again. So the code
is cut at its callback: `channelSend`, `onTimeout` and `invokeForDummy` run up to the call and
leave a `Frame` on the stack, and `Frame.resume` is the code after it. While a callback runs, only
it can act; timers and worker messages come from the event loop, at an empty stack.

The timer's handle numbers the requests: `channel_send` arms exactly one timer. The field `calls`
is ghost state, the callback invocations so far.
-/

namespace KoreWebsocket.Channel

/-- The `SOUP_STATE_*` constants. -/
inductive SoupState
  | init | wait | result | error | done | complete
  deriving DecidableEq, Repr

/-- `struct soup` without its `conn`, `arg` and `cb` pointers: every soup here is bound to a
callback, as `soup_bind_callback` does before `make_room`. -/
structure Soup where
  state : SoupState := .init
  id : UInt32 := 0
  inId : UInt32 := 0
  error : Option String := none
  name : Option String := none
  result : Option String := none
  deriving DecidableEq, Repr

/-- `struct postman`: a pending request, its soup and the timer that bounds it. -/
structure Postman where
  id : UInt32
  soupi : Nat
  timer : Nat
  deriving DecidableEq, Repr

/-- An armed kore timer: its handle and the soup passed to `on_timeout`. -/
structure Timer where
  handle : Nat
  arg : Nat
  deriving DecidableEq, Repr

/-- How a request was answered. -/
inductive Outcome
  | accepted | rejected | timedOut | sendFailed
  deriving DecidableEq, Repr

/-- The `accepted` or `rejected` member of a reply, with the dumped `data` of the former and the
`reason` of the latter. -/
inductive Verdict
  | accepted (data : String)
  | rejected (reason : String)
  deriving DecidableEq, Repr

/-- What the worker sends: a reply bears an `id` and, if it is well formed, a verdict; a
notification bears a `targetId` and an `event`. -/
inductive WorkerMsg
  | reply (id : UInt32) (verdict : Option Verdict)
  | notification (targetId : UInt32) (event : String)
  | other
  deriving DecidableEq, Repr

/-- A C call suspended in a soup's callback, with the request it completes. -/
inductive Frame
  /-- `on_timeout`, after `s->cb(s, s->arg)`. -/
  | timeout (s req : Nat)
  /-- `invoke_for_dummy`, after `du->soupi->cb(du->soupi, du->soupi->arg)`. -/
  | invoke (du : Postman)
  /-- the failure branch of `channel_send`, after `soupi->cb(soupi, soupi->arg)`. -/
  | sendFailed (s req : Nat)
  deriving DecidableEq, Repr

/-- The soup whose callback the frame is suspended in. -/
def Frame.soup : Frame → Nat
  | .timeout s _ => s
  | .invoke du => du.soupi
  | .sendFailed s _ => s

/-- The request the frame completes. -/
def Frame.req : Frame → Nat
  | .timeout _ r => r
  | .invoke du => du.timer
  | .sendFailed _ r => r

/-- The state of the channel: the soups, the list `letters`, the armed timers, the number of
requests made, the suspended calls and the callback invocations (newest first). -/
structure Chan where
  soups : Nat → Soup
  letters : List Postman := []
  timers : List Timer := []
  issued : Nat := 0
  stack : List Frame := []
  calls : List (Nat × Outcome) := []

namespace Chan

/-- Write a soup's fields. -/
def setSoup (st : Chan) (s : Nat) (v : Soup) : Chan :=
  { st with soups := Function.update st.soups s v }

/-- `soup_set_error`. -/
def setError (st : Chan) (s : Nat) (msg : String) : Chan :=
  st.setSoup s { st.soups s with error := some msg, state := .error }

/-- `s->id = 0`. -/
def clearId (st : Chan) (s : Nat) : Chan := st.setSoup s { st.soups s with id := 0 }

/-- `LIST_REMOVE` and `free` of the postman with this timer. -/
def removeLetter (st : Chan) (t : Nat) : Chan :=
  { st with letters := st.letters.filter (·.timer != t) }

/-- `kore_timer_remove`. -/
def removeTimer (st : Chan) (t : Nat) : Chan :=
  { st with timers := st.timers.filter (·.handle != t) }

/-- Call the soup's callback: suspend the caller and record the invocation. -/
def call (st : Chan) (f : Frame) (o : Outcome) : Chan :=
  { st with stack := f :: st.stack, calls := (f.req, o) :: st.calls }

end Chan

/-- `id_lookup`. -/
def idLookup (letters : List Postman) (z : UInt32) : Int :=
  if letters.any (·.id == z) then -1 else 0

/-- The drawing loop of `channel_send` over the values `random_u32` returns: a value in use is
thrown away, and so is zero. `none` when the draws end inside the loop. -/
def pickId (letters : List Postman) : List UInt32 → Option UInt32
  | [] => none
  | d :: ds =>
      let reqId := if idLookup letters d ≠ 0 then 0 else d
      if reqId = 0 then pickId letters ds else some reqId

/-- `channel_send` up to the callback of its failure branch; `fired` is the outcome of
`uv_callback_fire`. Memory allocation is taken to succeed. -/
def channelSend (st : Chan) (s : Nat) (draws : List UInt32) (fired : Bool) : Option Chan :=
  (pickId st.letters draws).map fun reqId =>
    let t := st.issued
    let st := st.setSoup s { st.soups s with id := reqId, state := .wait }
    let st := { st with timers := ⟨t, s⟩ :: st.timers, issued := t + 1,
                        letters := ⟨reqId, s, t⟩ :: st.letters }
    if fired then st
    else (((st.removeLetter t).removeTimer t).setError s "data to send failed.").call
      (.sendFailed s t) .sendFailed

/-- `on_timeout` up to the callback. The kore timer is one-shot and already off the timer list
when its function runs. -/
def onTimeout (st : Chan) (t : Timer) : Chan :=
  ((st.removeTimer t.handle).setError t.arg "***TIMEOUT!***").call (.timeout t.arg t.handle) .timedOut

/-- The code after the callback. `on_timeout` looks its postman up by the soup's id and returns
early when there is none; `invoke_for_dummy` holds the postman in `du`. -/
def Frame.resume (st : Chan) : Frame → Chan
  | .timeout s _ =>
      match st.letters.find? (·.id == (st.soups s).id) with
      | none => st
      | some du => (st.removeLetter du.timer).clearId s
  | .invoke du => ((st.removeTimer du.timer).clearId du.soupi).removeLetter du.timer
  | .sendFailed s _ => st.clearId s

/-- The body of the loop of `invoke_for_dummy` at the postman found: set the result or the error
and call the callback. A reply with neither member falls through to the cleanup. -/
def answer (st : Chan) (du : Postman) : Option Verdict → Chan
  | some (.accepted data) =>
      (st.setSoup du.soupi { st.soups du.soupi with result := some data, state := .result }).call
        (.invoke du) .accepted
  | some (.rejected _) => (st.setError du.soupi "some_error").call (.invoke du) .rejected
  | none => Frame.resume st (.invoke du)

/-- `invoke_for_dummy` up to the callback. A notification is emitted to the room's listener, which
touches neither the letters nor the soups. -/
def invokeForDummy (st : Chan) : WorkerMsg → Chan
  | .reply id verdict =>
      match st.letters.find? (·.id == id) with
      | none => st
      | some du => answer st du verdict
  | .notification _ _ => st
  | .other => st

/-- What can happen to the channel. -/
inductive Ev
  /-- `channel_send` on a soup; from the event loop or from a running callback. -/
  | send (s : Nat) (draws : List UInt32) (fired : Bool)
  /-- A worker message given to `invoke_for_dummy`. -/
  | message (m : WorkerMsg)
  /-- The one-shot timer with this handle expires. -/
  | timeout (t : Nat)
  /-- The application writes a soup's fields, its `id` excepted. -/
  | touch (s : Nat) (v : Soup)
  /-- The running callback returns. -/
  | ret
  deriving DecidableEq, Repr

/-- The reply, if the event is one, carries `accepted` or `rejected`. -/
def Ev.CarriesVerdict : Ev → Prop
  | .message (.reply _ v) => v.isSome
  | _ => True

/-- One event. `channel_send` is called on idle soups only, as its callers do. -/
def step (st : Chan) : Ev → Option Chan
  | .send s draws fired =>
      if (st.soups s).id = 0 then channelSend st s draws fired else none
  | .message m => if st.stack = [] then some (invokeForDummy st m) else none
  | .timeout t =>
      if st.stack = [] then (st.timers.find? (·.handle == t)).map (onTimeout st) else none
  | .touch s v => some (st.setSoup s { v with id := (st.soups s).id })
  | .ret =>
      match st.stack with
      | [] => none
      | f :: rest => some (f.resume { st with stack := rest })

end KoreWebsocket.Channel
