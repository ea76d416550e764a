import Mathlib
import KoreWebsocket.Lib.Machine

/-!
# Calls between threads (`uv_callback.c`)

Any thread fires a callback, and the thread of the callback's loop runs its function. Under the mutex a
call is put before the others, and the loop takes the last. The callbacks of a loop that use a queue share
one, that of their master; a coalescing callback has only the last argument. A fire is two steps, since
other threads run between the unlock and `uv_async_send`; so is the run of a function, which may take any
time and fire other callbacks.

Of libuv the model has that a send to an async handle is noticed by its loop, several of them perhaps
once, and that a started idle handle is called again and again. The history is `fired`, the calls in the
order in which they were put into a queue, and `ran`, those whose function was called.
-/

namespace KoreWebsocket.Uv

/-- `uv_call_t`. -/
structure UvCall (δ : Type) where
  callback : Nat
  data : δ
  notify : Option Nat
  deriving DecidableEq

/-- `uv_callback_t`, with what libuv knows of its two handles: whether a send is not yet noticed, and
whether the idle handle is started. -/
structure UvCallback (δ : Type) where
  usequeue : Bool
  loop : Nat
  master : Option Nat := none
  queue : List (UvCall δ) := []
  arg : δ
  idleActive : Bool := false
  pending : Bool := false
  idle : Bool := false

/-- All callbacks, the async handles in the order of their initialization, the threads that are about to
send, and the calls whose function has not returned, each with the handle that took it. -/
structure State (δ : Type) where
  callbacks : Nat → Option (UvCallback δ) := fun _ => none
  handles : List Nat := []
  sends : List Nat := []
  running : List (Nat × UvCall δ) := []
  fired : Nat → List (UvCall δ) := fun _ => []
  ran : Nat → List (UvCall δ) := fun _ => []

/-- The steps of the threads. -/
inductive Event (δ : Type)
  /-- `uv_callback_init` -/
  | init (callback loop : Nat) (usequeue : Bool)
  /-- `uv_callback_fire`, until the mutex is unlocked -/
  | fire (callback : Nat) (data : δ) (notify : Option Nat)
  /-- `uv_async_send` -/
  | send (callback : Nat)
  /-- the loop notices a send -/
  | async (callback : Nat)
  /-- the loop calls its idle handle -/
  | idle (callback : Nat)
  /-- the function of a call returns -/
  | finish (callback : Nat) (result : δ)

/-- The events of the loops and of the threads that have fired: all but new callbacks and new calls. -/
def Event.Internal {δ : Type} : Event δ → Prop
  | .init .. | .fire .. => False
  | .send _ | .async _ | .idle _ | .finish .. => True

variable {δ : Type}

/-- `dequeue_call`: the list is walked to its last call, which is unlinked. -/
def dequeueCall : List (UvCall δ) → Option (UvCall δ) × List (UvCall δ)
  | [] => (none, [])
  | [call] => (some call, [])
  | prev :: current :: rest =>
      let (call, queue) := dequeueCall (current :: rest)
      (call, prev :: queue)

/-- The idle handle is started unless it is active. -/
def UvCallback.startIdle (callback : UvCallback δ) : UvCallback δ :=
  if callback.idleActive then callback else { callback with idle := true, idleActive := true }

namespace State

variable (s : State δ)

def setCallback (c : Nat) (callback : UvCallback δ) : State δ :=
  { s with callbacks := Function.update s.callbacks c (some callback) }

/-- `master_on_walk`: a handle with a queue takes the place of what was found before. -/
def masterOnWalk (loop : Nat) (master : Option Nat) (c : Nat) : Option Nat :=
  match s.callbacks c with
  | some callback => if callback.loop = loop ∧ callback.usequeue then some c else master
  | none => master

/-- `get_master_callback`. -/
def getMasterCallback (loop : Nat) : Option Nat := s.handles.foldl (s.masterOnWalk loop) none

/-- `uv_callback_init`: a callback with a master has no handle of its own. -/
def uvCallbackInit [Inhabited δ] (c loop : Nat) (usequeue : Bool) : State δ :=
  let callback : UvCallback δ := { usequeue, loop, arg := default }
  match if usequeue then s.getMasterCallback loop else none with
  | some master => s.setCallback c { callback with master := some master }
  | none => { s.setCallback c callback with handles := s.handles ++ [c] }

/-- The part of `uv_callback_fire` under the mutex: the call is put before the others. -/
def enqueueCall (owner : Nat) (master : UvCallback δ) (call : UvCall δ) : State δ :=
  { s.setCallback owner { master with queue := call :: master.queue } with
    fired := Function.update s.fired owner (s.fired owner ++ [call])
    sends := owner :: s.sends }

/-- `uv_callback_fire` of a coalescing callback. -/
def setArg (c : Nat) (callback : UvCallback δ) (call : UvCall δ) : State δ :=
  { s.setCallback c { callback with arg := call.data } with
    fired := Function.update s.fired c (s.fired c ++ [call])
    sends := c :: s.sends }

/-- `uv_callback_fire`, until `uv_async_send`. -/
def uvCallbackFire (c : Nat) (data : δ) (notify : Option Nat) : Option (State δ) := do
  let callback ← s.callbacks c
  if notify ≠ none ∧ callback.usequeue = false then return s
  let call := { callback := c, data, notify }
  if callback.usequeue then
    let owner := callback.master.getD c
    let master ← s.callbacks owner
    return s.enqueueCall owner master call
  else return s.setArg c callback call

/-- The loop is in a function of a call. -/
def Busy (loop : Nat) : Prop := ∃ r ∈ s.running, (s.callbacks r.1).map (·.loop) = some loop

instance (loop : Nat) : Decidable (s.Busy loop) :=
  inferInstanceAs (Decidable (∃ r ∈ s.running, (s.callbacks r.1).map (·.loop) = some loop))

/-- A call is taken, and its function called. -/
def runCall (c : Nat) (callback : UvCallback δ) (call : UvCall δ) (queue : List (UvCall δ)) : State δ :=
  { s.setCallback c { callback with queue } with
    running := (c, call) :: s.running
    ran := Function.update s.ran c (s.ran c ++ [call]) }

/-- The function of a coalescing callback is called. -/
def runArg (c : Nat) (callback : UvCallback δ) : State δ :=
  { s.setCallback c callback with
    ran := Function.update s.ran c
      (s.ran c ++ [{ callback := c, data := callback.arg, notify := none }]) }

/-- `uv_callback_async_cb`, until the function of the call. -/
def uvCallbackAsyncCb (c : Nat) (callback : UvCallback δ) : State δ :=
  if callback.usequeue then
    match dequeueCall callback.queue with
    | (some call, queue) => s.runCall c callback call queue
    | (none, queue) => s.setCallback c { callback with queue, idle := false, idleActive := false }
  else s.runArg c callback

/-- The end of `uv_callback_async_cb`: the next call is left to the idle handle. -/
def startIdle (c : Nat) (callback : UvCallback δ) : State δ :=
  { s.setCallback c callback.startIdle with running := s.running.filter fun r => r.1 ≠ c }

/-- The callback that is to be notified is fired with the result. -/
def fireNotify (call : UvCall δ) (result : δ) : Option (State δ) :=
  match call.notify with
  | some notify => s.uvCallbackFire notify result none
  | none => some s

/-- `uv_callback_async_cb`, from where the function of the call has returned. -/
def uvCallbackReturn (c : Nat) (result : δ) : Option (State δ) := do
  let call ← s.running.lookup c
  let s ← s.fireNotify call result
  let callback ← s.callbacks c
  return s.startIdle c callback

end State

/-- A callback is initialized once, and before it is fired or notified. -/
def step [Inhabited δ] (s : State δ) : Event δ → Option (State δ)
  | .init c loop usequeue =>
      if (s.callbacks c).isSome then none else some (s.uvCallbackInit c loop usequeue)
  | .fire c data notify =>
      if ∀ n ∈ notify, (s.callbacks n).isSome then s.uvCallbackFire c data notify else none
  | .send c =>
      if c ∈ s.sends then
        (s.callbacks c).map fun callback =>
          { s.setCallback c { callback with pending := true } with sends := s.sends.erase c }
      else none
  | .async c => do
      let callback ← s.callbacks c
      if callback.pending ∧ ¬ s.Busy callback.loop then
        some (s.uvCallbackAsyncCb c { callback with pending := false })
      else none
  | .idle c => do
      let callback ← s.callbacks c
      if callback.idle ∧ ¬ s.Busy callback.loop then some (s.uvCallbackAsyncCb c callback) else none
  | .finish c result => s.uvCallbackReturn c result

end KoreWebsocket.Uv
