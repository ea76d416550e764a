import KoreWebsocket.Channel.Completion
import KoreWebsocket.Rooms.Agreement
import KoreWebsocket.Worker.Loop

/-!
# Kore and its worker (`mediasoup/src/mediasoup.c`, `room.c`, `soup_server.c`)

The two sides of the mediasoup application and the queues between them. On the kore side
`make_room` sends `worker.createRoom` through the channel, and `we_can_work_it_out`, the callback of
every soup, makes a `room` when the reply accepts. A `room` is a listener on the channel's emitter
under its id as a string, and the worker's `close` notification ends it. On the worker side
`Loop.userOnUnixStreamRead` serves the requests in order.

`step_refines`: under the invariant `Inv` every event is a step of the abstract protocol of
`Agreement`, or none at all. `sent` and `timedOut` are ghosts.
-/

namespace KoreWebsocket.Rooms

open Machine
open Channel (Chan Soup Postman Timer Frame WorkerMsg Verdict WF)
open Worker (Loop Request)

/-- The values of `random_u32`, which is `rand32(10000000, 99999999)`. -/
def IsRandom (z : UInt32) : Prop := 10000000 ≤ z.toNat ∧ z.toNat ≤ 99999999

instance (z : UInt32) : Decidable (IsRandom z) := inferInstanceAs (Decidable (_ ∧ _))

instance (zs : List UInt32) : Decidable (∀ z ∈ zs, IsRandom z) := List.decidableBAll _ zs

/-- `snprintf(stri_uint, 9, "%" PRIu32, z)`: at most eight digits are kept. -/
def striUint (z : UInt32) : List Char := (Nat.toDigits 10 z.toNat).take 8

/-- Kore's channel and rooms, the two queues, the worker, and the history: the requests sent (id and
room) and the ids of the requests that timed out. -/
structure World where
  chan : Chan := { soups := fun _ => {} }
  rooms : List UInt32 := []
  toCpp : List Request := []
  toKore : List WorkerMsg := []
  loop : Loop := {}
  sent : List (UInt32 × UInt32) := []
  timedOut : List UInt32 := []

/-- `soup_continue`: free the texts. `soup_handle` and `soup_release` do nothing. -/
def soupContinue (v : Soup) : Soup := { v with error := none, result := none, name := none }

/-- `we_can_work_it_out`. -/
def weCanWorkItOut (w : World) (s : Nat) : World :=
  let v := w.chan.soups s
  match v.state with
  | .result =>
      let w := if v.name = some "worker.createRoom" then { w with rooms := w.rooms ++ [v.inId] }
        else w
      { w with chan := w.chan.setSoup s (soupContinue { v with state := .done }) }
  | .error => { w with chan := w.chan.setSoup s (soupContinue { v with state := .done }) }
  | _ => { w with chan := w.chan.setSoup s (soupContinue v) }

/-- Run the callback a call of the channel is suspended in, then the rest of the call. -/
def runCallback (w : World) : World :=
  match w.chan.stack with
  | [] => w
  | f :: rest =>
      let w := weCanWorkItOut w f.soup
      { w with chan := f.resume { w.chan with stack := rest } }

/-- `make_room` and `create_room` up to `channel_send`. -/
def nameRoom (st : Chan) (s : Nat) (roomId : UInt32) : Chan :=
  st.setSoup s { st.soups s with name := some "worker.createRoom", inId := roomId }

/-- `make_room` with the room id and the request ids that `random_u32` returns. -/
def makeRoom (w : World) (s : Nat) (roomId : UInt32) (draws : List UInt32) (fired : Bool) :
    Option World :=
  (Channel.channelSend (nameRoom w.chan s roomId) s draws fired).map fun st =>
    if fired then
      { w with chan := st, sent := ((st.soups s).id, roomId) :: w.sent
               toCpp := w.toCpp ++ [⟨(st.soups s).id, "worker.createRoom", some roomId⟩] }
    else runCallback { w with chan := st }

/-- `ee_emit` of a notification: `on_room_targetId` removes the listeners of the key and closes
the room. -/
def emit (w : World) (targetId : UInt32) : World :=
  { w with rooms := w.rooms.filter (striUint · != striUint targetId) }

/-- `on_from_cpp`: kore reads a message. -/
def onFromCpp (w : World) : WorkerMsg → World
  | .notification targetId _ => emit w targetId
  | m => runCallback { w with chan := Channel.invokeForDummy w.chan m }

/-- What can happen to the two sides. -/
inductive Ev
  /-- `make_room` on an idle soup. -/
  | makeRoom (s : Nat) (roomId : UInt32) (draws : List UInt32) (fired : Bool)
  /-- `websocket_message` fires a request of its own, under a literal id. -/
  | fire (r : Request)
  /-- The worker reads its next request. -/
  | work
  /-- Kore reads the worker's next message. -/
  | deliver
  /-- A request's timer expires. -/
  | timeout (t : Nat)
  deriving DecidableEq, Repr

/-- One event. The requests fired past the channel are not creations, and their literal ids are
outside the range of `random_u32`. -/
def step (w : World) : Ev → Option World
  | .makeRoom s roomId draws fired =>
      if (w.chan.soups s).id = 0 ∧ IsRandom roomId ∧ ∀ d ∈ draws, IsRandom d then
        makeRoom w s roomId draws fired
      else none
  | .fire r =>
      if r.method ≠ "worker.createRoom" ∧ ¬ IsRandom r.id then
        some { w with toCpp := w.toCpp ++ [r] }
      else none
  | .work =>
      match w.toCpp with
      | [] => none
      | r :: rest =>
          let (loop, out) := w.loop.userOnUnixStreamRead r
          some { w with toCpp := rest, loop := loop, toKore := w.toKore ++ out }
  | .deliver =>
      match w.toKore with
      | [] => none
      | m :: rest => some (onFromCpp { w with toKore := rest } m)
  | .timeout t =>
      (w.chan.timers.find? (·.handle == t)).map fun t =>
        runCallback { w with chan := Channel.onTimeout w.chan t
                             timedOut := (w.chan.soups t.arg).id :: w.timedOut }

/-- Nothing in flight and no request pending. -/
def World.Quiescent (w : World) : Prop := w.toCpp = [] ∧ w.toKore = [] ∧ w.chan.letters = []

/-! ## The abstract view -/

/-- What a request means to the protocol. -/
def absReq (r : Request) : Option (Agreement.Req UInt32 UInt32) :=
  match r.roomId with
  | none => none
  | some R =>
      if r.method = "worker.createRoom" then some (.create r.id R)
      else if r.method = "room.close" then some (.close R)
      else none

/-- What a message means to the protocol: replies to the literal ids mean nothing. -/
def absMsg : WorkerMsg → Option (Agreement.Rep UInt32 UInt32)
  | .reply z (some (.accepted _)) => if IsRandom z then some (.answer z true) else none
  | .reply z (some (.rejected _)) => if IsRandom z then some (.answer z false) else none
  | .reply _ none => none
  | .notification R _ => some (.closed R)
  | .other => none

/-- The pending requests and the rooms they ask for. -/
def World.pend (w : World) : Set (UInt32 × UInt32) :=
  {p | ∃ du ∈ w.chan.letters, du.id = p.1 ∧ (w.chan.soups du.soupi).inId = p.2}

/-- The abstract state. -/
def World.abs (w : World) : Agreement.State UInt32 UInt32 where
  pend := w.pend
  rooms := {R | R ∈ w.rooms}
  toWorker := w.toCpp.filterMap absReq
  toKore := w.toKore.filterMap absMsg
  worker := {R | R ∈ w.loop.rooms}
  sent := {p | p ∈ w.sent}
  givenUp := {z | z ∈ w.timedOut}

/-! ## The invariant of the concrete side -/

/-- A request in flight: a creation by `make_room`, or one under a literal id. -/
def ReqOK (r : Request) : Prop :=
  if r.method = "worker.createRoom" then IsRandom r.id ∧ ∃ R, r.roomId = some R ∧ IsRandom R
  else ¬ IsRandom r.id

/-- A message in flight: a reply has a verdict, a notification names a room `make_room` drew. -/
def MsgOK : WorkerMsg → Prop
  | .reply _ v => v.isSome
  | .notification R _ => IsRandom R
  | .other => True

/-- No call is suspended between events, the pending soups are waiting for a room, and all room ids
and request ids come from `random_u32`. -/
structure Inv (w : World) : Prop where
  wf : WF w.chan
  idle : w.chan.stack = []
  soups : ∀ du ∈ w.chan.letters, (w.chan.soups du.soupi).name = some "worker.createRoom" ∧
    IsRandom (w.chan.soups du.soupi).inId
  ids : ∀ du ∈ w.chan.letters, IsRandom du.id
  rooms : ∀ R ∈ w.rooms, IsRandom R
  worker : ∀ R ∈ w.loop.rooms, IsRandom R
  toCpp : ∀ r ∈ w.toCpp, ReqOK r
  toKore : ∀ m ∈ w.toKore, MsgOK m

/-- The initial world. -/
theorem inv_init : Inv {} where
  wf := Channel.IsInit.wf ⟨fun _ => rfl, rfl, rfl, rfl, rfl, rfl⟩
  idle := rfl
  soups _ h := by cases h
  ids _ h := by cases h
  rooms _ h := by cases h
  worker _ h := by cases h
  toCpp _ h := by cases h
  toKore _ h := by cases h

theorem abs_init : World.abs {} = .empty := by
  ext <;> simp [World.abs, World.pend, Agreement.State.empty]

/-- The key of a room id with at most eight digits is the whole number. -/
theorem striUint_inj_of_lt {a b : UInt32} (ha : a.toNat < 10 ^ 8) (hb : b.toNat < 10 ^ 8)
    (h : striUint a = striUint b) : a = b := by
  have hlen : ∀ {z : UInt32}, z.toNat < 10 ^ 8 → (Nat.toDigits 10 z.toNat).length ≤ 8 := fun hz =>
    (Nat.length_toDigits_le_iff (by decide) (by decide)).2 hz
  rw [striUint, striUint, List.take_of_length_le (hlen ha), List.take_of_length_le (hlen hb)] at h
  apply UInt32.toNat_inj.1
  rw [← Nat.ofDigitChars_ten_toDigits (n := a.toNat), h, Nat.ofDigitChars_ten_toDigits]

/-- The key of a room id that `random_u32` drew is the whole number. -/
theorem striUint_inj {a b : UInt32} (ha : IsRandom a) (hb : IsRandom b)
    (h : striUint a = striUint b) : a = b :=
  striUint_inj_of_lt (Nat.lt_of_le_of_lt ha.2 (by decide)) (Nat.lt_of_le_of_lt hb.2 (by decide)) h

/-! ## Running a callback -/

/-- `we_can_work_it_out` writes its own soup, id excepted, and makes a room on an accepted reply. -/
theorem weCanWorkItOut_spec (w : World) (s : Nat) :
    ∃ v : Soup, v.id = (w.chan.soups s).id ∧
      weCanWorkItOut w s =
        { w with chan := w.chan.setSoup s v
                 rooms := if (w.chan.soups s).state = .result ∧
                              (w.chan.soups s).name = some "worker.createRoom"
                            then w.rooms ++ [(w.chan.soups s).inId] else w.rooms } := by
  unfold weCanWorkItOut
  cases hst : (w.chan.soups s).state with
  | result =>
      refine ⟨soupContinue { w.chan.soups s with state := .done }, rfl, ?_⟩
      by_cases hn : (w.chan.soups s).name = some "worker.createRoom" <;> simp [hst, hn]
  | error => exact ⟨soupContinue { w.chan.soups s with state := .done }, rfl, by simp [hst]⟩
  | init | wait | done | complete => exact ⟨soupContinue (w.chan.soups s), rfl, by simp [hst]⟩

/-- A callback run to its end, from a suspended call: the call's request is off the list, its soup
alone is written, and an accepted reply has made a room. -/
theorem runCallback_spec {w : World} {f : Frame} (hw : WF w.chan) (hs : w.chan.stack = [f]) :
    ∃ st : Chan, WF st ∧ st.stack = [] ∧
      st.letters = w.chan.letters.filter (·.timer != f.req) ∧
      (∀ x ≠ f.soup, st.soups x = w.chan.soups x) ∧
      runCallback w =
        { w with chan := st
                 rooms := if (w.chan.soups f.soup).state = .result ∧
                              (w.chan.soups f.soup).name = some "worker.createRoom"
                            then w.rooms ++ [(w.chan.soups f.soup).inId] else w.rooms } := by
  obtain ⟨v, hv, hspec⟩ := weCanWorkItOut_spec w f.soup
  have hw' : WF (w.chan.setSoup f.soup v) :=
    hw.of_ids rfl rfl rfl rfl rfl (w.chan.setSoup_id_of_eq hv)
  refine ⟨f.resume { w.chan.setSoup f.soup v with stack := [] }, (hw'.resume hs).1,
    Frame.resume_stack _ _, hw'.resume_letters hs, fun x hx => ?_, ?_⟩
  · exact (Frame.resume_soups _ f hx).trans (Function.update_of_ne hx _ _)
  · simp only [runCallback, hs, hspec]

/-- Completing a pending request takes it, and it alone, out of the pending ones. -/
theorem pend_complete {w w' : World} (hw : WF w.chan) {p : Postman} (hp : p ∈ w.chan.letters)
    (hl : w'.chan.letters = w.chan.letters.filter (·.timer != p.timer))
    (hso : ∀ x ≠ p.soupi, w'.chan.soups x = w.chan.soups x) : w'.pend = w.abs.forget p.id := by
  ext ⟨z, R⟩
  constructor
  · rintro ⟨du, hdu, rfl, rfl⟩
    rw [hl, List.mem_filter, bne_iff_ne] at hdu
    have hne : du ≠ p := fun he => hdu.2 (by rw [he])
    refine ⟨⟨du, hdu.1, rfl, ?_⟩, fun he => hne (List.inj_on_of_nodup_map hw.ids hdu.1 hp he)⟩
    rw [hso _ fun he => hne (hw.letter_soup_inj hdu.1 hp he)]
  · rintro ⟨⟨du, hdu, rfl, rfl⟩, hne⟩
    have hdp : du ≠ p := fun he => hne (by rw [he])
    refine ⟨du, ?_, rfl, ?_⟩
    · rw [hl, List.mem_filter, bne_iff_ne]
      exact ⟨hdu, fun he => hdp (hw.letter_inj hdu hp he)⟩
    · rw [hso _ fun he => hdp (hw.letter_soup_inj hdu hp he)]

section
variable {w : World} (h : Inv w)
include h

/-- A pending request is completed: its call has been suspended in `st`, with nothing else changed
but the state of its soup. -/
theorem Inv.complete {p : Postman} (hp : p ∈ w.chan.letters) {st : Chan} {f : Frame}
    (timedOut : List UInt32) (hst : WF st) (hs : st.stack = [f]) (hr : f.req = p.timer)
    (hf : f.soup = p.soupi) (hl : st.letters = w.chan.letters)
    (hso : ∀ x ≠ p.soupi, st.soups x = w.chan.soups x)
    (hn : (st.soups p.soupi).name = (w.chan.soups p.soupi).name)
    (hi : (st.soups p.soupi).inId = (w.chan.soups p.soupi).inId) :
    let w' := runCallback { w with chan := st, timedOut := timedOut }
    Inv w' ∧ w'.pend = w.abs.forget p.id ∧ w'.toCpp = w.toCpp ∧ w'.toKore = w.toKore ∧
      w'.loop = w.loop ∧ w'.sent = w.sent ∧ w'.timedOut = timedOut ∧
      w'.rooms = if (st.soups p.soupi).state = .result
        then w.rooms ++ [(w.chan.soups p.soupi).inId] else w.rooms := by
  obtain ⟨st', h1, h2, h3, h4, h5⟩ :=
    runCallback_spec (w := { w with chan := st, timedOut := timedOut }) hst hs
  rw [hf] at h4 h5
  rw [hr, hl] at h3
  have hname : (st.soups p.soupi).name = some "worker.createRoom" := by
    rw [hn]; exact (h.soups p hp).1
  simp only [hname, and_true, hi] at h5
  have hso' : ∀ x ≠ p.soupi, st'.soups x = w.chan.soups x := fun x hx =>
    (h4 x hx).trans (hso x hx)
  have hmem : ∀ du ∈ st'.letters, du ∈ w.chan.letters ∧ du.soupi ≠ p.soupi := fun du hdu => by
    rw [h3, List.mem_filter, bne_iff_ne] at hdu
    exact ⟨hdu.1, fun he => hdu.2 (congrArg _ (h.wf.letter_soup_inj hdu.1 hp he))⟩
  dsimp only
  rw [h5]
  refine ⟨⟨h1, h2, ?_, ?_, ?_, h.worker, h.toCpp, h.toKore⟩, pend_complete h.wf hp h3 hso', rfl,
    rfl, rfl, rfl, rfl, rfl⟩
  · intro du hdu
    obtain ⟨hdu, hne⟩ := hmem du hdu
    show (st'.soups _).name = _ ∧ IsRandom (st'.soups _).inId
    rw [hso' _ hne]; exact h.soups du hdu
  · exact fun du hdu => h.ids du (hmem du hdu).1
  · intro R hR
    dsimp only at hR
    split at hR
    · rcases List.mem_append.1 hR with hR | hR
      · exact h.rooms R hR
      · rw [List.mem_singleton.1 hR]; exact (h.soups p hp).2
    · exact h.rooms R hR

end

end KoreWebsocket.Rooms
