import KoreWebsocket.Emitter.Reentrancy
import KoreWebsocket.Rooms.World

/-!
# Notifications to rooms (`mediasoup/src/room.c`, `channel.c`)

A room listens on the channel's emitter under its id as a string, and a notification is emitted under
its target as a string. Both strings are cut after eight digits, so a notification reaches its room, and
no other, exactly if no other open room has the same first eight digits (`routed_iff`).

The handler removes the listeners of its name, and so the emission goes on with handlers that are freed.
What it does then is not known; here it may call any number of them.
-/

namespace KoreWebsocket.Rooms

open Emitter (Listeners Handler State)

/-- `struct passData`, with the room by its id. -/
structure PassData where
  r : UInt32
  str : String
  deriving DecidableEq, Repr

/-- The name of the event for an id. -/
def eventName (id : UInt32) : String := String.ofList (striUint id)

/-- The rooms that are open and their listeners, and the history: the ids of all rooms, and of the rooms
that no notification was for. -/
structure Routing where
  rooms : List UInt32 := []
  listeners : Listeners Unit PassData := fun _ => []
  created : List UInt32 := []
  expected : List UInt32 := []

namespace Routing

/-- A room is created, or a notification arrives, and its emission goes on with some of the handlers that
are removed. -/
inductive Ev
  | roomNew (id : UInt32)
  | notification (targetId : UInt32) (more : Nat)
  deriving DecidableEq, Repr

/-- The listener of a room. -/
def listener (id : UInt32) : Handler Unit PassData :=
  { cb := (), extraArg := { r := id, str := eventName id }, once := false }

/-- `room_new`. -/
def roomNew (s : Routing) (id : UInt32) : Routing :=
  { s with
    rooms := s.rooms ++ [id]
    listeners := s.listeners.register (eventName id) (listener id) }

/-- `on_room_targetId`, with `room_close`. -/
def onRoomTargetId (s : Routing) (data : PassData) : Routing :=
  { s with
    rooms := s.rooms.erase data.r
    listeners := Function.update s.listeners data.str [] }

/-- The emission in `invoke_for_dummy`. -/
def notification (s : Routing) (targetId : UInt32) (more : Nat) : Routing :=
  ((s.listeners (eventName targetId)).take (more + 1)).foldl
    (fun s handler => s.onRoomTargetId handler.extraArg) s

/-- Rooms have distinct ids. -/
def step (s : Routing) : Ev → Option Routing
  | .roomNew id =>
      if id ∈ s.created then none
      else some { s.roomNew id with created := id :: s.created, expected := id :: s.expected }
  | .notification targetId more =>
      some { s.notification targetId more with expected := s.expected.erase targetId }

/-- The rooms that no notification was for are open, each with its listener, and no others. -/
structure Routed (s : Routing) : Prop where
  rooms : ∀ id, id ∈ s.rooms ↔ id ∈ s.expected
  listeners : ∀ id ∈ s.rooms, listener id ∈ s.listeners (eventName id)

/-- A notification comes only while no other open room has the same first eight digits. -/
def NamesApart (s : Routing) : Ev → Prop
  | .roomNew _ => True
  | .notification targetId _ => ∀ id ∈ s.rooms, id ≠ targetId → eventName id ≠ eventName targetId

/-- What holds of every state that is reached: listeners are those of open rooms, under their names. -/
structure WellFormed (s : Routing) : Prop where
  listeners : ∀ name, ∀ handler ∈ s.listeners name, ∃ id ∈ s.rooms,
    handler = listener id ∧ name = eventName id
  rooms : s.rooms.Nodup
  expected : s.expected.Nodup
  created : ∀ id ∈ s.rooms, id ∈ s.created
  expectedCreated : ∀ id ∈ s.expected, id ∈ s.created

/-! ## Names -/

/-- The events have equal names if the ids have equal texts. -/
theorem eventName_eq_iff {id id' : UInt32} : eventName id = eventName id' ↔ striUint id = striUint id' :=
  String.ofList_inj

/-- Ids of at most eight digits have different names. -/
theorem namesApart_of_lt {s : Routing} {targetId : UInt32} {more : Nat} (htarget : targetId.toNat < 10 ^ 8)
    (hrooms : ∀ id ∈ s.rooms, id.toNat < 10 ^ 8) : s.NamesApart (.notification targetId more) :=
  fun id hid hne heq => hne (striUint_inj_of_lt (hrooms id hid) htarget (eventName_eq_iff.1 heq))

/-! ## What a notification does -/

section
variable {s s' : Routing}

theorem wellFormed_new : WellFormed {} where
  listeners := fun _ _ hmem => nomatch hmem
  rooms := List.nodup_nil
  expected := List.nodup_nil
  created := fun _ hmem => nomatch hmem
  expectedCreated := fun _ hmem => nomatch hmem

/-- Calls of handlers of one name. -/
theorem foldl_onRoomTargetId {name : String} {handlers : List (Handler Unit PassData)}
    (h : ∀ handler ∈ handlers, handler.extraArg.str = name) (s : Routing) :
    handlers.foldl (fun s handler => s.onRoomTargetId handler.extraArg) s =
      { s with
        rooms := s.rooms.diff (handlers.map fun handler => handler.extraArg.r)
        listeners := if handlers = [] then s.listeners else Function.update s.listeners name [] } := by
  induction handlers generalizing s with
  | nil => rfl
  | cons handler handlers ih =>
      have hname : handler.extraArg.str = name := h handler List.mem_cons_self
      rw [List.foldl_cons, ih fun handler' hmem => h handler' (List.mem_cons_of_mem _ hmem),
        List.map_cons, List.diff_cons, if_neg (List.cons_ne_nil _ _), onRoomTargetId, hname]
      dsimp only
      split
      · rfl
      · rw [Function.update_idem]

/-- The handlers that a notification calls are listeners of rooms with the name of the target. -/
theorem WellFormed.of_mem_take (h : s.WellFormed) {targetId : UInt32} {more : Nat}
    {handler : Handler Unit PassData}
    (hmem : handler ∈ (s.listeners (eventName targetId)).take (more + 1)) :
    ∃ id ∈ s.rooms, handler = listener id ∧ eventName targetId = eventName id :=
  h.listeners _ handler (List.mem_of_mem_take hmem)

/-- A notification erases the rooms whose event it is, and frees their handlers. -/
theorem notification_eq (h : s.WellFormed) (targetId : UInt32) (more : Nat) :
    s.notification targetId more =
      { s with
        rooms := s.rooms.diff
          (((s.listeners (eventName targetId)).take (more + 1)).map fun handler => handler.extraArg.r)
        listeners := Function.update s.listeners (eventName targetId) [] } := by
  have hname : ∀ handler ∈ (s.listeners (eventName targetId)).take (more + 1),
      handler.extraArg.str = eventName targetId := by
    intro handler hmem
    obtain ⟨id, -, rfl, hname⟩ := h.of_mem_take hmem
    exact hname.symm
  rw [notification, foldl_onRoomTargetId hname]
  split
  case isTrue hempty =>
    have hnone : s.listeners (eventName targetId) = [] := by
      rcases List.take_eq_nil_iff.1 hempty with hzero | hnil
      · cases hzero
      · exact hnil
    rw [← hnone, Function.update_eq_self]
  case isFalse => rfl

/-- The rooms that are open after a notification. -/
theorem mem_rooms_notification (h : s.WellFormed) (targetId : UInt32) (more : Nat) (id : UInt32) :
    id ∈ (s.notification targetId more).rooms ↔
      id ∈ s.rooms ∧ listener id ∉ (s.listeners (eventName targetId)).take (more + 1) := by
  rw [notification_eq h]
  dsimp only
  rw [h.rooms.mem_sdiff_iff]
  refine and_congr_right fun _ => not_congr ⟨fun hmem => ?_, fun hmem => List.mem_map.2 ⟨_, hmem, rfl⟩⟩
  obtain ⟨handler, hhandler, rfl⟩ := List.mem_map.1 hmem
  obtain ⟨id', -, rfl, -⟩ := h.of_mem_take hhandler
  exact hhandler

/-- After a notification nobody listens to its event any more. -/
theorem listeners_notification (h : s.WellFormed) (targetId : UInt32) (more : Nat) (name : String) :
    (s.notification targetId more).listeners name =
      if name = eventName targetId then [] else s.listeners name := by
  rw [notification_eq h]
  dsimp only
  split
  case isTrue heq => rw [heq, Function.update_self]
  case isFalse hne => rw [Function.update_of_ne hne]

/-- A room with a new id keeps the rooms well formed. -/
theorem WellFormed.roomNew (h : s.WellFormed) {id : UInt32} (hnew : id ∉ s.created) :
    WellFormed { s.roomNew id with created := id :: s.created, expected := id :: s.expected } where
  listeners := fun name handler hmem => by
    have hold : handler ∈ s.listeners name → ∃ id' ∈ s.rooms ++ [id],
        handler = listener id' ∧ name = eventName id' := by
      intro hmem
      obtain ⟨id', hid', heq⟩ := h.listeners name handler hmem
      exact ⟨id', List.mem_append_left _ hid', heq⟩
    unfold Routing.roomNew Listeners.register at hmem
    dsimp only at hmem
    by_cases hname : name = eventName id
    · rw [hname, Function.update_self] at hmem
      rcases List.mem_append.1 hmem with hmem | hmem
      · exact hold (hname ▸ hmem)
      · exact ⟨id, List.mem_append_right _ (List.mem_singleton.2 rfl), List.mem_singleton.1 hmem, hname⟩
    · rw [Function.update_of_ne hname] at hmem
      exact hold hmem
  rooms := h.rooms.append (List.nodup_singleton id) fun id' hid' heq =>
    hnew (List.mem_singleton.1 heq ▸ h.created id' hid')
  expected := List.nodup_cons.2 ⟨fun hid => hnew (h.expectedCreated id hid), h.expected⟩
  created := fun id' hid' => by
    rcases List.mem_append.1 hid' with hid' | hid'
    · exact List.mem_cons_of_mem _ (h.created id' hid')
    · exact List.mem_cons.2 (.inl (List.mem_singleton.1 hid'))
  expectedCreated := fun id' hid' => by
    rcases List.mem_cons.1 hid' with rfl | hid'
    · exact List.mem_cons_self
    · exact List.mem_cons_of_mem _ (h.expectedCreated id' hid')

/-- A notification keeps the rooms well formed. -/
theorem WellFormed.notification (h : s.WellFormed) (targetId : UInt32) (more : Nat) :
    WellFormed { s.notification targetId more with expected := s.expected.erase targetId } where
  listeners := fun name handler hmem => by
    have hmem : handler ∈ (s.notification targetId more).listeners name := hmem
    rw [listeners_notification h] at hmem
    split at hmem
    case isTrue => cases hmem
    case isFalse hname =>
      obtain ⟨id, hid, heq, rfl⟩ := h.listeners name handler hmem
      refine ⟨id, (mem_rooms_notification h targetId more id).2 ⟨hid, fun hcalled => ?_⟩, heq, rfl⟩
      obtain ⟨id', -, hlistener, hname'⟩ := h.of_mem_take hcalled
      have hid' : id = id' := congrArg (fun handler => handler.extraArg.r) hlistener
      exact hname (hid' ▸ hname'.symm)
  rooms := by
    rw [notification_eq h]
    exact h.rooms.sublist (List.diff_sublist _ _)
  expected := h.expected.erase targetId
  created := fun id hid => by
    rw [notification_eq h]
    exact h.created id ((mem_rooms_notification h targetId more id).1 hid).1
  expectedCreated := fun id hid => by
    rw [notification_eq h]
    exact h.expectedCreated id (List.mem_of_mem_erase hid)

/-- Every event keeps the rooms well formed. -/
theorem WellFormed.step (h : s.WellFormed) {ev : Ev} (hstep : s.step ev = some s') : s'.WellFormed := by
  cases ev with
  | roomNew id =>
      rw [Routing.step] at hstep
      split at hstep
      case isTrue => cases hstep
      case isFalse hnew =>
        cases hstep
        exact h.roomNew hnew
  | notification targetId more =>
      cases hstep
      exact h.notification targetId more

/-! ## Which notifications are routed -/

/-- The new room listens to its own event. -/
theorem Routed.roomNew (h : s.Routed) (id : UInt32) :
    Routed { s.roomNew id with created := id :: s.created, expected := id :: s.expected } where
  rooms := fun id' => by
    unfold Routing.roomNew
    dsimp only
    rw [List.mem_append, List.mem_singleton, List.mem_cons, h.rooms id', or_comm]
  listeners := fun id' hid' => by
    unfold Routing.roomNew Listeners.register at hid' ⊢
    dsimp only at hid' ⊢
    have hold : id' ∈ s.rooms → listener id' ∈ s.listeners (eventName id') := h.listeners id'
    by_cases hname : eventName id' = eventName id
    · rw [hname, Function.update_self]
      rcases List.mem_append.1 hid' with hid' | hid'
      · exact List.mem_append_left _ (hname ▸ hold hid')
      · rw [List.mem_singleton.1 hid']
        exact List.mem_append_right _ (List.mem_singleton.2 rfl)
    · rw [Function.update_of_ne hname]
      rcases List.mem_append.1 hid' with hid' | hid'
      · exact hold hid'
      · exact absurd (congrArg eventName (List.mem_singleton.1 hid')) hname

/-- The notification closes the room of its target, if it is open, and no other. -/
theorem mem_rooms_of_namesApart (hwf : s.WellFormed) (h : s.Routed) {targetId : UInt32} {more : Nat}
    (hapart : s.NamesApart (.notification targetId more)) (id : UInt32) :
    id ∈ (s.notification targetId more).rooms ↔ id ∈ s.rooms ∧ id ≠ targetId := by
  refine (mem_rooms_notification hwf targetId more id).trans (and_congr_right fun hid => ?_)
  constructor
  · -- The listener of the target is the only one of its name.
    rintro hnot rfl
    have hmem := h.listeners id hid
    have honly : ∀ handler ∈ s.listeners (eventName id), handler = listener id := by
      intro handler hhandler
      obtain ⟨id', hid', rfl, hname⟩ := hwf.listeners _ handler hhandler
      rw [not_imp_comm.1 (hapart id' hid') (not_not.2 hname.symm)]
    cases hlisteners : s.listeners (eventName id) with
    | nil =>
        rw [hlisteners] at hmem
        cases hmem
    | cons first rest =>
        rw [hlisteners] at hnot honly
        exact hnot (List.mem_cons.2 (.inl (honly first List.mem_cons_self).symm))
  · intro hne hcalled
    obtain ⟨id', -, hlistener, hname⟩ := hwf.of_mem_take hcalled
    have hid' : id = id' := congrArg (fun handler => handler.extraArg.r) hlistener
    exact hapart id hid hne (hid' ▸ hname.symm)

/-- The notification comes to the room that is meant, if the names are apart. -/
theorem Routed.notification (hwf : s.WellFormed) (h : s.Routed) {targetId : UInt32} {more : Nat}
    (hapart : s.NamesApart (.notification targetId more)) :
    Routed { s.notification targetId more with expected := s.expected.erase targetId } where
  rooms := fun id => by
    rw [hwf.expected.mem_erase_iff, ← h.rooms id, and_comm]
    exact mem_rooms_of_namesApart hwf h hapart id
  listeners := fun id hid => by
    obtain ⟨hopen, hne⟩ := (mem_rooms_of_namesApart hwf h hapart id).1 hid
    change listener id ∈ (s.notification targetId more).listeners (eventName id)
    rw [listeners_notification hwf, if_neg (hapart id hopen hne)]
    exact h.listeners id hopen

/-- If another open room has the name of the target, then it is closed or loses its listener. -/
theorem Routed.namesApart (hwf : s.WellFormed) (h : s.Routed) {targetId : UInt32} {more : Nat}
    (hrouted : Routed { s.notification targetId more with expected := s.expected.erase targetId }) :
    s.NamesApart (.notification targetId more) := by
  intro id hid hne hname
  have hexpected : id ∈ s.expected.erase targetId :=
    (List.mem_erase_of_ne hne).2 ((h.rooms id).1 hid)
  have hlistener : listener id ∈ (s.notification targetId more).listeners (eventName id) :=
    hrouted.listeners id ((hrouted.rooms id).2 hexpected)
  rw [listeners_notification hwf, if_pos hname] at hlistener
  cases hlistener

/-- **Step of routing.** -/
theorem routed_step_iff (hwf : s.WellFormed) (h : s.Routed) {ev : Ev} (hstep : s.step ev = some s') :
    s'.Routed ↔ s.NamesApart ev := by
  cases ev with
  | roomNew id =>
      rw [Routing.step] at hstep
      split at hstep
      case isTrue => cases hstep
      case isFalse =>
        cases hstep
        exact iff_of_true (h.roomNew id) trivial
  | notification targetId more =>
      cases hstep
      exact ⟨h.namesApart hwf, h.notification hwf⟩

/-- **Which notifications are routed.** In a run, every room is open with its listener until the
notification for it, and no longer, just if each notification comes while no other open room has the
same first eight digits. -/
theorem routed_iff {evs : List Ev} (h : Machine.exec step {} evs = some s) :
    Machine.Always step Routed {} evs ↔ Machine.Meets step NamesApart {} evs :=
  Machine.always_iff_meets (fun _ _ _ hwf hstep => WellFormed.step hwf hstep)
    (fun _ _ _ hwf hrouted hstep => routed_step_iff hwf hrouted hstep) h wellFormed_new
    ⟨fun _ => Iff.rfl, fun _ hid => nomatch hid⟩

/-- Two rooms with ids of eight digits. -/
theorem routed_iff_two_rooms : Machine.Always step Routed {}
    [.roomNew 12345678, .roomNew 12345679, .notification 12345679 0] := by
  refine (routed_iff rfl).2 ⟨trivial, fun s h => ?_⟩
  cases h
  refine ⟨trivial, fun s h => ?_⟩
  cases h
  refine ⟨namesApart_of_lt (by decide) fun id hid => ?_, fun _ _ => trivial⟩
  obtain rfl | rfl : id = 12345678 ∨ id = 12345679 := by simpa [Routing.roomNew] using hid
  · decide
  · decide

/-- Two rooms with ids of nine digits: the notification for the second closes the first. -/
theorem second_room_closes_first : ∃ s : Routing, Machine.exec step {}
      [.roomNew 123456780, .roomNew 123456781, .notification 123456781 0] = some s ∧
    s.rooms = [123456781] ∧ s.expected = [123456780] ∧ ¬ Machine.Always step Routed {}
      [.roomNew 123456780, .roomNew 123456781, .notification 123456781 0] := by
  have hfirst : striUint 123456780 = "12345678".toList := rfl
  have hsecond : striUint 123456781 = "12345678".toList := rfl
  have hname := eventName_eq_iff.2 (hsecond.trans hfirst.symm)
  refine ⟨_, rfl, ?_, rfl, fun hall => ?_⟩
  · simp [notification, Routing.roomNew, Listeners.register, hname, listener, onRoomTargetId]
  · have hrooms := (hall _ _ (List.prefix_refl _) rfl).rooms 123456780
    have hclosed := hrooms.2 List.mem_cons_self
    simp [notification, Routing.roomNew, Listeners.register, hname, listener, onRoomTargetId] at hclosed

/-! ## On the emitter -/

variable {lib : ListLibrary} {β : Type} {ee : State lib Unit PassData β}
  {calls : List (Emitter.Call Unit PassData β)}

/-- A name has at most eight characters, so it is not that of the emitter's own event. -/
theorem eventName_ne_newListener (id : UInt32) : eventName id ≠ Emitter.newListener := by
  intro heq
  have hchars : striUint id = Emitter.newListener.toList := by
    rw [← heq, eventName, String.toList_ofList]
  have hle : (striUint id).length ≤ 8 := List.length_take_le _ _
  rw [hchars] at hle
  exact absurd hle (by decide)

/-- `ee_on` in `room_new` registers the listener of the room and calls no handler. -/
theorem completes_roomNew (h : s.WellFormed) (hquiet : ee.Quiet s.listeners calls) (id : UInt32) :
    (ee.call (.on (eventName id) false () { r := id, str := eventName id })).Completes
      (s.roomNew id).listeners calls := by
  have hnone : (s.roomNew id).listeners Emitter.newListener = [] := by
    unfold Routing.roomNew Listeners.register
    dsimp only
    rw [Function.update_of_ne (eventName_ne_newListener id).symm, List.eq_nil_iff_forall_not_mem]
    intro handler hmem
    obtain ⟨id', -, -, hname⟩ := h.listeners _ handler hmem
    exact eventName_ne_newListener id' hname.symm
  have hcall := hquiet.call (.on (eventName id) false () { r := id, str := eventName id })
    (fun _ ho => nomatch ho)
  have hstep : Listeners.step (s.listeners, calls)
      (.on (eventName id) false () { r := id, str := eventName id }) =
        ((s.roomNew id).listeners, calls) := by
    change (if eventName id = Emitter.newListener then _ else
      ((s.roomNew id).listeners.afterEmit Emitter.newListener,
        calls ++ (s.roomNew id).listeners.emitCalls Emitter.newListener _)) = _
    rw [if_neg (eventName_ne_newListener id), Listeners.afterEmit, Listeners.emitCalls, hnone,
      List.filter_nil, List.map_nil, List.append_nil, ← hnone, Function.update_eq_self]
  rwa [hstep] at hcall

/-- A notification without listeners calls no handler. With listeners, `ee_emit` calls the first one, and
that removes all of them. -/
theorem call_emit (h : s.WellFormed) (hquiet : ee.Quiet s.listeners calls) (targetId : UInt32) (arg : β) :
    (s.listeners (eventName targetId) = [] → ee.call (.emit (eventName targetId) arg) = ee) ∧
    ∀ handler rest, s.listeners (eventName targetId) = handler :: rest →
      (ee.call (.emit (eventName targetId) arg)).calls =
        calls ++ [{ cb := handler.cb, arg := .given arg, extraArg := handler.extraArg }] ∧
      ((ee.call (.emit (eventName targetId) arg)).call
        (.removeAllListeners handler.extraArg.str)).emitter.listeners =
          (s.onRoomTargetId handler.extraArg).listeners := by
  refine ⟨fun hnone => hquiet.emit_of_nil hnone _, fun handler rest hcons => ?_⟩
  obtain ⟨id, -, hlistener, hname⟩ := h.listeners (eventName targetId) handler
    (hcons ▸ List.mem_cons_self)
  have hstr : handler.extraArg.str = eventName targetId := by rw [hlistener, hname]; rfl
  obtain ⟨frame, emitter, hemit, hremove, -, hlisteners⟩ := hquiet.emit_of_cons hcons (.given arg)
  have hcall : ee.call (.emit (eventName targetId) arg) = _ := hemit
  rw [hcall]
  refine ⟨rfl, ?_⟩
  rw [hstr, State.call]
  dsimp only
  rw [hremove, onRoomTargetId, hstr]
  exact hlisteners

end

end Routing

end KoreWebsocket.Rooms
