import KoreWebsocket.Uv.Callback

/-!
# What the threads keep (`uv_callback.c`)

`WellFormed` says which callbacks are handles and share which queue. `Kept` says of one callback what has
become of the calls that were fired: those with a queue have all been run, in their order, or wait in the
queue (`order`), and while one waits the loop is going to look for it (`woken`); a coalescing callback
has the last argument (`arg`), and has run it unless it is going to (`last`). Every step keeps both.
-/

namespace KoreWebsocket.Uv

open Machine

variable {δ : Type}

/-- The list is walked to its end. -/
theorem dequeueCall_eq (queue : List (UvCall δ)) :
    dequeueCall queue = (queue.getLast?, queue.dropLast) := by
  induction queue with
  | nil => rfl
  | cons prev queue ih =>
      cases queue with
      | nil => rfl
      | cons current rest => rw [dequeueCall, ih, List.getLast?_cons_cons, List.dropLast_cons_cons]

/-! ## The callbacks and their handles -/

/-- What of a callback is never written again: whether it has a queue, its loop and its master. -/
def UvCallback.shape (callback : UvCallback δ) : Bool × Nat × Option Nat :=
  (callback.usequeue, callback.loop, callback.master)

namespace State

variable (s : State δ)

def shape (c : Nat) : Option (Bool × Nat × Option Nat) := (s.callbacks c).map UvCallback.shape

/-- Only callbacks with a queue have a master, which is the one with a queue among the handles of their
loop, and each loop runs at most one function of a call. -/
structure WellFormed : Prop where
  nodup : s.handles.Nodup
  handle : ∀ c, c ∈ s.handles ↔ ∃ usequeue loop, s.shape c = some (usequeue, loop, none)
  master : ∀ c usequeue loop m, s.shape c = some (usequeue, loop, some m) →
    usequeue = true ∧ s.shape m = some (true, loop, none)
  single : ∀ c c' loop, s.shape c = some (true, loop, none) → s.shape c' = some (true, loop, none) →
    c = c'
  sends : ∀ c ∈ s.sends, c ∈ s.handles
  running : ∀ r ∈ s.running, ∃ loop, s.shape r.1 = some (true, loop, none)
  serial : (s.running.map fun r => (s.shape r.1).map (·.2.1)).Nodup
  notified : ∀ r ∈ s.running, ∀ n ∈ r.2.notify, (s.shape n).isSome

/-- What has become of the calls of one callback. -/
structure Kept (c : Nat) (callback : UvCallback δ) : Prop where
  order : callback.usequeue = true → s.fired c = s.ran c ++ callback.queue.reverse
  woken : callback.usequeue = true → callback.queue ≠ [] →
    callback.pending = true ∨ callback.idle = true ∨ c ∈ s.sends ∨ ∃ call, (c, call) ∈ s.running
  active : callback.idleActive = callback.idle
  idles : callback.idle = true → callback.usequeue = true
  handle : callback.pending = true ∨ callback.idle = true → c ∈ s.handles
  notified : ∀ call ∈ callback.queue, ∀ n ∈ call.notify, (s.shape n).isSome
  arg : callback.usequeue = false → ∀ call, (s.fired c).getLast? = some call → callback.arg = call.data
  last : callback.usequeue = false → callback.pending = false → c ∉ s.sends →
    (s.ran c).getLast?.map (·.data) = (s.fired c).getLast?.map (·.data)
  often : callback.usequeue = false →
    (s.ran c).length + callback.pending.toNat + s.sends.count c ≤ (s.fired c).length
  given : callback.usequeue = false → ∀ call ∈ s.ran c, ∃ call' ∈ s.fired c, call'.data = call.data

/-- The invariant. -/
structure Inv : Prop extends s.WellFormed where
  kept : ∀ c callback, s.callbacks c = some callback → s.Kept c callback
  unfired : ∀ c, s.callbacks c = none → s.fired c = [] ∧ s.ran c = []

/-- Of the callbacks, only this one is not as before. -/
structure Touches (s' : State δ) (c : Nat) (callback' : UvCallback δ) : Prop where
  callbacks : s'.callbacks = Function.update s.callbacks c (some callback')
  handles : s'.handles = s.handles
  fired : ∀ x, x ≠ c → s'.fired x = s.fired x
  ran : ∀ x, x ≠ c → s'.ran x = s.ran x
  sends : ∀ x, x ≠ c → s'.sends.count x = s.sends.count x
  running : ∀ x, x ≠ c → ∀ call, (x, call) ∈ s'.running ↔ (x, call) ∈ s.running

end State

/-! ## What is left as it was -/

section
variable {s s' : State δ} {c : Nat} {callback callback' : UvCallback δ}

/-- The shape of a callback that there is. -/
theorem State.shape_of_callbacks (h : s.callbacks c = some callback) : s.shape c = some callback.shape := by
  rw [State.shape, h, Option.map_some]

/-- A change that keeps the shape of its callback keeps all shapes. -/
theorem State.Touches.shape (h : s.Touches s' c callback') (hc : s.callbacks c = some callback)
    (hshape : callback'.shape = callback.shape) : s'.shape = s.shape := by
  funext x
  rw [State.shape, State.shape, h.callbacks]
  by_cases hx : x = c
  · subst hx
    rw [Function.update_self, hc, Option.map_some, Option.map_some, hshape]
  · rw [Function.update_of_ne hx]

/-- The calls of a callback that is not touched. -/
theorem State.Kept.congr {x : Nat} {other : UvCallback δ} (h : s.Kept x other)
    (ht : s.Touches s' c callback') (hx : x ≠ c) (hshape : s'.shape = s.shape) : s'.Kept x other where
  order hqueue := by rw [ht.fired x hx, ht.ran x hx]; exact h.order hqueue
  woken hqueue hne := by
    rcases h.woken hqueue hne with hpending | hidle | hsends | ⟨call, hcall⟩
    · exact .inl hpending
    · exact .inr (.inl hidle)
    · exact .inr (.inr (.inl (List.count_pos_iff.1 (ht.sends x hx ▸ List.count_pos_iff.2 hsends))))
    · exact .inr (.inr (.inr ⟨call, (ht.running x hx call).2 hcall⟩))
  active := h.active
  idles := h.idles
  handle := by rw [ht.handles]; exact h.handle
  notified call hcall n hn := by rw [hshape]; exact h.notified call hcall n hn
  arg hcoalesce call := by rw [ht.fired x hx]; exact h.arg hcoalesce call
  last hcoalesce hpending hsends := by
    rw [ht.fired x hx, ht.ran x hx]
    refine h.last hcoalesce hpending fun hmem => hsends ?_
    exact List.count_pos_iff.1 ((ht.sends x hx).symm ▸ List.count_pos_iff.2 hmem)
  often hcoalesce := by
    rw [ht.fired x hx, ht.ran x hx, ht.sends x hx]
    exact h.often hcoalesce
  given hcoalesce := by
    rw [ht.fired x hx, ht.ran x hx]
    exact h.given hcoalesce

/-- The invariant, when one callback is touched. -/
theorem State.Inv.touch (h : s.Inv) (hc : s.callbacks c = some callback)
    (ht : s.Touches s' c callback') (hshape : s'.shape = s.shape) (hformed : s'.WellFormed)
    (hkept : s'.Kept c callback') : s'.Inv where
  toWellFormed := hformed
  kept x other hother := by
    rw [ht.callbacks] at hother
    by_cases hx : x = c
    · subst hx
      rw [Function.update_self] at hother
      cases hother
      exact hkept
    · rw [Function.update_of_ne hx] at hother
      exact (h.kept x other hother).congr ht hx hshape
  unfired x hnone := by
    rw [ht.callbacks] at hnone
    have hx : x ≠ c := by
      rintro rfl
      rw [Function.update_self] at hnone
      cases hnone
    rw [Function.update_of_ne hx] at hnone
    rw [ht.fired x hx, ht.ran x hx]
    exact h.unfired x hnone

/-- The callbacks are well formed if they have the shapes that they had, and no more functions run. -/
theorem State.WellFormed.congr (h : s.WellFormed) (hhandles : s'.handles = s.handles)
    (hshape : s'.shape = s.shape) (hsends : ∀ x ∈ s'.sends, x ∈ s.handles)
    (hrunning : s'.running.Sublist s.running) : s'.WellFormed where
  nodup := hhandles ▸ h.nodup
  handle := by rw [hhandles, hshape]; exact h.handle
  master := by rw [hshape]; exact h.master
  single := by rw [hshape]; exact h.single
  sends := by rw [hhandles]; exact hsends
  running r hr := by rw [hshape]; exact h.running r (hrunning.subset hr)
  serial := by rw [hshape]; exact h.serial.sublist (hrunning.map _)
  notified r hr := by rw [hshape]; exact h.notified r (hrunning.subset hr)

end

/-! ## Firing -/

section
variable {s s' : State δ} {c : Nat} {callback : UvCallback δ}

/-- A call that is queued touches its callback only. -/
theorem State.touches_enqueueCall (s : State δ) (c : Nat) (callback : UvCallback δ) (call : UvCall δ) :
    s.Touches (s.enqueueCall c callback call) c { callback with queue := call :: callback.queue } where
  callbacks := rfl
  handles := rfl
  fired _ hx := Function.update_of_ne hx _ _
  ran _ _ := rfl
  sends _ hx := List.count_cons_of_ne (Ne.symm hx)
  running _ _ _ := Iff.rfl

/-- A call is put into the queue. -/
theorem inv_enqueueCall (h : s.Inv) (hc : s.callbacks c = some callback) (hhandle : c ∈ s.handles)
    (hqueue : callback.usequeue = true) {call : UvCall δ}
    (hnotify : ∀ n ∈ call.notify, (s.shape n).isSome) : (s.enqueueCall c callback call).Inv := by
  have ht := State.touches_enqueueCall s c callback call
  have hshape := ht.shape hc rfl
  have hkept := h.kept c callback hc
  refine h.touch hc ht hshape ?_ ?_
  · refine h.toWellFormed.congr rfl hshape (fun x hx => ?_) (List.Sublist.refl _)
    rcases List.mem_cons.1 hx with rfl | hx
    · exact hhandle
    · exact h.sends x hx
  · exact {
      order := fun _ => by
        change Function.update s.fired c _ c = _
        rw [Function.update_self, hkept.order hqueue, List.reverse_cons, List.append_assoc]
        rfl
      woken := fun _ _ => .inr (.inr (.inl List.mem_cons_self))
      active := hkept.active
      idles := hkept.idles
      handle := fun _ => hhandle
      notified := by
        intro call' hcall' n hn
        rw [hshape]
        rcases List.mem_cons.1 hcall' with rfl | hcall'
        · exact hnotify n hn
        · exact hkept.notified call' hcall' n hn
      arg := fun hcoalesce => absurd (hcoalesce.symm.trans hqueue) Bool.false_ne_true
      last := fun hcoalesce => absurd (hcoalesce.symm.trans hqueue) Bool.false_ne_true
      often := fun hcoalesce => absurd (hcoalesce.symm.trans hqueue) Bool.false_ne_true
      given := fun hcoalesce => absurd (hcoalesce.symm.trans hqueue) Bool.false_ne_true }

/-- An argument that is set touches its callback only. -/
theorem State.touches_setArg (s : State δ) (c : Nat) (callback : UvCallback δ) (call : UvCall δ) :
    s.Touches (s.setArg c callback call) c { callback with arg := call.data } where
  callbacks := rfl
  handles := rfl
  fired _ hx := Function.update_of_ne hx _ _
  ran _ _ := rfl
  sends _ hx := List.count_cons_of_ne (Ne.symm hx)
  running _ _ _ := Iff.rfl

/-- The argument of a coalescing callback is written. -/
theorem inv_setArg (h : s.Inv) (hc : s.callbacks c = some callback) (hhandle : c ∈ s.handles)
    (hcoalesce : callback.usequeue = false) (call : UvCall δ) : (s.setArg c callback call).Inv := by
  have ht := State.touches_setArg s c callback call
  have hshape := ht.shape hc rfl
  have hkept := h.kept c callback hc
  have hfired : (s.setArg c callback call).fired c = s.fired c ++ [call] := Function.update_self ..
  refine h.touch hc ht hshape ?_ ?_
  · refine h.toWellFormed.congr rfl hshape (fun x hx => ?_) (List.Sublist.refl _)
    rcases List.mem_cons.1 hx with rfl | hx
    · exact hhandle
    · exact h.sends x hx
  · exact {
      order := fun hqueue => absurd (hcoalesce.symm.trans hqueue) Bool.false_ne_true
      woken := fun _ _ => .inr (.inr (.inl List.mem_cons_self))
      active := hkept.active
      idles := hkept.idles
      handle := fun _ => hhandle
      notified := fun call' hcall' n hn => by rw [hshape]; exact hkept.notified call' hcall' n hn
      arg := by
        intro _ call' hlast
        rw [hfired, List.getLast?_concat] at hlast
        exact congrArg UvCall.data (Option.some.inj hlast)
      last := fun _ _ hsends => absurd List.mem_cons_self hsends
      often := by
        intro _
        have hle := hkept.often hcoalesce
        have hsends : (s.setArg c callback call).sends.count c = s.sends.count c + 1 :=
          List.count_cons_self
        rw [hfired, hsends, List.length_append, List.length_singleton]
        exact Nat.add_le_add_right hle 1
      given := by
        intro _ call' hcall'
        obtain ⟨call'', hmem, hdata⟩ := hkept.given hcoalesce call' hcall'
        rw [hfired]
        exact ⟨call'', List.mem_append_left _ hmem, hdata⟩ }

/-- What a fire does: nothing, or a call is put into the queue of the callback or of its master, or the
argument is written. -/
theorem uvCallbackFire_cases {data : δ} {notify : Option Nat}
    (h : s.uvCallbackFire c data notify = some s') :
    ∃ callback, s.callbacks c = some callback ∧
      ((s' = s ∧ notify ≠ none ∧ callback.usequeue = false) ∨
        (∃ master, callback.usequeue = true ∧ s.callbacks (callback.master.getD c) = some master ∧
          s' = s.enqueueCall (callback.master.getD c) master { callback := c, data, notify }) ∨
        (notify = none ∧ callback.usequeue = false ∧
          s' = s.setArg c callback { callback := c, data, notify })) := by
  obtain ⟨callback, hc, h⟩ := Option.bind_eq_some_iff.1 h
  refine ⟨callback, hc, ?_⟩
  split at h
  case isTrue hinvalid =>
    obtain rfl := Option.some.inj h
    exact .inl ⟨rfl, hinvalid⟩
  case isFalse hvalid =>
    cases hqueue : callback.usequeue with
    | true =>
        rw [if_pos hqueue] at h
        obtain ⟨master, hmaster, h⟩ := Option.bind_eq_some_iff.1 h
        exact .inr (.inl ⟨master, rfl, hmaster, (Option.some.inj h).symm⟩)
    | false =>
        rw [if_neg (by rw [hqueue]; exact Bool.false_ne_true)] at h
        refine .inr (.inr ⟨?_, rfl, (Option.some.inj h).symm⟩)
        by_contra hnotify
        exact hvalid ⟨hnotify, hqueue⟩

/-- Where the calls of a callback with a queue go. -/
theorem State.WellFormed.owner (h : s.WellFormed) (hc : s.callbacks c = some callback)
    (hqueue : callback.usequeue = true) :
    s.shape (callback.master.getD c) = some (true, callback.loop, none) := by
  have hshape := State.shape_of_callbacks hc
  rw [UvCallback.shape, hqueue] at hshape
  cases hmaster : callback.master with
  | none => rw [hmaster] at hshape; exact hshape
  | some m => rw [hmaster] at hshape; exact (h.master c _ _ m hshape).2

/-- A master is a handle of its loop. -/
theorem State.WellFormed.mem_handles {loop : Nat} {usequeue : Bool} (h : s.WellFormed)
    (hshape : s.shape c = some (usequeue, loop, none)) : c ∈ s.handles :=
  (h.handle c).2 ⟨usequeue, loop, hshape⟩

/-- What a shape says of its callback. -/
theorem usequeue_of_shape {usequeue : Bool} {loop : Nat} {m : Option Nat}
    (hc : s.callbacks c = some callback) (hshape : s.shape c = some (usequeue, loop, m)) :
    callback.usequeue = usequeue ∧ callback.loop = loop ∧ callback.master = m := by
  rw [State.shape_of_callbacks hc, UvCallback.shape] at hshape
  cases hshape
  exact ⟨rfl, rfl, rfl⟩

/-- A callback without a queue has a handle. -/
theorem State.WellFormed.coalescing (h : s.WellFormed) (hc : s.callbacks c = some callback)
    (hcoalesce : callback.usequeue = false) : c ∈ s.handles := by
  have hshape := State.shape_of_callbacks hc
  rw [UvCallback.shape, hcoalesce] at hshape
  cases hmaster : callback.master with
  | none => rw [hmaster] at hshape; exact h.mem_handles hshape
  | some m =>
      rw [hmaster] at hshape
      exact absurd (h.master c _ _ m hshape).1 Bool.false_ne_true

/-- **A fire keeps the invariant**, and changes no shape. -/
theorem inv_uvCallbackFire {data : δ} {notify : Option Nat} (h : s.Inv)
    (hnotify : ∀ n ∈ notify, (s.shape n).isSome) (hfire : s.uvCallbackFire c data notify = some s') :
    s'.Inv ∧ s'.shape = s.shape ∧ s'.running = s.running := by
  obtain ⟨callback, hc, ⟨rfl, -⟩ | ⟨master, hqueue, hmaster, rfl⟩ | ⟨-, hcoalesce, rfl⟩⟩ :=
    uvCallbackFire_cases hfire
  · exact ⟨h, rfl, rfl⟩
  · have howner := h.toWellFormed.owner hc hqueue
    have husequeue := (usequeue_of_shape hmaster howner).1
    refine ⟨inv_enqueueCall h hmaster (h.toWellFormed.mem_handles howner) husequeue hnotify, ?_, rfl⟩
    exact (State.touches_enqueueCall ..).shape hmaster rfl
  · refine ⟨inv_setArg h hc (h.toWellFormed.coalescing hc hcoalesce) hcoalesce _, ?_, rfl⟩
    exact (State.touches_setArg ..).shape hc rfl

end

/-! ## The loop -/

section
variable {s s' : State δ} {c : Nat} {callback : UvCallback δ}

/-- A callback that is written touches no other. -/
theorem State.touches_setCallback (s : State δ) (c : Nat) (callback' : UvCallback δ) :
    s.Touches (s.setCallback c callback') c callback' where
  callbacks := rfl
  handles := rfl
  fired _ _ := rfl
  ran _ _ := rfl
  sends _ _ := rfl
  running _ _ _ := Iff.rfl

/-- The loop notices one that was sent. -/
theorem State.touches_send (s : State δ) (c : Nat) (callback' : UvCallback δ) :
    s.Touches { s.setCallback c callback' with sends := s.sends.erase c } c callback' where
  callbacks := rfl
  handles := rfl
  fired _ _ := rfl
  ran _ _ := rfl
  sends _ hx := List.count_erase_of_ne hx
  running _ _ _ := Iff.rfl

/-- A call of the queue is run. -/
theorem State.touches_runCall (s : State δ) (c : Nat) (callback : UvCallback δ) (call : UvCall δ)
    (queue : List (UvCall δ)) :
    s.Touches (s.runCall c callback call queue) c { callback with queue } where
  callbacks := rfl
  handles := rfl
  fired _ _ := rfl
  ran _ hx := Function.update_of_ne hx _ _
  sends _ _ := rfl
  running x hx call' := by
    refine List.mem_cons.trans ⟨fun hmem => hmem.resolve_left fun heq => ?_, .inr⟩
    exact hx (congrArg Prod.fst heq)

/-- The last argument is run. -/
theorem State.touches_runArg (s : State δ) (c : Nat) (callback : UvCallback δ) :
    s.Touches (s.runArg c callback) c callback where
  callbacks := rfl
  handles := rfl
  fired _ _ := rfl
  ran _ hx := Function.update_of_ne hx _ _
  sends _ _ := rfl
  running _ _ _ := Iff.rfl

/-- The idle handle is started. -/
theorem State.touches_startIdle (s : State δ) (c : Nat) (callback : UvCallback δ) :
    s.Touches (s.startIdle c callback) c callback.startIdle where
  callbacks := rfl
  handles := rfl
  fired _ _ := rfl
  ran _ _ := rfl
  sends _ _ := rfl
  running _ hx _ := List.mem_filter.trans (and_iff_left (decide_eq_true hx))

/-- A thread sends. -/
theorem inv_send (h : s.Inv) (hc : s.callbacks c = some callback) (hmem : c ∈ s.sends) :
    State.Inv { s.setCallback c { callback with pending := true } with sends := s.sends.erase c } := by
  have ht := State.touches_send s c { callback with pending := true }
  have hshape := ht.shape hc rfl
  have hkept := h.kept c callback hc
  refine h.touch hc ht hshape ?_ ?_
  · exact h.toWellFormed.congr rfl hshape (fun x hx => h.sends x (List.mem_of_mem_erase hx))
      (List.Sublist.refl _)
  · exact {
      order := hkept.order
      woken := fun _ _ => .inl rfl
      active := hkept.active
      idles := hkept.idles
      handle := fun _ => h.sends c hmem
      notified := fun call hcall n hn => by rw [hshape]; exact hkept.notified call hcall n hn
      arg := hkept.arg
      last := fun _ hpending => absurd hpending.symm Bool.false_ne_true
      often := by
        intro hcoalesce
        have hle := hkept.often hcoalesce
        have hpos : 0 < s.sends.count c := List.count_pos_iff.2 hmem
        change (s.ran c).length + 1 + (s.sends.erase c).count c ≤ (s.fired c).length
        rw [List.count_erase_self]
        omega
      given := hkept.given }

/-- What the loop has seen when it calls `uv_callback_async_cb`: the callback as it is, or one whose send
it has just noticed. -/
structure Noticed (callback called : UvCallback δ) : Prop where
  shape : called.shape = callback.shape
  queue : called.queue = callback.queue
  arg : called.arg = callback.arg
  idle : called.idle = callback.idle
  idleActive : called.idleActive = callback.idleActive
  pending : called.pending.toNat ≤ callback.pending.toNat
  woken : callback.usequeue = false → called.pending.toNat + 1 ≤ callback.pending.toNat

/-- A callback that is noticed keeps its kind. -/
theorem Noticed.usequeue {called : UvCallback δ} (h : Noticed callback called) :
    called.usequeue = callback.usequeue :=
  congrArg Prod.fst h.shape

/-- No function of a call of the handle runs while its loop is not busy. -/
theorem not_running_of_not_busy (hc : s.callbacks c = some callback)
    (hbusy : ¬ s.Busy callback.loop) (call : UvCall δ) : (c, call) ∉ s.running := by
  intro hmem
  refine hbusy ⟨(c, call), hmem, ?_⟩
  rw [hc, Option.map_some]

/-- **A call is taken**: the oldest. -/
theorem inv_runCall {called : UvCallback δ} (h : s.Inv) (hc : s.callbacks c = some callback)
    (hn : Noticed callback called) (hhandle : c ∈ s.handles)
    (hqueue : callback.usequeue = true) (hbusy : ¬ s.Busy callback.loop) {call : UvCall δ}
    {queue : List (UvCall δ)} (hsplit : callback.queue = queue ++ [call]) :
    (s.runCall c called call queue).Inv := by
  have ht := State.touches_runCall s c called call queue
  have hshape := ht.shape hc hn.shape
  have hkept := h.kept c callback hc
  have hshapec : s.shape c = some (true, callback.loop, none) := by
    obtain ⟨_, _, hshapec⟩ := (h.toWellFormed.handle c).1 hhandle
    rw [State.shape_of_callbacks hc, UvCallback.shape, hqueue, (usequeue_of_shape hc hshapec).2.2]
  have hcall : call ∈ callback.queue := by rw [hsplit]; simp
  have husequeue : called.usequeue = true := hn.usequeue.trans hqueue
  refine h.touch hc ht hshape ?_ ?_
  · exact {
      nodup := h.nodup
      handle := by rw [hshape]; exact h.handle
      master := by rw [hshape]; exact h.master
      single := by rw [hshape]; exact h.single
      sends := h.sends
      running := by
        intro r hr
        rw [hshape]
        rcases List.mem_cons.1 hr with rfl | hr
        · exact ⟨_, hshapec⟩
        · exact h.running r hr
      serial := by
        change (((c, call) :: s.running).map _).Nodup
        rw [hshape, List.map_cons, List.nodup_cons]
        refine ⟨fun hmem => ?_, h.serial⟩
        obtain ⟨r, hr, heq⟩ := List.mem_map.1 hmem
        refine hbusy ⟨r, hr, ?_⟩
        rw [hshapec, State.shape, Option.map_map] at heq
        exact heq
      notified := by
        intro r hr
        rw [hshape]
        rcases List.mem_cons.1 hr with rfl | hr
        · exact hkept.notified call hcall
        · exact h.notified r hr }
  · exact {
      order := by
        intro _
        change s.fired c = Function.update s.ran c _ c ++ _
        rw [Function.update_self, hkept.order hqueue, hsplit, List.reverse_append, List.append_assoc]
        rfl
      woken := fun _ _ => .inr (.inr (.inr ⟨call, List.mem_cons_self⟩))
      active := (hn.idleActive.trans hkept.active).trans hn.idle.symm
      idles := fun _ => husequeue
      handle := fun _ => hhandle
      notified := by
        intro call' hcall' n hn'
        rw [hshape]
        exact hkept.notified call' (by rw [hsplit]; exact List.mem_append_left _ hcall') n hn'
      arg := fun hcoalesce => absurd (hcoalesce.symm.trans husequeue) Bool.false_ne_true
      last := fun hcoalesce => absurd (hcoalesce.symm.trans husequeue) Bool.false_ne_true
      often := fun hcoalesce => absurd (hcoalesce.symm.trans husequeue) Bool.false_ne_true
      given := fun hcoalesce => absurd (hcoalesce.symm.trans husequeue) Bool.false_ne_true }

/-- The idle handle is stopped when no call waits. -/
theorem inv_stopIdle {called : UvCallback δ} (h : s.Inv) (hc : s.callbacks c = some callback)
    (hn : Noticed callback called) (hhandle : c ∈ s.handles) (hqueue : callback.usequeue = true) (hempty : callback.queue = []) :
    (s.setCallback c { called with queue := [], idle := false, idleActive := false }).Inv := by
  have ht := State.touches_setCallback s c
    { called with queue := [], idle := false, idleActive := false }
  have hshape := ht.shape hc hn.shape
  have hkept := h.kept c callback hc
  have husequeue : called.usequeue = true := hn.usequeue.trans hqueue
  refine h.touch hc ht hshape (h.toWellFormed.congr rfl hshape h.sends (List.Sublist.refl _)) ?_
  exact {
    order := fun _ => by rw [← hempty]; exact hkept.order hqueue
    woken := fun _ hne => absurd rfl hne
    active := rfl
    idles := fun _ => husequeue
    handle := fun _ => hhandle
    notified := fun _ hcall => absurd hcall List.not_mem_nil
    arg := fun hcoalesce => absurd (hcoalesce.symm.trans husequeue) Bool.false_ne_true
    last := fun hcoalesce => absurd (hcoalesce.symm.trans husequeue) Bool.false_ne_true
    often := fun hcoalesce => absurd (hcoalesce.symm.trans husequeue) Bool.false_ne_true
    given := fun hcoalesce => absurd (hcoalesce.symm.trans husequeue) Bool.false_ne_true }

/-- The function of a coalescing callback has the last argument. -/
theorem inv_runArg {called : UvCallback δ} (h : s.Inv) (hc : s.callbacks c = some callback)
    (hn : Noticed callback called) (hhandle : c ∈ s.handles) (hcoalesce : callback.usequeue = false) :
    (s.runArg c called).Inv := by
  have ht := State.touches_runArg s c called
  have hshape := ht.shape hc hn.shape
  have hkept := h.kept c callback hc
  have hran : (s.runArg c called).ran c =
      s.ran c ++ [{ callback := c, data := called.arg, notify := none }] := Function.update_self ..
  have hle := hkept.often hcoalesce
  have hpending := hn.woken hcoalesce
  have hne : s.fired c ≠ [] := by
    intro hnil
    rw [hnil, List.length_nil] at hle
    omega
  obtain ⟨call, hlast⟩ : ∃ call, (s.fired c).getLast? = some call :=
    ⟨_, List.getLast?_eq_some_getLast hne⟩
  have harg : called.arg = call.data := hn.arg.trans (hkept.arg hcoalesce call hlast)
  refine h.touch hc ht hshape (h.toWellFormed.congr rfl hshape h.sends (List.Sublist.refl _)) ?_
  exact {
    order := fun hqueue => absurd ((hn.usequeue.trans hcoalesce).symm.trans hqueue) Bool.false_ne_true
    woken := fun hqueue => absurd ((hn.usequeue.trans hcoalesce).symm.trans hqueue) Bool.false_ne_true
    active := (hn.idleActive.trans hkept.active).trans hn.idle.symm
    idles := fun hidle => hn.usequeue.trans (hkept.idles (hn.idle.symm.trans hidle))
    handle := fun _ => hhandle
    notified := fun call hcall n hn' => by
      rw [hshape]
      exact hkept.notified call (hn.queue ▸ hcall) n hn'
    arg := fun _ call hlast => hn.arg.trans (hkept.arg hcoalesce call hlast)
    last := by
      intro _ _ _
      rw [hran, List.getLast?_concat]
      change _ = (s.fired c).getLast?.map _
      rw [hlast]
      exact congrArg some harg
    often := by
      intro _
      rw [hran, List.length_append, List.length_singleton]
      change (s.ran c).length + 1 + called.pending.toNat + s.sends.count c ≤ (s.fired c).length
      omega
    given := by
      intro _ call' hcall'
      rw [hran] at hcall'
      rcases List.mem_append.1 hcall' with hcall' | hcall'
      · exact hkept.given hcoalesce call' hcall'
      · rw [List.mem_singleton.1 hcall']
        exact ⟨call, List.mem_of_getLast? hlast, harg.symm⟩ }

/-- The queue is empty, and the idle handle stops. -/
theorem uvCallbackAsyncCb_of_nil (hqueue : callback.usequeue = true) (hempty : callback.queue = []) :
    s.uvCallbackAsyncCb c callback =
      s.setCallback c { callback with queue := [], idle := false, idleActive := false } := by
  rw [State.uvCallbackAsyncCb, if_pos hqueue, hempty]
  rfl

/-- The call that was queued first is run. -/
theorem uvCallbackAsyncCb_of_concat (hqueue : callback.usequeue = true) {queue : List (UvCall δ)}
    {call : UvCall δ} (hsplit : callback.queue = queue ++ [call]) :
    s.uvCallbackAsyncCb c callback = s.runCall c callback call queue := by
  rw [State.uvCallbackAsyncCb, if_pos hqueue, dequeueCall_eq, hsplit, List.getLast?_concat,
    List.dropLast_concat]

/-- A coalescing callback runs with its argument. -/
theorem uvCallbackAsyncCb_of_coalescing (hcoalesce : callback.usequeue = false) :
    s.uvCallbackAsyncCb c callback = s.runArg c callback :=
  if_neg (by rw [hcoalesce]; exact Bool.false_ne_true)

/-- **`uv_callback_async_cb` keeps the invariant**, until the function of the call. -/
theorem inv_uvCallbackAsyncCb {called : UvCallback δ} (h : s.Inv) (hc : s.callbacks c = some callback)
    (hn : Noticed callback called) (hhandle : c ∈ s.handles)
    (hbusy : ¬ s.Busy callback.loop) : (s.uvCallbackAsyncCb c called).Inv := by
  cases hqueue : callback.usequeue with
  | false =>
      rw [uvCallbackAsyncCb_of_coalescing (hn.usequeue.trans hqueue)]
      exact inv_runArg h hc hn hhandle hqueue
  | true =>
      rcases List.eq_nil_or_concat callback.queue with hempty | ⟨queue, call, hsplit⟩
      · rw [uvCallbackAsyncCb_of_nil (hn.usequeue.trans hqueue) (hn.queue.trans hempty)]
        exact inv_stopIdle h hc hn hhandle hqueue hempty
      · rw [List.concat_eq_append] at hsplit
        rw [uvCallbackAsyncCb_of_concat (hn.usequeue.trans hqueue) (hn.queue.trans hsplit)]
        exact inv_runCall h hc hn hhandle hqueue hbusy hsplit

/-- Starting the idle handle. -/
theorem UvCallback.startIdle_cases (callback : UvCallback δ) :
    (callback.idleActive = true ∧ callback.startIdle = callback) ∨
      callback.startIdle = { callback with idle := true, idleActive := true } := by
  unfold UvCallback.startIdle
  cases hactive : callback.idleActive with
  | true => exact .inl ⟨rfl, rfl⟩
  | false => exact .inr rfl

/-- The function of a call has returned: while other calls wait the idle handle is started. -/
theorem inv_startIdle (h : s.Inv) (hc : s.callbacks c = some callback)
    (hhandle : c ∈ s.handles) (hqueue : callback.usequeue = true) : (s.startIdle c callback).Inv := by
  have hkept := h.kept c callback hc
  have hidle : callback.startIdle.idle = true ∧ callback.startIdle.idleActive = true := by
    rcases callback.startIdle_cases with ⟨hactive, heq⟩ | heq
    · rw [heq]
      exact ⟨hkept.active.symm.trans hactive, hactive⟩
    · rw [heq]
      exact ⟨rfl, rfl⟩
  have hsame : callback.startIdle.shape = callback.shape ∧ callback.startIdle.queue = callback.queue := by
    rcases callback.startIdle_cases with ⟨-, heq⟩ | heq
    all_goals
      rw [heq]
      exact ⟨rfl, rfl⟩
  have husequeue : callback.startIdle.usequeue = true := (congrArg Prod.fst hsame.1).trans hqueue
  have ht := State.touches_startIdle s c callback
  have hshape := ht.shape hc hsame.1
  refine h.touch hc ht hshape (h.toWellFormed.congr rfl hshape h.sends List.filter_sublist) ?_
  exact {
    order := fun _ => by rw [hsame.2]; exact hkept.order hqueue
    woken := fun _ _ => .inr (.inl hidle.1)
    active := hidle.2.trans hidle.1.symm
    idles := fun _ => husequeue
    handle := fun _ => hhandle
    notified := fun call hcall n hn => by
      rw [hshape]
      exact hkept.notified call (hsame.2 ▸ hcall) n hn
    arg := fun hcoalesce => absurd (hcoalesce.symm.trans husequeue) Bool.false_ne_true
    last := fun hcoalesce => absurd (hcoalesce.symm.trans husequeue) Bool.false_ne_true
    often := fun hcoalesce => absurd (hcoalesce.symm.trans husequeue) Bool.false_ne_true
    given := fun hcoalesce => absurd (hcoalesce.symm.trans husequeue) Bool.false_ne_true }

/-- What the return of a function does. -/
theorem uvCallbackReturn_cases {result : δ} (h : s.uvCallbackReturn c result = some s') :
    ∃ call s₁ callback, (c, call) ∈ s.running ∧
      ((call.notify = none ∧ s₁ = s) ∨
        ∃ n, call.notify = some n ∧ s.uvCallbackFire n result none = some s₁) ∧
      s₁.callbacks c = some callback ∧ s' = s₁.startIdle c callback := by
  obtain ⟨call, hcall, h⟩ := Option.bind_eq_some_iff.1 h
  obtain ⟨s₁, hfire, h⟩ := Option.bind_eq_some_iff.1 h
  obtain ⟨callback, hc, h⟩ := Option.bind_eq_some_iff.1 h
  refine ⟨call, s₁, callback, ?_, ?_, hc, (Option.some.inj h).symm⟩
  · obtain ⟨l₁, l₂, hsplit, -⟩ := List.lookup_eq_some_iff.1 hcall
    rw [hsplit]
    exact List.mem_append_right _ List.mem_cons_self
  · unfold State.fireNotify at hfire
    cases hnotify : call.notify with
    | none =>
        rw [hnotify] at hfire
        exact .inl ⟨rfl, (Option.some.inj hfire).symm⟩
    | some n =>
        rw [hnotify] at hfire
        exact .inr ⟨n, rfl, hfire⟩

/-- **The return of a function keeps the invariant.** -/
theorem inv_uvCallbackReturn {result : δ} (h : s.Inv) (hreturn : s.uvCallbackReturn c result = some s') :
    s'.Inv := by
  obtain ⟨call, s₁, callback, hmem, hfire, hc, rfl⟩ := uvCallbackReturn_cases hreturn
  obtain ⟨loop, hshapec⟩ := h.running _ hmem
  rcases hfire with ⟨-, rfl⟩ | ⟨n, -, hfire⟩
  · exact inv_startIdle h hc (h.mem_handles hshapec) (usequeue_of_shape hc hshapec).1
  · obtain ⟨h₁, hshape, -⟩ := inv_uvCallbackFire h (fun _ hn => absurd hn (Option.not_mem_none _)) hfire
    rw [← hshape] at hshapec
    exact inv_startIdle h₁ hc (h₁.mem_handles hshapec) (usequeue_of_shape hc hshapec).1

end

/-! ## New callbacks -/

section
variable {s : State δ} {loop : Nat}

/-- What the walk over some of the handles finds. -/
theorem foldl_masterOnWalk (s : State δ) (loop : Nat) (handles : List Nat) (found : Option Nat) :
    (∃ m ∈ handles, ∃ callback, handles.foldl (s.masterOnWalk loop) found = some m ∧
      s.callbacks m = some callback ∧ callback.loop = loop ∧ callback.usequeue = true) ∨
    (handles.foldl (s.masterOnWalk loop) found = found ∧ ∀ c ∈ handles, ∀ callback,
      s.callbacks c = some callback → ¬ (callback.loop = loop ∧ callback.usequeue = true)) := by
  induction handles generalizing found with
  | nil => exact .inr ⟨rfl, fun _ hc => absurd hc List.not_mem_nil⟩
  | cons c handles ih =>
      rw [List.foldl_cons]
      rcases ih (s.masterOnWalk loop found c) with ⟨m, hm, hfound⟩ | ⟨hsame, hnone⟩
      · exact .inl ⟨m, List.mem_cons_of_mem c hm, hfound⟩
      · rw [hsame, State.masterOnWalk]
        cases hc : s.callbacks c with
        | none =>
            refine .inr ⟨rfl, fun x hx other hother => ?_⟩
            rcases List.mem_cons.1 hx with rfl | hx
            · cases hc.symm.trans hother
            · exact hnone x hx other hother
        | some callback =>
            dsimp only
            by_cases hmaster : callback.loop = loop ∧ callback.usequeue = true
            · rw [if_pos hmaster]
              exact .inl ⟨c, List.mem_cons_self, callback, rfl, hc, hmaster⟩
            · rw [if_neg hmaster]
              refine .inr ⟨rfl, fun x hx other hother => ?_⟩
              rcases List.mem_cons.1 hx with rfl | hx
              · cases hc.symm.trans hother
                exact hmaster
              · exact hnone x hx other hother

/-- The master of a loop, if it has one. -/
theorem State.WellFormed.getMasterCallback_eq_some (h : s.WellFormed) {m : Nat}
    (hm : s.getMasterCallback loop = some m) : s.shape m = some (true, loop, none) := by
  rcases foldl_masterOnWalk s loop s.handles none with
    ⟨m', hmem, callback, hfound, hc, hloop, hqueue⟩ | ⟨hnone, -⟩
  · obtain rfl := Option.some.inj (hm.symm.trans hfound)
    obtain ⟨usequeue, loop', hshape⟩ := (h.handle m).1 hmem
    obtain ⟨-, -, hmaster⟩ := usequeue_of_shape hc hshape
    rw [State.shape_of_callbacks hc, UvCallback.shape, hloop, hqueue, hmaster]
  · cases hm.symm.trans hnone

/-- A loop without a master has no queueing callback of its own. -/
theorem State.WellFormed.getMasterCallback_eq_none (h : s.WellFormed)
    (hnone : s.getMasterCallback loop = none) (c : Nat) : s.shape c ≠ some (true, loop, none) := by
  intro hshape
  rcases foldl_masterOnWalk s loop s.handles none with
    ⟨m', -, -, hfound, -⟩ | ⟨-, hno⟩
  · cases hnone.symm.trans hfound
  · obtain ⟨callback, hc, heq⟩ := Option.map_eq_some_iff.1 hshape
    obtain ⟨hqueue, hloop, -⟩ := usequeue_of_shape hc hshape
    exact hno c (h.mem_handles hshape) callback hc ⟨hloop, hqueue⟩

variable {c : Nat} {usequeue : Bool}

/-- The invariant, when a callback is new. -/
theorem inv_new {s' : State δ} {callback : UvCallback δ} (h : s.Inv) (hnew : s.callbacks c = none)
    (hs' : ∃ handles, s.handles ⊆ handles ∧ s' = { s.setCallback c callback with handles }) (hqueue : callback.queue = [])
    (hflags : callback.idleActive = false ∧ callback.idle = false ∧ callback.pending = false)
    (hformed : s'.WellFormed) : s'.Inv := by
  obtain ⟨handles, hhandles, rfl⟩ := hs'
  have hold : ∀ x, (s.shape x).isSome →
      (State.shape { s.setCallback c callback with handles } x).isSome := by
    intro x hx
    have hne : x ≠ c := by
      rintro rfl
      rw [State.shape, hnew] at hx
      cases hx
    change ((Function.update s.callbacks c (some callback) x).map _).isSome
    rw [Function.update_of_ne hne]
    exact hx
  obtain ⟨hfired, hran⟩ := h.unfired c hnew
  have hsends : c ∉ s.sends := by
    intro hmem
    obtain ⟨_, _, hshape⟩ := (h.handle c).1 (h.sends c hmem)
    rw [State.shape, hnew] at hshape
    cases hshape
  refine { toWellFormed := hformed, kept := fun x other hother => ?_, unfired := fun x hx => ?_ }
  · change Function.update s.callbacks c (some callback) x = _ at hother
    by_cases hxc : x = c
    · subst hxc
      rw [Function.update_self] at hother
      cases hother
      exact {
        order := fun _ => by
          change s.fired x = s.ran x ++ _
          rw [hfired, hran, hqueue]
          rfl
        woken := fun _ hne => absurd hqueue hne
        active := hflags.1.trans hflags.2.1.symm
        idles := by rw [hflags.2.1]; exact fun hidle => absurd hidle Bool.false_ne_true
        handle := by rw [hflags.2.1, hflags.2.2]; simp
        notified := fun _ hcall => by rw [hqueue] at hcall; cases hcall
        arg := fun _ call hlast => by
          change (s.fired x).getLast? = _ at hlast
          rw [hfired] at hlast
          cases hlast
        last := fun _ _ _ => by
          change (s.ran x).getLast?.map _ = (s.fired x).getLast?.map _
          rw [hfired, hran]
        often := fun _ => by
          change (s.ran x).length + callback.pending.toNat + s.sends.count x ≤ (s.fired x).length
          rw [hran, hflags.2.2, List.count_eq_zero.2 hsends]
          exact Nat.zero_le _
        given := fun _ call hcall => by
          change call ∈ s.ran x at hcall
          rw [hran] at hcall
          cases hcall }
    · rw [Function.update_of_ne hxc] at hother
      have hkept := h.kept x other hother
      exact {
        hkept with
        handle := fun hwoken => hhandles (hkept.handle hwoken)
        notified := fun call hcall n hn => hold n (hkept.notified call hcall n hn) }
  · refine h.unfired x ?_
    change Function.update s.callbacks c (some callback) x = _ at hx
    by_cases hxc : x = c
    · rw [hxc]
      exact hnew
    · rwa [Function.update_of_ne hxc] at hx

/-- The shape of a callback that is written. -/
theorem State.shape_setCallback (callback : UvCallback δ) :
    (s.setCallback c callback).shape = Function.update s.shape c (some callback.shape) := by
  funext x
  change (Function.update s.callbacks c (some callback) x).map _ = _
  by_cases hx : x = c
  · rw [hx, Function.update_self, Function.update_self, Option.map_some]
  · rw [Function.update_of_ne hx, Function.update_of_ne hx]
    rfl

/-- The callbacks are well formed with a new one that has a master, or is a handle and the first master
of its loop. -/
theorem State.WellFormed.new {s' : State δ} {master : Option Nat} (h : s.WellFormed)
    (hnew : s.shape c = none)
    (hshape : s'.shape = Function.update s.shape c (some (usequeue, loop, master)))
    (hmaster : ∀ m ∈ master, usequeue = true ∧ s.shape m = some (true, loop, none))
    (hsingle : master = none → usequeue = true → ∀ x, s.shape x ≠ some (true, loop, none))
    (hhandles : s'.handles = if master = none then s.handles ++ [c] else s.handles)
    (hsame : s'.sends = s.sends ∧ s'.running = s.running) : s'.WellFormed := by
  have hne : ∀ {x y}, s.shape x = some y → x ≠ c := by
    rintro x y hx rfl
    cases hnew.symm.trans hx
  have hkeep : ∀ {x y}, s.shape x = some y → s'.shape x = some y := fun hx => by
    rw [hshape, Function.update_of_ne (hne hx), hx]
  have hold : ∀ {x}, x ≠ c → s'.shape x = s.shape x := fun hx => by
    rw [hshape, Function.update_of_ne hx]
  have hself : s'.shape c = some (usequeue, loop, master) := by rw [hshape, Function.update_self]
  have hnotmem : c ∉ s.handles := fun hmem => by
    obtain ⟨_, _, hx⟩ := (h.handle c).1 hmem
    exact hne hx rfl
  have hmem : ∀ x, x ∈ s'.handles ↔ x ∈ s.handles ∨ (x = c ∧ master = none) := by
    intro x
    rw [hhandles]
    by_cases hnone : master = none
    · rw [if_pos hnone, List.mem_append, List.mem_singleton, and_iff_left hnone]
    · rw [if_neg hnone, or_iff_left fun hx => hnone hx.2]
  exact {
    nodup := by
      rw [hhandles]
      split
      case isTrue =>
        refine List.nodup_append.2 ⟨h.nodup, List.nodup_singleton c, fun x hx y hy => ?_⟩
        rintro rfl
        exact hnotmem (List.mem_singleton.1 hy ▸ hx)
      case isFalse => exact h.nodup
    handle := by
      intro x
      rw [hmem, h.handle]
      by_cases hx : x = c
      · subst hx
        rw [hself, hnew]
        constructor
        · rintro (⟨_, _, ⟨⟩⟩ | ⟨-, hnone⟩)
          exact ⟨usequeue, loop, by rw [hnone]⟩
        · rintro ⟨_, _, heq⟩
          cases heq
          exact .inr ⟨rfl, rfl⟩
      · rw [hold hx, or_iff_left fun h => hx h.1]
    master := by
      intro x u l m hx
      by_cases hxc : x = c
      · subst hxc
        cases hself.symm.trans hx
        obtain ⟨hu, hm⟩ := hmaster m rfl
        exact ⟨hu, hkeep hm⟩
      · rw [hold hxc] at hx
        obtain ⟨hu, hm⟩ := h.master x u l m hx
        exact ⟨hu, hkeep hm⟩
    single := by
      have hother : ∀ {x l}, s'.shape x = some (true, l, none) → s'.shape c = some (true, l, none) →
          x = c := by
        intro x l hx hc
        by_contra hxc
        rw [hold hxc] at hx
        cases hself.symm.trans hc
        exact hsingle rfl rfl x hx
      intro x y l hx hy
      by_cases hyc : y = c
      · subst hyc
        exact hother hx hy
      · by_cases hxc : x = c
        · subst hxc
          exact (hother hy hx).symm
        · rw [hold hxc] at hx
          rw [hold hyc] at hy
          exact h.single x y l hx hy
    sends := fun x hx => (hmem x).2 (.inl (h.sends x (hsame.1 ▸ hx)))
    running := by
      intro r hr
      obtain ⟨l, hl⟩ := h.running r (hsame.2 ▸ hr)
      exact ⟨l, hkeep hl⟩
    serial := by
      have hmap : s'.running.map (fun r => (s'.shape r.1).map (·.2.1)) =
          s.running.map fun r => (s.shape r.1).map (·.2.1) := by
        rw [hsame.2]
        refine List.map_congr_left fun r hr => ?_
        obtain ⟨l, hl⟩ := h.running r hr
        rw [hkeep hl, hl]
      rw [hmap]
      exact h.serial
    notified := by
      intro r hr n hn
      obtain ⟨y, hy⟩ := Option.isSome_iff_exists.1 (h.notified r (hsame.2 ▸ hr) n hn)
      rw [hkeep hy]
      rfl }

/-- **A new callback keeps the invariant.** -/
theorem inv_uvCallbackInit [Inhabited δ] (h : s.Inv) (hnew : s.callbacks c = none) :
    (s.uvCallbackInit c loop usequeue).Inv := by
  have hshape : s.shape c = none := by rw [State.shape, hnew, Option.map_none]
  unfold State.uvCallbackInit
  cases hmaster : (if usequeue = true then s.getMasterCallback loop else none) with
  | some m =>
      obtain ⟨hqueue, hm⟩ := Option.ite_none_right_eq_some.1 hmaster
      refine inv_new h hnew ⟨s.handles, List.Subset.refl _, rfl⟩ rfl ⟨rfl, rfl, rfl⟩ ?_
      refine h.toWellFormed.new hshape (State.shape_setCallback _) ?_ nofun rfl ⟨rfl, rfl⟩
      rintro _ ⟨⟩
      exact ⟨hqueue, h.toWellFormed.getMasterCallback_eq_some hm⟩
  | none =>
      refine inv_new h hnew ⟨s.handles ++ [c], List.subset_append_left _ _, rfl⟩ rfl ⟨rfl, rfl, rfl⟩ ?_
      refine h.toWellFormed.new hshape (State.shape_setCallback _)
        (fun _ hm => absurd hm (Option.not_mem_none _)) (fun _ hqueue => ?_) rfl ⟨rfl, rfl⟩
      rw [if_pos hqueue] at hmaster
      exact h.toWellFormed.getMasterCallback_eq_none hmaster

end

end KoreWebsocket.Uv
