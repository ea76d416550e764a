import KoreWebsocket.Uv.Invariant

/-!
# Calls arrive (`uv_callback.c`)

In every interleaving of the threads that fire and the loops, calls run in the order in which they were
fired, each once (`calls_run_in_order`), and a coalescing callback is run with its last argument
(`last_argument_runs`). Calls do not only run in order but also run: what the threads and loops do without
new fires is bounded by `work`, and when they can do no more every call has been run (`drains`). A send
that the loop notices after it has emptied the queue, or a call that comes between the last look at the
queue and the stop of the idle handle, is not lost.
-/

namespace KoreWebsocket.Uv

open Machine

variable {δ : Type}

/-! ## Every step -/

section
variable {s s' : State δ}

theorem State.inv_initial : (({} : State δ)).Inv where
  nodup := .nil
  handle c := ⟨fun hc => absurd hc List.not_mem_nil, fun ⟨_, _, hc⟩ => by cases hc⟩
  master _ _ _ _ hc := by cases hc
  single _ _ _ hc := by cases hc
  sends _ hc := absurd hc List.not_mem_nil
  running _ hr := absurd hr List.not_mem_nil
  serial := .nil
  notified _ hr := absurd hr List.not_mem_nil
  kept _ _ hc := by cases hc
  unfired _ _ := ⟨rfl, rfl⟩

/-- What the loop sees when it notices a send. -/
theorem noticed_async {callback : UvCallback δ} (hpending : callback.pending = true) :
    Noticed callback { callback with pending := false } where
  shape := rfl
  queue := rfl
  arg := rfl
  idle := rfl
  idleActive := rfl
  pending := Nat.zero_le _
  woken _ := by rw [hpending]; exact Nat.le_refl 1

/-- What the loop sees when it calls its idle handle. -/
theorem noticed_idle {callback : UvCallback δ} (hqueue : callback.usequeue = true) :
    Noticed callback callback where
  shape := rfl
  queue := rfl
  arg := rfl
  idle := rfl
  idleActive := rfl
  pending := Nat.le_refl _
  woken hcoalesce := absurd (hcoalesce.symm.trans hqueue) Bool.false_ne_true

variable [Inhabited δ]

/-- **Every step keeps the invariant.** -/
theorem inv_step {e : Event δ} (h : s.Inv) (hstep : step s e = some s') : s'.Inv := by
  cases e with
  | init c loop usequeue =>
      obtain ⟨hnew, h'⟩ := Option.ite_none_left_eq_some.1 hstep
      cases h'
      exact inv_uvCallbackInit h (Option.not_isSome_iff_eq_none.1 hnew)
  | fire c data notify =>
      obtain ⟨hnotify, hfire⟩ := Option.ite_none_right_eq_some.1 hstep
      refine (inv_uvCallbackFire h (fun n hn => ?_) hfire).1
      rw [State.shape, Option.isSome_map]
      exact hnotify n hn
  | send c =>
      obtain ⟨hmem, hsend⟩ := Option.ite_none_right_eq_some.1 hstep
      obtain ⟨callback, hc, rfl⟩ := Option.map_eq_some_iff.1 hsend
      exact inv_send h hc hmem
  | async c =>
      obtain ⟨callback, hc, hcall⟩ := Option.bind_eq_some_iff.1 hstep
      obtain ⟨⟨hpending, hbusy⟩, h'⟩ := Option.ite_none_right_eq_some.1 hcall
      cases h'
      have hhandle := (h.kept c callback hc).handle (.inl hpending)
      exact inv_uvCallbackAsyncCb h hc (noticed_async hpending) hhandle hbusy
  | idle c =>
      obtain ⟨callback, hc, hcall⟩ := Option.bind_eq_some_iff.1 hstep
      obtain ⟨⟨hidle, hbusy⟩, h'⟩ := Option.ite_none_right_eq_some.1 hcall
      cases h'
      have hkept := h.kept c callback hc
      exact inv_uvCallbackAsyncCb h hc (noticed_idle (hkept.idles hidle)) (hkept.handle (.inr hidle)) hbusy
  | finish c result => exact inv_uvCallbackReturn h hstep

/-- **Every run keeps the invariant.** -/
theorem inv_exec {es : List (Event δ)} (h : exec step ({} : State δ) es = some s) : s.Inv :=
  exec_inv (fun _ _ _ => inv_step) h State.inv_initial

/-- **Calls run in order, each once.** In every interleaving of the threads, the callbacks with a queue
of one loop share it, their calls that were fired are those whose function was called, in the same order,
and those that wait in the queue, and no two functions of calls run at once in a loop. -/
theorem calls_run_in_order {es : List (Event δ)} (h : exec step ({} : State δ) es = some s) :
    (∀ c callback, s.callbacks c = some callback → callback.usequeue = true →
      ∃ master, s.callbacks (callback.master.getD c) = some master ∧
        s.fired (callback.master.getD c) =
          s.ran (callback.master.getD c) ++ master.queue.reverse ∧
        ∀ c' callback', s.callbacks c' = some callback' → callback'.usequeue = true →
          callback'.loop = callback.loop → callback'.master.getD c' = callback.master.getD c) ∧
    (∀ r ∈ s.running, ∀ r' ∈ s.running,
      (s.callbacks r.1).map (·.loop) = (s.callbacks r'.1).map (·.loop) → r = r') := by
  have hinv := inv_exec h
  refine ⟨fun c callback hc hqueue => ?_, fun r hr r' hr' hloop => ?_⟩
  · have howner := hinv.owner hc hqueue
    obtain ⟨master, hmaster, hshape⟩ := Option.map_eq_some_iff.1 howner
    refine ⟨master, hmaster, (hinv.kept _ master hmaster).order (congrArg Prod.fst hshape), ?_⟩
    intro c' callback' hc' hqueue' hloop
    have howner' := hinv.owner hc' hqueue'
    rw [hloop] at howner'
    exact hinv.single _ _ _ howner' howner
  · refine List.inj_on_of_nodup_map hinv.serial hr hr' ?_
    rw [State.shape, State.shape, Option.map_map, Option.map_map]
    exact hloop

/-- Two callbacks of one loop, the first the master of both; the second is fired while the call of the
first has been taken. -/
theorem second_call_waits : ∃ s, exec step ({} : State Nat) [.init 0 0 true, .init 1 0 true,
      .fire 0 5 (some 1), .send 0, .async 0, .fire 1 6 none] = some s ∧
    ∃ master, s.callbacks 0 = some master ∧ s.fired 0 = s.ran 0 ++ master.queue.reverse ∧
      s.ran 0 = [{ callback := 0, data := 5, notify := some 1 }] ∧
      master.queue = [{ callback := 1, data := 6, notify := none }] := by
  refine exists_imp.2 (fun s hs => ⟨s, hs, ?_⟩) ⟨_, rfl⟩
  have hrun := calls_run_in_order hs
  cases hs
  obtain ⟨master, hmaster, horder, -⟩ := hrun.1 1 _ rfl rfl
  refine ⟨master, hmaster, horder, rfl, ?_⟩
  cases hmaster
  rfl

/-- **A coalescing callback is run with the last argument.** It is run at most once for each fire, always
with an argument that was fired, and when no send is about to be noticed the last run had the last one. -/
theorem last_argument_runs {es : List (Event δ)} (h : exec step ({} : State δ) es = some s) {c : Nat}
    {callback : UvCallback δ} (hc : s.callbacks c = some callback)
    (hcoalesce : callback.usequeue = false) :
    (s.ran c).length ≤ (s.fired c).length ∧
      (∀ call ∈ s.ran c, ∃ call' ∈ s.fired c, call'.data = call.data) ∧
      (callback.pending = false → c ∉ s.sends →
        (s.ran c).getLast?.map (·.data) = (s.fired c).getLast?.map (·.data)) := by
  have hkept := (inv_exec h).kept c callback hc
  refine ⟨?_, hkept.given hcoalesce, hkept.last hcoalesce⟩
  have hle := hkept.often hcoalesce
  omega

end

/-- Two arguments, of which the first is lost. -/
theorem second_argument_runs : ∃ s, exec step ({} : State Nat) [.init 0 0 false, .fire 0 5 none,
      .fire 0 6 none, .send 0, .send 0, .async 0] = some s ∧
    (s.ran 0).map (·.data) = [6] ∧ (s.fired 0).map (·.data) = [5, 6] ∧
    (s.ran 0).getLast?.map (·.data) = (s.fired 0).getLast?.map (·.data) := by
  refine exists_imp.2 (fun s hs => ⟨s, hs, ?_⟩) ⟨_, rfl⟩
  have hrun := fun callback => @last_argument_runs Nat s _ _ hs 0 callback
  cases hs
  exact ⟨rfl, rfl, (hrun _ rfl rfl).2.2 rfl List.not_mem_nil⟩

/-! ## The work that is left -/

/-- A call is taken, its function returns, and its result may be fired. -/
def UvCall.work (call : UvCall δ) : Nat := if call.notify.isSome then 8 else 3

def UvCallback.work (callback : UvCallback δ) : Nat :=
  callback.pending.toNat + callback.idle.toNat + (callback.queue.map UvCall.work).sum

def State.handleWork (s : State δ) (c : Nat) : Nat := ((s.callbacks c).map UvCallback.work).getD 0

/-- The steps that are left, at most. -/
def State.work (s : State δ) : Nat :=
  2 * s.sends.length + (s.handles.map s.handleWork).sum + (s.running.map fun r => r.2.work - 1).sum

theorem UvCall.two_lt_work (call : UvCall δ) : 2 < call.work := by
  unfold UvCall.work
  split <;> omega

/-- A sum over different numbers, of which one has another value. -/
theorem sum_map_update {l : List Nat} (hnodup : l.Nodup) {c : Nat} (hc : c ∈ l) {f g : Nat → Nat}
    (h : ∀ x, x ≠ c → g x = f x) : (l.map g).sum + f c = (l.map f).sum + g c := by
  induction l with
  | nil => cases hc
  | cons x l ih =>
      obtain ⟨hx, hnodup⟩ := List.nodup_cons.1 hnodup
      rw [List.map_cons, List.sum_cons, List.map_cons, List.sum_cons]
      by_cases hxc : x = c
      · subst hxc
        have hrest : l.map g = l.map f := List.map_congr_left fun y hy => h y fun hyx => hx (hyx ▸ hy)
        rw [hrest]
        omega
      · have hrest := ih hnodup ((List.mem_cons.1 hc).resolve_left fun heq => hxc heq.symm)
        rw [h x hxc]
        omega

/-- A sum without an element that a test leaves out. -/
theorem sum_map_filter_add_le {α : Type} {l : List α} {p : α → Bool} {f : α → Nat} {a : α} (ha : a ∈ l)
    (hp : p a = false) : ((l.filter p).map f).sum + f a ≤ (l.map f).sum := by
  have hsub : ∀ l : List α, ((l.filter p).map f).sum ≤ (l.map f).sum := fun l =>
    (List.filter_sublist.map f).sum_le_sum fun _ _ => Nat.zero_le _
  induction l with
  | nil => cases ha
  | cons x l ih =>
      rw [List.map_cons, List.sum_cons]
      rcases List.mem_cons.1 ha with rfl | ha
      · rw [List.filter_cons_of_neg (by rw [hp]; exact Bool.false_ne_true), Nat.add_comm]
        exact Nat.add_le_add_left (hsub l) _
      · have hrest := ih ha
        cases hx : p x with
        | true =>
            rw [List.filter_cons_of_pos hx, List.map_cons, List.sum_cons]
            omega
        | false =>
            rw [List.filter_cons_of_neg (by rw [hx]; exact Bool.false_ne_true)]
            omega

section
variable {s s' : State δ} {c : Nat} {callback callback' : UvCallback δ}

/-- The work of the handles, when one is touched. -/
theorem State.Touches.work (ht : s.Touches s' c callback') (hnodup : s.handles.Nodup)
    (hc : s.callbacks c = some callback) (hhandle : c ∈ s.handles) :
    (s'.handles.map s'.handleWork).sum + callback.work =
      (s.handles.map s.handleWork).sum + callback'.work := by
  have hold : s.handleWork c = callback.work := by rw [State.handleWork, hc]; rfl
  have hnew : s'.handleWork c = callback'.work := by
    rw [State.handleWork, ht.callbacks, Function.update_self]
    rfl
  rw [ht.handles, ← hold, ← hnew]
  refine sum_map_update hnodup hhandle fun x hx => ?_
  rw [State.handleWork, State.handleWork, ht.callbacks, Function.update_of_ne hx]

/-- A noticed send or a call of the idle handle. -/
theorem work_uvCallbackAsyncCb {called : UvCallback δ} (h : s.Inv) (hc : s.callbacks c = some callback)
    (hn : Noticed callback called) (hhandle : c ∈ s.handles)
    (hwoken : called.pending.toNat < callback.pending.toNat ∨ callback.idle = true) :
    (s.uvCallbackAsyncCb c called).work < s.work := by
  have hkept := h.kept c callback hc
  have hpending := hn.pending
  cases hqueue : callback.usequeue with
  | false =>
      rw [uvCallbackAsyncCb_of_coalescing (hn.usequeue.trans hqueue)]
      have hless := hn.woken hqueue
      have hwork : _ + callback.work = _ +
          (called.pending.toNat + called.idle.toNat + (called.queue.map UvCall.work).sum) :=
        (State.touches_runArg s c called).work h.nodup hc hhandle
      rw [hn.idle, hn.queue, UvCallback.work] at hwork
      change 2 * s.sends.length + _ + (s.running.map _).sum < s.work
      unfold State.work
      omega
  | true =>
      rcases List.eq_nil_or_concat callback.queue with hempty | ⟨queue, call, hsplit⟩
      · rw [uvCallbackAsyncCb_of_nil (hn.usequeue.trans hqueue) (hn.queue.trans hempty)]
        have hwork : _ + callback.work = _ + (called.pending.toNat + 0 + 0) :=
          (State.touches_setCallback s c
            { called with queue := [], idle := false, idleActive := false }).work h.nodup hc hhandle
        have hold : callback.work = callback.pending.toNat + callback.idle.toNat := by
          rw [UvCallback.work, hempty]
          rfl
        have hless : called.pending.toNat < callback.pending.toNat + callback.idle.toNat := by
          rcases hwoken with hless | hidle
          · exact Nat.lt_add_right _ hless
          · rw [hidle]
            exact Nat.lt_succ_of_le hpending
        change 2 * s.sends.length + _ + (s.running.map _).sum < s.work
        unfold State.work
        omega
      · rw [List.concat_eq_append] at hsplit
        rw [uvCallbackAsyncCb_of_concat (hn.usequeue.trans hqueue) (hn.queue.trans hsplit)]
        have hwork : _ + callback.work = _ +
            (called.pending.toNat + called.idle.toNat + (queue.map UvCall.work).sum) :=
          (State.touches_runCall s c called call queue).work h.nodup hc hhandle
        have hold : callback.work = callback.pending.toNat + callback.idle.toNat +
            ((queue.map UvCall.work).sum + call.work) := by
          rw [UvCallback.work, hsplit, List.map_append, List.sum_append, List.map_singleton,
            List.sum_singleton]
        rw [hn.idle] at hwork
        have hcall := call.two_lt_work
        change 2 * s.sends.length + _ + ((call.work - 1) :: s.running.map _).sum < s.work
        rw [List.sum_cons]
        unfold State.work
        omega

/-- The function of a call has returned. -/
theorem work_startIdle (h : s.Inv) (hc : s.callbacks c = some callback) (hhandle : c ∈ s.handles)
    {call : UvCall δ} (hcall : (c, call) ∈ s.running) :
    (s.startIdle c callback).work + call.work ≤ s.work + 2 := by
  have hkept := h.kept c callback hc
  have hwork := (State.touches_startIdle s c callback).work h.nodup hc hhandle
  have hstart : callback.startIdle.work ≤ callback.work + 1 := by
    rcases callback.startIdle_cases with ⟨-, heq⟩ | heq
    · rw [heq]
      exact Nat.le_succ _
    · rw [heq]
      change callback.pending.toNat + 1 + (callback.queue.map UvCall.work).sum ≤ _
      unfold UvCallback.work
      omega
  have hrunning : ((s.running.filter fun r => r.1 ≠ c).map fun r => r.2.work - 1).sum + (call.work - 1) ≤
      (s.running.map fun r => r.2.work - 1).sum :=
    sum_map_filter_add_le hcall (decide_eq_false fun hne => hne rfl)
  have htwo := call.two_lt_work
  unfold State.work
  change 2 * s.sends.length + _ + ((s.running.filter fun r => r.1 ≠ c).map _).sum + _ ≤ _
  omega

/-- A result is fired. -/
theorem work_uvCallbackFire {data : δ} (h : s.Inv) (hfire : s.uvCallbackFire c data none = some s') :
    s'.work ≤ s.work + 5 := by
  obtain ⟨callback, hc, ⟨rfl, -⟩ | ⟨master, hqueue, hmaster, rfl⟩ | ⟨-, hcoalesce, rfl⟩⟩ :=
    uvCallbackFire_cases hfire
  · exact Nat.le_add_right _ _
  · have hhandle := h.toWellFormed.mem_handles (h.toWellFormed.owner hc hqueue)
    have hwork : _ + master.work = _ +
        (master.pending.toNat + master.idle.toNat + (3 + (master.queue.map UvCall.work).sum)) :=
      (State.touches_enqueueCall s _ master { callback := c, data, notify := none }).work h.nodup
        hmaster hhandle
    rw [UvCallback.work] at hwork
    unfold State.work
    change 2 * (s.sends.length + 1) + _ + (s.running.map _).sum ≤ _
    omega
  · have hwork : _ + callback.work = _ + callback.work :=
      (State.touches_setArg s c callback { callback := c, data, notify := none }).work
        h.nodup hc (h.toWellFormed.coalescing hc hcoalesce)
    unfold State.work
    change 2 * (s.sends.length + 1) + _ + (s.running.map _).sum ≤ _
    omega

/-- A fire of an initialized callback succeeds. -/
theorem exists_uvCallbackFire (h : s.Inv) (hc : (s.shape c).isSome) (data : δ) (notify : Option Nat) :
    ∃ s', s.uvCallbackFire c data notify = some s' := by
  obtain ⟨callback, hcallback⟩ := Option.isSome_iff_exists.1 ((Option.isSome_map).symm.trans hc)
  rw [State.uvCallbackFire, hcallback]
  dsimp only [Option.bind_eq_bind, Option.bind_some]
  split
  case isTrue => exact ⟨s, rfl⟩
  case isFalse =>
    split
    case isTrue hqueue =>
      obtain ⟨master, hmaster, -⟩ := Option.map_eq_some_iff.1 (h.toWellFormed.owner hcallback hqueue)
      rw [hmaster]
      exact ⟨_, rfl⟩
    case isFalse => exact ⟨_, rfl⟩

/-- The function that was called first, or any other, can return. -/
theorem exists_uvCallbackReturn (h : s.Inv) {r : Nat × UvCall δ} {rest : List (Nat × UvCall δ)}
    (hrunning : s.running = r :: rest) (result : δ) : ∃ s', s.uvCallbackReturn r.1 result = some s' := by
  have hmem : r ∈ s.running := by rw [hrunning]; exact List.mem_cons_self
  have hlookup : s.running.lookup r.1 = some r.2 := by rw [hrunning, List.lookup_cons, beq_self_eq_true]
  obtain ⟨loop, hshapec⟩ := h.running r hmem
  obtain ⟨s₁, hfire, hshape⟩ : ∃ s₁, s.fireNotify r.2 result = some s₁ ∧ s₁.shape = s.shape := by
    unfold State.fireNotify
    cases hnotify : r.2.notify with
    | none => exact ⟨s, rfl, rfl⟩
    | some n =>
        obtain ⟨s₁, hs₁⟩ := exists_uvCallbackFire h (h.notified r hmem n hnotify) result none
        exact ⟨s₁, hs₁, (inv_uvCallbackFire h (fun _ hn => absurd hn (Option.not_mem_none _)) hs₁).2.1⟩
  rw [← hshape] at hshapec
  obtain ⟨callback, hc, -⟩ := Option.map_eq_some_iff.1 hshapec
  refine ⟨s₁.startIdle r.1 callback, ?_⟩
  rw [State.uvCallbackReturn, hlookup, Option.bind_eq_bind, Option.bind_some, hfire,
    Option.bind_eq_bind, Option.bind_some, hc]
  rfl

variable [Inhabited δ]

/-- **Every step but a new callback and a fire leaves less work.** -/
theorem work_step {e : Event δ} (h : s.Inv) (hinternal : e.Internal) (hstep : step s e = some s') :
    s'.work < s.work := by
  cases e with
  | init c loop usequeue => exact hinternal.elim
  | fire c data notify => exact hinternal.elim
  | send c =>
      obtain ⟨hmem, hsend⟩ := Option.ite_none_right_eq_some.1 hstep
      obtain ⟨callback, hc, rfl⟩ := Option.map_eq_some_iff.1 hsend
      have hwork : _ + callback.work = _ +
          (1 + callback.idle.toNat + (callback.queue.map UvCall.work).sum) :=
        (State.touches_send s c { callback with pending := true }).work h.nodup hc (h.sends c hmem)
      rw [UvCallback.work] at hwork
      have hpos : 0 < s.sends.length := List.length_pos_of_mem hmem
      unfold State.work
      change 2 * (s.sends.erase c).length + _ + (s.running.map _).sum < _
      rw [List.length_erase_of_mem hmem]
      omega
  | async c =>
      obtain ⟨callback, hc, hcall⟩ := Option.bind_eq_some_iff.1 hstep
      obtain ⟨⟨hpending, hbusy⟩, h'⟩ := Option.ite_none_right_eq_some.1 hcall
      cases h'
      have hhandle := (h.kept c callback hc).handle (.inl hpending)
      refine work_uvCallbackAsyncCb h hc (noticed_async hpending) hhandle (.inl ?_)
      rw [hpending]
      exact Nat.one_pos
  | idle c =>
      obtain ⟨callback, hc, hcall⟩ := Option.bind_eq_some_iff.1 hstep
      obtain ⟨⟨hidle, hbusy⟩, h'⟩ := Option.ite_none_right_eq_some.1 hcall
      cases h'
      have hkept := h.kept c callback hc
      exact work_uvCallbackAsyncCb h hc (noticed_idle (hkept.idles hidle)) (hkept.handle (.inr hidle))
        (.inr hidle)
  | finish c result =>
      obtain ⟨call, s₁, callback, hmem, hfire, hc, rfl⟩ := uvCallbackReturn_cases hstep
      obtain ⟨loop, hshapec⟩ := h.running _ hmem
      rcases hfire with ⟨-, rfl⟩ | ⟨n, hnotify, hfire⟩
      · have hreturn := work_startIdle h hc (h.mem_handles hshapec) hmem
        have htwo := call.two_lt_work
        omega
      · obtain ⟨h₁, hshape, hrunning⟩ :=
          inv_uvCallbackFire h (fun _ hn => absurd hn (Option.not_mem_none _)) hfire
        rw [← hshape] at hshapec
        have hreturn := work_startIdle h₁ hc (h₁.mem_handles hshapec) (hrunning ▸ hmem)
        have hresult := work_uvCallbackFire h hfire
        have height : call.work = 8 := by rw [UvCall.work, hnotify]; rfl
        omega

/-- The threads can do no more. -/
def Quiescent (s : State δ) : Prop := ∀ e : Event δ, e.Internal → step s e = none

/-- When the threads can do no more, nothing is about to be sent or noticed, and no function runs. -/
theorem Quiescent.idle (h : s.Inv) (hq : Quiescent s) :
    s.sends = [] ∧ s.running = [] ∧ ∀ c callback, s.callbacks c = some callback →
      callback.pending = false ∧ callback.idle = false := by
  have hrunning : s.running = [] := by
    cases hrunning : s.running with
    | nil => rfl
    | cons r rest =>
        obtain ⟨s', hs'⟩ := exists_uvCallbackReturn h hrunning default
        cases (hq (.finish r.1 default) trivial).symm.trans hs'
  have hbusy : ∀ loop, ¬ s.Busy loop := by
    rintro loop ⟨r, hr, -⟩
    rw [hrunning] at hr
    cases hr
  refine ⟨?_, hrunning, fun c callback hc => ⟨?_, ?_⟩⟩
  · cases hsends : s.sends with
    | nil => rfl
    | cons c rest =>
        have hmem : c ∈ s.sends := by rw [hsends]; exact List.mem_cons_self
        obtain ⟨_, _, hshape⟩ := (h.toWellFormed.handle c).1 (h.sends c hmem)
        obtain ⟨callback, hc, -⟩ := Option.map_eq_some_iff.1 hshape
        have hnone := hq (.send c) trivial
        rw [step, if_pos hmem, hc] at hnone
        cases hnone
  · refine Bool.eq_false_iff.2 fun hpending => ?_
    have hnone := hq (.async c) trivial
    rw [step, hc, Option.bind_eq_bind, Option.bind_some, if_pos ⟨hpending, hbusy _⟩] at hnone
    cases hnone
  · refine Bool.eq_false_iff.2 fun hidle => ?_
    have hnone := hq (.idle c) trivial
    rw [step, hc, Option.bind_eq_bind, Option.bind_some, if_pos ⟨hidle, hbusy _⟩] at hnone
    cases hnone

/-- When the threads can do no more, every call has been run. -/
theorem Quiescent.all_ran (h : s.Inv) (hq : Quiescent s) {c : Nat} {callback : UvCallback δ}
    (hc : s.callbacks c = some callback) (hqueue : callback.usequeue = true) : s.fired c = s.ran c := by
  obtain ⟨hsends, hrunning, hidle⟩ := hq.idle h
  obtain ⟨hpending, hidle⟩ := hidle c callback hc
  have hkept := h.kept c callback hc
  have hempty : callback.queue = [] := by
    by_contra hne
    rcases hkept.woken hqueue hne with hwoken | hwoken | hwoken | ⟨call, hwoken⟩
    · exact Bool.false_ne_true (hpending.symm.trans hwoken)
    · exact Bool.false_ne_true (hidle.symm.trans hwoken)
    · rw [hsends] at hwoken
      cases hwoken
    · rw [hrunning] at hwoken
      cases hwoken
  rw [hkept.order hqueue, hempty, List.reverse_nil, List.append_nil]

/-- **Calls are not lost.** From every state that the threads can reach, what they do without new
callbacks and new fires is bounded, and when they can do no more, every call that was fired has been run,
and every coalescing callback with its last argument. -/
theorem drains {es es' : List (Event δ)} (h : exec step ({} : State δ) es = some s)
    (h' : exec step s es' = some s') (hinternal : ∀ e ∈ es', e.Internal) :
    es'.length ≤ s.work ∧ (Quiescent s' → ∀ c callback, s'.callbacks c = some callback →
      if callback.usequeue then s'.fired c = s'.ran c
      else (s'.ran c).getLast?.map (·.data) = (s'.fired c).getLast?.map (·.data)) := by
  have hinv := inv_exec h
  have hlen := exec_length_le (fun _ _ _ => inv_step) (fun _ _ _ hi he hs => work_step hi he hs) h' hinv
    hinternal
  have hinv' : s'.Inv := exec_inv (fun _ _ _ => inv_step) h' hinv
  refine ⟨by omega, fun hq c callback hc => ?_⟩
  split
  case isTrue hqueue => exact hq.all_ran hinv' hc hqueue
  case isFalse hqueue =>
    obtain ⟨hsends, -, hidle⟩ := hq.idle hinv'
    refine (hinv'.kept c callback hc).last (Bool.eq_false_iff.2 hqueue) (hidle c callback hc).1 ?_
    rw [hsends]
    exact List.not_mem_nil

/-- A call whose result is fired, and what follows until nothing is left to do. -/
theorem result_is_run : ∃ s s', exec step ({} : State Nat) [.init 0 0 true, .init 1 1 true,
      .fire 0 5 (some 1), .send 0] = some s ∧
    exec step s [.async 0, .finish 0 7, .send 1, .idle 0, .async 1, .finish 1 0, .idle 1] = some s' ∧
    7 ≤ s.work ∧ (s'.ran 1).map (·.data) = [7] := by
  refine exists_imp.2 (fun s hs => exists_imp.2 (fun s' hs' => ⟨s, s', hs, hs', ?_⟩) ?_) ⟨_, rfl⟩
  · have hrun := drains hs hs' fun e he => by
      simp only [List.mem_cons, List.not_mem_nil, or_false] at he
      rcases he with rfl | rfl | rfl | rfl | rfl | rfl | rfl <;> trivial
    cases hs
    cases hs'
    exact ⟨hrun.1, rfl⟩
  · cases hs
    exact ⟨_, rfl⟩

end

end KoreWebsocket.Uv
