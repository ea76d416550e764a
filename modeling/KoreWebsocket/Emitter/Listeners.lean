import KoreWebsocket.Emitter.Emitter

/-!
# The emitter as a map from names to handlers

What an emitter is for: the handlers of each name, in the order in which they are registered
(`Listeners`). While handlers do not call the emitter, it is this map (`refines_listeners`): the handlers
of an emission return one after the other, and then the once-handlers are gone.
-/

namespace KoreWebsocket.Emitter

/-- The handlers of each name, in order. -/
abbrev Listeners (κ ε : Type) := String → List (Handler κ ε)

/-- The names that a call is about. A registration emits an event of its own. -/
def Op.names {κ ε β : Type} : Op κ ε β → List String
  | .on name .. => [name, newListener]
  | .removeListener name _ | .removeAllListeners name | .emit name _ => [name]

namespace Listeners

variable {κ ε β : Type} (l : Listeners κ ε)

/-- The calls of an emission: each handler of the name once, in order, with its own extra argument. -/
def emitCalls (name : String) (arg : Arg κ β) : List (Call κ ε β) :=
  (l name).map fun handler => { cb := handler.cb, arg, extraArg := handler.extraArg }

/-- After an emission the once-handlers of the name are gone. -/
def afterEmit (name : String) : Listeners κ ε :=
  Function.update l name ((l name).filter (!·.once))

/-- A handler is registered for a name. -/
def register (name : String) (handler : Handler κ ε) : Listeners κ ε :=
  Function.update l name (l name ++ [handler])

/-- A call of the emitter: the handlers that it leaves, and the calls of handlers so far. -/
def step [DecidableEq κ] (s : Listeners κ ε × List (Call κ ε β)) (o : Op κ ε β) :
    Listeners κ ε × List (Call κ ε β) :=
  match o with
  | .on name once cb extraArg =>
      let l := s.1.register name { cb, extraArg, once }
      if name = newListener then (l, s.2)
      else (l.afterEmit newListener, s.2 ++ l.emitCalls newListener (.newListener name cb))
  | .removeListener name cb =>
      (Function.update s.1 name ((s.1 name).eraseP fun handler => handler.cb = cb), s.2)
  | .removeAllListeners name => (Function.update s.1 name [], s.2)
  | .emit name arg => (s.1.afterEmit name, s.2 ++ s.1.emitCalls name (.given arg))

/-- The calls of the emitter, from the start. -/
def run [DecidableEq κ] (ops : List (Op κ ε β)) : Listeners κ ε × List (Call κ ε β) :=
  ops.foldl step (fun _ => [], [])

/-- A call affects no other name. -/
theorem step_of_not_mem [DecidableEq κ] (s : Listeners κ ε × List (Call κ ε β)) (o : Op κ ε β)
    {name : String} (h : name ∉ o.names) : (step s o).1 name = s.1 name := by
  cases o with
  | on name' once cb extraArg =>
      obtain ⟨hname, hnew⟩ := not_or.1 (List.mem_cons.not.1 h)
      have hregister : s.1.register name' { cb, extraArg, once } name = s.1 name :=
        Function.update_of_ne hname _ _
      unfold step
      dsimp only
      split
      · exact hregister
      · exact (Function.update_of_ne (List.mem_singleton.not.1 hnew) _ _).trans hregister
  | removeListener name' cb => exact Function.update_of_ne (List.mem_singleton.not.1 h) _ _
  | removeAllListeners name' => exact Function.update_of_ne (List.mem_singleton.not.1 h) _ _
  | emit name' arg => exact Function.update_of_ne (List.mem_singleton.not.1 h) _ _

end Listeners

namespace EventEmitter

variable {lib : ListLibrary} {κ ε : Type} {e : EventEmitter lib κ ε}

/-- The handlers of each name. -/
def listeners (e : EventEmitter lib κ ε) : Listeners κ ε := fun name => (e.handlersOf name).map Prod.snd

/-- The handlers of one event are written. -/
theorem listeners_setList {name : String} {event : Event} (h : e.WellFormed)
    (hfind : e.find name = some event) (l : lib.Lst (Handler κ ε)) :
    (e.setList event.handlers l).listeners =
      Function.update e.listeners name ((lib.nodes l).map Prod.snd) := by
  funext name'
  unfold listeners
  rw [handlersOf_setList h hfind]
  by_cases hname : name' = name
  · rw [if_pos hname, hname, Function.update_self]
  · rw [if_neg hname, Function.update_of_ne hname]

/-- A handler is registered. -/
theorem listeners_add (h : e.WellFormed) (name : String) (handler : Handler κ ε) :
    (e.add name handler).listeners = e.listeners.register name handler := by
  obtain ⟨node, hadd⟩ := handlersOf_add h name handler
  funext name'
  unfold listeners Listeners.register
  rw [hadd]
  by_cases hname : name' = name
  · rw [if_pos hname, hname, Function.update_self, List.map_append]
    rfl
  · rw [if_neg hname, Function.update_of_ne hname]

/-- The first node with a callback is removed: the handler there is the first with the callback. -/
theorem map_filter_eq_eraseP [DecidableEq κ] {ns : List (Nat × Handler κ ε)}
    (hnodup : (ns.map Prod.fst).Nodup) {cb : κ} {n : Nat × Handler κ ε}
    (hfind : ns.find? (fun n => n.2.cb = cb) = some n) :
    (ns.filter (·.1 ≠ n.1)).map Prod.snd = (ns.map Prod.snd).eraseP fun handler => handler.cb = cb := by
  induction ns with
  | nil => cases hfind
  | cons m ns ih =>
      rw [List.map_cons, List.nodup_cons] at hnodup
      by_cases hcb : m.2.cb = cb
      · rw [List.find?_cons_of_pos (by exact decide_eq_true hcb)] at hfind
        cases hfind
        have hrest : ns.filter (fun m => m.1 ≠ n.1) = ns :=
          List.filter_eq_self.2 fun m hm => decide_eq_true fun heq => hnodup.1 (by
            rw [← heq]
            exact List.mem_map_of_mem hm)
        rw [List.filter_cons_of_neg (by simp), hrest, List.map_cons,
          List.eraseP_cons_of_pos (by exact decide_eq_true hcb)]
      · rw [List.find?_cons_of_neg (by simpa using hcb)] at hfind
        have hne : m.1 ≠ n.1 := fun heq => hnodup.1 (by
          rw [heq]
          exact List.mem_map_of_mem (List.mem_of_find?_eq_some hfind))
        rw [List.filter_cons_of_pos (by exact decide_eq_true hne), List.map_cons, List.map_cons,
          List.eraseP_cons_of_neg (by simpa using hcb), ih hnodup.2 hfind]

/-- The first handler with this callback is removed. -/
theorem listeners_removeListener [DecidableEq κ] (h : e.WellFormed) (name : String) (cb : κ) :
    (e.removeListener name cb).WellFormed ∧ (e.removeListener name cb).listeners =
      Function.update e.listeners name ((e.listeners name).eraseP fun handler => handler.cb = cb) := by
  have hsame : ∀ {l : List (Handler κ ε)}, l = e.listeners name →
      e.listeners = Function.update e.listeners name l := by
    rintro _ rfl
    rw [Function.update_eq_self]
  unfold removeListener
  split
  case h_1 hnone =>
    refine ⟨h, hsame ?_⟩
    rw [listeners, handlersOf_of_find_none hnone]
    rfl
  case h_2 event hfind =>
    rw [lib.find_eq]
    have hhandlers : e.listeners name = (lib.nodes (e.lists event.handlers)).map Prod.snd := by
      rw [listeners, handlersOf_of_find hfind]
    cases hfirst : (lib.nodes (e.lists event.handlers)).find? fun n => n.2.cb = cb with
    | none =>
        refine ⟨h, hsame ?_⟩
        refine List.eraseP_of_forall_not fun handler hmem => ?_
        rw [hhandlers] at hmem
        obtain ⟨n, hn, rfl⟩ := List.mem_map.1 hmem
        exact List.find?_eq_none.1 hfirst n hn
    | some n =>
        refine ⟨wellFormed_listRemove h event.handlers n.1, (listeners_setList h hfind _).trans ?_⟩
        rw [lib.nodes_remove, hhandlers, map_filter_eq_eraseP (h.nodes event.handlers) hfirst]

end EventEmitter

namespace State

variable {lib : ListLibrary} {κ ε β : Type} {s : State lib κ ε β}

/-- No emission waits, and the emitter has these handlers after these calls. -/
structure Quiet (s : State lib κ ε β) (l : Listeners κ ε) (calls : List (Call κ ε β)) : Prop where
  frames : s.frames = []
  fault : s.fault = false
  wellFormed : s.emitter.WellFormed
  listeners : s.emitter.listeners = l
  calls : s.calls = calls

/-- In a new emitter nothing is registered, and nothing was called. -/
theorem quiet_new : Quiet ({} : State lib κ ε β) (fun _ => []) [] := by
  refine ⟨rfl, rfl, EventEmitter.wellFormed_new, funext fun name => ?_, rfl⟩
  have hnone : EventEmitter.find ({} : EventEmitter lib κ ε) name = none := by
    rw [EventEmitter.find_eq_none EventEmitter.wellFormed_new]
    intro event hevent
    rw [EventEmitter.eventList, lib.nodes_new] at hevent
    cases hevent
  rw [EventEmitter.listeners, EventEmitter.handlersOf_of_find_none hnone]
  rfl

/-- Behind the last handler nothing is called. -/
theorem advance_of_end {handlers : Nat} {it : lib.Iter} (arg : Arg κ β) (h : lib.upcoming it = none) :
    s.advance handlers it arg = s := by
  obtain ⟨it', hnext⟩ := lib.next_end (s.emitter.lists handlers) it h
  rw [advance, hnext]

/-- The emission goes on to the node that its iterator is at. -/
theorem advance_of_node {handlers : Nat} {it : lib.Iter} (arg : Arg κ β)
    {before after : List (Nat × Handler κ ε)} {n : Nat × Handler κ ε}
    (hit : lib.upcoming it = some n.1)
    (hnodes : lib.nodes (s.emitter.lists handlers) = before ++ n :: after)
    (hnew : n.1 ∉ before.map Prod.fst) :
    ∃ it', lib.upcoming it' = after.head?.map Prod.fst ∧ s.advance handlers it arg =
      { s with
        frames := { handlers, node := n.1, it := it', arg } :: s.frames
        calls := s.calls ++ [{ cb := n.2.cb, arg, extraArg := n.2.extraArg }] } := by
  obtain ⟨it', hnext, hit'⟩ := lib.next_node _ it before after n.1 n.2 hit hnodes hnew
  refine ⟨it', hit', ?_⟩
  rw [advance, hnext]
  dsimp only
  rw [ListLibrary.val_of_append hnodes hnew]

/-- An event without handlers is emitted to nobody. -/
theorem Quiet.emit_of_nil {l : Listeners κ ε} {calls : List (Call κ ε β)} (h : s.Quiet l calls)
    {name : String} (hnone : l name = []) (arg : Arg κ β) : s.emit name arg = s := by
  obtain ⟨-, -, -, rfl, -⟩ := h
  unfold State.emit
  split
  case h_1 => rfl
  case h_2 event hfind =>
    rw [EventEmitter.listeners, EventEmitter.handlersOf_of_find hfind, List.map_eq_nil_iff] at hnone
    refine advance_of_end arg ?_
    rw [lib.upcoming_iterator, hnone]
    rfl

/-- The first handler of an emission is called, and if it removes all handlers of its name, then none is
left. -/
theorem Quiet.emit_of_cons {l : Listeners κ ε} {calls : List (Call κ ε β)} (h : s.Quiet l calls)
    {name : String} {handler : Handler κ ε} {rest : List (Handler κ ε)} (hcons : l name = handler :: rest)
    (arg : Arg κ β) :
    ∃ frame emitter, s.emit name arg =
        { s with
          frames := [frame]
          calls := calls ++ [{ cb := handler.cb, arg, extraArg := handler.extraArg }] } ∧
      s.emitter.removeAllListeners name = some emitter ∧ emitter.WellFormed ∧
      emitter.listeners = Function.update l name [] := by
  obtain ⟨hframes, -, hwf, rfl, rfl⟩ := h
  unfold State.emit
  split
  case h_1 hnone =>
    rw [EventEmitter.listeners, EventEmitter.handlersOf_of_find_none hnone] at hcons
    cases hcons
  case h_2 event hfind =>
    rw [EventEmitter.listeners, EventEmitter.handlersOf_of_find hfind] at hcons
    obtain ⟨n, after, hnodes, rfl, -⟩ := List.map_eq_cons_iff.1 hcons
    have hnodes' : lib.nodes (s.emitter.lists event.handlers) = [] ++ n :: after := hnodes
    obtain ⟨it', -, hadvance⟩ := advance_of_node arg
      (by rw [lib.upcoming_iterator, hnodes]; rfl) hnodes' List.not_mem_nil
    obtain ⟨l, hl, hempty⟩ := EventEmitter.removeAllListeners_eq hwf hfind
    refine ⟨_, _, by rw [hadvance, hframes], hl, EventEmitter.wellFormed_setList hwf ?_, ?_⟩
    · rw [hempty]
      exact List.nil_sublist _
    · rw [EventEmitter.listeners_setList hwf hfind, hempty]
      rfl

variable [DecidableEq κ]

/-- **Run, for an emission.** If the handlers that are called return, each of them is called, and those
that are not once-handlers stay. -/
theorem exists_exec_advance {handlers : Nat} (arg : Arg κ β) {after : List (Nat × Handler κ ε)}
    {before : List (Nat × Handler κ ε)} {it : lib.Iter} (hfault : s.fault = false)
    (hnodes : lib.nodes (s.emitter.lists handlers) = before ++ after)
    (hnodup : ((before ++ after).map Prod.fst).Nodup)
    (hit : lib.upcoming it = after.head?.map Prod.fst) :
    ∃ l, Machine.exec step (s.advance handlers it arg) (List.replicate after.length .ret) =
        some { s with
          emitter := s.emitter.setList handlers l
          calls := s.calls ++ after.map fun n => { cb := n.2.cb, arg, extraArg := n.2.extraArg } } ∧
      lib.nodes l = before ++ after.filter (!·.2.once) := by
  induction after generalizing s before it with
  | nil =>
      refine ⟨s.emitter.lists handlers, ?_, hnodes⟩
      rw [advance_of_end arg hit, EventEmitter.setList_self, List.map_nil, List.append_nil]
      rfl
  | cons n after ih =>
      have hnew : n.1 ∉ before.map Prod.fst := fun hmem => by
        rw [List.map_append, List.map_cons] at hnodup
        exact List.disjoint_of_nodup_append hnodup hmem List.mem_cons_self
      obtain ⟨it', hit', hadvance⟩ := advance_of_node arg hit hnodes hnew
      have hval := ListLibrary.val_of_append hnodes hnew
      rw [hadvance, List.length_cons, List.replicate_succ]
      cases honce : n.2.once with
      | true =>
          have hremoved : lib.nodes ((s.emitter.listRemove handlers n.1).lists handlers) =
              before ++ after := by
            rw [EventEmitter.listRemove, EventEmitter.lists_setList_self]
            exact ListLibrary.nodes_remove_of_append hnodes (by rw [hnodes]; exact hnodup)
          obtain ⟨l, hexec, hl⟩ := ih (s := { s with
            emitter := s.emitter.listRemove handlers n.1
            calls := s.calls ++ [{ cb := n.2.cb, arg, extraArg := n.2.extraArg }] }) hfault hremoved
            (hnodup.sublist (((List.Sublist.refl _).append (List.sublist_cons_self _ _)).map _)) hit'
          refine ⟨l, Machine.exec_cons.2 ⟨_, ?_, hexec.trans ?_⟩, ?_⟩
          · rw [step, hfault, if_neg Bool.false_ne_true]
            rw [ret]
            dsimp only
            rw [hval]
            dsimp only
            rw [if_pos honce]
          · rw [EventEmitter.listRemove, EventEmitter.setList_setList]
            simp
          · rw [hl, List.filter_cons_of_neg (by simp [honce])]
      | false =>
          have hkept : lib.nodes (s.emitter.lists handlers) = (before ++ [n]) ++ after := by
            rw [hnodes, List.append_assoc, List.singleton_append]
          obtain ⟨l, hexec, hl⟩ := ih (s := { s with
            calls := s.calls ++ [{ cb := n.2.cb, arg, extraArg := n.2.extraArg }] }) hfault hkept
            (by rw [List.append_assoc, List.singleton_append]; exact hnodup) hit'
          refine ⟨l, Machine.exec_cons.2 ⟨_, ?_, hexec.trans ?_⟩, ?_⟩
          · rw [step, hfault, if_neg Bool.false_ne_true]
            rw [ret]
            dsimp only
            rw [hval]
            dsimp only
            rw [if_neg (by simp [honce])]
          · simp
          · rw [hl, List.filter_cons_of_pos (by simp [honce]), List.append_assoc, List.singleton_append]

/-- If the handlers that run return, the emitter has these handlers after these calls. -/
def Completes (s : State lib κ ε β) (l : Listeners κ ε) (calls : List (Call κ ε β)) : Prop :=
  ∃ n s', Machine.exec step s (List.replicate n .ret) = some s' ∧ s'.Quiet l calls

/-- A quiet state has completed. -/
theorem Quiet.completes {l : Listeners κ ε} {calls : List (Call κ ε β)} (h : s.Quiet l calls) :
    s.Completes l calls := ⟨0, s, rfl, h⟩

/-- **An emission completes.** -/
theorem Quiet.emit {l : Listeners κ ε} {calls : List (Call κ ε β)} (h : s.Quiet l calls) (name : String)
    (arg : Arg κ β) : (s.emit name arg).Completes (l.afterEmit name) (calls ++ l.emitCalls name arg) := by
  obtain ⟨hframes, hfault, hwf, rfl, rfl⟩ := h
  unfold State.emit
  split
  case h_1 hnone =>
    have hempty : s.emitter.listeners name = [] := by
      rw [EventEmitter.listeners, EventEmitter.handlersOf_of_find_none hnone]
      rfl
    refine Quiet.completes ⟨hframes, hfault, hwf, ?_, ?_⟩
    · rw [Listeners.afterEmit, hempty, List.filter_nil, ← hempty, Function.update_eq_self]
    · rw [Listeners.emitCalls, hempty, List.map_nil, List.append_nil]
  case h_2 event hfind =>
    have hhandlers : s.emitter.listeners name =
        (lib.nodes (s.emitter.lists event.handlers)).map Prod.snd := by
      rw [EventEmitter.listeners, EventEmitter.handlersOf_of_find hfind]
    obtain ⟨l, hexec, hl⟩ := exists_exec_advance arg hfault
      (List.nil_append (lib.nodes (s.emitter.lists event.handlers))).symm
      (hwf.nodes event.handlers) (lib.upcoming_iterator _)
    refine ⟨_, _, hexec, hframes, hfault, EventEmitter.wellFormed_setList hwf ?_, ?_, ?_⟩
    · rw [hl, List.nil_append]
      exact List.filter_sublist
    · dsimp only
      rw [EventEmitter.listeners_setList hwf hfind, hl, List.nil_append, Listeners.afterEmit, hhandlers,
        List.filter_map]
      rfl
    · dsimp only
      rw [Listeners.emitCalls, hhandlers, List.map_map]
      rfl

/-- **Step of the refinement.** A call of the emitter completes as the map does it. -/
theorem Quiet.call {l : Listeners κ ε} {calls : List (Call κ ε β)} (h : s.Quiet l calls) (o : Op κ ε β)
    (hknown : ∀ name, o = .removeAllListeners name → (s.emitter.find name).isSome = true) :
    (s.call o).Completes (Listeners.step (l, calls) o).1 (Listeners.step (l, calls) o).2 := by
  cases o with
  | on name once cb extraArg =>
      have hadd : Quiet { s with emitter := s.emitter.add name { cb, extraArg, once } }
          (l.register name { cb, extraArg, once }) calls := by
        refine ⟨h.frames, h.fault, EventEmitter.wellFormed_add h.wellFormed name _, ?_, h.calls⟩
        dsimp only
        rw [EventEmitter.listeners_add h.wellFormed, h.listeners]
      unfold State.call State.on Listeners.step
      dsimp only
      by_cases hname : name = newListener
      · rw [if_pos hname, if_neg (not_not.2 hname)]
        exact hadd.completes
      · rw [if_neg hname, if_pos hname]
        exact hadd.emit newListener _
  | removeListener name cb =>
      obtain ⟨hwf, hlisteners⟩ := EventEmitter.listeners_removeListener h.wellFormed name cb
      refine Quiet.completes ⟨h.frames, h.fault, hwf, hlisteners.trans ?_, h.calls⟩
      rw [h.listeners]
      rfl
  | removeAllListeners name =>
      obtain ⟨event, hfind⟩ := Option.isSome_iff_exists.1 (hknown name rfl)
      obtain ⟨l', hl', hempty⟩ := EventEmitter.removeAllListeners_eq h.wellFormed hfind
      unfold State.call
      dsimp only
      rw [hl']
      refine Quiet.completes ⟨h.frames, h.fault, EventEmitter.wellFormed_setList h.wellFormed ?_, ?_, h.calls⟩
      · rw [hempty]
        exact List.nil_sublist _
      · refine (EventEmitter.listeners_setList h.wellFormed hfind l').trans ?_
        rw [hempty, h.listeners]
        rfl
  | emit name arg => exact h.emit name _

/-! ## Runs in which handlers do not call the emitter -/

/-- A handler that runs does not call the emitter. -/
def CallsFromOutside (s : State lib κ ε β) : Act κ ε β → Prop
  | .op _ => s.frames = []
  | .ret => True

/-- A run from a new emitter, in which handlers do not call it. -/
structure RunFromOutside (acts : List (Act κ ε β)) (s : State lib κ ε β) : Prop where
  exec : Machine.exec step {} acts = some s
  outside : Machine.Meets step CallsFromOutside ({} : State lib κ ε β) acts

end State

/-- The calls of the emitter in a run. -/
def ops {κ ε β : Type} (acts : List (Act κ ε β)) : List (Op κ ε β) :=
  acts.filterMap fun act =>
    match act with
    | .op o => some o
    | .ret => none

/-- A listener was registered for the name. -/
def HadListener {κ ε β : Type} (name : String) (os : List (Op κ ε β)) : Prop :=
  ∃ once cb extraArg, .on name once cb extraArg ∈ os

/-- All listeners are removed only for names that have had one. -/
def RemovesKnown {κ ε β : Type} (os : List (Op κ ε β)) : Prop :=
  ∀ pre name post, os = pre ++ .removeAllListeners name :: post → HadListener name pre

section
variable {lib : ListLibrary} {κ ε β : Type}

theorem ops_append (acts acts' : List (Act κ ε β)) : ops (acts ++ acts') = ops acts ++ ops acts' :=
  List.filterMap_append

/-- The returns of a run are not among its calls. -/
theorem ops_replicate_ret (n : Nat) : ops (List.replicate n (.ret : Act κ ε β)) = [] := by
  rw [ops, List.filterMap_eq_nil_iff]
  intro act hact
  rw [List.eq_of_mem_replicate hact]

/-- What holds of all calls holds of the first ones. -/
theorem RemovesKnown.of_append {os os' : List (Op κ ε β)} (h : RemovesKnown (os ++ os')) :
    RemovesKnown os := by
  rintro pre name post rfl
  refine h pre name (post ++ os') ?_
  rw [List.append_assoc, List.cons_append]

end

namespace State

variable {lib : ListLibrary} {κ ε β : Type} [DecidableEq κ] {s s' : State lib κ ε β}
  {l : Listeners κ ε} {calls : List (Call κ ε β)}

/-- What completes has no fault. -/
theorem Completes.fault (h : s.Completes l calls) : s.fault = false := by
  obtain ⟨n, s', hexec, hquiet⟩ := h
  cases n with
  | zero =>
      cases hexec
      exact hquiet.fault
  | succ n =>
      obtain ⟨s₁, hstep, -⟩ := Machine.exec_cons.1 hexec
      exact (step_eq_some.1 hstep).1

/-- The handler that runs returns, and there are fewer to return. -/
theorem Completes.ret (h : s.Completes l calls) (hstep : s.step .ret = some s') :
    s'.Completes l calls := by
  obtain ⟨n, s₁, hexec, hquiet⟩ := h
  cases n with
  | zero =>
      cases hexec
      obtain ⟨-, ⟨o, ho, -⟩ | ⟨-, hret⟩⟩ := step_eq_some.1 hstep
      · cases ho
      · obtain ⟨frame, frames, hframes, -⟩ := ret_cases hret
        rw [hquiet.frames] at hframes
        cases hframes
  | succ n =>
      obtain ⟨s₂, hstep', hrest⟩ := Machine.exec_cons.1 hexec
      cases hstep.symm.trans hstep'
      exact ⟨n, s₁, hrest, hquiet⟩

/-- With no handler to return, an emission is complete. -/
theorem Completes.quiet (h : s.Completes l calls) (hframes : s.frames = []) : s.Quiet l calls := by
  obtain ⟨n, s', hexec, hquiet⟩ := h
  cases n with
  | zero =>
      cases hexec
      exact hquiet
  | succ n =>
      obtain ⟨s₁, hstep, -⟩ := Machine.exec_cons.1 hexec
      obtain ⟨-, ⟨o, ho, -⟩ | ⟨-, hret⟩⟩ := step_eq_some.1 hstep
      · cases ho
      · rw [State.ret, hframes] at hret
        cases hret

/-- An event is there for each name that had a listener. -/
theorem find_of_hadListener {acts : List (Act κ ε β)} (h : Machine.exec step {} acts = some s)
    {name : String} (hhad : HadListener name (ops acts)) : (s.emitter.find name).isSome = true := by
  induction acts using List.reverseRecOn generalizing s with
  | nil =>
      obtain ⟨once, cb, extraArg, hmem⟩ := hhad
      cases hmem
  | append_singleton acts act ih =>
      obtain ⟨s₁, h₁, hlast⟩ := Machine.exec_append.1 h
      obtain ⟨s₂, hstep, hs₂⟩ := Machine.exec_cons.1 hlast
      cases hs₂
      have hwf := wellFormed_exec h₁ EventEmitter.wellFormed_new
      obtain ⟨once, cb, extraArg, hmem⟩ := hhad
      rw [ops_append] at hmem
      rcases List.mem_append.1 hmem with hmem | hmem
      · exact find_step hwf hstep (ih h₁ ⟨once, cb, extraArg, hmem⟩)
      · cases act with
        | ret => cases hmem
        | op o =>
            obtain rfl := List.mem_singleton.1 hmem
            obtain ⟨-, ⟨o, ho, rfl⟩ | ⟨hact, -⟩⟩ := step_eq_some.1 hstep
            · cases ho
              rw [call, emitter_on]
              exact EventEmitter.find_add hwf name _ name (.inl rfl)
            · cases hact

/-- **Run of the refinement.** If handlers do not call the emitter, it completes as the map. -/
theorem completes_run {acts : List (Act κ ε β)} (h : RunFromOutside acts s)
    (hknown : RemovesKnown (ops acts)) :
    s.Completes (Listeners.run (ops acts)).1 (Listeners.run (ops acts)).2 := by
  induction acts using List.reverseRecOn generalizing s with
  | nil =>
      cases h.exec
      exact quiet_new.completes
  | append_singleton acts act ih =>
      obtain ⟨s₁, h₁, hlast⟩ := Machine.exec_append.1 h.exec
      obtain ⟨s₂, hstep, hs₂⟩ := Machine.exec_cons.1 hlast
      cases hs₂
      obtain ⟨houtside, hcond⟩ := Machine.meets_append.1 h.outside
      rw [ops_append] at hknown ⊢
      have hih := ih ⟨h₁, houtside⟩ hknown.of_append
      cases act with
      | ret =>
          rw [show ops [(.ret : Act κ ε β)] = [] from rfl, List.append_nil]
          exact hih.ret hstep
      | op o =>
          have hquiet := hih.quiet (hcond s₁ h₁).1
          obtain ⟨-, ⟨o', ho, rfl⟩ | ⟨hact, -⟩⟩ := step_eq_some.1 hstep
          · cases ho
            have hrun : Listeners.run (ops acts ++ ops [.op o]) =
                Listeners.step (Listeners.run (ops acts)) o := List.foldl_append
            rw [hrun]
            refine hquiet.call o fun name ho => ?_
            subst ho
            exact find_of_hadListener h₁ (hknown (ops acts) name [] rfl)
          · cases hact

/-- A run goes on until no handler runs. -/
theorem RunFromOutside.returns {acts : List (Act κ ε β)} (h : RunFromOutside acts s) {n : Nat}
    (hexec : Machine.exec step s (List.replicate n .ret) = some s') :
    RunFromOutside (acts ++ List.replicate n .ret) s' := by
  refine ⟨Machine.exec_append.2 ⟨s, h.exec, hexec⟩, Machine.meets_append.2 ⟨h.outside, fun s₁ _ => ?_⟩⟩
  refine Machine.meets_of_forall (fun act hact s => ?_) s₁
  rw [List.eq_of_mem_replicate hact]
  trivial

/-- Every list of calls has a run. -/
theorem exists_runFromOutside (lib : ListLibrary) (os : List (Op κ ε β)) (hknown : RemovesKnown os) :
    ∃ (acts : List (Act κ ε β)) (s : State lib κ ε β), ops acts = os ∧ RunFromOutside acts s ∧
      s.Quiet (Listeners.run os).1 (Listeners.run os).2 := by
  induction os using List.reverseRecOn with
  | nil => exact ⟨[], {}, rfl, ⟨rfl, trivial⟩, quiet_new⟩
  | append_singleton os o ih =>
      obtain ⟨acts, s, rfl, hrun, hquiet⟩ := ih hknown.of_append
      have hcall : RunFromOutside (acts ++ [.op o]) (s.call o) := by
        refine ⟨Machine.exec_append.2 ⟨s, hrun.exec, Machine.exec_cons.2 ⟨s.call o, ?_, rfl⟩⟩,
          Machine.meets_append.2 ⟨hrun.outside, fun s₁ hs₁ => ?_⟩⟩
        · exact step_eq_some.2 ⟨hquiet.fault, .inl ⟨o, rfl, rfl⟩⟩
        · cases hrun.exec.symm.trans hs₁
          exact ⟨hquiet.frames, fun _ _ => trivial⟩
      have hops : ops (acts ++ [.op o]) = ops acts ++ [o] := ops_append acts [.op o]
      obtain ⟨n, s', hexec, hquiet'⟩ := completes_run hcall (by rw [hops]; exact hknown)
      refine ⟨acts ++ [.op o] ++ List.replicate n .ret, s', ?_, hcall.returns hexec, ?_⟩
      · rw [ops_append, ops_replicate_ret, List.append_nil, hops]
      · rwa [hops] at hquiet'

/-- **The emitter is the map.** Whatever is called, as long as handlers do not call the emitter, there is
a run, and in every run no call is a fault and the handlers that run can return, one after the other;
then the calls of handlers and the handlers of each name are the map's, and `ee_listener_count` counts
them. A call affects no other name. -/
theorem refines_listeners (lib : ListLibrary) (os : List (Op κ ε β)) (hknown : RemovesKnown os) :
    (∃ (acts : List (Act κ ε β)) (s : State lib κ ε β), ops acts = os ∧ RunFromOutside acts s ∧
      s.frames = []) ∧
    (∀ (acts : List (Act κ ε β)) (s : State lib κ ε β), ops acts = os → RunFromOutside acts s →
      s.fault = false ∧ ∃ n s', Machine.exec step s (List.replicate n .ret) = some s' ∧
        s'.frames = [] ∧ s'.fault = false ∧ s'.calls = (Listeners.run os).2 ∧
        s'.emitter.listeners = (Listeners.run os).1 ∧
        ∀ name, s'.emitter.listenerCount name = ((Listeners.run os).1 name).length) ∧
    ∀ (o : Op κ ε β) name, name ∉ o.names →
      (Listeners.run (os ++ [o])).1 name = (Listeners.run os).1 name := by
  refine ⟨?_, ?_, fun o name hname => ?_⟩
  · obtain ⟨acts, s, hops, hrun, hquiet⟩ := exists_runFromOutside lib os hknown
    exact ⟨acts, s, hops, hrun, hquiet.frames⟩
  · rintro acts s rfl hrun
    have hcompletes := completes_run hrun hknown
    obtain ⟨n, s', hexec, hquiet⟩ := hcompletes
    refine ⟨Completes.fault ⟨n, s', hexec, hquiet⟩, n, s', hexec, hquiet.frames, hquiet.fault, hquiet.calls,
      hquiet.listeners, fun name => ?_⟩
    rw [EventEmitter.listenerCount_eq, ← hquiet.listeners, EventEmitter.listeners, List.length_map]
  · have hrun : Listeners.run (os ++ [o]) = Listeners.step (Listeners.run os) o := List.foldl_append
    rw [hrun]
    exact Listeners.step_of_not_mem _ o hname

/-- A once-handler is called once, and then its name has no handlers. -/
theorem refines_listeners_once : ∃ n, ∃ s' : State .lists Nat String Nat,
    Machine.exec step {} ([.op (.on "12345678" true 1 "room"), .op (.emit "12345678" 7), .ret,
      .op (.removeAllListeners "12345678")] ++ List.replicate n .ret) = some s' ∧
    s'.calls = [{ cb := 1, arg := .given 7, extraArg := "room" }] ∧
    s'.emitter.listenerCount "12345678" = 0 := by
  have hknown : RemovesKnown ([.on "12345678" true 1 "room", .emit "12345678" 7,
      .removeAllListeners "12345678"] : List (Op Nat String Nat)) := by
    rintro pre name post h
    rcases pre with _ | ⟨o₁, _ | ⟨o₂, pre⟩⟩
    · cases h
    · cases h
    · obtain ⟨hon, hrest⟩ := List.cons.inj h
      obtain ⟨-, hlast⟩ := List.cons.inj hrest
      rcases pre with _ | ⟨o₃, pre⟩
      · cases hlast
        exact ⟨true, 1, "room", hon ▸ List.mem_cons_self⟩
      · simp at hlast
  obtain ⟨-, hruns, -⟩ := refines_listeners ListLibrary.lists _ hknown
  have hrun : ∃ s : State .lists Nat String Nat, RunFromOutside [.op (.on "12345678" true 1 "room"),
      .op (.emit "12345678" 7), .ret, .op (.removeAllListeners "12345678")] s :=
    ⟨_, rfl, rfl, fun _ h => by cases h; exact ⟨rfl, fun _ h => by cases h; exact ⟨trivial,
      fun _ h => by cases h; exact ⟨rfl, fun _ _ => trivial⟩⟩⟩⟩
  obtain ⟨s, hrun⟩ := hrun
  obtain ⟨-, n, s', hexec, -, -, hcalls, -, hcount⟩ := hruns _ s rfl hrun
  exact ⟨n, s', Machine.exec_append.2 ⟨s, hrun.exec, hexec⟩, hcalls.trans (by decide),
    (hcount "12345678").trans (by decide)⟩

end State

end KoreWebsocket.Emitter
