import KoreWebsocket.Lib.Machine
import KoreWebsocket.Lib.NodeList

/-!
# The event emitter (`mediasoup/src/globi_ee.c`)

An emitter has a list of events, and each event a list of handlers. `ee_emit` goes over the handlers of
an event with an iterator and keeps the node of the handler that it calls, and handlers may call the
emitter. So the state has the emissions that wait for a handler to return (`Frame`), and an act is a
call of the emitter, from outside or by the handler that runs, or the return of that handler. Node
pointers are numbered as they are allocated; to use a node that is removed is a fault.
-/

namespace KoreWebsocket.Emitter

/-- `ee_handler_t`, with callbacks `κ` and extra arguments `ε`. -/
structure Handler (κ ε : Type) where
  cb : κ
  extraArg : ε
  once : Bool
  deriving DecidableEq, Repr

/-- `ee__event_t`, with a pointer to its list of handlers. -/
structure Event where
  name : String
  handlers : Nat
  deriving DecidableEq, Repr

/-- `EE_NEW_LISTENER`. -/
def newListener : String := "new_listener"

/-- What a handler is called with: the argument of `ee_emit`, or an `ee_new_listener_t`. -/
inductive Arg (κ β : Type)
  | given (arg : β)
  | newListener (name : String) (cb : κ)
  deriving DecidableEq, Repr

/-- A call of a handler. -/
structure Call (κ ε β : Type) where
  cb : κ
  arg : Arg κ β
  extraArg : ε
  deriving DecidableEq, Repr

/-- A call of the emitter. -/
inductive Op (κ ε β : Type)
  | on (name : String) (once : Bool) (cb : κ) (extraArg : ε)
  | removeListener (name : String) (cb : κ)
  | removeAllListeners (name : String)
  | emit (name : String) (arg : β)
  deriving DecidableEq, Repr

/-- `ee_t`, with the lists of handlers by their pointers. -/
structure EventEmitter (lib : ListLibrary) (κ ε : Type) where
  events : lib.Lst Event := lib.new
  lists : Nat → lib.Lst (Handler κ ε) := fun _ => lib.new
  allocated : Nat := 0

namespace EventEmitter

variable {lib : ListLibrary} {κ ε : Type} (e : EventEmitter lib κ ε)

/-- `ee__find`. -/
def find (name : String) : Option Event :=
  (lib.find e.events fun event => event.name = name).bind (lib.val e.events)

/-- A list of handlers is changed. -/
def setList (handlers : Nat) (l : lib.Lst (Handler κ ε)) : EventEmitter lib κ ε :=
  { e with lists := Function.update e.lists handlers l }

/-- `list_remove` for a list of handlers. -/
def listRemove (handlers node : Nat) : EventEmitter lib κ ε :=
  e.setList handlers (lib.remove (e.lists handlers) node)

/-- `ee__event_new`, and the event is added to the list. -/
def eventNew (name : String) : EventEmitter lib κ ε × Event :=
  let event := { name, handlers := e.allocated }
  ({ e with
      events := lib.rpush e.events (e.allocated + 1) event
      lists := Function.update e.lists e.allocated lib.new
      allocated := e.allocated + 2 }, event)

/-- The handlers of an event get one more. -/
def push (event : Event) (handler : Handler κ ε) : EventEmitter lib κ ε :=
  { e.setList event.handlers (lib.rpush (e.lists event.handlers) e.allocated handler) with
    allocated := e.allocated + 1 }

/-- `ee__on`, before it emits an event. -/
def add (name : String) (handler : Handler κ ε) : EventEmitter lib κ ε :=
  match e.find name with
  | some event => e.push event handler
  | none => (e.eventNew name).1.push (e.eventNew name).2 handler

/-- `ee_remove_listener`. -/
def removeListener [DecidableEq κ] (name : String) (cb : κ) : EventEmitter lib κ ε :=
  match e.find name with
  | none => e
  | some event =>
      match lib.find (e.lists event.handlers) fun handler => handler.cb = cb with
      | none => e
      | some node => e.listRemove event.handlers node

/-- The loop of `ee_remove_all_listeners`, with a bound on its rounds. -/
def removeNodes : Nat → lib.Lst (Handler κ ε) → lib.Iter → Option (lib.Lst (Handler κ ε))
  | 0, _, _ => none
  | bound + 1, l, it =>
      match lib.next l it with
      | none => none
      | some (none, _) => some l
      | some (some node, it) => removeNodes bound (lib.remove l node) it

/-- `ee_remove_all_listeners`. It reads the handlers of an event that may not be there. -/
def removeAllListeners (name : String) : Option (EventEmitter lib κ ε) :=
  match e.find name with
  | none => none
  | some event =>
      let l := e.lists event.handlers
      (removeNodes (lib.len l + 1) l (lib.iterator l)).map (e.setList event.handlers)

/-- `ee_listener_count`. -/
def listenerCount (name : String) : Nat :=
  match e.find name with
  | none => 0
  | some event => lib.len (e.lists event.handlers)

end EventEmitter

/-- A call of `ee_emit` that waits for the handler at a node to return. -/
structure Frame (lib : ListLibrary) (κ β : Type) where
  handlers : Nat
  node : Nat
  it : lib.Iter
  arg : Arg κ β

/-- The emitter while it runs: the emissions that wait, the innermost first, and the calls of handlers so
far. After a fault nothing is known. -/
structure State (lib : ListLibrary) (κ ε β : Type) where
  emitter : EventEmitter lib κ ε := {}
  frames : List (Frame lib κ β) := []
  calls : List (Call κ ε β) := []
  fault : Bool := false

/-- A call of the emitter, or the return of the handler that runs. -/
inductive Act (κ ε β : Type)
  | op (o : Op κ ε β)
  | ret
  deriving DecidableEq, Repr

namespace State

variable {lib : ListLibrary} {κ ε β : Type} (s : State lib κ ε β)

/-- The loop of `ee_emit`, up to the next call of a handler or its end. -/
def advance (handlers : Nat) (it : lib.Iter) (arg : Arg κ β) : State lib κ ε β :=
  match lib.next (s.emitter.lists handlers) it with
  | none => { s with fault := true }
  | some (none, _) => s
  | some (some node, it) =>
      match lib.val (s.emitter.lists handlers) node with
      | none => { s with fault := true }
      | some handler =>
          { s with
            frames := { handlers, node, it, arg } :: s.frames
            calls := s.calls ++ [{ cb := handler.cb, arg, extraArg := handler.extraArg }] }

/-- `ee_emit`. -/
def emit (name : String) (arg : Arg κ β) : State lib κ ε β :=
  match s.emitter.find name with
  | none => s
  | some event =>
      s.advance event.handlers (lib.iterator (s.emitter.lists event.handlers)) arg

/-- `ee__on`. -/
def on (name : String) (handler : Handler κ ε) : State lib κ ε β :=
  let s := { s with emitter := s.emitter.add name handler }
  if name ≠ newListener then s.emit newListener (.newListener name handler.cb) else s

/-- A call of the emitter. -/
def call [DecidableEq κ] : Op κ ε β → State lib κ ε β
  | .on name once cb extraArg => s.on name { cb, extraArg, once }
  | .removeListener name cb => { s with emitter := s.emitter.removeListener name cb }
  | .removeAllListeners name =>
      match s.emitter.removeAllListeners name with
      | none => { s with fault := true }
      | some emitter => { s with emitter }
  | .emit name arg => s.emit name (.given arg)

/-- The handler that runs returns: `ee_emit` reads `handler->once`, and goes on. -/
def ret : Option (State lib κ ε β) :=
  match s.frames with
  | [] => none
  | frame :: frames =>
      let s := { s with frames }
      match lib.val (s.emitter.lists frame.handlers) frame.node with
      | none => some { s with fault := true }
      | some handler =>
          let emitter := if handler.once then s.emitter.listRemove frame.handlers frame.node else s.emitter
          some ({ s with emitter }.advance frame.handlers frame.it frame.arg)

/-- The state after an act, unless there was a fault or no handler runs that could return. -/
def step [DecidableEq κ] (s : State lib κ ε β) (act : Act κ ε β) : Option (State lib κ ε β) :=
  if s.fault then none
  else
    match act with
    | .op o => some (s.call o)
    | .ret => s.ret

end State

/-! ## The handlers of an event -/

namespace EventEmitter

variable {lib : ListLibrary} {κ ε : Type}

/-- The events. -/
def eventList (e : EventEmitter lib κ ε) : List Event := (lib.nodes e.events).map Prod.snd

/-- The handlers for a name, with their nodes. -/
def handlersOf (e : EventEmitter lib κ ε) (name : String) : List (Nat × Handler κ ε) :=
  match e.find name with
  | none => []
  | some event => lib.nodes (e.lists event.handlers)

/-- What holds of every emitter: no name has two events, no two events have one list, and pointers are
different and allocated. -/
structure WellFormed (e : EventEmitter lib κ ε) : Prop where
  eventNodes : ((lib.nodes e.events).map Prod.fst).Nodup
  eventAllocated : ∀ n ∈ lib.nodes e.events, n.1 < e.allocated
  names : (e.eventList.map (·.name)).Nodup
  pointers : (e.eventList.map (·.handlers)).Nodup
  handlers : ∀ event ∈ e.eventList, event.handlers < e.allocated
  nodes : ∀ handlers, ((lib.nodes (e.lists handlers)).map Prod.fst).Nodup
  allocated : ∀ handlers, ∀ n ∈ lib.nodes (e.lists handlers), n.1 < e.allocated
  unused : ∀ handlers, e.allocated ≤ handlers → lib.nodes (e.lists handlers) = []

section
variable {e : EventEmitter lib κ ε} {name : String} {event : Event}

theorem wellFormed_new : WellFormed ({} : EventEmitter lib κ ε) := by
  have hnew : ∀ {α : Type}, lib.nodes (lib.new : lib.Lst α) = [] := lib.nodes_new
  constructor <;> simp [eventList, hnew]

/-- `ee__find` finds the first event of the name. -/
theorem find_eq (h : e.WellFormed) (name : String) :
    e.find name = e.eventList.find? (·.name = name) :=
  ListLibrary.find_bind_val h.eventNodes _

/-- The event that is found is the one with the name. -/
theorem find_eq_some (h : e.WellFormed) :
    e.find name = some event ↔ event ∈ e.eventList ∧ event.name = name := by
  rw [find_eq h]
  constructor
  · intro hfind
    have hname := List.find?_some hfind
    exact ⟨List.mem_of_find?_eq_some hfind, of_decide_eq_true hname⟩
  · rintro ⟨hmem, rfl⟩
    cases hfind : e.eventList.find? fun event' => event'.name = event.name with
    | none => exact absurd rfl (of_decide_eq_false (Bool.eq_false_iff.2 (List.find?_eq_none.1 hfind event hmem)))
    | some event' =>
        have hname := List.find?_some hfind
        exact congrArg some (List.inj_on_of_nodup_map h.names (List.mem_of_find?_eq_some hfind) hmem
          (of_decide_eq_true hname))

/-- `ee__find` finds nothing just when no event has the name. -/
theorem find_eq_none (h : e.WellFormed) :
    e.find name = none ↔ ∀ event ∈ e.eventList, event.name ≠ name := by
  rw [find_eq h, List.find?_eq_none]
  simp only [decide_eq_true_iff, ne_eq]

/-- The handlers of an event are in its list. -/
theorem handlersOf_of_find (h : e.find name = some event) :
    e.handlersOf name = lib.nodes (e.lists event.handlers) := by
  rw [handlersOf, h]

/-- Without an event there are no handlers. -/
theorem handlersOf_of_find_none (h : e.find name = none) : e.handlersOf name = [] := by
  rw [handlersOf, h]

/-- Two names have different lists. -/
theorem handlers_ne (h : e.WellFormed) {name' : String} {event' : Event} (hname : name' ≠ name)
    (hfind : e.find name = some event) (hfind' : e.find name' = some event') :
    event'.handlers ≠ event.handlers := by
  obtain ⟨hmem, rfl⟩ := (find_eq_some h).1 hfind
  obtain ⟨hmem', rfl⟩ := (find_eq_some h).1 hfind'
  exact fun heq => hname (congrArg Event.name (List.inj_on_of_nodup_map h.pointers hmem' hmem heq))

theorem lists_setList_self (e : EventEmitter lib κ ε) (handlers : Nat) (l : lib.Lst (Handler κ ε)) :
    (e.setList handlers l).lists handlers = l := Function.update_self ..

theorem lists_setList_of_ne (e : EventEmitter lib κ ε) {handlers handlers' : Nat}
    (hne : handlers' ≠ handlers) (l : lib.Lst (Handler κ ε)) :
    (e.setList handlers l).lists handlers' = e.lists handlers' := Function.update_of_ne hne ..

/-- A list that is written back. -/
theorem setList_self (e : EventEmitter lib κ ε) (handlers : Nat) :
    e.setList handlers (e.lists handlers) = e := by
  rw [setList, Function.update_eq_self]

/-- The last list that is written. -/
theorem setList_setList (e : EventEmitter lib κ ε) (handlers : Nat) (l l' : lib.Lst (Handler κ ε)) :
    (e.setList handlers l).setList handlers l' = e.setList handlers l' := by
  rw [setList, setList, setList, Function.update_idem]

/-- A list that changes is the list of one name. -/
theorem handlersOf_setList (h : e.WellFormed) (hfind : e.find name = some event)
    (l : lib.Lst (Handler κ ε)) (name' : String) :
    (e.setList event.handlers l).handlersOf name' =
      if name' = name then lib.nodes l else e.handlersOf name' := by
  have hfind' : ∀ name, (e.setList event.handlers l).find name = e.find name := fun _ => rfl
  unfold handlersOf
  rw [hfind']
  by_cases hname : name' = name
  · rw [if_pos hname, hname, hfind]
    exact congrArg lib.nodes (lists_setList_self e event.handlers l)
  · rw [if_neg hname]
    cases hother : e.find name' with
    | none => rfl
    | some event' =>
        exact congrArg lib.nodes (lists_setList_of_ne e (handlers_ne h hname hfind hother) l)

/-- A list of handlers that loses some. -/
theorem wellFormed_setList (h : e.WellFormed) {handlers : Nat} {l : lib.Lst (Handler κ ε)}
    (hsub : (lib.nodes l).Sublist (lib.nodes (e.lists handlers))) :
    (e.setList handlers l).WellFormed where
  eventNodes := h.eventNodes
  eventAllocated := h.eventAllocated
  names := h.names
  pointers := h.pointers
  handlers := h.handlers
  nodes := fun handlers' => by
    by_cases heq : handlers' = handlers
    · rw [heq, lists_setList_self]
      exact (h.nodes handlers).sublist (hsub.map _)
    · rw [lists_setList_of_ne e heq]
      exact h.nodes handlers'
  allocated := fun handlers' => by
    by_cases heq : handlers' = handlers
    · rw [heq, lists_setList_self]
      exact fun n hn => h.allocated handlers n (hsub.subset hn)
    · rw [lists_setList_of_ne e heq]
      exact h.allocated handlers'
  unused := fun handlers' hle => by
    by_cases heq : handlers' = handlers
    · rw [heq, lists_setList_self]
      exact List.eq_nil_of_sublist_nil (h.unused handlers (heq ▸ hle) ▸ hsub)
    · rw [lists_setList_of_ne e heq]
      exact h.unused handlers' hle

/-! ## Adding a handler -/

/-- A new event comes last in the list of the events. -/
theorem eventList_eventNew (e : EventEmitter lib κ ε) (name : String) :
    (e.eventNew name).1.eventList = e.eventList ++ [{ name, handlers := e.allocated }] := by
  rw [eventList, eventNew, lib.nodes_rpush, List.map_append]
  rfl

/-- The lists of the other events stay. -/
theorem nodes_eventNew (h : e.WellFormed) (name : String) (handlers : Nat) :
    lib.nodes ((e.eventNew name).1.lists handlers) = lib.nodes (e.lists handlers) := by
  unfold eventNew
  dsimp only
  by_cases heq : handlers = e.allocated
  · rw [heq, Function.update_self, lib.nodes_new, h.unused _ le_rfl]
  · rw [Function.update_of_ne heq]

/-- A new event with a name of its own. -/
theorem wellFormed_eventNew (h : e.WellFormed) (hnone : e.find name = none) :
    (e.eventNew name).1.WellFormed where
  eventNodes := by
    rw [eventNew, lib.nodes_rpush, List.map_append]
    refine h.eventNodes.append (List.nodup_singleton _) fun node hmem hnew => ?_
    obtain ⟨n, hn, rfl⟩ := List.mem_map.1 hmem
    have hlt := h.eventAllocated n hn
    rw [List.mem_singleton.1 hnew] at hlt
    exact absurd hlt (by simp)
  eventAllocated := fun n hn => by
    rw [eventNew, lib.nodes_rpush] at hn
    rcases List.mem_append.1 hn with hn | hn
    · exact Nat.lt_add_right 2 (h.eventAllocated n hn)
    · rw [List.mem_singleton.1 hn]
      exact Nat.lt_succ_self _
  names := by
    rw [eventList_eventNew, List.map_append]
    refine h.names.append (List.nodup_singleton _) fun name' hmem hnew => ?_
    obtain ⟨event, hevent, rfl⟩ := List.mem_map.1 hmem
    exact (find_eq_none h).1 hnone event hevent (List.mem_singleton.1 hnew)
  pointers := by
    rw [eventList_eventNew, List.map_append]
    refine h.pointers.append (List.nodup_singleton _) fun handlers hmem hnew => ?_
    obtain ⟨event, hevent, rfl⟩ := List.mem_map.1 hmem
    exact (h.handlers event hevent).ne (List.mem_singleton.1 hnew)
  handlers := fun event hevent => by
    rw [eventList_eventNew] at hevent
    rcases List.mem_append.1 hevent with hevent | hevent
    · exact Nat.lt_add_right 2 (h.handlers event hevent)
    · rw [List.mem_singleton.1 hevent]
      exact Nat.lt_add_of_pos_right (by decide)
  nodes := fun handlers => by
    rw [nodes_eventNew h]
    exact h.nodes handlers
  allocated := fun handlers => by
    rw [nodes_eventNew h]
    exact fun n hn => Nat.lt_add_right 2 (h.allocated handlers n hn)
  unused := fun handlers hle => by
    rw [nodes_eventNew h]
    exact h.unused handlers ((Nat.le_add_right _ 2).trans hle)

/-- The new event is found under its name, and the others as before. -/
theorem find_eventNew (h : e.WellFormed) (hnone : e.find name = none) (name' : String) :
    (e.eventNew name).1.find name' =
      if name' = name then some { name, handlers := e.allocated } else e.find name' := by
  rw [find_eq (wellFormed_eventNew h hnone), find_eq h, eventList_eventNew, List.find?_append]
  by_cases hname : name' = name
  · rw [if_pos hname, hname, ← find_eq h, hnone]
    simp
  · rw [if_neg hname]
    simp [Ne.symm hname]

/-- A new event has no handlers, and the others keep theirs. -/
theorem handlersOf_eventNew (h : e.WellFormed) (hnone : e.find name = none) (name' : String) :
    (e.eventNew name).1.handlersOf name' = e.handlersOf name' := by
  unfold handlersOf
  rw [find_eventNew h hnone]
  by_cases hname : name' = name
  · rw [if_pos hname, hname, hnone]
    dsimp only
    rw [nodes_eventNew h]
    exact h.unused _ le_rfl
  · rw [if_neg hname]
    cases e.find name' with
    | none => rfl
    | some event => exact nodes_eventNew h name event.handlers

/-- What `push` does to the lists. -/
theorem nodes_push (e : EventEmitter lib κ ε) (event : Event) (handler : Handler κ ε) (handlers : Nat) :
    lib.nodes ((e.push event handler).lists handlers) =
      if handlers = event.handlers then lib.nodes (e.lists handlers) ++ [(e.allocated, handler)]
      else lib.nodes (e.lists handlers) := by
  change lib.nodes ((e.setList event.handlers _).lists handlers) = _
  by_cases heq : handlers = event.handlers
  · rw [if_pos heq, heq, lists_setList_self, lib.nodes_rpush]
  · rw [if_neg heq, lists_setList_of_ne e heq]

/-- A handler is appended to the list of an event. -/
theorem wellFormed_push (h : e.WellFormed) (hfind : e.find name = some event) (handler : Handler κ ε) :
    (e.push event handler).WellFormed where
  eventNodes := h.eventNodes
  eventAllocated := fun n hn => Nat.lt_succ_of_lt (h.eventAllocated n hn)
  names := h.names
  pointers := h.pointers
  handlers := fun event' hevent => Nat.lt_succ_of_lt (h.handlers event' hevent)
  nodes := fun handlers => by
    rw [nodes_push]
    split
    · rw [List.map_append]
      refine (h.nodes handlers).append (List.nodup_singleton _) fun node hmem hnew => ?_
      obtain ⟨n, hn, rfl⟩ := List.mem_map.1 hmem
      exact (h.allocated handlers n hn).ne (List.mem_singleton.1 hnew)
    · exact h.nodes handlers
  allocated := fun handlers n hn => by
    rw [nodes_push] at hn
    split at hn
    · rcases List.mem_append.1 hn with hn | hn
      · exact Nat.lt_succ_of_lt (h.allocated handlers n hn)
      · rw [List.mem_singleton.1 hn]
        exact Nat.lt_succ_self _
    · exact Nat.lt_succ_of_lt (h.allocated handlers n hn)
  unused := fun handlers hle => by
    have hlt : event.handlers < e.allocated := h.handlers event ((find_eq_some h).1 hfind).1
    have hne : handlers ≠ event.handlers := (hlt.trans_le ((Nat.le_succ _).trans hle)).ne'
    rw [nodes_push, if_neg hne]
    exact h.unused handlers ((Nat.le_succ _).trans hle)

/-- The handler is the last of its event, and the other events keep theirs. -/
theorem handlersOf_push (h : e.WellFormed) (hfind : e.find name = some event) (handler : Handler κ ε)
    (name' : String) :
    (e.push event handler).handlersOf name' =
      if name' = name then e.handlersOf name ++ [(e.allocated, handler)] else e.handlersOf name' := by
  refine (handlersOf_setList h hfind _ name').trans ?_
  rw [lib.nodes_rpush, handlersOf_of_find hfind]

/-- The emitter and the event to which `add` adds a handler. -/
theorem exists_push (h : e.WellFormed) (name : String) (handler : Handler κ ε) :
    ∃ (e' : EventEmitter lib κ ε) (event : Event), e.add name handler = e'.push event handler ∧
      e'.WellFormed ∧ e'.find name = some event ∧ e.allocated ≤ e'.allocated ∧
      (∀ name', e'.handlersOf name' = e.handlersOf name') ∧
      (∀ handlers, lib.nodes (e'.lists handlers) = lib.nodes (e.lists handlers)) ∧
      ∀ name', (e.find name').isSome = true → e'.find name' = e.find name' := by
  unfold add
  split
  case h_1 event hfind =>
    exact ⟨e, event, rfl, h, hfind, le_rfl, fun _ => rfl, fun _ => rfl, fun _ _ => rfl⟩
  case h_2 hnone =>
    refine ⟨(e.eventNew name).1, (e.eventNew name).2, rfl, wellFormed_eventNew h hnone, ?_,
      Nat.le_add_right _ 2, handlersOf_eventNew h hnone, nodes_eventNew h name, fun name' hsome => ?_⟩
    · rw [find_eventNew h hnone, if_pos rfl]
      rfl
    · rw [find_eventNew h hnone, if_neg]
      rintro rfl
      rw [hnone] at hsome
      cases hsome

/-- `ee__on` keeps the emitter well formed. -/
theorem wellFormed_add (h : e.WellFormed) (name : String) (handler : Handler κ ε) :
    (e.add name handler).WellFormed := by
  obtain ⟨e', event, heq, he', hfind, -⟩ := exists_push h name handler
  rw [heq]
  exact wellFormed_push he' hfind handler

/-- **Adding a handler** puts it behind those of its name. -/
theorem handlersOf_add (h : e.WellFormed) (name : String) (handler : Handler κ ε) :
    ∃ node, ∀ name', (e.add name handler).handlersOf name' =
      if name' = name then e.handlersOf name ++ [(node, handler)] else e.handlersOf name' := by
  obtain ⟨e', event, heq, he', hfind, -, hsame, -⟩ := exists_push h name handler
  refine ⟨e'.allocated, fun name' => ?_⟩
  rw [heq, handlersOf_push he' hfind, hsame, hsame]

/-- An event is there once a handler was added, and stays. -/
theorem find_add (h : e.WellFormed) (name : String) (handler : Handler κ ε) (name' : String) :
    (name' = name ∨ (e.find name').isSome = true) → ((e.add name handler).find name').isSome = true := by
  obtain ⟨e', event, heq, -, hfind, -, -, -, hold⟩ := exists_push h name handler
  rw [heq]
  change _ → (e'.find name').isSome = true
  rintro (rfl | hsome)
  · rw [hfind]
    rfl
  · rw [hold name' hsome]
    exact hsome

/-! ## Removing handlers -/

/-- A node is taken out of a list. -/
theorem wellFormed_listRemove (h : e.WellFormed) (handlers node : Nat) :
    (e.listRemove handlers node).WellFormed := by
  refine wellFormed_setList h ?_
  rw [lib.nodes_remove]
  exact List.filter_sublist

/-- The loop of `ee_remove_all_listeners` removes all the nodes. -/
theorem removeNodes_eq {bound : Nat} {l : lib.Lst (Handler κ ε)} {it : lib.Iter}
    (hnodup : ((lib.nodes l).map Prod.fst).Nodup)
    (hit : lib.upcoming it = (lib.nodes l).head?.map Prod.fst) (hbound : (lib.nodes l).length < bound) :
    ∃ l', removeNodes bound l it = some l' ∧ lib.nodes l' = [] := by
  generalize hns : lib.nodes l = ns at hnodup hit hbound
  induction ns generalizing bound l it with
  | nil =>
      obtain ⟨it', hnext⟩ := lib.next_end l it hit
      cases bound with
      | zero => exact absurd hbound (Nat.not_lt_zero _)
      | succ bound =>
          refine ⟨l, ?_, hns⟩
          rw [removeNodes, hnext]
  | cons n ns ih =>
      obtain ⟨it', hnext, hit'⟩ := lib.next_node l it [] ns n.1 n.2 hit hns List.not_mem_nil
      have hremoved : lib.nodes (lib.remove l n.1) = ns :=
        (ListLibrary.nodes_remove_of_append (hns.trans (List.nil_append _).symm)
          (by rw [hns]; exact hnodup)).trans (List.nil_append _)
      cases bound with
      | zero => exact absurd hbound (Nat.not_lt_zero _)
      | succ bound =>
          rw [removeNodes, hnext]
          exact ih hremoved (List.nodup_cons.1 hnodup).2 hit' (Nat.lt_of_succ_lt_succ hbound)

/-- `ee_remove_all_listeners` leaves an empty list. -/
theorem removeAllListeners_eq (h : e.WellFormed) (hfind : e.find name = some event) :
    ∃ l, e.removeAllListeners name = some (e.setList event.handlers l) ∧ lib.nodes l = [] := by
  obtain ⟨l, hl, hempty⟩ := removeNodes_eq (h.nodes event.handlers)
    (lib.upcoming_iterator (e.lists event.handlers)) (Nat.lt_succ_self _)
  refine ⟨l, ?_, hempty⟩
  rw [removeAllListeners, hfind]
  dsimp only
  rw [lib.len_eq, hl]
  rfl

/-- What `removeListener` does: the first node with the callback is removed, if there is one. -/
theorem removeListener_cases [DecidableEq κ] (e : EventEmitter lib κ ε) (name : String) (cb : κ) :
    e.removeListener name cb = e ∨ ∃ event node, e.find name = some event ∧
      lib.find (e.lists event.handlers) (fun handler => handler.cb = cb) = some node ∧
      e.removeListener name cb = e.listRemove event.handlers node := by
  unfold removeListener
  split
  case h_1 => exact .inl rfl
  case h_2 event hfind =>
    split
    case h_1 => exact .inl rfl
    case h_2 node hnode => exact .inr ⟨event, node, hfind, hnode, rfl⟩

/-- `ee_listener_count` is the number of the handlers, also of an event that there is not. -/
theorem listenerCount_eq (e : EventEmitter lib κ ε) (name : String) :
    e.listenerCount name = (e.handlersOf name).length := by
  unfold listenerCount handlersOf
  split
  case h_1 => rfl
  case h_2 event _ => exact lib.len_eq _

end

end EventEmitter

namespace State

variable {lib : ListLibrary} {κ ε β : Type} {s s' : State lib κ ε β}

/-- To call the next handler changes nothing of the emitter. -/
@[simp] theorem emitter_advance (s : State lib κ ε β) (handlers : Nat) (it : lib.Iter) (arg : Arg κ β) :
    (s.advance handlers it arg).emitter = s.emitter := by
  unfold advance
  split
  · rfl
  · rfl
  · split <;> rfl

/-- An emission that begins changes nothing of the emitter. -/
@[simp] theorem emitter_emit (s : State lib κ ε β) (name : String) (arg : Arg κ β) :
    (s.emit name arg).emitter = s.emitter := by
  unfold State.emit
  split
  · rfl
  · exact emitter_advance _ _ _ _

/-- `ee_on` adds the handler after it has told the others. -/
theorem emitter_on (s : State lib κ ε β) (name : String) (handler : Handler κ ε) :
    (s.on name handler).emitter = s.emitter.add name handler := by
  unfold State.on
  dsimp only
  split
  · exact emitter_emit _ _ _
  · rfl

/-- What the return of a handler does. -/
theorem ret_cases (hret : s.ret = some s') : ∃ frame frames, s.frames = frame :: frames ∧
    (lib.val (s.emitter.lists frame.handlers) frame.node = none ∧ s' = { s with frames, fault := true } ∨
      ∃ handler, lib.val (s.emitter.lists frame.handlers) frame.node = some handler ∧
        s' = State.advance
          { s with
            frames
            emitter :=
              if handler.once then s.emitter.listRemove frame.handlers frame.node else s.emitter }
          frame.handlers frame.it frame.arg) := by
  unfold State.ret at hret
  split at hret
  case h_1 => cases hret
  case h_2 frame frames hframes =>
    refine ⟨frame, frames, hframes, ?_⟩
    dsimp only at hret
    split at hret
    case h_1 hval => exact .inl ⟨hval, (Option.some.inj hret).symm⟩
    case h_2 handler hval => exact .inr ⟨handler, hval, (Option.some.inj hret).symm⟩

variable [DecidableEq κ]

/-- What a step is: a call, or the return of a handler. -/
theorem step_eq_some {act : Act κ ε β} : s.step act = some s' ↔ s.fault = false ∧
    ((∃ o, act = .op o ∧ s.call o = s') ∨ act = .ret ∧ s.ret = some s') := by
  cases hfault : s.fault <;> cases act <;> simp [step, hfault]

/-- What a step does to the emitter: it adds a handler, or it takes some away from one list. -/
theorem emitter_step (h : s.emitter.WellFormed) {act : Act κ ε β} (hstep : s.step act = some s') :
    (∃ name handler, s'.emitter = s.emitter.add name handler) ∨
      ∃ handlers l, (lib.nodes l).Sublist (lib.nodes (s.emitter.lists handlers)) ∧
        s'.emitter = s.emitter.setList handlers l := by
  have hsame : s'.emitter = s.emitter → ∃ handlers l,
      (lib.nodes l).Sublist (lib.nodes (s.emitter.lists handlers)) ∧
        s'.emitter = s.emitter.setList handlers l := fun heq =>
    ⟨0, s.emitter.lists 0, List.Sublist.refl _, by rw [heq, EventEmitter.setList_self]⟩
  have hremove : ∀ handlers node, s'.emitter = s.emitter.listRemove handlers node → ∃ handlers l,
      (lib.nodes l).Sublist (lib.nodes (s.emitter.lists handlers)) ∧
        s'.emitter = s.emitter.setList handlers l := fun handlers node heq =>
    ⟨handlers, _, by rw [lib.nodes_remove]; exact List.filter_sublist, heq⟩
  obtain ⟨-, ⟨o, rfl, rfl⟩ | ⟨rfl, hret⟩⟩ := step_eq_some.1 hstep
  · cases o with
    | on name once cb extraArg => exact .inl ⟨name, _, emitter_on s name _⟩
    | removeListener name cb =>
        right
        rcases EventEmitter.removeListener_cases s.emitter name cb with heq | ⟨event, node, -, -, heq⟩
        · exact hsame heq
        · exact hremove event.handlers node heq
    | removeAllListeners name =>
        right
        cases hfind : s.emitter.find name with
        | none =>
            refine hsame ?_
            rw [call, EventEmitter.removeAllListeners, hfind]
        | some event =>
            obtain ⟨l, hl, hempty⟩ := EventEmitter.removeAllListeners_eq h hfind
            refine ⟨event.handlers, l, by rw [hempty]; exact List.nil_sublist _, ?_⟩
            rw [call, hl]
    | emit name arg => exact .inr (hsame (emitter_emit s name _))
  · right
    obtain ⟨frame, frames, -, ⟨-, rfl⟩ | ⟨handler, -, rfl⟩⟩ := ret_cases hret
    · exact hsame rfl
    · rw [emitter_advance] at hsame hremove ⊢
      by_cases honce : handler.once = true
      · exact hremove frame.handlers frame.node (if_pos honce)
      · exact hsame (if_neg honce)

/-- Every step keeps the emitter well formed. -/
theorem wellFormed_step (h : s.emitter.WellFormed) {act : Act κ ε β} (hstep : s.step act = some s') :
    s'.emitter.WellFormed := by
  obtain ⟨name, handler, heq⟩ | ⟨handlers, l, hsub, heq⟩ := emitter_step h hstep
  · rw [heq]
    exact EventEmitter.wellFormed_add h name handler
  · rw [heq]
    exact EventEmitter.wellFormed_setList h hsub

/-- An event stays. -/
theorem find_step (h : s.emitter.WellFormed) {act : Act κ ε β} (hstep : s.step act = some s')
    {name : String} (hfind : (s.emitter.find name).isSome = true) :
    (s'.emitter.find name).isSome = true := by
  obtain ⟨name', handler, heq⟩ | ⟨handlers, l, -, heq⟩ := emitter_step h hstep
  · rw [heq]
    exact EventEmitter.find_add h name' handler name (.inr hfind)
  · rw [heq]
    exact hfind

/-- Every run keeps the emitter well formed. -/
theorem wellFormed_exec {acts : List (Act κ ε β)} (h : Machine.exec step s acts = some s')
    (hwf : s.emitter.WellFormed) : s'.emitter.WellFormed :=
  Machine.exec_inv (I := fun s => s.emitter.WellFormed) (fun _ _ _ hwf hstep => wellFormed_step hwf hstep) h
    hwf

end State

end KoreWebsocket.Emitter
