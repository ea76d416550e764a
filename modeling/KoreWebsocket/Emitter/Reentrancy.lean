import KoreWebsocket.Emitter.Listeners

/-!
# Handlers that call the emitter

An emission keeps pointers to two nodes while its handler runs: the node of that handler, for its `once`
flag, and the node that the iterator gives next. A handler may remove them. There is no fault as long as
the nodes that emissions hold are there (`Live`), and a step keeps it so exactly if it removes none of
them (`KeepsHeld`). An emission that holds a removed node uses it when its handler returns.
-/

namespace KoreWebsocket.Emitter

variable {lib : ListLibrary} {κ ε β : Type}

/-- An emission holds a pointer to the node of the handler that it calls and to the next one. -/
def Frame.Holds (frame : Frame lib κ β) (node : Nat) : Prop :=
  frame.node = node ∨ lib.upcoming frame.it = some node

namespace EventEmitter

/-- A node that is not removed. -/
def Has (e : EventEmitter lib κ ε) (handlers node : Nat) : Prop :=
  node ∈ (lib.nodes (e.lists handlers)).map Prod.fst

variable {e : EventEmitter lib κ ε} {handlers node : Nat}

/-- A node of a list was allocated. -/
theorem Has.lt (h : e.Has handlers node) (hwf : e.WellFormed) : node < e.allocated := by
  obtain ⟨n, hn, rfl⟩ := List.mem_map.1 h
  exact hwf.allocated handlers n hn

/-- The nodes of the list that is written. -/
theorem has_setList_self {l : lib.Lst (Handler κ ε)} :
    (e.setList handlers l).Has handlers node ↔ node ∈ (lib.nodes l).map Prod.fst := by
  rw [Has, lists_setList_self]

/-- The nodes of the lists that are not. -/
theorem has_setList_of_ne {handlers' : Nat} (hne : handlers' ≠ handlers) {l : lib.Lst (Handler κ ε)} :
    (e.setList handlers l).Has handlers' node ↔ e.Has handlers' node := by
  rw [Has, lists_setList_of_ne e hne, Has]

/-- A list that loses nodes gets none. -/
theorem Has.of_setList {handlers' : Nat} {l : lib.Lst (Handler κ ε)}
    (hsub : (lib.nodes l).Sublist (lib.nodes (e.lists handlers)))
    (h : (e.setList handlers l).Has handlers' node) : e.Has handlers' node := by
  by_cases heq : handlers' = handlers
  · subst heq
    exact (hsub.map Prod.fst).subset (has_setList_self.1 h)
  · exact (has_setList_of_ne heq).1 h

/-- A node is removed, and the others of the list stay. -/
theorem has_listRemove_self {node' : Nat} : (e.listRemove handlers node).Has handlers node' ↔
    e.Has handlers node' ∧ node' ≠ node := by
  rw [listRemove, has_setList_self, lib.nodes_remove]
  constructor
  · intro hmem
    obtain ⟨n, hn, rfl⟩ := List.mem_map.1 hmem
    obtain ⟨hmem, hne⟩ := List.mem_filter.1 hn
    exact ⟨List.mem_map_of_mem hmem, of_decide_eq_true hne⟩
  · rintro ⟨hmem, hne⟩
    obtain ⟨n, hn, rfl⟩ := List.mem_map.1 hmem
    exact List.mem_map_of_mem (List.mem_filter.2 ⟨hn, decide_eq_true hne⟩)

/-- Adding a handler allocates at least its node. -/
theorem allocated_add (hwf : e.WellFormed) (name : String) (handler : Handler κ ε) :
    e.allocated ≤ (e.add name handler).allocated := by
  obtain ⟨e', event, heq, -, -, hle, -⟩ := exists_push hwf name handler
  rw [heq]
  exact hle.trans (Nat.le_succ _)

/-- No node that is allocated comes or goes when a handler is added. -/
theorem has_add (hwf : e.WellFormed) (name : String) (handler : Handler κ ε)
    (hlt : node < e.allocated) : (e.add name handler).Has handlers node ↔ e.Has handlers node := by
  obtain ⟨e', event, heq, -, -, hle, -, hnodes, -⟩ := exists_push hwf name handler
  unfold Has
  rw [heq, nodes_push, hnodes]
  split
  · rw [List.map_append, List.mem_append]
    exact or_iff_left fun hmem => (hlt.trans_le hle).ne (List.mem_singleton.1 hmem)
  · rfl

end EventEmitter

namespace State

/-- What holds of every state that is reached: nodes that emissions hold are allocated, and the next node is
not the one of the handler that runs. -/
structure WellFormed (s : State lib κ ε β) : Prop where
  emitter : s.emitter.WellFormed
  allocated : ∀ frame ∈ s.frames, ∀ node, frame.Holds node → node < s.emitter.allocated
  next : ∀ frame ∈ s.frames, lib.upcoming frame.it ≠ some frame.node

/-- No emission holds a node that is removed. -/
def Live (s : State lib κ ε β) : Prop :=
  ∀ frame ∈ s.frames, ∀ node, frame.Holds node → s.emitter.Has frame.handlers node

/-- There was no fault, and there will be none if the handlers that run return. -/
structure Safe (s : State lib κ ε β) : Prop where
  fault : s.fault = false
  live : s.Live

/-- No node that an emission holds is removed, and all handlers are removed only of an event that is
there. -/
def KeepsHeld [DecidableEq κ] (s : State lib κ ε β) : Act κ ε β → Prop
  | .op (.removeListener name cb) =>
      ∀ event node, s.emitter.find name = some event →
        lib.find (s.emitter.lists event.handlers) (fun handler => handler.cb = cb) = some node →
          ∀ frame ∈ s.frames, frame.handlers = event.handlers → ¬ frame.Holds node
  | .op (.removeAllListeners name) =>
      ∃ event, s.emitter.find name = some event ∧ ∀ frame ∈ s.frames, frame.handlers ≠ event.handlers
  | .ret =>
      ∀ frame frames handler, s.frames = frame :: frames →
        lib.val (s.emitter.lists frame.handlers) frame.node = some handler → handler.once = true →
          ∀ frame' ∈ frames, frame'.handlers = frame.handlers → ¬ frame'.Holds frame.node
  | .op (.on ..) | .op (.emit ..) => True

section
variable {s s' : State lib κ ε β} {handlers : Nat} {it : lib.Iter} {arg : Arg κ β}

/-- What the loop of an emission does up to the next call: it ends, or its next node is removed, or it
calls the handler there. -/
theorem advance_cases (hwf : s.emitter.WellFormed) (handlers : Nat) (it : lib.Iter) (arg : Arg κ β) :
    (lib.upcoming it = none ∧ s.advance handlers it arg = s) ∨
    (∃ node, lib.upcoming it = some node ∧ ¬ s.emitter.Has handlers node ∧
      s.advance handlers it arg = { s with fault := true }) ∨
    ∃ node it' call, lib.upcoming it = some node ∧ s.emitter.Has handlers node ∧
      (∀ node', lib.upcoming it' = some node' → s.emitter.Has handlers node' ∧ node' ≠ node) ∧
      s.advance handlers it arg =
        { s with frames := { handlers, node, it := it', arg } :: s.frames, calls := s.calls ++ [call] } := by
  cases hit : lib.upcoming it with
  | none => exact .inl ⟨rfl, advance_of_end arg hit⟩
  | some node =>
      right
      by_cases hhas : s.emitter.Has handlers node
      · right
        obtain ⟨n, hn, rfl⟩ := List.mem_map.1 hhas
        obtain ⟨before, after, hnodes⟩ := List.append_of_mem hn
        have hnodup := hwf.nodes handlers
        rw [hnodes, List.map_append, List.map_cons, List.nodup_middle, List.nodup_cons, List.mem_append,
          not_or] at hnodup
        obtain ⟨it', hit', hadvance⟩ := advance_of_node arg hit hnodes hnodup.1.1
        refine ⟨n.1, it', _, rfl, hhas, fun node' hnode' => ?_, hadvance⟩
        rw [hit', Option.map_eq_some_iff] at hnode'
        obtain ⟨n', hn', rfl⟩ := hnode'
        have hmem : n' ∈ after := List.mem_of_head? hn'
        refine ⟨?_, fun heq => hnodup.1.2 (heq ▸ List.mem_map_of_mem hmem)⟩
        unfold EventEmitter.Has
        rw [hnodes]
        exact List.mem_map_of_mem (List.mem_append_right _ (List.mem_cons_of_mem _ hmem))
      · refine .inl ⟨node, rfl, hhas, ?_⟩
        rw [advance, lib.next_removed _ it node hit hhas]

/-- The next handler is called, or the emission is over. -/
theorem wellFormed_advance (h : s.WellFormed) : (s.advance handlers it arg).WellFormed := by
  obtain ⟨-, heq⟩ | ⟨node, -, -, heq⟩ | ⟨node, it', call, -, hhas, hnext, heq⟩ :=
    advance_cases h.emitter handlers it arg
  · rwa [heq]
  · rw [heq]
    exact ⟨h.emitter, h.allocated, h.next⟩
  · rw [heq]
    refine ⟨h.emitter, ?_, ?_⟩
    · intro frame hframe node' hholds
      rcases List.mem_cons.1 hframe with rfl | hframe
      · rcases hholds with rfl | hup
        · exact hhas.lt h.emitter
        · exact (hnext node' hup).1.lt h.emitter
      · exact h.allocated frame hframe node' hholds
    · intro frame hframe
      rcases List.mem_cons.1 hframe with rfl | hframe
      · exact fun hup => (hnext node hup).2 rfl
      · exact h.next frame hframe

/-- An emission that begins keeps the frames well formed. -/
theorem WellFormed.emit (h : s.WellFormed) (name : String) (arg : Arg κ β) :
    (s.emit name arg).WellFormed := by
  unfold State.emit
  split
  · exact h
  · exact wellFormed_advance h

/-- A handler that is added keeps the frames well formed. -/
theorem WellFormed.add (h : s.WellFormed) (name : String) (handler : Handler κ ε) :
    WellFormed { s with emitter := s.emitter.add name handler } where
  emitter := EventEmitter.wellFormed_add h.emitter name handler
  allocated := fun frame hframe node hholds =>
    (h.allocated frame hframe node hholds).trans_le (EventEmitter.allocated_add h.emitter name handler)
  next := h.next

/-- Nodes are taken out of a list. -/
theorem WellFormed.setList (h : s.WellFormed) {l : lib.Lst (Handler κ ε)}
    (hsub : (lib.nodes l).Sublist (lib.nodes (s.emitter.lists handlers))) :
    WellFormed { s with emitter := s.emitter.setList handlers l } where
  emitter := EventEmitter.wellFormed_setList h.emitter hsub
  allocated := h.allocated
  next := h.next

/-- An emission that ends leaves the others well formed. -/
theorem WellFormed.tail (h : s.WellFormed) {frame : Frame lib κ β} {frames : List (Frame lib κ β)}
    (hframes : s.frames = frame :: frames) : WellFormed { s with frames } where
  emitter := h.emitter
  allocated := fun frame' hframe' =>
    h.allocated frame' (hframes ▸ List.mem_cons_of_mem frame hframe')
  next := fun frame' hframe' => h.next frame' (hframes ▸ List.mem_cons_of_mem frame hframe')

/-! ## What one step keeps -/

/-- An emission goes on safely if its next node is there. -/
theorem safe_advance (h : s.WellFormed)
    (hnext : ∀ node, lib.upcoming it = some node → s.emitter.Has handlers node) :
    (s.advance handlers it arg).Safe ↔ s.Safe := by
  obtain ⟨-, heq⟩ | ⟨node, hit, hgone, -⟩ | ⟨node, it', call, -, hhas, hnext', heq⟩ :=
    advance_cases h.emitter handlers it arg
  · rw [heq]
  · exact absurd (hnext node hit) hgone
  · rw [heq]
    constructor
    · intro hsafe
      exact ⟨hsafe.fault, fun frame hframe => hsafe.live frame (List.mem_cons_of_mem _ hframe)⟩
    · intro hsafe
      refine ⟨hsafe.fault, fun frame hframe node' hholds => ?_⟩
      rcases List.mem_cons.1 hframe with rfl | hframe
      · rcases hholds with rfl | hup
        · exact hhas
        · exact (hnext' node' hup).1
      · exact hsafe.live frame hframe node' hholds

/-- An emission that begins frees nothing. -/
theorem safe_emit (h : s.WellFormed) (name : String) (arg : Arg κ β) :
    (s.emit name arg).Safe ↔ s.Safe := by
  unfold State.emit
  split
  · rfl
  · refine safe_advance h fun node hup => ?_
    rw [lib.upcoming_iterator, Option.map_eq_some_iff] at hup
    obtain ⟨n, hn, rfl⟩ := hup
    exact List.mem_map_of_mem (List.mem_of_head? hn)

/-- A handler that is added frees nothing. -/
theorem safe_add (h : s.WellFormed) (name : String) (handler : Handler κ ε) :
    Safe { s with emitter := s.emitter.add name handler } ↔ s.Safe := by
  have hhas : ∀ frame ∈ s.frames, ∀ node, frame.Holds node →
      ((s.emitter.add name handler).Has frame.handlers node ↔ s.emitter.Has frame.handlers node) :=
    fun frame hframe node hholds =>
      EventEmitter.has_add h.emitter name handler (h.allocated frame hframe node hholds)
  constructor
  · intro hsafe
    exact ⟨hsafe.fault, fun frame hframe node hholds =>
      (hhas frame hframe node hholds).1 (hsafe.live frame hframe node hholds)⟩
  · intro hsafe
    exact ⟨hsafe.fault, fun frame hframe node hholds =>
      (hhas frame hframe node hholds).2 (hsafe.live frame hframe node hholds)⟩

/-- Handlers are taken away from a list. -/
theorem safe_setList (hsafe : s.Safe) {l : lib.Lst (Handler κ ε)} :
    Safe { s with emitter := s.emitter.setList handlers l } ↔
      ∀ frame ∈ s.frames, frame.handlers = handlers → ∀ node, frame.Holds node →
        node ∈ (lib.nodes l).map Prod.fst := by
  constructor
  · rintro ⟨-, hlive⟩ frame hframe rfl node hholds
    exact EventEmitter.has_setList_self.1 (hlive frame hframe node hholds)
  · intro hkept
    refine ⟨hsafe.fault, fun frame hframe node hholds => ?_⟩
    by_cases heq : frame.handlers = handlers
    · subst heq
      exact EventEmitter.has_setList_self.2 (hkept frame hframe rfl node hholds)
    · exact (EventEmitter.has_setList_of_ne heq).2 (hsafe.live frame hframe node hholds)

/-- A node is removed safely if no emission holds it. -/
theorem safe_listRemove (hsafe : s.Safe) {node : Nat} :
    Safe { s with emitter := s.emitter.listRemove handlers node } ↔
      ∀ frame ∈ s.frames, frame.handlers = handlers → ¬ frame.Holds node := by
  refine (safe_setList hsafe).trans ?_
  constructor
  · intro hkept frame hframe heq hholds
    have hhas : (s.emitter.listRemove handlers node).Has handlers node :=
      EventEmitter.has_setList_self.2 (hkept frame hframe heq node hholds)
    exact (EventEmitter.has_listRemove_self.1 hhas).2 rfl
  · rintro hfree frame hframe rfl node' hholds
    refine EventEmitter.has_setList_self.1 (EventEmitter.has_listRemove_self.2
      ⟨hsafe.live frame hframe node' hholds, ?_⟩)
    rintro rfl
    exact hfree frame hframe rfl hholds

variable [DecidableEq κ]

/-- A handler is removed: the emissions must not be at its node. -/
theorem safe_removeListener (hsafe : s.Safe) (name : String) (cb : κ) :
    Safe { s with emitter := s.emitter.removeListener name cb } ↔
      s.KeepsHeld (.op (.removeListener name cb)) := by
  cases hfind : s.emitter.find name with
  | none =>
      have hremove : s.emitter.removeListener name cb = s.emitter := by
        rw [EventEmitter.removeListener, hfind]
      rw [hremove]
      refine iff_of_true hsafe fun event node hfind' => ?_
      cases hfind.symm.trans hfind'
  | some event =>
      cases hnode : lib.find (s.emitter.lists event.handlers) fun handler => handler.cb = cb with
      | none =>
          have hremove : s.emitter.removeListener name cb = s.emitter := by
            rw [EventEmitter.removeListener, hfind]
            dsimp only
            rw [hnode]
          rw [hremove]
          refine iff_of_true hsafe fun event' node hfind' hnode' => ?_
          cases hfind.symm.trans hfind'
          cases hnode.symm.trans hnode'
      | some node =>
          have hremove : s.emitter.removeListener name cb =
              s.emitter.listRemove event.handlers node := by
            rw [EventEmitter.removeListener, hfind]
            dsimp only
            rw [hnode]
          rw [hremove]
          refine (safe_listRemove hsafe).trans ⟨fun hfree event' node' hfind' hnode' => ?_,
            fun hkeeps => hkeeps event node hfind hnode⟩
          cases hfind.symm.trans hfind'
          cases hnode.symm.trans hnode'
          exact hfree

/-- All handlers of an event are removed: no emission may be at one of them. -/
theorem safe_removeAllListeners (h : s.WellFormed) (hsafe : s.Safe) (name : String) :
    (s.call (.removeAllListeners name)).Safe ↔ s.KeepsHeld (.op (.removeAllListeners name)) := by
  unfold State.call KeepsHeld
  dsimp only
  cases hfind : s.emitter.find name with
  | none =>
      rw [EventEmitter.removeAllListeners, hfind]
      refine iff_of_false (fun hsafe' => Bool.noConfusion hsafe'.fault) ?_
      rintro ⟨event, hevent, -⟩
      cases hevent
  | some event =>
      obtain ⟨l, hl, hempty⟩ := EventEmitter.removeAllListeners_eq h.emitter hfind
      rw [hl]
      refine (safe_setList hsafe).trans ⟨fun hkept => ⟨event, rfl, fun frame hframe heq => ?_⟩, ?_⟩
      · have hmem := hkept frame hframe heq frame.node (.inl rfl)
        rw [hempty] at hmem
        cases hmem
      · rintro ⟨event', ⟨⟩, hfree⟩ frame hframe heq
        exact absurd heq (hfree frame hframe)

/-- A handler returns: its node must not have been freed, and the next one is read from it. -/
theorem safe_ret (h : s.WellFormed) (hsafe : s.Safe) (hret : s.ret = some s') :
    s'.Safe ↔ s.KeepsHeld .ret := by
  obtain ⟨frame, frames, hframes, ⟨hval, -⟩ | ⟨handler, hval, rfl⟩⟩ := ret_cases hret
  · have hframe : frame ∈ s.frames := hframes ▸ List.mem_cons_self
    exact absurd (hsafe.live frame hframe frame.node (.inl rfl)) (ListLibrary.val_eq_none.1 hval)
  · have hframe : frame ∈ s.frames := hframes ▸ List.mem_cons_self
    have htail := h.tail hframes
    have hsafe' : Safe { s with frames } := ⟨hsafe.fault, fun frame' hframe' =>
      hsafe.live frame' (hframes ▸ List.mem_cons_of_mem frame hframe')⟩
    have hkeeps : s.KeepsHeld .ret ↔ (handler.once = true →
        ∀ frame' ∈ frames, frame'.handlers = frame.handlers → ¬ frame'.Holds frame.node) := by
      constructor
      · exact fun hkeeps => hkeeps frame frames handler hframes hval
      · intro hfree frame' frames' handler' hframes' hval'
        cases hframes.symm.trans hframes'
        cases hval.symm.trans hval'
        exact hfree
    rw [hkeeps]
    by_cases honce : handler.once = true
    · rw [if_pos honce]
      refine (safe_advance (htail.setList ?_) fun node hup => ?_).trans
        ((safe_listRemove hsafe').trans (imp_iff_right honce).symm)
      · rw [lib.nodes_remove]
        exact List.filter_sublist
      · refine EventEmitter.has_listRemove_self.2 ⟨hsafe.live frame hframe node (.inr hup), ?_⟩
        rintro rfl
        exact h.next frame hframe hup
    · rw [if_neg honce]
      refine (safe_advance htail fun node hup => hsafe.live frame hframe node (.inr hup)).trans ?_
      exact iff_of_true hsafe' fun hfalse => absurd hfalse honce

/-- Every step keeps the emissions well formed. -/
theorem WellFormed.step (h : s.WellFormed) {act : Act κ ε β} (hstep : s.step act = some s') :
    s'.WellFormed := by
  obtain ⟨-, ⟨o, rfl, rfl⟩ | ⟨rfl, hret⟩⟩ := step_eq_some.1 hstep
  · cases o with
    | on name once cb extraArg =>
        unfold call State.on
        dsimp only
        split
        · exact (h.add name _).emit newListener _
        · exact h.add name _
    | removeListener name cb =>
        unfold call
        dsimp only
        rcases EventEmitter.removeListener_cases s.emitter name cb with heq | ⟨event, node, -, -, heq⟩
        · rw [heq]
          exact h
        · rw [heq]
          refine h.setList ?_
          rw [lib.nodes_remove]
          exact List.filter_sublist
    | removeAllListeners name =>
        unfold call
        dsimp only
        cases hfind : s.emitter.find name with
        | none =>
            rw [EventEmitter.removeAllListeners, hfind]
            exact ⟨h.emitter, h.allocated, h.next⟩
        | some event =>
            obtain ⟨l, hl, hempty⟩ := EventEmitter.removeAllListeners_eq h.emitter hfind
            rw [hl]
            refine h.setList ?_
            rw [hempty]
            exact List.nil_sublist _
    | emit name arg => exact h.emit name _
  · obtain ⟨frame, frames, hframes, ⟨-, rfl⟩ | ⟨handler, -, rfl⟩⟩ := ret_cases hret
    · have htail := h.tail hframes
      exact ⟨htail.emitter, htail.allocated, htail.next⟩
    · refine wellFormed_advance ?_
      split
      · refine (h.tail hframes).setList ?_
        rw [lib.nodes_remove]
        exact List.filter_sublist
      · exact h.tail hframes

/-- **Step of safety.** A step keeps the nodes that emissions hold exactly if it removes none of them. -/
theorem safe_step_iff (h : s.WellFormed) (hsafe : s.Safe) {act : Act κ ε β}
    (hstep : s.step act = some s') : s'.Safe ↔ s.KeepsHeld act := by
  obtain ⟨-, ⟨o, rfl, rfl⟩ | ⟨rfl, hret⟩⟩ := step_eq_some.1 hstep
  · cases o with
    | on name once cb extraArg =>
        have hadd := (safe_add h name { cb, extraArg, once }).2 hsafe
        refine iff_of_true ?_ trivial
        unfold call State.on
        dsimp only
        split
        · exact (safe_emit (h.add name _) newListener _).2 hadd
        · exact hadd
    | removeListener name cb => exact safe_removeListener hsafe name cb
    | removeAllListeners name => exact safe_removeAllListeners h hsafe name
    | emit name arg => exact iff_of_true ((safe_emit h name _).2 hsafe) trivial
  · exact safe_ret h hsafe hret

/-! ## Removed nodes stay removed -/

omit [DecidableEq κ] in
/-- The other emissions stay where they are. -/
theorem mem_frames_advance (arg : Arg κ β) {frame : Frame lib κ β} (hframe : frame ∈ s.frames) :
    frame ∈ (s.advance handlers it arg).frames := by
  unfold advance
  split
  · exact hframe
  · exact hframe
  · split
    · exact hframe
    · exact List.mem_cons_of_mem _ hframe

omit [DecidableEq κ] in
/-- The other emissions stay where they are when one begins. -/
theorem mem_frames_emit (name : String) (arg : Arg κ β) {frame : Frame lib κ β}
    (hframe : frame ∈ s.frames) : frame ∈ (s.emit name arg).frames := by
  unfold State.emit
  split
  · exact hframe
  · exact mem_frames_advance arg hframe

/-- The other emissions stay where they are in every call. -/
theorem mem_frames_call (o : Op κ ε β) {frame : Frame lib κ β} (hframe : frame ∈ s.frames) :
    frame ∈ (s.call o).frames := by
  cases o with
  | on name once cb extraArg =>
      unfold call State.on
      dsimp only
      split
      · exact mem_frames_emit newListener _ hframe
      · exact hframe
  | removeListener name cb => exact hframe
  | removeAllListeners name =>
      unfold call
      dsimp only
      split <;> exact hframe
  | emit name arg => exact mem_frames_emit name _ hframe

/-- A node that is removed does not come back. -/
theorem has_of_step (h : s.WellFormed) {act : Act κ ε β} (hstep : s.step act = some s') {node : Nat}
    (hlt : node < s.emitter.allocated) (hhas : s'.emitter.Has handlers node) :
    s.emitter.Has handlers node := by
  obtain ⟨name, handler, heq⟩ | ⟨handlers', l, hsub, heq⟩ := emitter_step h.emitter hstep
  · rw [heq] at hhas
    exact (EventEmitter.has_add h.emitter name handler hlt).1 hhas
  · rw [heq] at hhas
    exact hhas.of_setList hsub

/-- **Step of a fault to come.** If an emission holds a node that is removed, then some emission still does
after a step, or it was used. -/
theorem fault_or_not_live (h : s.WellFormed) (hlive : ¬ s.Live) {act : Act κ ε β}
    (hstep : s.step act = some s') : s'.fault = true ∨ ¬ s'.Live := by
  simp only [Live, not_forall] at hlive
  obtain ⟨frame, hframe, node, hholds, hgone⟩ := hlive
  have hgone' : ¬ s'.emitter.Has frame.handlers node := fun hhas =>
    hgone (has_of_step h hstep (h.allocated frame hframe node hholds) hhas)
  obtain ⟨-, ⟨o, rfl, rfl⟩ | ⟨rfl, hret⟩⟩ := step_eq_some.1 hstep
  · exact .inr fun hlive => hgone' (hlive frame (mem_frames_call o hframe) node hholds)
  · obtain ⟨top, frames, hframes, ⟨-, rfl⟩ | ⟨handler, hval, rfl⟩⟩ := ret_cases hret
    · exact .inl rfl
    · rw [hframes] at hframe
      rcases List.mem_cons.1 hframe with rfl | hframe
      · rcases hholds with rfl | hup
        · exact absurd (ListLibrary.val_isSome.1 (Option.isSome_of_eq_some hval)) hgone
        · left
          rw [emitter_advance] at hgone'
          rw [advance, lib.next_removed _ frame.it node hup hgone']
      · exact .inr fun hlive => hgone' (hlive frame (mem_frames_advance top.arg hframe) node hholds)

/-- **Run to a fault.** -/
theorem fault_or_not_live_exec (h : s.WellFormed) (hlive : ¬ s.Live) {acts : List (Act κ ε β)}
    (hexec : Machine.exec step s acts = some s') : s'.fault = true ∨ ¬ s'.Live := by
  have hinv := Machine.exec_inv (I := fun s => s.WellFormed ∧ (s.fault = true ∨ ¬ s.Live))
    (fun s act s' hs hstep => ⟨hs.1.step hstep, ?_⟩) hexec ⟨h, .inr hlive⟩
  · exact hinv.2
  · rcases hs.2 with hfault | hlive
    · rw [(step_eq_some.1 hstep).1] at hfault
      cases hfault
    · exact fault_or_not_live hs.1 hlive hstep

end

/-! ## Runs -/

/-- Nothing differs but the list that has no nodes before and after. -/
structure Same (s s' : State lib κ ε β) : Prop where
  events : s'.emitter.events = s.emitter.events
  nodes : ∀ handlers, lib.nodes (s'.emitter.lists handlers) = lib.nodes (s.emitter.lists handlers)
  allocated : s'.emitter.allocated = s.emitter.allocated
  frames : s'.frames = s.frames
  calls : s'.calls = s.calls
  fault : s'.fault = s.fault

/-- A run from a new emitter that never uses a removed node or an event that is not there, and in which
`ee_remove_all_listeners` does nothing for a name without listeners. -/
structure SafeRun [DecidableEq κ] (lib : ListLibrary) (acts : List (Act κ ε β)) : Prop where
  fault : Machine.Always step (fun s => s.fault = false) ({} : State lib κ ε β) acts
  removals : ∀ pre name (s s' : State lib κ ε β), pre ++ [.op (.removeAllListeners name)] <+: acts →
    Machine.exec step {} pre = some s → s.emitter.listenerCount name = 0 →
      s.step (.op (.removeAllListeners name)) = some s' → s.Same s'

theorem wellFormed_new : WellFormed ({} : State lib κ ε β) where
  emitter := EventEmitter.wellFormed_new
  allocated := fun _ hframe => nomatch hframe
  next := fun _ hframe => nomatch hframe

/-- Without emissions none is at a freed node. -/
theorem safe_new : Safe ({} : State lib κ ε β) where
  fault := rfl
  live := fun _ hframe => nomatch hframe

section
variable [DecidableEq κ] {s s' : State lib κ ε β}

/-- Removing all handlers of an event without handlers does nothing. -/
theorem same_removeAllListeners (h : s.emitter.WellFormed) {name : String} {event : Event}
    (hfind : s.emitter.find name = some event) (hcount : s.emitter.listenerCount name = 0)
    (hstep : s.step (.op (.removeAllListeners name)) = some s') : s.Same s' := by
  obtain ⟨-, ⟨o, ho, rfl⟩ | ⟨hact, -⟩⟩ := step_eq_some.1 hstep
  · cases ho
    rw [EventEmitter.listenerCount_eq, EventEmitter.handlersOf_of_find hfind, List.length_eq_zero_iff]
      at hcount
    obtain ⟨l, hl, hempty⟩ := EventEmitter.removeAllListeners_eq h hfind
    rw [call, hl]
    refine ⟨rfl, fun handlers => ?_, rfl, rfl, rfl, rfl⟩
    by_cases heq : handlers = event.handlers
    · rw [heq, EventEmitter.lists_setList_self, hempty, hcount]
    · rw [EventEmitter.lists_setList_of_ne _ heq]
  · cases hact

/-- **When re-entrant calls are safe.** If no handler that an emission holds is removed, and all handlers
are removed only for names that are known, then no removed node is used. A run that breaks this uses one,
at the latest when its handlers have returned. -/
theorem safeRun_of_keepsHeld {acts : List (Act κ ε β)} (h : Machine.exec step {} acts = some s) :
    (Machine.Meets step KeepsHeld ({} : State lib κ ε β) acts → SafeRun lib acts) ∧
    (s.frames = [] → SafeRun lib acts → Machine.Meets step KeepsHeld ({} : State lib κ ε β) acts) := by
  have hsafe : Machine.Always step Safe ({} : State lib κ ε β) acts ↔ Machine.Meets step KeepsHeld {} acts :=
    Machine.always_iff_meets (fun _ _ _ hwf hstep => WellFormed.step hwf hstep)
      (fun _ _ _ hwf hs hstep => safe_step_iff hwf hs hstep) h wellFormed_new safe_new
  constructor
  · intro hkeeps
    refine ⟨fun pre s₁ hpre hs₁ => (hsafe.2 hkeeps pre s₁ hpre hs₁).fault, ?_⟩
    rintro pre name s₁ s₂ ⟨post, rfl⟩ hs₁ hcount hstep
    obtain ⟨event, hfind, -⟩ := ((Machine.meets_append.1 hkeeps.of_append).2 s₁ hs₁).1
    exact same_removeAllListeners (wellFormed_exec hs₁ EventEmitter.wellFormed_new) hfind hcount hstep
  · rintro hframes ⟨hfault, -⟩
    refine hsafe.1 fun pre s₁ hpre hs₁ => ⟨hfault pre s₁ hpre hs₁, ?_⟩
    by_contra hlive
    obtain ⟨post, rfl⟩ := hpre
    obtain ⟨s₂, hs₂, hrest⟩ := Machine.exec_append.1 h
    cases hs₁.symm.trans hs₂
    have hwf := Machine.exec_inv (fun _ _ _ hwf hstep => WellFormed.step hwf hstep) hs₁ wellFormed_new
    rcases fault_or_not_live_exec hwf hlive hrest with hbad | hbad
    · rw [hfault _ s (List.prefix_refl _) h] at hbad
      cases hbad
    · refine hbad fun frame hframe => ?_
      rw [hframes] at hframe
      cases hframe

/-- A once-handler. -/
theorem safeRun_of_keepsHeld_once : SafeRun .lists ([.op (.on "12345678" true 1 2),
    .op (.emit "12345678" 3), .ret] : List (Act Nat Nat Nat)) := by
  refine (safeRun_of_keepsHeld rfl).1 ⟨trivial, fun s h => ?_⟩
  cases h
  refine ⟨trivial, fun s h => ?_⟩
  cases h
  refine ⟨fun frame frames handler hframes _ _ frame' hframe' => ?_, fun _ _ => trivial⟩
  obtain ⟨-, rfl⟩ := List.cons.inj hframes
  cases hframe'

/-- `on_room_targetId` removes all handlers of its event, and the emission goes on with the handler that it
called. And all handlers are removed of an event that is not there. -/
theorem on_room_targetId_not_safeRun :
    ¬ SafeRun .lists ([.op (.on "12345678" false 1 2), .op (.emit "12345678" 3),
      .op (.removeAllListeners "12345678"), .ret] : List (Act Nat Nat Nat)) ∧
    ¬ SafeRun .lists ([.op (.removeAllListeners "12345678")] : List (Act Nat Nat Nat)) :=
  ⟨fun h => Bool.noConfusion (h.fault _ _ (List.prefix_refl _) rfl),
    fun h => Bool.noConfusion (h.fault _ _ (List.prefix_refl _) rfl)⟩

end

end State

end KoreWebsocket.Emitter
