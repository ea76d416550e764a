import KoreWebsocket.Lib.Table
import KoreWebsocket.Ice.IceServer

/-!
# The states of the ICE server

`Stored` is the invariant: there is a selected tuple exactly in the states `CONNECTED` and
`COMPLETED`, which are those with tuples, and the stored tuples are different. `hasTuple` stops its
search when no tuple is selected, so it finds every stored tuple only under the invariant
(`hasTuple_spec`). Each call keeps the invariant and passes its assertions, so every sequence of calls
returns (`every_sequence_consistent`).
-/

namespace KoreWebsocket.Ice

open Bytes (Fault ensure ensure_true)
open Stun (Message Authentication Crypto)

/-! ## Comparison -/

theorem compareAddresses_comm (a b : RemoteAddr) : compareAddresses a b = compareAddresses b a := by
  cases a <;> cases b <;> simp [compareAddresses, Bool.beq_comm]

theorem Tuple.compare_comm (a b : Tuple) : a.compare b = b.compare a := by
  cases a <;> cases b <;> simp [compare, compareAddresses_comm, Bool.beq_comm]

/-! ## The invariant -/

/-- What holds between the state, the stored tuples and the selected tuple. -/
structure Consistent (state : IceState) (tuples : List (Nat × Tuple)) (selectedTuple : Option Nat) :
    Prop where
  connected_iff : (state = .connected ∨ state = .completed) ↔ tuples ≠ []
  selected_iff : tuples ≠ [] ↔ selectedTuple ≠ none
  selected_mem : ∀ node, selectedTuple = some node → ∃ tuple, (node, tuple) ∈ tuples
  different : tuples.Pairwise fun a b => a.2.compare b.2 = false

/-- The nodes are numbered below the number of nodes, and differently. -/
structure Stored (state : IceState) (tuples : List (Nat × Tuple)) (selectedTuple : Option Nat)
    (nodes : Nat) : Prop extends Consistent state tuples selectedTuple where
  nodup : (tuples.map (·.1)).Nodup
  fresh : ∀ node ∈ tuples, node.1 < nodes

def IceServer.Inv (s : IceServer) : Prop := Stored s.state s.tuples s.selectedTuple s.nodes

section
variable {state state' : IceState} {tuples : List (Nat × Tuple)} {selectedTuple : Option Nat}
  {nodes : Nat}

/-- Another stored tuple is selected. -/
theorem Stored.select (h : Stored state tuples selectedTuple nodes) {node : Nat}
    (hmem : ∃ tuple, (node, tuple) ∈ tuples) : Stored state tuples (some node) nodes := by
  obtain ⟨tuple, hmem⟩ := hmem
  have hne : tuples ≠ [] := List.ne_nil_of_mem hmem
  exact {
    h with
    selected_iff := ⟨fun _ => Option.some_ne_none node, fun _ => hne⟩
    selected_mem := by rintro _ ⟨⟩; exact ⟨tuple, hmem⟩ }

/-- A new tuple is stored beside others. -/
theorem Stored.add (h : Stored state tuples selectedTuple nodes) (hne : tuples ≠ []) {tuple : Tuple}
    (hnew : ∀ storedTuple ∈ tuples, storedTuple.2.compare tuple = false) :
    Stored state ((nodes, tuple) :: tuples) selectedTuple (nodes + 1) where
  connected_iff := ⟨fun _ => List.cons_ne_nil _ _, fun _ => h.connected_iff.2 hne⟩
  selected_iff := ⟨fun _ => h.selected_iff.1 hne, fun _ => List.cons_ne_nil _ _⟩
  selected_mem := by
    intro node hnode
    obtain ⟨t, ht⟩ := h.selected_mem node hnode
    exact ⟨t, List.mem_cons_of_mem _ ht⟩
  different := by
    refine List.pairwise_cons.2 ⟨fun storedTuple hmem => ?_, h.different⟩
    rw [Tuple.compare_comm]
    exact hnew storedTuple hmem
  nodup := by
    rw [List.map_cons, List.nodup_cons]
    refine ⟨fun hmem => ?_, h.nodup⟩
    obtain ⟨storedTuple, hstored, heq⟩ := List.mem_map.1 hmem
    exact absurd (h.fresh storedTuple hstored) (by omega)
  fresh := by
    intro node hnode
    rcases List.mem_cons.1 hnode with rfl | hnode
    · exact Nat.lt_succ_self nodes
    · exact Nat.lt_succ_of_lt (h.fresh node hnode)

/-- The first tuple is stored and selected. -/
theorem Stored.first (tuple : Tuple) (hstate : state = .connected ∨ state = .completed) :
    Stored state [(nodes, tuple)] (some nodes) (nodes + 1) where
  connected_iff := ⟨fun _ => List.cons_ne_nil _ _, fun _ => hstate⟩
  selected_iff := ⟨fun _ => Option.some_ne_none nodes, fun _ => List.cons_ne_nil _ _⟩
  selected_mem := by rintro _ ⟨⟩; exact ⟨tuple, List.mem_singleton.2 rfl⟩
  different := List.pairwise_singleton _ _
  nodup := List.nodup_singleton _
  fresh := by
    intro node hnode
    rw [List.mem_singleton.1 hnode]
    exact Nat.lt_succ_self nodes

/-- The state changes between the two with tuples. -/
theorem Stored.connect (h : Stored state tuples selectedTuple nodes) (hne : tuples ≠ [])
    (hstate : state' = .connected ∨ state' = .completed) :
    Stored state' tuples selectedTuple nodes :=
  { h with connected_iff := ⟨fun _ => hne, fun _ => hstate⟩ }

/-- Without tuples the server is in one of the other states. -/
theorem Stored.none_selected (h : Stored state tuples selectedTuple nodes)
    (hstate : ¬ (state = .connected ∨ state = .completed)) : tuples = [] ∧ selectedTuple = none := by
  have hnil : tuples = [] := by
    by_contra hne
    exact hstate (h.connected_iff.2 hne)
  refine ⟨hnil, ?_⟩
  by_contra hsome
  exact h.selected_iff.2 hsome hnil

/-- A tuple is removed, and one of the others is selected. -/
theorem Stored.erase (h : Stored state tuples selectedTuple nodes) (p : Nat × Tuple → Bool)
    {node : Nat} {tuple : Tuple} (hmem : (node, tuple) ∈ tuples.eraseP p) :
    Stored state (tuples.eraseP p) (some node) nodes where
  connected_iff := ⟨fun _ => List.ne_nil_of_mem hmem, fun _ =>
    h.connected_iff.2 (List.ne_nil_of_mem (List.mem_of_mem_eraseP hmem))⟩
  selected_iff := ⟨fun _ => Option.some_ne_none node, fun _ => List.ne_nil_of_mem hmem⟩
  selected_mem := by rintro _ ⟨⟩; exact ⟨tuple, hmem⟩
  different := h.different.sublist List.eraseP_sublist
  nodup := h.nodup.sublist (List.eraseP_sublist.map _)
  fresh := fun node hnode => h.fresh node (List.mem_of_mem_eraseP hnode)

/-- The last tuple is removed. -/
theorem Stored.empty : Stored .disconnected [] none nodes where
  connected_iff := by simp
  selected_iff := by simp
  selected_mem := by simp
  different := .nil
  nodup := .nil
  fresh := by simp

/-- What is erased is what is found. -/
theorem mem_eraseP_of_find? {α : Type} {p : α → Bool} {l : List α} {x y : α}
    (hx : l.find? p = some x) (hy : y ∈ l) (hne : y ≠ x) : y ∈ l.eraseP p := by
  induction l with
  | nil => cases hy
  | cons a l ih =>
      cases hp : p a with
      | true =>
          rw [List.find?_cons_of_pos hp] at hx
          cases hx
          rw [List.eraseP_cons_of_pos hp]
          exact (List.mem_cons.1 hy).resolve_left hne
      | false =>
          have hp' : ¬ p a = true := by rw [hp]; exact Bool.false_ne_true
          rw [List.find?_cons_of_neg hp'] at hx
          rw [List.eraseP_cons_of_neg hp']
          rcases List.mem_cons.1 hy with rfl | hy
          · exact List.mem_cons_self
          · exact List.mem_cons_of_mem _ (ih hx hy)

end

/-! ## Every call keeps it -/

namespace IceServer

variable {s : IceServer}

@[simp] theorem setSelectedTuple_state (n : Nat) : (s.setSelectedTuple n).state = s.state := by
  unfold setSelectedTuple
  split <;> rfl

@[simp] theorem setSelectedTuple_tuples (n : Nat) : (s.setSelectedTuple n).tuples = s.tuples := by
  unfold setSelectedTuple
  split <;> rfl

@[simp] theorem setSelectedTuple_nodes (n : Nat) : (s.setSelectedTuple n).nodes = s.nodes := by
  unfold setSelectedTuple
  split <;> rfl

@[simp] theorem setSelectedTuple_selectedTuple (n : Nat) :
    (s.setSelectedTuple n).selectedTuple = some n := by
  unfold setSelectedTuple
  split
  case isTrue h => exact h.symm
  case isFalse => rfl

/-- A stored tuple is selected. -/
theorem Inv.setSelectedTuple (h : s.Inv) {n : Nat} (hmem : ∃ tuple, (n, tuple) ∈ s.tuples) :
    (s.setSelectedTuple n).Inv := by
  rw [Inv, setSelectedTuple_state, setSelectedTuple_tuples, setSelectedTuple_nodes,
    setSelectedTuple_selectedTuple]
  exact h.select hmem

/-- `hasTuple` returns; it finds a stored tuple, or there is none that compares equal. -/
theorem Inv.hasTuple_spec (h : s.Inv) (tuple : Tuple) :
    ∃ o, s.hasTuple tuple = .ok o ∧
      (o = none → ∀ storedTuple ∈ s.tuples, storedTuple.2.compare tuple = false) ∧
      ∀ node, o = some node → ∃ t, (node, t) ∈ s.tuples := by
  unfold hasTuple
  cases hsel : s.selectedTuple with
  | none =>
      have hnil : s.tuples = [] := by
        by_contra hne
        exact h.selected_iff.1 hne hsel
      refine ⟨none, rfl, fun _ storedTuple hmem => ?_, fun node hnode => (by cases hnode)⟩
      rw [hnil] at hmem
      cases hmem
  | some selectedTuple =>
      obtain ⟨t, ht⟩ := h.selected_mem selectedTuple hsel
      have hat : s.tupleAt selectedTuple = .ok t := by
        unfold tupleAt
        rw [(Table.lookup_eq_some_iff h.nodup).2 ht]
      dsimp only
      rw [hat, Checked.ok_bind]
      split
      · refine ⟨_, rfl, fun hnone => (by cases hnone), ?_⟩
        rintro _ ⟨⟩
        exact ⟨t, ht⟩
      · refine ⟨_, rfl, fun hnone storedTuple hmem => ?_, fun node hnode => ?_⟩
        · have hfind := List.find?_eq_none.1 (Option.map_eq_none_iff.1 hnone) storedTuple hmem
          exact Bool.eq_false_iff.2 hfind
        · obtain ⟨⟨n, t'⟩, hfind, rfl⟩ := Option.map_eq_some_iff.1 hnode
          exact ⟨t', List.mem_of_find?_eq_some hfind⟩

/-- A tuple is stored: the same server or one with one more tuple, and the state as it was. -/
theorem Inv.storeTuple_spec (h : s.Inv) (hne : s.tuples ≠ []) (tuple : Tuple) :
    ∃ s' n, s.storeTuple tuple = .ok (s', n) ∧ s'.Inv ∧ s'.tuples ≠ [] ∧
      ∃ t, (n, t) ∈ s'.tuples := by
  obtain ⟨o, ho, hnone, hsome⟩ := h.hasTuple_spec tuple
  unfold storeTuple
  rw [ho, Checked.ok_bind]
  cases o with
  | none => exact ⟨_, _, rfl, h.add hne (hnone rfl), List.cons_ne_nil _ _, tuple, List.mem_cons_self⟩
  | some n => exact ⟨s, n, rfl, h, hne, hsome n rfl⟩

/-- The first tuple is stored, and selected in the new state. -/
theorem Inv.handleFirstTuple (h : s.Inv) (hstate : ¬ (s.state = .connected ∨ s.state = .completed))
    (name : String) (tuple : Tuple) (hasUseCandidate : Bool) :
    ∃ s', s.handleFirstTuple name tuple hasUseCandidate = .ok s' ∧ s'.Inv := by
  obtain ⟨htuples, hselected⟩ := h.none_selected hstate
  unfold IceServer.handleFirstTuple
  rw [ensure_true htuples, Checked.ok_bind, ensure_true hselected, Checked.ok_bind]
  dsimp only
  split
  all_goals
    refine ⟨_, rfl, ?_⟩
    simp only [Inv, notify, setSelectedTuple_tuples, setSelectedTuple_nodes,
      setSelectedTuple_selectedTuple, addTuple, htuples]
    exact Stored.first tuple (by simp)

/-- The assertion of the connected states holds. -/
theorem Inv.ensureConnected (h : s.Inv) (hstate : s.state = .connected ∨ s.state = .completed)
    (name : String) : s.ensureConnected name = .ok () := by
  have hne := h.connected_iff.1 hstate
  unfold IceServer.ensureConnected
  rw [ensure_true hne, Checked.ok_bind, ensure_true (h.selected_iff.1 hne)]

/-- `HandleTuple` passes its assertions in every state. -/
theorem Inv.handleTuple (h : s.Inv) (tuple : Tuple) (hasUseCandidate : Bool) :
    ∃ s', s.handleTuple tuple hasUseCandidate = .ok s' ∧ s'.Inv := by
  unfold IceServer.handleTuple
  cases hstate : s.state with
  | new => exact h.handleFirstTuple (by simp [hstate]) _ tuple hasUseCandidate
  | disconnected => exact h.handleFirstTuple (by simp [hstate]) _ tuple hasUseCandidate
  | connected =>
      obtain ⟨s', n, hstore, hs', hne, hmem⟩ :=
        h.storeTuple_spec (h.connected_iff.1 (.inl hstate)) tuple
      dsimp only
      rw [h.ensureConnected (.inl hstate), Checked.ok_bind, hstore, Checked.ok_bind]
      dsimp only
      split
      · refine ⟨_, rfl, ?_⟩
        have hselected : (s'.setSelectedTuple n).Inv := hs'.setSelectedTuple hmem
        exact hselected.connect (by rw [setSelectedTuple_tuples]; exact hne) (.inr rfl)
      · exact ⟨s', rfl, hs'⟩
  | completed =>
      obtain ⟨s', n, hstore, hs', -, hmem⟩ :=
        h.storeTuple_spec (h.connected_iff.1 (.inr hstate)) tuple
      dsimp only
      rw [h.ensureConnected (.inr hstate), Checked.ok_bind, hstore, Checked.ok_bind]
      dsimp only
      split
      · exact ⟨_, rfl, hs'.setSelectedTuple hmem⟩
      · exact ⟨s', rfl, hs'⟩

/-- A tuple is removed, and another one selected if it was that. -/
theorem Inv.removeTuple (h : s.Inv) (tuple : Tuple) : (s.removeTuple tuple).Inv := by
  unfold IceServer.removeTuple
  split
  · exact h
  case h_2 removedTuple t hfind =>
    have hne : s.tuples ≠ [] := List.ne_nil_of_mem (List.mem_of_find?_eq_some hfind)
    dsimp only
    split
    case isTrue hother =>
      -- the selected tuple is another one and stays
      obtain ⟨node, hnode⟩ := Option.ne_none_iff_exists'.1 (h.selected_iff.1 hne)
      obtain ⟨t', ht'⟩ := h.selected_mem node hnode
      have hmem := mem_eraseP_of_find? hfind ht' (by rintro ⟨⟩; exact hother hnode.symm)
      have herase := h.erase _ hmem
      rw [← hnode] at herase
      exact herase
    case isFalse hselected =>
      split
      case h_1 first t' rest hrest =>
        have hmem : (first, t') ∈ s.tuples.eraseP fun storedTuple => storedTuple.2.compare tuple := by
          rw [hrest]
          exact List.mem_cons_self
        have herase := h.erase _ hmem
        rw [Inv, setSelectedTuple_state, setSelectedTuple_tuples, setSelectedTuple_nodes,
          setSelectedTuple_selectedTuple]
        exact herase
      case h_2 hrest =>
        rw [hrest]
        exact Stored.empty

/-- `ForceSelectedTuple` passes its assertions for a tuple that `IsValidTuple` accepts. -/
theorem Inv.forceValidTuple (h : s.Inv) (tuple : Tuple) :
    ∃ s', s.forceValidTuple tuple = .ok s' ∧ s'.Inv := by
  obtain ⟨o, ho, -, hsome⟩ := h.hasTuple_spec tuple
  unfold IceServer.forceValidTuple isValidTuple
  rw [ho]
  cases o with
  | none => exact ⟨s, rfl, h⟩
  | some node =>
      obtain ⟨t, ht⟩ := hsome node rfl
      refine ⟨s.setSelectedTuple node, ?_, h.setSelectedTuple ⟨t, ht⟩⟩
      have hselected := h.selected_iff.1 (List.ne_nil_of_mem ht)
      simp only [Functor.map, Except.map, Option.isSome_some, Checked.ok_bind, if_true]
      unfold forceSelectedTuple
      rw [ensure_true hselected, Checked.ok_bind, ho]
      rfl

/-- A request that is authenticated: a binding request with a fingerprint and the three attributes,
for which `CheckAuthentication` returns `OK`. -/
structure Authenticated (s : IceServer) (c : Crypto) (msg : Message) (overread : Authentication) :
    Prop where
  binding : msg.method = Stun.binding
  request : msg.klass = .request
  fingerprint : msg.hasFingerprint = true
  messageIntegrity : msg.messageIntegrity ≠ none
  username : msg.username ≠ []
  priority : msg.priority ≠ 0
  authentication : s.authentication c msg overread = .ok

/-- An error can be replied to a request. -/
theorem replyError_ok {msg : Message} (h : msg.klass = .request) (errorCode : UInt16) (tuple : Tuple) :
    ∃ call, s.replyError msg errorCode tuple = .ok (s.notify call) := by
  unfold replyError
  rw [ensure_true h, Checked.ok_bind]
  exact ⟨_, rfl⟩

/-- **Everything a message can do.** It is ignored, gets an error response, or is authenticated; then it
gets a success response and its tuple is handled. -/
theorem processStunMessage_cases (s : IceServer) (c : Crypto) (msg : Message) (tuple : Tuple)
    (overread : Authentication) :
    s.processStunMessage c msg tuple overread = .ok s ∨
      (∃ call, s.processStunMessage c msg tuple overread = .ok (s.notify call)) ∨
      (s.Authenticated c msg overread ∧ ∃ call, s.processStunMessage c msg tuple overread =
        (s.notify call).handleTuple tuple msg.hasUseCandidate) := by
  unfold processStunMessage
  split
  · split
    case isTrue hrequest => exact .inr (.inl (replyError_ok hrequest 400 tuple))
    case isFalse => exact .inl rfl
  case isFalse hmethod =>
    split
    · split
      case isTrue hrequest => exact .inr (.inl (replyError_ok hrequest 400 tuple))
      case isFalse => exact .inl rfl
    case isFalse hfingerprint =>
      split
      case h_1 hrequest =>
        split
        · exact .inr (.inl (replyError_ok hrequest 400 tuple))
        case isFalse hattributes =>
          rw [not_or, not_or] at hattributes
          split
          case h_1 hauth =>
            refine .inr (.inr ⟨⟨not_not.1 hmethod, hrequest, ?_, hattributes.1, hattributes.2.2,
              hattributes.2.1, hauth⟩, ?_⟩)
            · by_contra hfalse
              exact hfingerprint ⟨Bool.eq_false_iff.2 hfalse, by rw [hrequest]; exact nofun⟩
            · unfold replySuccess
              rw [ensure_true hrequest, Checked.ok_bind]
              exact ⟨_, rfl⟩
          · exact .inr (.inl (replyError_ok hrequest 401 tuple))
          · exact .inr (.inl (replyError_ok hrequest 400 tuple))
      all_goals exact .inl rfl

/-- Every STUN message is processed without a failing assertion. -/
theorem Inv.processStunMessage (h : s.Inv) (c : Crypto) (msg : Message) (tuple : Tuple)
    (overread : Authentication) :
    ∃ s', s.processStunMessage c msg tuple overread = .ok s' ∧ s'.Inv := by
  rcases s.processStunMessage_cases c msg tuple overread with heq | ⟨call, heq⟩ | ⟨-, call, heq⟩
  · exact ⟨s, heq, h⟩
  · exact ⟨_, heq, h⟩
  · rw [heq]
    exact Inv.handleTuple (s := s.notify call) h tuple msg.hasUseCandidate

end IceServer

/-- Every call returns and keeps the invariant. -/
theorem step_inv (c : Crypto) (s : IceServer) (e : Event) (h : s.Inv) :
    ∃ s', step c s e = .ok s' ∧ s'.Inv := by
  cases e with
  | processStunMessage msg tuple overread => exact h.processStunMessage c msg tuple overread
  | removeTuple tuple => exact ⟨_, rfl, h.removeTuple tuple⟩
  | forceSelectedTuple tuple => exact h.forceValidTuple tuple
  | setUsernameFragment usernameFragment => exact ⟨_, rfl, h⟩
  | setPassword password => exact ⟨_, rfl, h⟩

/-- The server begins without tuples. -/
theorem inv_new (usernameFragment password : List UInt8) :
    ({ usernameFragment, password } : IceServer).Inv where
  connected_iff := by simp
  selected_iff := by simp
  selected_mem := by simp
  different := .nil
  nodup := .nil
  fresh := by simp

/-- **The states of the ICE server.** Every sequence of calls on a new server returns, so that no
assertion fails; the state it ends in is consistent; and a message then changes the state, the tuples
or the selected tuple only if it is authenticated. -/
theorem every_sequence_consistent (c : Crypto) (usernameFragment password : List UInt8)
    (es : List Event) :
    ∃ s, run c { usernameFragment, password } es = .ok s ∧
      Consistent s.state s.tuples s.selectedTuple ∧
      ∀ msg tuple overread s', s.processStunMessage c msg tuple overread = .ok s' →
        (s'.state ≠ s.state ∨ s'.tuples ≠ s.tuples ∨ s'.selectedTuple ≠ s.selectedTuple) →
        s.Authenticated c msg overread := by
  obtain ⟨s, hrun, hinv⟩ := Checked.foldlM_ok (step_inv c) es _ (inv_new usernameFragment password)
  refine ⟨s, hrun, hinv.toConsistent, fun msg tuple overread s' hs' hchange => ?_⟩
  rcases s.processStunMessage_cases c msg tuple overread with heq | ⟨call, heq⟩ | ⟨hauth, -⟩
  · rw [heq] at hs'
    cases hs'
    simp at hchange
  · rw [heq] at hs'
    cases hs'
    simp [IceServer.notify] at hchange
  · exact hauth

end KoreWebsocket.Ice
