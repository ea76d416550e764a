import KoreWebsocket.Ice.States

/-!
# What the ICE server tells its listener

Each call of the server tells the listener of the responses that it sends, then of the selected tuple if
that is another one, then of the state if that has changed, and of nothing else (`Tells`). A tuple is stored
only for a message that is authenticated (`processStunMessage_tuples`).
-/

namespace KoreWebsocket.Ice

open Stun (Message Authentication Crypto)

namespace IceServer

/-- `OnIceSelectedTuple`, if another tuple is selected. -/
def selectedCalls (before after : IceServer) : List Call :=
  if after.selectedTuple = before.selectedTuple then []
  else (after.selectedTuple.map Call.onIceSelectedTuple).toList

/-- The call for a state. -/
def stateCall : IceState → List Call
  | .new => []
  | .connected => [.onIceConnected]
  | .completed => [.onIceCompleted]
  | .disconnected => [.onIceDisconnected]

/-- The call for the state, if it has changed. -/
def stateCalls (before after : IceServer) : List Call :=
  if after.state = before.state then [] else stateCall after.state

/-- The calls, newest first, tell of the change, after these responses to the tuple. -/
structure Tells (tuple : Tuple) (msgs : List Message) (before after : IceServer) : Prop where
  calls : after.calls =
    stateCalls before after ++ (selectedCalls before after ++
      (msgs.map (Call.onOutgoingStunMessage · tuple) ++ before.calls))
  new : after.state = .new → before.state = .new

variable {s s' : IceServer} {tuple : Tuple} {msgs : List Message}

/-- The selected tuple stays, and nothing is told. -/
theorem selectedCalls_of_eq (h : s'.selectedTuple = s.selectedTuple) : selectedCalls s s' = [] :=
  if_pos h

/-- The state stays, and nothing is told. -/
theorem stateCalls_of_eq (h : s'.state = s.state) : stateCalls s s' = [] := if_pos h

/-- The state changes, and the new one is told. -/
theorem stateCalls_of_ne (h : s'.state ≠ s.state) : stateCalls s s' = stateCall s'.state := if_neg h

/-- Nothing is told when nothing has changed. -/
theorem Tells.of_eq (hstate : s'.state = s.state) (hselected : s'.selectedTuple = s.selectedTuple)
    (hcalls : s'.calls = s.calls) : s.Tells tuple [] s' where
  calls := by rw [stateCalls_of_eq hstate, selectedCalls_of_eq hselected]; exact hcalls
  new := hstate ▸ fun h => h

theorem Tells.refl : s.Tells tuple [] s := .of_eq rfl rfl rfl

/-- A response is sent before. -/
theorem Tells.notify {msg : Message}
    (h : (s.notify (.onOutgoingStunMessage msg tuple)).Tells tuple msgs s') :
    s.Tells tuple (msgs ++ [msg]) s' := by
  refine ⟨h.calls.trans ?_, h.new⟩
  rw [List.map_append, List.append_assoc]
  rfl

/-- The calls of `SetSelectedTuple`. -/
theorem setSelectedTuple_calls (n : Nat) : (s.setSelectedTuple n).calls =
    (if some n = s.selectedTuple then [] else [.onIceSelectedTuple n]) ++ s.calls := by
  unfold setSelectedTuple
  split <;> rfl

/-- A tuple that is selected is told unless it is the selected one. -/
theorem selectedCalls_setSelectedTuple {n : Nat}
    (h : some n = s'.selectedTuple ↔ some n = s.selectedTuple) :
    selectedCalls s (s'.setSelectedTuple n) =
      if some n = s'.selectedTuple then [] else [.onIceSelectedTuple n] := by
  unfold selectedCalls
  simp only [setSelectedTuple_selectedTuple, h]
  rfl

/-- A tuple is selected, and the state stays. -/
theorem tells_setSelectedTuple (n : Nat) (hstate : s'.state = s.state)
    (hselected : some n = s'.selectedTuple ↔ some n = s.selectedTuple) (hcalls : s'.calls = s.calls) :
    s.Tells tuple [] (s'.setSelectedTuple n) := by
  refine ⟨?_, fun hnew => hstate.symm.trans ((setSelectedTuple_state n).symm.trans hnew)⟩
  rw [stateCalls_of_eq ((setSelectedTuple_state n).trans hstate)]
  rw [setSelectedTuple_calls, selectedCalls_setSelectedTuple hselected, hcalls]
  rfl

/-- A tuple is selected, and then the state changes. -/
theorem tells_setSelectedTuple_state (n : Nat) {state : IceState} {call : Call} (hstate : state ≠ s.state)
    (hcall : stateCall state = [call])
    (hselected : some n = s'.selectedTuple ↔ some n = s.selectedTuple)
    (hcalls : s'.calls = s.calls) :
    s.Tells tuple [] (IceServer.notify { s'.setSelectedTuple n with state } call) := by
  refine ⟨?_, fun hnew => by rw [show state = .new from hnew] at hcall; cases hcall⟩
  rw [stateCalls_of_ne hstate]
  change call :: (s'.setSelectedTuple n).calls = stateCall state ++ _
  rw [hcall]
  rw [setSelectedTuple_calls, hcalls,
    show selectedCalls s (IceServer.notify { s'.setSelectedTuple n with state } call) =
      selectedCalls s (s'.setSelectedTuple n) from rfl, selectedCalls_setSelectedTuple hselected]
  rfl

/-- The first tuple: it is stored and selected, and the state is told after it. -/
theorem handleFirstTuple_tells {name : String} {hasUseCandidate : Bool}
    (hstate : s.state ≠ .connected ∧ s.state ≠ .completed)
    (h : s.handleFirstTuple name tuple hasUseCandidate = .ok s') : s.Tells tuple [] s' := by
  unfold handleFirstTuple at h
  obtain ⟨-, -, h⟩ := Checked.bind_eq_ok.1 h
  obtain ⟨-, -, h⟩ := Checked.bind_eq_ok.1 h
  cases hasUseCandidate with
  | true =>
      cases h
      exact tells_setSelectedTuple_state _ hstate.2.symm rfl .rfl rfl
  | false =>
      cases h
      exact tells_setSelectedTuple_state _ hstate.1.symm rfl .rfl rfl

/-- A stored tuple does not change what is told. -/
theorem storeTuple_kept {n : Nat} (h : s.storeTuple tuple = .ok (s', n)) :
    s'.state = s.state ∧ s'.selectedTuple = s.selectedTuple ∧ s'.calls = s.calls ∧
      ∀ storedTuple ∈ s'.tuples, storedTuple ∈ s.tuples ∨ storedTuple = (s.nodes, tuple) := by
  unfold storeTuple at h
  obtain ⟨found, -, h⟩ := Checked.bind_eq_ok.1 h
  cases found with
  | none =>
      cases h
      refine ⟨rfl, rfl, rfl, fun storedTuple hmem => ?_⟩
      rcases List.mem_cons.1 hmem with rfl | hmem
      · exact .inr rfl
      · exact .inl hmem
  | some n =>
      cases h
      exact ⟨rfl, rfl, rfl, fun storedTuple hmem => .inl hmem⟩

/-- `HandleTuple` tells what it has changed, in each state. -/
theorem handleTuple_tells {hasUseCandidate : Bool} (h : s.handleTuple tuple hasUseCandidate = .ok s') :
    s.Tells tuple [] s' := by
  unfold handleTuple at h
  cases hstate : s.state with
  | new =>
      rw [hstate] at h
      exact handleFirstTuple_tells (by rw [hstate]; exact ⟨nofun, nofun⟩) h
  | disconnected =>
      rw [hstate] at h
      exact handleFirstTuple_tells (by rw [hstate]; exact ⟨nofun, nofun⟩) h
  | connected =>
      rw [hstate] at h
      obtain ⟨-, -, h⟩ := Checked.bind_eq_ok.1 h
      obtain ⟨⟨s₁, n⟩, hstore, h⟩ := Checked.bind_eq_ok.1 h
      obtain ⟨hstate₁, hselected, hcalls, -⟩ := storeTuple_kept hstore
      cases hasUseCandidate with
      | true =>
          cases h
          exact tells_setSelectedTuple_state n (by rw [hstate]; exact nofun) rfl (by rw [hselected]) hcalls
      | false =>
          cases h
          exact .of_eq hstate₁ hselected hcalls
  | completed =>
      rw [hstate] at h
      obtain ⟨-, -, h⟩ := Checked.bind_eq_ok.1 h
      obtain ⟨⟨s₁, n⟩, hstore, h⟩ := Checked.bind_eq_ok.1 h
      obtain ⟨hstate₁, hselected, hcalls, -⟩ := storeTuple_kept hstore
      cases hasUseCandidate with
      | true =>
          cases h
          exact tells_setSelectedTuple n hstate₁ (by rw [hselected]) hcalls
      | false =>
          cases h
          exact .of_eq hstate₁ hselected hcalls

/-- An error response is sent, and nothing else changes. -/
theorem replyError_eq {msg : Message} {errorCode : UInt16}
    (h : s.replyError msg errorCode tuple = .ok s') :
    ∃ response, s' = s.notify (.onOutgoingStunMessage response tuple) := by
  unfold replyError at h
  obtain ⟨-, -, h⟩ := Checked.bind_eq_ok.1 h
  cases h
  exact ⟨_, rfl⟩

/-- **What a message does.** There may be a response to the tuple; only if the message is authenticated the
tuple is then handled. -/
theorem processStunMessage_eq {c : Crypto} {msg : Message} {overread : Authentication}
    (h : s.processStunMessage c msg tuple overread = .ok s') :
    s' = s ∨ (∃ response, s' = s.notify (.onOutgoingStunMessage response tuple)) ∨
      (s.Authenticated c msg overread ∧ ∃ response,
        (s.notify (.onOutgoingStunMessage response tuple)).handleTuple tuple msg.hasUseCandidate =
          .ok s') := by
  unfold processStunMessage at h
  split at h
  · split at h
    · exact .inr (.inl (replyError_eq h))
    · cases h
      exact .inl rfl
  case isFalse hmethod =>
    split at h
    · split at h
      · exact .inr (.inl (replyError_eq h))
      · cases h
        exact .inl rfl
    case isFalse hfingerprint =>
      split at h
      case h_1 hrequest =>
        split at h
        · exact .inr (.inl (replyError_eq h))
        case isFalse hattributes =>
          rw [not_or, not_or] at hattributes
          split at h
          case h_1 hauth =>
            obtain ⟨s₁, hreply, h⟩ := Checked.bind_eq_ok.1 h
            unfold replySuccess at hreply
            obtain ⟨-, -, hreply⟩ := Checked.bind_eq_ok.1 hreply
            cases hreply
            refine .inr (.inr ⟨⟨not_not.1 hmethod, hrequest, ?_, hattributes.1, hattributes.2.2,
              hattributes.2.1, hauth⟩, _, h⟩)
            by_contra hfalse
            exact hfingerprint ⟨Bool.eq_false_iff.2 hfalse, by rw [hrequest]; exact nofun⟩
          · exact .inr (.inl (replyError_eq h))
          · exact .inr (.inl (replyError_eq h))
      all_goals
        cases h
        exact .inl rfl

/-- **A message is told exactly**, after at most one response. -/
theorem processStunMessage_tells {c : Crypto} {msg : Message} {overread : Authentication}
    (h : s.processStunMessage c msg tuple overread = .ok s') :
    ∃ msgs, msgs.length ≤ 1 ∧ s.Tells tuple msgs s' := by
  rcases processStunMessage_eq h with rfl | ⟨response, rfl⟩ | ⟨-, response, h⟩
  · exact ⟨[], Nat.zero_le 1, .refl⟩
  · exact ⟨[response], Nat.le_refl 1, Tells.notify .refl⟩
  · exact ⟨[response], Nat.le_refl 1, (handleTuple_tells h).notify⟩

/-- What is found first is erased. -/
theorem not_mem_eraseP_of_find? {p : Nat × Tuple → Bool} {l : List (Nat × Tuple)} {x : Nat × Tuple}
    (hnodup : (l.map (·.1)).Nodup) (hx : l.find? p = some x) : x.1 ∉ (l.eraseP p).map (·.1) := by
  induction l with
  | nil => cases hx
  | cons a l ih =>
      obtain ⟨ha, hnodup⟩ := List.nodup_cons.1 hnodup
      cases hp : p a with
      | true =>
          rw [List.find?_cons_of_pos hp] at hx
          cases hx
          rw [List.eraseP_cons_of_pos hp]
          exact ha
      | false =>
          have hp' : ¬ p a = true := by rw [hp]; exact Bool.false_ne_true
          rw [List.find?_cons_of_neg hp'] at hx
          rw [List.eraseP_cons_of_neg hp', List.map_cons, List.mem_cons, not_or]
          refine ⟨fun heq => ha ?_, ih hnodup hx⟩
          exact List.mem_map.2 ⟨x, List.mem_of_find?_eq_some hx, heq⟩

/-- A tuple is removed, and what becomes of the selected tuple is told. -/
theorem removeTuple_tells (hinv : s.Inv) (tuple : Tuple) : s.Tells tuple [] (s.removeTuple tuple) := by
  unfold removeTuple
  split
  · exact .refl
  case h_2 removedTuple stored hfind =>
    dsimp only
    split
    · exact .of_eq rfl rfl rfl
    case isFalse hselected =>
      have hsome : s.selectedTuple = some removedTuple := (not_not.1 hselected).symm
      split
      case h_1 first first' rest hrest =>
        -- the tuple that is selected now is another one
        have hne : first ≠ removedTuple := by
          rintro rfl
          refine not_mem_eraseP_of_find? hinv.nodup hfind ?_
          rw [hrest, List.map_cons]
          exact List.mem_cons_self
        refine tells_setSelectedTuple first rfl ?_ rfl
        rw [hsome]
        exact iff_of_false nofun fun heq => hne (Option.some.inj heq)
      case h_2 hrest =>
        have hne : IceState.disconnected ≠ s.state := by
          intro heq
          have hconnected := hinv.connected_iff.2 (List.ne_nil_of_mem (List.mem_of_find?_eq_some hfind))
          rw [← heq] at hconnected
          rcases hconnected with h | h <;> cases h
        refine ⟨?_, nofun⟩
        rw [stateCalls_of_ne hne]
        unfold selectedCalls
        rw [if_neg (fun heq => by rw [hsome] at heq; cases heq)]
        rfl

/-- `ForceSelectedTuple` selects a tuple. -/
theorem forceSelectedTuple_eq (h : s.forceSelectedTuple tuple = .ok s') : ∃ n, s' = s.setSelectedTuple n := by
  unfold forceSelectedTuple at h
  obtain ⟨-, -, h⟩ := Checked.bind_eq_ok.1 h
  obtain ⟨found, -, h⟩ := Checked.bind_eq_ok.1 h
  cases found with
  | none => cases h
  | some n =>
      cases h
      exact ⟨n, rfl⟩

/-- A tuple that is forced is told. -/
theorem forceSelectedTuple_tells (h : s.forceSelectedTuple tuple = .ok s') : s.Tells tuple [] s' := by
  obtain ⟨n, rfl⟩ := forceSelectedTuple_eq h
  exact tells_setSelectedTuple n rfl .rfl rfl

/-- A tuple that is forced does not change the state. -/
theorem forceSelectedTuple_state (h : s.forceSelectedTuple tuple = .ok s') : s'.state = s.state := by
  obtain ⟨n, rfl⟩ := forceSelectedTuple_eq h
  exact setSelectedTuple_state n

/-- The first tuple is stored. -/
theorem handleFirstTuple_tuples {name : String} {hasUseCandidate : Bool}
    (h : s.handleFirstTuple name tuple hasUseCandidate = .ok s') :
    ∀ storedTuple ∈ s'.tuples, storedTuple ∈ s.tuples ∨ storedTuple = (s.nodes, tuple) := by
  unfold handleFirstTuple at h
  obtain ⟨-, -, h⟩ := Checked.bind_eq_ok.1 h
  obtain ⟨-, -, h⟩ := Checked.bind_eq_ok.1 h
  have htuples : s'.tuples = (s.nodes, tuple) :: s.tuples := by
    cases hasUseCandidate with
    | true =>
        cases h
        exact setSelectedTuple_tuples _
    | false =>
        cases h
        exact setSelectedTuple_tuples _
  intro storedTuple hmem
  rw [htuples] at hmem
  rcases List.mem_cons.1 hmem with rfl | hmem
  · exact .inr rfl
  · exact .inl hmem

/-- `HandleTuple` stores no other tuple than its own. -/
theorem handleTuple_tuples {hasUseCandidate : Bool} (h : s.handleTuple tuple hasUseCandidate = .ok s') :
    ∀ storedTuple ∈ s'.tuples, storedTuple ∈ s.tuples ∨ storedTuple = (s.nodes, tuple) := by
  unfold handleTuple at h
  split at h
  · exact handleFirstTuple_tuples h
  · exact handleFirstTuple_tuples h
  all_goals
    obtain ⟨-, -, h⟩ := Checked.bind_eq_ok.1 h
    obtain ⟨⟨s₁, n⟩, hstore, h⟩ := Checked.bind_eq_ok.1 h
    obtain ⟨-, -, -, htuples⟩ := storeTuple_kept hstore
    have heq : s'.tuples = s₁.tuples := by
      cases hasUseCandidate with
      | true =>
          cases h
          exact setSelectedTuple_tuples _
      | false =>
          cases h
          rfl
    rw [heq]
    exact htuples

/-- **Only an authenticated message stores its tuple.** -/
theorem processStunMessage_tuples {c : Crypto} {msg : Message} {overread : Authentication}
    (h : s.processStunMessage c msg tuple overread = .ok s') :
    ∀ storedTuple ∈ s'.tuples, storedTuple ∈ s.tuples ∨
      (storedTuple = (s.nodes, tuple) ∧ s.Authenticated c msg overread) := by
  rcases processStunMessage_eq h with rfl | ⟨response, rfl⟩ | ⟨hauth, response, h⟩
  · exact fun _ hmem => .inl hmem
  · exact fun _ hmem => .inl hmem
  · exact fun storedTuple hmem =>
      (handleTuple_tuples h storedTuple hmem).imp_right fun heq => ⟨heq, hauth⟩

/-- Tuples that compare equal to a tuple compare equal to each other. -/
theorem compare_of_compare {a b : Tuple} (ha : a.compare tuple = true) (hb : b.compare tuple = true) :
    a.compare b = true := by
  have haddresses : ∀ {a b c : RemoteAddr}, compareAddresses a c = true → compareAddresses b c = true →
      compareAddresses a b = true := by
    intro a b c
    cases a <;> cases b <;> cases c <;> simp [compareAddresses] <;> grind
  cases a <;> cases b <;> cases tuple <;> simp only [Tuple.compare, Bool.false_eq_true, Bool.and_eq_true,
    beq_iff_eq] at ha hb ⊢
  · exact ⟨ha.1.trans hb.1.symm, haddresses ha.2 hb.2⟩
  · exact ha.trans hb.symm

/-- No tuple is left that compares equal to the one that was removed. -/
theorem removeTuple_compare (hinv : s.Inv) (tuple : Tuple) :
    ∀ storedTuple ∈ (s.removeTuple tuple).tuples, storedTuple.2.compare tuple = false := by
  have herased : ∀ l : List (Nat × Tuple), (l.Pairwise fun a b => a.2.compare b.2 = false) →
      ∀ storedTuple ∈ l.eraseP fun storedTuple => storedTuple.2.compare tuple,
        storedTuple.2.compare tuple = false := by
    intro l
    induction l with
    | nil => exact fun _ storedTuple hmem => absurd hmem List.not_mem_nil
    | cons a l ih =>
        intro hdifferent
        obtain ⟨ha, hl⟩ := List.pairwise_cons.1 hdifferent
        cases hcompare : a.2.compare tuple with
        | true =>
            rw [List.eraseP_cons_of_pos (by exact hcompare)]
            intro storedTuple hmem
            by_contra htrue
            rw [Bool.not_eq_false] at htrue
            exact absurd ((ha storedTuple hmem).symm.trans (compare_of_compare hcompare htrue))
              Bool.false_ne_true
        | false =>
            rw [List.eraseP_cons_of_neg (by rw [hcompare]; exact Bool.false_ne_true)]
            exact List.forall_mem_cons.2 ⟨hcompare, ih hl⟩
  unfold removeTuple
  split
  case h_1 hnone =>
    intro storedTuple hmem
    exact Bool.eq_false_iff.2 (List.find?_eq_none.1 hnone storedTuple hmem)
  · dsimp only
    split
    · exact herased s.tuples hinv.different
    · split
      · rw [setSelectedTuple_tuples]
        exact herased s.tuples hinv.different
      · exact herased s.tuples hinv.different

/-- `RemoveTuple` stores none. -/
theorem removeTuple_tuples (s : IceServer) (tuple : Tuple) :
    ∀ storedTuple ∈ (s.removeTuple tuple).tuples, storedTuple ∈ s.tuples := by
  unfold removeTuple
  split
  · exact fun _ hmem => hmem
  · dsimp only
    split
    · exact fun _ hmem => List.mem_of_mem_eraseP hmem
    · split
      · intro storedTuple hmem
        rw [setSelectedTuple_tuples] at hmem
        exact List.mem_of_mem_eraseP hmem
      · exact fun _ hmem => List.mem_of_mem_eraseP hmem

/-- `ForceSelectedTuple` stores none and removes none. -/
theorem forceSelectedTuple_tuples (h : s.forceSelectedTuple tuple = .ok s') : s'.tuples = s.tuples := by
  obtain ⟨n, rfl⟩ := forceSelectedTuple_eq h
  exact setSelectedTuple_tuples n

/-- The selected tuple is the same if its node is. -/
theorem lookup_selectedTuple (hs : s.Inv) (hs' : s'.Inv)
    (htuples : ∀ storedTuple ∈ s'.tuples, storedTuple ∈ s.tuples ∨ storedTuple.1 = s.nodes)
    (hselected : s'.selectedTuple = s.selectedTuple) :
    (s'.selectedTuple.bind fun node => s'.tuples.lookup node) =
      s.selectedTuple.bind fun node => s.tuples.lookup node := by
  cases hnode : s.selectedTuple with
  | none => rw [hselected, hnode]; rfl
  | some node =>
      rw [hselected, hnode]
      obtain ⟨stored, hmem⟩ := hs.selected_mem node hnode
      obtain ⟨stored', hmem'⟩ := hs'.selected_mem node (hselected.trans hnode)
      have hold : (node, stored') ∈ s.tuples :=
        (htuples _ hmem').resolve_right fun heq =>
          Nat.ne_of_lt (hs.fresh (node, stored) hmem) heq
      change s'.tuples.lookup node = s.tuples.lookup node
      rw [(Table.lookup_eq_some_iff hs'.nodup).2 hmem', (Table.lookup_eq_some_iff hs.nodup).2 hold]

/-- What is found compares equal to the tuple. -/
theorem compare_of_hasTuple {node : Nat} (h : s.hasTuple tuple = .ok (some node)) :
    ∃ stored, (node, stored) ∈ s.tuples ∧ stored.compare tuple = true := by
  unfold hasTuple at h
  split at h
  · cases h
  case h_2 selectedTuple hselected =>
    unfold tupleAt at h
    cases hlookup : s.tuples.lookup selectedTuple with
    | none =>
        rw [hlookup] at h
        cases h
    | some stored =>
        rw [hlookup] at h
        obtain ⟨l₁, l₂, hsplit, -⟩ := List.lookup_eq_some_iff.1 hlookup
        have hmem : (selectedTuple, stored) ∈ s.tuples := by
          rw [hsplit]
          exact List.mem_append_right _ List.mem_cons_self
        rw [Checked.ok_bind] at h
        split at h
        case isTrue hcompare =>
          cases h
          exact ⟨stored, hmem, hcompare⟩
        case isFalse =>
          cases hfind : s.tuples.find? fun storedTuple => storedTuple.2.compare tuple with
          | none =>
              rw [hfind] at h
              cases h
          | some found =>
              rw [hfind] at h
              cases h
              have hcompare := List.find?_some hfind
              exact ⟨found.2, List.mem_of_find?_eq_some hfind, hcompare⟩

/-- A valid tuple compares equal to a stored one. -/
theorem exists_of_isValidTuple (h : s.isValidTuple tuple = .ok true) :
    ∃ storedTuple ∈ s.tuples, storedTuple.2.compare tuple = true := by
  unfold isValidTuple at h
  cases hfound : s.hasTuple tuple with
  | error fault =>
      rw [hfound] at h
      cases h
  | ok found =>
      rw [hfound] at h
      cases found with
      | none => cases h
      | some node =>
          obtain ⟨stored, hmem, hcompare⟩ := compare_of_hasTuple hfound
          exact ⟨(node, stored), hmem, hcompare⟩

/-- The tuple that is forced compares equal to the one that is selected. -/
theorem forceSelectedTuple_compare (h : s.forceSelectedTuple tuple = .ok s') :
    ∃ node stored, s'.selectedTuple = some node ∧ (node, stored) ∈ s'.tuples ∧
      stored.compare tuple = true := by
  unfold forceSelectedTuple at h
  obtain ⟨-, -, h⟩ := Checked.bind_eq_ok.1 h
  obtain ⟨found, hfound, h⟩ := Checked.bind_eq_ok.1 h
  cases found with
  | none => cases h
  | some node =>
      cases h
      obtain ⟨stored, hmem, hcompare⟩ := compare_of_hasTuple hfound
      refine ⟨node, stored, setSelectedTuple_selectedTuple node, ?_, hcompare⟩
      rw [setSelectedTuple_tuples]
      exact hmem

/-! ## The invariant, for calls that return -/

/-- A STUN message keeps the invariant. -/
theorem Inv.of_processStunMessage (hinv : s.Inv) {c : Crypto} {msg : Message} {overread : Authentication}
    (h : s.processStunMessage c msg tuple overread = .ok s') : s'.Inv := by
  obtain ⟨s₁, hs₁, hinv₁⟩ := hinv.processStunMessage c msg tuple overread
  cases hs₁.symm.trans h
  exact hinv₁

/-- A tuple that is forced keeps the invariant. -/
theorem Inv.of_forceSelectedTuple (hinv : s.Inv) (h : s.forceSelectedTuple tuple = .ok s') : s'.Inv := by
  obtain ⟨found, hfound, -, hsome⟩ := hinv.hasTuple_spec tuple
  unfold forceSelectedTuple at h
  obtain ⟨-, -, h⟩ := Checked.bind_eq_ok.1 h
  rw [hfound] at h
  cases found with
  | none => cases h
  | some n =>
      cases h
      exact hinv.setSelectedTuple (hsome n rfl)

end IceServer

end KoreWebsocket.Ice
