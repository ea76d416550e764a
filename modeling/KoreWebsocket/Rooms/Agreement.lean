import Mathlib

/-!
# Room agreement, abstractly

Two parties keep a set of rooms and talk over two lossless FIFO queues. One asks for a room under a
request id that is not in use and adds the room when the answer comes; the other opens and closes
rooms, answers every opening and reports every closing. A request may be given up at any time, and
then its answer, when it comes, is dropped.

The state is over arbitrary types of request ids `ι` and rooms `ρ`; `sent` and `givenUp` are ghosts.
The main results are the two halves of `Inv.quiescent`: with empty queues, the asking party's rooms
are the other's, and a room of the other that the asking party does not have was asked for under an
id that was given up.
-/

namespace KoreWebsocket.Agreement

/-- From the asking party. -/
inductive Req (ι ρ : Type*)
  | create (x : ι) (r : ρ)
  | close (r : ρ)

/-- From the other party; `answer x true` accepts and `answer x false` refuses. -/
inductive Rep (ι ρ : Type*)
  | answer (x : ι) (accepted : Bool)
  | closed (r : ρ)

/-- The two parties, what is in flight, and the history: the requests made and the ids given up. -/
@[ext] structure State (ι ρ : Type*) where
  pend : Set (ι × ρ)
  rooms : Set ρ
  toWorker : List (Req ι ρ)
  toKore : List (Rep ι ρ)
  worker : Set ρ
  sent : Set (ι × ρ)
  givenUp : Set ι

variable {ι ρ : Type*}

/-- Nothing asked, nothing open. -/
def State.empty : State ι ρ := ⟨∅, ∅, [], [], ∅, ∅, ∅⟩

/-- The pending requests but those with this id. -/
def State.forget (s : State ι ρ) (x : ι) : Set (ι × ρ) := {p ∈ s.pend | p.1 ≠ x}

/-- The steps of the protocol. -/
inductive Step : State ι ρ → State ι ρ → Prop
  | send {s} (x : ι) (r : ρ) (fresh : ∀ r', (x, r') ∉ s.pend) :
      Step s { s with pend := insert (x, r) s.pend, toWorker := s.toWorker ++ [.create x r],
                      sent := insert (x, r) s.sent }
  | ask_close {s} (r : ρ) : Step s { s with toWorker := s.toWorker ++ [.close r] }
  | opens {s x r rest} (hq : s.toWorker = .create x r :: rest) (hr : r ∉ s.worker) :
      Step s { s with toWorker := rest, worker := insert r s.worker,
                      toKore := s.toKore ++ [.answer x true] }
  | refuse {s x r rest} (hq : s.toWorker = .create x r :: rest) (hr : r ∈ s.worker) :
      Step s { s with toWorker := rest, toKore := s.toKore ++ [.answer x false] }
  | closes {s r rest} (hq : s.toWorker = .close r :: rest) (hr : r ∈ s.worker) :
      Step s { s with toWorker := rest, worker := s.worker \ {r},
                      toKore := s.toKore ++ [.closed r] }
  | close_miss {s r rest} (hq : s.toWorker = .close r :: rest) (hr : r ∉ s.worker) :
      Step s { s with toWorker := rest }
  | leave {s r rest} (hq : s.toKore = .closed r :: rest) :
      Step s { s with toKore := rest, rooms := s.rooms \ {r} }
  | drop {s x v rest} (hq : s.toKore = .answer x v :: rest) (hx : ∀ r, (x, r) ∉ s.pend) :
      Step s { s with toKore := rest }
  | join {s x r rest} (hq : s.toKore = .answer x true :: rest) (hx : (x, r) ∈ s.pend) :
      Step s { s with toKore := rest, rooms := insert r s.rooms, pend := s.forget x }
  | deny {s x r rest} (hq : s.toKore = .answer x false :: rest) (hx : (x, r) ∈ s.pend) :
      Step s { s with toKore := rest, pend := s.forget x }
  | give_up {s x r} (hx : (x, r) ∈ s.pend) :
      Step s { s with pend := s.forget x, givenUp := insert x s.givenUp }

/-! ## The invariant -/

/-- A creation of the room is under way to the worker. -/
def State.Asked (s : State ι ρ) (r : ρ) : Prop := ∃ x, .create x r ∈ s.toWorker

/-- A request for the room bore an id that some request was given up under. -/
def State.Tainted (s : State ι ρ) (r : ρ) : Prop := ∃ x ∈ s.givenUp, (x, r) ∈ s.sent

/-- The worker has the room, or will have been asked for it, or its closing comes in `post`. -/
def State.Covered (s : State ι ρ) (post : List (Rep ι ρ)) (r : ρ) : Prop :=
  r ∈ s.worker ∨ s.Asked r ∨ .closed r ∈ post

/-- The message bears the request id. -/
def Req.bears [DecidableEq ι] (x : ι) : Req ι ρ → Bool
  | .create y _ => y = x
  | .close _ => false

@[inherit_doc Req.bears]
def Rep.bears [DecidableEq ι] (x : ι) : Rep ι ρ → Bool
  | .answer y _ => y = x
  | .closed _ => false

/-- The number of messages in flight that bear the request id. -/
def State.inFlight [DecidableEq ι] (s : State ι ρ) (x : ι) : Nat :=
  s.toWorker.countP (Req.bears x) + s.toKore.countP (Rep.bears x)

/-- The invariant. The ids that were never given up are in flight only while their request is
pending, and then once; so an answer is read by the request it belongs to. -/
structure Inv [DecidableEq ι] (s : State ι ρ) : Prop where
  pend_inj : ∀ {x r r'}, (x, r) ∈ s.pend → (x, r') ∈ s.pend → r = r'
  pend_sent : s.pend ⊆ s.sent
  create_sent : ∀ {x r}, .create x r ∈ s.toWorker → (x, r) ∈ s.sent
  rooms_covered : ∀ r ∈ s.rooms, s.Covered s.toKore r
  pend_covered : ∀ x r, (x, r) ∈ s.pend → .create x r ∈ s.toWorker ∨
    ∃ pre v post, s.toKore = pre ++ .answer x v :: post ∧ s.Covered post r
  flight_le : ∀ x ∉ s.givenUp, s.inFlight x ≤ 1
  flight_pend : ∀ x ∉ s.givenUp, 0 < s.inFlight x → ∃ r, (x, r) ∈ s.pend
  create_pend : ∀ x ∉ s.givenUp, ∀ {r}, .create x r ∈ s.toWorker → (x, r) ∈ s.pend
  worker_known : ∀ r ∈ s.worker, s.Tainted r ∨ (r ∈ s.rooms ∧ .closed r ∉ s.toKore) ∨
    ∃ x, (x, r) ∈ s.pend ∧ ∃ pre post, s.toKore = pre ++ .answer x true :: post ∧ .closed r ∉ post

/-- A message that is not the head of the queue is still there when the head is read. -/
theorem split_tail {α : Type*} {a b : α} {rest pre post : List α} (hab : a ≠ b)
    (h : a :: rest = pre ++ b :: post) : ∃ pre', pre = a :: pre' ∧ rest = pre' ++ b :: post := by
  rcases List.cons_eq_append_iff.1 h with ⟨-, h2⟩ | h2
  · exact absurd (List.cons.inj h2).1.symm hab
  · exact h2

theorem State.Covered.imp {s s' : State ι ρ} {post post' : List (Rep ι ρ)} {r : ρ}
    (h : s.Covered post r) (hw : r ∈ s.worker → s'.Covered post' r)
    (ha : s.Asked r → s'.Covered post' r) (hc : .closed r ∈ post → .closed r ∈ post') :
    s'.Covered post' r := by
  rcases h with h | h | h
  · exact hw h
  · exact ha h
  · exact .inr (.inr (hc h))

/-- When a creation is read, its room is open from then on. -/
theorem State.Asked.read {s s' : State ι ρ} {x : ι} {r r' : ρ} {rest : List (Req ι ρ)}
    {post : List (Rep ι ρ)} (h : s.Asked r') (hq : s.toWorker = .create x r :: rest)
    (hr : r ∈ s'.worker) (hs : s'.toWorker = rest) : s'.Covered post r' := by
  obtain ⟨y, hy⟩ := h
  rw [hq] at hy
  rcases List.mem_cons.1 hy with hy | hy
  · cases hy; exact .inl hr
  · exact .inr (.inl ⟨y, hs ▸ hy⟩)

/-! ## The steps keep the invariant -/

section
variable [DecidableEq ι]

theorem inv_empty : Inv (State.empty : State ι ρ) := by
  constructor <;> simp [State.empty, State.inFlight]

variable {s s' : State ι ρ}

theorem Inv.send (h : Inv s) {x : ι} {r : ρ} (fresh : ∀ r', (x, r') ∉ s.pend) :
    Inv { s with pend := insert (x, r) s.pend, toWorker := s.toWorker ++ [.create x r],
                 sent := insert (x, r) s.sent } := by
  have hzero : x ∉ s.givenUp → s.inFlight x = 0 := fun hg => by
    by_contra hn
    obtain ⟨r', hr'⟩ := h.flight_pend x hg (Nat.pos_of_ne_zero hn)
    exact fresh r' hr'
  have hnone : ∀ {r'}, x ∉ s.givenUp → .create x r' ∉ s.toWorker := fun {r'} hg hm =>
    fresh r' (h.create_pend x hg hm)
  have hcov : ∀ {post r'}, s.Covered post r' →
      State.Covered { s with pend := insert (x, r) s.pend,
                             toWorker := s.toWorker ++ [.create x r],
                             sent := insert (x, r) s.sent } post r' := fun hc =>
    hc.imp .inl (fun ⟨y, hy⟩ => .inr (.inl ⟨y, List.mem_append_left _ hy⟩)) id
  exact {
    pend_inj := by
      rintro y r1 r2 (h1 | h1) (h2 | h2)
      · cases h1; cases h2; rfl
      · cases h1; exact absurd h2 (fresh _)
      · cases h2; exact absurd h1 (fresh _)
      · exact h.pend_inj h1 h2
    pend_sent := Set.insert_subset_insert h.pend_sent
    create_sent := by
      intro y r' hm
      rcases List.mem_append.1 hm with hm | hm
      · exact .inr (h.create_sent hm)
      · cases List.mem_singleton.1 hm; exact .inl rfl
    rooms_covered := fun r' hr' => hcov (h.rooms_covered r' hr')
    pend_covered := by
      rintro y r' (h1 | h1)
      · cases h1; exact .inl (List.mem_append_right _ (.head _))
      · rcases h.pend_covered y r' h1 with h2 | ⟨pre, v, post, h2, h3⟩
        · exact .inl (List.mem_append_left _ h2)
        · exact .inr ⟨pre, v, post, h2, hcov h3⟩
    flight_le := by
      intro y hg
      have := h.flight_le y hg
      simp only [State.inFlight, List.countP_append, List.countP_singleton, Req.bears] at this ⊢
      by_cases hxy : x = y
      · subst hxy
        have := hzero hg
        simp only [State.inFlight] at this
        simp; omega
      · simp [hxy]; omega
    flight_pend := by
      intro y hg hp
      by_cases hxy : x = y
      · subst hxy; exact ⟨r, .inl rfl⟩
      · simp only [State.inFlight, List.countP_append, List.countP_singleton, Req.bears, hxy,
          decide_false, Bool.false_eq_true, if_false, Nat.add_zero] at hp
        obtain ⟨r', hr'⟩ := h.flight_pend y hg hp
        exact ⟨r', .inr hr'⟩
    create_pend := by
      intro y hg r' hm
      rcases List.mem_append.1 hm with hm | hm
      · exact .inr (h.create_pend y hg hm)
      · cases List.mem_singleton.1 hm; exact .inl rfl
    worker_known := by
      intro r' hr'
      rcases h.worker_known r' hr' with ⟨y, h1, h2⟩ | h1 | ⟨y, h1, h2⟩
      · exact .inl ⟨y, h1, .inr h2⟩
      · exact .inr (.inl h1)
      · exact .inr (.inr ⟨y, .inr h1, h2⟩) }

/-- The worker reads a creation and answers it; `accepted` says whether it opens the room. Either
way the room is open afterwards. -/
theorem Inv.answer (h : Inv s) {x : ι} {r : ρ} {rest : List (Req ι ρ)} {worker' : Set ρ}
    {accepted : Bool} (hq : s.toWorker = .create x r :: rest) (hr : r ∈ worker')
    (hsub : s.worker ⊆ worker') (hnew : ∀ r' ∈ worker', r' ∈ s.worker ∨ (r' = r ∧ accepted)) :
    Inv { s with toWorker := rest, worker := worker',
                 toKore := s.toKore ++ [.answer x accepted] } := by
  have hcov : ∀ {post r'}, s.Covered post r' →
      State.Covered { s with toWorker := rest, worker := worker',
                             toKore := s.toKore ++ [.answer x accepted] }
        (post ++ [.answer x accepted]) r' := fun hc =>
    hc.imp (fun hw => .inl (hsub hw)) (fun ha => ha.read hq hr rfl) (List.mem_append_left _)
  have hfl : ∀ y, State.inFlight { s with toWorker := rest, worker := worker',
                                          toKore := s.toKore ++ [.answer x accepted] } y =
      s.inFlight y := fun y => by
    simp only [State.inFlight, hq, List.countP_append, List.countP_cons, List.countP_nil,
      Req.bears, Rep.bears]
    by_cases hxy : x = y
    · simp [hxy]; omega
    · simp [hxy]
  have hmem : ∀ {m}, m ∈ rest → m ∈ s.toWorker := fun hm => by rw [hq]; exact .tail _ hm
  have hhead : Req.create x r ∈ s.toWorker := by rw [hq]; exact .head _
  exact {
    pend_inj := h.pend_inj
    pend_sent := h.pend_sent
    create_sent := fun hm => h.create_sent (hmem hm)
    rooms_covered := fun r' hr' => hcov (h.rooms_covered r' hr')
    pend_covered := by
      intro y r' hp
      rcases h.pend_covered y r' hp with h2 | ⟨pre, v, post, h2, h3⟩
      · rw [hq] at h2
        rcases List.mem_cons.1 h2 with h2 | h2
        · cases h2; exact .inr ⟨s.toKore, accepted, [], rfl, .inl hr⟩
        · exact .inl h2
      · exact .inr ⟨pre, v, _, by simp [h2], hcov h3⟩
    flight_le := by
      intro y hg
      rw [hfl]
      exact h.flight_le y hg
    flight_pend := by
      intro y hg hp
      rw [hfl] at hp
      exact h.flight_pend y hg hp
    create_pend := fun y hg _ hm => h.create_pend y hg (hmem hm)
    worker_known := by
      intro r' hr'
      rcases hnew r' hr' with hr' | ⟨rfl, rfl⟩
      · rcases h.worker_known r' hr' with h1 | ⟨h1, h2⟩ | ⟨y, h1, pre, post, h2, h3⟩
        · exact .inl h1
        · exact .inr (.inl ⟨h1, by simpa using h2⟩)
        · exact .inr (.inr
            ⟨y, h1, pre, post ++ [.answer x accepted], by simp [h2], by simpa using h3⟩)
      · by_cases hg : x ∈ s.givenUp
        · exact .inl ⟨x, hg, h.create_sent hhead⟩
        · exact .inr (.inr ⟨x, h.create_pend x hg hhead, s.toKore, [], rfl, List.not_mem_nil⟩) }

/-- The worker closes a room it has, and reports it. -/
theorem Inv.closes (h : Inv s) {r : ρ} {rest : List (Req ι ρ)}
    (hq : s.toWorker = .close r :: rest) :
    Inv { s with toWorker := rest, worker := s.worker \ {r},
                 toKore := s.toKore ++ [.closed r] } := by
  have hmem : ∀ {x r'}, .create x r' ∈ s.toWorker → .create x r' ∈ rest := fun hm => by
    rw [hq] at hm; simpa using hm
  have hmem' : ∀ {m}, m ∈ rest → m ∈ s.toWorker := fun hm => by rw [hq]; exact .tail _ hm
  have hcov : ∀ {post r'}, s.Covered post r' →
      State.Covered { s with toWorker := rest, worker := s.worker \ {r},
                             toKore := s.toKore ++ [.closed r] } (post ++ [.closed r]) r' :=
    fun {post r'} hc => hc.imp
      (fun hw => by
        by_cases hrr : r' = r
        · subst hrr; exact .inr (.inr (by simp))
        · exact .inl ⟨hw, hrr⟩)
      (fun ⟨y, hy⟩ => .inr (.inl ⟨y, hmem hy⟩)) (List.mem_append_left _)
  have hfl : ∀ y, State.inFlight { s with toWorker := rest, worker := s.worker \ {r},
                                          toKore := s.toKore ++ [.closed r] } y = s.inFlight y :=
    fun y => by simp [State.inFlight, hq, List.countP_append, Req.bears, Rep.bears]
  exact {
    pend_inj := h.pend_inj
    pend_sent := h.pend_sent
    create_sent := fun hm => h.create_sent (hmem' hm)
    rooms_covered := fun r' hr' => hcov (h.rooms_covered r' hr')
    pend_covered := by
      intro y r' hp
      rcases h.pend_covered y r' hp with h2 | ⟨pre, v, post, h2, h3⟩
      · exact .inl (hmem h2)
      · exact .inr ⟨pre, v, _, by simp [h2], hcov h3⟩
    flight_le := by
      intro y hg
      rw [hfl]
      exact h.flight_le y hg
    flight_pend := by
      intro y hg hp
      rw [hfl] at hp
      exact h.flight_pend y hg hp
    create_pend := fun y hg _ hm => h.create_pend y hg (hmem' hm)
    worker_known := by
      rintro r' ⟨hr', hne⟩
      have hne : r' ≠ r := hne
      rcases h.worker_known r' hr' with h1 | ⟨h1, h2⟩ | ⟨y, h1, pre, post, h2, h3⟩
      · exact .inl h1
      · exact .inr (.inl ⟨h1, by simpa [hne] using h2⟩)
      · exact .inr (.inr ⟨y, h1, pre, post ++ [.closed r], by simp [h2], by simpa [hne] using h3⟩) }

/-- Requests that open nothing come and go freely. -/
theorem Inv.of_creates (h : Inv s) {q : List (Req ι ρ)}
    (hc : ∀ x r, .create x r ∈ q ↔ .create x r ∈ s.toWorker)
    (hn : ∀ x, q.countP (Req.bears x) = s.toWorker.countP (Req.bears x)) :
    Inv { s with toWorker := q } := by
  have hcov : ∀ {post r'}, s.Covered post r' →
      State.Covered { s with toWorker := q } post r' := fun hk =>
    hk.imp .inl (fun ⟨y, hy⟩ => .inr (.inl ⟨y, (hc _ _).2 hy⟩)) id
  have hfl : ∀ y, State.inFlight { s with toWorker := q } y = s.inFlight y := fun y => by
    rw [State.inFlight, State.inFlight, hn]
  exact {
    pend_inj := h.pend_inj
    pend_sent := h.pend_sent
    create_sent := fun hm => h.create_sent ((hc _ _).1 hm)
    rooms_covered := fun r' hr' => hcov (h.rooms_covered r' hr')
    pend_covered := by
      intro y r' hp
      rcases h.pend_covered y r' hp with h2 | ⟨pre, v, post, h2, h3⟩
      · exact .inl ((hc _ _).2 h2)
      · exact .inr ⟨pre, v, post, h2, hcov h3⟩
    flight_le := by
      intro y hg
      rw [hfl]
      exact h.flight_le y hg
    flight_pend := by
      intro y hg hp
      rw [hfl] at hp
      exact h.flight_pend y hg hp
    create_pend := fun y hg _ hm => h.create_pend y hg ((hc _ _).1 hm)
    worker_known := h.worker_known }

/-- Kore reads that a room was closed. -/
theorem Inv.leave (h : Inv s) {r : ρ} {rest : List (Rep ι ρ)} (hq : s.toKore = .closed r :: rest) :
    Inv { s with toKore := rest, rooms := s.rooms \ {r} } := by
  have hfl : ∀ y, State.inFlight { s with toKore := rest, rooms := s.rooms \ {r} } y =
      s.inFlight y := fun y => by
    simp [State.inFlight, hq, Rep.bears]
  exact {
    pend_inj := h.pend_inj
    pend_sent := h.pend_sent
    create_sent := h.create_sent
    rooms_covered := by
      rintro r' ⟨hr', hne⟩
      have hne : r' ≠ r := hne
      refine (h.rooms_covered r' hr').imp .inl (fun ha => .inr (.inl ha)) fun hc => ?_
      rw [hq] at hc; simpa [hne] using hc
    pend_covered := by
      intro y r' hp
      rcases h.pend_covered y r' hp with h2 | ⟨pre, v, post, h2, h3⟩
      · exact .inl h2
      · obtain ⟨pre', -, h4⟩ := split_tail (by simp) (hq ▸ h2)
        exact .inr ⟨pre', v, post, h4, h3⟩
    flight_le := by
      intro y hg
      rw [hfl]
      exact h.flight_le y hg
    flight_pend := by
      intro y hg hp
      rw [hfl] at hp
      exact h.flight_pend y hg hp
    create_pend := h.create_pend
    worker_known := by
      intro r' hr'
      rcases h.worker_known r' hr' with h1 | ⟨h1, h2⟩ | ⟨y, h1, pre, post, h2, h3⟩
      · exact .inl h1
      · rw [hq, List.mem_cons, not_or] at h2
        exact .inr (.inl ⟨⟨h1, fun he => h2.1 (by rw [he])⟩, h2.2⟩)
      · obtain ⟨pre', -, h4⟩ := split_tail (by simp) (hq ▸ h2)
        exact .inr (.inr ⟨y, h1, pre', post, h4, h3⟩) }

/-- Kore reads an answer under the id `x`: the request with that id, if one is pending, is over.
Only an accepted one may add a room, and it must when the answer is its own. -/
theorem Inv.read (h : Inv s) {x : ι} {v : Bool} {rest : List (Rep ι ρ)} {rooms' : Set ρ}
    (hq : s.toKore = .answer x v :: rest) (hsub : s.rooms ⊆ rooms')
    (hnew : ∀ r ∈ rooms', r ∈ s.rooms ∨ (x, r) ∈ s.pend)
    (hjoin : v = true → ∀ r, (x, r) ∈ s.pend → r ∈ rooms') :
    Inv { s with toKore := rest, rooms := rooms', pend := s.forget x } := by
  have hfl : ∀ y, s.inFlight y = State.inFlight { s with toKore := rest, rooms := rooms',
                                                         pend := s.forget x } y +
      if x = y then 1 else 0 := fun y => by
    simp only [State.inFlight, hq, List.countP_cons, Rep.bears]
    by_cases hxy : x = y
    · simp [hxy]; omega
    · simp [hxy]
  -- an id that was never given up has no other message in flight
  have hlast : x ∉ s.givenUp → s.toWorker.countP (Req.bears x) = 0 ∧
      rest.countP (Rep.bears x) = 0 := fun hg => by
    have h1 := h.flight_le x hg
    rw [hfl, if_pos rfl, State.inFlight] at h1
    dsimp only at h1
    omega
  have hne : ∀ {y r' : _}, (y, r') ∈ s.pend → y ≠ x → ((y, r') : ι × ρ) ∈ s.forget x :=
    fun hp hyx => ⟨hp, hyx⟩
  exact {
    pend_inj := fun h1 h2 => h.pend_inj h1.1 h2.1
    pend_sent := fun p hp => h.pend_sent hp.1
    create_sent := h.create_sent
    rooms_covered := by
      intro r hr
      rcases hnew r hr with hr | hp
      · refine (h.rooms_covered r hr).imp .inl (fun ha => .inr (.inl ha)) fun hc => ?_
        rw [hq] at hc; simpa using hc
      · rcases h.pend_covered x r hp with h2 | ⟨pre, w, post, h2, h3⟩
        · exact .inr (.inl ⟨x, h2⟩)
        · refine h3.imp .inl (fun ha => .inr (.inl ha)) fun hc => ?_
          rw [hq] at h2
          rcases List.cons_eq_append_iff.1 h2 with ⟨-, h4⟩ | ⟨pre', -, h4⟩
          · rw [← (List.cons.inj h4).2]; exact hc
          · show _ ∈ rest
            rw [h4]; simp [hc]
    pend_covered := by
      rintro y r' ⟨hp, hyx⟩
      have hyx : y ≠ x := hyx
      rcases h.pend_covered y r' hp with h2 | ⟨pre, w, post, h2, h3⟩
      · exact .inl h2
      · obtain ⟨pre', -, h4⟩ := split_tail (by simp [hyx.symm]) (hq ▸ h2)
        exact .inr ⟨pre', w, post, h4, h3⟩
    flight_le := by
      intro y hg
      have := h.flight_le y hg
      rw [hfl] at this
      exact Nat.le_trans (Nat.le_add_right _ _) this
    flight_pend := by
      intro y hg hp
      by_cases hxy : x = y
      · subst hxy
        rw [State.inFlight, (hlast hg).1, (hlast hg).2] at hp
        exact absurd hp (Nat.lt_irrefl 0)
      · obtain ⟨r', hr'⟩ := h.flight_pend y hg (by rw [hfl, if_neg hxy]; exact hp)
        exact ⟨r', hne hr' (Ne.symm hxy)⟩
    create_pend := by
      intro y hg r' hm
      refine hne (h.create_pend y hg hm) ?_
      rintro rfl
      exact absurd ((List.countP_eq_zero.1 (hlast hg).1) _ hm) (by simp [Req.bears])
    worker_known := by
      intro r' hr'
      rcases h.worker_known r' hr' with h1 | ⟨h1, h2⟩ | ⟨y, h1, pre, post, h2, h3⟩
      · exact .inl h1
      · rw [hq, List.mem_cons, not_or] at h2
        exact .inr (.inl ⟨hsub h1, h2.2⟩)
      · rw [hq] at h2
        by_cases hyx : y = x
        · subst hyx
          by_cases hg : y ∈ s.givenUp
          · exact .inl ⟨y, hg, h.pend_sent h1⟩
          · rcases List.cons_eq_append_iff.1 h2 with ⟨-, h4⟩ | ⟨pre', -, h4⟩
            · obtain ⟨h5, h6⟩ := List.cons.inj h4
              cases h5
              exact .inr (.inl ⟨hjoin rfl r' h1, h6 ▸ h3⟩)
            · have := List.countP_eq_zero.1 (hlast hg).2 (.answer y true) (by rw [h4]; simp)
              exact absurd this (by simp [Rep.bears])
        · obtain ⟨pre', -, h4⟩ := split_tail (by simp [Ne.symm hyx]) h2
          exact .inr (.inr ⟨y, hne h1 hyx, pre', post, h4, h3⟩) }

/-- A request is given up. -/
theorem Inv.give_up (h : Inv s) (x : ι) :
    Inv { s with pend := s.forget x, givenUp := insert x s.givenUp } := by
  exact {
    pend_inj := fun h1 h2 => h.pend_inj h1.1 h2.1
    pend_sent := fun p hp => h.pend_sent hp.1
    create_sent := h.create_sent
    rooms_covered := h.rooms_covered
    pend_covered := fun y r hp => h.pend_covered y r hp.1
    flight_le := fun y hg => h.flight_le y fun hy => hg (.inr hy)
    flight_pend := by
      intro y hg hp
      obtain ⟨r, hr⟩ := h.flight_pend y (fun hy => hg (.inr hy)) hp
      exact ⟨r, hr, fun he => hg (.inl he)⟩
    create_pend := fun y hg _ hm =>
      ⟨h.create_pend y (fun hy => hg (.inr hy)) hm, fun he => hg (.inl he)⟩
    worker_known := by
      intro r hr
      rcases h.worker_known r hr with ⟨y, h1, h2⟩ | h1 | ⟨y, h1, h2⟩
      · exact .inl ⟨y, .inr h1, h2⟩
      · exact .inr (.inl h1)
      · by_cases hyx : y = x
        · exact .inl ⟨y, .inl hyx, h.pend_sent h1⟩
        · exact .inr (.inr ⟨y, ⟨h1, hyx⟩, h2⟩) }

/-- **Every step keeps the invariant.** -/
theorem Inv.step (h : Inv s) (hst : Step s s') : Inv s' := by
  cases hst with
  | send x r fresh => exact h.send fresh
  | ask_close r =>
      exact h.of_creates (by simp) fun x => by simp [List.countP_append, Req.bears]
  | opens hq hr =>
      exact h.answer hq (.inl rfl) (Set.subset_insert _ _)
        fun r' hr' => hr'.elim (fun he => .inr ⟨he, rfl⟩) .inl
  | refuse hq hr => exact h.answer hq hr (Set.Subset.refl _) fun _ => .inl
  | closes hq hr => exact h.closes hq
  | close_miss hq hr => exact h.of_creates (by simp [hq]) fun x => by simp [hq, Req.bears]
  | leave hq => exact h.leave hq
  | @drop x _ _ hq hx =>
      have hf : s.forget x = s.pend := Set.sep_eq_self_iff_mem_true.2 fun p hp he =>
        hx p.2 (he ▸ hp)
      have := h.read hq (Set.Subset.refl _) (fun _ => .inl) fun _ r hr => absurd hr (hx r)
      rw [hf] at this; exact this
  | join hq hx =>
      refine h.read hq (Set.subset_insert _ _) ?_ fun _ r hr => .inl (h.pend_inj hr hx)
      rintro r (rfl | hr)
      · exact .inr hx
      · exact .inl hr
  | deny hq hx => exact h.read hq (Set.Subset.refl _) (fun _ => .inl) fun he => by cases he
  | give_up hx => exact h.give_up _

/-- With the queues empty, the asking party's rooms are open, and an open room it does not have was
asked for under an id that was given up. -/
theorem Inv.quiescent {s : State ι ρ} (h : Inv s) (hw : s.toWorker = []) (hk : s.toKore = []) :
    s.rooms ⊆ s.worker ∧ ∀ r ∈ s.worker, r ∈ s.rooms ∨ s.Tainted r := by
  constructor
  · intro r hr
    rcases h.rooms_covered r hr with h1 | ⟨x, h1⟩ | h1
    · exact h1
    · rw [hw] at h1; cases h1
    · rw [hk] at h1; cases h1
  · intro r hr
    rcases h.worker_known r hr with h1 | ⟨h1, -⟩ | ⟨x, -, pre, post, h1, -⟩
    · exact .inr h1
    · exact .inl h1
    · rw [hk] at h1; simp at h1

end

end KoreWebsocket.Agreement
